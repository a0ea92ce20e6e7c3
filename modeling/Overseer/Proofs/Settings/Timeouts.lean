import Overseer.Proofs.Text.Numerals
import Overseer.Settings

/-!
# Durations from the environment

Three durations are counts of their units in a variable.  A count is taken exactly as it is
written, anything else that is not blank is reported and ignored, and no other variable has
a say.
-/

namespace Overseer

theorem Notice.line_settingIgnored (setting value : String) :
    (Notice.settingIgnored setting value).line =
      "WARN Ignoring invalid " ++ setting ++ "=" ++ Quoted.quote value := by
  have begins : "WARN Ignoring invalid " = "WARN" ++ " " ++ "Ignoring invalid " := by decide
  rw [begins]
  unfold Notice.line Notice.message
  -- The level and the words of the message stay apart, so that both sides are regrouped alike.
  simp only [String.append_assoc, -String.reduceAppend]
  rfl

namespace Environment

/-- A variable gives a number: its value is a text that writes the number, with blanks
around it, and the number is below 2^64. -/
def Gives (environment : Environment) (setting : Variable) (number : Nat) : Prop :=
  number < UInt64.size ∧
    ∃ text, environment.value? setting.name = some (Utf8.encode text) ∧
      Numeral.WritesPadded number text.toList

/-- A variable has a text for its value that is not blank and gives no number. -/
def Garbles (environment : Environment) (setting : Variable) (text : String) : Prop :=
  environment.value? setting.name = some (Utf8.encode text) ∧ ¬AreBlank text.toList ∧
    ∀ number, ¬environment.Gives setting number

variable {environment other : Environment} {setting : Variable} {text : String} {number : Nat}

theorem text?_eq_some_iff :
    environment.text? setting = some text ↔
      environment.value? setting.name = some (Utf8.encode text) ∧ ¬AreBlank text.toList := by
  unfold text?
  simp only [Option.filter_eq_some_iff, Option.bind_eq_some_iff, Utf8.decode?_eq_some_iff,
    Bool.not_eq_true', List.isEmpty_eq_false_iff, ne_eq, trimBlanks_eq_nil_iff,
    exists_eq_right]

theorem numberOf?_eq_some_iff :
    numberOf? text = some number ↔
      Numeral.WritesPadded number text.toList ∧ number < UInt64.size :=
  Numeral.read?_trimBlanks_eq_some_iff

theorem gives_iff :
    environment.Gives setting number ↔
      ∃ text, environment.text? setting = some text ∧ numberOf? text = some number := by
  simp only [text?_eq_some_iff, numberOf?_eq_some_iff]
  constructor
  · rintro ⟨small, text, value, padded⟩
    exact ⟨text, ⟨value, padded.not_blank⟩, padded, small⟩
  · rintro ⟨text, ⟨value, -⟩, padded, small⟩
    exact ⟨small, text, value, padded⟩

theorem garbles_iff :
    environment.Garbles setting text ↔
      environment.text? setting = some text ∧ numberOf? text = none := by
  unfold Garbles
  rw [← and_assoc, ← text?_eq_some_iff]
  refine and_congr_right fun reads => ?_
  rw [Option.eq_none_iff_forall_ne_some]
  refine forall_congr' fun number => not_congr ?_
  rw [gives_iff, reads]
  simp

/-! ## The number of a variable -/

theorem number?_of_gives (gives : environment.Gives setting number) :
    environment.number? setting = (some number, []) := by
  obtain ⟨text, reads, counts⟩ := gives_iff.mp gives
  simp only [number?, reads, counts]

theorem number?_of_garbles (garbles : environment.Garbles setting text) :
    environment.number? setting = (none, [.settingIgnored setting.name text]) := by
  obtain ⟨reads, counts⟩ := garbles_iff.mp garbles
  simp only [number?, reads, counts]

theorem number?_of_neither (no_number : ∀ number, ¬environment.Gives setting number)
    (no_text : ∀ text, ¬environment.Garbles setting text) :
    environment.number? setting = (none, []) := by
  have absent : environment.text? setting = none := by
    rw [Option.eq_none_iff_forall_ne_some]
    intro text reads
    cases counts : numberOf? text with
    | none => exact no_text text (garbles_iff.mpr ⟨reads, counts⟩)
    | some number => exact no_number number (gives_iff.mpr ⟨text, reads, counts⟩)
  unfold number?
  rw [absent]

theorem Gives.unique {given : Nat} (gives : environment.Gives setting number)
    (also_gives : environment.Gives setting given) : number = given := by
  have same := (number?_of_gives gives).symm.trans (number?_of_gives also_gives)
  exact Option.some.inj (congrArg Prod.fst same)

theorem Garbles.unique {shown : String} (garbles : environment.Garbles setting text)
    (also_garbles : environment.Garbles setting shown) : text = shown := by
  have reads := (garbles_iff.mp garbles).1
  exact Option.some.inj (reads.symm.trans (garbles_iff.mp also_garbles).1)

/-- Only the variable itself has a say in its number. -/
theorem number?_congr
    (agree : other.value? setting.name = environment.value? setting.name) :
    other.number? setting = environment.number? setting := by
  unfold number? text?
  rw [agree]

end Environment

/-! ## The three durations -/

/-- The durations that the environment gives. -/
inductive Timeout where
  | poll
  | stop
  | connect

namespace Timeout

def setting : Timeout → Variable
  | .poll => .pollTimeout
  | .stop => .stopTimeout
  | .connect => .connectTimeout

/-- The count without a variable that gives one. -/
def default : Timeout → UInt64
  | .poll => 1000
  | .stop => 10
  | .connect => 5000

/-- The nanoseconds of what is counted. -/
def unit : Timeout → Nat
  | .poll | .connect => nanosPerMilli
  | .stop => nanosPerSecond

def ofCount : Timeout → UInt64 → Duration
  | .poll | .connect => Duration.ofMillis
  | .stop => Duration.ofSeconds

def resolve (environment : Environment) : Timeout → Duration × List Notice
  | .poll => environment.pollTimeout
  | .stop => environment.stopTimeout
  | .connect => environment.connectTimeout

variable {environment other : Environment} {number : Nat} {text : String}

theorem unit_pos (timeout : Timeout) : 0 < timeout.unit := by
  cases timeout <;> decide

theorem nanos_ofCount (timeout : Timeout) (count : UInt64) :
    (timeout.ofCount count).nanos = count.toNat * timeout.unit := by
  cases timeout <;> rfl

theorem resolve_eq (timeout : Timeout) (environment : Environment) :
    timeout.resolve environment =
      environment.duration timeout.setting timeout.ofCount timeout.default := by
  cases timeout <;> rfl

theorem resolve_of_gives {timeout : Timeout}
    (gives : environment.Gives timeout.setting number) :
    (timeout.resolve environment).1.nanos = number * timeout.unit ∧
      (timeout.resolve environment).2 = [] := by
  simp only [resolve_eq, Environment.duration, Environment.number?_of_gives gives,
    Option.map_some, Option.getD_some, nanos_ofCount, and_true]
  rw [UInt64.toNat_ofNat_of_lt' gives.1]

/-- The default stands in, and whatever notices there are about the number are kept. -/
theorem resolve_of_no_number {timeout : Timeout} {notices : List Notice}
    (reads : environment.number? timeout.setting = (none, notices)) :
    (timeout.resolve environment).1.nanos = timeout.default.toNat * timeout.unit ∧
      (timeout.resolve environment).2 = notices := by
  simp only [resolve_eq, Environment.duration, reads, Option.map_none, Option.getD_none,
    nanos_ofCount, and_self]

/-- What becomes of a variable: its number is taken, its text is reported, or it counts as
absent. -/
inductive Resolves (timeout : Timeout) (environment : Environment) : Nat → List Notice → Prop
  | taken {number : Nat} (gives : environment.Gives timeout.setting number) :
      Resolves timeout environment number []
  | reported {text : String} (garbles : environment.Garbles timeout.setting text) :
      Resolves timeout environment timeout.default.toNat
        [.settingIgnored timeout.setting.name text]
  | absent (no_number : ∀ number, ¬environment.Gives timeout.setting number)
      (no_text : ∀ text, ¬environment.Garbles timeout.setting text) :
      Resolves timeout environment timeout.default.toNat []

theorem exists_resolves (timeout : Timeout) (environment : Environment) :
    ∃ number, (timeout.resolve environment).1.nanos = number * timeout.unit ∧
      Resolves timeout environment number (timeout.resolve environment).2 := by
  by_cases number : ∃ number, environment.Gives timeout.setting number
  · obtain ⟨number, gives⟩ := number
    obtain ⟨counts, silent⟩ := resolve_of_gives gives
    exact ⟨number, counts, silent ▸ .taken gives⟩
  by_cases text : ∃ text, environment.Garbles timeout.setting text
  · obtain ⟨text, garbles⟩ := text
    obtain ⟨counts, reports⟩ := resolve_of_no_number (Environment.number?_of_garbles garbles)
    exact ⟨_, counts, reports ▸ .reported garbles⟩
  · have no_number := not_exists.mp number
    have no_text := not_exists.mp text
    obtain ⟨counts, silent⟩ :=
      resolve_of_no_number (Environment.number?_of_neither no_number no_text)
    exact ⟨_, counts, silent ▸ .absent no_number no_text⟩

variable {timeout : Timeout} {notices : List Notice}

theorem default_iff_of_no_number
    (no_number : ∀ given, ¬environment.Gives timeout.setting given) :
    timeout.default.toNat = number ↔
      environment.Gives timeout.setting number ∨
        (number = timeout.default.toNat ∧
          ∀ given, ¬environment.Gives timeout.setting given) := by
  constructor
  · rintro rfl
    exact .inr ⟨rfl, no_number⟩
  · rintro (gives | ⟨same, -⟩)
    · exact absurd gives (no_number number)
    · exact same.symm

theorem Resolves.count_iff {read : Nat}
    (resolves : Resolves timeout environment read notices) :
    read = number ↔
      environment.Gives timeout.setting number ∨
        (number = timeout.default.toNat ∧
          ∀ given, ¬environment.Gives timeout.setting given) := by
  cases resolves with
  | taken gives =>
      constructor
      · rintro rfl
        exact .inl gives
      · rintro (also_gives | ⟨-, no_number⟩)
        · exact gives.unique also_gives
        · exact absurd gives (no_number read)
  | reported garbles => exact default_iff_of_no_number garbles.2.2
  | absent no_number no_text => exact default_iff_of_no_number no_number

theorem Resolves.reports_iff {read : Nat}
    (resolves : Resolves timeout environment read notices) :
    notices = [.settingIgnored timeout.setting.name text] ↔
      environment.Garbles timeout.setting text := by
  cases resolves with
  | taken gives =>
      exact ⟨nofun, fun garbles => absurd gives (garbles.2.2 read)⟩
  | reported garbles =>
      constructor
      · intro same
        cases same
        exact garbles
      · intro also_garbles
        rw [garbles.unique also_garbles]
  | absent no_number no_text =>
      exact ⟨nofun, fun garbles => absurd garbles (no_text text)⟩

theorem Resolves.silent_iff {read : Nat}
    (resolves : Resolves timeout environment read notices) :
    notices = [] ↔ ∀ text, ¬environment.Garbles timeout.setting text := by
  cases resolves with
  | taken gives =>
      exact ⟨fun _ text garbles => garbles.2.2 read gives, fun _ => rfl⟩
  | reported garbles => exact ⟨nofun, fun no_text => absurd garbles (no_text _)⟩
  | absent no_number no_text => exact ⟨fun _ => no_text, fun _ => rfl⟩

/-- A duration is the number of its variable, counted in its unit, or else its default.
There is one warning, which shows the value as it was given, if that is a text other than
blanks and gives no number, and else there is none.  Other variables have no say. -/
theorem read_exactly_or_reported (timeout : Timeout) (environment : Environment) :
    (∀ number, (timeout.resolve environment).1.nanos = number * timeout.unit ↔
      environment.Gives timeout.setting number ∨
        (number = timeout.default.toNat ∧
          ∀ given, ¬environment.Gives timeout.setting given)) ∧
    (∀ text,
      (timeout.resolve environment).2 = [.settingIgnored timeout.setting.name text] ↔
        environment.Garbles timeout.setting text) ∧
    (∀ text, environment.Garbles timeout.setting text →
      (timeout.resolve environment).2.map Notice.line =
        ["WARN Ignoring invalid " ++ timeout.setting.name ++ "=" ++ Quoted.quote text]) ∧
    ((timeout.resolve environment).2 = [] ↔
      ∀ text, ¬environment.Garbles timeout.setting text) ∧
    ∀ other : Environment,
      other.value? timeout.setting.name = environment.value? timeout.setting.name →
        timeout.resolve other = timeout.resolve environment := by
  obtain ⟨read, counts, resolves⟩ := exists_resolves timeout environment
  refine ⟨fun number => ?_, fun text => resolves.reports_iff, fun text garbles => ?_,
    resolves.silent_iff, fun other agree => ?_⟩
  · rw [← resolves.count_iff, counts, Nat.mul_left_inj (Nat.ne_of_gt timeout.unit_pos)]
  · rw [resolves.reports_iff.mpr garbles, List.map_singleton, Notice.line_settingIgnored]
  · rw [resolve_eq, resolve_eq]
    unfold Environment.duration
    rw [Environment.number?_congr agree]

/-- A count with a thin space before it and a line feed after it is taken, one that is too
large by one is reported as it stands, and bytes that are no text count as absent. -/
theorem read_exactly_or_reported_of_three_values :
    let environment : Environment :=
      { values :=
          [("APPVISOR_STOP_TIMEOUT_SECS", [0xe2, 0x80, 0x89, 0x2b, 0x30, 0x37, 0x0a]),
            ("APPVISOR_POLL_TIMEOUT_MS",
              [0x20, 0x31, 0x38, 0x34, 0x34, 0x36, 0x37, 0x34, 0x34, 0x30, 0x37, 0x33,
                0x37, 0x30, 0x39, 0x35, 0x35, 0x31, 0x36, 0x31, 0x36]),
            ("APPVISOR_CONNECT_TIMEOUT_MS", [0x37, 0xff])]
        accountHome := none }
    environment.Gives .stopTimeout 7 ∧
      (stop.resolve environment).1 = Duration.ofSeconds 7 ∧
      environment.Garbles .pollTimeout " 18446744073709551616" ∧
      (poll.resolve environment).2.map Notice.line =
        ["WARN Ignoring invalid APPVISOR_POLL_TIMEOUT_MS=\" 18446744073709551616\""] ∧
      (∀ text, ¬environment.Garbles .connectTimeout text) ∧
      connect.resolve environment = (Duration.ofMillis 5000, []) := by
  intro environment
  have seven : (stop.resolve environment).1 = Duration.ofSeconds 7 := by decide +kernel
  have reported : (poll.resolve environment).2 =
      [.settingIgnored "APPVISOR_POLL_TIMEOUT_MS" " 18446744073709551616"] := by
    decide +kernel
  have absent : connect.resolve environment = (Duration.ofMillis 5000, []) := by
    decide +kernel
  obtain ⟨counts, _⟩ := read_exactly_or_reported stop environment
  obtain ⟨_, reports, shows, _⟩ := read_exactly_or_reported poll environment
  obtain ⟨_, _, _, silent, _⟩ := read_exactly_or_reported connect environment
  have gives : environment.Gives .stopTimeout 7 := by
    rcases (counts 7).mp (by rw [seven]; rfl) with gives | ⟨default, _⟩
    · exact gives
    · cases default
  have garbles := (reports _).mp reported
  refine ⟨gives, seven, garbles, ?_, silent.mp (by rw [absent]), absent⟩
  rw [shows _ garbles]
  decide +kernel

end Timeout

end Overseer
