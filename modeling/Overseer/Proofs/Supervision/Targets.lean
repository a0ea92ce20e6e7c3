import Overseer.Proofs.Supervision.Tenure
import Overseer.Proofs.Text.Numerals

/-!
# Whom a pidfile can have signalled

A pidfile names a process number if it is the text of a positive number of 32 bits, with
blanks around it.  A signal goes to a single process or is not sent at all: the numbers that
stand for groups of processes, or for all of them, are never handed to the system.
-/

namespace Overseer

namespace Pidfile

/-- The content of a pidfile is a text that writes a process number, with blanks around it,
and the number is not zero. -/
def Names (content : List UInt8) (number : ProcessNumber) : Prop :=
  1 ≤ number.toNat ∧
    ∃ text, content = Utf8.encode text ∧ Numeral.WritesPadded number.toNat text.toList

theorem read?_eq_some_iff {content : List UInt8} {number : ProcessNumber} :
    read? content = some number ↔ Names content number := by
  unfold read?
  simp only [Option.bind_eq_some_iff, Utf8.decode?_eq_some_iff,
    Numeral.read?_trimBlanks_eq_some_iff]
  constructor
  · rintro ⟨value, ⟨text, written, padded, small⟩, positive⟩
    split at positive
    · rename_i one_at_least
      cases positive
      have same : (UInt32.ofNat value).toNat = value := UInt32.toNat_ofNat_of_lt' small
      exact ⟨by rw [same]; exact one_at_least, text, written, by rw [same]; exact padded⟩
    · cases positive
  · rintro ⟨positive, text, written, padded⟩
    refine ⟨number.toNat, ⟨text, written, padded, number.toNat_lt⟩, ?_⟩
    rw [if_pos (show 0 < number.toNat from positive), UInt32.ofNat_toNat]

end Pidfile

/-- A number that stands for a single process: a positive number of 31 bits. -/
def ProcessNumber.IsSingle (number : ProcessNumber) : Prop :=
  1 ≤ number.toNat ∧ number.toNat ≤ 0x7FFFFFFF

variable {number : ProcessNumber} {signal : Signal}

namespace SignalCall

/-- The system is called for a single process, with its own number. -/
theorem toProcess?_eq_some_iff {signal : Option Signal} {call : SignalCall} :
    toProcess? number signal = some call ↔
      number.IsSingle ∧ call = { target := number.toNat, signal := signal } := by
  unfold toProcess?
  split
  · rename_i bounds
    have single : number.IsSingle := ⟨bounds.1, Nat.le_sub_one_of_lt bounds.2⟩
    simp [single, eq_comm]
  · rename_i bounds
    have several : ¬number.IsSingle :=
      fun single => bounds ⟨single.1, Nat.lt_of_le_sub_one (by decide) single.2⟩
    simp [several]

theorem toProcess?_eq_none_iff {signal : Option Signal} :
    toProcess? number signal = none ↔ ¬number.IsSingle := by
  rw [Option.eq_none_iff_forall_ne_some]
  constructor
  · exact fun none single => none _ (toProcess?_eq_some_iff.mpr ⟨single, rfl⟩)
  · exact fun several call called => several (toProcess?_eq_some_iff.mp called).1

theorem succeeds_iff {signal : Option Signal} {existing : Int → Bool} :
    succeeds existing (toProcess? number signal) = true ↔
      number.IsSingle ∧ existing number.toNat = true := by
  unfold succeeds
  rw [Option.any_eq_true]
  constructor
  · rintro ⟨call, called, there⟩
    obtain ⟨single, rfl⟩ := toProcess?_eq_some_iff.mp called
    exact ⟨single, there⟩
  · rintro ⟨single, there⟩
    exact ⟨_, toProcess?_eq_some_iff.mpr ⟨single, rfl⟩, there⟩

end SignalCall

namespace Site

variable {site : Site} {post sink : Nat} {application : Application}

def sent (site : Site) (post : Nat) (number : ProcessNumber) (signal : Signal) : Site :=
  let call : SignalCall := { target := number.toNat, signal := some signal }
  { site with
    host := site.host.deliver call
    signals := ⟨site.now, post, call⟩ :: site.signals }

theorem signal_of_single (single : number.IsSingle) :
    site.signal post number signal = site.sent post number signal := by
  unfold Site.signal
  rw [SignalCall.toProcess?_eq_some_iff.mpr ⟨single, rfl⟩]
  rfl

theorem signal_of_not_single (several : ¬number.IsSingle) :
    site.signal post number signal = site := by
  unfold Site.signal
  rw [SignalCall.toProcess?_eq_none_iff.mpr several]

/-- A path leads to a pidfile that names a process number. -/
def Names (site : Site) (path : String) (number : ProcessNumber) : Prop :=
  ∃ content, site.host.tree.at? path = some (.file content) ∧ Pidfile.Names content number

/-- What is no regular file names nobody. -/
theorem names_iff {path : String} :
    (site.host.tree.read? path).bind Pidfile.read? = some number ↔
      site.Names path number := by
  unfold FileTree.read?
  constructor
  · intro reads
    obtain ⟨content, found, named⟩ := Option.bind_eq_some_iff.mp reads
    refine ⟨content, ?_, Pidfile.read?_eq_some_iff.mp named⟩
    split at found
    · rename_i held
      cases found
      exact held
    · cases found
  · rintro ⟨content, held, named⟩
    rw [held]
    exact Pidfile.read?_eq_some_iff.mpr named

/-- The stop hook signals whom the pidfile names, and is silent if it names nobody. -/
theorem runHook_stop (attended : site.application? post = some application) :
    site.runHook post .stop =
      match (site.host.tree.read? application.pidfilePath).bind Pidfile.read? with
      | none => site
      | some number => site.signal post number .interrupt := by
  unfold Site.runHook
  rw [attended]
  dsimp only [Application.hookSignal]
  cases (site.host.tree.read? application.pidfilePath).bind Pidfile.read? with
  | none => rfl
  | some number => rfl

/-- Whatever stands at the path of a pidfile, and whatever its bytes are: it names the number
that it is the text of, if it names one.  A signal to that number, or to any other, is one
call for that very process; for zero and for what the system would take as negative there is
no call, and the answer is that nobody was reached.  A stop hook sends nothing but that. -/
theorem pidfile_signals_single_process (site : Site) (post : Nat) (application : Application)
    (attended : site.application? post = some application) :
    (∀ path number, (site.host.tree.read? path).bind Pidfile.read? = some number ↔
      site.Names path number) ∧
    (∀ number signal call, SignalCall.toProcess? number signal = some call ↔
      number.IsSingle ∧ call = { target := number.toNat, signal := signal }) ∧
    (∀ number signal existing,
      SignalCall.succeeds existing (SignalCall.toProcess? number signal) = true ↔
        number.IsSingle ∧ existing number.toNat = true) ∧
    (∀ number signal, number.IsSingle →
      site.signal post number signal = site.sent post number signal) ∧
    (∀ number signal, ¬number.IsSingle → site.signal post number signal = site) ∧
    (∀ number, site.Names application.pidfilePath number → number.IsSingle →
      site.runHook post .stop = site.sent post number .interrupt) ∧
    ((∀ number, site.Names application.pidfilePath number → ¬number.IsSingle) →
      site.runHook post .stop = site) := by
  refine ⟨fun _ _ => names_iff, fun _ _ _ => SignalCall.toProcess?_eq_some_iff,
    fun _ _ _ => SignalCall.succeeds_iff, fun _ _ => signal_of_single,
    fun _ _ => signal_of_not_single, ?_, ?_⟩
  · intro number named single
    rw [runHook_stop attended, names_iff.mpr named]
    exact signal_of_single single
  · intro several
    rw [runHook_stop attended]
    cases reads : (site.host.tree.read? application.pidfilePath).bind Pidfile.read? with
    | none => rfl
    | some number => exact signal_of_not_single (several number (names_iff.mp reads))

/-- An application whose pidfile holds a number with a sign, zeros and blanks. -/
def paddedSite : Site :=
  let host := Custody.plainSite.host
  let content := Utf8.encode "\t+0042\n"
  { Custody.plainSite with
    host := { host with tree := ⟨[("run", .directory [("pid", .file content)])], []⟩ } }

theorem pidfile_signals_single_process_of_padded_number :
    paddedSite.Names "/run/pid" 42 ∧
      paddedSite.runHook 0 .stop = paddedSite.sent 0 42 .interrupt := by
  let application := Charge.plainApplication { nanos := 50 } { nanos := 30 }
  have attended : paddedSite.application? 0 = some application := rfl
  obtain ⟨names, _, _, _, _, interrupts, _⟩ :=
    pidfile_signals_single_process paddedSite 0 application attended
  have named : paddedSite.Names "/run/pid" 42 := (names "/run/pid" 42).mp (by decide +kernel)
  exact ⟨named, interrupts 42 named ⟨by decide, by decide⟩⟩

/-! ## Along a run -/

/-- What a post sends goes to single processes, each signal to those that are allowed. -/
def Aims (post : Nat) (allowed : ProcessNumber → Signal → Prop) (before after : Site) : Prop :=
  ∀ dispatch ∈ after.signals, dispatch ∈ before.signals ∨ dispatch.post ≠ post ∨
    ∃ number signal, number.IsSingle ∧ allowed number signal ∧
      dispatch.call = { target := number.toNat, signal := some signal }

variable {allowed : ProcessNumber → Signal → Prop} {before after third : Site}

theorem aims_of_eq (same : after.signals = before.signals) : Aims post allowed before after := by
  intro dispatch member
  rw [same] at member
  exact .inl member

theorem Aims.trans (first : Aims post allowed before after)
    (second : Aims post allowed after third) : Aims post allowed before third := by
  intro dispatch member
  rcases second dispatch member with earlier | new
  · exact first dispatch earlier
  · exact .inr new

theorem Aims.mono {more : ProcessNumber → Signal → Prop} (aims : Aims post allowed before after)
    (included : ∀ number signal, allowed number signal → more number signal) :
    Aims post more before after := by
  intro dispatch member
  rcases aims dispatch member with earlier | foreign | ⟨number, signal, single, was, called⟩
  · exact .inl earlier
  · exact .inr (.inl foreign)
  · exact .inr (.inr ⟨number, signal, single, included number signal was, called⟩)

theorem aims_signal (permitted : allowed number signal) :
    Aims post allowed site (site.signal post number signal) := by
  by_cases single : number.IsSingle
  · rw [signal_of_single single]
    intro dispatch member
    rcases List.mem_cons.mp member with rfl | earlier
    · exact .inr (.inr ⟨number, signal, single, permitted, rfl⟩)
    · exact .inl earlier
  · rw [signal_of_not_single single]
    exact aims_of_eq rfl

theorem aims_signals {signals : List Signal}
    (permitted : ∀ signal ∈ signals, allowed number signal) :
    Aims post allowed site
      (signals.foldl (fun site signal => site.signal post number signal) site) := by
  induction signals generalizing site with
  | nil => exact aims_of_eq rfl
  | cons signal signals induction =>
      exact (aims_signal (permitted signal (by simp))).trans
        (induction fun other member => permitted other (List.mem_cons_of_mem _ member))

/-- SIGINT goes to whom the pidfile of an application names. -/
def Heeds (site : Site) (application : Application) (number : ProcessNumber)
    (signal : Signal) : Prop :=
  signal = .interrupt → site.Names application.pidfilePath number

theorem tree_deliver (host : Host) (call : SignalCall) :
    (host.deliver call).tree = host.tree := by
  unfold Host.deliver Host.strikeBystander
  split
  · rfl
  · dsimp only
    split
    · split <;> rfl
    · rfl

theorem tree_runHook (site : Site) (post : Nat) (hook : Hook) :
    (site.runHook post hook).host.tree = site.host.tree := by
  unfold Site.runHook
  split
  · rfl
  · dsimp only
    split
    · rfl
    · unfold Site.signal
      split
      · rfl
      · exact tree_deliver _ _

theorem aims_runHook (employs : site.Employs post application sink) (hook : Hook) :
    Aims post (site.Heeds application) site (site.runHook post hook) := by
  cases hook with
  | stop =>
      rw [runHook_stop employs.application?]
      cases reads : (site.host.tree.read? application.pidfilePath).bind Pidfile.read? with
      | none => exact aims_of_eq rfl
      | some number => exact aims_signal fun _ => names_iff.mp reads
  | terminate | kill =>
      rw [Custody.runHook_of_child employs.application? (by simp)]
      cases application.child with
      | none => exact aims_of_eq rfl
      | some child => exact aims_signal nofun

/-- No signal of a stop changes the pidfile, so all its hooks read the same one. -/
theorem aims_commit (employs : site.Employs post application sink) (step : StopCall.Step) :
    Aims post (site.Heeds application) site (site.commit post step) := by
  have effects : ∀ (effects : List StopEffect) (begun : Site),
      begun.Employs post application sink → begun.host.tree = site.host.tree →
        Aims post (site.Heeds application) begun
          (effects.foldl (applyEffect post) begun) := by
    intro effects
    induction effects with
    | nil => exact fun _ _ _ => aims_of_eq rfl
    | cons effect effects induction =>
        intro begun employed tree
        cases effect with
        | report notice => exact induction (begun.report notice) employed tree
        | hook hook =>
            have heeds : begun.Heeds application = site.Heeds application := by
              unfold Heeds Names
              rw [tree]
            have first := aims_runHook employed hook
            rw [heeds] at first
            exact first.trans (induction (begun.runHook post hook) (employed.runHook hook)
              ((tree_runHook begun post hook).trans tree))
  exact (aims_of_eq rfl).trans
    (effects step.effects (site.setJob post step.job) (employs.setJob step.job) rfl)

/-- The signals of a body are no SIGINT. -/
abbrev IsFirm (_ : ProcessNumber) (signal : Signal) : Prop :=
  signal ≠ .interrupt

variable {attendance : Attendance}

theorem aims_letGo : Aims post IsFirm site (site.letGo post attendance) := by
  unfold letGo
  split
  · exact aims_of_eq rfl
  · exact aims_signal Signal.noConfusion

theorem aims_attend (employs : site.Employs post application sink) :
    Aims post IsFirm site (site.attend post application attendance).1 := by
  cases ended : site.childStatus attendance with
  | some status =>
      rw [attend_of_ended employs ended]
      exact aims_of_eq rfl
  | none =>
      obtain ⟨_, next, waits, _, cautious⟩ :=
        application.goesOn_attend site.now (site.job post).stopFlag attendance
      refine (aims_signals ?_).trans (aims_of_eq (signals_attend ended waits))
      rintro signal member rfl
      exact cautious.not_interrupts member

theorem aims_attendTurn (employs : site.Employs post application sink) :
    Aims post IsFirm site (site.turn (.attend post attendance)).world := by
  cases aborted : (site.job post).aborted with
  | false =>
      rw [employs.attendTurn aborted]
      exact aims_attend employs
  | true =>
      show Aims post IsFirm site (site.attendTurn post attendance).world
      unfold attendTurn
      rw [employs.application?, aborted]
      exact aims_letGo.trans (aims_of_eq (signals_dropBody _ post))

theorem aims_enterTurn (employs : site.Employs post application sink) :
    Aims post IsFirm site (site.turn (.enter post)).world := by
  cases aborted : (site.job post).aborted with
  | true =>
      show Aims post IsFirm site (site.enterTurn post).world
      unfold enterTurn
      rw [aborted]
      exact aims_of_eq (signals_dropBody _ post)
  | false =>
      have turns : site.turn (.enter post) = _ :=
        enterTurn_of_application employs.application? aborted
      rw [turns]
      have entered := employs.setJob (site.job post).enter
      cases spawns : (site.setJob post (site.job post).enter).host.spawn application.program
          application.report with
      | error error =>
          rw [launch_eq_of_failure entered spawns]
          exact aims_of_eq rfl
      | ok spawned =>
          obtain ⟨started, launches, manned, _, _, signals, _⟩ := launch_of_spawn entered spawns
          rw [launches]
          have unsent : Aims post IsFirm site started := aims_of_eq signals
          exact unsent.trans (aims_attend manned)

theorem aims_failApplication (fault : Fault) :
    Aims post IsFirm site (site.failApplication post application attendance fault) :=
  aims_letGo.trans (aims_of_eq (signals_failBody _ post fault))

end Site

namespace Custody

variable {post sink : Nat} {application : Application} {start custody next final : Custody}

/-- What becomes of an application in one step has it signal single processes only, and the
pidfile decides who is sent SIGINT. -/
theorem Knows.aims (knows : Knows post application sink start custody)
    (fares : Fares post custody next) :
    Site.Aims post (custody.site.Heeds application) custody.site next.site := by
  have firm {after : Site} (aims : Site.Aims post Site.IsFirm custody.site after) :
      Site.Aims post (custody.site.Heeds application) custody.site after :=
    aims.mono fun _ _ other interrupts => absurd interrupts other
  cases fares with
  | steps steps =>
      cases steps with
      | starts | calls | leaves => exact Site.aims_of_eq rfl
      | stops stands => exact Site.aims_commit knows.employs _
      | turns stands =>
          cases knows.tenure with
          | unlaunched idle | released idle | forsaken idle => cases idle.symm.trans stands
          | scheduled enters =>
              cases enters.symm.trans stands
              exact firm (Site.aims_enterTurn knows.employs)
          | attends attends =>
              cases attends.symm.trans stands
              exact firm (Site.aims_attendTurn knows.employs)
      | beside apart =>
          obtain ⟨others, signals, foreign⟩ := apart.signals
          intro dispatch member
          rw [signals] at member
          rcases List.mem_append.mp member with other | earlier
          · exact .inr (.inl (foreign dispatch other))
          · exact .inl earlier
  | aborts => exact Site.aims_of_eq rfl
  | fails stands spared attended fault => exact firm (Site.aims_failApplication fault)

/-- In a whole run, every signal of an application goes to a single process; it is SIGINT
only for a process that the pidfile named at a moment of the run. -/
theorem aims_of_run {site : Site} {name : String} {killGrace : Duration}
    (employs : site.Employs post application sink) (childless : application.child = none)
    (unstarted : site.job post = Job.fresh name killGrace)
    (unsignalled : ∀ dispatch ∈ site.signals, dispatch.post ≠ post)
    (comes : Comes post (fresh site) final) {dispatch : Dispatch}
    (sent : dispatch ∈ final.site.signals) (own : dispatch.post = post) :
    ∃ number signal, number.IsSingle ∧
      dispatch.call = { target := number.toNat, signal := some signal } ∧
      (signal = .interrupt → ∃ moment now,
        Comes post (fresh site) moment ∧ Comes post moment final ∧
          moment.site.application? post = some now ∧
            moment.site.Names now.pidfilePath number) := by
  have began := knows_fresh employs childless unstarted
  induction comes with
  | refl => exact absurd own (unsignalled dispatch sent)
  | tail comes fares induction =>
      obtain ⟨now, knows⟩ := began.comes comes
      rcases knows.aims fares dispatch sent with earlier | foreign | new
      · obtain ⟨number, signal, single, called, named⟩ := induction earlier
        refine ⟨number, signal, single, called, fun interrupts => ?_⟩
        obtain ⟨moment, known, reached, left, attended, names⟩ := named interrupts
        exact ⟨moment, known, reached, left.tail fares, attended, names⟩
      · exact absurd own foreign
      · obtain ⟨number, signal, single, heeds, called⟩ := new
        refine ⟨number, signal, single, called, fun interrupts => ?_⟩
        exact ⟨_, now, comes, .single fares, knows.employs.application?, heeds interrupts⟩

end Custody

end Overseer
