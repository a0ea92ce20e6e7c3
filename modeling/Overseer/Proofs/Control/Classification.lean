import Overseer.Proofs.Framing.Transparency
import Overseer.Proofs.Json.Recognition

/-!
# What the body of a frame is taken for

A body is no JSON text, or its document describes a command, or it breaks a first rule.
`Describes` says what a document of a command holds and `Breaks` which rule is the first
that a document breaks; neither looks at the members from left to right.  The last theorem
says that `Command.ofBody` answers by them, whatever the bytes.
-/

namespace Overseer

namespace Json

variable {name : String} {members : List (String × Value)} {value : Value}

/-- No member has this name. -/
def Lacks (name : String) (members : List (String × Value)) : Prop :=
  ∀ entry ∈ members, entry.1 ≠ name

/-- The value of the last member of this name. -/
def LastIs (name : String) (members : List (String × Value)) (value : Value) : Prop :=
  ∃ before after, members = before ++ (name, value) :: after ∧ Lacks name after

theorem field?_eq_none_iff : field? name members = none ↔ Lacks name members := by
  simp [field?, Lacks]

theorem field?_eq_some_iff : field? name members = some value ↔ LastIs name members value := by
  have reversed {entry : String × Value} {before after : List (String × Value)} :
      members.reverse = before ++ entry :: after ↔
        members = after.reverse ++ entry :: before.reverse := by
    rw [List.reverse_eq_iff]
    simp
  unfold field?
  rw [Option.map_eq_some_iff]
  constructor
  · rintro ⟨⟨found, _⟩, finds, rfl⟩
    obtain ⟨same, before, after, whole, others⟩ := List.find?_eq_some_iff_append.mp finds
    refine ⟨after.reverse, before.reverse, ?_, ?_⟩
    · rw [← beq_iff_eq.mp same]
      exact reversed.mp whole
    · intro entry member
      simpa using others entry (List.mem_reverse.mp member)
  · rintro ⟨before, after, whole, others⟩
    refine ⟨(name, value), List.find?_eq_some_iff_append.mpr ⟨by simp, after.reverse,
      before.reverse, reversed.mpr (by simpa using whole), ?_⟩, rfl⟩
    intro entry member
    simpa using others entry (List.mem_reverse.mp member)

theorem LastIs.unique {other : Value} (one : LastIs name members value)
    (second : LastIs name members other) : value = other := by
  have same := field?_eq_some_iff.mpr one
  rw [field?_eq_some_iff.mpr second] at same
  exact (Option.some.inj same).symm

theorem text?_field?_eq_some_iff {text : String} :
    (field? name members).bind Value.text? = some text ↔ LastIs name members (.string text) := by
  rw [← field?_eq_some_iff, Option.bind_eq_some_iff]
  constructor
  · rintro ⟨found, finds, reads⟩
    cases found with
    | string held =>
        cases reads
        exact finds
    | _ => cases reads
  · intro finds
    exact ⟨_, finds, rfl⟩

/-! ## The smallest name -/

/-- The name of a member that no other is before, by the order of the UTF-8 bytes. -/
structure IsSmallest (name : String) (members : List (String × Value)) : Prop where
  named : ∃ entry ∈ members, entry.1 = name
  least : ∀ entry ∈ members, Utf8.encode name ≤ Utf8.encode entry.1

theorem isLT_compare_iff {first second : List UInt8} :
    (compare first second).isLT = true ↔ first < second := by
  have bytes (byte other : UInt8) : compare byte other =
      if byte < other then .lt else if byte = other then .eq else .gt := rfl
  induction first generalizing second with
  | nil => cases second <;> simp
  | cons byte first induction =>
      cases second with
      | nil => simp
      | cons other second =>
          have tails : (compare first second).isLT = true ↔ first < second := induction
          rw [List.compare_cons_cons, List.cons_lt_cons_iff, bytes]
          split
          · simp [*]
          · split <;> simp [*]

theorem precedes_iff {first second : String} :
    precedes first second = true ↔ Utf8.encode first < Utf8.encode second :=
  isLT_compare_iff

theorem encode_injective {first second : String}
    (same : Utf8.encode first = Utf8.encode second) : first = second := by
  have decoded := congrArg Utf8.decode? same
  rw [Utf8.decode?_encode, Utf8.decode?_encode] at decoded
  exact Option.some.inj decoded

theorem IsSmallest.unique {other : String} (one : IsSmallest name members)
    (second : IsSmallest other members) : name = other := by
  obtain ⟨entry, member, rfl⟩ := one.named
  obtain ⟨behind, also, rfl⟩ := second.named
  exact encode_injective (List.le_antisymm (one.least behind also) (second.least entry member))

theorem smallestName?_eq_none_iff : smallestName? members = none ↔ members = [] := by
  cases members with
  | nil => simp [smallestName?]
  | cons entry rest =>
      unfold smallestName?
      split <;> simp

theorem isSmallest_of_smallestName? (smallest : smallestName? members = some name) :
    IsSmallest name members := by
  induction members generalizing name with
  | nil => cases smallest
  | cons entry rest induction =>
      unfold smallestName? at smallest
      split at smallest
      · rename_i nothing
        cases smallest
        cases smallestName?_eq_none_iff.mp nothing
        exact ⟨⟨entry, List.mem_cons_self, rfl⟩, by simp⟩
      · rename_i first found
        have before := induction found
        cases smallest
        split
        · rename_i precedes
          obtain ⟨named, member, same⟩ := before.named
          refine ⟨⟨named, List.mem_cons_of_mem _ member, same⟩, ?_⟩
          intro other isMember
          rcases List.mem_cons.mp isMember with rfl | later
          · exact List.le_of_lt (precedes_iff.mp precedes)
          · exact before.least other later
        · rename_i behind
          rw [precedes_iff, List.not_lt] at behind
          refine ⟨⟨entry, List.mem_cons_self, rfl⟩, ?_⟩
          intro other isMember
          rcases List.mem_cons.mp isMember with rfl | later
          · exact List.le_refl _
          · exact List.le_trans behind (before.least other later)

theorem smallestName?_eq_some_iff :
    smallestName? members = some name ↔ IsSmallest name members := by
  constructor
  · exact isSmallest_of_smallestName?
  · intro smallest
    cases found : smallestName? members with
    | none =>
        cases smallestName?_eq_none_iff.mp found
        obtain ⟨_, ⟨⟩, _⟩ := smallest.named
    | some other => rw [(isSmallest_of_smallestName? found).unique smallest]

end Json

namespace Command

open Json

/-! ## What a document describes -/

/-- The arguments of a document: left out or null, there are none. -/
inductive GivesArguments (members : List (String × Value)) : List (String × Value) → Prop where
  | absent (lacks : Lacks "args" members) : GivesArguments members []
  | null (last : LastIs "args" members .null) : GivesArguments members []
  | object {arguments : List (String × Value)}
      (last : LastIs "args" members (.object arguments)) : GivesArguments members arguments

/-- The document is an object with these members that says that it is a command. -/
structure IsTyped (document : Value) (members : List (String × Value)) : Prop where
  object : document = .object members
  typed : LastIs "type" members (.string "command")

/-- The document names a command and gives it no arguments. -/
inductive Describes (document : Value) (command : Command) : Prop where
  | intro {members : List (String × Value)} (typed : IsTyped document members)
      (named : LastIs "command" members (.string command.name))
      (plain : GivesArguments members [])

/-- The first rule that a document breaks, with the cause that is attached. -/
inductive Breaks (document : Value) : Violation → Option ArgumentFault → Prop where
  | object (scalar : ∀ members, document ≠ .object members) : Breaks document .notAnObject none
  /-- What stands for the type is reported if it is a string. -/
  | type {members : List (String × Value)} {found : Option String}
      (object : document = .object members) (wrong : found ≠ some "command")
      (reports : ∀ text, found = some text ↔ LastIs "type" members (.string text)) :
      Breaks document (.wrongType found) none
  | name {members : List (String × Value)} (typed : IsTyped document members)
      (unnamed : ∀ text, ¬ LastIs "command" members (.string text)) :
      Breaks document .missingName none
  | shape {members : List (String × Value)} {name : String} (typed : IsTyped document members)
      (named : LastIs "command" members (.string name))
      (shapeless : ∀ arguments, ¬ GivesArguments members arguments) :
      Breaks document .argumentsNotAnObject none
  | registry {members arguments : List (String × Value)} {name : String}
      (typed : IsTyped document members) (named : LastIs "command" members (.string name))
      (given : GivesArguments members arguments)
      (unknown : ∀ command : Command, command.name ≠ name) :
      Breaks document (.unknownCommand name) none
  | surplus {members arguments : List (String × Value)} {command : Command} {argument : String}
      (typed : IsTyped document members) (named : LastIs "command" members (.string command.name))
      (given : GivesArguments members arguments) (smallest : IsSmallest argument arguments) :
      Breaks document (.invalidArguments command.name) (some (.unexpected argument))

variable {document : Value} {members arguments : List (String × Value)} {name : String}
  {command : Command}

theorem ofName?_eq_some_iff : ofName? name = some command ↔ command.name = name := by
  constructor
  · intro found
    have same := List.find?_some found
    exact beq_iff_eq.mp same
  · rintro rfl
    cases command <;> decide

theorem arguments?_eq_some_iff :
    arguments? members = some arguments ↔ GivesArguments members arguments := by
  unfold arguments?
  constructor
  · intro gives
    split at gives
    · rename_i nothing
      cases gives
      exact .absent (field?_eq_none_iff.mp nothing)
    · rename_i null
      cases gives
      exact .null (field?_eq_some_iff.mp null)
    · rename_i object
      cases gives
      exact .object (field?_eq_some_iff.mp object)
    · cases gives
  · intro gives
    cases gives with
    | absent lacks => rw [field?_eq_none_iff.mpr lacks]
    | null last => rw [field?_eq_some_iff.mpr last]
    | object last => rw [field?_eq_some_iff.mpr last]

theorem GivesArguments.unique {others : List (String × Value)}
    (one : GivesArguments members arguments) (other : GivesArguments members others) :
    arguments = others := by
  have same := arguments?_eq_some_iff.mpr one
  rw [arguments?_eq_some_iff.mpr other] at same
  exact (Option.some.inj same).symm

theorem ofDocument_eq_ofParts (typed : IsTyped document members)
    (named : LastIs "command" members (.string name))
    (given : GivesArguments members arguments) :
    ofDocument document = ofParts name arguments := by
  rw [typed.object]
  unfold ofDocument
  simp only [text?_field?_eq_some_iff.mpr typed.typed, text?_field?_eq_some_iff.mpr named,
    arguments?_eq_some_iff.mpr given, frameType]
  simp

theorem ofParts_name_nil (command : Command) : ofParts command.name [] = .ok command := by
  unfold ofParts
  rw [ofName?_eq_some_iff.mpr rfl]
  rfl

/-- The answer to a document: it describes a command, or it breaks a first rule. -/
theorem ofDocument_answers (document : Value) :
    (∃ command, ofDocument document = .ok command ∧ Describes document command) ∨
      ∃ violation cause, ofDocument document = .error (.protocol violation cause) ∧
        Breaks document violation cause := by
  cases document with
  | object members =>
      by_cases typed : LastIs "type" members (.string "command")
      · have typed : IsTyped (.object members) members := ⟨rfl, typed⟩
        cases text : (field? "command" members).bind Value.text? with
        | none =>
            refine .inr ⟨.missingName, none, ?_, .name typed ?_⟩
            · unfold ofDocument
              simp [text?_field?_eq_some_iff.mpr typed.typed, text, frameType]
            · intro name named
              rw [text?_field?_eq_some_iff.mpr named] at text
              cases text
        | some name =>
            have named := text?_field?_eq_some_iff.mp text
            cases shape : arguments? members with
            | none =>
                refine .inr ⟨.argumentsNotAnObject, none, ?_, .shape typed named ?_⟩
                · unfold ofDocument
                  simp [text?_field?_eq_some_iff.mpr typed.typed, text, shape, frameType]
                · intro arguments given
                  rw [arguments?_eq_some_iff.mpr given] at shape
                  cases shape
            | some arguments =>
                have given := arguments?_eq_some_iff.mp shape
                rw [ofDocument_eq_ofParts typed named given]
                unfold ofParts
                cases found : ofName? name with
                | none =>
                    refine .inr ⟨_, _, rfl, .registry typed named given ?_⟩
                    intro command same
                    rw [ofName?_eq_some_iff.mpr same] at found
                    cases found
                | some command =>
                    cases ofName?_eq_some_iff.mp found
                    cases smallest : smallestName? arguments with
                    | none =>
                        cases smallestName?_eq_none_iff.mp smallest
                        exact .inl ⟨command, rfl, .intro typed named given⟩
                    | some argument =>
                        exact .inr ⟨_, _, rfl,
                          .surplus typed named given (isSmallest_of_smallestName? smallest)⟩
      · have wrong : (field? "type" members).bind Value.text? ≠ some "command" :=
          fun same => typed (text?_field?_eq_some_iff.mp same)
        refine .inr ⟨.wrongType ((field? "type" members).bind Value.text?), none, ?_,
          .type rfl wrong fun _ => text?_field?_eq_some_iff⟩
        unfold ofDocument
        simp [frameType, wrong]
  | _ => exact .inr ⟨.notAnObject, none, rfl, .object (by rintro _ ⟨⟩)⟩

theorem ofDocument_of_describes (describes : Describes document command) :
    ofDocument document = .ok command := by
  obtain ⟨typed, named, plain⟩ := describes
  rw [ofDocument_eq_ofParts typed named plain, ofParts_name_nil]

theorem ofDocument_of_breaks {violation : Violation} {cause : Option ArgumentFault}
    (breaks : Breaks document violation cause) :
    ofDocument document = .error (.protocol violation cause) := by
  cases breaks with
  | object scalar =>
      cases document with
      | object members => exact absurd rfl (scalar members)
      | _ => rfl
  | @type members found object wrong reports =>
      have same : (field? "type" members).bind Value.text? = found :=
        Option.ext fun text => text?_field?_eq_some_iff.trans (reports text).symm
      rw [object]
      unfold ofDocument
      simp [same, wrong, frameType]
  | @name members typed unnamed =>
      have text : (field? "command" members).bind Value.text? = none :=
        Option.eq_none_iff_forall_ne_some.mpr fun text found =>
          unnamed text (text?_field?_eq_some_iff.mp found)
      rw [typed.object]
      unfold ofDocument
      simp [text?_field?_eq_some_iff.mpr typed.typed, text, frameType]
  | @shape members name typed named shapeless =>
      have shape : arguments? members = none :=
        Option.eq_none_iff_forall_ne_some.mpr fun arguments found =>
          shapeless arguments (arguments?_eq_some_iff.mp found)
      rw [typed.object]
      unfold ofDocument
      simp [text?_field?_eq_some_iff.mpr typed.typed, text?_field?_eq_some_iff.mpr named, shape,
        frameType]
  | @registry members arguments name typed named given unknown =>
      have none_found : ofName? name = none :=
        Option.eq_none_iff_forall_ne_some.mpr fun command found =>
          unknown command (ofName?_eq_some_iff.mp found)
      rw [ofDocument_eq_ofParts typed named given, ofParts, none_found]
  | @surplus members arguments command argument typed named given smallest =>
      rw [ofDocument_eq_ofParts typed named given, ofParts, ofName?_eq_some_iff.mpr rfl,
        smallestName?_eq_some_iff.mpr smallest]

theorem ofDocument_eq_ok_iff :
    ofDocument document = .ok command ↔ Describes document command := by
  refine ⟨fun accepts => ?_, ofDocument_of_describes⟩
  obtain ⟨found, same, describes⟩ | ⟨_, _, same, _⟩ := ofDocument_answers document
  · rw [accepts] at same
    cases same
    exact describes
  · rw [accepts] at same
    cases same

theorem ofDocument_eq_error_iff {violation : Violation} {cause : Option ArgumentFault} :
    ofDocument document = .error (.protocol violation cause) ↔
      Breaks document violation cause := by
  refine ⟨fun refuses => ?_, ofDocument_of_breaks⟩
  obtain ⟨_, same, _⟩ | ⟨_, _, same, breaks⟩ := ofDocument_answers document
  · rw [refuses] at same
    cases same
  · rw [refuses] at same
    cases same
    exact breaks

/-- The body of a frame is refused as undecodable exactly when it is no JSON text.  Any
other is taken for the command that its document describes or, when it describes none,
refused for the first rule that the document breaks. -/
theorem ofBody_classifies (body : List UInt8) :
    ((∃ rejection, ofBody body = .error (.decode rejection)) ↔
      ∀ document, ¬ Json.Text body document) ∧
    ∀ document, Json.Text body document →
      (∀ command, ofBody body = .ok command ↔ Describes document command) ∧
      (∀ violation cause, ofBody body = .error (.protocol violation cause) ↔
        Breaks document violation cause) ∧
      ((∃ command, Describes document command) ∨
        ∃ violation cause, Breaks document violation cause) := by
  have answer {document : Value} (text : Json.Text body document) :
      ofBody body = ofDocument document := by
    unfold ofBody
    rw [Json.read_eq_ok_iff.mpr text]
  constructor
  · constructor
    · rintro ⟨rejection, rejects⟩ document text
      rw [answer text] at rejects
      obtain ⟨_, same, _⟩ | ⟨_, _, same, _⟩ := ofDocument_answers document
      · rw [rejects] at same
        cases same
      · rw [rejects] at same
        cases same
    · intro no_text
      unfold ofBody
      cases reads : Json.read body with
      | ok document => exact absurd (Json.read_eq_ok_iff.mp reads) (no_text document)
      | error rejection => exact ⟨rejection, rfl⟩
  · intro document text
    rw [answer text]
    refine ⟨fun command => ofDocument_eq_ok_iff,
      fun violation cause => ofDocument_eq_error_iff, ?_⟩
    obtain ⟨command, _, describes⟩ | ⟨violation, cause, _, breaks⟩ :=
      ofDocument_answers document
    · exact .inl ⟨command, describes⟩
    · exact .inr ⟨violation, cause, breaks⟩

/-- The body that is written for a command is a text, and its document describes it. -/
theorem ofBody_classifies_stop :
    ∃ document, Json.Text (body .stop) document ∧ Describes document .stop := by
  have classified := ofBody_classifies (body .stop)
  by_cases some_text : ∃ document, Json.Text (body .stop) document
  · obtain ⟨document, text⟩ := some_text
    have accepts := Decoding.ofBody_body .stop
    exact ⟨document, text, ((classified.2 document text).1 .stop).mp accepts⟩
  · obtain ⟨rejection, rejects⟩ :=
      classified.1.mpr fun document text => some_text ⟨document, text⟩
    rw [Decoding.ofBody_body] at rejects
    cases rejects

end Command

end Overseer
