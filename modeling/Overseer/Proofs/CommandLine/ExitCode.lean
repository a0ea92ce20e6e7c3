import Overseer.CommandLine.Program
import Overseer.Proofs.Supervision.Verdicts

/-!
# The exit code of a call that supervises

A call that supervises ends with its run, and its exit code is what the last round came to.
As long as nobody asks for a stop or a kill, that is the exit code of the last child, or 128
more than the signal that ended it.  But nothing being known about the last round is told as
success as well, and that is so for a program that cannot be spawned.
-/

namespace Overseer

/-- A status that the system gives: it keeps 8 bits of an exit code, and numbers its signals. -/
def ExitStatus.IsGenuine : ExitStatus → Prop
  | .exited code => code < 256
  | .signalled signal => signal ≤ greatestSignal

/-- The end of a call whose run has returned what is known of its last round. -/
def Ending.ofStatus (status : Option ExitStatus) : Ending :=
  .ofRun (.returned (.ok (status.map ExitStatus.code)))

theorem Ending.code_ofStatus {status : Option ExitStatus}
    (genuine : ∀ known, status = some known → known.IsGenuine) :
    (Ending.ofStatus status).code = 0 ↔ status = none ∨ status = some (.exited 0) := by
  cases status with
  | none => simp [ofStatus, ofRun]
  | some known =>
      cases known with
      | exited code =>
          have small : code < 256 := genuine _ rfl
          have whole : (Ending.ofStatus (some (.exited code))).code = code := by
            show ((code : Int) % 256).toNat = code
            omega
          rw [whole]
          simp
      | signalled signal =>
          have small : signal ≤ 64 := genuine _ rfl
          have whole : (Ending.ofStatus (some (.signalled signal))).code = 128 + signal := by
            show ((128 + signal : Int) % 256).toNat = 128 + signal
            omega
          rw [whole]
          simp

/-- Without a request nothing but the status counts. -/
theorem ExitStatus.outcome_unstopped (status : Option ExitStatus) :
    ExitStatus.outcome false status = status.map ExitStatus.code := by
  rcases status with _ | ⟨_ | _⟩ <;> rfl

namespace Annals

open Chronicle (Happening)

variable {settings : Settings} {before annals called final : Annals}
  {during : List Happening}

def ofSite (site : Site) (tasks : List Activity) : Annals :=
  { chronicle :=
      { course := { site := site, tasks := tasks, asked := [] }
        marked := []
        spawned := []
        reaped := [] }
    queued := [] }

theorem ended_of_callControl {before after : Site} {environment : Environment}
    {options : Options} {command : Command} {program : Program} {tasks : List Activity}
    (called : before.callControl environment options command = (after, program, tasks)) :
    ∃ ending, program = .ended ending := by
  unfold Site.callControl at called
  dsimp only at called
  split at called
  · cases called
    exact ⟨_, rfl⟩
  · cases called
    exact ⟨_, rfl⟩

theorem step?_of_call {host : Host} {environment : Environment} {arguments : List String}
    {site : Site} {index : Nat} {tasks : List Activity}
    (called : (Site.fresh host).call environment arguments =
      (site, .supervises index, tasks)) :
    index = 0 ∧ ∃ settings inherited,
      fresh host (Supervisor.fresh settings inherited) = ofSite site [] ∧
        (ofSite site []).step? call = some (ofSite site tasks) := by
  unfold Site.call at called
  dsimp only at called
  split at called
  · cases called
  · rename_i environment _
    unfold Site.callWith at called
    split at called
    · cases called
    · obtain ⟨_, is⟩ := ended_of_callControl called
      cases is
    · obtain ⟨_, is⟩ := ended_of_callControl called
      cases is
    · rename_i options program arguments _
      cases called
      exact ⟨rfl, options.settings environment program arguments, environment.values, rfl, rfl⟩

/-! ## The end of the run -/

/-- A run ends once. -/
theorem results_of_run (sound : before.Sound settings)
    (calls : before.step? call = some called) (meanwhile : call ∉ during)
    (runs : called.run? during = some final) :
    final.results = before.results ∨
      ∃ result, final.results = before.results ++ [result] := by
  obtain ⟨_, _, standing⟩ := standing_of_run sound calls meanwhile runs
  cases standing with
  | called _ _ _ results | listens _ _ results | closes _ _ _ _ results => exact .inl results
  | returned _ _ _ _ results | broken _ _ results _ => exact .inr ⟨_, results⟩

theorem result_of_ending? {ending : Ending}
    (few : annals.results = [] ∨ ∃ result, annals.results = [result])
    (ended : (Program.supervises 0).ending? annals.site = some ending) :
    ∃ result, annals.results = [result] ∧ ending = .ofRun result := by
  obtain ⟨supervisor, held, first⟩ := Option.bind_eq_some_iff.mp ended
  have same : annals.results = supervisor.results := by
    unfold results
    rw [held]
    rfl
  rw [← same] at first
  rcases few with none | ⟨result, one⟩
  · rw [none] at first
    cases first
  · rw [one] at first
    cases first
    exact ⟨result, one, rfl⟩

theorem asked_of_step {next : Annals} {happening : Happening} (sound : annals.Sound settings)
    (steps : annals.step? happening = some next) :
    annals.course.asked ⊆ next.course.asked := by
  obtain ⟨chronicle, happens, is⟩ := Option.map_eq_some_iff.mp steps
  rw [← is]
  exact (Chronicle.grows_step sound.chronicle happens).asked

/-- What was asked for stays asked for. -/
theorem asked_of_run {happenings : List Happening} (sound : annals.Sound settings)
    (runs : annals.run? happenings = some final) :
    annals.course.asked ⊆ final.course.asked := by
  refine (keeps_run (fun moment => annals.course.asked ⊆ moment.course.asked) sound
    (List.Subset.refl _) ?_ runs).2
  intro moment next happening sound kept _ steps
  exact List.Subset.trans kept (asked_of_step sound steps)

theorem Moment.asked (moment : Moment called final during) (sound : called.Sound settings) :
    moment.eve.course.asked ⊆ final.course.asked :=
  List.Subset.trans (asked_of_step (moment.sound_eve sound) moment.steps)
    (asked_of_run (moment.sound_next sound) moment.continues)

/-- The channel of a call that supervises was open, and nobody has asked for a stop or a kill
until the call ended.  Then it has crashed, or it ended with the status of its last round; so
it ended with success only if the last child had exited with success, or if nothing was known
of the last round: then no child had been spawned, or it was forsaken. -/
theorem exit_code_of_unstopped_call {host : Host} {environment : Environment}
    {arguments : List String} {site : Site} {index : Nat} {tasks : List Activity}
    {final : Annals} {during : List Happening} {ending : Ending}
    (called : (Site.fresh host).call environment arguments =
      (site, .supervises index, tasks))
    (runs : (ofSite site tasks).run? during = some final) (meanwhile : call ∉ during)
    (opens : Opens (ofSite site tasks) during) (unstopped : ¬ final.course.WasStopped)
    (ended : (Program.supervises index).ending? final.site = some ending) :
    ending = .crash ∨ ∃ (moment : Moment (ofSite site tasks) final during)
      (last : Passage) (status : Option ExitStatus),
      Epilogue (ofSite site []) moment last status ∧ ending = .ofStatus status ∧
        ((∀ known, status = some known → known.IsGenuine) →
          (ending.code = 0 ↔ status = none ∨ status = some (.exited 0))) := by
  obtain ⟨first, settings, inherited, same, calls⟩ := step?_of_call called
  subst first
  have reaches : (fresh host (Supervisor.fresh settings inherited)).run? [] =
      some (ofSite site []) := congrArg some same
  have sound := sound_run (sound_fresh host settings inherited) reaches
  have none : (ofSite site []).results = [] := by
    rw [← same]
    rfl
  have few := results_of_run sound calls meanwhile runs
  rw [none] at few
  obtain ⟨result, one, is⟩ := result_of_ending? few ended
  have more : final.results = (ofSite site []).results ++ [result] := by
    rw [none, one]
    rfl
  rcases epilogue_of_run reaches calls runs meanwhile opens more with
    crashed | ⟨moment, last, status, epilogue, returned⟩
  · rw [crashed] at is
    exact .inl is
  · -- Whoever had asked before the evaluation would be on record in the end.
    have asked := moment.asked (sound_step sound calls)
    have silent : ¬ moment.eve.course.WasStopped :=
      fun stopped => unstopped (Chronicle.stopped_of_grows stopped asked)
    rw [returned, decide_eq_false silent, ExitStatus.outcome_unstopped] at is
    refine .inr ⟨moment, last, status, epilogue, is, fun genuine => ?_⟩
    rw [is]
    exact Ending.code_ofStatus genuine

/-- A call that supervises this program, on a host that has no other than `/bin/app`. -/
def callOf (conducts : List Conduct) (program : String) : Site × Program × List Activity :=
  (Site.fresh (Course.plainHost conducts)).call ⟨[], none⟩
    ["run", "--socket", "/run/control", "--pidfile", "/run/pid", program]

/-- What comes of a call in these happenings: its exit code, whether a stop or a kill was
asked for, and the children that were spawned. -/
def sequel? (called : Site × Program × List Activity) (happenings : List Happening) :
    Option (Option Nat × Bool × List Offspring) :=
  ((ofSite called.1 called.2.2).run? happenings).map fun final =>
    ((called.2.1.ending? final.site).map Ending.code, decide final.course.WasStopped,
      final.chronicle.spawned)

theorem exists_of_sequel? {called : Site × Program × List Activity} {code : Nat}
    {spawned : List Offspring}
    (comes : sequel? called during = some (some code, false, spawned)) :
    ∃ final ending, (ofSite called.1 called.2.2).run? during = some final ∧
      ¬ final.course.WasStopped ∧ called.2.1.ending? final.site = some ending ∧
        ending.code = code ∧ final.chronicle.spawned = spawned := by
  obtain ⟨final, runs, same⟩ := Option.map_eq_some_iff.mp comes
  obtain ⟨ended, rest⟩ := Prod.mk.inj same
  obtain ⟨unstopped, spawned⟩ := Prod.mk.inj rest
  obtain ⟨ending, ended, code⟩ := Option.map_eq_some_iff.mp ended
  exact ⟨final, ending, runs, of_decide_eq_false unstopped, ended, code, spawned⟩

/-- The program is spawned and exits, and the run comes to its end. -/
def exiting : List Happening :=
  [turn 0, turn 2, .occurs Course.reacts, turn 2, turn 0, turn 0, turn 0]

/-- The program exits with 3, and so does the call. -/
theorem exit_code_of_exiting_program :
    ∃ site tasks final ending,
      callOf [⟨.dies, .dies, .ownNumber, .exits 3⟩] "/bin/app" =
          (site, .supervises 0, tasks) ∧
        (ofSite site tasks).run? exiting = some final ∧ call ∉ exiting ∧
        Opens (ofSite site tasks) exiting ∧ ¬ final.course.WasStopped ∧
        (Program.supervises 0).ending? final.site = some ending ∧ ending.code = 3 ∧
        (ending = .crash ∨ ∃ (moment : Moment (ofSite site tasks) final exiting)
          (last : Passage) (status : Option ExitStatus),
          Epilogue (ofSite site []) moment last status ∧ ending = .ofStatus status ∧
            ((∀ known, status = some known → known.IsGenuine) →
              (ending.code = 0 ↔ status = none ∨ status = some (.exited 0)))) := by
  let called := callOf [⟨.dies, .dies, .ownNumber, .exits 3⟩] "/bin/app"
  let start := ofSite called.1 called.2.2
  have supervises : called = (called.1, .supervises 0, called.2.2) := rfl
  have comes : sequel? called exiting = some (some 3, false, [⟨1, Host.numberOf 0⟩]) := by
    decide +kernel
  have isOpen : (start.run? [turn 0]).bind Annals.gate? = some 0 := by decide +kernel
  have meanwhile : call ∉ exiting := by simp [call, exiting, turn, Course.reacts]
  have opens : Opens start exiting := opens_of_prefix [turn 0] exiting.tail isOpen
  obtain ⟨final, ending, runs, unstopped, ended, code, _⟩ := exists_of_sequel? comes
  exact ⟨called.1, called.2.2, final, ending, supervises, runs, meanwhile, opens, unstopped,
    ended, code, exit_code_of_unstopped_call supervises runs meanwhile opens unstopped ended⟩

/-- The run of a program that cannot be spawned comes to its end. -/
def failing : List Happening :=
  [turn 0, turn 2, turn 0, turn 0, turn 0]

/-- The program cannot be spawned, and nobody asks for anything: the call ends with
success. -/
theorem success_of_missing_program :
    ∃ site tasks final ending, callOf [] "/nonexistent" = (site, .supervises 0, tasks) ∧
      (ofSite site tasks).run? failing = some final ∧ call ∉ failing ∧
      Opens (ofSite site tasks) failing ∧ ¬ final.course.WasStopped ∧
      (Program.supervises 0).ending? final.site = some ending ∧ ending.code = 0 ∧
      final.chronicle.spawned = [] := by
  let called := callOf [] "/nonexistent"
  let start := ofSite called.1 called.2.2
  have comes : sequel? called failing = some (some 0, false, []) := by decide +kernel
  have isOpen : (start.run? [turn 0]).bind Annals.gate? = some 0 := by decide +kernel
  have meanwhile : call ∉ failing := by simp [call, failing, turn]
  have opens : Opens start failing := opens_of_prefix [turn 0] failing.tail isOpen
  obtain ⟨final, ending, runs, unstopped, ended, code, spawned⟩ := exists_of_sequel? comes
  exact ⟨called.1, called.2.2, final, ending, rfl, runs, meanwhile, opens, unstopped, ended,
    code, spawned⟩

end Annals

end Overseer
