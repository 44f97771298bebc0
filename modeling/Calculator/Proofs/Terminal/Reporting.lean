/-
**Running a text always comes to a report, and the report is faithful.**

* `Ending`: how the run of a text can end; `Ending.Of`: that it ends so. `Ending.exists_unique`: it ends in
  exactly one way.
* `Report.Tells`: a report has in its fields what a run came to; `Ending.Of.tells`: the report of a text
  has.
* `Ending.Of.reason`: why a program stops; no statement is refused for its shape.
* `Value.Holds`: a number that stands somewhere in a value; `Report.holds_finite`: those in the short form
  of a report are finite.
* `Command.execute_run`: what is printed for a report; `Command.execute_run_zero`: when the exit code is
  zero.
* `RunsFaithfully`, `PrintsFaithfully`: all this as two lists; `runText_faithful`: they hold of every text
  and every command that runs one.

A report has a value, no message and no stage, or a message, a stage and no value. What is printed may
therefore be told from the value alone.
-/

import Calculator.Proofs.Evaluation.Leftover
import Calculator.Terminal.Execution
import Mathlib.Logic.ExistsUnique

namespace Calculator

/-! ### Endings -/

/-- How the run of a text ends. -/
inductive Ending where
  | unscanned (error : ScanError)
  | unparsed (error : SyntaxError)
  | stopped (program : Program) (error : RuntimeError)
  | finished (program : Program) (value : Float) (bindings : Bindings)

namespace Ending

variable {settings : Settings} {source : String} {program : Program} {error : RuntimeError}

/-- The run of the text under the settings ends so: it cannot be read, or it is read and a session that has
done nothing stops in it or comes to its value. -/
inductive Of (settings : Settings) (source : String) : Ending → Prop
  | unscanned {error : ScanError} (refused : Program.read settings source = .error (.lexical error)) :
      Of settings source (.unscanned error)
  | unparsed {error : SyntaxError}
      (refused : Program.read settings source = .error (.syntactic error)) :
      Of settings source (.unparsed error)
  | stopped {program : Program} {error : RuntimeError} {session : Session}
      (accepted : Program.read settings source = .ok program)
      (failed : (Session.fresh settings.rules).evaluate program = (.error error, session)) :
      Of settings source (.stopped program error)
  | finished {program : Program} {value : Float} {session : Session}
      (accepted : Program.read settings source = .ok program)
      (ran : (Session.fresh settings.rules).evaluate program = (.ok value, session)) :
      Of settings source (.finished program value session.own)

/-- The value of a run that ends well. -/
def value? : Ending → Option Float
  | .finished _ value _ => some value
  | _ => none

/-- The stage that fails. -/
def stage? : Ending → Option Stage
  | .unscanned _ => some .lexical
  | .unparsed _ => some .syntactic
  | .stopped .. => some .runtime
  | .finished .. => none

/-- What is wrong, on one line. -/
def headline? : Ending → Option String
  | .unscanned error => some error.diagnostic.headline
  | .unparsed error => some error.diagnostic.headline
  | .stopped _ error => some error.diagnostic.headline
  | .finished .. => none

/-- The bindings that a run leaves if it ends well, else none. -/
def bindings : Ending → Bindings
  | .finished _ _ bindings => bindings
  | _ => .empty

theorem exists_of (settings : Settings) (source : String) :
    ∃ ending, Of settings source ending := by
  rcases read : Program.read settings source with (error | error) | program
  · exact ⟨_, .unscanned read⟩
  · exact ⟨_, .unparsed read⟩
  · rcases ran : (Session.fresh settings.rules).evaluate program with ⟨error | value, session⟩
    · exact ⟨_, .stopped read ran⟩
    · exact ⟨_, .finished read ran⟩

/-- What was read under the settings and what was computed from it leave no choice. -/
theorem Of.unique {first second : Ending} (one : Of settings source first)
    (other : Of settings source second) : first = second := by
  rcases one with refused | refused | ⟨accepted, ran⟩ | ⟨accepted, ran⟩ <;>
    rcases other with refused' | refused' | ⟨accepted', ran'⟩ | ⟨accepted', ran'⟩
  case unscanned.unscanned | unparsed.unparsed =>
    cases refused.symm.trans refused'
    rfl
  case stopped.stopped | finished.finished =>
    cases accepted.symm.trans accepted'
    cases ran.symm.trans ran'
    rfl
  case stopped.finished | finished.stopped =>
    cases accepted.symm.trans accepted'
    cases ran.symm.trans ran'
  case unscanned.unparsed | unparsed.unscanned => cases refused.symm.trans refused'
  case unscanned.stopped | unscanned.finished | unparsed.stopped | unparsed.finished =>
    cases refused.symm.trans accepted'
  case stopped.unscanned | stopped.unparsed | finished.unscanned | finished.unparsed =>
    cases accepted.symm.trans refused'

/-- **The run of a text ends in exactly one way.** -/
theorem exists_unique (settings : Settings) (source : String) :
    ∃! ending, Of settings source ending := by
  obtain ⟨ending, ends⟩ := exists_of settings source
  exact ⟨ending, ends, fun _ other => other.unique ends⟩

/-- Why the program stops: there is nothing to run, or a statement fails for a name that is not bound, a
zero divisor that is refused or a spent budget, behind statements that succeed. -/
def Reason (rules : Rules) (program : Program) (error : RuntimeError) : Prop :=
  (program.statements = [] ∧ error = .emptyProgram) ∨
    ∃ front failing back reached last,
      program.statements = front ++ failing :: back ∧
        FailsIn rules .empty front reached failing error last ∧
        RuntimeError.Justified rules last error

/-- **A program stops for a reason that lies in the text and the settings.** -/
theorem Of.reason (ends : Of settings source (.stopped program error)) :
    Reason settings.rules program error := by
  cases ends with | stopped accepted failed => ?_
  rcases ran : program.run settings.rules ⟨.empty, 0⟩ with ⟨outcome, last⟩
  have same : outcome = .error error := by
    change ((program.run settings.rules ⟨.empty, 0⟩).1, _) = _ at failed
    rw [ran] at failed
    exact (Prod.mk.inj failed).1
  subst same
  by_cases none : program.statements = []
  · refine .inl ⟨none, ?_⟩
    rw [Program.run, none] at ran
    cases ran
    rfl
  · obtain ⟨front, failing, back, reached, split, fails, -, justified, -⟩ :=
      Program.run_failed none ran
    exact .inr ⟨front, failing, back, reached, last, split, fails, justified⟩

end Ending

/-! ### Reports -/

/-- The report has in its fields what the run came to. -/
structure Report.Tells (report : Report) (ending : Ending) : Prop where
  success : report.success = ending.value?.isSome
  value : report.value? = ending.value?
  error : report.error? = ending.headline?
  stage : report.stage? = ending.stage?
  bindings : report.bindings = ending.bindings

/-- Success, a value, the lack of a message and the lack of a stage are the same. -/
structure Report.Coherent (report : Report) : Prop where
  value : report.success = report.value?.isSome
  error : report.success = report.error?.isNone
  stage : report.success = report.stage?.isNone

theorem Report.coherent (report : Report) : report.Coherent := by
  cases report <;> exact ⟨rfl, rfl, rfl⟩

/-- What goes wrong in an evaluation is put down to the evaluation. -/
theorem RuntimeError.diagnostic_stage (error : RuntimeError) : error.diagnostic.stage = .runtime := by
  cases error <;> rfl

/-- **The report of a text tells how its run ends.** -/
theorem Ending.Of.tells {settings : Settings} {source : String} {ending : Ending}
    (ends : Of settings source ending) : (runText settings source).Tells ending := by
  cases ends with
  | unscanned refused =>
    rw [runText, refused]
    exact ⟨rfl, rfl, rfl, rfl, rfl⟩
  | unparsed refused =>
    rw [runText, refused]
    exact ⟨rfl, rfl, rfl, rfl, rfl⟩
  | stopped accepted failed =>
    rw [runText, accepted]
    dsimp only
    rw [failed]
    exact ⟨rfl, rfl, rfl, congrArg some (RuntimeError.diagnostic_stage _), rfl⟩
  | finished accepted ran =>
    rw [runText, accepted]
    dsimp only
    rw [ran]
    exact ⟨rfl, rfl, rfl, rfl, rfl⟩

/-! ### Short forms -/

/-- The number stands somewhere in the value. -/
inductive Value.Holds (x : Float) : Value → Prop
  | number : Holds x (.float x)
  | item {items : List Value} {item : Value} (member : item ∈ items) (inside : Holds x item) :
      Holds x (.list items)
  | entry {entries : List (String × Value)} {key : String} {value : Value}
      (member : (key, value) ∈ entries) (inside : Holds x value) : Holds x (.table entries)

/-- A number in a table of two entries stands in one of them. -/
theorem Value.Holds.entry_pair {x : Float} {key key' : String} {value value' : Value}
    (holds : Holds x (.table [(key, value), (key', value')])) : Holds x value ∨ Holds x value' := by
  cases holds with
  | entry member inside =>
    rcases List.mem_cons.mp member with same | member
    · cases same
      exact .inl inside
    · cases List.mem_singleton.mp member
      exact .inr inside

/-- The number is neither infinite nor NaN. -/
def Binary64.IsFinite (x : Float) : Prop := ∃ negative rank, shape x = .finite negative rank

theorem presentNumber_finite {x y : Float} (holds : (presentNumber x).Holds y) :
    Binary64.IsFinite y := by
  unfold presentNumber at holds
  split at holds
  · next negative rank finite =>
    cases holds
    exact ⟨negative, rank, finite⟩
  · cases holds

/-- **Every number in the short form of a report is finite.** -/
theorem Report.holds_finite {report : Report} {x : Float}
    (holds : (report.summary presentNumber).Holds x) : Binary64.IsFinite x := by
  unfold summary at holds
  split at holds
  · rcases holds.entry_pair with inside | inside
    · cases inside
    · cases value : report.value? with
      | none =>
        rw [value] at inside
        cases inside
      | some number =>
        rw [value] at inside
        exact presentNumber_finite inside
  · rcases holds.entry_pair with inside | inside
    · cases inside
    · cases error : report.error? <;> rw [error] at inside <;> cases inside

/-- A report has a value and succeeds, or it has a message, no value, and fails. -/
theorem Report.value_or_error (report : Report) :
    (∃ x, report.success = true ∧ report.value? = some x ∧ report.error? = none) ∨
      ∃ message, report.success = false ∧ report.value? = none ∧ report.error? = some message := by
  obtain ⟨value, error, -⟩ := report.coherent
  cases success : report.success with
  | true =>
    rw [success] at value error
    obtain ⟨x, found⟩ := Option.isSome_iff_exists.mp value.symm
    exact .inl ⟨x, rfl, found, Option.isNone_iff_eq_none.mp error.symm⟩
  | false =>
    rw [success] at value error
    obtain ⟨message, found⟩ := Option.isSome_iff_exists.mp (Option.isNone_eq_false_iff.mp error.symm)
    have absent := Option.isSome_eq_false_iff.mp value.symm
    exact .inr ⟨message, rfl, Option.isNone_iff_eq_none.mp absent, found⟩

/-- The short form of a report from its value or its message. -/
theorem Report.summary_eq (report : Report) (present : Float → Value) :
    (∀ x, report.value? = some x →
      report.summary present = .table [("success", .boolean true), ("result", present x)]) ∧
    ∀ message, report.error? = some message →
      report.summary present = .table [("success", .boolean false), ("error", .text message)] := by
  unfold summary
  rcases report.value_or_error with ⟨x, success, value, error⟩ | ⟨message, success, value, error⟩
  · rw [success, value, error]
    exact ⟨by rintro x ⟨⟩; rfl, nofun⟩
  · rw [success, value, error]
    exact ⟨nofun, by rintro message ⟨⟩; rfl⟩

/-! ### Commands -/

/-- The exit code of a report. -/
def Report.exit (report : Report) : Nat := if report.success then 0 else 1

theorem Report.exit_of_success {report : Report} (success : report.success = true) :
    report.exit = 0 := if_pos success

theorem Report.exit_of_failure {report : Report} (failure : report.success = false) :
    report.exit = 1 := if_neg (Bool.not_eq_true _ ▸ failure)

theorem Report.exit_eq_zero_iff {report : Report} : report.exit = 0 ↔ report.success = true := by
  unfold Report.exit
  cases report.success <;> decide

/-- What a report prints, from its fields: in JSON the short form, else the value as output or the message
as an error. -/
theorem Report.outcome_eq (report : Report) :
    report.outcome true = .finished report.exit ⟨(report.summary presentNumber).json ++ "\n", ""⟩ ∧
    (∀ x, report.value? = some x →
      report.outcome false = .finished report.exit ⟨Binary64.text x ++ "\n", ""⟩) ∧
    ∀ message, report.error? = some message →
      report.outcome false = .finished report.exit ⟨"", errorLine message⟩ := by
  refine ⟨rfl, ?_⟩
  unfold outcome
  rcases report.value_or_error with ⟨x, -, value, error⟩ | ⟨message, -, value, error⟩
  · rw [value, error]
    exact ⟨by rintro x ⟨⟩; rfl, nofun⟩
  · rw [value, error]
    exact ⟨nofun, by rintro message ⟨⟩; rfl⟩

/-- However it is printed, a report ends a command with its exit code. -/
theorem Report.exists_outcome (report : Report) (json : Bool) :
    ∃ transcript, report.outcome json = .finished report.exit transcript := by
  cases json with
  | true => exact ⟨_, rfl⟩
  | false =>
    unfold outcome
    cases report.value? <;> exact ⟨_, rfl⟩

section Commands

variable {around : Surroundings} {profile : Profile} {file expression : Option String} {json : Bool}
  {settings : Settings} {source : String}

/-- Without settings a command fails. -/
theorem Profile.settings_of_zero {next : Settings → Outcome} {transcript : Transcript}
    (ended : profile.andThen around next = .finished 0 transcript) :
    ∃ settings, profile.settings around = .ok settings ∧ next settings = .finished 0 transcript := by
  unfold Profile.andThen at ended
  split at ended
  · next settings found => exact ⟨settings, found, ended⟩
  · cases ended
  · cases ended

/-- Without a text to run a command fails. -/
theorem sourceText_error {outcome : Outcome} {transcript : Transcript}
    (missing : sourceText around file expression = .error outcome) :
    outcome ≠ .finished 0 transcript := by
  unfold sourceText at missing
  rintro rfl
  split at missing
  · cases missing
  · cases missing
  · cases missing
  · dsimp only at missing
    split at missing
    · cases missing
    split at missing <;> cases missing

/-- **A command that finds settings and a text prints the report of the text.** -/
theorem Command.execute_run (found : profile.settings around = .ok settings)
    (given : sourceText around file expression = .ok source) :
    execute around (.run file expression json profile) = (runText settings source).outcome json := by
  rw [execute, Profile.andThen, found]
  dsimp only
  rw [given]

/-- **The exit code is zero exactly where settings and a text are found and the run succeeds.** -/
theorem Command.execute_run_zero :
    (∃ transcript, execute around (.run file expression json profile) = .finished 0 transcript) ↔
      ∃ settings source, profile.settings around = .ok settings ∧
        sourceText around file expression = .ok source ∧
        (runText settings source).success = true := by
  constructor
  · rintro ⟨transcript, ended⟩
    obtain ⟨settings, found, ended⟩ := Profile.settings_of_zero ended
    cases given : sourceText around file expression with
    | error outcome =>
      rw [given] at ended
      exact absurd ended (sourceText_error given)
    | ok source =>
      rw [given] at ended
      obtain ⟨printed, outcome⟩ := (runText settings source).exists_outcome json
      obtain ⟨exit, -⟩ := Outcome.finished.inj (outcome.symm.trans ended)
      exact ⟨settings, source, found, rfl, Report.exit_eq_zero_iff.mp exit⟩
  · rintro ⟨settings, source, found, given, success⟩
    obtain ⟨printed, outcome⟩ := (runText settings source).exists_outcome json
    rw [execute_run found given, outcome, Report.exit_eq_zero_iff.mpr success]
    exact ⟨printed, rfl⟩

end Commands

/-! ### Everything together -/

/-- What the run of a text comes to. -/
structure RunsFaithfully (settings : Settings) (source : String) : Prop where
  /-- The text is not read, or it is read and its program stops, or its program is finished; it is one of
  these and no other. -/
  ending : ∃! ending, Ending.Of settings source ending
  /-- The report tells which, with the stage that failed, its message or the value and the bindings. -/
  tells : ∀ ending, Ending.Of settings source ending → (runText settings source).Tells ending
  /-- A program stops for a reason of its own. -/
  reason : ∀ program error, Ending.Of settings source (.stopped program error) →
    Ending.Reason settings.rules program error
  /-- No statement runs out of values. -/
  settled : ∀ statement σ, (Machine.run settings.rules [Statement.task statement] [] σ).Settled
  coherent : (runText settings source).Coherent

/-- What a command prints that runs a text. -/
structure PrintsFaithfully (around : Surroundings) (file expression : Option String)
    (profile : Profile) : Prop where
  /-- It exits with zero exactly where it finds settings and a text and the run of the text succeeds. -/
  exit : ∀ json,
    (∃ transcript,
      Command.execute around (.run file expression json profile) = .finished 0 transcript) ↔
      ∃ settings source, profile.settings around = .ok settings ∧
        sourceText around file expression = .ok source ∧
        (runText settings source).success = true
  /-- It prints the value as output alone, or the message as an error alone. -/
  plain : ∀ settings source, profile.settings around = .ok settings →
    sourceText around file expression = .ok source →
    let report := runText settings source
    let outcome := Command.execute around (.run file expression false profile)
    (∃ x, report.success = true ∧ report.value? = some x ∧
      outcome = .finished 0 ⟨Binary64.text x ++ "\n", ""⟩) ∨
    ∃ message, report.success = false ∧ report.error? = some message ∧
      outcome = .finished 1 ⟨"", errorLine message⟩
  /-- In JSON it prints the value or the message in a table, in which every number is finite. -/
  json : ∀ settings source, profile.settings around = .ok settings →
    sourceText around file expression = .ok source →
    let report := runText settings source
    let outcome := Command.execute around (.run file expression true profile)
    ∃ payload : Value, (∀ x, payload.Holds x → Binary64.IsFinite x) ∧
      ((∃ x, report.success = true ∧ report.value? = some x ∧
        payload = .table [("success", .boolean true), ("result", presentNumber x)] ∧
        outcome = .finished 0 ⟨payload.json ++ "\n", ""⟩) ∨
      ∃ message, report.success = false ∧ report.error? = some message ∧
        payload = .table [("success", .boolean false), ("error", .text message)] ∧
        outcome = .finished 1 ⟨payload.json ++ "\n", ""⟩)

theorem runsFaithfully (settings : Settings) (source : String) : RunsFaithfully settings source where
  ending := Ending.exists_unique settings source
  tells _ ends := ends.tells
  reason _ _ ends := ends.reason
  settled statement σ := Machine.run_settled settings.rules statement σ
  coherent := (runText settings source).coherent

theorem printsFaithfully (around : Surroundings) (file expression : Option String)
    (profile : Profile) : PrintsFaithfully around file expression profile where
  exit _ := Command.execute_run_zero
  plain settings source found given := by
    dsimp only
    rw [Command.execute_run found given]
    obtain ⟨-, output, failure⟩ := (runText settings source).outcome_eq
    rcases (runText settings source).value_or_error with
      ⟨x, success, value, -⟩ | ⟨message, success, -, error⟩
    · exact .inl ⟨x, success, value, Report.exit_of_success success ▸ output x value⟩
    · exact .inr ⟨message, success, error, Report.exit_of_failure success ▸ failure message error⟩
  json settings source found given := by
    dsimp only
    rw [Command.execute_run found given]
    refine ⟨(runText settings source).summary presentNumber, fun _ => Report.holds_finite, ?_⟩
    obtain ⟨table, -, -⟩ := (runText settings source).outcome_eq
    obtain ⟨ofValue, ofError⟩ := (runText settings source).summary_eq presentNumber
    rcases (runText settings source).value_or_error with
      ⟨x, success, value, -⟩ | ⟨message, success, -, error⟩
    · exact .inl ⟨x, success, value, ofValue x value, Report.exit_of_success success ▸ table⟩
    · exact .inr ⟨message, success, error, ofError message error,
        Report.exit_of_failure success ▸ table⟩

/-- **Running a text always comes to a report, and to a faithful one.** The text is refused by the scanner
or by the grammar, or its program stops, or it is finished; the report tells which. Success, a value, no
message and no stage go together, so that a command that runs a text exits with zero exactly on success,
prints a value as output alone and a message as an error alone, and puts no number into JSON that is not
finite. -/
theorem runText_faithful (settings : Settings) (source : String) (around : Surroundings)
    (file expression : Option String) (profile : Profile) :
    RunsFaithfully settings source ∧ PrintsFaithfully around file expression profile :=
  ⟨runsFaithfully settings source, printsFaithfully around file expression profile⟩

/-- An infinite value is a success, and a text in JSON. -/
theorem runText_faithful_infinite :
    let around : Surroundings := ⟨⟨fun _ => none, fun _ => ""⟩, ⟨none, none, none⟩, ""⟩
    let profile : Profile := ⟨none, "."⟩
    profile.settings around = .ok .standard ∧
      (runText .standard "1/0").value?.map Binary64.shape = some (.infinite false) ∧
      Command.execute around (.run none (some "1/0") true profile) =
        .finished 0
          ⟨(Value.table [("success", .boolean true), ("result", .text "inf")]).json ++ "\n", ""⟩ := by
  have infinite : (runText .standard "1/0").value?.map Binary64.shape = some (.infinite false) := by
    decide +kernel
  have written : (runText .standard "1/0").value?.map Binary64.text = some "inf" := by
    decide +kernel
  refine ⟨rfl, infinite, ?_⟩
  obtain ⟨-, prints⟩ := runText_faithful .standard "1/0"
    ⟨⟨fun _ => none, fun _ => ""⟩, ⟨none, none, none⟩, ""⟩ none (some "1/0") ⟨none, "."⟩
  obtain ⟨payload, -, ⟨x, -, value, table, printed⟩ | ⟨message, failed, -⟩⟩ :=
    prints.json .standard "1/0" rfl rfl
  · rw [value] at infinite written
    have shown : presentNumber x = .text "inf" := by
      rw [presentNumber, Option.some.inj infinite]
      exact congrArg Value.text (Option.some.inj written)
    rw [table, shown] at printed
    exact printed
  · rw [show (runText .standard "1/0").success = true by decide +kernel] at failed
    cases failed

end Calculator
