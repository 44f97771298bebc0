/-
**A dialogue is the fold of its lines over one environment.**

* `Demand`: what a line asks for; `Settings.demand`: what it asks for under given settings.
* `Dialogue.answer_eq`: the answer to a line from what it asks for. A program is run with a count of
  visits of its own.
* `Dialogue.fold`: lines answered over bindings alone; `Dialogue.replies_eq_fold`: a dialogue does that.
* `Dialogue.completed`: the statements that succeed in a dialogue; `Dialogue.run_completed`: alone and
  without a budget they leave the bindings that the dialogue leaves.
* `Dialogue.line_by_line`: all this of a dialogue from its start.

The session behind a dialogue keeps a count of visits from line to line. Every line that runs statements
starts the count anew, so the count has no part in any answer.
-/

import Calculator.Proofs.Evaluation.Batch
import Calculator.Proofs.Evaluation.Leftover
import Calculator.Terminal.Dialogue

namespace Calculator

open Text (trim)

/-! ### What a line asks for -/

/-- What a line asks for. -/
inductive Demand where
  /-- The line is blank or has no statement. -/
  | nothing
  /-- The line ends the dialogue. -/
  | farewell
  /-- The line asks for the bindings. -/
  | inquiry
  | unreadable (error : ReadError)
  | run (program : Program)

/-- What a line asks for under given settings. -/
def Settings.demand (settings : Settings) (line : List Char) : Demand :=
  let text := trim line
  if text = [] then .nothing
  else if text = Dialogue.farewell then .farewell
  else if text = Dialogue.inquiry then .inquiry
  else
    match Program.read settings (String.ofList text) with
    | .error e => .unreadable e
    | .ok program => if program.statements = [] then .nothing else .run program

/-- The statements that a line asks to run. -/
def Demand.statements : Demand → List Statement
  | .run program => program.statements
  | _ => []

theorem Settings.statements_ne_nil {settings : Settings} {line : List Char} {program : Program}
    (asks : settings.demand line = .run program) : program.statements ≠ [] := by
  unfold demand at asks
  dsimp only at asks
  split at asks
  · cases asks
  split at asks
  · cases asks
  split at asks
  · cases asks
  split at asks
  · cases asks
  split at asks
  · cases asks
  · next nonempty =>
    cases asks
    exact nonempty

namespace Dialogue

variable {d next : Dialogue} {line : List Char} {front back lines : List (List Char)} {reply : Reply}

/-! ### One line -/

/-- The session behind a dialogue keeps to its settings. -/
def Keeps (d : Dialogue) : Prop := d.session.rules = d.settings.rules

/-- The dialogue after a run that came to the progress. -/
def moved (d : Dialogue) (σ : Progress) : Dialogue :=
  { d with session := { d.session with visits := σ.visits }, bindings := σ.bindings }

/-- The answer that the outcome of a run makes. -/
def answerTo (d : Dialogue) : Except RuntimeError Float × Progress → Reply × Dialogue
  | (.ok x, σ) => (.result x, d.moved σ)
  | (.error e, σ) => (.failure e.diagnostic, d.moved σ)

/-- The answer to what a line asks for. -/
def meet (d : Dialogue) : Demand → Option (Reply × Dialogue)
  | .nothing => some (.silence, d)
  | .farewell => none
  | .inquiry => some (.listing d.bindings.sorted, d)
  | .unreadable e => some (.failure e.diagnostic, d)
  | .run program =>
    some (d.answerTo (runStatements d.settings.rules 0 program.statements ⟨d.bindings, 0⟩))

/-- A program is run on the bindings of a dialogue, with a count of visits of its own. -/
theorem runProgram_eq (keeps : d.Keeps) {program : Program} (nonempty : program.statements ≠ []) :
    d.runProgram program =
      d.answerTo (runStatements d.settings.rules 0 program.statements ⟨d.bindings, 0⟩) := by
  have ran := program.run_eq nonempty d.session.rules ⟨d.bindings, d.session.visits⟩
  rw [← (show d.session.rules = d.settings.rules from keeps)]
  unfold runProgram Session.runProgram Session.perform
  rw [ran]
  rcases runStatements d.session.rules 0 program.statements ⟨d.bindings, 0⟩ with ⟨_ | _, σ⟩ <;> rfl

/-- **The answer to a line is the answer to what it asks for.** -/
theorem answer_eq (keeps : d.Keeps) (line : List Char) :
    d.answer line = d.meet (d.settings.demand line) := by
  unfold answer Settings.demand
  dsimp only
  split
  · rfl
  split
  · rfl
  split
  · rfl
  rw [evaluate]
  cases Program.read d.settings (String.ofList (trim line)) with
  | error e => rfl
  | ok program =>
    dsimp only
    split
    · rfl
    · next nonempty => exact congrArg some (runProgram_eq keeps nonempty)

/-- Only the line that ends a dialogue has no answer. -/
theorem exists_answer (keeps : d.Keeps) (stays : d.settings.demand line ≠ .farewell) :
    ∃ reply next, d.answer line = some (reply, next) := by
  rw [answer_eq keeps]
  cases asked : d.settings.demand line with
  | farewell => exact absurd asked stays
  | nothing | inquiry | unreadable | run => exact ⟨_, _, rfl⟩

/-- **A line runs its statements in order up to the first that fails, with a budget of its own.** -/
theorem answer_run (keeps : d.Keeps) {program : Program}
    (asks : d.settings.demand line = .run program) :
    (∃ x last next,
      runStatements d.settings.rules 0 program.statements ⟨d.bindings, 0⟩ = (.ok x, last) ∧
        d.answer line = some (.result x, next) ∧ next.bindings = last.bindings) ∨
    ∃ front failing back reached error last next,
      program.statements = front ++ failing :: back ∧
        FailsIn d.settings.rules d.bindings front reached failing error last ∧
        d.answer line = some (.failure error.diagnostic, next) ∧ next.bindings = reached.bindings := by
  have answered := answer_eq keeps line
  rw [asks, meet] at answered
  rcases ran : runStatements d.settings.rules 0 program.statements ⟨d.bindings, 0⟩ with
    ⟨error | x, last⟩ <;> rw [ran] at answered
  · obtain ⟨front, failing, back, reached, split, fails⟩ := exists_failsIn ran
    exact .inr ⟨front, failing, back, reached, error, last, _, split, fails, answered,
      fails.bindings_eq⟩
  · exact .inl ⟨x, last, _, rfl, answered, rfl⟩

/-! ### The fold -/

/-- A dialogue over bindings that has seen no line. -/
def upon (settings : Settings) (bindings : Bindings) : Dialogue :=
  ⟨settings, .fresh settings.rules, bindings⟩

/-- Lines answered one after the other over bindings, each as if it were the first. -/
def fold (settings : Settings) (bindings : Bindings) : List (List Char) → List Reply × Bindings
  | [] => ([], bindings)
  | line :: rest =>
    match (upon settings bindings).answer line with
    | none => ([], bindings)
    | some (reply, next) =>
      let (more, last) := fold settings next.bindings rest
      (reply :: more, last)

/-- What is seen of an answer: the reply, and the bindings after it. -/
def seen (answer : Reply × Dialogue) : Reply × Bindings := (answer.1, answer.2.bindings)

/-- **No line before has a part in an answer but by the bindings.** -/
theorem answer_upon (keeps : d.Keeps) (line : List Char) :
    (d.answer line).map seen = ((upon d.settings d.bindings).answer line).map seen := by
  have first : (upon d.settings d.bindings).Keeps := rfl
  rw [answer_eq keeps, answer_eq first]
  show (d.meet (d.settings.demand line)).map seen =
    ((upon d.settings d.bindings).meet (d.settings.demand line)).map seen
  cases d.settings.demand line with
  | nothing | farewell | inquiry | unreadable => rfl
  | run program =>
    dsimp only [meet, upon]
    rcases runStatements d.settings.rules 0 program.statements ⟨d.bindings, 0⟩ with ⟨_ | _, σ⟩ <;> rfl

/-- An answer keeps the settings. -/
theorem keeps_answer (keeps : d.Keeps) (answered : d.answer line = some (reply, next)) :
    next.settings = d.settings ∧ next.Keeps := by
  rw [answer_eq keeps] at answered
  cases asked : d.settings.demand line with
  | farewell =>
    rw [asked] at answered
    cases answered
  | nothing | inquiry | unreadable =>
    rw [asked] at answered
    cases answered
    exact ⟨rfl, keeps⟩
  | run program =>
    rw [asked, meet] at answered
    rcases ran : runStatements d.settings.rules 0 program.statements ⟨d.bindings, 0⟩ with ⟨_ | _, σ⟩ <;>
      rw [ran] at answered <;>
      cases answered <;>
      exact ⟨rfl, keeps⟩

/-- **A dialogue is the fold of its lines over its bindings.** -/
theorem replies_eq_fold (keeps : d.Keeps) (lines : List (List Char)) :
    ((d.replies lines).1, (d.replies lines).2.bindings) = fold d.settings d.bindings lines := by
  induction lines generalizing d with
  | nil => rfl
  | cons line rest ih =>
    have same := answer_upon keeps line
    rw [replies, fold]
    cases answered : d.answer line with
    | none =>
      rw [answered] at same
      rw [Option.map_eq_none_iff.mp same.symm]
    | some answer =>
      obtain ⟨reply, next⟩ := answer
      rw [answered] at same
      obtain ⟨⟨reply', next'⟩, answered', sees⟩ := Option.map_eq_some_iff.mp same.symm
      obtain ⟨replied, left⟩ := Prod.mk.inj sees
      obtain ⟨settings, keeps⟩ := keeps_answer keeps answered
      have further := ih keeps
      rw [settings, ← (show next'.bindings = next.bindings from left)] at further
      rw [answered']
      dsimp only at replied ⊢
      rw [← further, replied]

/-! ### Parts of a dialogue -/

/-- A line that is answered does not end the dialogue. -/
theorem demand_ne_of_answer (keeps : d.Keeps) (answered : d.answer line = some (reply, next)) :
    d.settings.demand line ≠ .farewell := by
  intro quits
  rw [answer_eq keeps, quits] at answered
  cases answered

/-- A reply at the place of a line answers the line, behind lines that do not end the dialogue. -/
theorem exists_of_reply (keeps : d.Keeps)
    (replied : (d.replies (front ++ line :: back)).1[front.length]? = some reply) :
    (∀ earlier ∈ front, d.settings.demand earlier ≠ .farewell) ∧
      ∃ next, (d.replies front).2.answer line = some (reply, next) := by
  induction front generalizing d with
  | nil =>
    refine ⟨List.forall_mem_nil _, ?_⟩
    rw [List.nil_append, replies] at replied
    cases answered : d.answer line with
    | none =>
      rw [answered] at replied
      cases replied
    | some answer =>
      rw [answered] at replied
      cases replied
      exact ⟨_, answered⟩
  | cons first front ih =>
    rw [List.cons_append, replies] at replied
    rw [replies]
    cases answered : d.answer first with
    | none =>
      rw [answered] at replied
      cases replied
    | some answer =>
      rw [answered] at replied
      obtain ⟨settings, keepsNext⟩ := keeps_answer keeps answered
      obtain ⟨stays, answers⟩ := ih keepsNext replied
      rw [settings] at stays
      exact ⟨List.forall_mem_cons.mpr ⟨demand_ne_of_answer keeps answered, stays⟩, answers⟩

theorem keeps_replies (keeps : d.Keeps) (lines : List (List Char)) :
    (d.replies lines).2.settings = d.settings ∧ (d.replies lines).2.Keeps := by
  induction lines generalizing d with
  | nil => exact ⟨rfl, keeps⟩
  | cons line rest ih =>
    rw [replies]
    cases answered : d.answer line with
    | none => exact ⟨rfl, keeps⟩
    | some answer =>
      obtain ⟨settings, keepsNext⟩ := keeps_answer keeps answered
      rw [← settings]
      exact ih keepsNext

theorem answer_farewell (quits : trim line = farewell) (d : Dialogue) : d.answer line = none := by
  rw [answer, quits]
  rfl

/-- **Lines after the one that ends the dialogue have no effect.** -/
theorem replies_farewell (quits : trim line = farewell) (d : Dialogue) (front back : List (List Char)) :
    d.replies (front ++ line :: back) = d.replies front := by
  induction front generalizing d with
  | nil => simp only [List.nil_append, replies, answer_farewell quits]
  | cons first front ih =>
    rw [List.cons_append, replies, replies]
    cases d.answer first with
    | none => rfl
    | some answer =>
      dsimp only
      rw [ih]

theorem length_replies_le (d : Dialogue) (lines : List (List Char)) :
    (d.replies lines).1.length ≤ lines.length := by
  induction lines generalizing d with
  | nil => exact Nat.le_refl _
  | cons line rest ih =>
    rw [replies]
    cases d.answer line with
    | none => exact Nat.zero_le _
    | some answer => exact Nat.succ_le_succ (ih answer.2)

/-- Nor is anything printed for them. -/
theorem ofLines_farewell (quits : trim line = farewell) (d : Dialogue) (front back : List (List Char)) :
    Transcript.ofLines d (front ++ line :: back) = Transcript.ofLines d (front ++ [line]) := by
  have shorter (rest : List (List Char)) :
      (d.replies front).1.length < (front ++ line :: rest).length := by
    rw [List.length_append, List.length_cons]
    exact Nat.lt_of_le_of_lt (d.length_replies_le front) (Nat.lt_add_of_pos_right (Nat.succ_pos _))
  rw [Transcript.ofLines, Transcript.ofLines, replies_farewell quits, replies_farewell quits,
    if_pos (shorter back), if_pos (shorter [])]

/-! ### Statements that succeed -/

/-- The statements of a line that succeed. -/
def succeeds (d : Dialogue) (line : List Char) : List Statement :=
  succeeding d.settings.rules (d.settings.demand line).statements ⟨d.bindings, 0⟩

/-- The statements that succeed in a dialogue, in order. -/
def completed (d : Dialogue) : List (List Char) → List Statement
  | [] => []
  | line :: rest =>
    match d.answer line with
    | none => []
    | some (_, next) => d.succeeds line ++ next.completed rest

/-- **A line leaves what those of its statements leave that succeed**, and the value that is printed for
it is the value of the last of them. -/
theorem run_succeeds (keeps : d.Keeps) (answered : d.answer line = some (reply, next)) :
    ∃ x visits,
      runStatements ⟨d.settings.division, none⟩ 0 (d.succeeds line) ⟨d.bindings, 0⟩ =
        (.ok x, ⟨next.bindings, visits⟩) ∧
      ∀ value, reply = .result value →
        d.succeeds line = (d.settings.demand line).statements ∧ d.succeeds line ≠ [] ∧ x = value := by
  unfold succeeds
  cases asked : d.settings.demand line with
  | run program =>
    rcases answer_run keeps asked with
      ⟨x, last, next', ran, answered', left⟩ |
      ⟨front, failing, back, reached, error, last, next', split, fails, answered', left⟩ <;>
      cases answered.symm.trans answered'
    · have all := succeeding_of_ok ran
      refine ⟨x, last.visits, ?_, ?_⟩
      · rw [Demand.statements, all, left]
        exact runStatements_of_budget ran
      · rintro value ⟨⟩
        rw [Demand.statements, all]
        exact ⟨rfl, Settings.statements_ne_nil asked, rfl⟩
    · obtain ⟨y, passed⟩ := fails.passed
      refine ⟨y, reached.visits, ?_, fun _ => Reply.noConfusion⟩
      rw [Demand.statements, split, fails.succeeding_eq, left]
      exact runStatements_of_budget passed
  | farewell => exact absurd asked (demand_ne_of_answer keeps answered)
  | nothing | inquiry | unreadable =>
    rw [answer_eq keeps, asked] at answered
    cases answered
    exact ⟨0, 0, rfl, fun _ => Reply.noConfusion⟩

/-- **The statements that succeed in a dialogue, alone and without a budget, leave what it leaves.** -/
theorem run_completed (keeps : d.Keeps) (lines : List (List Char)) :
    ∃ x visits,
      runStatements ⟨d.settings.division, none⟩ 0 (d.completed lines) ⟨d.bindings, 0⟩ =
        (.ok x, ⟨(d.replies lines).2.bindings, visits⟩) := by
  induction lines generalizing d with
  | nil => exact ⟨0, 0, rfl⟩
  | cons line rest ih =>
    rw [completed, replies]
    cases answered : d.answer line with
    | none => exact ⟨0, 0, rfl⟩
    | some answer =>
      obtain ⟨settings, keepsNext⟩ := keeps_answer keeps answered
      obtain ⟨x, visits, passed, -⟩ := run_succeeds keeps answered
      obtain ⟨y, more, further⟩ := ih keepsNext
      rw [settings] at further
      exact ⟨_, _, runStatements_join passed further⟩

/-- The statements that succeed go on behind lines that do not end the dialogue. -/
theorem completed_append (stays : ∀ line ∈ front, d.settings.demand line ≠ .farewell) (keeps : d.Keeps)
    (back : List (List Char)) :
    d.completed (front ++ back) = d.completed front ++ (d.replies front).2.completed back := by
  induction front generalizing d with
  | nil => rfl
  | cons line front ih =>
    obtain ⟨here, stays⟩ := List.forall_mem_cons.mp stays
    rw [List.cons_append, completed, completed, replies]
    obtain ⟨reply, next, answered⟩ := exists_answer keeps here
    obtain ⟨settings, keeps⟩ := keeps_answer keeps answered
    rw [answered]
    dsimp only
    rw [ih (settings.symm ▸ stays) keeps, List.append_assoc]

/-! ### Dialogues from their start -/

/-- What a dialogue does with its lines, from its start on. -/
structure LineByLine (settings : Settings) : Prop where
  /-- It is the fold of its lines over its bindings, each line being answered as if it were the first. -/
  fold : ∀ lines, let last := (fresh settings).replies lines
    (last.1, last.2.bindings) = Dialogue.fold settings .empty lines
  /-- Lines after the one that ends it have no effect, and nothing is printed for them. -/
  farewell : ∀ front line back, trim line = Dialogue.farewell →
    (fresh settings).replies (front ++ line :: back) = (fresh settings).replies front ∧
      Transcript.ofLines (fresh settings) (front ++ line :: back) =
        Transcript.ofLines (fresh settings) (front ++ [line])
  /-- A blank line, one that asks for the bindings and one that cannot be read change nothing. -/
  idle : ∀ lines line, let d := ((fresh settings).replies lines).2
    (settings.demand line = .nothing → d.answer line = some (.silence, d)) ∧
      (settings.demand line = .inquiry → d.answer line = some (.listing d.bindings.sorted, d)) ∧
      ∀ e, settings.demand line = .unreadable e → d.answer line = some (.failure e.diagnostic, d)
  /-- Any other line runs its statements in order up to the first that fails, with a budget of its
  own. -/
  runs : ∀ lines line program, settings.demand line = .run program →
    let d := ((fresh settings).replies lines).2
    (∃ x last next,
      runStatements settings.rules 0 program.statements ⟨d.bindings, 0⟩ = (.ok x, last) ∧
        d.answer line = some (.result x, next) ∧ next.bindings = last.bindings) ∨
    ∃ front failing back reached error last next,
      program.statements = front ++ failing :: back ∧
        FailsIn settings.rules d.bindings front reached failing error last ∧
        d.answer line = some (.failure error.diagnostic, next) ∧ next.bindings = reached.bindings
  /-- The bindings are those that the statements that succeed leave as one program without a budget. -/
  batch : ∀ lines, Program.Leaves settings.division ⟨(fresh settings).completed lines⟩ .empty
    ((fresh settings).replies lines).2.bindings
  /-- The value that is printed for a line is the one that this program comes to with the last statement
  of the line, all of whose statements succeed. -/
  values : ∀ front line back x,
    ((fresh settings).replies (front ++ line :: back)).1[front.length]? = some (.result x) →
      let before := (fresh settings).completed front
      let here := (settings.demand line).statements
      here ≠ [] ∧
        (∃ after, (fresh settings).completed (front ++ line :: back) = before ++ here ++ after) ∧
        ∃ last, (Program.mk (before ++ here)).run ⟨settings.division, none⟩ ⟨.empty, 0⟩ = (.ok x, last)

/-- **A dialogue is the fold of its lines over one environment**, and it comes to what one program comes
to that has the statements that succeed. A line that runs statements has the whole budget for them; where
no budget is set, the program is run under the rules of the dialogue. -/
theorem line_by_line (settings : Settings) : LineByLine settings := by
  have start : (fresh settings).Keeps := rfl
  constructor
  case fold => exact fun lines => replies_eq_fold start lines
  case farewell =>
    exact fun front line back quits =>
      ⟨replies_farewell quits _ front back, ofLines_farewell quits _ front back⟩
  case idle =>
    intro lines line
    obtain ⟨same, keeps⟩ := keeps_replies start lines
    refine ⟨fun asks => ?_, fun asks => ?_, fun e asks => ?_⟩ <;>
      rw [answer_eq keeps, same, show (fresh settings).settings = settings from rfl, asks] <;>
      rfl
  case runs =>
    intro lines line program asks
    obtain ⟨same, keeps⟩ := keeps_replies start lines
    have asked : ((fresh settings).replies lines).2.settings.demand line = .run program := by
      rw [same]
      exact asks
    have ran := answer_run keeps asked
    rw [same] at ran
    exact ran
  case batch =>
    intro lines
    obtain ⟨x, visits, ran⟩ := run_completed start lines
    exact leaves_of_ok ran
  case values =>
    intro front line back x replied
    obtain ⟨stays, next, answered⟩ := exists_of_reply start replied
    obtain ⟨same, keeps⟩ := keeps_replies start front
    obtain ⟨z, earlier, before⟩ := run_completed start front
    obtain ⟨y, visits, ran, valued⟩ := run_succeeds keeps answered
    obtain ⟨all, nonempty, rfl⟩ := valued x rfl
    rw [same] at all ran
    rw [all] at nonempty ran
    have joined := runStatements_join before ran
    rw [if_neg nonempty] at joined
    refine ⟨nonempty, ⟨next.completed back, ?_⟩, ?_⟩
    · rw [completed_append stays start, completed, answered, List.append_assoc]
      dsimp only
      rw [all]
      rfl
    · exact ⟨_, (Program.run_eq (List.append_ne_nil_of_right_ne_nil _ nonempty) _ _).trans joined⟩

end Dialogue

end Calculator
