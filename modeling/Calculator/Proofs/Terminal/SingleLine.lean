/-
**One line in a dialogue and the run of the same line.**

* `Line`: a line as it is typed, neither blank nor one of the two requests.
* `Line.run`, `Line.dialogue`: the run of the line, and a dialogue that has no other line; `Line.Agrees`: the
  dialogue prints behind its prompt what the run prints.
* `Line.dialogue_eq`: the dialogue prints what the run of the line without the blanks around it prints.
* `Line.agrees_iff`: the two agree if and only if the line is no request between blanks and, where a
  position is told, it is the same without these blanks.
* `Line.compared`: all this of every line under every settings.

A dialogue trims a line before it reads it, and a run does not. So the position that a dialogue tells counts
from the first character that is no blank, whereas the one that a run tells counts from the start of the
line.
-/

import Calculator.Proofs.Reading.Padding
import Calculator.Proofs.Terminal.Reporting

namespace Calculator

open Text (behindPadding escape isBlank leading lines trailing trim unifyLineEnds withoutSequences)

/-! ### Lines -/

theorem Text.unifyLineEnds_eq_self {text : List Char} (free : ∀ c ∈ text, c ≠ '\r') :
    unifyLineEnds text = text := by
  induction text with
  | nil => rfl
  | cons c rest ih =>
    obtain ⟨here, others⟩ := List.forall_mem_cons.mp free
    rw [unifyLineEnds, ih others]
    · exact fun _ carriage => absurd carriage here
    · exact here

/-- A line as it is typed: it has no line break in it, is not blank, and is none of the two requests. -/
structure Line where
  chars : List Char
  unbroken : ∀ c ∈ chars, c ≠ '\n' ∧ c ≠ '\r'
  inhabited : ∃ c ∈ chars, isBlank c = false
  noFarewell : chars ≠ Dialogue.farewell
  noInquiry : chars ≠ Dialogue.inquiry

namespace Line

/-- The line as a text. -/
def text (line : Line) : String := String.ofList line.chars

/-- The line without the blanks around it. -/
def core (line : Line) : List Char := trim line.chars

/-- One of the two requests stands in the line, between blanks. -/
def Asks (line : Line) : Prop := line.core = Dialogue.farewell ∨ line.core = Dialogue.inquiry

/-- Where a character of the core stands in the line. -/
def place (line : Line) : Nat → Nat :=
  behindPadding (leading line.chars).length (trailing line.chars).length line.core.length

/-- What the run of the line does. -/
def run (line : Line) (around : Surroundings) (profile : Profile) : Outcome :=
  Command.execute around (.run none (some line.text) false profile)

/-- What a dialogue does whose input is the line. -/
def dialogue (line : Line) (around : Surroundings) (profile : Profile) : Outcome :=
  Command.execute { around with input := line.text ++ "\n" } (.converse profile)

/-- The dialogue prints for the line, behind its prompt, what the run prints. -/
def Agrees (line : Line) (around : Surroundings) (profile : Profile) : Prop :=
  ∃ exit transcript, line.run around profile = .finished exit transcript ∧
    line.dialogue around profile =
      .finished 0 ⟨prompt ++ transcript.out ++ prompt ++ "\n", transcript.err⟩

variable (line : Line)

/-- What is not blank in the line is in its core. -/
theorem exists_core : ∃ c ∈ line.core, isBlank c = false := by
  obtain ⟨c, member, notBlank⟩ := line.inhabited
  have outside {padding : List Char} (blank : ∀ c ∈ padding, isBlank c = true) : c ∉ padding := by
    intro inside
    rw [blank c inside] at notBlank
    cases notBlank
  rw [← Text.leading_append_trim_append_trailing line.chars] at member
  rcases List.mem_append.mp member with front | back
  · rcases List.mem_append.mp front with lead | core
    · exact absurd lead (outside Text.isBlank_of_mem_leading)
    · exact ⟨c, core, notBlank⟩
  · exact absurd back (outside Text.isBlank_of_mem_trailing)

theorem core_ne_nil : line.core ≠ [] := by
  obtain ⟨c, member, -⟩ := line.exists_core
  exact List.ne_nil_of_mem member

theorem padding : leading line.chars ++ line.core ++ trailing line.chars = line.chars :=
  Text.leading_append_trim_append_trailing line.chars

theorem length_chars :
    line.chars.length =
      line.core.length + (trailing line.chars).length + (leading line.chars).length := by
  have lengths := congrArg List.length line.padding
  rw [List.length_append, List.length_append] at lengths
  omega

/-- The input of a dialogue is the line. -/
theorem lines_input : lines (unifyLineEnds (line.text ++ "\n").toList) = [line.chars] := by
  have free : ∀ c ∈ line.chars ++ ['\n'], c ≠ '\r' := by
    intro c member
    rcases List.mem_append.mp member with inside | last
    · exact (line.unbroken c inside).2
    · rw [List.mem_singleton.mp last]
      decide
  have whole : ∀ other ∈ [line.chars], '\n' ∉ other := by
    intro other member feed
    rw [List.mem_singleton.mp member] at feed
    exact (line.unbroken '\n' feed).1 rfl
  have read := Text.lines_flatten whole
  rw [List.map_singleton, List.flatten_singleton] at read
  rw [text, String.toList_append, String.toList_ofList]
  show lines (unifyLineEnds (line.chars ++ ['\n'])) = [line.chars]
  rw [Text.unifyLineEnds_eq_self free]
  exact read

end Line

/-! ### Replies and reports -/

/-- The reply that a report makes. -/
def Report.reply : Report → Reply
  | .succeeded value _ => .result value
  | .failed diagnostic => .failure diagnostic

/-- What is printed for a report. -/
def Report.transcript (report : Report) : Transcript := ⟨report.reply.out, report.reply.err⟩

/-- The position that a report tells. -/
def Report.position? : Report → Option Int
  | .succeeded .. => none
  | .failed diagnostic => diagnostic.position

theorem Report.outcome_false (report : Report) :
    report.outcome false = .finished report.exit report.transcript := by
  cases report <;> rfl

/-- **A text that is not blank is answered as it is run.** -/
theorem Dialogue.evaluate_fresh (settings : Settings) {text : List Char}
    (inhabited : ∃ c ∈ text, isBlank c = false) :
    ((fresh settings).evaluate text).1 = (runText settings (String.ofList text)).reply := by
  obtain ⟨c, member, notBlank⟩ := inhabited
  unfold evaluate runText
  dsimp only [fresh]
  cases read : Program.read settings (String.ofList text) with
  | error e => rfl
  | ok program =>
    have nonempty : program.statements ≠ [] :=
      Program.statements_ne_nil read (by rwa [String.toList_ofList]) notBlank
    dsimp only
    rw [if_neg nonempty, runProgram, Session.evaluate]
    dsimp only
    cases ((Session.fresh settings.rules).runProgram program .empty).value <;> rfl

/-- What a dialogue of one line prints if the line is answered. -/
theorem Transcript.ofLines_answered {d next : Dialogue} {line : List Char} {reply : Reply}
    (answered : d.answer line = some (reply, next)) :
    ofLines d [line] = ⟨prompt ++ reply.out ++ prompt ++ "\n", reply.err⟩ := by
  have replied : (d.replies [line]).1 = [reply] := by
    rw [Dialogue.replies, answered]
    rfl
  rw [ofLines, replied]
  show Transcript.mk ("" ++ (prompt ++ reply.out) ++ prompt ++ "\n") ("" ++ reply.err) = _
  rw [String.empty_append, String.empty_append]

/-- What a dialogue of one line prints if the line ends it. -/
theorem Transcript.ofLines_ended {d : Dialogue} {line : List Char} (ended : d.answer line = none) :
    ofLines d [line] = ⟨prompt, ""⟩ := by
  have replied : (d.replies [line]).1 = [] := by
    rw [Dialogue.replies, ended]
  rw [ofLines, replied]
  rfl

/-! ### Told positions -/

/-- Text without an escape character stays before any other. -/
theorem Text.withoutSequences_append {front : List Char} (plain : escape ∉ front) (back : List Char) :
    withoutSequences (front ++ back) = front ++ withoutSequences back := by
  induction front with
  | nil => rfl
  | cons c front ih =>
    obtain ⟨here, others⟩ := not_or.mp (mt List.mem_cons.mpr plain)
    rw [List.cons_append, withoutSequences]
    split
    · next found =>
      rw [behindSequence?_cons_of_ne (Ne.symm here)] at found
      cases found
    · rw [ih others, List.cons_append]

/-- **Where the positions differ that two failures tell, so do their messages as they are printed.** -/
theorem Diagnostic.eq_of_errorLine {stage : Stage} {text : String} {first second : Nat}
    (same : errorLine (Diagnostic.mk stage text (some first)).headline =
      errorLine (Diagnostic.mk stage text (some second)).headline) : first = second := by
  let opening := (stage.heading ++ " error at position ").toList
  have plain (position : Nat) : escape ∉ opening ++ Binary64.digitChars position := by
    intro member
    rcases List.mem_append.mp member with early | late
    · revert early
      cases stage <;> decide
    · exact absurd (Binary64.isDigit_of_mem_digitChars late) (by decide)
  have printed (position : Nat) : errorLine (Diagnostic.mk stage text (some position)).headline =
      String.ofList (opening ++ Binary64.digitChars position ++
        withoutSequences (": " ++ text).toList) ++ "\n" := by
    have whole : (Diagnostic.mk stage text (some position)).headline.toList =
        opening ++ Binary64.digitChars position ++ (": " ++ text).toList := by
      show (stage.heading ++ " error at position " ++ String.ofList (Binary64.digitChars position) ++
        ": " ++ text).toList = _
      rw [@String.append_assoc _ ": " text, String.toList_append, String.toList_append,
        String.toList_ofList]
    rw [errorLine, whole, Text.withoutSequences_append (plain position)]
  rw [printed, printed, String.append_left_inj] at same
  have digits := List.append_cancel_left (List.append_cancel_right (String.ofList_injective same))
  rw [← Binary64.naturalOf_digitChars first, digits, Binary64.naturalOf_digitChars]

/-- A position that is told of a text counts characters. -/
theorem Report.exists_position {settings : Settings} {source : String} {position : Int}
    (told : (runText settings source).position? = some position) : ∃ offset : Nat, position = offset := by
  unfold runText at told
  split at told
  · next e read => 
    rcases e with e | e <;> exact ⟨_, (Option.some.inj told).symm⟩
  · split at told
    · next e _ _ => cases e <;> cases told
    · cases told

theorem Report.position?_placed (place : Nat → Nat) (report : Report) :
    (report.placed place).position? =
      report.position?.map fun position => (place position.toNat : Int) := by
  cases report <;> rfl

/-- A report with its position moved is printed as before if and only if the position is the same. -/
theorem Report.transcript_placed_iff {settings : Settings} {source : String} {place : Nat → Nat} :
    ((runText settings source).placed place).transcript = (runText settings source).transcript ↔
      ∀ position : Nat, (runText settings source).position? = some position →
        place position = position := by
  have counts (position : Int) := @Report.exists_position settings source position
  generalize runText settings source = report at counts ⊢
  cases report with
  | succeeded => exact ⟨fun _ _ told => (nomatch told), fun _ => rfl⟩
  | failed diagnostic =>
    obtain ⟨stage, text, told⟩ := diagnostic
    cases told with
    | none => exact ⟨fun _ _ told => (nomatch told), fun _ => rfl⟩
    | some position =>
      obtain ⟨offset, rfl⟩ := counts position rfl
      constructor
      · rintro same position ⟨⟩
        exact Diagnostic.eq_of_errorLine (congrArg Transcript.err same)
      · intro unmoved
        show Transcript.mk "" (errorLine (Diagnostic.mk stage text (some (place offset))).headline) = _
        rw [unmoved offset rfl]
        rfl

theorem errorLine_ne_empty (message : String) : errorLine message ≠ "" := by
  intro empty
  have chars := congrArg String.toList empty
  rw [errorLine, String.toList_append] at chars
  exact absurd (List.append_eq_nil_iff.mp chars).2 (by decide)

namespace Line

/-- What is said about the colon that a request starts with. -/
def colonAt (position : Nat) : Diagnostic := ⟨.lexical, "unexpected character ':'", some position⟩

theorem runText_request (settings : Settings) {request : List Char}
    (asked : request = Dialogue.farewell ∨ request = Dialogue.inquiry) :
    runText settings (String.ofList request) = .failed (colonAt 0) := by
  have read : Program.read settings (String.ofList request) =
      .error (.lexical ⟨':', 0, .strayCharacter⟩) := by
    rcases asked with rfl | rfl <;> rfl
  have said : (ScanError.mk ':' 0 .strayCharacter).diagnostic = colonAt 0 := by decide +kernel
  rw [runText, read]
  exact congrArg Report.failed said

/-- A character of the core has the same position in the line if no blank stands before it. -/
theorem place_eq_iff (line : Line) (position : Nat) :
    line.place position = position ↔ leading line.chars = [] ∧
      (line.chars.length ≤ line.place position → trailing line.chars = []) := by
  have length := line.length_chars
  rw [← List.length_eq_zero_iff, ← @List.length_eq_zero_iff _ (trailing line.chars)]
  unfold place behindPadding
  split <;> omega

section Comparison

variable {around : Surroundings} {profile : Profile} {settings : Settings} (line : Line)

/-- The report of the line is that of its core, at the place where the core stands. -/
theorem runText_text (settings : Settings) :
    runText settings line.text = (runText settings (String.ofList line.core)).placed line.place := by
  rw [text, place, ← runText_padded Text.isBlank_of_mem_leading Text.isBlank_of_mem_trailing, padding]

variable (found : profile.settings around = .ok settings)

include found

theorem run_eq :
    line.run around profile =
      .finished (runText settings line.text).exit (runText settings line.text).transcript := by
  rw [run, Command.execute_run found rfl, Report.outcome_false]

theorem dialogue_eq_ofLines :
    line.dialogue around profile = .finished 0 (.ofLines (.fresh settings) [line.chars]) := by
  have input : profile.settings { around with input := line.text ++ "\n" } = .ok settings := found
  rw [dialogue, Command.execute, Profile.andThen, input]
  dsimp only
  rw [lines_input]

/-- **A dialogue prints for a line what the run of the line without the blanks around it prints**, unless
the line asks for something else. -/
theorem dialogue_eq (ordinary : ¬ line.Asks) :
    let printed := (runText settings (String.ofList line.core)).transcript
    line.dialogue around profile = .finished 0 ⟨prompt ++ printed.out ++ prompt ++ "\n", printed.err⟩ := by
  obtain ⟨noFarewell, noInquiry⟩ := not_or.mp ordinary
  have answered : (Dialogue.fresh settings).answer line.chars =
      some ((runText settings (String.ofList line.core)).reply,
        ((Dialogue.fresh settings).evaluate line.core).2) := by
    unfold Dialogue.answer
    change (if line.core = [] then _ else if line.core = Dialogue.farewell then _ else
      if line.core = Dialogue.inquiry then _ else _) = _
    rw [if_neg line.core_ne_nil, if_neg noFarewell, if_neg noInquiry,
      ← Dialogue.evaluate_fresh settings line.exists_core]
    rfl
  rw [dialogue_eq_ofLines line found, Transcript.ofLines_answered answered]
  rfl

/-- Between blanks too, the request for the end ends the dialogue. -/
theorem dialogue_farewell (asked : line.core = Dialogue.farewell) :
    line.dialogue around profile = .finished 0 ⟨prompt, ""⟩ := by
  have ended : (Dialogue.fresh settings).answer line.chars = none := by
    unfold Dialogue.answer
    change (if line.core = [] then _ else if line.core = Dialogue.farewell then _ else _) = _
    rw [if_neg line.core_ne_nil, if_pos asked]
  rw [dialogue_eq_ofLines line found, Transcript.ofLines_ended ended]

/-- Between blanks too, the request for the bindings lists those of a fresh dialogue, which has none. -/
theorem dialogue_inquiry (asked : line.core = Dialogue.inquiry) :
    line.dialogue around profile = .finished 0 ⟨prompt ++ prompt ++ "\n", ""⟩ := by
  have other : Dialogue.inquiry ≠ Dialogue.farewell := by decide
  have unbound : Bindings.empty.sorted = [] := List.mergeSort_nil
  have answered : (Dialogue.fresh settings).answer line.chars =
      some (.listing Bindings.empty.sorted, Dialogue.fresh settings) := by
    unfold Dialogue.answer
    change (if line.core = [] then _ else if line.core = Dialogue.farewell then _ else
      if line.core = Dialogue.inquiry then _ else _) = _
    rw [if_neg line.core_ne_nil, if_neg (asked ▸ other), if_pos asked]
    rfl
  rw [dialogue_eq_ofLines line found, Transcript.ofLines_answered answered, unbound]
  rfl

/-- The run reads the request as a program, which starts with a stray character. -/
theorem run_asks (asks : line.Asks) :
    line.run around profile =
      .finished 1 ⟨"", errorLine (colonAt (leading line.chars).length).headline⟩ := by
  have start : line.place 0 = (leading line.chars).length := by
    rw [place, Text.behindPadding_of_lt (List.length_pos_iff.mpr line.core_ne_nil), Nat.zero_add]
  rw [run_eq line found, line.runText_text settings, runText_request settings asks, ← start]
  rfl

/-! ### Where the two agree -/

theorem agrees_iff_transcript (ordinary : ¬ line.Asks) :
    line.Agrees around profile ↔
      (runText settings line.text).transcript =
        (runText settings (String.ofList line.core)).transcript := by
  unfold Agrees
  rw [run_eq line found, dialogue_eq line found ordinary]
  constructor
  · rintro ⟨exit, transcript, ran, printed⟩
    obtain ⟨-, rfl⟩ := Outcome.finished.inj ran
    obtain ⟨out, err⟩ := Transcript.mk.inj (Outcome.finished.inj printed).2
    rw [String.append_left_inj, String.append_left_inj, String.append_right_inj] at out
    exact congrArg₂ Transcript.mk out.symm err.symm
  · intro same
    exact ⟨_, _, rfl, by rw [same]⟩

/-- **A dialogue and a run agree on a line** if and only if the line is no request between blanks, and
no blank stands before the position that is told, nor behind it if it is the end of the line. -/
theorem agrees_iff :
    line.Agrees around profile ↔ ¬ line.Asks ∧
      ∀ position : Nat, (runText settings line.text).position? = some position →
        leading line.chars = [] ∧ (line.chars.length ≤ position → trailing line.chars = []) := by
  by_cases asks : line.Asks
  · refine iff_of_false ?_ (fun agrees => agrees.1 asks)
    rintro ⟨exit, transcript, ran, printed⟩
    rw [run_asks line found asks] at ran
    obtain ⟨-, rfl⟩ := Outcome.finished.inj ran
    rcases asks with asked | asked
    · rw [dialogue_farewell line found asked] at printed
      exact errorLine_ne_empty _ (Transcript.mk.inj (Outcome.finished.inj printed).2).2.symm
    · rw [dialogue_inquiry line found asked] at printed
      exact errorLine_ne_empty _ (Transcript.mk.inj (Outcome.finished.inj printed).2).2.symm
  · rw [agrees_iff_transcript line found asks, runText_text, Report.transcript_placed_iff,
      Report.position?_placed, and_iff_right asks]
    constructor
    · intro unmoved position told
      obtain ⟨before, inside, moved⟩ := Option.map_eq_some_iff.mp told
      obtain ⟨offset, rfl⟩ := Report.exists_position inside
      obtain rfl : line.place offset = position := Int.ofNat.inj moved
      exact (line.place_eq_iff offset).mp (unmoved offset inside)
    · intro unpadded position told
      refine (line.place_eq_iff position).mpr (unpadded (line.place position) ?_)
      rw [told]
      rfl

end Comparison

/-! ### The main result -/

/-- **What a dialogue prints for a line, and what the run of the line prints.** -/
structure Compared (line : Line) (around : Surroundings) (profile : Profile) (settings : Settings) :
    Prop where
  /-- The run prints the report of the line. -/
  run : line.run around profile =
    .finished (runText settings line.text).exit (runText settings line.text).transcript
  /-- The report of the line is that of its core, with the position moved to where the core stands. -/
  report : runText settings line.text = (runText settings (String.ofList line.core)).placed line.place
  /-- The dialogue prints the report of the core, in which the position counts from the start of the
  core. -/
  dialogue : ¬ line.Asks →
    let printed := (runText settings (String.ofList line.core)).transcript
    line.dialogue around profile = .finished 0 ⟨prompt ++ printed.out ++ prompt ++ "\n", printed.err⟩
  /-- A request between blanks is one to the dialogue, and a stray character to the run. -/
  asks : line.Asks →
    (line.dialogue around profile = .finished 0 ⟨prompt, ""⟩ ∨
      line.dialogue around profile = .finished 0 ⟨prompt ++ prompt ++ "\n", ""⟩) ∧
    line.run around profile =
      .finished 1 ⟨"", errorLine (colonAt (leading line.chars).length).headline⟩
  /-- The two agree if and only if the line is no request between blanks, and no blank stands before the
  position that is told, nor behind it if it is the end of the line. -/
  agrees : line.Agrees around profile ↔ ¬ line.Asks ∧
    ∀ position : Nat, (runText settings line.text).position? = some position →
      leading line.chars = [] ∧ (line.chars.length ≤ position → trailing line.chars = [])

variable {around : Surroundings} {profile : Profile} {settings : Settings}

/-- **Every line is answered as it is run, but for the blanks around it.** -/
theorem compared (line : Line) (found : profile.settings around = .ok settings) :
    line.Compared around profile settings where
  run := line.run_eq found
  report := line.runText_text settings
  dialogue ordinary := line.dialogue_eq found ordinary
  asks asks := by
    refine ⟨?_, line.run_asks found asks⟩
    exact asks.imp (line.dialogue_farewell found) (line.dialogue_inquiry found)
  agrees := line.agrees_iff found

/-- Blanks around a name that is not bound do not tell, for no position is told. -/
theorem compared_unbound :
    let line : Line :=
      ⟨['\t', 'x', ' '], by simp, ⟨'x', by decide, by decide⟩, by decide, by decide⟩
    let around : Surroundings := ⟨⟨fun _ => none, fun _ => ""⟩, ⟨none, none, none⟩, ""⟩
    let profile : Profile := ⟨none, "."⟩
    profile.settings around = .ok .standard ∧ (leading line.chars).length = 1 ∧
      line.Agrees around profile := by
  intro line around profile
  have found : profile.settings around = .ok .standard := rfl
  have silent : (runText .standard line.text).position? = none := by decide +kernel
  refine ⟨found, by decide, (line.compared found).agrees.mpr ⟨?_, fun position told => ?_⟩⟩
  · rintro (asked | asked) <;> exact absurd asked (by decide)
  · rw [silent] at told
    cases told

/-- **A dialogue and a run do not agree on every line.** Behind a blank, the dialogue tells a position one
short of where the stray character stands in the line. -/
theorem dollar_disagrees :
    let line : Line := ⟨[' ', '$'], by simp, ⟨'$', by decide, by decide⟩, by decide, by decide⟩
    let around : Surroundings := ⟨⟨fun _ => none, fun _ => ""⟩, ⟨none, none, none⟩, ""⟩
    let profile : Profile := ⟨none, "."⟩
    profile.settings around = .ok .standard ∧
      line.run around profile =
        .finished 1 ⟨"", "Lex error at position 1: unexpected character '$'\n"⟩ ∧
      line.dialogue around profile =
        .finished 0 ⟨"abacus> abacus> \n", "Lex error at position 0: unexpected character '$'\n"⟩ ∧
      ¬ line.Agrees around profile := by
  intro line around profile
  have found : profile.settings around = .ok .standard := rfl
  have ordinary : ¬ line.Asks := by
    rintro (asked | asked) <;> exact absurd asked (by decide)
  have whole : runText .standard line.text = .failed ⟨.lexical, "unexpected character '$'", some 1⟩ := by
    decide +kernel
  have inside : runText .standard (String.ofList line.core) =
      .failed ⟨.lexical, "unexpected character '$'", some 0⟩ := by decide +kernel
  have plain (message : String) (free : escape ∉ message.toList) :
      errorLine message = message ++ "\n" := by
    rw [errorLine, Text.withoutSequences_eq_self free, String.ofList_toList]
  have ran : line.run around profile =
      .finished 1 ⟨"", "Lex error at position 1: unexpected character '$'\n"⟩ := by
    rw [line.run_eq found, whole]
    exact congrArg (fun err => Outcome.finished 1 ⟨"", err⟩) (plain _ (by decide))
  have answered : line.dialogue around profile = .finished 0
      ⟨"abacus> abacus> \n", "Lex error at position 0: unexpected character '$'\n"⟩ := by
    rw [line.dialogue_eq found ordinary, inside]
    exact congrArg (fun err => Outcome.finished 0 ⟨"abacus> abacus> \n", err⟩) (plain _ (by decide))
  refine ⟨found, ran, answered, ?_⟩
  rintro ⟨exit, transcript, ran', answered'⟩
  obtain ⟨-, rfl⟩ := Outcome.finished.inj (ran.symm.trans ran')
  have err := (Transcript.mk.inj (Outcome.finished.inj (answered.symm.trans answered')).2).2
  exact absurd err (by decide)

end Line

end Calculator
