/-
**Scanning is the longest match.**

* `Word`: a token with the characters that write it; `Word.Stands`: the text has these characters
  where the token says, and the token cannot be read on behind them.
* `Munched`: words, one behind the other, take up all but the blanks between two offsets of a text.
* `Obstacle`: a place of a text where no token can be read, and why.
* `exists_munched`: every text is taken up by words, to its end or to an obstacle.
* `Munched.run_eq`: a scanner goes along the words, whatever stands behind them.
* `scanText_munched`: a text is scanned to the tokens of its words, or it fails at its obstacle.

All offsets count from the start of the whole text. The words of a text are said without the scanner,
and the scanner is shown to follow them; that a text has no other words comes out of this.
-/

import Calculator.Proofs.Token.Written

namespace Calculator

open Text (isBlank)

/-! ### Words -/

/-- A token with the characters that write it. -/
structure Word where
  token : Token
  chars : List Char

namespace Word

/-- The offset of the first character. -/
def start (word : Word) : Nat := word.token.position

/-- The offset behind the last character. -/
def stop (word : Word) : Nat := word.start + word.chars.length

/-- The text has the characters of the word where its token says, and the token cannot be read on
behind them. -/
structure Stands (text : List Char) (word : Word) : Prop where
  writes : word.token.lexeme.Writes word.chars
  found : (text.drop word.start).take word.chars.length = word.chars
  longest : word.token.lexeme.Ends (text.drop word.stop)

end Word

/-- Only blanks stand between two offsets of a text. -/
def BlankBetween (text : List Char) (start stop : Nat) : Prop :=
  ∀ offset c, start ≤ offset → offset < stop → text[offset]? = some c → isBlank c = true

/-- The words, one behind the other, take up all but the blanks between two offsets of a text. -/
structure Munched (text : List Char) (start : Nat) (words : List Word) (stop : Nat) : Prop where
  stands : ∀ word ∈ words, word.Stands text
  ordered : words.Pairwise fun first second => first.stop ≤ second.start
  between : ∀ word ∈ words, start ≤ word.start ∧ word.stop ≤ stop
  /-- A character outside the words is a blank. -/
  blank : ∀ offset c, start ≤ offset → offset < stop → text[offset]? = some c →
    (∀ word ∈ words, offset < word.start ∨ word.stop ≤ offset) → isBlank c = true

/-- How many characters are passed over where no token can be read: the digits, but no stray character. -/
def ScanFault.passed : ScanFault → Nat
  | .strayCharacter => 0
  | .numberTooLarge digits => digits

/-- A place where no token can be read. -/
inductive Obstacle (text : List Char) : ScanError → Prop
  /-- The character is no blank, and no token starts with it. -/
  | strayCharacter {c : Char} {offset : Nat} (here : text[offset]? = some c)
      (notBlank : isBlank c = false) (notDigit : c.isDigit = false) (notLetter : c.isAlpha = false)
      (notSymbol : Symbol.ofChar? c = none) : Obstacle text ⟨c, offset, .strayCharacter⟩
  /-- The digits, as many as stand there, spell a number that no finite one is nearest to. -/
  | numberTooLarge {c : Char} {more : List Char} {offset : Nat}
      (digits : ∀ d ∈ c :: more, d.isDigit = true)
      (found : (text.drop offset).take (c :: more).length = c :: more)
      (longest : ∀ d ∈ (text.drop (offset + (c :: more).length)).head?, d.isDigit = false)
      (infinite : Binary64.ofNatural? (Binary64.naturalOf (c :: more)) = none) :
      Obstacle text ⟨c, offset, .numberTooLarge (c :: more).length⟩

/-! ### Places of a text -/

section Places

variable {text chars : List Char} {start stop : Nat} {c : Char}

theorem drop_of_found (found : (text.drop start).take chars.length = chars) :
    text.drop start = chars ++ text.drop (start + chars.length) := by
  have parts := List.take_append_drop chars.length (text.drop start)
  rw [found, List.drop_drop] at parts
  exact parts.symm

theorem le_of_found (found : (text.drop start).take chars.length = chars)
    (nonempty : 0 < chars.length) : start + chars.length ≤ text.length := by
  have length := congrArg List.length found
  rw [List.length_take, List.length_drop] at length
  omega

theorem drop_of_here (here : text[start]? = some c) : text.drop start = c :: text.drop (start + 1) := by
  obtain ⟨inside, rfl⟩ := List.getElem?_eq_some_iff.mp here
  exact List.drop_eq_getElem_cons inside

/-- The characters that satisfy `p` from a place on, as many as stand there. -/
theorem exists_stretch {p : Char → Bool} (here : text[start]? = some c) (holds : p c = true) :
    ∃ more, (∀ d ∈ c :: more, p d = true) ∧ (text.drop start).take (c :: more).length = c :: more ∧
      ∀ d ∈ (text.drop (start + (c :: more).length)).head?, p d = false := by
  have front : (text.drop start).takeWhile p = c :: (text.drop (start + 1)).takeWhile p := by
    rw [drop_of_here here, List.takeWhile_cons_of_pos holds]
  refine ⟨(text.drop (start + 1)).takeWhile p, ?_⟩
  rw [← front]
  have found := (List.prefix_iff_eq_take.mp (List.takeWhile_prefix (l := text.drop start) p)).symm
  refine ⟨fun d member => List.all_eq_true.mp List.all_takeWhile d member, found, ?_⟩
  have parts : (text.drop start).takeWhile p ++ (text.drop start).dropWhile p = text.drop start :=
    List.takeWhile_append_dropWhile
  have behind := List.append_cancel_left (parts.trans (drop_of_found found))
  intro d follows
  have fails := List.head?_dropWhile_not p (text.drop start)
  rw [behind, Option.mem_def.mp follows] at fails
  exact fails

namespace BlankBetween

/-- No offset lies between the two. -/
theorem of_le (order : stop ≤ start) : BlankBetween text start stop :=
  fun _ _ low high => absurd (Nat.lt_of_lt_of_le high order) (Nat.not_lt.mpr low)

theorem cons (here : text[start]? = some c) (white : isBlank c = true)
    (blank : BlankBetween text (start + 1) stop) : BlankBetween text start stop := by
  intro offset d low high found
  rcases Nat.eq_or_lt_of_le low with rfl | later
  · rw [here] at found
    cases found
    exact white
  · exact blank offset d later high found

/-- The blanks as a list of their own. -/
theorem exists_gap (order : start ≤ stop) (bound : stop ≤ text.length)
    (blank : BlankBetween text start stop) :
    ∃ gap, text.drop start = gap ++ text.drop stop ∧ start + gap.length = stop ∧
      ∀ c ∈ gap, isBlank c = true := by
  obtain ⟨length, rfl⟩ := Nat.exists_eq_add_of_le order
  refine ⟨(text.drop start).take length, ?_, ?_, fun c member => ?_⟩
  · rw [← List.drop_drop, List.take_append_drop]
  · rw [List.length_take, List.length_drop]
    omega
  · obtain ⟨index, found⟩ := List.mem_iff_getElem?.mp member
    rw [List.getElem?_take] at found
    split at found
    · next inside =>
      rw [List.getElem?_drop] at found
      exact blank _ c (Nat.le_add_right ..) (Nat.add_lt_add_left inside _) found
    · cases found

end BlankBetween

namespace Word

variable {word : Word}

theorem Stands.start_lt_stop (stands : word.Stands text) : word.start < word.stop := by
  obtain ⟨c, more, chars, -⟩ := stands.writes.exists_head
  rw [stop, chars, List.length_cons]
  omega

theorem Stands.stop_le (stands : word.Stands text) : word.stop ≤ text.length := by
  have positive := stands.start_lt_stop
  unfold stop at *
  exact le_of_found stands.found (by omega)

end Word

end Places

/-! ### Words one behind the other -/

namespace Munched

variable {text : List Char} {start stop : Nat} {word : Word} {words : List Word}

theorem nil_iff : Munched text start [] stop ↔ BlankBetween text start stop := by
  constructor
  · intro munched offset c low high found
    exact munched.blank offset c low high found (List.forall_mem_nil _)
  · intro blank
    exact ⟨List.forall_mem_nil _, .nil, List.forall_mem_nil _,
      fun offset c low high found _ => blank offset c low high found⟩

/-- Before the first word there are blanks, and the other words go on behind it. -/
theorem uncons (munched : Munched text start (word :: words) stop) :
    word.Stands text ∧ start ≤ word.start ∧ word.stop ≤ stop ∧
      BlankBetween text start word.start ∧ Munched text word.stop words stop := by
  obtain ⟨stands, others⟩ := List.forall_mem_cons.mp munched.stands
  obtain ⟨behind, ordered⟩ := List.pairwise_cons.mp munched.ordered
  obtain ⟨⟨low, high⟩, within⟩ := List.forall_mem_cons.mp munched.between
  have size := stands.start_lt_stop
  refine ⟨stands, low, high, ?_, others, ordered, ?_, ?_⟩
  · intro offset c after before found
    refine munched.blank offset c after (by omega) found ?_
    refine List.forall_mem_cons.mpr ⟨.inl before, fun later member => .inl ?_⟩
    have := behind later member
    omega
  · exact fun later member => ⟨behind later member, (within later member).2⟩
  · intro offset c after before found outside
    refine munched.blank offset c (by omega) before found ?_
    exact List.forall_mem_cons.mpr ⟨.inr after, outside⟩

theorem cons (stands : word.Stands text) (low : start ≤ word.start) (high : word.stop ≤ stop)
    (blank : BlankBetween text start word.start) (munched : Munched text word.stop words stop) :
    Munched text start (word :: words) stop where
  stands := List.forall_mem_cons.mpr ⟨stands, munched.stands⟩
  ordered := List.pairwise_cons.mpr
    ⟨fun later member => (munched.between later member).1, munched.ordered⟩
  between := by
    have size := stands.start_lt_stop
    refine List.forall_mem_cons.mpr ⟨⟨low, high⟩, fun later member => ?_⟩
    have within := munched.between later member
    exact ⟨by omega, within.2⟩
  blank := by
    intro offset c after before found outside
    obtain ⟨here, others⟩ := List.forall_mem_cons.mp outside
    rcases here with left | right
    · exact blank offset c after left found
    · exact munched.blank offset c right before found others

end Munched

/-- An obstacle is a character of the text. -/
theorem Obstacle.position_lt {text : List Char} {e : ScanError} (stuck : Obstacle text e) :
    e.position < text.length := by
  cases stuck with
  | strayCharacter here => exact (List.getElem?_eq_some_iff.mp here).1
  | numberTooLarge digits found =>
    refine Nat.lt_of_not_le fun behind => ?_
    rw [List.drop_of_length_le behind] at found
    cases found

/-- The characters that an obstacle passes over are characters of the text. -/
theorem Obstacle.passed_le {text : List Char} {e : ScanError} (stuck : Obstacle text e) :
    e.position + e.fault.passed ≤ text.length := by
  cases stuck with
  | strayCharacter here => exact Nat.le_of_lt (List.getElem?_eq_some_iff.mp here).1
  | numberTooLarge digits found => exact le_of_found found (Nat.zero_lt_succ _)

/-! ### Every text is taken up -/

section Existence

variable {text : List Char} {start : Nat} {c : Char}

/-- At a character that is no blank a word starts, or no token can be read there. -/
theorem exists_word_or_obstacle (here : text[start]? = some c) (notBlank : isBlank c = false) :
    (∃ word, Word.Stands text word ∧ word.start = start) ∨
      ∃ e, Obstacle text e ∧ e.position = start := by
  cases digit : c.isDigit with
  | true =>
    obtain ⟨more, digits, found, longest⟩ := exists_stretch here digit
    cases number : Binary64.ofNatural? (Binary64.naturalOf (c :: more)) with
    | some value =>
      have writes : (Lexeme.number value).Writes (c :: more) :=
        .number (List.cons_ne_nil _ _) digits number
      exact .inl ⟨⟨⟨.number value, start⟩, c :: more⟩, ⟨writes, found, longest⟩, rfl⟩
    | none => exact .inr ⟨_, .numberTooLarge digits found longest number, rfl⟩
  | false =>
    cases letter : c.isAlpha with
    | true =>
      obtain ⟨more, name, found, longest⟩ := exists_stretch here (Scanner.isNameChar_of_isAlpha letter)
      have writes : (Lexeme.identifier (String.ofList (c :: more))).Writes (c :: more) :=
        .identifier letter fun d member => name d (List.mem_cons_of_mem c member)
      exact .inl ⟨⟨⟨_, start⟩, c :: more⟩, ⟨writes, found, longest⟩, rfl⟩
    | false =>
      cases symbol : Symbol.ofChar? c with
      | some which =>
        obtain rfl := Symbol.ofChar?_eq_some_iff.mp symbol
        have found : (text.drop start).take 1 = [which.char] := by rw [drop_of_here here]; rfl
        exact .inl ⟨⟨⟨.symbol which, start⟩, [which.char]⟩, ⟨.symbol which, found, True.intro⟩, rfl⟩
      | none => exact .inr ⟨_, .strayCharacter here notBlank digit letter symbol, rfl⟩

/-- Behind some blanks the text ends, a word starts, or no token can be read. -/
theorem exists_next (text : List Char) (start : Nat) :
    BlankBetween text start text.length ∨
      (∃ word, Word.Stands text word ∧ start ≤ word.start ∧ BlankBetween text start word.start) ∨
      ∃ e, Obstacle text e ∧ start ≤ e.position ∧ BlankBetween text start e.position := by
  induction left : text.length - start generalizing start with
  | zero => exact .inl (.of_le (by omega))
  | succ left ih =>
    obtain ⟨c, here⟩ : ∃ c, text[start]? = some c := ⟨_, List.getElem?_eq_getElem (by omega)⟩
    cases white : isBlank c with
    | true =>
      rcases ih (start + 1) (by omega) with ends | ⟨word, stands, low, blank⟩ | ⟨e, stuck, low, blank⟩
      · exact .inl (ends.cons here white)
      · exact .inr (.inl ⟨word, stands, by omega, blank.cons here white⟩)
      · exact .inr (.inr ⟨e, stuck, by omega, blank.cons here white⟩)
    | false =>
      rcases exists_word_or_obstacle here white with ⟨word, stands, rfl⟩ | ⟨e, stuck, rfl⟩
      · exact .inr (.inl ⟨word, stands, Nat.le_refl _, .of_le (Nat.le_refl _)⟩)
      · exact .inr (.inr ⟨e, stuck, Nat.le_refl _, .of_le (Nat.le_refl _)⟩)

/-- **Every text is taken up by words, to its end or to an obstacle.** -/
theorem exists_munched (text : List Char) (start : Nat) (inside : start ≤ text.length) :
    (∃ words, Munched text start words text.length) ∨
      ∃ e, Obstacle text e ∧ start ≤ e.position ∧ ∃ words, Munched text start words e.position := by
  induction left : text.length - start using Nat.strongRecOn generalizing start with
  | ind left ih =>
    rcases exists_next text start with ends | ⟨word, stands, low, blank⟩ | ⟨e, stuck, low, blank⟩
    · exact .inl ⟨[], Munched.nil_iff.mpr ends⟩
    · have size := stands.start_lt_stop
      have bound := stands.stop_le
      rcases ih (text.length - word.stop) (by omega) word.stop bound rfl with
        ⟨words, munched⟩ | ⟨e, stuck, further, words, munched⟩
      · exact .inl ⟨word :: words, munched.cons stands low bound blank⟩
      · exact .inr ⟨e, stuck, by omega, word :: words, munched.cons stands low further blank⟩
    · exact .inr ⟨e, stuck, low, [], Munched.nil_iff.mpr blank⟩

end Existence

/-! ### The scanner goes along -/

namespace Scanner

/-- A cursor at an offset of a text. -/
def atOffset (text : List Char) (offset : Nat) : Scanner := ⟨offset, text.drop offset⟩

theorem run_congr {s s' : Scanner} (same : s.next = s'.next) : s.run = s'.run := by
  rcases read : s.next with ⟨e | token, after⟩
  · rw [run_of_error read, run_of_error (same.symm.trans read)]
  · by_cases last : token.kind = .endOfInput
    · rw [run_of_end read last, run_of_end (same.symm.trans read) last]
    · rw [run_of_token read last, run_of_token (same.symm.trans read) last]

variable {text : List Char} {start stop : Nat}

theorem atOffset_length (text : List Char) : atOffset text text.length = ⟨text.length, []⟩ := by
  rw [atOffset, List.drop_length]

/-- Blanks are passed over. -/
theorem next_atOffset (order : start ≤ stop) (bound : stop ≤ text.length)
    (blank : BlankBetween text start stop) :
    (atOffset text start).next = (atOffset text stop).next := by
  obtain ⟨gap, split, length, white⟩ := blank.exists_gap order bound
  rw [atOffset, atOffset, split, next_append start white, length]

/-- A word is scanned to its token. -/
theorem next_of_stands {word : Word} (stands : word.Stands text) (low : start ≤ word.start)
    (blank : BlankBetween text start word.start) :
    (atOffset text start).next = (.ok word.token, atOffset text word.stop) := by
  have bound : word.start ≤ text.length :=
    Nat.le_trans (Nat.le_of_lt stands.start_lt_stop) stands.stop_le
  have read := next_of_writes word.start (List.forall_mem_nil _) stands.writes stands.longest
  rw [next_atOffset low bound blank, atOffset, drop_of_found stands.found]
  exact read

theorem scan_strayCharacter {c : Char} (s : Scanner) (notDigit : c.isDigit = false)
    (notLetter : c.isAlpha = false) (notSymbol : Symbol.ofChar? c = none) :
    s.scan c = (.error ⟨c, s.offset, .strayCharacter⟩, s) := by
  rw [scan, notDigit, notLetter, if_neg Bool.false_ne_true, if_neg Bool.false_ne_true, notSymbol]

theorem scan_numberTooLarge {c : Char} {more rest : List Char} (offset : Nat)
    (digits : ∀ d ∈ c :: more, d.isDigit = true) (stops : ∀ d ∈ rest.head?, d.isDigit = false)
    (infinite : Binary64.ofNatural? (Binary64.naturalOf (c :: more)) = none) :
    (Scanner.mk offset (c :: more ++ rest)).scan c =
      (.error ⟨c, offset, .numberTooLarge (c :: more).length⟩,
        ⟨offset + (c :: more).length, rest⟩) := by
  rw [scan, if_pos (digits c List.mem_cons_self), pass_run digits stops, number]
  dsimp only
  rw [takeWhile_run digits stops, infinite, Option.elim_none]

/-- At an obstacle no token is scanned, and the characters that it passes over are passed over. -/
theorem next_at_obstacle {e : ScanError} (stuck : Obstacle text e) :
    (atOffset text e.position).next = (.error e, atOffset text (e.position + e.fault.passed)) := by
  have noGap : ∀ c ∈ ([] : List Char), isBlank c = true := List.forall_mem_nil _
  cases stuck with
  | @strayCharacter c offset here notBlank notDigit notLetter notSymbol =>
    rw [ScanFault.passed, Nat.add_zero, atOffset, drop_of_here here]
    exact (next_of_head offset noGap notBlank).trans (scan_strayCharacter _ notDigit notLetter notSymbol)
  | @numberTooLarge c more offset digits found longest infinite =>
    have name := isNameChar_of_isDigit (digits c List.mem_cons_self)
    rw [ScanFault.passed, atOffset, drop_of_found found]
    exact (next_of_head offset noGap (isBlank_of_isNameChar name)).trans
      (scan_numberTooLarge offset digits longest infinite)

theorem next_of_obstacle {e : ScanError} (stuck : Obstacle text e) :
    ∃ after, (atOffset text e.position).next = (.error e, after) :=
  ⟨_, next_at_obstacle stuck⟩

end Scanner

/-- **A scanner goes along the words of a text, whatever stands behind them.** -/
theorem Munched.run_eq {text : List Char} {start stop : Nat} {words : List Word}
    (munched : Munched text start words stop) (order : start ≤ stop) (bound : stop ≤ text.length) :
    (Scanner.atOffset text start).run.tokens =
        words.map Word.token ++ (Scanner.atOffset text stop).run.tokens ∧
      (Scanner.atOffset text start).run.failure = (Scanner.atOffset text stop).run.failure := by
  induction words generalizing start with
  | nil =>
    rw [Scanner.run_congr (Scanner.next_atOffset order bound (nil_iff.mp munched))]
    exact ⟨rfl, rfl⟩
  | cons word words ih =>
    obtain ⟨stands, low, high, blank, others⟩ := munched.uncons
    obtain ⟨tokens, failure⟩ := ih others high
    have notEnd := mt Lexeme.kind_eq_endOfInput_iff.mp stands.writes.ne_endOfInput
    rw [Scanner.run_of_token (Scanner.next_of_stands stands low blank) notEnd]
    exact ⟨congrArg _ tokens, failure⟩

/-! ### Whole texts -/

/-- A text that is taken up to its end is scanned to the tokens of its words. -/
theorem Munched.scanText_eq_ok {source : String} {words : List Word}
    (munched : Munched source.toList 0 words source.length) :
    scanText source = .ok (words.map Word.token ++ [⟨.endOfInput, source.length⟩]) := by
  obtain ⟨tokens, failure⟩ := munched.run_eq (Nat.zero_le _) (Nat.le_refl _)
  have read : (Scanner.atOffset source.toList source.length).next =
      (.ok ⟨.endOfInput, source.length⟩, ⟨source.length, []⟩) := by
    rw [← String.length_toList, Scanner.atOffset_length]
    exact Scanner.next_of_blank _ (List.forall_mem_nil _)
  rw [Scanner.run_of_end read rfl] at tokens failure
  exact scanText_eq_ok_iff.mpr ⟨failure, tokens⟩

/-- A text that is taken up to an obstacle fails there. -/
theorem Obstacle.scanText_eq_error {source : String} {words : List Word} {e : ScanError}
    (stuck : Obstacle source.toList e) (munched : Munched source.toList 0 words e.position) :
    scanText source = .error e := by
  obtain ⟨after, read⟩ := Scanner.next_of_obstacle stuck
  obtain ⟨-, failure⟩ := munched.run_eq (Nat.zero_le _) (Nat.le_of_lt stuck.position_lt)
  rw [Scanner.run_of_error read] at failure
  exact scanText_eq_error_iff.mpr failure

/-- Words one behind the other start at increasing offsets, and before the end. -/
theorem Munched.increasing {text : List Char} {start stop : Nat} {words : List Word} {last : Lexeme}
    (munched : Munched text start words stop) :
    ((words.map Word.token ++ [Token.mk last stop]).map Token.position).Pairwise (· < ·) := by
  have apart : words.Pairwise fun first second => first.start < second.start :=
    munched.ordered.imp_of_mem fun first _ order =>
      Nat.lt_of_lt_of_le (munched.stands _ first).start_lt_stop order
  rw [List.map_append, List.map_map, List.pairwise_append]
  refine ⟨List.pairwise_map.mpr apart, List.pairwise_singleton _ _, fun place member behind isLast => ?_⟩
  obtain ⟨word, inside, rfl⟩ := List.mem_map.mp member
  obtain rfl := List.mem_singleton.mp isLast
  exact Nat.lt_of_lt_of_le (munched.stands word inside).start_lt_stop (munched.between word inside).2

theorem exists_words_of_scanText {source : String} {tokens : List Token}
    (scanned : scanText source = .ok tokens) :
    ∃ words, Munched source.toList 0 words source.length ∧
      tokens = words.map Word.token ++ [⟨.endOfInput, source.length⟩] := by
  rcases exists_munched source.toList 0 (Nat.zero_le _) with
    ⟨words, munched⟩ | ⟨e, stuck, -, words, munched⟩
  · rw [String.length_toList] at munched
    exact ⟨words, munched, Except.ok.inj (scanned.symm.trans munched.scanText_eq_ok)⟩
  · cases scanned.symm.trans (stuck.scanText_eq_error munched)

theorem exists_obstacle_of_scanText {source : String} {e : ScanError}
    (failed : scanText source = .error e) :
    Obstacle source.toList e ∧ ∃ words, Munched source.toList 0 words e.position := by
  rcases exists_munched source.toList 0 (Nat.zero_le _) with
    ⟨words, munched⟩ | ⟨e', stuck, -, words, munched⟩
  · rw [String.length_toList] at munched
    cases failed.symm.trans munched.scanText_eq_ok
  · obtain rfl := Except.error.inj (failed.symm.trans (stuck.scanText_eq_error munched))
    exact ⟨stuck, words, munched⟩

/-- **Scanning is the longest match.** A text is scanned to tokens if and only if words, each as long
as can be and one behind the other, take up all of it but the blanks; the tokens are those of the words,
with the end of input behind them, and their offsets increase. It fails if and only if words take it up
in this way to an obstacle, and the failure tells the offset and the character there. -/
theorem scanText_munched (source : String) :
    (∀ tokens, scanText source = .ok tokens ↔
      ∃ words, Munched source.toList 0 words source.length ∧
        tokens = words.map Word.token ++ [⟨.endOfInput, source.length⟩]) ∧
    (∀ tokens, scanText source = .ok tokens → (tokens.map Token.position).Pairwise (· < ·)) ∧
    ∀ e, scanText source = .error e ↔
      Obstacle source.toList e ∧ ∃ words, Munched source.toList 0 words e.position := by
  refine ⟨fun tokens => ⟨exists_words_of_scanText, ?_⟩, fun tokens scanned => ?_,
    fun e => ⟨exists_obstacle_of_scanText, ?_⟩⟩
  · rintro ⟨words, munched, rfl⟩
    exact munched.scanText_eq_ok
  · obtain ⟨words, munched, rfl⟩ := exists_words_of_scanText scanned
    exact munched.increasing
  · rintro ⟨stuck, words, munched⟩
    exact stuck.scanText_eq_error munched

end Calculator
