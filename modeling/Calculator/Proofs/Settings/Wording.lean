/-
**Whatever is wrong with a text from the environment can be put into words.**

* `Text.ofDigits_lt`, `Text.isSpellable_of_read`: an integer that is read takes few enough digits to be
  written.
* `Wordable`: every failure of a result can be put into words; it holds of two steps in a row if it holds
  of each.
* `Settings.override_wordable`, `Settings.withPolicy_wordable`: it holds of settings with other texts.
* `Settings.checkKeys_eq_ok_iff`, `Settings.checkKeys_wordable`: which keys are refused, and that they can
  be named.

The limit of what is read and that of what is written are the same, so a number from the environment can
stand in a message. A number from a file may be in base sixteen, where no limit is read.
-/

import Calculator.Settings.Overrides

namespace Calculator

/-! ### Integers -/

namespace Text

theorem decimalDigit?_lt {c : Char} {digit : Nat} (read : decimalDigit? c = some digit) :
    digit < 10 := by
  obtain ⟨range, -, rfl⟩ := Option.map_eq_some_iff.mp read
  exact Nat.mod_lt _ (by decide)

theorem digitRun_lt {text : List Char} {digits : List Nat} (read : digitRun text = some digits) :
    ∀ digit ∈ digits, digit < 10 := by
  fun_induction digitRun text generalizing digits with
  | case1 => cases read
  | case2 c =>
    obtain ⟨digit, first, rfl⟩ := Option.map_eq_some_iff.mp read
    exact List.forall_mem_singleton.mpr (decimalDigit?_lt first)
  | case3 c rest ih | case4 c rest _ _ ih =>
    obtain ⟨digit, first, read⟩ := Option.bind_eq_some_iff.mp read
    obtain ⟨more, further, read⟩ := Option.bind_eq_some_iff.mp read
    cases read
    exact List.forall_mem_cons.mpr ⟨decimalDigit?_lt first, ih further⟩

theorem foldl_digits_lt {digits : List Nat} (small : ∀ digit ∈ digits, digit < 10) (value : Nat) :
    digits.foldl (fun value digit => 10 * value + digit) value <
      (value + 1) * Nat.pow 10 digits.length := by
  induction digits generalizing value with
  | nil => exact Nat.lt_of_lt_of_eq value.lt_succ_self (Nat.mul_one _).symm
  | cons digit rest ih =>
    obtain ⟨first, small⟩ := List.forall_mem_cons.mp small
    calc rest.foldl (fun value digit => 10 * value + digit) (10 * value + digit)
        < (10 * value + digit + 1) * Nat.pow 10 rest.length := ih small _
      _ ≤ ((value + 1) * 10) * Nat.pow 10 rest.length := Nat.mul_le_mul_right _ (by omega)
      _ = (value + 1) * (Nat.pow 10 rest.length * 10) := by rw [Nat.mul_assoc, Nat.mul_comm 10]

/-- Digits spell a number below the power of ten that they have places for. -/
theorem ofDigits_lt {digits : List Nat} {places : Nat} (small : ∀ digit ∈ digits, digit < 10)
    (fits : digits.length ≤ places) : ofDigits digits < Nat.pow 10 places := by
  have bound := foldl_digits_lt small 0
  rw [Nat.zero_add, Nat.one_mul] at bound
  exact Nat.lt_of_lt_of_le bound (Nat.pow_le_pow_right (by decide) fits)

theorem readNatural_lt {text : List Char} {number : Nat} (read : readNatural text = some number) :
    number < Nat.pow 10 digitLimit := by
  obtain ⟨digits, run, read⟩ := Option.bind_eq_some_iff.mp read
  split at read
  · next short =>
    cases read
    exact ofDigits_lt (digitRun_lt run) short
  · cases read

/-- **An integer that is read can be written.** -/
theorem isSpellable_of_read {text : List Char} {number : Int}
    (read : readInteger text = some number) : isSpellable number = true := by
  have signed : ∃ unsigned natural, readNatural unsigned = some natural ∧
      number.natAbs = natural := by
    unfold readInteger at read
    split at read <;>
    · obtain ⟨value, spelled, rfl⟩ := Option.map_eq_some_iff.mp read
      obtain ⟨natural, found, same⟩ := Option.bind_eq_some_iff.mp spelled
      cases same
      exact ⟨_, natural, found, by simp⟩
  obtain ⟨unsigned, natural, found, same⟩ := signed
  rw [isSpellable, same]
  exact decide_eq_true (readNatural_lt found)

end Text

/-! ### Results -/

/-- Every failure of the result can be put into words. -/
def Wordable {α : Type} (result : Except SettingsError α) : Prop :=
  ∀ e, result = .error e → e.isDisplayable = true

namespace Wordable

variable {α β : Type}

theorem ok (value : α) : Wordable (.ok value) := fun _ failed => nomatch failed

theorem error {e : SettingsError} (displayable : e.isDisplayable = true) :
    Wordable (.error e : Except SettingsError α) := by
  rintro _ ⟨⟩
  exact displayable

theorem bind {first : Except SettingsError α} {second : α → Except SettingsError β}
    (left : Wordable first) (right : ∀ value, first = .ok value → Wordable (second value)) :
    Wordable (first >>= second) := by
  cases first with
  | error e => exact error (left e rfl)
  | ok value => exact right value rfl

/-- Failures that can be put into words are reported in them. -/
theorem map {first : Except SettingsError α} (left : Wordable first) (f : α → β) :
    Wordable (first.map f) := by
  cases first with
  | error e => exact error (left e rfl)
  | ok value => exact ok (f value)

/-- What is there or not is read or left out. -/
theorem mapM {value : Option α} {read : α → Except SettingsError β}
    (each : ∀ value, Wordable (read value)) : Wordable (value.mapM read) := by
  cases value with
  | none => exact ok none
  | some value => exact (each value).map some

end Wordable

/-- What is read from something that may be absent is read from something. -/
theorem mapM_eq_some {α β : Type} {value : Option α} {read : α → Except SettingsError β} {result : β}
    (found : value.mapM read = .ok (some result)) : ∃ value, read value = .ok result := by
  cases value with
  | none => cases found
  | some value =>
    change (read value).map some = _ at found
    cases done : read value with
    | error e =>
      rw [done] at found
      cases found
    | ok other =>
      rw [done] at found
      cases found
      exact ⟨value, done⟩

/-! ### Texts from the environment -/

theorem DivisionPolicy.ofText_wordable (text : String) :
    Wordable (DivisionPolicy.ofValue (.text text)) := by
  unfold ofValue
  split
  · exact .ok _
  · exact .ok _
  · exact .error rfl

namespace Limit

variable {limit : Limit} {text : String} {number : Int}

theorem positive_wordable (spellable : Text.isSpellable number = true) :
    Wordable (limit.positive number) := by
  unfold positive
  split
  · exact .ok _
  · exact .error spellable

theorem readText_wordable : Wordable (limit.readText text) := by
  unfold readText
  split
  · exact .ok _
  · exact .error rfl

theorem isSpellable_of_readText (read : limit.readText text = .ok number) :
    Text.isSpellable number = true := by
  unfold readText at read
  split at read
  · next found =>
    cases read
    exact Text.isSpellable_of_read found
  · cases read

theorem readOptionalText_wordable : Wordable (limit.readOptionalText text) := by
  unfold readOptionalText
  split
  · exact .ok _
  · exact readText_wordable.map some

theorem isSpellable_of_readOptionalText (read : limit.readOptionalText text = .ok (some number)) :
    Text.isSpellable number = true := by
  unfold readOptionalText at read
  split at read
  · cases read
  · cases found : limit.readText text with
    | error e =>
      rw [found] at read
      cases read
    | ok other =>
      rw [found] at read
      cases read
      exact isSpellable_of_readText found

end Limit

namespace Settings

/-- The policy that a text sets, or the one set before. -/
def divisionOr (settings : Settings) : Option String → Except SettingsError DivisionPolicy
  | none => .ok settings.division
  | some text => DivisionPolicy.ofValue (.text (normalWord text))

/-- The nesting that an integer allows, or that allowed before. -/
def maxDepthOr (settings : Settings) : Option Int → Except SettingsError Positive
  | none => .ok settings.maxDepth
  | some number => Limit.depth.positive number

/-- The budget that an integer sets, or the one set before. -/
def maxStepsOr (settings : Settings) : Option (Option Int) → Except SettingsError (Option Positive)
  | none => .ok settings.maxSteps
  | some none => .ok none
  | some (some number) => (Limit.steps.positive number).map some

/-- The texts are read as integers first, and then each setting is chosen by itself. -/
theorem override_eq (settings : Settings) (texts : Overrides) :
    settings.override texts =
      (texts.maxDepth.mapM Limit.depth.readText >>= fun depth =>
        texts.maxSteps.mapM Limit.steps.readOptionalText >>= fun steps =>
          settings.divisionOr texts.division >>= fun division =>
            settings.maxDepthOr depth >>= fun maxDepth =>
              settings.maxStepsOr steps >>= fun maxSteps =>
                .ok ⟨division, maxDepth, maxSteps⟩) := by
  unfold override
  congr 1
  funext depth
  congr 1
  funext steps
  rcases texts.division with _ | text <;> rcases depth with _ | number <;>
    rcases steps with _ | _ | budget <;> rfl

theorem divisionOr_wordable (settings : Settings) (text : Option String) :
    Wordable (settings.divisionOr text) := by
  cases text with
  | none => exact .ok _
  | some text => exact DivisionPolicy.ofText_wordable _

theorem maxDepthOr_wordable (settings : Settings) {depth : Option Int}
    (spellable : ∀ number, depth = some number → Text.isSpellable number = true) :
    Wordable (settings.maxDepthOr depth) := by
  cases depth with
  | none => exact .ok _
  | some number => exact Limit.positive_wordable (spellable number rfl)

theorem maxStepsOr_wordable (settings : Settings) {steps : Option (Option Int)}
    (spellable : ∀ number, steps = some (some number) → Text.isSpellable number = true) :
    Wordable (settings.maxStepsOr steps) := by
  rcases steps with _ | _ | number
  · exact .ok _
  · exact .ok _
  · exact (Limit.positive_wordable (spellable number rfl)).map some

/-- **Whatever is wrong with the texts can be put into words**, since a limit comes from an integer that was
read. -/
theorem override_wordable (settings : Settings) (texts : Overrides) :
    Wordable (settings.override texts) := by
  rw [override_eq]
  refine .bind ?depth fun depth depthRead => .bind ?steps fun steps stepsRead =>
    .bind (settings.divisionOr_wordable _) fun _ _ =>
    .bind (settings.maxDepthOr_wordable ?_) fun _ _ =>
    .bind (settings.maxStepsOr_wordable ?_) fun _ _ => .ok _
  case depth =>
    exact .mapM fun _ => Limit.readText_wordable
  case steps =>
    exact .mapM fun _ => Limit.readOptionalText_wordable
  · rintro number rfl
    obtain ⟨text, read⟩ := mapM_eq_some depthRead
    exact Limit.isSpellable_of_readText read
  · rintro number rfl
    obtain ⟨text, read⟩ := mapM_eq_some stepsRead
    exact Limit.isSpellable_of_readOptionalText read

theorem withPolicy_wordable (settings : Settings) (name : String) :
    Wordable (settings.withPolicy name) :=
  .bind (DivisionPolicy.ofText_wordable _) fun _ _ => .ok _

end Settings

/-! ### Keys -/

theorem mem_sortedOnce {key : String} {texts : List String} :
    key ∈ sortedOnce texts ↔ key ∈ texts := by
  rw [sortedOnce, List.mem_mergeSort, List.mem_eraseDups]

namespace Settings

/-- Keys are refused unless all of them are known. -/
theorem checkKeys_eq_ok_iff {place : String} {found : List String} :
    checkKeys place found = .ok () ↔ ∀ key ∈ found, key ∈ keys := by
  have unknown (key : String) : key ∈ sortedOnce (found.filter fun key => !keys.contains key) ↔
      key ∈ found ∧ key ∉ keys := by
    rw [mem_sortedOnce, List.mem_filter, Bool.not_eq_true', List.contains_eq_mem, decide_eq_false_iff_not]
  unfold checkKeys
  split
  · next none =>
    refine ⟨fun _ key member => Decidable.byContradiction fun other => ?_, fun _ => rfl⟩
    have member := (unknown key).mpr ⟨member, other⟩
    rw [none] at member
    cases member
  · next unknowns some =>
    refine ⟨nofun, fun known => absurd ?_ some⟩
    refine List.eq_nil_iff_forall_not_mem.mpr fun key member => ?_
    obtain ⟨member, other⟩ := (unknown key).mp member
    exact other (known key member)

theorem checkKeys_wordable (place : String) (found : List String) :
    Wordable (checkKeys place found) := by
  unfold checkKeys
  split
  · exact .ok _
  · exact .error rfl

end Settings

end Calculator
