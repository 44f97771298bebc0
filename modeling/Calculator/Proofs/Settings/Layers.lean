/-
**Each setting is taken from the first place that makes it.**

* `Setting`: a setting, with the variable and the key that make it and what it is if neither does.
* `Setting.Valid`: what stands in these places means something; `Setting.Chosen`: what the setting comes to.
* `Settings.ofFields_eq_ok_iff`, `Settings.override_eq_ok_iff`: the settings of a table, and settings with the
  environment on top, each setting by itself.
* `Settings.checkKeys_of_unknown`: unknown keys are refused, all of them and in order.
* `Settings.resolve_layers`: settings are resolved if and only if every key is known and every place valid,
  and each of them is then the one chosen, whatever the others are.

What a table holds must mean something even where the environment has the last word, since the settings of
the table are made before the environment is looked at.
-/

import Calculator.Proofs.Settings.Escapes

namespace Calculator

open Text (readInteger lowercase)

/-! ### Settings and the places that make them -/

/-- A setting, with the places that make it. -/
structure Setting (α : Type) where
  variableName : String
  key : String
  standard : α
  /-- The text of the variable means this. -/
  textMeans : String → α → Prop
  /-- The value under the key means this. -/
  valueMeans : Value → α → Prop

namespace Setting

/-- What happens on a zero divisor. -/
def division : Setting DivisionPolicy where
  variableName := "ABACUS_DIVISION"
  key := "division"
  standard := .ieee
  textMeans text policy := normalWord text = policy.name
  valueMeans value policy := value = .text policy.name

/-- How deep parentheses may nest. -/
def maxDepth : Setting Positive where
  variableName := "ABACUS_MAX_DEPTH"
  key := "max_depth"
  standard := ⟨200, Nat.le_add_left 1 199⟩
  textMeans text limit := readInteger text.toList = some (limit.val : Int)
  valueMeans value limit := value = .integer limit.val

/-- The text says that there is to be no limit. -/
def IsUnlimited (text : String) : Prop := normalWord text = "none" ∨ normalWord text = "unlimited"

/-- How many nodes may be visited. -/
def maxSteps : Setting (Option Positive) where
  variableName := "ABACUS_MAX_STEPS"
  key := "max_steps"
  standard := none
  textMeans text
    | none => IsUnlimited text
    | some limit => ¬ IsUnlimited text ∧ readInteger text.toList = some (limit.val : Int)
  valueMeans value
    | none => value = .null
    | some limit => value = .integer limit.val

section Places

variable {α : Type} (setting : Setting α) (environment : String → Option String)
  (entries : List (String × Value))

/-- What stands in the places of the setting means something. -/
structure Valid : Prop where
  entry : ∀ value, entries.lookup setting.key = some value → ∃ a, setting.valueMeans value a
  text : ∀ text, environment setting.variableName = some text → text ≠ "" →
    ∃ a, setting.textMeans text a

/-- What the setting comes to: a variable that is not empty goes before the table, and the table before the
standard. -/
inductive Chosen : α → Prop
  | text {text : String} {a : α} (set : environment setting.variableName = some text) (filled : text ≠ "")
      (means : setting.textMeans text a) : Chosen a
  | entry {value : Value} {a : α}
      (unset : ∀ text, environment setting.variableName = some text → text = "")
      (found : entries.lookup setting.key = some value) (means : setting.valueMeans value a) : Chosen a
  | standard (unset : ∀ text, environment setting.variableName = some text → text = "")
      (missing : entries.lookup setting.key = none) : Chosen setting.standard

/-- What the table makes of the setting. -/
inductive Tabled : α → Prop
  | entry {value : Value} {a : α} (found : entries.lookup setting.key = some value)
      (means : setting.valueMeans value a) : Tabled a
  | standard (missing : entries.lookup setting.key = none) : Tabled setting.standard

/-- What a text that may be absent makes of a setting that was made before. -/
inductive Overridden (below : α) : Option String → α → Prop
  | text {text : String} {a : α} (means : setting.textMeans text a) : Overridden below (some text) a
  | kept : Overridden below none below

/-- The text of the variable, unless it is empty. -/
def text? : Option String := (environment setting.variableName).filter (· ≠ "")

variable {setting environment entries}

theorem text?_eq_some_iff {text : String} : setting.text? environment = some text ↔
    environment setting.variableName = some text ∧ text ≠ "" := by
  rw [text?, Option.filter_eq_some_iff, decide_eq_true_eq]

theorem text?_eq_none_iff : setting.text? environment = none ↔
    ∀ text, environment setting.variableName = some text → text = "" := by
  rw [text?, Option.filter_eq_none_iff]
  simp only [decide_eq_true_eq, Decidable.not_not]

/-- A setting that stands nowhere is valid. -/
theorem Valid.of_absent (unset : environment setting.variableName = none)
    (missing : entries.lookup setting.key = none) : setting.Valid environment entries where
  entry := by
    intro value found
    cases missing.symm.trans found
  text := by
    intro text set
    cases unset.symm.trans set

/-- **The table and then the environment make a setting if and only if all that stands there is valid**, and
they make of it what is chosen. -/
theorem tabled_overridden_iff {a : α} :
    (∃ below, setting.Tabled entries below ∧ setting.Overridden below (setting.text? environment) a) ↔
      setting.Valid environment entries ∧ setting.Chosen environment entries a := by
  constructor
  · rintro ⟨below, tabled, overridden⟩
    have entry : ∀ value, entries.lookup setting.key = some value → ∃ a, setting.valueMeans value a := by
      intro value found
      cases tabled with
      | entry found' means =>
        cases found.symm.trans found'
        exact ⟨below, means⟩
      | standard missing => cases found.symm.trans missing
    generalize read : setting.text? environment = text at overridden
    cases overridden with
    | text means =>
      obtain ⟨set, filled⟩ := text?_eq_some_iff.mp read
      refine ⟨⟨entry, fun other set' _ => ?_⟩, .text set filled means⟩
      cases set.symm.trans set'
      exact ⟨a, means⟩
    | kept =>
      have unset := text?_eq_none_iff.mp read
      refine ⟨⟨entry, fun text set filled => absurd (unset text set) filled⟩, ?_⟩
      cases tabled with
      | entry found means => exact .entry unset found means
      | standard missing => exact .standard unset missing
  · rintro ⟨valid, chosen⟩
    obtain ⟨below, tabled⟩ : ∃ below, setting.Tabled entries below := by
      cases found : entries.lookup setting.key with
      | none => exact ⟨_, .standard found⟩
      | some value =>
        obtain ⟨below, means⟩ := valid.entry value found
        exact ⟨below, .entry found means⟩
    cases chosen with
    | text set filled means =>
      rw [text?_eq_some_iff.mpr ⟨set, filled⟩]
      exact ⟨below, tabled, .text means⟩
    | entry unset found means =>
      rw [text?_eq_none_iff.mpr unset]
      exact ⟨a, .entry found means, .kept⟩
    | standard unset missing =>
      rw [text?_eq_none_iff.mpr unset]
      exact ⟨_, .standard missing, .kept⟩

/-- Where all that stands there is valid, something is chosen. -/
theorem Valid.exists_chosen (valid : setting.Valid environment entries) :
    ∃ a, setting.Chosen environment entries a := by
  cases read : setting.text? environment with
  | some text =>
    obtain ⟨set, filled⟩ := text?_eq_some_iff.mp read
    obtain ⟨a, means⟩ := valid.text text set filled
    exact ⟨a, .text set filled means⟩
  | none =>
    have unset := text?_eq_none_iff.mp read
    cases found : entries.lookup setting.key with
    | none => exact ⟨_, .standard unset found⟩
    | some value =>
      obtain ⟨a, means⟩ := valid.entry value found
      exact ⟨a, .entry unset found means⟩

end Places

end Setting

/-! ### Results -/

section Results

variable {ε ε' α β : Type}

theorem exceptBind_eq_ok_iff {first : Except ε α} {second : α → Except ε β} {y : β} :
    (first >>= second) = .ok y ↔ ∃ x, first = .ok x ∧ second x = .ok y := by
  cases first with
  | error e => exact iff_of_false (fun same => nomatch same) (fun ⟨_, same, _⟩ => nomatch same)
  | ok x =>
    constructor
    · exact fun done => ⟨x, rfl, done⟩
    · rintro ⟨x, ⟨⟩, done⟩
      exact done

theorem exceptMap_eq_ok_iff {result : Except ε α} {f : α → β} {y : β} :
    result.map f = .ok y ↔ ∃ x, result = .ok x ∧ f x = y := by
  cases result with
  | error e => exact iff_of_false (fun same => nomatch same) (fun ⟨_, same, _⟩ => nomatch same)
  | ok x =>
    constructor
    · rintro ⟨⟩
      exact ⟨x, rfl, rfl⟩
    · rintro ⟨x, ⟨⟩, rfl⟩
      rfl

theorem exceptMapError_eq_ok_iff {result : Except ε α} {f : ε → ε'} {x : α} :
    result.mapError f = .ok x ↔ result = .ok x := by
  cases result with
  | error e => exact iff_of_false (fun same => nomatch same) (fun same => nomatch same)
  | ok y =>
    show (Except.ok y : Except ε' α) = .ok x ↔ (Except.ok y : Except ε α) = .ok x
    rw [Except.ok.injEq, Except.ok.injEq]

end Results

/-! ### What values and texts mean -/

theorem DivisionPolicy.ofValue_eq_ok_iff {value : Value} {policy : DivisionPolicy} :
    ofValue value = .ok policy ↔ value = .text policy.name := by
  constructor
  · intro read
    unfold ofValue at read
    split at read
    · cases read
      rfl
    · cases read
      rfl
    · cases read
  · rintro rfl
    cases policy <;> rfl

theorem DivisionPolicy.ofText_eq_ok_iff {text : String} {policy : DivisionPolicy} :
    ofValue (.text text) = .ok policy ↔ text = policy.name := by
  rw [ofValue_eq_ok_iff, Value.text.injEq]

namespace Limit

variable {limit : Limit} {value : Value} {text : String} {number : Int} {bound : Positive}

theorem positive_eq_ok_iff : limit.positive number = .ok bound ↔ number = bound.val := by
  unfold positive
  split
  · next large =>
    rw [Except.ok.injEq, Subtype.ext_iff]
    dsimp only
    omega
  · next small =>
    refine iff_of_false (fun same => nomatch same) ?_
    rintro rfl
    have := bound.property
    omega

theorem ofValue_eq_ok_iff : limit.ofValue value = .ok bound ↔ value = .integer bound.val := by
  cases value with
  | integer number =>
    rw [Value.integer.injEq]
    exact positive_eq_ok_iff
  | _ => exact iff_of_false (fun same => nomatch same) (fun same => nomatch same)

theorem optional_eq_ok_iff {made : Option Positive} :
    Limit.steps.optional value = .ok made ↔ Setting.maxSteps.valueMeans value made := by
  by_cases absent : value = .null
  · subst absent
    cases made with
    | none => exact iff_of_true rfl rfl
    | some bound => exact iff_of_false (fun same => nomatch same) (fun same => nomatch same)
  · have there : Limit.steps.optional value = (Limit.steps.ofValue value).map some := by
      unfold optional
      split
      · exact absurd rfl absent
      · rfl
    rw [there, exceptMap_eq_ok_iff]
    cases made with
    | none => exact iff_of_false (fun ⟨_, _, same⟩ => nomatch same) absent
    | some bound =>
      simp only [Option.some.injEq, exists_eq_right]
      exact ofValue_eq_ok_iff

theorem readText_eq_ok_iff : limit.readText text = .ok number ↔ readInteger text.toList = some number := by
  unfold readText
  cases readInteger text.toList with
  | none => exact iff_of_false (fun same => nomatch same) (fun same => nomatch same)
  | some other => rw [Except.ok.injEq, Option.some.injEq]

theorem readOptionalText_eq_ok_iff {budget : Option Int} :
    limit.readOptionalText text = .ok budget ↔
      (Setting.IsUnlimited text ∧ budget = none) ∨
        (¬ Setting.IsUnlimited text ∧ ∃ number, readInteger text.toList = some number ∧
          budget = some number) := by
  unfold readOptionalText
  by_cases unlimited : Setting.IsUnlimited text
  · have word : normalWord text = "none" ∨ normalWord text = "unlimited" := unlimited
    rw [if_pos word, Except.ok.injEq]
    constructor
    · rintro rfl
      exact .inl ⟨unlimited, rfl⟩
    · rintro (⟨-, rfl⟩ | ⟨limited, -⟩)
      · rfl
      · exact absurd unlimited limited
  · have noWord : ¬ (normalWord text = "none" ∨ normalWord text = "unlimited") := unlimited
    rw [if_neg noWord, exceptMap_eq_ok_iff]
    constructor
    · rintro ⟨number, read, rfl⟩
      exact .inr ⟨unlimited, number, readText_eq_ok_iff.mp read, rfl⟩
    · rintro (⟨word, -⟩ | ⟨-, number, read, rfl⟩)
      · exact absurd word unlimited
      · exact ⟨number, readText_eq_ok_iff.mpr read, rfl⟩

end Limit

/-! ### Each setting by itself -/

namespace Settings

variable {settings made : Settings} {entries : List (String × Value)} {place : String}

theorem entryOr_eq_ok_iff {α : Type} (setting : Setting α) {read : Value → Except SettingsError α}
    (reads : ∀ value a, read value = .ok a ↔ setting.valueMeans value a) {a : α} :
    entryOr entries setting.key setting.standard read = .ok a ↔ setting.Tabled entries a := by
  unfold entryOr
  cases found : entries.lookup setting.key with
  | none =>
    constructor
    · rintro ⟨⟩
      exact .standard found
    · rintro (⟨found', -⟩ | -)
      · cases found.symm.trans found'
      · rfl
  | some value =>
    dsimp only
    rw [reads]
    constructor
    · exact .entry found
    · rintro (⟨found', means⟩ | missing)
      · cases found.symm.trans found'
        exact means
      · cases found.symm.trans missing

/-- **Each setting of a table is made by itself.** -/
theorem ofFields_eq_ok_iff : ofFields entries = .ok made ↔
    Setting.division.Tabled entries made.division ∧ Setting.maxDepth.Tabled entries made.maxDepth ∧
      Setting.maxSteps.Tabled entries made.maxSteps := by
  have steps : ofFields entries =
      (entryOr entries Setting.division.key Setting.division.standard DivisionPolicy.ofValue >>=
        fun division =>
        entryOr entries Setting.maxDepth.key Setting.maxDepth.standard Limit.depth.ofValue >>=
          fun maxDepth =>
          entryOr entries Setting.maxSteps.key Setting.maxSteps.standard Limit.steps.optional >>=
            fun maxSteps => .ok ⟨division, maxDepth, maxSteps⟩) := rfl
  rw [steps]
  simp only [exceptBind_eq_ok_iff, Except.ok.injEq,
    entryOr_eq_ok_iff .division fun _ _ => DivisionPolicy.ofValue_eq_ok_iff,
    entryOr_eq_ok_iff .maxDepth fun _ _ => Limit.ofValue_eq_ok_iff,
    entryOr_eq_ok_iff .maxSteps fun _ _ => Limit.optional_eq_ok_iff]
  constructor
  · rintro ⟨division, first, maxDepth, second, maxSteps, third, rfl⟩
    exact ⟨first, second, third⟩
  · rintro ⟨first, second, third⟩
    exact ⟨_, first, _, second, _, third, rfl⟩

theorem divisionOr_eq_ok_iff {text : Option String} {policy : DivisionPolicy} :
    settings.divisionOr text = .ok policy ↔
      Setting.division.Overridden settings.division text policy := by
  cases text with
  | none =>
    rw [divisionOr, Except.ok.injEq]
    constructor
    · rintro rfl
      exact .kept
    · rintro ⟨⟩
      rfl
  | some text =>
    rw [divisionOr, DivisionPolicy.ofText_eq_ok_iff]
    constructor
    · intro named
      exact .text (show Setting.division.textMeans text policy from named)
    · rintro ⟨means⟩
      exact means

theorem maxDepthOr_eq_ok_iff {text : Option String} {bound : Positive} :
    (∃ depth, text.mapM Limit.depth.readText = .ok depth ∧ settings.maxDepthOr depth = .ok bound) ↔
      Setting.maxDepth.Overridden settings.maxDepth text bound := by
  cases text with
  | none =>
    constructor
    · rintro ⟨depth, ⟨⟩, ⟨⟩⟩
      exact .kept
    · rintro ⟨⟩
      exact ⟨none, rfl, rfl⟩
  | some text =>
    have there : (some text).mapM Limit.depth.readText = (Limit.depth.readText text).map some := rfl
    rw [there]
    simp only [exceptMap_eq_ok_iff, Limit.readText_eq_ok_iff]
    constructor
    · rintro ⟨depth, ⟨number, read, rfl⟩, positive⟩
      obtain rfl := Limit.positive_eq_ok_iff.mp positive
      exact .text read
    · rintro ⟨means⟩
      exact ⟨_, ⟨_, means, rfl⟩, Limit.positive_eq_ok_iff.mpr rfl⟩

theorem maxStepsOr_eq_ok_iff {text : Option String} {budget : Option Positive} :
    (∃ steps, text.mapM Limit.steps.readOptionalText = .ok steps ∧
      settings.maxStepsOr steps = .ok budget) ↔
        Setting.maxSteps.Overridden settings.maxSteps text budget := by
  cases text with
  | none =>
    constructor
    · rintro ⟨steps, ⟨⟩, ⟨⟩⟩
      exact .kept
    · rintro ⟨⟩
      exact ⟨none, rfl, rfl⟩
  | some text =>
    have there : (some text).mapM Limit.steps.readOptionalText =
        (Limit.steps.readOptionalText text).map some := rfl
    rw [there]
    simp only [exceptMap_eq_ok_iff, Limit.readOptionalText_eq_ok_iff]
    constructor
    · rintro ⟨steps, ⟨number, ⟨unlimited, rfl⟩ | ⟨limited, integer, read, rfl⟩, rfl⟩, made⟩
      · cases made
        exact .text unlimited
      · obtain ⟨bound, positive, rfl⟩ := exceptMap_eq_ok_iff.mp made
        obtain rfl := Limit.positive_eq_ok_iff.mp positive
        exact .text ⟨limited, read⟩
    · rintro ⟨means⟩
      cases budget with
      | none => exact ⟨_, ⟨none, .inl ⟨means, rfl⟩, rfl⟩, rfl⟩
      | some bound =>
        have positive : Limit.steps.positive bound.val = .ok bound := Limit.positive_eq_ok_iff.mpr rfl
        refine ⟨_, ⟨_, .inr ⟨means.1, _, means.2, rfl⟩, rfl⟩, ?_⟩
        exact exceptMap_eq_ok_iff.mpr ⟨bound, positive, rfl⟩

/-- **Each setting is overridden by itself.** -/
theorem override_eq_ok_iff {texts : Overrides} : settings.override texts = .ok made ↔
    Setting.division.Overridden settings.division texts.division made.division ∧
      Setting.maxDepth.Overridden settings.maxDepth texts.maxDepth made.maxDepth ∧
      Setting.maxSteps.Overridden settings.maxSteps texts.maxSteps made.maxSteps := by
  rw [override_eq, ← divisionOr_eq_ok_iff, ← maxDepthOr_eq_ok_iff, ← maxStepsOr_eq_ok_iff]
  simp only [exceptBind_eq_ok_iff, Except.ok.injEq]
  constructor
  · rintro ⟨depth, first, steps, second, division, third, maxDepth, fourth, maxSteps, fifth, rfl⟩
    exact ⟨third, ⟨depth, first, fourth⟩, steps, second, fifth⟩
  · rintro ⟨third, ⟨depth, first, fourth⟩, steps, second, fifth⟩
    exact ⟨depth, first, steps, second, _, third, _, fourth, _, fifth, rfl⟩

/-- A policy that is named on the command line replaces the policy alone. -/
theorem withPolicy_eq_ok_iff {name : String} : settings.withPolicy name = .ok made ↔
    String.ofList (lowercase name.toList) = made.division.name ∧ made.maxDepth = settings.maxDepth ∧
      made.maxSteps = settings.maxSteps := by
  have steps : settings.withPolicy name =
      (DivisionPolicy.ofValue (.text (String.ofList (lowercase name.toList))) >>= fun division =>
        .ok { settings with division }) := rfl
  rw [steps]
  simp only [exceptBind_eq_ok_iff, Except.ok.injEq, DivisionPolicy.ofText_eq_ok_iff]
  constructor
  · rintro ⟨division, named, rfl⟩
    exact ⟨named, rfl, rfl⟩
  · rintro ⟨named, depth, steps⟩
    refine ⟨made.division, named, ?_⟩
    rw [← depth, ← steps]

end Settings

/-! ### Unknown keys -/

/-- Erasing repetitions leaves every member once. -/
theorem nodup_eraseDups (texts : List String) : texts.eraseDups.Nodup := by
  induction length : texts.length using Nat.strongRecOn generalizing texts with
  | ind bound ih =>
    cases texts with
    | nil => exact List.nodup_nil
    | cons text rest =>
      rw [List.eraseDups_cons, List.nodup_cons, List.mem_eraseDups, List.mem_filter]
      have shorter := List.length_filter_le (fun other => !other == text) rest
      rw [List.length_cons] at length
      refine ⟨?_, ih _ (by omega) _ rfl⟩
      rintro ⟨-, other⟩
      rw [BEq.rfl] at other
      cases other

/-- Each text stands before the greater ones. -/
theorem pairwise_sortedOnce (texts : List String) : (sortedOnce texts).Pairwise (· < ·) := by
  have distinct : (sortedOnce texts).Nodup :=
    (List.mergeSort_perm _ _).symm.nodup (nodup_eraseDups texts)
  have ordered : (sortedOnce texts).Pairwise fun first second => decide (first ≤ second) = true := by
    refine List.pairwise_mergeSort (fun first second third => ?_) (fun first second => ?_) _
    · simp only [decide_eq_true_eq]
      exact String.le_trans
    · simp only [Bool.or_eq_true, decide_eq_true_eq]
      exact String.le_total first second
  refine (List.pairwise_and_iff.mpr ⟨ordered, distinct⟩).imp fun {first second} both => ?_
  rw [← String.not_le]
  exact fun behind => both.2 (String.le_antisymm (of_decide_eq_true both.1) behind)

/-- **Unknown keys are refused, all of them and in order.** -/
theorem Settings.checkKeys_of_unknown {place : String} {found : List String}
    (unknown : ¬ ∀ key ∈ found, key ∈ keys) :
    ∃ others, checkKeys place found = .error (.unknownKeys place others) ∧
      others.Pairwise (· < ·) ∧ ∀ key, key ∈ others ↔ key ∈ found ∧ key ∉ keys := by
  refine ⟨sortedOnce (found.filter fun key => !keys.contains key), ?_, pairwise_sortedOnce _, fun key => ?_⟩
  · have refused := mt (@checkKeys_eq_ok_iff place found).mp unknown
    unfold checkKeys at refused ⊢
    split
    · next none =>
      rw [none] at refused
      exact absurd rfl refused
    · rfl
  · rw [mem_sortedOnce, List.mem_filter, Bool.not_eq_true', List.contains_eq_mem, decide_eq_false_iff_not]

/-! ### Directories -/

/-- The settings of a directory stand in a table, or nowhere, in which case the table has no entries. -/
inductive SelectsTable (disk : Disk) (root : Path) (place : String) :
    List (String × Value) → Prop
  | found {entries : List (String × Value)} (selects : Selects disk root (some (place, .table entries))) :
      SelectsTable disk root place entries
  | nowhere (selects : Selects disk root none) : SelectsTable disk root place []

namespace Settings

variable {disk : Disk} {root : Path} {place : String} {entries : List (String × Value)}
  {environment : String → Option String} {made : Settings}

theorem ofFiles_of_selectsTable (selects : SelectsTable disk root place entries) :
    ofFiles disk root = (ofEntries place entries).mapError .ofError := by
  cases selects with
  | found selects => rw [ofFiles_of_selects selects, ofSelection, ofSelected_table]
  | nowhere selects =>
    have known : checkKeys place [] = .ok () := checkKeys_eq_ok_iff.mpr (List.forall_mem_nil _)
    rw [ofFiles_of_selects selects, ofEntries, List.map_nil, known]
    rfl

theorem ofEntries_eq_ok_iff : ofEntries place entries = .ok made ↔
    (∀ key ∈ entries.map Prod.fst, key ∈ keys) ∧ ofFields entries = .ok made := by
  have steps : ofEntries place entries =
      (checkKeys place (entries.map Prod.fst) >>= fun _ => ofFields entries) := rfl
  rw [steps, exceptBind_eq_ok_iff, ← @checkKeys_eq_ok_iff place]
  exact ⟨fun ⟨(), known, fields⟩ => ⟨known, fields⟩, fun ⟨known, fields⟩ => ⟨(), known, fields⟩⟩

/-- **The settings of a directory, each by itself.** -/
theorem resolve_eq_ok_iff (selects : SelectsTable disk root place entries) :
    resolve disk root (.ofEnvironment environment) = .ok made ↔
      (∀ key ∈ entries.map Prod.fst, key ∈ keys) ∧
      (Setting.division.Valid environment entries ∧
        Setting.division.Chosen environment entries made.division) ∧
      (Setting.maxDepth.Valid environment entries ∧
        Setting.maxDepth.Chosen environment entries made.maxDepth) ∧
      (Setting.maxSteps.Valid environment entries ∧
        Setting.maxSteps.Chosen environment entries made.maxSteps) := by
  have steps : resolve disk root (.ofEnvironment environment) =
      (ofFiles disk root >>= fun settings =>
        (settings.override (.ofEnvironment environment)).mapError .ofError) := rfl
  rw [steps, ofFiles_of_selectsTable selects]
  simp only [exceptBind_eq_ok_iff, exceptMapError_eq_ok_iff, ofEntries_eq_ok_iff, ofFields_eq_ok_iff,
    override_eq_ok_iff, ← Setting.tabled_overridden_iff]
  constructor
  · rintro ⟨below, ⟨known, first, second, third⟩, first', second', third'⟩
    exact ⟨known, ⟨_, first, first'⟩, ⟨_, second, second'⟩, _, third, third'⟩
  · rintro ⟨known, ⟨division, first, first'⟩, ⟨maxDepth, second, second'⟩, maxSteps, third, third'⟩
    exact ⟨⟨division, maxDepth, maxSteps⟩, ⟨known, first, second, third⟩, first', second', third'⟩

/-- **Each setting is taken from the first place that makes it.** Let the settings of a directory stand in
a table, or nowhere. Settings are resolved if and only if every key of the table is known and all that
stands in the places of each setting is valid. Each setting is then what the environment makes of it, or
else the table, or else what it is by itself, whatever the others are. Where keys are unknown, these are
refused, all of them and in order, whatever else is wrong. A policy that is named on the command line
replaces the policy alone. -/
theorem resolve_layers (selects : SelectsTable disk root place entries)
    (environment : String → Option String) :
    let texts := Overrides.ofEnvironment environment
    let known := ∀ key ∈ entries.map Prod.fst, key ∈ keys
    ((∃ made, resolve disk root texts = .ok made) ↔
      known ∧ Setting.division.Valid environment entries ∧ Setting.maxDepth.Valid environment entries ∧
        Setting.maxSteps.Valid environment entries) ∧
    (∀ made, resolve disk root texts = .ok made →
      Setting.division.Chosen environment entries made.division ∧
        Setting.maxDepth.Chosen environment entries made.maxDepth ∧
        Setting.maxSteps.Chosen environment entries made.maxSteps) ∧
    (¬ known → ∃ others, resolve disk root texts = .error (.invalid (.unknownKeys place others)) ∧
      others.Pairwise (· < ·) ∧ ∀ key, key ∈ others ↔ key ∈ entries.map Prod.fst ∧ key ∉ keys) ∧
    ∀ (profile : Profile) (input : String), Path.ofText profile.directory = root →
      (profile.division = none → profile.settings ⟨disk, texts, input⟩ = resolve disk root texts) ∧
      ∀ name, profile.division = some name → ∀ made,
        profile.settings ⟨disk, texts, input⟩ = .ok made ↔
          ∃ loaded, resolve disk root texts = .ok loaded ∧
            String.ofList (lowercase name.toList) = made.division.name ∧
            made.maxDepth = loaded.maxDepth ∧ made.maxSteps = loaded.maxSteps := by
  intro texts known
  have resolved (made : Settings) := @resolve_eq_ok_iff _ _ _ _ environment made selects
  refine ⟨⟨?_, ?_⟩, fun made done => ?_, fun unknown => ?_, fun profile input same => ⟨fun unnamed => ?_, ?_⟩⟩
  · rintro ⟨made, done⟩
    obtain ⟨known, ⟨first, -⟩, ⟨second, -⟩, third, -⟩ := (resolved made).mp done
    exact ⟨known, first, second, third⟩
  · rintro ⟨known, first, second, third⟩
    obtain ⟨division, first'⟩ := first.exists_chosen
    obtain ⟨maxDepth, second'⟩ := second.exists_chosen
    obtain ⟨maxSteps, third'⟩ := third.exists_chosen
    refine ⟨⟨division, maxDepth, maxSteps⟩, (resolved _).mpr ?_⟩
    exact ⟨known, ⟨first, first'⟩, ⟨second, second'⟩, third, third'⟩
  · obtain ⟨-, ⟨-, first⟩, ⟨-, second⟩, -, third⟩ := (resolved made).mp done
    exact ⟨first, second, third⟩
  · obtain ⟨others, refused, ordered, members⟩ := @checkKeys_of_unknown place _ unknown
    refine ⟨others, ?_, ordered, members⟩
    have failed : ofEntries place entries = .error (.unknownKeys place others) := by
      rw [ofEntries, refused]
      rfl
    rw [resolve, ofFiles_of_selectsTable selects, failed]
    rfl
  · subst same
    unfold Profile.settings
    rw [unnamed]
    dsimp only
    generalize resolve disk _ texts = result
    cases result <;> rfl
  · subst same
    intro name named made
    have steps : profile.settings ⟨disk, texts, input⟩ =
        (resolve disk (Path.ofText profile.directory) texts >>= fun loaded =>
          (loaded.withPolicy name).mapError .ofError) := by
      unfold Profile.settings
      rw [named]
    rw [steps]
    simp only [exceptBind_eq_ok_iff, exceptMapError_eq_ok_iff, withPolicy_eq_ok_iff]

/-- The budget of the table is valid, and gives way to that of the environment. -/
theorem resolve_layers_unlimited :
    let disk : Disk := ⟨(Folder.mk [([ownFile], "max_steps = 9\n")]).find?, fun _ => ""⟩
    let environment (name : String) := [("ABACUS_MAX_STEPS", " Unlimited ")].lookup name
    SelectsTable disk (Path.ofText ".") "abacus.toml" [("max_steps", .integer 9)] ∧
      ∃ made, resolve disk (Path.ofText ".") (.ofEnvironment environment) = .ok made ∧
        made.maxSteps = none := by
  have named : Toml.key "max_steps = 9\n".toList = .ok (["max_steps"], ['=', ' ', '9', '\n']) := by
    unfold Toml.key
    rfl
  have number : Toml.value ['9', '\n'] = .ok (.integer 9, ['\n']) := by
    unfold Toml.value
    rfl
  have assigned : Toml.Document.statement ⟨[], []⟩ "max_steps = 9\n".toList =
      .ok (⟨[("max_steps", .leaf (.integer 9))], []⟩, ['\n']) := by
    show Toml.Document.assign ⟨[], []⟩ "max_steps = 9\n".toList = _
    rw [Toml.Document.assign, named]
    show (Toml.value ['9', '\n'] >>= _) = _
    rw [number]
    rfl
  have parsed : Toml.parse "max_steps = 9\n".toList = .ok [("max_steps", .integer 9)] := by
    show (Toml.Document.statements ⟨[], []⟩ "max_steps = 9\n".toList >>= _) = _
    rw [Toml.Document.statements]
    show (Toml.Document.statement ⟨[], []⟩ "max_steps = 9\n".toList >>= _) >>= _ = _
    rw [assigned]
    show (Toml.Document.statements _ [] >>= _) = _
    rw [Toml.Document.statements]
    rfl
  intro disk environment
  have holds : Tabulates disk ((Path.ofText ".").child ownFile) [("max_steps", .integer 9)] :=
    ⟨_, by decide +kernel, parsed⟩
  have selects : SelectsTable disk (Path.ofText ".") "abacus.toml" [("max_steps", .integer 9)] :=
    .found (.own holds)
  have word : environment Setting.maxSteps.variableName = some " Unlimited " := rfl
  have unlimited : Setting.IsUnlimited " Unlimited " := .inr (by decide +kernel)
  have maxSteps : Setting.maxSteps.Valid environment [("max_steps", .integer 9)] := by
    refine ⟨fun value found => ?_, fun text set _ => ?_⟩
    · cases found
      exact ⟨some ⟨9, by decide⟩, rfl⟩
    · cases word.symm.trans set
      exact ⟨none, unlimited⟩
  obtain ⟨succeeds, chosen, -, -⟩ := resolve_layers selects environment
  obtain ⟨⟨policy, depth, budget⟩, done⟩ :=
    succeeds.mpr ⟨by decide, .of_absent rfl rfl, .of_absent rfl rfl, maxSteps⟩
  obtain ⟨-, -, third⟩ := chosen _ done
  refine ⟨selects, _, done, ?_⟩
  cases third with
  | text set _ means =>
    cases word.symm.trans set
    cases budget with
    | none => rfl
    | some limit => exact absurd unlimited means.1
  | entry unset | standard unset => exact absurd (unset _ word) (by decide)

end Settings

end Calculator
