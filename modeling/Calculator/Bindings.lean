/-
**Variables and their values.**

* `Bindings`: names with values, in the order in which the names were first assigned.
* `lookup?_assign`: after an assignment the name has the new value and the others keep theirs.
* `names_assign`: an assignment to a bound name moves nothing, any other appends its name.
* `lookup?_eq_none_iff`: the names that have a value are the bound ones.
-/

namespace Calculator

/-! ### Pairs -/

/-- The pairs with a new value for a name, in its place or, if it has none, at the end. -/
def assignPair (name : String) (value : Float) : List (String × Float) → List (String × Float)
  | [] => [(name, value)]
  | (other, old) :: rest =>
    if other = name then (other, value) :: rest else (other, old) :: assignPair name value rest

/-- The value of a name in a list of pairs. -/
def lookupPair? (name : String) : List (String × Float) → Option Float
  | [] => none
  | (other, value) :: rest => if other = name then some value else lookupPair? name rest

theorem lookupPair?_assignPair (name other : String) (value : Float)
    (pairs : List (String × Float)) :
    lookupPair? other (assignPair name value pairs) =
      if name = other then some value else lookupPair? other pairs := by
  induction pairs with
  | nil => rfl
  | cons pair rest ih =>
    obtain ⟨key, old⟩ := pair
    unfold assignPair
    by_cases here : key = name
    · subst here
      simp only [if_true, lookupPair?]
      split <;> rfl
    · simp only [here, if_false, lookupPair?, ih]
      by_cases same : name = other
      · subst same
        simp only [here, if_false, if_true]
      · simp only [same, if_false]

theorem keys_assignPair (name : String) (value : Float) (pairs : List (String × Float)) :
    (assignPair name value pairs).map Prod.fst =
      if name ∈ pairs.map Prod.fst then pairs.map Prod.fst else pairs.map Prod.fst ++ [name] := by
  induction pairs with
  | nil => rfl
  | cons pair rest ih =>
    obtain ⟨other, old⟩ := pair
    unfold assignPair
    by_cases same : other = name
    · simp [same]
    · simp only [same, if_false, List.map_cons, ih, List.mem_cons, Ne.symm same, false_or,
        List.cons_append]
      split <;> rfl

theorem lookupPair?_eq_none_iff (name : String) (pairs : List (String × Float)) :
    lookupPair? name pairs = none ↔ name ∉ pairs.map Prod.fst := by
  induction pairs with
  | nil => exact iff_of_true rfl List.not_mem_nil
  | cons pair rest ih =>
    obtain ⟨other, value⟩ := pair
    unfold lookupPair?
    by_cases same : other = name
    · simp [same]
    · simp only [same, if_false, ih, List.map_cons, List.mem_cons, Ne.symm same, false_or]

/-! ### Bindings -/

/-- Names with values. No name is bound twice. -/
structure Bindings where
  pairs : List (String × Float)
  distinct : (pairs.map Prod.fst).Nodup
  deriving DecidableEq

namespace Bindings

/-- No name has a value. -/
def empty : Bindings := ⟨[], List.nodup_nil⟩

/-- The bound names, in the order of their first assignment. -/
def names (b : Bindings) : List String := b.pairs.map Prod.fst

/-- The value of a name. -/
def lookup? (b : Bindings) (name : String) : Option Float := lookupPair? name b.pairs

/-- The name has a value. -/
def contains (b : Bindings) (name : String) : Bool := (b.lookup? name).isSome

/-- How many names are bound. -/
def size (b : Bindings) : Nat := b.pairs.length

/-- Gives a name a value. -/
def assign (b : Bindings) (name : String) (value : Float) : Bindings where
  pairs := assignPair name value b.pairs
  distinct := by
    rw [keys_assignPair]
    split
    · exact b.distinct
    · next fresh =>
      refine List.nodup_append.mpr ⟨b.distinct, by simp, fun other member last isLast same => ?_⟩
      exact fresh (List.mem_singleton.mp isLast ▸ same ▸ member)

theorem names_assign (b : Bindings) (name : String) (value : Float) :
    (b.assign name value).names = if name ∈ b.names then b.names else b.names ++ [name] :=
  keys_assignPair name value b.pairs

/-- The names that have a value are the bound ones. -/
theorem lookup?_eq_none_iff (b : Bindings) (name : String) : b.lookup? name = none ↔ name ∉ b.names :=
  lookupPair?_eq_none_iff name b.pairs

theorem lookup?_assign (b : Bindings) (name other : String) (value : Float) :
    (b.assign name value).lookup? other = if name = other then some value else b.lookup? other :=
  lookupPair?_assignPair name other value b.pairs

end Bindings

end Calculator
