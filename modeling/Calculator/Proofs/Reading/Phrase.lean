/-
**Places and phrases.**

* `Phrase.leads`: the tokens of a phrase, nested no deeper than the limit, lead from the place where
  the phrase is due to the place behind it, where its tree waits.
* `Place.Spells`: the tokens let go before a place are those of phrases whose trees wait in it;
  `Place.Spells.shift`: every move keeps it.
* `Place.Spells.whole`: behind a factor and outside all parentheses, all tokens let go are those of
  one expression.

The first is completeness and the others are soundness. A place does not keep derivations, so
`Spells` says only that there are some.
-/

import Calculator.Proofs.Reading.Place

namespace Calculator

/-! ### Phrases lead from place to place -/

/-- The tokens of a tree lead from the place where a phrase is due to the place behind it. -/
def Leads (limit : Int) (outer : List Level) : Goal → List Lexeme → Expr → Prop
  | .factor, lexemes, tree => ∀ level,
    follow (Place.move limit) ⟨outer, level, .operand⟩ lexemes =
      some ⟨outer, level, .operator tree⟩
  | .term, lexemes, tree => ∀ sum, ∃ product factor,
    follow (Place.move limit) ⟨outer, ⟨sum, none⟩, .operand⟩ lexemes =
      some ⟨outer, ⟨sum, product⟩, .operator factor⟩ ∧ Level.combine product factor = tree
  | .expression, lexemes, tree => ∃ level factor,
    follow (Place.move limit) ⟨outer, .empty, .operand⟩ lexemes =
      some ⟨outer, level, .operator factor⟩ ∧ Place.total level factor = tree

namespace Leads

variable {limit : Int} {outer : List Level} {lexemes : List Lexeme} {tree : Expr}

theorem group {inner : List Lexeme} (room : outer.length < limit.toNat)
    (leads : ∀ level, Leads limit (level :: outer) .expression inner tree) :
    Leads limit outer .factor (.symbol .leftParen :: (inner ++ [.symbol .rightParen])) tree := by
  intro level
  obtain ⟨level', factor, reached, same⟩ := leads level
  have entered : Place.move limit ⟨outer, level, .operand⟩ (.symbol .leftParen) =
      .shift (Place.opened outer level) := Place.move_eq_shift_iff.mpr (.enter room)
  have left : Place.move limit ⟨level :: outer, level', .operator factor⟩ (.symbol .rightParen) =
      .shift ⟨outer, level, .operator tree⟩ := by
    rw [← same]
    exact Place.move_eq_shift_iff.mpr (.leave level)
  rw [follow_cons entered, Place.opened, follow_append reached, follow_cons left, follow_nil]

theorem first {operand level : Goal} (operands : Operands operand level)
    (leads : Leads limit outer operand lexemes tree) : Leads limit outer level lexemes tree := by
  cases operands with
  | factors => exact fun sum => ⟨none, tree, leads ⟨sum, none⟩, rfl⟩
  | terms =>
    obtain ⟨product, factor, reached, same⟩ := leads none
    exact ⟨⟨none, product⟩, factor, reached, same⟩

theorem more {operand level : Goal} (operands : Operands operand level) {op : Operator}
    (binds : op.level = level) {lexemes' : List Lexeme} {tree' : Expr}
    (left : Leads limit outer level lexemes tree) (right : Leads limit outer operand lexemes' tree') :
    Leads limit outer level (lexemes ++ op.lexeme :: lexemes') (.binary op tree tree') := by
  cases operands with
  | factors =>
    intro sum
    obtain ⟨product, factor, reached, rfl⟩ := left sum
    refine ⟨some (Level.combine product factor, op), tree', ?_, rfl⟩
    have shifted : Place.move limit ⟨outer, ⟨sum, product⟩, .operator factor⟩ op.lexeme =
        .shift ⟨outer, ⟨sum, some (Level.combine product factor, op)⟩, .operand⟩ :=
      Place.move_eq_shift_iff.mpr (.multiply binds)
    rw [follow_append reached, follow_cons shifted]
    exact right _
  | terms =>
    obtain ⟨level, factor, reached, rfl⟩ := left
    obtain ⟨product, factor', reached', rfl⟩ := right (some (Place.total level factor, op))
    refine ⟨⟨some (Place.total level factor, op), product⟩, factor', ?_, rfl⟩
    have shifted : Place.move limit ⟨outer, level, .operator factor⟩ op.lexeme =
        .shift ⟨outer, ⟨some (Place.total level factor, op), none⟩, .operand⟩ :=
      Place.move_eq_shift_iff.mpr (.add binds)
    rw [follow_append reached, follow_cons shifted]
    exact reached'

end Leads

/-- **A phrase that nests no deeper than the limit leads to its tree.** -/
theorem Phrase.leads {limit : Int} {level : Goal} (phrase : Phrase level) {outer : List Level}
    (fits : outer.length + phrase.nesting ≤ limit.toNat) :
    Leads limit outer level phrase.lexemes phrase.tree := by
  induction phrase generalizing outer with
  | number value => exact fun level => follow_cons (Place.move_eq_shift_iff.mpr (.number value))
  | reference name => exact fun level => follow_cons (Place.move_eq_shift_iff.mpr (.reference name))
  | group inner ih =>
    rw [nesting] at fits
    refine Leads.group (by omega) fun level => ih ?_
    rw [List.length_cons]
    omega
  | first operands only ih => exact .first operands (ih fits)
  | more operands left op binds right ihLeft ihRight =>
    rw [nesting] at fits
    exact .more operands binds (ihLeft (by omega)) (ihRight (by omega))

/-! ### Places spell phrases -/

/-- The tokens of an operand that waits for its right one, if one does. -/
inductive Waiting (limit : Int) (depth : Nat) (level : Goal) :
    Option (Expr × Operator) → List Lexeme → Prop
  | none : Waiting limit depth level none []
  | some (left : Phrase level) (fits : depth + left.nesting ≤ limit.toNat) {op : Operator}
      (binds : op.level = level) :
      Waiting limit depth level (some (left.tree, op)) (left.lexemes ++ [op.lexeme])

/-- The tokens of the operands that wait on a level. -/
inductive Level.Spells (limit : Int) (depth : Nat) : Level → List Lexeme → Prop
  | mk {sum product : Option (Expr × Operator)} {front back : List Lexeme}
      (sums : Waiting limit depth .expression sum front)
      (products : Waiting limit depth .term product back) :
      Spells limit depth ⟨sum, product⟩ (front ++ back)

/-- The tokens let go before the innermost level. -/
inductive Enclosed (limit : Int) : List Level → List Lexeme → Prop
  | nil : Enclosed limit [] []
  | cons {outer : List Level} {level : Level} {front back : List Lexeme}
      (around : Enclosed limit outer front) (here : level.Spells limit outer.length back)
      (room : outer.length < limit.toNat) :
      Enclosed limit (level :: outer) (front ++ back ++ [.symbol .leftParen])

/-- The tokens of the last factor, if an operator is due. -/
inductive Phase.Spells (limit : Int) (depth : Nat) : Phase → List Lexeme → Prop
  | operand : Spells limit depth .operand []
  | operator (factor : Phrase .factor) (fits : depth + factor.nesting ≤ limit.toNat) :
      Spells limit depth (.operator factor.tree) factor.lexemes

/-- The tokens let go before a place. -/
inductive Place.Spells (limit : Int) : Place → List Lexeme → Prop
  | mk {outer : List Level} {level : Level} {phase : Phase} {front middle back : List Lexeme}
      (around : Enclosed limit outer front) (here : level.Spells limit outer.length middle)
      (last : phase.Spells limit outer.length back) :
      Spells limit ⟨outer, level, phase⟩ (front ++ middle ++ back)

/-- What waits, together with the operand it waits for, is a phrase. -/
theorem Waiting.combine {limit : Int} {depth : Nat} {operand level : Goal}
    (operands : Operands operand level) {waiting : Option (Expr × Operator)} {front : List Lexeme}
    (waits : Waiting limit depth level waiting front) (right : Phrase operand)
    (fits : depth + right.nesting ≤ limit.toNat) :
    ∃ whole : Phrase level, whole.tree = Level.combine waiting right.tree ∧
      whole.lexemes = front ++ right.lexemes ∧ depth + whole.nesting ≤ limit.toNat := by
  cases waits with
  | none => exact ⟨.first operands right, rfl, rfl, fits⟩
  | some left fitsLeft binds =>
    refine ⟨.more operands left _ binds right, rfl, ?_, ?_⟩
    · rw [Phrase.lexemes, List.append_assoc, List.singleton_append]
    · rw [Phrase.nesting]
      omega

/-- A level and the factor behind it are an expression. -/
theorem Level.Spells.total {limit : Int} {depth : Nat} {level : Level} {front : List Lexeme}
    (spells : level.Spells limit depth front) (factor : Phrase .factor)
    (fits : depth + factor.nesting ≤ limit.toNat) :
    ∃ whole : Phrase .expression, whole.tree = Place.total level factor.tree ∧
      whole.lexemes = front ++ factor.lexemes ∧ depth + whole.nesting ≤ limit.toNat := by
  obtain ⟨sums, products⟩ := spells
  obtain ⟨product, treeProduct, lexemesProduct, fitsProduct⟩ := products.combine .factors factor fits
  obtain ⟨whole, tree, lexemes, fits⟩ := sums.combine .terms product fitsProduct
  refine ⟨whole, ?_, ?_, fits⟩
  · rw [tree, treeProduct, Place.total]
  · rw [lexemes, lexemesProduct, List.append_assoc]

theorem Enclosed.length_le {limit : Int} {outer : List Level} {front : List Lexeme}
    (around : Enclosed limit outer front) : outer.length ≤ limit.toNat := by
  cases around with
  | nil => exact Nat.zero_le _
  | cons around here room => exact room

namespace Place

theorem Spells.start (limit : Int) : Spells limit start [] :=
  .mk .nil (.mk .none .none) .operand

/-- **Every move keeps what a place spells.** -/
theorem Spells.shift {limit : Int} {place next : Place} {lexemes : List Lexeme} {lexeme : Lexeme}
    (spells : place.Spells limit lexemes) (shifts : Shifts limit place lexeme next) :
    next.Spells limit (lexemes ++ [lexeme]) := by
  obtain @⟨outer, level, phase, front, middle, back, around, here, last⟩ := spells
  cases shifts with
  | number value =>
    cases last
    rw [List.append_nil]
    exact .mk around here (.operator (.number value) around.length_le)
  | reference name =>
    cases last
    rw [List.append_nil]
    exact .mk around here (.operator (.reference name) around.length_le)
  | enter room =>
    cases last
    rw [List.append_nil, ← List.append_nil (_ ++ _), ← List.append_nil (_ ++ _)]
    exact .mk (.cons around here room) (.mk .none .none) .operand
  | multiply binds =>
    cases last with
    | operator factor fits =>
      obtain @⟨sum, product, sums, products, spellsSum, spellsProduct⟩ := here
      obtain ⟨whole, tree, lexemes, fits⟩ := spellsProduct.combine .factors factor fits
      have waits : Waiting limit outer.length .term _ _ := .some whole fits binds
      rw [tree, lexemes] at waits
      have spells : Place.Spells limit _ _ := .mk around (.mk spellsSum waits) .operand
      simpa only [List.append_assoc, List.append_nil] using spells
  | add binds =>
    cases last with
    | operator factor fits =>
      obtain ⟨whole, tree, lexemes, fits⟩ := here.total factor fits
      have waits : Waiting limit outer.length .expression _ _ := .some whole fits binds
      rw [tree, lexemes] at waits
      have spells : Place.Spells limit _ _ := .mk around (.mk waits .none) .operand
      simpa only [List.append_assoc, List.append_nil] using spells
  | @leave outer inner value level =>
    cases last with
    | operator factor fits =>
      obtain ⟨whole, tree, lexemes, fits⟩ := here.total factor fits
      cases around with
      | cons outside inside room =>
        have groupFits : outer.length + (Phrase.group whole).nesting ≤ limit.toNat := by
          rw [List.length_cons] at fits
          rw [Phrase.nesting]
          omega
        have last : Phase.Spells limit outer.length _ _ := .operator (.group whole) groupFits
        rw [Phrase.tree, tree, Phrase.lexemes, lexemes] at last
        have spells : Place.Spells limit _ _ := .mk outside inside last
        simpa only [List.append_assoc, List.cons_append, List.nil_append] using spells

/-- Behind a factor and outside all parentheses, one expression has been let go. -/
theorem Spells.whole {limit : Int} {level : Level} {factor : Expr} {lexemes : List Lexeme}
    (spells : Place.Spells limit ⟨[], level, .operator factor⟩ lexemes) :
    ∃ whole : Phrase .expression, whole.tree = total level factor ∧ whole.lexemes = lexemes ∧
      whole.nesting ≤ limit.toNat := by
  obtain @⟨_, _, _, _, _, _, around, here, last⟩ := spells
  cases around
  cases last with
  | operator factor fits =>
    obtain ⟨whole, tree, lexemes, fits⟩ := here.total factor fits
    rw [List.length_nil, Nat.zero_add] at fits
    exact ⟨whole, tree, lexemes, fits⟩

end Place
end Calculator
