/-
**Reading an expression by recursive descent, with a counter of the open parentheses.**

* `Event`: what a reading does beside what it reads: it sets the counter, and it asks for tokens.
* `Production`: a rule of the grammar that is applied; `Descent`: an application of it, with its events.
* `Descent.restored`: however a rule ends, it leaves the counter as it found it.
* `Descent.bounded`: the counter stays within the limit.
* `exists_descent`: every rule can be applied to every window, and its application ends.

The counter goes up behind a parenthesis that has been let go, and down when the expression inside has been
read or has failed.
-/

import Calculator.Proofs.Reading.Course

namespace Calculator

/-! ### Events -/

/-- What a reading does beside what it reads. -/
inductive Event where
  /-- The counter of open parentheses is set. -/
  | count (value : Int)
  /-- The scanner is asked for a token. -/
  | pull (result : Except ScanError Token)

/-- What the scanner is asked for when the current token is let go, or when the one after it is looked at:
nothing, where that one has been looked at before. -/
def Window.pulls (w : Window) : List Event :=
  match w.ahead with
  | some _ => []
  | none => [.pull w.scanner.next.1]

theorem Window.count_not_mem_pulls {w : Window} {value : Int} : Event.count value ∉ w.pulls := by
  unfold pulls
  split
  · exact List.not_mem_nil
  · exact fun found => nomatch List.mem_singleton.mp found

/-! ### Rules -/

/-- A rule of the grammar that is applied. -/
inductive Production where
  /-- The rule for a goal. -/
  | start (goal : Goal)
  /-- The repetition in the rule for a goal, behind the operand `left`. -/
  | behind (goal : Goal) (left : Expr)

/-- What the rule reads. -/
def Production.goal : Production → Goal
  | .start goal | .behind goal _ => goal

/-- An application of a rule to a window with the counter at the first number. It comes to the reading with
the counter at the second, and the list has the events in between. -/
inductive Descent (limit : Int) : Production → Int → Window → List Event → Reading Expr → Int → Prop
  | number {depth : Int} {w : Window} {value : Float} (here : w.current.lexeme = .number value) :
      Descent limit (.start .factor) depth w w.pulls (w.shift.map fun _ => .number value) depth
  | reference {depth : Int} {w : Window} {name : String}
      (here : w.current.lexeme = .identifier name) :
      Descent limit (.start .factor) depth w w.pulls (w.shift.map fun _ => .reference name) depth
  | tooDeep {depth : Int} {w : Window} (here : w.current.lexeme = .symbol .leftParen)
      (deep : limit ≤ depth) :
      Descent limit (.start .factor) depth w []
        (.failed (.syntactic ⟨.operand, w.current.kind, w.current.position, some limit⟩) (.ready w))
        depth
  | unopened {depth : Int} {w : Window} {error : ReadError} {reader : Reader}
      (here : w.current.lexeme = .symbol .leftParen) (room : ¬ limit ≤ depth)
      (gone : w.shift = .failed error reader) :
      Descent limit (.start .factor) depth w w.pulls (.failed error reader) depth
  /-- The counter goes down although the expression between the parentheses fails. -/
  | insideFailed {depth depth₁ : Int} {w w₁ : Window} {token : Token} {events : List Event}
      {error : ReadError} {reader : Reader} (here : w.current.lexeme = .symbol .leftParen)
      (room : ¬ limit ≤ depth) (gone : w.shift = .done token w₁)
      (inside : Descent limit (.start .expression) (depth + 1) w₁ events (.failed error reader) depth₁) :
      Descent limit (.start .factor) depth w
        (w.pulls ++ .count (depth + 1) :: (events ++ [.count (depth₁ - 1)])) (.failed error reader)
        (depth₁ - 1)
  | unclosed {depth depth₁ : Int} {w w₁ w₂ : Window} {token : Token} {events : List Event} {value : Expr}
      (here : w.current.lexeme = .symbol .leftParen) (room : ¬ limit ≤ depth)
      (gone : w.shift = .done token w₁)
      (inside : Descent limit (.start .expression) (depth + 1) w₁ events (.done value w₂) depth₁)
      (notClosed : w₂.current.kind ≠ .symbol .rightParen) :
      Descent limit (.start .factor) depth w
        (w.pulls ++ .count (depth + 1) :: (events ++ [.count (depth₁ - 1)]))
        (.failed (w₂.current.refusal (.one (.symbol .rightParen))) (.ready w₂)) (depth₁ - 1)
  | group {depth depth₁ : Int} {w w₁ w₂ : Window} {token : Token} {events : List Event} {value : Expr}
      (here : w.current.lexeme = .symbol .leftParen) (room : ¬ limit ≤ depth)
      (gone : w.shift = .done token w₁)
      (inside : Descent limit (.start .expression) (depth + 1) w₁ events (.done value w₂) depth₁)
      (closed : w₂.current.kind = .symbol .rightParen) :
      Descent limit (.start .factor) depth w
        (w.pulls ++ .count (depth + 1) :: (events ++ .count (depth₁ - 1) :: w₂.pulls))
        (w₂.shift.map fun _ => value) (depth₁ - 1)
  | unfit {depth : Int} {w : Window} (noNumber : ∀ value, w.current.lexeme ≠ .number value)
      (noName : ∀ name, w.current.lexeme ≠ .identifier name)
      (noParen : w.current.lexeme ≠ .symbol .leftParen) :
      Descent limit (.start .factor) depth w [] (.failed (w.current.refusal .operand) (.ready w))
        depth
  | operandFailed {depth depth₁ : Int} {w : Window} {events : List Event} {operand goal : Goal}
      {error : ReadError} {reader : Reader} (operands : Operands operand goal)
      (first : Descent limit (.start operand) depth w events (.failed error reader) depth₁) :
      Descent limit (.start goal) depth w events (.failed error reader) depth₁
  | operand {depth depth₁ depth₂ : Int} {w w₁ : Window} {events events₁ : List Event}
      {operand goal : Goal} {left : Expr} {reading : Reading Expr} (operands : Operands operand goal)
      (first : Descent limit (.start operand) depth w events (.done left w₁) depth₁)
      (rest : Descent limit (.behind goal left) depth₁ w₁ events₁ reading depth₂) :
      Descent limit (.start goal) depth w (events ++ events₁) reading depth₂
  | ended {depth : Int} {w : Window} {goal : Goal} {left : Expr}
      (noOperator : ∀ op : Operator, op.level = goal → w.current.lexeme ≠ op.lexeme) :
      Descent limit (.behind goal left) depth w [] (.done left w) depth
  | stuck {depth : Int} {w : Window} {left : Expr} {op : Operator} {error : ReadError}
      {reader : Reader} (here : w.current.lexeme = op.lexeme)
      (gone : w.shift = .failed error reader) :
      Descent limit (.behind op.level left) depth w w.pulls (.failed error reader) depth
  | rightFailed {depth depth₁ : Int} {w w₁ : Window} {events : List Event} {operand : Goal}
      {left : Expr} {op : Operator} {token : Token} {error : ReadError} {reader : Reader}
      (here : w.current.lexeme = op.lexeme) (gone : w.shift = .done token w₁)
      (operands : Operands operand op.level)
      (right : Descent limit (.start operand) depth w₁ events (.failed error reader) depth₁) :
      Descent limit (.behind op.level left) depth w (w.pulls ++ events) (.failed error reader) depth₁
  | more {depth depth₁ depth₂ : Int} {w w₁ w₂ : Window} {events events₁ : List Event}
      {operand : Goal} {left value : Expr} {op : Operator} {token : Token} {reading : Reading Expr}
      (here : w.current.lexeme = op.lexeme) (gone : w.shift = .done token w₁)
      (operands : Operands operand op.level)
      (right : Descent limit (.start operand) depth w₁ events (.done value w₂) depth₁)
      (rest : Descent limit (.behind op.level (.binary op left value)) depth₁ w₂ events₁ reading
        depth₂) :
      Descent limit (.behind op.level left) depth w (w.pulls ++ (events ++ events₁)) reading depth₂

namespace Descent

variable {limit depth depth' : Int} {rule : Production} {w : Window} {events : List Event}
  {reading : Reading Expr}

/-! ### The counter -/

/-- **However a rule ends, it leaves the counter as it found it.** -/
theorem restored (descent : Descent limit rule depth w events reading depth') : depth' = depth := by
  induction descent with
  | number | reference | tooDeep | unopened | unfit | ended | stuck => rfl
  | insideFailed here room gone inside ih | unclosed here room gone inside _ ih
  | group here room gone inside _ ih => rw [ih, Int.add_sub_cancel]
  | operandFailed operands first ih => exact ih
  | operand operands first rest ihFirst ihRest => exact ihRest.trans ihFirst
  | rightFailed here gone operands right ih => exact ih
  | more here gone operands right rest ihRight ihRest => exact ihRest.trans ihRight

end Descent

/-- The counter is never set beyond the limit. -/
def Event.Within (limit : Int) (events : List Event) : Prop :=
  ∀ value, .count value ∈ events → value ≤ max limit 0

namespace Event.Within

variable {limit value : Int} {events events₁ events₂ : List Event}

theorem nil : Within limit [] := fun _ found => absurd found List.not_mem_nil

theorem pulls (w : Window) : Within limit w.pulls := fun _ found => absurd found w.count_not_mem_pulls

theorem append (first : Within limit events₁) (second : Within limit events₂) :
    Within limit (events₁ ++ events₂) :=
  fun value found => (List.mem_append.mp found).elim (first value) (second value)

theorem count (bound : value ≤ max limit 0) (within : Within limit events) :
    Within limit (.count value :: events) := by
  intro value' found
  cases List.mem_cons.mp found with
  | inl same => cases same; exact bound
  | inr later => exact within value' later

end Event.Within

namespace Descent

variable {limit depth depth' : Int} {rule : Production} {w : Window} {events : List Event}
  {reading : Reading Expr}

/-- **The counter stays within the limit.** -/
theorem bounded (descent : Descent limit rule depth w events reading depth')
    (start : depth ≤ max limit 0) : Event.Within limit events := by
  induction descent with
  | tooDeep | unfit | ended => exact .nil
  | number | reference | unopened | stuck => exact .pulls _
  | @insideFailed depth depth₁ w w₁ token events error reader here room gone inside ih
  | @unclosed depth depth₁ w w₁ w₂ token events value here room gone inside _ ih =>
    have opened : depth + 1 ≤ max limit 0 := by omega
    have closed : depth₁ - 1 ≤ max limit 0 := by rwa [inside.restored, Int.add_sub_cancel]
    exact .append (.pulls _) (.count opened (.append (ih opened) (.count closed .nil)))
  | @group depth depth₁ w w₁ w₂ token events value here room gone inside _ ih =>
    have opened : depth + 1 ≤ max limit 0 := by omega
    have closed : depth₁ - 1 ≤ max limit 0 := by rwa [inside.restored, Int.add_sub_cancel]
    exact .append (.pulls _) (.count opened (.append (ih opened) (.count closed (.pulls _))))
  | operandFailed operands first ih => exact ih start
  | operand operands first rest ihFirst ihRest =>
    exact .append (ihFirst start) (ihRest (first.restored ▸ start))
  | rightFailed here gone operands right ih => exact .append (.pulls _) (ih start)
  | more here gone operands right rest ihRight ihRest =>
    exact .append (.pulls _) (.append (ihRight start) (ihRest (right.restored ▸ start)))

end Descent

/-! ### Progress -/

/-- A rule that starts lets a token go, and a repetition none that it has not read. -/
def Production.Leaves (w w' : Window) : Production → Prop
  | .start _ => w'.remaining < w.remaining
  | .behind .. => w'.remaining ≤ w.remaining

theorem Window.shift_map_remaining {w w' : Window} {f : Token → Expr} {value : Expr}
    (notEnd : w.current.kind ≠ .endOfInput) (gone : w.shift.map f = .done value w') :
    w'.remaining < w.remaining := by
  cases shifted : w.shift with
  | done token next =>
    rw [shifted] at gone
    cases gone
    exact Window.shift_remaining_lt shifted notEnd
  | failed error reader =>
    rw [shifted] at gone
    cases gone

/-- **A rule that reads a value makes progress.** -/
theorem Descent.leaves {limit depth depth' : Int} {rule : Production} {w w' : Window} {events : List Event}
    {reading : Reading Expr} (descent : Descent limit rule depth w events reading depth') {value : Expr}
    (read : reading = .done value w') : rule.Leaves w w' := by
  induction descent generalizing value w' with
  | number here | reference here =>
    exact Window.shift_map_remaining (Token.kind_ne here Kind.noConfusion) read
  | tooDeep | unopened | insideFailed | unclosed | unfit | operandFailed | stuck | rightFailed =>
    cases read
  | group here room gone inside closed ih =>
    have opened := Window.shift_remaining_lt gone (Token.kind_ne here Kind.noConfusion)
    have within : _ < _ := ih rfl
    have behind := Window.shift_map_remaining (by rw [closed]; exact Kind.noConfusion) read
    exact Nat.lt_trans behind (Nat.lt_trans within opened)
  | operand operands first rest ihFirst ihRest =>
    have before : _ < _ := ihFirst rfl
    exact Nat.lt_of_le_of_lt (ihRest read) before
  | ended =>
    cases read
    exact Nat.le_refl _
  | more here gone operands right rest ihRight ihRest =>
    have before : _ < _ := ihRight rfl
    have after : _ ≤ _ := ihRest read
    have opened := Window.shift_remaining_le gone
    show _ ≤ _
    omega

/-! ### Existence -/

/-- The rule can be applied, and its application ends. -/
def Production.Applies (limit : Int) (rule : Production) (depth : Int) (w : Window) : Prop :=
  ∃ events reading depth', Descent limit rule depth w events reading depth'

/-- Every rule can be applied to every window with less to read. -/
def Production.ApplyBelow (limit : Int) (w : Window) : Prop :=
  ∀ (rule : Production) (depth : Int) (w' : Window), w'.remaining < w.remaining →
    rule.Applies limit depth w'

namespace Production.Applies

variable {limit depth : Int} {w : Window} {goal operand : Goal} {left : Expr}

/-- A group can be read if an expression can be read from every later window. -/
theorem group (later : ApplyBelow limit w) (here : w.current.lexeme = .symbol .leftParen) :
    (start .factor).Applies limit depth w := by
  by_cases deep : limit ≤ depth
  · exact ⟨_, _, _, .tooDeep here deep⟩
  · cases gone : w.shift with
    | failed error reader => exact ⟨_, _, _, .unopened here deep gone⟩
    | done token w₁ =>
      have notEnd : w.current.kind ≠ .endOfInput := Token.kind_ne here Kind.noConfusion
      obtain ⟨events, inner, depth₁, inside⟩ :=
        later (.start .expression) (depth + 1) w₁ (Window.shift_remaining_lt gone notEnd)
      cases inner with
      | failed error reader => exact ⟨_, _, _, .insideFailed here deep gone inside⟩
      | done value w₂ =>
        by_cases closed : w₂.current.kind = .symbol .rightParen
        · exact ⟨_, _, _, .group here deep gone inside closed⟩
        · exact ⟨_, _, _, .unclosed here deep gone inside closed⟩

/-- A factor can be read if an expression can be read from every later window. -/
theorem factor (later : ApplyBelow limit w) : (start .factor).Applies limit depth w := by
  match here : w.current.lexeme with
  | .number value => exact ⟨_, _, _, .number here⟩
  | .identifier name => exact ⟨_, _, _, .reference here⟩
  | .endOfInput =>
    refine ⟨_, _, _, .unfit ?_ ?_ ?_⟩ <;> rw [here] <;> intros <;> exact Lexeme.noConfusion
  | .symbol which =>
    by_cases opens : which = .leftParen
    · exact group later (here.trans (congrArg Lexeme.symbol opens))
    · refine ⟨_, _, _, .unfit ?_ ?_ ?_⟩ <;> rw [here]
      · exact fun _ => Lexeme.noConfusion
      · exact fun _ => Lexeme.noConfusion
      · exact fun same => opens (Lexeme.symbol.inj same)

/-- A rule with operands can be applied where its operands can be read. -/
theorem of_operands (operands : Operands operand goal) (later : ApplyBelow limit w)
    (first : (start operand).Applies limit depth w) : (start goal).Applies limit depth w := by
  obtain ⟨events, reading, depth₁, first⟩ := first
  cases reading with
  | failed error reader => exact ⟨_, _, _, .operandFailed operands first⟩
  | done left w₁ =>
    obtain ⟨events₁, reading, depth₂, rest⟩ := later (.behind goal left) depth₁ w₁ (first.leaves rfl)
    exact ⟨_, _, _, .operand operands first rest⟩

/-- The operands of the rule that an operator stands in. -/
theorem exists_operands (op : Operator) : ∃ operand, Operands operand op.level := by
  cases op with
  | add | subtract => exact ⟨_, .terms⟩
  | multiply | divide => exact ⟨_, .factors⟩

/-- A repetition can be read. -/
theorem repetition (later : ApplyBelow limit w) : (behind goal left).Applies limit depth w := by
  by_cases found : ∃ op : Operator, op.level = goal ∧ w.current.lexeme = op.lexeme
  · obtain ⟨op, rfl, here⟩ := found
    have notEnd : w.current.kind ≠ .endOfInput := Token.kind_ne here Kind.noConfusion
    obtain ⟨operand, operands⟩ := exists_operands op
    cases gone : w.shift with
    | failed error reader => exact ⟨_, _, _, .stuck here gone⟩
    | done token w₁ =>
      have shorter := Window.shift_remaining_lt gone notEnd
      obtain ⟨events, reading, depth₁, right⟩ := later (.start operand) depth w₁ shorter
      cases reading with
      | failed error reader => exact ⟨_, _, _, .rightFailed here gone operands right⟩
      | done value w₂ =>
        have further : w₂.remaining < w₁.remaining := right.leaves rfl
        obtain ⟨events₁, reading, depth₂, rest⟩ :=
          later (.behind op.level (.binary op left value)) depth₁ w₂ (Nat.lt_trans further shorter)
        exact ⟨_, _, _, .more here gone operands right rest⟩
  · exact ⟨_, _, _, .ended fun op binds here => found ⟨op, binds, here⟩⟩

end Production.Applies

/-- **Every rule can be applied to every window, and its application ends.** -/
theorem exists_descent (limit : Int) (rule : Production) (depth : Int) (w : Window) :
    rule.Applies limit depth w := by
  induction bound : w.remaining using Nat.strongRecOn generalizing rule depth w with
  | ind remaining ih =>
    -- A term starts with a factor and an expression with a term, from the same window.
    have later : Production.ApplyBelow limit w := fun rule depth w' less =>
      ih _ (bound ▸ less) rule depth w' rfl
    have factor : (Production.start .factor).Applies limit depth w := .factor later
    have term : (Production.start .term).Applies limit depth w := .of_operands .factors later factor
    cases rule with
    | start goal =>
      cases goal with
      | factor => exact factor
      | term => exact term
      | expression => exact .of_operands .terms later term
    | behind goal left => exact .repetition later

end Calculator
