/-
**Trees of values and the programs they stand for.**

* `Value.Resembles`: a tree is a dump, up to what its writer is free to choose: an integer for a number,
  and the order of keys. `Value.Depicts`: the same for programs, where an empty list may be left out.
* `NodeClass.read?_eq_some_iff`: a class reads the parts of its own statements in any order;
  `NodeClass.eq_of_read?`: no table is read by two classes.
* `resembles_value_iff`: a value resembles what a part is dumped as exactly if it is read as that part.
* `Program.ofValue?_faithful`: **a tree is read as a program exactly if it depicts it.**
* `Value.resembles_integer_iff`: an integer that the format holds stands for its own number only.

Reading puts the parts of a table together and does not care for their order, so both directions rest on
one equivalence over values and entries, by recursion on the value that is read.
-/

import Mathlib.Data.List.Fold
import Mathlib.Data.List.Forall2
import Mathlib.Data.List.MinMax
import Mathlib.Data.List.Nodup
import Mathlib.Data.List.Perm.Basic
import Calculator.Proofs.Binary64.Exact
import Calculator.Syntax.Tree

namespace Calculator

/-! ### Trees up to the allowances -/

namespace Value

mutual

/-- The value is the dumped one, but for integers in the place of numbers and for the order of keys. -/
inductive Resembles : Value → Value → Prop
  | float (x : Float) : Resembles (.float x) (.float x)
  | integer {n : Int} (finite : Binary64.nearestRank n.natAbs 1 < Binary64.infinityRank) :
    Resembles (.integer n) (.float (Binary64.ofRank (decide (n < 0)) (Binary64.nearestRank n.natAbs 1)))
  | text (text : String) : Resembles (.text text) (.text text)
  | list {items dumped : List Value} (alike : List.Forall₂ Resembles items dumped) :
    Resembles (.list items) (.list dumped)
  | table {entries ordered dumped : List (String × Value)} (sorted : entries.Perm ordered)
    (alike : List.Forall₂ EntryResembles ordered dumped) : Resembles (.table entries) (.table dumped)

/-- The entry has the key of the dumped one and a value that resembles the dumped one's. -/
inductive EntryResembles : String × Value → String × Value → Prop
  | entry (key : String) {value dumped : Value} (alike : Resembles value dumped) :
    EntryResembles (key, value) (key, dumped)

end

/-- The tree is the dump of the program up to the allowances; without statements it may be empty. -/
inductive Depicts : Value → Program → Prop
  | dumped {tree : Value} {program : Program} (alike : Resembles tree program.value) : Depicts tree program
  | absent : Depicts (.table []) ⟨[]⟩

theorem entryResembles_iff {key other : String} {value dumped : Value} :
    EntryResembles (key, value) (other, dumped) ↔ key = other ∧ value.Resembles dumped := by
  constructor
  · rintro ⟨_, alike⟩
    exact ⟨rfl, alike⟩
  · rintro ⟨rfl, alike⟩
    exact .entry key alike

theorem resembles_float_iff {value : Value} {x : Float} :
    value.Resembles (.float x) ↔ value.number? = some x := by
  constructor
  · rintro (_ | ⟨finite⟩)
    · rfl
    · exact if_pos finite
  · intro read
    unfold number? at read
    split at read
    · cases read
      exact .float x
    · dsimp only at read
      split at read
      · next finite =>
        cases read
        exact .integer finite
      · cases read
    · cases read

theorem resembles_text_iff {value : Value} {text : String} :
    value.Resembles (.text text) ↔ value = .text text := by
  constructor
  · rintro ⟨⟩
    rfl
  · rintro rfl
    exact .text text

theorem resembles_list_iff {value : Value} {dumped : List Value} :
    value.Resembles (.list dumped) ↔ ∃ items, value = .list items ∧ List.Forall₂ Resembles items dumped := by
  constructor
  · rintro (_ | _ | _ | ⟨alike⟩)
    exact ⟨_, rfl, alike⟩
  · rintro ⟨items, rfl, alike⟩
    exact .list alike

theorem resembles_table_iff {value : Value} {dumped : List (String × Value)} :
    value.Resembles (.table dumped) ↔
      ∃ entries ordered, value = .table entries ∧ entries.Perm ordered ∧
        List.Forall₂ EntryResembles ordered dumped := by
  constructor
  · rintro (_ | _ | _ | _ | ⟨sorted, alike⟩)
    exact ⟨_, _, rfl, sorted, alike⟩
  · rintro ⟨entries, ordered, rfl, sorted, alike⟩
    exact .table sorted alike

/-- Tables that resemble each other have the same keys. -/
theorem Resembles.keys_perm {entries dumped : List (String × Value)}
    (alike : (Value.table entries).Resembles (.table dumped)) :
    (entries.map Prod.fst).Perm (dumped.map Prod.fst) := by
  obtain ⟨_, ordered, ⟨⟩, sorted, alikeEntries⟩ := resembles_table_iff.mp alike
  have same : List.Forall₂ (fun entry other => entry.1 = other.1) ordered dumped :=
    alikeEntries.imp fun _ _ alikeEntry => (entryResembles_iff.mp alikeEntry).1
  rw [← List.forall₂_map_right_iff (f := Prod.fst), ← List.forall₂_map_left_iff (f := Prod.fst),
    List.forall₂_eq_eq_eq] at same
  exact same ▸ sorted.map Prod.fst

end Value

/-! ### Parts and their dumps -/

namespace Part

/-- What a part is dumped as. -/
def value : Part → Value
  | .number x => .float x
  | .text name => .text name
  | .node statement => statement.value

/-- An entry as it is dumped. -/
def dumped (entry : String × Part) : String × Value := (entry.1, entry.2.value)

end Part

/-- The parts of a statement under their keys, in the order in which they are dumped. -/
def Statement.parts : Statement → List (String × Part)
  | .expression (.number x) => [("value", .number x)]
  | .expression (.reference name) => [("name", .text name)]
  | .expression (.binary op left right) =>
    [("op", .text op.text), ("left", .node (.expression left)), ("right", .node (.expression right))]
  | .assignment name e => [("name", .text name), ("value", .node (.expression e))]

theorem Statement.value_eq (s : Statement) : s.value = .table (s.parts.map Part.dumped) := by
  rcases s with e | ⟨name, e⟩
  · rw [Statement.value]
    cases e <;> rw [Expr.value] <;> rfl
  · rfl

/-! ### Keys and what stands under them -/

section Lookup

variable {α : Type} {key : String} {value : α} {entries found : List (String × α)}

theorem lookup_eq_some_of_mem (nodup : (entries.map Prod.fst).Nodup) (member : (key, value) ∈ entries) :
    entries.lookup key = some value := by
  obtain ⟨front, back, rfl⟩ := List.append_of_mem member
  refine List.lookup_eq_some_iff.mpr ⟨front, back, rfl, fun other inFront => bne_iff_ne.mpr fun same => ?_⟩
  rw [List.map_append, List.map_cons, List.nodup_append] at nodup
  exact nodup.2.2 other.1 (List.mem_map_of_mem inFront) key List.mem_cons_self same.symm

theorem mem_of_lookup_eq_some (present : entries.lookup key = some value) : (key, value) ∈ entries := by
  obtain ⟨front, back, rfl, -⟩ := List.lookup_eq_some_iff.mp present
  exact List.mem_append_right front List.mem_cons_self

/-- Entries found under as many different keys as there are entries are all the entries. -/
theorem perm_of_lookup (nodup : (found.map Prod.fst).Nodup)
    (each : ∀ entry ∈ found, entries.lookup entry.1 = some entry.2)
    (length : entries.length = found.length) : entries.Perm found := by
  have inside : found ⊆ entries := fun entry member => mem_of_lookup_eq_some (each entry member)
  have within : found.Subperm entries := List.subperm_of_subset (List.Nodup.of_map Prod.fst nodup) inside
  exact (within.perm_of_length_le (Nat.le_of_eq length)).symm

end Lookup

theorem mapM_eq_some_iff_forall₂ {α β : Type} {f : α → Option β} {items : List α} {results : List β} :
    items.mapM f = some results ↔ List.Forall₂ (fun item result => f item = some result) items results := by
  induction items generalizing results with
  | nil => rw [List.mapM_nil, List.forall₂_nil_left_iff, Option.pure_def, Option.some.injEq, eq_comm]
  | cons item rest ih =>
    rw [List.mapM_cons, List.forall₂_cons_left_iff]
    constructor
    · intro computed
      obtain ⟨first, computedFirst, computed⟩ := Option.bind_eq_some_iff.mp computed
      obtain ⟨more, computedRest, computed⟩ := Option.bind_eq_some_iff.mp computed
      cases computed
      exact ⟨first, more, computedFirst, ih.mp computedRest, rfl⟩
    · rintro ⟨first, more, computedFirst, computedRest, rfl⟩
      rw [computedFirst, ih.mpr computedRest]
      rfl

/-! ### Classes of nodes -/

/-- The class of a statement. -/
def Statement.nodeClass : Statement → NodeClass
  | .expression (.number _) => .number
  | .expression (.reference _) => .reference
  | .expression (.binary ..) => .binary
  | .assignment .. => .assignment

theorem Statement.keys_parts (s : Statement) : s.parts.map Prod.fst = s.nodeClass.keys := by
  rcases s with e | ⟨name, e⟩
  · cases e <;> rfl
  · rfl

/-- No statement has a key twice. -/
theorem Statement.nodup_keys (s : Statement) : (s.parts.map Prod.fst).Nodup := by
  rw [s.keys_parts]
  cases s.nodeClass <;> decide

namespace NodeClass

variable {which first second : NodeClass} {parts : List (String × Part)} {s t : Statement}

theorem build?_eq_some_iff {fields : List Part} :
    which.build? fields = some s ↔ s.nodeClass = which ∧ s.parts.map Prod.snd = fields := by
  constructor
  · intro built
    unfold build? at built
    split at built
    · cases built
      exact ⟨rfl, rfl⟩
    · cases built
      exact ⟨rfl, rfl⟩
    · obtain ⟨op, spelled, rfl⟩ := Option.map_eq_some_iff.mp built
      obtain rfl := Operator.ofText?_eq_some_iff.mp spelled
      exact ⟨rfl, rfl⟩
    · cases built
      exact ⟨rfl, rfl⟩
    · cases built
  · rintro ⟨rfl, rfl⟩
    rcases s with e | ⟨name, e⟩
    · cases e with
      | number | reference => rfl
      | binary op left right =>
        have spelled : Operator.ofText? op.text = some op := Operator.ofText?_eq_some_iff.mpr rfl
        show (Operator.ofText? op.text).map _ = _
        rw [spelled]
        rfl
    · rfl

/-- **A class reads the parts of its own statements, in any order,** and nothing else. -/
theorem read?_eq_some_iff :
    which.read? parts = some s ↔ s.nodeClass = which ∧ parts.Perm s.parts := by
  unfold read?
  rw [Option.ite_none_right_eq_some, Option.bind_eq_some_iff]
  constructor
  · rintro ⟨length, fields, looked, built⟩
    obtain ⟨rfl, rfl⟩ := build?_eq_some_iff.mp built
    rw [mapM_eq_some_iff_forall₂, ← s.keys_parts, List.forall₂_map_left_iff,
      List.forall₂_map_right_iff, List.forall₂_same] at looked
    rw [← s.keys_parts, List.length_map] at length
    exact ⟨rfl, perm_of_lookup s.nodup_keys looked length⟩
  · rintro ⟨rfl, sorted⟩
    have nodup : (parts.map Prod.fst).Nodup := (sorted.map Prod.fst).nodup_iff.mpr s.nodup_keys
    refine ⟨?_, s.parts.map Prod.snd, ?_, build?_eq_some_iff.mpr ⟨rfl, rfl⟩⟩
    · rw [← s.keys_parts, List.length_map, sorted.length_eq]
    · rw [mapM_eq_some_iff_forall₂, ← s.keys_parts, List.forall₂_map_left_iff,
        List.forall₂_map_right_iff, List.forall₂_same]
      exact fun entry member => lookup_eq_some_of_mem nodup (sorted.mem_iff.mpr member)

theorem eq_of_keys_perm (same : first.keys.Perm second.keys) : first = second := by
  revert same
  cases first <;> cases second <;> decide

/-- **No table is read by two classes.** -/
theorem eq_of_read? (one : first.read? parts = some s) (other : second.read? parts = some t) :
    first = second ∧ s = t := by
  obtain ⟨ofFirst, sorted⟩ := read?_eq_some_iff.mp one
  obtain ⟨ofSecond, sorted'⟩ := read?_eq_some_iff.mp other
  have keys : first.keys.Perm second.keys := by
    rw [← ofFirst, ← ofSecond, ← s.keys_parts, ← t.keys_parts]
    exact (sorted.symm.trans sorted').map Prod.fst
  obtain rfl := eq_of_keys_perm keys
  rw [one] at other
  exact ⟨rfl, Option.some.inj other⟩

end NodeClass

/-- **The parts that are put together to a statement are its parts in any order.** -/
theorem Part.assemble_eq_some_iff {parts : List (String × Part)} {s : Statement} :
    Part.assemble parts = some s ↔ parts.Perm s.parts := by
  constructor
  · intro assembled
    obtain ⟨which, -, read⟩ := List.exists_of_findSome?_eq_some assembled
    exact (NodeClass.read?_eq_some_iff.mp read).2
  · intro sorted
    have read : s.nodeClass.read? parts = some s := NodeClass.read?_eq_some_iff.mpr ⟨rfl, sorted⟩
    have tried : s.nodeClass ∈ NodeClass.all := by cases s.nodeClass <;> decide
    have found : (Part.assemble parts).isSome :=
      List.findSome?_isSome_iff.mpr ⟨s.nodeClass, tried, read ▸ rfl⟩
    obtain ⟨t, assembled⟩ := Option.isSome_iff_exists.mp found
    obtain ⟨which, -, readOther⟩ := List.exists_of_findSome?_eq_some assembled
    rw [assembled, (NodeClass.eq_of_read? readOther read).2]

/-- Dumping keeps the keys. -/
theorem keys_map_dumped (parts : List (String × Part)) :
    (parts.map Part.dumped).map Prod.fst = parts.map Prod.fst := by
  rw [List.map_map]
  rfl

/-! ### Reading what resembles a dump -/

theorem Part.value_eq_table_iff {part : Part} {dumped : List (String × Value)} :
    part.value = .table dumped ↔ ∃ s, part = .node s ∧ dumped = s.parts.map Part.dumped := by
  constructor
  · intro same
    cases part with
    | number x => cases same
    | text name => cases same
    | node s =>
      rw [Part.value, Statement.value_eq] at same
      cases same
      exact ⟨s, rfl, rfl⟩
  · rintro ⟨s, rfl, rfl⟩
    exact s.value_eq

theorem Value.part?_table_eq_some_iff {entries : List (String × Value)} {part : Part} :
    (Value.table entries).part? = some part ↔
      ∃ s parts, part = .node s ∧ partEntries? entries = some parts ∧ parts.Perm s.parts := by
  rw [Value.part?]
  constructor
  · intro read
    obtain ⟨parts, readEntries, read⟩ := Option.bind_eq_some_iff.mp read
    obtain ⟨s, assembled, read⟩ := Option.bind_eq_some_iff.mp read
    cases read
    exact ⟨s, parts, rfl, readEntries, Part.assemble_eq_some_iff.mp assembled⟩
  · rintro ⟨s, parts, rfl, readEntries, sorted⟩
    rw [readEntries]
    show (Part.assemble parts).bind _ = _
    rw [Part.assemble_eq_some_iff.mpr sorted]
    rfl

theorem Value.resembles_value_iff_of_leaf {value : Value} {part : Part}
    (leaf : ∀ entries, value ≠ .table entries) :
    value.Resembles part.value ↔ value.part? = some part := by
  cases part with
  | number x =>
    rw [Part.value, Value.resembles_float_iff]
    cases value <;> simp_all [Value.part?, Value.number?]
  | text name =>
    rw [Part.value, Value.resembles_text_iff]
    cases value <;> simp_all [Value.part?]
  | node s =>
    rw [Part.value, Statement.value_eq, Value.resembles_table_iff]
    refine iff_of_false (fun ⟨entries, _, same, _⟩ => leaf entries same) fun read => ?_
    cases value <;> simp_all [Value.part?]

mutual

/-- **A value resembles the dump of a part exactly if it is read as that part.** -/
theorem Value.resembles_value_iff : (value : Value) → (part : Part) →
    (value.Resembles part.value ↔ value.part? = some part)
  | .table entries, part => by
    rw [Value.part?_table_eq_some_iff]
    constructor
    · intro alike
      generalize same : part.value = dumped at alike
      cases alike with
      | table sorted alike =>
        obtain ⟨s, rfl, rfl⟩ := Part.value_eq_table_iff.mp same
        -- The parts follow the order of the tree, since the recursion is on its entries and not on `ordered`.
        rw [List.forall₂_map_right_iff] at alike
        obtain ⟨parts, alike, sorted⟩ := List.perm_comp_forall₂ sorted alike
        exact ⟨s, parts, rfl, (entriesResemble_iff entries parts).mp alike, sorted⟩
    · rintro ⟨s, parts, rfl, readEntries, sorted⟩
      have alike := (entriesResemble_iff entries parts).mpr readEntries
      obtain ⟨ordered, alike, sorted⟩ := List.perm_comp_forall₂ sorted.symm (List.Forall₂.flip alike)
      rw [Part.value, Statement.value_eq]
      refine .table sorted.symm ?_
      rw [List.forall₂_map_right_iff]
      exact alike.flip
  | .null, _ | .boolean _, _ | .integer _, _ | .float _, _ | .text _, _ | .moment _, _ | .list _, _ =>
    Value.resembles_value_iff_of_leaf nofun

/-- Entries resemble dumped ones, one by one, exactly if they are read as what was dumped. -/
theorem entriesResemble_iff : (entries : List (String × Value)) → (parts : List (String × Part)) →
    (List.Forall₂ (fun entry part => Value.EntryResembles entry (Part.dumped part)) entries parts ↔
      partEntries? entries = some parts)
  | [], parts => by
    rw [List.forall₂_nil_left_iff, partEntries?, Option.some.injEq, eq_comm]
  | (key, value) :: rest, parts => by
    rw [List.forall₂_cons_left_iff, partEntries?]
    constructor
    · rintro ⟨⟨other, part⟩, more, alike, alikeRest, rfl⟩
      obtain ⟨rfl, alike⟩ := Value.entryResembles_iff.mp alike
      rw [(Value.resembles_value_iff value part).mp alike, (entriesResemble_iff rest more).mp alikeRest]
      rfl
    · intro read
      obtain ⟨part, readValue, read⟩ := Option.bind_eq_some_iff.mp read
      obtain ⟨more, readRest, read⟩ := Option.bind_eq_some_iff.mp read
      cases read
      refine ⟨(key, part), more, ?_, (entriesResemble_iff rest more).mpr readRest, rfl⟩
      exact .entry key ((Value.resembles_value_iff value part).mpr readValue)

end

/-! ### Statements -/

theorem Statement.ofValue?_eq_some_iff {value : Value} {s : Statement} :
    Statement.ofValue? value = some s ↔ value.Resembles s.value ∧ s.height ≤ heightLimit := by
  have read := Value.resembles_value_iff value (.node s)
  rw [Part.value] at read
  rw [read, Statement.ofValue?]
  cases value.part? with
  | none => simp
  | some part =>
    cases part with
    | number x => simp
    | text name => simp
    | node other =>
      simp only [Option.some.injEq, Part.node.injEq, Option.ite_none_right_eq_some]
      constructor
      · rintro ⟨low, rfl⟩
        exact ⟨rfl, low⟩
      · rintro ⟨rfl, low⟩
        exact ⟨low, rfl⟩

/-- **No value resembles the dumps of two statements.** -/
theorem Statement.eq_of_resembles {value : Value} {s t : Statement} (first : value.Resembles s.value)
    (second : value.Resembles t.value) : s = t := by
  have readFirst := (Value.resembles_value_iff value (.node s)).mp first
  have readSecond := (Value.resembles_value_iff value (.node t)).mp second
  rw [readFirst] at readSecond
  cases readSecond
  rfl

theorem Expr.value_resembles (e : Expr) : e.value.Resembles e.value := by
  induction e with
  | number x =>
    rw [Expr.value]
    exact .table (.refl _) (.cons (.entry _ (.float x)) .nil)
  | reference name =>
    rw [Expr.value]
    exact .table (.refl _) (.cons (.entry _ (.text name)) .nil)
  | binary op left right alikeLeft alikeRight =>
    rw [Expr.value]
    exact .table (.refl _)
      (.cons (.entry _ (.text op.text)) (.cons (.entry _ alikeLeft) (.cons (.entry _ alikeRight) .nil)))

theorem Statement.value_resembles (s : Statement) : s.value.Resembles s.value := by
  cases s with
  | expression e => exact e.value_resembles
  | assignment name e =>
    exact .table (.refl _) (.cons (.entry _ (.text name)) (.cons (.entry _ e.value_resembles) .nil))

/-! ### Programs -/

namespace Program

theorem value_depicts (program : Program) : program.value.Depicts program := by
  refine .dumped (.table (.refl _) (.cons (.entry _ (.list ?_)) .nil))
  rw [List.forall₂_map_left_iff, List.forall₂_map_right_iff, List.forall₂_same]
  exact fun s _ => s.value_resembles

theorem mapM_ofValue?_eq_some_iff {items : List Value} {statements : List Statement} :
    items.mapM Statement.ofValue? = some statements ↔
      List.Forall₂ Value.Resembles items (statements.map Statement.value) ∧
        ∀ s ∈ statements, s.height ≤ heightLimit := by
  rw [mapM_eq_some_iff_forall₂, List.forall₂_map_right_iff]
  simp only [Statement.ofValue?_eq_some_iff]
  constructor
  · intro both
    have turned : List.Forall₂ (fun s value => s.height ≤ heightLimit ∧ value.Resembles s.value)
        statements items := List.Forall₂.flip (both.imp fun _ _ => And.symm)
    obtain ⟨low, alike⟩ := (List.forall₂_and_left statements items).mp turned
    exact ⟨List.Forall₂.flip alike, low⟩
  · rintro ⟨alike, low⟩
    have turned := (List.forall₂_and_left statements items).mpr ⟨low, List.Forall₂.flip alike⟩
    exact List.Forall₂.flip (turned.imp fun _ _ => And.symm)

/-- **A tree is read as a program exactly if it depicts it** and no statement is too deep to be read. -/
theorem ofValue?_eq_some_iff {tree : Value} {program : Program} :
    Program.ofValue? tree = some program ↔
      tree.Depicts program ∧ ∀ s ∈ program.statements, s.height ≤ heightLimit := by
  constructor
  · intro read
    unfold Program.ofValue? at read
    split at read
    · cases read
      exact ⟨.absent, nofun⟩
    · next items =>
      obtain ⟨statements, readItems, read⟩ := Option.bind_eq_some_iff.mp read
      cases read
      obtain ⟨alike, low⟩ := mapM_ofValue?_eq_some_iff.mp readItems
      exact ⟨.dumped (.table (.refl _) (.cons (.entry _ (.list alike)) .nil)), low⟩
    · cases read
  · rintro ⟨depicts, low⟩
    cases depicts with
    | absent => rfl
    | dumped alike =>
      obtain ⟨entries, ordered, rfl, sorted, alikeEntries⟩ := Value.resembles_table_iff.mp alike
      obtain ⟨⟨key, value⟩, _, alikeEntry, nothing, rfl⟩ := List.forall₂_cons_right_iff.mp alikeEntries
      obtain rfl := List.forall₂_nil_right_iff.mp nothing
      obtain rfl := List.perm_singleton.mp sorted
      obtain ⟨rfl, alikeList⟩ := Value.entryResembles_iff.mp alikeEntry
      obtain ⟨items, rfl, alikeItems⟩ := Value.resembles_list_iff.mp alikeList
      rw [Program.ofValue?, mapM_ofValue?_eq_some_iff.mpr ⟨alikeItems, low⟩]
      rfl

/-- What is dumped is not too deep to be read. -/
theorem height_le_of_isDumpable {program : Program} (dumpable : program.isDumpable)
    {s : Statement} (member : s ∈ program.statements) : s.height ≤ heightLimit := by
  have few : (program.statements.map Statement.levels).foldl max 0 + 1 ≤ levelLimit :=
    of_decide_eq_true dumpable
  rw [List.foldl_eq_foldr] at few
  have above : s.levels ≤ (program.statements.map Statement.levels).foldr max 0 :=
    List.le_max_of_le' 0 (List.mem_map_of_mem member) (Nat.le_refl s.levels)
  have deeper : s.height + 1 ≤ s.levels := by
    cases s with
    | expression e => exact Nat.le_refl _
    | assignment name e => exact Nat.le_succ _
  unfold levelLimit at few
  unfold heightLimit
  omega

/-- No tree is a statement and a program at once. -/
theorem not_depicts_of_resembles {tree : Value} {s : Statement} {program : Program}
    (alike : tree.Resembles s.value) : ¬ tree.Depicts program := by
  have keys : ¬ List.Perm [] (s.parts.map Prod.fst) ∧
      ¬ List.Perm ["statements"] (s.parts.map Prod.fst) := by
    rcases s with e | ⟨name, e⟩
    · cases e <;> simp [Statement.parts]
    · simp [Statement.parts]
  intro depicts
  rw [Statement.value_eq] at alike
  cases depicts with
  | absent => exact keys.1 (alike.keys_perm.trans (by rw [keys_map_dumped]))
  | dumped asProgram =>
    obtain ⟨entries, ordered, rfl, sorted, alikeEntries⟩ := Value.resembles_table_iff.mp asProgram
    exact keys.2 (asProgram.keys_perm.symm.trans (alike.keys_perm.trans (by rw [keys_map_dumped])))

end Program

/-! ### Integers for numbers -/

/-- **An integer that the format holds stands for its own number** and for no other. -/
theorem Value.resembles_integer_iff {n : Int} {rank : Nat} (finite : rank < Binary64.infinityRank)
    (exact : n.natAbs * Binary64.unitsPerOne = Binary64.units rank) {dumped : Value} :
    (Value.integer n).Resembles dumped ↔ dumped = .float (Binary64.ofRank (decide (n < 0)) rank) := by
  have nearest : Binary64.nearestRank n.natAbs 1 = rank := Binary64.nearestRank_units exact
  constructor
  · rintro ⟨_⟩
    rw [nearest]
  · rintro rfl
    rw [← nearest]
    exact .integer (nearest ▸ finite)

/-! ### Programs and their trees -/

/-- **The trees of programs are faithful.** What a program is dumped as is read as that program. A tree is
read as a program that can be dumped exactly if it depicts the program, and as any program exactly if it
depicts it and no operators nest too deep. No table is read by two classes of nodes, no tree stands for two
statements, or for a statement and a program at once, and an integer that the format holds stands for its own number. -/
theorem Program.ofValue?_faithful :
    (∀ program : Program, program.isDumpable → Program.ofValue? program.value = some program) ∧
    (∀ (tree : Value) (program : Program), program.isDumpable →
      (Program.ofValue? tree = some program ↔ tree.Depicts program)) ∧
    (∀ (tree : Value) (program : Program), Program.ofValue? tree = some program ↔
      tree.Depicts program ∧ ∀ s ∈ program.statements, s.height ≤ heightLimit) ∧
    (∀ (parts : List (String × Part)) (first second : NodeClass) (s t : Statement),
      first.read? parts = some s → second.read? parts = some t → first = second) ∧
    (∀ (tree : Value) (s t : Statement), tree.Resembles s.value → tree.Resembles t.value → s = t) ∧
    (∀ (tree : Value) (s : Statement) (program : Program), tree.Resembles s.value → ¬ tree.Depicts program) ∧
    (∀ (n : Int) (rank : Nat), rank < Binary64.infinityRank →
      n.natAbs * Binary64.unitsPerOne = Binary64.units rank → ∀ dumped : Value,
        ((Value.integer n).Resembles dumped ↔ dumped = .float (Binary64.ofRank (decide (n < 0)) rank))) := by
  refine ⟨fun program dumpable => ?_, fun tree program dumpable => ?_, fun tree program => ?_,
    fun parts first second s t one other => (NodeClass.eq_of_read? one other).1,
    fun tree s t => Statement.eq_of_resembles, fun tree s program => Program.not_depicts_of_resembles,
    fun n rank finite exact dumped => Value.resembles_integer_iff finite exact⟩
  · exact Program.ofValue?_eq_some_iff.mpr
      ⟨program.value_depicts, fun s => Program.height_le_of_isDumpable dumpable⟩
  · rw [Program.ofValue?_eq_some_iff]
    exact and_iff_left fun s => Program.height_le_of_isDumpable dumpable
  · exact Program.ofValue?_eq_some_iff

/-- Keys in another order and an integer for a number: the tree is read as `1 + x`. -/
theorem Program.ofValue?_shuffled :
    Program.ofValue? (.table [("statements", .list [.table [("right", .table [("name", .text "x")]),
      ("left", .table [("value", .integer 1)]), ("op", .text "+")]])]) =
    some ⟨[.expression (.binary .add (.number (Binary64.ofRank false 4607182418800017408))
      (.reference "x"))]⟩ := by
  refine (Program.ofValue?_faithful.2.1 _ _ rfl).mpr (.dumped ?_)
  refine .table (.refl _) (.cons (.entry _ (.list (.cons ?_ .nil))) .nil)
  have turned (a b c : String × Value) : [a, b, c].Perm [c, b, a] := List.reverse_perm [c, b, a]
  have one : (Value.integer 1).Resembles (.float (Binary64.ofRank false 4607182418800017408)) :=
    (Value.resembles_integer_iff (by decide) (by decide +kernel)).mpr rfl
  rw [Statement.value, Expr.value, Expr.value, Expr.value]
  exact .table (turned ..) (.cons (.entry _ (.text "+")) (.cons (.entry _ (.table (.refl _)
    (.cons (.entry _ one) .nil))) (.cons (.entry _ (.table (.refl _) (.cons (.entry _ (.text "x")) .nil)))
    .nil)))

end Calculator
