/-
# Trees of types

A type as a compiler sees it once its text is read: names, literals, lists, object types, and types joined by bars and
ampersands.

An ampersand binds more tightly than a bar.  A row of operands is therefore read by cutting it at its bars
(`Chain.groups`): each piece is one type that is all of its operands at once, and the row is a choice among the pieces
(`Chain.close`).

* `Chain.groups_append_bar` and `Chain.length_groups`: where a row is cut.
* `Row.type_joined_bar`: rows written one after the other with bars between them are a choice among the types of the
  rows.
* `Row.type_joined_amp_iff`: with ampersands between them they are all of those types at once exactly when there is
  only one row or none of the rows holds a bar.
-/
import Mathlib.Data.List.Basic

namespace ApiTypes

/-- The tree of a type: a name, a literal, a name applied to other types, a list, an object type that lists name,
requiredness and type of each field, or several types joined. -/
inductive TypeTree
  | name (word : String)
  | literal (value : String)
  | applied (word : String) (arguments : List TypeTree)
  | array (item : TypeTree)
  | object (fields : List (String × Bool × TypeTree))
  | intersection (members : List TypeTree)
  | union (members : List TypeTree)

namespace TypeTree

/-! ## Joining types -/

/-- The alternatives of a type. -/
def alternatives : TypeTree → List TypeTree
  | union members => members
  | t => [t]

/-- The types that a type is at once. -/
def conjuncts : TypeTree → List TypeTree
  | intersection members => members
  | t => [t]

/-- Joins types, taking those apart that are joined in the same way; one type alone is not joined. -/
def join (make : List TypeTree → TypeTree) (parts : TypeTree → List TypeTree) : List TypeTree → TypeTree
  | [t] => t
  | types => make (types.flatMap parts)

/-- The choice among types.  A choice inside it gives its alternatives to it. -/
def oneOf : List TypeTree → TypeTree := join union alternatives

/-- All of the types at once. -/
def allOf : List TypeTree → TypeTree := join intersection conjuncts

section Join

variable {make : List TypeTree → TypeTree} {parts : TypeTree → List TypeTree}

/-- Two or more types are joined in the proper sense. -/
theorem join_of_two_le {types : List TypeTree} (h : 2 ≤ types.length) :
    join make parts types = make (types.flatMap parts) := by
  match types, h with
  | _ :: _ :: _, _ => rfl

/-- The parts of joined types are their parts run together. -/
theorem parts_join (hmake : ∀ types, parts (make types) = types) (types : List TypeTree) :
    parts (join make parts types) = types.flatMap parts := by
  match types with
  | [] => exact hmake _
  | [t] => simp [join]
  | _ :: _ :: _ => exact hmake _

/-- **Joining in two steps.**  Types that are first joined in groups and then among each other are the same type as all
of them joined at once. -/
theorem join_flatten (hmake : ∀ types, parts (make types) = types) {groups : List (List TypeTree)}
    (hne : ∀ group ∈ groups, group ≠ []) :
    join make parts groups.flatten = join make parts (groups.map (join make parts)) := by
  match groups, hne with
  | [], _ => rfl
  | [group], _ => simp [join]
  | first :: second :: rest, hne =>
    -- two groups or more: both sides are joined in the proper sense, and only their parts need to be compared
    have hfirst : 0 < first.length := List.length_pos_of_ne_nil (hne first (by simp))
    have hsecond : 0 < second.length := List.length_pos_of_ne_nil (hne second (by simp))
    have hflat : 2 ≤ (first :: second :: rest).flatten.length := by
      simp only [List.flatten_cons, List.length_append]
      omega
    have hmap : 2 ≤ ((first :: second :: rest).map (join make parts)).length := by simp
    rw [join_of_two_le hflat, join_of_two_le hmap, List.flatMap_map]
    congr 1
    rw [← List.flatMap_id, List.flatMap_assoc]
    apply List.flatMap_congr
    intro group _
    exact (parts_join hmake group).symm

end Join

theorem oneOf_flatten {groups : List (List TypeTree)} (hne : ∀ group ∈ groups, group ≠ []) :
    oneOf groups.flatten = oneOf (groups.map oneOf) :=
  join_flatten (fun _ => rfl) hne

theorem allOf_flatten {groups : List (List TypeTree)} (hne : ∀ group ∈ groups, group ≠ []) :
    allOf groups.flatten = allOf (groups.map allOf) :=
  join_flatten (fun _ => rfl) hne

/-- A choice among two or more types is not all of two or more types at once. -/
theorem oneOf_ne_allOf {first second : List TypeTree} (hfirst : 2 ≤ first.length) (hsecond : 2 ≤ second.length) :
    oneOf first ≠ allOf second := by
  rw [oneOf, allOf, join_of_two_le hfirst, join_of_two_le hsecond]
  exact TypeTree.noConfusion

end TypeTree

/-! ## Rows of operands -/

/-- What stands between two operands. -/
inductive Joint
  | bar
  | amp
  deriving DecidableEq

/-- The operands of a row before the last one, each with the sign after it. -/
abbrev Chain := List (TypeTree × Joint)

namespace Chain

open TypeTree

/-- The pieces of a row between its bars. -/
def groups : Chain → TypeTree → List (List TypeTree)
  | [], last => [[last]]
  | (t, .bar) :: rest, last => [t] :: groups rest last
  | (t, .amp) :: rest, last =>
    match groups rest last with
    | [] => [[t]]
    | piece :: pieces => (t :: piece) :: pieces

/-- The type that a row is read as: a choice among its pieces, each of them all of its operands at once. -/
def close (chain : Chain) (last : TypeTree) : TypeTree :=
  oneOf ((groups chain last).map allOf)

/-- Whether a row holds a bar. -/
def HasBar (chain : Chain) : Prop :=
  ∃ operand ∈ chain, operand.2 = .bar

@[simp] theorem close_nil (last : TypeTree) : close [] last = last := rfl

theorem groups_ne_nil (chain : Chain) (last : TypeTree) : groups chain last ≠ [] := by
  match chain with
  | [] => simp [groups]
  | (_, .bar) :: _ => simp [groups]
  | (_, .amp) :: rest =>
    rw [groups]
    split <;> simp

/-- An operand with an ampersand after it opens the first piece of the rest. -/
theorem groups_cons_amp (t : TypeTree) (rest : Chain) (last : TypeTree) :
    ∃ piece pieces, groups rest last = piece :: pieces ∧
      groups ((t, .amp) :: rest) last = (t :: piece) :: pieces := by
  cases h : groups rest last with
  | nil => exact absurd h (groups_ne_nil rest last)
  | cons piece pieces => exact ⟨piece, pieces, rfl, by rw [groups, h]⟩

/-- A bar between two rows separates their pieces. -/
theorem groups_append_bar (first : Chain) (t : TypeTree) (second : Chain) (last : TypeTree) :
    groups (first ++ (t, .bar) :: second) last = groups first t ++ groups second last := by
  induction first with
  | nil => rfl
  | cons operand rest ih =>
      obtain ⟨u, joint⟩ := operand
      cases joint with
      | bar => rw [List.cons_append, groups, groups, ih, List.cons_append]
      | amp =>
          obtain ⟨piece, pieces, hrest, hcons⟩ := groups_cons_amp u rest t
          rw [List.cons_append, groups, ih, hrest, hcons]
          rfl

/-- There is one piece more than there are bars. -/
theorem length_groups (chain : Chain) (last : TypeTree) :
    (groups chain last).length = chain.countP (fun operand => operand.2 = .bar) + 1 := by
  induction chain with
  | nil => rfl
  | cons operand rest ih =>
      obtain ⟨t, joint⟩ := operand
      cases joint with
      | bar => simp [groups, ih]
      | amp =>
          obtain ⟨piece, pieces, hrest, hcons⟩ := groups_cons_amp t rest last
          have hlength : (groups rest last).length = pieces.length + 1 := by rw [hrest, List.length_cons]
          rw [hcons, List.length_cons, ← hlength, ih]
          simp

/-- A row with a bar has at least two pieces. -/
theorem two_le_length_groups {chain : Chain} (h : chain.HasBar) (last : TypeTree) :
    2 ≤ (groups chain last).length := by
  have hcount : 0 < chain.countP (fun operand => operand.2 = .bar) := by
    obtain ⟨operand, hmem, hbar⟩ := h
    exact List.countP_pos_iff.mpr ⟨operand, hmem, by simpa using hbar⟩
  rw [length_groups]
  omega

/-- A row without a bar is one piece. -/
theorem groups_of_not_hasBar {chain : Chain} (h : ¬ chain.HasBar) (last : TypeTree) :
    groups chain last = [chain.map Prod.fst ++ [last]] := by
  induction chain with
  | nil => rfl
  | cons operand rest ih =>
      obtain ⟨t, joint⟩ := operand
      have hrest : ¬ HasBar rest := by
        rintro ⟨other, hmem, hbar⟩
        exact h ⟨other, List.mem_cons_of_mem _ hmem, hbar⟩
      cases joint with
      | bar => exact absurd ⟨(t, .bar), List.mem_cons_self, rfl⟩ h
      | amp => rw [groups, ih hrest]; rfl

/-- A row without a bar is all of its operands at once. -/
theorem close_of_not_hasBar {chain : Chain} (h : ¬ chain.HasBar) (last : TypeTree) :
    close chain last = allOf (chain.map Prod.fst ++ [last]) := by
  rw [close, groups_of_not_hasBar h]
  rfl

end Chain

/-! ## Rows written one after the other -/

/-- A row of operands, the last of them apart. -/
abbrev Row := Chain × TypeTree

namespace Row

open TypeTree

/-- The type that a row is read as. -/
def type (row : Row) : TypeTree := row.1.close row.2

/-- The operands of a row. -/
def operands (row : Row) : List TypeTree := row.1.map Prod.fst ++ [row.2]

/-- One row of several, with the same sign between each two. -/
def joined (joint : Joint) : Row → List Row → Row
  | row, [] => row
  | row, next :: rest => (row.1 ++ (row.2, joint) :: (joined joint next rest).1, (joined joint next rest).2)

/-- Rows with bars between them have the pieces of all of them. -/
theorem groups_joined_bar (row : Row) (rest : List Row) :
    (joined .bar row rest).1.groups (joined .bar row rest).2 = (row :: rest).flatMap fun r => r.1.groups r.2 := by
  induction rest generalizing row with
  | nil => simp [joined]
  | cons next rest ih =>
      rw [joined, Chain.groups_append_bar, ih next]
      rfl

/-- **Bars between rows.**  The whole is a choice among the types of the rows, whatever signs they hold. -/
theorem type_joined_bar (row : Row) (rest : List Row) :
    (joined .bar row rest).type = oneOf ((row :: rest).map type) := by
  have hne : ∀ group ∈ (row :: rest).map (fun r => (r.1.groups r.2).map allOf), group ≠ [] := by
    intro group hgroup
    obtain ⟨r, _, rfl⟩ := List.mem_map.mp hgroup
    simpa using Chain.groups_ne_nil r.1 r.2
  calc (joined .bar row rest).type
      = oneOf ((row :: rest).flatMap fun r => (r.1.groups r.2).map allOf) := by
        rw [type, Chain.close, groups_joined_bar, List.map_flatMap]
    _ = oneOf (((row :: rest).map fun r => (r.1.groups r.2).map allOf).flatten) := by
        rw [List.flatMap_def]
    _ = oneOf ((row :: rest).map type) := by
        rw [oneOf_flatten hne, List.map_map]
        rfl

/-- A bar in one of the rows is a bar of the whole. -/
theorem hasBar_joined_amp (row : Row) (rest : List Row) :
    (joined .amp row rest).1.HasBar ↔ ∃ r ∈ row :: rest, r.1.HasBar := by
  induction rest generalizing row with
  | nil => simp [joined]
  | cons next rest ih =>
      have hsplit : (joined .amp row (next :: rest)).1.HasBar ↔
          row.1.HasBar ∨ (joined .amp next rest).1.HasBar := by
        simp [joined, Chain.HasBar, or_and_right, exists_or]
      rw [hsplit, ih next]
      simp only [List.mem_cons, or_and_right, exists_or, exists_eq_left]

theorem operands_joined (joint : Joint) (row : Row) (rest : List Row) :
    (joined joint row rest).operands = (row :: rest).flatMap operands := by
  induction rest generalizing row with
  | nil => simp [joined]
  | cons next rest ih =>
      rw [List.flatMap_cons, ← ih next]
      simp [joined, operands]

/-- **Ampersands between rows.**  The whole is all of the types of the rows at once exactly when there is one row only or
no row holds a bar: a bar inside a row binds less tightly than the ampersands around it. -/
theorem type_joined_amp_iff (row : Row) (rest : List Row) :
    (joined .amp row rest).type = allOf ((row :: rest).map type) ↔
      rest = [] ∨ ∀ r ∈ row :: rest, ¬ r.1.HasBar := by
  constructor
  · intro h
    by_contra hnot
    push Not at hnot
    obtain ⟨hrest, hbar⟩ := hnot
    -- a bar makes two pieces of the whole, which is then a choice
    have hgroups := Chain.two_le_length_groups ((hasBar_joined_amp row rest).mpr hbar) (joined .amp row rest).2
    have hlen : 2 ≤ ((row :: rest).map type).length := by
      have := List.length_pos_of_ne_nil hrest
      simp only [List.length_map, List.length_cons]
      omega
    exact oneOf_ne_allOf (by simpa using hgroups) hlen h
  · rintro (rfl | hbar)
    · rfl
    · -- without a bar the whole is one piece, with the operands of all rows
      have hjoined : ¬ (joined .amp row rest).1.HasBar := by
        rw [hasBar_joined_amp]
        push Not
        exact hbar
      have hne : ∀ group ∈ (row :: rest).map operands, group ≠ [] := by
        intro group hgroup
        obtain ⟨r, _, rfl⟩ := List.mem_map.mp hgroup
        simp [operands]
      calc (joined .amp row rest).type
          = allOf (joined .amp row rest).operands := Chain.close_of_not_hasBar hjoined _
        _ = allOf (((row :: rest).map operands).flatten) := by rw [operands_joined, List.flatMap_def]
        _ = allOf (((row :: rest).map operands).map allOf) := allOf_flatten hne
        _ = allOf ((row :: rest).map type) := by
            rw [List.map_map]
            congr 1
            apply List.map_congr_left
            intro r hr
            exact (Chain.close_of_not_hasBar (hbar r hr) r.2).symm

end Row

end ApiTypes
