/-
# Types are read back

The tree of a type (`TypeExpr.tree`) and the row of operands that it is written as (`TypeExpr.row`).  The text of a type is
read as that row (`reads_render`) and so as that tree (`readType_render`), provided that its choices are not empty and its
names are plain identifiers.
-/
import ApiTypes.Proofs.TypeSyntax.Grammar
import Mathlib.Data.List.Forall2
import Mathlib.Data.String.Basic

namespace ApiTypes

namespace TypeExpr

open TypeSyntax

/-! ## Properties of a type and of the types inside it -/

mutual

/-- Whether a type and all types inside it have a property. -/
def Every (p : TypeExpr → Prop) : TypeExpr → Prop
  | array item => p (array item) ∧ item.Every p
  | object fields => p (object fields) ∧ EveryField p fields
  | t => p t

/-- Whether the types of all fields, and all types inside them, have a property. -/
def EveryField (p : TypeExpr → Prop) : List (String × Bool × TypeExpr) → Prop
  | [] => True
  | (_, _, type) :: rest => type.Every p ∧ EveryField p rest

end

/-- The names that a type shows itself are plain identifiers. -/
def HasPlainNames : TypeExpr → Prop
  | named name => IsWord name
  | object fields => ∀ field ∈ fields, IsWord field.1
  | _ => True

/-- A choice has alternatives. -/
def HasVariants : TypeExpr → Prop
  | literals variants => variants ≠ []
  | _ => True

/-- A type whose text can be read: its choices are not empty, and its names are plain identifiers. -/
structure Legible (t : TypeExpr) : Prop where
  plainNames : t.Every HasPlainNames
  variants : t.Every HasVariants

/-! ## Trees -/

mutual

/-- The tree of a type, with declared names behind the qualifier. -/
def tree (qualifier : String) : TypeExpr → TypeTree
  | any => .name "any"
  | string => .name "string"
  | number => .name "number"
  | boolean => .name "boolean"
  | openRecord => .applied "Record" [.name "string", .name "any"]
  | named name => .name (qualifier ++ name)
  | literals variants => .oneOf (variants.map .literal)
  | array item => .array (tree qualifier item)
  | object fields => .object (fieldTrees qualifier fields)

/-- The fields of an object type with the trees of their types. -/
def fieldTrees (qualifier : String) : List (String × Bool × TypeExpr) → List (String × Bool × TypeTree)
  | [] => []
  | (name, required, type) :: rest => (name, required, tree qualifier type) :: fieldTrees qualifier rest

end

/-- The row that a type is written as: a choice has one operand for each alternative, another type is one operand. -/
def row (qualifier : String) : TypeExpr → Row
  | literals (first :: rest) => Row.joined .bar ([], .literal first) (rest.map fun variant => ([], .literal variant))
  | t => ([], t.tree qualifier)

theorem type_row (qualifier : String) (t : TypeExpr) : (t.row qualifier).type = t.tree qualifier := by
  unfold row
  split
  · rw [Row.type_joined_bar, tree, List.map_cons, List.map_map, List.map_cons]
    rfl
  · rfl

/-- Only the row of a choice among several alternatives holds bars. -/
theorem hasBar_row (qualifier : String) (t : TypeExpr) : (t.row qualifier).1.HasBar ↔ t.isChoice = true := by
  unfold row
  split
  · rename_i first rest
    cases rest with
    | nil => simp [Row.joined, Chain.HasBar, isChoice]
    | cons second rest => simp [Row.joined, Chain.HasBar, isChoice]
  · -- a choice without alternatives is written as one operand as well
    rename_i hne
    have hchoice : isChoice t = false := by
      unfold isChoice
      split
      · rename_i variants
        cases variants with
        | nil => rfl
        | cons first rest => exact absurd rfl (hne first rest)
      · rfl
    simp [Chain.HasBar, hchoice]

/-- A type that is no choice is one operand. -/
theorem row_of_not_isChoice {qualifier : String} {t : TypeExpr} (h : t.isChoice = false) :
    t.row qualifier = ([], t.tree qualifier) := by
  unfold row
  split
  · rename_i first rest
    have hrest : rest = [] := by simpa [isChoice] using h
    rw [hrest]
    rfl
  · rfl

/-! ## Reading the text of a type -/

section Reading

variable {qualifier : String}

theorem reads_named (hq : IsQualifier qualifier) {name : String} (hname : IsWord name) :
    Reads (qualifier ++ name) ([], .name (qualifier ++ name)) := by
  apply reads_word (qualifier ++ name)
  · intro h
    exact hname.1 (String.append_eq_empty_iff.mp h).2
  · intro c hc
    rw [String.toList_append, List.mem_append] at hc
    rcases hc with hc | hc
    · exact hq c hc
    · exact isNameChar_of_isWordChar (hname.2 c hc)

theorem reads_literals (first : String) (rest : List String) :
    Reads ((literals (first :: rest)).render qualifier) ((literals (first :: rest)).row qualifier) := by
  have hrest : List.Forall₂ Reads (rest.map TypeText.literal) (rest.map fun v => ([], TypeTree.literal v)) := by
    rw [List.forall₂_map_left_iff, List.forall₂_map_right_iff]
    exact List.forall₂_same.mpr fun v _ => reads_literal v
  exact (reads_literal first).joined .bar hrest

/-- A list: its item stands in parentheses when it is a choice. -/
theorem reads_array {item : TypeExpr} (h : Reads (item.render qualifier) (item.row qualifier)) :
    Reads ((array item).render qualifier) ((array item).row qualifier) := by
  rw [row_of_not_isChoice rfl, tree, render, TypeText.arrayOf]
  cases hchoice : item.isChoice with
  | true =>
      have hgroup := h.parens.brackets
      rw [type_row] at hgroup
      simpa [String.append_assoc] using hgroup
  | false =>
      rw [row_of_not_isChoice hchoice] at h
      simpa using h.brackets

mutual

/-- **The text of a type is read as the row of the type.** -/
theorem reads_render (hq : IsQualifier qualifier) :
    ∀ t : TypeExpr, t.Every HasPlainNames → t.Every HasVariants → Reads (t.render qualifier) (t.row qualifier)
  | any, _, _ => reads_word "any" (by decide) (by decide)
  | string, _, _ => reads_word "string" (by decide) (by decide)
  | number, _, _ => reads_word "number" (by decide) (by decide)
  | boolean, _, _ => reads_word "boolean" (by decide) (by decide)
  | openRecord, _, _ => reads_openRecord
  | named _, hnames, _ => reads_named hq hnames
  | literals [], _, hvariants => absurd rfl hvariants
  | literals (first :: rest), _, _ => reads_literals first rest
  | array item, hnames, hvariants => reads_array (reads_render hq item hnames.2 hvariants.2)
  | object fields, hnames, hvariants =>
    reads_object (readsFields_fieldTexts hq fields hnames.1 hnames.2 hvariants.2)

/-- The texts of fields are read as the fields. -/
theorem readsFields_fieldTexts (hq : IsQualifier qualifier) :
    ∀ fields : List (String × Bool × TypeExpr), (∀ field ∈ fields, IsWord field.1) →
      EveryField HasPlainNames fields → EveryField HasVariants fields →
      List.Forall₂ ReadsField (fieldTexts qualifier fields) (fieldTrees qualifier fields)
  | [], _, _, _ => .nil
  | (_, _, type) :: rest, hwords, hnames, hvariants =>
    .cons
      ⟨hwords _ List.mem_cons_self, type.render qualifier, type.row qualifier, rfl,
        reads_render hq type hnames.1 hvariants.1, type_row qualifier type⟩
      (readsFields_fieldTexts hq rest (fun field h => hwords field (List.mem_cons_of_mem _ h)) hnames.2 hvariants.2)

end

/-- **Types are read back.** -/
theorem readType_render (hq : IsQualifier qualifier) {t : TypeExpr} (h : t.Legible) :
    readType (t.render qualifier) = some (t.tree qualifier) := by
  rw [readType, reads_iff.mp (reads_render hq t h.plainNames h.variants), Option.map_some, type_row]

end Reading

end TypeExpr

end ApiTypes
