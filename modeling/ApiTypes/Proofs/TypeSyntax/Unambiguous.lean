/-
# The text of a type is unambiguous

A type can be recovered from its tree (`TypeExpr.expr_tree`): the words of the built-in types begin with a small letter,
and a declared name never does.  The text of a type is read back as its tree, so that two schemas with the same text have
the same type, however deeply they are nested and whatever stands in their literals.

Main statement: `Schema.typeText_unambiguous`.
-/
import Mathlib
import ApiTypes.Proofs.TypeSyntax.RoundTrip

namespace ApiTypes

/-! ## Declared names -/

namespace Name

/-- A cleaned name does not begin with a small letter. -/
theorem isLower_head?_cleanName (name : String) : ∀ c ∈ (cleanName name).toList.head?, c.isLower = false := by
  rw [toList_cleanName, clean]
  cases (dropOneOf namespaces name.toList).map dotToUnderscore with
  | nil => simp
  | cons first rest =>
      intro c hc
      have hfirst : first.toUpper = c := by simpa [raiseFirst] using hc
      rw [← hfirst]
      exact Char.isLower_toUpper_eq_false first

end Name

/-! ## From trees to types -/

namespace TypeTree

/-- The values of the literals among types. -/
def literalValues (types : List TypeTree) : List String :=
  types.filterMap fun
    | literal value => some value
    | _ => none

theorem literalValues_map_literal (values : List String) : literalValues (values.map literal) = values := by
  simp [literalValues, List.filterMap_map]

mutual

/-- The type that has a tree, the qualifier taken off its names; a tree that no type has gives any type. -/
def expr (qualifier : String) : TypeTree → TypeExpr
  | name word =>
    if word = "any" then .any
    else if word = "string" then .string
    else if word = "number" then .number
    else if word = "boolean" then .boolean
    else .named (String.ofList (word.toList.drop qualifier.toList.length))
  | literal value => .literals [value]
  | applied _ _ => .openRecord
  | array item => .array (expr qualifier item)
  | object fields => .object (fieldExprs qualifier fields)
  | intersection _ => .any
  | union members => .literals (literalValues members)

/-- The fields with the types that have their trees. -/
def fieldExprs (qualifier : String) : List (String × Bool × TypeTree) → List (String × Bool × TypeExpr)
  | [] => []
  | (label, required, type) :: rest => (label, required, expr qualifier type) :: fieldExprs qualifier rest

end

end TypeTree

namespace TypeExpr

open TypeSyntax

/-- A declared name does not begin with a small letter. -/
def HasRaisedName : TypeExpr → Prop
  | named name => ∀ c ∈ name.toList.head?, c.isLower = false
  | _ => True

variable {qualifier : String}

/-- A declared name behind a qualifier is no word of small letters. -/
theorem qualified_ne_of_isLower {name word : String} (hname : IsWord name)
    (hraised : ∀ c ∈ name.toList.head?, c.isLower = false) (hword : word.toList.all Char.isLower = true) :
    qualifier ++ name ≠ word := by
  rintro rfl
  cases hchars : name.toList with
  | nil => exact hname.1 (String.toList_eq_nil_iff.mp hchars)
  | cons c rest =>
      have hlow : c.isLower = true := List.all_eq_true.mp hword c (by simp [hchars])
      have hhigh : c.isLower = false := hraised c (by simp [hchars])
      exact absurd hlow (by simp [hhigh])

theorem expr_tree_named {name : String} (hname : IsWord name)
    (hraised : ∀ c ∈ name.toList.head?, c.isLower = false) :
    ((named name).tree qualifier).expr qualifier = named name := by
  -- the words of the built-in types are all small letters
  have hne : ∀ word : String, word.toList.all Char.isLower = true → qualifier ++ name ≠ word :=
    fun word => qualified_ne_of_isLower hname hraised
  rw [tree, TypeTree.expr, if_neg (hne "any" (by decide)), if_neg (hne "string" (by decide)),
    if_neg (hne "number" (by decide)), if_neg (hne "boolean" (by decide)), String.toList_append,
    List.drop_left, String.ofList_toList]

theorem expr_tree_literals (variants : List String) :
    ((literals variants).tree qualifier).expr qualifier = literals variants := by
  match variants with
  | [] => rfl
  | [variant] => rfl
  | first :: second :: rest =>
      have hflat : ((first :: second :: rest).map TypeTree.literal).flatMap TypeTree.alternatives =
          (first :: second :: rest).map TypeTree.literal := by
        rw [List.flatMap_map, List.map_eq_flatMap]
        rfl
      rw [tree, TypeTree.oneOf, TypeTree.join_of_two_le (by simp), hflat, TypeTree.expr,
        TypeTree.literalValues_map_literal]

mutual

/-- **A type is recovered from its tree.** -/
theorem expr_tree (qualifier : String) : ∀ t : TypeExpr, t.Every HasPlainNames → t.Every HasRaisedName →
    (t.tree qualifier).expr qualifier = t
  | any, _, _ => rfl
  | string, _, _ => rfl
  | number, _, _ => rfl
  | boolean, _, _ => rfl
  | openRecord, _, _ => rfl
  | named _, hnames, hraised => expr_tree_named hnames hraised
  | literals variants, _, _ => expr_tree_literals variants
  | array item, hnames, hraised => by
      rw [tree, TypeTree.expr, expr_tree qualifier item hnames.2 hraised.2]
  | object fields, hnames, hraised => by
      rw [tree, TypeTree.expr, fieldExprs_fieldTrees qualifier fields hnames.2 hraised.2]

theorem fieldExprs_fieldTrees (qualifier : String) : ∀ fields : List (String × Bool × TypeExpr),
    EveryField HasPlainNames fields → EveryField HasRaisedName fields →
    TypeTree.fieldExprs qualifier (fieldTrees qualifier fields) = fields
  | [], _, _ => rfl
  | (_, _, type) :: rest, hnames, hraised => by
      rw [fieldTrees, TypeTree.fieldExprs, expr_tree qualifier type hnames.1 hraised.1,
        fieldExprs_fieldTrees qualifier rest hnames.2 hraised.2]

end

/-- No two types whose declared names are raised have the same text. -/
theorem render_injective (hq : IsQualifier qualifier) {t u : TypeExpr} (ht : t.Legible) (hu : u.Legible)
    (htr : t.Every HasRaisedName) (hur : u.Every HasRaisedName) (h : t.render qualifier = u.render qualifier) :
    t = u := by
  have htree : t.tree qualifier = u.tree qualifier := by
    apply Option.some.inj
    rw [← readType_render hq ht, ← readType_render hq hu, h]
  rw [← expr_tree qualifier t ht.plainNames htr, htree, expr_tree qualifier u hu.plainNames hur]

end TypeExpr

namespace Schema

open TypeExpr TypeSyntax

mutual

/-- All declared names in the type of a schema are raised. -/
theorem raisedNames_typeExpr : ∀ schema : Schema, schema.typeExpr.Every HasRaisedName
  | reference pointer _ => Name.isLower_head?_cleanName (Name.lastSegment pointer)
  | array items _ => ⟨trivial, raisedNames_typeExpr items⟩
  | enumeration _ _ _ => trivial
  | openObject _ _ => trivial
  | object properties required _ => ⟨trivial, raisedNames_fieldTypes required properties⟩
  | primitive kind _ => by cases kind <;> trivial
  | composite _ _ _ => trivial
  | unstructured _ => trivial

theorem raisedNames_fieldTypes (required : NameSet) :
    ∀ properties : List (String × Schema), EveryField HasRaisedName (fieldTypes required properties)
  | [] => trivial
  | (_, schema) :: rest => ⟨raisedNames_typeExpr schema, raisedNames_fieldTypes required rest⟩

end

/-- **The text of a type says as much as the type.**  Schemas of the same type have the same text behind every qualifier.
Conversely, if choices are not empty and names are plain identifiers, schemas with the same text have the same type; the
variants of choices may be any texts. -/
theorem typeText_unambiguous :
    (∀ (qualifier : String) (first second : Schema), first.typeExpr = second.typeExpr →
      first.typeText qualifier = second.typeText qualifier) ∧
    (∀ (qualifier : String) (first second : Schema), IsQualifier qualifier → first.typeExpr.Legible →
      second.typeExpr.Legible → first.typeText qualifier = second.typeText qualifier →
      first.typeExpr = second.typeExpr) := by
  constructor
  · intro qualifier first second h
    rw [typeText_eq_render, typeText_eq_render, h]
  · intro qualifier first second hq hfirst hsecond h
    rw [typeText_eq_render, typeText_eq_render] at h
    exact render_injective hq hfirst hsecond (raisedNames_typeExpr first) (raisedNames_typeExpr second) h

/-- A list of objects that hold a choice and a pointer, with one description everywhere. -/
def nestedExample (description : Option String) : Schema :=
  .array
    (.object
      [("kind", .enumeration ["it's", "a | b[]"] [] description),
        ("owner", .reference "#/components/schemas/entities.user" description)]
      (NameSet.ofList ["kind"]) description)
    description

theorem legible_nestedExample (description : Option String) : (nestedExample description).typeExpr.Legible := by
  constructor
  · simp [nestedExample, typeExpr, fieldTypes, Every, EveryField, HasPlainNames]
    decide
  · simp [nestedExample, typeExpr, fieldTypes, Every, EveryField, HasVariants]

/-- Descriptions do not show in the text, and the text shows everything else. -/
theorem typeText_unambiguous_nestedExample :
    IsQualifier "Api." ∧ (nestedExample none).typeExpr.Legible ∧ (nestedExample (some "a pet")).typeExpr.Legible ∧
      (nestedExample none).typeText "Api." = (nestedExample (some "a pet")).typeText "Api." ∧
      (nestedExample none).typeExpr = (nestedExample (some "a pet")).typeExpr :=
  have htext : (nestedExample none).typeText "Api." = (nestedExample (some "a pet")).typeText "Api." := rfl
  have hq : IsQualifier "Api." := by decide
  ⟨hq, legible_nestedExample _, legible_nestedExample _, htext,
    typeText_unambiguous.2 "Api." _ _ hq (legible_nestedExample _) (legible_nestedExample _) htext⟩

end Schema

end ApiTypes
