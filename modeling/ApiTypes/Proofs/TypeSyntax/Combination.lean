/-
# The type that a combination stands for

The alias of a combination is written by putting the texts of its members side by side.  A choice among the members is
always read as that choice.  A type that is all of its members at once is not: an ampersand binds more tightly than the
bars that the text of a member may show, and the members are not put into parentheses.

* `denotes_combine_iff`: when the text stands for the combination of the types that its members' texts stand for.
* `Schema.composite_denotes_iff`: the same for the declaration of a combination, with the members that break it named.
-/
import ApiTypes.Declaration.Schema
import ApiTypes.Proofs.Schema.Reading

namespace ApiTypes

namespace TypeSyntax

/-! ## Combining types and rows -/

/-- The type that combines types. -/
def combinedType : Combinator → List TypeTree → TypeTree
  | .allOf => TypeTree.allOf
  | .oneOf => TypeTree.oneOf
  | .anyOf => TypeTree.oneOf

/-- The sign between the members of a combination. -/
def combinedJoint : Combinator → Joint
  | .allOf => .amp
  | .oneOf => .bar
  | .anyOf => .bar

theorem combine_eq_intercalate (combinator : Combinator) (texts : List String) :
    Schema.combine combinator texts = (Joint.text (combinedJoint combinator)).intercalate texts := by
  cases combinator <;> rfl

/-- Texts that are rows are combined to the rows one after the other. -/
theorem reads_combine (combinator : Combinator) {first : String} {row : Row} {texts : List String} {rows : List Row}
    (hfirst : Reads first row) (hrest : List.Forall₂ Reads texts rows) :
    Reads (Schema.combine combinator (first :: texts)) (Row.joined (combinedJoint combinator) row rows) := by
  rw [combine_eq_intercalate]
  exact hfirst.joined _ hrest

/-- Rows one after the other are the combination of their types, except that a bar in one of several rows breaks the
ampersands around it. -/
theorem type_joined_iff (combinator : Combinator) (row : Row) (rows : List Row) :
    (Row.joined (combinedJoint combinator) row rows).type = combinedType combinator ((row :: rows).map Row.type) ↔
      (combinator = .allOf → rows = [] ∨ ∀ r ∈ row :: rows, ¬ r.1.HasBar) := by
  cases combinator with
  | allOf =>
      rw [combinedJoint, combinedType, Row.type_joined_amp_iff]
      simp
  | oneOf => simpa [combinedJoint, combinedType] using Row.type_joined_bar row rows
  | anyOf => simpa [combinedJoint, combinedType] using Row.type_joined_bar row rows

/-! ## What a text stands for -/

/-- The text can be read, and bars stand in it outside all brackets. -/
def HasOuterBar (text : String) : Prop :=
  ∃ row, row? text = some row ∧ row.1.HasBar

/-- The text is read as the combination, in order, of the types that the members are read as. -/
def Denotes (combinator : Combinator) (members : List String) (text : String) : Prop :=
  ∃ types, members.map readType = types.map some ∧ readType text = some (combinedType combinator types)

theorem readType_of_reads {text : String} {row : Row} (h : Reads text row) : readType text = some row.type := by
  rw [readType, reads_iff.mp h]
  rfl

theorem hasOuterBar_of_reads {text : String} {row : Row} (h : Reads text row) :
    HasOuterBar text ↔ row.1.HasBar := by
  rw [HasOuterBar, reads_iff.mp h]
  simp

/-- Texts that are read as types are read as rows. -/
theorem exists_rows {texts : List String} (h : ∀ text ∈ texts, (readType text).isSome) :
    ∃ rows, List.Forall₂ Reads texts rows := by
  induction texts with
  | nil => exact ⟨[], .nil⟩
  | cons text rest ih =>
      obtain ⟨rows, hrows⟩ := ih fun other hother => h other (List.mem_cons_of_mem _ hother)
      have hread : (row? text).isSome := by simpa [readType] using h text List.mem_cons_self
      obtain ⟨row, hrow⟩ := Option.isSome_iff_exists.mp hread
      exact ⟨row :: rows, .cons (reads_iff.mpr hrow) hrows⟩

/-- Texts that are read as rows are read as the types of the rows. -/
theorem map_readType_of_reads {texts : List String} {rows : List Row} (h : List.Forall₂ Reads texts rows) :
    texts.map readType = (rows.map Row.type).map some := by
  induction h with
  | nil => rfl
  | cons hread _ ih => rw [List.map_cons, readType_of_reads hread, ih, List.map_cons, List.map_cons]

/-- A bar in one of the rows is an outer bar of its text. -/
theorem forall_not_hasBar_iff {texts : List String} {rows : List Row} (h : List.Forall₂ Reads texts rows) :
    (∀ row ∈ rows, ¬ row.1.HasBar) ↔ ∀ text ∈ texts, ¬ HasOuterBar text := by
  induction h with
  | nil => simp
  | cons hread _ ih => rw [List.forall_mem_cons, List.forall_mem_cons, ih, hasOuterBar_of_reads hread]

/-- **Combinations of texts.**  The combined text stands for the combination exactly when every member can be read and,
for several members that are all to hold at once, none of them shows a bar. -/
theorem denotes_combine_iff (combinator : Combinator) {texts : List String} (hne : texts ≠ []) :
    Denotes combinator texts (Schema.combine combinator texts) ↔
      (∀ text ∈ texts, (readType text).isSome) ∧
        (combinator = .allOf → texts.length = 1 ∨ ∀ text ∈ texts, ¬ HasOuterBar text) := by
  have hread : Denotes combinator texts (Schema.combine combinator texts) →
      ∀ text ∈ texts, (readType text).isSome := by
    rintro ⟨types, htypes, _⟩ text htext
    have hmem : readType text ∈ types.map some := htypes ▸ List.mem_map_of_mem htext
    obtain ⟨type, _, htype⟩ := List.mem_map.mp hmem
    exact Option.isSome_iff_exists.mpr ⟨type, htype.symm⟩
  -- a member that cannot be read settles both sides; otherwise every member has a row
  rw [← and_iff_right_of_imp hread]
  refine and_congr_right fun hsome => ?_
  obtain ⟨rows, hrows⟩ := exists_rows hsome
  cases hrows with
  | nil => exact absurd rfl hne
  | @cons first row rest rows hfirst hrest =>
      have htext := readType_of_reads (reads_combine combinator hfirst hrest)
      have hlength : (first :: rest).length = 1 ↔ rows = [] := by
        rw [List.length_cons, hrest.length_eq, Nat.add_eq_right, List.length_eq_zero_iff]
      calc Denotes combinator (first :: rest) (Schema.combine combinator (first :: rest))
          ↔ (Row.joined (combinedJoint combinator) row rows).type =
              combinedType combinator ((row :: rows).map Row.type) := by
            rw [Denotes, htext, map_readType_of_reads (.cons hfirst hrest)]
            simp only [List.map_inj_right fun _ _ => Option.some.inj, exists_eq_left', Option.some.injEq]
        _ ↔ (combinator = .allOf → rows = [] ∨ ∀ r ∈ row :: rows, ¬ r.1.HasBar) := type_joined_iff combinator row rows
        _ ↔ _ := by rw [hlength, forall_not_hasBar_iff (.cons hfirst hrest)]

end TypeSyntax

/-! ## The alias of a combination -/

namespace Schema

open TypeExpr TypeSyntax

section Members

variable {qualifier : String} {value : Value}

/-- The text of a schema that is read is itself read as the row of its type. -/
theorem reads_typeText (hq : IsQualifier qualifier) (hnames : (ofValue value).typeExpr.Every HasPlainNames) :
    Reads ((ofValue value).typeText qualifier) ((ofValue value).typeExpr.row qualifier) := by
  rw [typeText_eq_render]
  exact reads_render hq _ hnames (variants_ofValue value)

/-- Bars outside all brackets are those of a choice among several variants. -/
theorem hasOuterBar_typeText (hq : IsQualifier qualifier)
    (hnames : (ofValue value).typeExpr.Every HasPlainNames) :
    HasOuterBar ((ofValue value).typeText qualifier) ↔ (ofValue value).typeExpr.isChoice = true := by
  rw [hasOuterBar_of_reads (reads_typeText hq hnames), hasBar_row]

end Members

/-- **The alias of a combination.**  Its body stands for the combination of the types of the members exactly when each
member's text can be read and, if several members are to hold at once, none of their texts shows a bar outside all
brackets.  With plain names and a plain qualifier every member can be read, and the members that show such a bar are the
choices among several variants: one of those next to another member of an `allOf` is what goes wrong. -/
theorem composite_denotes_iff (qualifier name : String) (combinator : Combinator) (values : List Value)
    (description : Option String) (hne : values ≠ []) :
    ∃ d, typeDeclaration? qualifier name (.composite combinator (values.map ofValue) description) = some d ∧
      d.kind = .alias ∧
      (Denotes combinator (values.map fun value => (ofValue value).typeText qualifier) d.body ↔
        (∀ value ∈ values, (readType ((ofValue value).typeText qualifier)).isSome) ∧
          (combinator = .allOf → values.length = 1 ∨
            ∀ value ∈ values, ¬ HasOuterBar ((ofValue value).typeText qualifier))) ∧
      (IsQualifier qualifier → (∀ value ∈ values, (ofValue value).typeExpr.Every HasPlainNames) →
        (Denotes combinator (values.map fun value => (ofValue value).typeText qualifier) d.body ↔
          (combinator = .allOf → values.length = 1 ∨
            ∀ value ∈ values, (ofValue value).typeExpr.isChoice = false))) := by
  have hbody : Denotes combinator (values.map fun value => (ofValue value).typeText qualifier)
        (combine combinator ((values.map ofValue).map (typeText qualifier))) ↔
      (∀ value ∈ values, (readType ((ofValue value).typeText qualifier)).isSome) ∧
        (combinator = .allOf → values.length = 1 ∨
          ∀ value ∈ values, ¬ HasOuterBar ((ofValue value).typeText qualifier)) := by
    rw [List.map_map]
    refine (denotes_combine_iff combinator (by simpa using hne)).trans ?_
    rw [List.forall_mem_map, List.forall_mem_map, List.length_map]
  refine ⟨_, rfl, rfl, hbody, fun hq hnames => ?_⟩
  have hreadable : ∀ value ∈ values, (readType ((ofValue value).typeText qualifier)).isSome := by
    intro value hvalue
    rw [readType_of_reads (reads_typeText hq (hnames value hvalue))]
    rfl
  have hbar : (∀ value ∈ values, ¬ HasOuterBar ((ofValue value).typeText qualifier)) ↔
      ∀ value ∈ values, (ofValue value).typeExpr.isChoice = false := by
    refine forall₂_congr fun value hvalue => ?_
    rw [hasOuterBar_typeText hq (hnames value hvalue), Bool.not_eq_true]
  rw [hbody, and_iff_right hreadable, hbar]

/-- A mapping that lists variants. -/
def choiceOf (variants : List String) : Value :=
  .mapping [(.text "x-enum-varnames", .list (variants.map fun variant => .scalar (.text variant)))]

/-- A mapping that makes a list of what a value describes. -/
def listOf (items : Value) : Value :=
  .mapping [(.text "type", .scalar (.text "array")), (.text "items", items)]

/-- A list of choices next to a pointer: bars inside parentheses break nothing. -/
theorem composite_denotes_iff_list_and_pointer :
    let values := [listOf (choiceOf ["A", "B"]), .mapping [(.text "$ref", .scalar (.text "#/components/schemas/user"))]]
    values ≠ [] ∧ IsQualifier "Api." ∧ (∀ value ∈ values, (ofValue value).typeExpr.Every HasPlainNames) ∧
      ∃ d, typeDeclaration? "Api." "Both" (.composite .allOf (values.map ofValue) none) = some d ∧
        d.body = "('A' | 'B')[] & Api.User" ∧
        Denotes .allOf (values.map fun value => (ofValue value).typeText "Api.") d.body := by
  intro values
  have hne : values ≠ [] := List.cons_ne_nil _ _
  have hq : IsQualifier "Api." := by decide
  have hnames : ∀ value ∈ values, (ofValue value).typeExpr.Every HasPlainNames := by
    simp only [values, List.forall_mem_cons]
    exact ⟨⟨trivial, trivial⟩, (by decide : IsWord "User"), by simp⟩
  have hchoice : ∀ value ∈ values, (ofValue value).typeExpr.isChoice = false := by
    simp only [values, List.forall_mem_cons]
    exact ⟨rfl, rfl, by simp⟩
  obtain ⟨d, hd, _, _, hiff⟩ := composite_denotes_iff "Api." "Both" .allOf values none hne
  refine ⟨hne, hq, hnames, d, hd, ?_, (hiff hq hnames).mpr fun _ => .inr hchoice⟩
  cases hd
  rfl

/-- **Two choices at once.**  The alias of what is both `A` or `B` and `B` or `C` is a choice among `A`, what is `B` and `B`,
and `C`. -/
theorem not_denotes_two_choices :
    let values := [choiceOf ["A", "B"], choiceOf ["B", "C"]]
    ∃ d, typeDeclaration? "" "Both" (.composite .allOf (values.map ofValue) none) = some d ∧
      d.body = "'A' | 'B' & 'B' | 'C'" ∧
      readType d.body = some (.union [.literal "A", .intersection [.literal "B", .literal "B"], .literal "C"]) ∧
      ¬ Denotes .allOf (values.map fun value => (ofValue value).typeText "") d.body := by
  intro values
  have hread : readType "'A' | 'B' & 'B' | 'C'" =
      some (.union [.literal "A", .intersection [.literal "B", .literal "B"], .literal "C"]) := rfl
  refine ⟨⟨"Both", .alias, "'A' | 'B' & 'B' | 'C'", ""⟩, rfl, rfl, hread, ?_⟩
  rintro ⟨types, htypes, hdenoted⟩
  have hlength : 2 = types.length := by simpa [values] using congrArg List.length htypes
  have hall : combinedType .allOf types = .intersection (types.flatMap TypeTree.conjuncts) :=
    TypeTree.join_of_two_le hlength.le
  rw [hread, hall] at hdenoted
  cases hdenoted

end Schema

end ApiTypes
