/-
# The literals of a module

Every variant that a choice of the document lists is written as a literal of its own, in the declaration of the choice and
wherever the choice stands inside a type, at any depth.  The literal stands for the variant and for nothing else, provided
that no line ends in the variant.  Ends of lines are not escaped, and a text in quotes that goes on over them is no literal.

* `Value.IsChoice`: a raw schema that is read as a choice, and the variants that it lists.
* `Value.IsChoice.exists_eq`: they are the variants of the choice.
* `Generated.literals_stand_for_variants`: the literals of all variants.
* `Generated.literal_over_lines`: a variant that no literal stands for.
-/
import ApiTypes.Proofs.Generation.Requiredness
import ApiTypes.Proofs.TypeSyntax.Literal

namespace ApiTypes

/-! ## Choices that are read -/

/-- A value that is read as a choice; the given items are its variants. -/
structure Value.IsChoice (reading : Value → Schema) (value : Value) (items : List Value) : Prop where
  variants : value.field? "x-enum-varnames" = some (.list items)
  choice : ∃ variants comments description, reading value = .enumeration variants comments description

namespace Facets

variable {f : Facets} {variants : List String} {comments : List (String × String)} {description : Option String}

/-- A choice inside a type has the variants of the facets. -/
theorem of_fragment_eq_enumeration (h : f.fragment = .enumeration variants comments description) :
    f.variants = variants := by
  revert h
  apply fragment_cases (f := f) (motive := fun schema => schema = .enumeration variants comments description →
    f.variants = variants)
  case enumeration =>
    rintro _ ⟨⟩
    rfl
  all_goals intros; contradiction

/-- A choice that is a definition has the variants of the facets. -/
theorem of_definition_eq_enumeration (h : f.definition = .enumeration variants comments description) :
    f.variants = variants := by
  revert h
  apply definition_cases (f := f) (motive := fun schema => schema = .enumeration variants comments description →
    f.variants = variants)
  case enumeration =>
    rintro _ ⟨⟩
    rfl
  all_goals intros; contradiction

end Facets

namespace Schema

/-- A reading that makes choices of the variants listed in mappings. -/
def ReadsVariants (reading : Value → Schema) : Prop :=
  ∀ value variants comments description, reading value = .enumeration variants comments description →
    ∃ entries, value = .mapping entries ∧ variantsIn entries = variants

theorem readsVariants_ofValue : ReadsVariants ofValue := by
  intro value variants comments description h
  cases value with
  | mapping entries => exact ⟨entries, rfl, Facets.of_fragment_eq_enumeration h⟩
  | scalar _ => cases h
  | list _ => cases h
  | set _ => cases h

theorem readsVariants_ofDefinition : ReadsVariants ofDefinition := by
  intro value variants comments description h
  cases value with
  | mapping entries => exact ⟨entries, rfl, Facets.of_definition_eq_enumeration h⟩
  | scalar _ => cases h
  | list _ => cases h
  | set _ => cases h

end Schema

/-- **Choices that are read** have the texts of the listed items for variants. -/
theorem Value.IsChoice.exists_eq {reading : Value → Schema} {value : Value} {items : List Value}
    (h : value.IsChoice reading items) (hreading : Schema.ReadsVariants reading) :
    ∃ comments description, reading value = .enumeration (items.map Value.spelling) comments description := by
  obtain ⟨variants, comments, description, hread⟩ := h.choice
  obtain ⟨entries, rfl, hvariants⟩ := hreading value variants comments description hread
  have hlisted : lookup "x-enum-varnames" entries = some (.list items) := h.variants
  rw [Schema.variantsIn, hlisted] at hvariants
  rw [hread, ← hvariants]
  exact ⟨comments, description, rfl⟩

/-! ## Literals in declarations -/

open TypeSyntax (IsLiteralOf LiteralPiece QuotesPieces escapeEach units)
open TypeText (literal)

/-- What ends the line before a literal: the comment on it, if there is one. -/
def Arm.front (arm : Arm) : String :=
  match arm.comment with
  | none => ""
  | some text => if text = "" then "" else " /** " ++ text ++ " */"

theorem Arm.enumBody_eq (arms : List Arm) :
    enumBody arms = String.join (arms.map fun arm => arm.front ++ "\n  | " ++ literal arm.value) := by
  have hline : ∀ arm : Arm, arm.line = arm.front ++ "\n  | " ++ literal arm.value := fun _ => rfl
  rw [enumBody, List.map_congr_left fun arm _ => hline arm]

namespace Generated

variable (qualifier : String) {doc : Document}

/-- The declaration of a named choice has a literal for each variant. -/
theorem choice_mem_schemas {name : String} {schema : Schema} {variants : List String} {comments : List (String × String)}
    {description : Option String} (hmem : (name, schema) ∈ doc.definitions)
    (hchoice : schema = .enumeration variants comments description) :
    ∃ d ∈ (ofDocument qualifier doc).schemas, d.name = Name.cleanName name ∧ d.kind = .enum ∧
      ∃ arms : List Arm, arms.map Arm.value = variants ∧
        d.body = String.join (arms.map fun arm => arm.front ++ "\n  | " ++ literal arm.value) := by
  subst hchoice
  have hvalues : (Schema.arms variants comments).map Arm.value = variants := by
    rw [Schema.arms, List.map_map]
    exact List.map_id _
  exact ⟨_, (mem_schemaDeclarations qualifier doc).mpr ⟨_, hmem, rfl⟩, rfl, rfl, _, hvalues, Arm.enumBody_eq _⟩

/-- **Literals stand for variants.**

* Every text is written as a literal by escaping first its backslashes and then its single quotes.  So the literal is in
  quotes, no quote inside is bare, no escape is left open, and its pieces stand for the text; plain pieces are all
  characters but backslashes and quotes.  It is a literal of this text, and of no other, exactly when the text holds no
  line feed and no carriage return.
* In the module of a document, the declaration of a named choice has such a literal for each variant, in order.  Each stands
  behind a bar on a new line, and the comment on it ends the line before.
* The declaration that shows a type has such literals for the variants of every choice in the type, joined by bars. -/
theorem literals_stand_for_variants (document : Value) :
    (∀ value : String,
      (literal value).toList = '\x27' :: escapeEach '\x27' (escapeEach '\\' value.toList) ++ ['\x27'] ∧
        (∃ pieces, QuotesPieces (literal value) pieces ∧ pieces.flatMap LiteralPiece.units = units value.toList ∧
          ∀ c, .plain c ∈ pieces ↔ c ∈ value.toList ∧ c ≠ '\\' ∧ c ≠ '\x27') ∧
        ∀ other, IsLiteralOf (literal value) other ↔
          other = value ∧ '\n' ∉ value.toList ∧ '\r' ∉ value.toList) ∧
      ∀ schemas, document.NamesSchemas schemas →
        ∃ g, ofValue qualifier document = .ok g ∧
          (∀ entry ∈ schemas, ∀ items, entry.2.IsChoice Schema.ofDefinition items →
            ∃ d ∈ g.schemas, d.name = Name.cleanName entry.1.spelling ∧ d.kind = .enum ∧
              ∃ arms : List Arm, arms.map Arm.value = items.map Value.spelling ∧
                d.body = String.join (arms.map fun arm => arm.front ++ "\n  | " ++ literal arm.value)) ∧
          ∀ source outer inner items, Document.WrittenIn document source outer → Schema.Inside outer inner →
            inner.IsChoice Schema.ofValue items →
            ∃ d ∈ g.declarations, d.kind = source.kind ∧ d.body = source.bodyText qualifier ∧
              Shows d.body (" | ".intercalate (items.map fun item => literal item.spelling)) := by
  constructor
  · intro value
    refine ⟨TypeSyntax.literal_eq_escapeEach value, ⟨_, TypeSyntax.quotesPieces_literal value,
      TypeSyntax.units_map_pieceOf value.toList, fun c => TypeSyntax.plain_mem_map_pieceOf_iff⟩, fun other => ?_⟩
    exact TypeSyntax.isLiteralOf_literal_iff value other
  · intro schemas h
    obtain ⟨doc, hdoc⟩ : ∃ doc, Document.ofValue document = .ok doc := by
      rw [Document.ofValue, Document.schemasIn_eq_some_iff.mpr h]
      exact ⟨_, rfl⟩
    refine ⟨ofDocument qualifier doc, ofValue_eq_ok_iff.mpr ⟨doc, hdoc, rfl⟩, ?_, ?_⟩
    · intro entry hentry items hchoice
      obtain ⟨comments, description, hread⟩ := hchoice.exists_eq Schema.readsVariants_ofDefinition
      exact choice_mem_schemas qualifier (Document.mem_definitions hdoc h hentry) hread
    · intro source outer inner items hwritten hinside hchoice
      obtain ⟨hsource, hpart⟩ := hwritten.mem_sources hdoc
      obtain ⟨d, hd, name, rfl⟩ := exists_declaration qualifier doc hsource
      refine ⟨_, hd, rfl, rfl, ?_⟩
      obtain ⟨comments, description, hread⟩ := hchoice.exists_eq Schema.readsVariants_ofValue
      have hunion : (Schema.ofValue inner).typeText qualifier =
          " | ".intercalate (items.map fun item => literal item.spelling) := by
        rw [hread, Schema.typeText, TypeText.union, List.map_map]
        rfl
      -- the declaration shows the type in which the choice stands, and this type shows the choice
      have houter := DeclarationSource.shows_bodyText qualifier hpart
      have hinner := hinside.shows qualifier
      rw [hunion] at hinner
      exact houter.trans hinner

/-- A named choice with a quote, a backslash and a number among its variants, and a choice inside a list with both a backslash
and a quote in one variant. -/
theorem literals_stand_for_variants_quotes :
    let text := fun s => Value.scalar (.text s)
    let statusItems := [text "it's", text "a\\", .scalar (.int 200)]
    let status := Value.mapping [(.text "x-enum-varnames", .list statusItems)]
    let tagItems := [text "new", text "\\'"]
    let tag := Value.mapping [(.text "x-enum-varnames", .list tagItems)]
    let tags := Value.mapping [(.text "type", text "array"), (.text "items", tag)]
    let orderFields : Entries := [(.text "tags", tags)]
    let order := Value.mapping [(.text "properties", .mapping orderFields)]
    let schemas : Entries := [(.text "Status", status), (.text "Order", order)]
    let document := Value.mapping [(.text "components", .mapping [(.text "schemas", .mapping schemas)])]
    document.NamesSchemas schemas ∧ status.IsChoice Schema.ofDefinition statusItems ∧
      (∃ source, Document.WrittenIn document source tags) ∧ Schema.Inside tags tag ∧
      tag.IsChoice Schema.ofValue tagItems ∧
      ∃ g, ofValue "" document = .ok g ∧
        g.schemas.map Declaration.body =
          ["\n  | 'it\\'s'\n  | 'a\\\\'\n  | '200'", "  tags?: ('new' | '\\\\\\'')[];"] ∧
        (∃ d ∈ g.schemas, ∃ arms : List Arm, arms.map Arm.value = ["it's", "a\\", "200"] ∧
          d.body = String.join (arms.map fun arm => arm.front ++ "\n  | " ++ literal arm.value)) ∧
        (∃ d ∈ g.declarations, Shows d.body "'new' | '\\\\\\''") ∧
        IsLiteralOf "'it\\'s'" "it's" ∧ IsLiteralOf "'a\\\\'" "a\\" ∧ IsLiteralOf "'\\\\\\''" "\\'" := by
  intro text statusItems status tagItems tag tags orderFields order schemas document
  have hschemas : document.NamesSchemas schemas := ⟨_, _, rfl, rfl, rfl⟩
  have hstatus : status.IsChoice Schema.ofDefinition statusItems := ⟨rfl, _, _, _, rfl⟩
  have htag : tag.IsChoice Schema.ofValue tagItems := ⟨rfl, _, _, _, rfl⟩
  have hinside : Schema.Inside tags tag := .item .self (rfl : Schema.ofValue tags = .array _ none) rfl
  have horder : (Scalar.text "Order", order) ∈ schemas := List.mem_cons_of_mem _ (List.mem_singleton_self _)
  have hread : Schema.ofDefinition order = .object [("tags", Schema.ofValue tags)] ∅ none := rfl
  have hwritten := Document.WrittenIn.property hschemas horder hread rfl (List.mem_singleton_self _)
  obtain ⟨hliteral, hdocument⟩ := literals_stand_for_variants "" document
  obtain ⟨g, hg, hnamed, hinline⟩ := hdocument schemas hschemas
  obtain ⟨d, hd, _, _, harms⟩ := hnamed _ List.mem_cons_self statusItems hstatus
  obtain ⟨shown, hshown, _, _, hunion⟩ := hinline _ tags tag tagItems hwritten hinside htag
  have hjoined : " | ".intercalate (tagItems.map fun item => literal item.spelling) = "'new' | '\\\\\\''" := by
    decide +kernel
  rw [hjoined] at hunion
  refine ⟨hschemas, hstatus, ⟨_, hwritten⟩, hinside, htag, g, hg, ?_, ⟨d, hd, harms⟩, ⟨shown, hshown, hunion⟩, ?_, ?_, ?_⟩
  · cases hg
    decide +kernel
  · exact ((hliteral "it's").2.2 _).mpr ⟨rfl, by decide, by decide⟩
  · exact ((hliteral "a\\").2.2 _).mpr ⟨rfl, by decide, by decide⟩
  · exact ((hliteral "\\'").2.2 _).mpr ⟨rfl, by decide, by decide⟩

/-- **A variant over two lines.**  The line feed in it goes into the declaration as it is.  So the text between the bar and the
end of the declaration is no literal, of this value or of any other. -/
theorem literal_over_lines :
    let kind := Value.mapping [(.text "x-enum-varnames", .list [.scalar (.text "a\nb")])]
    let document := Value.mapping [(.text "components", .mapping [(.text "schemas", .mapping [(.text "Kind", kind)])])]
    (∃ g, ofValue "" document = .ok g ∧ g.schemas = [⟨"Kind", .enum, "\n  | 'a\nb'", ""⟩] ∧
        g.render = "export type Kind =\n  | 'a\nb';") ∧
      literal "a\nb" = "'a\nb'" ∧ ∀ value, ¬ IsLiteralOf "'a\nb'" value := by
  intro kind document
  have hliteral : literal "a\nb" = "'a\nb'" := by decide
  refine ⟨⟨_, rfl, by decide +kernel, by decide +kernel⟩, hliteral, fun value hvalue => ?_⟩
  rw [← hliteral, TypeSyntax.isLiteralOf_literal_iff] at hvalue
  exact hvalue.2.1 (by decide)

end Generated

end ApiTypes
