/-
# What the qualifier does

The qualifier is written in front of the names that references show, and nowhere else.  A declaration is therefore a form
that does not know the qualifier (`DeclarationForm`): its body has a place for the qualifier in front of every such name.

* `Schema.fits_inlineObject`, `Member.fits_interfaceBody`: the marks of a text that is put together from fields.
* `Schema.references`: the names of the references that the type of a schema shows, in order.
* `Schema.fits_typeText`: the text of a type has a place for each of them.
* `DeclarationSource.parts`: the schemas whose types make up the body of a declaration.
* `Generated.qualifier_fills`: the declarations of a document for all qualifiers.
-/
import ApiTypes.Proofs.Generation.Schemas
import ApiTypes.Proofs.Generation.Sources
import ApiTypes.Proofs.Text.Template

namespace ApiTypes

open Template (Fits)

/-! ## Marks of types and bodies -/

section Marks

variable {ι α β : Type} {spell : ι → α → String}

theorem TypeText.fits_arrayOf {marks : List α} {item : ι → String} (h : Fits spell marks item) (compound : Bool) :
    Fits spell marks fun i => arrayOf compound (item i) := by
  cases compound with
  | false => exact h.postpend "[]"
  | true => exact (h.prepend "(").postpend ")[]"

/-- An object type has the marks of its fields. -/
theorem Schema.fits_inlineObject {marks : String × Schema → List α} {properties : List (String × Schema)}
    (required : NameSet) (qualifier : ι → String)
    (h : ∀ property ∈ properties, Fits spell (marks property) fun i =>
      TypeText.signature property.1 (decide (property.1 ∈ required)) (property.2.typeText (qualifier i))) :
    Fits spell (properties.flatMap marks) fun i =>
      TypeText.inlineObject (signatures (qualifier i) required properties) := by
  simp only [signatures_eq_map, TypeText.inlineObject]
  exact ((Fits.intercalate ";\n  " h).prepend "\x7b\n  ").postpend "\n\x7d"

/-- A combination has the marks of its members. -/
theorem Schema.fits_combine {marks : β → List α} {type : β → ι → String} {xs : List β}
    (h : ∀ x ∈ xs, Fits spell (marks x) (type x)) (combinator : Combinator) :
    Fits spell (xs.flatMap marks) fun i => combine combinator (xs.map fun x => type x i) := by
  cases combinator with
  | allOf => exact Fits.intercalate " & " h
  | oneOf => exact Fits.intercalate " | " h
  | anyOf => exact Fits.intercalate " | " h

/-- A field of an interface has the marks of its signature. -/
theorem Member.fits_line {marks : List α} {name : String} {required : Bool} {type : ι → String}
    (h : Fits spell marks fun i => TypeText.signature name required (type i)) (description : Option String) :
    Fits spell marks fun i => (⟨name, type i, required, description⟩ : Member).line :=
  (h.prepend (Comment.line "  " description ++ "  ")).postpend ";"

/-- The body of an interface has the marks of its fields. -/
theorem Member.fits_interfaceBody {marks : β → List α} {member : ι → β → Member} {xs : List β}
    (h : ∀ x ∈ xs, Fits spell (marks x) fun i => (member i x).line) :
    Fits spell (xs.flatMap marks) fun i => interfaceBody (xs.map (member i)) := by
  simpa only [interfaceBody, List.map_map, Function.comp_def] using Fits.intercalate "\n" h

end Marks

/-! ## The references of a type -/

namespace Schema

mutual

/-- The names of the references that the type of a schema shows, in order.  A combination inside a type shows nothing of
its members. -/
def references : Schema → List String
  | reference pointer _ => [Name.cleanName (Name.lastSegment pointer)]
  | array items _ => references items
  | object properties _ _ => propertyReferences properties
  | enumeration _ _ _ => []
  | openObject _ _ => []
  | primitive _ _ => []
  | composite _ _ _ => []
  | unstructured _ => []

/-- The names of the references that the types of properties show. -/
def propertyReferences : List (String × Schema) → List String
  | [] => []
  | (_, schema) :: rest => references schema ++ propertyReferences rest

end

theorem propertyReferences_eq_flatMap (properties : List (String × Schema)) :
    propertyReferences properties = properties.flatMap fun property => property.2.references := by
  induction properties with
  | nil => rfl
  | cons property rest ih =>
      rw [propertyReferences, ih, List.flatMap_cons]

/-- The qualifier in front of a name. -/
def qualified (qualifier name : String) : String := qualifier ++ name

theorem fits_signature {names : List String} {type : String → String} (h : Fits qualified names type) (name : String)
    (required : Bool) : Fits qualified names fun qualifier => TypeText.signature name required (type qualifier) := by
  exact h.prepend (name ++ (if required then "" else "?") ++ ": ")

/-- An object type has the references of its fields. -/
theorem fits_properties {properties : List (String × Schema)} (required : NameSet)
    (h : ∀ property ∈ properties, Fits qualified property.2.references fun qualifier => property.2.typeText qualifier) :
    Fits qualified (propertyReferences properties) fun qualifier =>
      TypeText.inlineObject (signatures qualifier required properties) := by
  rw [propertyReferences_eq_flatMap]
  apply fits_inlineObject required fun qualifier => qualifier
  intro property hproperty
  exact fits_signature (h property hproperty) property.1 (decide (property.1 ∈ required))

mutual

/-- **The text of a type** has a place for the qualifier in front of the name of each reference that it shows. -/
theorem fits_typeText : ∀ schema : Schema, Fits qualified schema.references fun qualifier => schema.typeText qualifier
  | reference _ _ => Fits.mark _
  | array items _ => TypeText.fits_arrayOf (fits_typeText items) items.isChoice
  | object properties required _ => fits_properties required (fits_propertyTypes properties)
  | enumeration variants _ _ => Fits.fixed (TypeText.union (variants.map TypeText.literal))
  | openObject _ _ => Fits.fixed "Record<string, any>"
  | primitive kind _ => by cases kind <;> exact Fits.fixed _
  | composite _ _ _ => Fits.fixed "any"
  | unstructured _ => Fits.fixed "any"

theorem fits_propertyTypes : ∀ properties : List (String × Schema), ∀ property ∈ properties,
    Fits qualified property.2.references fun qualifier => property.2.typeText qualifier
  | [] => List.forall_mem_nil _
  | (_, schema) :: rest => List.forall_mem_cons.mpr ⟨fits_typeText schema, fits_propertyTypes rest⟩

end

end Schema

/-! ## The bodies of declarations -/

namespace Schema

/-- The body of the interface of an object has the references of its properties. -/
theorem fits_members (properties : List (String × Schema)) (required : NameSet) (description : Option String) :
    Fits qualified (properties.flatMap fun property => property.2.references) fun qualifier =>
      Member.interfaceBody ((object properties required description).members qualifier) := by
  apply Member.fits_interfaceBody
  intro property _
  exact Member.fits_line (fits_signature property.2.fits_typeText _ _) _

end Schema

/-- A parameter has the references of its schema, if it has one. -/
theorem Parameter.fits_typeText (p : Parameter) :
    Fits Schema.qualified (p.schema.toList.flatMap Schema.references) fun qualifier => p.typeText qualifier := by
  obtain ⟨name, location, required, schema, description⟩ := p
  cases schema with
  | none => exact Fits.fixed "any"
  | some schema =>
      rw [Option.toList_some, List.flatMap_singleton]
      exact schema.fits_typeText

/-- The interface of some parameters has the references of their schemas. -/
theorem Parameter.fits_members (parameters : List Parameter) (required : Parameter → Bool) :
    Fits Schema.qualified ((parameters.filterMap Parameter.schema).flatMap Schema.references) fun qualifier =>
      Member.interfaceBody (parameters.map fun p => p.member qualifier (required p)) := by
  rw [List.filterMap_eq_flatMap_toList, List.flatMap_assoc]
  apply Member.fits_interfaceBody
  intro p _
  exact Member.fits_line (Schema.fits_signature p.fits_typeText p.name (required p)) p.description

namespace DeclarationSource

/-- The schemas whose types make up the body of a declaration. -/
def parts : DeclarationSource → List Schema
  | choice _ _ _ => []
  | combination _ _ members _ => members
  | record _ properties _ _ => properties.map Prod.snd
  | query op => (op.parametersAt "query").filterMap Parameter.schema
  | path op => (op.parametersAt "path").filterMap Parameter.schema
  | body _ schema => [schema]

/-- The names of the references that the body of a declaration shows. -/
def references (source : DeclarationSource) : List String :=
  source.parts.flatMap Schema.references

/-- **The body of a declaration** has a place for the qualifier in front of the name of each reference that it shows. -/
theorem fits_bodyText (source : DeclarationSource) :
    Fits Schema.qualified source.references fun qualifier => source.bodyText qualifier := by
  cases source with
  | choice name variants comments => exact Fits.fixed _
  | combination name combinator members description => exact Schema.fits_combine (fun member _ => member.fits_typeText) combinator
  | record name properties required description =>
      rw [references, parts, List.flatMap_map]
      exact Schema.fits_members properties required description
  | query op => exact Parameter.fits_members (op.parametersAt "query") Parameter.required
  | path op => exact Parameter.fits_members (op.parametersAt "path") fun _ => true
  | body op schema =>
      rw [references, parts, List.flatMap_singleton]
      exact schema.fits_typeText

end DeclarationSource

/-! ## Forms of declarations -/

/-- A declaration that does not know the qualifier. -/
structure DeclarationForm where
  name : String
  kind : DeclarationKind
  body : Template String
  comment : String

namespace DeclarationForm

/-- The declaration for a qualifier, which joins the fragments of the body. -/
def fill (qualifier : String) (form : DeclarationForm) : Declaration :=
  ⟨form.name, form.kind, qualifier.intercalate form.body.fragments, form.comment⟩

end DeclarationForm

/-- A source under a name makes one form for all qualifiers. -/
theorem DeclarationSource.exists_form (operations : List Operation) (source : DeclarationSource) (name : String) :
    ∃ form : DeclarationForm, form.body.marks = source.references ∧
      ∀ qualifier, source.declare qualifier operations name = form.fill qualifier := by
  obtain ⟨t, hmarks, ht⟩ := source.fits_bodyText
  refine ⟨⟨name, source.kind, t, source.comment operations⟩, hmarks, fun qualifier => ?_⟩
  have hbody : source.bodyText qualifier = qualifier.intercalate t.fragments :=
    (ht qualifier).trans (Template.write_eq_intercalate qualifier t)
  rw [declare, hbody, DeclarationForm.fill]

namespace Generated

/-- The declarations of a document are forms that the qualifier fills. -/
theorem exists_forms (doc : Document) :
    ∃ forms : List DeclarationForm, forms.map (fun form => form.body.marks) = doc.sources.map DeclarationSource.references ∧
      ∀ qualifier, (ofDocument qualifier doc).declarations = forms.map (DeclarationForm.fill qualifier) := by
  choose form hmarks hfill using DeclarationSource.exists_form doc.operations
  refine ⟨List.zipWith form doc.sources doc.names, ?_, fun qualifier => ?_⟩
  · calc (List.zipWith form doc.sources doc.names).map (fun form => form.body.marks)
        = ((doc.sources.zip doc.names).map Prod.fst).map DeclarationSource.references := by
          rw [List.zip, List.map_zipWith, List.map_zipWith, List.map_zipWith]
          simp only [hmarks]
      _ = doc.sources.map DeclarationSource.references := by
          rw [List.map_fst_zip (Nat.le_of_eq doc.length_names.symm)]
  · rw [declarations_eq_zipWith, List.map_zipWith]
    exact congrArg (fun make => List.zipWith make doc.sources doc.names)
      (funext fun source => funext fun name => hfill source name qualifier)

/-- **The qualifier goes in front of references and nowhere else.**  A value is refused for all qualifiers or for none.
Otherwise the warnings are the same for all qualifiers, and so are the declarations except for their bodies: each body
joins fragments that do not depend on the qualifier, with one joint in front of the name of each reference that the types
in it show. -/
theorem qualifier_fills (value : Value) :
    (∀ qualifier, ofValue qualifier value = .error .missingSchemas) ∨
      ∃ (doc : Document) (warnings : List String) (forms : List DeclarationForm), Document.ofValue value = .ok doc ∧
        forms.map (fun form => form.body.marks) = doc.sources.map DeclarationSource.references ∧
        forms.map (fun form => form.body.fragments.length) =
          doc.sources.map (fun source => source.references.length + 1) ∧
        ∀ qualifier, ∃ g, ofValue qualifier value = .ok g ∧ g.warnings = warnings ∧
          g.declarations = forms.map (DeclarationForm.fill qualifier) := by
  cases hdoc : Document.ofValue value with
  | error e =>
      left
      intro qualifier
      rw [ofValue, hdoc]
      cases e
      rfl
  | ok doc =>
      right
      obtain ⟨forms, hmarks, hforms⟩ := exists_forms doc
      refine ⟨doc, (skippedNames doc).map warning, forms, rfl, hmarks, ?_, fun qualifier => ?_⟩
      · have hlengths := congrArg (List.map fun names => names.length + 1) hmarks
        simpa only [List.map_map, Function.comp_def, Template.length_fragments] using hlengths
      · exact ⟨ofDocument qualifier doc, by rw [ofValue, hdoc]; rfl, rfl, hforms qualifier⟩

end Generated

end ApiTypes
