/-
# Declared names and keys that are identifiers

A declared name is an identifier exactly when the text that it is made from has characters of identifiers only: the key of
the schema, or the path of the operation.  The key of a field is not made from anything; it is the name of the property or
of the parameter as it stands, in front of a colon, at every depth of a type.

* `Schema.heads`, `DeclarationSource.heads`: the heads of the fields in a type and in a declaration.
* `DeclarationSource.hasHeads_bodyText`: they stand in the body of the declaration as they are.
* `DeclarationSource.NamedBy`: the sources that make identifiers.
* `Generated.names_identifiers_iff`: the names and keys of a module.
-/
import Mathlib
import ApiTypes.Proofs.Generation.Comments
import ApiTypes.Proofs.Generation.Qualifier
import ApiTypes.Proofs.Naming.Identifiers

namespace ApiTypes

open Template (Fits)
open TypeSyntax (IdentifierChars IsIdentifier IsKey)

/-! ## Keys of fields -/

/-- What stands in front of the type of a field: its key, and whether the field may be missing. -/
structure FieldHead where
  name : String
  required : Bool

namespace FieldHead

/-- The text of a head. -/
def text (head : FieldHead) : String :=
  head.name ++ if head.required then ": " else "?: "

theorem signature_eq (name : String) (required : Bool) (type : String) :
    TypeText.signature name required type = text ⟨name, required⟩ ++ type := by
  cases required <;> simp [← String.toList_inj, TypeText.signature, text]

end FieldHead

/-- A text has the given heads, in order. -/
def HasHeads (heads : List FieldHead) (text : String) : Prop :=
  Fits (fun _ : Unit => FieldHead.text) heads fun _ => text

/-- A signature has its head in front of those of its type. -/
theorem HasHeads.signature {heads : List FieldHead} {type : String} (h : HasHeads heads type) (name : String)
    (required : Bool) : HasHeads (⟨name, required⟩ :: heads) (TypeText.signature name required type) := by
  rw [FieldHead.signature_eq]
  exact (Fits.mark _).append h

namespace Schema

mutual

/-- The heads of all fields in the type of a schema, at every depth. -/
def heads : Schema → List FieldHead
  | reference _ _ => []
  | array items _ => heads items
  | object properties required _ => propertyHeads required properties
  | enumeration _ _ _ => []
  | openObject _ _ => []
  | primitive _ _ => []
  | composite _ _ _ => []
  | unstructured _ => []

/-- The heads of properties, each in front of those in its type. -/
def propertyHeads (required : NameSet) : List (String × Schema) → List FieldHead
  | [] => []
  | (name, schema) :: rest => ⟨name, decide (name ∈ required)⟩ :: heads schema ++ propertyHeads required rest

end

theorem propertyHeads_eq_flatMap (required : NameSet) (properties : List (String × Schema)) :
    propertyHeads required properties =
      properties.flatMap fun property => ⟨property.1, decide (property.1 ∈ required)⟩ :: property.2.heads := by
  induction properties with
  | nil => rfl
  | cons property rest ih => rw [propertyHeads, ih, List.flatMap_cons]

variable (qualifier : String)

/-- An object type has the heads of its fields. -/
theorem hasHeads_properties {properties : List (String × Schema)} (required : NameSet)
    (h : ∀ property ∈ properties, HasHeads property.2.heads (property.2.typeText qualifier)) :
    HasHeads (propertyHeads required properties)
      (TypeText.inlineObject (signatures qualifier required properties)) := by
  rw [propertyHeads_eq_flatMap]
  apply fits_inlineObject required fun _ => qualifier
  intro property hproperty
  exact (h property hproperty).signature property.1 (decide (property.1 ∈ required))

mutual

/-- **The text of a type** has the heads of its fields. -/
theorem hasHeads_typeText : ∀ schema : Schema, HasHeads schema.heads (schema.typeText qualifier)
  | reference _ _ => Fits.fixed _
  | array items _ => TypeText.fits_arrayOf (hasHeads_typeText items) items.isChoice
  | object properties required _ => hasHeads_properties qualifier required (hasHeads_propertyTypes properties)
  | enumeration _ _ _ => Fits.fixed _
  | openObject _ _ => Fits.fixed _
  | primitive _ _ => Fits.fixed _
  | composite _ _ _ => Fits.fixed _
  | unstructured _ => Fits.fixed _

theorem hasHeads_propertyTypes : ∀ properties : List (String × Schema),
    ∀ property ∈ properties, HasHeads property.2.heads (property.2.typeText qualifier)
  | [] => List.forall_mem_nil _
  | (_, schema) :: rest => List.forall_mem_cons.mpr ⟨hasHeads_typeText schema, hasHeads_propertyTypes rest⟩

end

end Schema

/-- A parameter has the heads of its schema, if it has one. -/
theorem Parameter.hasHeads_typeText (qualifier : String) (p : Parameter) :
    HasHeads (p.schema.toList.flatMap Schema.heads) (p.typeText qualifier) := by
  obtain ⟨name, location, required, schema, description⟩ := p
  cases schema with
  | none => exact Fits.fixed "any"
  | some schema =>
      rw [Option.toList_some, List.flatMap_singleton]
      exact schema.hasHeads_typeText qualifier

/-- The interface of some parameters has their heads, each in front of those in its type. -/
theorem Parameter.hasHeads_members (qualifier : String) (parameters : List Parameter) (required : Parameter → Bool) :
    HasHeads (parameters.flatMap fun p => ⟨p.name, required p⟩ :: p.schema.toList.flatMap Schema.heads)
      (Member.interfaceBody (parameters.map fun p => p.member qualifier (required p))) := by
  apply Member.fits_interfaceBody
  intro p _
  exact Member.fits_line ((p.hasHeads_typeText qualifier).signature p.name (required p)) p.description

namespace DeclarationSource

/-- The heads of all fields in the body of a declaration. -/
def heads : DeclarationSource → List FieldHead
  | choice _ _ _ => []
  | combination _ _ members _ => members.flatMap Schema.heads
  | record _ properties required _ => Schema.propertyHeads required properties
  | query op =>
    (op.parametersAt "query").flatMap fun p => ⟨p.name, p.required⟩ :: p.schema.toList.flatMap Schema.heads
  | path op => (op.parametersAt "path").flatMap fun p => ⟨p.name, true⟩ :: p.schema.toList.flatMap Schema.heads
  | body _ schema => schema.heads

/-- **The keys of fields** stand in the body of a declaration as they are. -/
theorem hasHeads_bodyText (qualifier : String) (source : DeclarationSource) :
    HasHeads source.heads (source.bodyText qualifier) := by
  cases source with
  | choice name variants comments => exact Fits.fixed _
  | combination name combinator members description =>
      exact Schema.fits_combine (fun member _ => member.hasHeads_typeText qualifier) combinator
  | record name properties required description =>
      rw [heads, Schema.propertyHeads_eq_flatMap]
      apply Member.fits_interfaceBody
      intro property _
      have htype := property.2.hasHeads_typeText qualifier
      exact Member.fits_line (htype.signature property.1 (decide (property.1 ∈ required))) property.2.description
  | query op => exact Parameter.hasHeads_members qualifier (op.parametersAt "query") Parameter.required
  | path op => exact Parameter.hasHeads_members qualifier (op.parametersAt "path") fun _ => true
  | body op schema => exact schema.hasHeads_typeText qualifier

end DeclarationSource

/-! ## Names of requests -/

namespace Operation

/-- What is made from a method begins with a capital letter, and only letters follow. -/
theorem exists_toList_upperFirst {key : String} (h : isMethod key = true) :
    ∃ first rest, (Name.upperFirst key).toList = first :: rest ∧ first.isUpper = true ∧
      ∀ c ∈ (Name.upperFirst key).toList, TypeSyntax.isWordChar c = true := by
  have halpha : ∀ c ∈ key.toList, c.isAlpha = true := by
    intro c hc
    rw [← Char.isLower_toLower_eq_isAlpha]
    exact isLower_toLower_of_isMethod h hc
  have hword : ∀ c : Char, c.isAlpha = true → TypeSyntax.isWordChar c = true := by
    intro c hc
    simp [TypeSyntax.isWordChar, Char.isAlphanum, hc]
  cases hkey : key.toList with
  | nil =>
      rw [String.toList_eq_nil_iff.mp hkey] at h
      exact absurd h (by decide)
  | cons first rest =>
      rw [hkey, List.forall_mem_cons] at halpha
      have hraised : (Name.upperFirst key).toList = first.toUpper :: rest := by
        rw [Name.toList_upperFirst, hkey, Name.raiseFirst]
      refine ⟨first.toUpper, rest, hraised, ?_, ?_⟩
      · rw [Char.isUpper_toUpper_eq_isAlpha, halpha.1]
      · rw [hraised, List.forall_mem_cons]
        refine ⟨hword _ ?_, fun c hc => hword c (halpha.2 c hc)⟩
        rw [Char.isAlpha_toUpper_eq_isAlpha, halpha.1]

/-- **The name of a request**, numbered or not, is an identifier exactly when the path of the operation is plain. -/
theorem isIdentifier_name_iff (chars : IdentifierChars) {op : Operation} (h : isMethod op.method = true)
    {suffix name : String} (hsuffix : ∀ c ∈ suffix.toList, TypeSyntax.isWordChar c = true)
    (hname : name = op.baseName ++ suffix ∨ ∃ k, name = Registry.numbered (op.baseName ++ suffix) k) :
    IsIdentifier chars name ↔ Name.IsPlainPath chars op.path := by
  obtain ⟨first, rest, hmethod, hupper, hletters⟩ := exists_toList_upperFirst h
  -- the method comes first, so that the name begins with its capital letter whatever the path is
  have hbase : ∀ behind : String, ∃ others, (op.baseName ++ behind).toList = first :: others := by
    intro behind
    rw [baseName, String.toList_append, String.toList_append, hmethod]
    exact ⟨_, rfl⟩
  obtain ⟨others, hchars⟩ : ∃ others, name.toList = first :: others := by
    rcases hname with rfl | ⟨k, rfl⟩
    · exact hbase suffix
    · rw [Registry.numbered, String.append_assoc]
      exact hbase (suffix ++ k.repr)
  -- of the three parts only the path can have other characters
  have hparts : (∀ c ∈ (op.baseName ++ suffix).toList, chars.isPart c = true) ↔ Name.IsPlainPath chars op.path := by
    have hfront : ∀ c ∈ (Name.upperFirst op.method).toList, chars.isPart c = true :=
      fun c hc => chars.isPart_of_isWordChar (hletters c hc)
    have hback : ∀ c ∈ suffix.toList, chars.isPart c = true := fun c hc => chars.isPart_of_isWordChar (hsuffix c hc)
    rw [baseName, String.toList_append, String.toList_append, List.forall_mem_append, List.forall_mem_append,
      and_iff_left hback, and_iff_right hfront, Name.forall_isPart_pathTypeName_iff]
  rw [TypeSyntax.isIdentifier_iff_of_isUpper hchars hupper, ← hparts]
  rcases hname with rfl | ⟨k, rfl⟩
  · rfl
  · exact Registry.forall_isPart_numbered_iff chars _ k

end Operation

/-! ## Names of declarations -/

/-- The names that candidates get are the candidates, with or without a number. -/
theorem Registry.forall₂_claimAll (candidates : List String) (taken : Registry) :
    List.Forall₂ (fun candidate name => name = candidate ∨ ∃ k, name = numbered candidate k) candidates
      (claimAll candidates taken) := by
  induction candidates generalizing taken with
  | nil => exact .nil
  | cons candidate rest ih =>
      refine .cons ?_ (ih _)
      unfold freeName
      split
      · exact .inr ⟨_, rfl⟩
      · exact .inl rfl

namespace DeclarationSource

/-- The sources whose declarations have identifiers for names. -/
def NamedBy (chars : IdentifierChars) : DeclarationSource → Prop
  | choice name _ _ => Name.IsPlainKey chars name
  | combination name _ _ _ => Name.IsPlainKey chars name
  | record name _ _ _ => Name.IsPlainKey chars name
  | query op => Name.IsPlainPath chars op.path
  | path op => Name.IsPlainPath chars op.path
  | body op _ => Name.IsPlainPath chars op.path

/-- A name that a declaration gets: its candidate, which may have a number if the declaration is made for an operation. -/
def GetsName (source : DeclarationSource) (name : String) : Prop :=
  name = source.candidate ∨ (source.operation?.isSome = true ∧ ∃ k, name = Registry.numbered source.candidate k)

/-- Which names of declarations are identifiers. -/
theorem GetsName.isIdentifier_iff (chars : IdentifierChars) {source : DeclarationSource} {name : String}
    (h : source.GetsName name) (hmethods : ∀ op ∈ source.operation?, Operation.isMethod op.method = true) :
    IsIdentifier chars name ↔ source.NamedBy chars := by
  have hschema : ∀ key, name = Name.cleanName key → (IsIdentifier chars name ↔ Name.IsPlainKey chars key) := by
    rintro key rfl
    exact Name.isIdentifier_cleanName_iff chars key
  have hrequest : ∀ op : Operation, Operation.isMethod op.method = true → ∀ suffix : String,
      suffix.toList.all TypeSyntax.isWordChar = true →
      (name = op.baseName ++ suffix ∨ ∃ k, name = Registry.numbered (op.baseName ++ suffix) k) →
      (IsIdentifier chars name ↔ Name.IsPlainPath chars op.path) := by
    intro op hmethod suffix hsuffix hname
    exact op.isIdentifier_name_iff chars hmethod (List.all_eq_true.mp hsuffix) hname
  cases source with
  | choice key variants comments => exact hschema key (h.resolve_right fun hnumber => Bool.false_ne_true hnumber.1)
  | combination key combinator members description =>
      exact hschema key (h.resolve_right fun hnumber => Bool.false_ne_true hnumber.1)
  | record key properties required description =>
      exact hschema key (h.resolve_right fun hnumber => Bool.false_ne_true hnumber.1)
  | query op => exact hrequest op (hmethods op rfl) "QueryParams" (by decide) (h.imp_right And.right)
  | path op => exact hrequest op (hmethods op rfl) "PathParams" (by decide) (h.imp_right And.right)
  | body op schema => exact hrequest op (hmethods op rfl) "RequestBody" (by decide) (h.imp_right And.right)

end DeclarationSource

namespace Document

/-- The names of a document are names for its sources. -/
theorem forall₂_names (doc : Document) : List.Forall₂ DeclarationSource.GetsName doc.sources doc.names := by
  refine List.rel_append ?_ ?_
  -- the names of schemas are reserved as they are, those of requests are claimed
  · rw [schemaNames, List.forall₂_map_right_iff, List.forall₂_same]
    exact fun source _ => .inl rfl
  · have hclaimed := Registry.forall₂_claimAll (doc.requestSources.map DeclarationSource.candidate)
      (doc.schemaNames.foldl Registry.reserve ∅)
    rw [List.forall₂_map_left_iff] at hclaimed
    have hoperation : ∀ source ∈ doc.requestSources, source.operation?.isSome = true := by
      intro source hsource
      obtain ⟨op, _, hmem⟩ := List.mem_flatMap.mp hsource
      rw [operation?_of_mem_operationSources hmem]
      rfl
    refine ((List.forall₂_and_left _ _).mpr ⟨hoperation, hclaimed⟩).imp ?_
    rintro source name ⟨hsome, hname⟩
    exact hname.imp_right fun hnumber => ⟨hsome, hnumber⟩

end Document

/-- What relates the items of two lists relates those of the first to what is made of both. -/
theorem forall₂_zipWith {α β γ : Type} {related : α → β → Prop} {goal : α → γ → Prop} {make : α → β → γ}
    (h : ∀ a b, related a b → goal a (make a b)) {xs : List α} {ys : List β} (hxs : List.Forall₂ related xs ys) :
    List.Forall₂ goal xs (List.zipWith make xs ys) := by
  induction hxs with
  | nil => exact .nil
  | cons hab _ ih => exact .cons (h _ _ hab) ih

namespace Generated

/-- **Which names and keys are usable.**  Each declaration has an identifier for a name, and none that is reserved, exactly
when the key of its schema or the path of its operation consists of the right characters.  In its body the name of every
property and of every parameter stands as it is, so that a key is usable exactly when it is usable in the document. -/
theorem names_identifiers_iff (qualifier : String) (value : Value) :
    ofValue qualifier value = .error .missingSchemas ∨
      ∃ doc g, Document.ofValue value = .ok doc ∧ ofValue qualifier value = .ok g ∧
        List.Forall₂ (fun source d =>
          (∀ chars, IsIdentifier chars d.name ↔ source.NamedBy chars) ∧ HasHeads source.heads d.body) doc.sources
          g.declarations := by
  cases hdoc : Document.ofValue value with
  | error e =>
      left
      rw [ofValue, hdoc]
      cases e
      rfl
  | ok doc =>
      right
      refine ⟨doc, ofDocument qualifier doc, rfl, by rw [ofValue, hdoc]; rfl, ?_⟩
      have hmethods : ∀ source ∈ doc.sources, ∀ op ∈ source.operation?, Operation.isMethod op.method = true := by
        intro source hsource op hop
        exact Document.isMethod_of_mem_operations hdoc op (Document.mem_operations_of_mem_sources hsource op hop)
      rw [declarations_eq_zipWith]
      refine forall₂_zipWith ?_ ((List.forall₂_and_left _ _).mpr ⟨hmethods, doc.forall₂_names⟩)
      rintro source name ⟨hmethod, hname⟩
      exact ⟨fun chars => hname.isIdentifier_iff chars hmethod, source.hasHeads_bodyText qualifier⟩

/-- **A name and a key that are not usable.**  A hyphen in the key of a schema stays in the declared name, and a space in the
name of a property stays in the key of the field, which is not put into quotes. -/
theorem names_not_identifiers :
    let value := Value.mapping
      [(.text "components", .mapping [(.text "schemas", .mapping [(.text "user-profile", .mapping [(.text "properties",
        .mapping [(.text "first name", .mapping [(.text "type", .scalar (.text "string"))])])])])])]
    ∃ g, ofValue "" value = .ok g ∧
      g.declarations = [⟨"User-profile", .interface, "  first name?: string;", ""⟩] ∧
      g.render = "export interface User-profile \x7b\n  first name?: string;\n\x7d" ∧
      ∀ chars, ¬ IsIdentifier chars "User-profile" ∧ ¬ IsKey chars "first name" := by
  intro value
  have hhyphen : ∀ chars : IdentifierChars, chars.isPart '-' = false := fun chars => chars.isPart_ascii (by decide)
  have hspace : ∀ chars : IdentifierChars, chars.isPart ' ' = false := fun chars => chars.isPart_ascii (by decide)
  refine ⟨_, rfl, by decide +kernel, by decide +kernel, fun chars => ⟨?_, ?_⟩⟩
  · intro hname
    have hpart := hname.parts '-' (by decide)
    rw [hhyphen chars] at hpart
    cases hpart
  · rintro (hname | ⟨quote, hquote, pieces, htext, _⟩)
    · have hpart := hname.parts ' ' (by decide)
      rw [hspace chars] at hpart
      cases hpart
    · -- the name does not begin with a quote
      have hfirst : some 'f' = some quote := by
        have hhead := congrArg List.head? htext
        simpa using hhead
      rw [← Option.some.inj hfirst] at hquote
      exact absurd hquote (by decide)

end Generated

end ApiTypes
