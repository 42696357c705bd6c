/-
# Required fields of a module

The places of a document where types are written are the properties of interfaces, the members of combinations, the schemas of
query and path parameters and the bodies of requests.  At each place and at every depth below it, the fields of an object
type are marked as the list of this very object says; so are the fields of the interfaces.

* `Document.WrittenIn`: the places, each with the declaration that shows the type.
* `Document.WrittenIn.mem_sources`: the declaration at a place is made for the document.
* `DeclarationSource.shows_bodyText`: a declaration shows the types of its parts.
* `Generated.requiredness_of_ownNames`: the fields of the whole module.
* `Generated.required_without_own_key`: a field that is required although its key is not listed, only the text of its key.
-/
import ApiTypes.Proofs.Generation.Qualifier
import ApiTypes.Proofs.Schema.Members
import ApiTypes.Run

namespace ApiTypes

/-! ## Places of a document -/

namespace Operation

/-- An operation of a document, as it stands there. -/
structure StandsIn (document : Value) (path method : String) (entries : Entries) : Prop where
  exists_paths : ∃ paths methods : Entries, document.field? "paths" = some (.mapping paths) ∧
    (.text path, .mapping methods) ∈ paths ∧ (.text method, .mapping entries) ∈ methods
  isMethod : isMethod method = true

theorem isEmpty_parametersAt {op : Operation} {location : String} {schema : Schema}
    (h : schema ∈ (op.parametersAt location).filterMap Parameter.schema) : (op.parametersAt location).isEmpty = false := by
  obtain ⟨parameter, hmem, _⟩ := List.mem_filterMap.mp h
  rw [List.isEmpty_eq_false_iff]
  exact List.ne_nil_of_mem hmem

/-- The operation is read. -/
theorem StandsIn.mem_ofDocument {document : Value} {path method : String} {entries : Entries}
    (h : StandsIn document path method entries) : ofEntries path method entries ∈ ofDocument document := by
  obtain ⟨paths, methods, hpaths, hpath, hmethod⟩ := h.exists_paths
  have hread : ofMethod? path (.text method, .mapping entries) = some (ofEntries path method entries) :=
    if_pos h.isMethod
  rw [ofDocument, hpaths]
  exact List.mem_flatMap.mpr ⟨_, hpath, List.mem_filterMap.mpr ⟨_, hmethod, hread⟩⟩

end Operation

/-- Among the parameters in the entries of an operation, one at the given location has the given mapping as its schema. -/
def Parameter.StandsIn (entries : Entries) (location : String) (schema : Value) : Prop :=
  ∃ items parameter name, Value.lookup "parameters" entries = some (.list items) ∧ .mapping parameter ∈ items ∧
    Value.lookup "name" parameter = some (.scalar (.text name)) ∧
    Value.lookup "in" parameter = some (.scalar (.text location)) ∧
    Value.lookup "schema" parameter = some schema ∧ schema.entries?.isSome

theorem Schema.ofMapping?_of_isSome {value : Value} (h : value.entries?.isSome) : ofMapping? value = some (ofValue value) := by
  cases value with
  | mapping entries => rfl
  | scalar _ => cases h
  | list _ => cases h
  | set _ => cases h

/-- The schema of a parameter is read. -/
theorem Parameter.StandsIn.mem_parametersAt {entries : Entries} {location : String} {schema : Value}
    (h : StandsIn entries location schema) (path method : String) :
    Schema.ofValue schema ∈
      ((Operation.ofEntries path method entries).parametersAt location).filterMap Parameter.schema := by
  obtain ⟨items, parameter, name, hitems, hmem, hname, hlocation, hschema, hmapping⟩ := h
  have hread : ∃ p, ofValue? (.mapping parameter) = some p ∧ p.location = location ∧
      p.schema = some (Schema.ofValue schema) := by
    rw [ofValue?, hname, hlocation, hschema]
    exact ⟨_, rfl, rfl, Schema.ofMapping?_of_isSome hmapping⟩
  obtain ⟨p, hp, hplace, hpschema⟩ := hread
  have hparameters : (Operation.ofEntries path method entries).parameters = items.filterMap ofValue? := by
    rw [Operation.ofEntries, hitems]
    rfl
  refine List.mem_filterMap.mpr ⟨p, List.mem_filter.mpr ⟨?_, decide_eq_true hplace⟩, hpschema⟩
  rw [hparameters]
  exact List.mem_filterMap.mpr ⟨_, hmem, hp⟩

namespace Document

/-- A raw schema whose type is written in a declaration: the property of an interface, the member of a combination, the
schema of a parameter or the body of a request. -/
inductive WrittenIn (document : Value) : DeclarationSource → Value → Prop
  | property {schemas fields : Entries} {entry field : Scalar × Value} {properties : List (String × Schema)}
      {required : NameSet} {description : Option String} (hschemas : document.NamesSchemas schemas)
      (hentry : entry ∈ schemas) (hread : Schema.ofDefinition entry.2 = .object properties required description)
      (hfields : entry.2.field? "properties" = some (.mapping fields)) (hfield : field ∈ fields) :
      WrittenIn document (.record entry.1.spelling properties required description) field.2
  | member {schemas : Entries} {entry : Scalar × Value} {combinator : Combinator} {members : List Schema}
      {description : Option String} {items : List Value} {item : Value} (hschemas : document.NamesSchemas schemas)
      (hentry : entry ∈ schemas) (hread : Schema.ofDefinition entry.2 = .composite combinator members description)
      (hitems : entry.2.field? combinator.keyword = some (.list items)) (hitem : item ∈ items) :
      WrittenIn document (.combination entry.1.spelling combinator members description) item
  | query {path method : String} {entries : Entries} {schema : Value}
      (hoperation : Operation.StandsIn document path method entries)
      (hparameter : Parameter.StandsIn entries "query" schema) :
      WrittenIn document (.query (Operation.ofEntries path method entries)) schema
  | path {path method : String} {entries : Entries} {schema : Value}
      (hoperation : Operation.StandsIn document path method entries)
      (hparameter : Parameter.StandsIn entries "path" schema) :
      WrittenIn document (.path (Operation.ofEntries path method entries)) schema
  | body {path method : String} {entries : Entries} {body schema : Value}
      (hoperation : Operation.StandsIn document path method entries)
      (hbody : Value.lookup "requestBody" entries = some body)
      (hschema : ((body.field? "content").bind (Value.field? "application/json")).bind (Value.field? "schema") =
        some schema) (hmapping : schema.entries?.isSome) :
      WrittenIn document (.body (Operation.ofEntries path method entries) (Schema.ofValue schema)) schema

variable {document : Value} {doc : Document}

/-- The named schemas that stand in a document are its definitions. -/
theorem mem_definitions (hdoc : ofValue document = .ok doc) {schemas : Entries} (hschemas : document.NamesSchemas schemas)
    {entry : Scalar × Value} (hentry : entry ∈ schemas) :
    (entry.1.spelling, Schema.ofDefinition entry.2) ∈ doc.definitions := by
  rw [ofValue, schemasIn_eq_some_iff.mpr hschemas] at hdoc
  cases hdoc
  exact List.mem_map_of_mem hentry

theorem mem_sources_of_typeSource? {name : String} {schema : Schema} {source : DeclarationSource}
    (hmem : (name, schema) ∈ doc.definitions) (hsource : schema.typeSource? name = some source) : source ∈ doc.sources :=
  List.mem_append_left _ (List.mem_append_right _ (List.mem_filterMap.mpr ⟨_, hmem, hsource⟩))

/-- What is declared for an operation that stands in a document is declared for the document. -/
theorem mem_sources_of_standsIn (hdoc : ofValue document = .ok doc) {path method : String} {entries : Entries}
    (hoperation : Operation.StandsIn document path method entries) {source : DeclarationSource}
    (hsource : source ∈ (Operation.ofEntries path method entries).sources) : source ∈ doc.sources := by
  have hmem : Operation.ofEntries path method entries ∈ doc.operations := by
    rw [operations_of_ofValue hdoc]
    exact hoperation.mem_ofDocument
  exact List.mem_append_right _ (List.mem_flatMap.mpr ⟨_, hmem, hsource⟩)

namespace WrittenIn

variable {schema : Value} {source : DeclarationSource}

/-- The declaration is made for the document, and the schema is one of its parts. -/
theorem mem_sources (h : WrittenIn document source schema) (hdoc : ofValue document = .ok doc) :
    source ∈ doc.sources ∧ Schema.ofValue schema ∈ source.parts := by
  cases h with
  | property hschemas hentry hread hfields hfield =>
      have hmem := mem_definitions hdoc hschemas hentry
      rw [hread] at hmem
      refine ⟨mem_sources_of_typeSource? hmem rfl, ?_⟩
      obtain ⟨required, description, hobject, _⟩ :=
        Value.IsObject.exists_eq Schema.readsFacets_ofDefinition ⟨hfields, _, _, _, hread⟩
      rw [hread] at hobject
      cases hobject
      rw [DeclarationSource.parts, Schema.readProperties_eq_map, List.map_map]
      exact List.mem_map_of_mem hfield
  | member hschemas hentry hread hitems hitem =>
      have hmem := mem_definitions hdoc hschemas hentry
      rw [hread] at hmem
      refine ⟨mem_sources_of_typeSource? hmem rfl, ?_⟩
      rw [DeclarationSource.parts, Schema.members_of_ofDefinition hread hitems]
      exact List.mem_map_of_mem hitem
  | @query path method entries schema hoperation hparameter =>
      have hmem := hparameter.mem_parametersAt path method
      refine ⟨mem_sources_of_standsIn hdoc hoperation ?_, hmem⟩
      rw [Operation.sources, Operation.isEmpty_parametersAt hmem]
      exact List.mem_append_left _ (List.mem_append_left _ (List.mem_singleton_self _))
  | @path path method entries schema hoperation hparameter =>
      have hmem := hparameter.mem_parametersAt path method
      refine ⟨mem_sources_of_standsIn hdoc hoperation ?_, hmem⟩
      rw [Operation.sources, Operation.isEmpty_parametersAt hmem]
      exact List.mem_append_left _ (List.mem_append_right _ (List.mem_singleton_self _))
  | @body path method entries body schema hoperation hbody hschema hmapping =>
      have hread : (Operation.ofEntries path method entries).body = some (Schema.ofValue schema) := by
        show (Value.lookup "requestBody" entries).bind Schema.ofContent? = _
        rw [hbody, Option.bind_some, Schema.ofContent?, hschema, Option.bind_some, Schema.ofMapping?_of_isSome hmapping]
      refine ⟨mem_sources_of_standsIn hdoc hoperation ?_, List.mem_singleton_self _⟩
      rw [Operation.sources, hread]
      exact List.mem_append_right _ (List.mem_singleton_self _)

end WrittenIn

end Document

/-! ## The fields of a module -/

/-- The body of a declaration shows the types of its parts. -/
theorem DeclarationSource.shows_bodyText (qualifier : String) {source : DeclarationSource} {schema : Schema}
    (h : schema ∈ source.parts) : Shows (source.bodyText qualifier) (schema.typeText qualifier) := by
  -- a parameter without a schema is no part, and one with a schema has the type of the schema
  have hparameters : ∀ (parameters : List Parameter) (required : Parameter → Bool),
      schema ∈ parameters.filterMap Parameter.schema →
        Shows (Member.interfaceBody (parameters.map fun p => p.member qualifier (required p)))
          (schema.typeText qualifier) := by
    intro parameters required hmem
    obtain ⟨p, hp, hschema⟩ := List.mem_filterMap.mp hmem
    have htype : (p.member qualifier (required p)).type = schema.typeText qualifier := by
      rw [Parameter.member, Parameter.typeText, hschema]
    rw [← htype]
    exact Shows.interfaceBody (List.mem_map_of_mem (f := fun p => p.member qualifier (required p)) hp)
  cases source with
  | choice name variants comments => cases h
  | combination name combinator members description =>
      exact Shows.combine combinator (List.mem_map_of_mem h)
  | record name properties required description =>
      obtain ⟨property, hproperty, rfl⟩ := List.mem_map.mp h
      have hlisted : property ∈ (Schema.object properties required description).properties := hproperty
      obtain ⟨member, hmember, htype⟩ := Schema.exists_member qualifier hlisted
      rw [← htype]
      exact Shows.interfaceBody hmember
  | query op => exact hparameters _ Parameter.required h
  | path op => exact hparameters _ (fun _ => true) h
  | body op schema =>
      rw [List.mem_singleton.mp h]
      exact Shows.refl _

namespace Generated

/-- The declaration of a named schema that is read as an object is the interface of its members. -/
theorem interface_mem_schemas (qualifier : String) {doc : Document} {name : String} {schema : Schema}
    (hmem : (name, schema) ∈ doc.definitions)
    (hobject : ∃ properties required description, schema = .object properties required description) :
    ∃ comment, ⟨Name.cleanName name, .interface, Member.interfaceBody (schema.members qualifier), comment⟩ ∈
      (ofDocument qualifier doc).schemas := by
  obtain ⟨properties, required, description, rfl⟩ := hobject
  exact ⟨_, (mem_schemaDeclarations qualifier doc).mpr ⟨_, hmem, rfl⟩⟩

/-- **Own lists.**  A document with named schemas is made into a module.  Every named schema that is read as an object has an
interface, whose fields are marked as its own list says.  And every object type, at any depth of a type that is written,
stands in the body of the declaration, and its fields are marked as the list of this very object says.  Where the key of a
field is a text, the field is required exactly when this list holds the key. -/
theorem requiredness_of_ownNames (qualifier : String) {document : Value} {schemas : Entries}
    (h : document.NamesSchemas schemas) :
    ∃ g, ofValue qualifier document = .ok g ∧
      (∀ entry ∈ schemas, ∀ fields, entry.2.IsObject Schema.ofDefinition fields →
        ∃ comment members,
          ⟨Name.cleanName entry.1.spelling, .interface, Member.interfaceBody members, comment⟩ ∈ g.schemas ∧
          List.Forall₂ (Presents qualifier entry.2.ownNames) fields members) ∧
      (∀ source outer inner fields, Document.WrittenIn document source outer → Schema.Inside outer inner →
        inner.IsObject Schema.ofValue fields →
        ∃ d ∈ g.declarations, d.kind = source.kind ∧ d.body = source.bodyText qualifier ∧
          ∃ members, Shows d.body (TypeText.inlineObject (members.map Member.signature)) ∧
            List.Forall₂ (Presents qualifier inner.ownNames) fields members) ∧
      ∀ names name required,
        SettledBy names (.text name) required ↔ (required = true ↔ Lists names (.text name)) := by
  obtain ⟨doc, hdoc⟩ : ∃ doc, Document.ofValue document = .ok doc := by
    rw [Document.ofValue, Document.schemasIn_eq_some_iff.mpr h]
    exact ⟨_, rfl⟩
  refine ⟨ofDocument qualifier doc, ofValue_eq_ok_iff.mpr ⟨doc, hdoc, rfl⟩, ?_, ?_, ?_⟩
  · intro entry hentry fields hobject
    obtain ⟨comment, hmem⟩ :=
      interface_mem_schemas qualifier (Document.mem_definitions hdoc h hentry) hobject.object
    exact ⟨comment, _, hmem, hobject.forall₂_presents Schema.readsFacets_ofDefinition qualifier⟩
  · intro source outer inner fields hwritten hinside hobject
    obtain ⟨hsource, hpart⟩ := hwritten.mem_sources hdoc
    obtain ⟨d, hd, name, rfl⟩ := exists_declaration qualifier doc hsource
    refine ⟨_, hd, rfl, rfl, _, ?_, hobject.forall₂_presents Schema.readsFacets_ofValue qualifier⟩
    have houter := DeclarationSource.shows_bodyText qualifier hpart
    have hinner := houter.trans (hinside.shows qualifier)
    rw [Schema.typeText_of_isObject qualifier hobject] at hinner
    exact hinner
  · intro names name required
    exact settledBy_text_iff

/-- An object inside a list inside an object: the field `lines` of the inner one is named by the outer list only, and so it
is not required. -/
theorem requiredness_of_ownNames_nested :
    let text := fun s => Value.scalar (.text s)
    let lineFields : Entries := [(.text "id", .mapping [(.text "type", text "integer")]),
      (.text "lines", .mapping [(.text "type", text "string")])]
    let line := Value.mapping [(.text "type", text "object"), (.text "properties", .mapping lineFields),
      (.text "required", .list [text "id"])]
    let lines := Value.mapping [(.text "type", text "array"), (.text "items", line)]
    let orderFields : Entries := [(.bool true, .mapping [(.text "type", text "string")]), (.text "lines", lines)]
    let order := Value.mapping [(.text "properties", .mapping orderFields),
      (.text "required", .list [text "lines", text "True"])]
    let document := Value.mapping [(.text "components", .mapping [(.text "schemas", .mapping [(.text "Order", order)])])]
    document.NamesSchemas [(.text "Order", order)] ∧ order.IsObject Schema.ofDefinition orderFields ∧
      Schema.Inside lines line ∧ line.IsObject Schema.ofValue lineFields ∧
      ∃ g, ofValue "" document = .ok g ∧
        g.schemas = [⟨"Order", .interface,
          "  True: string;\n  lines: \x7b\n  id: number;\n  lines?: string\n\x7d[];", ""⟩] ∧
        (∃ comment members,
          ⟨Name.cleanName "Order", .interface, Member.interfaceBody members, comment⟩ ∈ g.schemas ∧
          List.Forall₂ (Presents "" order.ownNames) orderFields members) ∧
        (∃ d ∈ g.declarations, ∃ members, Shows d.body (TypeText.inlineObject (members.map Member.signature)) ∧
          List.Forall₂ (Presents "" line.ownNames) lineFields members) ∧
        ∀ required, SettledBy line.ownNames (.text "lines") required → required = false := by
  intro text lineFields line lines orderFields order document
  have hschemas : document.NamesSchemas [(.text "Order", order)] := ⟨_, _, rfl, rfl, rfl⟩
  have horder : order.IsObject Schema.ofDefinition orderFields := ⟨rfl, _, _, _, rfl⟩
  have hline : line.IsObject Schema.ofValue lineFields := ⟨rfl, _, _, _, rfl⟩
  have hinside : Schema.Inside lines line := .item .self (rfl : Schema.ofValue lines = .array _ none) rfl
  have hentry : (.text "Order", order) ∈ [(Scalar.text "Order", order)] := List.mem_singleton_self _
  have hfield : (Scalar.text "lines", lines) ∈ orderFields := List.mem_cons_of_mem _ (List.mem_singleton_self _)
  have hwritten := Document.WrittenIn.property hschemas hentry rfl horder.properties hfield
  obtain ⟨g, hg, hinterface, hinline, htext⟩ := requiredness_of_ownNames "" hschemas
  obtain ⟨d, hd, _, _, hmembers⟩ := hinline _ lines line lineFields hwritten hinside hline
  refine ⟨hschemas, horder, hinside, hline, g, hg, ?_, hinterface _ hentry orderFields horder, ⟨d, hd, hmembers⟩, ?_⟩
  · cases hg
    decide +kernel
  · intro required hsettled
    have hlisted : ¬ Lists line.ownNames (.text "lines") := by
      rw [lists_text_iff]
      intro hmem
      have hsame : Value.scalar (.text "lines") = text "id" := List.mem_singleton.mp hmem
      simp [text] at hsame
    rw [← Bool.not_eq_true, (htext line.ownNames "lines" required).mp hsettled]
    exact hlisted

/-- **A key that is not listed.**  The key is a number, and the list holds its text: the field is required although no entry
of the list is the same key.  The declaration is also made from a file in which the document is written. -/
theorem required_without_own_key :
    let status := Value.mapping [(.text "properties", .mapping
      [(.int 200, .mapping [(.text "type", .scalar (.text "string"))])]), (.text "required", .list [.scalar (.text "200")])]
    let document := Value.mapping [(.text "components", .mapping [(.text "schemas", .mapping [(.text "Status", status)])])]
    let content := "components:\n  schemas:\n    Status:\n      properties:\n        200:\n          type: string\n" ++
      "      required: ['200']\n"
    let job : Job := ⟨Path.ofText "api.yaml", Path.ofText "out.ts", "", false⟩
    let declared : List Declaration := [⟨"Status", .interface, "  200: string;", ""⟩]
    (∃ g, ofValue "" document = .ok g ∧ g.schemas = declared) ∧ ¬ Lists status.ownNames (.int 200) ∧
      (job.generate ⟨[(["api.yaml"], .file (Text.encodeUtf8 content))]⟩).toOption.map Generated.schemas =
        some declared := by
  intro status document content job declared
  refine ⟨⟨_, rfl, by decide +kernel⟩, ?_, by decide +kernel⟩
  rintro ⟨entry, hmem, hsame⟩
  cases List.mem_singleton.mp hmem
  exact absurd hsame (by decide)

end Generated

end ApiTypes
