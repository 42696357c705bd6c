/-
# What the name of a reference can find

A pointer to a named schema is written as the cleaned name of its last segment, and a declaration has the cleaned name of
its schema.  Cleaning forgets the namespace and the size of the first letter, so that the name in a reference leads to the
declarations of all schemas whose names become the same.

Only names of declarations are kept from the declarations of operations.  A reference to a schema that is not declared can
therefore find the declaration of an operation.

* `Schema.typeText_pointerTo`: the text of a reference.
* `Generated.references_find`: which declarations have the name in a reference, and which names can coincide.
-/
import ApiTypes.Proofs.Naming.Requests

namespace ApiTypes

/-! ## Names in references -/

/-- The last segment is what stands behind the last slash. -/
theorem Name.lastSegment_append {name : String} (h : '/' ∉ name.toList) (before : String) :
    lastSegment (before ++ "/" ++ name) = name := by
  have hchars : (before ++ "/" ++ name).toList = before.toList ++ '/' :: name.toList := by
    rw [String.toList_append, String.toList_append, List.append_assoc]
    rfl
  rw [lastSegment, hchars, Text.splitOn_append, Text.splitOn_of_not_mem h]
  simp

/-- The last segment of a pointer to a schema is the name of the schema, if that holds no slash. -/
theorem Name.lastSegment_pointerTo {name : String} (h : '/' ∉ name.toList) :
    lastSegment (Schema.pointerTo name) = name := by
  have hslash : "#/components/schemas" ++ "/" = "#/components/schemas/" := by decide
  have hpointer : Schema.pointerTo name = "#/components/schemas" ++ "/" ++ name := congrArg (· ++ name) hslash.symm
  rw [hpointer]
  exact lastSegment_append h "#/components/schemas"

theorem Schema.typeText_pointerTo {name : String} (h : '/' ∉ name.toList) (qualifier : String)
    (description : Option String) :
    (Schema.reference (Schema.pointerTo name) description).typeText qualifier = qualifier ++ Name.cleanName name := by
  rw [typeText, Name.lastSegment_pointerTo h]

/-! ## The declarations of a name -/

namespace Generated

section Document

variable (qualifier : String) (doc : Document)

/-- Two schemas that are declared have the same name exactly when their own names are cleaned to the same. -/
theorem name_eq_name_iff {first second : String × Schema} {d e : Declaration}
    (hd : declarationOf? qualifier doc first = some d) (he : declarationOf? qualifier doc second = some e) :
    d.name = e.name ↔ Name.cleanName first.1 = Name.cleanName second.1 := by
  rw [name_of_declarationOf? qualifier doc hd, name_of_declarationOf? qualifier doc he]

/-- The declarations of operations keep clear of the names of the schemas that are declared. -/
theorem name_ne_of_isDeclared {request : Declaration} (hrequest : request ∈ (ofDocument qualifier doc).requests)
    {definition : String × Schema} (hmem : definition ∈ doc.definitions) (hdeclared : definition.2.isDeclared = true) :
    request.name ≠ Name.cleanName definition.1 := by
  obtain ⟨d, hd⟩ := (isDeclared_iff_exists qualifier doc definition).mp hdeclared
  have hschema : d ∈ (ofDocument qualifier doc).schemas :=
    (mem_schemaDeclarations qualifier doc).mpr ⟨definition, hmem, hd⟩
  rw [← name_of_declarationOf? qualifier doc hd]
  exact name_ne_of_mem_requests qualifier doc hrequest hschema

end Document

/-- **What a reference finds.**  A declaration under the name in a reference to a schema is that of a schema whose name is
cleaned to the same, or, if no such schema is declared, possibly that of an operation.  Declared schemas share a name
exactly when their names are cleaned to the same, and no declaration of an operation has the name of a declared schema. -/
theorem references_find {qualifier : String} {value : Value} {g : Generated} (h : ofValue qualifier value = .ok g) :
    ∃ doc, Document.ofValue value = .ok doc ∧
      (∀ key schema, (key, schema) ∈ doc.definitions → '/' ∉ key.toList → ∀ description, ∀ d ∈ g.declarations,
        d.name = (Schema.reference (Schema.pointerTo key) description).typeText "" →
        (d ∈ g.schemas ∧ ∃ definition ∈ doc.definitions, declarationOf? qualifier doc definition = some d ∧
            Name.cleanName definition.1 = Name.cleanName key) ∨
          (d ∈ g.requests ∧ ∀ definition ∈ doc.definitions, Name.cleanName definition.1 = Name.cleanName key →
            definition.2.isDeclared = false)) ∧
      (∀ first ∈ doc.definitions, ∀ second ∈ doc.definitions, ∀ d e,
        declarationOf? qualifier doc first = some d → declarationOf? qualifier doc second = some e →
        (d.name = e.name ↔ Name.cleanName first.1 = Name.cleanName second.1)) ∧
      (∀ request ∈ g.requests, ∀ definition ∈ doc.definitions, definition.2.isDeclared = true →
        request.name ≠ Name.cleanName definition.1) := by
  obtain ⟨doc, hdoc, rfl⟩ := ofValue_eq_ok_iff.mp h
  have hrequests : ∀ request ∈ (ofDocument qualifier doc).requests, ∀ definition ∈ doc.definitions,
      definition.2.isDeclared = true → request.name ≠ Name.cleanName definition.1 :=
    fun request hrequest definition hmem => name_ne_of_isDeclared qualifier doc hrequest hmem
  refine ⟨doc, hdoc, ?_, fun first _ second _ d e => name_eq_name_iff qualifier doc, hrequests⟩
  intro key schema hkey hslash description d hd hname
  rw [Schema.typeText_pointerTo hslash, String.empty_append] at hname
  rcases List.mem_append.mp hd with hschema | hrequest
  · left
    obtain ⟨definition, hmem, hmade⟩ := (mem_schemaDeclarations qualifier doc).mp hschema
    refine ⟨hschema, definition, hmem, hmade, ?_⟩
    rw [← hname, name_of_declarationOf? qualifier doc hmade]
  · right
    refine ⟨hrequest, fun definition hmem hclean => ?_⟩
    -- the name of a declared schema would not have been free
    by_contra hdeclared
    rw [Bool.not_eq_false] at hdeclared
    exact hrequests d hrequest definition hmem hdeclared (hname.trans hclean.symm)

/-- A mapping that lists properties, each of them a text. -/
def recordOf (properties : List String) : Value :=
  .mapping [(.text "properties", .mapping (properties.map fun property =>
    (.text property, .mapping [(.text "type", .scalar (.text "string"))])))]

/-- A schema that is declared and shares its cleaned name with no other one is all that a reference to it finds. -/
theorem references_find_listing :
    let value := listingDocument [(.text "entities.user", recordOf ["id"])]
    ∃ g doc, ofValue "Api." value = .ok g ∧ Document.ofValue value = .ok doc ∧
      ∀ d ∈ g.declarations, d.name = (Schema.reference (Schema.pointerTo "entities.user") none).typeText "" →
        ∃ definition ∈ doc.definitions, definition.1 = "entities.user" ∧ declarationOf? "Api." doc definition = some d := by
  intro value
  obtain ⟨doc, hdoc, hfind, _, _⟩ := references_find (rfl : ofValue "Api." value = .ok _)
  refine ⟨_, doc, rfl, hdoc, fun d hd hname => ?_⟩
  cases hdoc
  rcases hfind "entities.user" _ List.mem_cons_self (by decide) none d hd hname with
    ⟨_, definition, hmem, hmade, _⟩ | ⟨_, hnone⟩
  · refine ⟨definition, hmem, ?_, hmade⟩
    rw [List.mem_singleton.mp hmem]
    rfl
  · exact absurd (hnone _ List.mem_cons_self rfl) (by decide)

/-- **References that find something else.**  The names `user` and `User` are cleaned to the same, and a schema that is not
declared leaves its name to an operation. -/
theorem references_find_foreign :
    let value := listingDocument
      [(.text "user", recordOf ["id"]), (.text "User", recordOf ["name"]),
        (.text "GetUsersQueryParams", .mapping [(.text "type", .scalar (.text "string"))])]
    ∃ g doc, ofValue "" value = .ok g ∧ Document.ofValue value = .ok doc ∧
      (∃ definition ∈ doc.definitions, definition.1 = "user" ∧ ∃ d ∈ g.schemas,
        d.name = (Schema.reference (Schema.pointerTo "user") none).typeText "" ∧
          declarationOf? "" doc definition ≠ some d) ∧
      (∃ definition ∈ doc.definitions, definition.1 = "GetUsersQueryParams" ∧ ∃ d ∈ g.requests,
        d.name = (Schema.reference (Schema.pointerTo "GetUsersQueryParams") none).typeText "" ∧
          declarationOf? "" doc definition ≠ some d) := by
  intro value
  refine ⟨_, _, rfl, rfl, ⟨_, List.mem_cons_self, rfl, ⟨"User", .interface, "  name?: string;", ""⟩, ?_⟩,
    ⟨_, List.mem_cons_of_mem _ (List.mem_cons_of_mem _ List.mem_cons_self), rfl,
      ⟨"GetUsersQueryParams", .interface, "  limit?: any;", "/** GET /users\n * Query Parameters\n */\n"⟩, ?_⟩⟩
  · decide +kernel
  · decide +kernel

end Generated

end ApiTypes
