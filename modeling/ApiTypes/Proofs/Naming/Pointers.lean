/-
# Where a pointer and a declaration agree

A pointer to a named schema is resolved twice.  The text of a type cleans what stands behind the last slash of the
pointer; the list of uses compares the pointer as a whole.  The declaration of the schema has the cleaned name of all of
its key.

Cleaning neither adds nor takes away a slash, and what stands behind the last slash has none.  So the two names are the
same for keys without a slash and for no other, while the list of uses finds the schema under every key.

* `Name.slash_mem_clean`: a cleaned name has a slash exactly when the name has one.
* `Name.cleanName_lastSegment_eq_iff`: when the name in a pointer is the name of the declaration.
* `Operation.usesOf_response`, `Operation.usesOf_body`: what one more body adds to the uses of a schema.
* `Generated.pointer_resolves_iff`: both for the declarations of a document.
-/
import ApiTypes.Proofs.Document.Usage
import ApiTypes.Proofs.Naming.Normalization
import ApiTypes.Proofs.Naming.References

namespace ApiTypes

/-! ## Slashes in cleaned names -/

namespace Name

open Text (splitOn)

theorem slash_mem_raiseFirst (s : List Char) : '/' ∈ raiseFirst s ↔ '/' ∈ s :=
  mem_raiseFirst_iff (by decide) s

theorem dotToUnderscore_eq_slash_iff (c : Char) : dotToUnderscore c = '/' ↔ c = '/' := by
  unfold dotToUnderscore
  split
  · rename_i hdot
    rw [hdot]
    decide
  · rfl

/-- Beginnings without a slash take none away. -/
theorem slash_mem_dropOneOf {starts : List (List Char)} (h : ∀ start ∈ starts, '/' ∉ start) (s : List Char) :
    '/' ∈ dropOneOf starts s ↔ '/' ∈ s := by
  induction starts with
  | nil => rfl
  | cons start others ih =>
      rw [dropOneOf]
      split
      · rename_i hstart
        obtain ⟨rest, rfl⟩ := List.isPrefixOf_iff_prefix.mp hstart
        have hnone : '/' ∉ start := h start List.mem_cons_self
        rw [List.drop_left, List.mem_append, or_iff_right hnone]
      · exact ih fun other hother => h other (List.mem_cons_of_mem _ hother)

/-- **Slashes stay.**  A cleaned name has a slash exactly when the name has one. -/
theorem slash_mem_clean (s : List Char) : '/' ∈ clean s ↔ '/' ∈ s := by
  have hnamespaces : ∀ start ∈ namespaces, '/' ∉ start := by decide
  rw [clean, slash_mem_raiseFirst, List.mem_map]
  simp only [dotToUnderscore_eq_slash_iff, exists_eq_right]
  exact slash_mem_dropOneOf hnamespaces s

theorem slash_not_mem_lastSegment (pointer : String) : '/' ∉ (lastSegment pointer).toList := by
  have hne := Text.splitOn_ne_nil '/' pointer.toList
  have hlast : (splitOn '/' pointer.toList).getLastD [] = (splitOn '/' pointer.toList).getLast hne := by
    rw [List.getLastD_eq_getLast?, List.getLast?_eq_some_getLast hne, Option.getD_some]
  rw [lastSegment, String.toList_ofList, hlast]
  exact Text.not_mem_of_mem_splitOn (List.getLast_mem hne)

/-- **The name in a pointer** is the name of the declaration exactly when the key of the schema has no slash. -/
theorem cleanName_lastSegment_eq_iff (key : String) :
    cleanName (lastSegment (Schema.pointerTo key)) = cleanName key ↔ '/' ∉ key.toList := by
  constructor
  · intro h hslash
    have hdeclared : '/' ∈ (cleanName key).toList := by
      rw [toList_cleanName]
      exact (slash_mem_clean key.toList).mpr hslash
    rw [← h, toList_cleanName] at hdeclared
    exact slash_not_mem_lastSegment _ ((slash_mem_clean _).mp hdeclared)
  · intro h
    rw [lastSegment_pointerTo h]

end Name

/-! ## Uses of a pointer -/

/-- A schema with a pointer is a reference there, whatever stands beside the pointer. -/
theorem Schema.ofValue_of_pointer {entries : Entries} {pointer : String}
    (h : Value.lookup "$ref" entries = some (.scalar (.text pointer))) (hne : pointer ≠ "") :
    ofValue (.mapping entries) = reference pointer (Value.nonemptyText? "description" entries) := by
  have hpointer : (facets entries).pointer = some pointer := by
    show Value.nonemptyText? "$ref" entries = some pointer
    simp only [Value.nonemptyText?, h, if_neg hne]
  rw [ofValue_mapping, Facets.fragment, hpointer]
  rfl

namespace Operation

/-- The line of an operation is listed once for each body that is the pointer. -/
theorem usesOf_eq_replicate (name : String) (op : Operation) :
    op.usesOf name = List.replicate (op.bodies.countP (Schema.isReference (Schema.pointerTo name))) op.endpoint := by
  rw [usesOf, List.map_const', List.countP_eq_length_filter]

/-- **One more response** is one more use if it is the pointer, and none otherwise. -/
theorem usesOf_response (name : String) (op : Operation) (before after : List Schema) (schema : Schema) :
    usesOf name { op with responses := before ++ schema :: after } =
      (if schema.isReference (Schema.pointerTo name) then [op.endpoint] else []) ++
        usesOf name { op with responses := before ++ after } := by
  have hcount : ∀ responses, { op with responses := responses }.bodies = responses ++ op.body.toList := fun _ => rfl
  have hline : ∀ responses, { op with responses := responses }.endpoint = op.endpoint := fun _ => rfl
  simp only [usesOf_eq_replicate, hcount, hline, List.countP_append, List.countP_cons]
  split
  · rw [List.singleton_append, ← List.replicate_succ]
    congr 1
    omega
  · rfl

/-- A request is one more use if it is the pointer, and none otherwise. -/
theorem usesOf_body (name : String) (op : Operation) (schema : Schema) :
    usesOf name { op with body := some schema } =
      usesOf name { op with body := none } ++
        (if schema.isReference (Schema.pointerTo name) then [op.endpoint] else []) := by
  have hline : ∀ body, { op with body := body }.endpoint = op.endpoint := fun _ => rfl
  simp only [usesOf_eq_replicate, bodies, hline, List.countP_append, Option.toList_some, Option.toList_none,
    List.countP_nil, List.countP_singleton, Nat.add_zero]
  split
  · rw [List.replicate_succ']
  · simp

end Operation

/-! ## The two ways to resolve a pointer -/

namespace Generated

/-- **A pointer and the declaration.**  Take a schema with a pointer to a key of the document, whatever else it says.

* If a declaration is made for the key, the text of the schema is the qualified name of that declaration exactly when
  the key has no slash.
* The schema is a use of the key and of no other name: as a response or as a request it adds one line to the uses of the
  key and none to those of other names. -/
theorem pointer_resolves_iff {value : Value} {doc : Document} (h : Document.ofValue value = .ok doc) {key : String}
    {entries : Entries} (hpointer : Value.lookup "$ref" entries = some (.scalar (.text (Schema.pointerTo key)))) :
    let schema := Schema.ofValue (.mapping entries)
    (∀ qualifier d, ∀ definition ∈ doc.definitions, definition.1 = key →
      declarationOf? qualifier doc definition = some d →
      (∃ g, ofValue qualifier value = .ok g ∧ d ∈ g.declarations) ∧
        ∀ written, schema.typeText written = written ++ d.name ↔ '/' ∉ key.toList) ∧
    ∀ name (op : Operation),
      (∀ before after, Operation.endpointsFor name [{ op with responses := before ++ schema :: after }] =
        (if name = key then [op.endpoint] else []) ++
          Operation.endpointsFor name [{ op with responses := before ++ after }]) ∧
      Operation.endpointsFor name [{ op with body := some schema }] =
        Operation.endpointsFor name [{ op with body := none }] ++ if name = key then [op.endpoint] else [] := by
  intro schema
  have hschema : schema = .reference (Schema.pointerTo key) (Value.nonemptyText? "description" entries) :=
    Schema.ofValue_of_pointer hpointer (Schema.pointerTo_ne_empty key)
  have huse : ∀ name, schema.isReference (Schema.pointerTo name) = decide (name = key) := by
    intro name
    rw [hschema, Schema.isReference]
    exact decide_eq_decide.mpr (Schema.pointerTo_injective.eq_iff.trans eq_comm)
  constructor
  · intro qualifier d definition hmem hkey hmade
    have hdeclared : d ∈ (ofDocument qualifier doc).schemas :=
      (mem_schemaDeclarations qualifier doc).mpr ⟨definition, hmem, hmade⟩
    refine ⟨⟨_, ofValue_eq_ok_iff.mpr ⟨doc, h, rfl⟩, List.mem_append_left _ hdeclared⟩, fun written => ?_⟩
    have htext : schema.typeText written =
        written ++ Name.cleanName (Name.lastSegment (Schema.pointerTo key)) := by
      rw [hschema, Schema.typeText]
    rw [htext, name_of_declarationOf? qualifier doc hmade, hkey, ← Name.cleanName_lastSegment_eq_iff]
    exact String.append_right_inj written
  · intro name op
    simp only [Operation.endpointsFor, List.flatMap_singleton, Operation.usesOf_response, Operation.usesOf_body, huse,
      decide_eq_true_eq, implies_true, and_self]

/-- The key `entities.user` has no slash and `teams/user` has one.  A pointer to the first is written as the name of its
declaration, and one to the second is not; the uses of both are found. -/
theorem pointer_resolves_iff_user :
    let value := listingDocument [(.text "entities.user", recordOf ["id"]), (.text "teams/user", recordOf ["name"])]
    let pointer := fun key => [(Scalar.text "type", Value.scalar (.text "string")),
      (.text "$ref", .scalar (.text (Schema.pointerTo key)))]
    let schema := fun key => Schema.ofValue (.mapping (pointer key))
    ∃ doc, Document.ofValue value = .ok doc ∧
      (∃ d, declarationOf? "" doc ("entities.user", Schema.ofDefinition (recordOf ["id"])) = some d ∧
        (schema "entities.user").typeText "Api." = "Api." ++ d.name) ∧
      (∃ d, declarationOf? "" doc ("teams/user", Schema.ofDefinition (recordOf ["name"])) = some d ∧
        (schema "teams/user").typeText "Api." ≠ "Api." ++ d.name) ∧
      Operation.endpointsFor "teams/user"
        [⟨"/users", "get", none, [], none, [schema "entities.user", schema "teams/user"]⟩] = ["GET /users - "] := by
  intro value pointer schema
  have hpointer : ∀ key, Value.lookup "$ref" (pointer key) = some (.scalar (.text (Schema.pointerTo key))) :=
    fun _ => rfl
  obtain ⟨hfirst, _⟩ := pointer_resolves_iff (rfl : Document.ofValue value = .ok _) (hpointer "entities.user")
  obtain ⟨hsecond, huses⟩ := pointer_resolves_iff (rfl : Document.ofValue value = .ok _) (hpointer "teams/user")
  refine ⟨_, rfl, ⟨_, rfl, ?_⟩, ⟨_, rfl, ?_⟩, ?_⟩
  · exact ((hfirst "" _ _ List.mem_cons_self rfl rfl).2 "Api.").mpr (by decide)
  · exact fun heq => ((hsecond "" _ _ (List.mem_cons_of_mem _ List.mem_cons_self) rfl rfl).2 "Api.").mp heq (by decide)
  · refine ((huses "teams/user" ⟨"/users", "get", none, [], none, []⟩).1 [schema "entities.user"] []).trans ?_
    decide +kernel

end Generated

end ApiTypes
