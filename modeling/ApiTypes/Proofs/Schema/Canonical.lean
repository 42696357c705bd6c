/-
# The canonical form of a schema

Every well-formed schema can be written down as JSON data with no more keywords than it needs, and is read back from
there.  Together with the well-formedness of all schemas that are read, this says which schemas can be read at all.

* `Schema.toValue`: the canonical form of a schema.
* `Facets.fragment_of_pointer` and the laws after it: which facet makes the schema when those before it are silent.
* `Schema.ofValue_toValue`: a well-formed schema is read back from its canonical form.
* `Schema.image_ofValue`: what is read from JSON data are exactly the well-formed schemas.
-/
import ApiTypes.Proofs.Schema.WellFormed

namespace ApiTypes

/-! ## Sets of names as lists -/

namespace NameSet

/-- A name behind all others comes last. -/
theorem insertName_of_forall_lt {name : String} {names : List String} (h : ∀ other ∈ names, other < name) :
    insertName name names = names ++ [name] := by
  induction names with
  | nil => rfl
  | cons first rest ih =>
      have hfirst : first < name := h first List.mem_cons_self
      have hne : name ≠ first := fun heq => String.lt_irrefl _ (heq ▸ hfirst)
      rw [insertName, if_neg (String.lt_asymm hfirst), if_neg hne,
        ih fun other hother => h other (List.mem_cons_of_mem _ hother), List.cons_append]

theorem names_foldl_insert {names : List String} {set : NameSet} (h : (set.names ++ names).Pairwise (· < ·)) :
    (names.foldl insert set).names = set.names ++ names := by
  induction names generalizing set with
  | nil => simp
  | cons name rest ih =>
      have hinsert : (set.insert name).names = set.names ++ [name] :=
        insertName_of_forall_lt fun other hother => (List.pairwise_append.mp h).2.2 other hother name List.mem_cons_self
      have hnames : set.names ++ name :: rest = (set.insert name).names ++ rest := by
        rw [hinsert, List.append_assoc, List.singleton_append]
      rw [hnames] at h
      rw [List.foldl_cons, ih h, hnames]

/-- A set is the set of its names. -/
theorem ofList_names (set : NameSet) : ofList set.names = set := by
  have hincreasing : (empty.names ++ set.names).Pairwise (· < ·) := set.increasing
  have hnames : (ofList set.names).names = set.names := names_foldl_insert hincreasing
  cases hset : ofList set.names
  cases set
  rw [hset] at hnames
  rw [NameSet.mk.injEq]
  exact hnames

end NameSet

/-! ## Objects -/

namespace Value

/-- A text as a datum. -/
def ofText (s : String) : Value := .scalar (.text s)

/-- Fields as the entries of a mapping. -/
def entriesOf (fields : List (String × Value)) : Entries :=
  fields.map fun field => (.text field.1, field.2)

/-- An object with the given fields. -/
def record (fields : List (String × Value)) : Value := .mapping (entriesOf fields)

theorem lookup_append (name : String) (first second : Entries) :
    lookup name (first ++ second) = (lookup name first).or (lookup name second) := by
  induction first with
  | nil => rfl
  | cons entry rest ih =>
      rw [List.cons_append, lookup, lookup, ih]
      split <;> rfl

theorem lookup_entriesOf_eq_none {name : String} {fields : List (String × Value)} (h : name ∉ fields.map Prod.fst) :
    lookup name (entriesOf fields) = none := by
  cases hlookup : lookup name (entriesOf fields) with
  | none => rfl
  | some value =>
      obtain ⟨field, hfield, heq⟩ := List.mem_map.mp (mem_of_lookup hlookup)
      exact absurd (List.mem_map.mpr ⟨field, hfield, Scalar.text.inj (congrArg Prod.fst heq)⟩) h

theorem isJson_ofText (s : String) : (ofText s).IsJson := .scalar trivial

theorem isJson_record {fields : List (String × Value)} (distinct : (fields.map Prod.fst).Nodup)
    (inner : ∀ field ∈ fields, field.2.IsJson) : (record fields).IsJson := by
  apply IsJson.mapping
  · intro entry hentry
    obtain ⟨field, _, rfl⟩ := List.mem_map.mp hentry
    exact ⟨field.1, rfl⟩
  · have hkeys : (entriesOf fields).map Prod.fst = (fields.map Prod.fst).map Scalar.text := by
      rw [entriesOf, List.map_map, List.map_map]
      rfl
    rw [hkeys]
    exact distinct.map fun _ _ htext => Scalar.text.inj htext
  · intro entry hentry
    obtain ⟨field, hfield, rfl⟩ := List.mem_map.mp hentry
    exact inner field hfield

/-- A list of texts. -/
def ofTexts (texts : List String) : Value := .list (texts.map ofText)

theorem isJson_ofTexts (texts : List String) : (ofTexts texts).IsJson := by
  apply IsJson.list
  intro item hitem
  obtain ⟨text, _, rfl⟩ := List.mem_map.mp hitem
  exact isJson_ofText text

end Value

/-! ## The canonical form -/

namespace Schema

/-- The field for a description, if there is one. -/
def descriptionFields (description : Option String) : List (String × Value) :=
  description.toList.map fun text => ("description", Value.ofText text)

/-- The fields that note comments on variants. -/
def commentFields (comments : List (String × String)) : List (String × Value) :=
  comments.map fun comment => (comment.1, .ofText comment.2)

/-- An object with some keywords and a description. -/
def described (description : Option String) (keywords : List (String × Value)) : Value :=
  .record (keywords ++ descriptionFields description)

mutual

/-- The canonical form of a schema: the keywords that make it, and its description. -/
def toValue : Schema → Value
  | reference pointer d => described d [("$ref", .ofText pointer)]
  | array items d => described d [("type", .ofText "array"), ("items", items.toValue)]
  | enumeration variants comments d =>
    described d [("x-enum-varnames", .ofTexts variants), ("x-enum-comments", .record (commentFields comments))]
  | openObject required d => described d [("type", .ofText "object"), ("required", .ofTexts required.names)]
  | object properties required d =>
    described d
      [("type", .ofText "object"), ("properties", .record (propertyFields properties)),
        ("required", .ofTexts required.names)]
  | primitive kind d => described d [("type", .ofText kind.word)]
  | composite combinator members d => described d [(combinator.keyword, .list (memberValues members))]
  | unstructured d => described d []

/-- The canonical forms of properties, under their names. -/
def propertyFields : List (String × Schema) → List (String × Value)
  | [] => []
  | (name, schema) :: rest => (name, schema.toValue) :: propertyFields rest

/-- The canonical forms of members. -/
def memberValues : List Schema → List Value
  | [] => []
  | member :: rest => member.toValue :: memberValues rest

end

theorem map_fst_propertyFields (properties : List (String × Schema)) :
    (propertyFields properties).map Prod.fst = properties.map Prod.fst := by
  induction properties with
  | nil => rfl
  | cons property rest ih =>
      rw [propertyFields, List.map_cons, List.map_cons, ih]

theorem isGiven_toValue (schema : Schema) : schema.toValue.isGiven = true := by
  cases schema <;> rfl

/-! ## Canonical forms are JSON data -/

theorem isJson_described {description : Option String} {keywords : List (String × Value)}
    (distinct : ("description" :: keywords.map Prod.fst).Nodup) (inner : ∀ keyword ∈ keywords, keyword.2.IsJson) :
    (described description keywords).IsJson := by
  apply Value.isJson_record
  · rw [List.map_append]
    cases description with
    | none =>
        rw [descriptionFields, Option.toList_none, List.map_nil, List.map_nil, List.append_nil]
        exact (List.nodup_cons.mp distinct).2
    | some text =>
        rw [descriptionFields, Option.toList_some, List.map_singleton, List.map_singleton, List.nodup_middle,
          List.append_nil]
        exact distinct
  · intro field hfield
    rcases List.mem_append.mp hfield with hkeyword | hdescription
    · exact inner field hkeyword
    · obtain ⟨text, _, rfl⟩ := List.mem_map.mp hdescription
      exact Value.isJson_ofText text

mutual

theorem isJson_toValue : ∀ schema : Schema, schema.Every WellFormed → schema.toValue.IsJson
  | reference pointer d, _ => isJson_described (by simp) (by simp [Value.isJson_ofText])
  | array items d, h => isJson_described (by simp) (by simp [Value.isJson_ofText, isJson_toValue items h.2])
  | enumeration variants comments d, h => by
      have hcomments : (Value.record (commentFields comments)).IsJson := by
        apply Value.isJson_record
        · rw [commentFields, List.map_map]
          exact h.proper.2.2
        · intro field hfield
          obtain ⟨comment, _, rfl⟩ := List.mem_map.mp hfield
          exact Value.isJson_ofText comment.2
      exact isJson_described (by simp) (by simp [Value.isJson_ofTexts, hcomments])
  | openObject required d, _ =>
      isJson_described (by simp) (by simp [Value.isJson_ofText, Value.isJson_ofTexts])
  | object properties required d, h => by
      have hproperties : (Value.record (propertyFields properties)).IsJson := by
        apply Value.isJson_record
        · rw [map_fst_propertyFields]
          exact h.1.proper
        · exact isJson_propertyFields properties h.2
      exact isJson_described (by simp) (by simp [Value.isJson_ofText, Value.isJson_ofTexts, hproperties])
  | primitive kind d, _ => isJson_described (by simp) (by simp [Value.isJson_ofText])
  | composite combinator members d, h => by
      have hmembers : (Value.list (memberValues members)).IsJson := .list (isJson_memberValues members h.2)
      exact isJson_described (by cases combinator <;> simp [Combinator.keyword]) (by simp [hmembers])
  | unstructured d, _ => isJson_described (by simp) (by simp)

theorem isJson_propertyFields : ∀ properties : List (String × Schema), EveryProperty WellFormed properties →
    ∀ field ∈ propertyFields properties, field.2.IsJson
  | [], _ => List.forall_mem_nil _
  | (_, schema) :: rest, h =>
      List.forall_mem_cons.mpr ⟨isJson_toValue schema h.1, isJson_propertyFields rest h.2⟩

theorem isJson_memberValues : ∀ members : List Schema, EveryMember WellFormed members →
    ∀ value ∈ memberValues members, value.IsJson
  | [], _ => List.forall_mem_nil _
  | member :: rest, h => List.forall_mem_cons.mpr ⟨isJson_toValue member h.1, isJson_memberValues rest h.2⟩

end

end Schema

/-! ## Which facet makes the schema -/

namespace Facets

/-- The same facets with another description. -/
def withDescription (f : Facets) (description : Option String) : Facets :=
  { f with description := description }

variable {f : Facets}

/-- A pointer makes the schema, whatever the other facets are. -/
theorem fragment_of_pointer {pointer : String} (h : f.pointer = some pointer) :
    f.fragment = .reference pointer f.description := by
  rw [fragment, h]

/-- A list with items comes next. -/
theorem fragment_of_items {items : Schema} (hpointer : f.pointer = none) (htype : f.type = some "array")
    (hitems : f.items = some items) : f.fragment = .array items f.description := by
  simp only [fragment, hpointer, array?, htype, hitems, if_true, Option.map_some]

/-- Without a pointer and items, a closed choice is next and then the rest. -/
theorem fragment_of_noItems (hpointer : f.pointer = none) (hitems : f.items = none) :
    f.fragment = (f.enumeration?.or f.primitive?).getD
      (if f.type = some "object" then f.object else f.composite?.getD (.unstructured f.description)) := by
  have harray : f.array? = none := by
    rw [array?, hitems, Option.map_none, ite_self]
  exact fragment_of_noArray hpointer harray

theorem fragment_of_variants (hpointer : f.pointer = none) (hitems : f.items = none) (hvariants : f.variants ≠ []) :
    f.fragment = .enumeration f.variants f.comments f.description := by
  rw [fragment_of_noItems hpointer hitems, enumeration?, if_neg (by simpa using hvariants)]
  rfl

section NoVariants

variable (hpointer : f.pointer = none) (hitems : f.items = none) (hvariants : f.variants = [])
include hpointer hitems hvariants

/-- The word for a single datum comes next. -/
theorem fragment_of_word {kind : PrimitiveKind} (htype : f.type = some kind.word) :
    f.fragment = .primitive kind f.description := by
  rw [fragment_of_noItems hpointer hitems, enumeration?, hvariants, primitive?, htype, Option.bind_some,
    PrimitiveKind.ofWord?_word]
  rfl

/-- The word for objects comes next. -/
theorem fragment_of_object (htype : f.type = some "object") : f.fragment = f.object := by
  have hword : PrimitiveKind.ofWord? "object" = none := by decide
  rw [fragment_of_noItems hpointer hitems, enumeration?, hvariants, primitive?, htype, Option.bind_some, hword]
  rfl

/-- Without a type, a combination comes last. -/
theorem fragment_of_noType (htype : f.type = none) :
    f.fragment = f.composite?.getD (.unstructured f.description) := by
  rw [fragment_of_noItems hpointer hitems, enumeration?, hvariants, primitive?, htype]
  rfl

end NoVariants

/-- The only keyword with members makes the combination. -/
theorem composite?_of_members {combinator : Combinator} {members : List Schema} (hne : members ≠ [])
    (h : ∀ other, f.members other = if other = combinator then members else []) :
    f.composite? = some (.composite combinator members f.description) := by
  cases combinator with
  | allOf => simp [composite?, Combinator.all, combination?, h, hne]
  | oneOf => simp [composite?, Combinator.all, combination?, h, hne]
  | anyOf => simp [composite?, Combinator.all, combination?, h, hne]

end Facets

/-! ## Reading the canonical form -/

namespace Schema

/-- Mappings with the same values under all keywords but the description have the same facets but the description. -/
theorem facets_eq_of_lookup {entries others : Entries}
    (h : ∀ name, name ≠ "description" → Value.lookup name entries = Value.lookup name others) :
    facets entries = (facets others).withDescription (Value.nonemptyText? "description" entries) := by
  have hmembers : ∀ combinator : Combinator,
      membersIn combinator.keyword entries = membersIn combinator.keyword others := by
    intro combinator
    rw [membersIn_eq, membersIn_eq, h combinator.keyword (by cases combinator <;> decide)]
  simp only [Facets.withDescription, facets, facetsWith, itemsIn_eq, propertiesIn_eq, hmembers, variantsIn, commentsIn,
    requiredIn, Value.nonemptyText?, h "$ref" (by decide), h "type" (by decide), h "items" (by decide),
    h "x-enum-varnames" (by decide), h "x-enum-comments" (by decide), h "properties" (by decide),
    h "required" (by decide)]

theorem nonemptyText?_descriptionFields {description : Option String} (h : description ≠ some "") :
    Value.nonemptyText? "description" (Value.entriesOf (descriptionFields description)) = description := by
  cases description with
  | none => rfl
  | some text =>
      have hne : text ≠ "" := fun heq => h (congrArg some heq)
      simp [descriptionFields, Value.entriesOf, Value.ofText, Value.nonemptyText?, Value.lookup, hne]

/-- The description of an object shows in the description alone. -/
theorem ofValue_described {description : Option String} {keywords : List (String × Value)}
    (hdescription : description ≠ some "") (hkeywords : "description" ∉ keywords.map Prod.fst) :
    ofValue (described description keywords) =
      ((facets (Value.entriesOf keywords)).withDescription description).fragment := by
  have hentries : Value.entriesOf (keywords ++ descriptionFields description) =
      Value.entriesOf keywords ++ Value.entriesOf (descriptionFields description) := List.map_append
  have hothers : ∀ name, name ≠ "description" →
      Value.lookup name (Value.entriesOf (keywords ++ descriptionFields description)) =
        Value.lookup name (Value.entriesOf keywords) := by
    intro name hname
    have hnone : name ∉ (descriptionFields description).map Prod.fst := by
      rw [descriptionFields, List.map_map]
      intro hmem
      obtain ⟨_, _, heq⟩ := List.mem_map.mp hmem
      exact hname heq.symm
    rw [hentries, Value.lookup_append, Value.lookup_entriesOf_eq_none hnone, Option.or_none]
  have hshown : Value.nonemptyText? "description" (Value.entriesOf (keywords ++ descriptionFields description)) =
      description := by
    rw [Value.nonemptyText?, hentries, Value.lookup_append, Value.lookup_entriesOf_eq_none hkeywords, Option.none_or]
    exact nonemptyText?_descriptionFields hdescription
  rw [described, Value.record, ofValue_mapping, facets_eq_of_lookup hothers, hshown]

/-! ## There and back -/

theorem map_spelling_ofText (texts : List String) : (texts.map Value.ofText).map Value.spelling = texts := by
  rw [List.map_map]
  exact List.map_id texts

theorem filterMap_text?_ofText (texts : List String) : (texts.map Value.ofText).filterMap Value.text? = texts := by
  rw [List.filterMap_map]
  exact List.filterMap_some

theorem filterMap_commentOf {comments : List (String × String)} (h : ∀ comment ∈ comments, comment.2 ≠ "") :
    (Value.entriesOf (commentFields comments)).filterMap commentOf = comments := by
  induction comments with
  | nil => rfl
  | cons comment rest ih =>
      have hcomment : commentOf (.text comment.1, .ofText comment.2) = some comment := by
        rw [Value.ofText, commentOf, if_neg (h comment List.mem_cons_self)]
        rfl
      have hrest := ih fun other hother => h other (List.mem_cons_of_mem _ hother)
      rw [Value.entriesOf, commentFields] at hrest
      rw [Value.entriesOf, commentFields, List.map_cons, List.map_cons, List.filterMap_cons_some hcomment, hrest]

section Forms

variable {d : Option String} (hd : d ≠ some "")
include hd

theorem ofValue_reference {pointer : String} (h : pointer ≠ "") :
    ofValue (described d [("$ref", .ofText pointer)]) = reference pointer d := by
  rw [ofValue_described hd (by simp)]
  apply Facets.fragment_of_pointer
  exact if_neg h

theorem ofValue_array {items : Value} (h : items.isGiven = true) :
    ofValue (described d [("type", .ofText "array"), ("items", items)]) = array (ofValue items) d := by
  rw [ofValue_described hd (by simp)]
  apply Facets.fragment_of_items
  · rfl
  · rfl
  · exact if_pos h

theorem ofValue_enumeration {variants : List String} {comments : List (String × String)} (hvariants : variants ≠ [])
    (hcomments : ∀ comment ∈ comments, comment.2 ≠ "") :
    ofValue (described d
      [("x-enum-varnames", .ofTexts variants), ("x-enum-comments", .record (commentFields comments))]) =
      enumeration variants comments d := by
  rw [ofValue_described hd (by simp), Facets.fragment_of_variants]
  · show enumeration ((variants.map Value.ofText).map Value.spelling)
      ((Value.entriesOf (commentFields comments)).filterMap commentOf) d = _
    rw [map_spelling_ofText, filterMap_commentOf hcomments]
  · rfl
  · rfl
  · show (variants.map Value.ofText).map Value.spelling ≠ []
    rw [map_spelling_ofText]
    exact hvariants

theorem ofValue_openObject (required : NameSet) :
    ofValue (described d [("type", .ofText "object"), ("required", .ofTexts required.names)]) =
      openObject required d := by
  rw [ofValue_described hd (by simp), Facets.fragment_of_object]
  · show openObject (NameSet.ofList ((required.names.map Value.ofText).filterMap Value.text?)) d = _
    rw [filterMap_text?_ofText, NameSet.ofList_names]
  · rfl
  · rfl
  · rfl
  · rfl

theorem ofValue_object (fields : List (String × Value)) (required : NameSet) :
    ofValue (described d
      [("type", .ofText "object"), ("properties", .record fields), ("required", .ofTexts required.names)]) =
      object (readProperties (Value.entriesOf fields)) required d := by
  rw [ofValue_described hd (by simp), Facets.fragment_of_object]
  · show object (readProperties (Value.entriesOf fields))
      (NameSet.ofList ((required.names.map Value.ofText).filterMap Value.text?)) d = _
    rw [filterMap_text?_ofText, NameSet.ofList_names]
  · rfl
  · rfl
  · rfl
  · rfl

theorem ofValue_primitive (kind : PrimitiveKind) :
    ofValue (described d [("type", .ofText kind.word)]) = primitive kind d := by
  rw [ofValue_described hd (by simp)]
  apply Facets.fragment_of_word <;> rfl

theorem ofValue_composite (combinator : Combinator) {values : List Value} (h : readMembers values ≠ []) :
    ofValue (described d [(combinator.keyword, .list values)]) = composite combinator (readMembers values) d := by
  have hmembers : ∀ other : Combinator,
      ((facets (Value.entriesOf [(combinator.keyword, .list values)])).withDescription d).members other =
        if other = combinator then readMembers values else [] := by
    intro other
    cases other <;> cases combinator <;> rfl
  rw [ofValue_described hd (by cases combinator <;> simp [Combinator.keyword]), Facets.fragment_of_noType]
  · rw [Facets.composite?_of_members h hmembers]
    rfl
  · cases combinator <;> rfl
  · cases combinator <;> rfl
  · cases combinator <;> rfl
  · cases combinator <;> rfl

theorem ofValue_unstructured : ofValue (described d []) = unstructured d := by
  rw [ofValue_described hd (by simp), Facets.fragment_of_noType]
  · rfl
  · rfl
  · rfl
  · rfl
  · rfl

end Forms

mutual

/-- **There and back.**  A well-formed schema is read back from its canonical form. -/
theorem ofValue_toValue : ∀ schema : Schema, schema.Every WellFormed → ofValue schema.toValue = schema
  | reference pointer d, h => ofValue_reference h.description h.proper
  | array items d, h => by
      have hd : d ≠ some "" := h.1.description
      rw [toValue, ofValue_array hd (isGiven_toValue items), ofValue_toValue items h.2]
  | enumeration variants comments d, h => ofValue_enumeration h.description h.proper.1 h.proper.2.1
  | openObject required d, h => ofValue_openObject h.description required
  | object properties required d, h => by
      have hd : d ≠ some "" := h.1.description
      rw [toValue, ofValue_object hd, readProperties_propertyFields properties h.2]
  | primitive kind d, h => ofValue_primitive h.description kind
  | composite combinator members d, h => by
      have hd : d ≠ some "" := h.1.description
      have hmembers : readMembers (memberValues members) = members := readMembers_memberValues members h.2
      have hne : readMembers (memberValues members) ≠ [] := by
        rw [hmembers]
        exact h.1.proper
      rw [toValue, ofValue_composite hd combinator hne, hmembers]
  | unstructured d, h => ofValue_unstructured h.description

theorem readProperties_propertyFields : ∀ properties : List (String × Schema), EveryProperty WellFormed properties →
    readProperties (Value.entriesOf (propertyFields properties)) = properties
  | [], _ => rfl
  | (name, schema) :: rest, h => by
      show (name, ofValue schema.toValue) :: readProperties (Value.entriesOf (propertyFields rest)) = _
      rw [ofValue_toValue schema h.1, readProperties_propertyFields rest h.2]

theorem readMembers_memberValues : ∀ members : List Schema, EveryMember WellFormed members →
    readMembers (memberValues members) = members
  | [], _ => rfl
  | member :: rest, h => by
      rw [memberValues, readMembers, ofValue_toValue member h.1, readMembers_memberValues rest h.2]

end

/-- **What can be read.**  The schemas that are read from JSON data are exactly those that are well-formed at every depth,
and each of these is read from its canonical form. -/
theorem image_ofValue (schema : Schema) :
    ((∃ value : Value, value.IsJson ∧ ofValue value = schema) ↔ schema.Every WellFormed) ∧
      (schema.Every WellFormed → schema.toValue.IsJson ∧ ofValue schema.toValue = schema) := by
  have hback : schema.Every WellFormed → schema.toValue.IsJson ∧ ofValue schema.toValue = schema :=
    fun h => ⟨isJson_toValue schema h, ofValue_toValue schema h⟩
  refine ⟨⟨?_, fun h => ⟨schema.toValue, hback h⟩⟩, hback⟩
  rintro ⟨value, hjson, rfl⟩
  exact every_wellFormed_ofValue hjson

/-- An object that lists pointers and names a choice, in canonical form. -/
theorem image_ofValue_order :
    let schema := object
      [("lines", array (reference "#/components/schemas/Line" none) (some "in order")),
        ("state", enumeration ["Open", "Closed"] [("Open", "not paid")] none),
        ("total", composite .oneOf [primitive .number none, unstructured none] none)]
      (NameSet.ofList ["lines"]) none
    schema.Every WellFormed ∧ schema.toValue.IsJson ∧ ofValue schema.toValue = schema ∧
      ∃ value : Value, value.IsJson ∧ ofValue value = schema := by
  intro schema
  have hschema : schema.Every WellFormed := by decide
  obtain ⟨himage, hback⟩ := image_ofValue schema
  exact ⟨hschema, (hback hschema).1, (hback hschema).2, himage.mpr hschema⟩

end Schema

end ApiTypes
