/-
# Interfaces and inline objects

The fields of an object are written in two ways: as the lines of an interface, each with the comment on it in front, and as
an object type inside another type, joined by semicolons.  Both write the same signatures in the same order.

The two texts come from one template.  Its marks are what only the interface has: the comment and the head in front, the
comment on each field, and the semicolon behind the last one.  With the marks written out the template gives the interface,
without them it gives the object type.

* `Member.places`: the places of the fields, from the first of them to the closing brace.
* `Member.join_places`, `Member.join_texts_places`: what the places give with and without their marks.
* `Schema.interface_erases_to_inline`: the interface of an object and its type.
-/
import ApiTypes.Declaration.Schema
import ApiTypes.Proofs.Text.Template

namespace ApiTypes

/-! ## The places of the fields -/

namespace Member

/-- The comment on a field of an interface. -/
def remark (m : Member) : String :=
  Comment.line "  " m.description

/-- The places of the fields: in front of each of them there is a place for the comment on it, and behind the last one a
place for its semicolon. -/
def places : Member → List Member → List (String × String)
  | last, [] => [(last.remark, "  " ++ last.signature), (";", "\n\x7d")]
  | m, next :: rest => (m.remark, "  " ++ m.signature ++ ";\n") :: places next rest

/-- **With the marks** the places give the lines of an interface. -/
theorem join_places (m : Member) (rest : List Member) :
    String.join ((places m rest).map fun place => place.1 ++ place.2) = interfaceBody (m :: rest) ++ "\n\x7d" := by
  induction rest generalizing m with
  | nil =>
      have hline : interfaceBody [m] = m.remark ++ "  " ++ m.signature ++ ";" := rfl
      rw [hline, places]
      simp [String.append_assoc]
  | cons next rest ih =>
      have hbody : interfaceBody (m :: next :: rest) =
          m.remark ++ "  " ++ m.signature ++ ";" ++ "\n" ++ interfaceBody (next :: rest) :=
        String.intercalate_cons_cons
      have hend : "  " ++ m.signature ++ ";\n" = "  " ++ m.signature ++ ";" ++ "\n" := by
        simp [← String.toList_inj]
      rw [places, List.map_cons, String.join_cons, ih next, hbody, hend]
      simp only [String.append_assoc]

/-- **Without the marks** the places give the fields of an object type. -/
theorem join_texts_places (m : Member) (rest : List Member) :
    String.join ((places m rest).map Prod.snd) =
      "  " ++ ";\n  ".intercalate ((m :: rest).map signature) ++ "\n\x7d" := by
  induction rest generalizing m with
  | nil => simp [places, String.append_assoc]
  | cons next rest ih =>
      have hsemicolon : ";\n" ++ "  " = ";\n  " := by decide
      rw [places, List.map_cons, String.join_cons, ih next, List.map_cons, List.map_cons, List.map_cons,
        String.intercalate_cons_cons, ← hsemicolon]
      simp only [String.append_assoc]

/-- The marks are the comments on the fields, and the semicolon of the last field. -/
theorem map_fst_places (m : Member) (rest : List Member) :
    (places m rest).map Prod.fst = (m :: rest).map remark ++ [";"] := by
  induction rest generalizing m with
  | nil => rfl
  | cons next rest ih =>
      rw [places, List.map_cons, ih next]
      rfl

/-- Around the marks there are the signatures, closed by semicolons up to the last one. -/
theorem map_snd_places {members : List Member} {m : Member} {rest : List Member} (h : members = m :: rest)
    (hne : members ≠ []) :
    (places m rest).map Prod.snd =
      members.dropLast.map (fun m => "  " ++ m.signature ++ ";\n") ++
        ["  " ++ (members.getLast hne).signature, "\n\x7d"] := by
  induction rest generalizing members m with
  | nil =>
      subst h
      rfl
  | cons next rest ih =>
      subst h
      rw [places, List.map_cons, ih rfl (List.cons_ne_nil next rest), List.dropLast_cons_cons, List.map_cons, List.cons_append,
        List.getLast_cons_cons]

end Member

/-! ## The two texts of an object -/

namespace Schema

/-- **The interface and the inline object.**  An object with properties has an interface.  Take away from its text the
comment in front, the head, the comment on each field and the semicolon behind the last field: what is left is the text of
the object type.  It consists of the signatures of the properties, one for each and in order. -/
theorem interface_erases_to_inline (qualifier name : String) (properties : List (String × Schema)) (required : NameSet)
    (description : Option String) (hne : properties ≠ []) :
    let schema := Schema.object properties required description
    let line := fun property : String × Schema =>
      "  " ++ TypeText.signature property.1 (decide (property.1 ∈ required)) (property.2.typeText qualifier)
    ∃ d, schema.typeDeclaration? qualifier name = some d ∧ ∃ t : Template String,
      d.render = t.write id ∧ schema.typeText qualifier = t.write (fun _ => "") ∧
      t.marks = d.comment :: ("export interface " ++ d.name ++ " ") ::
        properties.map (fun property => Comment.line "  " property.2.description) ++ [";"] ∧
      t.texts = "" :: "" :: "\x7b\n" :: properties.dropLast.map (fun property => line property ++ ";\n") ++
        [line (properties.getLast hne), "\n\x7d"] := by
  intro schema line
  let member := fun property : String × Schema =>
    (⟨property.1, property.2.typeText qualifier, decide (property.1 ∈ required), property.2.description⟩ : Member)
  -- the places go from field to field, so that the first one is set apart
  have hsome : properties.map member ≠ [] := by simpa using hne
  obtain ⟨first, rest, hfirst⟩ := List.exists_cons_of_ne_nil hsome
  let d : Declaration :=
    ⟨Name.cleanName name, .interface, Member.interfaceBody (properties.map member), Comment.line "" description⟩
  let t : Template String :=
    ⟨"", (d.comment, "") :: ("export interface " ++ d.name ++ " ", "\x7b\n") :: Member.places first rest⟩
  have htexts : t.texts = "" :: "" :: "\x7b\n" :: (Member.places first rest).map Prod.snd := rfl
  refine ⟨d, rfl, t, ?_, ?_, ?_, ?_⟩
  · have hrender : d.render =
        d.comment ++ ("export interface " ++ d.name ++ " \x7b\n" ++ Member.interfaceBody (first :: rest) ++ "\n\x7d") := by
      rw [← hfirst]
      rfl
    rw [hrender, String.append_assoc, ← Member.join_places]
    simp [t, Template.write, ← String.toList_inj]
  · have htype : schema.typeText qualifier = TypeText.inlineObject ((first :: rest).map Member.signature) := by
      rw [← hfirst]
      exact typeText_object qualifier properties required description
    have hopening : "\x7b\n" ++ "  " = "\x7b\n  " := by decide
    rw [htype, Template.write_empty, htexts, String.join_cons, String.join_cons, String.join_cons,
      Member.join_texts_places, TypeText.inlineObject, ← hopening]
    simp only [String.empty_append, String.append_assoc]
  · have hmarks : t.marks = d.comment :: ("export interface " ++ d.name ++ " ") :: (Member.places first rest).map Prod.fst :=
      rfl
    rw [hmarks, Member.map_fst_places, ← hfirst, List.map_map]
    rfl
  · rw [htexts, Member.map_snd_places hfirst hsome, ← List.map_dropLast, List.map_map, List.getLast_map]
    rfl

/-- A record with a described field and a field of an object type, which is written on several lines in both texts. -/
theorem interface_erases_to_inline_nested :
    let address := Schema.object [("street", .primitive .string (some "No number"))] ∅ none
    let properties := [("id", Schema.primitive .integer (some "Key")), ("address", address)]
    let user := Schema.object properties (NameSet.ofList ["id"]) (some "A user")
    properties ≠ [] ∧ ∃ d, user.typeDeclaration? "" "user" = some d ∧ ∃ t : Template String,
      d.render = t.write id ∧ user.typeText "" = t.write (fun _ => "") ∧
      t.marks = ["/** A user */\n", "export interface User ", "  /** Key */\n", "", ";"] ∧
      t.texts = ["", "", "\x7b\n", "  id: number;\n", "  address?: \x7b\n  street?: string\n\x7d", "\n\x7d"] := by
  intro address properties user
  obtain ⟨d, hd, t, hinterface, hinline, hmarks, htexts⟩ :=
    interface_erases_to_inline "" "user" properties (NameSet.ofList ["id"]) (some "A user") (List.cons_ne_nil _ _)
  refine ⟨List.cons_ne_nil _ _, d, hd, t, hinterface, hinline, ?_, ?_⟩
  · cases hd
    rw [hmarks]
    decide +kernel
  · rw [htexts]
    decide +kernel

end Schema

end ApiTypes
