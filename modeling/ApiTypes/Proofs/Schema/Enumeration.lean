/-
# Choices from a document to its module and back

A definition that lists variants becomes a choice of literals.  Nothing is lost on the way: the variants that the definition
lists are read back from the declaration, in order and with repetitions, each with the comment that the definition notes on
it.  The same variants are read back from the choice when it stands inside a type, where it has no comments.

* `Schema.firstNote`: the comment that a raw definition notes on a variant.
* `Schema.commentFor_filterMap`: it is the comment that is found after reading.
* `Schema.variants_readBack`: both texts of a choice are read back.
-/
import ApiTypes.Proofs.Generation.Partition
import ApiTypes.Proofs.TypeSyntax.Choice

namespace ApiTypes

namespace Schema

/-! ## Notes on variants -/

/-- The entries of the mapping that notes comments on variants. -/
def notesIn (value : Value) : Entries :=
  ((value.field? "x-enum-comments").bind Value.entries?).getD []

/-- What an entry notes on a variant: a text that is not empty, under a key that is spelled like the variant. -/
def noteOn? (variant : String) (entry : Scalar × Value) : Option String :=
  if entry.1.spelling = variant then entry.2.text?.filter (· ≠ "") else none

/-- The first note on a variant. -/
def firstNote (variant : String) (notes : Entries) : Option String :=
  notes.findSome? (noteOn? variant)

/-- An entry is read as a comment exactly when it is a note on some variant. -/
theorem commentOf_eq_map (entry : Scalar × Value) :
    commentOf entry = (noteOn? entry.1.spelling entry).map fun text => (entry.1.spelling, text) := by
  obtain ⟨key, value⟩ := entry
  rw [noteOn?, if_pos rfl]
  cases value with
  | scalar s =>
      cases s with
      | text text => by_cases h : text = "" <;> simp [commentOf, Value.text?, Option.filter, h]
      | _ => rfl
  | _ => rfl

/-- The comment that is found for a variant is the first note on it. -/
theorem commentFor_filterMap (notes : Entries) (variant : String) :
    commentFor (notes.filterMap commentOf) variant = firstNote variant notes := by
  rw [commentFor, firstNote]
  induction notes with
  | nil => rfl
  | cons entry rest ih =>
      rw [List.filterMap_cons, List.findSome?_cons, commentOf_eq_map]
      by_cases hkey : entry.1.spelling = variant
      · subst hkey
        cases noteOn? entry.1.spelling entry with
        | none => exact ih
        | some text => rw [Option.map_some, List.lookup_cons_self]
      · have hother : noteOn? variant entry = none := if_neg hkey
        rw [hother]
        cases noteOn? entry.1.spelling entry with
        | none => exact ih
        | some text =>
            have hne : (variant == entry.1.spelling) = false := by simpa using Ne.symm hkey
            rw [Option.map_some, List.lookup_cons, hne]
            exact ih

theorem commentsIn_eq_filterMap (entries : Entries) :
    commentsIn entries = (notesIn (.mapping entries)).filterMap commentOf := by
  rw [commentsIn, notesIn, Value.field?_mapping]
  cases Value.lookup "x-enum-comments" entries with
  | none => rfl
  | some value => cases value <;> rfl

/-- A note is not empty, and stands in the mapping. -/
theorem spec_firstNote {variant text : String} {notes : Entries} (h : firstNote variant notes = some text) :
    text ≠ "" ∧ ∃ note ∈ notes, note.2.text? = some text := by
  obtain ⟨note, hnote, hfound⟩ := List.exists_of_findSome?_eq_some h
  rw [noteOn?] at hfound
  split at hfound
  · obtain ⟨htext, hne⟩ := Option.filter_eq_some_iff.mp hfound
    exact ⟨by simpa using hne, note, hnote, htext⟩
  · cases hfound

/-! ## The definition that is read -/

/-- A definition that lists variants is read as the choice of them. -/
theorem ofDefinition_of_variants {value : Value} {items : List Value}
    (hvariants : value.field? "x-enum-varnames" = some (.list items)) (hne : items ≠ []) :
    ∃ description, ofDefinition value =
      .enumeration (items.map Value.spelling) ((notesIn value).filterMap commentOf) description := by
  obtain ⟨entries, rfl⟩ := exists_mapping_of_field? hvariants
  have hlisted : variantsIn entries = items.map Value.spelling := by
    rw [variantsIn, ← Value.field?_mapping, hvariants]
  have hsome : ((facets entries).variants).isEmpty = false := by
    show (variantsIn entries).isEmpty = false
    rw [hlisted, List.isEmpty_map]
    simpa using hne
  refine ⟨(facets entries).description, ?_⟩
  rw [ofDefinition_mapping, Facets.definition, Facets.enumeration?, hsome]
  show enumeration (variantsIn entries) (commentsIn entries) _ = _
  rw [hlisted, commentsIn_eq_filterMap]

/-- The alternatives of the choice are the variants with the first notes on them. -/
theorem arms_eq_map (items : List Value) (notes : Entries) :
    arms (items.map Value.spelling) (notes.filterMap commentOf) =
      items.map fun item => ⟨item.spelling, firstNote item.spelling notes⟩ := by
  rw [arms, List.map_map]
  apply List.map_congr_left
  intro item _
  rw [Function.comp_apply, commentFor_filterMap]

open TypeSyntax (readArms readArms_enumBody readArms_union IsLegible)
open Comment (closings)

/-- **Choices lose nothing.**  From the declaration of a definition that lists variants these are read back in order, each
with the first note on it, if none of the noted texts holds the two characters that end a comment.  From the type of the
choice the same variants are read back. -/
theorem variants_readBack {value : Value} {items : List Value}
    (hvariants : value.field? "x-enum-varnames" = some (.list items)) (hne : items ≠ [])
    (hnotes : ∀ note ∈ notesIn value, ∀ text ∈ note.2.text?, closings text = 0) (name qualifier : String) :
    ∃ d, (ofDefinition value).enumDeclaration? name = some d ∧
      readArms d.body =
        some (items.map fun item => ⟨item.spelling, firstNote item.spelling (notesIn value)⟩) ∧
      readArms ((ofDefinition value).typeText qualifier) = some (items.map fun item => ⟨item.spelling, none⟩) := by
  obtain ⟨description, hread⟩ := ofDefinition_of_variants hvariants hne
  rw [hread]
  refine ⟨_, rfl, ?_, ?_⟩
  · have hlegible : ∀ arm ∈ items.map (fun item => (⟨item.spelling, firstNote item.spelling (notesIn value)⟩ : Arm)),
        IsLegible arm := by
      intro arm harm text htext
      obtain ⟨item, _, rfl⟩ := List.mem_map.mp harm
      obtain ⟨hnonempty, note, hnote, hnoted⟩ := spec_firstNote htext
      exact ⟨hnonempty, hnotes note hnote text hnoted⟩
    rw [arms_eq_map]
    exact readArms_enumBody hlegible
  · rw [typeText, readArms_union, List.map_map]
    rfl

/-- Variants with quotes, backslashes, bars and the beginning of a comment in them, one of them repeated and one a number;
of the notes on it the first that is not empty counts. -/
theorem variants_readBack_quotes :
    let text := fun s => Value.scalar (.text s)
    let value := Value.mapping
      [(.text "x-enum-varnames", .list [text "it's", text "a\\' | 'b", text "/** c", .scalar (.int 7), text "it's"]),
        (.text "x-enum-comments", .mapping
          [(.text "it's", text "/** don't"), (.int 7, text ""), (.text "7", text "* 'x'\n | '")])]
    ∃ d, (ofDefinition value).enumDeclaration? "kind" = some d ∧
      readArms d.body = some [⟨"it's", some "/** don't"⟩, ⟨"a\\' | 'b", none⟩, ⟨"/** c", none⟩,
        ⟨"7", some "* 'x'\n | '"⟩, ⟨"it's", some "/** don't"⟩] ∧
      readArms ((ofDefinition value).typeText "") =
        some [⟨"it's", none⟩, ⟨"a\\' | 'b", none⟩, ⟨"/** c", none⟩, ⟨"7", none⟩, ⟨"it's", none⟩] := by
  intro text value
  exact variants_readBack (rfl : value.field? "x-enum-varnames" = some (.list _)) (by decide) (by decide +kernel)
    "kind" ""

end Schema

end ApiTypes
