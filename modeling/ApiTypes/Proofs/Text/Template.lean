/-
# Texts with marked places

A template is a text in which some places carry a mark.  Written out, every mark becomes a text of its own; the text
around the places stays.

A family of texts *fits* some marks when one template with just these marks gives every text of the family
(`Template.Fits`).  The laws below put families together the way in which texts are put together, so that the marks of a
long text are found piece by piece.

* `Template.write_append`, `Template.marks_append`: templates one after the other.
* `Template.Fits.intercalate`: a text with separators.
* `Template.write_eq_intercalate`: marks that all begin with the same text are joints between fragments.
-/
namespace ApiTypes

/-- A text with marked places: the text in front of the first place, and each mark with the text behind it. -/
structure Template (α : Type) where
  first : String
  others : List (α × String)

namespace Template

variable {ι α β : Type}

/-- The marks, in order. -/
def marks (t : Template α) : List α :=
  t.others.map Prod.fst

/-- The texts around the marks, in order. -/
def texts (t : Template α) : List String :=
  t.first :: t.others.map Prod.snd

/-- The text with its marks written out. -/
def write (spell : α → String) (t : Template α) : String :=
  t.first ++ String.join (t.others.map fun other => spell other.1 ++ other.2)

/-- Without its marks a template gives the texts around them. -/
theorem write_empty (t : Template α) : t.write (fun _ => "") = String.join t.texts := by
  rw [write, texts, String.join_cons]
  simp only [String.empty_append]

/-! ## One after the other -/

/-- A template behind a first text and the places after it. -/
def behind (t : Template α) : String → List (α × String) → Template α
  | s, [] => ⟨s ++ t.first, t.others⟩
  | s, (mark, next) :: rest => ⟨s, (mark, (behind t next rest).first) :: (behind t next rest).others⟩

/-- Two templates, the second behind the first. -/
def append (s t : Template α) : Template α :=
  t.behind s.first s.others

theorem write_behind (spell : α → String) (t : Template α) (s : String) (others : List (α × String)) :
    (t.behind s others).write spell = (⟨s, others⟩ : Template α).write spell ++ t.write spell := by
  induction others generalizing s with
  | nil => simp [behind, write, String.append_assoc]
  | cons other rest ih =>
      have hrest := ih other.2
      simp only [write] at hrest ⊢
      simp only [behind, List.map_cons, String.join_cons, String.append_assoc, hrest]

theorem marks_behind (t : Template α) (s : String) (others : List (α × String)) :
    (t.behind s others).marks = others.map Prod.fst ++ t.marks := by
  induction others generalizing s with
  | nil => rfl
  | cons other rest ih =>
      have hrest := ih other.2
      simp only [marks] at hrest ⊢
      simp only [behind, List.map_cons, hrest, List.cons_append]

@[simp] theorem write_append (spell : α → String) (s t : Template α) :
    (s.append t).write spell = s.write spell ++ t.write spell :=
  write_behind spell t s.first s.others

@[simp] theorem marks_append (s t : Template α) : (s.append t).marks = s.marks ++ t.marks :=
  marks_behind t s.first s.others

/-! ## Families of texts -/

/-- A family of texts has the given marks: one template gives every text of the family, the marks being spelled as the
family asks for. -/
def Fits (spell : ι → α → String) (marks : List α) (text : ι → String) : Prop :=
  ∃ t : Template α, t.marks = marks ∧ ∀ i, text i = t.write (spell i)

namespace Fits

variable {spell : ι → α → String}

/-- A text that is always the same has no marks. -/
theorem fixed (s : String) : Fits spell [] fun _ => s :=
  ⟨⟨s, []⟩, rfl, fun _ => by simp [write]⟩

/-- A mark written out. -/
theorem mark (a : α) : Fits spell [a] fun i => spell i a :=
  ⟨⟨"", [(a, "")]⟩, rfl, fun _ => by simp [write]⟩

theorem append {first second : List α} {text other : ι → String} (h : Fits spell first text)
    (h' : Fits spell second other) : Fits spell (first ++ second) fun i => text i ++ other i := by
  obtain ⟨s, rfl, hs⟩ := h
  obtain ⟨t, rfl, ht⟩ := h'
  refine ⟨s.append t, marks_append s t, fun i => ?_⟩
  show text i ++ other i = _
  rw [hs, ht, write_append]

/-- A text in front changes no marks. -/
theorem prepend {marks : List α} {text : ι → String} (h : Fits spell marks text) (s : String) :
    Fits spell marks fun i => s ++ text i :=
  (fixed s).append h

/-- A text behind changes no marks. -/
theorem postpend {marks : List α} {text : ι → String} (h : Fits spell marks text) (s : String) :
    Fits spell marks fun i => text i ++ s := by
  simpa using h.append (fixed s)

/-- Texts with separators between them have the marks of the texts. -/
theorem intercalate (separator : String) {marks : β → List α} {text : β → ι → String} {xs : List β}
    (h : ∀ x ∈ xs, Fits spell (marks x) (text x)) :
    Fits spell (xs.flatMap marks) fun i => separator.intercalate (xs.map fun x => text x i) := by
  induction xs with
  | nil => exact fixed ""
  | cons x rest ih =>
      have hx := h x List.mem_cons_self
      have hrest := ih fun y hy => h y (List.mem_cons_of_mem _ hy)
      cases rest with
      | nil => simpa using hx
      | cons y rest =>
          have happend := (hx.postpend separator).append hrest
          simpa only [List.map_cons, String.intercalate_cons_cons, List.flatMap_cons] using happend

end Fits

/-! ## Joints -/

/-- The pieces of a text whose marks are texts: each mark begins the piece behind its place. -/
def fragments (t : Template String) : List String :=
  t.first :: t.others.map fun other => other.1 ++ other.2

/-- There is one joint for each mark. -/
theorem length_fragments (t : Template String) : t.fragments.length = t.marks.length + 1 := by
  simp [fragments, marks]

/-- **Joints.**  Writing the same text in front of every mark joins the fragments with it. -/
theorem write_eq_intercalate (joint : String) (t : Template String) :
    t.write (joint ++ ·) = joint.intercalate t.fragments := by
  obtain ⟨first, others⟩ := t
  rw [write, fragments]
  induction others generalizing first with
  | nil => simp
  | cons other rest ih =>
      rw [List.map_cons, String.join_cons, List.map_cons, String.intercalate_cons_cons, ← ih]
      simp only [String.append_assoc]

end Template

end ApiTypes
