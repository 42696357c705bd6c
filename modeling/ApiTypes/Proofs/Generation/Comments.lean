/-
# The comments of a module

Descriptions, comments on variants, summaries and paths are copied into comments as they are.  A comment therefore ends
where it is meant to end exactly when none of the texts that it shows holds the characters `*/`.

* `Remark`: the comments that are written, each with the texts of the document that it shows.
* `Remark.closings_inner`: a comment holds the closing pairs of these texts, and of nothing else.
* `DeclarationSource.leading`, `DeclarationSource.inside`: the comments in front of a declaration and in its body.
* `Generated.comments_close_iff`: which comments of a module close at their end.
-/
import ApiTypes.Proofs.Generation.Schemas
import ApiTypes.Proofs.Generation.Sources
import ApiTypes.Proofs.Text.Closing
import ApiTypes.Proofs.Text.Template
import Mathlib.Data.List.Forall2

namespace ApiTypes

open Comment (closings around Separates)
open Template (Fits)

/-! ## Methods -/

namespace Operation

/-- A character that becomes a small letter is an ASCII character. -/
theorem toNat_lt_of_isLower_toLower {c : Char} (h : c.toLower.isLower = true) : c.toNat < 0x80 := by
  by_cases hupper : 'A' ≤ c ∧ c ≤ 'Z'
  · have hle : c.toNat ≤ 90 := hupper.2
    omega
  · have hsame : c.toLower = c := dif_neg hupper
    rw [hsame] at h
    have hle : c.toNat ≤ 122 := of_decide_eq_true (Bool.and_eq_true_iff.mp h).2
    omega

/-- A method consists of letters. -/
theorem isLower_toLower_of_isMethod {key : String} (h : isMethod key = true) {c : Char} (hc : c ∈ key.toList) :
    c.toLower.isLower = true := by
  have hwords : ∀ word ∈ methods, word.toList.all Char.isLower = true := by decide
  have hmem : Text.lowerAscii key ∈ methods := List.contains_iff_mem.mp h
  apply List.all_eq_true.mp (hwords _ hmem)
  rw [Text.lowerAscii, String.toList_ofList]
  exact List.mem_map_of_mem hc

/-- The capital form of a method holds no star. -/
theorem star_not_mem_upper {key : String} (h : isMethod key = true) : '*' ∉ (Text.upper key).toList := by
  have hascii : ∀ n < 0x80, (Char.ofNat n).toLower.isLower = true → '*' ∉ Text.upperChar (Char.ofNat n) := by
    decide +kernel
  intro hstar
  rw [Text.toList_upper] at hstar
  obtain ⟨c, hc, hupper⟩ := List.mem_flatMap.mp hstar
  have hlower := isLower_toLower_of_isMethod h hc
  have hsmall := hascii c.toNat (toNat_lt_of_isLower_toLower hlower)
  rw [Char.ofNat_toNat] at hsmall
  exact hsmall hlower hupper

theorem closings_upper {key : String} (h : isMethod key = true) : closings (Text.upper key) = 0 :=
  Comment.countClosings_of_not_mem (star_not_mem_upper h)

theorem isMethod_of_ofMethod? {path : String} {entry : Scalar × Value} {op : Operation}
    (h : ofMethod? path entry = some op) : isMethod op.method = true := by
  unfold ofMethod? at h
  split at h
  · split at h
    · rename_i hmethod
      cases h
      exact hmethod
    · cases h
  · cases h

/-- The operations of a document have methods. -/
theorem isMethod_of_mem_ofDocument {value : Value} {op : Operation} (h : op ∈ ofDocument value) :
    isMethod op.method = true := by
  unfold ofDocument at h
  cases hpaths : value.field? "paths" with
  | none =>
      rw [hpaths] at h
      cases h
  | some paths =>
      rw [hpaths] at h
      cases paths with
      | mapping entries =>
          obtain ⟨entry, _, hpath⟩ := List.mem_flatMap.mp h
          unfold ofPath at hpath
          split at hpath
          · obtain ⟨_, _, hop⟩ := List.mem_filterMap.mp hpath
            exact isMethod_of_ofMethod? hop
          · cases hpath
      | scalar _ => cases h
      | list _ => cases h
      | set _ => cases h

end Operation

/-! ## Comments and what they show -/

/-- The text that is given, if it is not empty. -/
def givenText : Option String → List String
  | none => []
  | some text => if text = "" then [] else [text]

namespace Operation

/-- The texts of an operation that comments show. -/
def texts (op : Operation) : List String :=
  op.path :: op.summary.toList

/-- The operations that use a named schema, once for each use. -/
def usersOf (name : String) (operations : List Operation) : List Operation :=
  operations.flatMap fun op => (op.bodies.filter (Schema.isReference (Schema.pointerTo name))).map fun _ => op

end Operation

/-- A comment of a module: a text on one line, the list of the operations that use a schema, or what a declaration stands
for in an operation. -/
inductive Remark
  | line (text : String)
  | usage (operations : List Operation)
  | operation (op : Operation) (content : String)

namespace Remark

/-- The inner text of a comment. -/
def inner : Remark → String
  | line text => " " ++ text ++ " "
  | usage operations =>
    "\n * " ++ "\n * ".intercalate ("Used in:" :: operations.map Operation.endpoint) ++ "\n "
  | operation op content =>
    " " ++ "\n * ".intercalate
      ((Text.upper op.method ++ " " ++ op.path) :: (givenText op.summary ++ [content])) ++ "\n "

/-- The comment. -/
def text (remark : Remark) : String :=
  around remark.inner

/-- The texts of the document that a comment shows. -/
def shown : Remark → List String
  | line text => [text]
  | usage operations => operations.flatMap Operation.texts
  | operation op _ => op.texts

/-- The operations of a comment have methods of a document, and what a declaration stands for closes no comment. -/
def Valid : Remark → Prop
  | line _ => True
  | usage operations => ∀ op ∈ operations, Operation.isMethod op.method = true
  | operation op content => Operation.isMethod op.method = true ∧ closings content = 0

/-- No comment begins with a slash. -/
theorem head?_inner_ne (remark : Remark) : remark.inner.toList.head? ≠ some '/' := by
  cases remark with
  | line text => simp [inner]
  | usage operations => simp [inner]
  | operation op content => simp [inner]

end Remark

/-! ## What closes a comment -/

namespace Operation

theorem closings_getD (summary : Option String) :
    closings (summary.getD "") = (summary.toList.map closings).sum := by
  cases summary with
  | none => rfl
  | some text => rfl

theorem closings_title {op : Operation} (h : isMethod op.method = true) :
    closings (Text.upper op.method ++ " " ++ op.path) = closings op.path := by
  rw [(by decide : Separates " ").closings_between, closings_upper h, Nat.zero_add]

/-- The line of an operation holds the closing pairs of its path and summary. -/
theorem closings_endpoint {op : Operation} (h : isMethod op.method = true) :
    closings op.endpoint = (op.texts.map closings).sum := by
  rw [endpoint, (by decide : Separates " - ").closings_between, closings_title h, closings_getD, texts, List.map_cons,
    List.sum_cons]

end Operation

/-- An empty text holds no closing pair and may be left out. -/
theorem sum_closings_givenText (text : Option String) :
    ((givenText text).map closings).sum = (text.toList.map closings).sum := by
  cases text with
  | none => rfl
  | some text =>
      rw [givenText]
      split
      · rename_i hempty
        rw [hempty]
        rfl
      · rfl

namespace Remark

/-- **What closes a comment.**  Inside a comment there are the closing pairs of the texts that it shows, and no others. -/
theorem closings_inner {remark : Remark} (h : remark.Valid) :
    closings remark.inner = (remark.shown.map closings).sum := by
  have hspace : Separates " " := by decide
  have hline : Separates "\n * " := by decide
  have hend : Separates "\n " := by decide
  cases remark with
  | line text =>
      rw [inner, hspace.closings_behind, hspace.closings_before, shown, List.map_singleton, List.sum_singleton]
  | usage operations =>
      have hendpoints : (operations.map Operation.endpoint).map closings =
          operations.map fun op => (op.texts.map closings).sum := by
        rw [List.map_map]
        apply List.map_congr_left
        intro op hop
        rw [Function.comp_apply, Operation.closings_endpoint (h op hop)]
      have hused : closings "Used in:" = 0 := Comment.countClosings_of_not_mem (by decide)
      rw [inner, hend.closings_behind, hline.closings_before, hline.closings_intercalate, List.map_cons, List.sum_cons,
        hendpoints, hused, Nat.zero_add, shown, List.map_flatMap, List.flatMap, List.sum_flatten, List.map_map]
      rfl
  | operation op content =>
      rw [inner, hend.closings_behind, hspace.closings_before, hline.closings_intercalate, List.map_cons, List.sum_cons,
        Operation.closings_title h.1, List.map_append, List.sum_append, sum_closings_givenText, List.map_singleton,
        List.sum_singleton, h.2, Nat.add_zero, shown, Operation.texts, List.map_cons, List.sum_cons]

/-- A comment holds no closing pair inside exactly when none of the texts that it shows does. -/
theorem closings_inner_eq_zero_iff {remark : Remark} (h : remark.Valid) :
    closings remark.inner = 0 ↔ ∀ text ∈ remark.shown, closings text = 0 := by
  rw [closings_inner h, List.sum_eq_zero_iff_forall_eq_nat, List.forall_mem_map]

end Remark

/-! ## The comments in a text -/

/-- A text holds the given comments, in order. -/
def Holds (remarks : List Remark) (text : String) : Prop :=
  Fits (fun _ : Unit => Remark.text) remarks fun _ => text

namespace Holds

theorem code (s : String) : Holds [] s := Fits.fixed s

theorem remark (r : Remark) : Holds [r] r.text := Fits.mark r

theorem append {first second : List Remark} {s t : String} (h : Holds first s) (h' : Holds second t) :
    Holds (first ++ second) (s ++ t) := Fits.append h h'

theorem prepend {remarks : List Remark} {t : String} (h : Holds remarks t) (s : String) : Holds remarks (s ++ t) :=
  Fits.prepend h s

theorem postpend {remarks : List Remark} {t : String} (h : Holds remarks t) (s : String) : Holds remarks (t ++ s) :=
  Fits.postpend h s

theorem intercalate {α : Type} (separator : String) {remarks : α → List Remark} {text : α → String} {xs : List α}
    (h : ∀ x ∈ xs, Holds (remarks x) (text x)) : Holds (xs.flatMap remarks) (separator.intercalate (xs.map text)) :=
  Fits.intercalate separator h

theorem join {α : Type} {remarks : α → List Remark} {text : α → String} {xs : List α}
    (h : ∀ x ∈ xs, Holds (remarks x) (text x)) : Holds (xs.flatMap remarks) (String.join (xs.map text)) := by
  induction xs with
  | nil => exact code ""
  | cons x rest ih =>
      rw [List.map_cons, String.join_cons, List.flatMap_cons]
      exact (h x List.mem_cons_self).append (ih fun y hy => h y (List.mem_cons_of_mem _ hy))

end Holds

/-! ## The comments that are written -/

namespace Remark

/-- Comments, each on lines of its own. -/
def lines (remarks : List Remark) : String :=
  String.join (remarks.map fun remark => remark.text ++ "\n")

theorem lines_cons (remark : Remark) (rest : List Remark) :
    lines (remark :: rest) = remark.text ++ "\n" ++ lines rest := by
  rw [lines, List.map_cons, String.join_cons, lines]

theorem lines_append (first second : List Remark) : lines (first ++ second) = lines first ++ lines second := by
  induction first with
  | nil => simp [lines]
  | cons remark rest ih => rw [List.cons_append, lines_cons, ih, lines_cons, ← String.append_assoc]

/-- The comment with a text, unless it is empty. -/
def ofText (text : Option String) : List Remark :=
  (givenText text).map line

/-- The comment on the uses of a schema, if there are any. -/
def ofUses (name : String) (operations : List Operation) : List Remark :=
  if (Operation.usersOf name operations).isEmpty then [] else [usage (Operation.usersOf name operations)]

end Remark

namespace Comment

theorem line_eq_join (indent : String) (text : Option String) :
    line indent text = String.join ((Remark.ofText text).map fun remark => indent ++ remark.text ++ "\n") := by
  cases text with
  | none => rfl
  | some text =>
      rw [line, Remark.ofText, givenText]
      split
      · rfl
      · simp [← String.toList_inj, Remark.text, Remark.inner, around]

theorem line_eq_lines (text : Option String) : line "" text = Remark.lines (Remark.ofText text) := by
  simp only [line_eq_join, Remark.lines, String.empty_append]

theorem holds_line (indent : String) (text : Option String) : Holds (Remark.ofText text) (line indent text) := by
  have hremark : ∀ remark ∈ Remark.ofText text, Holds [remark] (indent ++ remark.text ++ "\n") := by
    intro remark _
    exact ((Holds.remark remark).prepend indent).postpend "\n"
  have hremarks := Holds.join hremark
  rw [List.flatMap_singleton'] at hremarks
  rw [line_eq_join]
  exact hremarks

/-- A text in front of every item goes into the separator. -/
theorem intercalate_map_append (separator start first : String) (rest : List String) :
    separator.intercalate ((first :: rest).map fun text => start ++ text) =
      start ++ (separator ++ start).intercalate (first :: rest) := by
  induction rest generalizing first with
  | nil => simp
  | cons next rest ih =>
      rw [List.map_cons, List.map_cons, String.intercalate_cons_cons, ← List.map_cons, ih,
        String.intercalate_cons_cons]
      simp only [String.append_assoc]

theorem endpointsFor_eq_map (name : String) (operations : List Operation) :
    Operation.endpointsFor name operations = (Operation.usersOf name operations).map Operation.endpoint := by
  rw [Operation.usersOf, List.map_flatMap]
  apply List.flatMap_congr
  intro op _
  rw [Operation.usesOf, List.map_map]
  rfl

theorem usage_eq_lines (name : String) (operations : List Operation) :
    usage (Operation.endpointsFor name operations) = Remark.lines (Remark.ofUses name operations) := by
  rw [endpointsFor_eq_map, usage, Remark.ofUses, List.isEmpty_map]
  split
  · rfl
  · rw [block, if_neg (by simp), intercalate_map_append]
    simp [← String.toList_inj, Remark.lines, Remark.text, Remark.inner, around]

theorem operation_eq_lines (op : Operation) (content : String) :
    op.comment content = Remark.lines [.operation op content] := by
  have hcomment : op.comment content =
      "/** " ++ "\n * ".intercalate
        ((Text.upper op.method ++ " " ++ op.path) :: (givenText op.summary ++ [content])) ++ "\n */\n" := rfl
  rw [hcomment]
  simp [← String.toList_inj, Remark.lines, Remark.text, Remark.inner, around]

end Comment

/-! ## The comments in a declaration -/

namespace DeclarationSource

/-- The comments in front of a declaration. -/
def leading (operations : List Operation) : DeclarationSource → List Remark
  | choice name _ _ => Remark.ofUses name operations
  | combination name _ _ description => Remark.ofUses name operations ++ Remark.ofText description
  | record name _ _ description => Remark.ofUses name operations ++ Remark.ofText description
  | query op => [.operation op "Query Parameters"]
  | path op => [.operation op "Path Parameters"]
  | body op _ => [.operation op "Request Body"]

/-- The comments in the body of a declaration. -/
def inside : DeclarationSource → List Remark
  | choice _ variants comments => variants.flatMap fun variant => Remark.ofText (Schema.commentFor comments variant)
  | combination _ _ _ _ => []
  | record _ properties _ _ => properties.flatMap fun property => Remark.ofText property.2.description
  | query op => (op.parametersAt "query").flatMap fun p => Remark.ofText p.description
  | path op => (op.parametersAt "path").flatMap fun p => Remark.ofText p.description
  | body _ _ => []

/-- In front of a declaration there are its comments and nothing else. -/
theorem comment_eq_lines (operations : List Operation) (source : DeclarationSource) :
    source.comment operations = Remark.lines (source.leading operations) := by
  cases source with
  | choice name variants comments => exact Comment.usage_eq_lines name operations
  | combination name combinator members description =>
      rw [comment, leading, Remark.lines_append, Comment.usage_eq_lines, Comment.line_eq_lines]
  | record name properties required description =>
      rw [comment, leading, Remark.lines_append, Comment.usage_eq_lines, Comment.line_eq_lines]
  | query op => exact Comment.operation_eq_lines op "Query Parameters"
  | path op => exact Comment.operation_eq_lines op "Path Parameters"
  | body op schema => exact Comment.operation_eq_lines op "Request Body"

end DeclarationSource

theorem Member.holds_interfaceBody {α : Type} (member : α → Member) (xs : List α) :
    Holds (xs.flatMap fun x => Remark.ofText (member x).description) (interfaceBody (xs.map member)) := by
  rw [interfaceBody, List.map_map]
  apply Holds.intercalate
  intro x _
  exact (((Comment.holds_line "  " (member x).description).postpend "  ").postpend (member x).signature).postpend ";"

theorem Arm.holds_line (arm : Arm) : Holds (Remark.ofText arm.comment) arm.line := by
  obtain ⟨value, comment⟩ := arm
  cases comment with
  | none => exact Holds.code _
  | some text =>
      have htext : " /** " ++ text ++ " */" = " " ++ (Remark.line text).text := by
        simp [← String.toList_inj, Remark.text, Remark.inner, around]
      simp only [line, Remark.ofText, givenText, htext]
      split
      · exact Holds.code _
      · exact (((Holds.remark _).prepend " ").postpend "\n  | ").postpend (TypeText.literal value)

theorem Arm.holds_enumBody (variants : List String) (comments : List (String × String)) :
    Holds (variants.flatMap fun variant => Remark.ofText (Schema.commentFor comments variant))
      (enumBody (Schema.arms variants comments)) := by
  rw [enumBody, Schema.arms, List.map_map]
  exact Holds.join fun variant _ => Arm.holds_line ⟨variant, Schema.commentFor comments variant⟩

/-- The body of a declaration holds its comments. -/
theorem DeclarationSource.holds_bodyText (qualifier : String) (source : DeclarationSource) :
    Holds source.inside (source.bodyText qualifier) := by
  cases source with
  | choice name variants comments => exact Arm.holds_enumBody variants comments
  | combination name combinator members description => exact Holds.code _
  | record name properties required description =>
      exact Member.holds_interfaceBody (fun property =>
        ⟨property.1, property.2.typeText qualifier, decide (property.1 ∈ required), property.2.description⟩) properties
  | query op => exact Member.holds_interfaceBody (fun p => p.member qualifier p.required) (op.parametersAt "query")
  | path op => exact Member.holds_interfaceBody (fun p => p.member qualifier true) (op.parametersAt "path")
  | body op schema => exact Holds.code _

/-! ## The comments of a document -/

namespace Remark

theorem valid_of_mem_ofText {text : Option String} {remark : Remark} (h : remark ∈ ofText text) : remark.Valid := by
  obtain ⟨text, _, rfl⟩ := List.mem_map.mp h
  trivial

theorem valid_of_mem_flatMap_ofText {α : Type} {text : α → Option String} {xs : List α} {remark : Remark}
    (h : remark ∈ xs.flatMap fun x => ofText (text x)) : remark.Valid := by
  obtain ⟨_, _, hmem⟩ := List.mem_flatMap.mp h
  exact valid_of_mem_ofText hmem

/-- The operations that use a schema are operations of the document. -/
theorem valid_of_mem_ofUses {name : String} {operations : List Operation} {remark : Remark}
    (hmethods : ∀ op ∈ operations, Operation.isMethod op.method = true) (h : remark ∈ ofUses name operations) :
    remark.Valid := by
  rw [ofUses] at h
  split at h
  · cases h
  · rw [List.mem_singleton.mp h]
    intro op hop
    obtain ⟨user, huser, hmem⟩ := List.mem_flatMap.mp hop
    obtain ⟨_, _, rfl⟩ := List.mem_map.mp hmem
    exact hmethods user huser

end Remark

namespace DeclarationSource

theorem valid_of_mem_inside {source : DeclarationSource} {remark : Remark} (h : remark ∈ source.inside) :
    remark.Valid := by
  cases source with
  | choice name variants comments => exact Remark.valid_of_mem_flatMap_ofText h
  | combination name combinator members description => cases h
  | record name properties required description => exact Remark.valid_of_mem_flatMap_ofText h
  | query op => exact Remark.valid_of_mem_flatMap_ofText h
  | path op => exact Remark.valid_of_mem_flatMap_ofText h
  | body op schema => cases h

/-- The operation that a declaration is made for, if it is not made for a schema. -/
def operation? : DeclarationSource → Option Operation
  | choice _ _ _ => none
  | combination _ _ _ _ => none
  | record _ _ _ _ => none
  | query op => some op
  | path op => some op
  | body op _ => some op

theorem valid_of_mem_leading {source : DeclarationSource} {operations : List Operation} {remark : Remark}
    (hmethods : ∀ op ∈ operations, Operation.isMethod op.method = true)
    (hsource : ∀ op ∈ source.operation?, op ∈ operations) (h : remark ∈ source.leading operations) : remark.Valid := by
  have hschema : ∀ name description, remark ∈ Remark.ofUses name operations ++ Remark.ofText description →
      remark.Valid := by
    intro name description hmem
    rcases List.mem_append.mp hmem with huse | htext
    · exact Remark.valid_of_mem_ofUses hmethods huse
    · exact Remark.valid_of_mem_ofText htext
  have hoperation : ∀ op ∈ operations, ∀ content : String, '*' ∉ content.toList →
      (Remark.operation op content).Valid := by
    intro op hop content hcontent
    exact ⟨hmethods op hop, Comment.countClosings_of_not_mem hcontent⟩
  cases source with
  | choice name variants comments => exact Remark.valid_of_mem_ofUses hmethods h
  | combination name combinator members description => exact hschema name description h
  | record name properties required description => exact hschema name description h
  | query op =>
      rw [List.mem_singleton.mp h]
      exact hoperation op (hsource op rfl) _ (by decide)
  | path op =>
      rw [List.mem_singleton.mp h]
      exact hoperation op (hsource op rfl) _ (by decide)
  | body op schema =>
      rw [List.mem_singleton.mp h]
      exact hoperation op (hsource op rfl) _ (by decide)

end DeclarationSource

namespace Document

/-- The declaration of a named schema is not made for an operation. -/
theorem operation?_of_mem_schemaSources {doc : Document} {source : DeclarationSource} (h : source ∈ doc.schemaSources) :
    source.operation? = none := by
  rcases List.mem_append.mp h with h | h
  · obtain ⟨⟨name, schema⟩, _, hsource⟩ := List.mem_filterMap.mp h
    cases schema <;> cases hsource
    rfl
  · obtain ⟨⟨name, schema⟩, _, hsource⟩ := List.mem_filterMap.mp h
    cases schema <;> cases hsource <;> rfl

theorem operation?_of_mem_operationSources {op : Operation} {source : DeclarationSource} (h : source ∈ op.sources) :
    source.operation? = some op := by
  rw [Operation.sources, List.mem_append, List.mem_append] at h
  rcases h with (hquery | hpath) | hbody
  · split at hquery
    · cases hquery
    · rw [List.mem_singleton.mp hquery]
      rfl
  · split at hpath
    · cases hpath
    · rw [List.mem_singleton.mp hpath]
      rfl
  · obtain ⟨_, _, rfl⟩ := List.mem_map.mp hbody
    rfl

/-- Declarations are made for operations of the document only. -/
theorem mem_operations_of_mem_sources {doc : Document} {source : DeclarationSource} (h : source ∈ doc.sources) :
    ∀ op ∈ source.operation?, op ∈ doc.operations := by
  intro op hop
  rcases List.mem_append.mp h with hschema | hrequest
  · rw [operation?_of_mem_schemaSources hschema] at hop
    cases hop
  · obtain ⟨user, huser, hmem⟩ := List.mem_flatMap.mp hrequest
    rw [operation?_of_mem_operationSources hmem] at hop
    cases hop
    exact huser

/-- The operations that are read have methods. -/
theorem isMethod_of_mem_operations {value : Value} {doc : Document} (hdoc : ofValue value = .ok doc) :
    ∀ op ∈ doc.operations, Operation.isMethod op.method = true := by
  intro op hop
  rw [operations_of_ofValue hdoc] at hop
  exact Operation.isMethod_of_mem_ofDocument hop

/-- In the declarations of a document there are only comments of its operations and of single texts. -/
theorem valid_of_mem_sources {value : Value} {doc : Document} (hdoc : ofValue value = .ok doc)
    {source : DeclarationSource} (hsource : source ∈ doc.sources) {remark : Remark}
    (h : remark ∈ source.leading doc.operations ++ source.inside) : remark.Valid := by
  rcases List.mem_append.mp h with hleading | hinside
  · exact DeclarationSource.valid_of_mem_leading (isMethod_of_mem_operations hdoc)
      (mem_operations_of_mem_sources hsource) hleading
  · exact DeclarationSource.valid_of_mem_inside hinside

end Document

namespace Generated

/-- What holds of the declaration made from any source under any name holds of the declarations of a document. -/
theorem forall₂_declarations (qualifier : String) (doc : Document) {related : DeclarationSource → Declaration → Prop}
    (h : ∀ source name, related source (source.declare qualifier doc.operations name)) :
    List.Forall₂ related doc.sources (ofDocument qualifier doc).declarations := by
  rw [declarations_eq_zipWith, List.forall₂_iff_get]
  constructor
  · rw [List.length_zipWith, doc.length_names, Nat.min_self]
  · intro i _ _
    rw [List.get_eq_getElem, List.get_eq_getElem, List.getElem_zipWith]
    exact h _ _

/-- **Which comments close at their end.**  In front of each declaration there are the comments of its source, each on
lines of its own, and its body holds the comments inside the source.  Each of these comments ends with the two characters
`*/`; it holds them nowhere else, and is read to its end, exactly when none of the texts that it shows holds them. -/
theorem comments_close_iff (qualifier : String) (value : Value) :
    ofValue qualifier value = .error .missingSchemas ∨
      ∃ doc g, Document.ofValue value = .ok doc ∧ ofValue qualifier value = .ok g ∧
        List.Forall₂ (fun source d =>
          d.comment = Remark.lines (source.leading doc.operations) ∧ Holds source.inside d.body) doc.sources
          g.declarations ∧
        ∀ source ∈ doc.sources, ∀ remark ∈ source.leading doc.operations ++ source.inside,
          (Comment.ClosesAtEnd remark.text ↔ ∀ text ∈ remark.shown, closings text = 0) ∧
          ((∀ rest, Comment.behind? (remark.text.toList ++ rest) = some rest) ↔
            ∀ text ∈ remark.shown, closings text = 0) := by
  cases hdoc : Document.ofValue value with
  | error e =>
      left
      rw [ofValue, hdoc]
      cases e
      rfl
  | ok doc =>
      right
      refine ⟨doc, ofDocument qualifier doc, rfl, by rw [ofValue, hdoc]; rfl, ?_, ?_⟩
      · apply forall₂_declarations
        intro source name
        exact ⟨source.comment_eq_lines doc.operations, source.holds_bodyText qualifier⟩
      · intro source hsource remark hremark
        have hvalid := Document.valid_of_mem_sources hdoc hsource hremark
        rw [← Remark.closings_inner_eq_zero_iff hvalid]
        exact ⟨Comment.closesAtEnd_iff remark.head?_inner_ne, Comment.behind?_iff remark.head?_inner_ne⟩

/-- **A comment that closes early.**  The summary of an operation holds the two characters that end a comment, and what
follows them is read as code. -/
theorem comments_close_early :
    let value := Value.mapping
      [(.text "components", .mapping [(.text "schemas", .mapping [])]),
        (.text "paths", .mapping [(.text "/files", .mapping [(.text "get", .mapping
          [(.text "summary", .scalar (.text "Lists src/*/index")),
            (.text "parameters", .list
              [.mapping [(.text "name", .scalar (.text "limit")), (.text "in", .scalar (.text "query"))]])])])])]
    ∃ g d, ofValue "" value = .ok g ∧ d ∈ g.declarations ∧
      d.comment = "/** GET /files\n * Lists src/*/index\n * Query Parameters\n */" ++ "\n" ∧
      ¬ Comment.ClosesAtEnd "/** GET /files\n * Lists src/*/index\n * Query Parameters\n */" ∧
      Comment.behind? d.comment.toList = some "index\n * Query Parameters\n */\n".toList := by
  intro value
  refine ⟨_, ⟨"GetFilesQueryParams", .interface, "  limit?: any;",
    "/** GET /files\n * Lists src/*/index\n * Query Parameters\n */\n"⟩, rfl, ?_, rfl, ?_, ?_⟩
  · decide +kernel
  · intro hcloses
    have htwo : closings "/** GET /files\n * Lists src/*/index\n * Query Parameters\n */" = 2 := by decide +kernel
    have honce := hcloses.once
    omega
  · decide +kernel

end Generated

end ApiTypes
