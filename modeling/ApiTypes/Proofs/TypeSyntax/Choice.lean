/-
# Choices are read back

A choice of literals is read from its text, alternative by alternative.  Blanks, line feeds and bars mean nothing; a
comment is on the alternative behind it, and a literal is read as everywhere in types.  In front of a comment and behind it
the text is scanned in the modes of `TypeSyntax.advance`; a comment itself ends with the first `*/`, so that its text is
read back when it does not hold these two characters.

* `scanPieces_code`: what is scanned without comments is scanned in the same way with them.
* `scans_comment`: a comment is one piece.
* `readArms_enumBody`: the alternatives of a declared choice are read back with their comments.
* `readArms_union`: the alternatives of a choice inside a type are read back, and carry no comments.
-/
import ApiTypes.Declaration.Comment
import ApiTypes.Proofs.Text.Closing
import ApiTypes.Proofs.TypeSyntax.Token

namespace ApiTypes.TypeSyntax

open Comment (countClosings closings countClosings_append)

/-! ## Pieces -/

/-- A piece of a type that is written with comments. -/
inductive Piece
  | token (token : Token)
  | comment (text : String)

/-- Where the scan stands: in the code of the type, behind a slash, or in a comment with what was read of it. -/
inductive Place
  | code (mode : Mode)
  | slash
  | comment (read : List Char)

/-- The text of a comment `/** text */`, from what stands between its first star and its last one. -/
def docText? : List Char → Option String
  | '*' :: ' ' :: rest => if rest.getLast? = some ' ' then some (String.ofList rest.dropLast) else none
  | _ => none

/-- Tokens of the code, as pieces. -/
def inCode (next : List Token × Mode) : List Piece × Place :=
  (next.1.map .token, .code next.2)

/-- One character: the pieces that end with it or before it, and the place after it. -/
def advancePiece : Place → Char → Option (List Piece × Place)
  | .code .between, c => if c = '/' then some ([], .slash) else (advance .between c).map inCode
  | .code mode, c => (advance mode c).map inCode
  | .slash, c => if c = '*' then some ([], .comment []) else none
  | .comment read, c =>
    if c = '/' ∧ read.getLast? = some '*' then
      (docText? read.dropLast).map fun text => ([.comment text], .code .between)
    else some ([], .comment (read ++ [c]))

/-- The pieces of a text, and the place at its end. -/
def scanPieces : Place → List Char → Option (List Piece × Place)
  | place, [] => some ([], place)
  | place, c :: rest =>
    (advancePiece place c).bind fun next => (scanPieces next.2 rest).map fun after => (next.1 ++ after.1, after.2)

/-- The pieces of a text that was scanned to its end; a comment must be closed. -/
def completePieces (scanned : List Piece × Place) : Option (List Piece) :=
  match scanned.2 with
  | .code mode => (finish mode).map fun last => scanned.1 ++ last.map .token
  | _ => none

/-! ## Alternatives -/

/-- The alternatives in the pieces of a choice, the first of them with the comment that is pending.  A comment needs an
alternative behind it. -/
def armsOf : Option String → List Piece → Option (List Arm)
  | none, [] => some []
  | none, .comment text :: rest => armsOf (some text) rest
  | pending, .token .bar :: rest => armsOf pending rest
  | pending, .token (.literal value) :: rest => (armsOf none rest).map (⟨value, pending⟩ :: ·)
  | _, _ => none

/-- The alternatives of a choice of literals. -/
def readArms (text : String) : Option (List Arm) :=
  ((scanPieces (.code .between) text.toList).bind completePieces).bind (armsOf none)

/-! ## Cutting a text -/

theorem scanPieces_append (place : Place) (first second : List Char) :
    scanPieces place (first ++ second) =
      (scanPieces place first).bind fun read =>
        (scanPieces read.2 second).map fun after => (read.1 ++ after.1, after.2) :=
  scanner_append (fun _ => rfl) (fun _ _ _ => rfl) place first second

/-- A text is scanned into pieces and leaves nothing open. -/
def Scans (text : String) (pieces : List Piece) : Prop :=
  scanPieces (.code .between) text.toList = some (pieces, .code .between)

theorem Scans.append {first second : String} {pieces others : List Piece} (h : Scans first pieces)
    (h' : Scans second others) : Scans (first ++ second) (pieces ++ others) := by
  rw [Scans, String.toList_append, scanPieces_append, h, Option.bind_some, h', Option.map_some]

theorem scans_join {α : Type} {text : α → String} {pieces : α → List Piece} {xs : List α}
    (h : ∀ x ∈ xs, Scans (text x) (pieces x)) : Scans (String.join (xs.map text)) (xs.flatMap pieces) := by
  induction xs with
  | nil => rfl
  | cons x rest ih =>
      rw [List.map_cons, String.join_cons, List.flatMap_cons]
      exact (h x List.mem_cons_self).append (ih fun y hy => h y (List.mem_cons_of_mem _ hy))

/-- The alternatives in a text that leaves nothing open are those in its pieces. -/
theorem Scans.readArms {text : String} {pieces : List Piece} (h : Scans text pieces) :
    readArms text = armsOf none pieces := by
  have hcomplete : completePieces (pieces, .code .between) = some pieces := by simp [completePieces, finish]
  rw [TypeSyntax.readArms, h, Option.bind_some, hcomplete, Option.bind_some]

/-! ## Code and comments -/

/-- No character between tokens is a slash. -/
theorem advancePiece_code {mode : Mode} {c : Char} {next : List Token × Mode} (h : advance mode c = some next) :
    advancePiece (.code mode) c = some (inCode next) := by
  cases mode with
  | between =>
      have hslash : c ≠ '/' := by
        rintro rfl
        cases h
      rw [advancePiece, if_neg hslash, h, Option.map_some]
  | word read => rw [advancePiece, h, Option.map_some]; nofun
  | literal read => rw [advancePiece, h, Option.map_some]; nofun
  | escape read => rw [advancePiece, h, Option.map_some]; nofun

/-- **Code.**  What is scanned without comments is scanned in the same way with them. -/
theorem scanPieces_code {mode : Mode} {chars : List Char} {scanned : List Token × Mode}
    (h : scan mode chars = some scanned) : scanPieces (.code mode) chars = some (inCode scanned) := by
  induction chars generalizing mode scanned with
  | nil =>
      cases h
      rfl
  | cons c rest ih =>
      rw [scan] at h
      obtain ⟨next, hnext, hrest⟩ := Option.bind_eq_some_iff.mp h
      obtain ⟨after, hafter, rfl⟩ := Option.map_eq_some_iff.mp hrest
      rw [scanPieces, advancePiece_code hnext, Option.bind_some, inCode, ih hafter]
      simp [inCode]

theorem scans_of_scan {text : String} {read : List Token} (h : scan .between text.toList = some (read, .between)) :
    Scans text (read.map .token) :=
  scanPieces_code h

/-- A star and a slash behind it close a comment, wherever they stand. -/
theorem countClosings_ne_zero (before after : List Char) : countClosings (before ++ '*' :: '/' :: after) ≠ 0 := by
  induction before with
  | nil => simp [countClosings]
  | cons c rest ih =>
      rw [List.cons_append, countClosings]
      omega

/-- A comment goes on as long as it holds no closing pair. -/
theorem scanPieces_comment {read chars : List Char} (h : countClosings (read ++ chars) = 0) :
    scanPieces (.comment read) chars = some ([], .comment (read ++ chars)) := by
  induction chars generalizing read with
  | nil => rw [List.append_nil, scanPieces]
  | cons c rest ih =>
      have hopen : ¬ (c = '/' ∧ read.getLast? = some '*') := by
        rintro ⟨rfl, hlast⟩
        obtain ⟨before, rfl⟩ := List.getLast?_eq_some_iff.mp hlast
        rw [List.append_assoc] at h
        exact countClosings_ne_zero before rest h
      have hread : read ++ c :: rest = read ++ [c] ++ rest := by simp
      rw [hread] at h
      rw [scanPieces, advancePiece, if_neg hopen, Option.bind_some, ih h, hread]
      rfl

/-- What stands between the first star of a comment and its last one. -/
def docInner (text : String) : List Char :=
  '*' :: ' ' :: (text.toList ++ [' '])

theorem docText?_docInner (text : String) : docText? (docInner text) = some text := by
  simp [docText?, docInner]

/-- The blanks around the text keep it apart from the stars of the comment. -/
theorem countClosings_docInner {text : String} (h : closings text = 0) : countClosings (docInner text ++ ['*']) = 0 := by
  have htext : countClosings (text.toList ++ [' ', '*']) = 0 := by
    rw [countClosings_append (by simp)]
    exact Nat.add_eq_zero_iff.mpr ⟨h, rfl⟩
  simpa [docInner, countClosings] using htext

/-- **Comments.**  A comment whose text holds no closing pair is one piece. -/
theorem scans_comment {text : String} (h : closings text = 0) : Scans (" /** " ++ text ++ " */") [.comment text] := by
  have hchars : (" /** " ++ text ++ " */").toList = " /*".toList ++ (docInner text ++ ['*'] ++ ['/']) := by
    simp [docInner]
  have hopening : scanPieces (.code .between) " /*".toList = some ([], .comment []) := rfl
  have hinner : scanPieces (.comment []) (docInner text ++ ['*']) = some ([], .comment (docInner text ++ ['*'])) :=
    scanPieces_comment (countClosings_docInner h)
  -- the last star and the slash behind it are the first closing pair
  have hclose : scanPieces (.comment (docInner text ++ ['*'])) ['/'] = some ([.comment text], .code .between) := by
    rw [scanPieces, advancePiece, if_pos ⟨rfl, List.getLast?_concat⟩, List.dropLast_concat, docText?_docInner]
    rfl
  rw [Scans, hchars, scanPieces_append, hopening, Option.bind_some, scanPieces_append, hinner, Option.bind_some, hclose]
  rfl

theorem scans_literal (value : String) : Scans (TypeText.literal value) [.token (.literal value)] :=
  scans_of_scan (scan_literal value)

/-! ## Reading choices -/

/-- The comment on an alternative is shown and can be read: it is not empty and holds no closing pair. -/
def IsLegible (arm : Arm) : Prop :=
  ∀ text ∈ arm.comment, text ≠ "" ∧ closings text = 0

/-- The pieces that an alternative is written as. -/
def armPieces (arm : Arm) : List Piece :=
  arm.comment.toList.map .comment ++ [.token .bar, .token (.literal arm.value)]

theorem scans_armLine {arm : Arm} (h : IsLegible arm) : Scans arm.line (armPieces arm) := by
  have hbar : Scans "\n  | " [.token .bar] := rfl
  obtain ⟨value, comment⟩ := arm
  rw [Arm.line, armPieces]
  cases comment with
  | none => exact (Scans.append (rfl : Scans "" []) hbar).append (scans_literal value)
  | some text =>
      obtain ⟨hne, hclosings⟩ := h text rfl
      have hcomment := ((scans_comment hclosings).append hbar).append (scans_literal value)
      simpa [hne] using hcomment

/-- The alternatives in pieces are those that the pieces were written for. -/
theorem armsOf_flatMap (arms : List Arm) : armsOf none (arms.flatMap armPieces) = some arms := by
  induction arms with
  | nil => rfl
  | cons arm rest ih =>
      obtain ⟨value, comment⟩ := arm
      cases comment <;> simp [armPieces, armsOf, ih]

/-- **Declared choices.**  The alternatives are read back in order, each with the comment on it. -/
theorem readArms_enumBody {arms : List Arm} (h : ∀ arm ∈ arms, IsLegible arm) :
    readArms (Arm.enumBody arms) = some arms := by
  have hscans : Scans (Arm.enumBody arms) (arms.flatMap armPieces) := scans_join fun arm harm => scans_armLine (h arm harm)
  rw [hscans.readArms, armsOf_flatMap]

/-- A choice inside a type is written as its first literal, and a bar before each other one. -/
theorem scans_union (first : String) (rest : List String) :
    Scans (TypeText.union ((first :: rest).map TypeText.literal))
      (.token (.literal first) :: rest.flatMap fun value => armPieces ⟨value, none⟩) := by
  have hbar : Scans " | " [.token .bar] := rfl
  induction rest generalizing first with
  | nil => exact scans_literal first
  | cons next rest ih =>
      have hnext := ((scans_literal first).append hbar).append (ih next)
      rw [TypeText.union, List.map_cons, List.map_cons, String.intercalate_cons_cons, ← List.map_cons]
      exact hnext

/-- **Choices inside types.**  The alternatives are read back in order, without comments. -/
theorem readArms_union (values : List String) :
    readArms (TypeText.union (values.map TypeText.literal)) = some (values.map fun value => ⟨value, none⟩) := by
  cases values with
  | nil => rfl
  | cons first rest =>
      have harms := armsOf_flatMap (rest.map fun value => ⟨value, none⟩)
      rw [List.flatMap_map] at harms
      rw [(scans_union first rest).readArms, armsOf, harms, Option.map_some, List.map_cons]

end ApiTypes.TypeSyntax
