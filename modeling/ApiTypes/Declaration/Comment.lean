/-
# Comments

The comments of the produced module: one line before a field or a declaration, a block that lists lines, and the block in
front of the declarations of an operation.  An absent or empty text makes no comment at all.

The bodies of interfaces and of choices of literals carry comments inside and are written here as well.
-/
import ApiTypes.Declaration.Basic
import ApiTypes.Text.UpperCase

namespace ApiTypes

namespace Comment

/-- A comment on one line, or nothing when there is no text. -/
def line (indent : String) : Option String → String
  | none => ""
  | some text => if text = "" then "" else indent ++ "/** " ++ text ++ " */\n"

/-- A block with one line for each text, or nothing when there are no lines. -/
def block (lines : List String) : String :=
  if lines.isEmpty then ""
  else "/**\n" ++ "\n".intercalate (lines.map fun text => " * " ++ text) ++ "\n */\n"

/-- The block in front of a declaration made for an operation: method and path, the summary if there is one, and what
the declaration stands for. -/
def operation (method path : String) (summary : Option String) (content : String) : String :=
  let title := Text.upper method ++ " " ++ path
  let summaryLines := match summary with
    | none => []
    | some text => if text = "" then [] else [text]
  "/** " ++ "\n * ".intercalate (title :: summaryLines ++ [content]) ++ "\n */\n"

/-- The block that lists where a schema is used. -/
def usage (endpoints : List String) : String :=
  if endpoints.isEmpty then "" else block ("Used in:" :: endpoints)

end Comment

/-! ## Bodies with comments -/

/-- A field of an interface on a line of its own, after the comment on it. -/
def Member.line (m : Member) : String :=
  Comment.line "  " m.description ++ "  " ++ m.signature ++ ";"

/-- The body of an interface. -/
def Member.interfaceBody (members : List Member) : String :=
  "\n".intercalate (members.map Member.line)

/-- A literal of a choice on a line of its own; the comment on it ends the line before. -/
def Arm.line (arm : Arm) : String :=
  (match arm.comment with
    | none => ""
    | some text => if text = "" then "" else " /** " ++ text ++ " */")
    ++ "\n  | " ++ TypeText.literal arm.value

/-- The body of a choice of literals. -/
def Arm.enumBody (arms : List Arm) : String :=
  String.join (arms.map Arm.line)

end ApiTypes
