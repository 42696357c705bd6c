/-
# Names, tags and directives

The tokens of YAML that are read character by character within one line, scalars apart.  Each reader takes the place where
its token starts and gives the token with the place after it.
-/
import ApiTypes.Json.Lexeme
import ApiTypes.Text.Utf8
import ApiTypes.Yaml.Cursor
import ApiTypes.Yaml.Error
import ApiTypes.Yaml.Token

namespace ApiTypes.Yaml

/-- A reader's answer when the text breaks a rule. -/
def refuse {α : Type} (fault : Fault) : Except Error α := .error (.malformed fault)

/-! ## Aliases and anchors -/

/-- Whether a character may follow the name of an anchor. -/
def endsAnchor (c : Char) : Bool :=
  isBlank c || "?:,]\x7d%@\x60".toList.contains c

/-- The name after the sign of an alias or an anchor. -/
def readAnchorName (c : Cursor) : Except Error (String × Cursor) :=
  let (name, after) := c.next.span isWordChar
  if name.isEmpty || !after.atEndOr endsAnchor then refuse .anchorName else .ok (String.ofList name, after)

/-! ## Tags -/

/-- Whether a character may stand in the text of a tag. -/
def isUriChar (c : Char) : Bool :=
  c.isAlphanum || "-;/?:@&=+$,_.!~*'()[]".toList.contains c

/-- Whether a tag or a directive may end here: at a space, at a line end or at the end of the text. -/
def endsWord (c : Char) : Bool :=
  c = ' ' || isBreak c

/-- The bytes of the escapes `%XX` that the text starts with, and what follows them. -/
def takeEscapes : List Char → Option (List UInt8 × List Char)
  | '%' :: a :: b :: rest =>
    match Json.hexNumber? [a, b], takeEscapes rest with
    | some n, some (bytes, rest) => some (UInt8.ofNat n :: bytes, rest)
    | _, _ => none
  | '%' :: _ => none
  | rest => some ([], rest)

/-- The text of a tag, with runs of escapes decoded, and what follows it. -/
def takeUri : Nat → List Char → Option (List Char × List Char)
  | 0, s => some ([], s)
  | fuel + 1, s =>
    match s with
    | [] => some ([], [])
    | c :: rest =>
      if c = '%' then
        match takeEscapes s with
        | none => none
        | some (bytes, rest) =>
          match Text.decodeUtf8 bytes, takeUri fuel rest with
          | .ok decoded, some (uri, rest) => some (decoded ++ uri, rest)
          | _, _ => none
      else if isUriChar c then (takeUri fuel rest).map fun (uri, rest) => (c :: uri, rest)
      else some ([], s)

/-- The text of a tag; it is not empty. -/
def readUri (fault : Fault) (c : Cursor) : Except Error (String × Cursor) :=
  match takeUri c.rest.length c.rest with
  | none => refuse fault
  | some (uri, rest) =>
    if rest.length = c.rest.length then refuse fault
    else .ok (String.ofList uri, c.forward (c.rest.length - rest.length))

/-- A handle: an exclamation mark alone before a space, or a word between two of them. -/
def readHandle (fault : Fault) (c : Cursor) : Except Error (String × Cursor) :=
  match c.rest with
  | '!' :: _ =>
    let (word, after) := c.next.span isWordChar
    if after.nextIs (· = '!') then .ok (String.ofList ('!' :: word ++ ['!']), after.next)
    else if word.isEmpty && after.nextIs (· = ' ') then .ok ("!", after)
    else refuse fault
  | _ => refuse fault

/-- Whether a second exclamation mark follows before the next space or line end. -/
def hasHandle (c : Cursor) : Bool :=
  (c.next.rest.takeWhile fun ch => !endsWord ch).contains '!'

/-- A tag: a text in angle brackets, a lone exclamation mark, or a handle with a text. -/
def readTag (c : Cursor) : Except Error (Token × Cursor) := do
  let first := c.next
  let (handle, suffix, after) ←
    if first.nextIs (· = '<') then do
      let (uri, after) ← readUri .tagText first.next
      if after.nextIs (· = '>') then pure (none, uri, after.next) else refuse .tagText
    else if first.atEndOr isBlank then pure (none, "!", first)
    else if hasHandle c then do
      let (handle, after) ← readHandle .tagText c
      let (uri, after) ← readUri .tagText after
      pure (some handle, uri, after)
    else do
      let (uri, after) ← readUri .tagText first
      pure (some "!", uri, after)
  if after.atEndOr endsWord then pure (.tag handle suffix, after) else refuse .tagText

/-! ## Directives -/

/-- A number of a version. -/
def readVersionNumber (c : Cursor) : Except Error (Nat × Cursor) :=
  let (digits, after) := c.span Char.isDigit
  if digits.isEmpty then refuse .directive
  else if Text.digitLimit < digits.length then .error (.datum (.digits digits.length))
  else .ok (Json.ofDigits digits, after)

/-- The version after the word `YAML`. -/
def readVersion (c : Cursor) : Except Error (Directive × Cursor) := do
  let (major, after) ← readVersionNumber c.skipSpaces
  if !after.nextIs (· = '.') then refuse .directive
  else
    let (minor, after) ← readVersionNumber after.next
    if after.atEndOr endsWord then pure (.version major minor, after) else refuse .directive

/-- The handle and the text it stands for after the word `TAG`. -/
def readHandleDirective (c : Cursor) : Except Error (Directive × Cursor) := do
  let (handle, after) ← readHandle .directive c.skipSpaces
  if !after.nextIs (· = ' ') then refuse .directive
  else
    let (uri, after) ← readUri .directive after.skipSpaces
    if after.atEndOr endsWord then pure (.handle handle uri, after) else refuse .directive

/-- What follows the rest of a line that may only hold a comment. -/
def finishLine (fault : Fault) (c : Cursor) : Except Error Cursor :=
  let after := c.skipSpaces.skipComment
  match after.lineBreak? with
  | some (_, next) => .ok next
  | none => if after.rest.isEmpty then .ok after else refuse fault

/-- A directive, up to the end of its line. -/
def readDirective (c : Cursor) : Except Error (Token × Cursor) := do
  let (name, after) := c.next.span isWordChar
  if name.isEmpty || !after.atEndOr endsWord then refuse .directive
  else
    let (content, after) ←
      if name = "YAML".toList then readVersion after
      else if name = "TAG".toList then readHandleDirective after
      else pure (.other, after.skip fun ch => !isBreak ch)
    let after ← finishLine .directive after
    pure (.directive content, after)

end ApiTypes.Yaml
