/-
# From text to tokens

The layout of YAML text: where collections open and close by indentation, and which scalars are keys.

A scalar is found to be a key only when the colon after it is reached.  So each place where a key may have started is
noted (`KeyStart`), one for each level of brackets; when the colon comes, the token for the key is put in front of the
tokens read since.  A key must be on one line with its colon and at most 1024 characters before it.

The margin of a collection is the least column at which its content may continue: one more than the column where it
starts, and zero outside all collections.

The tokens are handed over one after the other, and a token behind which a key may have started only when that is settled.
So a fault in the text is met by whoever asks for one token too many, and not before.
-/
import ApiTypes.Yaml.Scalar.Block
import ApiTypes.Yaml.Scalar.Plain

namespace ApiTypes.Yaml

/-- A place where a key may have started: the number of tokens before it, whether it has to be one, and where it is. -/
structure KeyStart where
  tokens : Nat
  required : Bool
  place : Cursor

/-- What has been read of a text: the place, the tokens in reverse and their number, the margins of the open collections,
whether a key may start here, and the places where one may have started, by the level of brackets. -/
structure Layout where
  place : Cursor
  tokens : List Token
  count : Nat
  level : Nat
  margin : Nat
  margins : List Nat
  keyAllowed : Bool
  keys : List (Nat × KeyStart)

namespace Layout

/-- Nothing has been read yet. -/
def start (s : List Char) : Layout :=
  { place := Cursor.start s, tokens := [], count := 0, level := 0, margin := 0, margins := [], keyAllowed := true, keys := [] }

/-- Whether the place is inside brackets. -/
def inFlow (l : Layout) : Bool := l.level ≠ 0

/-! ## Tokens -/

/-- Adds a token. -/
def emit (l : Layout) (t : Token) : Layout :=
  { l with tokens := t :: l.tokens, count := l.count + 1 }

/-- Puts a token behind the first `before` ones. -/
def emitAt (l : Layout) (before : Nat) (t : Token) : Layout :=
  let later := l.count - before
  { l with tokens := l.tokens.take later ++ t :: l.tokens.drop later, count := l.count + 1 }

/-- Adds a token and moves to the place after it. -/
def emitTo (l : Layout) (t : Token) (after : Cursor) : Layout :=
  { l.emit t with place := after }

/-! ## Margins -/

/-- Closes the collections whose margin is beyond the given one, the margins around them being listed. -/
def closeTo (target : Nat) : List Nat → Layout → Layout
  | [], l => l
  | outer :: margins, l =>
    if target < l.margin then closeTo target margins { l.emit .blockEnd with margin := outer, margins := margins } else l

/-- Closes the collections that do not reach to the given margin; inside brackets none is. -/
def unwind (l : Layout) (target : Nat) : Layout :=
  if l.inFlow then l else closeTo target l.margins l

/-- Whether a collection starting at a column would be a new one. -/
def opensAt (l : Layout) (column : Nat) : Bool := l.margin ≤ column

/-- Opens a collection at a column. -/
def openAt (l : Layout) (column : Nat) : Layout :=
  { l with margin := column + 1, margins := l.margin :: l.margins }

/-! ## Keys -/

/-- Forgets the place where a key may have started on this level; a required key must not be forgotten. -/
def dropKey (l : Layout) : Except Error Layout :=
  match l.keys.lookup l.level with
  | none => .ok l
  | some key =>
    if key.required then refuse .keyWithoutColon
    else .ok { l with keys := l.keys.filter fun entry => entry.1 ≠ l.level }

/-- Whether a key that started there can no longer end here. -/
def isStale (l : Layout) (key : KeyStart) : Bool :=
  key.place.line ≠ l.place.line || 1024 < l.place.index - key.place.index

/-- Forgets all places where a key can no longer have started. -/
def dropStaleKeys (l : Layout) : Except Error Layout :=
  if l.keys.any fun entry => l.isStale entry.2 && entry.2.required then refuse .keyWithoutColon
  else .ok { l with keys := l.keys.filter fun entry => !l.isStale entry.2 }

/-- Notes that a key may start here, if one may. -/
def noteKey (l : Layout) : Except Error Layout :=
  if l.keyAllowed then do
    let l ← l.dropKey
    let required := !l.inFlow && l.margin = l.place.column + 1
    pure { l with keys := (l.level, ⟨l.count, required, l.place⟩) :: l.keys }
  else pure l

/-! ## Steps -/

/-- Skips blanks, comments and line ends before the next token. -/
def skipToToken : Nat → Layout → Layout
  | 0, l => l
  | fuel + 1, l =>
    let after := l.place.skipSpaces.skipComment
    match after.lineBreak? with
    | none => { l with place := after }
    | some (_, next) => skipToToken fuel { l with place := next, keyAllowed := l.keyAllowed || !l.inFlow }

/-- Ends all collections at a mark or at the end of the text. -/
def endAll (l : Layout) : Except Error Layout := do
  let l ← (l.unwind 0).dropKey
  pure { l with keyAllowed := false }

/-- A scalar, an alias or the properties of a node: a key may start with it. -/
def nodePart (l : Layout) (read : Cursor → Except Error (Token × Cursor)) : Except Error Layout := do
  let l ← l.noteKey
  let (token, after) ← read l.place
  pure { l.emitTo token after with keyAllowed := false }

/-- An alias or an anchor. -/
def named (l : Layout) (token : String → Token) : Except Error Layout :=
  l.nodePart fun c => (readAnchorName c).map fun (name, after) => (token name, after)

/-- A scalar without quotes. -/
def plain (l : Layout) : Except Error Layout := do
  let l ← l.noteKey
  let scalar := readPlainScalar l.inFlow l.margin l.place
  pure { l.emitTo (.scalar (String.ofList scalar.text) true) scalar.after with keyAllowed := scalar.lineEnded }

/-- A scalar in a block. -/
def block (l : Layout) (folded : Bool) : Except Error Layout := do
  let l ← l.dropKey
  let (token, after) ← readBlockScalar folded l.margin l.place
  pure { l.emitTo token after with keyAllowed := true }

/-- An opening bracket. -/
def openBracket (l : Layout) (token : Token) : Except Error Layout := do
  let l ← l.noteKey
  pure { l.emitTo token l.place.next with level := l.level + 1, keyAllowed := true }

/-- A closing bracket. -/
def closeBracket (l : Layout) (token : Token) : Except Error Layout := do
  let l ← l.dropKey
  if l.inFlow then pure { l.emitTo token l.place.next with level := l.level - 1, keyAllowed := false }
  else refuse .unexpectedToken

/-- A comma. -/
def comma (l : Layout) : Except Error Layout := do
  let l ← l.dropKey
  pure { l.emitTo .flowEntry l.place.next with keyAllowed := true }

/-- Opens a collection for an indicator that stands outside brackets, if it starts one; it must be where a key may be. -/
def openFor (l : Layout) (token : Token) : Except Error Layout :=
  if l.inFlow then .ok l
  else if !l.keyAllowed then refuse .misplacedIndicator
  else if l.opensAt l.place.column then .ok ((l.openAt l.place.column).emit token)
  else .ok l

/-- The dash of an item. -/
def dash (l : Layout) : Except Error Layout := do
  let l ← (← l.openFor .blockSequenceStart).dropKey
  pure { l.emitTo .blockEntry l.place.next with keyAllowed := true }

/-- The question mark of a key. -/
def questionMark (l : Layout) : Except Error Layout := do
  let l ← (← l.openFor .blockMappingStart).dropKey
  pure { l.emitTo .key l.place.next with keyAllowed := !l.inFlow }

/-- The colon of a value: it makes a key of what may have been one. -/
def colon (l : Layout) : Except Error Layout :=
  match l.keys.lookup l.level with
  | some key =>
    let l := { l with keys := l.keys.filter fun entry => entry.1 ≠ l.level }.emitAt key.tokens .key
    let l :=
      if !l.inFlow && l.opensAt key.place.column then
        (l.openAt key.place.column).emitAt key.tokens .blockMappingStart
      else l
    .ok { l.emitTo .value l.place.next with keyAllowed := false }
  | none => do
    let l ← (← l.openFor .blockMappingStart).dropKey
    pure { l.emitTo .value l.place.next with keyAllowed := !l.inFlow }

/-- A mark at the start or the end of a document. -/
def documentMark (l : Layout) (token : Token) : Except Error Layout := do
  let l ← l.endAll
  pure (l.emitTo token (l.place.forward 3))

/-- A directive. -/
def directive (l : Layout) : Except Error Layout := do
  let l ← l.endAll
  let (token, after) ← readDirective l.place
  pure (l.emitTo token after)

/-- Whether a scalar without quotes may start with the given characters. -/
def startsPlain (flow : Bool) (ch : Char) (after : Cursor) : Bool :=
  !(isBlank ch || "-?:,[]\x7b\x7d#&*!|>'\x22%@\x60".toList.contains ch)
    || (!after.atEndOr isBlank && (ch = '-' || (!flow && (ch = '?' || ch = ':'))))

/-- Reads the token that starts with the given character. -/
def token (l : Layout) (ch : Char) : Except Error Layout :=
  let flow := l.inFlow
  let lineStart := l.place.column = 0
  let apart := l.place.next.atEndOr isBlank
  if ch = '%' ∧ lineStart then l.directive
  else if lineStart ∧ l.place.standsAlone ['-', '-', '-'] then l.documentMark .documentStart
  else if lineStart ∧ l.place.standsAlone ['.', '.', '.'] then l.documentMark .documentEnd
  else if ch = '[' then l.openBracket .flowSequenceStart
  else if ch = '{' then l.openBracket .flowMappingStart
  else if ch = ']' then l.closeBracket .flowSequenceEnd
  else if ch = '}' then l.closeBracket .flowMappingEnd
  else if ch = ',' then l.comma
  else if ch = '-' ∧ apart then l.dash
  else if ch = '?' ∧ (flow ∨ apart) then l.questionMark
  else if ch = ':' ∧ (flow ∨ apart) then l.colon
  else if ch = '*' then l.named .alias
  else if ch = '&' then l.named .anchor
  else if ch = '!' then l.nodePart readTag
  else if ch = '|' ∧ !flow then l.block false
  else if ch = '>' ∧ !flow then l.block true
  else if ch = '\x27' then l.nodePart (readQuotedScalar false)
  else if ch = '\x22' then l.nodePart (readQuotedScalar true)
  else if startsPlain flow ch l.place.next then l.plain
  else refuse .strayCharacter

/-- Reads on behind the next token; where there is none, all collections end, and the answer says so. -/
def advance (l : Layout) : Except Error (Bool × Layout) := do
  let l ← (skipToToken (l.place.rest.length + 1) l).dropStaleKeys
  let l := l.unwind (l.place.column + 1)
  match l.place.peek? with
  | none => (l.endAll).map fun l => (true, l)
  | some ch => (l.token ch).map fun l => (false, l)

/-! ## Handing over -/

/-- The number of tokens that are settled: those in front of all places where a key may have started. -/
def settledCount (l : Layout) : Nat :=
  l.keys.foldl (fun least entry => if l.isStale entry.2 then least else min least entry.2.tokens) l.count

/-- The tokens that are settled, in order. -/
def settled (l : Layout) : List Token :=
  l.tokens.reverse.take l.settledCount

end Layout

/-- What a text is cut into: its tokens, and the fault behind them if the text breaks off there. -/
structure Scan where
  tokens : List Token
  fault : Option Error

/-- Reads the tokens that are left; a fault leaves those that were settled before it. -/
def Layout.run : Nat → Layout → Scan
  | 0, l => ⟨l.tokens.reverse, none⟩
  | fuel + 1, l =>
    match l.advance with
    | .error e => ⟨l.settled, some e⟩
    | .ok (true, l) => ⟨l.tokens.reverse, none⟩
    | .ok (false, l) => l.run fuel

/-- Whether a character may stand in a text. -/
def isAllowed (c : Char) : Bool :=
  let n := c.toNat
  n = 0x09 || n = 0x0A || n = 0x0D || (0x20 ≤ n && n ≤ 0x7E) || n = 0x85 || (0xA0 ≤ n && n ≤ 0xFFFD) || 0x10000 ≤ n

/-- The tokens of a text.  A byte order mark at its start is passed over. -/
def scan (s : List Char) : Scan :=
  if !s.all isAllowed then ⟨[], some (.malformed .unprintable)⟩
  else
    let l := Layout.start s
    let l := if l.place.nextIs (· = '\uFEFF') then { l with place := l.place.next } else l
    l.run (s.length + 1)

end ApiTypes.Yaml
