/-
# Reading JSON

`Json.read` reads a text as one value with blanks around it.  Members of an object keep their order; a name that is
written again keeps its first place and gets its last value.

Three things are left out.  Half of a pair of codes stops the reader where it stands, whatever follows.  Texts may be of any
size and nested to any depth: that memory or the stack of calls come to an end is not described.  And the text is taken as a
whole, so that bytes that are no text count before anything else.

The readers take what is left of the text.  Their first argument bounds the depth of calls; every three calls take at
least one character, so that three times the length of the text is never used up.
-/
import ApiTypes.Json.Lexeme

namespace ApiTypes.Json

mutual

/-- Reads the value that the text starts with. -/
def readValue : Nat → List Char → Except Fault (Value × List Char)
  | 0, s => .error ⟨.expectingValue, s.length⟩
  | fuel + 1, s =>
    match s with
    | '\x22' :: rest => (readText s.length [] rest).map fun (text, rest) => (.scalar (.text text), rest)
    | '{' :: rest => readObject fuel (skipBlanks rest)
    | '[' :: rest => readArray fuel (skipBlanks rest)
    | _ =>
      match readWord? s with
      | some (datum, rest) => .ok (.scalar datum, rest)
      | none =>
        match readNumber? s with
        | some (datum, rest) =>
          if datum.isLong then .error ⟨.longNumber datum.digitCount, s.length⟩ else .ok (.scalar datum, rest)
        | none => .error ⟨.expectingValue, s.length⟩

/-- Reads an array after its opening bracket. -/
def readArray : Nat → List Char → Except Fault (Value × List Char)
  | 0, s => .error ⟨.expectingValue, s.length⟩
  | fuel + 1, s =>
    match s with
    | ']' :: rest => .ok (.list [], rest)
    | _ => readItems fuel [] s

/-- Reads the items of an array from the next one on; `done` holds the items so far in reverse. -/
def readItems : Nat → List Value → List Char → Except Fault (Value × List Char)
  | 0, _, s => .error ⟨.expectingValue, s.length⟩
  | fuel + 1, done, s =>
    match readValue fuel s with
    | .error fault => .error fault
    | .ok (item, rest) =>
      match skipBlanks rest with
      | ']' :: rest => .ok (.list (item :: done).reverse, rest)
      | ',' :: rest => readItems fuel (item :: done) (skipBlanks rest)
      | rest => .error ⟨.expectingComma, rest.length⟩

/-- Reads an object after its opening brace. -/
def readObject : Nat → List Char → Except Fault (Value × List Char)
  | 0, s => .error ⟨.expectingName, s.length⟩
  | fuel + 1, s =>
    match s with
    | '}' :: rest => .ok (.mapping [], rest)
    | _ => readMembers fuel [] s

/-- Reads the members of an object from the next one on; `done` holds the members so far. -/
def readMembers : Nat → Entries → List Char → Except Fault (Value × List Char)
  | 0, _, s => .error ⟨.expectingName, s.length⟩
  | fuel + 1, done, s =>
    match s with
    | '\x22' :: rest =>
      match readText s.length [] rest with
      | .error fault => .error fault
      | .ok (name, rest) =>
        match skipBlanks rest with
        | ':' :: rest =>
          match readValue fuel (skipBlanks rest) with
          | .error fault => .error fault
          | .ok (value, rest) =>
            let done := Value.put (.text name) value done
            match skipBlanks rest with
            | '}' :: rest => .ok (.mapping done, rest)
            | ',' :: rest => readMembers fuel done (skipBlanks rest)
            | rest => .error ⟨.expectingComma, rest.length⟩
        | rest => .error ⟨.expectingColon, rest.length⟩
    | _ => .error ⟨.expectingName, s.length⟩

end

/-- Reads the one value of a text. -/
def readAll (s : List Char) : Except Fault Value :=
  match s with
  | '\uFEFF' :: _ => .error ⟨.byteOrderMark, s.length⟩
  | _ =>
    match readValue (3 * s.length + 3) (skipBlanks s) with
    | .error fault => .error fault
    | .ok (value, rest) =>
      match skipBlanks rest with
      | [] => .ok value
      | rest => .error ⟨.extraData, rest.length⟩

/-- The value of a JSON text. -/
def read (s : List Char) : Except Error Value :=
  match readAll s with
  | .ok value => .ok value
  | .error fault => .error (fault.locate s)

end ApiTypes.Json
