/-
# Scalars in quotes

Text in single or in double quotes.  Line ends are folded: one alone becomes a space, further ones stay, and blanks around
them are dropped.  In single quotes a doubled quote stands for one; in double quotes a backslash starts an escape, and at
the end of a line it joins the lines.
-/
import ApiTypes.Yaml.Lexeme

namespace ApiTypes.Yaml

/-! ## Escapes -/

/-- The characters of the one-letter escapes. -/
def escapes : List (Char × Char) :=
  [('0', '\x00'), ('a', '\x07'), ('b', '\x08'), ('t', '\t'), ('\t', '\t'), ('n', '\n'), ('v', '\x0b'), ('f', '\x0c'),
    ('r', '\r'), ('e', '\x1b'), (' ', ' '), ('\x22', '\x22'), ('\\', '\\'), ('/', '/'), ('N', '\x85'), ('_', '\xa0'),
    ('L', '\u2028'), ('P', '\u2029')]

/-- The number of hexadecimal digits after the letter of a code escape. -/
def codeLength? (c : Char) : Option Nat :=
  if c = 'x' then some 2 else if c = 'u' then some 4 else if c = 'U' then some 8 else none

/-- The character of a code.  Codes are not put together, so that half of a pair has none. -/
def charOfCode (code : Nat) : Except Error Char :=
  if 0x80000000 ≤ code then .error (.datum .hugeCode)
  else if 0x110000 ≤ code then .error (.datum .code)
  else
    match Json.charOfCode? code with
    | some c => .ok c
    | none => .error (.unsupported .halfPair)

/-- The character of the code escape of the given length. -/
def readCode (length : Nat) (c : Cursor) : Except Error (Char × Cursor) :=
  let digits := c.rest.take length
  if digits.length < length then refuse .escape
  else
    match Json.hexNumber? digits with
    | none => refuse .escape
    | some code => (charOfCode code).map fun ch => (ch, c.forward length)

/-! ## Line ends -/

/-- Skips the blank lines inside quotes and collects their line ends; a document must not end there. -/
def quotedBreaks : Nat → Cursor → Except Error (List Char × Cursor)
  | 0, c => .ok ([], c)
  | fuel + 1, c =>
    if c.atDocumentMark then refuse .openQuotes
    else
      let after := c.skip isWhite
      match after.lineBreak? with
      | none => .ok ([], after)
      | some (ch, next) => (quotedBreaks fuel next).map fun (breaks, after) => (ch :: breaks, after)

/-- What a run of line ends is folded to: the first is a space if it is alone and is dropped if others follow. -/
def foldBreaks (first : Char) (others : List Char) : List Char :=
  if first ≠ '\n' then first :: others else if others.isEmpty then [' '] else others

/-! ## Content -/

/-- Reads the content of quotes up to the closing one; `done` holds the characters so far in reverse. -/
def readQuoted (double : Bool) : Nat → List Char → Cursor → Except Error (List Char × Cursor)
  | 0, _, _ => refuse .openQuotes
  | fuel + 1, done, c =>
    match c.rest with
    | [] => refuse .openQuotes
    | ch :: rest =>
      if isWhite ch then
        let (whites, after) := c.span isWhite
        if after.atEndOr isBreak then
          match after.lineBreak? with
          | none => refuse .openQuotes
          | some (first, next) => do
            let (others, after) ← quotedBreaks next.rest.length next
            readQuoted double fuel ((foldBreaks first others).reverse ++ done) after
        else readQuoted double fuel (whites.reverse ++ done) after
      else
        match c.lineBreak? with
        | some (first, next) => do
          let (others, after) ← quotedBreaks next.rest.length next
          readQuoted double fuel ((foldBreaks first others).reverse ++ done) after
        | none =>
          if double then
            if ch = '\x22' then .ok (done.reverse, c.next)
            else if ch = '\\' then
              match rest with
              | [] => refuse .escape
              | letter :: _ =>
                match escapes.lookup letter, codeLength? letter with
                | some plain, _ => readQuoted double fuel (plain :: done) c.next.next
                | none, some length => do
                  let (plain, after) ← readCode length c.next.next
                  readQuoted double fuel (plain :: done) after
                | none, none =>
                  match c.next.lineBreak? with
                  | none => refuse .escape
                  | some (_, next) => do
                    let (others, after) ← quotedBreaks next.rest.length next
                    readQuoted double fuel (others.reverse ++ done) after
            else readQuoted double fuel (ch :: done) c.next
          else if ch = '\x27' then
            if c.next.nextIs (· = '\x27') then readQuoted double fuel (ch :: done) c.next.next
            else .ok (done.reverse, c.next)
          else readQuoted double fuel (ch :: done) c.next

/-- A scalar in quotes. -/
def readQuotedScalar (double : Bool) (c : Cursor) : Except Error (Token × Cursor) :=
  (readQuoted double c.rest.length [] c.next).map fun (text, after) => (.scalar (String.ofList text) false, after)

end ApiTypes.Yaml
