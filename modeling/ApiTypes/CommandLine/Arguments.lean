/-
# Arguments of the command line

How the words of a command line are understood.  Two words name the input and the output file; options may stand anywhere
before a word `--`.  A long option may be shortened as long as it is clear which one is meant, and its value may follow
an equals sign; a short option takes its value in the same word or in the next.

`Arguments.parse` gives the job, or says why there is none: help or the version was asked for, or the words are in error.
-/
import ApiTypes.Text.Lines
import ApiTypes.Text.Numeral
import ApiTypes.Text.Quoted

namespace ApiTypes.CommandLine

/-! ## Options -/

/-- What an option sets or asks for. -/
inductive Flag
  | help
  | qualifier
  | validate
  | verbose
  | version
  deriving DecidableEq

/-- The spellings of the options. -/
def spellings : List (List Char × Flag) :=
  [("-h".toList, .help), ("--help".toList, .help), ("-p".toList, .qualifier), ("--prefix".toList, .qualifier),
    ("--validate".toList, .validate), ("--verbose".toList, .verbose), ("--version".toList, .version)]

/-- The name of an option in messages. -/
def Flag.title : Flag → String
  | help => "-h/--help"
  | qualifier => "-p/--prefix"
  | validate => "--validate"
  | verbose => "--verbose"
  | version => "--version"

/-- Whether an option takes a value. -/
def Flag.takesValue : Flag → Bool
  | qualifier => true
  | _ => false

/-- What follows an option in its own word: its value, which may stand behind an equals sign. -/
structure Attached where
  afterEquals : Bool
  value : List Char

/-- A word that is an option: which one if it is known, whether it was written with one dash, and what is attached. -/
structure OptionWord where
  flag : Option Flag
  short : Bool
  attached : Option Attached

/-- What a word is: a name or value, the mark after which all words are such, or an option. -/
inductive WordKind
  | operand
  | separator
  | option (word : OptionWord)

/-- A word of the command line. -/
structure Word where
  text : List Char
  kind : WordKind

/-! ## Kinds of words -/

/-- The part of a text before its first equals sign, and what is attached behind it. -/
def splitEquals (s : List Char) : List Char × Option Attached :=
  match s.dropWhile (· ≠ '=') with
  | [] => (s, none)
  | _ :: value => (s.takeWhile (· ≠ '='), some ⟨true, value⟩)

/-- Whether a character is a decimal digit of any script. -/
def isDecimal (c : Char) : Bool :=
  (Text.decimalDigit? c).isSome

/-- Whether a text is a negative number; a line feed at its end does not count. -/
def isNegativeNumber (s : List Char) : Bool :=
  match Text.dropFinalLineFeed s with
  | '-' :: rest =>
    match rest.dropWhile isDecimal with
    | [] => !rest.isEmpty
    | '.' :: fraction => !fraction.isEmpty && fraction.all isDecimal
    | _ => false
  | _ => false

/-- Whether a text starts with two dashes. -/
def isLong : List Char → Bool
  | '-' :: '-' :: _ => true
  | _ => false

/-- The options that a word may mean, with the spelling in full and what is attached. -/
def candidates (s : List Char) : List (List Char × Flag × Option Attached) :=
  if isLong s then
    let (name, attached) := splitEquals s
    (spellings.filter fun spelling => name.isPrefixOf spelling.1).map fun spelling => (spelling.1, spelling.2, attached)
  else
    spellings.filterMap fun spelling =>
      if spelling.1 = s.take 2 then some (spelling.1, spelling.2, some ⟨false, s.drop 2⟩)
      else if s.isPrefixOf spelling.1 then some (spelling.1, spelling.2, none)
      else none

/-- An option that is known. -/
def known (spelling : List Char) (flag : Flag) (attached : Option Attached) : WordKind :=
  .option ⟨some flag, !isLong spelling, attached⟩

/-- The kind of a word that stands before the separator; a message if it may mean several options. -/
def classify (s : List Char) : Except String WordKind :=
  match s with
  | '-' :: _ :: _ =>
    match spellings.lookup s, spellings.lookup (splitEquals s).1 with
    | some flag, _ => .ok (known s flag none)
    | none, some flag => .ok (known (splitEquals s).1 flag (splitEquals s).2)
    | none, none =>
      match candidates s with
      | [(spelling, flag, attached)] => .ok (known spelling flag attached)
      | [] =>
        if isNegativeNumber s || s.contains ' ' then .ok .operand else .ok (.option ⟨none, !isLong s, none⟩)
      | several =>
        .error ("ambiguous option: " ++ String.ofList s ++ " could match "
          ++ ", ".intercalate (several.map fun candidate => String.ofList candidate.1))
  | _ => .ok .operand

/-- The kinds of all words; behind the separator all are operands. -/
def classifyAll : List String → Except String (List Word)
  | [] => .ok []
  | word :: rest =>
    if word = "--" then .ok (⟨word.toList, .separator⟩ :: rest.map fun w => ⟨w.toList, .operand⟩)
    else
      match classify word.toList, classifyAll rest with
      | .ok kind, .ok words => .ok (⟨word.toList, kind⟩ :: words)
      | .error message, _ => .error message
      | _, .error message => .error message

/-! ## Taking words -/

/-- What has been understood so far. -/
structure Settings where
  operands : List String
  qualifier : String
  validate : Bool
  verbose : Bool
  unknown : List String

/-- Nothing has been said yet. -/
def Settings.initial : Settings := ⟨[], "", false, false, []⟩

/-- Why there is no job: help or the version is asked for, or the words are in error. -/
inductive Stop
  | help
  | version
  | usage (message : String)
  deriving DecidableEq

/-- The number of files to be named. -/
def operandCount : Nat := 2

/-- Whether a word is the separator. -/
def Word.isSeparator (w : Word) : Bool := w.kind matches .separator

/-- Whether a word is an option. -/
def Word.isOption (w : Word) : Bool := w.kind matches .option _

/-- The next operand, and what is left behind it and the separator around it. -/
def takeOperand (words : List Word) : Option (List Char × List Word) :=
  match words.dropWhile Word.isSeparator with
  | w :: rest => if w.isOption then none else some (w.text, rest.dropWhile Word.isSeparator)
  | [] => none

/-- Takes as many operands as are still wanted and stand next. -/
def takeOperands (wanted : Nat) (words : List Word) : List String × List Word :=
  match wanted with
  | 0 => ([], words)
  | wanted + 1 =>
    match takeOperand words with
    | none => ([], words)
    | some (operand, rest) =>
      let (others, rest) := takeOperands wanted rest
      (String.ofList operand :: others, rest)

/-- Adds the operands that stand next to the settings. -/
def Settings.addOperands (s : Settings) (words : List Word) : Settings × List Word :=
  let (operands, rest) := takeOperands (operandCount - s.operands.length) words
  ({ s with operands := s.operands ++ operands }, rest)

/-- What the words of an option say: an option with its value, which is empty if it takes none, or something unknown. -/
inductive Saying
  | option (flag : Flag) (value : List Char)
  | unknown (word : List Char)

/-- Heeds what is said. -/
def Settings.heed (s : Settings) : Saying → Except Stop Settings
  | .option .help _ => .error .help
  | .option .version _ => .error .version
  | .option .validate _ => .ok { s with validate := true }
  | .option .verbose _ => .ok { s with verbose := true }
  | .option .qualifier value => .ok { s with qualifier := String.ofList value }
  | .unknown word => .ok { s with unknown := s.unknown ++ [String.ofList word] }

/-- The message about an option with a value that it does not take. -/
def ignoredValue (flag : Flag) (value : List Char) : String :=
  "argument " ++ flag.title ++ ": ignored explicit argument " ++ Text.quoted (String.ofList value)

/-- What is said, and the words that are left. -/
abbrev Taken := List Saying × List Word

/-- An option with nothing attached; one that takes a value has it in the next word. -/
def takeAlone (flag : Flag) (rest : List Word) : Except String Taken :=
  if flag.takesValue then
    match rest with
    | ⟨text, .operand⟩ :: rest => .ok ([.option flag text], rest)
    | _ => .error ("argument " ++ flag.title ++ ": expected one argument")
  else .ok ([.option flag []], rest)

/-- An option with characters attached: its value, or behind a short option without value the letters of further ones. -/
def takeAttached (flag : Flag) (short afterEquals : Bool) (rest : List Word) : List Char → Except String Taken
  | [] => if flag.takesValue then .ok ([.option flag []], rest) else .error (ignoredValue flag [])
  | c :: more =>
    if flag.takesValue then .ok ([.option flag (c :: more)], rest)
    else if !short || afterEquals || c = '-' then .error (ignoredValue flag (c :: more))
    else
      let further : Except String Taken :=
        match spellings.lookup ['-', c], more with
        | none, _ => .ok ([.unknown ('-' :: c :: more)], rest)
        | some next, [] => takeAlone next rest
        | some next, '=' :: value => takeAttached next true true rest value
        | some next, value => takeAttached next true false rest value
      further.map fun (sayings, rest) => (.option flag [] :: sayings, rest)

/-- What one option word says. -/
def takeOption (text : List Char) (word : OptionWord) (rest : List Word) : Except String Taken :=
  match word.flag, word.attached with
  | none, _ => .ok ([.unknown text], rest)
  | some flag, none => takeAlone flag rest
  | some flag, some attached => takeAttached flag word.short attached.afterEquals rest attached.value

/-- Takes the words one after the other: operands up to the next option, then that option. -/
def takeWords : Nat → Settings → List Word → Except Stop Settings
  | 0, s, _ => .ok s
  | fuel + 1, s, words =>
    match words with
    | ⟨text, .option word⟩ :: rest =>
      match takeOption text word rest with
      | .error message => .error (.usage message)
      | .ok (sayings, rest) =>
        match sayings.foldlM Settings.heed s with
        | .error stop => .error stop
        | .ok s => takeWords fuel s rest
    | _ =>
      let (taken, rest) := s.addOperands words
      if words.any Word.isOption then
        if rest.length < words.length then takeWords fuel taken rest
        else
          let skipped := (words.takeWhile fun w => !w.isOption).map fun w => String.ofList w.text
          takeWords fuel { s with unknown := s.unknown ++ skipped } (words.dropWhile fun w => !w.isOption)
      else .ok { taken with unknown := taken.unknown ++ rest.map fun w => String.ofList w.text }

/-- The names of the files to be named, in messages. -/
def operandNames : List String := ["input_file", "output_file"]

/-- What the words of a command line ask for. -/
structure Request where
  input : String
  output : String
  qualifier : String
  validate : Bool
  verbose : Bool

/-- Understands the words of a command line. -/
def parse (arguments : List String) : Except Stop Request :=
  match classifyAll arguments with
  | .error message => .error (.usage message)
  | .ok words =>
    match takeWords (2 * words.length + 1) .initial words with
    | .error stop => .error stop
    | .ok s =>
      match s.operands with
      | [input, output] =>
        if s.unknown.isEmpty then .ok ⟨input, output, s.qualifier, s.validate, s.verbose⟩
        else .error (.usage ("unrecognized arguments: " ++ " ".intercalate s.unknown))
      | operands =>
        .error (.usage ("the following arguments are required: "
          ++ ", ".intercalate (operandNames.drop operands.length)))

end ApiTypes.CommandLine
