import OperatorSource.Yaml.Scalar

/-!
# Writing documents

Texts are written so that they read back as the same texts. The style of a text follows from what it
holds. One with a line feed becomes a literal block, if blocks can show it. One that would read as
another type is quoted. All others are plain where possible, else between single quotes, and between
double quotes, where everything can be escaped, if nothing else is possible. Long lines are not
folded. Blocks and broken lines are indented by two columns.
-/

namespace OperatorSource.Yaml.Writing

inductive Style where
  | plain
  | single
  | double
  | literal
  deriving DecidableEq

/-- A character that ends a line for a reader. -/
def endsLine (character : Char) : Bool :=
  character == '\n' || character == '\r' || character == '\u0085' || character == '\u2028' ||
    character == '\u2029'

/-- A character that may be written as it is. -/
def isPrintable (character : Char) : Bool :=
  let code := character.toNat
  code == 0xA || (0x20 ≤ code && code ≤ 0x7E) || (0xA0 ≤ code && code ≤ 0xD7FF) ||
    (0xE000 ≤ code && code ≤ 0xFFFD && code ≠ 0xFEFF) || 0x10000 ≤ code

/-- A character that separates words, or the end of the text. -/
def isSeparator : Option Char → Bool
  | none => true
  | some character => character == ' ' || character == '\t' || endsLine character

/-- Whether a text is taken for an indicator at its beginning. -/
def beginsAsIndicator (text : List Char) : Bool :=
  match text with
  | '-' :: '-' :: '-' :: _ | '.' :: '.' :: '.' :: _ => true
  | first :: rest =>
    "#,[]\x7b\x7d&*!|>'\"%@`".contains first ||
      ((first == '?' || first == ':' || first == '-') && isSeparator rest.head?)
  | [] => false

/-- Whether a text holds an indicator behind its beginning: a colon before a separator, or a number
sign behind one. -/
def holdsIndicator : List Char → Bool
  | first :: second :: rest =>
    (second == ':' && isSeparator rest.head?) || (second == '#' && isSeparator (some first)) ||
      holdsIndicator (second :: rest)
  | _ => false

/-- Whether somewhere in a text a character with one property is followed by one with another. -/
def holdsPair (before after : Char → Bool) : List Char → Bool
  | first :: second :: rest =>
    (before first && after second) || holdsPair before after (second :: rest)
  | _ => false

/-- What a text holds that some styles cannot show. -/
structure Features where
  indicators : Bool
  unprintable : Bool
  lineEnds : Bool
  /-- A space, or the end of a line, at the beginning or at the end. -/
  blankEdges : Bool
  spaceAtEnd : Bool
  /-- A space right behind the end of a line. -/
  spaceAfterLine : Bool
  /-- A space right before the end of a line. -/
  spaceBeforeLine : Bool

def features (text : List Char) : Features :=
  let isSpace (character : Char) : Bool := character == ' '
  let isEdge (character : Char) : Bool := isSpace character || endsLine character
  { indicators := beginsAsIndicator text || holdsIndicator text
    unprintable := text.any (fun character => !isPrintable character)
    lineEnds := text.any endsLine
    blankEdges := text.head?.any isEdge || text.getLast?.any isEdge
    spaceAtEnd := text.getLast?.any isSpace
    spaceAfterLine := holdsPair endsLine isSpace text
    spaceBeforeLine := holdsPair isSpace endsLine text }

namespace Features

def allowsSingle (found : Features) : Bool :=
  !found.spaceAfterLine && !found.spaceBeforeLine && !found.unprintable

def allowsPlain (found : Features) : Bool :=
  found.allowsSingle && !found.blankEdges && !found.lineEnds && !found.indicators

def allowsBlock (found : Features) : Bool :=
  !found.spaceAtEnd && !found.spaceBeforeLine && !found.unprintable

end Features

/-- Whether a plain text would read back as something else. -/
def needsQuotes (text : String) : Bool :=
  match Scalar.ofPlain text with
  | .text _ => Scalar.hasLeadingZero text.toList
  | _ => true

def styleOf (text : String) : Style :=
  let found := features text.toList
  if text.contains '\n' then if found.allowsBlock then .literal else .double
  else if !needsQuotes text && found.allowsPlain then .plain
  else if found.allowsSingle then .single
  else .double

/-- So many upper-case hexadecimal digits of a number. -/
def upperHex (width number : Nat) : String :=
  let digits := (Nat.toDigits 16 number).map Char.toUpper
  String.ofList (List.replicate (width - digits.length) '0' ++ digits)

/-- A character behind a backslash. -/
def escape (character : Char) : String :=
  let code := character.toNat
  if code = 0 then "\\0"
  else if code = 0x7 then "\\a"
  else if code = 0x8 then "\\b"
  else if code = 0x9 then "\\t"
  else if code = 0xA then "\\n"
  else if code = 0xB then "\\v"
  else if code = 0xC then "\\f"
  else if code = 0xD then "\\r"
  else if code = 0x1B then "\\e"
  else if code = 0x22 then "\\\""
  else if code = 0x5C then "\\\\"
  else if code = 0x85 then "\\N"
  else if code = 0xA0 then "\\_"
  else if code = 0x2028 then "\\L"
  else if code = 0x2029 then "\\P"
  else if code ≤ 0xFF then "\\x" ++ upperHex 2 code
  else if code ≤ 0xFFFF then "\\u" ++ upperHex 4 code
  else "\\U" ++ upperHex 8 code

def double (text : List Char) : String :=
  "\"" ++ String.join (text.map (fun character =>
    if !isPrintable character || endsLine character || character == '"' || character == '\\' then
      escape character
    else character.toString)) ++ "\""

/-- The lines of a text as they are written from the second on: ends of lines are kept, and each
line that holds anything is indented. `broken` says whether a line begins here. -/
def indented (write : Char → String) (broken : Bool) : List Char → String
  | [] => ""
  | character :: rest =>
    if endsLine character then character.toString ++ indented write true rest
    else
      (if broken then "  " else "") ++ write character ++ indented write false rest

/-- A text between single quotes. A single quote is doubled, and a line that the closing quote is on
is indented as well. -/
def single (text : List Char) : String :=
  let quoteTwice (character : Char) : String :=
    if character == '\'' then "''" else character.toString
  "'" ++ indented quoteTwice false text ++
    (if text.getLast?.any endsLine then "  " else "") ++ "'"

/-- The header of a literal block: the indentation, if it does not show, and what becomes of the
line ends behind the text. -/
def literalHeader (text : List Char) : String :=
  let indentation :=
    if text.head?.any (fun character => character == ' ' || endsLine character) then "2" else ""
  let chomping := match text.reverse with
    | [] => "-"
    | [last] => if endsLine last then "+" else "-"
    | last :: before :: _ =>
      if !endsLine last then "-" else if endsLine before then "+" else ""
  "|" ++ indentation ++ chomping

def literal (text : List Char) : String :=
  literalHeader text ++ "\n" ++ indented Char.toString true text

/-- A text in its style, behind a key or a dash; the line is ended. -/
def scalarLine (text : String) : String :=
  let characters := text.toList
  let written := match styleOf text with
    | .plain => text
    | .single => single characters
    | .double => double characters
    | .literal => literal characters
  if styleOf text = .literal ∧ characters.getLast?.any endsLine then written else written ++ "\n"

def textEntry (key text : String) : String := key ++ ": " ++ scalarLine text

def booleanEntry (key : String) (value : Bool) : String := key ++ ": " ++ toString value ++ "\n"

def listEntry (key : String) (texts : List String) : String :=
  if texts.isEmpty then key ++ ": []\n"
  else key ++ ":\n" ++ String.join (texts.map (fun text => "- " ++ scalarLine text))

end OperatorSource.Yaml.Writing
