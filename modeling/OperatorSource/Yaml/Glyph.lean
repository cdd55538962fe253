/-!
# Positioned text

A document is read from a list of glyphs: its characters with their positions. Line breaks are made
uniform on the way. A carriage return, a line feed, the two together and a next-line character all
become one line feed; the line and paragraph separators break lines too but stay what they are. A
text with a control character that documents may not hold has no glyphs.
-/

namespace OperatorSource.Yaml

/-- A position in a text: the characters, lines and columns before it. -/
structure Mark where
  offset : Nat := 0
  line : Nat := 0
  column : Nat := 0
  deriving DecidableEq

/-- The position behind a character that does not break the line. -/
def Mark.next (mark : Mark) : Mark :=
  { mark with offset := mark.offset + 1, column := mark.column + 1 }

/-- The position behind a line break of some characters. -/
def Mark.nextLine (mark : Mark) (width : Nat) : Mark :=
  { offset := mark.offset + width, line := mark.line + 1, column := 0 }

structure Glyph where
  char : Char
  mark : Mark

/-- A line break, once line breaks are uniform. -/
def isBreak (character : Char) : Bool :=
  character == '\n' || character == '\u2028' || character == '\u2029'

def isBlank (character : Char) : Bool := character == ' ' || character == '\t'

/-- A letter, digit, underscore or hyphen: what names are made of. -/
def isNameChar (character : Char) : Bool :=
  character.isAlphanum || character == '_' || character == '-'

def hexDigit? (character : Char) : Option Nat :=
  if character.isDigit then some (character.toNat - '0'.toNat)
  else if 'a' ≤ character ∧ character ≤ 'f' then some (character.toNat - 'a'.toNat + 10)
  else if 'A' ≤ character ∧ character ≤ 'F' then some (character.toNat - 'A'.toNat + 10)
  else none

def hexNumber? (digits : List Char) : Option Nat :=
  digits.foldlM (fun number digit => (hexDigit? digit).map (16 * number + ·)) 0

def byteOrderMark : Char := '\uFEFF'

/-- A character, other than a line break, that a document may hold. -/
def isAllowed (character : Char) : Bool :=
  let code := character.toNat
  code == 0x9 || (0x20 ≤ code && code ≤ 0x7E) || (0xA0 ≤ code && code ≤ 0xFFFD) || 0x10000 ≤ code

/-- The glyphs of some characters from a position on, and the position behind them. -/
def place (mark : Mark) : List Char → Option (List Glyph × Mark)
  | [] => some ([], mark)
  | '\r' :: '\n' :: rest =>
    (place (mark.nextLine 2) rest).map (fun placed => (⟨'\n', mark⟩ :: placed.1, placed.2))
  | character :: rest =>
    if character = '\u2028' ∨ character = '\u2029' then
      (place (mark.nextLine 1) rest).map (fun placed =>
        (⟨character, mark⟩ :: placed.1, placed.2))
    else if character = '\r' ∨ character = '\n' ∨ character = '\u0085' then
      (place (mark.nextLine 1) rest).map (fun placed => (⟨'\n', mark⟩ :: placed.1, placed.2))
    else if isAllowed character then
      (place mark.next rest).map (fun placed => (⟨character, mark⟩ :: placed.1, placed.2))
    else none

/-- The glyphs of a text and the position of its end. A byte order mark in front is not counted. -/
def glyphsOf? (text : String) : Option (List Glyph × Mark) :=
  match text.toList with
  | [] => some ([], {})
  | first :: rest => place {} (if first = byteOrderMark then rest else first :: rest)

/-- Whether a name, a number or an indicator ends before these glyphs: at the end of the text, at a
blank or at a line break. -/
def endsWord : List Glyph → Bool
  | [] => true
  | glyph :: _ => isBlank glyph.char || isBreak glyph.char

/-- The characters of the longest beginning whose characters all satisfy a test, and the glyphs
behind it. -/
def takeChars (test : Char → Bool) (glyphs : List Glyph) : List Char × List Glyph :=
  let parts := glyphs.span (fun glyph => test glyph.char)
  (parts.1.map Glyph.char, parts.2)

def dropBlanks (glyphs : List Glyph) : List Glyph :=
  glyphs.dropWhile (fun glyph => isBlank glyph.char)

/-- The glyphs of the next line, when only blanks and a comment are left of this one. -/
def dropLine? (glyphs : List Glyph) : Option (List Glyph) :=
  let rest := match dropBlanks glyphs with
    | ⟨'#', _⟩ :: comment => comment.dropWhile (fun (glyph : Glyph) => !isBreak glyph.char)
    | rest => rest
  match rest with
  | [] => some []
  | glyph :: next => if isBreak glyph.char then some next else none

/-- Whether a line begins here with three dashes or three dots that stand alone. -/
def atDocumentMark : List Glyph → Bool
  | ⟨first, mark⟩ :: ⟨second, _⟩ :: ⟨third, _⟩ :: rest =>
    mark.column == 0 && (first == '-' || first == '.') && second == first && third == first &&
      endsWord rest
  | _ => false

end OperatorSource.Yaml
