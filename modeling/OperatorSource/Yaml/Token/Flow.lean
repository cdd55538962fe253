import OperatorSource.Yaml.Token.Basic

/-!
# Plain and quoted scalars

The text of a plain or quoted scalar may go over several lines. Blanks inside a line are kept.
Between lines, blanks vanish, a single line feed becomes a space, and of several line breaks all
but the first are kept. What stands between two words is gathered in a gap and written only when
another word follows.
-/

namespace OperatorSource.Yaml

/-- What was read since the last word. -/
inductive Gap where
  | none
  | blanks (characters : List Char)
  /-- A first line break, which an escaped one is not, and those after it. -/
  | breaks (first : Option Char) (more : List Char)

namespace Gap

def blank (character : Char) : Gap → Gap
  | .none => .blanks [character]
  | .blanks characters => .blanks (characters ++ [character])
  | .breaks first more => .breaks first more

def lineBreak (character : Char) : Gap → Gap
  | .none | .blanks _ => .breaks (some character) []
  | .breaks first more => .breaks first (more ++ [character])

/-- The characters that a gap leaves in the text. -/
def folded : Gap → List Char
  | .none => []
  | .blanks characters => characters
  | .breaks (some '\n') [] => [' ']
  | .breaks (some '\n') more => more
  | .breaks first more => first.toList ++ more

def isBroken : Gap → Bool
  | .breaks _ _ => true
  | _ => false

def isNone : Gap → Bool
  | .none => true
  | _ => false

end Gap

/-- A plain scalar: its text, the glyphs behind it, and whether a line break was read behind it. -/
structure PlainScalar where
  text : String
  rest : List Glyph
  endsBroken : Bool

/-- The plain scalar of the characters `text`, which are in reverse order, when it ends in a gap. -/
def PlainScalar.ofRead (text : List Char) (gap : Gap) (rest : List Glyph) : PlainScalar :=
  ⟨String.ofList text.reverse, rest, gap.isBroken⟩

/-- Whether a colon here may not stand in a plain scalar inside a flow collection. -/
def colonMisplaced (rest : List Glyph) : Bool :=
  match rest with
  | [] => false
  | glyph :: _ => ",?[]\x7b\x7d".toList.contains glyph.char

/-- Reads the rest of a plain scalar behind the characters `text`, which are in reverse order. Its
lines after the first must be indented by `indent` columns, unless it is in a flow collection. -/
def plainRest (flow : Bool) (indent : Int) (text : List Char) (gap : Gap) :
    List Glyph → Option PlainScalar
  | [] => some (.ofRead text gap [])
  | glyph :: rest =>
    let character := glyph.char
    if isBreak character then plainRest flow indent text (gap.lineBreak character) rest
    else if isBlank character then
      if gap.isBroken && glyph.mark.column < indent && character == '\t' then none
      else plainRest flow indent text (gap.blank character) rest
    else if !gap.isNone && (!flow && glyph.mark.column < indent ||
        atDocumentMark (glyph :: rest) || character == '#') then
      some (.ofRead text gap (glyph :: rest))
    else if flow && character == ':' && colonMisplaced rest then none
    else if character == ':' && endsWord rest ||
        flow && ",[]\x7b\x7d".toList.contains character then
      some (.ofRead text gap (glyph :: rest))
    else plainRest flow indent (character :: (gap.folded.reverse ++ text)) .none rest

def plainScalar? (flow : Bool) (indent : Int) (glyphs : List Glyph) : Option PlainScalar :=
  plainRest flow indent [] .none glyphs

/-- The character that a backslash and this character stand for. -/
def simpleEscape? : Char → Option Char
  | '0' => some '\x00'
  | 'a' => some '\x07'
  | 'b' => some '\x08'
  | 't' | '\t' => some '\t'
  | 'n' => some '\n'
  | 'v' => some '\x0B'
  | 'f' => some '\x0C'
  | 'r' => some '\r'
  | 'e' => some '\x1B'
  | ' ' => some ' '
  | '"' => some '"'
  | '/' => some '/'
  | '\\' => some '\\'
  | 'N' => some '\u0085'
  | '_' => some '\u00A0'
  | 'L' => some '\u2028'
  | 'P' => some '\u2029'
  | _ => none

/-- The number of hexadecimal digits after a backslash and this character. -/
def escapeDigits? : Char → Option Nat
  | 'x' => some 2
  | 'u' => some 4
  | 'U' => some 8
  | _ => none

/-- The character with a code point, unless there is none. -/
def charOfCode? (code : Nat) : Option Char :=
  if code.isValidChar then some (Char.ofNat code) else none

/-- Reads a character by its code point, written with so many hexadecimal digits. -/
def codedChar? (count : Nat) (glyphs : List Glyph) : Option Char :=
  if glyphs.length < count then none
  else (hexNumber? ((glyphs.take count).map Glyph.char)).bind charOfCode?

/-- Reads the rest of a text between quotes behind the characters `text`, which are in reverse
order. Between single quotes only a doubled quote is special; between double quotes a backslash
escapes. -/
def quotedRest (quote : Char) (text : List Char) (gap : Gap) (glyphs : List Glyph) :
    Option (String × List Glyph) :=
  match glyphs with
  | [] => none
  | glyph :: rest =>
    let character := glyph.char
    let flushed := gap.folded.reverse ++ text
    if isBreak character then quotedRest quote text (gap.lineBreak character) rest
    else if isBlank character then quotedRest quote text (gap.blank character) rest
    else if atDocumentMark (glyph :: rest) then none
    else if character == quote then
      match rest with
      | second :: more =>
        if quote == '\'' && second.char == '\'' then
          quotedRest quote ('\'' :: flushed) .none more
        else some (String.ofList flushed.reverse, rest)
      | [] => some (String.ofList flushed.reverse, [])
    else if character == '\\' && quote == '"' then
      match rest with
      | [] => none
      | second :: more =>
        if isBreak second.char then quotedRest quote flushed (.breaks none []) more
        else
          match simpleEscape? second.char, escapeDigits? second.char with
          | some escaped, _ => quotedRest quote (escaped :: flushed) .none more
          | none, some count =>
            match codedChar? count more with
            | none => none
            | some coded => quotedRest quote (coded :: flushed) .none (more.drop count)
          | none, none => none
    else quotedRest quote (character :: flushed) .none rest
termination_by glyphs.length
decreasing_by all_goals (simp_all only [List.length_cons, List.length_drop]; omega)

/-- A text between quotes; the opening quote has been read. -/
def quotedScalar? (quote : Char) (glyphs : List Glyph) : Option (String × List Glyph) :=
  quotedRest quote [] .none glyphs

end OperatorSource.Yaml
