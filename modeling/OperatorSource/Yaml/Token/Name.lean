import OperatorSource.Yaml.Token.Basic

/-!
# Names, tags and directives

Anchors and aliases are names. A tag is an identifier, written out between angle brackets or behind
a handle; it may hold any octet in percent notation. Directives give the version of a document and
the expansions of tag handles.
-/

namespace OperatorSource.Yaml

/-- Reads the name of an anchor or alias: at least one character, ended by a blank or an indicator
that cannot follow it by mistake. -/
def name? (glyphs : List Glyph) : Option (String × List Glyph) :=
  let (characters, rest) := takeChars isNameChar glyphs
  let ended := endsWord rest || match rest with
    | glyph :: _ => "?:,]\x7d%@`".toList.contains glyph.char
    | [] => true
  if characters.isEmpty || !ended then none else some (String.ofList characters, rest)

/-- The number of octets of a character whose first octet is this one. -/
def octetCount? (octet : Nat) : Option Nat :=
  if octet < 0x80 then some 1
  else if 0xC0 ≤ octet ∧ octet < 0xE0 then some 2
  else if 0xE0 ≤ octet ∧ octet < 0xF0 then some 3
  else if 0xF0 ≤ octet ∧ octet < 0xF8 then some 4
  else none

/-- The octet of a percent sign and two hexadecimal digits. -/
def escapedOctet? : List Char → Option Nat
  | ['%', high, low] => hexNumber? [high, low]
  | _ => none

/-- Reads octets in percent notation of which `missing` are still needed to end a character. -/
def uriOctets (inBrackets : Bool) (missing : Nat) (octets : List UInt8) (glyphs : List Glyph) :
    Option (List UInt8 × List Glyph) :=
  match glyphs with
  | [] => if missing = 0 then some (octets.reverse, []) else none
  | glyph :: rest =>
    if glyph.char == '%' then
      match escapedOctet? ((glyphs.take 3).map Glyph.char) with
      | none => none
      | some octet =>
        if missing = 0 then
          match octetCount? octet with
          | none => none
          | some count =>
            uriOctets inBrackets (count - 1) (octet.toUInt8 :: octets) (rest.drop 2)
        else if 0x80 ≤ octet ∧ octet < 0xC0 then
          uriOctets inBrackets (missing - 1) (octet.toUInt8 :: octets) (rest.drop 2)
        else none
    else if missing ≠ 0 then none
    else if isNameChar glyph.char || ";/?:@&=+$.!~*'()".toList.contains glyph.char ||
        (inBrackets && ",[]".toList.contains glyph.char) then
      uriOctets inBrackets 0 (glyph.char.toNat.toUInt8 :: octets) rest
    else some (octets.reverse, glyph :: rest)
termination_by glyphs.length
decreasing_by all_goals (simp_all only [List.length_cons, List.length_drop]; omega)

/-- Reads an identifier behind a beginning that belongs to it; together they are not empty. Octets
from a zero octet on are dropped. -/
def uri? (inBrackets : Bool) (start : Option (List UInt8)) (glyphs : List Glyph) :
    Option (List UInt8 × List Glyph) := do
  let (octets, rest) ← uriOctets inBrackets 0 [] glyphs
  if octets.isEmpty && start.isNone then none
  else return ((start.getD [] ++ octets).takeWhile (· ≠ 0), rest)

def asciiOctets (characters : List Char) : List UInt8 :=
  characters.map (fun character => character.toNat.toUInt8)

/-- Reads a tag handle: an exclamation mark, and possibly a name and a second one. Says whether the
second one is there. -/
def handle? : List Glyph → Option (List Char × Bool × List Glyph)
  | ⟨'!', _⟩ :: rest =>
    let (name, behind) := takeChars isNameChar rest
    match behind with
    | ⟨'!', _⟩ :: more => some ('!' :: (name ++ ['!']), true, more)
    | _ => some ('!' :: name, false, behind)
  | _ => none

def tagEnds (flow : Bool) (rest : List Glyph) : Bool :=
  endsWord rest || match rest with
    | glyph :: _ => flow && glyph.char == ','
    | [] => true

/-- Reads a tag, as its handle and its suffix. Without a second exclamation mark the handle is the
primary one and all else the suffix; a lone exclamation mark is a tag of its own. -/
def tag? (flow : Bool) (glyphs : List Glyph) : Option (TokenKind × List Glyph) := do
  let (kind, rest) ← match glyphs with
    | _ :: ⟨'<', _⟩ :: inner => do
      let (octets, behind) ← uri? true none inner
      match behind with
      | ⟨'>', _⟩ :: rest => some (TokenKind.tag "" octets, rest)
      | _ => none
    | _ => do
      let (handle, closed, behind) ← handle? glyphs
      if closed then
        let (suffix, rest) ← uri? false none behind
        return (TokenKind.tag (String.ofList handle) suffix, rest)
      else
        let (suffix, rest) ← uri? false (some (asciiOctets (handle.drop 1))) behind
        if suffix.isEmpty then return (TokenKind.tag "" (asciiOctets ['!']), rest)
        else return (TokenKind.tag "!" suffix, rest)
  if tagEnds flow rest then return (kind, rest) else none

/-- Reads a number of at most nine digits. -/
def shortNumber? (glyphs : List Glyph) : Option (Nat × List Glyph) :=
  let (digits, rest) := takeChars Char.isDigit glyphs
  if digits.isEmpty || 9 < digits.length then none
  else some (digits.foldl (fun number digit => 10 * number + (digit.toNat - '0'.toNat)) 0, rest)

def version? (glyphs : List Glyph) : Option (TokenKind × List Glyph) := do
  let (major, behind) ← shortNumber? (dropBlanks glyphs)
  match behind with
  | ⟨'.', _⟩ :: more =>
    let (minor, rest) ← shortNumber? more
    return (.versionDirective major minor, rest)
  | _ => none

def expansion? (glyphs : List Glyph) : Option (TokenKind × List Glyph) := do
  let (handle, closed, behind) ← handle? (dropBlanks glyphs)
  if !closed && handle.length ≠ 1 then none
  else
    match behind with
    | [] => none
    | glyph :: _ =>
      if !isBlank glyph.char then none
      else
        let (expansion, rest) ← uri? true none (dropBlanks behind)
        if endsWord rest then return (.tagDirective (String.ofList handle) expansion, rest)
        else none

/-- Reads a directive to the end of its line; the percent sign has been read. -/
def directive? (glyphs : List Glyph) : Option (TokenKind × List Glyph) := do
  let (name, behind) := takeChars isNameChar glyphs
  if name.isEmpty || !endsWord behind then none
  else
    let (kind, rest) ← match String.ofList name with
      | "YAML" => version? behind
      | "TAG" => expansion? behind
      | _ => none
    return (kind, ← dropLine? rest)

end OperatorSource.Yaml
