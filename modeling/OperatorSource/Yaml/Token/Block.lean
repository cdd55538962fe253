import OperatorSource.Yaml.Token.Basic

/-!
# Block scalars

A block scalar is a header line and the indented lines below it. A literal one keeps its line
breaks; a folded one joins neighbouring lines by a space unless one of them begins with a blank. The
header may give the indentation, which otherwise is that of the first line with text, and says
whether line breaks at the end are stripped, clipped to one, or kept.
-/

namespace OperatorSource.Yaml

/-- What happens to the line breaks at the end of a block scalar. -/
inductive Chomping where
  | strip
  | clip
  | keep
  deriving DecidableEq

/-- The header of a block scalar: its chomping and how far it is indented beyond its parent. -/
structure BlockHeader where
  chomping : Chomping := .clip
  increment : Option Nat := none

def chomping? : Char → Option Chomping
  | '-' => some .strip
  | '+' => some .keep
  | _ => none

/-- Reads an indentation indicator, which may not be zero; a block scalar need not have one. -/
def increment? : List Glyph → Option (Option Nat × List Glyph)
  | [] => some (none, [])
  | glyph :: rest =>
    if glyph.char == '0' then none
    else if glyph.char.isDigit then some (some (glyph.char.toNat - '0'.toNat), rest)
    else some (none, glyph :: rest)

/-- Reads the two indicators of a header, in either order. -/
def blockHeader? : List Glyph → Option (BlockHeader × List Glyph)
  | [] => some ({}, [])
  | glyph :: rest =>
    match chomping? glyph.char with
    | some chomping => do
      let (increment, behind) ← increment? rest
      return ({ chomping, increment }, behind)
    | none => do
      let (increment, behind) ← increment? (glyph :: rest)
      match increment, behind with
      | some _, second :: more =>
        match chomping? second.char with
        | some chomping => return ({ chomping, increment }, more)
        | none => return ({ increment }, behind)
      | _, _ => return ({ increment }, behind)

structure BlockText where
  /-- The text so far, in reverse order. -/
  text : List Char := []
  /-- The break at the end of the last line with text, if it is not yet in the text. -/
  lineBreak : Option Char := none
  /-- The breaks of the empty lines behind it. -/
  emptyLines : List Char := []
  /-- Whether the last line with text begins with a blank. -/
  beginsBlank : Bool := false
  /-- The column where lines begin, once it is known. -/
  indent : Option Nat
  /-- The greatest column reached by spaces before it was known. -/
  deepest : Nat := 0

namespace BlockText

/-- What the pending breaks leave in the text before a line that begins with `character`. -/
def pending (literal : Bool) (block : BlockText) (character : Char) : List Char :=
  if !literal && block.lineBreak == some '\n' && !block.beginsBlank && !isBlank character then
    if block.emptyLines.isEmpty then [' '] else block.emptyLines
  else block.lineBreak.toList ++ block.emptyLines

def finish (block : BlockText) (chomping : Chomping) : String :=
  let clipped := match chomping with
    | .strip => []
    | .clip => block.lineBreak.toList
    | .keep => block.lineBreak.toList ++ block.emptyLines
  String.ofList (block.text.reverse ++ clipped)

end BlockText

/-- Reads the lines of a block scalar that is indented by `least` columns at least; `inLine` says
whether reading stands behind the beginning of a line with text. -/
def blockLines (literal : Bool) (least : Nat) (inLine : Bool) (block : BlockText) :
    List Glyph → Option (BlockText × List Glyph)
  | [] => some (block, [])
  | glyph :: rest =>
    let character := glyph.char
    let column := glyph.mark.column
    if inLine then
      if isBreak character then
        blockLines literal least false { block with lineBreak := some character } rest
      else blockLines literal least true { block with text := character :: block.text } rest
    else
      let before := match block.indent with
        | none => true
        | some indent => column < indent
      if before && character == ' ' then
        blockLines literal least false
          { block with deepest := max block.deepest (column + 1) } rest
      else if before && character == '\t' then none
      else if isBreak character then
        blockLines literal least false
          { block with emptyLines := block.emptyLines ++ [character] } rest
      else
        let indent := block.indent.getD (max (max block.deepest column) least)
        if column == indent then
          blockLines literal least true {
            text := character :: ((block.pending literal character).reverse ++ block.text)
            lineBreak := none
            emptyLines := []
            beginsBlank := isBlank character
            indent := some indent } rest
        else some (block, glyph :: rest)

/-- A block scalar inside a collection that is indented by `parent` columns; the indicator before
the header has been read. -/
def blockScalar? (literal : Bool) (parent : Int) (glyphs : List Glyph) :
    Option (String × List Glyph) := do
  let (header, behind) ← blockHeader? glyphs
  let body ← dropLine? behind
  let least := (max (parent + 1) 1).toNat
  let indent := header.increment.map (fun increment => (max parent 0).toNat + increment)
  let (block, rest) ← blockLines literal least false { indent } body
  return (block.finish header.chomping, rest)

end OperatorSource.Yaml
