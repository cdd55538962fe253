import OperatorSource.Yaml.Token.Block
import OperatorSource.Yaml.Token.Flow
import OperatorSource.Yaml.Token.Name

/-!
# From text to tokens

Block collections are opened and closed by indentation, and a mapping key shows as one only when
the colon behind it is read. So the lexer remembers for each level of nesting the token that a key
may begin at, and puts the key token in front of it later. A key must be on one line and be no
longer than 1024 characters.

Every step of the lexer reads at least one character, so the number of characters bounds the number
of steps.
-/

namespace OperatorSource.Yaml

/-- A place in the list of tokens where a mapping key may begin. -/
structure KeyCandidate where
  /-- The number of tokens before it. -/
  token : Nat
  mark : Mark
  /-- Whether nothing but a key can stand there. -/
  required : Bool

structure Lexer where
  rest : List Glyph
  /-- The position of the end of the text. -/
  stop : Mark
  tokens : Array Token := #[]
  /-- The column of the innermost block collection. -/
  indent : Int := -1
  /-- The columns of the block collections around it, innermost first. -/
  outer : List Int := []
  /-- The key candidate outside all flow collections. -/
  candidate : Option KeyCandidate := none
  /-- The key candidates of the flow collections around, innermost first. -/
  flow : List (Option KeyCandidate) := []
  /-- Whether a key may begin at the next token. -/
  keyAllowed : Bool := true

namespace Lexer

def mark (lexer : Lexer) : Mark :=
  match lexer.rest with
  | [] => lexer.stop
  | glyph :: _ => glyph.mark

def inFlow (lexer : Lexer) : Bool := !lexer.flow.isEmpty

def current (lexer : Lexer) : Option KeyCandidate :=
  match lexer.flow with
  | [] => lexer.candidate
  | candidate :: _ => candidate

def setCurrent (lexer : Lexer) (candidate : Option KeyCandidate) : Lexer :=
  match lexer.flow with
  | [] => { lexer with candidate }
  | _ :: others => { lexer with flow := candidate :: others }

/-- Adds a token that begins at `start` and ends where reading goes on at `rest`. -/
def emit (lexer : Lexer) (kind : TokenKind) (start : Mark) (rest : List Glyph) : Lexer :=
  let moved := { lexer with rest }
  { moved with tokens := moved.tokens.push ⟨kind, start, moved.mark⟩ }

/-- Adds an empty token at a position, behind the first `index` tokens. -/
def emitAt (lexer : Lexer) (index : Nat) (kind : TokenKind) (mark : Mark) : Lexer :=
  { lexer with tokens := lexer.tokens.insertIdxIfInBounds index ⟨kind, mark, mark⟩ }

/-- Whether a candidate can no longer become a key at a position. -/
def isStale (mark : Mark) (candidate : KeyCandidate) : Bool :=
  candidate.mark.line < mark.line || candidate.mark.offset + 1024 < mark.offset

/-- A candidate unless it is stale; a required one must not be. -/
def refresh? (mark : Mark) : Option KeyCandidate → Option (Option KeyCandidate)
  | none => some none
  | some candidate =>
    if isStale mark candidate then if candidate.required then none else some none
    else some (some candidate)

def dropStale? (lexer : Lexer) : Option Lexer := do
  let candidate ← refresh? lexer.mark lexer.candidate
  let flow ← lexer.flow.mapM (refresh? lexer.mark)
  return { lexer with candidate, flow }

/-- Forgets the candidate of the innermost level, which must not be required. -/
def dropCandidate? (lexer : Lexer) : Option Lexer :=
  match lexer.current with
  | some candidate => if candidate.required then none else some (lexer.setCurrent none)
  | none => some lexer

/-- Remembers that a key may begin at the next token, if keys are allowed. -/
def saveCandidate? (lexer : Lexer) : Option Lexer :=
  if lexer.keyAllowed then do
    let required := !lexer.inFlow && lexer.indent == lexer.mark.column
    let dropped ← lexer.dropCandidate?
    return dropped.setCurrent (some ⟨lexer.tokens.size, lexer.mark, required⟩)
  else some lexer

/-- Opens a block collection at a column that is deeper than the innermost one. -/
def openBlock (lexer : Lexer) (column index : Nat) (kind : TokenKind) (mark : Mark) : Lexer :=
  if lexer.inFlow || (column : Int) ≤ lexer.indent then lexer
  else
    { lexer with indent := column, outer := lexer.indent :: lexer.outer }.emitAt index kind mark

/-- Closes block collections, the innermost first, that are deeper than a column. -/
def closeBlocks (mark : Mark) (column indent : Int) (tokens : Array Token) :
    List Int → Array Token × Int × List Int
  | [] => (tokens, indent, [])
  | next :: outer =>
    if column < indent then closeBlocks mark column next (tokens.push ⟨.blockEnd, mark, mark⟩) outer
    else (tokens, indent, next :: outer)

/-- Closes the block collections that end before a column. -/
def unwind (lexer : Lexer) (column : Int) : Lexer :=
  if lexer.inFlow then lexer
  else
    let (tokens, indent, outer) :=
      closeBlocks lexer.mark column lexer.indent lexer.tokens lexer.outer
    { lexer with tokens, indent, outer }

/-- The glyphs behind blanks, comments and line breaks, and whether a key may begin there. Tabs are
blanks only where no key may begin. -/
def skipGap (inFlow inComment keyAllowed : Bool) : List Glyph → List Glyph × Bool
  | [] => ([], keyAllowed)
  | glyph :: rest =>
    let character := glyph.char
    if isBreak character then skipGap inFlow false (keyAllowed || !inFlow) rest
    else if inComment then skipGap inFlow true keyAllowed rest
    else if character == ' ' || (character == '\t' && (inFlow || !keyAllowed)) ||
        (character == byteOrderMark && glyph.mark.offset == 0) then
      skipGap inFlow false keyAllowed rest
    else if character == '#' then skipGap inFlow true keyAllowed rest
    else (glyph :: rest, keyAllowed)

def toNextToken (lexer : Lexer) : Lexer :=
  let (rest, keyAllowed) := skipGap lexer.inFlow false lexer.keyAllowed lexer.rest
  { lexer with rest, keyAllowed }

/-- Ends every open block and forbids keys, before a token between documents. -/
def leaveDocument? (lexer : Lexer) : Option Lexer := do
  let left ← (lexer.unwind (-1)).dropCandidate?
  return { left with keyAllowed := false }

def openFlow? (lexer : Lexer) (kind : TokenKind) (behind : List Glyph) : Option Lexer := do
  let saved ← lexer.saveCandidate?
  return { saved with flow := none :: saved.flow, keyAllowed := true }.emit kind lexer.mark behind

def closeFlow? (lexer : Lexer) (kind : TokenKind) (behind : List Glyph) : Option Lexer := do
  let dropped ← lexer.dropCandidate?
  return { dropped with flow := dropped.flow.drop 1, keyAllowed := false }.emit kind lexer.mark
    behind

def flowEntry? (lexer : Lexer) (behind : List Glyph) : Option Lexer := do
  let dropped ← lexer.dropCandidate?
  return { dropped with keyAllowed := true }.emit .flowEntry lexer.mark behind

/-- Opens a block collection for an indicator that begins an entry; where no key may begin, it may
not stand. -/
def openEntry? (lexer : Lexer) (kind : TokenKind) : Option Lexer :=
  if lexer.inFlow then some lexer
  else if lexer.keyAllowed then
    some (lexer.openBlock lexer.mark.column lexer.tokens.size kind lexer.mark)
  else none

def blockEntry? (lexer : Lexer) (behind : List Glyph) : Option Lexer := do
  let opened ← (← lexer.openEntry? .blockSequenceStart).dropCandidate?
  return { opened with keyAllowed := true }.emit .blockEntry lexer.mark behind

def explicitKey? (lexer : Lexer) (behind : List Glyph) : Option Lexer := do
  let opened ← (← lexer.openEntry? .blockMappingStart).dropCandidate?
  return { opened with keyAllowed := !opened.inFlow }.emit .key lexer.mark behind

/-- Reads the colon before a value. If a key may have begun before it, it did. -/
def value? (lexer : Lexer) (behind : List Glyph) : Option Lexer := do
  let opened ← match lexer.current with
    | some candidate =>
      let keyed := (lexer.emitAt candidate.token .key candidate.mark).openBlock
        candidate.mark.column candidate.token .blockMappingStart candidate.mark
      some { keyed.setCurrent none with keyAllowed := false }
    | none => do
      let opened ← lexer.openEntry? .blockMappingStart
      some { opened with keyAllowed := !opened.inFlow }
  return opened.emit .value lexer.mark behind

/-- Adds a token that may begin a key and behind which no key may begin. -/
def content? (lexer : Lexer) (kind : TokenKind) (behind : List Glyph) : Option Lexer := do
  let saved ← lexer.saveCandidate?
  return { saved with keyAllowed := false }.emit kind lexer.mark behind

def block? (lexer : Lexer) (style : ScalarStyle) (behind : List Glyph) : Option Lexer := do
  let dropped ← lexer.dropCandidate?
  let (text, rest) ← blockScalar? (style == .literal) lexer.indent behind
  return { dropped with keyAllowed := true }.emit (.scalar style text) lexer.mark rest

def plain? (lexer : Lexer) : Option Lexer := do
  let saved ← lexer.saveCandidate?
  let scalar ← plainScalar? lexer.inFlow (lexer.indent + 1) lexer.rest
  return { saved with keyAllowed := scalar.endsBroken }.emit (.scalar .plain scalar.text)
    lexer.mark scalar.rest

/-- Whether a plain scalar may begin with this character in front of these glyphs. -/
def beginsPlain (inFlow : Bool) (character : Char) (behind : List Glyph) : Bool :=
  if character == '-' then
    match behind with
    | glyph :: _ => !isBlank glyph.char
    | [] => true
  else if character == '?' || character == ':' then !inFlow && !endsWord behind
  else !isBlank character && !",[]\x7b\x7d#&*!|>'\"%@`".toList.contains character

def token? (lexer : Lexer) (character : Char) (behind : List Glyph) : Option Lexer :=
  let inFlow := lexer.inFlow
  let atLineStart := lexer.mark.column == 0
  if atLineStart && character == '%' then do
    let left ← lexer.leaveDocument?
    let (kind, rest) ← directive? behind
    return left.emit kind lexer.mark rest
  else if atDocumentMark lexer.rest then do
    let left ← lexer.leaveDocument?
    return left.emit (if character == '-' then .documentStart else .documentEnd) lexer.mark
      (behind.drop 2)
  else if character == '[' then lexer.openFlow? .flowSequenceStart behind
  else if character == '\x7b' then lexer.openFlow? .flowMappingStart behind
  else if character == ']' then lexer.closeFlow? .flowSequenceEnd behind
  else if character == '\x7d' then lexer.closeFlow? .flowMappingEnd behind
  else if character == ',' then lexer.flowEntry? behind
  else if character == '-' && endsWord behind then lexer.blockEntry? behind
  else if character == '?' && (inFlow || endsWord behind) then lexer.explicitKey? behind
  else if character == ':' && (inFlow || endsWord behind) then lexer.value? behind
  else if character == '*' then do
    let (name, rest) ← name? behind
    lexer.content? (.alias name) rest
  else if character == '&' then do
    let (name, rest) ← name? behind
    lexer.content? (.anchor name) rest
  else if character == '!' then do
    let (kind, rest) ← tag? inFlow lexer.rest
    lexer.content? kind rest
  else if character == '|' && !inFlow then lexer.block? .literal behind
  else if character == '>' && !inFlow then lexer.block? .quoted behind
  else if character == '\'' || character == '"' then do
    let (text, rest) ← quotedScalar? character behind
    lexer.content? (.scalar .quoted text) rest
  else if beginsPlain inFlow character behind then lexer.plain?
  else none

/-- Ends the last line and every open block, and adds the token for the end of the text. -/
def finish? (lexer : Lexer) : Option Lexer := do
  let stop := if lexer.stop.column = 0 then lexer.stop else lexer.stop.nextLine 0
  let left ← { lexer with stop }.leaveDocument?
  return left.emit .streamEnd stop []

/-- Reads the remaining tokens in at most so many steps. -/
def run? : (steps : Nat) → Lexer → Option (List Token)
  | 0, _ => none
  | steps + 1, lexer =>
    match lexer.toNextToken.dropStale? with
    | none => none
    | some ready =>
      let unwound := ready.unwind ready.mark.column
      match unwound.rest with
      | [] => unwound.finish?.map (fun finished => finished.tokens.toList)
      | glyph :: behind => (unwound.token? glyph.char behind).bind (run? steps)

end Lexer

def tokensOf? (text : String) : Option (List Token) := do
  let (glyphs, stop) ← glyphsOf? text
  Lexer.run? (glyphs.length + 1) { rest := glyphs, stop }

end OperatorSource.Yaml
