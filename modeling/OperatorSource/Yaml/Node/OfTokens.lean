import OperatorSource.Yaml.Node.Basic
import OperatorSource.Yaml.Token.Lexer

/-!
# From tokens to nodes

A document is read from its tokens by recursive descent. A node may bear an anchor and a tag, in
either order, in front of its content; where content is left out, it is an empty plain scalar. A
text is refused unless it holds exactly one document, or none.

Of three calls of readers, one inside the other, at least one reads a token, so three times the
number of tokens bounds the depth of calls.
-/

namespace OperatorSource.Yaml

structure NodeReader where
  tokens : List Token
  /-- What tag handles stand for, the octets of each. -/
  handles : List (String × List UInt8) := []
  /-- The anchor names so far, each once, with the number it stands for now. -/
  anchors : List (String × Nat) := []

/-- A step of reading nodes; `none` refuses the text. -/
abbrev Reading := StateT NodeReader Option

namespace NodeReader

def refuse {α : Type} : Reading α := fun _ => none

/-- The next token, which stays. -/
def peek : Reading Token := do
  match (← get).tokens with
  | [] => refuse
  | token :: _ => return token

/-- Goes past the next token. -/
def skip : Reading Unit :=
  modify (fun reader => { reader with tokens := reader.tokens.drop 1 })

/-- Goes past the next token, which must be of this kind. -/
def expect (kind : TokenKind) : Reading Unit := do
  if (← peek).kind = kind then skip else refuse

/-- Gives an anchor name its number: the count of different names so far. A name that is used again
gets a new number. -/
def declare (name : String) : Reading Nat := do
  let anchors := (← get).anchors
  let number := anchors.length
  let updated :=
    if anchors.any (fun entry => entry.1 == name) then
      anchors.map (fun entry => if entry.1 == name then (name, number) else entry)
    else anchors ++ [(name, number)]
  modify (fun reader => { reader with anchors := updated })
  return number

def tagOf (handle : String) (suffix : List UInt8) : Reading Tag := do
  if handle.isEmpty then return Tag.ofOctets suffix
  else
    match (← get).handles.lookup handle with
    | some expansion => return Tag.ofOctets (expansion ++ suffix)
    | none => refuse

/-- The anchor and the tag in front of a node. -/
structure Properties where
  anchor : Option String := none
  tag : Option Tag := none

def anchorHere : Reading (Option String) := do
  match (← peek).kind with
  | .anchor name => skip; return some name
  | _ => return none

def tagHere : Reading (Option Tag) := do
  match (← peek).kind with
  | .tag handle suffix => skip; return some (← tagOf handle suffix)
  | _ => return none

/-- Reads an anchor and a tag, in either order, as far as they are there. -/
def properties : Reading Properties := do
  match ← anchorHere with
  | some name => return { anchor := some name, tag := ← tagHere }
  | none =>
    match ← tagHere with
    | some tag => return { anchor := ← anchorHere, tag := some tag }
    | none => return {}

/-- Whether an item of a sequence without indentation is left out before this token. -/
def endsIndentlessItem : TokenKind → Bool
  | .blockEntry | .key | .value | .blockEnd => true
  | _ => false

/-- Whether an item of an indented sequence is left out before this token. -/
def endsBlockItem : TokenKind → Bool
  | .blockEntry | .blockEnd => true
  | _ => false

/-- Whether a key or a value of a block mapping is left out before this token. -/
def endsBlockPart : TokenKind → Bool
  | .key | .value | .blockEnd => true
  | _ => false

/-- Whether a key in a flow mapping is left out before this token. -/
def endsFlowKey : TokenKind → Bool
  | .value | .flowEntry | .flowMappingEnd => true
  | _ => false

/-- Whether a value in a flow mapping is left out before this token. -/
def endsFlowValue : TokenKind → Bool
  | .flowEntry | .flowMappingEnd => true
  | _ => false

/-- Whether a key of a single pair in a flow sequence is left out before this token. -/
def endsPairKey : TokenKind → Bool
  | .value | .flowEntry | .flowSequenceEnd => true
  | _ => false

/-- Whether a value of a single pair in a flow sequence is left out before this token. -/
def endsPairValue : TokenKind → Bool
  | .flowEntry | .flowSequenceEnd => true
  | _ => false

/-- A node without content, which must have an anchor or a tag. -/
def leftOut (mark : Mark) (anchor : Option Nat) (given : Properties) : Reading Node :=
  if anchor.isSome || given.tag.isSome then return .scalar mark anchor given.tag .plain ""
  else refuse

mutual

/-- Reads a node. Block collections are possible where `block` is set, and sequences that are not
indented below their key where `indentless` is set. -/
def node : (fuel : Nat) → (block indentless : Bool) → Reading Node
  | 0, _, _ => refuse
  | fuel + 1, block, indentless => do
    let first ← peek
    match first.kind with
    | .alias name =>
      match (← get).anchors.lookup name with
      | some target => skip; return .alias first.start target
      | none => refuse
    | _ =>
      let given ← properties
      let anchor ← given.anchor.mapM declare
      let mark := first.start
      match (← peek).kind with
      | .scalar style text => skip; return .scalar mark anchor given.tag style text
      | .flowSequenceStart =>
        skip
        return .sequence mark anchor given.tag (← flowItems fuel true)
      | .flowMappingStart =>
        skip
        return .mapping mark anchor given.tag (← flowEntries fuel true)
      | .blockSequenceStart =>
        if block then
          skip
          return .sequence mark anchor given.tag (← blockItems fuel)
        else refuse
      | .blockMappingStart =>
        if block then
          skip
          return .mapping mark anchor given.tag (← blockEntries fuel)
        else refuse
      | .blockEntry =>
        if indentless then
          return .sequence mark anchor given.tag (← indentlessItems fuel)
        else leftOut mark anchor given
      | _ => leftOut mark anchor given

/-- Reads a part of a block collection, which is left out before some tokens. -/
def blockPart : (fuel : Nat) → (endsPart : TokenKind → Bool) → (indentless : Bool) →
    (mark : Mark) → Reading Node
  | 0, _, _, _ => refuse
  | fuel + 1, endsPart, indentless, mark => do
    if endsPart (← peek).kind then return .empty mark else node fuel true indentless

/-- Reads the items of an indented sequence and its end. -/
def blockItems : (fuel : Nat) → Reading (List Node)
  | 0 => refuse
  | fuel + 1 => do
    let token ← peek
    match token.kind with
    | .blockEntry =>
      skip
      let item ← blockPart fuel endsBlockItem false token.stop
      return item :: (← blockItems fuel)
    | .blockEnd => skip; return []
    | _ => refuse

/-- Reads the items of a sequence that is not indented below its key. -/
def indentlessItems : (fuel : Nat) → Reading (List Node)
  | 0 => refuse
  | fuel + 1 => do
    let token ← peek
    match token.kind with
    | .blockEntry =>
      skip
      let item ← blockPart fuel endsIndentlessItem false token.stop
      return item :: (← indentlessItems fuel)
    | _ => return []

/-- Reads the entries of a block mapping and its end. -/
def blockEntries : (fuel : Nat) → Reading (List (Node × Node))
  | 0 => refuse
  | fuel + 1 => do
    let token ← peek
    match token.kind with
    | .key =>
      skip
      let key ← blockPart fuel endsBlockPart true token.stop
      let second ← peek
      let value ← match second.kind with
        | .value => do
          skip
          blockPart fuel endsBlockPart true second.stop
        | _ => pure (.empty second.start)
      return (key, value) :: (← blockEntries fuel)
    | .blockEnd => skip; return []
    | _ => refuse

/-- Reads the items of a flow sequence and its end; before all but the first there is a comma. -/
def flowItems : (fuel : Nat) → (first : Bool) → Reading (List Node)
  | 0, _ => refuse
  | fuel + 1, first => do
    if (← peek).kind = .flowSequenceEnd then
      skip
      return []
    else
      unless first do expect .flowEntry
      let token ← peek
      match token.kind with
      | .flowSequenceEnd => skip; return []
      | .key =>
        skip
        let pair ← flowPair fuel
        return .mapping token.start none none [pair] :: (← flowItems fuel false)
      | _ =>
        let item ← node fuel false false
        return item :: (← flowItems fuel false)

/-- Reads a single pair in a flow sequence. Where its key is left out, the token that shows it is
read as well. -/
def flowPair : (fuel : Nat) → Reading (Node × Node)
  | 0 => refuse
  | fuel + 1 => do
    let token ← peek
    let key ← if endsPairKey token.kind then do
        skip
        pure (Node.empty token.stop)
      else node fuel false false
    let second ← peek
    match second.kind with
    | .value =>
      skip
      let third ← peek
      if endsPairValue third.kind then return (key, .empty third.start)
      else return (key, ← node fuel false false)
    | _ => return (key, .empty second.start)

/-- Reads the entries of a flow mapping and its end; before all but the first there is a comma. -/
def flowEntries : (fuel : Nat) → (first : Bool) → Reading (List (Node × Node))
  | 0, _ => refuse
  | fuel + 1, first => do
    if (← peek).kind = .flowMappingEnd then
      skip
      return []
    else
      unless first do expect .flowEntry
      match (← peek).kind with
      | .flowMappingEnd => skip; return []
      | .key =>
        skip
        let second ← peek
        let key ← if endsFlowKey second.kind then pure (Node.empty second.start)
          else node fuel false false
        let third ← peek
        let value ← match third.kind with
          | .value => do
            skip
            let fourth ← peek
            if endsFlowValue fourth.kind then pure (Node.empty fourth.start)
            else node fuel false false
          | _ => pure (.empty third.start)
        return (key, value) :: (← flowEntries fuel false)
      | _ =>
        let key ← node fuel false false
        let value := Node.empty (← peek).start
        return (key, value) :: (← flowEntries fuel false)

end

/-- Reads directives: at most one version, which must be 1.1 or 1.2, and one expansion for each
handle. -/
def directives : (fuel : Nat) → (versioned : Bool) → Reading Unit
  | 0, _ => refuse
  | fuel + 1, versioned => do
    match (← peek).kind with
    | .versionDirective major minor =>
      if versioned || major ≠ 1 || (minor ≠ 1 && minor ≠ 2) then refuse
      else
        skip
        directives fuel true
    | .tagDirective handle expansion =>
      if (← get).handles.any (fun entry => entry.1 == handle) then refuse
      else
        skip
        modify (fun reader =>
          { reader with handles := reader.handles ++ [(handle, expansion)] })
        directives fuel versioned
    | _ => return ()

/-- The handles that every document has, unless it gives them other expansions. -/
def defaultHandles : List (String × List UInt8) :=
  [("!", asciiOctets ['!']), ("!!", asciiOctets "tag:yaml.org,2002:".toList)]

def ends : (fuel : Nat) → Reading Unit
  | 0 => refuse
  | fuel + 1 => do
    match (← peek).kind with
    | .documentEnd => skip; ends fuel
    | .streamEnd => return ()
    | _ => refuse

/-- Whether a document is left out before this token. -/
def endsDocument : TokenKind → Bool
  | .versionDirective _ _ | .tagDirective _ _ | .documentStart | .documentEnd | .streamEnd => true
  | _ => false

def document (fuel : Nat) : Reading Document := do
  let first ← peek
  let addDefaults : Reading Unit :=
    modify (fun reader => { reader with handles := reader.handles ++ defaultHandles })
  match first.kind with
  | .streamEnd => return { root := none, stop := first.start }
  | .versionDirective _ _ | .tagDirective _ _ | .documentStart =>
    directives fuel false
    addDefaults
    expect .documentStart
    let second ← peek
    let root ← if endsDocument second.kind then pure (Node.empty second.start)
      else node fuel true false
    let last ← peek
    ends fuel
    return { root := some root, stop := last.start }
  | _ =>
    addDefaults
    let root ← node fuel true false
    let last ← peek
    ends fuel
    return { root := some root, stop := last.start }

end NodeReader

/-- The document of a text, if the text is exactly one well-formed document or has none. -/
def Document.ofText? (text : String) : Option Document := do
  let tokens ← tokensOf? text
  (NodeReader.document (3 * tokens.length + 3)).run' { tokens }

end OperatorSource.Yaml
