import Conformance.Assoc
import Conformance.Yaml.Fault
import Conformance.Yaml.Tree.Basic

/-!
# Trees from tokens

The grammar of tokens: which sequences of them make up documents, and which document each of them
makes up.  Wherever a part may be left out, an empty scalar stands in for it.

## Parts

* `Reader` is the state of reading: the tokens ahead, the anchors of the document so far, and the
  tag handles that its directives define.
* `readNode` reads one part of a document together with the functions for its collections.
* `readDocuments` reads a stream, and `Document.ofTokens` all of it.
-/

namespace Conformance.Yaml

/-! ## State -/

/-- What is read with. -/
structure Reader where
  tokens : List Token
  /-- The anchors by name.  A new anchor gets the number of names known so far. -/
  anchors : Assoc String Nat
  handles : Assoc (List UInt8) (List UInt8)

/-- Reading a part of the stream. -/
abbrev ReadM := StateT Reader (Except Fault)

namespace ReadM

def peek : ReadM Token := do
  return (← get).tokens.head?.getD .streamEnd

/-- Pass over a token. -/
def advance : ReadM Unit :=
  modify fun r => { r with tokens := r.tokens.drop 1 }

/-- Pass over a token if it is the given one, and answer whether it is. -/
def accept (token : Token) : ReadM Bool := do
  if (← peek) = token then
    advance
    return true
  else return false

/-- Give the next free number to an anchor. -/
def defineAnchor (name : String) : ReadM Nat := do
  let slot := (← get).anchors.length
  modify fun r => { r with anchors := r.anchors.insert name slot }
  return slot

def anchorSlot (name : String) : ReadM Nat := do
  match (← get).anchors.get? name with
  | some slot => return slot
  | none => throw (.unknownAnchor name)

/-- The tag that a handle and a suffix make; without handle it is the suffix. -/
def resolveTag (handle suffix : List UInt8) : ReadM (List UInt8) := do
  if handle.isEmpty then return suffix
  else
    match (← get).handles.get? handle with
    | some leading => return leading ++ suffix
    | none => throw .undefinedTagHandle

end ReadM

open ReadM

/-! ## Properties -/

def readAnchor : ReadM (Option Nat) := do
  match ← peek with
  | .anchor name =>
    advance
    return some (← defineAnchor name)
  | _ => return none

def readTagToken : ReadM (Option (List UInt8 × List UInt8)) := do
  match ← peek with
  | .tag handle suffix =>
    advance
    return some (handle, suffix)
  | _ => return none

/-- An anchor and a tag in either order, each of them optional. -/
def readProperties : ReadM Properties := do
  let slot ← readAnchor
  let tag ← readTagToken
  let slot ← if slot.isNone && tag.isSome then readAnchor else pure slot
  let tag ←
    match tag with
    | some (handle, suffix) => some <$> resolveTag handle suffix
    | none => pure none
  return ⟨slot, tag⟩

/-! ## Parts of a document -/

/-- Whether a token ends an entry of a block mapping before anything is read. -/
def endsBlockEntry (token : Token) : Bool :=
  token = .key || token = .value || token = .blockEnd

mutual

/-- Read one part.  Block collections are possible if `block`, and a sequence that is not indented
further than the mapping around it if `level`. -/
def readNode : (fuel : Nat) → (block level : Bool) → ReadM Tree
  | 0, _, _ => throw .unexpectedToken
  | fuel + 1, block, level => do
    match ← peek with
    | .alias name =>
      advance
      return .alias (← anchorSlot name)
    | _ =>
      let p ← readProperties
      let token ← peek
      match token with
      | .scalar text style =>
        advance
        return .scalar p style text
      | .flowSequenceStart =>
        advance
        return .sequence p (← readFlowItems fuel true)
      | .flowMappingStart =>
        advance
        return .mapping p (← readFlowEntries fuel true)
      | _ =>
        if level && token = .blockEntry then
          return .sequence p (← readLevelItems fuel)
        else if block && token = .blockSequenceStart then
          advance
          return .sequence p (← readBlockItems fuel)
        else if block && token = .blockMappingStart then
          advance
          return .mapping p (← readBlockEntries fuel)
        else if p.slot.isSome || p.tag.isSome then
          return .scalar p .plain ""
        else throw .unexpectedToken

/-- The items of a block sequence and its end. -/
def readBlockItems : (fuel : Nat) → ReadM (List Tree)
  | 0 => throw .unexpectedToken
  | fuel + 1 => do
    if ← accept .blockEntry then
      let token ← peek
      let item ←
        if token = .blockEntry || token = .blockEnd then pure .empty
        else readNode fuel true false
      return item :: (← readBlockItems fuel)
    else if ← accept .blockEnd then return []
    else throw .unexpectedToken

/-- The items of a sequence on the level of the mapping around it; it ends with its last item. -/
def readLevelItems : (fuel : Nat) → ReadM (List Tree)
  | 0 => throw .unexpectedToken
  | fuel + 1 => do
    if ← accept .blockEntry then
      let token ← peek
      let item ←
        if token = .blockEntry || endsBlockEntry token then pure .empty
        else readNode fuel true false
      return item :: (← readLevelItems fuel)
    else return []

/-- The entries of a block mapping and its end. -/
def readBlockEntries : (fuel : Nat) → ReadM (List (Tree × Tree))
  | 0 => throw .unexpectedToken
  | fuel + 1 => do
    if ← accept .key then
      let key ← if endsBlockEntry (← peek) then pure .empty else readNode fuel true true
      readBlockValue fuel key
    else if ← accept .blockEnd then return []
    else throw .unexpectedToken

/-- The value of a key in a block mapping, and the entries behind it. -/
def readBlockValue : (fuel : Nat) → (key : Tree) → ReadM (List (Tree × Tree))
  | 0, _ => throw .unexpectedToken
  | fuel + 1, key => do
    let value ←
      if ← accept .value then
        if endsBlockEntry (← peek) then pure .empty else readNode fuel true true
      else pure .empty
    return (key, value) :: (← readBlockEntries fuel)

/-- The items of a flow sequence and its end.  A key among them makes a mapping with one entry. -/
def readFlowItems : (fuel : Nat) → (first : Bool) → ReadM (List Tree)
  | 0, _ => throw .unexpectedToken
  | fuel + 1, first => do
    if ← accept .flowSequenceEnd then return []
    else
      unless first do
        unless ← accept .flowEntry do throw .unexpectedToken
      if ← accept .flowSequenceEnd then return []
      else
        let item ←
          if ← accept .key then readPair fuel else readNode fuel false false
        return item :: (← readFlowItems fuel false)

/-- A single entry inside a flow sequence.  A token that ends the key before it has begun is passed
over. -/
def readPair : (fuel : Nat) → ReadM Tree
  | 0 => throw .unexpectedToken
  | fuel + 1 => do
    let token ← peek
    let key ←
      if token = .value || token = .flowEntry || token = .flowSequenceEnd then do
        advance
        pure .empty
      else readNode fuel false false
    let value ←
      if ← accept .value then
        let token ← peek
        if token = .flowEntry || token = .flowSequenceEnd then pure .empty
        else readNode fuel false false
      else pure .empty
    return .mapping ⟨none, none⟩ [(key, value)]

/-- The entries of a flow mapping and its end.  An entry that no colon follows has an empty
value. -/
def readFlowEntries : (fuel : Nat) → (first : Bool) → ReadM (List (Tree × Tree))
  | 0, _ => throw .unexpectedToken
  | fuel + 1, first => do
    if ← accept .flowMappingEnd then return []
    else
      unless first do
        unless ← accept .flowEntry do throw .unexpectedToken
      if ← accept .flowMappingEnd then return []
      else
        let entry ←
          if ← accept .key then
            let token ← peek
            let key ←
              if token = .value || token = .flowEntry || token = .flowMappingEnd then pure .empty
              else readNode fuel false false
            let value ←
              if ← accept .value then
                let token ← peek
                if token = .flowEntry || token = .flowMappingEnd then pure .empty
                else readNode fuel false false
              else pure .empty
            pure (key, value)
          else pure (← readNode fuel false false, .empty)
        return entry :: (← readFlowEntries fuel false)

end

/-! ## Documents -/

/-- The handles that every document knows: of local tags, and of the tags of the core schema. -/
def coreLeading : List UInt8 :=
  "tag:yaml.org,2002:".toUTF8.toList

def defaultHandles : Assoc (List UInt8) (List UInt8) :=
  [([0x21], [0x21]), ([0x21, 0x21], coreLeading)]

/-- Read the directives in front of a document.  A version may be given once and has to be 1.1 or
1.2; a handle may be defined once. -/
def readDirectives :
    (fuel : Nat) → (versioned : Bool) → (defined : Assoc (List UInt8) (List UInt8)) →
      ReadM (Assoc (List UInt8) (List UInt8))
  | 0, _, defined => return defined
  | fuel + 1, versioned, defined => do
    match ← peek with
    | .version major minor =>
      if versioned then throw .repeatedDirective
      if major ≠ 1 || (minor ≠ 1 && minor ≠ 2) then throw .unsupportedVersion
      advance
      readDirectives fuel true defined
    | .tagHandle handle leading =>
      if (defined.get? handle).isSome then throw .repeatedDirective
      advance
      readDirectives fuel versioned (defined.insert handle leading)
    | _ => return defined

/-- Whether a token stands in front of a document or behind the last one. -/
def isOutside : Token → Bool
  | .version .. | .tagHandle .. | .documentStart | .documentEnd | .streamEnd => true
  | _ => false

/-- Start a document: no anchors are known, and no handles but the given and the default ones. -/
def beginDocument (handles : Assoc (List UInt8) (List UInt8)) : ReadM Unit :=
  modify fun r => { r with anchors := [], handles := defaultHandles.merge handles }

/-- Pass over markers of the end of a document. -/
def skipDocumentEnds : ReadM Unit :=
  modify fun r => { r with tokens := r.tokens.dropWhile (· = .documentEnd) }

/-- Read documents to the end of the stream.  Only the first one may begin without a marker. -/
def readDocuments : (fuel : Nat) → (first : Bool) → ReadM (List Document)
  | 0, _ => throw .unexpectedToken
  | fuel + 1, first => do
    unless first do skipDocumentEnds
    let token ← peek
    if token = .streamEnd then return []
    let root ←
      if first && (!isOutside token || token = .documentEnd) then do
        beginDocument []
        readNode fuel true false
      else do
        let handles ← readDirectives fuel false []
        unless ← accept .documentStart do throw .unexpectedToken
        beginDocument handles
        if isOutside (← peek) then pure .empty else readNode fuel true false
    discard <| accept .documentEnd
    return ⟨some root⟩ :: (← readDocuments fuel false)

/-- The documents of a stream of tokens.  A stream without any is one document without root.  The
depth of reading is bounded by the number of tokens: of three nested steps at least one takes a
token. -/
def Document.ofTokens (tokens : List Token) : Except Fault (List Document) := do
  let (documents, _) ← (readDocuments (3 * tokens.length + 8) true).run ⟨tokens, [], []⟩
  return if documents.isEmpty then [⟨none⟩] else documents

end Conformance.Yaml
