import Conformance.Yaml.Node.Scalar

/-!
# Nodes from trees

The content of a document is found by giving each scalar its meaning, replacing aliases by the
content of what they stand for, and checking that no mapping has a key twice.  Collections may be
nested 128 deep, aliases included, so an alias inside of what it stands for is refused.  The number
of aliases that are followed is limited by the size of the document.

## Parts

* `maxDepth` and `maxJumps` are the limits.
* `readPart` gives a part of a document its content, and `follow` replaces aliases.
* `Node.ofDocument` gives a document its content.
-/

namespace Conformance.Yaml

/-- How deep collections can be nested. -/
def maxDepth : Nat :=
  128

/-- How many aliases can be followed in a document of a given size. -/
def maxJumps (events : Nat) : Nat :=
  100 * events

/-- What reading a document needs: its anchored parts and the number of aliases left to follow. -/
structure Anchored where
  slots : List (Nat × Tree)
  jumps : Nat

/-- Reading counts the aliases that it has followed. -/
abbrev NodeM := StateT Nat (Except Fault)

/-- Count one more alias. -/
def countJump (limit : Nat) : NodeM Unit := do
  let jumps ← get
  if jumps < limit then set (jumps + 1) else throw .tooManyAliases

/-- Put a local tag around the content that it belongs to. -/
def underTag (tag : Option (List UInt8)) (content : Node) : Node :=
  match tag.map tagRole with
  | some (.local name) => .tagged name content
  | _ => content

/-- Read the items of a sequence. -/
def readItems (read : Tree → NodeM Node) : List Tree → NodeM (List Node)
  | [] => return []
  | item :: rest => do
    let item ← read item
    return item :: (← readItems read rest)

/-- Read the entries of a mapping, given those before them, last one first. -/
def readEntries (read : Tree → NodeM Node) (before : List (Node × Node)) :
    List (Tree × Tree) → NodeM (List (Node × Node))
  | [] => return before.reverse
  | (key, value) :: rest => do
    let key ← read key
    if before.any fun entry => entry.1.same key then throw .repeatedKey
    let value ← read value
    readEntries read ((key, value) :: before) rest

/-- Read a part, or what it stands for if it is an alias. -/
def follow (a : Anchored) (readPart : Tree → NodeM Node) : Tree → NodeM Node
  | .alias slot => do
    countJump a.jumps
    match Document.part? a.slots slot with
    | some part => readPart part
    | none => throw (.unknownAnchor (toString slot))
  | part => readPart part

/-- Read a part that is no alias, with so many levels of collections left.  A local tag comes around
what the part says without it. -/
def readPart (a : Anchored) : (depth : Nat) → Tree → NodeM Node
  | _, .alias slot => throw (.unknownAnchor (toString slot))
  | _, .scalar p style text => return underTag p.tag (← scalarNode p.tag style text)
  | 0, .sequence .. | 0, .mapping .. => throw .nestedTooDeep
  | depth + 1, .sequence p items => do
    return underTag p.tag (.sequence (← readItems (follow a (readPart a depth)) items))
  | depth + 1, .mapping p entries => do
    let read := follow a (readPart a depth)
    return underTag p.tag (.mapping (← readEntries read [] entries))

/-- The content of a document. -/
def Node.ofDocument (d : Document) : Except Fault Node :=
  match d.root with
  | none => .ok .null
  | some root => do
    let a : Anchored := ⟨d.slots, maxJumps root.eventCount⟩
    let (node, _) ← (follow a (readPart a maxDepth) root).run 0
    return node

end Conformance.Yaml
