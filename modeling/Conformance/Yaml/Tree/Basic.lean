import Conformance.Yaml.Token.Basic

/-!
# Trees of documents

A document as it is written: scalars with their notation, collections, tags and anchors, and aliases
that stand for an anchored part of the same document.

## Parts

* `Tree` is a part of a document and `Document` a whole one.
* `Tree.eventCount` measures a document for the limit on aliases.
* `Document.slots` finds the anchored parts.
-/

namespace Conformance.Yaml

/-- The tag of a part, and the slot that its anchor names, if it has either. -/
structure Properties where
  slot : Option Nat
  tag : Option (List UInt8)
deriving DecidableEq

/-- A part of a document.  Anchors are numbered, and an alias holds the number of its anchor. -/
inductive Tree
  | alias (slot : Nat)
  | scalar (properties : Properties) (style : Style) (text : String)
  | sequence (properties : Properties) (items : List Tree)
  | mapping (properties : Properties) (entries : List (Tree × Tree))
deriving Inhabited

/-- A document; nothing but the empty stream has no root. -/
structure Document where
  root : Option Tree

namespace Tree

/-- What stands where nothing is written. -/
def empty : Tree :=
  .scalar ⟨none, none⟩ .plain ""

def properties? : Tree → Option Properties
  | .alias _ => none
  | .scalar p _ _ | .sequence p _ | .mapping p _ => some p

mutual

/-- One for each scalar and alias, two for each collection. -/
def eventCount : Tree → Nat
  | .alias _ | .scalar .. => 1
  | .sequence _ items => itemEvents items + 2
  | .mapping _ entries => entryEvents entries + 2

def itemEvents : List Tree → Nat
  | [] => 0
  | item :: rest => eventCount item + itemEvents rest

def entryEvents : List (Tree × Tree) → Nat
  | [] => 0
  | (key, value) :: rest => eventCount key + eventCount value + entryEvents rest

end

mutual

/-- All parts of a tree in document order. -/
def parts : Tree → List Tree
  | .alias slot => [.alias slot]
  | .scalar p style text => [.scalar p style text]
  | .sequence p items => .sequence p items :: itemParts items
  | .mapping p entries => .mapping p entries :: entryParts entries

def itemParts : List Tree → List Tree
  | [] => []
  | item :: rest => parts item ++ itemParts rest

def entryParts : List (Tree × Tree) → List Tree
  | [] => []
  | (key, value) :: rest => parts key ++ parts value ++ entryParts rest

end

end Tree

namespace Document

/-- The anchored parts with their slots, the last one first.  A slot can be taken twice; then the
later part has it. -/
def slots (d : Document) : List (Nat × Tree) :=
  ((d.root.map Tree.parts).getD []).reverse.filterMap fun part =>
    part.properties?.bind fun p => p.slot.map (·, part)

/-- The part that an alias stands for. -/
def part? (slots : List (Nat × Tree)) (slot : Nat) : Option Tree :=
  slots.lookup slot

end Document

end Conformance.Yaml
