import Conformance.Feature.Basic
import Conformance.Scope.Basic

/-!
# Specifications

A specification is a list of features together with the scope that they start from.  Its first
feature is a comment with the name of the package.

## Parts

* `Stats` counts features, and `Stats.count` does so for a list.
* `Specification` is what is run.
* `inheritSkip` settles which tests are skipped: a test without a tag list follows the comment
  before it.
-/

namespace Conformance

/-- How many features there are of each kind. -/
structure Stats where
  features : Nat
  comments : Nat
  /-- Skipped tests; comments are not counted here. -/
  skipped : Nat
  tests : Nat
deriving DecidableEq

namespace Stats

def zero : Stats :=
  ⟨0, 0, 0, 0⟩

/-- Count one more feature. -/
def add (s : Stats) : Feature → Stats
  | .comment _ => { s with features := s.features + 1, comments := s.comments + 1 }
  | .test t =>
    { s with
      features := s.features + 1
      tests := s.tests + 1
      skipped := if t.skip then s.skipped + 1 else s.skipped }

def count (features : List Feature) : Stats :=
  features.foldl add zero

end Stats

/-- A loaded specification. -/
structure Specification where
  /-- The text of the leading comment. -/
  package : String
  features : List Feature
  scope : Scope
  stats : Stats

/-- Hand the skip state of each comment to the tests below it that have no tag list of their own.
The first argument is the skip state of the comment before. -/
def inheritSkip : Bool → List Feature → List Feature
  | _, [] => []
  | _, .comment c :: rest => .comment c :: inheritSkip c.skip rest
  | ambient, .test t :: rest =>
    let t := if t.tags.isNone then { t with skip := ambient } else t
    .test t :: inheritSkip ambient rest

end Conformance
