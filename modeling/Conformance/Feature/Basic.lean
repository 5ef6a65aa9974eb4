import Conformance.Value.Basic

/-!
# Features

A feature is one entry of a specification.  A comment is a heading, and the first one names the
package.  A test assigns, calls or reads something and may state what should come out.  Either kind
may carry a tag list that says for which runtimes it is meant.

## Parts

* `Comment`, `Test` and `Feature` are the entries.
* `skipsFor` is the rule of tag lists: a list skips every runtime that it does not name.
* `Comment.canonical` writes a comment back as an entry.
-/

namespace Conformance

/-- A heading. -/
structure Comment where
  text : String
  /-- The tag list, if the entry has one. -/
  tags : Option (List String)
  skip : Bool
deriving DecidableEq

/-- One check of the code under test. -/
structure Test where
  /-- The tag list, if the entry has one; without it the comment before decides about skipping. -/
  tags : Option (List String)
  skip : Bool
  /-- The path that takes the outcome. -/
  assign : Option String
  /-- The path that is called or read. -/
  property : Option String
  /-- Whether the property is called rather than read. -/
  call : Bool
  args : List Value
  kwargs : Mapping
  /-- The expected result; null asks only that nothing is raised. -/
  result : Value
  /-- The test on one line, as reports show it. -/
  text : String

/-- One entry of a specification. -/
inductive Feature
  | comment (c : Comment)
  | test (t : Test)

/-- Whether a tag list leaves out the given runtime. -/
def skipsFor (runtime : String) : Option (List String) → Bool
  | some tags => !tags.contains runtime
  | none => false

/-- The entry that a comment is read from, with the tag list in front. -/
def Comment.canonical (c : Comment) : String :=
  match c.tags with
  | some tags => "(" ++ ":".intercalate tags ++ ") " ++ c.text
  | none => c.text

namespace Feature

/-- What reports show. -/
def text : Feature → String
  | comment c => c.text
  | test t => t.text

def skip : Feature → Bool
  | comment c => c.skip
  | test t => t.skip

def isComment : Feature → Bool
  | comment _ => true
  | test _ => false

end Feature

end Conformance
