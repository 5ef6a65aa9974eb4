import Conformance.Text.Blank
import Conformance.Text.WordChar

/-!
# The grammar of entries

Two kinds of text have a grammar of their own: the text of a comment, and the left side of a test,
which is the key of a single-entry mapping.  Both may start with a tag list in parentheses, and both
may have several lines, of which the first one that fits is taken.

    (tags) Words of a comment
    (tags) target = property

## Parts

* `tagList?` takes a tag list off the front of a text, and `splitTags` divides its inside.
* `commentLine?` finds the words of a comment.
* `leftSide?` finds the target and the property of a test.
-/

namespace Conformance

open Text

/-! ## Lines and tag lists -/

/-- Everything from the start of each later line on. -/
def laterLines : List Char → List (List Char)
  | [] => []
  | c :: rest => if c = '\n' then rest :: laterLines rest else laterLines rest

/-- Everything from the start of each line on; the empty line behind a final line feed counts. -/
def lineStarts (text : List Char) : List (List Char) :=
  text :: laterLines text

/-- The rest of the line. -/
def restOfLine (text : List Char) : List Char :=
  text.takeWhile (· ≠ '\n')

/-- The inside of a leading tag list and what follows it.  The first closing parenthesis ends the
list, on whichever line it stands. -/
def tagList? : List Char → Option (List Char × List Char)
  | '(' :: text =>
    match text.dropWhile (· ≠ ')') with
    | _ :: rest => some (text.takeWhile (· ≠ ')'), rest)
    | [] => none
  | _ => none

/-- The tags of a tag list: its stretches between colons, trimmed, without the empty ones. -/
def splitTags (list : List Char) : List String :=
  (pieces ':' list).filterMap nonEmpty?

/-! ## Comments -/

/-- The tag list and the words of a comment that starts here.  Blanks before the words are passed
over, line feeds included; the words start with a word character and end with their line. -/
def commentHere? (text : List Char) : Option (Option (List Char) × List Char) :=
  let (tags, body) :=
    match tagList? text with
    | some (tags, body) => (some tags, body)
    | none => (none, text)
  let words := trimStart body
  match words with
  | c :: _ => if isWordChar c then some (tags, restOfLine words) else none
  | [] => none

/-- The tag list and the words of a comment, at the first line start where there are any. -/
def commentLine? (text : List Char) : Option (Option (List Char) × List Char) :=
  (lineStarts text).findSome? commentHere?

/-! ## Left sides -/

/-- The parts of the left side of a test, not yet trimmed. -/
structure LeftSide where
  tags : Option (List Char)
  target : Option (List Char)
  property : Option (List Char)

/-- The property at the front of a text: a character and the rest of its line. -/
def propertyHere : List Char → Option (List Char)
  | [] => none
  | c :: rest => some (c :: restOfLine rest)

/-- Target and property of a body without leading blanks.  The first equals sign ends the target,
unless a second one follows it: then all of the line is the property.  The property may start on the
line after the equals sign. -/
def splitBody (body : List Char) : Option (List Char) × Option (List Char) :=
  match body.dropWhile (· ≠ '=') with
  | [] => (none, propertyHere body)
  | _ :: '=' :: _ => (none, propertyHere body)
  | _ :: after => (some (body.takeWhile (· ≠ '=')), propertyHere after)

/-- Target and property of a body.  A body that starts with two equals signs has neither, but blanks
in front of them make all of the line a property. -/
def body? (text : List Char) : Option (Option (List Char) × Option (List Char)) :=
  let body := trimStart text
  if ['=', '='].isPrefixOf body && text.length = body.length then none
  else some (splitBody body)

/-- The left side that starts here.  A tag list is taken if what follows it is a body; otherwise the
text is a body as a whole. -/
def leftSideHere? (text : List Char) : Option LeftSide :=
  let tagged := do
    let (tags, rest) ← tagList? text
    let (target, property) ← body? rest
    return ⟨some tags, target, property⟩
  let untagged := do
    let (target, property) ← body? text
    return ⟨none, target, property⟩
  tagged <|> untagged

/-- The left side of a test, at the first line start where there is one. -/
def leftSide? (text : List Char) : Option LeftSide :=
  (lineStarts text).findSome? leftSideHere?

end Conformance
