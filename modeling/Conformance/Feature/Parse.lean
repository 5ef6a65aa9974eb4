import Conformance.Error
import Conformance.Feature.Basic
import Conformance.Feature.Grammar
import Conformance.Feature.Payload
import Conformance.Value.Render

/-!
# Reading features

A raw entry is a string, which is a comment, or a mapping with a single entry, which is a test: its
key is the left side and its value the right side.  Any other entry is an error.

## Parts

* `Comment.parse` and `Test.parse` read the two kinds, and `Feature.parse` chooses between them.
* `Test.line` writes a test on one line.
-/

namespace Conformance

open Text

/-! ## Comments -/

/-- Read a comment.  Its words end at the line end and are trimmed there. -/
def Comment.parse (runtime text : String) : Except Error Comment :=
  match commentLine? text.toList with
  | none => .error (.malformedComment text)
  | some (tags, words) =>
    let tags := tags.map splitTags
    .ok ⟨String.ofList (trimEnd words), tags, skipsFor runtime tags⟩

/-! ## Tests -/

/-- The text of the arguments between the parentheses of a call. -/
def argumentList (views : Views) (args : List Value) (kwargs : Mapping) : String :=
  ", ".intercalate
    (args.map (·.render views) ++ kwargs.map fun entry => entry.1 ++ "=" ++ entry.2.render views)

/-- A test on one line, as `target = property(arguments) == result`.  Parts that the test does not
have are left out; a plain assignment shows the value instead of a property. -/
def Test.line (views : Views) (assign property : Option String) (call : Bool) (payload : Payload) :
    String :=
  let subject :=
    match assign, property with
    | some target, some property => target ++ " = " ++ property
    | some target, none => target ++ " = " ++ payload.result.render views
    | none, property => property.getD ""
  let called :=
    if call then subject ++ "(" ++ argumentList views payload.args payload.kwargs ++ ")"
    else subject
  if property.isSome && !payload.result.isNull then
    let expected := if payload.result.isError then "ERROR" else payload.result.render views
    called ++ " == " ++ expected
  else called

/-- A property without the equality mark at its end, and whether there was one. -/
def stripMark (property : String) : String × Bool :=
  match property.toList.reverse with
  | '=' :: '=' :: rest => (String.ofList (trimEnd rest.reverse), true)
  | _ => (property, false)

/-- Whether a right side is a sequence, which makes an unmarked property a call. -/
def Value.items? : Value → Option (List Value)
  | .array items => some items
  | _ => none

/-- Read a test from its left and right side.  A property is called if it has no equality mark and
the right side is a sequence; in every other case the right side is the expected result. -/
def Test.parse (views : Views) (runtime left : String) (right : Value) : Except Error Test :=
  match leftSide? left.toList with
  | none => .error (.malformedFeature left)
  | some side =>
    let tags := side.tags.map splitTags
    let assign := side.target.bind nonEmpty?
    let property := side.property.bind nonEmpty?
    if assign.isNone && property.isNone then .error (.invalidFeature left)
    else
      let stripped := property.map stripMark
      let name := stripped.map Prod.fst
      let called :=
        match stripped with
        | some (_, false) => right.items?
        | _ => none
      let payload := (called.map Payload.ofItems).getD { Payload.empty with result := right }
      .ok {
        tags := tags
        skip := skipsFor runtime tags
        assign := assign
        property := name
        call := called.isSome
        args := payload.args
        kwargs := payload.kwargs
        result := payload.result
        text := Test.line views assign name called.isSome payload }

/-! ## Features -/

/-- Read one entry for a runtime. -/
def Feature.parse (views : Views) (runtime : String) : Value → Except Error Feature
  | .string text => .comment <$> Comment.parse runtime text
  | .object [(left, right)] => .test <$> Test.parse views runtime left right
  | other => .error (.notAFeature (other.render views))

end Conformance
