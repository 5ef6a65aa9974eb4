import Conformance.Binary64.Text
import Conformance.Text.Decimal
import Conformance.Yaml.Fault
import Conformance.Yaml.Node.Basic
import Conformance.Yaml.Token.Text
import Conformance.Yaml.Tree.Basic

/-!
# What scalars mean

A plain scalar without a tag of the core schema is null, a boolean, a number or a string, whichever
its text spells; a scalar in any other notation is a string.  A tag of the core schema decides for
itself, and refuses a text that does not spell what it names.

## Parts

* `isNullWord`, `boolWord?`, `integer?` and `float?` recognise the spellings.
* `plainNode` is the meaning of a plain scalar.
* `CoreTag` are the tags that decide, and `scalarNode` is the meaning of any scalar.
-/

namespace Conformance.Yaml

open Text (natOfDigits readNat?)

/-! ## Spellings -/

def isNullWord (text : String) : Bool :=
  ["null", "Null", "NULL", "~"].contains text

def boolWord? (text : String) : Option Bool :=
  if ["true", "True", "TRUE"].contains text then some true
  else if ["false", "False", "FALSE"].contains text then some false
  else none

/-- Whether the text is a run of digits with a needless zero in front.  Such texts are strings. -/
def hasLeadingZero (text : List Char) : Bool :=
  let digits :=
    match text with
    | '+' :: rest | '-' :: rest => rest
    | _ => text
  match digits with
  | '0' :: rest => !rest.isEmpty && rest.all Char.isDigit
  | _ => false

/-- The number behind one of the base marks. -/
def readBased? : List Char → Option Nat
  | 'x' :: digits =>
    if digits.isEmpty || !digits.all isHexDigit then none else some (natOfHex digits)
  | 'o' :: digits => readSmallBase? 8 digits
  | 'b' :: digits => readSmallBase? 2 digits
  | _ => none
where
  readSmallBase? (base : Nat) (digits : List Char) : Option Nat :=
    if digits.isEmpty || !digits.all (fun c => c.isDigit && c.toNat - '0'.toNat < base) then none
    else some (digits.foldl (fun total c => base * total + (c.toNat - '0'.toNat)) 0)

/-- The number without its sign: with a base mark, or decimal without a needless zero. -/
def readMagnitude? (text : List Char) : Option Nat :=
  match text with
  | '0' :: more =>
    match readBased? more with
    | some n => some n
    | none => if hasLeadingZero text then none else readNat? text
  | _ => readNat? text

/-- The integer that a text spells, of any size. -/
def integer? (text : List Char) : Option Int :=
  match text with
  | '-' :: rest => (readMagnitude? rest).map fun n => -(n : Int)
  | '+' :: rest => (readMagnitude? rest).map Int.ofNat
  | _ => (readMagnitude? text).map Int.ofNat

/-- A decimal that names a finite number. -/
def finite? (text : List Char) : Option Binary64 :=
  (Binary64.read? text).filter fun x => x.magnitude < Binary64.infiniteMagnitude

/-- The floating-point number that a text spells.  Infinity may have a sign, NaN may not. -/
def float? (text : List Char) : Option Binary64 :=
  let word := String.ofList text
  if [".inf", ".Inf", ".INF", "+.inf", "+.Inf", "+.INF"].contains word then
    some (.infinite false)
  else if ["-.inf", "-.Inf", "-.INF"].contains word then some (.infinite true)
  else if [".nan", ".NaN", ".NAN"].contains word then some .nan
  else finite? text

/-! ## Numbers -/

/-- An integer as a number of a document, if the text spells one.  Integers beyond 64 bits are
refused; beyond 128 bits the text does not count as an integer any more. -/
def integerNumber? (text : List Char) : Except Fault (Option Number) :=
  match integer? text with
  | none => .ok none
  | some i =>
    if Int64.minValue.toInt ≤ i ∧ i < (UInt64.size : Int) then .ok (some (.int i))
    else if -((1 <<< 127 : Nat) : Int) ≤ i ∧ i < ((1 <<< 128 : Nat) : Int) then
      .error .numberOutOfRange
    else .ok none

/-- The meaning of a plain scalar. -/
def plainNode (text : String) : Except Fault Node := do
  if text.isEmpty || isNullWord text then return .null
  else
    match boolWord? text with
    | some b => return .bool b
    | none =>
      let chars := text.toList
      match ← integerNumber? chars with
      | some n => return .number n
      | none =>
        if hasLeadingZero chars then return .string text
        else
          match float? chars with
          | some x => return .number (.float x)
          | none => return .string text

/-! ## Tags -/

/-- The tags of the core schema that decide what a scalar is. -/
inductive CoreTag
  | null
  | bool
  | int
  | float
deriving DecidableEq

/-- A tag as what it does: a local tag is kept beside the content, or counts for nothing if its
octets are not UTF-8; a deciding tag settles the kind of a scalar, and any other tag makes a scalar
a string. -/
inductive TagRole
  | local (name : String)
  | unreadable
  | deciding (tag : CoreTag)
  | other
deriving DecidableEq

/-- The role of a tag.  Local tags start with an exclamation mark, which is not part of their name;
a second one is dropped as well.  A mark that nothing follows is a name. -/
def tagRole (tag : List UInt8) : TagRole :=
  match tag with
  | 0x21 :: name =>
    match String.fromUTF8? ⟨name.toArray⟩ with
    | some name =>
      match name.toList with
      | [] => .local "!"
      | '!' :: c :: rest => .local (String.ofList (c :: rest))
      | _ => .local name
    | none => .unreadable
  | _ =>
    let word := String.fromUTF8? ⟨tag.toArray⟩
    if word = some "tag:yaml.org,2002:null" then .deciding .null
    else if word = some "tag:yaml.org,2002:bool" then .deciding .bool
    else if word = some "tag:yaml.org,2002:int" then .deciding .int
    else if word = some "tag:yaml.org,2002:float" then .deciding .float
    else .other

/-- The meaning of a text under a tag that decides. -/
def decidedNode (tag : CoreTag) (text : String) : Except Fault Node :=
  match tag with
  | .null => if isNullWord text then .ok .null else .error .unsuitableTag
  | .bool =>
    match boolWord? text with
    | some b => .ok (.bool b)
    | none => .error .unsuitableTag
  | .int => do
    match ← integerNumber? text.toList with
    | some n => return .number n
    | none => throw .unsuitableTag
  | .float =>
    match float? text.toList with
    | some x => .ok (.number (.float x))
    | none => .error .unsuitableTag

/-- The meaning of a scalar, apart from a local tag on it. -/
def scalarNode (tag : Option (List UInt8)) (style : Style) (text : String) : Except Fault Node :=
  let untagged := if style = .plain then plainNode text else .ok (.string text)
  match tag.map tagRole with
  | some (.deciding tag) => decidedNode tag text
  | some .other => .ok (.string text)
  | some (.local _) | some .unreadable | none => untagged

end Conformance.Yaml
