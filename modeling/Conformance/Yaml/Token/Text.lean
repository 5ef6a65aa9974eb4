import Conformance.Yaml.Cell
import Conformance.Yaml.Token.Basic
import Conformance.Text.Decimal

/-!
# The texts of scalars

The four notations of a scalar: plain, quoted in two ways, and as a block.  In the first three, a
stretch of blanks between words is kept if it stays on a line.  If it has line breaks in it, the
blanks go and the breaks are folded: a single one becomes a space, and of several the first is
dropped.  In a block the lines are kept as they are or folded by the same rule.

## Parts

* `Gap` is a stretch of blanks and breaks, and `Gap.text` what it leaves in the scalar.
* `plainText` reads a plain scalar.
* `quotedText` reads a quoted one, with the escapes of `escaped`.
* `blockText` reads a block scalar, header first.
-/

namespace Conformance.Yaml

open Text (natOfDigits)

/-! ## Folding -/

/-- A stretch of blanks and breaks: the blanks before the first break, whether the line was left,
the first break, and the breaks behind it.  Blanks and breaks are held last one first.  An escaped
line break leaves the line without counting as the first break. -/
structure Gap where
  blanks : List Char
  broken : Bool
  first : Option Char
  more : List Char

namespace Gap

def empty : Gap :=
  ⟨[], false, none, []⟩

/-- The stretch after an escaped line break. -/
def escapedBreak : Gap :=
  ⟨[], true, none, []⟩

/-- Add a blank or a break. -/
def add (g : Gap) (c : Char) : Gap :=
  if isBreak c then
    if g.broken then { g with more := c :: g.more }
    else { g with blanks := [], broken := true, first := some c }
  else if g.broken then g
  else { g with blanks := c :: g.blanks }

/-- What a stretch leaves in the scalar, last character first.  The two separators do not fold. -/
def text (g : Gap) : List Char :=
  if g.broken then
    match g.first with
    | some '\n' => if g.more.isEmpty then [' '] else g.more
    | some c => g.more ++ [c]
    | none => g.more
  else g.blanks

end Gap

/-! ## Plain scalars -/

/-- Whether a character separates items in a flow collection. -/
def isFlowIndicator (c : Char) : Bool :=
  c == ',' || c == '[' || c == ']' || c == '{' || c == '}'

/-- A plain scalar: its text, whether it ended behind a line break, and what follows. -/
structure Plain where
  text : String
  broken : Bool
  rest : List Cell

def Plain.of (gap : Gap) (out : List Char) (rest : List Cell) : Plain :=
  ⟨String.ofList out.reverse, gap.broken, rest⟩

/-- Read a plain scalar.  `gap` is the stretch just passed, if the text is between two words;
`indent` is the column that further lines must reach.  A word ends at a colon in front of a blank
and, in a flow collection, at an indicator; between words, a document marker, a comment or a line
with too little indentation ends the scalar. -/
def plainText (flow : Bool) (indent : Int) :
    (gap : Option Gap) → (out : List Char) → List Cell → Except Fault Plain
  | gap, out, [] => .ok (.of (gap.getD .empty) out [])
  | gap, out, c :: rest =>
    let passed := gap.getD .empty
    if isBlank c.char || isBreak c.char then
      if passed.broken && c.column < indent && c.char == '\t' then .error .tabIndentation
      else plainText flow indent (some (passed.add c.char)) out rest
    else if gap.isSome &&
        ((!flow && c.column < indent) || atMarker (c :: rest) || c.char == '#') then
      .ok (.of passed out (c :: rest))
    else if flow && c.char == ':' &&
        rest.head?.any (fun next => isFlowIndicator next.char || next.char == '?') then
      .error .colonInPlainText
    else if (c.char == ':' && isWordEnd rest) || (flow && isFlowIndicator c.char) then
      .ok (.of passed out (c :: rest))
    else plainText flow indent none (c.char :: (passed.text ++ out)) rest

/-! ## Quoted scalars -/

def isHexDigit (c : Char) : Bool :=
  c.isDigit || ('a' ≤ c && c ≤ 'f') || ('A' ≤ c && c ≤ 'F')

def hexValue (c : Char) : Nat :=
  if c.isDigit then c.toNat - '0'.toNat
  else if 'a' ≤ c then c.toNat - 'a'.toNat + 10
  else c.toNat - 'A'.toNat + 10

/-- The number that a run of hexadecimal digits stands for. -/
def natOfHex (digits : List Char) : Nat :=
  digits.foldl (fun total c => 16 * total + hexValue c) 0

/-- The character that a one-letter escape stands for. -/
def shortEscape? : Char → Option Char
  | '0' => some '\x00'
  | 'a' => some '\x07'
  | 'b' => some '\x08'
  | 't' | '\t' => some '\t'
  | 'n' => some '\n'
  | 'v' => some '\x0b'
  | 'f' => some '\x0c'
  | 'r' => some '\r'
  | 'e' => some '\x1b'
  | ' ' => some ' '
  | '"' => some '"'
  | '/' => some '/'
  | '\\' => some '\\'
  | 'N' => some '\u0085'
  | '_' => some '\u00a0'
  | 'L' => some '\u2028'
  | 'P' => some '\u2029'
  | _ => none

/-- The number of hexadecimal digits that an escape by code point has. -/
def escapeWidth? : Char → Option Nat
  | 'x' => some 2
  | 'u' => some 4
  | 'U' => some 8
  | _ => none

/-- The character that an escape stands for, read from behind the backslash, and the number of
characters that it takes there. -/
def escaped (cells : List Cell) : Except Fault (Char × Nat) :=
  match cells with
  | [] => .error .malformedEscape
  | c :: rest =>
    match shortEscape? c.char, escapeWidth? c.char with
    | some char, _ => .ok (char, 1)
    | none, some width =>
      let digits := (rest.take width).map Cell.char
      let n := natOfHex digits
      if digits.length = width && digits.all isHexDigit && n.isValidChar then
        .ok (Char.ofNat n, width + 1)
      else .error .malformedEscape
    | none, none => .error .malformedEscape

/-- Read a quoted scalar behind its opening quote, and what follows its closing one.  `pending` are
characters of an escape that were read ahead and are still to be passed over. -/
def quotedText (quote : Char) :
    (pending : Nat) → (gap : Option Gap) → (out : List Char) → List Cell →
      Except Fault (String × List Cell)
  | _, _, _, [] => .error .unclosedQuote
  | pending + 1, gap, out, _ :: rest => quotedText quote pending gap out rest
  | 0, gap, out, c :: rest =>
    let passed := gap.getD .empty
    if isBlank c.char || isBreak c.char then
      quotedText quote 0 (some (passed.add c.char)) out rest
    else if gap.isSome && atMarker (c :: rest) then .error .unexpectedToken
    else
      let out := passed.text ++ out
      if c.char == quote then
        if quote == '\'' && nextIs quote rest then quotedText quote 1 none (quote :: out) rest
        else .ok (String.ofList out.reverse, rest)
      else if quote == '"' && c.char == '\\' then
        match rest with
        | next :: _ =>
          if isBreak next.char then quotedText quote 1 (some .escapedBreak) out rest
          else
            match escaped rest with
            | .ok (char, width) => quotedText quote width none (char :: out) rest
            | .error e => .error e
        | [] => .error .malformedEscape
      else quotedText quote 0 none (c.char :: out) rest

/-! ## Block scalars -/

/-- What happens to the line breaks at the end of a block. -/
inductive Chomping
  | strip
  | clip
  | keep
deriving DecidableEq

/-- The header of a block: chomping, and the indentation if it is given. -/
structure BlockHeader where
  chomping : Chomping
  increment : Option Nat

/-- A digit other than zero, if there is a digit. -/
def readIncrement (cells : List Cell) : Except Fault (Option Nat × List Cell) :=
  match cells with
  | c :: rest =>
    if c.char == '0' then .error .malformedBlockHeader
    else if c.char.isDigit then .ok (some (natOfDigits [c.char]), rest)
    else .ok (none, cells)
  | [] => .ok (none, cells)

def readChomping (cells : List Cell) : Option Chomping × List Cell :=
  match cells with
  | c :: rest =>
    if c.char == '+' then (some .keep, rest)
    else if c.char == '-' then (some .strip, rest)
    else (none, cells)
  | [] => (none, cells)

/-- The chomping mark and the indentation in either order, and the rest of the header line. -/
def readHeader (cells : List Cell) : Except Fault (BlockHeader × List Cell) := do
  let (before, cells) := readChomping cells
  let (increment, cells) ← readIncrement cells
  let (chomping, cells) :=
    match before with
    | some chomping => (some chomping, cells)
    | none => if increment.isSome then readChomping cells else (none, cells)
  let cells ← finishLine .malformedBlockHeader cells
  return (⟨chomping.getD .clip, increment⟩, cells)

/-- A block that is being read.  The indentation is zero until it is known; breaks and text are held
last one first. -/
structure Block where
  indent : Nat
  /-- The largest indentation of the blank lines so far. -/
  deepest : Nat
  out : List Char
  /-- The break behind the last line with text. -/
  first : Option Char
  /-- The breaks of the blank lines behind it. -/
  more : List Char
  /-- Whether the last line with text starts with a blank, which keeps it from folding. -/
  afterBlank : Bool

namespace Block

/-- Text and breaks when a line starts with the given character. -/
def startLine (folds : Bool) (b : Block) (c : Char) : Block :=
  let joined :=
    if folds && b.first == some '\n' && !b.afterBlank && !isBlank c then
      if b.more.isEmpty then [' '] else b.more
    else b.more ++ b.first.toList
  { b with
    out := c :: (joined ++ b.out)
    first := none
    more := []
    afterBlank := isBlank c }

/-- The whole text, with the breaks at its end as chomping says. -/
def finish (b : Block) (chomping : Chomping) : String :=
  let tail :=
    match chomping with
    | .strip => []
    | .clip => b.first.toList
    | .keep => b.more ++ b.first.toList
  String.ofList (tail ++ b.out).reverse

end Block

/-- Read the lines of a block.  `inLine` tells the text of a line from the indentation in front of
it.  The first line with text settles the indentation if the header does not give it; a line with
another indentation ends the block. -/
def blockLines (folds : Bool) (least : Nat) :
    (inLine : Bool) → Block → List Cell → Except Fault (Block × List Cell)
  | _, b, [] => .ok (b, [])
  | true, b, c :: rest =>
    if isBreak c.char then blockLines folds least false { b with first := some c.char } rest
    else blockLines folds least true { b with out := c.char :: b.out } rest
  | false, b, c :: rest =>
    let margin := b.indent == 0 || c.column < b.indent
    if margin && c.char == ' ' then blockLines folds least false b rest
    else
      let b := { b with deepest := max b.deepest c.column }
      if margin && c.char == '\t' then .error .tabIndentation
      else if isBreak c.char then
        blockLines folds least false { b with more := c.char :: b.more } rest
      else
        let b := if b.indent == 0 then { b with indent := max b.deepest least } else b
        if c.column == b.indent then blockLines folds least true (b.startLine folds c.char) rest
        else .ok (b, c :: rest)

/-- Read a block scalar behind its indicator.  `indent` is the indentation of the collection around
it, -1 outside of all. -/
def blockText (folds : Bool) (indent : Int) (cells : List Cell) :
    Except Fault (String × List Cell) := do
  let (header, cells) ← readHeader cells
  let given :=
    match header.increment with
    | some n => (max indent 0).toNat + n
    | none => 0
  let least := max (indent + 1).toNat 1
  let (b, rest) ← blockLines folds least false ⟨given, 0, [], none, [], false⟩ cells
  return (b.finish header.chomping, rest)

end Conformance.Yaml
