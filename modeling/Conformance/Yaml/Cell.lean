import Conformance.Yaml.Fault

/-!
# Located characters

The text of a document is first laid out as cells: characters with their place.  Line breaks are
made uniform on the way, so that whatever reads cells knows a single break and two separators, which
are breaks too but are kept as they are when they fold.

## Parts

* `isAllowed` is the class of characters that a document may hold.
* `Cell` is a located character, and `Cell.layout` lays out a text.
* `isBlank`, `isBreak` and `isWordEnd` are the classes that indentation and folding depend on.
* `startsMarker` recognises a document marker at the start of a line.
-/

namespace Conformance.Yaml

/-! ## Characters -/

/-- The printable characters, with tab, the line breaks and the byte order mark among them. -/
def isAllowed (c : Char) : Bool :=
  let n := c.toNat
  n == 0x09 || n == 0x0A || n == 0x0D || (0x20 ≤ n && n ≤ 0x7E) || n == 0x85 ||
    (0xA0 ≤ n && n ≤ 0xD7FF) || (0xE000 ≤ n && n ≤ 0xFFFD) || 0x10000 ≤ n

def byteOrderMark : Char :=
  '\ufeff'

/-- A space or a tab. -/
def isBlank (c : Char) : Bool :=
  c == ' ' || c == '\t'

/-- A line break, or one of the line and paragraph separators. -/
def isBreak (c : Char) : Bool :=
  c == '\n' || c == '\u2028' || c == '\u2029'

/-- A letter, a digit, a low line or a hyphen: what names of anchors and handles are made of. -/
def isNameChar (c : Char) : Bool :=
  c.isAlphanum || c == '_' || c == '-'

/-! ## Cells -/

/-- A character and its place in the text. -/
structure Cell where
  char : Char
  /-- The number of octets in front of it. -/
  index : Nat
  line : Nat
  column : Nat

namespace Cell

/-- Lay out a text from a place on.  The four ways to break a line become one.  Columns count
characters, and the index counts the octets of their UTF-8 form. -/
def layoutFrom (index line column : Nat) : List Char → List Cell
  | [] => []
  | '\r' :: '\n' :: rest => ⟨'\n', index, line, column⟩ :: layoutFrom (index + 2) (line + 1) 0 rest
  | c :: rest =>
    if c = '\r' || c = '\u0085' then
      ⟨'\n', index, line, column⟩ :: layoutFrom (index + c.utf8Size) (line + 1) 0 rest
    else if isBreak c then
      ⟨c, index, line, column⟩ :: layoutFrom (index + c.utf8Size) (line + 1) 0 rest
    else ⟨c, index, line, column⟩ :: layoutFrom (index + c.utf8Size) line (column + 1) rest

/-- Lay out a whole text; a single forbidden character spoils it. -/
def layout (text : String) : Except Fault (List Cell) :=
  let chars := text.toList
  if chars.all isAllowed then .ok (layoutFrom 0 0 0 chars) else .error .forbiddenCharacter

end Cell

/-! ## Looking ahead -/

/-- Whether a word is over here: at a blank, at a break or at the end of the text. -/
def isWordEnd : List Cell → Bool
  | [] => true
  | c :: _ => isBlank c.char || isBreak c.char

/-- Whether the next character is the given one. -/
def nextIs (c : Char) : List Cell → Bool
  | [] => false
  | cell :: _ => cell.char == c

/-- Whether three of the given character stand at the start of a line as a word of their own. -/
def startsMarker (mark : Char) : List Cell → Bool
  | a :: b :: c :: rest =>
    a.column == 0 && a.char == mark && b.char == mark && c.char == mark && isWordEnd rest
  | _ => false

/-- Whether a marker of the start or the end of a document stands here. -/
def atMarker (cells : List Cell) : Bool :=
  startsMarker '-' cells || startsMarker '.' cells

/-- What is left behind the blanks. -/
def skipBlanks (cells : List Cell) : List Cell :=
  cells.dropWhile fun c => isBlank c.char

/-- What is left at the end of the line. -/
def skipLine (cells : List Cell) : List Cell :=
  cells.dropWhile fun c => !isBreak c.char

/-- Pass over blanks, a comment and the line break behind them; nothing else may stand there. -/
def finishLine (fault : Fault) (cells : List Cell) : Except Fault (List Cell) :=
  let cells := skipBlanks cells
  let cells := if nextIs '#' cells then skipLine cells else cells
  match cells with
  | [] => .ok []
  | c :: rest => if isBreak c.char then .ok rest else .error fault

end Conformance.Yaml
