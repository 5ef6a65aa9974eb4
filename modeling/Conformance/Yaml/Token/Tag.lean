import Conformance.Yaml.Token.Text

/-!
# Tags, anchors and directives

The small tokens: names of anchors and aliases, tags, and the directives in front of a document.  A
tag is written as a handle and a suffix.  The suffix may hold octets as escapes, which together have
to look like UTF-8; it counts up to the first octet that is zero.

## Parts

* `readName` reads the name of an anchor or alias.
* `readHandle` and `readSuffix` read the parts of tags, and `readTag` a tag token.
* `readDirective` reads a directive line.
-/

namespace Conformance.Yaml

open Text (natOfDigits)

/-- The octet of an ASCII character. -/
def octet (c : Char) : UInt8 :=
  UInt8.ofNat c.toNat

/-- The names at the front, and what follows them. -/
def spanName (cells : List Cell) : List Char × List Cell :=
  ((cells.takeWhile fun c => isNameChar c.char).map Cell.char,
    cells.dropWhile fun c => isNameChar c.char)

/-! ## Anchors and aliases -/

/-- Whether the name of an anchor or alias can end here. -/
def isNameEnd (cells : List Cell) : Bool :=
  isWordEnd cells ||
    cells.head?.any fun c => ['?', ':', ',', ']', '}', '%', '@', '\x60'].contains c.char

/-- The name behind the indicator of an anchor or alias. -/
def readName (cells : List Cell) : Except Fault (String × List Cell) :=
  let (name, rest) := spanName cells
  if name.isEmpty || !isNameEnd rest then .error .malformedName
  else .ok (String.ofList name, rest)

/-! ## Handles and suffixes -/

/-- A handle: an exclamation mark, a name, and a second mark if there is one. -/
def readHandle (cells : List Cell) : Except Fault (List Char × List Cell) :=
  match cells with
  | c :: rest =>
    if c.char == '!' then
      let (name, rest) := spanName rest
      match rest with
      | next :: more =>
        if next.char == '!' then .ok ('!' :: (name ++ ['!']), more) else .ok ('!' :: name, rest)
      | [] => .ok ('!' :: name, rest)
    else .error .malformedTag
  | [] => .error .malformedTag

/-- The characters of a suffix; the verbatim form admits commas and brackets too. -/
def isSuffixChar (verbatim : Bool) (c : Char) : Bool :=
  isNameChar c || ";/?:@&=+$.%!~*'()".toList.contains c ||
    (verbatim && (c == ',' || c == '[' || c == ']'))

/-- How many octets the UTF-8 form of a character has that starts with the given one. -/
def sequenceLength (first : Nat) : Nat :=
  if first < 0x80 then 1
  else if first / 0x20 = 0x6 then 2
  else if first / 0x10 = 0xE then 3
  else if first / 0x08 = 0x1E then 4
  else 0

/-- Read the characters of a suffix as octets, last one first.  `expected` is the number of octets
that a sequence of escapes still needs, `skip` the number of characters of an escape that are still
to be passed over. -/
def suffixOctets (verbatim : Bool) :
    (skip expected : Nat) → (out : List UInt8) → List Cell → Except Fault (List UInt8 × List Cell)
  | skip + 1, expected, out, _ :: rest => suffixOctets verbatim skip expected out rest
  | _, 0, out, [] => .ok (out, [])
  | _, _ + 1, _, [] => .error .malformedTag
  | 0, expected, out, c :: rest =>
    if c.char == '%' then
      match rest with
      | a :: b :: _ =>
        if isHexDigit a.char && isHexDigit b.char then
          let n := natOfHex [a.char, b.char]
          let width := if expected = 0 then sequenceLength n else expected
          if width = 0 || (expected ≠ 0 && n / 0x40 ≠ 0x2) then .error .malformedTag
          else suffixOctets verbatim 2 (width - 1) (UInt8.ofNat n :: out) rest
        else .error .malformedTag
      | _ => .error .malformedTag
    else if expected ≠ 0 then .error .malformedTag
    else if isSuffixChar verbatim c.char then
      suffixOctets verbatim 0 0 (octet c.char :: out) rest
    else .ok (out, c :: rest)

/-- A suffix that continues what was read as a handle; the mark in front of that is no part of
it.  What comes behind an octet zero is read but does not count. -/
def readSuffix (verbatim : Bool) (read : List Char) (cells : List Cell) :
    Except Fault (List UInt8 × List Cell) := do
  let (out, rest) ← suffixOctets verbatim 0 0 [] cells
  if read.isEmpty && out.isEmpty then .error .malformedTag
  else return (((read.drop 1).map octet ++ out.reverse).takeWhile (· ≠ 0), rest)

/-! ## Tags -/

/-- A tag: verbatim between angle brackets, with a handle of two marks, or local.  A mark alone is a
tag without handle. -/
def readTag (flow : Bool) (cells : List Cell) : Except Fault (Token × List Cell) := do
  let (token, rest) ←
    match cells with
    | _ :: second :: inner =>
      if second.char == '<' then do
        let (suffix, rest) ← readSuffix true [] inner
        match rest with
        | c :: rest =>
          if c.char == '>' then pure (Token.tag [] suffix, rest) else throw .malformedTag
        | [] => throw .malformedTag
      else readShort cells
    | _ => readShort cells
  if isWordEnd rest || (flow && nextIs ',' rest) then return (token, rest)
  else throw .malformedTag
where
  readShort (cells : List Cell) : Except Fault (Token × List Cell) := do
    let (handle, rest) ← readHandle cells
    if handle.length > 1 && handle.getLast? == some '!' then
      let (suffix, rest) ← readSuffix false [] rest
      return (.tag (handle.map octet) suffix, rest)
    else
      let (suffix, rest) ← readSuffix false handle rest
      if suffix.isEmpty then return (.tag [] [octet '!'], rest)
      else return (.tag [octet '!'] suffix, rest)

/-! ## Directives -/

/-- A number of at most nine digits. -/
def readVersionPart (cells : List Cell) : Except Fault (Nat × List Cell) :=
  let digits := (cells.takeWhile fun c => c.char.isDigit).map Cell.char
  if digits.isEmpty || digits.length > 9 then .error .malformedDirective
  else .ok (natOfDigits digits, cells.dropWhile fun c => c.char.isDigit)

/-- The version that a document is written in. -/
def readVersion (cells : List Cell) : Except Fault (Token × List Cell) := do
  let (major, cells) ← readVersionPart (skipBlanks cells)
  match cells with
  | point :: cells =>
    if point.char == '.' then
      let (minor, cells) ← readVersionPart cells
      return (.version major minor, cells)
    else throw .malformedDirective
  | [] => throw .malformedDirective

/-- A handle and what it stands for at the front of tags. -/
def readTagHandle (cells : List Cell) : Except Fault (Token × List Cell) := do
  let (handle, cells) ← readHandle (skipBlanks cells)
  if handle ≠ ['!'] && handle.getLast? ≠ some '!' then throw .malformedDirective
  match cells with
  | c :: _ =>
    if !isBlank c.char then throw .malformedDirective
    let (leading, cells) ← readSuffix true [] (skipBlanks cells)
    if !isWordEnd cells then throw .malformedDirective
    return (.tagHandle (handle.map octet) leading, cells)
  | [] => throw .malformedDirective

/-- The directive behind a percent sign, to the end of its line. -/
def readDirective (cells : List Cell) : Except Fault (Token × List Cell) := do
  let (name, cells) := spanName cells
  if !isWordEnd cells then throw .malformedDirective
  let (token, cells) ←
    if name = "YAML".toList then readVersion cells
    else if name = "TAG".toList then readTagHandle cells
    else throw .malformedDirective
  let cells ← finishLine .malformedDirective cells
  return (token, cells)

end Conformance.Yaml
