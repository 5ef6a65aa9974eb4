import Conformance.Yaml.Token.Tag

/-!
# Tokens of a text

The tokens of a document are found from left to right, with two kinds of memory.  Indentation says
which block collections are open; a line further to the left closes some of them.  A pending key is
a place where a key may have begun: when a colon turns up on the same line, the tokens for a key,
and for a block mapping if none is open there, go in front of what was read since.

## Parts

* `PendingKey` and `Lexer` are the state, and `Lexer.emit`, `Lexer.insert` add tokens.
* `Lexer.unroll` and `Lexer.roll` close and open block collections.
* `Lexer.step` reads one token, and `Token.ofString` all of them.
-/

namespace Conformance.Yaml

/-! ## State -/

/-- A place where a key may have begun.  It is required where a line of a block mapping can hold
nothing but a key. -/
structure PendingKey where
  required : Bool
  /-- The number of tokens in front of it. -/
  position : Nat
  index : Nat
  line : Nat
  column : Nat

/-- What has been read and what is still to be read. -/
structure Lexer where
  cells : List Cell
  /-- The tokens so far, last one first. -/
  tokens : List Token
  /-- The indentation of the innermost open block collection, -1 if there is none. -/
  indent : Int
  /-- The indentations around it. -/
  outer : List Int
  /-- The pending key of the innermost flow collection, or of the block outside of all. -/
  key : Option PendingKey
  /-- The pending keys around it, one for each open flow collection. -/
  outerKeys : List (Option PendingKey)
  /-- Whether a key may begin here. -/
  keyAllowed : Bool

namespace Lexer

def start (cells : List Cell) : Lexer :=
  ⟨cells, [], -1, [], none, [], true⟩

/-- Whether a flow collection is open. -/
def inFlow (l : Lexer) : Bool :=
  !l.outerKeys.isEmpty

def column (l : Lexer) : Nat :=
  (l.cells.head?.map Cell.column).getD 0

/-! ## Adding tokens -/

def emit (l : Lexer) (token : Token) : Lexer :=
  { l with tokens := token :: l.tokens }

/-- Put a token behind the first so many tokens. -/
def insert (l : Lexer) (position : Nat) (token : Token) : Lexer :=
  let later := l.tokens.length - position
  { l with tokens := l.tokens.take later ++ token :: l.tokens.drop later }

/-! ## Indentation -/

/-- Close the block collections that are indented further than the column. -/
def unrollFrom (column indent : Int) : (outer : List Int) → List Token → Int × List Int × List Token
  | [], tokens =>
    if indent > column then (-1, [], .blockEnd :: tokens) else (indent, [], tokens)
  | next :: outer, tokens =>
    if indent > column then unrollFrom column next outer (.blockEnd :: tokens)
    else (indent, next :: outer, tokens)

/-- Close block collections; inside a flow collection indentation does not count. -/
def unroll (l : Lexer) (column : Int) : Lexer :=
  if l.inFlow then l
  else
    let (indent, outer, tokens) := unrollFrom column l.indent l.outer l.tokens
    { l with indent := indent, outer := outer, tokens := tokens }

/-- Open a block collection at a column that is further in, behind the first so many tokens. -/
def roll (l : Lexer) (column : Nat) (position : Nat) (opening : Token) : Lexer :=
  if l.inFlow || (column : Int) ≤ l.indent then l
  else { l.insert position opening with indent := column, outer := l.indent :: l.outer }

/-! ## Pending keys -/

/-- Give up a pending key, which must not be a required one. -/
def dropKey (l : Lexer) : Except Fault Lexer :=
  if l.key.any PendingKey.required then .error .missingColon else .ok { l with key := none }

/-- Note that a key may begin here. -/
def saveKey (l : Lexer) : Except Fault Lexer := do
  match l.keyAllowed, l.cells with
  | true, c :: _ =>
    let l ← l.dropKey
    let required := !l.inFlow && l.indent == c.column
    return { l with key := some ⟨required, l.tokens.length, c.index, c.line, c.column⟩ }
  | _, _ => return l

/-- Whether a key can still end here: on its own line and within 1024 octets. -/
def PendingKey.isFresh (k : PendingKey) (here : Cell) : Bool :=
  here.line ≤ k.line && here.index ≤ k.index + 1024

/-- A pending key as it is seen from here. -/
def refreshKey (here : Cell) : Option PendingKey → Except Fault (Option PendingKey)
  | some k =>
    if PendingKey.isFresh k here then .ok (some k)
    else if k.required then .error .missingColon
    else .ok none
  | none => .ok none

/-- Give up all pending keys that have become too old. -/
def refreshKeys (l : Lexer) : Except Fault Lexer := do
  match l.cells with
  | [] => return l
  | here :: _ =>
    let key ← refreshKey here l.key
    let outerKeys ← l.outerKeys.mapM (refreshKey here)
    return { l with key := key, outerKeys := outerKeys }

/-! ## Between tokens -/

/-- Pass over blanks, comments, line breaks and a byte order mark at the start of a line.  Outside of
flow collections a key may begin on each new line, and tabs may not stand where one may begin. -/
def skipSpace (flow : Bool) : (comment keyAllowed : Bool) → List Cell → Bool × List Cell
  | _, keyAllowed, [] => (keyAllowed, [])
  | comment, keyAllowed, c :: rest =>
    if isBreak c.char then skipSpace flow false (keyAllowed || !flow) rest
    else if comment then skipSpace flow true keyAllowed rest
    else if c.char == ' ' || (c.char == '\t' && (flow || !keyAllowed)) ||
        (c.column == 0 && c.char == byteOrderMark) then skipSpace flow false keyAllowed rest
    else if c.char == '#' then skipSpace flow true keyAllowed rest
    else (keyAllowed, c :: rest)

def toNextToken (l : Lexer) : Lexer :=
  let (keyAllowed, cells) := skipSpace l.inFlow false l.keyAllowed l.cells
  { l with keyAllowed := keyAllowed, cells := cells }

/-! ## Single tokens -/

/-- A token at the start of a line that closes all blocks: a document marker or a directive. -/
def outsideBlocks (l : Lexer) (token : Token) (rest : List Cell) : Except Fault Lexer := do
  let l ← (l.unroll (-1)).dropKey
  return { l.emit token with cells := rest, keyAllowed := false }

/-- The opening of a flow collection, which may be a key itself. -/
def openFlow (l : Lexer) (token : Token) (rest : List Cell) : Except Fault Lexer := do
  let l ← l.saveKey
  return { l.emit token with
    cells := rest, keyAllowed := true, key := none, outerKeys := l.key :: l.outerKeys }

/-- The closing of a flow collection; the pending key of its outside is pending again. -/
def closeFlow (l : Lexer) (token : Token) (rest : List Cell) : Except Fault Lexer := do
  let l ← l.dropKey
  let l := { l.emit token with cells := rest, keyAllowed := false }
  match l.outerKeys with
  | key :: outerKeys => return { l with key := key, outerKeys := outerKeys }
  | [] => return l

def flowEntry (l : Lexer) (rest : List Cell) : Except Fault Lexer := do
  let l ← l.dropKey
  return { l.emit .flowEntry with cells := rest, keyAllowed := true }

/-- Outside of flow collections an indicator needs a place where a key may begin, and opens a block
collection there if it is further in than the open ones. -/
def openBlock (l : Lexer) (opening : Token) : Except Fault Lexer :=
  if l.inFlow then .ok l
  else if l.keyAllowed then .ok (l.roll l.column l.tokens.length opening)
  else .error .misplacedIndicator

def blockEntry (l : Lexer) (rest : List Cell) : Except Fault Lexer := do
  let l ← (← l.openBlock .blockSequenceStart).dropKey
  return { l.emit .blockEntry with cells := rest, keyAllowed := true }

/-- A question mark in front of a key. -/
def explicitKey (l : Lexer) (rest : List Cell) : Except Fault Lexer := do
  let l ← (← l.openBlock .blockMappingStart).dropKey
  return { l.emit .key with cells := rest, keyAllowed := !l.inFlow }

/-- A colon.  If a key is pending it is one now; otherwise the value has an empty key. -/
def valueMark (l : Lexer) (rest : List Cell) : Except Fault Lexer := do
  match l.key with
  | some k =>
    let l := (l.insert k.position .key).roll k.column k.position .blockMappingStart
    return { l.emit .value with cells := rest, keyAllowed := false, key := none }
  | none =>
    let l ← l.openBlock .blockMappingStart
    return { l.emit .value with cells := rest, keyAllowed := !l.inFlow }

/-- A token that may be a key or stand in front of one. -/
def simpleToken (l : Lexer) (read : Except Fault (Token × List Cell)) : Except Fault Lexer := do
  let l ← l.saveKey
  let (token, rest) ← read
  return { l.emit token with cells := rest, keyAllowed := false }

/-- A plain scalar.  One that ends behind a line break leaves a place where a key may begin. -/
def plainScalar (l : Lexer) : Except Fault Lexer := do
  let l ← l.saveKey
  let plain ← plainText l.inFlow (l.indent + 1) none [] l.cells
  return { l.emit (.scalar plain.text .plain) with cells := plain.rest, keyAllowed := plain.broken }

def quotedScalar (l : Lexer) (quote : Char) (style : Style) (rest : List Cell) :
    Except Fault Lexer :=
  l.simpleToken do
    let (text, rest) ← quotedText quote 0 none [] rest
    return (.scalar text style, rest)

def blockScalar (l : Lexer) (folds : Bool) (style : Style) (rest : List Cell) :
    Except Fault Lexer := do
  let l ← l.dropKey
  let (text, rest) ← blockText folds l.indent rest
  return { l.emit (.scalar text style) with cells := rest, keyAllowed := true }

/-- The characters that cannot start a plain scalar. -/
def isIndicator (c : Char) : Bool :=
  "-?:,[]\x7b\x7d#&*!|>'\"%@\x60".toList.contains c

/-- Whether a plain scalar starts here.  Some indicators start one in front of a character that
rules out their other meaning. -/
def startsPlain (flow : Bool) (c : Cell) (rest : List Cell) : Bool :=
  !(isBlank c.char || isBreak c.char || isIndicator c.char) ||
    (c.char == '-' && !rest.head?.any (fun next => isBlank next.char)) ||
    (!flow && (c.char == '?' || c.char == ':') && !isWordEnd rest)

/-- Read the token that starts here. -/
def readToken (l : Lexer) (c : Cell) (rest : List Cell) : Except Fault Lexer :=
  if c.column == 0 && c.char == '%' then do
    let (token, rest) ← readDirective rest
    l.outsideBlocks token rest
  else if startsMarker '-' l.cells then l.outsideBlocks .documentStart (rest.drop 2)
  else if startsMarker '.' l.cells then l.outsideBlocks .documentEnd (rest.drop 2)
  else
    match c.char with
    | '[' => l.openFlow .flowSequenceStart rest
    | '{' => l.openFlow .flowMappingStart rest
    | ']' => l.closeFlow .flowSequenceEnd rest
    | '}' => l.closeFlow .flowMappingEnd rest
    | ',' => l.flowEntry rest
    | '*' => l.simpleToken do
      let (name, rest) ← readName rest
      return (.alias name, rest)
    | '&' => l.simpleToken do
      let (name, rest) ← readName rest
      return (.anchor name, rest)
    | '!' => l.simpleToken (readTag l.inFlow l.cells)
    | '\'' => l.quotedScalar '\'' .singleQuoted rest
    | '"' => l.quotedScalar '"' .doubleQuoted rest
    | char =>
      if char == '-' && isWordEnd rest then l.blockEntry rest
      else if char == '?' && (l.inFlow || isWordEnd rest) then l.explicitKey rest
      else if char == ':' && (l.inFlow || isWordEnd rest) then l.valueMark rest
      else if char == '|' && !l.inFlow then l.blockScalar false .literal rest
      else if char == '>' && !l.inFlow then l.blockScalar true .folded rest
      else if startsPlain l.inFlow c rest then l.plainScalar
      else .error .strayCharacter

/-- The end of the text closes all blocks. -/
def finish (l : Lexer) : Except Fault Lexer := do
  let l ← (l.unroll (-1)).dropKey
  return l.emit .streamEnd

/-- Read the tokens that are left.  Every token takes a character, so the number of characters left
bounds the number of steps. -/
def run : (steps : Nat) → Lexer → Except Fault Lexer
  | 0, l => l.finish
  | steps + 1, l => do
    let l := l.toNextToken
    match l.cells with
    | [] => l.finish
    | c :: rest =>
      let l := (← l.refreshKeys).unroll c.column
      run steps (← l.readToken c rest)

end Lexer

/-- The tokens of a text, the end of the stream last. -/
def Token.ofString (text : String) : Except Fault (List Token) := do
  let cells ← Cell.layout text
  let l ← Lexer.run (cells.length + 1) (.start cells)
  return l.tokens.reverse

end Conformance.Yaml
