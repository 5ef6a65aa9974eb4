/-!
# White space and trimming

The white space of the feature grammar is the whole Unicode property White_Space, which is wider
than the four ASCII characters of `Char.isWhitespace`.  Everything that is trimmed in a
specification (tags, paths, keyword names, sequence indices) is trimmed by this class.

## Parts

* `isBlank` decides the class.
* `trimStart`, `trimEnd` and `trim` cut blanks off the ends of a list of characters.
* `cut` and `pieces` divide a list of characters at every separator.
-/

namespace Conformance.Text

/-! ## The class -/

/-- The 25 characters of the property White_Space: tab to carriage return, space, next line,
no-break space, the ogham and the general spaces, the line and paragraph separators, the narrow
no-break, the medium mathematical and the ideographic space. -/
def isBlank (c : Char) : Bool :=
  let n := c.toNat
  (9 ≤ n && n ≤ 13) || n == 0x20 || n == 0x85 || n == 0xA0 || n == 0x1680 ||
    (0x2000 ≤ n && n ≤ 0x200A) || n == 0x2028 || n == 0x2029 || n == 0x202F || n == 0x205F ||
    n == 0x3000

/-! ## Trimming -/

def trimStart (text : List Char) : List Char :=
  text.dropWhile isBlank

def trimEnd (text : List Char) : List Char :=
  (text.reverse.dropWhile isBlank).reverse

def trim (text : List Char) : List Char :=
  trimEnd (trimStart text)

/-- The trimmed text, or nothing if only blanks are left. -/
def nonEmpty? (text : List Char) : Option String :=
  match trim text with
  | [] => none
  | kept => some (String.ofList kept)

/-! ## Cutting at a separator -/

/-- The stretch before the first separator, and the stretches after each of them.  Empty stretches
count, so there is one stretch more than there are separators. -/
def cut (separator : Char) : List Char → List Char × List (List Char)
  | [] => ([], [])
  | c :: rest =>
    let (piece, more) := cut separator rest
    if c = separator then ([], piece :: more) else (c :: piece, more)

/-- All stretches between separators, first to last. -/
def pieces (separator : Char) (text : List Char) : List (List Char) :=
  (cut separator text).1 :: (cut separator text).2

/-- A text without separators is one stretch. -/
theorem cut_of_notMem {separator : Char} {text : List Char} (absent : separator ∉ text) :
    cut separator text = (text, []) := by
  induction text with
  | nil => rfl
  | cons c rest ih =>
    simp only [List.mem_cons, not_or] at absent
    have ne : c ≠ separator := fun same => absent.1 same.symm
    simp [cut, ne, ih absent.2]

end Conformance.Text
