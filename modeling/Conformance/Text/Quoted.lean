/-!
# Quoted strings

The text of a string inside a rendered value: double quotes around it, with the quote, the
backslash and the control characters below the space escaped, and every other character as it is.

## Parts

* `escape` is the text of one character between the quotes.
* `quote` is the quoted form of a list of characters.
-/

namespace Conformance.Text

/-- The lower-case hexadecimal digit of a number below sixteen. -/
def hexDigit (n : Nat) : Char :=
  if n < 10 then Char.ofNat ('0'.toNat + n) else Char.ofNat ('a'.toNat + (n - 10))

/-- The five named escapes, four hexadecimal digits for the other control characters, and the
character itself everywhere else. -/
def escape (c : Char) : List Char :=
  match c with
  | '"' => ['\\', '"']
  | '\\' => ['\\', '\\']
  | '\x08' => ['\\', 'b']
  | '\x0c' => ['\\', 'f']
  | '\n' => ['\\', 'n']
  | '\r' => ['\\', 'r']
  | '\t' => ['\\', 't']
  | c =>
    if c.toNat < 0x20 then ['\\', 'u', '0', '0', hexDigit (c.toNat / 16), hexDigit (c.toNat % 16)]
    else [c]

/-- The characters between their quotes. -/
def quote (text : List Char) : List Char :=
  '"' :: text.flatMap escape ++ ['"']

end Conformance.Text
