/-!
# Blank characters

The white space of Unicode (property `White_Space`) and the ASCII blanks of byte
streams. Trimming a text removes white space at its ends and nothing inside it.
-/

namespace Mailroom.Text

/-- Unicode `White_Space`, all 25 characters. -/
def isBlank (c : Char) : Bool :=
  let n := c.toNat
  (0x09 ≤ n && n ≤ 0x0d) || n == 0x20 || n == 0x85 || n == 0xa0 || n == 0x1680
    || (0x2000 ≤ n && n ≤ 0x200a) || n == 0x2028 || n == 0x2029 || n == 0x202f
    || n == 0x205f || n == 0x3000

/-- The blanks of a byte stream: space, tab, line feed, form feed, carriage return. -/
def isBlankByte (b : UInt8) : Bool :=
  b == 0x20 || b == 0x09 || b == 0x0a || b == 0x0c || b == 0x0d

def trimBoth {α : Type} (p : α → Bool) (xs : List α) : List α :=
  ((xs.dropWhile p).reverse.dropWhile p).reverse

def trim (cs : List Char) : List Char := trimBoth isBlank cs

def firstWord? (cs : List Char) : Option (List Char) :=
  match cs.dropWhile isBlank with
  | [] => none
  | rest => some (rest.takeWhile (!isBlank ·))

end Mailroom.Text
