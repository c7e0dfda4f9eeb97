import Mailroom.Codec.Hex
import Mailroom.Pattern.Flags
import Mailroom.Pattern.Term
import Mailroom.Text.Cut

/-!
# Escapes in patterns

What a backslash makes of the characters behind it. Patterns are read in lower case, so
there are no escapes that an upper-case letter names.
-/

namespace Mailroom.Pattern

inductive Escape
  | literal (c : Char)
  | set (set : CharSet)
  | look (look : Look)
  deriving Repr

namespace Escape

def scalar? (n : Nat) : Option Char := if n.isValidChar then some (Char.ofNat n) else none

def hexNumber? (digits : List Char) : Option Nat :=
  if digits.isEmpty then none
  else digits.foldlM (fun n c => (Codec.Hex.value? c).map (16 * n + ·)) 0

def takeDigits (f : Flags) : (count : Nat) → List Char → Option (List Char × List Char)
  | 0, cs => some ([], cs)
  | _ + 1, [] => none
  | count + 1, c :: rest => do
    let (digits, rest) ← takeDigits f count (f.skip rest)
    return (c :: digits, rest)

/-- Reads a character given by its number, in braces or with `width` digits. Two digits
outside braces mean a byte, which must be ASCII if characters of ASCII alone are meant. -/
def readHex (f : Flags) (width : Nat) (cs : List Char) : Option (Escape × List Char) :=
  match f.skip cs with
  | '{' :: rest => do
    let (digits, rest) ← f.braced rest
    let c ← (hexNumber? digits).bind scalar?
    return (.literal c, rest)
  | rest => do
    let (digits, rest) ← takeDigits f width rest
    let c ← (hexNumber? digits).bind scalar?
    if !f.unicode && width == 2 && c.toNat ≥ 0x80 then none
    else return (.literal c, rest)

/-- The set that a property name in braces means: `name`, `name:value`, `name=value` or
`name!=value`, the last three of one meaning. -/
def property? (name : List Char) : Option CharSet :=
  match Text.cut ['!', '='] name with
  | some (property, value) => CharSet.valued? property value
  | none =>
    match Text.cut [':'] name with
    | some (property, value) => CharSet.valued? property value
    | none =>
      match Text.cut ['='] name with
      | some (property, value) => CharSet.valued? property value
      | none => CharSet.named? name

def readProperty (f : Flags) (cs : List Char) : Option (Escape × List Char) :=
  if !f.unicode then none
  else match f.skip cs with
    | [] => none
    | '\\' :: _ => none
    | '{' :: rest => do
      let (name, rest) ← f.braced rest
      let set ← property? name
      return (.set (f.fold set), rest)
    | c :: rest => do
      let set ← CharSet.named? [c]
      return (.set (f.fold set), rest)

def isNameChar (c : Char) : Bool := c.isAlpha || c == '-'

/-- Reads a word boundary, of which there are kinds with a name in braces. Braces that do
not begin with a name are left for a repetition. -/
def readBoundary (f : Flags) (cs : List Char) : Option (Escape × List Char) :=
  match cs with
  | '{' :: rest =>
    match f.skip rest with
    | [] => none
    | c :: _ =>
      if !isNameChar c then some (.look (.wordBoundary f.words), cs)
      else match f.takeWhile isNameChar false rest with
        | (name, '}' :: rest) =>
          let kind : Option (CharSet → Look) := match String.ofList name with
            | "start" => some .wordStart
            | "end" => some .wordStop
            | "start-half" => some .wordStartHalf
            | "end-half" => some .wordStopHalf
            | _ => none
          kind.map fun look => (.look (look f.words), rest)
        | _ => none
  | _ => some (.look (.wordBoundary f.words), cs)

/-- Reads an escape, after the backslash. Signs of ASCII stand for themselves; letters,
digits and other characters without a meaning are refused. -/
def read (f : Flags) : List Char → Option (Escape × List Char)
  | [] => none
  | 'x' :: rest => readHex f 2 rest
  | 'u' :: rest => readHex f 4 rest
  | 'p' :: rest => readProperty f rest
  | 'd' :: rest => some (.set f.digits, rest)
  | 's' :: rest => some (.set f.blanks, rest)
  | 'w' :: rest => some (.set f.words, rest)
  | 'a' :: rest => some (.literal '\x07', rest)
  | 'f' :: rest => some (.literal '\x0c', rest)
  | 't' :: rest => some (.literal '\t', rest)
  | 'n' :: rest => some (.literal '\n', rest)
  | 'r' :: rest => some (.literal '\r', rest)
  | 'v' :: rest => some (.literal '\x0b', rest)
  | 'z' :: rest => some (.look .stop, rest)
  | 'b' :: rest => readBoundary f rest
  | '<' :: rest => some (.look (.wordStart f.words), rest)
  | '>' :: rest => some (.look (.wordStop f.words), rest)
  | c :: rest =>
    if c.isAlphanum || c.toNat ≥ 0x80 then none else some (.literal c, rest)

end Escape

end Mailroom.Pattern
