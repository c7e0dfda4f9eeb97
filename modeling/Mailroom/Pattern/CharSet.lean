import Mailroom.Text.Blank
import Mailroom.Unicode.Category
import Mailroom.Unicode.Folding
import Mailroom.Unicode.Property
import Mailroom.Unicode.Script

/-!
# Sets of characters in patterns

Sets are kept as expressions and asked for membership. Case is ignored by asking for
every character that is equal up to case.
-/

namespace Mailroom.Pattern

open Mailroom.Unicode (Ranges)

inductive CharSet
  | none
  | span (first last : Nat)
  | table (ranges : Ranges)
  | union (a b : CharSet)
  | inter (a b : CharSet)
  | diff (a b : CharSet)
  | either (a b : CharSet)
  | compl (a : CharSet)
  | folded (a : CharSet)
  | foldedAscii (a : CharSet)
  deriving Repr

namespace CharSet

def single (c : Char) : CharSet := .span c.toNat c.toNat

def all : CharSet := .compl .none

def otherCase (c : Char) : Char := if c.isUpper then c.toLower else c.toUpper

def contains : CharSet → Char → Bool
  | .none, _ => false
  | .span first last, c => first ≤ c.toNat && c.toNat ≤ last
  | .table ranges, c => ranges.contains c.toNat
  | .union a b, c => a.contains c || b.contains c
  | .inter a b, c => a.contains c && b.contains c
  | .diff a b, c => a.contains c && !b.contains c
  | .either a b, c => a.contains c != b.contains c
  | .compl a, c => !a.contains c
  | .folded a, c => (Unicode.Folding.variants c).any a.contains
  | .foldedAscii a, c => a.contains c || a.contains (otherCase c)

def ofSpans (spans : List (Nat × Nat)) : CharSet :=
  spans.foldr (fun s rest => .union (.span s.1 s.2) rest) .none

def ofTables (tables : List Ranges) : CharSet :=
  tables.foldr (fun t rest => .union (.table t) rest) .none

def isAscii : CharSet → Bool
  | .none => true
  | .span _ last => last < 0x80
  | .table _ => false
  | .union a b => a.isAscii && b.isAscii
  | .inter a b => a.isAscii || b.isAscii
  | .diff a _ => a.isAscii
  | .either a b => a.isAscii && b.isAscii
  | .compl _ => false
  | .folded _ => false
  | .foldedAscii a => a.isAscii

/-- How many ranges the set is written with. -/
def spans : CharSet → Nat
  | .none => 0
  | .span _ _ => 1
  | .table ranges => ranges.length
  | .union a b => a.spans + b.spans
  | .inter a b => a.spans + b.spans
  | .diff a b => a.spans + b.spans
  | .either a b => a.spans + b.spans
  | .compl a => a.spans + 1
  | .folded a => 2 * a.spans
  | .foldedAscii a => 2 * a.spans

/-! ## Named sets -/

def asciiDigits : CharSet := .span 0x30 0x39

def asciiBlanks : CharSet := ofSpans [(0x09, 0x0d), (0x20, 0x20)]

def asciiWords : CharSet := ofSpans [(0x30, 0x39), (0x41, 0x5a), (0x5f, 0x5f), (0x61, 0x7a)]

def digits : CharSet := ofTables ((Unicode.Category.find? "nd").getD [])

def blanks : CharSet :=
  ofSpans [(0x09, 0x0d), (0x20, 0x20), (0x85, 0x85), (0xa0, 0xa0), (0x1680, 0x1680),
    (0x2000, 0x200a), (0x2028, 0x2029), (0x202f, 0x202f), (0x205f, 0x205f), (0x3000, 0x3000)]

def words : CharSet := .table Unicode.Property.word

def posix? (name : String) : Option CharSet :=
  let spans : List (String × List (Nat × Nat)) := [
    ("alnum", [(0x30, 0x39), (0x41, 0x5a), (0x61, 0x7a)]),
    ("alpha", [(0x41, 0x5a), (0x61, 0x7a)]),
    ("ascii", [(0, 0x7f)]),
    ("blank", [(0x09, 0x09), (0x20, 0x20)]),
    ("cntrl", [(0, 0x1f), (0x7f, 0x7f)]),
    ("digit", [(0x30, 0x39)]),
    ("graph", [(0x21, 0x7e)]),
    ("lower", [(0x61, 0x7a)]),
    ("print", [(0x20, 0x7e)]),
    ("punct", [(0x21, 0x2f), (0x3a, 0x40), (0x5b, 0x60), (0x7b, 0x7e)]),
    ("space", [(0x09, 0x0d), (0x20, 0x20)]),
    ("upper", [(0x41, 0x5a)]),
    ("word", [(0x30, 0x39), (0x41, 0x5a), (0x5f, 0x5f), (0x61, 0x7a)]),
    ("xdigit", [(0x30, 0x39), (0x41, 0x46), (0x61, 0x66)])]
  (spans.find? (·.1 = name)).map fun entry => ofSpans entry.2

/-- A property name as names are compared: ASCII in lower case without blanks, hyphens,
low lines and a leading `is`. -/
def looseName (name : List Char) : String :=
  let squeezed := (name.filter fun c => c.toNat < 0x80 && !(c == ' ' || c == '-' || c == '_'))
    |>.map Char.toLower
  let startsWithIs := ((name.take 2).map Char.toLower) == ['i', 's']
  let body := if startsWithIs then squeezed.drop 2 else squeezed
  String.ofList (if startsWithIs && body == ['c'] then ['i', 's', 'c'] else body)

def category? (name : String) : Option CharSet :=
  if name = "any" then some all
  else if name = "assigned" then
    (Unicode.Category.find? "cn").map fun tables => .compl (ofTables tables)
  else if name = "ascii" then some (.span 0 0x7f)
  else (Unicode.Category.find? name).map ofTables

def named? (name : List Char) : Option CharSet :=
  let name := looseName name
  let binary := if name = "cf" ∨ name = "sc" ∨ name = "lc" then Option.none
    else Unicode.Property.find? name
  match binary with
  | some tables => some (ofTables tables)
  | Option.none =>
    match category? name with
    | some set => some set
    | Option.none => (Unicode.Script.find? name).map ofTables

def valued? (property value : List Char) : Option CharSet :=
  let property := looseName property
  let value := looseName value
  if property = "gc" ∨ property = "generalcategory" then category? value
  else if property = "sc" ∨ property = "script" then (Unicode.Script.find? value).map ofTables
  else if property = "scx" ∨ property = "scriptextensions" then
    (Unicode.Script.extension? value).map ofTables
  else Option.none

end CharSet

end Mailroom.Pattern
