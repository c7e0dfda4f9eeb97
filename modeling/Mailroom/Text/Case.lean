import Mailroom.Unicode.LowerCase
import Mailroom.Unicode.Property

/-!
# Letter case of texts

Two notions live here. Names of header fields, parameters and types are compared up to
ASCII case. Mail addresses and filter rules are compared in lower case by the full
mapping of Unicode, where a capital sigma at the end of a word becomes a final sigma.
-/

namespace Mailroom.Text

def lowerAscii (s : String) : String := String.ofList (s.toList.map Char.toLower)

def sameAscii (a b : String) : Bool := a.toList.map Char.toLower == b.toList.map Char.toLower

/-- Whether `c` is a letter with case. The table is only asked beyond ASCII. -/
def isCased (c : Char) : Bool :=
  if c.toNat < 0x80 then c.isAlpha else Unicode.Property.cased.contains c.toNat

def isCaseIgnorable (c : Char) : Bool :=
  if c.toNat < 0x80 then ['\'', '.', ':', '^', '`'].contains c
  else Unicode.Property.caseIgnorable.contains c.toNat

/-- Whether a cased letter comes next, ignoring what may stand inside a word. -/
def casedAhead (cs : List Char) : Bool :=
  match cs.dropWhile isCaseIgnorable with
  | [] => false
  | c :: _ => isCased c

/-- The lower-case form of a character other than a capital sigma. -/
def lowerChar (c : Char) : List Char :=
  if c = 'İ' then ['i', '\u0307'] else [Unicode.LowerCase.simple c]

/-- The lower-case form of a text. `before` is what precedes it, nearest first. -/
def lowerFrom (before : List Char) : List Char → List Char
  | [] => []
  | c :: rest =>
    (if c = 'Σ' then [if casedAhead before && !casedAhead rest then 'ς' else 'σ']
      else lowerChar c)
      ++ lowerFrom (c :: before) rest

def lower (s : String) : String := String.ofList (lowerFrom [] s.toList)

/-- Without a capital sigma the mapping has no context. -/
theorem lowerFrom_eq_flatMap (before cs : List Char) (h : 'Σ' ∉ cs) :
    lowerFrom before cs = cs.flatMap lowerChar := by
  induction cs generalizing before with
  | nil => rfl
  | cons c rest ih =>
    have hc : c ≠ 'Σ' := fun e => h (e ▸ List.mem_cons_self)
    have hrest : 'Σ' ∉ rest := fun m => h (List.mem_cons_of_mem _ m)
    simp [lowerFrom, hc, ih (c :: before) hrest]

end Mailroom.Text
