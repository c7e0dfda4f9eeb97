import Mailroom.Pattern.Escape

/-!
# Classes in brackets

A class is a union of characters, ranges, escapes, named classes and further classes in
brackets; operators between unions are applied from the left.
-/

namespace Mailroom.Pattern

inductive Operator
  | inter
  | diff
  | either
  deriving DecidableEq, Repr

def Operator.apply : Operator → CharSet → CharSet → CharSet
  | .inter => .inter
  | .diff => .diff
  | .either => .either

/-- A class as far as it has been read: the left side of an operator that waits for its
right side, and the union since then. Depths count how far classes are nested. -/
structure Bracket where
  left : Option (Operator × CharSet × Nat)
  items : CharSet
  count : Nat
  depth : Nat

namespace Bracket

def empty : Bracket := ⟨none, .none, 0, 0⟩

def add (b : Bracket) (item : CharSet) (depth : Nat) : Bracket :=
  { b with items := .union b.items item, count := b.count + 1, depth := max b.depth depth }

def result (f : Flags) (b : Bracket) : CharSet × Nat :=
  let depth := if b.count > 1 then b.depth + 1 else b.depth
  match b.left with
  | none => (b.items, depth)
  | some (op, left, leftDepth) => (op.apply (f.fold left) (f.fold b.items), max leftDepth depth + 1)

def operate (f : Flags) (b : Bracket) (op : Operator) : Bracket :=
  let (set, depth) := b.result f
  { empty with left := some (op, set, depth) }

def readNamed (cs : List Char) : Option (Bool × CharSet × List Char) :=
  match cs with
  | ':' :: rest =>
    let (negated, rest) := match rest with
      | '^' :: rest => (true, rest)
      | _ => (false, rest)
    match rest.dropWhile (· != ':') with
    | ':' :: ']' :: after =>
      (CharSet.posix? (String.ofList (rest.takeWhile (· != ':')))).map (negated, ·, after)
    | _ => none
  | _ => none

/-- Complements a set, which is refused if characters of ASCII alone are meant. -/
def negate (f : Flags) (negated : Bool) (set : CharSet) : Option CharSet :=
  if !negated then some set
  else if f.unicode then some (.compl set)
  else none

def readItem (f : Flags) : List Char → Option (Escape × List Char)
  | [] => none
  | '\\' :: rest => Escape.read f rest
  | c :: rest => some (.literal c, rest)

def literal? (f : Flags) : Escape → Option Char
  | .literal c => if f.unicode || c.toNat < 0x80 then some c else none
  | _ => none

def single? (f : Flags) : Escape → Option CharSet
  | .set set => some set
  | escape => (literal? f escape).map .single

/-- The character behind a hyphen. In spaced mode blanks and the sign that begins a
comment are passed over. -/
def behindHyphen? (f : Flags) (cs : List Char) : Option Char :=
  if !f.spaced then cs.head?
  else match cs.dropWhile Text.isBlank with
    | '#' :: rest => (rest.dropWhile Text.isBlank).head?
    | rest => rest.head?

/-- Reads an item or a range. A hyphen before a bracket or another hyphen makes no range. -/
def readRange (f : Flags) (cs : List Char) : Option (CharSet × List Char) := do
  let (first, rest) ← readItem f cs
  match f.skip rest with
  | [] => none
  | '-' :: rest =>
    let next := behindHyphen? f rest
    if next == some ']' || next == some '-' then
      return (← single? f first, '-' :: rest)
    else
      let (last, rest) ← readItem f (f.skip rest)
      let a ← literal? f first
      let b ← literal? f last
      if a.toNat ≤ b.toNat then return (.span a.toNat b.toNat, rest) else none
  | rest => return (← single? f first, rest)

/-- What stands at the beginning of a class: a sign that negates it, hyphens, or a closing
bracket that stands for itself. -/
def readStart (f : Flags) (cs : List Char) : Bool × Bracket × List Char :=
  let (negated, cs) := match f.skip cs with
    | '^' :: rest => (true, f.skip rest)
    | cs => (false, cs)
  let (hyphens, cs) := f.takeWhile (· == '-') false cs
  let start := hyphens.foldl (fun b c => b.add (.single c) 0) empty
  match hyphens, cs with
  | [], ']' :: rest => (negated, start.add (.single ']') 0, rest)
  | _, _ => (negated, start, cs)

/-- Reads a class up to its closing bracket. The length of the text is fuel enough, since
every step takes a character. -/
def readFrom : (fuel : Nat) → Flags → (negated : Bool) → Bracket → List Char →
    Option (CharSet × Nat × List Char)
  | 0, _, _, _, _ => none
  | fuel + 1, f, negated, b, cs =>
    match f.skip cs with
    | [] => none
    | ']' :: rest => do
      let (set, depth) := b.result f
      let set ← negate f negated (f.fold set)
      return (set, depth + 1, rest)
    | '[' :: rest =>
      match readNamed rest with
      | some (not, set, rest) => do
        let set ← negate f not (f.fold set)
        readFrom fuel f negated (b.add set 0) rest
      | none => do
        let (not, start, rest) := readStart f rest
        let (set, depth, rest) ← readFrom fuel f not start rest
        readFrom fuel f negated (b.add set depth) rest
    | '&' :: '&' :: rest => readFrom fuel f negated (b.operate f .inter) rest
    | '-' :: '-' :: rest => readFrom fuel f negated (b.operate f .diff) rest
    | '~' :: '~' :: rest => readFrom fuel f negated (b.operate f .either) rest
    | cs => do
      let (set, rest) ← readRange f cs
      readFrom fuel f negated (b.add set 0) rest

def read (f : Flags) (cs : List Char) : Option (CharSet × Nat × List Char) :=
  let (negated, start, rest) := readStart f cs
  readFrom (cs.length + 1) f negated start rest

end Bracket

end Mailroom.Pattern
