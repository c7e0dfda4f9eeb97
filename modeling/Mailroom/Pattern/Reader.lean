import Mailroom.Pattern.Bracket
import Mailroom.Text.Number

/-!
# Reading patterns

The pattern language has alternatives, sequences, groups with and without names,
repetitions, classes, escapes and flags. It has no conditions on what surrounds a match
beyond single characters, and no references to groups. A pattern that cannot be read,
that is nested too deep or that would take too large a machine has no term.
-/

namespace Mailroom.Pattern

/-- A term, how deep it is nested, and whether it can be repeated. -/
structure Piece where
  term : Term
  depth : Nat
  repeatable : Bool

namespace Piece

def ofSequence : List Piece → Piece
  | [] => ⟨.empty, 0, true⟩
  | [p] => p
  | last :: before =>
    ⟨before.foldl (fun t p => .seq p.term t) last.term,
      before.foldl (fun depth p => max depth p.depth) last.depth + 1, true⟩

def ofBranches : List Piece → Piece
  | [] => ⟨.empty, 0, true⟩
  | [p] => p
  | last :: before =>
    ⟨before.foldl (fun t p => .alt p.term t) last.term,
      before.foldl (fun depth p => max depth p.depth) last.depth + 1, true⟩

end Piece

/-- What has been read of a group: finished branches, the items of the current branch,
both last first, and all names of groups so far. -/
structure Reading where
  branches : List Piece
  items : List Piece
  names : List (List Char)

namespace Reading

def start (names : List (List Char)) : Reading := ⟨[], [], names⟩

def add (r : Reading) (term : Term) (depth : Nat) : Reading :=
  { r with items := ⟨term, depth, true⟩ :: r.items }

/-- Flags take a place in a sequence, but cannot be repeated. -/
def addFlags (r : Reading) : Reading := { r with items := ⟨.empty, 0, false⟩ :: r.items }

def close (r : Reading) : Reading :=
  { r with branches := Piece.ofSequence r.items :: r.branches, items := [] }

def piece (r : Reading) : Piece := Piece.ofBranches r.close.branches

def addGroup (r inner : Reading) : Reading :=
  let piece := inner.piece
  { r.add (.group piece.term) (piece.depth + 1) with names := inner.names }

def repeated? (r : Reading) (least : Nat) (most : Option Nat) : Option Reading :=
  match r.items with
  | item :: before =>
    if item.repeatable then
      some { r with items := ⟨item.term.again least most, item.depth + 1, true⟩ :: before }
    else none
  | [] => none

end Reading

/-- A number of 32 bits with blanks around it. -/
def readCount (f : Flags) (cs : List Char) : Option Nat × List Char :=
  let (digits, rest) := f.takeWhile Char.isDigit false (cs.dropWhile Text.isBlank)
  ((Text.digits? digits).filter (· < Nat.pow 2 32), rest.dropWhile Text.isBlank)

def readCounts (f : Flags) (cs : List Char) : Option (Nat × Option Nat × List Char) :=
  let (least, rest) := readCount f cs
  match rest with
  | '}' :: rest => least.map fun n => (n, some n, rest)
  | ',' :: rest =>
    match f.skip rest with
    | '}' :: rest => least.map fun n => (n, none, rest)
    | rest =>
      match readCount f rest with
      | (some most, '}' :: rest) =>
        least.bind fun n => if n ≤ most then some (n, some most, rest) else none
      | _ => none
  | _ => none

/-- A question mark behind a repetition only says which match is preferred. -/
def dropPreference : List Char → List Char
  | '?' :: rest => rest
  | cs => cs

def isLetter (c : Char) : Bool := Unicode.Property.alphabetic.contains c.toNat

def isNumber (c : Char) : Bool :=
  ((Unicode.Category.find? "n").getD []).any fun ranges => ranges.contains c.toNat

def readName (names : List (List Char)) (cs : List Char) :
    Option (List Char × List Char) :=
  let inName (c : Char) := c == '_' || c == '.' || c == '[' || c == ']' || isLetter c || isNumber c
  match cs.takeWhile inName, cs.dropWhile inName with
  | first :: name, '>' :: rest =>
    if (first == '_' || isLetter first) && !names.contains (first :: name) then
      some (first :: name, rest)
    else none
  | _, _ => none

def literalTerm (f : Flags) (c : Char) : Term :=
  if !f.ignoreCase then .literal c
  else if f.unicode || c.isAlpha then .one (f.fold (.single c))
  else .literal c

def escapeTerm (f : Flags) : Escape → Term
  | .literal c => literalTerm f c
  | .set set => .one set
  | .look look => .look look

def dotTerm (f : Flags) : Term :=
  .one (if f.dotAll then .all else .compl (.single '\n'))

/-- Reads alternatives up to a closing parenthesis or the end of the text. The length of
the text is fuel enough, since every step takes a character. -/
def readFrom : (fuel : Nat) → Flags → Reading → List Char → Option (Reading × List Char)
  | 0, _, _, _ => none
  | fuel + 1, f, r, cs =>
    match f.skip cs with
    | [] => some (r, [])
    | ')' :: rest => some (r, ')' :: rest)
    | '|' :: rest => readFrom fuel f r.close rest
    | '(' :: rest =>
      match f.skip rest with
      | '?' :: '<' :: rest => do
        let (name, rest) ← readName r.names rest
        let (inner, rest) ← readFrom fuel f (.start (name :: r.names)) rest
        match rest with
        | ')' :: rest => readFrom fuel f (r.addGroup inner) rest
        | _ => none
      | '?' :: rest => do
        let (g, closing, rest) ← f.read [] true rest
        if closing == ')' then readFrom fuel g r.addFlags rest
        else
          let (inner, rest) ← readFrom fuel g (.start r.names) rest
          match rest with
          | ')' :: rest => readFrom fuel f (r.addGroup inner) rest
          | _ => none
      | rest => do
        let (inner, rest) ← readFrom fuel f (.start r.names) rest
        match rest with
        | ')' :: rest => readFrom fuel f (r.addGroup inner) rest
        | _ => none
    | '[' :: rest => do
      let (set, depth, rest) ← Bracket.read f rest
      readFrom fuel f (r.add (.one set) depth) rest
    | '?' :: rest => do
      let r ← r.repeated? 0 (some 1)
      readFrom fuel f r (dropPreference rest)
    | '*' :: rest => do
      let r ← r.repeated? 0 none
      readFrom fuel f r (dropPreference rest)
    | '+' :: rest => do
      let r ← r.repeated? 1 none
      readFrom fuel f r (dropPreference rest)
    | '\x7b' :: rest => do
      let (least, most, rest) ← readCounts f rest
      let r ← r.repeated? least most
      readFrom fuel f r (dropPreference (f.skip rest))
    | '\\' :: rest => do
      let (escape, rest) ← Escape.read f rest
      readFrom fuel f (r.add (escapeTerm f escape) 0) rest
    | '.' :: rest =>
      if f.unicode then readFrom fuel f (r.add (dotTerm f) 0) rest else none
    | '^' :: rest =>
      readFrom fuel f (r.add (.look (if f.multiLine then .lineStart else .start)) 0) rest
    | '$' :: rest =>
      readFrom fuel f (r.add (.look (if f.multiLine then .lineStop else .stop)) 0) rest
    | c :: rest => readFrom fuel f (r.add (literalTerm f c) 0) rest

def maxDepth : Nat := 250

def Term.ofText? (text : List Char) : Option Term :=
  match readFrom (text.length + 1) .start (.start []) text with
  | some (r, []) =>
    let piece := r.piece
    if piece.depth ≤ maxDepth ∧ piece.term.size ≤ Term.maxSize then some piece.term else none
  | _ => none

end Mailroom.Pattern
