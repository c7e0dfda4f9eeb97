import Mailroom.Pattern.CharSet

/-!
# Patterns as terms

What a pattern means, without the places and names of its groups. A term also has a
size: the bytes that a machine for it is reckoned to take, so that patterns which would
take too many can be refused.
-/

namespace Mailroom.Pattern

inductive Look
  | start
  | stop
  | lineStart
  | lineStop
  | wordBoundary (words : CharSet)
  | wordStart (words : CharSet)
  | wordStop (words : CharSet)
  | wordStartHalf (words : CharSet)
  | wordStopHalf (words : CharSet)
  deriving Repr

def Look.holds (look : Look) (before after : Option Char) : Bool :=
  let isWord (words : CharSet) (c : Option Char) := c.any words.contains
  match look with
  | .start => before.isNone
  | .stop => after.isNone
  | .lineStart => before.all (· == '\n')
  | .lineStop => after.all (· == '\n')
  | .wordBoundary w => isWord w before != isWord w after
  | .wordStart w => !isWord w before && isWord w after
  | .wordStop w => isWord w before && !isWord w after
  | .wordStartHalf w => !isWord w before
  | .wordStopHalf w => !isWord w after

inductive Term
  | empty
  | literal (c : Char)
  | one (set : CharSet)
  | look (look : Look)
  | group (t : Term)
  | seq (a b : Term)
  | alt (a b : Term)
  | repeated (t : Term) (least : Nat) (most : Option Nat)
  deriving Repr

namespace Term

def isWidthless : Term → Bool
  | .empty | .look _ => true
  | .literal _ | .one _ => false
  | .group t => t.isWidthless
  | .seq a b | .alt a b => a.isWidthless && b.isWidthless
  | .repeated t _ most => t.isWidthless || most == some 0

/-- Repeats a term. What takes no character matches once if it matches often. -/
def again (t : Term) (least : Nat) (most : Option Nat) : Term :=
  if t.isWidthless then .repeated t (min least 1) (some (min (most.getD 1) 1))
  else .repeated t least most

def stateSize : Nat := 32

/-- Bytes of the states that read one character of a set, as UTF-8 backwards. -/
def setSize (set : CharSet) : Nat :=
  if set.isAscii then stateSize + 8 * set.spans else (2 * set.spans + 24) * stateSize

/-- Bytes of the states for a term. Counted repetition repeats the states. -/
def size : Term → Nat
  | .empty => stateSize
  | .literal c => stateSize * c.utf8Size
  | .one set => setSize set
  | .look _ => stateSize
  | .group t => t.size + 2 * stateSize
  | .seq a b => a.size + b.size
  | .alt a b => a.size + b.size + stateSize
  | .repeated t least most =>
    let once := t.size
    match most with
    | none => if least = 0 then once + 2 * stateSize else least * once + stateSize
    | some most => least * once + (most - least) * (once + stateSize) + stateSize

/-- A machine must not take more bytes than this. -/
def maxSize : Nat := 10 * Nat.pow 2 20

end Term

end Mailroom.Pattern
