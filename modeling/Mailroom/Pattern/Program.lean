import Mailroom.Pattern.Term

/-!
# Running patterns

A term becomes a list of instructions, and all ways through them are followed at once,
character by character, so that the time is bounded by the product of both lengths.
-/

namespace Mailroom.Pattern

inductive Instruction
  | one (set : CharSet) (next : Nat)
  | look (look : Look) (next : Nat)
  | fork (a b : Nat)
  | done
  deriving Repr

abbrev Program := Array Instruction

namespace Program

/-- `count` times a step from an entry to an earlier entry. -/
def times (step : Nat → Program → Nat × Program) :
    (count : Nat) → (next : Nat) → Program → Nat × Program
  | 0, next, p => (next, p)
  | count + 1, next, p =>
    let (entry, p) := step next p
    times step count entry p

/-- Adds the instructions of a term that goes on at `next`. Returns where it begins. -/
def compile : Term → (next : Nat) → Program → Nat × Program
  | .empty, next, p => (next, p)
  | .literal c, next, p => (p.size, p.push (.one (.single c) next))
  | .one set, next, p => (p.size, p.push (.one set next))
  | .look l, next, p => (p.size, p.push (.look l next))
  | .group t, next, p => compile t next p
  | .seq a b, next, p =>
    let (middle, p) := compile b next p
    compile a middle p
  | .alt a b, next, p =>
    let (second, p) := compile b next p
    let (first, p) := compile a next p
    (p.size, p.push (.fork first second))
  | .repeated t least most, next, p =>
    let (tail, p) := match most with
      | none =>
        let loop := p.size
        let (body, p) := compile t loop (p.push .done)
        (loop, p.setIfInBounds loop (.fork body next))
      | some most =>
        times (fun entry p =>
          let (body, p) := compile t entry p
          (p.size, p.push (.fork body next))) (most - least) next p
    times (compile t) least tail p

def ofTerm (t : Term) : Nat × Program := compile t 0 #[.done]

/-- The places that read a character, and whether the end has been reached. -/
structure Threads where
  places : List Nat
  finished : Bool
  seen : Array Bool

/-- Follows forks and conditions from the places on a stack. Every place is entered once,
so twice the length of the program is fuel enough for each stack of one place. -/
def follow (p : Program) (before after : Option Char) :
    (fuel : Nat) → List Nat → Threads → Threads
  | 0, _, t => t
  | _, [], t => t
  | fuel + 1, place :: stack, t =>
    if t.seen.getD place true then follow p before after fuel stack t
    else
      let t := { t with seen := t.seen.setIfInBounds place true }
      match p[place]? with
      | none => follow p before after fuel stack t
      | some .done => follow p before after fuel stack { t with finished := true }
      | some (.one _ _) => follow p before after fuel stack { t with places := place :: t.places }
      | some (.look look next) =>
        if look.holds before after then follow p before after fuel (next :: stack) t
        else follow p before after fuel stack t
      | some (.fork a b) => follow p before after fuel (a :: b :: stack) t

def settle (p : Program) (before after : Option Char) (places : List Nat) : Threads :=
  follow p before after (2 * p.size + places.length + 1) places
    ⟨[], false, Array.replicate p.size false⟩

def advance (p : Program) (c : Char) (places : List Nat) : List Nat :=
  places.filterMap fun place : Nat => match p[place]? with
    | some (.one set next) => if set.contains c then some next else none
    | _ => none

def finishes (p : Program) (entry : Nat) (before : Option Char) (places : List Nat) :
    List Char → Bool
  | [] => (settle p before none (entry :: places)).finished
  | c :: rest =>
    let t := settle p before (some c) (entry :: places)
    t.finished || finishes p entry (some c) (advance p c t.places) rest

end Program

def Term.matchesIn (t : Term) (text : List Char) : Bool :=
  let (entry, p) := Program.ofTerm t
  p.finishes entry none [] text

end Mailroom.Pattern
