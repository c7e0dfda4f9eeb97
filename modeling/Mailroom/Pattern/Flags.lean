import Mailroom.Pattern.CharSet
import Mailroom.Text.Blank

/-!
# Modes of a pattern

A pattern can change how its rest is read: whether case counts, where lines end, which
characters a class means, and whether blanks and comments are passed over.
-/

namespace Mailroom.Pattern

open Mailroom.Text (isBlank)

structure Flags where
  ignoreCase : Bool
  multiLine : Bool
  dotAll : Bool
  /-- Whether classes mean all characters of that kind, and not only those of ASCII. -/
  unicode : Bool
  spaced : Bool
  deriving DecidableEq, Repr

namespace Flags

def start : Flags := ⟨false, false, false, true, false⟩

def set? (f : Flags) (name : Char) (on : Bool) : Option Flags :=
  match name with
  | 'i' => some { f with ignoreCase := on }
  | 'm' => some { f with multiLine := on }
  | 's' => some { f with dotAll := on }
  | 'u' => some { f with unicode := on }
  | 'x' => some { f with spaced := on }
  | _ => none

/-- Reads flags up to `)` or `:`. `seen` holds those already read, last first: none may
be repeated, and a minus sign must be followed by a flag. -/
def read (f : Flags) (seen : List Char) (on : Bool) :
    List Char → Option (Flags × Char × List Char)
  | [] => none
  | c :: rest =>
    if c == ')' || c == ':' then
      if seen.head? == some '-' || (c == ')' && seen.isEmpty) then none
      else some (f, c, rest)
    else if seen.contains c then none
    else if c == '-' then read f (c :: seen) false rest
    else do
      let f ← f.set? c on
      read f (c :: seen) on rest

/-- The characters at the head that satisfy `p`, and what follows them. In spaced mode
blanks and comments are passed over; a comment runs to the end of its line. -/
def takeWhile (f : Flags) (p : Char → Bool) (comment : Bool) :
    List Char → List Char × List Char
  | [] => ([], [])
  | c :: rest =>
    if comment then takeWhile f p (c != '\n') rest
    else if f.spaced && isBlank c then takeWhile f p false rest
    else if f.spaced && c == '#' then takeWhile f p true rest
    else if p c then
      let (taken, rest) := takeWhile f p false rest
      (c :: taken, rest)
    else ([], c :: rest)

def skip (f : Flags) (cs : List Char) : List Char := (f.takeWhile (fun _ => false) false cs).2

def braced (f : Flags) (cs : List Char) : Option (List Char × List Char) :=
  match f.takeWhile (· != '}') false cs with
  | (body, _ :: rest) => some (body, rest)
  | (_, []) => none

def fold (f : Flags) (set : CharSet) : CharSet :=
  if !f.ignoreCase then set
  else if f.unicode then .folded set
  else .foldedAscii set

def digits (f : Flags) : CharSet := if f.unicode then .digits else .asciiDigits

def blanks (f : Flags) : CharSet := if f.unicode then .blanks else .asciiBlanks

def words (f : Flags) : CharSet := if f.unicode then .words else .asciiWords

end Flags

end Mailroom.Pattern
