import Mailroom.Object.Memory

/-!
# Object stores
-/

namespace Mailroom.Object

open Mailroom.Mail (Location)

inductive Place
  | memory (objects : Memory)
  | files (root : Node)

/-- A place for objects with a plan of its failures: `refuses` is asked before each write,
with the number of writes so far. -/
structure Store where
  place : Place
  refuses : Nat → Bool
  writes : Nat

namespace Store

def never (_ : Nat) : Bool := false

def inMemory : Store := ⟨.memory .empty, never, 0⟩

def inFiles : Store := ⟨.files .empty, never, 0⟩

def fetch (s : Store) (l : Location) : Except Error Bytes :=
  match s.place with
  | .memory m => m.fetch l
  | .files root => root.fetch l

def put (s : Store) (l : Location) (bytes : Bytes) : Except Error Unit × Store :=
  let counted := { s with writes := s.writes + 1 }
  if s.refuses s.writes then (.error .io, counted)
  else match s.place with
    | .memory m => (.ok (), { counted with place := .memory (m.put l bytes) })
    | .files root =>
      let (result, root) := root.put l bytes
      (result, { counted with place := .files root })

end Store

end Mailroom.Object
