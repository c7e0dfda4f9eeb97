import Mailroom.Object.Folder

/-!
# Objects in memory

Any container and key name an object of their own.
-/

namespace Mailroom.Object

open Mailroom.Mail (Location)

structure Memory where
  objects : List (Location × Bytes)
  deriving Repr

namespace Memory

def empty : Memory := ⟨[]⟩

def get? (m : Memory) (l : Location) : Option Bytes := (m.objects.find? (·.1 = l)).map Prod.snd

def fetch (m : Memory) (l : Location) : Except Error Bytes :=
  match m.get? l with
  | some bytes => .ok bytes
  | none => .error (.objectNotFound l)

def putIn (l : Location) (bytes : Bytes) : List (Location × Bytes) → List (Location × Bytes)
  | [] => [(l, bytes)]
  | (other, old) :: rest =>
    if other = l then (l, bytes) :: rest else (other, old) :: putIn l bytes rest

def put (m : Memory) (l : Location) (bytes : Bytes) : Memory := ⟨putIn l bytes m.objects⟩

def size (m : Memory) : Nat := m.objects.length

def keys (m : Memory) (container : String) : List String :=
  ((m.objects.filter (·.1.container = container)).map (·.1.key)).mergeSort
    fun a b => decide (a ≤ b)

end Memory

end Mailroom.Object
