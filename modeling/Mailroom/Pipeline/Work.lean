import Mailroom.Object.Store
import Mailroom.Pipeline.Steps
import Mailroom.Store.Database

/-!
# Work on stored mail

Work shares a database, an object store and a queue of tasks. Every statement, every
access to an object and every submission is a step of its own, and can fail.
-/

namespace Mailroom.Pipeline

open Mailroom.Mail (EmailId Location)
open Mailroom.Store (Database)

inductive Task
  | decode (email : EmailId) (source : Location)
  | evaluate (email : EmailId)
  deriving DecidableEq, Repr

/-- A queue with a plan of what it accepts: `accepts` is asked at each submission, with the
number of submissions so far. -/
structure Queue where
  /-- In the order of their submission. -/
  tasks : List Task
  accepts : Nat → Task → Bool
  submitted : Nat

namespace Queue

def empty : Queue := ⟨[], fun _ _ => true, 0⟩

def closed : Queue := ⟨[], fun _ _ => false, 0⟩

def submit (q : Queue) (task : Task) : Except Error Unit × Queue :=
  let counted := { q with submitted := q.submitted + 1 }
  if q.accepts q.submitted task then (.ok (), { counted with tasks := q.tasks ++ [task] })
  else (.error .queueClosed, counted)

end Queue

structure State where
  database : Database
  objects : Object.Store
  queue : Queue

abbrev Work (α : Type) := ExceptT Error (Steps State) α

namespace Work

variable {α : Type}

def select (query : Database → Except Error α) : Work α :=
  ExceptT.mk (.atom fun s => (query s.database, s))

def change (statement : Database → Except Error α × Database) : Work α :=
  ExceptT.mk (.atom fun s =>
    let (answer, database) := statement s.database
    (answer, { s with database }))

def fetch (l : Location) : Work Object.Bytes :=
  ExceptT.mk (.atom fun s => (s.objects.fetch l, s))

def put (l : Location) (bytes : Object.Bytes) : Work Unit :=
  ExceptT.mk (.atom fun s =>
    let (answer, objects) := s.objects.put l bytes
    (answer, { s with objects }))

def submit (task : Task) : Work Unit :=
  ExceptT.mk (.atom fun s =>
    let (answer, queue) := s.queue.submit task
    (answer, { s with queue }))

def takeTasks : Work (List Task) :=
  ExceptT.mk (.atom fun s => (.ok s.queue.tasks, { s with queue := { s.queue with tasks := [] } }))

/-- Goes on whether the work fails or not. -/
def attempt (work : Work α) : Work (Except Error α) :=
  ExceptT.mk ((fun answer => .ok answer) <$> work.run)

/-- Goes on without an answer if the work fails. -/
def orSkip (work : Work Unit) : Work Unit := do
  let _ ← work.attempt

def perform (work : Work α) (s : State) : Except Error α × State := Steps.run (ExceptT.run work) s

end Work

end Mailroom.Pipeline
