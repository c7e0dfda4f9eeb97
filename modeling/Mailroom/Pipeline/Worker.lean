import Mailroom.Pipeline.Decoding
import Mailroom.Pipeline.Evaluation
import Mailroom.Pipeline.Intake

/-!
# Running tasks

A worker takes tasks from the queue and starts each of them; started tasks run beside
each other and end in any order. It stops once nobody can submit tasks any more, the
queue is empty and nothing runs.
-/

namespace Mailroom.Pipeline

open Mailroom.Filter (PatternEngine RuleId)
open Mailroom.Time (Instant)

/-- Runs one task. A failure is passed over. -/
def Task.run [PatternEngine] (times : RuleId → Instant) : Task → Work Unit
  | .decode email source => Work.orSkip (Decoding.decode email source)
  | .evaluate email => do
    let _ ← Work.attempt (Evaluation.evaluate email times)

def runTasks [PatternEngine] (times : RuleId → Instant) : Work Nat := do
  let tasks ← Work.takeTasks
  tasks.forM (Task.run times)
  return tasks.length

/-- Does work with a queue of its own, and puts the former queue back. -/
def withQueue {α : Type} (queue : Queue) (work : Work α) (s : State) : Except Error α × State :=
  let (answer, after) := work.perform { s with queue }
  (answer, { after with queue := s.queue })

def deliver [PatternEngine] (n : Notification) (now : Instant) : Work Outcome := do
  let outcome ← Intake.ingest n now
  let _ ← runTasks fun _ => now
  return outcome

/-! ## The worker as a relation -/

inductive Ending
  | succeeded
  | failed
  | panicked
  deriving DecidableEq, Repr

structure Ticket where
  place : Nat
  task : Task
  deriving DecidableEq, Repr

/-- How far a worker is. -/
inductive Phase
  /-- It starts tasks as they come, and collects them as they end. -/
  | serving
  /-- No task can come any more, and it collects those that still run. -/
  | draining
  /-- It has returned, or was never there. The receiver is gone with it. -/
  | gone
  deriving DecidableEq, Repr

structure Worker where
  accepted : Nat
  queued : List Ticket
  running : List Ticket
  finished : List (Ticket × Ending)
  hasSenders : Bool
  phase : Phase
  deriving DecidableEq, Repr

namespace Worker

def start : Worker := ⟨0, [], [], [], true, .serving⟩

def submit (w : Worker) (task : Task) : Except Error Worker :=
  if w.phase = .gone then .error .queueClosed
  else .ok { w with accepted := w.accepted + 1, queued := w.queued ++ [⟨w.accepted, task⟩] }

inductive Event
  | accepted (ticket : Ticket)
  | refused (task : Task) (error : Error)
  | left
  | started (ticket : Ticket)
  | collected (ticket : Ticket) (ending : Ending)
  /-- The worker learned that no task can come any more. -/
  | closed
  | returned
  deriving DecidableEq, Repr

inductive Step : Worker → Event → Worker → Prop
  | accept (w : Worker) (task : Task) (w' : Worker) (senders : w.hasSenders = true)
      (answer : w.submit task = .ok w') : Step w (.accepted ⟨w.accepted, task⟩) w'
  | refuse (w : Worker) (task : Task) (error : Error) (senders : w.hasSenders = true)
      (answer : w.submit task = .error error) : Step w (.refused task error) w
  | leave (w : Worker) (senders : w.hasSenders = true) :
      Step w .left { w with hasSenders := false }
  | receive (w : Worker) (ticket : Ticket) (rest : List Ticket) (serves : w.phase = .serving)
      (first : w.queued = ticket :: rest) :
      Step w (.started ticket) { w with queued := rest, running := w.running ++ [ticket] }
  | collect (w : Worker) (before after : List Ticket) (ticket : Ticket) (ending : Ending)
      (present : w.phase ≠ .gone) (runs : w.running = before ++ ticket :: after) :
      Step w (.collected ticket ending)
        { w with running := before ++ after, finished := w.finished ++ [(ticket, ending)] }
  | close (w : Worker) (serves : w.phase = .serving) (alone : w.hasSenders = false)
      (empty : w.queued = []) : Step w .closed { w with phase := .draining }
  | finish (w : Worker) (drains : w.phase = .draining) (idle : w.running = []) :
      Step w .returned { w with phase := .gone }

inductive Run : Worker → List Event → Worker → Prop
  | nil (w : Worker) : Run w [] w
  | cons {w w' w'' : Worker} {event : Event} {events : List Event} (first : Step w event w')
      (rest : Run w' events w'') : Run w (event :: events) w''

end Worker

end Mailroom.Pipeline
