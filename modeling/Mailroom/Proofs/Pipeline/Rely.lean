import Mailroom.Pipeline.Worker

/-!
# What calls and tasks rely on

Calls of the intake, tasks and the senders of raw messages share one state, and any of them can
make the next step. A relation that each single step keeps, whatever the others have done before
it, holds between the first and the last state of every run.
-/

namespace Mailroom.Pipeline

open Mailroom.Filter (PatternEngine RuleId)
open Mailroom.Mail (Location)
open Mailroom.Store (Database)
open Mailroom.Time (Instant)

variable {α β : Type} {grows : State → State → Prop}

/-- Steps, to be made after the state `s`, of which each lets its state grow if it has only grown
since the step before. -/
inductive Keeps (grows : State → State → Prop) : State → Steps State α → Prop
  | done (s : State) (a : α) : Keeps grows s (.done a)
  | step {s : State} {change : State → State} {next : State → Steps State α}
      (acts : ∀ t, grows s t → grows t (change t))
      (goesOn : ∀ t, grows s t → Keeps grows (change t) (next t)) :
      Keeps grows s (.step change next)

namespace Keeps

theorem later (trans : ∀ s t u, grows s t → grows t u → grows s u) {s t : State}
    {m : Steps State α} (h : Keeps grows s m) (hst : grows s t) : Keeps grows t m := by
  cases h with
  | done => exact .done t _
  | step acts goesOn =>
    have hlater (u : State) (htu : grows t u) : grows s u := trans s t u hst htu
    exact .step (fun u htu => acts u (hlater u htu)) fun u htu => goesOn u (hlater u htu)

theorem bind {s : State} {m : Steps State α} {f : α → Steps State β} (hm : Keeps grows s m)
    (hf : ∀ a t, Keeps grows t (f a)) : Keeps grows s (m.bind f) := by
  induction hm with
  | done s a => exact hf a s
  | step acts _ ih => exact .step acts ih

theorem bind_work {s : State} {m : Work α} {f : α → Work β} (hm : Keeps grows s m.run)
    (hf : ∀ a t, Keeps grows t (f a).run) : Keeps grows s (m >>= f).run := by
  refine bind (f := ExceptT.bindCont f) hm fun answer t => ?_
  cases answer with
  | ok a => exact hf a t
  | error e => exact .done t _

theorem attempt {s : State} {m : Work α} (hm : Keeps grows s m.run) :
    Keeps grows s m.attempt.run :=
  bind hm fun _ t => .done t _

theorem orSkip {s : State} {m : Work Unit} (hm : Keeps grows s m.run) :
    Keeps grows s m.orSkip.run :=
  bind_work hm.attempt fun _ t => .done t _

theorem forM {f : α → Work Unit} {xs : List α} (hf : ∀ x ∈ xs, ∀ s, Keeps grows s (f x).run)
    (s : State) : Keeps grows s (xs.forM f).run := by
  induction xs generalizing s with
  | nil => exact .done s _
  | cons x xs ih =>
    obtain ⟨hx, hxs⟩ := List.forall_mem_cons.mp hf
    exact bind_work (hx s) fun _ => ih hxs

theorem atom {f : State → α × State} (h : ∀ t, grows t (f t).2) (s : State) :
    Keeps grows s (.atom f) :=
  .step (fun t _ => h t) fun _ _ => .done _ _

theorem select (refl : ∀ s, grows s s) (query : Database → Except Error α) (s : State) :
    Keeps grows s (Work.select query).run := atom refl s

theorem fetch (refl : ∀ s, grows s s) (l : Location) (s : State) :
    Keeps grows s (Work.fetch l).run := atom refl s

theorem change {statement : Database → Except Error α × Database}
    (h : ∀ t : State, grows t { t with database := (statement t.database).2 }) (s : State) :
    Keeps grows s (Work.change statement).run := atom h s

theorem submit (h : ∀ (t : State) (queue : Queue), grows t { t with queue }) (task : Task)
    (s : State) : Keeps grows s (Work.submit task).run := atom (fun t => h t _) s

end Keeps

-- ---------------------------------------------------------------------------
-- Runs
-- ---------------------------------------------------------------------------

/-- Calls and tasks that have begun, as what is left of them, and the state that they share. -/
structure Service where
  running : List (Steps State Unit)
  state : State

inductive Event
  | call (n : Notification) (now : Instant)
  | take (times : RuleId → Instant)
  /-- A task begins that has been taken out before, or that never was in the queue. -/
  | begins (task : Task) (times : RuleId → Instant)
  | go (place : Nat)
  /-- An object is written from outside. -/
  | put (l : Location) (bytes : Object.Bytes)

namespace Service

def idle (s : State) : Service := ⟨[], s⟩

def begin (v : Service) (work : Work α) : Service :=
  { v with running := v.running ++ [work.run.bind fun _ => .done ()] }

def next? [PatternEngine] (v : Service) : Event → Option Service
  | .call n now => some (v.begin (Intake.ingest n now))
  | .take times =>
    match v.state.queue.tasks with
    | [] => none
    | task :: rest =>
      let queue := { v.state.queue with tasks := rest }
      some ({ v with state := { v.state with queue } }.begin (task.run times))
  | .begins task times => some (v.begin (task.run times))
  | .go place =>
    match v.running[place]? with
    | some (.step change next) =>
      some ⟨v.running.set place (next v.state), change v.state⟩
    | _ => none
  | .put l bytes =>
    some { v with state := { v.state with objects := (v.state.objects.put l bytes).2 } }

def play [PatternEngine] (v : Service) (events : List Event) : Option Service :=
  events.foldlM next? v

end Service

structure Relied [PatternEngine] (grows : State → State → Prop) (events : List Event) : Prop where
  refl : ∀ s, grows s s
  trans : ∀ s t u, grows s t → grows t u → grows s u
  queue : ∀ (s : State) (queue : Queue), grows s { s with queue }
  calls : ∀ n now s, Keeps grows s (Intake.ingest n now).run
  tasks : ∀ (task : Task) times s, Keeps grows s (task.run times).run
  puts : ∀ l bytes, .put l bytes ∈ events →
    ∀ s : State, grows s { s with objects := (s.objects.put l bytes).2 }

structure Service.Growing (grows : State → State → Prop) (start : State) (v : Service) : Prop where
  state : grows start v.state
  running : ∀ m ∈ v.running, Keeps grows v.state m

namespace Service.Growing

variable {events : List Event} {start : State} {v v' : Service}

theorem begin (h : Growing grows start v) {work : Work α} (hwork : ∀ s, Keeps grows s work.run) :
    Growing grows start (v.begin work) where
  state := h.state
  running m hm := by
    rcases List.mem_append.mp hm with hm | hm
    · exact h.running m hm
    · obtain rfl := List.mem_singleton.mp hm
      exact (hwork v.state).bind fun _ t => .done t _

theorem grow [PatternEngine] (h : Growing grows start v) (hrel : Relied grows events) {s : State}
    (hs : grows v.state s) : Growing grows start { v with state := s } where
  state := hrel.trans _ _ _ h.state hs
  running m hm := (h.running m hm).later hrel.trans hs

theorem next [PatternEngine] (h : Growing grows start v) (hrel : Relied grows events)
    {event : Event} (hevent : event ∈ events) (hnext : v.next? event = some v') :
    Growing grows start v' := by
  cases event with
  | call n now =>
    cases hnext
    exact h.begin (hrel.calls n now)
  | begins task times =>
    cases hnext
    exact h.begin (hrel.tasks task times)
  | take times =>
    simp only [next?] at hnext
    split at hnext
    · cases hnext
    · next task rest _ =>
      cases hnext
      exact (h.grow hrel (hrel.queue v.state _)).begin (hrel.tasks task times)
  | put l bytes =>
    cases hnext
    exact h.grow hrel (hrel.puts l bytes hevent v.state)
  | go place =>
    simp only [next?] at hnext
    split at hnext
    · next change next hplace =>
      cases hnext
      have hself := h.running _ (List.mem_of_getElem? hplace)
      cases hself with
      | step acts goesOn =>
        have hs := acts v.state (hrel.refl v.state)
        refine ⟨hrel.trans _ _ _ h.state hs, fun m hm => ?_⟩
        rcases List.mem_or_eq_of_mem_set hm with hm | rfl
        · exact (h.running m hm).later hrel.trans hs
        · exact goesOn v.state (hrel.refl v.state)
    · cases hnext

theorem play [PatternEngine] (h : Growing grows start v) (hrel : Relied grows events)
    {part : List Event} (hpart : part ⊆ events) (hplay : v.play part = some v') :
    Growing grows start v' := by
  induction part generalizing v with
  | nil =>
    cases hplay
    exact h
  | cons event rest ih =>
    obtain ⟨hevent, hrest⟩ := List.cons_subset.mp hpart
    obtain ⟨between, hnext, hlater⟩ := Option.bind_eq_some_iff.mp hplay
    exact ih (h.next hrel hevent hnext) hrest hlater

end Service.Growing

theorem Service.grows_of_play [PatternEngine] {events : List Event} {start : State}
    {after : Service} (hrel : Relied grows events) (hplay : (idle start).play events = some after) :
    grows start after.state := by
  have hidle : Growing grows start (idle start) := ⟨hrel.refl start, fun _ hm => by cases hm⟩
  exact (hidle.play hrel (List.Subset.refl _) hplay).state

end Mailroom.Pipeline
