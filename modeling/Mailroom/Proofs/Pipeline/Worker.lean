import Mathlib.Data.List.Nodup
import Mailroom.Pipeline.Worker

/-!
# No task is lost

A task that was submitted waits, runs or is finished, and is in one of these places only, however
submissions, starts and ends follow one another. Tasks start in the order in which they were
submitted. When the worker returns, each of them has run once, whatever came of it, and what is
submitted to a receiver that is gone is refused.
-/

namespace Mailroom.Pipeline.Worker

open scoped List

variable {w w' w'' : Worker} {event : Event} {events later : List Event}

namespace Event

def submitted? : Event → Option Ticket
  | .accepted ticket => some ticket
  | _ => none

def started? : Event → Option Ticket
  | .started ticket => some ticket
  | _ => none

def collected? : Event → Option (Ticket × Ending)
  | .collected ticket ending => some (ticket, ending)
  | _ => none

end Event

def submitted (events : List Event) : List Ticket := events.filterMap Event.submitted?

def started (events : List Event) : List Ticket := events.filterMap Event.started?

def collected (events : List Event) : List (Ticket × Ending) := events.filterMap Event.collected?

-- ---------------------------------------------------------------------------
-- Where tasks go
-- ---------------------------------------------------------------------------

/-- What the steps between two workers did with the tasks. -/
structure Flow (w : Worker) (events : List Event) (w' : Worker) : Prop where
  places : (submitted events).map (·.place) = List.range' w.accepted (submitted events).length
  accepted : w'.accepted = w.accepted + (submitted events).length
  queued : started events ++ w'.queued = w.queued ++ submitted events
  running : (w'.running ++ (collected events).map (·.1)).Perm (w.running ++ started events)
  finished : w'.finished = w.finished ++ collected events

theorem Flow.refl (w : Worker) : Flow w [] w where
  places := rfl
  accepted := rfl
  queued := by simp [started, submitted]
  running := by simp [started, collected]
  finished := by simp [collected]

theorem submitted_append : submitted (events ++ later) = submitted events ++ submitted later :=
  List.filterMap_append

theorem started_append : started (events ++ later) = started events ++ started later :=
  List.filterMap_append

theorem collected_append : collected (events ++ later) = collected events ++ collected later :=
  List.filterMap_append

theorem Flow.trans (h : Flow w events w') (hl : Flow w' later w'') :
    Flow w (events ++ later) w'' where
  places := by
    rw [submitted_append, List.map_append, List.length_append, h.places, hl.places, h.accepted,
      List.range'_append_1]
  accepted := by
    rw [submitted_append, List.length_append, hl.accepted, h.accepted, Nat.add_assoc]
  queued := by
    rw [started_append, submitted_append, List.append_assoc, hl.queued, ← List.append_assoc,
      h.queued, List.append_assoc]
  running := by
    rw [started_append, collected_append, List.map_append]
    calc w''.running ++ ((collected events).map (·.1) ++ (collected later).map (·.1))
      _ ~ w''.running ++ (collected later).map (·.1) ++ (collected events).map (·.1) := by
        rw [List.append_assoc]
        exact List.perm_append_comm.append_left _
      _ ~ w'.running ++ started later ++ (collected events).map (·.1) := hl.running.append_right _
      _ ~ w'.running ++ (collected events).map (·.1) ++ started later := by
        rw [List.append_assoc, List.append_assoc]
        exact List.perm_append_comm.append_left _
      _ ~ w.running ++ started events ++ started later := h.running.append_right _
      _ = w.running ++ (started events ++ started later) := List.append_assoc ..
  finished := by
    rw [collected_append, hl.finished, h.finished, List.append_assoc]

theorem submit_eq_ok {task : Task} (h : w.submit task = .ok w') : w.phase ≠ .gone ∧
    w' = { w with accepted := w.accepted + 1, queued := w.queued ++ [⟨w.accepted, task⟩] } := by
  unfold submit at h
  split at h
  · exact nomatch h
  · next hphase => exact ⟨hphase, (Except.ok.inj h).symm⟩

theorem submit_eq_error {task : Task} {error : Error} (h : w.submit task = .error error) :
    w.phase = .gone ∧ error = .queueClosed := by
  unfold submit at h
  split at h
  · next hphase => exact ⟨hphase, (Except.error.inj h).symm⟩
  · exact nomatch h

theorem Step.flow (h : Step w event w') : Flow w [event] w' := by
  cases h with
  | accept task _ senders answer =>
    obtain ⟨-, rfl⟩ := submit_eq_ok answer
    exact ⟨rfl, rfl, rfl, .refl _, (List.append_nil _).symm⟩
  | receive ticket rest serves first =>
    refine ⟨rfl, rfl, ?_, .of_eq (List.append_nil _), (List.append_nil _).symm⟩
    rw [first]
    exact (List.append_nil _).symm
  | collect before after ticket ending present runs =>
    refine ⟨rfl, rfl, (List.append_nil _).symm, ?_, rfl⟩
    rw [runs]
    calc before ++ after ++ [ticket]
      _ ~ ticket :: (before ++ after) := List.perm_append_singleton ticket _
      _ ~ before ++ ticket :: after := List.perm_middle.symm
      _ = before ++ ticket :: after ++ [] := (List.append_nil _).symm
  | refuse | leave | close | finish =>
    exact ⟨rfl, rfl, (List.append_nil _).symm, .refl _, (List.append_nil _).symm⟩

theorem Run.flow (h : Run w events w') : Flow w events w' := by
  induction h with
  | nil w => exact .refl w
  | cons first rest ih => exact first.flow.trans ih

-- ---------------------------------------------------------------------------
-- The end of the work
-- ---------------------------------------------------------------------------

/-- A worker that no longer serves has nobody to serve, and nothing runs when it has returned. -/
structure Settled (w : Worker) : Prop where
  alone : w.phase ≠ .serving → w.hasSenders = false
  empty : w.phase ≠ .serving → w.queued = []
  idle : w.phase = .gone → w.running = []

theorem settled_start : start.Settled where
  alone h := absurd rfl h
  empty _ := rfl
  idle _ := rfl

theorem Step.settled (h : Step w event w') (hs : w.Settled) : w'.Settled := by
  cases h with
  | accept task _ senders answer =>
    obtain ⟨-, rfl⟩ := submit_eq_ok answer
    have hserves : w.phase = .serving :=
      Decidable.byContradiction fun h => Bool.noConfusion (senders.symm.trans (hs.alone h))
    exact ⟨fun h => absurd hserves h, fun h => absurd hserves h, fun h => hs.idle h⟩
  | refuse task error senders answer => exact hs
  | leave senders => exact ⟨fun _ => rfl, hs.empty, hs.idle⟩
  | receive ticket rest serves first =>
    exact ⟨fun h => absurd serves h, fun h => absurd serves h, fun h => nomatch serves.symm.trans h⟩
  | collect before after ticket ending present runs =>
    exact ⟨hs.alone, hs.empty, fun h => absurd h present⟩
  | close serves alone empty =>
    exact ⟨fun _ => alone, fun _ => empty, fun h => nomatch h⟩
  | finish drains idle =>
    have hdrains : w.phase ≠ .serving := by simp [drains]
    exact ⟨fun _ => hs.alone hdrains, fun _ => hs.empty hdrains, fun _ => idle⟩

theorem Run.settled (h : Run w events w') (hs : w.Settled) : w'.Settled := by
  induction h with
  | nil w => exact hs
  | cons first rest ih => exact ih (first.settled hs)

theorem Run.not_refused (h : Run w events w') (hs : w.Settled) (task : Task) (error : Error) :
    Event.refused task error ∉ events := by
  induction h with
  | nil w => exact List.not_mem_nil
  | cons first rest ih =>
    refine fun hm => (List.mem_cons.mp hm).elim (fun heq => ?_) (ih (first.settled hs))
    subst heq
    cases first with
    | refuse _ _ senders answer =>
      have hgone := (submit_eq_error answer).1
      exact Bool.noConfusion (senders.symm.trans (hs.alone (by simp [hgone])))

theorem Step.of_gone (h : Step w event w') (hgone : w.phase = .gone) :
    ((∃ task, event = .refused task .queueClosed) ∨ event = .left) ∧
      w' = { w with hasSenders := w'.hasSenders } := by
  cases h with
  | accept task _ senders answer => exact absurd hgone (submit_eq_ok answer).1
  | refuse task error senders answer =>
    obtain ⟨-, rfl⟩ := submit_eq_error answer
    exact ⟨.inl ⟨task, rfl⟩, rfl⟩
  | leave senders => exact ⟨.inr rfl, rfl⟩
  | receive ticket rest serves first => exact nomatch hgone.symm.trans serves
  | collect before after ticket ending present runs => exact absurd hgone present
  | close serves alone empty => exact nomatch hgone.symm.trans serves
  | finish drains idle => exact nomatch hgone.symm.trans drains

theorem Run.of_gone (h : Run w events w') (hgone : w.phase = .gone) :
    (∀ event ∈ events, (∃ task, event = .refused task .queueClosed) ∨ event = .left) ∧
      w' = { w with hasSenders := w'.hasSenders } := by
  induction h with
  | nil w => exact ⟨fun event hm => absurd hm List.not_mem_nil, rfl⟩
  | cons first rest ih =>
    obtain ⟨hevent, hstep⟩ := first.of_gone hgone
    obtain ⟨hevents, hrest⟩ := ih (hstep ▸ hgone)
    refine ⟨List.forall_mem_cons.mpr ⟨hevent, hevents⟩, ?_⟩
    rw [hrest, hstep]

/-- How much is left to do when no task can come any more: each queued task is to be started and
collected, each running one to be collected, and then the worker has to close and to return. -/
def pending (w : Worker) : Nat :=
  2 * w.queued.length + w.running.length +
    match w.phase with
    | .serving => 2
    | .draining => 1
    | .gone => 0

theorem Step.pending_lt (h : Step w event w') (alone : w.hasSenders = false) :
    w'.hasSenders = false ∧ w'.pending < w.pending := by
  cases h with
  | accept _ _ senders | refuse _ _ senders | leave senders =>
    exact Bool.noConfusion (alone.symm.trans senders)
  | receive ticket rest serves first =>
    refine ⟨alone, ?_⟩
    simp only [pending, first, List.length_append, List.length_cons, List.length_nil]
    omega
  | collect before after ticket ending present runs =>
    refine ⟨alone, ?_⟩
    simp only [pending, runs, List.length_append, List.length_cons]
    omega
  | close serves _ empty => exact ⟨alone, by simp [pending, serves]⟩
  | finish drains idle => exact ⟨alone, by simp [pending, drains]⟩

theorem exists_step (alone : w.hasSenders = false)
    (hphase : w.phase ≠ .gone) : ∃ event w', Step w event w' := by
  cases hrunning : w.running with
  | cons ticket rest => exact ⟨_, _, .collect w [] rest ticket .succeeded hphase hrunning⟩
  | nil =>
    cases hp : w.phase with
    | serving =>
      cases hqueued : w.queued with
      | nil => exact ⟨_, _, .close w hp alone hqueued⟩
      | cons ticket rest => exact ⟨_, _, .receive w ticket rest hp hqueued⟩
    | draining => exact ⟨_, _, .finish w hp hrunning⟩
    | gone => exact absurd hp hphase

/-- When the last sender has left, only so many steps are possible, and only a worker that has
returned can make none. So it returns, in whatever order it takes them. -/
theorem Run.returns (h : Run w events w') (alone : w.hasSenders = false) :
    events.length + w'.pending ≤ w.pending ∧
      (w'.phase ≠ .gone → ∃ event w'', Step w' event w'') := by
  induction h with
  | nil w => exact ⟨by simp, exists_step alone⟩
  | cons first rest ih =>
    obtain ⟨halone, hlt⟩ := first.pending_lt alone
    obtain ⟨hle, hnext⟩ := ih halone
    refine ⟨?_, hnext⟩
    rw [List.length_cons]
    omega

-- ---------------------------------------------------------------------------
-- Every run
-- ---------------------------------------------------------------------------

theorem nodup_submitted (h : Flow start events w) : (submitted events).Nodup := by
  refine List.Nodup.of_map (·.place) ?_
  rw [h.places]
  exact List.nodup_range' ..

theorem Flow.perm_places (h : Flow start events w) :
    (w.queued ++ w.running ++ w.finished.map (·.1)).Perm (submitted events) := by
  have hfinished : w.finished = collected events := h.finished
  have hrunning : (w.running ++ w.finished.map (·.1)).Perm (started events) := by
    rw [hfinished]
    exact h.running
  calc w.queued ++ w.running ++ w.finished.map (·.1)
    _ = w.queued ++ (w.running ++ w.finished.map (·.1)) := List.append_assoc ..
    _ ~ w.queued ++ started events := hrunning.append_left _
    _ ~ started events ++ w.queued := List.perm_append_comm
    _ = submitted events := h.queued

/-- However submissions, starts and ends follow one another, each task that was submitted waits,
runs or is finished, and is in one place only. Tasks start in the order of their submission, and
when the worker has returned, each of them has been started once and has come to its end once. What
is submitted to a receiver that is gone is refused and never runs. -/
theorem Run.accounts (h : Run start events w) :
    (∀ task error, Event.refused task error ∉ events) ∧
    (submitted events).Nodup ∧
    (w.queued ++ w.running ++ w.finished.map (·.1)).Perm (submitted events) ∧
    started events ++ w.queued = submitted events ∧
    w.finished = collected events ∧
    (w.phase = .gone → w.queued = [] ∧ w.running = [] ∧ started events = submitted events ∧
      (w.finished.map (·.1)).Perm (submitted events)) ∧
    ∀ gone : Worker, gone.phase = .gone →
      (∀ task, gone.submit task = .error .queueClosed) ∧
      ∀ later after, Run gone later after →
        (∀ event ∈ later, (∃ task, event = .refused task .queueClosed) ∨ event = .left) ∧
          after = { gone with hasSenders := after.hasSenders } := by
  have hflow := h.flow
  have hsettled := h.settled settled_start
  refine ⟨h.not_refused settled_start, nodup_submitted hflow, hflow.perm_places, hflow.queued,
    hflow.finished, fun hgone => ?_, fun gone hgone => ⟨fun task => if_pos hgone,
    fun later after hrun => hrun.of_gone hgone⟩⟩
  have hqueued : w.queued = [] := hsettled.empty (by simp [hgone])
  have hrunning : w.running = [] := hsettled.idle hgone
  refine ⟨hqueued, hrunning, ?_, ?_⟩
  · simpa [hqueued, start] using hflow.queued
  · simpa [hqueued, hrunning] using hflow.perm_places

namespace Sample

def first : Ticket := ⟨0, .evaluate 1⟩

def second : Ticket := ⟨1, .evaluate 1⟩

def history : List Event :=
  [.accepted first, .accepted second, .started first, .left, .started second,
    .collected second .panicked, .closed, .collected first .failed, .returned]

def after : Worker := ⟨2, [], [], [(second, .panicked), (first, .failed)], false, .gone⟩

theorem run : Run start history after := by
  refine .cons (.accept _ first.task _ rfl rfl) ?_
  refine .cons (.accept _ second.task _ rfl rfl) ?_
  refine .cons (.receive _ first [second] rfl rfl) ?_
  refine .cons (.leave _ rfl) ?_
  refine .cons (.receive _ second [] rfl rfl) ?_
  refine .cons (.collect _ [first] [] second .panicked (by decide) rfl) ?_
  refine .cons (.close _ rfl rfl rfl) ?_
  refine .cons (.collect _ [] [] first .failed (by decide) rfl) ?_
  exact .cons (.finish _ rfl rfl) (.nil after)

end Sample

theorem Run.accounts_sample :
    started Sample.history = [Sample.first, Sample.second] ∧
    (Sample.after.finished.map (·.1)).Perm [Sample.first, Sample.second] ∧
    Sample.after.submit (.evaluate 2) = .error .queueClosed := by
  obtain ⟨-, -, -, -, -, hreturned, hgone⟩ := Run.accounts Sample.run
  obtain ⟨-, -, hstarted, hfinished⟩ := hreturned rfl
  exact ⟨hstarted, hfinished, (hgone Sample.after rfl).1 (.evaluate 2)⟩

end Mailroom.Pipeline.Worker
