import Mailroom.Pipeline.Work

/-!
# Work without interruption

What each piece of work does to a state when nothing comes between its steps.
-/

namespace Mailroom.Pipeline.Work

open Mailroom.Store (Database)

variable {α β : Type}

@[simp] theorem perform_pure (a : α) (s : State) : (pure a : Work α).perform s = (.ok a, s) := rfl

@[simp] theorem perform_throw (e : Error) (s : State) :
    (throw e : Work α).perform s = (.error e, s) := rfl

theorem perform_bind (m : Work α) (f : α → Work β) (s : State) :
    (m >>= f).perform s = match m.perform s with
      | (.ok a, after) => (f a).perform after
      | (.error e, after) => (.error e, after) := by
  unfold perform ExceptT.run
  simp only [bind, ExceptT.bind, ExceptT.mk]
  refine (Steps.run_bind m (ExceptT.bindCont f) s).trans ?_
  cases Steps.run m s with
  | mk answer after => cases answer <;> rfl

theorem perform_bind_ok {m : Work α} {a : α} {s after : State} (f : α → Work β)
    (h : m.perform s = (.ok a, after)) : (m >>= f).perform s = (f a).perform after := by
  rw [perform_bind, h]

theorem perform_bind_error {m : Work α} {e : Error} {s after : State} (f : α → Work β)
    (h : m.perform s = (.error e, after)) : (m >>= f).perform s = (.error e, after) := by
  rw [perform_bind, h]

@[simp] theorem perform_select (query : Database → Except Error α) (s : State) :
    (select query).perform s = (query s.database, s) := rfl

@[simp] theorem perform_change (statement : Database → Except Error α × Database) (s : State) :
    (change statement).perform s =
      ((statement s.database).1, { s with database := (statement s.database).2 }) := rfl

@[simp] theorem perform_fetch (l : Mail.Location) (s : State) :
    (fetch l).perform s = (s.objects.fetch l, s) := rfl

@[simp] theorem perform_submit (task : Task) (s : State) :
    (submit task).perform s = ((s.queue.submit task).1, { s with queue := (s.queue.submit task).2 }) :=
  rfl

@[simp] theorem perform_attempt (work : Work α) (s : State) :
    work.attempt.perform s = (.ok (work.perform s).1, (work.perform s).2) := by
  show Steps.run (work.run >>= fun answer => pure (Except.ok answer)) s = _
  rw [Steps.run_bind]
  rfl

@[simp] theorem perform_orSkip (work : Work Unit) (s : State) :
    work.orSkip.perform s = (.ok (), (work.perform s).2) := by
  rw [orSkip, perform_bind_ok _ (perform_attempt work s)]
  rfl

theorem perform_forM {f : α → Work Unit} (next : State → α → State) (holds : State → Prop)
    {xs : List α} (hf : ∀ x ∈ xs, ∀ s, holds s → (f x).perform s = (.ok (), next s x))
    (hnext : ∀ x ∈ xs, ∀ s, holds s → holds (next s x)) {s : State} (hs : holds s) :
    (xs.forM f).perform s = (.ok (), xs.foldl next s) := by
  induction xs generalizing s with
  | nil => rfl
  | cons x xs ih =>
    have hrest := ih (fun y hy => hf y (List.mem_cons_of_mem _ hy))
      (fun y hy => hnext y (List.mem_cons_of_mem _ hy)) (hnext x List.mem_cons_self s hs)
    show (f x >>= fun _ => xs.forM f).perform s = _
    rw [perform_bind_ok _ (hf x List.mem_cons_self s hs), hrest]
    rfl

end Mailroom.Pipeline.Work
