/-!
# Computations in atomic steps

A computation that shares a state with others can be interrupted between its steps, but
not within one. Each step sees the state, changes it, and decides with what it saw how to
go on. Run without interruption, steps are ordinary state passing.
-/

namespace Mailroom.Pipeline

inductive Steps (σ α : Type) where
  | done (answer : α)
  /-- One step: the change it makes, and how to go on, both from the state before it. -/
  | step (change : σ → σ) (next : σ → Steps σ α)

namespace Steps

variable {σ α β : Type}

def bind : Steps σ α → (α → Steps σ β) → Steps σ β
  | .done a, f => f a
  | .step change next, f => .step change fun s => bind (next s) f

instance : Monad (Steps σ) where
  pure := .done
  bind := Steps.bind

def atom (f : σ → α × σ) : Steps σ α := .step (fun s => (f s).2) fun s => .done (f s).1

def run : Steps σ α → σ → α × σ
  | .done a, s => (a, s)
  | .step change next, s => run (next s) (change s)

theorem run_bind (m : Steps σ α) (f : α → Steps σ β) (s : σ) :
    (m >>= f).run s = (f (m.run s).1).run (m.run s).2 := by
  show (m.bind f).run s = _
  induction m generalizing s with
  | done a => rfl
  | step change next ih => exact ih s (change s)

theorem bind_done (m : Steps σ α) : m.bind .done = m := by
  induction m with
  | done a => rfl
  | step change next ih => simp [Steps.bind, ih]

theorem bind_assoc {γ : Type} (m : Steps σ α) (f : α → Steps σ β) (g : β → Steps σ γ) :
    (m.bind f).bind g = m.bind fun a => (f a).bind g := by
  induction m with
  | done a => rfl
  | step change next ih => simp [Steps.bind, ih]

instance : LawfulMonad (Steps σ) :=
  LawfulMonad.mk' (Steps σ) bind_done (fun _ _ => rfl) bind_assoc

end Steps

end Mailroom.Pipeline
