import Mathlib.Data.List.Nodup
import Mailroom.Proofs.Pipeline.Contribution

/-!
# Logs of tasks beside each other

A log says which task had which effect, in the order in which the effects came. What is stored of
an email in the end can be read off what its own tasks did, whatever else the log says.
-/

namespace Mailroom.Pipeline

open Mailroom.Filter (PatternEngine RuleId)
open Mailroom.Mail
open Mailroom.Store
open Mailroom.Time (Instant)

-- ---------------------------------------------------------------------------
-- Tasks
-- ---------------------------------------------------------------------------

def OncePerEmail (tasks : List Task) : Prop :=
  (tasks.map fun task => (task.isDecode, task.email)).Nodup

instance (tasks : List Task) : Decidable (OncePerEmail tasks) :=
  inferInstanceAs (Decidable (List.Nodup _))

def tasksOf (decodes : Bool) (tasks : List Task) (id : EmailId) : List Task :=
  tasks.filter fun task => task.isDecode = decodes ∧ task.email = id

variable {tasks : List Task} {start : State}

theorem mem_tasksOf {decodes : Bool} {id : EmailId} {task : Task} :
    task ∈ tasksOf decodes tasks id ↔
      task ∈ tasks ∧ task.isDecode = decodes ∧ task.email = id := by
  simp [tasksOf]

theorem tasksOf_cases (h : OncePerEmail tasks) (decodes : Bool) (id : EmailId) :
    tasksOf decodes tasks id = [] ∨ ∃ task, tasksOf decodes tasks id = [task] := by
  have hnodup : ((tasksOf decodes tasks id).map fun task => (task.isDecode, task.email)).Nodup :=
    ((List.filter_sublist (l := tasks)).map _).nodup h
  have hsame : (tasksOf decodes tasks id).map (fun task => (task.isDecode, task.email)) =
      List.replicate (tasksOf decodes tasks id).length (decodes, id) := by
    rw [List.eq_replicate_iff]
    refine ⟨List.length_map _, fun key hkey => ?_⟩
    obtain ⟨task, htask, rfl⟩ := List.mem_map.mp hkey
    exact Prod.ext (mem_tasksOf.mp htask).2.1 (mem_tasksOf.mp htask).2.2
  rw [hsame, List.nodup_replicate] at hnodup
  rcases hlist : tasksOf decodes tasks id with _ | ⟨task, _ | ⟨other, rest⟩⟩
  · exact .inl rfl
  · exact .inr ⟨task, rfl⟩
  · simp [hlist] at hnodup

/-- Tasks that may run beside each other: at most one of each kind for an email, all for stored
emails, nothing fails, and no decoding reads what another one files. -/
structure Admissible (tasks : List Task) (start : State) : Prop where
  once : OncePerEmail tasks
  stored : ∀ task ∈ tasks, (start.database.tables.emails.get? task.email).isSome = true
  reliable : start.Reliable
  apart : Apart tasks start

/-- Two databases hold the same of an email: its row, hence its record, and its attachments apart
from their ids. -/
structure SameMail (id : EmailId) (a b : Database) : Prop where
  row : a.tables.emails.get? id = b.tables.emails.get? id
  record : a.getEmail id = b.getEmail id
  attachments : (a.attachmentsOf id).map (·.map Attachment.data) =
    (b.attachmentsOf id).map (·.map Attachment.data)

-- ---------------------------------------------------------------------------
-- Logs
-- ---------------------------------------------------------------------------

abbrev Log := List (Task × Effect)

namespace Log

def did (log : Log) (task : Task) : List Effect := (log.filter (·.1 = task)).map Prod.snd

def after (log : Log) (start : State) : State := Effect.actAll start (log.map Prod.snd)

variable {log more : Log} {task : Task} {effect : Effect}

theorem did_append (log more : Log) (task : Task) :
    (log ++ more).did task = log.did task ++ more.did task := by
  simp [did]

theorem did_self (effects : List Effect) (task : Task) :
    did (effects.map (task, ·)) task = effects := by
  simp [did, List.filter_map, Function.comp_def]

theorem did_other (effects : List Effect) {task other : Task} (h : other ≠ task) :
    did (effects.map (task, ·)) other = [] := by
  simp [did, List.filter_map, Function.comp_def, Ne.symm h]

theorem did_eq_nil_iff : log.did task = [] ↔ task ∉ log.map Prod.fst := by
  simp only [did, List.map_eq_nil_iff, List.filter_eq_nil_iff, decide_eq_true_eq]
  constructor
  · intro h hmem
    obtain ⟨x, hx, hself⟩ := List.mem_map.mp hmem
    exact h x hx hself
  · rintro h x hx rfl
    exact h (List.mem_map_of_mem hx)

theorem after_append (log more : Log) (start : State) :
    (log ++ more).after start = Effect.actAll (log.after start) (more.map Prod.snd) := by
  rw [after, after, List.map_append, Effect.actAll_append]

theorem emails_after (log : Log) {start : State} (h : start.Reliable) (id : EmailId) :
    (log.after start).database.tables.emails.get? id =
      (start.database.tables.emails.get? id).map
        ((log.flatMap fun x => x.2.assignments id).foldl EmailRow.assign) := by
  rw [after, Effect.emails_actAll h, List.flatMap_map]

theorem attachments_after (log : Log) {start : State} (h : start.Reliable) :
    (log.after start).database.tables.attachments.rows =
      start.database.tables.attachments.rows ++ log.flatMap fun x => x.2.added := by
  rw [after, Effect.attachments_actAll h, List.flatMap_map]

theorem flatMap_eq_did {γ : Type} (view : Effect → List γ)
    (h : ∀ x ∈ log, x.1 ≠ task → view x.2 = []) :
    log.flatMap (fun x => view x.2) = (log.did task).flatMap view := by
  induction log with
  | nil => rfl
  | cons x log ih =>
    have hrest := ih fun y hy => h y (List.mem_cons_of_mem x hy)
    rw [List.flatMap_cons, hrest]
    by_cases hx : x.1 = task
    · simp [did, hx]
    · simp [did, hx, h x List.mem_cons_self hx]

theorem length_flatMap {γ : Type} {tasks : List Task} {view : Effect → List γ}
    {p : Task → Bool} (hmem : ∀ x ∈ log, x.1 ∈ tasks) (hnodup : tasks.Nodup)
    (hview : ∀ task ∈ tasks, ((log.did task).flatMap view).length = if p task then 1 else 0) :
    (log.flatMap fun x => view x.2).length = tasks.countP p := by
  induction tasks generalizing log with
  | nil =>
    cases log with
    | nil => rfl
    | cons x log => exact absurd (hmem x List.mem_cons_self) List.not_mem_nil
  | cons task tasks ih =>
    obtain ⟨hnew, hrest⟩ := List.nodup_cons.mp hnodup
    have hsplit := List.filter_append_perm (fun x : Task × Effect => decide (x.1 = task)) log
    have hlength := (hsplit.flatMap_right fun x => view x.2).length_eq
    rw [List.flatMap_append, List.length_append] at hlength
    have hself : ((log.filter fun x => decide (x.1 = task)).flatMap fun x => view x.2).length =
        if p task then 1 else 0 := by
      rw [← hview task List.mem_cons_self, did, List.flatMap_map]
    have hothers : ((log.filter fun x => !decide (x.1 = task)).flatMap fun x => view x.2).length =
        tasks.countP p := by
      refine ih (fun x hx => ?_) hrest fun other hother => ?_
      · obtain ⟨hmemlog, hne⟩ := List.mem_filter.mp hx
        exact (List.mem_cons.mp (hmem x hmemlog)).resolve_left (by simpa using hne)
      · have hne : other ≠ task := fun he => hnew (he ▸ hother)
        rw [← hview other (List.mem_cons_of_mem task hother), did, did, List.filter_filter]
        congr 4
        funext x
        by_cases hx : x.1 = other <;> simp [hx, hne]
    rw [← hlength, hself, hothers, List.countP_cons, Nat.add_comm]

end Log

-- ---------------------------------------------------------------------------
-- Logs of tasks
-- ---------------------------------------------------------------------------

def Fair (tasks : List Task) (start : State) (log : Log) : Prop :=
  ∀ x ∈ log, x.1 ∈ tasks ∧ x.2.Of x.1 ∧ x.2.Allowed tasks start

namespace Fair

variable {tasks : List Task} {start : State} {log log' : Log}

theorem nil : Fair tasks start [] := fun _ h => absurd h List.not_mem_nil

theorem append (h : Fair tasks start log) (h' : Fair tasks start log') :
    Fair tasks start (log ++ log') := fun x hx =>
  (List.mem_append.mp hx).elim (h x) (h' x)

theorem earlier (h : Fair tasks start (log ++ log')) : Fair tasks start log := fun x hx =>
  h x (List.mem_append_left log' hx)

theorem steady (h : Fair tasks start log) (hready : Admissible tasks start) :
    Steady tasks start (log.after start) := by
  refine (Steady.refl hready.reliable tasks).actAll hready.apart fun effect he => ?_
  obtain ⟨x, hx, rfl⟩ := List.mem_map.mp he
  exact (h x hx).2.2

theorem flatMap_eq {γ : Type} (view : Effect → List γ) (decodes : Bool) (id : EmailId)
    (h : Fair tasks start log) (h' : Fair tasks start log') (honce : OncePerEmail tasks)
    (hview : ∀ (task : Task) (effect : Effect), effect.Of task →
      ¬ (task.isDecode = decodes ∧ task.email = id) → view effect = [])
    (hdid : ∀ task ∈ tasks, task.email = id → log.did task = log'.did task) :
    log.flatMap (fun x => view x.2) = log'.flatMap fun x => view x.2 := by
  by_cases hex : ∃ task ∈ tasks, task.isDecode = decodes ∧ task.email = id
  · obtain ⟨task, htask, hkind⟩ := hex
    have halone {log : Log} (h : Fair tasks start log) : ∀ x ∈ log, x.1 ≠ task → view x.2 = [] := by
      intro x hx hne
      obtain ⟨hmem, hof, -⟩ := h x hx
      refine hview x.1 x.2 hof fun hx' => hne ?_
      exact List.inj_on_of_nodup_map honce hmem htask
        (Prod.ext (hx'.1.trans hkind.1.symm) (hx'.2.trans hkind.2.symm))
    rw [Log.flatMap_eq_did view (halone h), Log.flatMap_eq_did view (halone h'),
      hdid task htask hkind.2]
  · have hnone {log : Log} (h : Fair tasks start log) : log.flatMap (fun x => view x.2) = [] := by
      rw [List.flatMap_eq_nil_iff]
      intro x hx
      obtain ⟨hmem, hof, -⟩ := h x hx
      exact hview x.1 x.2 hof fun hkind => hex ⟨x.1, hmem, hkind⟩
    rw [hnone h, hnone h']

/-- What is stored of an email depends only on what its own tasks did, and in no way on the order
among its decoding and its evaluation. -/
theorem sameMail (h : Fair tasks start log) (h' : Fair tasks start log')
    (hready : Admissible tasks start) {id : EmailId}
    (hdid : ∀ task ∈ tasks, task.email = id → log.did task = log'.did task) :
    SameMail id (log.after start).database (log'.after start).database := by
  have hassigned (content : Bool) :
      (log.flatMap fun x => x.2.assignments id).filter (·.isContent == content) =
        (log'.flatMap fun x => x.2.assignments id).filter (·.isContent == content) := by
    rw [List.filter_flatMap, List.filter_flatMap]
    refine flatMap_eq (fun e => (e.assignments id).filter (·.isContent == content)) content id h h'
      hready.once ?_ hdid
    intro task effect hof hkind
    rw [List.filter_eq_nil_iff]
    intro a ha hcontent
    obtain ⟨hemail, hdecode⟩ := hof.assignments a ha
    exact hkind ⟨hdecode.symm.trans (beq_iff_eq.mp hcontent), hemail⟩
  have hadded : (log.flatMap fun x => x.2.added.filter (·.email = id)) =
      log'.flatMap fun x => x.2.added.filter (·.email = id) := by
    refine flatMap_eq (fun e => e.added.filter (·.email = id)) true id h h' hready.once ?_ hdid
    intro task effect hof hkind
    rw [List.filter_eq_nil_iff]
    intro row hrow hid
    obtain ⟨hdecode, hemail⟩ := hof.added row hrow
    exact hkind ⟨hdecode, hemail.trans (of_decide_eq_true hid)⟩
  have hrow : (log.after start).database.tables.emails.get? id =
      (log'.after start).database.tables.emails.get? id := by
    rw [log.emails_after hready.reliable, log'.emails_after hready.reliable]
    congr 1
    funext row
    have hcontent := hassigned true
    have hruled := hassigned false
    simp only [beq_true, beq_false] at hcontent hruled
    rw [EmailRow.foldl_assign_split row (log.flatMap _),
      EmailRow.foldl_assign_split row (log'.flatMap _), hruled]
    exact congrArg (fun content => List.foldl EmailRow.assign
      (List.foldl EmailRow.assign row content) _) hcontent
  have hopen (log : Log) : (log.after start).database.closed = false :=
    (Effect.reliable_actAll hready.reliable _).isOpen
  refine ⟨hrow, Database.getEmail_congr (hopen log) (hopen log') hrow, ?_⟩
  rw [Database.attachmentsOf_data (hopen log), Database.attachmentsOf_data (hopen log'),
    log.attachments_after hready.reliable, log'.attachments_after hready.reliable,
    List.filter_append, List.filter_append, List.filter_flatMap, List.filter_flatMap, hadded]

theorem length_did (h : Fair tasks start log) {decodes : Bool} {id : EmailId} {task : Task}
    (hone : tasksOf decodes tasks id = [task]) :
    (tasksOf decodes (log.map Prod.fst) id).length = (log.did task).length := by
  have hkind := mem_tasksOf.mp (hone ▸ List.mem_singleton_self task)
  rw [tasksOf, List.filter_map, List.length_map, Log.did, List.length_map]
  congr 1
  refine List.filter_congr fun x hx => ?_
  rw [Function.comp_apply, decide_eq_decide]
  refine ⟨fun hx' => ?_, fun hx' => hx' ▸ hkind.2⟩
  simpa [hone] using mem_tasksOf.mpr ⟨(h x hx).1, hx'⟩

theorem assignments_eq (h : Fair tasks start log) (honce : OncePerEmail tasks)
    {id : EmailId} (hnot : .evaluate id ∉ log.map Prod.fst) :
    (log.flatMap fun x => x.2.assignments id) =
      (tasksOf true tasks id).flatMap fun task => (log.did task).flatMap (·.assignments id) := by
  -- An entry that assigns something is of a decoding of the email.
  have hdecode {x : Task × Effect} (hx : x ∈ log) {a : Assignment}
      (ha : a ∈ x.2.assignments id) : x.1 ∈ tasksOf true tasks id := by
    obtain ⟨hmem, hof, -⟩ := h x hx
    refine mem_tasksOf.mpr ⟨hmem, ?_, (hof.assignments a ha).1⟩
    have hid := (hof.assignments a ha).1
    cases hkind : x.1 with
    | decode => rfl
    | evaluate e =>
      rw [hkind] at hid
      cases hid
      exact absurd (hkind ▸ List.mem_map_of_mem hx) hnot
  rcases tasksOf_cases honce true id with hnone | ⟨task, hone⟩
  · rw [hnone, List.flatMap_nil, List.flatMap_eq_nil_iff]
    refine fun x hx => List.eq_nil_iff_forall_not_mem.mpr fun a ha => ?_
    simpa [hnone] using hdecode hx ha
  · rw [hone, List.flatMap_singleton]
    refine Log.flatMap_eq_did (fun e => e.assignments id) fun x hx hne => ?_
    refine List.eq_nil_iff_forall_not_mem.mpr fun a ha => hne ?_
    simpa [hone] using hdecode hx ha

end Fair

end Mailroom.Pipeline
