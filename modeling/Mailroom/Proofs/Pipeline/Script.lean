import Mailroom.Proofs.Pipeline.Decoding
import Mailroom.Proofs.Pipeline.Effect

/-!
# Scripts of tasks

A task reads once, and what it reads decides on all effects that it has after that: its script.
Whatever other tasks do between its steps, it goes through this script, because none of them
changes the rules, the raw messages or the room for attachments.
-/

namespace Mailroom.Pipeline

open Mailroom.Filter (Action PatternEngine RuleId StoredRule)
open Mailroom.Mail
open Mailroom.Store
open Mailroom.Time (Instant)

variable {α β : Type}

-- ---------------------------------------------------------------------------
-- Work that follows a script
-- ---------------------------------------------------------------------------

/-- Steps that have given effects, one each, and end with an answer, if each of them meets a state
that `holds`. -/
inductive Follows (holds : State → Prop) : Steps State α → List Effect → α → Prop
  | done (a : α) : Follows holds (.done a) [] a
  | step {change : State → State} {next : State → Steps State α} {effect : Effect}
      {rest : List Effect} {a : α} (acts : ∀ s, holds s → change s = effect.act s)
      (goesOn : ∀ s, holds s → Follows holds (next s) rest a) :
      Follows holds (.step change next) (effect :: rest) a

namespace Follows

variable {holds : State → Prop} {effects more : List Effect}

theorem bind {m : Steps State α} {f : α → Steps State β} {a : α} {b : β}
    (hm : Follows holds m effects a) (hf : Follows holds (f a) more b) :
    Follows holds (m.bind f) (effects ++ more) b := by
  induction hm with
  | done => exact hf
  | step acts _ ih => exact .step acts fun s hs => ih s hs hf

theorem bind_ok {m : Work α} {f : α → Work β} {a : α} {b : Except Error β}
    (hm : Follows holds m.run effects (.ok a)) (hf : Follows holds (f a).run more b) :
    Follows holds (m >>= f).run (effects ++ more) b :=
  bind (f := ExceptT.bindCont f) hm hf

theorem bind_cons {m : Work α} {f : α → Work β} {effect : Effect} {a : α} {b : Except Error β}
    (hm : Follows holds m.run [effect] (.ok a)) (hf : Follows holds (f a).run more b) :
    Follows holds (m >>= f).run (effect :: more) b := bind_ok hm hf

theorem forM {f : α → Work Unit} {script : α → List Effect} {xs : List α}
    (h : ∀ x ∈ xs, Follows holds (f x).run (script x) (.ok ())) :
    Follows holds (xs.forM f).run (xs.flatMap script) (.ok ()) := by
  induction xs with
  | nil => exact .done _
  | cons x xs ih =>
    exact bind_ok (h x List.mem_cons_self) (ih fun y hy => h y (List.mem_cons_of_mem x hy))

theorem change {statement : Database → Except Error α × Database} {effect : Effect} {a : α}
    (h : ∀ s, holds s → (statement s.database).1 = .ok a)
    (ha : ∀ s, holds s → { s with database := (statement s.database).2 } = effect.act s) :
    Follows holds (Work.change statement).run [effect] (.ok a) :=
  .step ha fun s hs => by
    rw [h s hs]
    exact .done _

theorem orSkip_change {statement : Database → Except Error Unit × Database} {effect : Effect}
    (ha : ∀ s, holds s → { s with database := (statement s.database).2 } = effect.act s) :
    Follows holds (Work.orSkip (Work.change statement)).run [effect] (.ok ()) :=
  .step ha fun _ _ => .done _

theorem fetch_bind {l : Location} {f : Except Error Object.Bytes → Work β} {b : Except Error β}
    (goesOn : ∀ s, holds s → Follows holds (f (s.objects.fetch l)).run more b) :
    Follows holds (Work.attempt (Work.fetch l) >>= f).run (.look :: more) b :=
  .step (fun _ _ => rfl) goesOn

theorem select_bind {query : Database → Except Error α} {f : α → Work β} {b : Except Error β}
    (goesOn : ∀ s, holds s →
      ∃ a, query s.database = .ok a ∧ Follows holds (f a).run more b) :
    Follows holds (Work.select query >>= f).run (.look :: more) b :=
  .step (fun _ _ => rfl) fun s hs => by
    obtain ⟨a, ha, h⟩ := goesOn s hs
    show Follows holds (ExceptT.bindCont f (query s.database)) more b
    rw [ha]
    exact h

theorem run {m : Steps State α} {a : α} {s : State} (h : Follows holds m effects a)
    (hkeeps : ∀ effect ∈ effects, ∀ s, holds s → holds (effect.act s)) (hs : holds s) :
    m.run s = (a, Effect.actAll s effects) := by
  induction h generalizing s with
  | done => rfl
  | @step change next effect rest a acts _ ih =>
    show (next s).run (change s) = _
    rw [acts s hs]
    exact ih s hs (fun e he => hkeeps e (List.mem_cons_of_mem effect he))
      (hkeeps effect List.mem_cons_self s hs)

end Follows

-- ---------------------------------------------------------------------------
-- What tasks rely on
-- ---------------------------------------------------------------------------

open Mailroom.Object (IsCode attachmentAt)

/-- What stays as it was in `start` while some tasks run: nothing fails, no email and no rule goes
away, and the object store answers the same where decoding asks it. -/
structure Steady (tasks : List Task) (start s : State) : Prop where
  reliable : s.Reliable
  emails : ∀ id, (s.database.tables.emails.get? id).isSome =
    (start.database.tables.emails.get? id).isSome
  rules : s.database.tables.rules.rows.map RuleRow.uncounted =
    start.database.tables.rules.rows.map RuleRow.uncounted
  same : s.objects.place.Same = start.objects.place.Same
  sources : ∀ id source, .decode id source ∈ tasks →
    (s.objects.fetch source).toOption = (start.objects.fetch source).toOption
  containers : ∀ id source raw, .decode id source ∈ tasks →
    (start.objects.fetch source).toOption = some raw →
    s.objects.place.HasContainer source.container
  room : ∀ id source raw, .decode id source ∈ tasks →
    (start.objects.fetch source).toOption = some raw → ∀ email name bytes, IsCode name →
    (s.objects.put (attachmentAt source.container email name) bytes).1.isOk =
      (start.objects.put (attachmentAt source.container email name) bytes).1.isOk

theorem Steady.refl {start : State} (h : start.Reliable) (tasks : List Task) :
    Steady tasks start start :=
  ⟨h, fun _ => rfl, rfl, rfl, fun _ _ _ => rfl,
    fun _ _ _ _ hraw => Object.Store.hasContainer_of_fetch hraw, fun _ _ _ _ _ _ _ _ _ => rfl⟩

/-- No decoding reads what another one may file. -/
def Apart (tasks : List Task) (start : State) : Prop :=
  ∀ id source, .decode id source ∈ tasks → ∀ id' source', .decode id' source' ∈ tasks →
    ∀ name, ¬ start.objects.place.Same source (attachmentAt source'.container id' name)

/-- In a store in memory an object has a single key, so no decoding reads what another one files
unless it asks for the key of an attachment. -/
theorem Apart.of_memory {tasks : List Task} {start : State} {m : Object.Memory}
    (h : start.objects.place = .memory m)
    (hkeys : ∀ id source, .decode id source ∈ tasks → ∀ email name,
      source.key ≠ (attachmentAt source.container email name).key) : Apart tasks start := by
  intro id source htask id' source' _ name hsame
  rw [h] at hsame
  have hkey := congrArg Location.key (show source = attachmentAt _ id' name from hsame)
  exact hkeys id source htask id' name hkey

/-- An effect that tasks have: objects are only put where attachments belong. -/
def Effect.Allowed (tasks : List Task) (start : State) : Effect → Prop
  | .put l _ => ∃ id source raw name, .decode id source ∈ tasks ∧
      (start.objects.fetch source).toOption = some raw ∧ IsCode name ∧
      l = attachmentAt source.container id name
  | _ => True

theorem Steady.act {tasks : List Task} {start s : State} (h : Steady tasks start s)
    (hapart : Apart tasks start) {effect : Effect} (he : effect.Allowed tasks start) :
    Steady tasks start (effect.act s) := by
  have hemails (id : EmailId) : ((effect.act s).database.tables.emails.get? id).isSome =
      (start.database.tables.emails.get? id).isSome := by
    rw [Effect.emails_act h.reliable, Option.isSome_map, h.emails]
  have hreliable := Effect.reliable_act h.reliable effect
  have hrules := (Effect.uncounted_act h.reliable effect).trans h.rules
  cases effect with
  | put l bytes =>
    obtain ⟨id', source', raw', name', htask', hraw', hname', rfl⟩ := he
    refine ⟨hreliable, hemails, hrules, ?_, ?_, ?_, ?_⟩
    · exact (Object.Store.same_put ..).trans h.same
    · intro id source htask
      refine (Object.Store.fetch_toOption_put ?_).trans (h.sources id source htask)
      rw [h.same]
      exact hapart id source htask id' source' htask' name'
    · intro id source raw htask hraw
      exact Object.Store.hasContainer_put (h.containers id source raw htask hraw) _ _
    · intro id source raw htask hraw email name bytes hname
      rw [← h.room id source raw htask hraw email name bytes hname]
      exact Object.Store.isOk_put_put (h.containers id source raw htask hraw)
        (h.containers id' source' raw' htask' hraw') hname hname' h.reliable.objects _ _ _ _
  | _ => exact ⟨hreliable, hemails, hrules, h.same, h.sources, h.containers, h.room⟩

theorem Steady.actAll {tasks : List Task} {start s : State} (h : Steady tasks start s)
    (hapart : Apart tasks start) {effects : List Effect}
    (he : ∀ effect ∈ effects, effect.Allowed tasks start) :
    Steady tasks start (Effect.actAll s effects) := by
  induction effects generalizing s with
  | nil => exact h
  | cons effect rest ih =>
    exact ih (h.act hapart (he effect List.mem_cons_self))
      fun e hr => he e (List.mem_cons_of_mem effect hr)

-- ---------------------------------------------------------------------------
-- Statements that succeed
-- ---------------------------------------------------------------------------

theorem applyUpdate_eq {s : State} {id : EmailId} {u : Update} (h : s.Reliable)
    (he : (s.database.tables.emails.get? id).isSome = true) (hu : u.isEmpty = false) :
    (s.database.applyUpdate id u).1 = .ok () ∧
      { s with database := (s.database.applyUpdate id u).2 } = (Effect.update id u).act s := by
  obtain ⟨row, hrow⟩ := Option.isSome_iff_exists.mp he
  simp [Database.applyUpdate, hu, Database.write, h.isOpen, h.statements, Database.change, hrow,
    Effect.act, Effect.write?, Effect.onTables, Database.issue]

theorem follows_applyUpdate (tasks : List Task) {start : State} {id : EmailId} {u : Update}
    (hstored : (start.database.tables.emails.get? id).isSome = true) (hu : u.isEmpty = false) :
    Follows (Steady tasks start) (Work.change (·.applyUpdate id u)).run [.update id u] (.ok ()) :=
  .change (fun _ hs => (applyUpdate_eq hs.reliable ((hs.emails id).trans hstored) hu).1)
    fun _ hs => (applyUpdate_eq hs.reliable ((hs.emails id).trans hstored) hu).2

theorem addAttachment_eq {s : State} {row : NewAttachment} (h : s.Reliable)
    (he : (s.database.tables.emails.get? row.email).isSome = true) :
    { s with database := (s.database.addAttachment row).2 } = (Effect.attach row).act s := by
  obtain ⟨email, hemail⟩ := Option.isSome_iff_exists.mp he
  simp [Database.addAttachment, Database.write, h.isOpen, h.statements, Database.change, hemail,
    Effect.act, Effect.write?, Effect.onTables, Database.issue]

-- ---------------------------------------------------------------------------
-- Decoding
-- ---------------------------------------------------------------------------

namespace Decoding

open Mailroom.Mime (Enclosure Extracted)

/-- How an attachment is saved. If there is no room for it, its row has no location. -/
def saving (objects : Object.Store) (id : EmailId) (container : String) (e : Enclosure) :
    List Effect :=
  let l := place id container e
  [.put l e.bytes,
    .attach (attachment id e (if (objects.put l e.bytes).1.isOk then some l else none))]

def script (id : EmailId) (source : Location) (objects : Object.Store) : List Effect :=
  match (objects.fetch source).toOption with
  | none => []
  | some raw =>
    let x := Extracted.ofRaw raw
    .update id (update x raw.length) :: x.enclosures.flatMap (saving objects id source.container)

theorem isContent_update {x : Extracted} {size : Nat} :
    ∀ a ∈ (update x size).assignments, a.isContent = true := by
  simp only [update]
  split <;> simp [Update.ofChanges, Update.put, Update.putIn, Update.empty, Update.assignments,
    Change.kind, Change.assignments, Assignment.isContent, Assignment.column, Column.isContent]

variable {tasks : List Task} {start s : State} {id : EmailId} {source : Location}

theorem script_eq (h : Steady tasks start s) (htask : .decode id source ∈ tasks) :
    script id source s.objects = script id source start.objects := by
  unfold script
  rw [h.sources id source htask]
  cases hraw : (start.objects.fetch source).toOption with
  | none => rfl
  | some raw =>
    have hsaving (e : Enclosure) : saving s.objects id source.container e =
        saving start.objects id source.container e := by
      have hroom := h.room id source raw htask hraw id e.checksum e.bytes (Object.isCode_hex e.bytes)
      simp only [saving]
      rw [show place id source.container e = attachmentAt source.container id e.checksum from rfl,
        hroom]
    simp only [funext hsaving]

theorem allowed_script (htask : .decode id source ∈ tasks) :
    ∀ effect ∈ script id source start.objects, effect.Allowed tasks start := by
  intro effect he
  unfold script at he
  split at he
  · cases he
  · next raw hraw =>
    rcases List.mem_cons.mp he with rfl | he
    · trivial
    · obtain ⟨e, -, he⟩ := List.mem_flatMap.mp he
      rcases List.mem_cons.mp he with rfl | he
      · exact ⟨id, source, raw, e.checksum, htask, hraw, Object.isCode_hex e.bytes, rfl⟩
      · obtain rfl := List.mem_singleton.mp he
        trivial

theorem follows_save {raw : Object.Bytes} (htask : .decode id source ∈ tasks)
    (hraw : (start.objects.fetch source).toOption = some raw)
    (hstored : (start.database.tables.emails.get? id).isSome = true) (e : Enclosure) :
    Follows (Steady tasks start) (save id source.container e).run
      (saving start.objects id source.container e) (.ok ()) := by
  refine .step (fun s _ => rfl) fun s hs => ?_
  have hroom := hs.room id source raw htask hraw id e.checksum e.bytes (Object.isCode_hex e.bytes)
  have hstorage : ((s.objects.put (place id source.container e) e.bytes).1.toOption.map
      fun _ => place id source.container e) =
      if (start.objects.put (place id source.container e) e.bytes).1.isOk then
        some (place id source.container e) else none := by
    rw [show place id source.container e = attachmentAt source.container id e.checksum from rfl,
      ← hroom]
    cases (s.objects.put (attachmentAt source.container id e.checksum) e.bytes).1 <;> rfl
  refine .step (fun s' hs' => ?_) fun _ _ => .done _
  show { s' with database := (s'.database.addAttachment _).2 } = _
  rw [hstorage]
  refine addAttachment_eq hs'.reliable ?_
  exact (hs'.emails id).trans hstored

theorem follows_decode (htask : .decode id source ∈ tasks)
    (hstored : (start.database.tables.emails.get? id).isSome = true) :
    Follows (Steady tasks start) (decode id source).run
      (.look :: script id source start.objects) (.ok ()) := by
  unfold decode
  refine .fetch_bind fun s hs => ?_
  have hsource := hs.sources id source htask
  cases hfetch : s.objects.fetch source with
  | error =>
    rw [hfetch] at hsource
    rw [script, ← hsource]
    exact .done _
  | ok raw =>
    rw [hfetch] at hsource
    rw [script, ← hsource]
    have hfill := follows_applyUpdate tasks hstored (isEmpty_update (Extracted.ofRaw raw) raw.length)
    have hsave := Follows.forM fun e (_ : e ∈ (Extracted.ofRaw raw).enclosures) =>
      follows_save htask hsource.symm hstored e
    simp only [Except.toOption]
    exact hfill.bind_cons
      (f := fun _ => (Extracted.ofRaw raw).enclosures.forM (save id source.container)) hsave

end Decoding

-- ---------------------------------------------------------------------------
-- Evaluation
-- ---------------------------------------------------------------------------

namespace Evaluation

/-- The rules that match an email, without the record of their matches. -/
def matching [PatternEngine] (tables : Tables) (e : Email) : List StoredRule :=
  applicable e (rulesOfRows (tables.rules.rows.map RuleRow.uncounted) e.org e.identity)

def script [PatternEngine] (id : EmailId) (times : RuleId → Instant) (s : State) : List Effect :=
  match s.database.getEmail id with
  | .error _ => []
  | .ok e =>
    .look :: ((matching s.database.tables e).flatMap (statementsOf times)).map (.decide id)

def answer [PatternEngine] (id : EmailId) (s : State) : Except Error (List RuleId) :=
  (s.database.getEmail id).map fun e => (matching s.database.tables e).map StoredRule.id

variable {tasks : List Task} {start s : State} {id : EmailId}

theorem follows_applyAction (hstored : (start.database.tables.emails.get? id).isSome = true)
    (time : Instant) (action : Action) :
    Follows (Steady tasks start) (applyAction id time action).run
      ((updatesOf time action).map (.decide id)) (.ok ()) := by
  unfold applyAction updatesOf
  cases action.change? time with
  | none => exact .done _
  | some c =>
    refine .orSkip_change fun s hs => ?_
    rw [Database.applyUpdate_single hs.reliable.isOpen ((hs.emails id).trans hstored)]
    rfl

theorem follows_applyRule (hstored : (start.database.tables.emails.get? id).isSome = true)
    (times : RuleId → Instant) {rule : StoredRule}
    (hrule : (start.database.tables.rules.get? rule.id).isSome = true) :
    Follows (Steady tasks start) (applyRule id (times rule.id) rule).run
      ((statementsOf times rule).map (.decide id)) (.ok ()) := by
  unfold applyRule statementsOf
  rw [List.map_append, List.map_flatMap]
  refine .bind_ok (.forM fun action _ => follows_applyAction hstored _ action) ?_
  refine .orSkip_change fun s hs => ?_
  have hsome := (Table.isSome_get?_of_map_eq hs.rules rule.id).trans hrule
  rw [Database.recordMatch_issue hs.reliable.isOpen hsome]
  rfl

theorem matching_eq [PatternEngine] (h : Steady tasks start s) (e : Email) :
    matching s.database.tables e = matching start.database.tables e := by
  rw [matching, matching, h.rules]

theorem map_uncounted_applicable [PatternEngine] (e : Email) (rules : List StoredRule) :
    (applicable e rules).map uncounted = applicable e (rules.map uncounted) := by
  rw [applicable, applicable, List.filter_map]
  rfl

theorem follows_rules [PatternEngine]
    (hstored : (start.database.tables.emails.get? id).isSome = true) (times : RuleId → Instant)
    (e : Email) :
    Follows (Steady tasks start) (do
        let rules ← Work.select (·.rulesFor e.org e.identity)
        let matching := rules.filter fun rule => rule.rule.isFor (.ofEmail e)
        matching.forM fun rule => applyRule id (times rule.id) rule
        return matching.map StoredRule.id : Work (List RuleId)).run
      (.look :: ((matching start.database.tables e).flatMap (statementsOf times)).map (.decide id))
      (.ok ((matching start.database.tables e).map StoredRule.id)) := by
  refine .select_bind fun s hs => ?_
  obtain ⟨rules, hrules, hmem, -⟩ := exists_applicable hs.reliable.isOpen e
  refine ⟨rules, hrules, ?_⟩
  have hread := Database.rulesFor_eq hs.reliable.isOpen e.org e.identity
  obtain rfl := Except.ok.inj (hrules.symm.trans hread)
  have hmatching : matching start.database.tables e = (applicable e
      (rulesOfRows s.database.tables.rules.rows e.org e.identity)).map uncounted := by
    rw [← matching_eq hs, matching, rulesOfRows_uncounted, map_uncounted_applicable]
  rw [hmatching, List.map_map, List.flatMap_map, List.map_flatMap,
    ← List.append_nil (List.flatMap _ _)]
  refine .bind_ok (.forM fun rule hrule => ?_) (.done _)
  obtain ⟨row, hrow, -⟩ := (hmem rule).mp hrule
  refine follows_applyRule hstored times ?_
  rw [← Table.isSome_get?_of_map_eq hs.rules rule.id, hrow]
  rfl

end Evaluation

-- ---------------------------------------------------------------------------
-- Tasks
-- ---------------------------------------------------------------------------

namespace Task

def email : Task → EmailId
  | .decode id _ => id
  | .evaluate id => id

def isDecode : Task → Bool
  | .decode .. => true
  | .evaluate _ => false

/-- The work of a task. Evaluations answer with the rules that they matched, each at a time of its
own. -/
def work [PatternEngine] (times : EmailId → RuleId → Instant) : Task → Work (List RuleId)
  | .decode id source => do
    Decoding.decode id source
    return []
  | .evaluate id => Evaluation.evaluate id (times id)

def script [PatternEngine] (times : EmailId → RuleId → Instant) (s : State) : Task → List Effect
  | .decode id source => Decoding.script id source s.objects
  | .evaluate id => Evaluation.script id (times id) s

def answer [PatternEngine] (s : State) : Task → Except Error (List RuleId)
  | .decode .. => .ok []
  | .evaluate id => Evaluation.answer id s

variable {tasks : List Task} {start s : State} {times : EmailId → RuleId → Instant} {task : Task}

theorem work_looks [PatternEngine] (times : EmailId → RuleId → Instant) (htask : task ∈ tasks)
    (hstored : (start.database.tables.emails.get? task.email).isSome = true) :
    ∃ change next, (task.work times).run = .step change next ∧ ∀ s, Steady tasks start s →
      change s = s ∧ Follows (Steady tasks start) (next s) (task.script times s) (task.answer s) := by
  cases task with
  | decode id source =>
    have h := (Decoding.follows_decode htask hstored).bind_ok (f := fun _ => pure [])
      (Follows.done (Except.ok ([] : List RuleId)))
    rw [List.append_nil] at h
    refine ⟨_, _, rfl, fun s hs => ?_⟩
    cases h with
    | step acts goesOn =>
      rw [script, Decoding.script_eq hs htask]
      exact ⟨acts s hs, goesOn s hs⟩
  | evaluate id =>
    refine ⟨_, _, rfl, fun s hs => ⟨rfl, ?_⟩⟩
    show Follows _ (ExceptT.bindCont _ (s.database.getEmail id)) (Evaluation.script id _ s)
      (Evaluation.answer id s)
    unfold Evaluation.script Evaluation.answer
    cases s.database.getEmail id with
    | error e => exact .done _
    | ok e =>
      simp only [Evaluation.matching_eq hs]
      exact Evaluation.follows_rules hstored (times id) e

theorem allowed_script [PatternEngine] (htask : task ∈ tasks) (h : Steady tasks start s) :
    ∀ effect ∈ task.script times s, effect.Allowed tasks start := by
  cases task with
  | decode id source =>
    rw [script, Decoding.script_eq h htask]
    exact Decoding.allowed_script htask
  | evaluate id =>
    intro effect he
    rw [script, Evaluation.script] at he
    split at he
    · cases he
    · rcases List.mem_cons.mp he with rfl | he
      · trivial
      · obtain ⟨statement, -, rfl⟩ := List.mem_map.mp he
        trivial

theorem perform_work [PatternEngine] (times : EmailId → RuleId → Instant) (htask : task ∈ tasks)
    (hapart : Apart tasks start)
    (hstored : (start.database.tables.emails.get? task.email).isSome = true)
    (h : Steady tasks start s) : (task.work times).perform s =
      (task.answer s, Effect.actAll s (.look :: task.script times s)) := by
  obtain ⟨change, next, hwork, hnext⟩ := work_looks times htask hstored
  obtain ⟨hchange, hfollows⟩ := hnext s h
  rw [Work.perform, hwork]
  show (next s).run (change s) = _
  rw [hchange]
  exact hfollows.run (fun e he s hs => hs.act hapart (allowed_script htask h e he)) h

end Task

variable {tasks : List Task} {start s : State} {times : EmailId → RuleId → Instant}

theorem Steady.script_eq [PatternEngine] (h : Steady tasks start s) {task : Task}
    (htask : task ∈ tasks) (hdecode : task.isDecode = true) :
    task.script times s = task.script times start := by
  cases task with
  | evaluate => cases hdecode
  | decode id source => exact Decoding.script_eq h htask

/-- The script of a decoding does not depend on when it looks, and that of an evaluation only on
the row that it loads. -/
theorem Steady.script_congr [PatternEngine] {s' : State} (hs : Steady tasks start s)
    (hs' : Steady tasks start s') {task : Task} (htask : task ∈ tasks)
    (hrow : ∀ id, task = .evaluate id →
      s.database.tables.emails.get? id = s'.database.tables.emails.get? id) :
    task.script times s = task.script times s' := by
  cases task with
  | decode id source => rw [hs.script_eq htask rfl, hs'.script_eq htask rfl]
  | evaluate id =>
    simp only [Task.script, Evaluation.script]
    rw [Database.getEmail_congr hs.reliable.isOpen hs'.reliable.isOpen (hrow id rfl)]
    simp only [Evaluation.matching_eq hs, Evaluation.matching_eq hs']

end Mailroom.Pipeline
