import Mailroom.Proofs.Object.Filing
import Mailroom.Proofs.Pipeline.Interleaving
import Mailroom.Proofs.Pipeline.Rely
import Mailroom.Proofs.Store.Attachments

/-!
# Attachments and their objects

Over a store in memory a row of an attachment with a location always has its object there: under a
key made of its email and its digest, with bytes that have this digest. Repeated decodings, raw
messages that are replaced and writes that fail make no difference, as long as nobody else writes
under such keys.
-/

namespace Mailroom.Pipeline

open Mailroom.Filter (Action PatternEngine RuleId StoredRule)
open Mailroom.Mail
open Mailroom.Object (attachmentAt eq_of_attachmentAt_eq isCode_hex)
open Mailroom.Store
open Mailroom.Time (Instant)

-- ---------------------------------------------------------------------------
-- A store in memory
-- ---------------------------------------------------------------------------

def State.InMemory (s : State) : Prop := ∃ m, s.objects.place = .memory m

theorem inMemory_put {s : State} (l : Location) (bytes : Object.Bytes) :
    State.InMemory { s with objects := (s.objects.put l bytes).2 } ↔ s.InMemory := by
  simp only [State.InMemory, Object.Store.place_put]
  cases s.objects.refuses s.objects.writes with
  | true => rfl
  | false => cases s.objects.place <;> simp

theorem fetch_put {s : State} (h : s.InMemory) (l other : Location) (bytes : Object.Bytes) :
    (s.objects.put l bytes).2.fetch other =
      if other = l ∧ (s.objects.put l bytes).1.isOk then .ok bytes else s.objects.fetch other := by
  obtain ⟨m, hm⟩ := h
  simp only [Object.Store.fetch, Object.Store.place_put, Object.Store.isOk_put, hm]
  cases s.objects.refuses s.objects.writes with
  | true => simp
  | false =>
    by_cases hself : other = l <;> simp [Object.Memory.fetch, Object.Memory.get?_put, hself]

-- ---------------------------------------------------------------------------
-- What is kept
-- ---------------------------------------------------------------------------

/-- At the place of an attachment lie bytes with its digest. -/
def State.Holds (s : State) (container : String) (id : EmailId) (checksum : String) : Prop :=
  ∃ bytes, s.objects.fetch (attachmentAt container id checksum) = .ok bytes ∧
    Codec.Sha256.hex bytes = checksum

/-- If an attachment has a location, it is the place of the attachment, and its bytes lie there. -/
def State.Backs (s : State) (row : NewAttachment) : Prop :=
  ∀ l ∈ row.storage, l.key = s!"attachments/{row.email}/{row.checksum}" ∧
    ∃ bytes, s.objects.fetch l = .ok bytes ∧ Codec.Sha256.hex bytes = row.checksum

structure Guards (s t : State) : Prop where
  inMemory : t.InMemory ↔ s.InMemory
  holds : s.InMemory → ∀ c id checksum, s.Holds c id checksum → t.Holds c id checksum
  backs : s.InMemory → ∀ row ∈ t.database.tables.attachments.rows,
    row ∈ s.database.tables.attachments.rows ∨ t.Backs row

theorem State.Backs.of_holds {s : State} {row : NewAttachment} {c : String}
    (hstorage : ∀ l ∈ row.storage, l = attachmentAt c row.email row.checksum)
    (h : row.storage.isSome = true → s.Holds c row.email row.checksum) : s.Backs row := by
  intro l hl
  obtain ⟨bytes, hfetch, hhex⟩ := h (Option.isSome_iff_exists.mpr ⟨l, hl⟩)
  rw [← hstorage l hl] at hfetch
  exact ⟨congrArg Location.key (hstorage l hl), bytes, hfetch, hhex⟩

theorem State.Backs.guarded {s t : State} {row : NewAttachment} (h : s.Backs row)
    (hmemory : s.InMemory) (hst : Guards s t) : t.Backs row := by
  intro l hl
  obtain ⟨hkey, bytes, hfetch, hhex⟩ := h l hl
  have hl' : l = attachmentAt l.container row.email row.checksum := by
    cases l
    exact congrArg _ hkey
  obtain ⟨bytes', hfetch', hhex'⟩ :=
    hst.holds hmemory l.container row.email row.checksum ⟨bytes, hl' ▸ hfetch, hhex⟩
  exact ⟨hkey, bytes', hl' ▸ hfetch', hhex'⟩

namespace Guards

theorem of_same {s t : State} (hobjects : t.objects = s.objects)
    (hrows : t.database.tables.attachments = s.database.tables.attachments) : Guards s t where
  inMemory := by rw [State.InMemory, State.InMemory, hobjects]
  holds _ c id checksum h := by rwa [State.Holds, hobjects]
  backs _ row hrow := .inl (hrows ▸ hrow)

theorem refl (s : State) : Guards s s := of_same rfl rfl

theorem trans (s t u : State) (hst : Guards s t) (htu : Guards t u) : Guards s u where
  inMemory := htu.inMemory.trans hst.inMemory
  holds hmemory c id checksum h :=
    htu.holds (hst.inMemory.mpr hmemory) c id checksum (hst.holds hmemory c id checksum h)
  backs hmemory row hrow := by
    have hmemory' := hst.inMemory.mpr hmemory
    rcases htu.backs hmemory' row hrow with hrow | hbacks
    · exact (hst.backs hmemory row hrow).imp_right fun h => h.guarded hmemory' htu
    · exact .inr hbacks

theorem put {s : State} {l : Location} {bytes : Object.Bytes}
    (h : ∀ c id bytes', attachmentAt c id (Codec.Sha256.hex bytes') = l →
      Codec.Sha256.hex bytes = Codec.Sha256.hex bytes') :
    Guards s { s with objects := (s.objects.put l bytes).2 } where
  inMemory := inMemory_put l bytes
  holds hmemory c id checksum := by
    rintro ⟨bytes', hfetch, rfl⟩
    by_cases hput : attachmentAt c id (Codec.Sha256.hex bytes') = l ∧
        (s.objects.put l bytes).1.isOk = true
    · exact ⟨bytes, (fetch_put hmemory l _ bytes).trans (if_pos hput), h c id bytes' hput.1⟩
    · exact ⟨bytes', ((fetch_put hmemory l _ bytes).trans (if_neg hput)).trans hfetch, rfl⟩
  backs _ row hrow := .inl hrow

theorem addAttachment {s : State} {row : NewAttachment} (h : s.InMemory → s.Backs row) :
    Guards s { s with database := (s.database.addAttachment row).2 } where
  inMemory := Iff.rfl
  holds _ _ _ _ h := h
  backs hmemory other hother := by
    rcases s.database.rows_addAttachment row with hsame | hadded
    · exact .inl (hsame ▸ hother)
    · rcases List.mem_append.mp (hadded ▸ hother) with hold | hnew
      · exact .inl hold
      · obtain rfl := List.mem_singleton.mp hnew
        exact .inr (h hmemory)

end Guards

-- ---------------------------------------------------------------------------
-- Calls and tasks
-- ---------------------------------------------------------------------------

theorem guards_queue (s : State) (queue : Queue) : Guards s { s with queue } := .of_same rfl rfl

namespace Intake

theorem guards_resolve (recipient : String) (s : State) :
    Keeps Guards s (resolve recipient).run := by
  unfold resolve
  refine .bind_work (.select Guards.refl _ s) fun found t => ?_
  cases found with
  | some => exact .done t _
  | none =>
    cases domainOf? recipient with
    | none => exact .done t _
    | some domain => exact .select Guards.refl _ t

theorem guards_resolveFirst (recipients : List String) (s : State) :
    Keeps Guards s (resolveFirst recipients).run := by
  induction recipients generalizing s with
  | nil => exact .done s _
  | cons recipient rest ih =>
    rw [resolveFirst]
    refine .bind_work (guards_resolve recipient s) fun found t => ?_
    cases found with
    | some => exact .done t _
    | none => exact ih t

theorem guards_submitTasks (id : EmailId) (source : Option Location) (s : State) :
    Keeps Guards s (submitTasks id source).run := by
  have hsubmit (task : Task) (t : State) : Keeps Guards t (Work.orSkip (Work.submit task)).run :=
    (Keeps.submit guards_queue task t).orSkip
  cases source with
  | none => exact hsubmit _ s
  | some source => exact .bind_work (hsubmit _ s) fun _ t => hsubmit _ t

theorem guards_ingest (n : Notification) (now : Instant) (s : State) :
    Keeps Guards s (ingest n now).run := by
  unfold ingest
  cases n.kind != "Received" with
  | true => exact .done s _
  | false =>
    cases n.receipt with
    | none => exact .done s _
    | some receipt =>
      refine .bind_work (guards_resolveFirst receipt.recipients s) fun found t => ?_
      cases found with
      | none => exact .done t _
      | some identity =>
        refine .bind_work (.select Guards.refl _ t) fun domain u => ?_
        refine .bind_work (.change (fun v => ?_) u) fun inserted v => ?_
        · exact .of_same rfl (v.database.attachments_insertEmail _)
        · cases inserted with
          | duplicate => exact .done v _
          | created id => exact .bind_work (guards_submitTasks id _ v) fun _ w => .done w _

end Intake

theorem guards_applyUpdate (id : EmailId) (u : Update) (s : State) :
    Keeps Guards s (Work.change (·.applyUpdate id u)).run :=
  .change (fun t => .of_same rfl (t.database.attachments_applyUpdate id u)) s

namespace Decoding

open Mailroom.Mime (Enclosure)

/-- What is put at the place of an attachment has its digest, and it is there when the row is
added, even if others put it there as well in the meantime. -/
theorem guards_save (id : EmailId) (container : String) (e : Enclosure) (s : State) :
    Keeps Guards s (save id container e).run := by
  refine .step (fun t _ => ?_) fun t _ => ?_
  · exact .put fun c id' bytes h => eq_of_attachmentAt_eq h.symm (isCode_hex _) (isCode_hex _)
  · refine .step (fun u htu => ?_) fun u _ => .done _ _
    refine .addAttachment fun hmemory => .of_holds (c := container) (fun l hl => ?_) fun hsome => ?_
    · obtain ⟨-, -, rfl⟩ := Option.map_eq_some_iff.mp hl
      rfl
    · have hput : (t.objects.put (place id container e) e.bytes).1.isOk = true := by
        cases hanswer : (t.objects.put (place id container e) e.bytes).1 with
        | ok => rfl
        | error => simp [attachment, hanswer, Except.toOption] at hsome
      have hbefore : t.InMemory := (inMemory_put _ _).mp (htu.inMemory.mp hmemory)
      refine htu.holds (htu.inMemory.mp hmemory) container id e.checksum ⟨e.bytes, ?_, rfl⟩
      exact (fetch_put hbefore _ _ _).trans (if_pos ⟨rfl, hput⟩)

theorem guards_decode (id : EmailId) (source : Location) (s : State) :
    Keeps Guards s (decode id source).run := by
  unfold decode
  refine .bind_work (Keeps.fetch Guards.refl source s).attempt fun fetched t => ?_
  cases fetched with
  | error => exact .done t _
  | ok raw =>
    refine .bind_work (guards_applyUpdate id _ t) fun _ u => ?_
    exact .forM (fun e _ => guards_save id source.container e) u

end Decoding

namespace Evaluation

theorem guards_applyAction (id : EmailId) (time : Instant) (action : Action) (s : State) :
    Keeps Guards s (applyAction id time action).run := by
  unfold applyAction
  cases action.change? time with
  | none => exact .done s _
  | some c => exact (guards_applyUpdate id _ s).orSkip

theorem guards_applyRule (id : EmailId) (time : Instant) (rule : StoredRule) (s : State) :
    Keeps Guards s (applyRule id time rule).run := by
  refine .bind_work (.forM (fun action _ => guards_applyAction id time action) s) fun _ t => ?_
  refine Keeps.orSkip (.change (fun u => ?_) t)
  exact .of_same rfl (u.database.attachments_recordMatch rule.id time)

theorem guards_evaluate [PatternEngine] (id : EmailId) (times : RuleId → Instant) (s : State) :
    Keeps Guards s (evaluate id times).run := by
  refine .bind_work (.select Guards.refl _ s) fun email t => ?_
  refine .bind_work (.select Guards.refl _ t) fun rules u => ?_
  refine .bind_work (.forM (fun rule _ => ?_) u) fun _ v => .done v _
  exact guards_applyRule id (times rule.id) rule

end Evaluation

theorem Task.guards_run [PatternEngine] (task : Task) (times : RuleId → Instant) (s : State) :
    Keeps Guards s (task.run times).run := by
  cases task with
  | decode id source => exact (Decoding.guards_decode id source s).orSkip
  | evaluate id =>
    exact .bind_work (Evaluation.guards_evaluate id times s).attempt fun _ t => .done t _

-- ---------------------------------------------------------------------------
-- Runs
-- ---------------------------------------------------------------------------

/-- From outside, objects are written under other keys than those of attachments. -/
def Foreign (events : List Event) : Prop :=
  ∀ l bytes, .put l bytes ∈ events → ∀ (id : EmailId) (name : String),
    l.key ≠ s!"attachments/{id}/{name}"

theorem Foreign.relied [PatternEngine] {events : List Event} (h : Foreign events) :
    Relied Guards events where
  refl := Guards.refl
  trans := Guards.trans
  queue := guards_queue
  calls := Intake.guards_ingest
  tasks := Task.guards_run
  puts l bytes hput _ := .put fun _ id bytes' hl =>
    absurd (congrArg Location.key hl).symm (h l bytes hput id (Codec.Sha256.hex bytes'))

/-- Every attachment that has a location at any time of a run has its bytes there, and their digest
is in its key and in its row. -/
theorem Service.backs_of_play [PatternEngine] {start : State} {m : Object.Memory}
    {events : List Event} {after : Service} (hmemory : start.objects.place = .memory m)
    (hnone : start.database.tables.attachments.rows = []) (hforeign : Foreign events)
    (hplay : (idle start).play events = some after) :
    ∀ row ∈ after.state.database.tables.attachments.rows, ∀ l ∈ row.storage,
      l.key = s!"attachments/{row.email}/{row.checksum}" ∧
        ∃ bytes, after.state.objects.fetch l = .ok bytes ∧
          Codec.Sha256.hex bytes = row.checksum := by
  intro row hrow
  have hguards := grows_of_play hforeign.relied hplay
  rcases hguards.backs ⟨m, hmemory⟩ row hrow with hold | hbacks
  · rw [hnone] at hold
    cases hold
  · exact hbacks

namespace Service.Sample

open Pool.Sample (decoding again initial refusing source)

def replacement : Object.Bytes :=
  Text.bytes ("Content-Type: multipart/mixed; boundary=b\r\n\r\n--b\r\n" ++
    "Content-Disposition: attachment; filename=a\r\n\r\n\nho\r\n--b--\r\n")

/-- The first decoding cannot write its attachment. Then the message is replaced, and it is decoded
again for its own email and for another one at the same time. -/
def events : List Event :=
  [.begins decoding Evaluation.Sample.times, .go 0, .go 0, .go 0, .go 0, .put source replacement,
    .begins decoding Evaluation.Sample.times, .begins again Evaluation.Sample.times,
    .go 1, .go 2, .go 1, .go 2, .go 2, .go 1, .go 1, .go 2]

def expected (after : Service) : Bool :=
  after.state.database.tables.attachments.rows.map (fun row => (row.email, row.storage.isSome)) =
    [(1, false), (1, true), (2, true)]

theorem runs : ((idle (initial refusing)).play events).any expected = true := by decide +kernel

theorem foreign : Foreign events := by
  intro l bytes hput id name hl
  obtain ⟨rfl, -⟩ : l = source ∧ bytes = replacement := by simpa [events] using hput
  exact absurd hl (Object.ne_key_attachmentAt (by decide) "" id name)

end Service.Sample

open Pool.Sample Service.Sample in
theorem Service.backs_of_play_sample : ∃ after,
    (idle (initial refusing)).play events = some after ∧
      after.state.database.tables.attachments.rows.map
        (fun row => (row.email, row.storage.isSome)) = [(1, false), (1, true), (2, true)] ∧
      ∀ row ∈ after.state.database.tables.attachments.rows, ∀ l ∈ row.storage,
        l.key = s!"attachments/{row.email}/{row.checksum}" ∧
          ∃ bytes, after.state.objects.fetch l = .ok bytes ∧
            Codec.Sha256.hex bytes = row.checksum := by
  obtain ⟨after, hplay, hend⟩ := (Option.any_eq_true _ _).mp Service.Sample.runs
  exact ⟨after, hplay, of_decide_eq_true hend,
    Service.backs_of_play (m := Object.Memory.empty.put source message) rfl rfl
      Service.Sample.foreign hplay⟩

end Mailroom.Pipeline
