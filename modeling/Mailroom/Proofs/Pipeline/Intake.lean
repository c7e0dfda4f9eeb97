import Mailroom.Pipeline.Intake
import Mailroom.Proofs.Pipeline.Work
import Mailroom.Proofs.Store.Arrivals
import Mailroom.Proofs.Store.Identities

/-!
# Runs of the intake

A call either leaves one new email and its tasks, or leaves mail and queue as they were. So
however calls follow each other, message ids stay distinct and emails are as many as calls
that made one.
-/

namespace Mailroom.Pipeline

open Mailroom.Mail
open Mailroom.Store
open Mailroom.Time (Instant)

-- ---------------------------------------------------------------------------
-- Submissions
-- ---------------------------------------------------------------------------

theorem Queue.submit_accepted {q : Queue} {task : Task} (h : q.accepts q.submitted task = true) :
    q.submit task =
      (.ok (), { q with tasks := q.tasks ++ [task], submitted := q.submitted + 1 }) := by
  simp [submit, h]

theorem Queue.submit_refused {q : Queue} {task : Task} (h : q.accepts q.submitted task = false) :
    q.submit task = (.error .queueClosed, { q with submitted := q.submitted + 1 }) := by
  simp [submit, h]

/-- Tasks were submitted in this order and no others. Each was counted, and those that the plan
accepts under their numbers were taken. -/
structure Queue.Submits (q : Queue) (tasks : List Task) (after : Queue) : Prop where
  submitted : after.submitted = q.submitted + tasks.length
  tasks : after.tasks = q.tasks ++
    ((tasks.zipIdx q.submitted).filter fun (task, n) => q.accepts n task).map Prod.fst
  accepts : after.accepts = q.accepts

theorem Queue.Submits.nil (q : Queue) : q.Submits [] q := ⟨rfl, by simp, rfl⟩

theorem Queue.submits_submit (q : Queue) (task : Task) : q.Submits [task] (q.submit task).2 := by
  cases h : q.accepts q.submitted task with
  | true =>
    rw [submit_accepted h]
    exact ⟨rfl, by simp [h], rfl⟩
  | false =>
    rw [submit_refused h]
    exact ⟨rfl, by simp [h], rfl⟩

theorem Queue.Submits.trans {a b c : Queue} {first second : List Task} (hab : a.Submits first b)
    (hbc : b.Submits second c) : a.Submits (first ++ second) c where
  submitted := by
    rw [hbc.submitted, hab.submitted, List.length_append, Nat.add_assoc]
  tasks := by
    rw [hbc.tasks, hab.tasks, hab.submitted, hab.accepts, List.zipIdx_append, List.filter_append,
      List.map_append, List.append_assoc]
  accepts := hbc.accepts.trans hab.accepts

def Queue.submitAll (q : Queue) (tasks : List Task) : Queue :=
  tasks.foldl (fun q task => (q.submit task).2) q

theorem Queue.submits_submitAll (q : Queue) (tasks : List Task) :
    q.Submits tasks (q.submitAll tasks) := by
  induction tasks generalizing q with
  | nil => exact .nil q
  | cons task tasks ih => exact (q.submits_submit task).trans (ih (q.submit task).2)

/-- The tasks for a new email: to decode it if it lies somewhere, and to evaluate it. -/
def tasksFor (id : EmailId) (source : Option Location) : List Task :=
  (source.map (Task.decode id)).toList ++ [.evaluate id]

namespace Intake

theorem perform_submitTasks (id : EmailId) (source : Option Location) (s : State) :
    (submitTasks id source).perform s =
      (.ok (), { s with queue := s.queue.submitAll (tasksFor id source) }) := by
  cases source with
  | none =>
    show (Work.orSkip (Work.submit (.evaluate id))).perform s = _
    simp only [Work.perform_orSkip, Work.perform_submit]
    rfl
  | some source =>
    show (Work.orSkip (Work.submit (.decode id source)) >>= fun _ =>
      Work.orSkip (Work.submit (.evaluate id))).perform s = _
    rw [Work.perform_bind_ok _ (Work.perform_orSkip _ s)]
    simp only [Work.perform_orSkip, Work.perform_submit]
    rfl

-- ---------------------------------------------------------------------------
-- Resolution
-- ---------------------------------------------------------------------------

theorem perform_resolve {s : State} (h : s.database.closed = false) (recipient : String) :
    (resolve recipient).perform s =
      (.ok (Database.identityFor? s.database.tables recipient), s) := by
  unfold resolve Database.identityFor?
  have haddress : (Work.select (·.findByAddress recipient)).perform s =
      (.ok (Database.findIdentity? s.database.tables (·.email == Text.lower recipient)), s) := by
    rw [Work.perform_select]
    simp [Database.findByAddress, Database.select, h]
  rw [Work.perform_bind_ok _ haddress]
  cases Database.findIdentity? s.database.tables (·.email == Text.lower recipient) with
  | some identity => rfl
  | none =>
    cases domainOf? recipient with
    | none => rfl
    | some domain =>
      simp only [Work.perform_select, Database.findCatchAll, Database.select, h]
      rfl

theorem perform_resolveFirst {s : State} (h : s.database.closed = false)
    (recipients : List String) : (resolveFirst recipients).perform s =
      (.ok (recipients.findSome? (Database.identityFor? s.database.tables)), s) := by
  induction recipients with
  | nil => rfl
  | cons recipient rest ih =>
    unfold resolveFirst
    rw [Work.perform_bind_ok _ (perform_resolve h recipient), List.findSome?_cons]
    cases Database.identityFor? s.database.tables recipient with
    | some identity => rfl
    | none => exact ih

theorem perform_resolveFirst_closed {s : State} (h : s.database.closed = true)
    (recipients : List String) : (resolveFirst recipients).perform s = (.ok none, s) ∨
      ∃ fault, (resolveFirst recipients).perform s = (.error fault, s) := by
  cases recipients with
  | nil => exact .inl rfl
  | cons recipient rest =>
    refine .inr ⟨.database .closed, ?_⟩
    have haddress : (Work.select (·.findByAddress recipient)).perform s =
        (.error (.database .closed), s) := by
      rw [Work.perform_select]
      simp [Database.findByAddress, Database.select, h]
    unfold resolveFirst
    exact Work.perform_bind_error _ (Work.perform_bind_error _ haddress)

-- ---------------------------------------------------------------------------
-- One call
-- ---------------------------------------------------------------------------

/-- The message id that mail is stored under: its own, or that of the service if it has none. -/
def recordId (n : Notification) : String :=
  match n.mail.commonHeaders.messageId with
  | some id => if id = "" then n.mail.messageId else id
  | none => n.mail.messageId

theorem messageId_email (n : Notification) (receipt : Notification.Receipt) (identity : Identity)
    (domain : Domain) (now : Instant) :
    (email n receipt identity domain now).messageId = recordId n := by
  show (filled n.mail.commonHeaders.messageId).getD n.mail.messageId = recordId n
  unfold recordId filled
  cases n.mail.commonHeaders.messageId with
  | none => rfl
  | some id => by_cases h : id = "" <;> simp [Option.filter, h]

/-- The notification is about mail that was received for some identity. -/
structure Arrives (n : Notification) (tables : Tables) : Prop where
  received : n.kind = "Received"
  reaches : ∃ receipt, n.receipt = some receipt ∧ ∃ r ∈ receipt.recipients, tables.Reaches r

inductive Ingests (n : Notification) (s : State) : Except Error Outcome → State → Prop
  | rejected (answer : Except Error Outcome) (made : ∀ id, answer ≠ .ok (.created id))
      (again : answer ≠ .ok .duplicate)
      (why : ¬ (Arrives n s.database.tables ∧ s.database.closed = false)) : Ingests n s answer s
  | refused (fault : Error) (why : ¬ s.database.TakesMail) :
      Ingests n s (.error fault) { s with database := s.database.counted }
  | duplicate (arrives : Arrives n s.database.tables) (takes : s.database.TakesMail)
      (stored : recordId n ∈ s.database.messageIds) :
      Ingests n s (.ok .duplicate) { s with database := s.database.counted }
  | created (email : NewEmail) (arrives : Arrives n s.database.tables)
      (takes : s.database.TakesMail) (named : email.messageId = recordId n)
      (fresh : recordId n ∉ s.database.messageIds) :
      Ingests n s (.ok (.created (s.database.tables.emails.insert (.ofNew email)).1))
        { s with
          database := s.database.withMail email
          queue := s.queue.submitAll
            (tasksFor (s.database.tables.emails.insert (.ofNew email)).1 email.storage) }

theorem findSome?_identityFor? {tables : Tables} {recipients : List String} :
    (recipients.findSome? (Database.identityFor? tables)).isSome = true ↔
      ∃ r ∈ recipients, tables.Reaches r := by
  rw [List.isSome_findSome?, List.any_eq_true]
  simp only [Database.identityFor?_isSome]

def finish (email : NewEmail) : Work Outcome := do
  match ← Work.change (·.insertEmail email) with
  | .duplicate => return .duplicate
  | .created id =>
    submitTasks id email.storage
    return .created id

section
variable {s : State} {email : NewEmail}

theorem perform_finish_refused (h : s.database.closed = false)
    (hrefused : s.database.refuses s.database.writes .insertEmail = true) :
    (finish email).perform s =
      (.error (.database .refused), { s with database := s.database.counted }) := by
  have hchange := Work.perform_change (·.insertEmail email) s
  rw [Database.insertEmail_refused h hrefused] at hchange
  exact Work.perform_bind_error _ hchange

theorem perform_finish_duplicate (takes : s.database.TakesMail)
    (stored : email.messageId ∈ s.database.messageIds) :
    (finish email).perform s = (.ok .duplicate, { s with database := s.database.counted }) := by
  have hchange := Work.perform_change (·.insertEmail email) s
  rw [Database.insertEmail_duplicate takes stored] at hchange
  exact Work.perform_bind_ok _ hchange

theorem perform_finish_created (takes : s.database.TakesMail)
    (fresh : email.messageId ∉ s.database.messageIds) : (finish email).perform s =
      (.ok (.created (s.database.tables.emails.insert (.ofNew email)).1), { s with
        database := s.database.withMail email
        queue := s.queue.submitAll
          (tasksFor (s.database.tables.emails.insert (.ofNew email)).1 email.storage) }) := by
  have hchange := Work.perform_change (·.insertEmail email) s
  rw [Database.insertEmail_created takes fresh] at hchange
  exact (Work.perform_bind_ok _ hchange).trans
    (Work.perform_bind_ok _ (perform_submitTasks _ _ _))

end

theorem ingests_finish {n : Notification} {s : State} {email : NewEmail}
    (arrives : Arrives n s.database.tables) (isOpen : s.database.closed = false)
    (named : email.messageId = recordId n) :
    Ingests n s ((finish email).perform s).1 ((finish email).perform s).2 := by
  cases hrefused : s.database.refuses s.database.writes .insertEmail with
  | true =>
    rw [perform_finish_refused isOpen hrefused]
    exact .refused _ fun takes => by simp [takes.passes] at hrefused
  | false =>
    have takes : s.database.TakesMail := ⟨isOpen, hrefused⟩
    by_cases stored : recordId n ∈ s.database.messageIds
    · rw [perform_finish_duplicate takes (named ▸ stored)]
      exact .duplicate arrives takes stored
    · rw [perform_finish_created takes (named ▸ stored)]
      exact .created email arrives takes named stored

def receive (n : Notification) (receipt : Notification.Receipt) (now : Instant) : Work Outcome := do
  match ← resolveFirst receipt.recipients with
  | none => throw (.identityNotFound receipt.recipients)
  | some identity =>
    let domain ← Work.select (·.getDomain identity.domain)
    finish (email n receipt identity domain now)

theorem ingests_receive_closed {n : Notification} {s : State} (h : s.database.closed = true)
    (receipt : Notification.Receipt) (now : Instant) :
    Ingests n s ((receive n receipt now).perform s).1 ((receive n receipt now).perform s).2 := by
  have hnot : ¬ (Arrives n s.database.tables ∧ s.database.closed = false) := by simp [h]
  unfold receive
  rcases perform_resolveFirst_closed h receipt.recipients with hnone | ⟨fault, hfault⟩
  · rw [Work.perform_bind_ok _ hnone]
    exact .rejected _ (by simp) (by simp) hnot
  · rw [Work.perform_bind_error _ hfault]
    exact .rejected _ (by simp) (by simp) hnot

section
variable {s : State} {receipt : Notification.Receipt} (h : s.database.closed = false)
include h

theorem perform_receive_none (n : Notification) (now : Instant)
    (hnone : receipt.recipients.findSome? (Database.identityFor? s.database.tables) = none) :
    (receive n receipt now).perform s = (.error (.identityNotFound receipt.recipients), s) := by
  unfold receive
  rw [Work.perform_bind_ok _ (perform_resolveFirst h receipt.recipients), hnone]
  rfl

theorem perform_receive_some (n : Notification) (now : Instant) {identity : Identity}
    (hsome : receipt.recipients.findSome? (Database.identityFor? s.database.tables) =
      some identity) :
    ∃ row, s.database.tables.domains.get? identity.domain = some row ∧
      (receive n receipt now).perform s =
        (finish (email n receipt identity (row.read identity.domain) now)).perform s := by
  obtain ⟨r, -, hr⟩ := List.exists_of_findSome?_eq_some hsome
  obtain ⟨row, hrow⟩ := Option.isSome_iff_exists.mp (Database.domain_of_identityFor? hr)
  have hdomain : (Work.select (·.getDomain identity.domain)).perform s =
      (.ok (row.read identity.domain), s) := by
    rw [Work.perform_select]
    simp [Database.getDomain, Database.select, h, hrow]
  refine ⟨row, hrow, ?_⟩
  unfold receive
  rw [Work.perform_bind_ok _ (perform_resolveFirst h receipt.recipients), hsome]
  exact Work.perform_bind_ok _ hdomain

theorem ingests_receive_open {n : Notification} (hkind : n.kind = "Received")
    (hreceipt : n.receipt = some receipt) (now : Instant) :
    Ingests n s ((receive n receipt now).perform s).1 ((receive n receipt now).perform s).2 := by
  cases hfound : receipt.recipients.findSome? (Database.identityFor? s.database.tables) with
  | none =>
    rw [perform_receive_none h n now hfound]
    refine .rejected _ (by simp) (by simp) ?_
    rintro ⟨⟨-, other, hother, hreaches⟩, -⟩
    obtain rfl := Option.some.inj (hreceipt.symm.trans hother)
    have hsome := findSome?_identityFor?.mpr hreaches
    simp [hfound] at hsome
  | some identity =>
    have arrives : Arrives n s.database.tables :=
      ⟨hkind, receipt, hreceipt, findSome?_identityFor?.mp (by simp [hfound])⟩
    obtain ⟨row, -, hperform⟩ := perform_receive_some h n now hfound
    rw [hperform]
    exact ingests_finish arrives h (messageId_email ..)

end

theorem ingest_eq_receive {n : Notification} {receipt : Notification.Receipt}
    (hkind : n.kind = "Received") (hreceipt : n.receipt = some receipt) (now : Instant) :
    ingest n now = receive n receipt now := by
  have hsame : (n.kind != "Received") = false := by simp [hkind]
  unfold ingest
  rw [hsame, hreceipt]
  rfl

theorem ingest_cases (n : Notification) (now : Instant) (s : State) :
    Ingests n s ((ingest n now).perform s).1 ((ingest n now).perform s).2 := by
  by_cases hkind : n.kind = "Received"
  · cases hreceipt : n.receipt with
    | none =>
      have hsame : (n.kind != "Received") = false := by simp [hkind]
      unfold ingest
      rw [hsame, hreceipt]
      refine .rejected _ (by simp) (by simp) ?_
      rintro ⟨⟨-, receipt, hsome, -⟩, -⟩
      rw [hreceipt] at hsome
      cases hsome
    | some receipt =>
      rw [ingest_eq_receive hkind hreceipt now]
      cases hclosed : s.database.closed with
      | true => exact ingests_receive_closed hclosed receipt now
      | false => exact ingests_receive_open hclosed hkind hreceipt now
  · have hother : (n.kind != "Received") = true := by simp [hkind]
    unfold ingest
    rw [hother]
    refine .rejected _ (by simp) (by simp) ?_
    rintro ⟨⟨hreceived, -⟩, -⟩
    exact hkind hreceived

-- ---------------------------------------------------------------------------
-- What a call leaves
-- ---------------------------------------------------------------------------

structure Untouched (s t : State) : Prop where
  emails : t.database.tables.emails = s.database.tables.emails
  attachments : t.database.tables.attachments = s.database.tables.attachments
  rules : t.database.tables.rules = s.database.tables.rules
  queue : t.queue = s.queue

/-- One new email, its tasks, and nothing else. -/
structure Adds (n : Notification) (s t : State) (id : EmailId) (email : NewEmail) : Prop where
  named : email.messageId = recordId n
  fresh : recordId n ∉ s.database.messageIds
  new : s.database.tables.emails.get? id = none
  emails : s.database.tables.emails.insert (.ofNew email) = (id, t.database.tables.emails)
  record : t.database.getEmail id = .ok (email.record id)
  attachments : t.database.tables.attachments = s.database.tables.attachments
  rules : t.database.tables.rules = s.database.tables.rules
  queue : s.queue.Submits (tasksFor id (email.record id).storage) t.queue

section Answers

variable {n : Notification} {s t : State} {answer : Except Error Outcome}

theorem Ingests.duplicate_iff (h : Ingests n s answer t) : answer = .ok .duplicate ↔
    Arrives n s.database.tables ∧ recordId n ∈ s.database.messageIds ∧ s.database.TakesMail := by
  cases h with
  | rejected _ _ again why =>
    refine iff_of_false again ?_
    rintro ⟨arrives, -, takes⟩
    exact why ⟨arrives, takes.isOpen⟩
  | refused fault why =>
    refine iff_of_false (by simp) ?_
    rintro ⟨-, -, takes⟩
    exact why takes
  | duplicate arrives takes stored => exact iff_of_true rfl ⟨arrives, stored, takes⟩
  | created email arrives takes named fresh =>
    refine iff_of_false (by simp) ?_
    rintro ⟨-, stored, -⟩
    exact fresh stored

theorem Ingests.untouched (h : Ingests n s answer t) (hne : ∀ id, answer ≠ .ok (.created id)) :
    Untouched s t := by
  cases h with
  | rejected => exact ⟨rfl, rfl, rfl, rfl⟩
  | refused => exact ⟨rfl, rfl, rfl, rfl⟩
  | duplicate => exact ⟨rfl, rfl, rfl, rfl⟩
  | created => exact absurd rfl (hne _)

theorem Ingests.adds {id : EmailId} (h : Ingests n s answer t) (hid : answer = .ok (.created id)) :
    Arrives n s.database.tables ∧ ∃ email, Adds n s t id email := by
  cases h with
  | rejected _ made => exact absurd hid (made id)
  | refused => cases hid
  | duplicate => cases hid
  | created email arrives takes named fresh =>
    cases hid
    exact ⟨arrives, email, named, fresh, Table.get?_insert_new _ _, rfl,
      Database.getEmail_withMail takes.isOpen _, rfl, rfl, Queue.submits_submitAll _ _⟩

theorem Ingests.takesMail {id : EmailId} (h : Ingests n s answer t)
    (hid : answer = .ok (.created id)) : s.database.TakesMail := by
  cases h with
  | rejected _ made => exact absurd hid (made id)
  | refused => cases hid
  | duplicate => cases hid
  | created email arrives takes named fresh => exact takes

theorem Ingests.grows (h : Ingests n s answer t) :
    s.database.tables.Grows t.database.tables ∧ s.database.messageIds <+: t.database.messageIds := by
  cases h with
  | rejected => exact ⟨.refl _, List.prefix_refl _⟩
  | refused => exact ⟨.refl _, List.prefix_refl _⟩
  | duplicate => exact ⟨.refl _, List.prefix_refl _⟩
  | created email =>
    refine ⟨⟨List.prefix_refl _, List.prefix_refl _⟩, ?_⟩
    simp [Database.messageIds, Database.withMail, Table.insert]

theorem Adds.messageIds {id : EmailId} {email : NewEmail} (h : Adds n s t id email) :
    t.database.messageIds = s.database.messageIds ++ [recordId n] := by
  have hrows := congrArg (fun p => p.2.rows.map (·.messageId)) h.emails
  rw [← h.named]
  simpa [Table.insert, Database.messageIds, EmailRow.ofNew] using hrows.symm

theorem Untouched.messageIds (h : Untouched s t) :
    t.database.messageIds = s.database.messageIds :=
  congrArg (fun emails => emails.rows.map (·.messageId)) h.emails

/-- A new email is the one that the notification announces, for the identity of the first recipient
that has one. -/
theorem getEmail_of_created {now : Instant} {id : EmailId}
    (h : ((ingest n now).perform s).1 = .ok (.created id)) :
    ∃ receipt identity row, n.receipt = some receipt ∧
      receipt.recipients.findSome? (Database.identityFor? s.database.tables) = some identity ∧
      s.database.tables.domains.get? identity.domain = some row ∧
      ((ingest n now).perform s).2.database.getEmail id =
        .ok ((email n receipt identity (row.read identity.domain) now).record id) := by
  have hcall := ingest_cases n now s
  obtain ⟨⟨hkind, receipt, hreceipt, r, hr, hreaches⟩, _, adds⟩ := hcall.adds h
  have takes := hcall.takesMail h
  obtain ⟨identity, hfound⟩ :=
    Option.isSome_iff_exists.mp (findSome?_identityFor?.mpr ⟨r, hr, hreaches⟩)
  obtain ⟨row, hrow, hperform⟩ := perform_receive_some takes.isOpen n now hfound
  refine ⟨receipt, identity, row, hreceipt, hfound, hrow, ?_⟩
  rw [ingest_eq_receive hkind hreceipt, hperform,
    perform_finish_created takes (messageId_email .. ▸ adds.fresh)] at h ⊢
  cases h
  exact Database.getEmail_withMail takes.isOpen _

end Answers

-- ---------------------------------------------------------------------------
-- Runs
-- ---------------------------------------------------------------------------

structure Call where
  before : State
  notification : Notification
  now : Instant

namespace Call

def answer (c : Call) : Except Error Outcome := ((ingest c.notification c.now).perform c.before).1

def after (c : Call) : State := ((ingest c.notification c.now).perform c.before).2

def creates (c : Call) : Bool :=
  match c.answer with
  | .ok (.created _) => true
  | _ => false

theorem creates_iff {c : Call} : c.creates = true ↔ ∃ id, c.answer = .ok (.created id) := by
  unfold creates
  split
  · next id h => simp [h]
  · next h =>
    simp only [Bool.false_eq_true, false_iff]
    rintro ⟨id, hid⟩
    exact h id hid

theorem ingests (c : Call) : Ingests c.notification c.before c.answer c.after :=
  ingest_cases c.notification c.now c.before

structure Sound (c : Call) : Prop where
  duplicate : c.answer = .ok .duplicate ↔ Arrives c.notification c.before.database.tables ∧
    recordId c.notification ∈ c.before.database.messageIds ∧ c.before.database.TakesMail
  untouched : (∀ id, c.answer ≠ .ok (.created id)) → Untouched c.before c.after
  adds : ∀ id, c.answer = .ok (.created id) → ∃ email, Adds c.notification c.before c.after id email

theorem sound (c : Call) : c.Sound :=
  ⟨c.ingests.duplicate_iff, c.ingests.untouched, fun _ h => (c.ingests.adds h).2⟩

theorem messageIds_after (c : Call) : c.after.database.messageIds =
    c.before.database.messageIds ++ if c.creates then [recordId c.notification] else [] := by
  cases h : c.creates with
  | true =>
    obtain ⟨id, hid⟩ := creates_iff.mp h
    obtain ⟨-, email, hadds⟩ := c.ingests.adds hid
    exact hadds.messageIds
  | false =>
    have hne : ∀ id, c.answer ≠ .ok (.created id) := by
      intro id hid
      have := creates_iff.mpr ⟨id, hid⟩
      simp [h] at this
    simpa using (c.ingests.untouched hne).messageIds

end Call

/-- What may happen between two calls: domains and identities are added, the fault plan and
the queue change, and so does anything else, but no email comes or goes. -/
structure Between (s t : State) : Prop where
  grows : s.database.tables.Grows t.database.tables
  mail : t.database.messageIds = s.database.messageIds

/-- Calls that follow each other. -/
inductive Run : State → List Call → State → Prop
  | nil (s : State) : Run s [] s
  | cons {s t : State} {call : Call} {calls : List Call} (between : Between s call.before)
      (rest : Run call.after calls t) : Run s (call :: calls) t

variable {n : Notification} {s t : State}

theorem Run.nodup {calls : List Call} (h : Run s calls t) (hn : s.database.messageIds.Nodup) :
    t.database.messageIds.Nodup := by
  induction h with
  | nil => exact hn
  | @cons s t call calls between rest ih =>
    refine ih ?_
    have hbefore : call.before.database.messageIds.Nodup := between.mail ▸ hn
    cases hc : call.creates with
    | false => simpa [call.messageIds_after, hc] using hbefore
    | true =>
      obtain ⟨id, hid⟩ := Call.creates_iff.mp hc
      obtain ⟨-, email, hadds⟩ := call.ingests.adds hid
      rw [hadds.messageIds, List.nodup_append]
      refine ⟨hbefore, by simp, ?_⟩
      rintro a ha b hb rfl
      exact hadds.fresh (List.mem_singleton.mp hb ▸ ha)

theorem Run.length {calls : List Call} (h : Run s calls t) :
    t.database.messageIds.length =
      s.database.messageIds.length + (calls.filter Call.creates).length := by
  induction h with
  | nil => rfl
  | @cons s t call calls between rest ih =>
    rw [ih, call.messageIds_after, List.length_append, between.mail, List.filter_cons]
    cases call.creates with
    | true =>
      simp only [if_true, List.length_cons, List.length_nil]
      omega
    | false => simp

theorem Run.extends {calls : List Call} (h : Run s calls t) : ∀ c ∈ calls,
    s.database.tables.Grows c.before.database.tables ∧
      s.database.messageIds <+: c.before.database.messageIds := by
  induction h with
  | nil => exact fun c hc => absurd hc List.not_mem_nil
  | @cons s t call calls between rest ih =>
    have hstart : s.database.messageIds <+: call.before.database.messageIds :=
      between.mail ▸ List.prefix_refl _
    intro c hc
    rcases List.mem_cons.mp hc with rfl | hc
    · exact ⟨between.grows, hstart⟩
    · obtain ⟨hgrows, hmail⟩ := ih c hc
      obtain ⟨hgrows', hmail'⟩ := call.ingests.grows
      exact ⟨between.grows.trans (hgrows'.trans hgrows), hstart.trans (hmail'.trans hmail)⟩

theorem Arrives.grows {a b : Tables} (h : Arrives n a) (hg : a.Grows b) : Arrives n b := by
  obtain ⟨hkind, receipt, hreceipt, r, hr, hreaches⟩ := h
  exact ⟨hkind, receipt, hreceipt, r, hr, hg.reaches hreaches⟩

theorem Run.redelivered {calls : List Call} (h : Run s calls t) :
    calls.Pairwise fun a b => a.notification = b.notification → a.creates = true →
      b.before.database.TakesMail → b.answer = .ok .duplicate := by
  induction h with
  | nil => exact .nil
  | @cons s t call calls between rest ih =>
    refine .cons (fun later hlater hsame hcreates htakes => ?_) ih
    obtain ⟨id, hid⟩ := Call.creates_iff.mp hcreates
    obtain ⟨harrives, email, hadds⟩ := call.ingests.adds hid
    obtain ⟨hgrows, hmail⟩ := rest.extends later hlater
    rw [later.ingests.duplicate_iff, ← hsame]
    refine ⟨(harrives.grows call.ingests.grows.1).grows hgrows, hmail.subset ?_, htakes⟩
    rw [hadds.messageIds]
    exact List.mem_append_right _ (List.mem_singleton.mpr rfl)

/-- However calls follow each other, message ids stay distinct, emails are as many as calls that
made one, each call keeps its promise, and mail that is announced again is a duplicate. -/
theorem Run.promises {calls : List Call} (h : Run s calls t) :
    (s.database.messageIds.Nodup → t.database.messageIds.Nodup) ∧
      t.database.tables.emails.size =
        s.database.tables.emails.size + (calls.filter Call.creates).length ∧
      (∀ c ∈ calls, c.Sound) ∧
      calls.Pairwise fun a b => a.notification = b.notification → a.creates = true →
        b.before.database.TakesMail → b.answer = .ok .duplicate := by
  refine ⟨h.nodup, ?_, fun c _ => c.sound, h.redelivered⟩
  simpa [Database.messageIds, Table.size] using h.length

namespace Twice

/-- One domain with one identity, and a queue that takes every other task. -/
def start : State where
  database := { Database.empty with
    tables := { Tables.empty with
      domains := ⟨[⟨3, "example.com", some "inbound"⟩]⟩
      identities := ⟨[⟨1, "bob@example.com", false⟩]⟩ } }
  objects := .inMemory
  queue := { Queue.empty with accepts := fun n _ => n % 2 == 1 }

def announced : Notification where
  kind := "Received"
  mail := { Notification.MailInfo.empty with messageId := "ses-1" }
  receipt := some
    { timestamp := ""
      processingTimeMillis := 0
      recipients := ["nobody@example.org", "Bob@example.com"]
      spamVerdict := "PASS"
      virusVerdict := ""
      spfVerdict := ""
      dkimVerdict := ""
      dmarcVerdict := ""
      action := .empty }

def first : Call := ⟨start, announced, .epoch⟩

def second : Call := ⟨{ first.after with queue := .closed }, announced, .epoch⟩

def other : Notification :=
  { announced with mail := { Notification.MailInfo.empty with messageId := "ses-2" } }

def third : Call := ⟨{ second.after with queue := .empty }, other, .epoch⟩

theorem run : Run start [first, second, third] third.after :=
  .cons ⟨.refl _, rfl⟩ (.cons ⟨.refl _, rfl⟩ (.cons ⟨.refl _, rfl⟩ (.nil _)))

theorem submits_of_adds {n : Notification} {s t : State} {id : EmailId} {email : NewEmail}
    {source : Option Location} (h : Adds n s t id email)
    (hsource : (t.database.getEmail id).toOption.map (·.storage) = some source) :
    s.queue.Submits (tasksFor id source) t.queue := by
  rw [h.record] at hsource
  obtain rfl : (email.record id).storage = source := Option.some.inj hsource
  exact h.queue

end Twice

/-- Of the tasks for the first email the queue only takes the second, though it is offered both. -/
theorem Run.promises_twice : Twice.first.answer = .ok (.created 1) ∧
    Twice.second.answer = .ok .duplicate ∧ Twice.third.answer = .ok (.created 2) ∧
    Twice.third.after.database.tables.emails.size = 2 ∧
    Twice.first.after.queue.tasks = [.evaluate 1] ∧ Twice.first.after.queue.submitted = 2 ∧
    Twice.second.after.queue.tasks = [] ∧ Twice.second.after.queue.submitted = 0 ∧
    Twice.third.after.queue.tasks =
      [.decode 2 ⟨"inbound", "incoming/example.com/ses-2"⟩, .evaluate 2] := by
  obtain ⟨-, hsize, hsound, hpairs⟩ := Run.promises Twice.run
  have hfirst : Twice.first.answer = .ok (.created 1) := by rfl
  have hthird : Twice.third.answer = .ok (.created 2) := by rfl
  have hsecond : Twice.second.answer = .ok .duplicate := by
    have htakes : Twice.second.before.database.TakesMail := ⟨rfl, rfl⟩
    exact (List.pairwise_cons.mp hpairs).1 Twice.second (by simp) rfl
      (Call.creates_iff.mpr ⟨1, hfirst⟩) htakes
  obtain ⟨_, hadds⟩ := (hsound Twice.first (by simp)).adds 1 hfirst
  obtain ⟨_, hadds'⟩ := (hsound Twice.third (by simp)).adds 2 hthird
  have hsubmits : Twice.start.queue.Submits
      (tasksFor 1 (some ⟨"inbound", "incoming/example.com/ses-1"⟩)) Twice.first.after.queue :=
    Twice.submits_of_adds hadds (by rfl)
  have hsubmits' : Queue.empty.Submits
      (tasksFor 2 (some ⟨"inbound", "incoming/example.com/ses-2"⟩)) Twice.third.after.queue :=
    Twice.submits_of_adds hadds' (by rfl)
  have huntouched := (hsound Twice.second (by simp)).untouched (by simp [hsecond])
  refine ⟨hfirst, hsecond, hthird, ?_, hsubmits.tasks, hsubmits.submitted,
    congrArg Queue.tasks huntouched.queue, congrArg Queue.submitted huntouched.queue,
    hsubmits'.tasks⟩
  rw [hsize]
  rfl

end Intake

end Mailroom.Pipeline
