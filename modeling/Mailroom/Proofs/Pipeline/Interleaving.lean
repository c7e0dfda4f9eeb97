import Mailroom.Pattern.Engine
import Mailroom.Proofs.Pipeline.Log

/-!
# Tasks beside each other

Tasks share the database and the object store without locks, and any of them can make the next
step. Whatever the order, each email ends as if only its own tasks had run, one after the other,
and each rule is counted once for every evaluation that it matched.
-/

namespace Mailroom.Pipeline

open Mailroom.Filter (PatternEngine RuleId)
open Mailroom.Mail
open Mailroom.Store
open Mailroom.Time (Instant)

-- ---------------------------------------------------------------------------
-- Schedules
-- ---------------------------------------------------------------------------

/-- What is left to do of each task. -/
abbrev Pool := Task → Steps State (Except Error (List RuleId))

namespace Pool

def start [PatternEngine] (times : EmailId → RuleId → Instant) (tasks : List Task) : Pool :=
  fun task => if task ∈ tasks then (task.work times).run else .done (.ok [])

/-- Lets the tasks of a schedule make one step each. A task that is done cannot. -/
def play (pool : Pool) (s : State) : List Task → Option (Pool × State)
  | [] => some (pool, s)
  | task :: schedule =>
    match pool task with
    | .done _ => none
    | .step change next =>
      play (fun other => if other = task then next s else pool other) (change s) schedule

end Pool

def inTurn (decodeFirst : Bool) (tasks : List Task) (id : EmailId) : List Task :=
  tasksOf decodeFirst tasks id ++ tasksOf (!decodeFirst) tasks id

/-- Whether the decoding of an email has made two steps, its look at the raw message and its
update, before the evaluation makes its first one, which loads the email. -/
def decodedFirst (schedule : List Task) (id : EmailId) : Bool :=
  2 ≤ (tasksOf true (schedule.takeWhile (· ≠ .evaluate id)) id).length

/-- Tasks one after the other, each without interruption. A failure is passed over. -/
def performAll [PatternEngine] (times : EmailId → RuleId → Instant) (tasks : List Task)
    (s : State) : State :=
  tasks.foldl (fun s task => ((task.work times).perform s).2) s

-- ---------------------------------------------------------------------------
-- Runs
-- ---------------------------------------------------------------------------

section

variable {times : EmailId → RuleId → Instant} {tasks : List Task} {start : State}

/-- How far a task has come: it has not begun, or it has looked at a state and follows the script
that is made of what it saw. -/
inductive Progress [PatternEngine] (times : EmailId → RuleId → Instant) (tasks : List Task)
    (start : State) (log : Log) (task : Task)
    (left : Steps State (Except Error (List RuleId))) : Prop
  | waits (hlog : task ∉ log.map Prod.fst) (hleft : left = (task.work times).run)
  | goes (before later : Log) (rest : List Effect) (hlog : log = before ++ (task, .look) :: later)
      (hfirst : task ∉ before.map Prod.fst)
      (hscript : later.did task ++ rest = task.script times (before.after start))
      (hleft : Follows (Steady tasks start) left rest (task.answer (before.after start)))

structure Ongoing [PatternEngine] (times : EmailId → RuleId → Instant) (tasks : List Task)
    (start : State) (log : Log) (pool : Pool) (s : State) : Prop where
  state : s = log.after start
  fair : Fair tasks start log
  progress : ∀ task ∈ tasks, Progress times tasks start log task (pool task)
  idle : ∀ task, task ∉ tasks → pool task = .done (.ok [])

theorem Ongoing.refl [PatternEngine] (times : EmailId → RuleId → Instant) (tasks : List Task)
    (start : State) :
    Ongoing times tasks start [] (Pool.start times tasks) start where
  state := rfl
  fair := .nil
  progress _ h := .waits List.not_mem_nil (if_pos h)
  idle _ h := if_neg h

theorem Progress.other [PatternEngine] {log : Log} {task other : Task} {effect : Effect}
    {left : Steps State (Except Error (List RuleId))}
    (h : Progress times tasks start log other left) (hne : other ≠ task) :
    Progress times tasks start (log ++ [(task, effect)]) other left := by
  cases h with
  | waits hlog hleft => exact .waits (by simpa [hne] using hlog) hleft
  | goes before later rest hlog hfirst hscript hleft =>
    refine .goes before (later ++ [(task, effect)]) rest (by simp [hlog]) hfirst ?_ hleft
    rw [Log.did_append, ← hscript, show [(task, effect)] = [effect].map (task, ·) from rfl,
      Log.did_other _ hne, List.append_nil]

theorem Progress.step [PatternEngine] {log : Log} {task : Task} {change : State → State}
    {next : State → Steps State (Except Error (List RuleId))}
    (h : Progress times tasks start log task (.step change next)) (htask : task ∈ tasks)
    (hready : Admissible tasks start) (hfair : Fair tasks start log) :
    ∃ effect, change (log.after start) = effect.act (log.after start) ∧ effect.Of task ∧
      effect.Allowed tasks start ∧
      Progress times tasks start (log ++ [(task, effect)]) task (next (log.after start)) := by
  have hsteady := hfair.steady hready
  cases h with
  | waits hlog hleft =>
    obtain ⟨change', next', hwork, hlooks⟩ := task.work_looks times htask (hready.stored task htask)
    obtain ⟨rfl, rfl⟩ : change = change' ∧ next = next' := by simpa using hleft.trans hwork
    obtain ⟨hchange, hfollows⟩ := hlooks _ hsteady
    exact ⟨.look, hchange, trivial, trivial, .goes log [] _ rfl hlog rfl hfollows⟩
  | goes before later rest hlog hfirst hscript hleft =>
    cases hleft with
    | @step _ _ effect rest _ acts goesOn =>
      have hmem : effect ∈ task.script times (before.after start) := by simp [← hscript]
      have hbefore := (Fair.earlier (hlog ▸ hfair)).steady hready
      refine ⟨effect, acts _ hsteady, task.of_script effect hmem,
        Task.allowed_script htask hbefore effect hmem,
        .goes before (later ++ [(task, effect)]) rest (by simp [hlog]) hfirst ?_
          (goesOn _ hsteady)⟩
      rw [Log.did_append, show [(task, effect)] = [effect].map (task, ·) from rfl, Log.did_self,
        List.append_assoc]
      exact hscript

theorem Ongoing.step [PatternEngine] {log : Log} {pool : Pool} {s : State}
    (h : Ongoing times tasks start log pool s) (hready : Admissible tasks start) {task : Task}
    {change : State → State} {next : State → Steps State (Except Error (List RuleId))}
    (ht : pool task = .step change next) :
    ∃ effect, Ongoing times tasks start (log ++ [(task, effect)])
      (fun other => if other = task then next s else pool other) (change s) := by
  have htask : task ∈ tasks := by
    by_contra hnot
    cases (h.idle task hnot).symm.trans ht
  obtain ⟨effect, hchange, hof, hallowed, hprogress⟩ :=
    (ht ▸ h.progress task htask).step htask hready h.fair
  rw [← h.state] at hchange hprogress
  refine ⟨effect, ?_, ?_, fun other hother => ?_, fun other hother => ?_⟩
  · rw [hchange, h.state, Log.after_append]
    rfl
  · exact h.fair.append fun x hx => by
      obtain rfl := List.mem_singleton.mp hx
      exact ⟨htask, hof, hallowed⟩
  · by_cases hself : other = task
    · subst hself
      simpa using hprogress
    · simpa [hself] using (h.progress other hother).other hself
  · have hne : other ≠ task := fun he => hother (he ▸ htask)
    simpa [hne] using h.idle other hother

theorem Ongoing.play [PatternEngine] {log : Log} {pool pool' : Pool} {s s' : State}
    {schedule : List Task} (h : Ongoing times tasks start log pool s)
    (hready : Admissible tasks start) (hplay : pool.play s schedule = some (pool', s')) :
    ∃ log', Ongoing times tasks start log' pool' s' ∧
      log'.map Prod.fst = log.map Prod.fst ++ schedule := by
  induction schedule generalizing log pool s with
  | nil =>
    cases hplay
    exact ⟨log, h, (List.append_nil _).symm⟩
  | cons task schedule ih =>
    rw [Pool.play] at hplay
    split at hplay
    · cases hplay
    · next change next ht =>
      obtain ⟨effect, hstep⟩ := h.step hready ht
      obtain ⟨log', hlog', hmap⟩ := ih hstep hplay
      exact ⟨log', hlog', by simp [hmap]⟩

theorem Ongoing.ended [PatternEngine] {log : Log} {pool : Pool} {s : State}
    (h : Ongoing times tasks start log pool s) (hready : Admissible tasks start) {task : Task}
    (htask : task ∈ tasks) {answer : Except Error (List RuleId)} (hdone : pool task = .done answer) :
    ∃ before later : Log, log = before ++ (task, .look) :: later ∧ task ∉ before.map Prod.fst ∧
      log.did task = .look :: task.script times (before.after start) ∧
      answer = task.answer (before.after start) := by
  have hprogress := h.progress task htask
  rw [hdone] at hprogress
  cases hprogress with
  | waits _ hleft =>
    obtain ⟨change, next, hwork, -⟩ :=
      task.work_looks times htask (hready.stored task htask)
    cases hleft.trans hwork
  | goes before later rest hlog hfirst hscript hleft =>
    cases hleft
    refine ⟨before, later, hlog, hfirst, ?_, rfl⟩
    rw [hlog, Log.did_append, Log.did_eq_nil_iff.mpr hfirst, ← hscript, List.append_nil]
    simp [Log.did]

-- ---------------------------------------------------------------------------
-- What an evaluation loads
-- ---------------------------------------------------------------------------

def decoded [PatternEngine] (tasks : List Task) (start : State) (times : EmailId → RuleId → Instant)
    (id : EmailId) : List Assignment :=
  (tasksOf true tasks id).flatMap fun task => (task.script times start).flatMap (·.assignments id)

/-- The row that the evaluation of an email loads: that of the start, with all that decoding assigns
if that comes `first`. -/
def loadedRow [PatternEngine] (tasks : List Task) (start : State)
    (times : EmailId → RuleId → Instant) (id : EmailId) (first : Bool) : Option EmailRow :=
  (start.database.tables.emails.get? id).map
    ((if first then decoded tasks start times id else []).foldl EmailRow.assign)

theorem Fair.loaded [PatternEngine] {log : Log} (h : Fair tasks start log)
    (hready : Admissible tasks start) {id : EmailId} (hnot : .evaluate id ∉ log.map Prod.fst)
    (hdid : ∀ task ∈ tasksOf true tasks id, log.did task <+: .look :: task.script times start) :
    (log.after start).database.tables.emails.get? id =
      loadedRow tasks start times id (2 ≤ (tasksOf true (log.map Prod.fst) id).length) := by
  have hassigned : ((tasksOf true tasks id).flatMap fun task =>
      (log.did task).flatMap (·.assignments id)) =
        if 2 ≤ (tasksOf true (log.map Prod.fst) id).length then decoded tasks start times id
        else [] := by
    rw [decoded]
    rcases tasksOf_cases hready.once true id with hnone | ⟨task, hone⟩
    · simp [hnone]
    · have hmem : task ∈ tasksOf true tasks id := hone ▸ List.mem_singleton_self task
      have hkind := mem_tasksOf.mp hmem
      have hdone := hdid task hmem
      rw [hone, h.length_did hone, List.flatMap_singleton, List.flatMap_singleton]
      cases task with
      | evaluate => cases hkind.2.1
      | decode id' source => exact Decoding.assignments_begun hdone id
  rw [log.emails_after hready.reliable, h.assignments_eq hready.once hnot, hassigned]
  simp only [loadedRow, decide_eq_true_eq]

theorem Ongoing.loaded [PatternEngine] {log before later : Log} {pool : Pool} {s : State}
    {id : EmailId} (h : Ongoing times tasks start log pool s) (hready : Admissible tasks start)
    (hdone : ∀ task ∈ tasks, ∃ answer, pool task = .done answer)
    (hlog : log = before ++ (.evaluate id, .look) :: later)
    (hfresh : .evaluate id ∉ before.map Prod.fst) :
    (before.after start).database.tables.emails.get? id =
      loadedRow tasks start times id (decodedFirst (log.map Prod.fst) id) := by
  have hwhile : (log.map Prod.fst).takeWhile (· ≠ .evaluate id) = before.map Prod.fst := by
    rw [hlog, List.map_append, List.takeWhile_append_of_pos]
    · simp
    · intro task htask
      exact decide_eq_true fun he => hfresh (he ▸ htask)
  rw [decodedFirst, hwhile]
  refine (Fair.earlier (hlog ▸ h.fair)).loaded hready hfresh fun task htask => ?_
  obtain ⟨hmem, hdecode, -⟩ := mem_tasksOf.mp htask
  obtain ⟨answer, hanswer⟩ := hdone task hmem
  obtain ⟨first, later', hfirst, -, hdid, -⟩ := h.ended hready hmem hanswer
  have hsteady := (Fair.earlier (hfirst ▸ h.fair)).steady hready
  rw [← hsteady.script_eq hmem hdecode, ← hdid, hlog, Log.did_append]
  exact List.prefix_append _ _

-- ---------------------------------------------------------------------------
-- One task after the other
-- ---------------------------------------------------------------------------

theorem Fair.performAll [PatternEngine] {log : Log} (h : Fair tasks start log)
    (hready : Admissible tasks start) (times : EmailId → RuleId → Instant) (decodes : Bool)
    (id : EmailId) :
    ∃ part, Fair tasks start (log ++ part) ∧
      Pipeline.performAll times (tasksOf decodes tasks id) (log.after start) =
        (log ++ part).after start ∧
      ∀ task, part.did task = if task ∈ tasksOf decodes tasks id then
        .look :: task.script times (log.after start) else [] := by
  rcases tasksOf_cases hready.once decodes id with hnone | ⟨task, hone⟩
  · rw [hnone]
    exact ⟨[], by simpa using h, by simp [Pipeline.performAll], fun _ => by simp [Log.did]⟩
  · have htask : task ∈ tasks := (mem_tasksOf.mp (hone ▸ List.mem_singleton_self task)).1
    have hsteady := h.steady hready
    rw [hone]
    refine ⟨(.look :: task.script times (log.after start)).map (task, ·), h.append ?_, ?_, ?_⟩
    · intro x hx
      obtain ⟨effect, he, rfl⟩ := List.mem_map.mp hx
      rcases List.mem_cons.mp he with rfl | he
      · exact ⟨htask, trivial, trivial⟩
      · exact ⟨htask, task.of_script effect he, Task.allowed_script htask hsteady effect he⟩
    · have hperform := Task.perform_work times htask hready.apart
        (hready.stored task htask) hsteady
      rw [Log.after_append, Pipeline.performAll, List.foldl_cons, List.foldl_nil, hperform]
      simp [Function.comp_def]
    · intro other
      by_cases hother : other = task
      · rw [hother, Log.did_self, if_pos (List.mem_singleton_self task)]
      · rw [Log.did_other _ hother, if_neg (by simpa using hother)]

theorem exists_turns [PatternEngine] (hready : Admissible tasks start)
    (times : EmailId → RuleId → Instant) (first : Bool) (id : EmailId) :
    ∃ turns, Fair tasks start turns ∧
      performAll times (inTurn first tasks id) start = turns.after start ∧
      ∀ task ∈ tasks, task.email = id → ∃ s, Steady tasks start s ∧
        turns.did task = .look :: task.script times s ∧
        (task.isDecode = false →
          s.database.tables.emails.get? id = loadedRow tasks start times id first) := by
  obtain ⟨one, hfairOne, hone, hdidOne⟩ := Fair.nil.performAll hready times first id
  obtain ⟨two, hfairTwo, htwo, hdidTwo⟩ := hfairOne.performAll hready times (!first) id
  rw [List.nil_append] at hfairOne hfairTwo hone htwo hdidTwo
  refine ⟨one ++ two, hfairTwo, ?_, fun task htask hemail => ?_⟩
  · rw [inTurn, performAll, List.foldl_append, ← htwo, ← hone]
    rfl
  · rw [Log.did_append, hdidOne, hdidTwo]
    by_cases hkind : task.isDecode = first
    · refine ⟨start, .refl hready.reliable tasks, ?_, fun hevaluate => ?_⟩
      · rw [if_pos (mem_tasksOf.mpr ⟨htask, hkind, hemail⟩), if_neg (by simp [mem_tasksOf, hkind]),
          List.append_nil]
        rfl
      · obtain rfl : first = false := hkind.symm.trans hevaluate
        exact Option.map_id'.symm
    · have hother : task.isDecode = !first := Bool.eq_not.mpr hkind
      refine ⟨one.after start, hfairOne.steady hready, ?_, fun hevaluate => ?_⟩
      · rw [if_neg (by simp [mem_tasksOf, hkind]), if_pos (mem_tasksOf.mpr ⟨htask, hother, hemail⟩)]
        rfl
      · obtain rfl : first = true := by simpa [hevaluate] using hother.symm
        have hnot : .evaluate id ∉ one.map Prod.fst := by
          rw [← Log.did_eq_nil_iff, hdidOne, if_neg]
          simp [mem_tasksOf, Task.isDecode]
        have hassigned : ((tasksOf true tasks id).flatMap fun task =>
            (one.did task).flatMap (·.assignments id)) = decoded tasks start times id := by
          refine List.flatMap_congr fun task hmem => ?_
          rw [hdidOne, if_pos hmem]
          rfl
        rw [one.emails_after hready.reliable, hfairOne.assignments_eq hready.once hnot, hassigned]
        rfl

theorem Ongoing.did_eq_inTurn [PatternEngine] {log : Log} {pool : Pool} {s : State}
    (h : Ongoing times tasks start log pool s) (hready : Admissible tasks start)
    (hdone : ∀ task ∈ tasks, ∃ answer, pool task = .done answer) (id : EmailId) :
    ∃ turns, Fair tasks start turns ∧
      performAll times (inTurn (decodedFirst (log.map Prod.fst) id) tasks id) start =
        turns.after start ∧
      ∀ task ∈ tasks, task.email = id → log.did task = turns.did task := by
  obtain ⟨turns, hfair, hperform, hturns⟩ :=
    exists_turns hready times (decodedFirst (log.map Prod.fst) id) id
  refine ⟨turns, hfair, hperform, fun task htask hemail => ?_⟩
  obtain ⟨answer, hanswer⟩ := hdone task htask
  obtain ⟨before, later, hlog, hfresh, hdid, -⟩ := h.ended hready htask hanswer
  obtain ⟨s, hs, hdid', hrow⟩ := hturns task htask hemail
  have hbefore := (Fair.earlier (hlog ▸ h.fair)).steady hready
  rw [hdid, hdid', hbefore.script_congr hs htask]
  rintro e rfl
  obtain rfl : e = id := hemail
  exact (h.loaded hready hdone hlog hfresh).trans (hrow rfl).symm

-- ---------------------------------------------------------------------------
-- The end of a run
-- ---------------------------------------------------------------------------

def matchesIn (tasks : List Task) (answers : Task → Except Error (List RuleId)) (rule : RuleId) :
    Nat :=
  tasks.countP fun task => rule ∈ (answers task).toOption.getD []

theorem Ongoing.matched [PatternEngine] {log : Log} {pool : Pool} {s : State}
    (h : Ongoing times tasks start log pool s) (hready : Admissible tasks start)
    {answers : Task → Except Error (List RuleId)}
    (hdone : ∀ task ∈ tasks, pool task = .done (answers task)) (rule : RuleId) :
    (log.flatMap fun x => x.2.matched rule).length = matchesIn tasks answers rule ∧
      ∀ time ∈ log.flatMap (fun x => x.2.matched rule), ∃ id, .evaluate id ∈ tasks ∧
        rule ∈ (answers (.evaluate id)).toOption.getD [] ∧ time = times id rule := by
  have hcount : ∀ task ∈ tasks, ((log.did task).flatMap (·.matched rule)).length =
      if rule ∈ (answers task).toOption.getD [] then 1 else 0 := by
    intro task htask
    obtain ⟨before, later, hlog, -, hdid, hanswer⟩ := h.ended hready htask (hdone task htask)
    have hbefore := (Fair.earlier (hlog ▸ h.fair)).steady hready
    rw [hdid, hanswer]
    exact task.length_matched hbefore.reliable rule
  refine ⟨?_, fun time htime => ?_⟩
  · have hnodup : tasks.Nodup := List.Nodup.of_map _ hready.once
    exact Log.length_flatMap (fun x hx => (h.fair x hx).1) hnodup fun task htask => by
      simpa using hcount task htask
  · obtain ⟨⟨task, effect⟩, hx, htime⟩ := List.mem_flatMap.mp htime
    obtain ⟨htask, hof, -⟩ := h.fair _ hx
    have hmem : effect ∈ log.did task :=
      List.mem_map.mpr ⟨(task, effect), List.mem_filter.mpr ⟨hx, by simp⟩, rfl⟩
    have hrule : rule ∈ (answers task).toOption.getD [] := by
      by_contra hnot
      have hnone := hcount task htask
      rw [if_neg hnot, List.length_eq_zero_iff, List.flatMap_eq_nil_iff] at hnone
      rw [hnone effect hmem] at htime
      cases htime
    obtain ⟨before, later, -, -, hdid, -⟩ := h.ended hready htask (hdone task htask)
    obtain ⟨id, rfl⟩ := Effect.eq_of_mem_matched htime
    cases task with
    | decode => cases hof.1
    | evaluate e =>
      rw [hdid] at hmem
      have hscript := (List.mem_cons.mp hmem).resolve_left (by simp)
      exact ⟨e, htask, hrule, Evaluation.time_of_mem_script hscript⟩

/-- Tasks beside each other: for every schedule that brings all of them to their end, each email is
as if only its own tasks had run, one after the other, its decoding first if that had made its
update before the evaluation loaded the email. Each rule is counted once for every evaluation that
it matched, and nothing else changes. -/
theorem Pool.play_inTurn [PatternEngine] (hready : Admissible tasks start) {schedule : List Task}
    {left : Pool} {answers : Task → Except Error (List RuleId)} {after : State}
    (hplay : (Pool.start times tasks).play start schedule = some (left, after))
    (hdone : ∀ task ∈ tasks, left task = .done (answers task)) :
    (∀ id, SameMail id after.database
        (performAll times (inTurn (decodedFirst schedule id) tasks id) start).database) ∧
      (∀ rule, ∃ last : Option Instant,
        after.database.tables.rules.get? rule =
          (start.database.tables.rules.get? rule).map (fun row => { row with
            matchCount := row.matchCount + matchesIn tasks answers rule
            lastMatched := (last.map Instant.render).or row.lastMatched }) ∧
        (last = none ↔ matchesIn tasks answers rule = 0) ∧
        ∀ time ∈ last, ∃ id, .evaluate id ∈ tasks ∧
          rule ∈ (answers (.evaluate id)).toOption.getD [] ∧ time = times id rule) ∧
      after.database.tables.domains = start.database.tables.domains ∧
      after.database.tables.identities = start.database.tables.identities := by
  obtain ⟨log, hongoing, hschedule⟩ := (Ongoing.refl times tasks start).play hready hplay
  rw [List.map_nil, List.nil_append] at hschedule
  refine ⟨fun id => ?_, fun rule => ?_, ?_⟩
  · obtain ⟨turns, hturns, hperform, hdid⟩ :=
      hongoing.did_eq_inTurn hready (fun task htask => ⟨_, hdone task htask⟩) id
    rw [hschedule] at hperform
    rw [hperform, hongoing.state]
    exact hongoing.fair.sameMail hturns hready hdid
  · obtain ⟨hlength, htimes⟩ := hongoing.matched hready hdone rule
    refine ⟨(log.flatMap fun x => x.2.matched rule).getLast?, ?_, ?_, fun time htime => ?_⟩
    · rw [hongoing.state, Log.after, Effect.rules_actAll hready.reliable, List.flatMap_map,
        ← hlength]
      congr 1
      funext row
      exact RuleRow.foldl_counted _ row
    · rw [List.getLast?_eq_none_iff, ← hlength, List.length_eq_zero_iff]
    · exact htimes time (List.mem_of_getLast? htime)
  · rw [hongoing.state]
    exact Effect.frame_actAll hready.reliable _

end

namespace Pool.Sample

def message : Object.Bytes :=
  Text.bytes ("Content-Type: multipart/mixed; boundary=b\r\n\r\n--b\r\n" ++
    "Content-Disposition: attachment; filename=a\r\n\r\n\nhi\r\n--b--\r\n")

def source : Location := ⟨"box", "raw"⟩

def initial (objects : Object.Store) : State where
  database := { Database.empty with
    tables := { Tables.empty with
      emails := ⟨[Evaluation.Sample.row, { Evaluation.Sample.row with messageId := "m-2" }]⟩
      rules := ⟨[Evaluation.Sample.rule]⟩ } }
  objects := (objects.put source message).2
  queue := .empty

def times : EmailId → RuleId → Instant := fun _ => Evaluation.Sample.times

def decoding : Task := .decode 1 source

def tasks : List Task := [decoding, .evaluate 1, .evaluate 2]

/-- The first email is loaded by its evaluation between the update and the row for the attachment,
and the second email is evaluated in the meantime. -/
def schedule : List Task :=
  [decoding, .evaluate 2, decoding, .evaluate 1, .evaluate 2, decoding, .evaluate 1, .evaluate 2,
    decoding, .evaluate 2, .evaluate 2]

theorem admissible : Admissible tasks (initial .inMemory) where
  once := by decide
  stored := by decide +kernel
  reliable := ⟨rfl, fun _ _ => rfl, fun _ => rfl⟩
  apart := by
    refine .of_memory (m := Object.Memory.empty.put source message) rfl fun id source' htask => ?_
    obtain ⟨rfl, rfl⟩ : id = 1 ∧ source' = source := by simpa [tasks, decoding] using htask
    exact Object.ne_key_attachmentAt (by decide) _

def answer? (left : Pool) (task : Task) : Option (Except Error (List RuleId)) :=
  match left task with
  | .done answer => some answer
  | .step .. => none

theorem answer?_eq_some {left : Pool} {task : Task} {answer : Except Error (List RuleId)} :
    answer? left task = some answer ↔ left task = .done answer := by
  unfold answer?
  cases left task <;> simp

def expected : Pool × State → Bool := fun (left, after) =>
  tasks.map (answer? left) = [some (.ok []), some (.ok []), some (.ok [1])] ∧
    after.database.tables.emails.rows.map (fun row => (row.hasAttachments, row.isStarred)) =
      [(true, false), (false, true)] ∧
    after.database.tables.attachments.rows.map (·.email) = [1]

theorem runs : ((Pool.start times tasks).play (initial .inMemory) schedule).any expected = true := by
  decide +kernel

end Pool.Sample

open Pool.Sample in
/-- Only the second email has no attachments when it is evaluated, so the rule matches once. -/
theorem Pool.play_inTurn_sample : ∃ left, ∃ answers : Task → Except Error (List RuleId), ∃ after,
    (Pool.start times tasks).play (initial .inMemory) schedule = some (left, after) ∧
      (∀ task ∈ tasks, left task = .done (answers task)) ∧
      (∀ id, SameMail id after.database
        (performAll times (inTurn (decodedFirst schedule id) tasks id)
          (initial .inMemory)).database) ∧
      after.database.tables.emails.rows.map (fun row => (row.hasAttachments, row.isStarred)) =
        [(true, false), (false, true)] ∧
      (after.database.tables.rules.get? 1).map (·.matchCount) = some 5 := by
  obtain ⟨⟨left, after⟩, hplay, hexpected⟩ := (Option.any_eq_true _ _).mp runs
  obtain ⟨hanswers, hrows, -⟩ := of_decide_eq_true hexpected
  simp only [tasks, List.map_cons, List.map_nil, List.cons.injEq, and_true] at hanswers
  obtain ⟨hdecoding, hfirst, hsecond⟩ := hanswers
  let answers (task : Task) := (answer? left task).getD (.ok [])
  have hdone : ∀ task ∈ tasks, left task = .done (answers task) := by
    simp only [tasks, List.forall_mem_cons, answers, ← answer?_eq_some, hdecoding, hfirst, hsecond]
    simp
  obtain ⟨hmail, hrules, -⟩ := play_inTurn admissible hplay hdone
  have hmatches : matchesIn tasks answers 1 = 1 := by
    simp [matchesIn, tasks, answers, hdecoding, hfirst, hsecond, Except.toOption]
  obtain ⟨last, hcounted, -⟩ := hrules 1
  refine ⟨left, answers, after, hplay, hdone, hmail, hrows, ?_⟩
  rw [hcounted, hmatches]
  rfl

/-- Tasks that could run beside each other if it were enough that the database does not fail and that
no decoding asks for the key of an attachment. -/
structure AdmissibleByKey (tasks : List Task) (start : State) : Prop where
  once : OncePerEmail tasks
  stored : ∀ task ∈ tasks, (start.database.tables.emails.get? task.email).isSome = true
  isOpen : start.database.closed = false
  statements : ∀ n write, start.database.refuses n write = false
  keys : ∀ id source, .decode id source ∈ tasks → ∀ (email : EmailId) (name : String),
    source.key ≠ s!"attachments/{email}/{name}"

/-- Whether a schedule ends with an email that is not as if only its own tasks had run in turn. -/
def Pool.OutOfTurn [PatternEngine] (times : EmailId → RuleId → Instant) (tasks : List Task)
    (start : State) (schedule : List Task) (id : EmailId) : Prop :=
  ∃ left, ∃ answers : Task → Except Error (List RuleId), ∃ after,
    (Pool.start times tasks).play start schedule = some (left, after) ∧
      (∀ task ∈ tasks, left task = .done (answers task)) ∧
      ¬ SameMail id after.database
        (performAll times (inTurn (decodedFirst schedule id) tasks id) start).database

namespace Pool.Sample

/-- A decoding of the attachment that the first one files. The name of the container and the key
spell the path of the file in another way. -/
def reading : Task :=
  .decode 2 ⟨"box/attachments", "1/25f140a6575bf25c1d2bd68cb936953bc7c656b948ed77988b7a522828d56286"⟩

def aliased : List Task := [decoding, decoding, decoding, decoding, reading, reading]

def again : Task := .decode 2 source

def repeated : List Task := [decoding, decoding, decoding, decoding, again, again, again, again]

def refusing : Object.Store := { Object.Store.inMemory with refuses := fun n => n == 1 }

theorem admissibleByKey {objects : Object.Store} {other : Location}
    (h : ¬ "attachments/".toList <+: other.key.toList) :
    AdmissibleByKey [decoding, .decode 2 other] (initial objects) where
  once := show [(true, (1 : EmailId)), (true, 2)].Nodup by decide
  stored := by
    intro task htask
    simp only [List.mem_cons, List.not_mem_nil, or_false] at htask
    rcases htask with rfl | rfl <;> rfl
  isOpen := rfl
  statements _ _ := rfl
  keys := by
    intro id source' htask email name
    have hkey : ¬ "attachments/".toList <+: source'.key.toList := by
      simp only [decoding, List.mem_cons, Task.decode.injEq, List.not_mem_nil, or_false] at htask
      rcases htask with ⟨-, rfl⟩ | ⟨-, rfl⟩
      · decide
      · exact h
    exact Object.ne_key_attachmentAt hkey source'.container email name

theorem outOfTurn_of_view [PatternEngine] {β : Type} [DecidableEq β] {tasks : List Task}
    {start : State} {schedule : List Task} {id : EmailId} (view : Database → β)
    (hview : ∀ a b, SameMail id a b → view a = view b)
    (hrun : ((Pool.start times tasks).play start schedule).any (fun (left, after) =>
      tasks.all (fun task => (answer? left task).isSome) && view after.database ≠
        view (performAll times (inTurn (decodedFirst schedule id) tasks id) start).database) =
      true) :
    OutOfTurn times tasks start schedule id := by
  obtain ⟨⟨left, after⟩, hplay, hend⟩ := (Option.any_eq_true _ _).mp hrun
  obtain ⟨hdone, hne⟩ := Bool.and_eq_true_iff.mp hend
  refine ⟨left, fun task => (answer? left task).getD (.ok []), after, hplay, fun task htask => ?_,
    fun hsame => of_decide_eq_true hne (hview _ _ hsame)⟩
  obtain ⟨answer, hanswer⟩ := Option.isSome_iff_exists.mp (List.all_eq_true.mp hdone task htask)
  exact answer?_eq_some.mp (by simp [hanswer])

theorem outOfTurn_aliased : OutOfTurn times [decoding, reading] (initial .inFiles) aliased 2 := by
  refine outOfTurn_of_view (fun db => (db.tables.emails.get? 2).map (·.size)) ?_ ?_
  · exact fun a b hsame => congrArg (Option.map (·.size)) hsame.row
  · decide +kernel

theorem outOfTurn_refused : OutOfTurn times [decoding, again] (initial refusing) repeated 2 := by
  refine outOfTurn_of_view (fun db =>
    ((db.attachmentsOf 2).map (·.map Attachment.data)).toOption.map (·.map (·.storage))) ?_ ?_
  · exact fun a b hsame => congrArg (fun x => x.toOption.map (·.map (·.storage))) hsame.attachments
  · decide +kernel

end Pool.Sample

open Pool.Sample in
/-- In a tree of files the container may hold a part of the path, so it is not enough that no
decoding asks for the key of an attachment. Nor is it enough that the database does not fail: a
store that refuses one write leaves it to the order which attachment is without its object. -/
theorem Pool.play_outOfTurn :
    (AdmissibleByKey [decoding, reading] (initial .inFiles) ∧ (initial .inFiles).Reliable ∧
      OutOfTurn times [decoding, reading] (initial .inFiles) aliased 2) ∧
    (AdmissibleByKey [decoding, again] (initial refusing) ∧
      OutOfTurn times [decoding, again] (initial refusing) repeated 2) :=
  ⟨⟨admissibleByKey (by decide), ⟨rfl, fun _ _ => rfl, fun _ => rfl⟩, outOfTurn_aliased⟩,
    admissibleByKey (by decide), outOfTurn_refused⟩

end Mailroom.Pipeline
