import Mailroom.Proofs.Filter.Written
import Mailroom.Proofs.Store.Rules
import Mailroom.Proofs.Store.Statement

/-!
# The ledger of rules

Whatever is done to the table of rules, what is read from it in the end is a list of the rules
that were created, each as it was written and with the matches that were recorded since. Rows that
cannot be read take up ids and nothing else.
-/

namespace Mailroom.Store

open Mailroom.Filter (Combinator Rule RuleId StoredRule)
open Mailroom.Mail
open Mailroom.Time (Instant)

-- ---------------------------------------------------------------------------
-- Rows of rules
-- ---------------------------------------------------------------------------

namespace RuleRow

def Unreadable (row : RuleRow) : Prop :=
  Combinator.ofName? row.logic = none ∨
    (∀ conditions, Json.read Filter.readConditions row.conditions ≠ .ok conditions) ∨
    ∀ actions, Json.read Filter.readActions row.actions ≠ .ok actions

theorem toOption_eq_none {ε α : Type} {answer : Except ε α} (h : ∀ a, answer ≠ .ok a) :
    answer.toOption = none := by
  cases answer with
  | error e => rfl
  | ok a => exact absurd rfl (h a)

theorem Unreadable.read? {row : RuleRow} (h : row.Unreadable) (id : RuleId) :
    row.read? id = none := by
  unfold RuleRow.read?
  rcases h with hlogic | hconditions | hactions
  · rw [hlogic]
    rfl
  · rw [toOption_eq_none hconditions]
    cases Combinator.ofName? row.logic <;> rfl
  · rw [toOption_eq_none hactions]
    cases Combinator.ofName? row.logic with
    | none => rfl
    | some combinator =>
      cases (Json.read Filter.readConditions row.conditions).toOption <;> rfl

theorem isVisible_of_read? {row : RuleRow} {id : RuleId} {r : StoredRule}
    (h : row.read? id = some r) (org : OrgId) (identity : IdentityId) :
    row.isVisible org identity = decide (r.rule.active = true ∧ r.rule.org = org ∧
      (r.rule.identity = none ∨ r.rule.identity = some identity)) := by
  simp only [RuleRow.read?, Option.bind_eq_bind, Option.bind_eq_some_iff, Option.pure_def,
    Option.some.injEq] at h
  obtain ⟨-, -, -, -, -, -, rfl⟩ := h
  rw [Bool.eq_iff_iff, isVisible_iff, decide_eq_true_iff]
  exact ⟨fun h => ⟨h.active, h.org, h.scope⟩, fun h => ⟨h.1, h.2.1, h.2.2⟩⟩

theorem read?_ofRule (id : RuleId) (rule : Rule) :
    (ofRule rule).read? id = some ⟨id, rule, 0, none⟩ := by
  simp only [RuleRow.read?, ofRule, Combinator.ofName?_name, Filter.read_conditions,
    Filter.read_actions]
  rfl

def tallied (row : RuleRow) (times : List Instant) : RuleRow :=
  times.foldl (fun row time => row.counted time) row

theorem tallied_append (row : RuleRow) (times later : List Instant) :
    row.tallied (times ++ later) = (row.tallied times).tallied later :=
  List.foldl_append

theorem read?_tallied (id : RuleId) (row : RuleRow) (times : List Instant) :
    (row.tallied times).read? id = (row.read? id).map fun r => { r with
      matchCount := row.matchCount + times.length
      lastMatched := readTime ((times.getLast?.map Instant.render).or row.lastMatched) } := by
  rw [tallied, foldl_counted, read?_with_matches]

theorem read?_tallied_ofRule (id : RuleId) (rule : Rule) (times : List Instant) :
    ((ofRule rule).tallied times).read? id = some ⟨id, rule, times.length,
      times.getLast?.bind fun time => Instant.parse time.render⟩ := by
  rw [read?_tallied, read?_ofRule]
  simp only [ofRule, readTime, Int.zero_add, Option.or_none, Option.bind_map, Option.map_some,
    Function.comp_def]

theorem Unreadable.tallied {row : RuleRow} (h : row.Unreadable) (times : List Instant)
    (id : RuleId) : (row.tallied times).read? id = none := by
  rw [read?_tallied, h.read?, Option.map_none]

end RuleRow

-- ---------------------------------------------------------------------------
-- Calls
-- ---------------------------------------------------------------------------

inductive RuleCall
  | create (rule : Rule)
  | insert (row : RuleRow)
  | recordMatch (id : RuleId) (time : Instant)

namespace RuleCall

def perform (db : Database) : RuleCall → Except Error Unit × Database
  | .create rule => ((db.createRule rule).1.map fun _ => (), (db.createRule rule).2)
  | .insert row => ((db.insertRuleRow row).1.map fun _ => (), (db.insertRuleRow row).2)
  | .recordMatch id time => db.recordMatch id time

def performAll (db : Database) (calls : List RuleCall) : Database :=
  calls.foldl (fun db call => (call.perform db).2) db

def created? : RuleCall → Option Rule
  | .create rule => some rule
  | .insert _ | .recordMatch _ _ => none

def row? : RuleCall → Option RuleRow
  | .create rule => some (.ofRule rule)
  | .insert row => some row
  | .recordMatch _ _ => none

def matchOf? (id : RuleId) : RuleCall → Option Instant
  | .recordMatch other time => if other = id then some time else none
  | .create _ | .insert _ => none

def recordedBy (call : RuleCall) (id : RuleId) (db : Database) : List Instant :=
  (if (call.perform db).1.isOk then call.matchOf? id else none).toList

def recorded (id : RuleId) (db : Database) : List RuleCall → List Instant
  | [] => []
  | call :: rest => call.recordedBy id db ++ recorded id (call.perform db).2 rest

/-- The rules that are created, each with the record of its matches since. -/
def ledger (db : Database) : List RuleCall → List StoredRule
  | [] => []
  | .create rule :: rest =>
    let (answer, after) := db.createRule rule
    (answer.toOption.map fun created =>
      let times := recorded created.id after rest
      { created with
        matchCount := times.length
        lastMatched := times.getLast?.bind fun time => Instant.parse time.render }).toList ++
      ledger after rest
  | call :: rest => ledger (call.perform db).2 rest

-- ---------------------------------------------------------------------------
-- One call
-- ---------------------------------------------------------------------------

section

variable {db : Database} (h : db.closed = false)

include h

theorem createRule_open (rule : Rule) : db.createRule rule =
    (.ok ⟨(db.tables.rules.insert (.ofRule rule)).1, rule, 0, none⟩,
      { db with tables :=
          { db.tables with rules := (db.tables.rules.insert (.ofRule rule)).2 } }) := by
  simp [Database.createRule, Database.change, h]

theorem insertRuleRow_open (row : RuleRow) : db.insertRuleRow row =
    (.ok (db.tables.rules.insert row).1,
      { db with tables := { db.tables with rules := (db.tables.rules.insert row).2 } }) := by
  simp [Database.insertRuleRow, Database.change, h]

theorem recordMatch_cases (id : RuleId) (time : Instant) :
    ((db.recordMatch id time).1 = .ok () ∧
      (db.recordMatch id time).2.tables.rules = db.tables.rules.modify id (·.counted time)) ∨
    ((db.recordMatch id time).1.isOk = false ∧
      (db.recordMatch id time).2.tables.rules = db.tables.rules) := by
  simp only [Database.recordMatch]
  split
  · cases hrefused : db.refuses db.writes .recordMatch with
    | true => exact .inr (by simp [Database.write, h, hrefused, Except.isOk, Except.toBool])
    | false => exact .inl (by simp [Database.write, Database.change, h, hrefused]; rfl)
  · exact .inl (by simp [Database.change, h]; rfl)

end

theorem perform_keeps (db : Database) (call : RuleCall) :
    (call.perform db).2.closed = db.closed ∧ (call.perform db).2.refuses = db.refuses := by
  cases call with
  | create rule =>
    simp only [perform, Database.createRule, Database.change]
    split <;> exact ⟨rfl, rfl⟩
  | insert row =>
    simp only [perform, Database.insertRuleRow, Database.change]
    split <;> exact ⟨rfl, rfl⟩
  | recordMatch id time =>
    simp only [perform, Database.recordMatch, Database.write, Database.change]
    repeat' split
    all_goals exact ⟨rfl, rfl⟩

def newEntry (call : RuleCall) (db : Database) : List (RuleId × RuleRow) :=
  (call.row?.map fun row => ((db.tables.rules.insert row).1, row)).toList

theorem entries_perform {db : Database} (h : db.closed = false) (call : RuleCall) :
    (call.perform db).2.tables.rules.entries =
      (db.tables.rules.entries.map fun e => (e.1, e.2.tallied (call.recordedBy e.1 db))) ++
        call.newEntry db := by
  have hkeep : db.tables.rules.entries.map (fun e => (e.1, e.2.tallied [])) =
      db.tables.rules.entries := List.map_id' _
  cases call with
  | create rule =>
    have hnone (id : RuleId) : (create rule).recordedBy id db = [] := by
      simp [recordedBy, matchOf?]
    simp only [hnone, hkeep, perform, createRule_open h, Table.entries_insert]
    rfl
  | insert row =>
    have hnone (id : RuleId) : (insert row).recordedBy id db = [] := by
      simp [recordedBy, matchOf?]
    simp only [hnone, hkeep, perform, insertRuleRow_open h, Table.entries_insert]
    rfl
  | recordMatch id time =>
    have hno : (recordMatch id time).newEntry db = [] := rfl
    rw [hno, List.append_nil, perform]
    rcases recordMatch_cases h id time with ⟨hok, hrules⟩ | ⟨hfail, hrules⟩
    · rw [hrules, Table.entries_modify]
      refine List.map_congr_left fun e _ => ?_
      by_cases he : e.1 = id
      · simp [recordedBy, matchOf?, perform, hok, he, Except.isOk, Except.toBool, RuleRow.tallied]
      · simp [recordedBy, matchOf?, perform, hok, he, Ne.symm he, RuleRow.tallied]
    · have hnone (other : RuleId) : (recordMatch id time).recordedBy other db = [] := by
        simp [recordedBy, perform, hfail]
      simp only [hnone, hkeep, hrules]

-- ---------------------------------------------------------------------------
-- Many calls
-- ---------------------------------------------------------------------------

def added (db : Database) : List RuleCall → List (RuleId × RuleRow)
  | [] => []
  | call :: rest =>
    let after := (call.perform db).2
    ((call.newEntry db).map fun e => (e.1, e.2.tallied (recorded e.1 after rest))) ++
      added after rest

theorem performAll_append (db : Database) (calls later : List RuleCall) :
    performAll db (calls ++ later) = performAll (performAll db calls) later :=
  List.foldl_append

theorem performAll_keeps (db : Database) (calls : List RuleCall) :
    (performAll db calls).closed = db.closed ∧ (performAll db calls).refuses = db.refuses := by
  induction calls generalizing db with
  | nil => exact ⟨rfl, rfl⟩
  | cons call rest ih =>
    obtain ⟨hclosed, hrefuses⟩ := perform_keeps db call
    obtain ⟨hclosed', hrefuses'⟩ := ih (call.perform db).2
    exact ⟨hclosed'.trans hclosed, hrefuses'.trans hrefuses⟩

theorem closed_performAll {db : Database} (h : db.closed = false) (calls : List RuleCall) :
    (performAll db calls).closed = false :=
  (performAll_keeps db calls).1.trans h

theorem entries_performAll {db : Database} (h : db.closed = false) (calls : List RuleCall) :
    (performAll db calls).tables.rules.entries =
      (db.tables.rules.entries.map fun e => (e.1, e.2.tallied (recorded e.1 db calls))) ++
        added db calls := by
  induction calls generalizing db with
  | nil => simp [performAll, recorded, added, RuleRow.tallied]
  | cons call rest ih =>
    have hlater := ih ((perform_keeps db call).1.trans h)
    rw [entries_perform h, List.map_append, List.map_map] at hlater
    rw [show performAll db (call :: rest) = performAll (call.perform db).2 rest from rfl, hlater,
      added, List.append_assoc]
    simp only [recorded, RuleRow.tallied_append]
    rfl

theorem filterMap_added {db : Database} (h : db.closed = false) {calls : List RuleCall}
    (hrows : ∀ row, .insert row ∈ calls → row.Unreadable) :
    (added db calls).filterMap (fun e => e.2.read? e.1) = ledger db calls := by
  induction calls generalizing db with
  | nil => rfl
  | cons call rest ih =>
    have hlater := ih ((perform_keeps db call).1.trans h)
      fun row hrow => hrows row (List.mem_cons_of_mem call hrow)
    rw [added, List.filterMap_append, hlater]
    cases call with
    | create rule =>
      simp only [ledger, newEntry, row?, perform, createRule_open h]
      simp [RuleRow.read?_tallied_ofRule, Except.toOption]
    | insert row =>
      have hrow : row.Unreadable := hrows row List.mem_cons_self
      simp [ledger, newEntry, row?, hrow.tallied]
    | recordMatch id time => rfl

theorem map_rule_ledger {db : Database} (h : db.closed = false) (calls : List RuleCall) :
    (ledger db calls).map StoredRule.rule = calls.filterMap created? := by
  induction calls generalizing db with
  | nil => rfl
  | cons call rest ih =>
    have hlater := ih ((perform_keeps db call).1.trans h)
    cases call with
    | create rule =>
      simp only [perform, createRule_open h] at hlater
      simp [ledger, createRule_open h, Except.toOption, created?, hlater]
    | insert row => exact hlater
    | recordMatch id time => exact hlater

theorem recorded_eq_filterMap {db : Database} (h : db.closed = false)
    (hpasses : ∀ n, db.refuses n .recordMatch = false) (id : RuleId) (calls : List RuleCall) :
    recorded id db calls = calls.filterMap (matchOf? id) := by
  induction calls generalizing db with
  | nil => rfl
  | cons call rest ih =>
    have hlater := ih ((perform_keeps db call).1.trans h) (by rwa [(perform_keeps db call).2])
    have hnow : call.recordedBy id db = (call.matchOf? id).toList := by
      cases call with
      | create rule => simp [recordedBy, matchOf?]
      | insert row => simp [recordedBy, matchOf?]
      | recordMatch other time =>
        have hok : (db.recordMatch other time).1.isOk = true := by
          simp only [Database.recordMatch]
          split <;> simp [Database.write, Database.change, h, hpasses, Except.isOk, Except.toBool]
        simp [recordedBy, perform, hok]
    rw [recorded, hlater, hnow, List.filterMap_cons]
    cases call.matchOf? id <;> rfl

end RuleCall

-- ---------------------------------------------------------------------------
-- What is read in the end
-- ---------------------------------------------------------------------------

def Tables.readable (tables : Tables) : List StoredRule :=
  tables.rules.entries.filterMap fun e => e.2.read? e.1

theorem Tables.mem_readable {tables : Tables} {r : StoredRule} :
    r ∈ tables.readable ↔ (tables.rules.get? r.id).bind (RuleRow.read? r.id) = some r := by
  rw [readable, List.mem_filterMap, Option.bind_eq_some_iff]
  constructor
  · rintro ⟨e, he, hread⟩
    have hid := (RuleRow.read?_eq_some hread).1
    exact ⟨e.2, hid ▸ Table.mem_entries.mp he, hid ▸ hread⟩
  · rintro ⟨row, hget, hread⟩
    exact ⟨(r.id, row), Table.mem_entries.mpr hget, hread⟩

theorem Tables.pairwise_readable (tables : Tables) :
    tables.readable.Pairwise fun a b => a.id < b.id := by
  refine tables.rules.pairwise_entries.filterMap _ ?_
  rintro a b hab r hr r' hr'
  rwa [(RuleRow.read?_eq_some hr).1, (RuleRow.read?_eq_some hr').1]

theorem Database.perm_rulesFor {db : Database} (h : db.closed = false) (org : OrgId)
    (identity : IdentityId) : ∃ rules, db.rulesFor org identity = .ok rules ∧
      rules.Perm (db.tables.readable.filter fun r => r.rule.active = true ∧ r.rule.org = org ∧
        (r.rule.identity = none ∨ r.rule.identity = some identity)) ∧
      rules.Pairwise Precedes := by
  obtain ⟨rules, hrules, -, hsorted⟩ := db.rulesFor_spec h org identity
  refine ⟨rules, hrules, ?_, hsorted⟩
  rw [db.rulesFor_eq h] at hrules
  obtain rfl := Except.ok.inj hrules
  refine ((List.mergeSort_perm _ _).filterMap _).trans (.of_eq ?_)
  rw [Tables.readable, List.filterMap_filter, List.filter_filterMap]
  congr 1
  funext e
  cases hread : e.2.read? e.1 with
  | none => split <;> rfl
  | some r => simp [RuleRow.isVisible_of_read? hread, Option.filter]

namespace RuleCall

theorem get?_performAll {db : Database} (h : db.closed = false) {id : RuleId} {row : RuleRow}
    (hrow : db.tables.rules.get? id = some row) (calls : List RuleCall) :
    (performAll db calls).tables.rules.get? id = some (row.tallied (recorded id db calls)) := by
  have hold : (id, row) ∈ db.tables.rules.entries := Table.mem_entries.mpr hrow
  have hnew : (id, row.tallied (recorded id db calls)) ∈
      (performAll db calls).tables.rules.entries := by
    rw [entries_performAll h]
    exact List.mem_append_left _ (List.mem_map.mpr ⟨_, hold, rfl⟩)
  exact Table.mem_entries.mp hnew

theorem getRule_created {db : Database} (h : db.closed = false) (before later : List RuleCall)
    (rule : Rule) : ∃ id,
      ((performAll db before).createRule rule).1 = .ok ⟨id, rule, 0, none⟩ ∧
      (performAll db (before ++ .create rule :: later)).getRule id =
        let times := recorded id (performAll db (before ++ [.create rule])) later
        .ok (some ⟨id, rule, times.length,
          times.getLast?.bind fun time => Instant.parse time.render⟩) := by
  have hopen : (performAll db before).closed = false := closed_performAll h before
  have hcreate := createRule_open hopen rule
  refine ⟨_, congrArg Prod.fst hcreate, ?_⟩
  rw [List.append_cons, performAll_append]
  have hmid : performAll db (before ++ [.create rule]) =
      ((performAll db before).createRule rule).2 := performAll_append ..
  have hafter := closed_performAll (closed_performAll h (before ++ [.create rule])) later
  have hrow := get?_performAll (closed_performAll h _)
    (by rw [hmid, hcreate]; exact Table.get?_insert_self _ _) later
  simp only [Database.getRule, Database.select, hafter, hrow, Option.bind_some,
    RuleRow.read?_tallied_ofRule]
  rfl

/-- Each rule that was created is got as it was, with the matches that were recorded since. No
other rule is got, and those in use come by falling priority and then in the order of their
creation. -/
theorem answers_ledger {db : Database} {calls : List RuleCall} (hopen : db.closed = false)
    (hempty : db.tables.rules = .empty) (hrows : ∀ row, .insert row ∈ calls → row.Unreadable) :
    (∀ before rule later, calls = before ++ .create rule :: later → ∃ id,
      ((performAll db before).createRule rule).1 = .ok ⟨id, rule, 0, none⟩ ∧
      let times := recorded id (performAll db (before ++ [.create rule])) later
      (performAll db calls).getRule id = .ok (some ⟨id, rule, times.length,
        times.getLast?.bind fun time => Instant.parse time.render⟩) ∧
      ((∀ n, db.refuses n .recordMatch = false) → times = later.filterMap (matchOf? id))) ∧
    (ledger db calls).map StoredRule.rule = calls.filterMap created? ∧
    (ledger db calls).Pairwise (fun a b => a.id < b.id) ∧
    (∀ r, r ∈ ledger db calls ↔ (performAll db calls).getRule r.id = .ok (some r)) ∧
    ∀ org identity, ∃ rules, (performAll db calls).rulesFor org identity = .ok rules ∧
      rules.Perm ((ledger db calls).filter fun r => r.rule.active = true ∧ r.rule.org = org ∧
        (r.rule.identity = none ∨ r.rule.identity = some identity)) ∧
      rules.Pairwise Precedes := by
  have hafter : (performAll db calls).closed = false := closed_performAll hopen calls
  have hledger : (performAll db calls).tables.readable = ledger db calls := by
    rw [Tables.readable, entries_performAll hopen, hempty]
    exact filterMap_added hopen hrows
  refine ⟨?_, map_rule_ledger hopen calls, ?_, fun r => ?_, fun org identity => ?_⟩
  · rintro before rule later rfl
    obtain ⟨id, hcreated, hget⟩ := getRule_created hopen before later rule
    refine ⟨id, hcreated, hget, fun hpasses => recorded_eq_filterMap ?_ ?_ id later⟩
    · exact closed_performAll hopen _
    · rwa [(performAll_keeps db _).2]
  · rw [← hledger]
    exact Tables.pairwise_readable _
  · rw [← hledger, Tables.mem_readable]
    simp [Database.getRule, Database.select, hafter]
  · rw [← hledger]
    exact Database.perm_rulesFor hafter org identity

namespace Sample

def rule (org : OrgId) (identity : Option IdentityId) (priority : Int) : Rule where
  org
  identity
  name := "\"a\\b\"\n"
  priority
  combinator := .any
  conditions := [⟨.other, .pattern, "\"\\\x01é🐦"⟩, ⟨.subject, .other, ""⟩]
  actions := [⟨.moveToFolder, some "\t]\x7d"⟩, ⟨.other, none⟩]
  active := true

def unreadable : RuleRow := { RuleRow.ofRule (rule 7 none 100) with logic := "xor" }

/-- Three rules of one organization and one of another, with a row between them that cannot be
read. -/
def calls : List RuleCall :=
  [.recordMatch 1 .epoch, .create (rule 7 none (-1)), .insert unreadable, .recordMatch 1 .epoch,
    .create (rule 8 none 5), .create (rule 7 (some 3) 2), .recordMatch 2 .epoch,
    .create (rule 7 none (-1)), .recordMatch 4 .epoch, .recordMatch 1 .epoch]

theorem ledger_calls : ledger .empty calls =
    [⟨1, rule 7 none (-1), 2, some .epoch⟩, ⟨3, rule 8 none 5, 0, none⟩,
      ⟨4, rule 7 (some 3) 2, 1, some .epoch⟩, ⟨5, rule 7 none (-1), 0, none⟩] := by decide +kernel

end Sample

open Sample in
theorem answers_ledger_sample :
    (performAll .empty calls).getRule 1 = .ok (some ⟨1, rule 7 none (-1), 2, some .epoch⟩) ∧
    (performAll .empty calls).rulesFor 7 3 = .ok [⟨4, rule 7 (some 3) 2, 1, some .epoch⟩,
      ⟨1, rule 7 none (-1), 2, some .epoch⟩, ⟨5, rule 7 none (-1), 0, none⟩] := by
  have hrows : ∀ row, .insert row ∈ calls → row.Unreadable := by
    simp only [calls, List.mem_cons, reduceCtorEq, List.not_mem_nil, insert.injEq, false_or,
      or_false, forall_eq]
    exact .inl rfl
  have hopen : Database.empty.closed = false := rfl
  obtain ⟨-, -, -, hget, hfor⟩ := answers_ledger hopen rfl hrows
  obtain ⟨rules, hrules, hperm, hsorted⟩ := hfor 7 3
  rw [ledger_calls] at hget hperm
  refine ⟨(hget ⟨1, rule 7 none (-1), 2, some .epoch⟩).mp List.mem_cons_self, ?_⟩
  rw [hrules]
  refine congrArg Except.ok (List.Perm.eq_of_pairwise (fun a b _ _ hab hba => ?_) hsorted ?_
    (hperm.trans (.swap _ _ _)))
  · exact absurd hba hab.asymm
  · decide +kernel

end RuleCall

end Mailroom.Store
