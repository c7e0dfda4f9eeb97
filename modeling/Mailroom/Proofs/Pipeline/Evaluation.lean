import Mailroom.Pattern.Engine
import Mailroom.Pipeline.Evaluation
import Mailroom.Proofs.Filter.Matching
import Mailroom.Proofs.Pipeline.Work
import Mailroom.Proofs.Store.Rules
import Mailroom.Proofs.Store.Statement

/-!
# What evaluation leaves behind

Evaluation issues its statements one after the other: for each rule an update for each action
that changes something, and then the record of the match. Which of them succeed is up to the
fault plan, and the tables are changed by exactly those. Conditions only ever see the email as
it was loaded.
-/

namespace Mailroom.Pipeline.Evaluation

open Mailroom.Filter (Action PatternEngine Rule RuleId StoredRule)
open Mailroom.Mail
open Mailroom.Store
open Mailroom.Time (Instant)

-- ---------------------------------------------------------------------------
-- Statements
-- ---------------------------------------------------------------------------

/-- One statement of an evaluation. -/
inductive Statement
  | update (change : Change)
  | recordMatch (rule : RuleId) (time : Instant)
  deriving DecidableEq, Repr

namespace Statement

def write : Statement → Write
  | .update c => .updateEmail (c.assignments.map Assignment.column)
  | .recordMatch .. => .recordMatch

def effect (id : EmailId) (tables : Tables) : Statement → Tables
  | .update c => { tables with emails := tables.emails.modify id (·.change c) }
  | .recordMatch rule time => { tables with rules := tables.rules.modify rule (·.counted time) }

def applyTo (e : Email) : Statement → Email
  | .update c => c.apply e
  | .recordMatch .. => e

def issue (id : EmailId) (db : Database) (statement : Statement) : Database :=
  db.issue statement.write (statement.effect id)

end Statement

def updatesOf (time : Instant) (action : Action) : List Statement :=
  ((action.change? time).map Statement.update).toList

/-- The statements for a rule: its actions in their order, then the record of the match. -/
def statementsOf (times : RuleId → Instant) (rule : StoredRule) : List Statement :=
  rule.rule.actions.flatMap (updatesOf (times rule.id)) ++ [.recordMatch rule.id (times rule.id)]

/-- The updates that actions ask for, in their order. -/
inductive Updates (time : Instant) : List Action → List Statement → Prop
  | nil : Updates time [] []
  | asks {action : Action} {c : Change} {actions : List Action} {updates : List Statement}
      (h : action.Asks time c) (rest : Updates time actions updates) :
      Updates time (action :: actions) (.update c :: updates)
  | passes {action : Action} {actions : List Action} {updates : List Statement}
      (h : ∀ c, ¬ action.Asks time c) (rest : Updates time actions updates) :
      Updates time (action :: actions) updates

/-- The statements for rules: for each the updates that its actions ask for, and then the record of
the match. -/
inductive Issues (times : RuleId → Instant) : List StoredRule → List Statement → Prop
  | nil : Issues times [] []
  | cons {rule : StoredRule} {rules : List StoredRule} {updates statements : List Statement}
      (h : Updates (times rule.id) rule.rule.actions updates) (rest : Issues times rules statements) :
      Issues times (rule :: rules)
        (updates ++ .recordMatch rule.id (times rule.id) :: statements)

theorem updatesOf_asks {time : Instant} {action : Action} {c : Change} (h : action.Asks time c) :
    updatesOf time action = [.update c] := by
  rw [updatesOf, Action.change?_eq_some_iff.mpr h]
  rfl

theorem updatesOf_passes {time : Instant} {action : Action} (h : ∀ c, ¬ action.Asks time c) :
    updatesOf time action = [] := by
  have hnone : action.change? time = none :=
    Option.eq_none_iff_forall_ne_some.mpr fun c hc => h c (Action.change?_eq_some_iff.mp hc)
  rw [updatesOf, hnone]
  rfl

theorem mem_updatesOf {time : Instant} {action : Action} {statement : Statement} :
    statement ∈ updatesOf time action ↔ ∃ c, action.Asks time c ∧ statement = .update c := by
  simp only [updatesOf, Option.mem_toList, Option.map_eq_some_iff, Action.change?_eq_some_iff,
    @eq_comm _ statement]

theorem mem_statementsOf {times : RuleId → Instant} {rule : StoredRule} {statement : Statement} :
    statement ∈ statementsOf times rule ↔
      (∃ action ∈ rule.rule.actions, ∃ c, action.Asks (times rule.id) c ∧ statement = .update c) ∨
        statement = .recordMatch rule.id (times rule.id) := by
  simp only [statementsOf, List.mem_append, List.mem_flatMap, mem_updatesOf, List.mem_singleton]

theorem updates_iff {time : Instant} {actions : List Action} {updates : List Statement} :
    Updates time actions updates ↔ updates = actions.flatMap (updatesOf time) := by
  constructor
  · intro h
    induction h with
    | nil => rfl
    | asks h _ ih => rw [List.flatMap_cons, updatesOf_asks h, ih, List.singleton_append]
    | passes h _ ih => rw [List.flatMap_cons, updatesOf_passes h, ih, List.nil_append]
  · rintro rfl
    induction actions with
    | nil => exact .nil
    | cons action actions ih =>
      by_cases h : ∃ c, action.Asks time c
      · obtain ⟨c, h⟩ := h
        rw [List.flatMap_cons, updatesOf_asks h]
        exact .asks h ih
      · have h : ∀ c, ¬ action.Asks time c := not_exists.mp h
        rw [List.flatMap_cons, updatesOf_passes h]
        exact .passes h ih

theorem issues_iff {times : RuleId → Instant} {rules : List StoredRule}
    {statements : List Statement} :
    Issues times rules statements ↔ statements = rules.flatMap (statementsOf times) := by
  constructor
  · intro h
    induction h with
    | nil => rfl
    | cons h _ ih =>
      rw [List.flatMap_cons, statementsOf, ← updates_iff.mp h, ih, List.append_assoc,
        List.singleton_append]
  · rintro rfl
    induction rules with
    | nil => exact .nil
    | cons rule rules ih =>
      rw [List.flatMap_cons, statementsOf, List.append_assoc, List.singleton_append]
      exact .cons (updates_iff.mpr rfl) ih

/-- The statements that the fault plan lets pass, when the first is the write of number `n`. -/
def accepted (refuses : Nat → Write → Bool) (n : Nat) : List Statement → List Statement
  | [] => []
  | statement :: rest =>
    if refuses n statement.write then accepted refuses (n + 1) rest
    else statement :: accepted refuses (n + 1) rest

theorem accepted_sublist (refuses : Nat → Write → Bool) (n : Nat) (statements : List Statement) :
    (accepted refuses n statements).Sublist statements := by
  induction statements generalizing n with
  | nil => exact .slnil
  | cons statement rest ih =>
    unfold accepted
    split
    · exact (ih (n + 1)).cons _
    · exact (ih (n + 1)).cons_cons _

theorem foldl_issue (id : EmailId) (statements : List Statement) (db : Database) :
    statements.foldl (Statement.issue id) db =
      { db with
        writes := db.writes + statements.length
        tables := (accepted db.refuses db.writes statements).foldl (Statement.effect id)
          db.tables } := by
  induction statements generalizing db with
  | nil => rfl
  | cons statement rest ih =>
    rw [List.foldl_cons, ih]
    simp only [Statement.issue, Database.issue, accepted, List.length_cons]
    have hcount : db.writes + 1 + rest.length = db.writes + (rest.length + 1) := by omega
    cases db.refuses db.writes statement.write <;> simp [hcount]

-- ---------------------------------------------------------------------------
-- Work and its statements
-- ---------------------------------------------------------------------------

structure Ready (id : EmailId) (rules : List RuleId) (db : Database) : Prop where
  isOpen : db.closed = false
  email : (db.tables.emails.get? id).isSome = true
  rule : ∀ r ∈ rules, (db.tables.rules.get? r).isSome = true

theorem Ready.issue {id : EmailId} {rules : List RuleId} {db : Database} (h : Ready id rules db)
    (statement : Statement) : Ready id rules (statement.issue id db) := by
  refine ⟨h.isOpen, ?_, fun r hr => ?_⟩
  · have he := h.email
    simp only [Statement.issue, Database.issue]
    split
    · exact he
    · cases statement <;> simpa [Statement.effect, Table.isSome_get?_modify] using he
  · have he := h.rule r hr
    simp only [Statement.issue, Database.issue]
    split
    · exact he
    · cases statement <;> simpa [Statement.effect, Table.isSome_get?_modify] using he

theorem Ready.foldl_issue {id : EmailId} {rules : List RuleId} (statements : List Statement)
    {db : Database} (h : Ready id rules db) :
    Ready id rules (statements.foldl (Statement.issue id) db) := by
  induction statements generalizing db with
  | nil => exact h
  | cons statement rest ih => exact ih (h.issue statement)

def afterAll (id : EmailId) (s : State) (statements : List Statement) : State :=
  { s with database := statements.foldl (Statement.issue id) s.database }

theorem foldl_afterAll {α : Type} (id : EmailId) (f : α → List Statement) (xs : List α)
    (s : State) : xs.foldl (fun s x => afterAll id s (f x)) s = afterAll id s (xs.flatMap f) := by
  induction xs generalizing s with
  | nil => rfl
  | cons x xs ih =>
    rw [List.foldl_cons, ih]
    simp [afterAll]

theorem perform_applyAction {id : EmailId} {rules : List RuleId} {s : State}
    (h : Ready id rules s.database) (time : Instant) (action : Action) :
    (applyAction id time action).perform s = (.ok (), afterAll id s (updatesOf time action)) := by
  unfold applyAction updatesOf
  cases action.change? time with
  | none => rfl
  | some c =>
    simp only [Work.perform_orSkip, Work.perform_change]
    rw [Database.applyUpdate_single h.isOpen h.email]
    rfl

theorem perform_applyRule {id : EmailId} {rules : List RuleId} {s : State}
    (h : Ready id rules s.database) (times : RuleId → Instant) {rule : StoredRule}
    (hr : rule.id ∈ rules) : (applyRule id (times rule.id) rule).perform s =
      (.ok (), afterAll id s (statementsOf times rule)) := by
  have hactions := Work.perform_forM
    (fun s action => afterAll id s (updatesOf (times rule.id) action))
    (fun s => Ready id rules s.database)
    (fun action (_ : action ∈ rule.rule.actions) s hs => perform_applyAction hs (times rule.id) action)
    (fun action _ s hs => hs.foldl_issue (updatesOf (times rule.id) action)) h
  have hready := h.foldl_issue (rule.rule.actions.flatMap (updatesOf (times rule.id)))
  rw [foldl_afterAll] at hactions
  unfold applyRule
  rw [Work.perform_bind_ok _ hactions]
  simp only [Work.perform_orSkip, Work.perform_change, afterAll]
  rw [Database.recordMatch_issue hready.isOpen (hready.rule _ hr), statementsOf,
    List.foldl_append]
  rfl

-- ---------------------------------------------------------------------------
-- The email
-- ---------------------------------------------------------------------------

/-- Two rows of mail that differ at most in what rules decide. -/
def SameBut (before after : EmailRow) : Prop :=
  after = { before with
    folder := after.folder
    isStarred := after.isStarred
    isRead := after.isRead
    readAt := after.readAt
    isArchived := after.isArchived
    isTrashed := after.isTrashed
    trashedAt := after.trashedAt }

theorem SameBut.trans {a b c : EmailRow} (hab : SameBut a b) (hbc : SameBut b c) :
    SameBut a c := by
  unfold SameBut at *
  rw [hbc, hab]

/-- A statement that only concerns what rules decide, with values that can be stored. -/
def Statement.Proper : Statement → Prop
  | .update c => c.Storable ∧ ∀ row : EmailRow, SameBut row (row.change c)
  | .recordMatch .. => True

theorem proper_of_asks {time : Instant} {action : Action} {c : Change} (h : action.Asks time c) :
    (Statement.update c).Proper := by
  cases h with
  | move => exact ⟨congrArg Folder.ofName (Folder.name_ofName _), fun row => rfl⟩
  | star | markRead | archive | trash => exact ⟨trivial, fun row => rfl⟩

theorem proper_statementsOf {times : RuleId → Instant} {rule : StoredRule} :
    ∀ statement ∈ statementsOf times rule, statement.Proper := by
  intro statement hs
  obtain ⟨action, -, c, hasks, rfl⟩ | rfl := mem_statementsOf.mp hs
  · exact proper_of_asks hasks
  · trivial

/-- What the tables hold of the email: a row that reads as `e` and is that of the load but for
what rules decide. -/
def Holds (id : EmailId) (loaded : EmailRow) (tables : Tables) (e : Email) : Prop :=
  ∃ row, tables.emails.get? id = some row ∧ row.read id = .ok e ∧ SameBut loaded row

theorem Holds.effect {id : EmailId} {loaded : EmailRow} {tables : Tables} {e : Email}
    {statement : Statement} (h : Holds id loaded tables e) (hs : statement.Proper) :
    Holds id loaded (statement.effect id tables) (statement.applyTo e) := by
  obtain ⟨row, hrow, hread, hsame⟩ := h
  cases statement with
  | update c =>
    obtain ⟨hstorable, hsameBut⟩ := hs
    refine ⟨row.change c, ?_, EmailRow.read_change hread hstorable, hsame.trans (hsameBut row)⟩
    simp [Statement.effect, Table.get?_modify_self, hrow]
  | recordMatch => exact ⟨row, hrow, hread, hsame⟩

theorem Holds.foldl {id : EmailId} {loaded : EmailRow} {statements : List Statement}
    (hs : ∀ statement ∈ statements, statement.Proper) {tables : Tables} {e : Email}
    (h : Holds id loaded tables e) :
    Holds id loaded (statements.foldl (Statement.effect id) tables)
      (statements.foldl Statement.applyTo e) := by
  induction statements generalizing tables e with
  | nil => exact h
  | cons statement rest ih =>
    exact ih (fun t ht => hs t (List.mem_cons_of_mem _ ht)) (h.effect (hs _ List.mem_cons_self))

-- ---------------------------------------------------------------------------
-- The rules, and all else
-- ---------------------------------------------------------------------------

def matchesOf (statements : List Statement) : List RuleId :=
  statements.filterMap fun
    | .update _ => none
    | .recordMatch rule _ => some rule

theorem foldl_effect_rules {id : EmailId} {times : RuleId → Instant}
    {statements : List Statement} (hn : (matchesOf statements).Nodup)
    (ht : ∀ rule time, .recordMatch rule time ∈ statements → time = times rule)
    (tables : Tables) (rule : RuleId) :
    ((statements.foldl (Statement.effect id) tables).rules.get? rule) =
      (tables.rules.get? rule).map fun row =>
        if rule ∈ matchesOf statements then row.counted (times rule) else row := by
  induction statements generalizing tables with
  | nil => simp [matchesOf]
  | cons statement rest ih =>
    have ht' := fun rule time h => ht rule time (List.mem_cons_of_mem statement h)
    rw [List.foldl_cons]
    cases statement with
    | update c => exact ih hn ht' _
    | recordMatch r time =>
      obtain ⟨hr, hrest⟩ := List.nodup_cons.mp (show (r :: matchesOf rest).Nodup from hn)
      have htime := ht r time List.mem_cons_self
      have hmem : ∀ q, q ∈ matchesOf (.recordMatch r time :: rest) ↔ q = r ∨ q ∈ matchesOf rest :=
        fun q => List.mem_cons
      rw [ih hrest ht']
      simp only [Statement.effect, hmem]
      by_cases h : rule = r
      · subst h
        rw [Table.get?_modify_self]
        simp [hr, htime, Option.map_map, Function.comp_def]
      · rw [Table.get?_modify_of_ne _ _ h]
        simp [h]

theorem foldl_effect_frame (id : EmailId) (statements : List Statement) (tables : Tables) :
    let after := statements.foldl (Statement.effect id) tables
    (∀ other, other ≠ id → after.emails.get? other = tables.emails.get? other) ∧
      after.domains = tables.domains ∧ after.identities = tables.identities ∧
      after.attachments = tables.attachments := by
  induction statements generalizing tables with
  | nil => exact ⟨fun _ _ => rfl, rfl, rfl, rfl⟩
  | cons statement rest ih =>
    obtain ⟨hemails, hdomains, hidentities, hattachments⟩ := ih (statement.effect id tables)
    cases statement with
    | update c =>
      refine ⟨fun other h => (hemails other h).trans ?_, hdomains, hidentities, hattachments⟩
      exact Table.get?_modify_of_ne _ _ h
    | recordMatch => exact ⟨hemails, hdomains, hidentities, hattachments⟩

-- ---------------------------------------------------------------------------
-- Runs of statements
-- ---------------------------------------------------------------------------

/-- What a run of statements makes of the tables, if those in `done` succeeded: the email is
changed by them and in no other column, each rule of which a match was recorded is counted
once, and nothing else is changed. -/
structure Evaluated (id : EmailId) (e : Email) (times : RuleId → Instant) (done : List Statement)
    (before after : Tables) : Prop where
  email : ∃ loaded row, before.emails.get? id = some loaded ∧ after.emails.get? id = some row ∧
    row.read id = .ok (done.foldl Statement.applyTo e) ∧ SameBut loaded row
  emails : ∀ other, other ≠ id → after.emails.get? other = before.emails.get? other
  rules : ∀ rule, after.rules.get? rule = (before.rules.get? rule).map fun row =>
    if .recordMatch rule (times rule) ∈ done then row.counted (times rule) else row
  domains : after.domains = before.domains
  identities : after.identities = before.identities
  attachments : after.attachments = before.attachments

theorem matchesOf_append (a b : List Statement) : matchesOf (a ++ b) = matchesOf a ++ matchesOf b :=
  List.filterMap_append

theorem matchesOf_statementsOf (times : RuleId → Instant) (rule : StoredRule) :
    matchesOf (statementsOf times rule) = [rule.id] := by
  have hupdates : matchesOf (rule.rule.actions.flatMap (updatesOf (times rule.id))) = [] := by
    rw [matchesOf, List.filterMap_eq_nil_iff]
    intro statement hs
    obtain ⟨action, -, hs⟩ := List.mem_flatMap.mp hs
    obtain ⟨c, -, rfl⟩ := mem_updatesOf.mp hs
    rfl
  rw [statementsOf, matchesOf_append, hupdates]
  rfl

theorem matchesOf_flatMap (times : RuleId → Instant) (rules : List StoredRule) :
    matchesOf (rules.flatMap (statementsOf times)) = rules.map StoredRule.id := by
  induction rules with
  | nil => rfl
  | cons rule rules ih =>
    rw [List.flatMap_cons, matchesOf_append, matchesOf_statementsOf, ih]
    rfl

theorem time_of_mem_flatMap {times : RuleId → Instant} {rules : List StoredRule} {rule : RuleId}
    {time : Instant} (h : .recordMatch rule time ∈ rules.flatMap (statementsOf times)) :
    time = times rule := by
  obtain ⟨r, -, h⟩ := List.mem_flatMap.mp h
  obtain ⟨action, -, c, -, heq⟩ | heq := mem_statementsOf.mp h
  · cases heq
  · cases heq
    rfl

theorem mem_matchesOf {statements : List Statement} {rule : RuleId} :
    rule ∈ matchesOf statements ↔ ∃ time, .recordMatch rule time ∈ statements := by
  simp only [matchesOf, List.mem_filterMap]
  constructor
  · rintro ⟨statement, hs, heq⟩
    cases statement with
    | update => cases heq
    | recordMatch r time =>
      cases heq
      exact ⟨time, hs⟩
  · rintro ⟨time, hs⟩
    exact ⟨_, hs, rfl⟩

theorem evaluated_foldl {id : EmailId} {e : Email} {times : RuleId → Instant}
    {rules : List StoredRule} {tables : Tables} {loaded : EmailRow} {done : List Statement}
    (hn : (rules.map StoredRule.id).Nodup)
    (hd : done.Sublist (rules.flatMap (statementsOf times)))
    (hrow : tables.emails.get? id = some loaded) (hread : loaded.read id = .ok e) :
    Evaluated id e times done tables (done.foldl (Statement.effect id) tables) := by
  have hproper : ∀ statement ∈ done, statement.Proper := by
    intro statement hs
    obtain ⟨rule, -, hs⟩ := List.mem_flatMap.mp (hd.subset hs)
    exact proper_statementsOf statement hs
  have htimes : ∀ rule time, .recordMatch rule time ∈ done → time = times rule :=
    fun rule time hs => time_of_mem_flatMap (hd.subset hs)
  have hmatches : (matchesOf done).Nodup := by
    have hsub : (matchesOf done).Sublist (rules.map StoredRule.id) := by
      rw [← matchesOf_flatMap times rules]
      exact hd.filterMap _
    exact hsub.nodup hn
  have hmem : ∀ rule, rule ∈ matchesOf done ↔ .recordMatch rule (times rule) ∈ done := by
    intro rule
    rw [mem_matchesOf]
    constructor
    · rintro ⟨time, hs⟩
      rwa [htimes rule time hs] at hs
    · exact fun hs => ⟨_, hs⟩
  obtain ⟨hothers, hdomains, hidentities, hattachments⟩ := foldl_effect_frame id done tables
  obtain ⟨row, hget, hafter, hsame⟩ := Holds.foldl hproper ⟨loaded, hrow, hread, rfl⟩
  refine ⟨⟨loaded, row, hrow, hget, hafter, hsame⟩, hothers, fun rule => ?_, hdomains, hidentities,
    hattachments⟩
  simp only [foldl_effect_rules hmatches htimes tables rule, hmem]

-- ---------------------------------------------------------------------------
-- Whole evaluations
-- ---------------------------------------------------------------------------

/-- A stored rule that is in use for an email, can be read, and is about it. -/
def Matches [PatternEngine] (tables : Tables) (e : Email) (r : StoredRule) : Prop :=
  ∃ row, tables.rules.get? r.id = some row ∧ row.InUse e.org e.identity ∧
    row.read? r.id = some r ∧ r.rule.About e

theorem Matches.eq_of_id [PatternEngine] {tables : Tables} {e : Email} {a b : StoredRule}
    (ha : Matches tables e a) (hb : Matches tables e b) (h : a.id = b.id) : a = b := by
  obtain ⟨row, hget, -, hread, -⟩ := ha
  obtain ⟨row', hget', -, hread', -⟩ := hb
  rw [h] at hget hread
  obtain rfl := Option.some.inj (hget.symm.trans hget')
  exact Option.some.inj (hread.symm.trans hread')

theorem nodup_ids [PatternEngine] {tables : Tables} {e : Email} {rules : List StoredRule}
    (h : ∀ r ∈ rules, Matches tables e r) (hp : rules.Pairwise Precedes) :
    (rules.map StoredRule.id).Nodup := by
  refine List.pairwise_map.mpr (hp.imp_of_mem fun {a b} ha hb hab hid => ?_)
  obtain rfl := (h a ha).eq_of_id (h b hb) hid
  rcases hab with hab | ⟨-, hab⟩
  · exact Int.lt_irrefl _ hab
  · exact Int.lt_irrefl _ hab

def applicable [PatternEngine] (e : Email) (rules : List StoredRule) : List StoredRule :=
  rules.filter fun rule => rule.rule.isFor (.ofEmail e)

theorem exists_applicable [PatternEngine] {db : Database} (h : db.closed = false) (e : Email) :
    ∃ rules, db.rulesFor e.org e.identity = .ok rules ∧
      (∀ r, r ∈ applicable e rules ↔ Matches db.tables e r) ∧
      (applicable e rules).Pairwise Precedes := by
  obtain ⟨rules, hrules, hmem, horder⟩ := Database.rulesFor_spec h e.org e.identity
  refine ⟨rules, hrules, fun r => ?_, horder.filter _⟩
  rw [applicable, List.mem_filter, hmem, Rule.isFor_ofEmail_iff]
  constructor
  · rintro ⟨⟨row, hget, huse, hread⟩, habout⟩
    exact ⟨row, hget, huse, hread, habout⟩
  · rintro ⟨row, hget, huse, hread, habout⟩
    exact ⟨⟨row, hget, huse, hread⟩, habout⟩

theorem Ready.of_matches [PatternEngine] {id : EmailId} {db : Database} {e : Email}
    {loaded : EmailRow} {rules : List StoredRule} (h : db.closed = false)
    (hrow : db.tables.emails.get? id = some loaded) (hr : ∀ r ∈ rules, Matches db.tables e r) :
    Ready id (rules.map StoredRule.id) db := by
  refine ⟨h, by simp [hrow], fun r hmem => ?_⟩
  obtain ⟨rule, hrule, rfl⟩ := List.mem_map.mp hmem
  obtain ⟨row, hget, -⟩ := hr rule hrule
  simp [hget]

theorem perform_applyRules {id : EmailId} {rules : List StoredRule} {s : State}
    (h : Ready id (rules.map StoredRule.id) s.database) (times : RuleId → Instant) :
    (rules.forM fun rule => applyRule id (times rule.id) rule).perform s =
      (.ok (), afterAll id s (rules.flatMap (statementsOf times))) := by
  have hrun := Work.perform_forM
    (fun s rule => afterAll id s (statementsOf times rule))
    (fun s => Ready id (rules.map StoredRule.id) s.database)
    (fun rule (hrule : rule ∈ rules) s hs => perform_applyRule hs times (List.mem_map_of_mem hrule))
    (fun rule _ s hs => hs.foldl_issue (statementsOf times rule)) h
  rwa [foldl_afterAll] at hrun

def succeeding (db : Database) (statements : List Statement) : List Statement :=
  accepted db.refuses db.writes statements

/-- Evaluation of a stored email answers with the rules in use that are about it as it was loaded,
in their order, and changes the tables by exactly those of the statements for them that succeed. -/
theorem perform_evaluate [PatternEngine] {s : State} {id : EmailId} {e : Email}
    (h : s.database.getEmail id = .ok e) (times : RuleId → Instant) :
    ∃ matching : List StoredRule, ∃ statements : List Statement, ∃ after : Database,
      (∀ r, r ∈ matching ↔ Matches s.database.tables e r) ∧
      matching.Pairwise Precedes ∧
      Issues times matching statements ∧
      (evaluate id times).perform s =
        (.ok (matching.map StoredRule.id), { s with database := after }) ∧
      after.getEmail id = .ok ((succeeding s.database statements).foldl Statement.applyTo e) ∧
      Evaluated id e times (succeeding s.database statements) s.database.tables after.tables := by
  obtain ⟨hopen, loaded, hrow, hread⟩ := Database.getEmail_eq_ok h
  obtain ⟨rules, hrules, hmatching, hprecedes⟩ := exists_applicable hopen e
  have hready := Ready.of_matches hopen hrow fun r hr => (hmatching r).mp hr
  have hids := nodup_ids (fun r hr => (hmatching r).mp hr) hprecedes
  have hrun := perform_applyRules hready times
  refine ⟨applicable e rules, (applicable e rules).flatMap (statementsOf times),
    ((applicable e rules).flatMap (statementsOf times)).foldl (Statement.issue id) s.database,
    hmatching, hprecedes, issues_iff.mpr rfl, ?_, ?_⟩
  · have hload : (Work.select (·.getEmail id)).perform s = (.ok e, s) := by
      rw [Work.perform_select, h]
    have hlist : (Work.select (·.rulesFor e.org e.identity)).perform s = (.ok rules, s) := by
      rw [Work.perform_select, hrules]
    unfold evaluate
    rw [Work.perform_bind_ok _ hload, Work.perform_bind_ok _ hlist]
    exact Work.perform_bind_ok _ hrun
  · rw [foldl_issue]
    have hdone : Evaluated id e times
        (succeeding s.database ((applicable e rules).flatMap (statementsOf times))) _ _ :=
      evaluated_foldl hids (accepted_sublist _ _ _) hrow hread
    obtain ⟨-, row, -, hget, hafter, -⟩ := hdone.email
    exact ⟨Database.getEmail_of_get? hopen hget hafter, hdone⟩

namespace Sample

def row : EmailRow where
  org := 7
  domain := 1
  identity := 1
  messageId := "m-1"
  serviceId := "ses-1"
  thread := none
  sender := "alice@example.com"
  senderName := none
  recipients := "[]"
  cc := "[]"
  subject := "Hello"
  snippet := ""
  container := none
  key := none
  folder := "inbox"
  isRead := false
  readAt := none
  isStarred := false
  isArchived := false
  isTrashed := false
  trashedAt := none
  isSpam := false
  verdicts := ⟨none, none, none, none, none⟩
  textBody := none
  htmlBody := none
  size := 0
  hasAttachments := false
  received := "1970-01-01T00:00:00+00:00"

def email : Email where
  id := 1
  org := 7
  domain := 1
  identity := 1
  messageId := "m-1"
  serviceId := "ses-1"
  thread := none
  sender := "alice@example.com"
  senderName := none
  recipients := []
  cc := []
  subject := "Hello"
  snippet := ""
  folder := .inbox
  isRead := false
  readAt := none
  isStarred := false
  isArchived := false
  isTrashed := false
  trashedAt := none
  isSpam := false
  verdicts := ⟨none, none, none, none, none⟩
  storage := none
  textBody := none
  htmlBody := none
  size := 0
  hasAttachments := false
  received := .epoch

def rule : RuleRow where
  org := 7
  identity := none
  name := ""
  priority := 1
  logic := "all"
  conditions := "[\x7b\"field\":\"hasAttachment\",\"operator\":\"equals\",\"value\":\"false\"\x7d]"
  actions := "[\x7b\"type\":\"star\"\x7d,\x7b\"type\":\"archive\"\x7d]"
  active := true
  matchCount := 4
  lastMatched := none

def letters : RuleRow :=
  { rule with
    priority := 2
    logic := "any"
    conditions := "[\x7b\"field\":\"subject\",\"operator\":\"contains\",\"value\":\"offer\"\x7d," ++
      "\x7b\"field\":\"from\",\"operator\":\"regex\",\"value\":\"^Alice@\"\x7d]"
    actions := "[\x7b\"type\":\"mark_read\"\x7d," ++
      "\x7b\"type\":\"move_to_folder\",\"value\":\"letters\"\x7d," ++
      "\x7b\"type\":\"move_to_folder\",\"value\":\"old\"\x7d,\x7b\"type\":\"trash\"\x7d]"
    matchCount := 0 }

def offers : RuleRow :=
  { letters with priority := 3, logic := "all", actions := "[]" }

/-- Of the writes of the evaluation, the second move and the one that archives will fail. -/
def start : State where
  database := { Database.empty with
    tables := { Tables.empty with emails := ⟨[row]⟩, rules := ⟨[rule, letters, offers]⟩ }
    refuses := fun n _ => n == 2 || n == 6 }
  objects := .inMemory
  queue := .empty

def times : RuleId → Instant := fun _ => .epoch

def stored : StoredRule where
  id := 1
  rule :=
    { org := 7
      identity := none
      name := ""
      priority := 1
      combinator := .all
      conditions := [⟨.hasAttachment, .equals, "false"⟩]
      actions := [⟨.star, none⟩, ⟨.archive, none⟩]
      active := true }
  matchCount := 4
  lastMatched := none

def storedLetters : StoredRule where
  id := 2
  rule :=
    { stored.rule with
      priority := 2
      combinator := .any
      conditions := [⟨.subject, .contains, "offer"⟩, ⟨.sender, .pattern, "^Alice@"⟩]
      actions := [⟨.markRead, none⟩, ⟨.moveToFolder, some "letters"⟩, ⟨.moveToFolder, some "old"⟩,
        ⟨.trash, none⟩] }
  matchCount := 0
  lastMatched := none

def storedOffers : StoredRule where
  id := 3
  rule := { storedLetters.rule with priority := 3, combinator := .all, actions := [] }
  matchCount := 0
  lastMatched := none

theorem read?_rule : rule.read? 1 = some stored := by decide +kernel

theorem read?_letters : letters.read? 2 = some storedLetters := by decide +kernel

theorem read?_offers : offers.read? 3 = some storedOffers := by decide +kernel

theorem about_stored : stored.rule.About email := Rule.isFor_ofEmail_iff.mp (by decide +kernel)

theorem about_storedLetters : storedLetters.rule.About email :=
  Rule.isFor_ofEmail_iff.mp (by decide +kernel)

theorem not_about_storedOffers : ¬ storedOffers.rule.About email :=
  fun h => absurd (Rule.isFor_ofEmail_iff.mpr h) (by decide +kernel)

theorem matches_iff {r : StoredRule} :
    Matches start.database.tables email r ↔ r = storedLetters ∨ r = stored := by
  constructor
  · rintro ⟨row, hget, -, hread, habout⟩
    have hmem : (r.id, row) ∈ start.database.tables.rules.entries := Table.mem_entries.mpr hget
    simp only [show start.database.tables.rules.entries = [(1, rule), (2, letters), (3, offers)]
      from rfl, List.mem_cons, List.not_mem_nil, or_false, Prod.mk.injEq] at hmem
    obtain ⟨hid, rfl⟩ | ⟨hid, rfl⟩ | ⟨hid, rfl⟩ := hmem
    · rw [hid, read?_rule] at hread
      exact .inr (Option.some.inj hread).symm
    · rw [hid, read?_letters] at hread
      exact .inl (Option.some.inj hread).symm
    · rw [hid, read?_offers] at hread
      cases hread
      exact absurd habout not_about_storedOffers
  · rintro (rfl | rfl)
    · exact ⟨letters, rfl, ⟨rfl, rfl, .inl rfl⟩, read?_letters, about_storedLetters⟩
    · exact ⟨rule, rfl, ⟨rfl, rfl, .inl rfl⟩, read?_rule, about_stored⟩

end Sample

/-- Of three rules in use, two are about the email: of the third, not all conditions hold. The
email lies where the first move took it, for the second failed, and is not archived. -/
theorem perform_evaluate_sample : ∃ after : Database,
    (evaluate 1 Sample.times).perform Sample.start =
      (.ok [2, 1], { Sample.start with database := after }) ∧
    after.getEmail 1 = .ok
      { Sample.email with
        folder := .named "letters"
        isRead := true
        readAt := some .epoch
        isStarred := true
        isTrashed := true
        trashedAt := some .epoch } ∧
    after.tables.rules.get? 1 = some (Sample.rule.counted .epoch) ∧
    after.tables.rules.get? 2 = some (Sample.letters.counted .epoch) ∧
    after.tables.rules.get? 3 = some Sample.offers := by
  obtain ⟨matching, statements, after, hmem, horder, hissues, hrun, hrecord, hafter⟩ :=
    perform_evaluate (show Sample.start.database.getEmail 1 = .ok Sample.email from rfl) Sample.times
  simp only [Sample.matches_iff] at hmem
  obtain rfl : matching = [Sample.storedLetters, Sample.stored] := by
    have hnodup : matching.Nodup := horder.imp fun hab => by
      rintro rfl
      exact hab.asymm hab
    have hperm : matching.Perm [Sample.storedLetters, Sample.stored] :=
      (List.perm_ext_iff_of_nodup hnodup (by decide)).mpr (by simp [hmem])
    exact hperm.eq_of_pairwise (fun a b _ _ hab hba => absurd hba hab.asymm) horder (by decide)
  obtain rfl := issues_iff.mp hissues
  exact ⟨after, hrun, hrecord, hafter.rules 1, hafter.rules 2, hafter.rules 3⟩

end Mailroom.Pipeline.Evaluation
