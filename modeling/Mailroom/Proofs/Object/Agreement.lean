import Mailroom.Proofs.Object.Filing

/-!
# When a tree of files is as good as a memory

A store in memory has an object of its own for each location. A store in files agrees with it on
every sequence of accesses to some locations exactly if each of them leads to a place that can be
written, and no path of one is the path of another or leads through it.
-/

namespace Mailroom.Object

open Mailroom.Mail (Location)

inductive Access
  | put (l : Location) (bytes : Bytes)
  | fetch (l : Location)

def Access.location : Access → Location
  | .put l _ => l
  | .fetch l => l

namespace Store

def access (s : Store) : Access → Except Error (Option Bytes) × Store
  | .put l bytes => ((s.put l bytes).1.map fun _ => none, (s.put l bytes).2)
  | .fetch l => ((s.fetch l).map some, s)

def answers (s : Store) : List Access → List (Except Error (Option Bytes))
  | [] => []
  | a :: rest => (s.access a).1 :: (s.access a).2.answers rest

end Store

-- ---------------------------------------------------------------------------
-- Reading and writing where a write succeeds
-- ---------------------------------------------------------------------------

namespace Node

variable {root : Node} {l : Location} {path : List String}

theorem find_of_accepts (h : root.accepts path = true) :
    root.find path = ((root.file? path).map Found.file).getD .missing := by
  induction path generalizing root with
  | nil =>
    cases root with
    | file => rfl
    | folder => cases h
  | cons name rest ih =>
    cases root with
    | file => cases h
    | folder children =>
      rw [accepts, Bool.and_eq_true, Bool.not_eq_true'] at h
      obtain ⟨hname, hrest⟩ := h
      rw [find, file?_folder_cons, hname]
      cases hc : child? children name with
      | none => rfl
      | some node =>
        rw [hc] at hrest
        exact ih hrest

theorem fetch_of_takes (hpath : pathOf l = .ok path) (h : root.Takes l path) :
    root.fetch l = match root.file? path with
      | some bytes => .ok bytes
      | none => .error (.objectNotFound l) := by
  obtain ⟨hnull, hfolder, haccepts⟩ := h
  rw [fetch, hpath]
  simp only [bind, Except.bind, hnull, Bool.false_eq_true, if_false, find_of_accepts haccepts]
  cases root.file? path <;> simp [hfolder]

theorem accepts_put_self (bytes : Bytes) (hpath : pathOf l = .ok path) (hne : path ≠ [])
    (h : root.Takes l path) : (root.put l bytes).2.accepts path = true := by
  obtain ⟨hnames, hfiles, hfolder⟩ := accepts_iff.mp h.2.2
  refine accepts_iff.mpr ⟨hnames, fun above hp ha => ?_, ?_⟩
  · rw [(put_of_takes bytes hpath hne h).2, if_neg ha]
    exact hfiles above hp ha
  · rw [Bool.eq_false_iff]
    intro hput
    rcases isFolder_of_put hpath hne hput with hold | ⟨-, hself⟩
    · exact Bool.false_ne_true (hfolder.symm.trans hold)
    · exact hself rfl

theorem takes_empty_iff (hne : path ≠ []) : empty.Takes l path ↔
    hasNull path = false ∧ demandsFolder l.key = false ∧ ∀ name ∈ path, tooLong name = false := by
  have haccepts : empty.accepts path = path.all fun name => !tooLong name := by
    cases path with
    | nil => exact absurd rfl hne
    | cons => rfl
  simp [Takes, haccepts]

end Node

-- ---------------------------------------------------------------------------
-- Locations beside each other
-- ---------------------------------------------------------------------------

/-- Where files can lie beside each other: every location leads to a place that a file can have,
and none to the place of another one or below it. -/
structure Separate (used : Location → Prop) : Prop where
  places : ∀ l, used l → ∃ path, pathOf l = .ok path ∧ hasNull path = false ∧
    demandsFolder l.key = false ∧ ∀ name ∈ path, tooLong name = false
  apart : ∀ l l' path path', used l → used l' → pathOf l = .ok path → pathOf l' = .ok path' →
    path <+: path' → l = l'

variable {used : Location → Prop} {m : Memory} {root : Node}

structure Mirrors (used : Location → Prop) (m : Memory) (root : Node) : Prop where
  takes : ∀ l path, used l → pathOf l = .ok path → root.Takes l path
  holds : ∀ l path, used l → pathOf l = .ok path → root.file? path = m.get? l

theorem Mirrors.empty (h : Separate used) : Mirrors used .empty .empty where
  takes l path hl hpath := by
    obtain ⟨path', hpath', hfits⟩ := h.places l hl
    obtain rfl := Except.ok.inj (hpath.symm.trans hpath')
    exact (Node.takes_empty_iff (pathOf_eq_ok hpath).2.1).mpr hfits
  holds l path _ _ := Node.file?_empty path

theorem Mirrors.fetch (h : Mirrors used m root) (hsep : Separate used) {l : Location}
    (hl : used l) : root.fetch l = m.fetch l := by
  obtain ⟨path, hpath, -⟩ := hsep.places l hl
  rw [Node.fetch_of_takes hpath (h.takes l path hl hpath), h.holds l path hl hpath]
  rfl

theorem Mirrors.put (h : Mirrors used m root) (hsep : Separate used) {l : Location} (hl : used l)
    (bytes : Bytes) :
    (root.put l bytes).1 = .ok () ∧ Mirrors used (m.put l bytes) (root.put l bytes).2 := by
  obtain ⟨path, hpath, -⟩ := hsep.places l hl
  have hne := (pathOf_eq_ok hpath).2.1
  have htakes := h.takes l path hl hpath
  obtain ⟨hok, hfile⟩ := Node.put_of_takes bytes hpath hne htakes
  refine ⟨hok, fun other path' hother hpath' => ?_, fun other path' hother hpath' => ?_⟩
  · obtain ⟨hnull, hfolder, haccepts⟩ := h.takes other path' hother hpath'
    refine ⟨hnull, hfolder, ?_⟩
    by_cases hself : other = l
    · subst hself
      obtain rfl := Except.ok.inj (hpath.symm.trans hpath')
      exact Node.accepts_put_self bytes hpath hne htakes
    · rw [Node.accepts_put root bytes hpath hne
        (fun hp _ => absurd (hsep.apart l other path path' hl hother hpath hpath' hp).symm hself)
        (fun hp _ => absurd (hsep.apart other l path' path hother hl hpath' hpath hp) hself)]
      exact haccepts
  · rw [hfile, Memory.get?_put, h.holds other path' hother hpath']
    by_cases hself : other = l
    · subst hself
      obtain rfl := Except.ok.inj (hpath.symm.trans hpath')
      simp
    · have hpaths : path' ≠ path := by
        rintro rfl
        exact hself (hsep.apart other l _ _ hother hl hpath' hpath (List.prefix_refl _))
      rw [if_neg hpaths, if_neg hself]

namespace Store

theorem access_eq (h : Mirrors used m root) (hsep : Separate used) {a : Access}
    (ha : used a.location) (writes : Nat) :
    ∃ m' root' writes', Mirrors used m' root' ∧
      access ⟨.memory m, never, writes⟩ a =
        ((access ⟨.files root, never, writes⟩ a).1, ⟨.memory m', never, writes'⟩) ∧
      (access ⟨.files root, never, writes⟩ a).2 = ⟨.files root', never, writes'⟩ := by
  cases a with
  | put l bytes =>
    have hl : used l := ha
    obtain ⟨hok, hmirrors⟩ := h.put hsep hl bytes
    refine ⟨_, _, writes + 1, hmirrors, ?_, rfl⟩
    show _ = ((root.put l bytes).1.map fun _ => none, _)
    rw [hok]
    rfl
  | fetch l =>
    have hl : used l := ha
    refine ⟨m, root, writes, h, ?_, rfl⟩
    show ((m.fetch l).map some, _) = ((root.fetch l).map some, _)
    rw [h.fetch hsep hl]

theorem answers_eq (h : Mirrors used m root) (hsep : Separate used) {accesses : List Access}
    (hused : ∀ a ∈ accesses, used a.location) (writes : Nat) :
    answers ⟨.files root, never, writes⟩ accesses =
      answers ⟨.memory m, never, writes⟩ accesses := by
  induction accesses generalizing m root writes with
  | nil => rfl
  | cons a rest ih =>
    obtain ⟨m', root', writes', hmirrors, hmemory, hfiles⟩ :=
      access_eq h hsep (hused a List.mem_cons_self) writes
    rw [answers, answers, hmemory, hfiles,
      ih hmirrors (fun b hb => hused b (List.mem_cons_of_mem a hb))]

-- ---------------------------------------------------------------------------
-- Locations that are not beside each other
-- ---------------------------------------------------------------------------

variable {l l' : Location} {path path' : List String}

theorem takes_of_answers_put
    (h : inFiles.answers [.put l []] = inMemory.answers [.put l []]) :
    ∃ path, pathOf l = .ok path ∧ Node.empty.Takes l path := by
  have hok : (Node.empty.put l []).1.map (fun _ => (none : Option Bytes)) = .ok none :=
    (List.cons.inj h).1
  cases hpath : pathOf l with
  | error e => simp [Node.put, hpath, Except.map] at hok
  | ok path =>
    refine ⟨path, rfl, (Node.put_isOk_iff .empty [] hpath (pathOf_eq_ok hpath).2.1).mp ?_⟩
    cases hput : (Node.empty.put l []).1 with
    | error => simp [hput, Except.map] at hok
    | ok => rfl

theorem eq_of_answers_put (hpath : pathOf l = .ok path) (hpath' : pathOf l' = .ok path')
    (htakes : Node.empty.Takes l path) (hleads : path <+: path')
    (hfetch : inFiles.answers [.put l [], .fetch l'] = inMemory.answers [.put l [], .fetch l'])
    (hput : inFiles.answers [.put l [], .put l' []] = inMemory.answers [.put l [], .put l' []]) :
    l = l' := by
  have hne := (pathOf_eq_ok hpath).2.1
  have hne' := (pathOf_eq_ok hpath').2.1
  obtain ⟨-, hfile⟩ := Node.put_of_takes [] hpath hne htakes
  have hfetch' : ((Node.empty.put l []).2.fetch l').map some =
      ((Memory.empty.put l []).fetch l').map some := (List.cons.inj (List.cons.inj hfetch).2).1
  have hput' : ((Node.empty.put l []).2.put l' []).1.map (fun _ => (none : Option Bytes)) =
      .ok none := (List.cons.inj (List.cons.inj hput).2).1
  have htakes' : (Node.empty.put l []).2.Takes l' path' := by
    refine (Node.put_isOk_iff _ [] hpath' hne').mp ?_
    cases h : ((Node.empty.put l []).2.put l' []).1 with
    | error => simp [h, Except.map] at hput'
    | ok => rfl
  have hself : (Node.empty.put l []).2.file? path = some [] := by rw [hfile, if_pos rfl]
  by_cases hp : path = path'
  · subst hp
    rw [Node.fetch_of_takes hpath' htakes', hself, Memory.fetch, Memory.get?_put] at hfetch'
    by_cases hsame : l' = l
    · exact hsame.symm
    · simp [hsame, Memory.empty, Memory.get?, Except.map] at hfetch'
  · have hfree := (Node.accepts_iff.mp htakes'.2.2).2.1 path hleads hp
    simp [hself] at hfree

/-- A store in files gives the same answers as one in memory, whatever is written and read at some
locations, exactly if these are separate. Paths are not bounded as a whole here: a system that does
so refuses long ones in files alone. -/
theorem answers_inFiles_iff (used : Location → Prop) :
    (∀ accesses : List Access, (∀ a ∈ accesses, used a.location) →
      inFiles.answers accesses = inMemory.answers accesses) ↔ Separate used := by
  constructor
  · intro h
    have hplaces (l : Location) (hl : used l) :
        ∃ path, pathOf l = .ok path ∧ Node.empty.Takes l path :=
      takes_of_answers_put (h _ (by simpa [Access.location] using hl))
    refine ⟨fun l hl => ?_, fun l l' path path' hl hl' hpath hpath' hleads => ?_⟩
    · obtain ⟨path, hpath, htakes⟩ := hplaces l hl
      exact ⟨path, hpath, (Node.takes_empty_iff (pathOf_eq_ok hpath).2.1).mp htakes⟩
    obtain ⟨other, hother, htakes⟩ := hplaces l hl
    obtain rfl := Except.ok.inj (hpath.symm.trans hother)
    exact eq_of_answers_put hpath hpath' htakes hleads
      (h _ (by simpa [Access.location] using ⟨hl, hl'⟩))
      (h _ (by simpa [Access.location] using ⟨hl, hl'⟩))
  · intro hsep accesses hused
    exact answers_eq (Mirrors.empty hsep) hsep hused 0

/-- An object is found under a location where nothing was put, if a part of its container can be
read as a part of the other key. -/
theorem answers_inFiles_ne :
    (∀ l ∈ [(⟨"a/b", "c"⟩ : Location), ⟨"a", "b/c"⟩], (pathOf l).isOk = true) ∧
      inFiles.answers [.put ⟨"a/b", "c"⟩ [1], .fetch ⟨"a", "b/c"⟩] = [.ok none, .ok (some [1])] ∧
      inMemory.answers [.put ⟨"a/b", "c"⟩ [1], .fetch ⟨"a", "b/c"⟩] =
        [.ok none, .error (.objectNotFound ⟨"a", "b/c"⟩)] :=
  ⟨by decide +kernel, by rfl, by rfl⟩

end Store

end Mailroom.Object
