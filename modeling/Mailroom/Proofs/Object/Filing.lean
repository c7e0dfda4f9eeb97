import Mailroom.Codec.Sha256
import Mailroom.Object.Store
import Mailroom.Proofs.Answer
import Mailroom.Proofs.Object.Tree
import Mailroom.Proofs.Text.Case
import Mailroom.Proofs.Text.Cut

/-!
# Filing attachments

Attachments lie in folders of their own, one for each email, under names made of their digests.
Filing one leaves every other object as it was, and never gets in the way of filing another:
no attachment is a folder above another one.
-/

namespace Mailroom.Object

open Mailroom.Mail (EmailId Location)

-- ---------------------------------------------------------------------------
-- Paths
-- ---------------------------------------------------------------------------

theorem components_ne_nil {path : String} (h : staysBelow path = true) : components path ≠ [] := by
  unfold staysBelow at h
  unfold components
  split at h
  · next first rest hp =>
    simp only [Bool.and_eq_true, bne_iff_ne] at h
    simp [hp, h.1]
  · cases h

theorem pathOf_eq_ok {l : Location} {path : List String} (h : pathOf l = .ok path) :
    staysBelow l.container = true ∧ path ≠ [] ∧
      ∃ rest, rest ≠ [] ∧ path = components l.container ++ rest := by
  unfold pathOf at h
  split at h
  · next hs =>
    obtain ⟨hcontainer, hkey⟩ := Bool.and_eq_true_iff.mp hs
    have hne := components_ne_nil hkey
    cases h
    exact ⟨hcontainer, by simp [hne], _, hne, rfl⟩
  · cases h

-- ---------------------------------------------------------------------------
-- Names of attachments
-- ---------------------------------------------------------------------------

def IsCode (name : String) : Prop :=
  name.toList ≠ [] ∧ ∀ c ∈ name.toList, c ∈ "-0123456789abcdef".toList

def attachmentAt (container : String) (email : EmailId) (name : String) : Location :=
  ⟨container, s!"attachments/{email}/{name}"⟩

theorem ne_key_attachmentAt {key : String} (h : ¬ "attachments/".toList <+: key.toList)
    (container : String) (email : EmailId) (name : String) :
    key ≠ (attachmentAt container email name).key := by
  rintro rfl
  refine h ⟨(toString email).toList ++ '/' :: name.toList, ?_⟩
  show _ = ("attachments/" ++ toString email ++ "/" ++ name).toList
  simp [String.toList_append]

theorem IsCode.ne {name other : String} {c : Char} (h : IsCode name) (hc : c ∈ other.toList)
    (hcode : c ∉ "-0123456789abcdef".toList) : name ≠ other := by
  rintro rfl
  exact hcode (h.2 c hc)

theorem isCode_hex (message : List UInt8) : IsCode (Codec.Sha256.hex message) := by
  have hdigit : ∀ n < 16, Codec.Hex.digit n ∈ "-0123456789abcdef".toList := by decide
  refine ⟨?_, fun c hc => ?_⟩
  · simp [Codec.Sha256.hex, Codec.Hex.encode, Codec.Sha256.digest, Codec.Sha256.bigEndian,
      List.range_succ]
  · simp only [Codec.Sha256.hex, Codec.Hex.encode, String.toList_ofList, List.mem_flatMap,
      List.mem_cons, List.not_mem_nil, or_false] at hc
    obtain ⟨b, -, rfl | rfl⟩ := hc
    · exact hdigit _ (by have := b.toNat_lt; omega)
    · exact hdigit _ (Nat.mod_lt _ (by decide))

theorem isCode_repr (n : Nat) : IsCode n.repr := by
  have hdigit : ∀ c : Char, c.isDigit = true → c ∈ "-0123456789abcdef".toList := by
    intro c hc
    have hascii : c.toNat < 128 := by
      simp only [Char.isDigit, Bool.and_eq_true, decide_eq_true_eq, UInt32.le_iff_toNat_le] at hc
      exact Nat.lt_of_le_of_lt hc.2 (by decide)
    exact Text.forall_ascii (p := fun c => c.isDigit = true → c ∈ "-0123456789abcdef".toList)
      (by decide +kernel) hascii hc
  have hlist : n.repr.toList = Nat.toDigits 10 n := by simp [Nat.repr]
  rw [IsCode, hlist]
  exact ⟨Nat.toDigits_ne_nil, fun c hc =>
    hdigit c (Nat.isDigit_of_mem_toDigits (by decide) (by decide) hc)⟩

theorem isCode_email (email : EmailId) : IsCode (toString email) := by
  cases email with
  | ofNat n => exact isCode_repr n
  | negSucc n =>
    have hlist : (toString (Int.negSucc n)).toList = '-' :: n.succ.repr.toList := by
      show ("-" ++ n.succ.repr).toList = _
      simp
    rw [IsCode, hlist]
    refine ⟨List.cons_ne_nil _ _, fun c hc => ?_⟩
    rcases List.mem_cons.mp hc with rfl | hc
    · decide
    · exact (isCode_repr n.succ).2 c hc

theorem pieces_attachment {email name : String} (he : IsCode email) (hn : IsCode name) :
    pieces (s!"attachments/{email}/{name}") = ["attachments", email, name] := by
  have hslash {text : String} (h : IsCode text) : '/' ∉ text.toList := fun hm =>
    absurd (h.2 _ hm) (by decide)
  have hlist : (s!"attachments/{email}/{name}").toList =
      "attachments".toList ++ '/' :: (email.toList ++ '/' :: name.toList) := by
    show ("attachments/" ++ email ++ "/" ++ name).toList = _
    simp [String.toList_append]
  rw [pieces, hlist, Text.splitAt_append_sep _ (by decide),
    Text.splitAt_append_sep _ (hslash he), Text.splitAt_of_not_mem (hslash hn)]
  simp

theorem IsCode.plain {name : String} (h : IsCode name) : name ≠ "" ∧ name ≠ "." ∧ name ≠ ".." := by
  refine ⟨?_, ?_, ?_⟩
  · rintro rfl
    exact h.1 rfl
  · exact h.ne (c := '.') (by decide) (by decide)
  · exact h.ne (c := '.') (by decide) (by decide)

theorem pathOf_of_pieces {l : Location} {email name : String} (hc : staysBelow l.container = true)
    (he : IsCode email) (hn : IsCode name) (h : pieces l.key = ["attachments", email, name]) :
    pathOf l = .ok (components l.container ++ ["attachments", email, name]) := by
  have hbelow : staysBelow l.key = true := by
    simp [staysBelow, h, he.plain.2.2.symm, hn.plain.2.2.symm]
  have hcomponents : components l.key = ["attachments", email, name] := by
    simp [components, h, he.plain, hn.plain]
  rw [pathOf, hc, hbelow, hcomponents]
  rfl

theorem pieces_key_attachmentAt {name : String} (container : String) (email : EmailId)
    (hn : IsCode name) :
    pieces (attachmentAt container email name).key = ["attachments", toString email, name] :=
  pieces_attachment (isCode_email email) hn

theorem eq_of_attachmentAt_eq {c c' n n' : String} {e e' : EmailId}
    (h : attachmentAt c e n = attachmentAt c' e' n') (hn : IsCode n) (hn' : IsCode n') :
    n = n' := by
  have hpieces := congrArg (fun l : Location => (pieces l.key).getLast?) h
  simpa [pieces_key_attachmentAt, hn, hn'] using hpieces

theorem pathOf_attachmentAt {container name : String} (email : EmailId)
    (hc : staysBelow container = true) (hn : IsCode name) :
    pathOf (attachmentAt container email name) =
      .ok (components container ++ ["attachments", toString email, name]) :=
  pathOf_of_pieces hc (isCode_email email) hn (pieces_key_attachmentAt container email hn)

theorem prefix_container {c c' : List String} {e e' n n' : String} (he : e' ≠ "attachments")
    (hn : n' ≠ "attachments")
    (hp : c' ++ ["attachments", e', n'] <+: c ++ ["attachments", e, n])
    (hne : c' ++ ["attachments", e', n'] ≠ c ++ ["attachments", e, n]) :
    c' ++ ["attachments", e', n'] <+: c := by
  have hlength := hp.length_le
  have hshorter : (c' ++ ["attachments", e', n']).length ≠ (c ++ ["attachments", e, n]).length :=
    fun h => hne (hp.eq_of_length h)
  obtain ⟨more, hmore⟩ := hp
  -- What stands behind the container is the name of the folder of attachments.
  have hfolder := congrArg (·[c.length]?) hmore
  simp only [List.length_append, List.length_cons, List.length_nil] at hlength hshorter
  by_cases hlong : c.length < c'.length + 3
  · exfalso
    have hcases : c.length = c'.length + 1 ∨ c.length = c'.length + 2 := by omega
    rcases hcases with h | h
    · simp [h] at hfolder
      exact he hfolder
    · simp [h] at hfolder
      exact hn hfolder
  · refine List.prefix_of_prefix_length_le ⟨more, hmore⟩ (List.prefix_append _ _) ?_
    simp only [List.length_append, List.length_cons, List.length_nil]
    omega

-- ---------------------------------------------------------------------------
-- Stores
-- ---------------------------------------------------------------------------

/-- Whether two locations lead to one object. In a tree a path has many spellings. -/
def Place.Same : Place → Location → Location → Prop
  | .memory _, a, b => a = b
  | .files _, a, b => ∃ path, pathOf a = .ok path ∧ pathOf b = .ok path

def Place.HasContainer : Place → String → Prop
  | .memory _, _ => True
  | .files root, container =>
    staysBelow container = true ∧ root.isFolder (components container) = true

theorem Place.Same.name_eq {place : Place} {c c' n n' : String} {e e' : EmailId}
    (h : place.Same (attachmentAt c e n) (attachmentAt c' e' n')) (hn : IsCode n)
    (hn' : IsCode n') : n = n' := by
  cases place with
  | memory m => exact eq_of_attachmentAt_eq h hn hn'
  | files root =>
    obtain ⟨path, hl, hl'⟩ := h
    have hpaths := hl.trans hl'.symm
    have hc : staysBelow c = true := (pathOf_eq_ok hl).1
    have hc' : staysBelow c' = true := (pathOf_eq_ok hl').1
    rw [pathOf_attachmentAt e hc hn, pathOf_attachmentAt e' hc' hn'] at hpaths
    simpa using congrArg List.getLast? (Except.ok.inj hpaths)

theorem Memory.get?_put (m : Memory) (l other : Location) (bytes : Bytes) :
    (m.put l bytes).get? other = if other = l then some bytes else m.get? other := by
  unfold get? put
  induction m.objects with
  | nil => by_cases h : l = other <;> simp [putIn, h, eq_comm]
  | cons o rest ih =>
    by_cases ho : o.1 = l
    · by_cases h : other = l
      · simp [putIn, ho, h]
      · simp [putIn, ho, h, Ne.symm h]
    · by_cases h : o.1 = other
      · have hne : ¬ other = l := fun he => ho (h.trans he)
        simp [putIn, h, hne]
      · simpa [putIn, ho, h] using ih

namespace Store

variable {s : Store} {l l' : Location} {bytes bytes' : Bytes}

theorem place_put (s : Store) (l : Location) (bytes : Bytes) :
    (s.put l bytes).2.place = if s.refuses s.writes then s.place else match s.place with
      | .memory m => .memory (m.put l bytes)
      | .files root => .files (root.put l bytes).2 := by
  unfold put
  cases s.refuses s.writes with
  | true => rfl
  | false => cases s.place <;> rfl

@[simp] theorem refuses_put (s : Store) (l : Location) (bytes : Bytes) :
    (s.put l bytes).2.refuses = s.refuses := by
  unfold put
  cases s.refuses s.writes with
  | true => rfl
  | false => cases s.place <;> rfl

theorem same_put (s : Store) (l : Location) (bytes : Bytes) :
    (s.put l bytes).2.place.Same = s.place.Same := by
  rw [place_put]
  split
  · rfl
  · cases s.place <;> rfl

theorem fetch_toOption_put (h : ¬ s.place.Same l l') :
    ((s.put l' bytes).2.fetch l).toOption = (s.fetch l).toOption := by
  unfold fetch
  rw [place_put]
  cases s.refuses s.writes with
  | true => rfl
  | false =>
    cases hp : s.place with
    | memory m =>
      have hne : l ≠ l' := by simpa [hp, Place.Same] using h
      simp [Memory.fetch, Memory.get?_put, hne]
    | files root =>
      simp only [Bool.false_eq_true, if_false, Node.fetch_toOption]
      cases hl : pathOf l with
      | error => rfl
      | ok path =>
        cases hl' : pathOf l' with
        | error => simp [Node.put, hl']
        | ok path' =>
          have hne : path ≠ path' := by
            rintro rfl
            exact h (by rw [hp]; exact ⟨path, hl, hl'⟩)
          simp only [Node.file?_put_of_ne root bytes hl' (pathOf_eq_ok hl').2.1 hne]

theorem isOk_put (s : Store) (l : Location) (bytes : Bytes) : (s.put l bytes).1.isOk =
    (!s.refuses s.writes && match s.place with
      | .memory _ => true
      | .files root => (root.put l bytes).1.isOk) := by
  unfold put
  cases s.refuses s.writes with
  | true => rfl
  | false => cases s.place <;> rfl

theorem fetch_put_self (h : (s.put l bytes).1.isOk = true) :
    (s.put l bytes).2.fetch l = .ok bytes := by
  rw [isOk_put, Bool.and_eq_true, Bool.not_eq_true'] at h
  obtain ⟨hpasses, hfits⟩ := h
  unfold fetch
  rw [place_put, hpasses]
  cases hp : s.place with
  | memory m => simp [Memory.fetch, Memory.get?_put]
  | files root =>
    rw [hp] at hfits
    cases hl : pathOf l with
    | error e => simp [Node.put, hl, Except.isOk, Except.toBool] at hfits
    | ok path =>
      have hne := (pathOf_eq_ok hl).2.1
      have htakes := (Node.put_isOk_iff root bytes hl hne).mp hfits
      have hfile := (Node.put_of_takes bytes hl hne htakes).2 path
      obtain ⟨hnull, hkey, -⟩ := htakes
      have hfetch := Node.fetch_toOption (root.put l bytes).2 l
      simp only [hl, hnull, hkey, hfile, Bool.or_false, Bool.false_eq_true, if_false, if_true]
        at hfetch
      exact Answer.toOption_eq_some_iff.mp hfetch

theorem fetch_toOption_put_of_fails (h : (s.put l' bytes).1.isOk = false) :
    ((s.put l' bytes).2.fetch l).toOption = (s.fetch l).toOption := by
  rw [isOk_put] at h
  unfold fetch
  rw [place_put]
  cases hrefused : s.refuses s.writes with
  | true => rfl
  | false =>
    cases hp : s.place with
    | memory m => simp [hrefused, hp] at h
    | files root =>
      simp only [hrefused, hp, Bool.not_false, Bool.true_and] at h
      simp only [Bool.false_eq_true, if_false, Node.fetch_toOption]
      cases hl' : pathOf l' with
      | error => simp [Node.put, hl']
      | ok path' =>
        have hne := (pathOf_eq_ok hl').2.1
        have hnot : ¬ root.Takes l' path' := by
          rw [← Node.put_isOk_iff root bytes hl' hne, h]
          simp
        simp only [Node.file?_put_of_not_takes root bytes hl' hne hnot]

theorem hasContainer_put {container : String} (h : s.place.HasContainer container)
    (l : Location) (bytes : Bytes) : (s.put l bytes).2.place.HasContainer container := by
  rw [place_put]
  cases s.refuses s.writes with
  | true => exact h
  | false =>
    cases hp : s.place with
    | memory => trivial
    | files root =>
      rw [hp] at h
      refine ⟨h.1, ?_⟩
      cases hl : pathOf l with
      | error => simpa [Node.put, hl] using h.2
      | ok path => exact Node.isFolder_put root bytes hl (pathOf_eq_ok hl).2.1 h.2

theorem hasContainer_of_fetch (h : (s.fetch l).toOption = some bytes) :
    s.place.HasContainer l.container := by
  unfold fetch at h
  cases hp : s.place with
  | memory => trivial
  | files root =>
    simp only [hp, Node.fetch_toOption] at h
    split at h
    · cases h
    · next path hl =>
      obtain ⟨hbelow, -, rest, hrest, rfl⟩ := pathOf_eq_ok hl
      have hfile : root.file? (components l.container ++ rest) = some bytes := by
        cases hfits : hasNull (components l.container ++ rest) || demandsFolder l.key <;> simp_all
      exact ⟨hbelow, Node.isFolder_of_file? (List.prefix_append _ rest) (by simpa using hrest.symm)
        hfile⟩

/-- Filing one attachment never gets in the way of another. -/
theorem isOk_put_put {c c' n n' : String} (hc : s.place.HasContainer c)
    (hc' : s.place.HasContainer c') (hn : IsCode n) (hn' : IsCode n')
    (hreliable : ∀ k, s.refuses k = false) (e e' : EmailId) (bytes bytes' : Bytes) :
    ((s.put (attachmentAt c' e' n') bytes').2.put (attachmentAt c e n) bytes).1.isOk =
      (s.put (attachmentAt c e n) bytes).1.isOk := by
  simp only [isOk_put, refuses_put, hreliable, Bool.not_false, Bool.true_and, place_put]
  cases hp : s.place with
  | memory => rfl
  | files root =>
    rw [hp] at hc hc'
    have hpath := pathOf_attachmentAt e hc.1 hn
    have hpath' := pathOf_attachmentAt e' hc'.1 hn'
    have hcode {name : String} (h : IsCode name) : name ≠ "attachments" :=
      h.ne (c := 't') (by decide) (by decide)
    have haccepts := root.accepts_put bytes' hpath' (by simp)
      (fun habove hne => Node.isFolder_of_prefix
        (prefix_container (hcode (isCode_email e')) (hcode hn') habove hne) hc.2)
      (fun hbelow hne => Node.isFolder_of_prefix
        (prefix_container (hcode (isCode_email e)) (hcode hn) hbelow hne) hc'.2)
    simp only [Bool.false_eq_true, if_false]
    rw [Bool.eq_iff_iff, Node.put_isOk_iff _ bytes hpath (by simp),
      Node.put_isOk_iff _ bytes hpath (by simp), Node.Takes, Node.Takes, haccepts]

end Store

end Mailroom.Object
