import Mailroom.Sieve.Script

/-!
# Scripts under change

What a script says about its text is what a check of this text finds, whatever was asked of the
script before. It is active if it was put in use while its text was valid, and nothing has taken
it out of use since: neither a request nor an invalid text.
-/

namespace Mailroom.Sieve.Script

variable {s : Script}

/-- The fault that was found last is that of the text, and an active script has none. -/
structure Checked (s : Script) : Prop where
  lastFault : s.lastFault = fault? s.text
  valid : s.active = true → fault? s.text = none

/-- What takes a script out of use. -/
def Request.Stops : Request → Prop
  | .rename _ => False
  | .replace text => fault? text ≠ none
  | .switch on => on = false

def Request.textAfter (text : String) : Request → String
  | .replace new => new
  | .rename _ | .switch _ => text

-- ---------------------------------------------------------------------------
-- One request
-- ---------------------------------------------------------------------------

theorem checked_ofText (name text : String) (active : Bool) :
    (ofText name text active).Checked where
  lastFault := rfl
  valid h := by
    simpa [ofText] using (Bool.and_eq_true_iff.mp h).2

theorem handle_switch_false (s : Script) :
    s.handle (.switch false) = (.ok (), { s with active := false }) := by
  simp [handle, setActive]

theorem Checked.handle_switch_true (h : s.Checked) : s.handle (.switch true) =
    match fault? s.text with
    | some fault => (.error fault, s)
    | none => (.ok (), { s with active := true }) := by
  rw [← h.lastFault]
  cases hfault : s.lastFault <;> simp [handle, setActive, hfault]

theorem text_handle (s : Script) (request : Request) :
    (s.handle request).2.text = request.textAfter s.text := by
  cases request with
  | rename name => rfl
  | replace text => rfl
  | switch on =>
    cases on with
    | false => rw [handle_switch_false]; rfl
    | true => cases hfault : s.lastFault <;> simp [handle, setActive, hfault, Request.textAfter]

theorem Checked.handle (h : s.Checked) (request : Request) : (s.handle request).2.Checked := by
  cases request with
  | rename name => exact ⟨h.lastFault, h.valid⟩
  | replace text =>
    refine ⟨rfl, fun hactive => ?_⟩
    simpa [Script.handle, setText] using (Bool.and_eq_true_iff.mp hactive).2
  | switch on =>
    cases on with
    | false =>
      rw [handle_switch_false]
      exact ⟨h.lastFault, fun hactive => Bool.noConfusion hactive⟩
    | true =>
      rw [h.handle_switch_true]
      split
      · exact h
      · next hvalid => exact ⟨h.lastFault, fun _ => hvalid⟩

theorem Checked.active_handle_iff (h : s.Checked) (request : Request) :
    (s.handle request).2.active = true ↔
      s.active = true ∧ ¬ request.Stops ∨ request = .switch true ∧ fault? s.text = none := by
  cases request with
  | rename name => simp [Script.handle, setName, Request.Stops]
  | replace text => simp [Script.handle, setText, Request.Stops]
  | switch on =>
    cases on with
    | false => simp [handle_switch_false, Request.Stops]
    | true =>
      rw [h.handle_switch_true]
      cases hfault : fault? s.text with
      | none => simp
      | some fault => simp [Request.Stops]

-- ---------------------------------------------------------------------------
-- Many requests
-- ---------------------------------------------------------------------------

theorem text_handleAll (s : Script) (requests : List Request) :
    (s.handleAll requests).text = requests.foldl Request.textAfter s.text := by
  induction requests generalizing s with
  | nil => rfl
  | cons request rest ih => exact (ih _).trans (by rw [text_handle]; rfl)

theorem Checked.handleAll (h : s.Checked) (requests : List Request) :
    (s.handleAll requests).Checked := by
  induction requests generalizing s with
  | nil => exact h
  | cons request rest ih => exact ih (h.handle request)

theorem Checked.active_handleAll_iff (h : s.Checked) (requests : List Request) :
    (s.handleAll requests).active = true ↔
      (s.active = true ∧ ∀ request ∈ requests, ¬ request.Stops) ∨
        ∃ before later, requests = before ++ .switch true :: later ∧
          fault? (s.handleAll before).text = none ∧ ∀ request ∈ later, ¬ request.Stops := by
  induction requests generalizing s with
  | nil => simp [Script.handleAll]
  | cons request rest ih =>
    refine (ih (h.handle request)).trans ?_
    rw [h.active_handle_iff request]
    constructor
    · rintro (⟨⟨hactive, hgoes⟩ | ⟨rfl, hvalid⟩, hrest⟩ | ⟨before, later, rfl, hvalid, hlater⟩)
      · exact .inl ⟨hactive, List.forall_mem_cons.mpr ⟨hgoes, hrest⟩⟩
      · exact .inr ⟨[], rest, rfl, hvalid, hrest⟩
      · exact .inr ⟨request :: before, later, rfl, hvalid, hlater⟩
    · rintro (⟨hactive, hgoes⟩ | ⟨before, later, hsplit, hvalid, hlater⟩)
      · obtain ⟨hgoes, hrest⟩ := List.forall_mem_cons.mp hgoes
        exact .inl ⟨.inl ⟨hactive, hgoes⟩, hrest⟩
      · obtain ⟨rfl, hsplit⟩ | ⟨before', rfl, rfl⟩ := List.cons_eq_append_iff.mp hsplit
        · obtain ⟨rfl, rfl⟩ := List.cons.inj hsplit
          exact .inl ⟨.inr ⟨rfl, hvalid⟩, hlater⟩
        · exact .inr ⟨before', later, rfl, hvalid, hlater⟩

/-- Whatever is asked of a script: the fault it shows is that of its text, it is active only if
there is none, and a request to put it in use is refused with this very fault. It is active if
and only if the last request that had an effect on its use put it in use. -/
theorem answers_handleAll (name text : String) (wanted : Bool) (requests : List Request) :
    let s := (ofText name text wanted).handleAll requests
    s.text = requests.foldl Request.textAfter text ∧
    s.lastFault = fault? s.text ∧
    (s.active = true → fault? s.text = none) ∧
    (∀ fault, fault? s.text = some fault → s.handle (.switch true) = (.error fault, s)) ∧
    (fault? s.text = none → s.handle (.switch true) = (.ok (), { s with active := true })) ∧
    s.handle (.switch false) = (.ok (), { s with active := false }) ∧
    (∀ request, s.active = false → (s.handle request).2.active = true →
      request = .switch true ∧ fault? s.text = none) ∧
    (s.active = true ↔
      (wanted = true ∧ fault? text = none ∧ ∀ request ∈ requests, ¬ request.Stops) ∨
        ∃ before later, requests = before ++ .switch true :: later ∧
          fault? ((ofText name text wanted).handleAll before).text = none ∧
          ∀ request ∈ later, ¬ request.Stops) := by
  intro s
  have hchecked : s.Checked := (checked_ofText name text wanted).handleAll requests
  refine ⟨text_handleAll _ requests, hchecked.lastFault, hchecked.valid, fun fault hfault => ?_,
    fun hvalid => ?_, handle_switch_false s, fun request hidle hactive => ?_, ?_⟩
  · rw [hchecked.handle_switch_true, hfault]
  · rw [hchecked.handle_switch_true, hvalid]
  · obtain ⟨hs, -⟩ | hswitch := (hchecked.active_handle_iff request).mp hactive
    · exact absurd (hs.symm.trans hidle) Bool.noConfusion
    · exact hswitch
  · refine ((checked_ofText name text wanted).active_handleAll_iff requests).trans ?_
    simp only [ofText, Bool.and_eq_true, Option.isNone_iff_eq_none, and_assoc]

/-- A script in use gets an invalid text, which takes it out of use. It cannot be put in use, and
the next text, which is valid, does not put it in use by itself. -/
theorem answers_handleAll_repaired :
    let broken := (ofText "vacation" "keep;" true).handleAll [.replace "hello"]
    let repaired := (ofText "vacation" "keep;" true).handleAll
      [.replace "hello", .switch true, .replace "stop;", .rename "leave"]
    (ofText "vacation" "keep;" true).active = true ∧ broken.active = false ∧
      (∃ fault, broken.handle (.switch true) = (.error fault, broken)) ∧
      repaired.active = false ∧
      repaired.handle (.switch true) = (.ok (), { repaired with active := true }) := by
  intro broken repaired
  obtain ⟨fault, hfault⟩ : ∃ fault, fault? broken.text = some fault :=
    Option.isSome_iff_exists.mp (by decide +kernel)
  have hbroken := answers_handleAll "vacation" "keep;" true [.replace "hello"]
  have hrepaired := answers_handleAll "vacation" "keep;" true
    [.replace "hello", .switch true, .replace "stop;", .rename "leave"]
  exact ⟨by decide +kernel, by decide +kernel, ⟨fault, hbroken.2.2.2.1 fault hfault⟩,
    by decide +kernel, hrepaired.2.2.2.2.1 (by decide +kernel)⟩

end Mailroom.Sieve.Script
