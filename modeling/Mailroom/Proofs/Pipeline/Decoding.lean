import Mailroom.Pipeline.Decoding
import Mailroom.Proofs.Object.Filing
import Mailroom.Proofs.Pipeline.Evaluation
import Mailroom.Proofs.Store.Attachments

/-!
# What decoding leaves behind

A raw message that cannot be fetched and an update that fails leave mail and objects as they were.
After the update nothing stops a decoding: an attachment whose bytes cannot be put gets a row
without a location, and one whose row cannot be added goes without it.
-/

namespace Mailroom.Pipeline.Decoding

open Mailroom.Mail
open Mailroom.Mime (Enclosure Extracted)
open Mailroom.Object (IsCode attachmentAt isCode_hex)
open Mailroom.Store

-- ---------------------------------------------------------------------------
-- The email
-- ---------------------------------------------------------------------------

/-- The row of an email with what its message holds. All other columns are as they were. -/
def filledRow (x : Extracted) (size : Nat) (row : EmailRow) : EmailRow :=
  { row with
    textBody := x.text
    htmlBody := x.html
    size := size
    hasAttachments := x.enclosures ≠ []
    snippet :=
      match x.text.filter (· ≠ "") with
      | none => row.snippet
      | some text =>
        String.ofList (text.toList.take 200) ++ if 200 < text.toList.length then "..." else "" }

theorem snippet_eq (text : String) :
    snippet text =
      String.ofList (text.toList.take 200) ++ if 200 < text.toList.length then "..." else "" := by
  unfold snippet snippetLength
  by_cases hlong : 200 < text.toList.length
  · simp only [if_pos hlong, if_neg (Nat.not_le.mpr hlong), String.ofList_append]
  · have hshort := Nat.not_lt.mp hlong
    simp only [if_neg hlong, if_pos hshort, List.take_of_length_le hshort, String.ofList_toList,
      String.append_empty]

theorem isEmpty_update (x : Extracted) (size : Nat) : (update x size).isEmpty = false := by
  simp only [update]
  split <;> rfl

theorem foldl_assign_update (x : Extracted) (size : Nat) (row : EmailRow) :
    (update x size).assignments.foldl EmailRow.assign row = filledRow x size row := by
  have hflag : (!x.enclosures.isEmpty) = decide (x.enclosures ≠ []) := by
    cases x.enclosures <;> rfl
  unfold update filledRow
  rw [hflag]
  cases htext : x.text with
  | none => rfl
  | some text =>
    by_cases hempty : text = ""
    · subst hempty
      rfl
    · have hsome : (some text).filter (fun t => decide (t ≠ "")) = some text := by simp [hempty]
      have hfull : text.isEmpty = false := by simpa using hempty
      simp only [hsome, Option.getD_some, hfull, ← snippet_eq]
      rfl

-- ---------------------------------------------------------------------------
-- Attachments
-- ---------------------------------------------------------------------------

structure Saving where
  enclosure : Enclosure
  stored : Except Error Unit
  added : Except Error Attachment

namespace Saving

def checksum (v : Saving) : String := Codec.Sha256.hex v.enclosure.bytes

def location (id : EmailId) (container : String) (v : Saving) : Location :=
  ⟨container, s!"attachments/{id}/{v.checksum}"⟩

def row (id : EmailId) (container : String) (v : Saving) : NewAttachment where
  email := id
  filename := v.enclosure.filename
  contentType := v.enclosure.contentType
  size := v.enclosure.bytes.length
  checksum := v.checksum
  contentId := v.enclosure.contentId
  inline := v.enclosure.inline
  storage := if v.stored.isOk then some (v.location id container) else none

end Saving

/-- The bytes and rows of attachments are stored one after the other, and answered like this. -/
inductive Saves (id : EmailId) (container : String) : State → List Saving → State → Prop
  | done (s : State) : Saves id container s [] s
  | more {s t : State} {v : Saving} {rest : List Saving} {objects : Object.Store}
      {database : Database}
      (hput : s.objects.put (v.location id container) v.enclosure.bytes = (v.stored, objects))
      (hadd : s.database.addAttachment (v.row id container) = (v.added, database))
      (hrest : Saves id container { s with objects, database } rest t) :
      Saves id container s (v :: rest) t

/-- The rows that came of some attachments. -/
def rowsOf (id : EmailId) (container : String) (savings : List Saving) : List NewAttachment :=
  (savings.filter (·.added.isOk)).map (Saving.row id container)

theorem Saves.tables {id : EmailId} {container : String} {s t : State} {savings : List Saving}
    (h : Saves id container s savings t) :
    t.database.tables = { s.database.tables with
      attachments := ⟨s.database.tables.attachments.rows ++ rowsOf id container savings⟩ } := by
  induction h with
  | done => simp [rowsOf]
  | @more s t v rest objects database hput hadd hrest ih =>
    have hrow := s.database.tables_addAttachment (v.row id container)
    rw [hadd] at hrow
    rw [ih]
    simp only at hrow ⊢
    rw [hrow]
    cases hadded : v.added.isOk with
    | true => simp [rowsOf, hadded, Table.insert]
    | false => simp [rowsOf, hadded]

theorem Saves.fetch_or {id : EmailId} {container : String} {s t : State} {savings : List Saving}
    (h : Saves id container s savings t) {code : String} (hcode : IsCode code) :
    (t.objects.fetch (attachmentAt container id code)).toOption =
        (s.objects.fetch (attachmentAt container id code)).toOption ∨
      ∃ v ∈ savings, v.checksum = code ∧
        t.objects.fetch (attachmentAt container id code) = .ok v.enclosure.bytes := by
  induction h with
  | done => exact .inl rfl
  | @more s t v rest objects database hput hadd hrest ih =>
    obtain rfl : (s.objects.put (v.location id container) v.enclosure.bytes).2 = objects := by
      rw [hput]
    obtain hsame | ⟨w, hw, hchecksum, hfetch⟩ := ih
    · rw [hsame]
      by_cases hchecksum : code = v.checksum
      · subst hchecksum
        cases hok : (s.objects.put (v.location id container) v.enclosure.bytes).1.isOk with
        | true =>
          have hfetch := Object.Store.fetch_put_self hok
          refine .inr ⟨v, List.mem_cons_self, rfl, Answer.toOption_eq_some_iff.mp ?_⟩
          exact hsame.trans (congrArg Except.toOption hfetch)
        | false => exact .inl (Object.Store.fetch_toOption_put_of_fails hok)
      · refine .inl (Object.Store.fetch_toOption_put fun hpath => hchecksum ?_)
        exact hpath.name_eq hcode (isCode_hex _)
    · exact .inr ⟨w, List.mem_cons_of_mem v hw, hchecksum, hfetch⟩

/-- An attachment whose bytes could be put lies at its location afterwards. Only an attachment
with the same checksum could have taken its place. -/
theorem Saves.fetch {id : EmailId} {container : String} {s t : State} {savings : List Saving}
    (h : Saves id container s savings t) {v : Saving} (hv : v ∈ savings)
    (hok : v.stored.isOk = true) : ∃ w ∈ savings, w.checksum = v.checksum ∧
      t.objects.fetch (v.location id container) = .ok w.enclosure.bytes := by
  induction h with
  | done => cases hv
  | @more s t first rest objects database hput hadd hrest ih =>
    rcases List.mem_cons.mp hv with rfl | hv
    · have hstored : (s.objects.put (v.location id container) v.enclosure.bytes).1.isOk = true := by
        rw [hput]
        exact hok
      have hfetch := Object.Store.fetch_put_self hstored
      rw [hput] at hfetch
      obtain hsame | ⟨w, hw, hchecksum, hlater⟩ := hrest.fetch_or (isCode_hex v.enclosure.bytes)
      · refine ⟨v, List.mem_cons_self, rfl, Answer.toOption_eq_some_iff.mp ?_⟩
        exact hsame.trans (congrArg Except.toOption hfetch)
      · exact ⟨w, List.mem_cons_of_mem v hw, hchecksum, hlater⟩
    · obtain ⟨w, hw, hchecksum, hfetch⟩ := ih hv
      exact ⟨w, List.mem_cons_of_mem first hw, hchecksum, hfetch⟩

theorem perform_save (id : EmailId) (container : String) (e : Enclosure) (s : State) :
    ∃ v : Saving, ∃ objects database, v.enclosure = e ∧
      s.objects.put (v.location id container) v.enclosure.bytes = (v.stored, objects) ∧
      s.database.addAttachment (v.row id container) = (v.added, database) ∧
      (save id container e).perform s = (.ok (), { s with objects, database }) := by
  let stored := (s.objects.put (place id container e) e.bytes).1
  let row := attachment id e (stored.toOption.map fun _ => place id container e)
  let v : Saving := ⟨e, stored, (s.database.addAttachment row).1⟩
  have hrow : v.row id container = row := by
    simp only [v, row, Saving.row, attachment]
    cases stored <;> rfl
  refine ⟨v, _, _, rfl, rfl, ?_, rfl⟩
  rw [hrow]

theorem perform_saves (id : EmailId) (container : String) (enclosures : List Enclosure)
    (s : State) : ∃ savings t, savings.map Saving.enclosure = enclosures ∧
      Saves id container s savings t ∧
      (enclosures.forM (save id container)).perform s = (.ok (), t) := by
  induction enclosures generalizing s with
  | nil => exact ⟨[], s, rfl, .done s, rfl⟩
  | cons e rest ih =>
    obtain ⟨v, objects, database, rfl, hput, hadd, hsave⟩ := perform_save id container e s
    obtain ⟨savings, t, rfl, hsaves, hrest⟩ := ih { s with objects, database }
    refine ⟨v :: savings, t, rfl, .more hput hadd hsaves, ?_⟩
    show (save id container v.enclosure >>= fun _ =>
      (savings.map Saving.enclosure).forM (save id container)).perform s = _
    rw [Work.perform_bind_ok _ hsave, hrest]

-- ---------------------------------------------------------------------------
-- Decoding
-- ---------------------------------------------------------------------------

theorem perform_decode_fetched {id : EmailId} {source : Location} {s : State} {raw : Object.Bytes}
    (h : s.objects.fetch source = .ok raw) : (decode id source).perform s =
      (Work.change (·.applyUpdate id (update (.ofRaw raw) raw.length)) >>= fun _ =>
        (Extracted.ofRaw raw).enclosures.forM (save id source.container)).perform s := by
  have hfetch : (Work.attempt (Work.fetch source)).perform s = (.ok (.ok raw), s) := by
    rw [Work.perform_attempt, Work.perform_fetch, h]
  unfold decode
  rw [Work.perform_bind_ok _ hfetch]

/-- A message that cannot be fetched changes nothing, and neither does an update that fails, but
only the latter is an error. Otherwise the columns of the email are filled in, and each attachment
whose row can be added gets one, with a location if its bytes could be put there. -/
theorem perform_decode (id : EmailId) (source : Location) (s : State) :
    (∀ e, s.objects.fetch source = .error e → (decode id source).perform s = (.ok (), s)) ∧
    ∀ raw, s.objects.fetch source = .ok raw → ∀ answer database,
      s.database.applyUpdate id (update (.ofRaw raw) raw.length) = (answer, database) →
      (∀ e, answer = .error e →
        (decode id source).perform s = (.error e, { s with database }) ∧
          database.tables = s.database.tables) ∧
      (answer = .ok () → (s.database.tables.emails.get? id).isSome = true ∧
        ∃ savings t, (decode id source).perform s = (.ok (), t) ∧
          savings.map Saving.enclosure = (Extracted.ofRaw raw).enclosures ∧
          Saves id source.container { s with database } savings t ∧
          t.database.tables = { s.database.tables with
            emails := s.database.tables.emails.modify id (filledRow (.ofRaw raw) raw.length)
            attachments := ⟨s.database.tables.attachments.rows ++
              rowsOf id source.container savings⟩ }) := by
  refine ⟨fun e hfetch => ?_, fun raw hfetch answer database hupdate => ?_⟩
  · have hfailed : (Work.attempt (Work.fetch source)).perform s = (.ok (.error e), s) := by
      rw [Work.perform_attempt, Work.perform_fetch, hfetch]
    unfold decode
    rw [Work.perform_bind_ok _ hfailed, Work.perform_pure]
  have hchange : (Work.change (·.applyUpdate id (update (.ofRaw raw) raw.length))).perform s =
      (answer, { s with database }) := by
    rw [Work.perform_change, hupdate]
  have hcases := s.database.tables_applyUpdate id (isEmpty_update (.ofRaw raw) raw.length)
  rw [hupdate] at hcases
  rw [perform_decode_fetched hfetch]
  rcases hcases with ⟨⟨e, he⟩, hsame⟩ | ⟨hok, hstored, htables⟩
  · obtain rfl : answer = .error e := he
    refine ⟨fun e' he' => ?_, nofun⟩
    obtain rfl := Except.error.inj he'
    exact ⟨Work.perform_bind_error _ hchange, hsame⟩
  · obtain rfl : answer = .ok () := hok
    refine ⟨nofun, fun _ => ⟨hstored, ?_⟩⟩
    obtain ⟨savings, t, hsavings, hsaves, hrest⟩ :=
      perform_saves id source.container (Extracted.ofRaw raw).enclosures { s with database }
    refine ⟨savings, t, (Work.perform_bind_ok _ hchange).trans hrest, hsavings, hsaves, ?_⟩
    rw [hsaves.tables]
    simp only at htables ⊢
    simp only [htables, foldl_assign_update]

namespace Sample

def message : Object.Bytes :=
  Text.bytes ("Content-Type: multipart/x;boundary=b\n\n--b\n\nhi\n" ++
    "--b\nContent-Disposition: attachment\n\n1\n" ++
    "--b\nContent-Disposition: attachment\n\n22\n--b--")

def source : Location := ⟨"box", "raw"⟩

/-- The bytes of the first attachment cannot be put, and the row of the second one cannot be
added. -/
def start : State where
  database := { Database.empty with
    tables := { Tables.empty with emails := ⟨[Evaluation.Sample.row]⟩ }
    refuses := fun n _ => n == 2 }
  objects := { place := .memory (Object.Memory.empty.put source message)
               refuses := fun n => n == 0
               writes := 0 }
  queue := .empty

def expected : Except Error Unit × State → Bool := fun (answer, after) =>
  answer.isOk ∧
    after.database.tables.emails.rows.map (fun row => (row.snippet, row.hasAttachments)) =
      [("hi", true)] ∧
    after.database.tables.attachments.rows.map (fun row => (row.size, row.storage.isSome)) =
      [(1, false)]

theorem fetch_source : start.objects.fetch source = .ok message := by
  simp [start, Object.Store.fetch, Object.Memory.fetch, Object.Memory.get?, Object.Memory.put,
    Object.Memory.putIn, Object.Memory.empty]

theorem runs : expected ((decode 1 source).perform start) = true := by decide +kernel

theorem bytes_enclosures :
    (Extracted.ofRaw message).enclosures.map Enclosure.bytes = [[0x31], [0x32, 0x32]] := by
  decide +kernel

theorem hex_ne : Codec.Sha256.hex [0x31] ≠ Codec.Sha256.hex [0x32, 0x32] := by decide +kernel

theorem stored_second {v w : Saving} {database : Database} {t : State}
    (h : Saves 1 "box" { start with database } [v, w] t) : w.stored = .ok () := by
  obtain _ | ⟨hput, -, hrest⟩ := h
  obtain _ | ⟨hput', -, -⟩ := hrest
  simp only [start, Object.Store.put, BEq.rfl, if_true, Prod.mk.injEq] at hput
  obtain ⟨-, rfl⟩ := hput
  simp only [Object.Store.put, Nat.reduceAdd, Nat.reduceBEq, Bool.false_eq_true, if_false,
    Prod.mk.injEq] at hput'
  exact hput'.1.symm

end Sample

/-- The first attachment has a row without a location, and the second one has none, but lies where
it was put. -/
theorem perform_decode_sample : ∃ savings t,
    (decode 1 Sample.source).perform Sample.start = (.ok (), t) ∧
      savings.map Saving.enclosure = (Extracted.ofRaw Sample.message).enclosures ∧
      t.database.tables.emails.rows.map (fun row => (row.snippet, row.hasAttachments)) =
        [("hi", true)] ∧
      t.database.tables.attachments.rows = rowsOf 1 "box" savings ∧
      t.database.tables.attachments.rows.map (fun row => (row.size, row.storage.isSome)) =
        [(1, false)] ∧
      t.objects.fetch (attachmentAt "box" 1 (Codec.Sha256.hex [0x32, 0x32])) =
        .ok [0x32, 0x32] := by
  obtain ⟨-, hfetched⟩ := perform_decode 1 Sample.source Sample.start
  have hruns := Sample.runs
  cases hupdate : Sample.start.database.applyUpdate 1
    (update (.ofRaw Sample.message) Sample.message.length) with
  | mk answer database =>
    obtain ⟨hfails, hdone⟩ := hfetched Sample.message Sample.fetch_source answer database hupdate
    cases answer with
    | error e =>
      rw [(hfails e rfl).1] at hruns
      cases hruns
    | ok _ =>
      obtain ⟨-, savings, t, hperform, hsavings, hsaves, htables⟩ := hdone rfl
      rw [hperform] at hruns
      obtain ⟨-, hemails, hrows⟩ := of_decide_eq_true hruns
      refine ⟨savings, t, hperform, hsavings, hemails, ?_, hrows, ?_⟩
      · rw [htables]
        exact List.nil_append _
      · have hbytes := Sample.bytes_enclosures
        rw [← hsavings, List.map_map] at hbytes
        obtain ⟨v, _, rfl, hv, hbytes⟩ := List.map_eq_cons_iff.mp hbytes
        obtain ⟨w, rfl, hw⟩ := List.map_eq_singleton_iff.mp hbytes
        have hstored := Sample.stored_second hsaves
        obtain ⟨u, hu, hchecksum, hfetch⟩ := hsaves.fetch (v := w) (by simp) (by rw [hstored]; rfl)
        simp only [Function.comp_apply] at hv hw
        simp only [Saving.checksum, hw] at hchecksum
        rw [Saving.location, Saving.checksum, hw] at hfetch
        obtain rfl | rfl : u = v ∨ u = w := by simpa using hu
        · rw [hv] at hchecksum
          exact absurd hchecksum Sample.hex_ne
        · rw [hw] at hfetch
          exact hfetch

end Mailroom.Pipeline.Decoding
