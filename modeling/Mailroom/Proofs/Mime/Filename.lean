import Mailroom.Mime.Extract
import Mailroom.Proofs.Mime.EncodedWord
import Mailroom.Proofs.Mime.Extended

/-!
# File names

Encoded words are decoded in every file name, also in one whose characters were escaped and declared
to be UTF-8. So a name that was given in this form comes back unless it looks like encoded words
itself (`parse_extended`). And they are decoded after the name has been chosen among those that are
given, so a name of words that hold nothing is chosen, and leaves the attachment without a name
(`filename_of_mem_ofRaw`).
-/

namespace Mailroom.Mime

-- ---------------------------------------------------------------------------
-- Names in an extended parameter
-- ---------------------------------------------------------------------------

namespace Parameters

theorem get?_whole {name v : String} {head written : List Char} (hname : Key name.toList)
    (hhead : Closed head) (h : Encodes (Text.bytes v) written) :
    ∃ parameters, split (String.ofList
        (head ++ ';' :: ' ' :: (name.toList ++ '*' :: '=' :: (declaration ++ written)))) =
      (String.ofList (Text.trim head), parameters) ∧ parameters.get? name = some v := by
  have hspace : Blank [' '] := by simp [Blank, Text.isBlank]
  have hnone : Blank [] := by simp [Blank]
  have hsegment : WritesFrom name.toList 1 0 [Text.bytes v]
      [' ' :: (name.toList ++ '*' :: '=' :: (declaration ++ written))] := by
    refine .cons ?_ (.nil 1)
    simpa using WritesSegment.intro hspace hnone hnone hnone (.whole h rfl)
  obtain ⟨parts, hparts, horder, hne, hjoined⟩ :=
    hsegment.read hname (List.cons_ne_nil _ _) (Nat.one_le_two_pow (n := 32))
  have hsplit := split_closed hhead (hsegment.closed hname)
  simp only [List.flatMap_cons, List.flatMap_nil, List.append_nil] at hsplit
  refine ⟨_, hsplit, ?_⟩
  have hlower : Text.lowerAscii name = name :=
    (congrArg String.ofList hname.lower).trans String.ofList_toList
  have hentries : (parts.map (Entry.part name)).Perm (parts.map (.part name) ++ []) := by
    rw [List.append_nil]
  have hvalue := valueOf?_mixed horder hne (by simpa using hjoined) rfl hentries
    (List.nil_sublist _) name
  rw [get?_ofSegments, hparts, String.ofList_toList, hlower, hvalue, if_pos rfl]

end Parameters

namespace Disposition

theorem parse_extended {v : String} {written : List Char} (hv : v ≠ "")
    (h : Parameters.Encodes (Text.bytes v) written) :
    ∃ d, parse (String.ofList ("attachment; filename*=utf-8''".toList ++ written)) = .ok d ∧
      d.kind = .attachment ∧ d.filename? = some (EncodedWord.decodeOrKeep v) ∧
      (d.filename? = some v ↔
        ¬ (EncodedWord.HasWord v.toList ∧ (EncodedWord.decode v).isOk = true)) := by
  have hname : Parameters.Key "filename".toList := by decide
  have hhead : Parameters.Closed "attachment".toList :=
    Parameters.closed_of_not_mem (by decide) (by decide)
  obtain ⟨parameters, hsplit, hget⟩ := Parameters.get?_whole hname hhead h
  have htoken : String.ofList (Text.trim "attachment".toList) = "attachment" := by decide
  have hparse : parse (String.ofList ("attachment; filename*=utf-8''".toList ++ written)) =
      .ok ⟨.attachment, parameters⟩ := by
    have hvalue : "attachment; filename*=utf-8''".toList ++ written =
        "attachment".toList ++ ';' :: ' ' ::
          ("filename".toList ++ '*' :: '=' :: (Parameters.declaration ++ written)) := rfl
    rw [hvalue, parse, hsplit, htoken]
    rfl
  have hfilename : filename? ⟨.attachment, parameters⟩ = some (EncodedWord.decodeOrKeep v) := by
    simp [filename?, hget, hv]
  refine ⟨_, hparse, rfl, hfilename, ?_⟩
  rw [hfilename, Option.some.injEq]
  exact EncodedWord.decodeOrKeep_eq_self_iff

/-- What opens like an encoded word and does not go on like one is part of the name. -/
theorem parse_extended_opening :
    "é=?" ≠ "" ∧ Parameters.Encodes (Text.bytes "é=?") "%C3%a9%3D%3F".toList ∧
      ∃ d, parse "attachment; filename*=utf-8''%C3%a9%3D%3F" = .ok d ∧
        d.filename? = some "é=?" := by
  have h : Parameters.Encodes (Text.bytes "é=?") "%C3%a9%3D%3F".toList :=
    @Parameters.Encodes.escaped 'C' '3' 12 3 _ _ rfl rfl <|
      @Parameters.Encodes.escaped 'a' '9' 10 9 _ _ rfl rfl <|
      @Parameters.Encodes.escaped '3' 'D' 3 13 _ _ rfl rfl <|
      @Parameters.Encodes.escaped '3' 'F' 3 15 _ _ rfl rfl .nil
  have hne : "é=?" ≠ "" := by decide
  obtain ⟨d, hparse, -, hfilename, -⟩ := parse_extended hne h
  have hkept : EncodedWord.decodeOrKeep "é=?" = "é=?" := by decide +kernel
  exact ⟨hne, h, d, hparse, hfilename.trans (congrArg some hkept)⟩

/-- A name that is an encoded word itself is decoded once more. -/
theorem parse_extended_word :
    Parameters.Encodes (Text.bytes "=?utf-8?Q?a?=") "%3D%3Futf-8%3FQ%3Fa%3F%3D".toList ∧
      (parse "attachment; filename*=utf-8''%3D%3Futf-8%3FQ%3Fa%3F%3D").toOption.bind filename? =
        some "a" := by
  have hequals {bs : List UInt8} {cs : List Char} (h : Parameters.Encodes bs cs) :
      Parameters.Encodes (0x3d :: bs) ('%' :: '3' :: 'D' :: cs) :=
    @Parameters.Encodes.escaped '3' 'D' 3 13 _ _ rfl rfl h
  have hmark {bs : List UInt8} {cs : List Char} (h : Parameters.Encodes bs cs) :
      Parameters.Encodes (0x3f :: bs) ('%' :: '3' :: 'F' :: cs) :=
    @Parameters.Encodes.escaped '3' 'F' 3 15 _ _ rfl rfl h
  refine ⟨hequals (hmark ?_), by decide +kernel⟩
  exact @Parameters.Encodes.literal 'u' _ _ rfl <| @Parameters.Encodes.literal 't' _ _ rfl <|
    @Parameters.Encodes.literal 'f' _ _ rfl <| @Parameters.Encodes.literal '-' _ _ rfl <|
    @Parameters.Encodes.literal '8' _ _ rfl <| hmark <|
    @Parameters.Encodes.literal 'Q' _ _ rfl <| hmark <|
    @Parameters.Encodes.literal 'a' _ _ rfl <| hmark <| hequals .nil

end Disposition

-- ---------------------------------------------------------------------------
-- Names of attachments
-- ---------------------------------------------------------------------------

namespace EncodedWord

theorem decodeOrKeep_eq_empty_iff {text : String} :
    decodeOrKeep text = "" ↔ Hollow false text.toList := by
  rw [← decode_eq_empty_iff]
  unfold decodeOrKeep
  cases h : decode text with
  | ok decoded => simp [Except.toOption]
  | error fault =>
    simp only [Except.toOption, Option.getD_none, reduceCtorEq, iff_false]
    rintro rfl
    rw [decode_eq_empty_iff.mpr .nil] at h
    cases h

end EncodedWord

def chosenName (names : List String) : String :=
  ((names.find? (· ≠ "")).map EncodedWord.decodeOrKeep).getD "attachment"

/-- The first name that is not empty when it is decoded, or the stand-in. -/
def promisedName (names : List String) : String :=
  ((names.map EncodedWord.decodeOrKeep).find? (· ≠ "")).getD "attachment"

/-- The first name that is not empty is made of words that hold nothing. -/
def NameVanishes (names : List String) : Prop :=
  ∃ name ∈ names.find? (· ≠ ""), EncodedWord.Hollow false name.toList

theorem find?_named {name : String} (names : List String) (h : name ≠ "") :
    (name :: names).find? (· ≠ "") = some name :=
  List.find?_cons_of_pos (decide_eq_true h)

theorem promisedName_ne_empty (names : List String) : promisedName names ≠ "" := by
  unfold promisedName
  cases h : (names.map EncodedWord.decodeOrKeep).find? (· ≠ "") with
  | none => decide
  | some name => simpa using List.find?_some h

/-- Choosing and decoding come to the same in either order unless the chosen name vanishes. -/
theorem chosenName_cases (names : List String) :
    (¬ NameVanishes names ∧ chosenName names = promisedName names) ∨
      (NameVanishes names ∧ chosenName names = "") := by
  induction names with
  | nil => exact .inl ⟨by simp [NameVanishes], rfl⟩
  | cons name names ih =>
    by_cases hname : name = ""
    · subst hname
      have hempty : EncodedWord.decodeOrKeep "" = "" :=
        EncodedWord.decodeOrKeep_eq_empty_iff.mpr .nil
      simpa [NameVanishes, chosenName, promisedName, hempty] using ih
    · have hfind := find?_named names hname
      have hchosen : chosenName (name :: names) = EncodedWord.decodeOrKeep name := by
        rw [chosenName, hfind]
        rfl
      have hvanishes : NameVanishes (name :: names) ↔ EncodedWord.decodeOrKeep name = "" := by
        rw [NameVanishes, hfind, EncodedWord.decodeOrKeep_eq_empty_iff]
        simp
      rw [hchosen, hvanishes]
      by_cases hdecoded : EncodedWord.decodeOrKeep name = ""
      · exact .inr ⟨hdecoded, hdecoded⟩
      · refine .inl ⟨hdecoded, ?_⟩
        rw [promisedName, List.map_cons, find?_named _ hdecoded]
        rfl

def Part.givenNames (p : Part) : List String :=
  (p.disposition?.bind (·.parameters.get? "filename")).toList ++
    (p.contentType.toOption.bind ContentType.name?).toList

namespace Extracted

theorem filename_eq_chosenName (p : Part) :
    filename p.disposition? p.contentType.toOption = chosenName p.givenNames := by
  have hdisposition : p.disposition?.bind Disposition.filename? =
      ((p.disposition?.bind (·.parameters.get? "filename")).filter (!·.isEmpty)).map
        EncodedWord.decodeOrKeep := by
    cases p.disposition? <;> rfl
  have hfind (given : Option String) :
      given.toList.find? (· ≠ "") = given.filter (!·.isEmpty) := by
    cases given with
    | none => rfl
    | some name => by_cases hname : name = "" <;> simp [hname, Option.filter]
  rw [filename, hdisposition, chosenName, Part.givenNames, List.find?_append, hfind, hfind]
  cases (p.disposition?.bind (·.parameters.get? "filename")).filter (!·.isEmpty) with
  | some name => rfl
  | none => cases (p.contentType.toOption.bind ContentType.name?).filter (!·.isEmpty) <;> rfl

theorem enclosures_addLeaf (x : Extracted) (p : Part) : (addLeaf x p).enclosures = x.enclosures ∨
    ∃ inline, (addLeaf x p).enclosures = x.enclosures ++ [enclosure p inline] := by
  unfold addLeaf
  simp only
  split
  · exact .inl rfl
  · split
    · exact .inl rfl
    · split
      · exact .inr ⟨_, rfl⟩
      · exact .inl rfl

theorem of_mem_foldl_addLeaf {leaves : List Part} {x : Extracted} {e : Enclosure}
    (h : e ∈ (leaves.foldl addLeaf x).enclosures) :
    e ∈ x.enclosures ∨ ∃ p ∈ leaves, e = enclosure p e.inline := by
  induction leaves generalizing x with
  | nil => exact .inl h
  | cons p leaves ih =>
    rcases ih h with hadded | ⟨q, hq, he⟩
    · rcases enclosures_addLeaf x p with hsame | ⟨inline, hone⟩
      · exact .inl (hsame ▸ hadded)
      · rw [hone] at hadded
        rcases List.mem_append.mp hadded with hold | hnew
        · exact .inl hold
        · obtain rfl := List.mem_singleton.mp hnew
          exact .inr ⟨p, List.mem_cons_self, rfl⟩
    · exact .inr ⟨q, List.mem_cons_of_mem p hq, he⟩

theorem exists_part_of_mem {raw : List UInt8} {e : Enclosure} (h : e ∈ (ofRaw raw).enclosures) :
    ∃ message, Message.parse raw = .ok message ∧ ∃ p ∈ message.parts, e = enclosure p e.inline := by
  unfold ofRaw at h
  split at h
  · exact nomatch h
  · next message hparse =>
    refine ⟨message, hparse, ?_⟩
    split at h
    · exact nomatch h
    · split at h
      · exact (of_mem_foldl_addLeaf h).resolve_left (List.not_mem_nil)
      · split at h
        · exact nomatch h
        · split at h
          · exact nomatch h
          · exact nomatch h

/-- Every attachment is a leaf of the message, and its name is the promised one exactly if the
chosen one does not vanish. It has no name exactly if that one does. -/
theorem filename_of_mem_ofRaw {raw : List UInt8} {e : Enclosure}
    (h : e ∈ (ofRaw raw).enclosures) : ∃ message, Message.parse raw = .ok message ∧
      ∃ p ∈ message.parts, e = enclosure p e.inline ∧
        (e.filename = promisedName p.givenNames ↔ ¬ NameVanishes p.givenNames) ∧
        (e.filename = "" ↔ NameVanishes p.givenNames) := by
  obtain ⟨message, hparse, p, hp, he⟩ := exists_part_of_mem h
  have hname : e.filename = chosenName p.givenNames := by
    rw [he]
    exact filename_eq_chosenName p
  have hpromised := promisedName_ne_empty p.givenNames
  refine ⟨message, hparse, p, hp, he, ?_⟩
  rw [hname]
  rcases chosenName_cases p.givenNames with ⟨hstays, hsame⟩ | ⟨hvanishes, hempty⟩
  · rw [hsame]
    exact ⟨⟨fun _ => hstays, fun _ => rfl⟩, ⟨fun he => absurd he hpromised,
      fun hvanishes => absurd hvanishes hstays⟩⟩
  · rw [hempty]
    exact ⟨⟨fun he => absurd he.symm hpromised, fun hstays => absurd hvanishes hstays⟩,
      ⟨fun _ => hvanishes, fun _ => rfl⟩⟩

def messageOf (fields : List String) : List UInt8 :=
  (["Content-Type: multipart/mixed; boundary=b", "", "--b"] ++ fields ++ ["", "x", "--b--"]).flatMap
    fun line => Text.bytes line ++ [0x0d, 0x0a]

def named : List UInt8 := messageOf
  ["Content-Type: text/csv; name=\"=?utf-8?B?w6k=?=\"",
    "Content-Disposition: inline; filename=\"\""]

def unnamed : List UInt8 := messageOf
  ["Content-Type: text/csv", "Content-Disposition: attachment; filename=\"=?utf-8?Q??=\""]

/-- An empty name in the disposition, and an encoded one in the type. -/
theorem filename_of_mem_named : (ofRaw named).enclosures = [⟨"é", "text/csv", none, true, [0x78]⟩] ∧
    ∃ message, Message.parse named = .ok message ∧
      ∃ p ∈ message.parts, promisedName p.givenNames = "é" := by
  have hread : (ofRaw named).enclosures = [⟨"é", "text/csv", none, true, [0x78]⟩] := by
    decide +kernel
  have hmem : ⟨"é", "text/csv", none, true, [0x78]⟩ ∈ (ofRaw named).enclosures :=
    hread ▸ List.mem_singleton_self _
  obtain ⟨message, hparse, p, hp, -, hpromised, hempty⟩ := filename_of_mem_ofRaw hmem
  exact ⟨hread, message, hparse, p, hp,
    (hpromised.mpr fun hvanishes => absurd (hempty.mpr hvanishes) (by decide)).symm⟩

/-- The name in the disposition is a word that holds nothing. -/
theorem filename_of_mem_unnamed :
    (ofRaw unnamed).enclosures = [⟨"", "text/csv", none, false, [0x78]⟩] := by
  decide +kernel

end Extracted

end Mailroom.Mime
