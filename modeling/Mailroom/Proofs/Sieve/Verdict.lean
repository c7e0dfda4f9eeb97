import Mailroom.Proofs.Text.Blank
import Mailroom.Proofs.Text.Cut
import Mailroom.Sieve.Validation

/-!
# What the checks find

The verdict on a text, said of the text alone: where the first list of required capabilities
stands and what it names, how braces are counted in its beginnings, and what its lines look like.
The checks find it for every text (`validate_eq_iff`).

Depths are natural numbers. A depth is at most the length of the text, so that a signed counter of
64 bits has the same value for every text of fewer than 2^63 characters.
-/

namespace Mailroom.Sieve

-- ---------------------------------------------------------------------------
-- Verdicts
-- ---------------------------------------------------------------------------

/-- At the beginning of the text `require`, white space and brackets follow one another, and what
stands between the brackets is not empty. -/
def Requires (text list : List Char) : Prop :=
  ∃ blanks rest, text = "require".toList ++ (blanks ++ '[' :: (list ++ ']' :: rest)) ∧
    blanks ≠ [] ∧ (∀ c ∈ blanks, Text.isBlank c = true) ∧ list ≠ [] ∧ ']' ∉ list

def FirstRequired (text list : List Char) : Prop :=
  ∃ place, Requires (text.drop place) list ∧
    ∀ earlier < place, ∀ other, ¬ Requires (text.drop earlier) other

/-- The first of the pieces between separators whose reading is not good. -/
def FirstBad {β : Type} (sep : Char) (Reads : List Char → β → Prop) (Good : β → Prop)
    (text : List Char) (found : β) : Prop :=
  ∃ before piece after, Text.IsSplit sep text (before ++ piece :: after) ∧
    (∀ other ∈ before, ∃ reading, Reads other reading ∧ Good reading) ∧
    Reads piece found ∧ ¬ Good found

/-- An item of a list stands for the name between its blanks and then its quotes. -/
def Names (item : List Char) (name : String) : Prop :=
  ∃ bare, Text.IsTrim Text.isBlank item bare ∧ Text.IsTrim (· == '"') bare name.toList

def RequiresUnknown (text : List Char) (name : String) : Prop :=
  ∃ list, FirstRequired text list ∧ FirstBad ',' Names (· ∈ capabilities) list name

/-- Some beginning of the text has more closing braces than opening ones. -/
def ClosesTooOften (text : List Char) : Prop :=
  ∃ front, front <+: text ∧ front.count '\x7b' < front.count '\x7d'

inductive Acceptable (line : List Char) : Prop
  | empty (h : line = [])
  | comment (h : ['#'] <+: line)
  | command {word : String} (hword : word ∈ commandWords) (h : word.toList <+: line)
  | brace {c : Char} (hc : c ∈ ['\x7b', '\x7d']) (h : [c] <+: line)
  | continuation {c : Char} (hc : c ∈ ['"', ':', '[']) (h : c ∈ line)

/-- The verdicts, each under the condition that nothing is said before it. -/
inductive Verdict (text : List Char) : Except Fault Unit → Prop
  | unknownCapability {name : String} (h : RequiresUnknown text name) :
      Verdict text (.error (.unknownCapability name))
  | unmatchedClosing (hknown : ∀ name, ¬ RequiresUnknown text name) (h : ClosesTooOften text) :
      Verdict text (.error .unmatchedClosing)
  | unmatchedOpening (hknown : ∀ name, ¬ RequiresUnknown text name)
      (hcloses : ¬ ClosesTooOften text) (h : text.count '\x7d' < text.count '\x7b') :
      Verdict text (.error .unmatchedOpening)
  | unknownCommand (hknown : ∀ name, ¬ RequiresUnknown text name)
      (hcloses : ¬ ClosesTooOften text) (hopens : ¬ text.count '\x7d' < text.count '\x7b')
      {line : List Char}
      (h : FirstBad '\n' (Text.IsTrim Text.isBlank) Acceptable text line) :
      Verdict text (.error (.unknownCommand (String.ofList line)))
  | valid (hknown : ∀ name, ¬ RequiresUnknown text name)
      (hcloses : ¬ ClosesTooOften text) (hopens : ¬ text.count '\x7d' < text.count '\x7b')
      (h : ∀ line, ¬ FirstBad '\n' (Text.IsTrim Text.isBlank) Acceptable text line) :
      Verdict text (.ok ())

-- ---------------------------------------------------------------------------
-- Pieces
-- ---------------------------------------------------------------------------

theorem find?_splitAt_eq_some_iff {β : Type} {sep : Char} {read : List Char → β}
    {bad : β → Bool} {Reads : List Char → β → Prop} {Good : β → Prop}
    (hread : ∀ piece found, read piece = found ↔ Reads piece found)
    (hgood : ∀ found, bad found = false ↔ Good found) {text : List Char} {found : β} :
    ((Text.splitAt sep text).map read).find? bad = some found ↔
      FirstBad sep Reads Good text found := by
  have hbad : bad found = true ↔ ¬ Good found := by rw [← hgood, Bool.not_eq_false]
  have hother (other : List Char) : (!bad (read other)) = true ↔
      ∃ reading, Reads other reading ∧ Good reading := by
    simp only [← hread, exists_eq_left', ← hgood, Bool.not_eq_true']
  rw [List.find?_map, Option.map_eq_some_iff]
  constructor
  · rintro ⟨piece, hfind, hpiece⟩
    obtain ⟨hp, before, after, hsplit, hbefore⟩ := List.find?_eq_some_iff_append.mp hfind
    refine ⟨before, piece, after, Text.splitAt_eq_iff.mp hsplit,
      fun other ho => (hother other).mp (hbefore other ho), (hread _ _).mp hpiece, hbad.mp ?_⟩
    rw [← hpiece]
    exact hp
  · rintro ⟨before, piece, after, hsplit, hbefore, hpiece, hfound⟩
    obtain rfl := (hread _ _).mpr hpiece
    refine ⟨piece, List.find?_eq_some_iff_append.mpr ⟨hbad.mpr hfound, before, after, ?_⟩, rfl⟩
    exact ⟨Text.splitAt_eq_iff.mpr hsplit, fun other ho => (hother other).mpr (hbefore other ho)⟩

-- ---------------------------------------------------------------------------
-- Capabilities
-- ---------------------------------------------------------------------------

theorem requiredAt?_eq_some_iff {text list : List Char} :
    requiredAt? text = some list ↔ Requires text list := by
  constructor
  · intro h
    unfold requiredAt? at h
    split at h
    · cases h
    · next rest hrest =>
      split at h
      · next blank blanks behind hblanks hbehind =>
        split at h
        · next c names close after hnames hafter =>
          obtain rfl := Option.some.inj h
          obtain ⟨hopen, hblank, -⟩ := Text.append_of_dropWhile hblanks hbehind
          obtain ⟨hlist, hother, hclose⟩ := Text.append_of_dropWhile hnames hafter
          obtain rfl : close = ']' := by simpa using hclose
          refine ⟨blank :: blanks, after, ?_, List.cons_ne_nil _ _, hblank, List.cons_ne_nil _ _,
            fun hmem => ?_⟩
          · rw [Text.dropPrefix?_eq_some_iff.mp hrest, hopen, hlist]
          · simpa using hother _ hmem
        · cases h
      · cases h
  · rintro ⟨blanks, rest, rfl, hne, hblank, hlist, hclose⟩
    obtain ⟨blank, blanks, rfl⟩ := List.exists_cons_of_ne_nil hne
    obtain ⟨c, names, rfl⟩ := List.exists_cons_of_ne_nil hlist
    have hother : ∀ x ∈ c :: names, (x != ']') = true := fun x hx =>
      bne_iff_ne.mpr fun e => hclose (e ▸ hx)
    obtain ⟨hblanks, hbehind⟩ := Text.dropWhile_of_append
      ((c :: names) ++ ']' :: rest) hblank (by decide : Text.isBlank '[' = false)
    obtain ⟨hnames, hafter⟩ := Text.dropWhile_of_append
      rest hother (by decide : (']' != ']') = false)
    rw [requiredAt?, Text.dropPrefix?_eq_some_iff.mpr rfl]
    simp only [hblanks, hbehind, hnames, hafter]

theorem required?_eq_some_iff {text list : List Char} :
    required? text = some list ↔ FirstRequired text list := by
  induction text with
  | nil =>
    refine iff_of_false (fun h => nomatch h) ?_
    rintro ⟨place, ⟨blanks, rest, htext, -⟩, -⟩
    simp at htext
  | cons c text ih =>
    rw [required?]
    cases hat : requiredAt? (c :: text) with
    | some first =>
      have hfirst := requiredAt?_eq_some_iff.mp hat
      constructor
      · rintro ⟨⟩
        exact ⟨0, hfirst, fun earlier h => absurd h (Nat.not_lt_zero earlier)⟩
      · rintro ⟨place, hlist, hearlier⟩
        cases place with
        | zero => exact hat.symm.trans (requiredAt?_eq_some_iff.mpr hlist)
        | succ place => exact absurd hfirst (hearlier 0 (Nat.succ_pos place) first)
    | none =>
      have hnot (other : List Char) : ¬ Requires (c :: text) other := fun h =>
        Option.some_ne_none other ((requiredAt?_eq_some_iff.mpr h).symm.trans hat)
      rw [ih]
      constructor
      · rintro ⟨place, hlist, hearlier⟩
        refine ⟨place + 1, hlist, fun earlier h other => ?_⟩
        cases earlier with
        | zero => exact hnot other
        | succ earlier => exact hearlier earlier (Nat.lt_of_succ_lt_succ h) other
      · rintro ⟨place, hlist, hearlier⟩
        cases place with
        | zero => exact absurd hlist (hnot list)
        | succ place =>
          exact ⟨place, hlist, fun earlier h => hearlier (earlier + 1) (Nat.succ_lt_succ h)⟩

theorem names_iff {item : List Char} {name : String} :
    String.ofList (Text.trimBoth (· == '"') (Text.trim item)) = name ↔ Names item name := by
  rw [Names]
  simp only [← Text.trimBoth_eq_iff, exists_eq_left', Text.trim]
  constructor
  · rintro rfl
    rw [String.toList_ofList]
  · intro h
    rw [h, String.ofList_toList]

theorem checkCapabilities_eq_error_iff {text : List Char} {fault : Fault} :
    checkCapabilities text = .error fault ↔
      ∃ name, fault = .unknownCapability name ∧ RequiresUnknown text name := by
  have hunknown (list : List Char) (name : String) :
      (capabilityNames list).find? (fun name => !capabilities.contains name) = some name ↔
        FirstBad ',' Names (· ∈ capabilities) list name :=
    find?_splitAt_eq_some_iff (fun _ _ => names_iff) (by simp)
  unfold checkCapabilities RequiresUnknown
  simp only [← required?_eq_some_iff, ← hunknown]
  cases required? text with
  | none => simp
  | some list =>
    simp only [Option.some.injEq, exists_eq_left']
    split
    · next name hname =>
      rw [hname]
      simp [eq_comm]
    · next hnone =>
      rw [hnone]
      simp

-- ---------------------------------------------------------------------------
-- Braces
-- ---------------------------------------------------------------------------

theorem checkBraces_opening (depth : Nat) (text : List Char) :
    checkBraces depth ('\x7b' :: text) = checkBraces (depth + 1) text := by
  rw [checkBraces.eq_def]
  rfl

theorem checkBraces_closing (depth : Nat) (text : List Char) :
    checkBraces (depth + 1) ('\x7d' :: text) = checkBraces depth text := by
  rw [checkBraces.eq_def]
  rfl

theorem checkBraces_closing_zero (text : List Char) :
    checkBraces 0 ('\x7d' :: text) = .error .unmatchedClosing := by
  rw [checkBraces.eq_def]
  rfl

def ClosesBelow (depth : Nat) (text : List Char) : Prop :=
  ∃ front, front <+: text ∧ depth + front.count '\x7b' < front.count '\x7d'

theorem closesBelow_zero {text : List Char} : ClosesBelow 0 text ↔ ClosesTooOften text := by
  simp only [ClosesBelow, ClosesTooOften, Nat.zero_add]

theorem not_closesBelow_nil (depth : Nat) : ¬ ClosesBelow depth [] := by
  rintro ⟨front, hfront, h⟩
  rw [List.prefix_nil.mp hfront] at h
  exact Nat.not_lt_zero _ h

theorem closesBelow_cons {depth : Nat} {c : Char} {text : List Char} :
    ClosesBelow depth (c :: text) ↔ ∃ front, front <+: text ∧
      depth + (c :: front).count '\x7b' < (c :: front).count '\x7d' := by
  constructor
  · rintro ⟨front, hfront, h⟩
    obtain rfl | ⟨more, rfl, hmore⟩ := List.prefix_cons_iff.mp hfront
    · exact absurd h (Nat.not_lt_zero _)
    · exact ⟨more, hmore, h⟩
  · rintro ⟨front, hfront, h⟩
    exact ⟨c :: front, List.cons_prefix_cons.mpr ⟨rfl, hfront⟩, h⟩

theorem checkBraces_eq_error_iff {depth : Nat} {text : List Char} {fault : Fault} :
    checkBraces depth text = .error fault ↔
      fault = .unmatchedClosing ∧ ClosesBelow depth text ∨
        fault = .unmatchedOpening ∧ ¬ ClosesBelow depth text ∧
          text.count '\x7d' < depth + text.count '\x7b' := by
  induction text generalizing depth with
  | nil =>
    simp only [checkBraces, not_closesBelow_nil, List.count_nil, Nat.add_zero]
    by_cases h : depth = 0
    · simp [h]
    · simp [h, Nat.pos_of_ne_zero h, eq_comm]
  | cons c text ih =>
    by_cases hopen : c = '\x7b'
    · subst hopen
      have hbelow : ClosesBelow depth ('\x7b' :: text) ↔ ClosesBelow (depth + 1) text := by
        rw [closesBelow_cons]
        simp [ClosesBelow, Nat.add_assoc, Nat.add_comm 1]
      rw [checkBraces_opening, ih, hbelow]
      simp [Nat.add_assoc, Nat.add_comm 1]
    · by_cases hclose : c = '\x7d'
      · subst hclose
        cases depth with
        | zero =>
          have hbelow : ClosesBelow 0 ('\x7d' :: text) :=
            closesBelow_cons.mpr ⟨[], List.nil_prefix, by decide⟩
          rw [checkBraces_closing_zero]
          simp [hbelow, eq_comm]
        | succ depth =>
          have hbelow : ClosesBelow (depth + 1) ('\x7d' :: text) ↔ ClosesBelow depth text := by
            rw [closesBelow_cons]
            simp [ClosesBelow, Nat.add_right_comm]
          rw [checkBraces_closing, ih, hbelow]
          simp [Nat.add_right_comm]
      · have hbelow : ClosesBelow depth (c :: text) ↔ ClosesBelow depth text := by
          rw [closesBelow_cons]
          simp [ClosesBelow, hopen, hclose]
        rw [checkBraces.eq_def]
        simp only [if_neg hopen, if_neg hclose, ih, hbelow]
        simp [hopen, hclose]

-- ---------------------------------------------------------------------------
-- Lines
-- ---------------------------------------------------------------------------

theorem head?_beq_iff {c : Char} {line : List Char} :
    (line.head? == some c) = true ↔ [c] <+: line := by
  cases line with
  | nil => simp
  | cons first rest =>
    rw [List.cons_prefix_cons, List.head?_cons, beq_iff_eq, Option.some_inj]
    exact ⟨fun h => ⟨h.symm, List.nil_prefix⟩, fun h => h.1.symm⟩

theorem isLine_iff {line : List Char} : isLine line = true ↔ Acceptable line := by
  unfold isLine
  simp only [Bool.or_eq_true, head?_beq_iff]
  constructor
  · rintro (((((hempty | hhash) | hword) | hopen) | hclose) | hsign)
    · exact .empty (List.isEmpty_iff.mp hempty)
    · exact .comment hhash
    · obtain ⟨word, hmem, hword⟩ := List.any_eq_true.mp hword
      exact .command hmem (List.isPrefixOf_iff_prefix.mp hword)
    · exact .brace List.mem_cons_self hopen
    · exact .brace (List.mem_cons_of_mem _ List.mem_cons_self) hclose
    · obtain ⟨c, hc, hsign⟩ := List.any_eq_true.mp hsign
      exact .continuation (by simpa [or_assoc] using hsign) hc
  · rintro (hempty | hhash | ⟨hmem, hword⟩ | ⟨hc, hbrace⟩ | ⟨hc, hsign⟩)
    · exact .inl (.inl (.inl (.inl (.inl (List.isEmpty_iff.mpr hempty)))))
    · exact .inl (.inl (.inl (.inl (.inr hhash))))
    · refine .inl (.inl (.inl (.inr (List.any_eq_true.mpr ⟨_, hmem, ?_⟩))))
      exact List.isPrefixOf_iff_prefix.mpr hword
    · obtain rfl | hc := List.mem_cons.mp hc
      · exact .inl (.inl (.inr hbrace))
      · obtain rfl := List.mem_singleton.mp hc
        exact .inl (.inr hbrace)
    · exact .inr (List.any_eq_true.mpr ⟨_, hsign, by simpa [or_assoc] using hc⟩)

theorem checkLines_eq_error_iff {text : List Char} {fault : Fault} :
    checkLines text = .error fault ↔ ∃ line, fault = .unknownCommand (String.ofList line) ∧
      FirstBad '\n' (Text.IsTrim Text.isBlank) Acceptable text line := by
  have hodd (line : List Char) :
      ((Text.splitAt '\n' text).map Text.trim).find? (fun line => !isLine line) = some line ↔
        FirstBad '\n' (Text.IsTrim Text.isBlank) Acceptable text line :=
    find?_splitAt_eq_some_iff (fun _ _ => Text.trimBoth_eq_iff) (by simp [isLine_iff])
  unfold checkLines
  simp only [← hodd]
  split
  · next line hline =>
    rw [hline]
    simp [eq_comm]
  · next hnone =>
    rw [hnone]
    simp

-- ---------------------------------------------------------------------------
-- Scripts
-- ---------------------------------------------------------------------------

theorem eq_ok_iff {check : Except Fault Unit} : check = .ok () ↔ ∀ fault, check ≠ .error fault := by
  cases check with
  | error fault => simp
  | ok => simp

theorem checkCapabilities_eq_ok_iff {text : List Char} :
    checkCapabilities text = .ok () ↔ ∀ name, ¬ RequiresUnknown text name := by
  rw [eq_ok_iff]
  simp only [ne_eq, checkCapabilities_eq_error_iff]
  exact ⟨fun h name hname => h _ ⟨name, rfl, hname⟩, fun h _ ⟨name, _, hname⟩ => h name hname⟩

theorem checkBraces_eq_ok_iff {text : List Char} :
    checkBraces 0 text = .ok () ↔
      ¬ ClosesTooOften text ∧ ¬ text.count '\x7d' < text.count '\x7b' := by
  rw [eq_ok_iff]
  simp only [ne_eq, checkBraces_eq_error_iff, closesBelow_zero, Nat.zero_add]
  constructor
  · intro h
    have hcloses : ¬ ClosesTooOften text := fun hc => h .unmatchedClosing (.inl ⟨rfl, hc⟩)
    exact ⟨hcloses, fun ho => h .unmatchedOpening (.inr ⟨rfl, hcloses, ho⟩)⟩
  · rintro ⟨hcloses, hopens⟩ fault (⟨-, hc⟩ | ⟨-, -, ho⟩)
    · exact hcloses hc
    · exact hopens ho

theorem checkLines_eq_ok_iff {text : List Char} :
    checkLines text = .ok () ↔
      ∀ line, ¬ FirstBad '\n' (Text.IsTrim Text.isBlank) Acceptable text line := by
  rw [eq_ok_iff]
  simp only [ne_eq, checkLines_eq_error_iff]
  exact ⟨fun h line hline => h _ ⟨line, rfl, hline⟩, fun h _ ⟨line, _, hline⟩ => h line hline⟩

theorem validate_of_capabilities {script : String} {fault : Fault}
    (h : checkCapabilities script.toList = .error fault) : validate script = .error fault := by
  simp only [validate, h, bind, Except.bind]

theorem validate_of_braces {script : String} {fault : Fault}
    (hcapabilities : checkCapabilities script.toList = .ok ())
    (h : checkBraces 0 script.toList = .error fault) : validate script = .error fault := by
  simp only [validate, hcapabilities, h, bind, Except.bind]

theorem validate_of_lines {script : String} (hcapabilities : checkCapabilities script.toList = .ok ())
    (hbraces : checkBraces 0 script.toList = .ok ()) :
    validate script = checkLines script.toList := by
  simp only [validate, hcapabilities, hbraces, bind, Except.bind]

/-- The checks find the one verdict on a text, whatever text it is. -/
theorem validate_eq_iff (script : String) (result : Except Fault Unit) :
    validate script = result ↔ Verdict script.toList result := by
  constructor
  · rintro rfl
    cases hcapabilities : checkCapabilities script.toList with
    | error fault =>
      obtain ⟨name, rfl, hname⟩ := checkCapabilities_eq_error_iff.mp hcapabilities
      rw [validate_of_capabilities hcapabilities]
      exact .unknownCapability hname
    | ok =>
      have hknown := checkCapabilities_eq_ok_iff.mp hcapabilities
      cases hbraces : checkBraces 0 script.toList with
      | error fault =>
        rw [validate_of_braces hcapabilities hbraces]
        rcases checkBraces_eq_error_iff.mp hbraces with ⟨rfl, hcloses⟩ | ⟨rfl, hcloses, hopens⟩
        · exact .unmatchedClosing hknown (closesBelow_zero.mp hcloses)
        · rw [Nat.zero_add] at hopens
          exact .unmatchedOpening hknown (mt closesBelow_zero.mpr hcloses) hopens
      | ok =>
        obtain ⟨hcloses, hopens⟩ := checkBraces_eq_ok_iff.mp hbraces
        rw [validate_of_lines hcapabilities hbraces]
        cases hlines : checkLines script.toList with
        | error fault =>
          obtain ⟨line, rfl, hline⟩ := checkLines_eq_error_iff.mp hlines
          exact .unknownCommand hknown hcloses hopens hline
        | ok => exact .valid hknown hcloses hopens (checkLines_eq_ok_iff.mp hlines)
  · intro h
    cases h with
    | unknownCapability hname =>
      exact validate_of_capabilities (checkCapabilities_eq_error_iff.mpr ⟨_, rfl, hname⟩)
    | unmatchedClosing hknown hcloses =>
      refine validate_of_braces (checkCapabilities_eq_ok_iff.mpr hknown) ?_
      exact checkBraces_eq_error_iff.mpr (.inl ⟨rfl, closesBelow_zero.mpr hcloses⟩)
    | unmatchedOpening hknown hcloses hopens =>
      refine validate_of_braces (checkCapabilities_eq_ok_iff.mpr hknown) ?_
      refine checkBraces_eq_error_iff.mpr (.inr ⟨rfl, mt closesBelow_zero.mp hcloses, ?_⟩)
      rwa [Nat.zero_add]
    | unknownCommand hknown hcloses hopens hline =>
      rw [validate_of_lines (checkCapabilities_eq_ok_iff.mpr hknown)
        (checkBraces_eq_ok_iff.mpr ⟨hcloses, hopens⟩)]
      exact checkLines_eq_error_iff.mpr ⟨_, rfl, hline⟩
    | valid hknown hcloses hopens hlines =>
      rw [validate_of_lines (checkCapabilities_eq_ok_iff.mpr hknown)
        (checkBraces_eq_ok_iff.mpr ⟨hcloses, hopens⟩)]
      exact checkLines_eq_ok_iff.mpr hlines

end Mailroom.Sieve
