import Mailroom.Filter.Matching
import Mailroom.Pattern.Engine
import Mailroom.Proofs.Sieve.Token
import Mailroom.Proofs.Text.Case
import Mailroom.Proofs.Text.Cut

/-!
# What compiled tests say

A header test is true of a message if a field of its name compares with its key, up to ASCII
case. `isTrueOf_iff_holds`: the test that a condition on the subject compiles to is true of the
subjects that the condition holds for, as long as a literal at the beginning or the end has no
character that globs read in their own way. Such characters are not escaped, and
`glob_in_literal` shows a subject on which test and condition then differ.
-/

namespace Mailroom.Sieve

open Mailroom.Filter (Condition Traits)

-- ---------------------------------------------------------------------------
-- Globs
-- ---------------------------------------------------------------------------

inductive GlobPart
  | any
  | one
  | just (c : Char)
  deriving DecidableEq, Repr

/-- A backslash makes the next character stand for itself. -/
def globParts : List Char → List GlobPart
  | [] => []
  | '\\' :: c :: rest => .just c :: globParts rest
  | '*' :: rest => .any :: globParts rest
  | '?' :: rest => .one :: globParts rest
  | c :: rest => .just c :: globParts rest

inductive Fits : List GlobPart → List Char → Prop
  | nil : Fits [] []
  | any {parts : List GlobPart} {rest : List Char} (skipped : List Char) (fits : Fits parts rest) :
      Fits (.any :: parts) (skipped ++ rest)
  | one {parts : List GlobPart} {rest : List Char} (c : Char) (fits : Fits parts rest) :
      Fits (.one :: parts) (c :: rest)
  | just {parts : List GlobPart} {rest : List Char} (c : Char) (fits : Fits parts rest) :
      Fits (.just c :: parts) (c :: rest)

def isGlobChar (c : Char) : Bool := c == '*' || c == '?' || c == '\\'

theorem fits_just_append {key value : List Char} {parts : List GlobPart} :
    Fits (key.map .just ++ parts) value ↔ ∃ rest, value = key ++ rest ∧ Fits parts rest := by
  induction key generalizing value with
  | nil => simp
  | cons c key ih =>
    rw [List.map_cons, List.cons_append]
    constructor
    · intro h
      cases h with
      | just _ h =>
        obtain ⟨rest, rfl, hrest⟩ := ih.mp h
        exact ⟨rest, rfl, hrest⟩
    · rintro ⟨rest, rfl, hrest⟩
      exact .just c (ih.mpr ⟨rest, rfl, hrest⟩)

theorem fits_nil {value : List Char} : Fits [] value ↔ value = [] := by
  constructor
  · intro h
    cases h
    rfl
  · rintro rfl
    exact .nil

theorem fits_any {parts : List GlobPart} {value : List Char} :
    Fits (.any :: parts) value ↔ ∃ skipped rest, value = skipped ++ rest ∧ Fits parts rest := by
  constructor
  · intro h
    cases h with
    | any skipped h => exact ⟨skipped, _, rfl, h⟩
  · rintro ⟨skipped, rest, rfl, h⟩
    exact .any skipped h

theorem fits_prefix {key value : List Char} :
    Fits (key.map .just ++ [.any]) value ↔ key <+: value := by
  rw [fits_just_append]
  constructor
  · rintro ⟨rest, rfl, -⟩
    exact List.prefix_append key rest
  · rintro ⟨rest, rfl⟩
    exact ⟨rest, rfl, fits_any.mpr ⟨rest, [], by simp, .nil⟩⟩

theorem fits_suffix {key value : List Char} :
    Fits (.any :: key.map .just) value ↔ key <:+ value := by
  have hkey (rest : List Char) : Fits (key.map .just) rest ↔ rest = key := by
    have happend : Fits (key.map .just ++ []) rest ↔ ∃ more, rest = key ++ more ∧ Fits [] more :=
      fits_just_append
    simpa [fits_nil] using happend
  rw [fits_any]
  constructor
  · rintro ⟨skipped, rest, rfl, h⟩
    obtain rfl := (hkey rest).mp h
    exact List.suffix_append skipped rest
  · rintro ⟨skipped, rfl⟩
    exact ⟨skipped, key, rfl, (hkey key).mpr rfl⟩

theorem globParts_append {key : List Char} (h : ∀ c ∈ key, isGlobChar c = false) (rest : List Char) :
    globParts (key ++ rest) = key.map .just ++ globParts rest := by
  induction key with
  | nil => rfl
  | cons c key ih =>
    have hc := h c List.mem_cons_self
    have hrest := ih fun d hd => h d (List.mem_cons_of_mem c hd)
    simp only [isGlobChar, Bool.or_eq_false_iff, beq_eq_false_iff_ne] at hc
    obtain ⟨⟨hstar, hone⟩, hslash⟩ := hc
    rw [List.cons_append, globParts, hrest]
    · rfl
    · exact fun _ _ hs => absurd hs hslash
    · exact hstar
    · exact hone

-- ---------------------------------------------------------------------------
-- Header tests
-- ---------------------------------------------------------------------------

def MatchKind.ofWord? (word : String) : Option MatchKind :=
  match word with
  | "contains" => some .contains
  | "is" => some .equals
  | "matches" => some .glob
  | _ => none

/-- How a field and a key compare. Small letters of ASCII count as capitals. -/
def MatchKind.Relates (how : MatchKind) (key value : String) : Prop :=
  let key := key.toList.map Char.toUpper
  let value := value.toList.map Char.toUpper
  match how with
  | .contains => key <:+: value
  | .equals => key = value
  | .glob => Fits (globParts key) value

def readHeaderTest? : List Token → Option (MatchKind × String × String)
  | [.identifier "header", .tag how, .text name, .text key] =>
    (MatchKind.ofWord? how).map fun how => (how, name, key)
  | _ => none

def IsTrueOf (fields : List (String × String)) (ts : List Token) : Prop :=
  ∃ how name key, readHeaderTest? ts = some (how, name, key) ∧
    ∃ f ∈ fields, Text.sameAscii f.1 name = true ∧ how.Relates key f.2

theorem isTrueOf_subject {how : MatchKind} {key subject : String} :
    IsTrueOf [("Subject", subject)] (headerTokens how.word "Subject" key) ↔
      how.Relates key subject := by
  have hread : readHeaderTest? (headerTokens how.word "Subject" key) = some (how, "Subject", key) := by
    cases how <;> rfl
  have hname : Text.sameAscii "Subject" "Subject" = true := by decide
  constructor
  · rintro ⟨how', name, key', h, f, hf, -, hrelates⟩
    obtain rfl := List.mem_singleton.mp hf
    obtain ⟨rfl, -, rfl⟩ : how = how' ∧ "Subject" = name ∧ key = key' := by
      simpa [hread] using h
    exact hrelates
  · intro h
    exact ⟨how, "Subject", key, hread, _, List.mem_singleton.mpr rfl, hname, h⟩

-- ---------------------------------------------------------------------------
-- Conditions
-- ---------------------------------------------------------------------------

def Compiles (comparison : Filter.Comparison) : Prop :=
  comparison = .contains ∨ comparison = .equals ∨ comparison = .startsWith ∨ comparison = .endsWith

theorem isGlobChar_toUpper {c : Char} (hc : c.toNat < 128) :
    isGlobChar c.toUpper = isGlobChar c :=
  Text.forall_ascii (p := fun c => isGlobChar c.toUpper = isGlobChar c) (by decide) hc

theorem globParts_upper {literal : List Char} (h : ∀ c ∈ literal, c.toNat < 128)
    (hp : ∀ c ∈ literal, isGlobChar c = false) (rest : List Char) :
    globParts (literal.map Char.toUpper ++ rest) =
      (literal.map Char.toUpper).map .just ++ globParts rest := by
  refine globParts_append (fun c hc => ?_) rest
  obtain ⟨d, hd, rfl⟩ := List.mem_map.mp hc
  rw [isGlobChar_toUpper (h d hd), hp d hd]

section

variable {literal subject : String} (hl : ∀ c ∈ literal.toList, c.toNat < 128)
  (hs : ∀ c ∈ subject.toList, c.toNat < 128)

include hl hs

theorem upper_iff_lower {r : List Char → List Char → Prop}
    (hmap : ∀ (f : Char → Char) a b, r a b → r (a.map f) (b.map f)) :
    r (literal.toList.map Char.toUpper) (subject.toList.map Char.toUpper) ↔
      r (Text.lower literal).toList (Text.lower subject).toList := by
  rw [Text.toList_lower_ascii hl, Text.toList_lower_ascii hs, Text.upper_iff_lower hmap hl hs]

theorem relates_contains [Filter.PatternEngine] : MatchKind.contains.Relates literal subject ↔
    Filter.Comparison.contains.holds (Text.lower subject).toList (Text.lower literal).toList = true :=
  (upper_iff_lower hl hs fun f _ _ h => h.map f).trans Text.occurs_iff_infix.symm

theorem relates_equals [Filter.PatternEngine] : MatchKind.equals.Relates literal subject ↔
    Filter.Comparison.equals.holds (Text.lower subject).toList (Text.lower literal).toList = true := by
  have h := upper_iff_lower hl hs (r := Eq) fun f _ _ h => congrArg (List.map f) h
  exact h.trans (eq_comm.trans beq_iff_eq.symm)

variable (hp : ∀ c ∈ literal.toList, isGlobChar c = false)

include hp

theorem relates_startsWith [Filter.PatternEngine] :
    MatchKind.glob.Relates (literal ++ "*") subject ↔
    Filter.Comparison.startsWith.holds (Text.lower subject).toList (Text.lower literal).toList =
      true := by
  have hkey : globParts ((literal ++ "*").toList.map Char.toUpper) =
      (literal.toList.map Char.toUpper).map .just ++ [.any] := by
    rw [String.toList_append, List.map_append, globParts_upper hl hp]
    rfl
  show Fits (globParts ((literal ++ "*").toList.map Char.toUpper)) _ ↔ _
  rw [hkey, fits_prefix, upper_iff_lower hl hs (r := (· <+: ·)) fun f _ _ h => h.map f]
  exact List.isPrefixOf_iff_prefix.symm

theorem relates_endsWith [Filter.PatternEngine] : MatchKind.glob.Relates ("*" ++ literal) subject ↔
    Filter.Comparison.endsWith.holds (Text.lower subject).toList (Text.lower literal).toList =
      true := by
  have hstar : ("*" ++ literal).toList.map Char.toUpper = '*' :: literal.toList.map Char.toUpper := by
    rw [String.toList_append]
    rfl
  have hkey : globParts (literal.toList.map Char.toUpper) =
      (literal.toList.map Char.toUpper).map .just := by
    simpa [globParts] using globParts_upper hl hp []
  show Fits (globParts (("*" ++ literal).toList.map Char.toUpper)) _ ↔ _
  rw [hstar, globParts, hkey, fits_suffix,
    upper_iff_lower hl hs (r := (· <:+ ·)) fun f _ _ h => h.map f]
  exact List.isSuffixOf_iff_suffix.symm

end

/-- The test of a condition on the subject, read from the text it is written as, is true of the
ASCII subjects that the condition holds for. At the beginning and at the end the literal must be
free of characters that globs read in their own way. -/
theorem isTrueOf_iff_holds [Filter.PatternEngine] {c : Condition} {t : Traits}
    (hfield : c.field = .subject) (hcompiles : Compiles c.comparison)
    (hliteral : ∀ x ∈ c.literal.toList, x.toNat < 128)
    (hplain : c.comparison = .startsWith ∨ c.comparison = .endsWith →
      ∀ x ∈ c.literal.toList, isGlobChar x = false)
    (hsubject : ∀ x ∈ t.subject.toList, x.toNat < 128) :
    ∃ test ts, Test.ofCondition? c = some test ∧ tokens (String.ofList test.render) = some ts ∧
      (IsTrueOf [("Subject", t.subject)] ts ↔ c.holds t = true) := by
  obtain ⟨field, comparison, literal⟩ := c
  obtain rfl : field = .subject := hfield
  -- the test is read from its text, so only its key and its comparison remain
  suffices h : ∃ how key, Test.ofComparison? "Subject" literal comparison =
      some (.header how "Subject" key) ∧ (how.Relates (String.ofList key) t.subject ↔
        comparison.holds (Text.lower t.subject).toList (Text.lower literal).toList = true) by
    obtain ⟨how, key, htest, hrelates⟩ := h
    refine ⟨_, _, htest, tokens_of_whole (Test.whole_render _), ?_⟩
    exact isTrueOf_subject.trans hrelates
  rcases hcompiles with h | h | h | h <;> obtain rfl : comparison = _ := h
  · refine ⟨_, _, rfl, ?_⟩
    rw [String.ofList_toList]
    exact relates_contains hliteral hsubject
  · refine ⟨_, _, rfl, ?_⟩
    rw [String.ofList_toList]
    exact relates_equals hliteral hsubject
  · refine ⟨_, _, rfl, ?_⟩
    rw [String.ofList_append, String.ofList_toList]
    exact relates_startsWith hliteral hsubject (hplain (.inl rfl))
  · refine ⟨_, _, rfl, ?_⟩
    rw [← List.singleton_append, String.ofList_append, String.ofList_toList]
    exact relates_endsWith hliteral hsubject (hplain (.inr rfl))

/-- A quote in the literal does not matter. -/
theorem isTrueOf_iff_holds_quote :
    let c : Condition := ⟨.subject, .startsWith, "Re: \"hi\""⟩
    let t : Traits := ⟨"", [], "RE: \"Hi\" again", none, false⟩
    ∃ test ts, Test.ofCondition? c = some test ∧ tokens (String.ofList test.render) = some ts ∧
      IsTrueOf [("Subject", t.subject)] ts := by
  obtain ⟨test, ts, htest, hts, h⟩ := isTrueOf_iff_holds (c := ⟨.subject, .startsWith, "Re: \"hi\""⟩)
    (t := ⟨"", [], "RE: \"Hi\" again", none, false⟩) rfl (.inr (.inr (.inl rfl)))
    (List.all_iff_forall_prop.mp (by decide))
    (fun _ => List.all_iff_forall_prop.mp (by decide))
    (List.all_iff_forall_prop.mp (by decide))
  exact ⟨test, ts, htest, hts, h.mpr (by decide)⟩

/-- A star at the beginning of a subject is compiled to a glob that any subject fits. -/
theorem glob_in_literal :
    let c : Condition := ⟨.subject, .startsWith, "*"⟩
    let t : Traits := ⟨"", [], "a", none, false⟩
    (∃ test ts, Test.ofCondition? c = some test ∧ tokens (String.ofList test.render) = some ts ∧
      IsTrueOf [("Subject", t.subject)] ts) ∧ c.holds t = false := by
  refine ⟨⟨.header .glob "Subject" ['*', '*'], _, rfl, tokens_of_whole (Test.whole_render _), ?_⟩,
    by decide⟩
  have hfits : Fits [.any, .any] ['A'] := .any ['A'] (.any [] .nil)
  exact isTrueOf_subject.mpr hfits

end Mailroom.Sieve
