import Mathlib.Data.List.Forall2
import Mailroom.Proofs.Mime.Extended

/-!
# Quoted values among white space

Any text can be the value of a parameter if it stands in quotes, with a backslash before each
quote and each backslash. `split_quoted` says that such parameters are read back whatever white
space stands around their keys and values, and that the first of those with one key, in any letter
case, is found under this key.
-/

namespace Mailroom.Mime.Parameters

-- ---------------------------------------------------------------------------
-- Written pairs
-- ---------------------------------------------------------------------------

structure Keyword (key : List Char) : Prop where
  named : key ≠ []
  trimmed : Text.Trimmed key
  closed : ';' ∉ key ∧ '"' ∉ key
  token : '=' ∉ key ∧ '*' ∉ key

instance (key : List Char) : Decidable (Keyword key) :=
  decidable_of_iff
    (key ≠ [] ∧ Text.Trimmed key ∧ (';' ∉ key ∧ '"' ∉ key) ∧ '=' ∉ key ∧ '*' ∉ key)
    ⟨fun ⟨a, b, c, d⟩ => ⟨a, b, c, d⟩, fun ⟨a, b, c, d⟩ => ⟨a, b, c, d⟩⟩

/-- How a key and its value may be written as a segment. White space may stand around both. -/
inductive WritesQuoted (pair : String × String) : List Char → Prop
  | intro {before behind front after : List Char} (hb : Blank before) (hbe : Blank behind)
      (hf : Blank front) (ha : Blank after) :
      WritesQuoted pair
        (before ++ pair.1.toList ++ behind ++ '=' :: (front ++ quote pair.2.toList ++ after))

def lowered (pair : String × String) : String × String := (Text.lowerAscii pair.1, pair.2)

-- ---------------------------------------------------------------------------
-- Reading
-- ---------------------------------------------------------------------------

section
variable {pairs : List (String × String)} {segments : List (List Char)}

theorem WritesQuoted.closed {pair : String × String} {segment : List Char}
    (h : WritesQuoted pair segment) (hkey : Keyword pair.1.toList) : Closed segment := by
  obtain ⟨hb, hbe, hf, ha⟩ := h
  have hname : Closed pair.1.toList := closed_of_not_mem hkey.closed.1 hkey.closed.2
  exact closed_append hb hname hbe hf (closed_quote _) ha

theorem WritesQuoted.read {pair : String × String} {segment : List Char}
    (h : WritesQuoted pair segment) (hkey : Keyword pair.1.toList) :
    Entry.ofSegment? segment = some (.plain (lowered pair).1 (lowered pair).2) := by
  obtain @⟨before, behind, front, after, hb, hbe, hf, ha⟩ := h
  rw [Entry.ofSegment?_quote before behind front _ after hb hkey.trimmed hkey.named hkey.token.1
    hkey.token.2 hbe hf ha, String.ofList_toList]
  rfl

theorem closed_of_writesQuoted (h : List.Forall₂ WritesQuoted pairs segments)
    (hkeys : ∀ p ∈ pairs, Keyword p.1.toList) : ∀ s ∈ segments, Closed s := by
  induction h with
  | nil => simp
  | cons h _ ih =>
    simp only [List.forall_mem_cons] at hkeys ⊢
    exact ⟨h.closed hkeys.1, ih hkeys.2⟩

theorem filterMap_writesQuoted (h : List.Forall₂ WritesQuoted pairs segments)
    (hkeys : ∀ p ∈ pairs, Keyword p.1.toList) :
    segments.filterMap Entry.ofSegment? = (pairs.map lowered).map fun p => .plain p.1 p.2 := by
  induction h with
  | nil => rfl
  | cons h _ ih =>
    simp only [List.forall_mem_cons] at hkeys
    rw [List.filterMap_cons_some (h.read hkeys.1), ih hkeys.2]
    rfl

theorem get?_lowered (pairs : List (String × String)) (key : String) :
    get? ⟨pairs.map lowered⟩ key =
      (pairs.find? fun p => Text.lowerAscii p.1 = Text.lowerAscii key).map Prod.snd := by
  have hsame (p : String × String) : Text.sameAscii (lowered p).1 key =
      decide (Text.lowerAscii p.1 = Text.lowerAscii key) := by
    rw [Bool.eq_iff_iff, Text.sameAscii_iff, decide_eq_true_iff, lowered,
      Text.lowerAscii_lowerAscii]
  rw [get?, List.find?_map, Option.map_map]
  exact congrArg (Option.map Prod.snd) (congrArg (List.find? · pairs) (funext hsame))

/-- Quoted values are read back under their keys, whatever text they are. -/
theorem split_quoted {head : List Char} (hs : ';' ∉ head) (hq : '"' ∉ head)
    (hkeys : ∀ p ∈ pairs, Keyword p.1.toList) (h : List.Forall₂ WritesQuoted pairs segments) :
    (split (assemble head segments)).1 = String.ofList (Text.trim head) ∧
      (split (assemble head segments)).2.size = pairs.length ∧
      ∀ key, (split (assemble head segments)).2.get? key =
        (pairs.find? fun p => Text.lowerAscii p.1 = Text.lowerAscii key).map Prod.snd := by
  -- no key has an asterisk, so there are no sections that could replace a value
  have hpairs : ofSegments segments = ⟨pairs.map lowered⟩ :=
    ofSegments_plain (filterMap_writesQuoted h hkeys)
  rw [assemble, split_closed (closed_of_not_mem hs hq) (closed_of_writesQuoted h hkeys), hpairs]
  refine ⟨rfl, ?_, get?_lowered pairs⟩
  rw [size, List.length_map]

end

namespace Spaced

/-- The first key comes again in other letters, and its value has all that could end a segment. -/
def pairs : List (String × String) :=
  [("FileName", "a; b=\"c\\\" é "), ("size", ""), ("filename", "second"), ("x", "\\")]

def segments : List (List Char) :=
  [" FileName\t= \"a; b=\\\"c\\\\\\\" é \" ".toList, "size=\"\"".toList,
    "\n filename=\"second\"".toList, "x =\"\\\\\"".toList]

theorem writes : List.Forall₂ WritesQuoted pairs segments := by
  have hspace : Blank [' '] := List.forall_mem_singleton.mpr rfl
  have htab : Blank ['\t'] := List.forall_mem_singleton.mpr rfl
  have hline : Blank ['\n', ' '] := List.forall_mem_cons.mpr ⟨rfl, hspace⟩
  have hnone : Blank [] := List.forall_mem_nil _
  exact .cons (@WritesQuoted.intro _ [' '] ['\t'] [' '] [' '] hspace htab hspace hspace)
    (.cons (@WritesQuoted.intro _ [] [] [] [] hnone hnone hnone hnone)
      (.cons (@WritesQuoted.intro _ ['\n', ' '] [] [] [] hline hnone hnone hnone)
        (.cons (@WritesQuoted.intro _ [] [' '] [] [] hnone hspace hnone hnone) .nil)))

end Spaced

theorem split_quoted_spaced :
    (∀ p ∈ Spaced.pairs, Keyword p.1.toList) ∧
      List.Forall₂ WritesQuoted Spaced.pairs Spaced.segments ∧
      (split (assemble " attachment ".toList Spaced.segments)).1 = "attachment" ∧
      (split (assemble " attachment ".toList Spaced.segments)).2.size = 4 ∧
      (split (assemble " attachment ".toList Spaced.segments)).2.get? "FILENAME" =
        some "a; b=\"c\\\" é " ∧
      (split (assemble " attachment ".toList Spaced.segments)).2.get? "X" = some "\\" := by
  have hkeys : ∀ p ∈ Spaced.pairs, Keyword p.1.toList := by decide
  obtain ⟨hhead, hsize, hget⟩ :=
    @split_quoted _ _ " attachment ".toList (by decide) (by decide) hkeys Spaced.writes
  exact ⟨hkeys, Spaced.writes, hhead, hsize, hget "FILENAME", hget "X"⟩

end Mailroom.Mime.Parameters
