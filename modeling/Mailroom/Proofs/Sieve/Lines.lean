import Mathlib.Data.List.Forall2
import Mailroom.Proofs.Sieve.Layout
import Mailroom.Sieve.Validation

/-!
# The lines of a script

The block of a rule is meant to have one line for each command and four around them. What a rule
writes between quotes keeps its line feeds, and each of them makes one line more (`lines_generate`).
Names make none.
-/

namespace Mailroom.Sieve

open Mailroom.Filter (Action Condition Rule)

-- ---------------------------------------------------------------------------
-- What lines are meant to be there
-- ---------------------------------------------------------------------------

/-- A rule gets a block if it is active and a condition has a test. -/
def hasBlock (r : Rule) : Bool :=
  r.active && r.conditions.any fun c => (Test.ofCondition? c).isSome

def commandCount (actions : List Action) : Nat :=
  actions.countP fun a => (Command.ofAction? a).isSome

/-- The lines that a rule is meant to have: a comment, the tests, one line for each command, a
brace and an empty line. -/
inductive BlockLines (r : Rule) : List (List Char) → Prop
  | intro {comment tests : List Char} {commands : List (List Char)}
      (hcomment : "# Rule: ".toList <+: comment) (hif : "if ".toList <+: tests)
      (hopen : ['\x7b'] <:+ tests) (hcount : commands.length = commandCount r.actions)
      (hindent : ∀ command ∈ commands, "    ".toList <+: command) :
      BlockLines r (comment :: tests :: commands ++ [['\x7d'], []])

/-- The lines that rules are meant to have: those of the heading and of each rule with a block, in
order, and nothing behind the last line feed. -/
def LaidOut (rules : List Rule) (lines : List (List Char)) : Prop :=
  ∃ blocks, List.Forall₂ BlockLines (rules.filter hasBlock) blocks ∧
    lines = headingLines ++ blocks.flatten ++ [[]]

def lineCount (rules : List Rule) : Nat :=
  4 + 4 * (rules.filter hasBlock).length + commandCount ((rules.filter hasBlock).flatMap Rule.actions)

def quotedTexts (rules : List Rule) : List Char := (rules.filter hasBlock).flatMap quotedText

theorem commandCount_append (front rest : List Action) :
    commandCount (front ++ rest) = commandCount front + commandCount rest := List.countP_append

theorem BlockLines.length {r : Rule} {lines : List (List Char)} (h : BlockLines r lines) :
    lines.length = 4 + commandCount r.actions := by
  cases h with
  | intro hcomment hif hopen hcount hindent =>
    simp only [List.length_append, List.length_cons, List.length_nil, hcount]
    omega

theorem length_flatten_of_blockLines {rules : List Rule} {blocks : List (List (List Char))}
    (h : List.Forall₂ BlockLines rules blocks) :
    blocks.flatten.length = 4 * rules.length + commandCount (rules.flatMap Rule.actions) := by
  induction h with
  | nil => rfl
  | cons hblock _ ih =>
    rw [List.flatten_cons, List.length_append, hblock.length, ih, List.flatMap_cons,
      commandCount_append, List.length_cons]
    omega

theorem LaidOut.length {rules : List Rule} {lines : List (List Char)} (h : LaidOut rules lines) :
    lines.length = lineCount rules := by
  obtain ⟨blocks, hblocks, rfl⟩ := h
  have hheading : headingLines.length = 3 := rfl
  rw [List.length_append, List.length_append, length_flatten_of_blockLines hblocks, hheading,
    lineCount, List.length_singleton]
  omega

-- ---------------------------------------------------------------------------
-- What lines are there
-- ---------------------------------------------------------------------------

theorem not_isEmpty_filterMap {α β : Type} (f : α → Option β) (xs : List α) :
    (!(xs.filterMap f).isEmpty) = xs.any fun x => (f x).isSome := by
  induction xs with
  | nil => rfl
  | cons x xs ih => cases h : f x <;> simp [h, ← ih]

theorem Block.isSome_ofRule? (r : Rule) : (Block.ofRule? r).isSome = hasBlock r := by
  unfold Block.ofRule? hasBlock
  simp only [not_isEmpty_filterMap]
  split <;> simp [*]

theorem Block.blockLines {r : Rule} {b : Block} (h : Block.ofRule? r = some b) :
    BlockLines r b.lines := by
  obtain rfl := Block.eq_of_ofRule? h
  refine .intro (List.prefix_append _ _) ?_ ?_ ?_ ?_
  · rw [testsLine, List.append_assoc]
    exact List.prefix_append _ _
  · have hopen : " \x7b".toList = [' '] ++ ['\x7b'] := by decide
    rw [testsLine, hopen, ← List.append_assoc]
    exact List.suffix_append _ _
  · simp [commandCount, List.length_filterMap_eq_countP]
  · intro line hline
    obtain ⟨command, -, rfl⟩ := List.mem_map.mp hline
    exact List.prefix_append _ _

theorem count_flatMap_lineFeed (lines : List (List Char)) :
    (lines.flatMap (· ++ ['\n'])).count '\n' = lines.length + lines.flatten.count '\n' := by
  induction lines with
  | nil => rfl
  | cons line lines ih =>
    rw [List.flatMap_cons, List.count_append, ih, List.count_append, List.flatten_cons,
      List.count_append, List.length_cons, List.count_singleton_self]
    omega

theorem quotedArgument_of_none {a : Action} (h : Command.ofAction? a = none) :
    quotedArgument a = [] := by
  obtain ⟨kind, argument⟩ := a
  cases kind <;> first | rfl | cases h

section

variable {x : Char} (hx : x ∈ structural)

include hx

theorem count_tests (conditions : List Condition) :
    ((conditions.filterMap Test.ofCondition?).flatMap Test.render).count x =
      ((conditions.filter fun c => (Test.ofCondition? c).isSome).flatMap
        fun c => c.literal.toList).count x := by
  induction conditions with
  | nil => rfl
  | cons c conditions ih =>
    cases htest : Test.ofCondition? c with
    | none => simpa [htest] using ih
    | some test => simpa [htest, count_ofCondition? hx htest] using ih

theorem count_commandLines (actions : List Action) :
    ((actions.filterMap Command.ofAction?).map Block.commandLine).flatten.count x =
      (actions.flatMap quotedArgument).count x := by
  have hindent : x ∉ "    ".toList := not_mem_of_all (by decide) hx
  induction actions with
  | nil => rfl
  | cons a actions ih =>
    cases hcommand : Command.ofAction? a with
    | none => simpa [hcommand, quotedArgument_of_none hcommand] using ih
    | some command =>
      have hline : (Block.commandLine command).count x = (quotedArgument a).count x := by
        rw [Block.commandLine, List.count_append, List.count_eq_zero_of_not_mem hindent,
          count_ofAction? hx hcommand, Nat.zero_add]
      simpa [hcommand, hline] using ih

end

theorem Block.count_render {r : Rule} {b : Block} (h : Block.ofRule? r = some b) :
    b.render.count '\n' = 4 + commandCount r.actions + (quotedText r).count '\n' := by
  have hfeed : '\n' ∈ structural := List.mem_cons_self
  have hname : '\n' ∉ b.nameLine :=
    List.not_mem_append (by decide) (lineFeed_not_mem_nameOnLine b.name)
  have hif : '\n' ∉ "if ".toList := by decide
  have hopen : '\n' ∉ " \x7b".toList := by decide
  have hclose : [['\x7d'], []].flatten.count '\n' = 0 := rfl
  have htests : b.testsLine.count '\n' = (b.tests.flatMap Test.render).count '\n' := by
    rw [testsLine, List.count_append, List.count_append, count_renderTests hfeed,
      List.count_eq_zero_of_not_mem hif, List.count_eq_zero_of_not_mem hopen, Nat.zero_add,
      Nat.add_zero]
  have hlines : b.lines.flatten.count '\n' = (quotedText r).count '\n' := by
    rw [lines, List.flatten_append, List.flatten_cons, List.flatten_cons, List.count_append,
      List.count_append, List.count_append, hclose, List.count_eq_zero_of_not_mem hname, htests,
      quotedText, List.count_append]
    obtain rfl := Block.eq_of_ofRule? h
    rw [count_tests hfeed, count_commandLines hfeed, Nat.zero_add, Nat.add_zero]
  rw [render_eq, count_flatMap_lineFeed, (blockLines h).length, hlines]

theorem forall₂_ofRule? (rules : List Rule) :
    List.Forall₂ (fun r b => Block.ofRule? r = some b) (rules.filter hasBlock)
      (rules.filterMap Block.ofRule?) := by
  induction rules with
  | nil => exact .nil
  | cons r rules ih =>
    have hblock := Block.isSome_ofRule? r
    cases hb : Block.ofRule? r with
    | none =>
      rw [hb] at hblock
      rwa [List.filterMap_cons_none hb, List.filter_cons_of_neg (by simp [← hblock])]
    | some b =>
      rw [hb] at hblock
      rw [List.filterMap_cons_some hb, List.filter_cons_of_pos hblock.symm]
      exact .cons hb ih

theorem count_flatMap_render {rules : List Rule} {blocks : List Block}
    (h : List.Forall₂ (fun r b => Block.ofRule? r = some b) rules blocks) :
    (blocks.flatMap Block.render).count '\n' =
      4 * rules.length + commandCount (rules.flatMap Rule.actions) +
        (rules.flatMap quotedText).count '\n' := by
  induction h with
  | nil => rfl
  | cons hb _ ih =>
    rw [List.flatMap_cons, List.flatMap_cons, List.flatMap_cons, List.count_append,
      List.count_append, ih, Block.count_render hb, commandCount_append, List.length_cons]
    omega

theorem length_splitAt_generate (rules : List Rule) :
    (Text.splitAt '\n' (generate rules).toList).length =
      lineCount rules + (quotedTexts rules).count '\n' := by
  have hheading : heading.count '\n' = 3 := by decide
  rw [Text.length_splitAt, generate, String.toList_ofList, renderBlocks, List.count_append, hheading,
    count_flatMap_render (forall₂_ofRule? rules), ← quotedTexts, lineCount]
  omega

theorem laidOut_generate {rules : List Rule} (h : '\n' ∉ quotedTexts rules) :
    LaidOut rules (Text.splitAt '\n' (generate rules).toList) := by
  have hlacks : ∀ b ∈ rules.filterMap Block.ofRule?, b.Lacks '\n' := by
    intro b hb
    obtain ⟨r, hr, hb⟩ := List.mem_filterMap.mp hb
    have hblock : hasBlock r = true := by rw [← Block.isSome_ofRule?, hb]; rfl
    refine Block.lacks_of_not_mem_quotedText hb List.mem_cons_self fun hmem => h ?_
    exact List.mem_flatMap.mpr ⟨r, List.mem_filter.mpr ⟨hr, hblock⟩, hmem⟩
  have hlines : List.Forall₂ BlockLines (rules.filter hasBlock)
      ((rules.filterMap Block.ofRule?).map Block.lines) :=
    List.forall₂_map_right_iff.mpr ((forall₂_ofRule? rules).imp fun _ _ => Block.blockLines)
  refine ⟨_, hlines, ?_⟩
  rw [generate, String.toList_ofList, splitAt_renderBlocks hlacks, List.flatMap_def]

/-- A script has the lines it is meant to have exactly if nothing that a block writes between quotes
has a line feed. Each line feed there makes one line more. Names make none. -/
theorem lines_generate (rules : List Rule) :
    (Text.splitAt '\n' (generate rules).toList).length =
        lineCount rules + (quotedTexts rules).count '\n' ∧
      (LaidOut rules (Text.splitAt '\n' (generate rules).toList) ↔
        ∀ r ∈ rules, hasBlock r = true → '\n' ∉ quotedText r) := by
  have hquoted : '\n' ∉ quotedTexts rules ↔ ∀ r ∈ rules, hasBlock r = true → '\n' ∉ quotedText r := by
    simp only [quotedTexts, List.mem_flatMap, List.mem_filter, not_exists, not_and, and_imp]
  refine ⟨length_splitAt_generate rules, ?_⟩
  rw [← hquoted]
  constructor
  · -- Only the number of lines can tell, since what stands between quotes may look like a line.
    intro hlaid
    have hlength := hlaid.length
    rw [length_splitAt_generate] at hlength
    exact List.count_eq_zero.mp (by omega)
  · exact laidOut_generate

/-- Two line feeds in one literal make two lines more, and the validator takes the first of them for
an unknown command. -/
theorem lineFeed_in_literal :
    let r : Rule :=
      ⟨1, none, "Later", 0, .all, [⟨.subject, .contains, "a\nb\nc"⟩], [⟨.trash, none⟩], true⟩
    ¬ LaidOut [r] (Text.splitAt '\n' (generate [r]).toList) ∧
      validate (generate [r]) = .error (.unknownCommand "b") := by
  refine ⟨fun hlaid => ?_, by decide +kernel⟩
  exact absurd hlaid.length (by decide +kernel)

end Mailroom.Sieve
