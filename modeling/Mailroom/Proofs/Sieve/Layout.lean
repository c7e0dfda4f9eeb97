import Mathlib.Data.Bool.AllAny
import Mailroom.Proofs.Text.Cut
import Mailroom.Sieve.Block

/-!
# How scripts of rules are laid out

Line feeds and braces carry the layout of a script. Nothing but literals and arguments can bring
more of them into a test or a command, and a script whose tests and commands have no line feed
consists of the lines of its heading and of its blocks.
-/

namespace Mailroom.Filter

def Rule.writings (r : Rule) : List String :=
  r.conditions.map Condition.literal ++ r.actions.filterMap Action.argument

end Mailroom.Filter

namespace Mailroom.Sieve

open Mailroom.Filter (Action Combinator Condition Rule)

-- ---------------------------------------------------------------------------
-- Line feeds and braces
-- ---------------------------------------------------------------------------

/-- What an action writes between quotes. Most commands have no argument. -/
def quotedArgument (a : Action) : List Char :=
  match a.kind with
  | .moveToFolder | .forward | .reject => (a.argument.getD "").toList
  | _ => []

/-- What a rule writes between quotes: the literals that have a test and the arguments that have
a place in a command. -/
def quotedText (r : Rule) : List Char :=
  (r.conditions.filter fun c => (Test.ofCondition? c).isSome).flatMap (fun c => c.literal.toList) ++
    r.actions.flatMap quotedArgument

theorem exists_writing_of_mem_quotedText {r : Rule} {x : Char} (h : x ∈ quotedText r) :
    ∃ s ∈ r.writings, x ∈ s.toList := by
  rcases List.mem_append.mp h with h | h
  · obtain ⟨c, hc, hx⟩ := List.mem_flatMap.mp h
    exact ⟨_, List.mem_append_left _ (List.mem_map_of_mem (List.mem_filter.mp hc).1), hx⟩
  · obtain ⟨⟨kind, argument⟩, ha, hx⟩ := List.mem_flatMap.mp h
    have hargument : x ∈ (argument.getD "").toList := by
      cases kind <;> first | exact hx | exact nomatch hx
    cases argument with
    | none => exact nomatch hargument
    | some argument =>
      exact ⟨argument, List.mem_append_right _ (List.mem_filterMap.mpr ⟨_, ha, rfl⟩), hargument⟩

def structural : List Char := ['\n', '\x7b', '\x7d']

theorem not_mem_of_all {cs word : List Char} (h : cs.all (· ∉ word) = true) {x : Char}
    (hx : x ∈ cs) : x ∉ word := List.all_iff_forall_prop.mp h x hx

theorem mem_nameOnLine {x : Char} {name : List Char} (h : x ∈ Block.nameOnLine name) :
    x = ' ' ∨ x ∈ name ∧ x ≠ '\n' := by
  obtain ⟨c, hc, hx⟩ := List.mem_map.mp h
  split at hx
  · exact .inl hx.symm
  · next hbreak =>
    subst hx
    exact .inr ⟨hc, fun e => hbreak (.inr e)⟩

theorem lineFeed_not_mem_nameOnLine (name : List Char) : '\n' ∉ Block.nameOnLine name := by
  intro h
  rcases mem_nameOnLine h with h | ⟨-, h⟩
  · exact absurd h (by decide)
  · exact h rfl

section

variable {x : Char} (hx : x ∈ structural)

include hx

theorem count_quoted (text : List Char) : (quoted text).count x = text.count x := by
  have hquote : x ≠ '"' := fun e => not_mem_of_all (by decide) hx (List.mem_singleton.mpr e)
  have hslash : x ≠ '\\' := fun e => not_mem_of_all (by decide) hx (List.mem_singleton.mpr e)
  have hescape : (escape text).count x = text.count x := by
    induction text with
    | nil => rfl
    | cons c text ih =>
      rw [escape, List.flatMap_cons, List.count_append, ← escape, ih, List.count_cons, Nat.add_comm]
      split <;> simp [List.count_cons, hslash.symm]
  simp [quoted, hescape, hquote.symm]

theorem count_append_quoted {word : List Char} (hword : x ∉ word) (text : List Char) :
    (word ++ quoted text).count x = text.count x := by
  rw [List.count_append, List.count_eq_zero_of_not_mem hword, count_quoted hx, Nat.zero_add]

theorem count_header {name : String} (how : MatchKind) (hname : x ∉ name.toList) (key : List Char) :
    (Test.header how name key).render.count x = key.count x := by
  have hlead : x ∉ "header ".toList ++ how.tag.toList ++ [' '] := by
    cases how <;> exact not_mem_of_all (by decide) hx
  have hgap : x ∉ [' '] := not_mem_of_all (by decide) hx
  have hfield : x ∉ quoted name.toList := by
    rwa [← List.count_eq_zero, count_quoted hx, List.count_eq_zero]
  exact count_append_quoted hx (List.not_mem_append (List.not_mem_append hlead hfield) hgap) key

theorem count_ofComparison? {name literal : String} {comparison : Filter.Comparison} {t : Test}
    (h : Test.ofComparison? name literal comparison = some t) (hname : x ∉ name.toList) :
    t.render.count x = literal.toList.count x := by
  have hstar : x ∉ ['*'] := not_mem_of_all (by decide) hx
  cases comparison with
  | contains | equals =>
    obtain rfl := Option.some.inj h
    exact count_header hx _ hname _
  | startsWith =>
    obtain rfl := Option.some.inj h
    rw [count_header hx _ hname, List.count_append, List.count_eq_zero_of_not_mem hstar,
      Nat.add_zero]
  | endsWith =>
    obtain rfl := Option.some.inj h
    rw [count_header hx _ hname, ← List.singleton_append, List.count_append,
      List.count_eq_zero_of_not_mem hstar, Nat.zero_add]
  | pattern | other => cases h

theorem count_ofCondition? {c : Condition} {t : Test} (h : Test.ofCondition? c = some t) :
    t.render.count x = c.literal.toList.count x := by
  have hsender : x ∉ "From".toList := not_mem_of_all (by decide) hx
  have hrecipients : x ∉ "To".toList := not_mem_of_all (by decide) hx
  have hsubject : x ∉ "Subject".toList := not_mem_of_all (by decide) hx
  have hbody : x ∉ "body ".toList ++ MatchKind.contains.tag.toList ++ [' '] :=
    not_mem_of_all (by decide) hx
  obtain ⟨field, comparison, literal⟩ := c
  cases field with
  | sender => exact count_ofComparison? hx h hsender
  | recipients => exact count_ofComparison? hx h hrecipients
  | subject => exact count_ofComparison? hx h hsubject
  | body =>
    obtain rfl := Option.some.inj h
    exact count_append_quoted hx hbody _
  | hasAttachment | other => cases h

theorem count_ofAction? {a : Action} {c : Command} (h : Command.ofAction? a = some c) :
    c.render.count x = (quotedArgument a).count x := by
  obtain ⟨kind, argument⟩ := a
  have hend : x ∉ [';'] := not_mem_of_all (by decide) hx
  have hword (word text : List Char) (hw : x ∉ word) :
      (word ++ quoted text ++ [';']).count x = text.count x := by
    rw [List.count_append, count_append_quoted hx hw, List.count_eq_zero_of_not_mem hend,
      Nat.add_zero]
  cases kind with
  | moveToFolder =>
    obtain rfl := Option.some.inj h
    exact hword "fileinto ".toList _ (not_mem_of_all (by decide) hx)
  | forward =>
    obtain rfl := Option.some.inj h
    exact hword "redirect :copy ".toList _ (not_mem_of_all (by decide) hx)
  | reject =>
    obtain rfl := Option.some.inj h
    exact hword "reject ".toList _ (not_mem_of_all (by decide) hx)
  | star | markRead | trash | stop =>
    obtain rfl := Option.some.inj h
    exact List.count_eq_zero_of_not_mem (not_mem_of_all (by decide) hx)
  | archive | other => cases h

end

structure Block.Lacks (b : Block) (x : Char) : Prop where
  tests : ∀ t ∈ b.tests, x ∉ t.render
  commands : ∀ c ∈ b.commands, x ∉ c.render

theorem Block.eq_of_ofRule? {r : Rule} {b : Block} (h : ofRule? r = some b) :
    b = ⟨r.name.toList, r.combinator, r.conditions.filterMap Test.ofCondition?,
      r.actions.filterMap Command.ofAction?⟩ := by
  simp only [ofRule?] at h
  split at h
  · exact (Option.some.inj h).symm
  · cases h

theorem Block.lacks_of_not_mem_quotedText {r : Rule} {b : Block} {x : Char} (h : ofRule? r = some b)
    (hx : x ∈ structural) (hq : x ∉ quotedText r) : b.Lacks x := by
  obtain rfl := eq_of_ofRule? h
  refine ⟨fun t ht hmem => hq (List.mem_append_left _ ?_),
    fun c hc hmem => hq (List.mem_append_right _ ?_)⟩
  · obtain ⟨condition, hcondition, htest⟩ := List.mem_filterMap.mp ht
    refine List.mem_flatMap.mpr ⟨condition, List.mem_filter.mpr ⟨hcondition, ?_⟩, ?_⟩
    · rw [htest]; rfl
    · rw [← List.count_pos_iff, ← count_ofCondition? hx htest]
      exact List.count_pos_iff.mpr hmem
  · obtain ⟨action, haction, hcommand⟩ := List.mem_filterMap.mp hc
    refine List.mem_flatMap.mpr ⟨action, haction, ?_⟩
    rw [← List.count_pos_iff, ← count_ofAction? hx hcommand]
    exact List.count_pos_iff.mpr hmem

theorem Block.lacks_of_ofRule? {r : Rule} {b : Block} {x : Char} (h : ofRule? r = some b)
    (hx : x ∈ structural) (hw : ∀ s ∈ r.writings, x ∉ s.toList) : b.Lacks x := by
  refine lacks_of_not_mem_quotedText h hx fun hmem => ?_
  obtain ⟨s, hs, hmem⟩ := exists_writing_of_mem_quotedText hmem
  exact hw s hs hmem

theorem Block.count_renderTests {x : Char} (hx : x ∈ structural) (combinator : Combinator)
    (tests : List Test) :
    (renderTests combinator tests).count x = (tests.flatMap Test.render).count x := by
  have hopen : x ∉ combinator.sieveTest.toList ++ " (".toList := by
    cases combinator <;> exact not_mem_of_all (by decide) hx
  have hcomma : x ∉ ", ".toList := not_mem_of_all (by decide) hx
  have hclose : x ∉ ")".toList := not_mem_of_all (by decide) hx
  have hmany : (combinator.sieveTest.toList ++ " (".toList ++
      Text.joinWith ", ".toList (tests.map Test.render) ++ ")".toList).count x =
      (tests.flatMap Test.render).count x := by
    rw [List.count_append, List.count_append, Text.count_joinWith hcomma,
      List.count_eq_zero_of_not_mem hopen, List.count_eq_zero_of_not_mem hclose, Nat.zero_add,
      Nat.add_zero, List.flatMap_def]
  match tests with
  | [t] => simp [renderTests]
  | [] => exact hmany
  | _ :: _ :: _ => exact hmany

theorem Block.Lacks.renderTests {b : Block} {x : Char} (h : b.Lacks x) (hx : x ∈ structural) :
    x ∉ renderTests b.combinator b.tests := by
  rw [← List.count_eq_zero, Block.count_renderTests hx, List.count_eq_zero]
  intro hmem
  obtain ⟨t, ht, hmem⟩ := List.mem_flatMap.mp hmem
  exact h.tests t ht hmem

-- ---------------------------------------------------------------------------
-- Lines
-- ---------------------------------------------------------------------------

namespace Block

def nameLine (b : Block) : List Char := "# Rule: ".toList ++ nameOnLine b.name

def testsLine (b : Block) : List Char :=
  "if ".toList ++ renderTests b.combinator b.tests ++ " \x7b".toList

def commandLine (c : Command) : List Char := "    ".toList ++ c.render

def lines (b : Block) : List (List Char) :=
  b.nameLine :: b.testsLine :: b.commands.map commandLine ++ [['\x7d'], []]

theorem render_eq (b : Block) : b.render = b.lines.flatMap (· ++ ['\n']) := by
  have hopen : " \x7b\n".toList = " \x7b".toList ++ ['\n'] := by decide
  have hclose : "\x7d\n\n".toList = ['\x7d'] ++ ['\n'] ++ ([] ++ ['\n']) := by decide
  have hcommands : b.commands.flatMap (fun c => "    ".toList ++ c.render ++ ['\n']) =
      (b.commands.map commandLine).flatMap (· ++ ['\n']) := by
    rw [List.flatMap_map]
    rfl
  unfold render lines nameLine testsLine
  rw [hopen, hclose, hcommands]
  simp only [List.flatMap_cons, List.flatMap_append, List.flatMap_nil, List.append_assoc,
    List.append_nil, List.cons_append]

theorem Lacks.lines {b : Block} (h : b.Lacks '\n') : ∀ line ∈ b.lines, '\n' ∉ line := by
  have hname : '\n' ∉ "# Rule: ".toList := by decide
  have hif : '\n' ∉ "if ".toList := by decide
  have hopen : '\n' ∉ " \x7b".toList := by decide
  have hindent : '\n' ∉ "    ".toList := by decide
  have htests := h.renderTests List.mem_cons_self
  intro line hl
  simp only [Block.lines, List.mem_cons, List.mem_append, List.mem_map] at hl
  rcases hl with (rfl | rfl | ⟨c, hc, rfl⟩) | rfl | rfl | hl
  · exact List.not_mem_append hname (lineFeed_not_mem_nameOnLine b.name)
  · exact List.not_mem_append (List.not_mem_append hif htests) hopen
  · exact List.not_mem_append hindent (h.commands c hc)
  · decide
  · exact List.not_mem_nil
  · exact absurd hl List.not_mem_nil

end Block

def headingLines : List (List Char) :=
  ["# Auto-generated Sieve script from email rules".toList,
    "require [\"fileinto\", \"imap4flags\", \"reject\", \"vacation\", \"copy\"];".toList, []]

theorem heading_eq : heading = headingLines.flatMap (· ++ ['\n']) := by decide

theorem splitAt_renderBlocks {blocks : List Block} (h : ∀ b ∈ blocks, b.Lacks '\n') :
    Text.splitAt '\n' (renderBlocks blocks) = headingLines ++ blocks.flatMap Block.lines ++ [[]] := by
  have hheading : ∀ line ∈ headingLines, '\n' ∉ line := by decide
  have hblocks : blocks.flatMap Block.render =
      (blocks.flatMap Block.lines).flatMap (· ++ ['\n']) := by
    rw [List.flatMap_assoc]
    exact congrArg (fun f => blocks.flatMap f) (funext Block.render_eq)
  have hlines : ∀ line ∈ blocks.flatMap Block.lines, '\n' ∉ line := by
    intro line hl
    obtain ⟨b, hb, hl⟩ := List.mem_flatMap.mp hl
    exact (h b hb).lines line hl
  have hrest := Text.splitAt_flatMap [] hlines
  rw [List.append_nil] at hrest
  rw [renderBlocks, heading_eq, Text.splitAt_flatMap _ hheading, hblocks, hrest, List.append_assoc]
  rfl

end Mailroom.Sieve
