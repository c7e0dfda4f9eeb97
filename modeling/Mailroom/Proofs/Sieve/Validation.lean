import Mailroom.Proofs.Sieve.Layout
import Mailroom.Proofs.Text.Blank
import Mailroom.Sieve.Script

/-!
# Scripts of rules are valid

As long as nothing that is written into rules breaks a line, the script of any rules passes the
checks of its capabilities and of its lines, and only braces in names and in what is written into
rules can spoil the last check.
-/

namespace Mailroom.Sieve

open Mailroom.Filter (Action Combinator Condition Rule)

-- ---------------------------------------------------------------------------
-- Capabilities
-- ---------------------------------------------------------------------------

theorem checkCapabilities_heading (rest : List Char) :
    checkCapabilities (heading ++ rest) = .ok () := by
  have hheading : heading = "# Auto-generated Sieve script from email rules\n".toList ++
      "require [\"fileinto\", \"imap4flags\", \"reject\", \"vacation\", \"copy\"];\n\n".toList := by
    decide
  have hcomment (cs : List Char) : required?
      ("# Auto-generated Sieve script from email rules\n".toList ++ cs) = required? cs := rfl
  have hlist : required? (heading ++ rest) =
      some "\"fileinto\", \"imap4flags\", \"reject\", \"vacation\", \"copy\"".toList := by
    rw [hheading, List.append_assoc, hcomment]
    rfl
  have hnames : (capabilityNames
      "\"fileinto\", \"imap4flags\", \"reject\", \"vacation\", \"copy\"".toList).find?
      (fun name => !capabilities.contains name) = none := by
    decide
  rw [checkCapabilities, hlist]
  simp only [hnames]

-- ---------------------------------------------------------------------------
-- Lines
-- ---------------------------------------------------------------------------

theorem isLine_of_quote {line : List Char} (h : '"' ∈ line) : isLine (Text.trim line) = true := by
  have hq : '"' ∈ Text.trim line := Text.mem_trim (by decide) h
  have hany : (Text.trim line).any (fun c => c == '"' || c == ':' || c == '[') = true :=
    List.any_eq_true.mpr ⟨'"', hq, by decide⟩
  simp [isLine, hany]

theorem isLine_of_word {word : String} {line : List Char} (hmem : word ∈ commandWords)
    (h : word.toList <+: line) : isLine (Text.trim line) = true := by
  have hne : ∀ w ∈ commandWords, w.toList ≠ [] := by decide
  have hblank : ∀ w ∈ commandWords, w.toList.all (Text.isBlank · = false) = true := by
    decide
  have hprefix := Text.prefix_trim (hne word hmem)
    (List.all_iff_forall_prop.mp (hblank word hmem)) h
  have hany : commandWords.any (fun w => w.toList.isPrefixOf (Text.trim line)) = true :=
    List.any_eq_true.mpr ⟨word, hmem, List.isPrefixOf_iff_prefix.mpr hprefix⟩
  simp only [isLine, hany, Bool.or_true, Bool.true_or]

theorem isLine_of_hash {line : List Char} (h : line.head? = some '#') :
    isLine (Text.trim line) = true := by
  have hprefix : ['#'] <+: line := by
    cases line with
    | nil => cases h
    | cons c line =>
      obtain rfl := Option.some.inj h
      exact ⟨line, rfl⟩
  obtain ⟨rest, hrest⟩ := Text.prefix_trim (List.cons_ne_nil '#' [])
    (List.forall_mem_singleton.mpr rfl) hprefix
  rw [← hrest]
  simp [isLine]

theorem quote_mem_quoted (text : List Char) : '"' ∈ quoted text := List.mem_cons_self

theorem Block.isLine_commandLine (c : Command) : isLine (Text.trim (commandLine c)) = true := by
  have hquoted (word text : List Char) (h : c.render = word ++ quoted text ++ [';']) :
      isLine (Text.trim (commandLine c)) = true := by
    refine isLine_of_quote (List.mem_append_right _ ?_)
    rw [h]
    exact List.mem_append_left _ (List.mem_append_right _ (quote_mem_quoted text))
  cases c with
  | fileInto folder => exact hquoted _ folder rfl
  | addFlag flag => exact hquoted _ flag.toList rfl
  | redirect address => exact hquoted _ address rfl
  | reject reason => exact hquoted _ reason rfl
  | discard | stop => decide

theorem Block.isLine_lines (b : Block) : ∀ line ∈ b.lines, isLine (Text.trim line) = true := by
  intro line hl
  simp only [lines, List.mem_cons, List.mem_append, List.mem_map] at hl
  rcases hl with (rfl | rfl | ⟨c, -, rfl⟩) | rfl | rfl | hl
  · exact isLine_of_hash rfl
  · have hif : "if ".toList = "if".toList ++ [' '] := by decide
    have hword : "if" ∈ commandWords := by decide
    refine isLine_of_word hword ?_
    rw [testsLine, hif, List.append_assoc, List.append_assoc]
    exact List.prefix_append _ _
  · exact isLine_commandLine c
  · decide
  · decide
  · exact absurd hl List.not_mem_nil

theorem checkLines_renderBlocks {blocks : List Block} (h : ∀ b ∈ blocks, b.Lacks '\n') :
    checkLines (renderBlocks blocks) = .ok () := by
  have hheading : ∀ line ∈ headingLines, isLine (Text.trim line) = true := by decide
  have hall : ∀ line ∈ headingLines ++ blocks.flatMap Block.lines ++ [[]],
      isLine (Text.trim line) = true := by
    intro line hl
    rcases List.mem_append.mp hl with hl | hl
    · rcases List.mem_append.mp hl with hl | hl
      · exact hheading line hl
      · obtain ⟨b, -, hl⟩ := List.mem_flatMap.mp hl
        exact b.isLine_lines line hl
    · obtain rfl := List.mem_singleton.mp hl
      rfl
  have hnone : ((Text.splitAt '\n' (renderBlocks blocks)).map Text.trim).find?
      (fun line => !isLine line) = none := by
    rw [splitAt_renderBlocks h]
    refine List.find?_eq_none.mpr fun line hl => ?_
    obtain ⟨raw, hraw, rfl⟩ := List.mem_map.mp hl
    simp [hall raw hraw]
  rw [checkLines, hnone]

-- ---------------------------------------------------------------------------
-- Braces
-- ---------------------------------------------------------------------------

theorem checkBraces_cases (depth : Nat) (cs : List Char) :
    checkBraces depth cs = .ok () ∨ checkBraces depth cs = .error .unmatchedClosing ∨
      checkBraces depth cs = .error .unmatchedOpening := by
  induction cs generalizing depth with
  | nil =>
    unfold checkBraces
    split
    · exact .inl rfl
    · exact .inr (.inr rfl)
  | cons c rest ih =>
    unfold checkBraces
    split
    · exact ih (depth + 1)
    · split
      · cases depth with
        | zero => exact .inr (.inl rfl)
        | succ depth => exact ih depth
      · exact ih depth

theorem checkBraces_append {a : List Char} (hopen : '\x7b' ∉ a) (hclose : '\x7d' ∉ a) (depth : Nat)
    (b : List Char) : checkBraces depth (a ++ b) = checkBraces depth b := by
  induction a with
  | nil => rfl
  | cons c a ih =>
    obtain ⟨ho, hopen⟩ := not_or.mp (mt List.mem_cons.mpr hopen)
    obtain ⟨hc, hclose⟩ := not_or.mp (mt List.mem_cons.mpr hclose)
    rw [List.cons_append, checkBraces.eq_def]
    simp only [if_neg (Ne.symm ho), if_neg (Ne.symm hc), ih hopen hclose]

theorem checkBraces_block {b : Block} (hopen : b.Lacks '\x7b') (hclose : b.Lacks '\x7d')
    (ho : '\x7b' ∉ b.name) (hc : '\x7d' ∉ b.name) (rest : List Char) :
    checkBraces 0 (b.render ++ rest) = checkBraces 0 rest := by
  have hstructural : ['\x7b', '\x7d'] ⊆ structural := by decide
  -- neither the lines before the brace nor the commands hold one
  have hbefore (x : Char) (hx : x ∈ ['\x7b', '\x7d']) (hl : b.Lacks x) (hn : x ∉ b.name) :
      x ∉ b.nameLine ++ ['\n'] ++ ("if ".toList ++ Block.renderTests b.combinator b.tests ++ [' ']) := by
    have hgap : x ∉ [' '] := not_mem_of_all (by decide) hx
    have hname : x ∉ Block.nameOnLine b.name := fun h =>
      (mem_nameOnLine h).elim (fun e => hgap (List.mem_singleton.mpr e)) fun h => hn h.1
    have hrule : x ∉ "# Rule: ".toList := not_mem_of_all (by decide) hx
    have hbreak : x ∉ ['\n'] := not_mem_of_all (by decide) hx
    have hif : x ∉ "if ".toList := not_mem_of_all (by decide) hx
    have htests := hl.renderTests (hstructural hx)
    exact List.not_mem_append (List.not_mem_append (List.not_mem_append hrule hname) hbreak)
      (List.not_mem_append (List.not_mem_append hif htests) hgap)
  have hcommands (x : Char) (hx : x ∈ ['\x7b', '\x7d']) (hl : b.Lacks x) :
      x ∉ '\n' :: (b.commands.map Block.commandLine).flatMap (· ++ ['\n']) := by
    have hindent : x ∉ "    ".toList := not_mem_of_all (by decide) hx
    have hbreak : x ∉ ['\n'] := not_mem_of_all (by decide) hx
    refine List.not_mem_append (s := ['\n']) hbreak fun h => ?_
    obtain ⟨line, hline, hx⟩ := List.mem_flatMap.mp h
    obtain ⟨c, hc, rfl⟩ := List.mem_map.mp hline
    exact List.not_mem_append (List.not_mem_append hindent (hl.commands c hc)) hbreak hx
  have hlines : b.render ++ rest =
      (b.nameLine ++ ['\n'] ++ ("if ".toList ++ Block.renderTests b.combinator b.tests ++ [' ']))
        ++ '\x7b' :: (('\n' :: (b.commands.map Block.commandLine).flatMap (· ++ ['\n']))
        ++ '\x7d' :: (['\n', '\n'] ++ rest)) := by
    have hbrace : " \x7b".toList = [' ', '\x7b'] := by decide
    rw [Block.render_eq, Block.lines, Block.testsLine, hbrace]
    simp only [List.flatMap_cons, List.flatMap_append, List.flatMap_nil, List.append_assoc,
      List.cons_append, List.nil_append]
  have hend (depth : Nat) : checkBraces depth (['\n', '\n'] ++ rest) = checkBraces depth rest :=
    checkBraces_append (by decide) (by decide) depth rest
  rw [hlines, checkBraces_append (hbefore _ (by decide) hopen ho) (hbefore _ (by decide) hclose hc),
    checkBraces, if_pos rfl, checkBraces_append (hcommands _ (by decide) hopen)
    (hcommands _ (by decide) hclose), checkBraces, if_neg (by decide), if_pos rfl]
  exact hend 0

theorem checkBraces_blocks {blocks : List Block}
    (h : ∀ b ∈ blocks, ∀ x ∈ ['\x7b', '\x7d'], b.Lacks x ∧ x ∉ b.name) :
    checkBraces 0 (blocks.flatMap Block.render) = .ok () := by
  induction blocks with
  | nil => rfl
  | cons b blocks ih =>
    obtain ⟨hopen, ho⟩ := h b List.mem_cons_self '\x7b' (by decide)
    obtain ⟨hclose, hc⟩ := h b List.mem_cons_self '\x7d' (by decide)
    rw [List.flatMap_cons, checkBraces_block hopen hclose ho hc]
    exact ih fun b' hb => h b' (List.mem_cons_of_mem b hb)

-- ---------------------------------------------------------------------------
-- Scripts
-- ---------------------------------------------------------------------------

theorem validate_renderBlocks {blocks : List Block} (h : ∀ b ∈ blocks, b.Lacks '\n') :
    validate (String.ofList (renderBlocks blocks)) =
      checkBraces 0 (blocks.flatMap Block.render) := by
  have hheading (rest : List Char) : checkBraces 0 (heading ++ rest) = checkBraces 0 rest :=
    checkBraces_append (by decide) (by decide) 0 rest
  have hcapabilities : checkCapabilities (renderBlocks blocks) = .ok () := checkCapabilities_heading _
  have hbraces : checkBraces 0 (renderBlocks blocks) = checkBraces 0 (blocks.flatMap Block.render) :=
    hheading _
  unfold validate
  simp only [String.toList_ofList, hcapabilities, hbraces, checkLines_renderBlocks h]
  cases checkBraces 0 (blocks.flatMap Block.render) <;> rfl

theorem Block.name_of_ofRule? {r : Rule} {b : Block} (h : ofRule? r = some b) :
    b.name = r.name.toList := by
  rw [eq_of_ofRule? h]

/-- If no line feed is written into rules, nothing is wrong with their capabilities and commands.
If no brace is written into them either, and none stands in their names, their script is valid and
can be put in use. -/
theorem validate_generate {rules : List Rule} (h : ∀ r ∈ rules, ∀ s ∈ r.writings, '\n' ∉ s.toList) :
    (validate (generate rules) = .ok () ∨ validate (generate rules) = .error .unmatchedClosing ∨
      validate (generate rules) = .error .unmatchedOpening) ∧
    ((∀ r ∈ rules, ∀ s ∈ r.name :: r.writings, '\x7b' ∉ s.toList ∧ '\x7d' ∉ s.toList) →
      validate (generate rules) = .ok () ∧
        ∀ name, (Script.ofText name (generate rules) true).active = true) := by
  have hlines : ∀ b ∈ rules.filterMap Block.ofRule?, b.Lacks '\n' := by
    intro b hb
    obtain ⟨r, hr, hblock⟩ := List.mem_filterMap.mp hb
    exact Block.lacks_of_ofRule? hblock (by decide) (h r hr)
  have hvalidate : validate (generate rules) = _ := validate_renderBlocks hlines
  refine ⟨hvalidate ▸ checkBraces_cases 0 _, fun hbraces => ?_⟩
  have hblocks : ∀ b ∈ rules.filterMap Block.ofRule?, ∀ x ∈ ['\x7b', '\x7d'],
      b.Lacks x ∧ x ∉ b.name := by
    intro b hb x hx
    obtain ⟨r, hr, hblock⟩ := List.mem_filterMap.mp hb
    have hfree : ∀ s ∈ r.name :: r.writings, x ∉ s.toList := by
      intro s hs
      obtain ⟨hopen, hclose⟩ := hbraces r hr s hs
      simp only [List.mem_cons, List.not_mem_nil, or_false] at hx
      rcases hx with rfl | rfl
      · exact hopen
      · exact hclose
    refine ⟨Block.lacks_of_ofRule? hblock ?_ fun s hs => hfree s (List.mem_cons_of_mem _ hs), ?_⟩
    · exact (by decide : ['\x7b', '\x7d'] ⊆ structural) hx
    · rw [Block.name_of_ofRule? hblock]
      exact hfree _ List.mem_cons_self
  have hvalid : validate (generate rules) = .ok () := by rw [hvalidate, checkBraces_blocks hblocks]
  refine ⟨hvalid, fun name => ?_⟩
  simp [Script.ofText, Script.fault?, hvalid]

namespace Script.Sample

/-- Names may look like commands, and literals like capabilities. -/
def rules : List Rule :=
  [⟨1, none, "a\nrequire [\"b\"];", 0, .any,
    [⟨.subject, .startsWith, "require [\"c\"]"⟩, ⟨.body, .contains, "\""⟩],
    [⟨.moveToFolder, some "\\"⟩, ⟨.stop, none⟩], true⟩]

end Script.Sample

theorem validate_generate_sample : validate (generate Script.Sample.rules) = .ok () ∧
    (Script.ofText "main" (generate Script.Sample.rules) true).active = true := by
  have hlines : ∀ r ∈ Script.Sample.rules, ∀ s ∈ r.writings, '\n' ∉ s.toList := by decide
  obtain ⟨-, hvalid⟩ := validate_generate hlines
  obtain ⟨hok, hactive⟩ := hvalid (by decide)
  exact ⟨hok, hactive "main"⟩

end Mailroom.Sieve
