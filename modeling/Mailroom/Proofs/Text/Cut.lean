import Mailroom.Text.Cut

/-!
# Cutting what was put together

A cut finds the separator where it was put if nothing before it looks like one, and lines
that were written one after the other come back one by one.
-/

namespace Mailroom.Text

variable {α : Type} [BEq α] [LawfulBEq α]

-- ---------------------------------------------------------------------------
-- Separators, prefixes and suffixes
-- ---------------------------------------------------------------------------

theorem cut_singleton_of_not_mem {stop : α} {xs : List α} (h : stop ∉ xs) : cut [stop] xs = none := by
  induction xs with
  | nil => rfl
  | cons x xs ih =>
    simp only [List.mem_cons, not_or] at h
    simp [cut, h.1, ih h.2]

theorem cut_singleton_append {stop : α} {xs : List α} (ys : List α) (h : stop ∉ xs) :
    cut [stop] (xs ++ stop :: ys) = some (xs, ys) := by
  induction xs with
  | nil => simp [cut]
  | cons x xs ih =>
    simp only [List.mem_cons, not_or] at h
    simp [cut, h.1, ih h.2]

theorem cut_singleton_of_mem {stop : α} {xs : List α} (h : stop ∈ xs) :
    ∃ after, cut [stop] xs = some (xs.takeWhile (· != stop), after) := by
  obtain ⟨before, after, rfl, hbefore⟩ := List.eq_append_cons_of_mem h
  have hdiffer : ∀ x ∈ before, (x != stop) = true := fun x hx =>
    bne_iff_ne.mpr fun he => hbefore (he ▸ hx)
  refine ⟨after, (cut_singleton_append after hbefore).trans ?_⟩
  rw [List.takeWhile_append_of_pos hdiffer, List.takeWhile_cons_of_neg (by simp), List.append_nil]

theorem cut_eq_none_of_not_infix {sep xs : List α} (h : ¬ sep <:+: xs) : cut sep xs = none := by
  induction xs with
  | nil =>
    have : sep ≠ [] := by
      rintro rfl
      exact h List.nil_infix
    simp [cut, this]
  | cons x xs ih =>
    have hp : ¬ sep.isPrefixOf (x :: xs) = true := fun hp =>
      h (List.isPrefixOf_iff_prefix.mp hp).isInfix
    have hr : ¬ sep <:+: xs := fun hr => h (hr.trans (List.suffix_cons x xs).isInfix)
    simp [cut, hp, ih hr]

theorem dropPrefix?_eq_some_iff {part xs rest : List α} :
    dropPrefix? part xs = some rest ↔ xs = part ++ rest := by
  unfold dropPrefix?
  split
  · next h =>
    obtain ⟨tail, rfl⟩ := List.isPrefixOf_iff_prefix.mp h
    simp
  · next h =>
    simp only [reduceCtorEq, false_iff]
    rintro rfl
    exact h (List.isPrefixOf_iff_prefix.mpr (List.prefix_append part rest))

theorem eq_of_cut {sep xs before after : List α}
    (h : cut sep xs = some (before, after)) : xs = before ++ sep ++ after := by
  induction xs generalizing before with
  | nil =>
    obtain ⟨hsep, hparts⟩ := Option.ite_none_right_eq_some.mp h
    obtain ⟨rfl, rfl⟩ := Prod.mk.inj (Option.some.inj hparts)
    rw [List.isEmpty_iff.mp hsep]
    rfl
  | cons x xs ih =>
    rw [cut] at h
    split at h
    · next hprefix =>
      obtain ⟨rfl, rfl⟩ := Prod.mk.inj (Option.some.inj h)
      exact dropPrefix?_eq_some_iff.mp (if_pos hprefix)
    · obtain ⟨⟨front, rest⟩, hcut, hparts⟩ := Option.map_eq_some_iff.mp h
      obtain ⟨rfl, rfl⟩ := Prod.mk.inj hparts
      exact congrArg (x :: ·) (ih hcut)

theorem cut_singleton_eq_some_iff {stop : α} {xs before after : List α} :
    cut [stop] xs = some (before, after) ↔ stop ∉ before ∧ xs = before ++ stop :: after := by
  refine ⟨fun h => ⟨fun hm => ?_, ?_⟩, fun ⟨hm, hx⟩ => hx ▸ cut_singleton_append after hm⟩
  · obtain ⟨front, back, rfl, hfront⟩ := List.eq_append_cons_of_mem hm
    have hfirst := cut_singleton_append (back ++ stop :: after) hfront
    have hx := eq_of_cut h
    simp only [List.append_assoc, List.cons_append, List.nil_append] at hx
    rw [← hx, h] at hfirst
    have hlength := congrArg List.length (Prod.mk.inj (Option.some.inj hfirst)).1
    simp at hlength
  · simpa using eq_of_cut h

theorem cut_of_prefix (sep after : List α) : cut sep (sep ++ after) = some ([], after) := by
  cases h : sep ++ after with
  | nil => simp_all [cut]
  | cons x xs =>
    have hp : sep.isPrefixOf (x :: xs) = true :=
      List.isPrefixOf_iff_prefix.mpr (h ▸ List.prefix_append sep after)
    rw [cut, if_pos hp, ← h, List.drop_left]

theorem cut_append {x : α} {before : List α} (after : List α) (h : x ∉ before) (sep : List α) :
    cut (x :: sep) (before ++ (x :: sep ++ after)) = some (before, after) := by
  induction before with
  | nil => exact cut_of_prefix (x :: sep) after
  | cons y before ih =>
    simp only [List.mem_cons, not_or] at h
    rw [List.cons_append, cut, if_neg (by simp [h.1]), ih h.2]
    rfl

theorem cut_append_of_not_infix {sep before : List α} (after : List α)
    (h : ¬ sep <:+: before ++ sep.dropLast) :
    cut sep (before ++ (sep ++ after)) = some (before, after) := by
  induction before with
  | nil => exact cut_of_prefix sep after
  | cons x before ih =>
    have hstart : ¬ sep <+: x :: (before ++ (sep ++ after)) := by
      intro hp
      have hfront : x :: before ++ sep.dropLast <+: x :: (before ++ (sep ++ after)) := by
        rw [List.cons_append, List.prefix_cons_inj, List.prefix_append_right_inj]
        exact (List.dropLast_prefix sep).trans (List.prefix_append sep after)
      refine h (List.prefix_of_prefix_length_le hp hfront ?_).isInfix
      simp only [List.length_append, List.length_cons, List.length_dropLast]
      omega
    have hrest : ¬ sep <:+: before ++ sep.dropLast := by
      intro hi
      exact h (hi.trans (List.suffix_cons x _).isInfix)
    rw [List.cons_append, cut, if_neg (by rwa [List.isPrefixOf_iff_prefix]), ih hrest]
    rfl

theorem exists_cut_of_append (sep before after : List α) :
    ∃ front back, cut sep (before ++ (sep ++ after)) = some (front, back) ∧ after <:+ back := by
  induction before with
  | nil => exact ⟨[], after, cut_of_prefix sep after, List.suffix_refl after⟩
  | cons x before ih =>
    rw [List.cons_append, cut]
    split
    · have hafter : after <:+ x :: (before ++ (sep ++ after)) := ⟨x :: (before ++ sep), by simp⟩
      refine ⟨[], _, rfl, List.suffix_of_suffix_length_le hafter (List.drop_suffix _ _) ?_⟩
      simp only [List.length_drop, List.length_cons, List.length_append]
      omega
    · obtain ⟨front, back, hcut, hback⟩ := ih
      exact ⟨x :: front, back, by rw [hcut]; rfl, hback⟩

theorem dropSuffix?_eq_some_iff {part xs rest : List α} :
    dropSuffix? part xs = some rest ↔ xs = rest ++ part := by
  unfold dropSuffix?
  split
  · next h =>
    obtain ⟨front, rfl⟩ := List.isSuffixOf_iff_suffix.mp h
    simp
  · next h =>
    simp only [reduceCtorEq, false_iff]
    rintro rfl
    exact h (List.isSuffixOf_iff_suffix.mpr (List.suffix_append rest part))

theorem dropSuffix?_eq_none_iff {part xs : List α} :
    dropSuffix? part xs = none ↔ ¬ part <:+ xs := by
  rw [Option.eq_none_iff_forall_ne_some]
  exact ⟨fun h ⟨rest, hrest⟩ => h rest (dropSuffix?_eq_some_iff.mpr hrest.symm),
    fun h rest hrest => h ⟨rest, (dropSuffix?_eq_some_iff.mp hrest).symm⟩⟩

theorem occurs_iff_infix {part xs : List α} : occurs part xs = true ↔ part <:+: xs := by
  induction xs with
  | nil => simp [occurs]
  | cons x xs ih => rw [occurs, Bool.or_eq_true, List.isPrefixOf_iff_prefix, ih, List.infix_cons_iff]

-- ---------------------------------------------------------------------------
-- Lines
-- ---------------------------------------------------------------------------

theorem piecesAfter_append_stop (stop : α) (xs ys : List α) :
    piecesAfter stop (xs ++ stop :: ys) =
      piecesAfter stop (xs ++ [stop]) ++ piecesAfter stop ys := by
  induction xs with
  | nil => simp [piecesAfter]
  | cons x xs ih =>
    simp only [List.cons_append, piecesAfter]
    split
    · simp [ih]
    · rw [ih]
      -- the line under way is not the last one, so it stays whole
      cases h : piecesAfter stop (xs ++ [stop]) with
      | nil =>
        have := flatten_piecesAfter stop (xs ++ [stop])
        simp [h] at this
      | cons piece rest => simp

theorem piecesAfter_line {stop : α} {xs : List α} (h : stop ∉ xs) :
    piecesAfter stop (xs ++ [stop]) = [xs ++ [stop]] := by
  induction xs with
  | nil => simp [piecesAfter]
  | cons x xs ih =>
    simp only [List.mem_cons, not_or] at h
    have hx : (x == stop) = false := by simpa using Ne.symm h.1
    simp [piecesAfter, hx, ih h.2]

theorem piecesAfter_of_not_mem {stop : α} {xs : List α} (h : stop ∉ xs) (hne : xs ≠ []) :
    piecesAfter stop xs = [xs] := by
  induction xs with
  | nil => exact absurd rfl hne
  | cons x xs ih =>
    simp only [List.mem_cons, not_or] at h
    have hx : (x == stop) = false := by simpa using Ne.symm h.1
    cases xs with
    | nil => simp [piecesAfter, hx]
    | cons y ys => rw [piecesAfter, ih h.2 (by simp)]; simp [hx]

theorem piecesAfter_line_append {stop : α} {xs : List α} (ys : List α) (h : stop ∉ xs) :
    piecesAfter stop (xs ++ stop :: ys) = (xs ++ [stop]) :: piecesAfter stop ys := by
  rw [piecesAfter_append_stop, piecesAfter_line h, List.singleton_append]

omit [LawfulBEq α] in
theorem piecesAfter_ne_nil (stop : α) {xs : List α} (h : xs ≠ []) : piecesAfter stop xs ≠ [] := by
  intro hp
  have := flatten_piecesAfter stop xs
  rw [hp] at this
  exact h this.symm

omit [LawfulBEq α] in
theorem mem_of_mem_piecesAfter {stop x : α} {xs piece : List α} (hp : piece ∈ piecesAfter stop xs)
    (hx : x ∈ piece) : x ∈ xs := by
  rw [← flatten_piecesAfter stop xs]
  exact List.mem_flatten.mpr ⟨piece, hp, hx⟩

/-- Every sequence is full lines and a rest without a line end, and what is put behind it
continues the rest. -/
theorem exists_lastLine (stop : α) (xs : List α) :
    ∃ full line, xs = full ++ line ∧ stop ∉ line ∧
      ∀ ys, piecesAfter stop (full ++ ys) = piecesAfter stop full ++ piecesAfter stop ys := by
  induction xs with
  | nil => exact ⟨[], [], rfl, by simp, fun ys => rfl⟩
  | cons x xs ih =>
    obtain ⟨full, line, rfl, hline, hfull⟩ := ih
    by_cases hx : x = stop
    · refine ⟨x :: full, line, rfl, hline, fun ys => ?_⟩
      simp [piecesAfter, hx, hfull]
    · have hne : (x == stop) = false := by simpa using hx
      cases full with
      | nil => exact ⟨[], x :: line, rfl, by simp [Ne.symm hx, hline], fun ys => rfl⟩
      | cons y full =>
        refine ⟨x :: y :: full, line, rfl, hline, fun ys => ?_⟩
        obtain ⟨piece, rest, hp⟩ :=
          List.exists_cons_of_ne_nil (piecesAfter_ne_nil stop (List.cons_ne_nil y full))
        have h := hfull ys
        rw [hp] at h
        rw [List.cons_append, piecesAfter, h, piecesAfter, hp]
        simp [hne]

omit [BEq α] [LawfulBEq α] in
theorem induction_line {motive : List α → Prop} (stop : α)
    (last : ∀ line, stop ∉ line → motive line)
    (more : ∀ line rest, stop ∉ line → motive rest → motive (line ++ stop :: rest))
    (xs : List α) : motive xs := by
  by_cases h : stop ∈ xs
  · obtain ⟨line, rest, hxs, hline⟩ := List.eq_append_cons_of_mem h
    rw [hxs]
    exact more line rest hline (induction_line stop last more rest)
  · exact last xs h
termination_by xs.length
decreasing_by rw [hxs]; simp only [List.length_append, List.length_cons]; omega

theorem piecesAfter_flatten_of_infix {stop : α} {xs : List α} {part : List (List α)}
    (h : part <:+: piecesAfter stop xs) : piecesAfter stop part.flatten = part := by
  induction xs using induction_line stop generalizing part with
  | last line hline =>
    by_cases hne : line = []
    · subst hne
      rw [List.infix_nil.mp h]
      rfl
    · rw [piecesAfter_of_not_mem hline hne] at h
      rcases List.infix_cons_iff.mp h with hfirst | hlater
      · rcases List.prefix_cons_iff.mp hfirst with rfl | ⟨front, rfl, hfront⟩
        · rfl
        · rw [List.prefix_nil.mp hfront, List.flatten_singleton, piecesAfter_of_not_mem hline hne]
      · rw [List.infix_nil.mp hlater]
        rfl
  | more line rest hline ih =>
    rw [piecesAfter_line_append rest hline] at h
    rcases List.infix_cons_iff.mp h with hfirst | hlater
    · rcases List.prefix_cons_iff.mp hfirst with rfl | ⟨front, rfl, hfront⟩
      · rfl
      · rw [List.flatten_cons, List.append_assoc, List.singleton_append,
          piecesAfter_line_append _ hline, ih hfront.isInfix]
    · exact ih hlater

theorem of_mem_piecesAfter {stop : α} {xs piece : List α} (h : piece ∈ piecesAfter stop xs) :
    (∃ line, piece = line ++ [stop] ∧ stop ∉ line) ∨ piece ≠ [] ∧ stop ∉ piece := by
  induction xs using induction_line stop with
  | last line hline =>
    by_cases hne : line = []
    · subst hne
      exact nomatch h
    · rw [piecesAfter_of_not_mem hline hne, List.mem_singleton] at h
      exact .inr ⟨h ▸ hne, h ▸ hline⟩
  | more line rest hline ih =>
    rw [piecesAfter_line_append rest hline] at h
    rcases List.mem_cons.mp h with rfl | h
    · exact .inl ⟨line, rfl, hline⟩
    · exact ih h

theorem lineContent_concat (cs : List Char) :
    lineContent (cs ++ ['\n']) = (dropSuffix? ['\r'] cs).getD cs := by
  have h : dropSuffix? ['\n'] (cs ++ ['\n']) = some cs := dropSuffix?_eq_some_iff.mpr rfl
  rw [lineContent, h]

theorem lineContent_concat_eq_nil_iff {cs : List Char} :
    lineContent (cs ++ ['\n']) = [] ↔ cs = [] ∨ cs = ['\r'] := by
  rw [lineContent_concat]
  cases h : dropSuffix? ['\r'] cs with
  | none =>
    have hcr : cs ≠ ['\r'] := by
      rintro rfl
      exact absurd h (by decide)
    simp [hcr]
  | some rest =>
    obtain rfl := dropSuffix?_eq_some_iff.mp h
    simp

theorem lineContent_of_not_mem {cs : List Char} (h : '\n' ∉ cs) : lineContent cs = cs := by
  have hdrop : dropSuffix? ['\n'] cs = none := by
    refine Option.eq_none_iff_forall_ne_some.mpr fun rest hrest => h ?_
    rw [dropSuffix?_eq_some_iff.mp hrest]
    simp
  rw [lineContent, hdrop]

theorem lineContent_crlf (cs : List Char) : lineContent (cs ++ ['\r', '\n']) = cs := by
  have h1 : dropSuffix? ['\n'] (cs ++ ['\r', '\n']) = some (cs ++ ['\r']) :=
    dropSuffix?_eq_some_iff.mpr (by simp)
  have h2 : dropSuffix? ['\r'] (cs ++ ['\r']) = some cs := dropSuffix?_eq_some_iff.mpr rfl
  simp [lineContent, h1, h2]

theorem lines_crlf {cs : List Char} (rest : List Char) (h : '\n' ∉ cs) :
    lines (cs ++ '\r' :: '\n' :: rest) = cs :: lines rest := by
  have hr : '\n' ∉ cs ++ ['\r'] := by simp [h]
  have e : cs ++ '\r' :: '\n' :: rest = (cs ++ ['\r']) ++ '\n' :: rest := by simp
  rw [lines, e, piecesAfter_line_append rest hr, List.map_cons, ← lines]
  simpa using lineContent_crlf cs

theorem lines_lf {cs : List Char} (rest : List Char) (h : '\n' ∉ cs) (hr : ¬ ['\r'] <:+ cs) :
    lines (cs ++ '\n' :: rest) = cs :: lines rest := by
  rw [lines, piecesAfter_line_append rest h, List.map_cons, ← lines, lineContent_concat,
    dropSuffix?_eq_none_iff.mpr hr, Option.getD_none]

-- ---------------------------------------------------------------------------
-- Pieces between separators
-- ---------------------------------------------------------------------------

theorem splitAt_append_sep {sep : α} {xs : List α} (ys : List α) (h : sep ∉ xs) :
    splitAt sep (xs ++ sep :: ys) = xs :: splitAt sep ys := by
  induction xs with
  | nil => simp [splitAt]
  | cons x xs ih =>
    simp only [List.mem_cons, not_or] at h
    have hx : (x == sep) = false := by simpa using Ne.symm h.1
    simp [splitAt, hx, ih h.2]

theorem splitAt_of_not_mem {sep : α} {xs : List α} (h : sep ∉ xs) : splitAt sep xs = [xs] := by
  induction xs with
  | nil => rfl
  | cons x xs ih =>
    simp only [List.mem_cons, not_or] at h
    have hx : (x == sep) = false := by simpa using Ne.symm h.1
    simp [splitAt, hx, ih h.2]

theorem splitAt_flatMap {sep : α} {pieces : List (List α)} (ys : List α)
    (h : ∀ piece ∈ pieces, sep ∉ piece) :
    splitAt sep (pieces.flatMap (· ++ [sep]) ++ ys) = pieces ++ splitAt sep ys := by
  induction pieces with
  | nil => rfl
  | cons piece pieces ih =>
    have hrest := ih fun p hp => h p (List.mem_cons_of_mem piece hp)
    rw [List.flatMap_cons, List.append_assoc, List.append_assoc, List.singleton_append,
      splitAt_append_sep _ (h piece List.mem_cons_self), hrest]
    rfl

theorem count_joinWith {x : α} {sep : List α} (hs : x ∉ sep) (pieces : List (List α)) :
    (joinWith sep pieces).count x = pieces.flatten.count x := by
  induction pieces with
  | nil => rfl
  | cons piece pieces ih =>
    cases pieces with
    | nil => simp [joinWith]
    | cons next pieces =>
      rw [joinWith, List.count_append, List.count_append, ih, List.count_eq_zero_of_not_mem hs,
        Nat.add_zero, ← List.count_append, ← List.flatten_cons]
      exact List.cons_ne_nil next pieces

omit [BEq α] [LawfulBEq α] in
theorem joinWith_concat (sep piece : List α) {pieces : List (List α)} (h : pieces ≠ []) :
    joinWith sep (pieces ++ [piece]) = joinWith sep pieces ++ sep ++ piece := by
  induction pieces with
  | nil => exact absurd rfl h
  | cons p pieces ih =>
    cases pieces with
    | nil => rfl
    | cons q pieces =>
      have hrest := ih (List.cons_ne_nil q pieces)
      simp only [List.cons_append, joinWith, List.append_assoc] at hrest ⊢
      rw [hrest]

omit [BEq α] [LawfulBEq α] in
theorem joinWith_ne_nil {sep : List α} {pieces : List (List α)} (h : pieces ≠ [])
    (hfull : ∀ piece ∈ pieces, piece ≠ []) : joinWith sep pieces ≠ [] := by
  match pieces with
  | [] => exact absurd rfl h
  | [piece] => exact hfull piece List.mem_cons_self
  | piece :: q :: rest =>
    intro hjoin
    simp only [joinWith, List.append_eq_nil_iff] at hjoin
    exact hfull piece List.mem_cons_self hjoin.1.1

theorem splitAt_append (sep : α) (xs ys : List α) :
    splitAt sep (xs ++ sep :: ys) = splitAt sep xs ++ splitAt sep ys := by
  induction xs using induction_line sep with
  | last line hline => rw [splitAt_append_sep ys hline, splitAt_of_not_mem hline]; rfl
  | more line rest hline ih =>
    rw [List.append_assoc, List.cons_append, splitAt_append_sep _ hline,
      splitAt_append_sep _ hline, ih, List.cons_append]

theorem length_splitAt (sep : α) (xs : List α) : (splitAt sep xs).length = xs.count sep + 1 := by
  induction xs using induction_line sep with
  | last line hline => simp [splitAt_of_not_mem hline, List.count_eq_zero_of_not_mem hline]
  | more line rest hline ih =>
    simp [splitAt_append_sep _ hline, ih, List.count_eq_zero_of_not_mem hline]

theorem splitAt_joinWith {sep : α} {pieces : List (List α)} (hne : pieces ≠ [])
    (h : ∀ piece ∈ pieces, sep ∉ piece) : splitAt sep (joinWith [sep] pieces) = pieces := by
  induction pieces with
  | nil => exact absurd rfl hne
  | cons piece pieces ih =>
    obtain ⟨hpiece, hrest⟩ := List.forall_mem_cons.mp h
    cases pieces with
    | nil => exact splitAt_of_not_mem hpiece
    | cons next pieces =>
      have hmore := ih (List.cons_ne_nil next pieces) hrest
      rw [joinWith, List.append_assoc, List.singleton_append, splitAt_append_sep _ hpiece, hmore]
      exact List.cons_ne_nil next pieces

structure IsSplit {α : Type} (sep : α) (xs : List α) (pieces : List (List α)) : Prop where
  ne_nil : pieces ≠ []
  joined : joinWith [sep] pieces = xs
  separate : ∀ piece ∈ pieces, sep ∉ piece

theorem isSplit_splitAt (sep : α) (xs : List α) : IsSplit sep xs (splitAt sep xs) := by
  induction xs using induction_line sep with
  | last line hline =>
    rw [splitAt_of_not_mem hline]
    exact ⟨List.cons_ne_nil line [], rfl, List.forall_mem_singleton.mpr hline⟩
  | more line rest hline ih =>
    rw [splitAt_append_sep rest hline]
    obtain ⟨first, pieces, hpieces⟩ := List.exists_cons_of_ne_nil ih.ne_nil
    refine ⟨List.cons_ne_nil line _, ?_, List.forall_mem_cons.mpr ⟨hline, ih.separate⟩⟩
    have hjoined := ih.joined
    rw [hpieces] at hjoined ⊢
    rw [joinWith, hjoined, List.append_assoc, List.singleton_append]
    exact List.cons_ne_nil first pieces

theorem splitAt_eq_iff {sep : α} {xs : List α} {pieces : List (List α)} :
    splitAt sep xs = pieces ↔ IsSplit sep xs pieces := by
  constructor
  · rintro rfl
    exact isSplit_splitAt sep xs
  · rintro ⟨hne, rfl, hseparate⟩
    exact splitAt_joinWith hne hseparate

theorem head?_splitAt_eq_some_iff {sep : α} {xs ys : List α} (hys : sep ∉ ys) :
    (splitAt sep xs).head? = some ys ↔ xs = ys ∨ ys ++ [sep] <+: xs := by
  induction xs using induction_line sep with
  | last line hline =>
    have hnot : ¬ ys ++ [sep] <+: line := fun h =>
      hline (h.subset (List.mem_append_right ys (List.mem_singleton_self sep)))
    rw [splitAt_of_not_mem hline, List.head?_cons, Option.some_inj, or_iff_left hnot]
  | more line rest hline _ =>
    have hne : line ++ sep :: rest ≠ ys := by
      rintro rfl
      exact hys (List.mem_append_right line List.mem_cons_self)
    rw [splitAt_append_sep _ hline, List.head?_cons, Option.some_inj, or_iff_right hne]
    constructor
    · rintro rfl
      exact ⟨rest, List.append_assoc _ _ _⟩
    · rintro ⟨zs, hzs⟩
      rw [List.append_assoc, List.singleton_append] at hzs
      have hpieces := congrArg (splitAt sep) hzs
      rw [splitAt_append_sep _ hys, splitAt_append_sep _ hline] at hpieces
      exact (List.cons.inj hpieces).1.symm

theorem splitAt_flatMap_map {β : Type} [BEq β] [LawfulBEq β] {f : α → List β} {sep : α} {sep' : β}
    (hsep : f sep = [sep']) (hother : ∀ x, sep' ∈ f x → x = sep) (xs : List α) :
    splitAt sep' (xs.flatMap f) = (splitAt sep xs).map (·.flatMap f) := by
  have hfree {line : List α} (hline : sep ∉ line) : sep' ∉ line.flatMap f := by
    intro h
    obtain ⟨x, hx, hmem⟩ := List.mem_flatMap.mp h
    exact hline (hother x hmem ▸ hx)
  induction xs using induction_line sep with
  | last line hline => rw [splitAt_of_not_mem hline, splitAt_of_not_mem (hfree hline)]; rfl
  | more line rest hline ih =>
    rw [List.flatMap_append, List.flatMap_cons, hsep, List.singleton_append,
      splitAt_append_sep _ (hfree hline), splitAt_append_sep _ hline, ih, List.map_cons]

end Mailroom.Text
