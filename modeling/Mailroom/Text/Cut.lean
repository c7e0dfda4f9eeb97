/-!
# Cutting sequences

Cuts at the first occurrence of a separator, cuts into lines, and the question
whether one sequence occurs in another. All of it is stated for lists, so that it
serves characters and bytes alike.
-/

namespace Mailroom.Text

variable {α : Type}

def cut [BEq α] (sep : List α) : List α → Option (List α × List α)
  | [] => if sep.isEmpty then some ([], []) else none
  | x :: xs =>
    if sep.isPrefixOf (x :: xs) then some ([], (x :: xs).drop sep.length)
    else (cut sep xs).map fun (before, after) => (x :: before, after)

theorem length_le_of_isPrefixOf [BEq α] {sep xs : List α} (h : sep.isPrefixOf xs = true) :
    sep.length ≤ xs.length := by
  induction sep generalizing xs with
  | nil => simp
  | cons a sep ih =>
    cases xs with
    | nil => simp at h
    | cons b xs =>
      simp only [List.isPrefixOf, Bool.and_eq_true] at h
      simpa using ih h.2

theorem length_of_cut [BEq α] {sep xs before after : List α}
    (h : cut sep xs = some (before, after)) :
    before.length + sep.length + after.length = xs.length := by
  fun_induction cut sep xs generalizing before after with
  | case1 hs => simp_all
  | case2 hs => simp at h
  | case3 x xs hp =>
    have := length_le_of_isPrefixOf hp
    simp only [Option.some.injEq, Prod.mk.injEq] at h
    obtain ⟨rfl, rfl⟩ := h
    simp only [List.length_drop, List.length_nil]
    omega
  | case4 x xs hp ih =>
    simp only [Option.map_eq_some_iff, Prod.mk.injEq, Prod.exists] at h
    obtain ⟨b, a, hc, rfl, rfl⟩ := h
    have := ih hc
    simp only [List.length_cons]
    omega

theorem length_lt_of_cut [BEq α] {sep xs before after : List α} (hs : sep ≠ [])
    (h : cut sep xs = some (before, after)) : after.length < xs.length := by
  have h1 := length_of_cut h
  have h2 := List.length_pos_iff.2 hs
  omega

def occurs [BEq α] (part : List α) : List α → Bool
  | [] => part.isEmpty
  | x :: xs => part.isPrefixOf (x :: xs) || occurs part xs

def dropPrefix? [BEq α] (part xs : List α) : Option (List α) :=
  if part.isPrefixOf xs then some (xs.drop part.length) else none

def dropSuffix? [BEq α] (part xs : List α) : Option (List α) :=
  if part.isSuffixOf xs then some (xs.take (xs.length - part.length)) else none

/-- Cuts after every `stop`, which stays at the end of its piece. Only the last piece
can lack it. -/
def piecesAfter [BEq α] (stop : α) : List α → List (List α)
  | [] => []
  | x :: xs =>
    if x == stop then [x] :: piecesAfter stop xs
    else match piecesAfter stop xs with
      | [] => [[x]]
      | piece :: rest => (x :: piece) :: rest

theorem flatten_piecesAfter [BEq α] (stop : α) (xs : List α) :
    (piecesAfter stop xs).flatten = xs := by
  fun_induction piecesAfter stop xs <;> simp_all

/-- A line without its line feed and without one carriage return before that. A
carriage return that ends the whole text belongs to the line. -/
def lineContent (piece : List Char) : List Char :=
  match dropSuffix? ['\n'] piece with
  | none => piece
  | some line => (dropSuffix? ['\r'] line).getD line

def lines (text : List Char) : List (List Char) :=
  (piecesAfter '\n' text).map lineContent

/-- The pieces between separators. There is always at least one. -/
def splitAt [BEq α] (sep : α) : List α → List (List α)
  | [] => [[]]
  | x :: xs =>
    if x == sep then [] :: splitAt sep xs
    else match splitAt sep xs with
      | [] => [[x]]
      | piece :: rest => (x :: piece) :: rest

def joinWith (sep : List α) : List (List α) → List α
  | [] => []
  | [piece] => piece
  | piece :: rest => piece ++ sep ++ joinWith sep rest

end Mailroom.Text
