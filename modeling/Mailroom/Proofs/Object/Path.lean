import Mathlib.Data.List.Basic
import Mailroom.Object.Path
import Mailroom.Proofs.Object.Filing
import Mailroom.Proofs.Text.Cut
import Mailroom.Proofs.Text.Utf8

/-!
# Files stay below the root

A container or a key is refused exactly if it has a step that does not lead into something. The
path of a file says to follow the root, and then to go into at least two folders and files with
ordinary names, so that it leads below the place of the root from any folder (`filePath_below`).
The components that objects are found by in a tree of folders are the names of these steps.
-/

namespace Mailroom.Object

open Mailroom.Mail (Location)

-- ---------------------------------------------------------------------------
-- Pieces of a container or a key
-- ---------------------------------------------------------------------------

/-- A container or a key that does not only lead into something. -/
def Leaves (part : String) : Prop :=
  part = "" ∨ "/".toList <+: part.toList ∨ part = "." ∨ "./".toList <+: part.toList ∨
    ".." ∈ pieces part

def Ordinary (name : String) : Prop := name ≠ "" ∧ name ≠ "." ∧ name ≠ ".." ∧ '/' ∉ name.toList

theorem pieces_ne_nil (part : String) : pieces part ≠ [] :=
  fun h => (Text.isSplit_splitAt '/' part.toList).ne_nil (List.map_eq_nil_iff.mp h)

theorem slash_not_mem_of_mem_pieces {part name : String} (h : name ∈ pieces part) :
    '/' ∉ name.toList := by
  obtain ⟨piece, hpiece, rfl⟩ := List.mem_map.mp h
  rw [String.toList_ofList]
  exact (Text.isSplit_splitAt '/' part.toList).separate piece hpiece

theorem head?_pieces_eq_some_iff {part name : String} (h : '/' ∉ name.toList) :
    (pieces part).head? = some name ↔ part = name ∨ name.toList ++ ['/'] <+: part.toList := by
  have hofList (piece : List Char) : String.ofList piece = name ↔ piece = name.toList := by
    rw [← String.toList_inj, String.toList_ofList]
  rw [pieces, List.head?_map, Option.map_eq_some_iff]
  simp only [hofList, exists_eq_right, Text.head?_splitAt_eq_some_iff h, String.toList_inj]

theorem leaves_iff {part : String} :
    Leaves part ↔ (pieces part).head? = some "" ∨ (pieces part).head? = some "." ∨
      ".." ∈ pieces part := by
  have hempty : '/' ∉ "".toList := by decide
  have hdot : '/' ∉ ".".toList := by decide
  rw [head?_pieces_eq_some_iff hempty, head?_pieces_eq_some_iff hdot, or_assoc, or_assoc]
  exact Iff.rfl

theorem staysBelow_iff {part : String} : staysBelow part = true ↔ ¬ Leaves part := by
  obtain ⟨first, rest, hpieces⟩ := List.exists_cons_of_ne_nil (pieces_ne_nil part)
  simp [leaves_iff, staysBelow, hpieces, and_assoc]

theorem ordinary_of_mem_components {part name : String} (h : ¬ Leaves part)
    (hname : name ∈ components part) : Ordinary name := by
  obtain ⟨hmem, hcounts⟩ := List.mem_filter.mp hname
  simp only [Bool.and_eq_true, bne_iff_ne] at hcounts
  refine ⟨hcounts.1, hcounts.2, ?_, slash_not_mem_of_mem_pieces hmem⟩
  rintro rfl
  exact h (leaves_iff.mpr (.inr (.inr hmem)))

-- ---------------------------------------------------------------------------
-- Steps of a container or a key
-- ---------------------------------------------------------------------------

theorem bytes_inj {a b : String} : Text.bytes a = Text.bytes b ↔ a = b :=
  ⟨fun h => String.toList_inj.mp (Text.Utf8.encode_injective h), congrArg Text.bytes⟩

theorem splitAt_bytes (part : String) :
    Text.splitAt slash (Text.bytes part) = (pieces part).map Text.bytes := by
  have hslash : Text.Utf8.encodeChar '/' = [slash] := by decide
  have hother (c : Char) (h : slash ∈ Text.Utf8.encodeChar c) : c = '/' :=
    Char.toNat_inj.mp (Text.Utf8.toNat_eq_of_mem_encodeChar h (by decide))
  rw [Text.bytes, Text.Utf8.encode, Text.splitAt_flatMap_map hslash hother, pieces, List.map_map]
  refine List.map_congr_left fun piece _ => ?_
  rw [Function.comp_apply, Text.bytes, String.toList_ofList, Text.Utf8.encode]

namespace Path

theorem first?_eq_none_iff {path : Bytes} :
    first? path = none ↔ ¬ [slash] <+: path ∧ path ≠ [dot] ∧ ¬ [dot, slash] <+: path := by
  unfold first?
  simp only [List.isPrefixOf_iff_prefix, Bool.or_eq_true, beq_iff_eq, ne_eq, ← not_or]
  split
  · simp [*]
  · split <;> simp [*]

theorem isInto_of_first? {path : Bytes} {s : Step} (h : first? path = some s) :
    s.isInto = false := by
  unfold first? at h
  split at h
  · obtain rfl := Option.some.inj h
    rfl
  · split at h
    · obtain rfl := Option.some.inj h
      rfl
    · cases h

theorem mem_steps_of_first? {path : Bytes} {s : Step} (h : first? path = some s) :
    s ∈ steps path := by
  rw [steps, h]
  exact List.mem_cons_self

theorem first?_bytes_eq_none_iff {part : String} (hne : part ≠ "") :
    first? (Text.bytes part) = none ↔
      (pieces part).head? ≠ some "" ∧ (pieces part).head? ≠ some "." := by
  have hhead (name : String) (h : slash ∉ Text.bytes name) : (pieces part).head? = some name ↔
      part = name ∨ Text.bytes name ++ [slash] <+: Text.bytes part := by
    rw [← bytes_inj (b := name), ← Text.head?_splitAt_eq_some_iff h, splitAt_bytes, List.head?_map]
    simp [Option.map_eq_some_iff, bytes_inj]
  have hempty : (pieces part).head? = some "" ↔ [slash] <+: Text.bytes part :=
    (hhead "" (by decide)).trans (or_iff_right hne)
  have hdot : (pieces part).head? = some "." ↔
      Text.bytes part = [dot] ∨ [dot, slash] <+: Text.bytes part :=
    (hhead "." (by decide)).trans (or_congr_left bytes_inj.symm)
  rw [first?_eq_none_iff, ← hempty, ← not_or, ← hdot]

theorem ofPiece?_bytes (piece : String) :
    Step.ofPiece? (Text.bytes piece) = if piece = "" ∨ piece = "." then none
      else if piece = ".." then some .parent else some (.into (Text.bytes piece)) := by
  have hempty : Text.bytes piece = [] ↔ piece = "" := bytes_inj (b := "")
  have hdot : Text.bytes piece = [dot] ↔ piece = "." := bytes_inj (b := ".")
  have hdots : Text.bytes piece = [dot, dot] ↔ piece = ".." := bytes_inj (b := "..")
  simp only [Step.ofPiece?, hempty, hdot, hdots]

theorem filterMap_ofPiece? {names : List String} (h : ".." ∉ names) :
    (names.map Text.bytes).filterMap Step.ofPiece? =
      (names.filter fun p => p != "" && p != ".").map fun name => .into (Text.bytes name) := by
  induction names with
  | nil => rfl
  | cons name names ih =>
    simp only [List.mem_cons, not_or] at h
    rw [List.map_cons, List.filterMap_cons, ofPiece?_bytes, ih h.2, List.filter_cons]
    by_cases hcounts : name = "" ∨ name = "."
    · have hnot : (name != "" && name != ".") = false := by
        rcases hcounts with rfl | rfl <;> rfl
      simp only [hcounts, hnot, if_true, Bool.false_eq_true, if_false]
    · have hinto : (name != "" && name != ".") = true := by
        simpa [not_or] using hcounts
      simp only [hcounts, Ne.symm h.1, hinto, if_true, if_false, List.map_cons]

theorem steps_bytes {part : String} (h : ¬ Leaves part) :
    steps (Text.bytes part) = (components part).map fun name => .into (Text.bytes name) := by
  rw [leaves_iff, not_or, not_or] at h
  obtain ⟨hroot, hhere, hparent⟩ := h
  have hne : part ≠ "" := by
    rintro rfl
    exact hroot rfl
  rw [steps, (first?_bytes_eq_none_iff hne).mpr ⟨hroot, hhere⟩, splitAt_bytes,
    filterMap_ofPiece? hparent]
  rfl

theorem refused_iff {part : String} :
    (part.isEmpty || (steps (Text.bytes part)).any (!·.isInto)) = true ↔ Leaves part := by
  rw [Bool.or_eq_true, String.isEmpty_iff, List.any_eq_true]
  constructor
  · intro h
    by_contra hstays
    rcases h with rfl | ⟨s, hs, hinto⟩
    · exact hstays (.inl rfl)
    · rw [steps_bytes hstays] at hs
      obtain ⟨name, -, rfl⟩ := List.mem_map.mp hs
      cases hinto
  · intro h
    by_cases hne : part = ""
    · exact .inl hne
    · refine .inr ?_
      cases hfirst : first? (Text.bytes part) with
      | some s =>
        exact ⟨s, mem_steps_of_first? hfirst, by rw [isInto_of_first? hfirst]; rfl⟩
      | none =>
        -- The beginning is in order, so that some piece goes to the folder above.
        obtain ⟨hroot, hhere⟩ := (first?_bytes_eq_none_iff hne).mp hfirst
        have hparent : ".." ∈ pieces part :=
          ((leaves_iff.mp h).resolve_left hroot).resolve_left hhere
        refine ⟨.parent, List.mem_append_right _ ?_, rfl⟩
        rw [splitAt_bytes]
        exact List.mem_filterMap.mpr ⟨_, List.mem_map_of_mem hparent, ofPiece?_bytes ".."⟩

-- ---------------------------------------------------------------------------
-- Steps of a path with a part behind it
-- ---------------------------------------------------------------------------

theorem first?_append_slash {path : Bytes} (h : path ≠ []) (rest : Bytes) :
    first? (path ++ slash :: rest) = first? path := by
  match path with
  | [b] => simp [first?, List.isPrefixOf, eq_comm (a := dot)]
  | b :: c :: path => simp [first?, List.isPrefixOf]

theorem first?_slash (rest : Bytes) : first? (slash :: rest) = some .root := rfl

theorem steps_append_slash {part : Bytes} (h : first? part = none) (path : Bytes) :
    steps (path ++ slash :: part) = steps (path ++ [slash]) ++ steps part := by
  have hfirst : first? (path ++ slash :: part) = first? (path ++ [slash]) := by
    by_cases hpath : path = []
    · rw [hpath, List.nil_append, List.nil_append, first?_slash, first?_slash]
    · rw [first?_append_slash hpath, first?_append_slash hpath]
  have hempty : (Text.splitAt slash []).filterMap Step.ofPiece? = [] := rfl
  simp only [steps, hfirst, h, Text.splitAt_append, List.filterMap_append, hempty,
    List.append_nil, List.append_assoc, Option.toList_none, List.nil_append]

theorem steps_concat_slash {path : Bytes} (h : path ≠ []) : steps (path ++ [slash]) = steps path := by
  have hempty : (Text.splitAt slash []).filterMap Step.ofPiece? = [] := rfl
  rw [steps, first?_append_slash h, Text.splitAt_append, List.filterMap_append, hempty,
    List.append_nil, ← steps]

theorem steps_push {part : Bytes} (h : first? part = none) (path : Bytes) :
    steps (push path part) = steps path ++ steps part := by
  have hpart : [slash].isPrefixOf part = false := by
    rw [← Bool.not_eq_true, List.isPrefixOf_iff_prefix]
    exact (first?_eq_none_iff.mp h).1
  rw [push, hpart, if_neg Bool.false_ne_true]
  by_cases hpath : path = []
  · subst hpath
    rfl
  · by_cases hlast : path.getLast? = some slash
    · obtain ⟨front, rfl⟩ := List.getLast?_eq_some_iff.mp hlast
      simp only [hlast, beq_self_eq_true, Bool.or_true, if_true]
      rw [List.append_assoc, List.singleton_append, steps_append_slash h]
    · have hneither : (path == [] || path.getLast? == some slash) = false := by simp [hpath, hlast]
      rw [hneither, if_neg Bool.false_ne_true, steps_append_slash h, steps_concat_slash hpath]

theorem walk_append (folder : List Bytes) (xs ys : List Step) :
    walk folder (xs ++ ys) = walk (walk folder xs) ys := List.foldl_append

theorem walk_into (folder names : List Bytes) :
    walk folder (names.map Step.into) = folder ++ names := by
  induction names generalizing folder with
  | nil => exact (List.append_nil folder).symm
  | cons name names ih =>
    rw [List.map_cons, walk, List.foldl_cons, ← walk, ih]
    exact List.append_assoc folder [name] names

end Path

-- ---------------------------------------------------------------------------
-- Files
-- ---------------------------------------------------------------------------

/-- A container or a key that leads into something with an ordinary name, and further from there. -/
structure LeadsInto (part : String) : Prop where
  steps : Path.steps (Text.bytes part) =
    (components part).map fun name => .into (Text.bytes name)
  some : components part ≠ []
  ordinary : ∀ name ∈ components part, Ordinary name

theorem LeadsInto.first?_eq_none {part : String} (h : LeadsInto part) :
    Path.first? (Text.bytes part) = none := by
  cases hfirst : Path.first? (Text.bytes part) with
  | none => rfl
  | some s =>
    have hmem := Path.mem_steps_of_first? hfirst
    rw [h.steps] at hmem
    obtain ⟨name, -, rfl⟩ := List.mem_map.mp hmem
    cases Path.isInto_of_first? hfirst

theorem leadsInto_of_not_leaves {part : String} (h : ¬ Leaves part) : LeadsInto part :=
  ⟨Path.steps_bytes h, components_ne_nil (staysBelow_iff.mpr h),
    fun _ => ordinary_of_mem_components h⟩

def added (l : Location) : List Bytes :=
  (components l.container ++ components l.key).map Text.bytes

/-- A path to a file below the root: it follows the root, and then the container and the key. From
any folder it leads below the place of the root. -/
structure Below (root : Bytes) (l : Location) (path : Bytes) : Prop where
  container : LeadsInto l.container
  key : LeadsInto l.key
  steps : Path.steps path = Path.steps root ++ (added l).map .into
  place : ∀ folder, Path.walk folder (Path.steps path) =
    Path.walk folder (Path.steps root) ++ added l

theorem addPart_of_leaves {part : String} (h : Leaves part) (l : Location) (path : Bytes) :
    addPart l path part = .error (.invalidObjectPath l) := by
  rw [addPart, if_pos (Path.refused_iff.mpr h)]

theorem addPart_of_not_leaves {part : String} (h : ¬ Leaves part) (l : Location) (path : Bytes) :
    addPart l path part = .ok (Path.push path (Text.bytes part)) := by
  rw [addPart, if_neg (Path.refused_iff.not.mpr h)]

theorem filePath_eq (root : Bytes) (l : Location) :
    filePath root l = addPart l root l.container >>= fun path => addPart l path l.key := by
  simp only [filePath, List.foldlM_cons, List.foldlM_nil, bind_pure]

theorem filePath_of_leaves {l : Location} (h : Leaves l.container ∨ Leaves l.key) (root : Bytes) :
    filePath root l = .error (.invalidObjectPath l) := by
  rw [filePath_eq]
  by_cases hcontainer : Leaves l.container
  · rw [addPart_of_leaves hcontainer]
    rfl
  · rw [addPart_of_not_leaves hcontainer]
    exact addPart_of_leaves (h.resolve_left hcontainer) l _

theorem below_push {l : Location} (hcontainer : LeadsInto l.container) (hkey : LeadsInto l.key)
    (root : Bytes) :
    Below root l (Path.push (Path.push root (Text.bytes l.container)) (Text.bytes l.key)) := by
  have hsteps : Path.steps (Path.push (Path.push root (Text.bytes l.container))
      (Text.bytes l.key)) = Path.steps root ++ (added l).map .into := by
    rw [Path.steps_push hkey.first?_eq_none, Path.steps_push hcontainer.first?_eq_none,
      hcontainer.steps, hkey.steps, added, List.map_map, List.map_append, List.append_assoc]
    rfl
  refine ⟨hcontainer, hkey, hsteps, fun folder => ?_⟩
  rw [hsteps, Path.walk_append, Path.walk_into]

theorem exists_filePath {l : Location} (hcontainer : ¬ Leaves l.container) (hkey : ¬ Leaves l.key)
    (root : Bytes) : ∃ path, filePath root l = .ok path ∧ Below root l path := by
  refine ⟨_, ?_, below_push (leadsInto_of_not_leaves hcontainer) (leadsInto_of_not_leaves hkey) root⟩
  rw [filePath_eq, addPart_of_not_leaves hcontainer]
  exact addPart_of_not_leaves hkey l _

theorem pathOf_of_leaves {l : Location} (h : Leaves l.container ∨ Leaves l.key) :
    pathOf l = .error (.invalidObjectPath l) := by
  have hnot : ¬ (staysBelow l.container && staysBelow l.key) = true := by
    rw [Bool.and_eq_true, staysBelow_iff, staysBelow_iff, ← not_or, not_not]
    exact h
  rw [pathOf, if_neg hnot]

theorem pathOf_of_not_leaves {l : Location} (hcontainer : ¬ Leaves l.container)
    (hkey : ¬ Leaves l.key) : pathOf l = .ok (components l.container ++ components l.key) := by
  rw [pathOf, staysBelow_iff.mpr hcontainer, staysBelow_iff.mpr hkey]
  rfl

/-- A location has a file exactly if neither its container nor its key leaves, and the file is below
the root, at the place that the object has in a tree of folders. -/
theorem filePath_below (root : Bytes) (l : Location) :
    (filePath root l = .error (.invalidObjectPath l) ↔ Leaves l.container ∨ Leaves l.key) ∧
      (filePath root l = .error (.invalidObjectPath l) ∨
        ∃ path, filePath root l = .ok path ∧ Below root l path) ∧
      pathOf l = (filePath root l).map fun _ => components l.container ++ components l.key := by
  by_cases h : Leaves l.container ∨ Leaves l.key
  · rw [filePath_of_leaves h, pathOf_of_leaves h]
    exact ⟨iff_of_true rfl h, .inl rfl, rfl⟩
  · obtain ⟨hcontainer, hkey⟩ := not_or.mp h
    obtain ⟨path, hpath, hbelow⟩ := exists_filePath hcontainer hkey root
    rw [hpath, pathOf_of_not_leaves hcontainer hkey]
    exact ⟨iff_of_false (fun e => nomatch e) h, .inr ⟨path, rfl, hbelow⟩, rfl⟩

end Mailroom.Object
