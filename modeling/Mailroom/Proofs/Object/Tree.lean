import Mailroom.Object.Folder

/-!
# Files and folders after a write

A write changes what can be read at its own path and nowhere else. Folders never go away, and
only those above the path can be new. Whether a write succeeds is up to its path, the files
above it and the folder that may stand in its place.
-/

namespace Mailroom.Object.Node

theorem child?_setChild (name other : String) (node : Node) (children : List (String × Node)) :
    child? (setChild name node children) other =
      if other = name then some node else child? children other := by
  unfold child?
  induction children with
  | nil => by_cases h : other = name <;> simp [setChild, h, eq_comm]
  | cons c rest ih =>
    unfold setChild
    by_cases hc : c.1 = name
    · by_cases h : other = name
      · simp [hc, h]
      · simp [hc, h, Ne.symm h]
    · by_cases h : c.1 = other
      · have hne : ¬ other = name := fun he => hc (h.trans he)
        simp [h, hne]
      · simpa [hc, h] using ih

-- ---------------------------------------------------------------------------
-- Files and folders
-- ---------------------------------------------------------------------------

def file? (node : Node) (path : List String) : Option Bytes :=
  match node.find path with
  | .file bytes => some bytes
  | _ => none

def isFolder : Node → (path : List String) → Bool
  | .file _, _ => false
  | .folder _, [] => true
  | .folder children, name :: rest =>
    match child? children name with
    | none => false
    | some node => node.isFolder rest

variable {children : List (String × Node)} {bytes : Bytes} {name : String} {rest : List String}

@[simp] theorem file?_file_nil : (file bytes).file? [] = some bytes := rfl

@[simp] theorem file?_file_cons : (file bytes).file? (name :: rest) = none := rfl

@[simp] theorem file?_folder_nil : (folder children).file? [] = none := rfl

theorem file?_folder_cons : (folder children).file? (name :: rest) =
    if tooLong name then none else (child? children name).bind (·.file? rest) := by
  simp only [file?, find]
  cases tooLong name with
  | true => rfl
  | false => cases child? children name <;> rfl

theorem isFolder_folder_cons : (folder children).isFolder (name :: rest) =
    ((child? children name).map (·.isFolder rest)).getD false := by
  rw [isFolder]
  cases child? children name <;> rfl

@[simp] theorem isFolder_file (path : List String) : (file bytes).isFolder path = false := by
  cases path <;> rfl

theorem file?_empty (path : List String) : empty.file? path = none := by
  cases path with
  | nil => rfl
  | cons name rest => simp [empty, file?_folder_cons, child?]

theorem isFolder_empty_cons : empty.isFolder (name :: rest) = false := by
  simp [empty, isFolder_folder_cons, child?]

theorem isFolder_of_prefix {node : Node} {above path : List String} (hp : above <+: path)
    (h : node.isFolder path = true) : node.isFolder above = true := by
  induction above generalizing node path with
  | nil =>
    cases node with
    | file => simp at h
    | folder => rfl
  | cons name above ih =>
    obtain ⟨rest, rfl, hrest⟩ := List.cons_prefix_iff.mp hp
    cases node with
    | file => simp at h
    | folder children =>
      rw [isFolder_folder_cons] at h ⊢
      cases hc : child? children name with
      | none => simp [hc] at h
      | some node => simpa [hc] using ih hrest (by simpa [hc] using h)

theorem isFolder_of_file? {node : Node} {above path : List String} (hp : above <+: path)
    (hne : above ≠ path) (h : node.file? path = some bytes) : node.isFolder above = true := by
  induction above generalizing node path with
  | nil =>
    cases node with
    | folder => rfl
    | file =>
      cases path with
      | nil => exact absurd rfl hne
      | cons => simp at h
  | cons name above ih =>
    obtain ⟨rest, rfl, hrest⟩ := List.cons_prefix_iff.mp hp
    cases node with
    | file => simp at h
    | folder children =>
      rw [file?_folder_cons] at h
      rw [isFolder_folder_cons]
      cases hc : child? children name with
      | none => simp [hc] at h
      | some node =>
        have hfile : node.file? rest = some bytes := by simp_all
        simpa [hc] using ih hrest (fun he => hne (he ▸ rfl)) hfile

-- ---------------------------------------------------------------------------
-- Making folders
-- ---------------------------------------------------------------------------

theorem file?_makeFolders (node : Node) (path other : List String) :
    (node.makeFolders path).2.file? other = node.file? other := by
  induction path generalizing node other with
  | nil => cases node <;> rfl
  | cons name rest ih =>
    cases node with
    | file => rfl
    | folder children =>
      rw [makeFolders]
      split
      · rfl
      · cases other with
        | nil => rfl
        | cons first others =>
          simp only [file?_folder_cons, child?_setChild]
          by_cases h : first = name
          · subst h
            simp only [if_true, Option.bind_some, ih]
            cases child? children first <;> simp [file?_empty]
          · simp only [if_neg h]

theorem isFolder_makeFolders {node : Node} {path other : List String}
    (h : node.isFolder other = true) : (node.makeFolders path).2.isFolder other = true := by
  induction path generalizing node other with
  | nil => cases node <;> exact h
  | cons name rest ih =>
    cases node with
    | file => exact h
    | folder children =>
      rw [makeFolders]
      split
      · exact h
      · cases other with
        | nil => rfl
        | cons first others =>
          rw [isFolder_folder_cons] at h
          simp only [isFolder_folder_cons, child?_setChild]
          by_cases hf : first = name
          · subst hf
            cases hc : child? children first with
            | none => simp [hc] at h
            | some node => simpa using ih (by simpa [hc] using h)
          · simpa only [if_neg hf] using h

theorem isFolder_of_makeFolders {node : Node} {path other : List String}
    (h : (node.makeFolders path).2.isFolder other = true) :
    node.isFolder other = true ∨ other <+: path := by
  induction path generalizing node other with
  | nil => cases node <;> exact .inl h
  | cons name rest ih =>
    cases node with
    | file => exact .inl h
    | folder children =>
      rw [makeFolders] at h
      split at h
      · exact .inl h
      · cases other with
        | nil => exact .inl rfl
        | cons first others =>
          simp only [isFolder_folder_cons, child?_setChild] at h ⊢
          by_cases hf : first = name
          · subst hf
            have hrest : ((child? children first).getD empty).isFolder others = true ∨
                others <+: rest := ih (by simpa using h)
            refine hrest.elim (fun hold => ?_) fun hp => .inr (List.cons_prefix_cons.mpr ⟨rfl, hp⟩)
            cases hc : child? children first with
            | some node => exact .inl (by simpa [hc] using hold)
            | none =>
              rw [hc] at hold
              cases others with
              | nil => exact .inr (List.cons_prefix_cons.mpr ⟨rfl, List.nil_prefix⟩)
              | cons => simp [isFolder_empty_cons] at hold
          · exact .inl (by simpa only [if_neg hf] using h)

theorem makeFolders_made {node : Node} {path : List String}
    (hnames : ∀ name ∈ path, tooLong name = false)
    (hfiles : ∀ above, above <+: path → node.file? above = none) :
    (node.makeFolders path).1 = true := by
  induction path generalizing node with
  | nil =>
    cases node with
    | file => simpa using hfiles [] List.nil_prefix
    | folder => rfl
  | cons name rest ih =>
    cases node with
    | file => simpa using hfiles [] List.nil_prefix
    | folder children =>
      have hname := hnames name List.mem_cons_self
      rw [makeFolders, if_neg (by simp [hname])]
      refine ih (fun other h => hnames other (List.mem_cons_of_mem _ h)) fun above hp => ?_
      have habove := hfiles (name :: above) (List.cons_prefix_cons.mpr ⟨rfl, hp⟩)
      rw [file?_folder_cons, hname] at habove
      cases hc : child? children name with
      | none => exact file?_empty above
      | some node => simpa [hc] using habove

-- ---------------------------------------------------------------------------
-- Writing a file
-- ---------------------------------------------------------------------------

def fresh (path : List String) : Node := if path.isEmpty then .file [] else empty

theorem file?_fresh {path other : List String} (h : other ≠ path) :
    (fresh path).file? other = none := by
  cases path with
  | cons => exact file?_empty other
  | nil =>
    cases other with
    | nil => exact absurd rfl h
    | cons => rfl

theorem isFolder_of_fresh {path other : List String} (h : (fresh path).isFolder other = true) :
    other <+: path ∧ other ≠ path := by
  cases path with
  | nil => simp [fresh] at h
  | cons name rest =>
    cases other with
    | nil => simp
    | cons => simp [fresh, isFolder_empty_cons] at h

/-- Whether a file can be written: no name is too long, no file stands above it and no folder
in its place. -/
def accepts : Node → (path : List String) → Bool
  | .file _, [] => true
  | .folder _, [] => false
  | .file _, _ :: _ => false
  | .folder children, name :: rest =>
    !tooLong name && match child? children name with
      | none => rest.all fun name => !tooLong name
      | some node => node.accepts rest

theorem accepts_fresh (path : List String) :
    (fresh path).accepts path = path.all fun name => !tooLong name := by
  cases path <;> rfl

theorem writeFile_isSome (node : Node) (bytes : Bytes) (path : List String) :
    (node.writeFile bytes path).isSome = node.accepts path := by
  induction path generalizing node with
  | nil => cases node <;> rfl
  | cons name rest ih =>
    cases node with
    | file => rfl
    | folder children =>
      rw [writeFile, accepts]
      split
      · next h => simp [h]
      · next h =>
        simp only [Option.isSome_map, ih, h, Bool.not_false, Bool.true_and]
        cases child? children name with
        | some node => rfl
        | none => exact accepts_fresh rest

theorem accepts_iff {node : Node} {path : List String} : node.accepts path = true ↔
    (∀ name ∈ path, tooLong name = false) ∧
      (∀ above, above <+: path → above ≠ path → node.file? above = none) ∧
      node.isFolder path = false := by
  induction path generalizing node with
  | nil => cases node <;> simp [accepts, isFolder]
  | cons name rest ih =>
    cases node with
    | file bytes =>
      refine iff_of_false (by simp [accepts]) fun h => ?_
      simpa using h.2.1 [] List.nil_prefix (by simp)
    | folder children =>
      have hprefix : (∀ above, above <+: name :: rest → above ≠ name :: rest →
            (folder children).file? above = none) ↔
          ∀ above, above <+: rest → above ≠ rest →
            (folder children).file? (name :: above) = none := by
        constructor
        · intro h above hp hne
          exact h _ (List.cons_prefix_cons.mpr ⟨rfl, hp⟩) fun he => hne (List.cons.inj he).2
        · intro h above hp hne
          cases above with
          | nil => rfl
          | cons first above =>
            obtain ⟨rfl, hbelow⟩ := List.cons_prefix_cons.mp hp
            exact h above hbelow fun he => hne (he ▸ rfl)
      rw [accepts, hprefix, isFolder_folder_cons]
      simp only [file?_folder_cons, List.forall_mem_cons, Bool.and_eq_true, Bool.not_eq_true']
      cases htl : tooLong name with
      | true => simp
      | false =>
        cases hc : child? children name with
        | none => simp
        | some node => simp [ih]

theorem file?_writeFile {node after : Node} {path : List String}
    (h : node.writeFile bytes path = some after) (other : List String) :
    after.file? other = if other = path then some bytes else node.file? other := by
  induction path generalizing node after other with
  | nil =>
    cases node with
    | folder => simp [writeFile] at h
    | file =>
      cases h
      cases other <;> simp
  | cons name rest ih =>
    cases node with
    | file => simp [writeFile] at h
    | folder children =>
      rw [writeFile] at h
      split at h
      · cases h
      · next hname =>
        obtain ⟨child, hchild, rfl⟩ := Option.map_eq_some_iff.mp h
        cases other with
        | nil => simp
        | cons first others =>
          simp only [file?_folder_cons, child?_setChild, List.cons.injEq]
          by_cases hf : first = name
          · subst hf
            simp only [hname, if_true, true_and, Option.bind_some, ih hchild]
            by_cases ho : others = rest
            · simp [ho]
            · simp only [if_neg ho]
              cases child? children first with
              | none => exact file?_fresh ho
              | some node => rfl
          · simp only [hf, if_false, false_and]

theorem isFolder_writeFile {node after : Node} {path other : List String}
    (h : node.writeFile bytes path = some after) (ho : node.isFolder other = true) :
    after.isFolder other = true := by
  induction path generalizing node after other with
  | nil =>
    cases node with
    | folder => simp [writeFile] at h
    | file => simp at ho
  | cons name rest ih =>
    cases node with
    | file => simp at ho
    | folder children =>
      rw [writeFile] at h
      split at h
      · cases h
      · obtain ⟨child, hchild, rfl⟩ := Option.map_eq_some_iff.mp h
        cases other with
        | nil => rfl
        | cons first others =>
          rw [isFolder_folder_cons] at ho
          simp only [isFolder_folder_cons, child?_setChild]
          by_cases hf : first = name
          · subst hf
            cases hc : child? children first with
            | none => simp [hc] at ho
            | some node =>
              rw [hc] at hchild ho
              simpa using ih hchild (by simpa using ho)
          · simpa only [if_neg hf] using ho

theorem isFolder_of_writeFile {node after : Node} {path other : List String}
    (h : node.writeFile bytes path = some after) (ho : after.isFolder other = true) :
    node.isFolder other = true ∨ other <+: path ∧ other ≠ path := by
  induction path generalizing node after other with
  | nil =>
    cases node with
    | folder => simp [writeFile] at h
    | file =>
      cases h
      simp at ho
  | cons name rest ih =>
    cases node with
    | file => simp [writeFile] at h
    | folder children =>
      rw [writeFile] at h
      split at h
      · cases h
      · obtain ⟨child, hchild, rfl⟩ := Option.map_eq_some_iff.mp h
        cases other with
        | nil => exact .inl rfl
        | cons first others =>
          simp only [isFolder_folder_cons, child?_setChild] at ho ⊢
          by_cases hf : first = name
          · subst hf
            have below {others : List String} (h : others <+: rest ∧ others ≠ rest) :
                first :: others <+: first :: rest ∧ first :: others ≠ first :: rest :=
              ⟨List.cons_prefix_cons.mpr ⟨rfl, h.1⟩, fun he => h.2 (List.cons.inj he).2⟩
            have hothers : child.isFolder others = true := by simpa using ho
            refine (ih hchild hothers).elim (fun hold => ?_) fun h => .inr (below h)
            cases hc : child? children first with
            | some node => exact .inl (by simpa [hc] using hold)
            | none =>
              rw [hc] at hold
              exact .inr (below (isFolder_of_fresh hold))
          · exact .inl (by simpa only [if_neg hf] using ho)

-- ---------------------------------------------------------------------------
-- Objects
-- ---------------------------------------------------------------------------

theorem fetch_toOption (root : Node) (l : Mail.Location) : (root.fetch l).toOption =
    match pathOf l with
    | .error _ => none
    | .ok path => if hasNull path || demandsFolder l.key then none else root.file? path := by
  unfold fetch
  cases pathOf l with
  | error => rfl
  | ok path =>
    simp only [bind, Except.bind, file?]
    cases hasNull path with
    | true => rfl
    | false => cases root.find path <;> cases demandsFolder l.key <;> rfl

variable {l : Mail.Location} {path : List String}

theorem prefix_of_dropLast {above : List String} (hne : path ≠ []) (h : above <+: path.dropLast) :
    above <+: path ∧ above ≠ path := by
  refine ⟨h.trans (List.dropLast_prefix path), ?_⟩
  rintro rfl
  have hlength := h.length_le
  have hpos := List.length_pos_iff.mpr hne
  rw [List.length_dropLast] at hlength
  omega

theorem accepts_makeFolders (node : Node) (hne : path ≠ []) :
    (node.makeFolders path.dropLast).2.accepts path = node.accepts path := by
  rw [Bool.eq_iff_iff, accepts_iff, accepts_iff]
  simp only [file?_makeFolders]
  refine and_congr_right fun _ => and_congr_right fun _ => ?_
  rw [Bool.eq_false_iff, Bool.eq_false_iff]
  refine not_congr ⟨fun h => ?_, isFolder_makeFolders⟩
  exact (isFolder_of_makeFolders h).resolve_right fun hp => (prefix_of_dropLast hne hp).2 rfl

theorem made_of_accepts {node : Node} (hne : path ≠ []) (h : node.accepts path = true) :
    (node.makeFolders path.dropLast).1 = true := by
  obtain ⟨hnames, hfiles, -⟩ := accepts_iff.mp h
  have hsubset : path.dropLast ⊆ path := (List.dropLast_prefix path).subset
  refine makeFolders_made (fun name hn => hnames name (hsubset hn)) fun above hp => ?_
  exact hfiles above (prefix_of_dropLast hne hp).1 (prefix_of_dropLast hne hp).2

def Takes (root : Node) (l : Mail.Location) (path : List String) : Prop :=
  hasNull path = false ∧ demandsFolder l.key = false ∧ root.accepts path = true

theorem put_cases (root : Node) (bytes : Bytes) (hpath : pathOf l = .ok path) (hne : path ≠ []) :
    (root.Takes l path ∧ ∃ after,
        (root.makeFolders path.dropLast).2.writeFile bytes path = some after ∧
        root.put l bytes = (.ok (), after)) ∨
      ¬ root.Takes l path ∧ ∃ after, (after = root ∨ after = (root.makeFolders path.dropLast).2) ∧
        root.put l bytes = (.error .io, after) := by
  have hwrite := writeFile_isSome (root.makeFolders path.dropLast).2 bytes path
  rw [accepts_makeFolders root hne] at hwrite
  unfold put
  simp only [hpath]
  cases hnull : hasNull path.dropLast with
  | true =>
    refine .inr ⟨fun h => ?_, root, .inl rfl, rfl⟩
    have hall := h.1
    simp only [hasNull, List.any_eq_false, List.any_eq_true] at hall hnull
    obtain ⟨name, hname, hzero⟩ := hnull
    exact hall name (List.dropLast_subset _ hname) hzero
  | false =>
    cases hfits : hasNull path || demandsFolder l.key with
    | true =>
      refine .inr ⟨fun h => by simp [h.1, h.2.1] at hfits, _, .inr rfl, ?_⟩
      simp only [Bool.or_assoc, hfits, Bool.or_true, if_true, Bool.false_eq_true, if_false]
    | false =>
      rw [Bool.or_eq_false_iff] at hfits
      cases haccepts : root.accepts path with
      | true =>
        rw [haccepts] at hwrite
        obtain ⟨after, hafter⟩ := Option.isSome_iff_exists.mp hwrite
        refine .inl ⟨⟨hfits.1, hfits.2, haccepts⟩, after, hafter, ?_⟩
        simp only [made_of_accepts hne haccepts, hfits, hafter, Bool.not_true, Bool.or_false,
          Bool.false_eq_true, if_false]
      | false =>
        rw [haccepts, Option.isSome_eq_false_iff, Option.isNone_iff_eq_none] at hwrite
        refine .inr ⟨fun h => Bool.false_ne_true (haccepts.symm.trans h.2.2), _, .inr rfl, ?_⟩
        simp only [hfits, hwrite, Bool.or_false, Bool.false_eq_true, if_false, ite_self]

theorem put_isOk_iff (root : Node) (bytes : Bytes) (hpath : pathOf l = .ok path)
    (hne : path ≠ []) : (root.put l bytes).1.isOk = true ↔ root.Takes l path := by
  rcases put_cases root bytes hpath hne with ⟨h, after, -, hput⟩ | ⟨h, after, -, hput⟩
  · exact iff_of_true (by rw [hput]; rfl) h
  · exact iff_of_false (by rw [hput]; exact Bool.false_ne_true) h

theorem put_of_takes {root : Node} (bytes : Bytes) (hpath : pathOf l = .ok path)
    (hne : path ≠ []) (h : root.Takes l path) : (root.put l bytes).1 = .ok () ∧
      ∀ other, (root.put l bytes).2.file? other =
        if other = path then some bytes else root.file? other := by
  rcases put_cases root bytes hpath hne with ⟨-, after, hwrite, hput⟩ | ⟨hnot, -⟩
  · rw [hput]
    refine ⟨rfl, fun other => ?_⟩
    rw [file?_writeFile hwrite, file?_makeFolders]
  · exact absurd h hnot

theorem file?_put_of_ne (root : Node) (bytes : Bytes) (hpath : pathOf l = .ok path)
    (hpne : path ≠ []) {other : List String} (h : other ≠ path) :
    (root.put l bytes).2.file? other = root.file? other := by
  rcases put_cases root bytes hpath hpne with ⟨-, after, hwrite, hput⟩ | ⟨-, after, hafter, hput⟩
  · rw [hput, file?_writeFile hwrite, if_neg h, file?_makeFolders]
  · rw [hput]
    rcases hafter with rfl | rfl
    · rfl
    · exact file?_makeFolders root _ other

theorem file?_put_of_not_takes (root : Node) (bytes : Bytes) (hpath : pathOf l = .ok path)
    (hne : path ≠ []) (h : ¬ root.Takes l path) (other : List String) :
    (root.put l bytes).2.file? other = root.file? other := by
  rcases put_cases root bytes hpath hne with ⟨htakes, -⟩ | ⟨-, after, hafter, hput⟩
  · exact absurd htakes h
  · rw [hput]
    rcases hafter with rfl | rfl
    · rfl
    · exact file?_makeFolders root _ other

theorem isFolder_put (root : Node) (bytes : Bytes) (hpath : pathOf l = .ok path)
    (hne : path ≠ []) {other : List String} (h : root.isFolder other = true) :
    (root.put l bytes).2.isFolder other = true := by
  rcases put_cases root bytes hpath hne with ⟨-, after, hwrite, hput⟩ | ⟨-, after, hafter, hput⟩
  · rw [hput]
    exact isFolder_writeFile hwrite (isFolder_makeFolders h)
  · rw [hput]
    rcases hafter with rfl | rfl
    · exact h
    · exact isFolder_makeFolders h

theorem isFolder_of_put {root : Node} {bytes : Bytes} (hpath : pathOf l = .ok path)
    (hne : path ≠ []) {other : List String} (h : (root.put l bytes).2.isFolder other = true) :
    root.isFolder other = true ∨ other <+: path ∧ other ≠ path := by
  rcases put_cases root bytes hpath hne with ⟨-, after, hwrite, hput⟩ | ⟨-, after, hafter, hput⟩
  · rw [hput] at h
    exact (isFolder_of_writeFile hwrite h).elim
      (fun hmade => (isFolder_of_makeFolders hmade).imp_right (prefix_of_dropLast hne)) .inr
  · rw [hput] at h
    rcases hafter with rfl | rfl
    · exact .inl h
    · exact (isFolder_of_makeFolders h).imp_right (prefix_of_dropLast hne)

/-- A write changes whether another file can be written only if one of them is to stand above the
other, where there is no folder yet. -/
theorem accepts_put (root : Node) (bytes : Bytes) (hpath : pathOf l = .ok path) (hne : path ≠ [])
    {other : List String} (habove : path <+: other → path ≠ other → root.isFolder path = true)
    (hbelow : other <+: path → other ≠ path → root.isFolder other = true) :
    (root.put l bytes).2.accepts other = root.accepts other := by
  have hfile (above) (hp : above <+: other) (ha : above ≠ other) :
      (root.put l bytes).2.file? above = root.file? above := by
    by_cases hself : above = path
    · subst hself
      refine file?_put_of_not_takes root bytes hpath hne (fun h => ?_) above
      have hfree := (accepts_iff.mp h.2.2).2.2
      exact Bool.false_ne_true (hfree.symm.trans (habove hp ha))
    · exact file?_put_of_ne root bytes hpath hne hself
  have hfolder : (root.put l bytes).2.isFolder other = root.isFolder other := by
    rw [Bool.eq_iff_iff]
    exact ⟨fun h => (isFolder_of_put hpath hne h).elim id fun hp => hbelow hp.1 hp.2,
      isFolder_put root bytes hpath hne⟩
  rw [Bool.eq_iff_iff, accepts_iff, accepts_iff, hfolder]
  refine and_congr_right fun _ => and_congr_left fun _ => ?_
  exact forall_congr' fun above => forall_congr' fun hp => forall_congr' fun ha => by
    rw [hfile above hp ha]

end Mailroom.Object.Node
