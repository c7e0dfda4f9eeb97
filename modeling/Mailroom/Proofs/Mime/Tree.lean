import Mailroom.Mime.Message
import Mailroom.Proofs.Mime.ContentType
import Mailroom.Proofs.Mime.Multipart

/-!
# Trees of parts

A message as the tree it was made from: multiparts with at least one child, and leaves with
any fields and any bytes. A rendered tree of which no line is taken for a delimiter line of a
multipart around it reads as its leaves, in document order.
-/

namespace Mailroom.Mime

-- ---------------------------------------------------------------------------
-- The headers of a multipart
-- ---------------------------------------------------------------------------

structure Heading where
  before : List Field
  subtype : String
  boundary : String
  after : List Field
  plain : ∀ f ∈ before ++ after, f.Plain
  typed : ∀ f ∈ before, Text.sameAscii f.name "content-type" = false
  token : Token subtype
  onLine : Multipart.OnLine boundary

namespace Heading

def type (h : Heading) : Field :=
  ⟨"Content-Type", Parameters.write (typeToken "multipart" h.subtype) [("boundary", h.boundary)]⟩

def fields (h : Heading) : List Field := h.before ++ h.type :: h.after

def part (h : Heading) (children : List (List UInt8)) : Part :=
  ⟨⟨h.fields⟩, Multipart.write h.boundary children⟩

theorem multipart_token : Token "multipart" := by decide

theorem boundary_key (h : Heading) :
    ∀ p ∈ [("boundary", h.boundary)], Parameters.Key p.1.toList :=
  List.forall_mem_singleton.mpr (show Parameters.Key "boundary".toList by decide)

theorem type_plain (h : Heading) : h.type.Plain :=
  Field.plain_type (by decide) multipart_token h.token h.boundary_key
    (List.forall_mem_singleton.mpr h.onLine)

theorem fields_plain (h : Heading) : ∀ f ∈ h.fields, f.Plain := by
  intro f hf
  simp only [fields, List.mem_append, List.mem_cons] at hf
  rcases hf with hf | rfl | hf
  · exact h.plain f (List.mem_append_left _ hf)
  · exact h.type_plain
  · exact h.plain f (List.mem_append_right _ hf)

theorem parse_part (h : Heading) (children : List (List UInt8)) :
    Part.parse (h.part children).write = h.part children :=
  Part.parse_write h.fields_plain

theorem getType_part (h : Heading) (children : List (List UInt8)) :
    (h.part children).headers.get? "content-type" = some h.type.value := by
  have hskip : h.before.find? (fun f => Text.sameAscii f.name "content-type") = none := by
    rw [List.find?_eq_none]
    intro f hf
    simp [h.typed f hf]
  have hname : Text.sameAscii h.type.name "content-type" = true := by
    show Text.sameAscii "Content-Type" "content-type" = true
    decide
  simp [Headers.get?, part, fields, List.find?_append, hskip, hname]

theorem parse_type (h : Heading) : ContentType.parse h.type.value =
    .ok ⟨"multipart", Text.lowerAscii h.subtype, ⟨[("boundary", h.boundary)]⟩⟩ := by
  have hlower : Text.lowerAscii "multipart" = "multipart" := by decide
  have hparse := ContentType.parse_write multipart_token h.token h.boundary_key
  rwa [hlower] at hparse

theorem contentType_part (h : Heading) (children : List (List UInt8)) :
    (h.part children).contentType =
      .ok ⟨"multipart", Text.lowerAscii h.subtype, ⟨[("boundary", h.boundary)]⟩⟩ := by
  simp only [Part.contentType, h.getType_part, h.parse_type]

theorem boundary_part (h : Heading) (sub : String) :
    ContentType.boundary? ⟨"multipart", sub, ⟨[("boundary", h.boundary)]⟩⟩ = some h.boundary := by
  have hname : Text.sameAscii "boundary" "boundary" = true := by decide
  simp [ContentType.boundary?, Parameters.get?, hname]

theorem sections_part (h : Heading) {children : List (List UInt8)} (hne : children ≠ [])
    (hcalm : ∀ raw ∈ children, Multipart.Calm h.boundary raw) :
    (h.part children).sections? = some children := by
  have hsplit : Multipart.split (h.part children).body h.boundary = .ok children :=
    Multipart.split_write h.onLine hne hcalm
  simp [Part.sections?, h.contentType_part, Except.toOption, ContentType.isMultipart,
    h.boundary_part, hsplit]

end Heading

-- ---------------------------------------------------------------------------
-- Trees
-- ---------------------------------------------------------------------------

/-- A part that is no multipart, its fields on lines of their own. -/
structure Leaf extends Part where
  plain : ∀ f ∈ headers.fields, f.Plain
  single : toPart.contentType.toOption.any ContentType.isMultipart = false

mutual
inductive Tree
  | leaf (leaf : Leaf)
  | node (heading : Heading) (children : Forest)

inductive Forest
  | last (tree : Tree)
  | cons (tree : Tree) (rest : Forest)
end

mutual
def Tree.render : Tree → List UInt8
  | .leaf leaf => leaf.toPart.write
  | .node heading children => (heading.part children.renders).write

def Forest.renders : Forest → List (List UInt8)
  | .last tree => [tree.render]
  | .cons tree rest => tree.render :: rest.renders
end

mutual
def Tree.leaves : Tree → List Leaf
  | .leaf leaf => [leaf]
  | .node _ children => children.leaves

def Forest.leaves : Forest → List Leaf
  | .last tree => tree.leaves
  | .cons tree rest => tree.leaves ++ rest.leaves
end

mutual
def Tree.levels : Tree → Nat
  | .leaf _ => 0
  | .node _ children => children.levels + 1

def Forest.levels : Forest → Nat
  | .last tree => tree.levels
  | .cons tree rest => max tree.levels rest.levels
end

mutual
/-- No line of a child is a delimiter line of the multipart it is in. -/
def Tree.Calm : Tree → Prop
  | .leaf _ => True
  | .node heading children =>
    (∀ raw ∈ children.renders, Multipart.Calm heading.boundary raw) ∧ children.Calm

def Forest.Calm : Forest → Prop
  | .last tree => tree.Calm
  | .cons tree rest => tree.Calm ∧ rest.Calm
end

theorem Forest.renders_ne_nil (f : Forest) : f.renders ≠ [] := by
  cases f <;> simp [Forest.renders]

theorem Leaf.sections_none (leaf : Leaf) : leaf.toPart.sections? = none := by
  have hsingle := leaf.single
  unfold Part.sections?
  cases h : leaf.toPart.contentType with
  | error => rfl
  | ok type =>
    simp only [h, Except.toOption, Option.any_some] at hsingle
    simp [Except.toOption, hsingle]

theorem Message.leaves_of_sections_none {p : Part} (h : p.sections? = none) (n : Nat) :
    Message.leaves n p = [p] := by
  cases n with
  | zero => rfl
  | succ n => simp [Message.leaves, h]

def Message.leavesOfAll (n : Nat) (sections : List (List UInt8)) : List Part :=
  sections.flatMap fun raw => Message.leaves n (Part.parse raw)

mutual
theorem Tree.leaves_render {n : Nat} (t : Tree) (hc : t.Calm) (hl : t.levels ≤ n) :
    Message.leaves n (Part.parse t.render) = t.leaves.map Leaf.toPart := by
  match t, n with
  | .leaf leaf, n =>
    rw [Tree.render, Part.parse_write leaf.plain]
    exact Message.leaves_of_sections_none leaf.sections_none n
  | .node heading children, n + 1 =>
    obtain ⟨hcalm, hchildren⟩ := hc
    have hbelow : children.levels ≤ n := Nat.le_of_succ_le_succ hl
    have hsections := heading.sections_part children.renders_ne_nil hcalm
    rw [Tree.render, heading.parse_part, Message.leaves, hsections]
    exact children.leaves_renders hchildren hbelow

theorem Forest.leaves_renders {n : Nat} (f : Forest) (hc : f.Calm) (hl : f.levels ≤ n) :
    Message.leavesOfAll n f.renders = f.leaves.map Leaf.toPart := by
  match f with
  | .last tree =>
    have htree := tree.leaves_render hc hl
    simp [Message.leavesOfAll, Forest.renders, Forest.leaves, htree]
  | .cons tree rest =>
    obtain ⟨hc1, hc2⟩ := hc
    have htree := tree.leaves_render hc1 (Nat.le_trans (Nat.le_max_left _ _) hl)
    have hrest := rest.leaves_renders hc2 (Nat.le_trans (Nat.le_max_right _ _) hl)
    simp only [Message.leavesOfAll] at hrest ⊢
    simp [Forest.renders, Forest.leaves, htree, hrest]
end

theorem Heading.parse_message (h : Heading) {children : List (List UInt8)} (hne : children ≠ [])
    (hcalm : ∀ raw ∈ children, Multipart.Calm h.boundary raw) :
    Message.parse (h.part children).write =
      .ok ⟨h.part children, Message.leavesOfAll (Message.maxLevels - 1) children⟩ := by
  have hsplit : Multipart.split (h.part children).body h.boundary = .ok children :=
    Multipart.split_write h.onLine hne hcalm
  simp only [Message.parse, h.parse_part, h.contentType_part, ContentType.isMultipart,
    h.boundary_part, hsplit]
  rfl

/-- A rendered multipart message reads as its leaves: none is lost or made up, none changes its
place, and each has its own fields and its own bytes. -/
theorem Message.parse_render (heading : Heading) (children : Forest)
    (hc : (Tree.node heading children).Calm)
    (hl : (Tree.node heading children).levels ≤ maxLevels) :
    Message.parse (Tree.node heading children).render =
      .ok ⟨heading.part children.renders, children.leaves.map Leaf.toPart⟩ := by
  obtain ⟨hcalm, hchildren⟩ := hc
  have hbelow : children.levels ≤ maxLevels - 1 := Nat.le_of_succ_le_succ hl
  rw [Tree.render, heading.parse_message children.renders_ne_nil hcalm,
    children.leaves_renders hchildren hbelow]

namespace Nested

def outer : Heading where
  before := [⟨"Subject", "Two leaves"⟩]
  subtype := "mixed"
  boundary := "a"
  after := []
  plain := by decide
  typed := by decide
  token := by decide
  onLine := by decide

/-- The outer boundary begins like the inner one. -/
def inner : Heading where
  before := []
  subtype := "alternative"
  boundary := "a b"
  after := []
  plain := by decide
  typed := by decide
  token := by decide
  onLine := by decide

def bare : Leaf where
  headers := ⟨[]⟩
  body := Text.bytes "--ab" ++ lineBreak
  plain := by decide
  single := by decide

def blank : Leaf where
  headers := ⟨[⟨"Content-Type", "text/html"⟩]⟩
  body := []
  plain := by decide
  single := by decide

end Nested

theorem Message.parse_render_nested :
    Message.parse (Tree.node Nested.outer (.cons (.node Nested.inner (.last (.leaf Nested.bare)))
        (.last (.leaf Nested.blank)))).render =
      .ok ⟨Nested.outer.part [(Nested.inner.part [Nested.bare.toPart.write]).write,
          Nested.blank.toPart.write],
        [Nested.bare.toPart, Nested.blank.toPart]⟩ :=
  Message.parse_render _ _ ⟨by decide, ⟨by decide, trivial⟩, trivial⟩ (by decide)

-- ---------------------------------------------------------------------------
-- Delimiters that do not collide
-- ---------------------------------------------------------------------------

/-- What a multipart writes around its children is no delimiter line of the boundary: neither
its own delimiter lines nor the fields around its type. -/
structure Heading.Avoids (inner : Heading) (boundary : String) : Prop where
  opening : ¬ Multipart.IsDelimiterLine boundary (Multipart.markOf inner.boundary)
  closing : ¬ Multipart.IsDelimiterLine boundary (Multipart.markOf inner.boundary ++ [0x2d, 0x2d])
  around : ∀ f ∈ inner.before ++ inner.after,
    ¬ Multipart.IsDelimiterLine boundary (Text.Utf8.encode f.line)

mutual
def Tree.headings : Tree → List Heading
  | .leaf _ => []
  | .node heading children => heading :: children.headings

def Forest.headings : Forest → List Heading
  | .last tree => tree.headings
  | .cons tree rest => tree.headings ++ rest.headings
end

mutual
def Tree.Apart : Tree → Prop
  | .leaf _ => True
  | .node heading children =>
    (∀ inner ∈ children.headings, inner.Avoids heading.boundary) ∧ children.Apart

def Forest.Apart : Forest → Prop
  | .last tree => tree.Apart
  | .cons tree rest => tree.Apart ∧ rest.Apart
end

theorem Heading.Avoids.calm_part {inner : Heading} {boundary : String}
    (hb : Multipart.OnLine boundary) (h : inner.Avoids boundary) {children : List (List UInt8)}
    (hc : ∀ raw ∈ children, Multipart.Calm boundary raw) :
    Multipart.Calm boundary (inner.part children).write := by
  refine Multipart.calm_part hb inner.fields_plain ?_
    (Multipart.calm_write hb inner.onLine h.opening h.closing hc)
  intro f hf
  simp only [part, fields, List.mem_append, List.mem_cons] at hf
  rcases hf with hf | rfl | hf
  · exact h.around f (List.mem_append_left _ hf)
  · have hname : inner.type.name.toList.head? = some 'C' := by
      show "Content-Type".toList.head? = some 'C'
      decide
    exact Multipart.not_isDelimiterLine_of_name hname (by decide) (by decide)
  · exact h.around f (List.mem_append_right _ hf)

mutual
theorem Tree.calm_render {boundary : String} (hb : Multipart.OnLine boundary) (t : Tree)
    (hl : ∀ leaf ∈ t.leaves, Multipart.Calm boundary leaf.toPart.write)
    (hh : ∀ inner ∈ t.headings, inner.Avoids boundary) : Multipart.Calm boundary t.render := by
  match t with
  | .leaf leaf => exact hl leaf (List.mem_singleton.mpr rfl)
  | .node heading children =>
    have hown := hh heading List.mem_cons_self
    exact hown.calm_part hb
      (children.calm_renders hb hl fun inner hi => hh inner (List.mem_cons_of_mem _ hi))

theorem Forest.calm_renders {boundary : String} (hb : Multipart.OnLine boundary) (f : Forest)
    (hl : ∀ leaf ∈ f.leaves, Multipart.Calm boundary leaf.toPart.write)
    (hh : ∀ inner ∈ f.headings, inner.Avoids boundary) :
    ∀ raw ∈ f.renders, Multipart.Calm boundary raw := by
  match f with
  | .last tree =>
    intro raw hraw
    obtain rfl := List.mem_singleton.mp hraw
    exact tree.calm_render hb hl hh
  | .cons tree rest =>
    intro raw hraw
    rcases List.mem_cons.mp hraw with rfl | hraw
    · exact tree.calm_render hb (fun leaf h => hl leaf (List.mem_append_left _ h))
        fun inner h => hh inner (List.mem_append_left _ h)
    · exact rest.calm_renders hb (fun leaf h => hl leaf (List.mem_append_right _ h))
        (fun inner h => hh inner (List.mem_append_right _ h)) raw hraw
end

mutual
theorem Tree.Apart.calm (t : Tree) (ha : t.Apart)
    (hl : ∀ leaf ∈ t.leaves, ∀ boundary, Multipart.OnLine boundary →
      Multipart.Calm boundary leaf.toPart.write) : t.Calm := by
  match t with
  | .leaf leaf => trivial
  | .node heading children =>
    obtain ⟨hinner, hchildren⟩ := ha
    exact ⟨children.calm_renders heading.onLine
        (fun leaf h => hl leaf h heading.boundary heading.onLine) hinner,
      Forest.Apart.calm children hchildren hl⟩

theorem Forest.Apart.calm (f : Forest) (ha : f.Apart)
    (hl : ∀ leaf ∈ f.leaves, ∀ boundary, Multipart.OnLine boundary →
      Multipart.Calm boundary leaf.toPart.write) : f.Calm := by
  match f with
  | .last tree => exact Tree.Apart.calm tree ha hl
  | .cons tree rest =>
    obtain ⟨htree, hrest⟩ := ha
    exact ⟨Tree.Apart.calm tree htree fun leaf h => hl leaf (List.mem_append_left _ h),
      Forest.Apart.calm rest hrest fun leaf h => hl leaf (List.mem_append_right _ h)⟩
end

end Mailroom.Mime
