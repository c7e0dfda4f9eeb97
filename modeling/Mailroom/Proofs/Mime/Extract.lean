import Mailroom.Mime.Extract
import Mailroom.Proofs.Codec.Base64
import Mailroom.Proofs.Mime.Tree
import Mailroom.Proofs.Text.Case

/-!
# Bodies and attachments are found again

Texts, HTML texts and files as the leaves of any tree of multiparts. The last text and the last
HTML text are the bodies, and the files are the attachments, in document order and with their
names, types and bytes.
-/

namespace Mailroom.Mime

-- ---------------------------------------------------------------------------
-- What a leaf stands for
-- ---------------------------------------------------------------------------

structure File where
  name : String
  main : String
  sub : String
  inline : Bool
  bytes : List UInt8
  named : name ≠ ""
  onLine : '\r' ∉ name.toList ∧ '\n' ∉ name.toList
  /-- Nothing in the name looks like an encoded word. -/
  literal : ¬ ['=', '?'] <:+: name.toList
  mainToken : Token main
  subToken : Token sub
  lower : Text.lowerAscii main = main ∧ Text.lowerAscii sub = sub
  single : main ≠ "multipart"
  /-- A text that is shown is a body. -/
  shown : inline = true → ¬ (main = "text" ∧ (sub = "plain" ∨ sub = "html"))

inductive Item
  | text (content : String)
  | html (content : String)
  | file (file : File)

namespace Item

def text? : Item → Option String
  | .text content => some content
  | _ => none

def html? : Item → Option String
  | .html content => some content
  | _ => none

def enclosure? : Item → Option Enclosure
  | .file f => some ⟨f.name, f.main ++ "/" ++ f.sub, none, f.inline, f.bytes⟩
  | _ => none

def bytes : Item → List UInt8
  | .text content => Text.bytes content
  | .html content => Text.bytes content
  | .file f => f.bytes

def main : Item → String
  | .text _ => "text"
  | .html _ => "text"
  | .file f => f.main

def sub : Item → String
  | .text _ => "plain"
  | .html _ => "html"
  | .file f => f.sub

def parameters : Item → List (String × String)
  | .text _ => [("charset", "utf-8")]
  | .html _ => [("charset", "utf-8")]
  | .file _ => []

def type (i : Item) : Field :=
  ⟨"Content-Type", Parameters.write (typeToken i.main i.sub) i.parameters⟩

def coding : Field := ⟨"Content-Transfer-Encoding", "base64"⟩

def disposition (f : File) : Field :=
  ⟨"Content-Disposition",
    Parameters.write (if f.inline then "inline" else "attachment") [("filename", f.name)]⟩

def dispositions : Item → List Field
  | .text _ => []
  | .html _ => []
  | .file f => [disposition f]

def fields (i : Item) : List Field := i.type :: coding :: i.dispositions

end Item

namespace Item

theorem tokens (i : Item) : Token i.main ∧ Token i.sub := by
  cases i with
  | text => exact ⟨show Token "text" by decide, show Token "plain" by decide⟩
  | html => exact ⟨show Token "text" by decide, show Token "html" by decide⟩
  | file f => exact ⟨f.mainToken, f.subToken⟩

theorem lower (i : Item) : Text.lowerAscii i.main = i.main ∧ Text.lowerAscii i.sub = i.sub := by
  cases i with
  | text => exact show Text.lowerAscii "text" = "text" ∧ Text.lowerAscii "plain" = "plain" by decide
  | html => exact show Text.lowerAscii "text" = "text" ∧ Text.lowerAscii "html" = "html" by decide
  | file f => exact f.lower

theorem parameters_plain (i : Item) : ∀ p ∈ i.parameters,
    Parameters.Key p.1.toList ∧ '\r' ∉ p.2.toList ∧ '\n' ∉ p.2.toList := by
  have hcharset : ∀ p ∈ [("charset", "utf-8")],
      Parameters.Key p.1.toList ∧ '\r' ∉ p.2.toList ∧ '\n' ∉ p.2.toList := by decide
  cases i with
  | text => exact hcharset
  | html => exact hcharset
  | file => exact fun p hp => absurd hp List.not_mem_nil

theorem type_plain (i : Item) : i.type.Plain :=
  Field.plain_type (by decide) i.tokens.1 i.tokens.2 (fun p hp => (i.parameters_plain p hp).1)
    fun p hp => (i.parameters_plain p hp).2

theorem disposition_token (inline : Bool) : Token (if inline then "inline" else "attachment") := by
  cases inline <;> decide

theorem filename_key (f : File) : ∀ p ∈ [("filename", f.name)], Parameters.Key p.1.toList :=
  List.forall_mem_singleton.mpr (show Parameters.Key "filename".toList by decide)

theorem disposition_plain (f : File) : (disposition f).Plain := by
  have htoken := disposition_token f.inline
  exact Field.plain_write (by decide) htoken.named htoken.trimmed htoken.onLine (filename_key f)
    (List.forall_mem_singleton.mpr f.onLine)

theorem fields_plain (i : Item) : ∀ f ∈ i.fields, f.Plain := by
  intro f hf
  simp only [fields, List.mem_cons] at hf
  rcases hf with rfl | rfl | hf
  · exact i.type_plain
  · exact show Field.Plain ⟨"Content-Transfer-Encoding", "base64"⟩ by decide
  · cases i with
    | text => exact absurd hf List.not_mem_nil
    | html => exact absurd hf List.not_mem_nil
    | file file =>
      obtain rfl := List.mem_singleton.mp hf
      exact disposition_plain file

end Item

-- ---------------------------------------------------------------------------
-- Written items
-- ---------------------------------------------------------------------------

/-- An item with its bytes in Base64, broken into lines anywhere. -/
structure Sheet where
  item : Item
  body : List UInt8
  wrapped : (body.filter fun b => b != carriageReturn && b != lineFeed) =
    Codec.Base64.encode item.bytes

namespace Sheet

def part (s : Sheet) : Part := ⟨⟨s.item.fields⟩, s.body⟩

theorem decode_body (s : Sheet) : Codec.Base64.decode s.body = .ok s.item.bytes := by
  refine Codec.Base64.decode_of_filter ?_
  have hbreak : ∀ b : UInt8, (!Text.isBlankByte b) =
      ((!Text.isBlankByte b) && (b != carriageReturn && b != lineFeed)) := by
    intro b
    by_cases h : b = carriageReturn ∨ b = lineFeed
    · rcases h with rfl | rfl <;> rfl
    · obtain ⟨h1, h2⟩ := not_or.mp h
      simp [h1, h2]
  rw [List.filter_congr fun b _ => hbreak b, ← List.filter_filter, s.wrapped, List.filter_eq_self]
  intro b hb
  simp [Codec.Base64.not_isBlankByte_of_isSymbol (Codec.Base64.isSymbol_of_mem_encode hb)]

theorem hyphen_not_mem (s : Sheet) : 0x2d ∉ s.body := by
  intro h
  have hmem : (0x2d : UInt8) ∈ Codec.Base64.encode s.item.bytes := by
    rw [← s.wrapped, List.mem_filter]
    exact ⟨h, by decide⟩
  exact absurd (Codec.Base64.isSymbol_of_mem_encode hmem) (by decide)

theorem calm_part (s : Sheet) {boundary : String} (hb : Multipart.OnLine boundary) :
    Multipart.Calm boundary s.part.write := by
  refine Multipart.calm_part hb s.item.fields_plain ?_ (Multipart.calm_of_not_mem s.hyphen_not_mem)
  have hname : ∀ f ∈ s.item.fields, f.name.toList.head? = some 'C' := by
    cases s.item <;>
      simp [Item.fields, Item.type, Item.coding, Item.dispositions, Item.disposition]
  exact fun f hf => Multipart.not_isDelimiterLine_of_name (hname f hf) (by decide) (by decide)

-- Of the names of the three fields each equals one that is asked for, and none the others.
theorem get_type (s : Sheet) :
    s.part.headers.get? "content-type" = some s.item.type.value := by
  have h : Text.sameAscii "Content-Type" "content-type" = true := by decide
  simp [Headers.get?, part, Item.fields, Item.type, h]

theorem get_coding (s : Sheet) :
    s.part.headers.get? "content-transfer-encoding" = some "base64" := by
  have h1 : Text.sameAscii "Content-Type" "content-transfer-encoding" = false := by decide
  have h2 : Text.sameAscii "Content-Transfer-Encoding" "content-transfer-encoding" = true := by
    decide
  simp [Headers.get?, part, Item.fields, Item.type, Item.coding, h1, h2]

theorem get_disposition (s : Sheet) : s.part.headers.get? "content-disposition" =
    s.item.dispositions.head?.map Field.value := by
  have h1 : Text.sameAscii "Content-Type" "content-disposition" = false := by decide
  have h2 : Text.sameAscii "Content-Transfer-Encoding" "content-disposition" = false := by decide
  have h3 : Text.sameAscii "Content-Disposition" "content-disposition" = true := by decide
  cases hs : s.item <;>
    simp [Headers.get?, part, Item.fields, Item.type, Item.coding, Item.dispositions,
      Item.disposition, hs, h1, h2, h3]

theorem get_contentId (s : Sheet) : s.part.headers.get? "content-id" = none := by
  have h1 : Text.sameAscii "Content-Type" "content-id" = false := by decide
  have h2 : Text.sameAscii "Content-Transfer-Encoding" "content-id" = false := by decide
  have h3 : Text.sameAscii "Content-Disposition" "content-id" = false := by decide
  cases hs : s.item <;>
    simp [Headers.get?, part, Item.fields, Item.type, Item.coding, Item.dispositions,
      Item.disposition, hs, h1, h2, h3]

theorem contentType_part (s : Sheet) : s.part.contentType =
    .ok ⟨s.item.main, s.item.sub, ⟨s.item.parameters⟩⟩ := by
  have hparse := ContentType.parse_write s.item.tokens.1 s.item.tokens.2
    fun p hp => (s.item.parameters_plain p hp).1
  rw [s.item.lower.1, s.item.lower.2] at hparse
  simp only [Part.contentType, s.get_type]
  exact hparse

theorem decodedBody_part (s : Sheet) : s.part.decodedBody = .ok s.item.bytes := by
  have hcoding : s.part.transferCoding = .base64 := by
    simp only [Part.transferCoding, s.get_coding]
    decide
  simp only [Part.decodedBody, hcoding, TransferCoding.decode, decodeBase64]
  show (Codec.Base64.decode s.body).mapError _ = _
  rw [s.decode_body]
  rfl

theorem contentId_part (s : Sheet) : s.part.contentId? = none := by
  simp [Part.contentId?, s.get_contentId]

theorem disposition_file {s : Sheet} {f : File} (h : s.item = .file f) : s.part.disposition? =
    some ⟨if f.inline then .inline else .attachment, ⟨[("filename", f.name)]⟩⟩ := by
  have hparse := Disposition.parse_write (Item.disposition_token f.inline) (Item.filename_key f)
  have hinline : Text.lower "inline" = "inline" := by decide
  have hattachment : Text.lower "attachment" = "attachment" := by decide
  simp only [Part.disposition?, s.get_disposition, h, Item.dispositions, Item.disposition,
    List.head?_cons, Option.map_some, Option.bind_some, hparse, Except.toOption]
  cases f.inline
  · simp [hattachment]
  · simp [hinline]

theorem disposition_body {s : Sheet} (h : s.item.dispositions = []) :
    s.part.disposition? = none := by
  simp [Part.disposition?, s.get_disposition, h]

def leaf (s : Sheet) : Leaf where
  toPart := s.part
  plain := s.item.fields_plain
  single := by
    have hmain : s.item.main ≠ "multipart" := by
      cases s.item with
      | text => exact show "text" ≠ "multipart" by decide
      | html => exact show "text" ≠ "multipart" by decide
      | file f => exact f.single
    simp [s.contentType_part, Except.toOption, ContentType.isMultipart, hmain]

end Sheet

-- ---------------------------------------------------------------------------
-- Classification
-- ---------------------------------------------------------------------------

namespace Extracted

/-- What a leaf adds: a body takes the place of the one before, a file goes to the end. -/
def add (x : Extracted) : Item → Extracted
  | .text content => { x with text := some content }
  | .html content => { x with html := some content }
  | .file f => { x with enclosures := x.enclosures ++ (Item.file f).enclosure?.toList }

theorem decodeOrKeep_of_literal {name : String} (h : ¬ ['=', '?'] <:+: name.toList) :
    EncodedWord.decodeOrKeep name = name := by
  have hnone := Text.cut_eq_none_of_not_infix h
  have hdecode : EncodedWord.decodeFrom false name.toList = .ok name.toList := by
    unfold EncodedWord.decodeFrom
    split
    · rfl
    · next hsome =>
      rw [hnone] at hsome
      cases hsome
  simp [EncodedWord.decodeOrKeep, EncodedWord.decode, hdecode, Except.map, Except.toOption]

theorem filename_file {s : Sheet} {f : File} (h : s.item = .file f) (type : Option ContentType) :
    filename s.part.disposition? type = f.name := by
  have hname : Text.sameAscii "filename" "filename" = true := by decide
  have hnamed : f.name.isEmpty = false := by simpa using f.named
  simp [filename, Sheet.disposition_file h, Disposition.filename?, Parameters.get?, hname,
    Option.filter, hnamed, decodeOrKeep_of_literal f.literal]

theorem enclosure_file {s : Sheet} {f : File} (h : s.item = .file f) :
    s.item.enclosure? = some (enclosure s.part f.inline) := by
  simp only [enclosure, filename_file h, s.contentId_part, s.contentType_part, s.decodedBody_part]
  simp [h, Item.enclosure?, Item.main, Item.sub, Item.bytes, Except.toOption, ContentType.essence]

theorem is_iff {t : ContentType} {main sub : String}
    (hm : Text.lowerAscii t.main = t.main) (hs : Text.lowerAscii t.sub = t.sub)
    (hm' : Text.lowerAscii main = main) (hs' : Text.lowerAscii sub = sub) :
    t.is main sub = true ↔ t.main = main ∧ t.sub = sub := by
  rw [ContentType.is, Bool.and_eq_true, Text.sameAscii_iff, Text.sameAscii_iff, hm, hm', hs, hs']

theorem isType_part (s : Sheet) (main sub : String) (hm : Text.lowerAscii main = main)
    (hs : Text.lowerAscii sub = sub) :
    (s.part.contentType.toOption.map (·.is main sub)).getD false =
      decide (s.item.main = main ∧ s.item.sub = sub) := by
  have hiff := is_iff (t := ⟨s.item.main, s.item.sub, ⟨s.item.parameters⟩⟩) s.item.lower.1
    s.item.lower.2 hm hs
  rw [s.contentType_part, Bool.eq_iff_iff, decide_eq_true_iff]
  exact hiff

theorem textOrRaw_part {s : Sheet} {content : String} (h : s.item.bytes = Text.bytes content) :
    s.part.textOrRaw = content := by
  simp [Part.textOrRaw, Part.text, s.decodedBody_part, h, Except.map, Except.toOption,
    Text.ofBytesLenient, Text.bytes, Text.Utf8.decodeLenient_encode]

theorem addLeaf_sheet (x : Extracted) (s : Sheet) : addLeaf x s.part = x.add s.item := by
  have hplain := isType_part s "text" "plain" (by decide) (by decide)
  have hhtml := isType_part s "text" "html" (by decide) (by decide)
  simp only [addLeaf, hplain, hhtml]
  cases h : s.item with
  | text content =>
    have hnone := s.disposition_body (by simp [h, Item.dispositions])
    have htext : s.part.textOrRaw = content := textOrRaw_part (by rw [h]; rfl)
    simp [hnone, htext, add, Item.main, Item.sub]
  | html content =>
    have hnone := s.disposition_body (by simp [h, Item.dispositions])
    have htext : s.part.textOrRaw = content := textOrRaw_part (by rw [h]; rfl)
    simp [hnone, htext, add, Item.main, Item.sub]
  | file f =>
    have hsome := Sheet.disposition_file h
    have henclosure := enclosure_file h
    rw [h] at henclosure
    cases hi : f.inline with
    | false => simp [hsome, hi, henclosure, add, Disposition.isAttachment, Disposition.isInline]
    | true =>
      have hshown := f.shown hi
      simp only [not_and, not_or] at hshown
      have hp : ¬ (f.main = "text" ∧ f.sub = "plain") := fun e => (hshown e.1).1 e.2
      have hq : ¬ (f.main = "text" ∧ f.sub = "html") := fun e => (hshown e.1).2 e.2
      simp [hsome, hi, henclosure, add, Disposition.isAttachment, Disposition.isInline, Item.main,
        Item.sub, hp, hq]

theorem foldl_add (x : Extracted) (items : List Item) : items.foldl add x =
    ⟨(items.filterMap Item.text?).getLast?.or x.text, (items.filterMap Item.html?).getLast?.or x.html,
      x.enclosures ++ items.filterMap Item.enclosure?⟩ := by
  induction items generalizing x with
  | nil => simp
  | cons item items ih =>
    rw [List.foldl_cons, ih]
    cases item with
    | text content =>
      simp only [add, List.filterMap_cons, Item.text?, Item.html?, Item.enclosure?,
        List.getLast?_cons, Option.some_or]
      cases (items.filterMap Item.text?).getLast? <;> rfl
    | html content =>
      simp only [add, List.filterMap_cons, Item.text?, Item.html?, Item.enclosure?,
        List.getLast?_cons, Option.some_or]
      cases (items.filterMap Item.html?).getLast? <;> rfl
    | file f => simp [add, Item.text?, Item.html?, Item.enclosure?]

/-- The bodies and attachments of a rendered message are those it was made from. -/
theorem ofRaw_render (heading : Heading) (children : Forest) (sheets : List Sheet)
    (hs : children.leaves = sheets.map Sheet.leaf)
    (ha : (Tree.node heading children).Apart)
    (hl : (Tree.node heading children).levels ≤ Message.maxLevels) :
    ofRaw (Tree.node heading children).render =
      ⟨(sheets.filterMap fun s => s.item.text?).getLast?,
        (sheets.filterMap fun s => s.item.html?).getLast?,
        sheets.filterMap fun s => s.item.enclosure?⟩ := by
  have hleaves : ∀ leaf ∈ children.leaves, ∀ boundary, Multipart.OnLine boundary →
      Multipart.Calm boundary leaf.toPart.write := by
    intro leaf hleaf boundary hb
    rw [hs] at hleaf
    obtain ⟨s, -, rfl⟩ := List.mem_map.mp hleaf
    exact s.calm_part hb
  obtain ⟨hcalm, hchildren⟩ := Tree.Apart.calm (.node heading children) ha hleaves
  have hparse := heading.parse_message children.renders_ne_nil hcalm
  have hbelow : children.levels ≤ Message.maxLevels - 1 := Nat.le_of_succ_le_succ hl
  rw [children.leaves_renders hchildren hbelow] at hparse
  have hparts : children.leaves.map Leaf.toPart = sheets.map Sheet.part := by
    rw [hs, List.map_map]
    rfl
  have hfold : (sheets.map Sheet.part).foldl addLeaf empty =
      (sheets.map Sheet.item).foldl add empty := by
    rw [List.foldl_map, List.foldl_map]
    simp only [addLeaf_sheet]
  rw [foldl_add] at hfold
  simp only [Tree.render, ofRaw, hparse, hparts, heading.getType_part, Option.bind_some, heading.parse_type,
    Except.toOption, ContentType.isMultipart, hfold]
  simp only [empty, List.filterMap_map, Function.comp_def, Option.or_none, List.nil_append,
    BEq.rfl, if_true]

end Extracted

namespace Posted

def file : File where
  name := "a \"b\"; c.txt"
  main := "text"
  sub := "plain"
  inline := false
  bytes := [0, 255]
  named := by decide
  onLine := by decide
  literal := by simp [List.infix_cons_iff, List.cons_prefix_cons]
  mainToken := by decide
  subToken := by decide
  lower := by decide
  single := by decide
  shown := by decide

def first : Sheet := ⟨.text "no", Text.bytes "bm8=", by decide⟩

def second : Sheet := ⟨.text "hi", Text.bytes "aG\r\nk=", by decide⟩

def attached : Sheet := ⟨.file file, Text.bytes "AP8=\n", by decide⟩

def children : Forest :=
  .cons (.node Nested.inner (.cons (.leaf first.leaf) (.last (.leaf second.leaf))))
    (.last (.leaf attached.leaf))

end Posted

theorem Extracted.ofRaw_render_posted :
    Extracted.ofRaw (Tree.node Nested.outer Posted.children).render =
      ⟨some "hi", none, [⟨"a \"b\"; c.txt", "text/plain", none, false, [0, 255]⟩]⟩ :=
  (Extracted.ofRaw_render Nested.outer Posted.children
    [Posted.first, Posted.second, Posted.attached] rfl
    ⟨List.forall_mem_singleton.mpr ⟨by decide, by decide, by decide⟩,
      ⟨fun _ h => absurd h List.not_mem_nil, trivial, trivial⟩, trivial⟩ (by decide)).trans
    (by decide)

end Mailroom.Mime
