import Mailroom.Mime.Charset
import Mailroom.Text.Blank
import Mailroom.Text.Cut

/-!
# Encoded words in header text (RFC 2047)

`=?charset?B|Q?text?=` among plain text. White space that stands alone between two
words is dropped. What begins like a word and does not go on like one ends the search,
and the rest of the text is kept.
-/

namespace Mailroom.Mime.EncodedWord

structure Word where
  charset : List Char
  coding : List Char
  payload : List Char
  rest : List Char

def split (text : List Char) : Option Word := do
  let (charset, text) ← Text.cut ['?'] text
  let (coding, text) ← Text.cut ['?'] text
  let (payload, rest) ← Text.cut ['?', '='] text
  return ⟨charset, coding, payload, rest⟩

def Word.decode (word : Word) : Except Error (List Char) := do
  let payload ←
    if word.coding = ['B'] ∨ word.coding = ['b'] then
      decodeBase64 (Text.Utf8.encode word.payload)
    else if word.coding = ['Q'] ∨ word.coding = ['q'] then
      decodeQuotedPrintable
        (Text.Utf8.encode (word.payload.map fun c => if c = '_' then ' ' else c))
    else .error (.coding (.unknownWordCoding (String.ofList word.coding)))
  Charset.decode word.charset payload

theorem split_rest_lt {text : List Char} {word : Word} (h : split text = some word) :
    word.rest.length < text.length := by
  simp only [split, Option.bind_eq_bind, Option.bind_eq_some_iff, Prod.exists] at h
  obtain ⟨_, t1, h1, _, t2, h2, _, t3, h3, h4⟩ := h
  cases h4
  have l1 := Text.length_lt_of_cut (by simp) h1
  have l2 := Text.length_lt_of_cut (by simp) h2
  have l3 := Text.length_lt_of_cut (by simp) h3
  simp only at l1 l2 l3 ⊢
  omega

/-- Decodes the words of `text`. `afterWord` says that a word ends right before it. -/
def decodeFrom (afterWord : Bool) (text : List Char) : Except Error (List Char) :=
  match _opening : Text.cut ['=', '?'] text with
  | none => .ok text
  | some (before, fields) =>
    match _found : split fields with
    | none => .ok text
    | some word => do
      let here ← word.decode
      let later ← decodeFrom true word.rest
      let kept := if afterWord && (Text.trim before).isEmpty then [] else before
      return kept ++ here ++ later
termination_by text.length
decreasing_by
  have l1 := Text.length_lt_of_cut (by simp) _opening
  have l2 := split_rest_lt _found
  omega

def decode (text : String) : Except Error String :=
  (decodeFrom false text.toList).map String.ofList

/-- The text that a header text stands for, or that text itself if it cannot be decoded. -/
def decodeOrKeep (text : String) : String := (decode text).toOption.getD text

end Mailroom.Mime.EncodedWord
