import Mailroom.Mime.ContentType
import Mailroom.Mime.Disposition
import Mailroom.Proofs.Mime.Header
import Mailroom.Proofs.Mime.Parameters

/-!
# Written types and dispositions are read back

A type or disposition that is made of tokens, with any quoted parameters, reads as these
tokens and those parameters.
-/

namespace Mailroom.Mime

structure Token (s : String) : Prop where
  named : s.toList ≠ []
  trimmed : Text.Trimmed s.toList
  whole : '/' ∉ s.toList ∧ ';' ∉ s.toList ∧ '"' ∉ s.toList
  onLine : '\r' ∉ s.toList ∧ '\n' ∉ s.toList

instance (s : String) : Decidable (Token s) :=
  decidable_of_iff
    (s.toList ≠ [] ∧ Text.Trimmed s.toList ∧
      ('/' ∉ s.toList ∧ ';' ∉ s.toList ∧ '"' ∉ s.toList) ∧ '\r' ∉ s.toList ∧ '\n' ∉ s.toList)
    ⟨fun ⟨a, b, c, d⟩ => ⟨a, b, c, d⟩, fun ⟨a, b, c, d⟩ => ⟨a, b, c, d⟩⟩

def typeToken (main sub : String) : String := main ++ "/" ++ sub

theorem toList_typeToken (main sub : String) :
    (typeToken main sub).toList = main.toList ++ '/' :: sub.toList := by
  simp [typeToken]

theorem trimmed_typeToken {main sub : String} (hm : Token main) (hs : Token sub) :
    Text.Trimmed (typeToken main sub).toList := by
  obtain ⟨c, rest, hmain⟩ := List.exists_cons_of_ne_nil hm.named
  obtain ⟨d, tail, hsub⟩ := List.exists_cons_of_ne_nil hs.named
  rw [toList_typeToken]
  refine ⟨fun e he => hm.trimmed.1 e ?_, fun e he => hs.trimmed.2 e ?_⟩
  · simpa [hmain] using he
  · simpa [hsub] using he

theorem ContentType.parse_write {main sub : String} {pairs : List (String × String)}
    (hm : Token main) (hs : Token sub) (h : ∀ p ∈ pairs, Parameters.Key p.1.toList) :
    ContentType.parse (Parameters.write (typeToken main sub) pairs) =
      .ok ⟨Text.lowerAscii main, Text.lowerAscii sub, ⟨pairs⟩⟩ := by
  have hsemi : ';' ∉ (typeToken main sub).toList := by
    simp [toList_typeToken, hm.whole, hs.whole]
  have hquote : '"' ∉ (typeToken main sub).toList := by
    simp [toList_typeToken, hm.whole, hs.whole]
  have hsplit := Parameters.split_write hsemi hquote (trimmed_typeToken hm hs) h
  have hcut : Text.cut ['/'] (typeToken main sub).toList = some (main.toList, sub.toList) := by
    rw [toList_typeToken]
    exact Text.cut_singleton_append _ hm.whole.1
  have hmain : main.toList.isEmpty = false := List.isEmpty_eq_false_iff.mpr hm.named
  have hsub : sub.toList.isEmpty = false := List.isEmpty_eq_false_iff.mpr hs.named
  have hslash : sub.toList.contains '/' = false := by simpa using hs.whole.1
  simp only [ContentType.parse, hsplit, hcut, Text.trim_of_trimmed hm.trimmed,
    Text.trim_of_trimmed hs.trimmed, hmain, hsub, hslash]
  rfl

theorem Disposition.parse_write {token : String} {pairs : List (String × String)}
    (ht : Token token) (h : ∀ p ∈ pairs, Parameters.Key p.1.toList) :
    Disposition.parse (Parameters.write token pairs) =
      .ok ⟨if Text.lower token = "inline" then .inline
        else if Text.lower token = "attachment" then .attachment else .other (Text.lower token),
        ⟨pairs⟩⟩ := by
  have hne : token.isEmpty = false := by
    have := ht.named
    simpa using this
  simp only [Disposition.parse, Parameters.split_write ht.whole.2.1 ht.whole.2.2 ht.trimmed h, hne]
  rfl

theorem Field.plain_write {name token : String} {pairs : List (String × String)}
    (hname : Field.Plain ⟨name, ""⟩) (hne : token.toList ≠ []) (ht : Text.Trimmed token.toList)
    (htoken : '\r' ∉ token.toList ∧ '\n' ∉ token.toList)
    (hkeys : ∀ p ∈ pairs, Parameters.Key p.1.toList)
    (hvalues : ∀ p ∈ pairs, '\r' ∉ p.2.toList ∧ '\n' ∉ p.2.toList) :
    Field.Plain ⟨name, Parameters.write token pairs⟩ where
  named := hname.named
  nameTrimmed := hname.nameTrimmed
  nameOnLine := hname.nameOnLine
  valueTrimmed := Parameters.trimmed_write hne ht
  valueOnLine := by
    refine ⟨Parameters.not_mem_write (by decide) htoken.1 fun p hp => ?_,
      Parameters.not_mem_write (by decide) htoken.2 fun p hp => ?_⟩
    · exact ⟨(hkeys p hp).onLine.1, (hvalues p hp).1⟩
    · exact ⟨(hkeys p hp).onLine.2, (hvalues p hp).2⟩

theorem Field.plain_type {name main sub : String} {pairs : List (String × String)}
    (hname : Field.Plain ⟨name, ""⟩) (hm : Token main) (hs : Token sub)
    (hkeys : ∀ p ∈ pairs, Parameters.Key p.1.toList)
    (hvalues : ∀ p ∈ pairs, '\r' ∉ p.2.toList ∧ '\n' ∉ p.2.toList) :
    Field.Plain ⟨name, Parameters.write (typeToken main sub) pairs⟩ := by
  refine Field.plain_write hname ?_ (trimmed_typeToken hm hs) ?_ hkeys hvalues
  · simp [toList_typeToken]
  · simp [toList_typeToken, hm.onLine, hs.onLine]

end Mailroom.Mime
