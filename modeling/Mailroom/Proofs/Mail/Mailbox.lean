import Mailroom.Mail.Address
import Mailroom.Proofs.Text.Blank
import Mailroom.Proofs.Text.Cut

/-!
# Addresses behind quoted names

A mailbox that is written with its name in quotes is read again if the name has no opening angle
bracket. If it has one, the address is looked for behind it, inside the quotes: `parse_quoted` says
what is found, and `parse_quoted_inside` is a name that brings an address of its own.
-/

namespace Mailroom.Mail.Mailbox

def quoted (name address : String) : String := "\"" ++ name ++ "\" <" ++ address ++ ">"

theorem toList_quoted (name address : String) : (quoted name address).toList =
    '"' :: name.toList ++ ['"', ' '] ++ '<' :: (address.toList ++ ['>']) := by
  simp [quoted]

def nameOf (before : List Char) : List Char :=
  Text.trim (Text.trimBoth (· == '"') (Text.trim before))

theorem parse_of_toList {value : String} {before rest : List Char}
    (h : value.toList = before ++ '<' :: rest) (hopen : '<' ∉ before) (hclose : '>' ∈ rest) :
    parse value = ⟨String.ofList (rest.takeWhile (· != '>')),
      if (nameOf before).isEmpty then none else some (String.ofList (nameOf before))⟩ := by
  obtain ⟨after, hafter⟩ := Text.cut_singleton_of_mem hclose
  simp only [parse, h, Text.cut_singleton_append rest hopen, hafter, nameOf]
  rfl

theorem nameOf_quoted {name : List Char} (h : '"' ∉ name) :
    nameOf ('"' :: name ++ ['"', ' ']) = Text.trim name := by
  have houter : Text.trim ('"' :: name ++ ['"', ' ']) = ['"'] ++ name ++ ['"'] := by
    have hends : Text.Trimmed ('"' :: name ++ ['"']) := by
      refine ⟨fun c hc => ?_, fun c hc => ?_⟩
      · obtain rfl : '"' = c := Option.some.inj hc
        decide
      · rw [List.getLast?_concat] at hc
        obtain rfl : '"' = c := Option.some.inj hc
        decide
    have hspace : ∀ c ∈ [' '], Text.isBlank c = true := fun c hc => by
      rw [List.mem_singleton.mp hc]
      decide
    simpa using Text.trim_append [] [' '] (by simp) hspace hends
  have hplain : ∀ c ∈ name, (c == '"') = false := fun c hc =>
    beq_eq_false_iff_ne.mpr fun he => h (he ▸ hc)
  have hinner : Text.trimBoth (· == '"') (['"'] ++ name ++ ['"']) = name :=
    Text.trimBoth_append _ _ (by simp) (by simp)
      (fun c hc => hplain c (List.mem_of_mem_head? hc))
      (fun c hc => hplain c (List.mem_of_mem_getLast? hc))
  rw [nameOf, houter, hinner]

theorem mem_of_mem_nameOf {c : Char} {before : List Char} (h : c ∈ nameOf before) : c ∈ before :=
  Text.mem_of_mem_trimBoth (Text.mem_of_mem_trimBoth (Text.mem_of_mem_trimBoth h))

theorem parse_quoted_of_not_mem {name address : String} (hquote : '"' ∉ name.toList)
    (hname : Text.trim name.toList ≠ []) (haddress : '>' ∉ address.toList)
    (h : '<' ∉ name.toList) :
    parse (quoted name address) = ⟨address, some (String.ofList (Text.trim name.toList))⟩ := by
  have hopen : '<' ∉ '"' :: name.toList ++ ['"', ' '] := by simp [h]
  have hall : ∀ c ∈ address.toList, (c != '>') = true := fun c hc =>
    bne_iff_ne.mpr fun he => haddress (he ▸ hc)
  have hrest : (address.toList ++ ['>']).takeWhile (· != '>') = address.toList := by
    rw [List.takeWhile_append_of_pos hall]
    simp
  rw [parse_of_toList (toList_quoted name address) hopen (by simp), nameOf_quoted hquote, hrest,
    if_neg (by simpa using hname), String.ofList_toList]

theorem parse_quoted_of_split {name address : String} {shown rest : List Char}
    (h : name.toList = shown ++ '<' :: rest) (hshown : '<' ∉ shown) :
    parse (quoted name address) =
      ⟨String.ofList ((rest ++ ['"', ' ', '<'] ++ address.toList ++ ['>']).takeWhile (· != '>')),
        if (nameOf ('"' :: shown)).isEmpty then none
        else some (String.ofList (nameOf ('"' :: shown)))⟩ := by
  refine parse_of_toList ?_ (by simp [hshown]) (by simp)
  rw [toList_quoted, h]
  simp

/-- A mailbox with its name in quotes is read again exactly if there is no opening bracket in the
name. Otherwise the address is what stands behind the first one, up to a closing bracket. -/
theorem parse_quoted {name address : String} (hquote : '"' ∉ name.toList)
    (hname : Text.trim name.toList ≠ []) (haddress : '>' ∉ address.toList) :
    (parse (quoted name address) = ⟨address, some (String.ofList (Text.trim name.toList))⟩ ↔
        '<' ∉ name.toList) ∧
      ∀ shown rest, name.toList = shown ++ '<' :: rest → '<' ∉ shown →
        (parse (quoted name address)).address = String.ofList
          ((rest ++ ['"', ' ', '<'] ++ address.toList ++ ['>']).takeWhile (· != '>')) := by
  refine ⟨⟨fun hread hmem => ?_, parse_quoted_of_not_mem hquote hname haddress⟩,
    fun shown rest h hshown => congrArg Mailbox.address (parse_quoted_of_split h hshown)⟩
  obtain ⟨shown, rest, h, hshown⟩ := List.eq_append_cons_of_mem hmem
  -- the bracket is in the name that was written and not in the one that is read
  have hfound : '<' ∈ nameOf ('"' :: shown) := by
    have hsame := congrArg Mailbox.name ((parse_quoted_of_split h hshown).symm.trans hread)
    have hwritten := Text.mem_trim (show Text.isBlank '<' = false by decide) hmem
    split at hsame
    · cases hsame
    · rwa [String.ofList_injective (Option.some.inj hsame)]
  rcases List.mem_cons.mp (mem_of_mem_nameOf hfound) with hquoted | hbefore
  · cases hquoted
  · exact hshown hbefore

theorem parse_quoted_comma :
    parse (quoted " Doe, Jane > x " "jane@x.example") = ⟨"jane@x.example", some "Doe, Jane > x"⟩ :=
  (@parse_quoted " Doe, Jane > x " "jane@x.example" (by decide) (by decide) (by decide)).1.mpr
    (by decide)

/-- An address in the name is taken for that of the mailbox. -/
theorem parse_quoted_inside :
    parse (quoted "Bank <service@bank.example>" "eve@x.example") =
        ⟨"service@bank.example", some "Bank"⟩ ∧
      parse (quoted "Bank <service@bank.example>" "eve@x.example") ≠
        ⟨"eve@x.example", some "Bank <service@bank.example>"⟩ := by
  decide

end Mailroom.Mail.Mailbox
