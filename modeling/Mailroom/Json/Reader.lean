import Mailroom.Json.Document
import Mailroom.Text.Utf8

/-!
# Reading JSON texts

From a text to its document. A scanner returns what it read together with the rest of
the text, or no rest if it met a fault that ends the document. Fuel bounds the depth of
containers; the length of the text is always enough.
-/

namespace Mailroom.Json

namespace Reader

/-- The rest of a text, or nothing where a fault has ended the document. -/
abbrev Rest := Option (List Char)

def isSpace (c : Char) : Bool := c == ' ' || c == '\n' || c == '\t' || c == '\r'

def skipSpace (cs : List Char) : List Char := cs.dropWhile isSpace

/-! ## Strings -/

inductive Scanned
  | text (s : String) (rest : List Char)
  | unpaired (rest : List Char)
  | broken (read skip : Fault)

/-- The code unit of four digits. There must be at least four bytes to look at. -/
def codeUnit (cs : List Char) : Result (Nat × List Char) :=
  match cs with
  | a :: b :: c :: d :: rest =>
    match Codec.Hex.value? a, Codec.Hex.value? b, Codec.Hex.value? c, Codec.Hex.value? d with
    | some a, some b, some c, some d => .ok (((a * 16 + b) * 16 + c) * 16 + d, rest)
    | _, _, _, _ => .error .malformed
  | _ => .error (if (Text.Utf8.encode cs).length < 4 then .truncated else .malformed)

/-- Whether what follows a leading surrogate rules out its partner. A text that ends, or
an escape that cannot be read, is left for the scanner to report. -/
def partnerMissing : List Char → Bool
  | [] => false
  | '\\' :: 'u' :: rest =>
    match codeUnit rest with
    | .ok (unit, _) => !(0xdc00 ≤ unit && unit ≤ 0xdfff)
    | .error _ => false
  | ['\\'] => false
  | _ => true

def simpleEscape? (c : Char) : Option Char :=
  if c = '"' ∨ c = '\\' ∨ c = '/' then some c
  else if c = 'b' then some '\x08'
  else if c = 'f' then some '\x0c'
  else if c = 'n' then some '\n'
  else if c = 'r' then some '\r'
  else if c = 't' then some '\t'
  else none

/-- A fault inside a string: a reader that wants the text has met an unpaired surrogate
before, if `flawed`. -/
def stringFault (flawed : Bool) (fault : Fault) : Scanned :=
  .broken (if flawed then .malformed else fault) fault

/-- Scans the characters of a string. `done` holds those before, latest first, `lead` is
a leading surrogate that its partner completes, and `flawed` says that an unpaired
surrogate has been met. -/
def scanString (fuel : Nat) (done : List Char) (lead : Option Nat) (flawed : Bool)
    (cs : List Char) : Scanned :=
  match fuel, cs with
  | _, [] => stringFault flawed .truncated
  | 0, _ => stringFault flawed .truncated
  | fuel + 1, c :: rest =>
    if c = '"' then
      if flawed then .unpaired rest else .text (String.ofList done.reverse) rest
    else if c.toNat < 0x20 then stringFault flawed .malformed
    else if c ≠ '\\' then scanString fuel (c :: done) none flawed rest
    else match rest with
      | [] => stringFault flawed .truncated
      | 'u' :: digits =>
        match codeUnit digits with
        | .error fault => stringFault flawed fault
        | .ok (unit, rest) =>
          if 0xd800 ≤ unit ∧ unit ≤ 0xdbff then
            if partnerMissing rest then scanString fuel done none true rest
            else scanString fuel done (some unit) flawed rest
          else if 0xdc00 ≤ unit ∧ unit ≤ 0xdfff then
            match lead with
            | some high =>
              let c := Char.ofNat (0x10000 + (high - 0xd800) * 0x400 + (unit - 0xdc00))
              scanString fuel (c :: done) none flawed rest
            | none => scanString fuel done none true rest
          else scanString fuel (Char.ofNat unit :: done) none flawed rest
      | e :: rest =>
        match simpleEscape? e with
        | some c => scanString fuel (c :: done) none flawed rest
        | none => stringFault flawed .malformed

def string (cs : List Char) : Scanned := scanString cs.length [] none false cs

/-! ## Numbers -/

/-- Adds digits to a significand as long as it stays within 64 bits. Returns the
significand and how many digits it took. -/
def takeDigits (n : Nat) : List Char → Nat × Nat
  | [] => (n, 0)
  | c :: rest =>
    let n' := 10 * n + (c.toNat - 48)
    if n' < Numeral.limit then
      let (m, count) := takeDigits n' rest
      (m, count + 1)
    else (n, 0)

/-- A number that is cut off. Only a reader that wants it tells the end of the text from
a wrong character. -/
def cutNumber (cs : List Char) : Document × Rest :=
  (.broken (if cs.isEmpty then .truncated else .malformed) .malformed, none)

def exponent (negative : Bool) (significand : Nat) (scale : Int) (cs : List Char) :
    Document × Rest :=
  let (minus, cs) := match cs with
    | '+' :: rest => (false, rest)
    | '-' :: rest => (true, rest)
    | _ => (false, cs)
  let digits := cs.takeWhile Char.isDigit
  if digits.isEmpty then cutNumber cs
  else
    let size : Nat := digits.foldl (fun n c => 10 * n + (c.toNat - 48)) 0
    let total := if minus then scale - size else scale + size
    (.number ⟨negative, significand, total, false⟩, some (cs.dropWhile Char.isDigit))

def afterWhole (negative : Bool) (significand : Nat) (extra : Nat) (cs : List Char) :
    Document × Rest :=
  match cs with
  | '.' :: rest =>
    let digits := rest.takeWhile Char.isDigit
    let rest := rest.dropWhile Char.isDigit
    if digits.isEmpty then cutNumber rest
    else
      let (significand, taken) := takeDigits significand digits
      let scale : Int := (extra : Int) - taken
      match rest with
      | 'e' :: rest => exponent negative significand scale rest
      | 'E' :: rest => exponent negative significand scale rest
      | _ => (.number ⟨negative, significand, scale, false⟩, some rest)
  | 'e' :: rest => exponent negative significand extra rest
  | 'E' :: rest => exponent negative significand extra rest
  | _ =>
    let whole := extra = 0 ∧ ¬(negative ∧ (significand = 0 ∨ Nat.pow 2 63 < significand))
    (.number ⟨negative, significand, extra, whole⟩, some cs)

/-- A number without its sign. A zero must not lead other digits. -/
def unsigned (negative : Bool) (cs : List Char) : Document × Rest :=
  match cs with
  | '0' :: rest =>
    match rest with
    | c :: _ => if c.isDigit then (.broken .malformed .malformed, none)
      else afterWhole negative 0 0 rest
    | [] => afterWhole negative 0 0 rest
  | c :: _ =>
    if c.isDigit then
      let digits := cs.takeWhile Char.isDigit
      let (significand, taken) := takeDigits 0 digits
      afterWhole negative significand (digits.length - taken) (cs.dropWhile Char.isDigit)
    else (.broken .malformed .malformed, none)
  | [] => cutNumber []

/-! ## Values -/

def literal (word : List Char) (value : Document) (cs : List Char) : Document × Rest :=
  match word, cs with
  | [], _ => (value, some cs)
  | _ :: _, [] => (.broken .truncated .truncated, none)
  | w :: word, c :: rest =>
    if w = c then literal word value rest else (.broken .malformed .malformed, none)

def unexpected : List Char → Fault
  | [] => .truncated
  | _ :: _ => .malformed

mutual

def value (fuel : Nat) (cs : List Char) : Document × Rest :=
  match fuel with
  | 0 => (.broken .malformed .malformed, none)
  | fuel + 1 =>
    match skipSpace cs with
    | [] => (.broken .truncated .truncated, none)
    | '"' :: rest =>
      match string rest with
      | .text s rest => (.string s, some rest)
      | .unpaired rest => (.unpaired, some rest)
      | .broken read skip => (.broken read skip, none)
    | '[' :: rest =>
      match skipSpace rest with
      | ']' :: rest => (.array [] none, some rest)
      | [] => (.array [] (some .truncated), none)
      | rest =>
        let (items, ending, rest) := items fuel rest
        (.array items ending, rest)
    | '{' :: rest =>
      match skipSpace rest with
      | '}' :: rest => (.object [] none, some rest)
      | rest =>
        let (members, ending, rest) := members fuel rest
        (.object members ending, rest)
    | '-' :: rest => unsigned true rest
    | c :: rest =>
      if c.isDigit then unsigned false (c :: rest)
      else if c = 'n' then literal ['u', 'l', 'l'] .null rest
      else if c = 't' then literal ['r', 'u', 'e'] (.bool true) rest
      else if c = 'f' then literal ['a', 'l', 's', 'e'] (.bool false) rest
      else (.broken .malformed .malformed, none)

def items (fuel : Nat) (cs : List Char) : List Document × Option Fault × Rest :=
  match fuel with
  | 0 => ([.broken .malformed .malformed], none, none)
  | fuel + 1 =>
    match value fuel cs with
    | (item, none) => ([item], none, none)
    | (item, some rest) =>
      match skipSpace rest with
      | ']' :: rest => ([item], none, some rest)
      | ',' :: rest =>
        let (later, ending, rest) := items fuel rest
        (item :: later, ending, rest)
      | rest => ([item], some (unexpected rest), none)

def members (fuel : Nat) (cs : List Char) : List (Key × Document) × Option Fault × Rest :=
  match fuel with
  | 0 => ([(.broken .malformed .malformed, .broken .malformed .malformed)], none, none)
  | fuel + 1 =>
    match skipSpace cs with
    | [] => ([(.broken .truncated .truncated, .broken .truncated .truncated)], none, none)
    | '"' :: rest =>
      match string rest with
      | .broken read skip => ([(.broken read skip, .broken read skip)], none, none)
      | .text name rest => member fuel (.text name) rest
      | .unpaired rest => member fuel .unpaired rest
    | rest => ([(.broken .malformed .malformed, (value fuel rest).1)], none, none)

def member (fuel : Nat) (key : Key) (cs : List Char) :
    List (Key × Document) × Option Fault × Rest :=
  match fuel with
  | 0 => ([(key, .broken .malformed .malformed)], none, none)
  | fuel + 1 =>
    match skipSpace cs with
    | ':' :: rest =>
      match value fuel rest with
      | (item, none) => ([(key, item)], none, none)
      | (item, some rest) =>
        match skipSpace rest with
        | '}' :: rest => ([(key, item)], none, some rest)
        | ',' :: rest =>
          let (later, ending, rest) := members fuel rest
          ((key, item) :: later, ending, rest)
        | rest => ([(key, item)], some (unexpected rest), none)
    | rest =>
      let fault := unexpected rest
      ([(key, .broken fault fault)], none, none)

end

def document (text : List Char) : Document × Rest := value (3 * text.length + 3) text

end Reader

/-- Reads a value from a text. Nothing but space may follow it. -/
def read {α : Type} (reader : Document → Result α) (text : String) : Result α := do
  let (document, rest) := Reader.document text.toList
  let value ← reader document
  match rest with
  | some rest => if (Reader.skipSpace rest).isEmpty then return value else .error .malformed
  | none => return value

def parse (text : String) : Result Json := read Document.toJson text

end Mailroom.Json
