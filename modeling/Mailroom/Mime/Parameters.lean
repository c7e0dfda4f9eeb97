import Mailroom.Mime.Charset
import Mailroom.Text.Blank
import Mailroom.Text.Cut
import Mailroom.Text.Number

/-!
# Parameters of structured header values

`token; key=value; ...` (RFC 2045) with values that are spread over sections or carry a
character set (RFC 2231): `name*=utf-8''a%20b`, `name*0*=...`, `name*1=...`. Keys are in
lower case. The value joined from sections takes the place of a plain value of its name.
-/

namespace Mailroom.Mime

/-- Keys and values in the order in which they take effect. -/
structure Parameters where
  pairs : List (String × String)
  deriving DecidableEq, Repr

namespace Parameters

def ofList (pairs : List (String × String)) : Parameters := ⟨pairs⟩

def get? (p : Parameters) (key : String) : Option String :=
  (p.pairs.find? fun pair => Text.sameAscii pair.1 key).map Prod.snd

def size (p : Parameters) : Nat := p.pairs.length

def isEmpty (p : Parameters) : Bool := p.pairs.isEmpty

/-! ## Segments and quoted strings -/

def extendFirst (c : Char) : List (List Char) → List (List Char)
  | [] => [[c]]
  | segment :: rest => (c :: segment) :: rest

/-- Cuts at semicolons outside quotes. A backslash escapes only inside quotes. -/
def segmentsFrom (quoted escaped : Bool) : List Char → List (List Char)
  | [] => [[]]
  | c :: rest =>
    if escaped then extendFirst c (segmentsFrom quoted false rest)
    else if c = '\\' ∧ quoted then extendFirst c (segmentsFrom quoted true rest)
    else if c = '"' then extendFirst c (segmentsFrom (!quoted) false rest)
    else if c = ';' ∧ !quoted then [] :: segmentsFrom quoted false rest
    else extendFirst c (segmentsFrom quoted false rest)

def segments (value : List Char) : List (List Char) := segmentsFrom false false value

def quotedContent : List Char → List Char
  | [] => []
  | '\\' :: c :: rest => c :: quotedContent rest
  | c :: rest => if c = '"' ∨ c = '\\' then [] else c :: quotedContent rest

/-- A value without its quotes and escapes. One without quotes is as written. -/
def unquote : List Char → List Char
  | '"' :: rest => quotedContent rest
  | raw => raw

/-! ## Sections -/

structure Section where
  index : Nat
  encoded : Bool
  value : List Char
  deriving DecidableEq, Repr

/-- Reads what follows the first asterisk of a key: nothing, a number, or a number and a
second asterisk. Numbers have 32 bits. -/
def Section.ofMark? (mark value : List Char) : Option Section :=
  if mark.isEmpty then some ⟨0, true, value⟩
  else match Text.dropSuffix? ['*'] mark with
    | some digits => (Text.natural? (Nat.pow 2 32) digits).map fun n => ⟨n, true, value⟩
    | none => (Text.natural? (Nat.pow 2 32) mark).map fun n => ⟨n, false, value⟩

/-- Escapes `%XX` as bytes. A malformed escape stands for itself. -/
def percentDecode : List UInt8 → List UInt8
  | [] => []
  | [x] => [x]
  | [x, a] => [x, a]
  | x :: a :: b :: rest =>
    if x = 0x25 then
      match Codec.QuotedPrintable.digit? a, Codec.QuotedPrintable.digit? b with
      | some high, some low => UInt8.ofNat (16 * high + low) :: percentDecode rest
      | _, _ => x :: percentDecode (a :: b :: rest)
    else x :: percentDecode (a :: b :: rest)

def insertSection (s : Section) : List Section → List Section
  | [] => [s]
  | t :: rest => if t.index ≤ s.index then t :: insertSection s rest else s :: t :: rest

/-- Sections in the order of their indices, equal ones in the order given. -/
def sortSections (sections : List Section) : List Section :=
  sections.foldl (fun sorted s => insertSection s sorted) []

def Section.bytes (s : Section) : List UInt8 :=
  if s.encoded then percentDecode (Text.Utf8.encode s.value) else Text.Utf8.encode s.value

/-- Splits `charset'language'text`. -/
def declaredCharset? (value : List Char) : Option (List Char × List Char) := do
  let (charset, rest) ← Text.cut ['\''] value
  let (_, text) ← Text.cut ['\''] rest
  return (charset, text)

/-- The character set that ordered sections declare, and their bytes. Only the first
section can declare one, and only if it is encoded. -/
def joined : List Section → List Char × List UInt8
  | [] => ([], [])
  | s :: rest =>
    let later := rest.flatMap Section.bytes
    match if s.encoded then declaredCharset? s.value else none with
    | some (charset, text) => (charset, { s with value := text }.bytes ++ later)
    | none => ([], s.bytes ++ later)

/-- The value that sections spell, or nothing if it is not in its character set. -/
def sectionsValue? (sections : List Section) : Option String :=
  let (charset, bytes) := joined (sortSections sections)
  if charset.isEmpty then some (Text.ofBytesLenient bytes)
  else (Charset.decode charset bytes).toOption.map String.ofList

/-! ## Reading -/

inductive Entry
  | plain (key value : String)
  | part (name : String) (content : Section)

/-- Reads a segment. One without an equals sign, without a key, or with a malformed mark
says nothing. -/
def Entry.ofSegment? (segment : List Char) : Option Entry := do
  let (key, raw) ← Text.cut ['='] segment
  let key := (Text.trim key).map Char.toLower
  if key.isEmpty then none
  let value := unquote (Text.trim raw)
  match Text.cut ['*'] key with
  | none => return .plain (String.ofList key) (String.ofList value)
  | some (base, mark) =>
    let content ← Section.ofMark? mark value
    return .part (String.ofList base) content

def addSection (name : String) (s : Section) :
    List (String × List Section) → List (String × List Section)
  | [] => [(name, [s])]
  | group :: rest =>
    if group.1 = name then (name, group.2 ++ [s]) :: rest else group :: addSection name s rest

/-- Replaces the first value of `key`, or adds one at the end. -/
def put (key value : String) : List (String × String) → List (String × String)
  | [] => [(key, value)]
  | pair :: rest => if pair.1 = key then (key, value) :: rest else pair :: put key value rest

def plainPairs (entries : List Entry) : List (String × String) :=
  entries.filterMap fun
    | .plain key value => some (key, value)
    | .part .. => none

def sectionGroups (entries : List Entry) : List (String × List Section) :=
  entries.foldl (fun groups entry => match entry with
    | .plain .. => groups
    | .part name content => addSection name content groups) []

def ofSegments (segments : List (List Char)) : Parameters :=
  let entries := segments.filterMap Entry.ofSegment?
  ⟨(sectionGroups entries).foldl (fun pairs group => match sectionsValue? group.2 with
    | some value => put group.1 value pairs
    | none => pairs) (plainPairs entries)⟩

/-- The leading token of a value, trimmed, and its parameters. -/
def split (value : String) : String × Parameters :=
  match segments value.toList with
  | [] => ("", ofSegments [])
  | head :: rest => (String.ofList (Text.trim head), ofSegments rest)

end Parameters

end Mailroom.Mime
