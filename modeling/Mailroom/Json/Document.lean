import Mailroom.Json.Value

/-!
# JSON texts as far as they can be read

A document is the tree of a text in which every fault has its place: a reader that goes
through the document in order meets the first fault that lies on its way, and no other.
Members keep their order and their repetitions. What a reader skips is held to the
grammar alone: unpaired surrogates and numbers that overflow are only met by a reader
that wants the value.

Typed readers are built from a few combinators. They say whether a text ended too early,
is no JSON, or is JSON of another shape than wanted.
-/

namespace Mailroom.Json

inductive Fault
  | truncated
  | malformed
  | mismatch
  deriving DecidableEq, Repr

inductive Key
  | text (name : String)
  | unpaired
  /-- No string; the value stands in place of one. -/
  | broken (read skip : Fault)
  deriving DecidableEq, Repr

inductive Document
  | null
  | bool (b : Bool)
  | number (n : Numeral)
  | string (s : String)
  | unpaired
  /-- `ending` is what stands in place of a comma or a closing bracket. -/
  | array (items : List Document) (ending : Option Fault)
  | object (members : List (Key × Document)) (ending : Option Fault)
  /-- No value, with the fault for a reader that wants one and for one that skips it. -/
  | broken (read skip : Fault)
  deriving Repr

abbrev Result (α : Type) := Except Fault α

namespace Document

def atEnd (ending : Option Fault) : Result Unit :=
  match ending with
  | some fault => .error fault
  | none => .ok ()

mutual

def skip : Document → Result Unit
  | .broken _ fault => .error fault
  | .array items ending => do
    skipItems items
    atEnd ending
  | .object members ending => do
    skipMembers members
    atEnd ending
  | _ => .ok ()

def skipItems : List Document → Result Unit
  | [] => .ok ()
  | item :: rest => do
    skip item
    skipItems rest

def skipMembers : List (Key × Document) → Result Unit
  | [] => .ok ()
  | (.broken _ fault, _) :: _ => .error fault
  | (_, value) :: rest => do
    skip value
    skipMembers rest

end

def refusal : Document → Fault
  | .broken fault _ => fault
  | .unpaired => .malformed
  | .number n => if n.overflows then .malformed else .mismatch
  | _ => .mismatch

def asString : Document → Result String
  | .string s => .ok s
  | d => .error d.refusal

def asBool : Document → Result Bool
  | .bool b => .ok b
  | d => .error d.refusal

/-- An unsigned integer of 64 bits. -/
def asNatural : Document → Result Nat
  | .number n =>
    match n.natural? with
    | some value => .ok value
    | none => .error (refusal (.number n))
  | d => .error d.refusal

def asOption {α : Type} (read : Document → Result α) : Document → Result (Option α)
  | .null => .ok none
  | d => (read d).map some

def asList {α : Type} (read : Document → Result α) : Document → Result (List α)
  | .array items ending => do
    let values ← items.mapM read
    atEnd ending
    return values
  | d => .error d.refusal

/-- One of some names, given as a text or as an object whose only member has the name and
the value null. -/
def asName {α : Type} (named : String → Option α) : Document → Result α
  | .string s =>
    match named s with
    | some value => .ok value
    | none => .error .mismatch
  | .object ((.text name, value) :: rest) ending =>
    match named name with
    | none => .error .mismatch
    | some result => do
      match value with
      | .null => pure ()
      | other => .error other.refusal
      if !rest.isEmpty then .error .malformed
      atEnd ending
      return result
  | .object ((.unpaired, _) :: _) _ => .error .malformed
  | .object ((.broken _ _, value) :: _) _ => .error value.refusal
  | .broken fault _ => .error fault
  | _ => .error .malformed

/-- How a record is read: the names of its fields in order, how many of them a record
given as an array must have, and how a field changes the record. -/
structure Shape (σ : Type) where
  names : List String
  required : Nat
  set : σ → String → Document → Result σ

/-- Reads members in order. A field must not be repeated; other members are skipped. -/
def readMembers {σ : Type} (shape : Shape σ) (record : σ) (seen : List String) :
    List (Key × Document) → Result σ
  | [] => .ok record
  | (.text name, value) :: rest =>
    if shape.names.contains name then
      if seen.contains name then .error .mismatch
      else do
        let record ← shape.set record name value
        readMembers shape record (name :: seen) rest
    else do
      value.skip
      readMembers shape record seen rest
  | (.unpaired, _) :: _ => .error .malformed
  | (.broken fault _, _) :: _ => .error fault

/-- Reads the items of an array as fields in order. There must be none beyond them. -/
def readItems {σ : Type} (shape : Shape σ) (record : σ) :
    List String → List Document → Result σ
  | _, [] => .ok record
  | [], _ :: _ => .error .malformed
  | name :: names, item :: rest => do
    let record ← shape.set record name item
    readItems shape record names rest

def asRecord {σ : Type} (shape : Shape σ) (start : σ) : Document → Result σ
  | .object members ending => do
    let record ← readMembers shape start [] members
    atEnd ending
    return record
  | .array items ending => do
    let record ← readItems shape start shape.names items
    atEnd ending
    if items.length < shape.required then .error .mismatch
    return record
  | d => .error d.refusal

/-- How many containers may enclose a value, the value itself counted. -/
def maxDepth : Nat := 127

def insert (members : List (String × Json)) (name : String) (value : Json) :
    List (String × Json) :=
  members.filter (·.1 ≠ name) ++ [(name, value)]

mutual

/-- The whole value, with room for `depth` containers inside each other. A repeated name
keeps its last value. -/
def value (depth : Nat) : Document → Result Json
  | .null => .ok .null
  | .bool b => .ok (.bool b)
  | .number n => if n.overflows then .error .malformed else .ok (.number n)
  | .string s => .ok (.string s)
  | .unpaired => .error .malformed
  | .broken fault _ => .error fault
  | .array items ending =>
    match depth with
    | 0 => .error .malformed
    | depth + 1 => do
      let values ← itemValues depth items
      atEnd ending
      return .array values
  | .object members ending =>
    match depth with
    | 0 => .error .malformed
    | depth + 1 => do
      let values ← memberValues depth [] members
      atEnd ending
      return .object values

def itemValues (depth : Nat) : List Document → Result (List Json)
  | [] => .ok []
  | item :: rest => do
    let first ← value depth item
    let later ← itemValues depth rest
    return first :: later

def memberValues (depth : Nat) (done : List (String × Json)) :
    List (Key × Document) → Result (List (String × Json))
  | [] => .ok done
  | (.text name, item) :: rest => do
    let read ← value depth item
    memberValues depth (insert done name read) rest
  | (.unpaired, _) :: _ => .error .malformed
  | (.broken fault _, _) :: _ => .error fault

end

def toJson (d : Document) : Result Json := d.value maxDepth

mutual

def ofJson : Json → Document
  | .null => .null
  | .bool b => .bool b
  | .number n => .number n
  | .string s => .string s
  | .array items => .array (ofItems items) none
  | .object members => .object (ofMembers members) none

def ofItems : List Json → List Document
  | [] => []
  | item :: rest => ofJson item :: ofItems rest

def ofMembers : List (String × Json) → List (Key × Document)
  | [] => []
  | (name, item) :: rest => (.text name, ofJson item) :: ofMembers rest

end

end Document

/-- Reads a value that is already at hand. It can only be of another shape than wanted. -/
def as {α : Type} (read : Document → Result α) (j : Json) : Result α :=
  (read (Document.ofJson j)).mapError fun _ => .mismatch

end Mailroom.Json
