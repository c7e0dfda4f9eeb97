import Mailroom.Codec.Hex
import Mailroom.Json.Numeral

/-!
# JSON values and how they are written

Values are written without blanks. Quotes, backslashes and control characters are
escaped, with the short escapes where there is one; all other characters stand for
themselves.
-/

namespace Mailroom

inductive Json
  | null
  | bool (b : Bool)
  | number (n : Json.Numeral)
  | string (s : String)
  | array (items : List Json)
  /-- Members with distinct names. -/
  | object (members : List (String × Json))
  deriving Repr

namespace Json

def ofNat (n : Nat) : Json := .number (.ofInt n)

def ofInt (n : Int) : Json := .number (.ofInt n)

def strings (items : List String) : Json := .array (items.map .string)

def optional (s : Option String) : Json := (s.map .string).getD .null

/-- A member that is left out when it has no value. -/
def member? (name : String) (s : Option String) : List (String × Json) :=
  (s.map fun s => (name, .string s)).toList

def get? (j : Json) (name : String) : Option Json :=
  match j with
  | .object members => (members.find? (·.1 = name)).map Prod.snd
  | _ => none

def escape (c : Char) : List Char :=
  if c = '"' then ['\\', '"']
  else if c = '\\' then ['\\', '\\']
  else if c = '\x08' then ['\\', 'b']
  else if c = '\t' then ['\\', 't']
  else if c = '\n' then ['\\', 'n']
  else if c = '\x0c' then ['\\', 'f']
  else if c = '\r' then ['\\', 'r']
  else if c.toNat < 0x20 then
    ['\\', 'u', '0', '0', Codec.Hex.digit (c.toNat / 16), Codec.Hex.digit (c.toNat % 16)]
  else [c]

def quote (s : String) : List Char := '"' :: s.toList.flatMap escape ++ ['"']

mutual

def chars : Json → List Char
  | .null => "null".toList
  | .bool b => (if b then "true" else "false").toList
  | .number n => n.render.toList
  | .string s => quote s
  | .array [] => ['[', ']']
  | .array (item :: rest) => '[' :: (chars item ++ itemChars rest)
  | .object [] => ['{', '}']
  | .object ((name, value) :: rest) =>
    '{' :: (quote name ++ ':' :: (chars value ++ memberChars rest))

def itemChars : List Json → List Char
  | [] => [']']
  | item :: rest => ',' :: (chars item ++ itemChars rest)

def memberChars : List (String × Json) → List Char
  | [] => ['}']
  | (name, value) :: rest => ',' :: (quote name ++ ':' :: (chars value ++ memberChars rest))

end

def render (j : Json) : String := String.ofList j.chars

end Json

end Mailroom
