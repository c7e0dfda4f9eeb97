import Mailroom.Text.Blank
import Mailroom.Text.Cut

/-!
# Rough checks of Sieve scripts

Not a parser: the first list of required capabilities must be known, braces must be
balanced over the whole text, strings and comments included, and every line must begin
like a command or a block, or hold a string, a tag or a list.
-/

namespace Mailroom.Sieve

inductive Fault
  | unknownCapability (name : String)
  | unmatchedClosing
  | unmatchedOpening
  | unknownCommand (line : String)
  deriving DecidableEq, Repr

def Fault.message : Fault → String
  | .unknownCapability name => s!"unknown capability: {name}"
  | .unmatchedClosing => "unmatched closing brace"
  | .unmatchedOpening => "unmatched opening brace"
  | .unknownCommand line => s!"unknown command on line: {line}"

def capabilities : List String :=
  ["fileinto", "reject", "vacation", "envelope", "body", "regex", "copy", "imap4flags",
    "variables", "include", "relational", "comparator-i;ascii-numeric"]

def commandWords : List String :=
  ["if", "elsif", "else", "require", "stop", "keep", "discard", "redirect", "reject",
    "fileinto", "vacation", "set", "addheader", "deleteheader"]

/-- What stands in brackets after `require` and blanks, if the text begins with these. -/
def requiredAt? (cs : List Char) : Option (List Char) :=
  match Text.dropPrefix? "require".toList cs with
  | none => none
  | some rest =>
    match rest.takeWhile Text.isBlank, rest.dropWhile Text.isBlank with
    | _ :: _, '[' :: list =>
      match list.takeWhile (· != ']'), list.dropWhile (· != ']') with
      | c :: names, _ :: _ => some (c :: names)
      | _, _ => none
    | _, _ => none

def required? : List Char → Option (List Char)
  | [] => none
  | c :: rest =>
    match requiredAt? (c :: rest) with
    | some list => some list
    | none => required? rest

def capabilityNames (list : List Char) : List String :=
  (Text.splitAt ',' list).map fun item =>
    String.ofList (Text.trimBoth (· == '"') (Text.trim item))

def checkCapabilities (cs : List Char) : Except Fault Unit :=
  match required? cs with
  | none => .ok ()
  | some list =>
    match (capabilityNames list).find? fun name => !capabilities.contains name with
    | some name => .error (.unknownCapability name)
    | none => .ok ()

/-- Checks braces, of which `depth` are open. -/
def checkBraces (depth : Nat) : List Char → Except Fault Unit
  | [] => if depth = 0 then .ok () else .error .unmatchedOpening
  | c :: rest =>
    if c = '\x7b' then checkBraces (depth + 1) rest
    else if c = '\x7d' then
      match depth with
      | 0 => .error .unmatchedClosing
      | depth + 1 => checkBraces depth rest
    else checkBraces depth rest

def isLine (line : List Char) : Bool :=
  line.isEmpty || line.head? == some '#'
    || commandWords.any (fun word => word.toList.isPrefixOf line)
    || line.head? == some '\x7b' || line.head? == some '\x7d'
    || line.any fun c => c == '"' || c == ':' || c == '['

def checkLines (cs : List Char) : Except Fault Unit :=
  match ((Text.splitAt '\n' cs).map Text.trim).find? fun line => !isLine line with
  | some line => .error (.unknownCommand (String.ofList line))
  | none => .ok ()

/-- Checks capabilities, then braces, then lines. The first fault is told. -/
def validate (script : String) : Except Fault Unit := do
  let cs := script.toList
  checkCapabilities cs
  checkBraces 0 cs
  checkLines cs

end Mailroom.Sieve
