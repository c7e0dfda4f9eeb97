import Mailroom.Filter.Rule
import Mailroom.Text.Cut

/-!
# Sieve tests and commands

The tests and commands that conditions and actions of rules call for, and how they are
written. Some conditions and actions have no counterpart in Sieve.
-/

namespace Mailroom.Sieve

open Mailroom.Filter (Action Condition)

/-- A text as it stands inside quotes: a backslash leads each quote and each backslash. -/
def escape (text : List Char) : List Char :=
  text.flatMap fun c => if c = '"' ∨ c = '\\' then ['\\', c] else [c]

def quoted (text : List Char) : List Char := '"' :: escape text ++ ['"']

inductive MatchKind
  | contains
  | equals
  | glob
  deriving DecidableEq, Repr

def MatchKind.tag : MatchKind → String
  | .contains => ":contains"
  | .equals => ":is"
  | .glob => ":matches"

inductive Test
  | header (how : MatchKind) (name : String) (key : List Char)
  | body (key : List Char)
  deriving DecidableEq, Repr

namespace Test

def render : Test → List Char
  | .header how name key =>
    "header ".toList ++ how.tag.toList ++ [' '] ++ quoted name.toList ++ [' '] ++ quoted key
  | .body key => "body ".toList ++ MatchKind.contains.tag.toList ++ [' '] ++ quoted key

/-- The test of a header field for a comparison. Beginnings and endings are globs. -/
def ofComparison? (name literal : String) : Filter.Comparison → Option Test
  | .contains => some (.header .contains name literal.toList)
  | .equals => some (.header .equals name literal.toList)
  | .startsWith => some (.header .glob name (literal.toList ++ ['*']))
  | .endsWith => some (.header .glob name ('*' :: literal.toList))
  | .pattern | .other => none

/-- The test that a condition calls for. Bodies are always searched. -/
def ofCondition? (c : Condition) : Option Test :=
  match c.field with
  | .sender => ofComparison? "From" c.literal c.comparison
  | .recipients => ofComparison? "To" c.literal c.comparison
  | .subject => ofComparison? "Subject" c.literal c.comparison
  | .body => some (.body c.literal.toList)
  | .hasAttachment | .other => none

end Test

inductive Command
  | fileInto (folder : List Char)
  | addFlag (flag : String)
  | discard
  | redirect (address : List Char)
  | reject (reason : List Char)
  | stop
  deriving DecidableEq, Repr

namespace Command

def render : Command → List Char
  | .fileInto folder => "fileinto ".toList ++ quoted folder ++ [';']
  | .addFlag flag => "addflag ".toList ++ quoted flag.toList ++ [';']
  | .discard => "discard;".toList
  | .redirect address => "redirect :copy ".toList ++ quoted address ++ [';']
  | .reject reason => "reject ".toList ++ quoted reason ++ [';']
  | .stop => "stop;".toList

/-- The command that an action calls for. A missing argument is empty. -/
def ofAction? (a : Action) : Option Command :=
  let argument := (a.argument.getD "").toList
  match a.kind with
  | .moveToFolder => some (.fileInto argument)
  | .star => some (.addFlag "\\Flagged")
  | .markRead => some (.addFlag "\\Seen")
  | .trash => some .discard
  | .forward => some (.redirect argument)
  | .reject => some (.reject argument)
  | .stop => some .stop
  | .archive | .other => none

end Command

end Mailroom.Sieve
