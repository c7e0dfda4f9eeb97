import Mailroom.Sieve.Command

/-!
# Scripts made of rules

Every active rule with at least one test becomes a block: a comment with its name, its
tests, and its commands in braces. Blocks keep the order of the rules.
-/

namespace Mailroom.Sieve

open Mailroom.Filter (Combinator Rule)

structure Block where
  name : List Char
  combinator : Combinator
  tests : List Test
  commands : List Command
  deriving DecidableEq, Repr

namespace Block

/-- The block of a rule, unless the rule is inactive or no condition has a test. -/
def ofRule? (rule : Rule) : Option Block :=
  let tests := rule.conditions.filterMap Test.ofCondition?
  if rule.active && !tests.isEmpty then
    some ⟨rule.name.toList, rule.combinator, tests, rule.actions.filterMap Command.ofAction?⟩
  else none

/-- A name on one line: line breaks become blanks. -/
def nameOnLine (name : List Char) : List Char :=
  name.map fun c => if c = '\r' ∨ c = '\n' then ' ' else c

/-- One test alone, or several in the test that combines them. -/
def renderTests (combinator : Combinator) : List Test → List Char
  | [test] => test.render
  | tests =>
    combinator.sieveTest.toList ++ " (".toList
      ++ Text.joinWith ", ".toList (tests.map Test.render) ++ ")".toList

def render (b : Block) : List Char :=
  "# Rule: ".toList ++ nameOnLine b.name ++ ['\n']
    ++ "if ".toList ++ renderTests b.combinator b.tests ++ " \x7b\n".toList
    ++ b.commands.flatMap (fun command => "    ".toList ++ command.render ++ ['\n'])
    ++ "\x7d\n\n".toList

end Block

def usedCapabilities : List String := ["fileinto", "imap4flags", "reject", "vacation", "copy"]

def heading : List Char :=
  "# Auto-generated Sieve script from email rules\n".toList
    ++ "require [".toList
    ++ Text.joinWith ", ".toList (usedCapabilities.map fun name => quoted name.toList)
    ++ "];\n\n".toList

def renderBlocks (blocks : List Block) : List Char := heading ++ blocks.flatMap Block.render

def generate (rules : List Rule) : String :=
  String.ofList (renderBlocks (rules.filterMap Block.ofRule?))

end Mailroom.Sieve
