import Mailroom.Text.Cut

/-!
# What the commands say about themselves

Every command explains itself by what it is for, how it is called, and a list of what may
be named in a call.
-/

namespace Mailroom.CommandLine

def programName : String := "mailat-inbound"

def programVersion : String := "0.1.0"

inductive Topic
  | program
  | ingest
  | sieve
  | validate
  | generate
  | help
  | sieveHelp
  deriving DecidableEq, Repr

structure HelpList where
  title : String
  entries : List (String × String)
  deriving DecidableEq, Repr

def HelpList.render (l : HelpList) : String :=
  let width := (l.entries.map (·.1.length)).foldl max 0
  let line (entry : String × String) : String :=
    let (word, meaning) := entry
    let gap := String.ofList (List.replicate (width - word.length) ' ')
    s!"  {word}{gap}  {meaning}\n"
  s!"\n{l.title}:\n{String.join (l.entries.map line)}"

structure Explanation where
  purpose : String
  call : String
  lists : List HelpList
  deriving DecidableEq, Repr

def Explanation.render (e : Explanation) : String :=
  let lists := String.join (e.lists.map HelpList.render)
  s!"{e.purpose}\n\nUsage: {programName} {e.call}\n{lists}"

namespace Topic

def helpPurpose : String := "Print this message or the help of the given subcommand(s)"

def configOption : String × String :=
  ("-c, --config <FILE>", "Settings file (defaults to `<config dir>/mailat/inbound.json`)")

def helpOption : String × String := ("-h, --help", "Print help")

def versionOption : String × String := ("-V, --version", "Print version")

def orgOption : String × String := ("    --org <ORG>", "Organization id")

def purpose : Topic → String
  | program => "Inbound mail processor"
  | ingest => "Ingest notification payloads and run decoding and filtering"
  | sieve => "Sieve script tooling"
  | validate => "Check a script for structural errors"
  | generate => "Print the script compiled from an organization's filter rules"
  | help | sieveHelp => helpPurpose

def call : Topic → String
  | program => "[OPTIONS] <COMMAND>"
  | ingest => "ingest [OPTIONS] <FILE>..."
  | sieve => "sieve [OPTIONS] <COMMAND>"
  | validate => "sieve validate [OPTIONS] <FILE>"
  | generate => "sieve generate [OPTIONS] --org <ORG>"
  | help => "help [COMMAND]..."
  | sieveHelp => "sieve help [COMMAND]..."

def commands (names : List (String × Topic)) : HelpList :=
  ⟨"Commands", names.map (fun n => (n.1, n.2.purpose)) ++ [("help", helpPurpose)]⟩

def lists : Topic → List HelpList
  | program => [commands [("ingest", ingest), ("sieve", sieve)],
      ⟨"Options", [configOption, helpOption, versionOption]⟩]
  | ingest => [
      ⟨"Arguments", [("<FILE>...", "JSON payloads, either bare notifications or pub/sub envelopes")]⟩,
      ⟨"Options", [configOption, helpOption]⟩]
  | sieve => [commands [("validate", validate), ("generate", generate)],
      ⟨"Options", [configOption, helpOption]⟩]
  | validate => [⟨"Arguments", [("<FILE>", "Script file")]⟩,
      ⟨"Options", [configOption, helpOption]⟩]
  | generate => [⟨"Options", [configOption, orgOption, helpOption]⟩]
  | help | sieveHelp =>
      [⟨"Arguments", [("[COMMAND]...", "Print help for the subcommand(s)")]⟩]

def explanation (topic : Topic) : Explanation := ⟨topic.purpose, topic.call, topic.lists⟩

end Topic

end Mailroom.CommandLine
