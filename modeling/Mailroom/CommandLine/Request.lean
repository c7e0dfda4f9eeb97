import Mailroom.CommandLine.Help
import Mailroom.Text.Number

/-!
# What is asked for on the command line

Options may stand before or after other arguments of their command. The settings file can
be named at every level, once at each; the innermost one counts. Two hyphens end all
options.
-/

namespace Mailroom.CommandLine

inductive Command
  | ingest (files : List String)
  | validate (file : String)
  | generate (org : Int)
  deriving DecidableEq, Repr

inductive Request
  | help (topic : Topic)
  | version
  | command (config : Option String) (command : Command)
  deriving DecidableEq, Repr

inductive Level
  | top
  | ingest
  | sieve
  | validate
  | generate
  | help (topic : Topic)
  deriving DecidableEq, Repr

def Level.topic : Level → Topic
  | top => .program
  | ingest => .ingest
  | sieve => .sieve
  | validate => .validate
  | generate => .generate
  | help topic => topic

def Topic.named? : Topic → String → Option Topic
  | program, "ingest" => some ingest
  | program, "sieve" => some sieve
  | program, "help" => some help
  | sieve, "validate" => some validate
  | sieve, "generate" => some generate
  | sieve, "help" => some sieveHelp
  | _, _ => none

structure Reading where
  level : Level
  config : Option String
  /-- Whether the settings file has been named at this level. -/
  hasConfig : Bool
  files : List String
  org : Option Int
  /-- Whether options have ended. -/
  literal : Bool
  deriving DecidableEq, Repr

namespace Reading

def start : Reading := ⟨.top, none, false, [], none, false⟩

def enter (r : Reading) (level : Level) : Reading := { r with level, hasConfig := false }

def setConfig? (r : Reading) (path : String) : Option Reading :=
  if r.hasConfig || path.isEmpty then none
  else some { r with config := some path, hasConfig := true }

def setOrg? (r : Reading) (text : String) : Option Reading :=
  if r.level != .generate || r.org.isSome then none
  else (Text.integer64? text.toList).map fun org => { r with org := some org }

/-- Takes an argument that is no option: the name of a command, or a file. -/
def setPlain? (r : Reading) (text : String) : Option Reading :=
  match r.level with
  | .top =>
    if r.literal then none
    else match text with
      | "ingest" => some (r.enter .ingest)
      | "sieve" => some (r.enter .sieve)
      | "help" => some (r.enter (.help .program))
      | _ => none
  | .sieve =>
    if r.literal then none
    else match text with
      | "validate" => some (r.enter .validate)
      | "generate" => some (r.enter .generate)
      | "help" => some (r.enter (.help .sieve))
      | _ => none
  | .ingest => if text.isEmpty then none else some { r with files := r.files ++ [text] }
  | .validate =>
    if text.isEmpty || !r.files.isEmpty then none else some { r with files := [text] }
  | .generate => none
  | .help topic => (topic.named? text).map fun topic => r.enter (.help topic)

def request? (r : Reading) : Option Request :=
  match r.level, r.files, r.org with
  | .ingest, first :: rest, _ => some (.command r.config (.ingest (first :: rest)))
  | .validate, [file], _ => some (.command r.config (.validate file))
  | .generate, _, some org => some (.command r.config (.generate org))
  | .help topic, _, _ => some (.help topic)
  | _, _, _ => none

end Reading

inductive Effect
  | next (r : Reading)
  | answer (request : Request)
  /-- An option whose value is the next argument. -/
  | wantsValue (set : String → Option Reading)
  | refuse

def Effect.ofReading? : Option Reading → Effect
  | some r => .next r
  | none => .refuse

def longOption (r : Reading) (name : String) (value : Option String) : Effect :=
  match name, value with
  | "config", some path => .ofReading? (r.setConfig? path)
  | "config", none => .wantsValue r.setConfig?
  | "org", some text => .ofReading? (r.setOrg? text)
  | "org", none => if r.level == .generate then .wantsValue r.setOrg? else .refuse
  | "help", none => .answer (.help r.level.topic)
  | "version", none => if r.level == .top then .answer .version else .refuse
  | _, _ => .refuse

/-- Reads an option of one letter. What follows the letter is its value. -/
def shortOption (r : Reading) (letter : Char) (rest : List Char) : Effect :=
  match letter, rest with
  | 'c', [] => .wantsValue r.setConfig?
  | 'c', '=' :: path => .ofReading? (r.setConfig? (String.ofList path))
  | 'c', path => .ofReading? (r.setConfig? (String.ofList path))
  | 'h', _ => .answer (.help r.level.topic)
  | 'V', _ => if r.level == .top then .answer .version else .refuse
  | _, _ => .refuse

def effect (r : Reading) (argument : String) : Effect :=
  let isName := match r.level with
    | .help _ => true
    | _ => r.literal
  if isName then .ofReading? (r.setPlain? argument)
  else match argument.toList with
    | ['-', '-'] => .next { r with literal := true }
    | '-' :: '-' :: option =>
      match Text.cut ['='] option with
      | some (name, value) => longOption r (String.ofList name) (some (String.ofList value))
      | none => longOption r (String.ofList option) none
    | '-' :: letter :: rest => shortOption r letter rest
    | _ => .ofReading? (r.setPlain? argument)

def isValue (argument : String) : Bool :=
  match argument.toList with
  | '-' :: _ :: _ => false
  | _ => true

def readFrom (r : Reading) : List String → Option Request
  | [] => r.request?
  | argument :: rest =>
    match effect r argument with
    | .refuse => none
    | .answer request => some request
    | .next r => readFrom r rest
    | .wantsValue set =>
      match rest with
      | [] => none
      | value :: rest =>
        if isValue value then
          match set value with
          | some r => readFrom r rest
          | none => none
        else none

def Request.ofArguments? (arguments : List String) : Option Request := readFrom .start arguments

end Mailroom.CommandLine
