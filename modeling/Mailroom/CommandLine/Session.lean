import Mailroom.CommandLine.Request
import Mailroom.Pattern.Engine
import Mailroom.Pipeline.Worker
import Mailroom.Settings
import Mailroom.Sieve.Block
import Mailroom.Sieve.Script

/-!
# What the commands do

Commands are written against a machine that reads files and opens stores. They end with a
report: an exit code, what is printed, and why the command failed.
-/

namespace Mailroom.CommandLine

open Mailroom.Pipeline (State)
open Mailroom.Time (Instant)

inductive File
  | missing
  /-- Something that is no file, such as a folder. -/
  | unusable
  | content (bytes : List UInt8)

structure Machine (m : Type → Type) where
  configFolder : String
  dataFolder : String
  readFile : String → m File
  makeFolder : String → m Bool
  openStores : Settings → m (Option State)
  saveStores : Settings → State → m Unit
  now : m Instant

structure Report where
  code : Nat
  output : String
  error : Option String
  deriving DecidableEq, Repr

namespace Report

def success (output : String) : Report := ⟨0, output, none⟩

def failure (error : String) : Report := ⟨1, "", some error⟩

def usage : Report := ⟨2, "", none⟩

end Report

def trimPieces : List String → List String
  | [] => []
  | first :: rest => first :: (rest.reverse.dropWhile fun piece => piece == "" || piece == ".").reverse

def parentPath? (path : String) : Option String :=
  match trimPieces (Object.pieces path) with
  | [] => none
  | [only] => if only.isEmpty then none else some ""
  | first :: rest =>
    match trimPieces (first :: rest.dropLast) with
    | [""] => some "/"
    | above => some ("/".intercalate above)

def stem (path : String) : String :=
  match (Object.components path).getLast? with
  | none => "script"
  | some name =>
    match Text.splitAt '.' name.toList with
    | [] => name
    | [_] => name
    | first :: rest =>
      let before := Text.joinWith ['.'] ((first :: rest).dropLast)
      if before.isEmpty then name else String.ofList before

variable {m : Type → Type} [Monad m]

def readText? (machine : Machine m) (path : String) : m (Option String) := do
  match ← machine.readFile path with
  | .content bytes => return (Text.ofBytes bytes).toOption
  | _ => return none

def loadSettings (machine : Machine m) (config : Option String) : m (Except String Settings) := do
  let path := config.getD (Settings.standardPath machine.configFolder)
  match ← machine.readFile path with
  | .missing => return .ok (Settings.standard machine.dataFolder)
  | .unusable => return .error (Settings.Fault.unreadable.message path)
  | .content bytes =>
    return (Settings.ofBytes machine.dataFolder bytes).mapError (Settings.Fault.message path)

def openStores (machine : Machine m) (settings : Settings) : m (Except String State) := do
  match parentPath? settings.databasePath with
  | some parent =>
    if !(← machine.makeFolder parent) then return .error s!"creating {parent}"
  | none => pure ()
  match ← machine.openStores settings with
  | some state => return .ok state
  | none => return .error s!"opening database {settings.databasePath}"

def ingestPayload (payload : String) (now : Instant) (s : State) : Bool × State :=
  match Notification.parsePayload payload with
  | .error _ => (false, s)
  | .ok none => (true, s)
  | .ok (some n) =>
    let (outcome, s) := (Pipeline.Intake.ingest n now).perform s
    (outcome.isOk, s)

def ingestFiles (machine : Machine m) (now : Instant) : List String → State → m (Nat × State)
  | [], s => return (0, s)
  | file :: rest, s => do
    let (succeeded, s) := match ← readText? machine file with
      | none => (false, s)
      | some payload => ingestPayload payload now s
    let (failures, s) ← ingestFiles machine now rest s
    return (if succeeded then failures else failures + 1, s)

def ingest (machine : Machine m) (settings : Settings) (files : List String) : m Report := do
  match ← openStores machine settings with
  | .error error => return .failure error
  | .ok state =>
    let now ← machine.now
    let (failures, state) ← ingestFiles machine now files state
    let (_, state) := (Pipeline.runTasks fun _ => now).perform state
    machine.saveStores settings state
    if failures = 0 then return .success ""
    else return .failure s!"{failures} of {files.length} payload(s) failed"

def validate (machine : Machine m) (file : String) : m Report := do
  match ← readText? machine file with
  | none => return .failure s!"reading {file}"
  | some text =>
    let script := Sieve.Script.ofText (stem file) text false
    match script.lastFault with
    | none => return .success s!"{script.name}: valid\n"
    | some fault => return .failure s!"{script.name}: {fault.message}"

def generate (machine : Machine m) (settings : Settings) (org : Int) : m Report := do
  match ← openStores machine settings with
  | .error error => return .failure error
  | .ok state =>
    match state.database.rulesOf org with
    | .error error => return .failure error.message
    | .ok rules =>
      machine.saveStores settings state
      return .success (Sieve.generate (rules.map (·.rule)))

def run (machine : Machine m) (arguments : List String) : m Report := do
  match Request.ofArguments? arguments with
  | none => return .usage
  | some (.help topic) => return .success topic.explanation.render
  | some .version => return .success s!"{programName} {programVersion}\n"
  | some (.command config command) =>
    match ← loadSettings machine config with
    | .error error => return .failure error
    | .ok settings =>
      match command with
      | .ingest files => ingest machine settings files
      | .validate file => validate machine file
      | .generate org => generate machine settings org

end Mailroom.CommandLine
