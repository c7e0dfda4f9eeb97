import Mailroom.CommandLine.Session
import Mailroom.Store.Image
import Std.Time.DateTime.Timestamp

/-!
# The program

The machine that commands run on: files below the working folder, a database file, and a
folder of objects.
-/

namespace Mailroom.Main

open Mailroom.CommandLine (File Machine)
open Mailroom.Object (Node)
open Mailroom.Pipeline (State)
open Mailroom.Store (Database Tables)
open Mailroom.Time (Instant)

def folderOf (name fallback : String) : IO String := do
  match ← IO.getEnv name with
  | some folder => return folder
  | none =>
    let home := (← IO.getEnv "HOME").getD "."
    return s!"{home}/{fallback}"

def somethingAt (path : String) : IO Bool := do
  try (← IO.FS.realPath path).pathExists catch _ => return false

def readFile (path : String) : IO File := do
  try
    return .content (← IO.FS.readBinFile path).toList
  catch _ => return if ← somethingAt path then .unusable else .missing

def makeFolder (path : String) : IO Bool := do
  try
    if !path.isEmpty then IO.FS.createDirAll path
    return true
  catch _ => return false

/-- The files below a folder. What cannot be read is empty. -/
partial def loadNode (path : String) : IO Node := do
  match ← readFile path with
  | .content bytes => return .file bytes
  | .missing | .unusable =>
    let entries ← try (← IO.FS.realPath path).readDir catch _ => pure #[]
    let children ← entries.toList.mapM fun entry =>
      return (entry.fileName, ← loadNode s!"{path}/{entry.fileName}")
    return .folder children

partial def saveNode (path : String) : Node → IO Unit
  | .folder children => do
    IO.FS.createDirAll path
    for (name, child) in children do saveNode s!"{path}/{name}" child
  | .file bytes => do
    let same ← match ← readFile path with
      | .content former => pure (former == bytes)
      | _ => pure false
    if !same then IO.FS.writeBinFile path ⟨bytes.toArray⟩

/-- The folder of the objects: without a name it is the working folder. -/
def objectFolder (settings : Settings) : String :=
  if settings.objectRoot.isEmpty then "." else settings.objectRoot

/-- Opens the stores. A database file that is missing or empty holds empty tables. -/
def openStores (settings : Settings) : IO (Option State) := do
  let tables ← match ← readFile settings.databasePath with
    | .missing => pure (some Tables.empty)
    | .unusable => pure none
    | .content bytes => pure (Tables.ofBytes? bytes)
  match tables with
  | none => return none
  | some tables =>
    let database := { Database.empty with tables }
    let objects := { Object.Store.inFiles with place := .files (← loadNode (objectFolder settings)) }
    return some ⟨database, objects, .empty⟩

def saveStores (settings : Settings) (state : State) : IO Unit := do
  IO.FS.writeFile settings.databasePath state.database.tables.toJson.render
  match state.objects.place with
  | .files (.folder (child :: rest)) => saveNode (objectFolder settings) (.folder (child :: rest))
  | _ => return

def now : IO Instant := do
  let time := (← Std.Time.Timestamp.now).toNanosecondsSinceUnixEpoch.val
  return ⟨time / 1000000000, (time % 1000000000).toNat⟩

end Mailroom.Main

open Mailroom in
def main (arguments : List String) : IO UInt32 := do
  let machine : CommandLine.Machine IO := {
    configFolder := ← Mailroom.Main.folderOf "XDG_CONFIG_HOME" ".config"
    dataFolder := ← Mailroom.Main.folderOf "XDG_DATA_HOME" ".local/share"
    readFile := Mailroom.Main.readFile
    makeFolder := Mailroom.Main.makeFolder
    openStores := Mailroom.Main.openStores
    saveStores := Mailroom.Main.saveStores
    now := Mailroom.Main.now }
  let report ← CommandLine.run machine arguments
  IO.print report.output
  if let some error := report.error then IO.eprintln s!"Error: {error}"
  return report.code.toUInt32
