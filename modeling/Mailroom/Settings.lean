import Mailroom.Json.Reader

/-!
# Settings

A settings file is a JSON record. Fields that it does not have take their defaults, and
so does everything if there is no file.
-/

namespace Mailroom

open Mailroom.Json (Document Result)

structure Settings where
  databasePath : String
  /-- The folder in which containers lie. -/
  objectRoot : String
  logFilter : Option String
  deriving DecidableEq, Repr

namespace Settings

def folder : String := "mailat"

def standard (dataFolder : String) : Settings :=
  ⟨s!"{dataFolder}/{folder}/inbound.db", s!"{dataFolder}/{folder}/objects", none⟩

def standardPath (configFolder : String) : String := s!"{configFolder}/{folder}/inbound.json"

def standardLogFilter : String := "mailat_inbound=info,mailat_core=info"

def effectiveLogFilter (s : Settings) : String := s.logFilter.getD standardLogFilter

def read (start : Settings) : Document → Result Settings :=
  Document.asRecord {
    names := ["database_path", "object_root", "log_filter"]
    required := 0
    set := fun settings name d => match name with
      | "database_path" => return { settings with databasePath := ← d.asString }
      | "object_root" => return { settings with objectRoot := ← d.asString }
      | _ => return { settings with logFilter := ← d.asOption Document.asString } } start

inductive Fault
  | unreadable
  | malformed
  deriving DecidableEq, Repr

def Fault.message (path : String) : Fault → String
  | .unreadable => s!"reading settings from {path}"
  | .malformed => s!"parsing settings in {path}"

def ofBytes (dataFolder : String) (bytes : List UInt8) : Except Fault Settings :=
  match Text.ofBytes bytes with
  | .error _ => .error .unreadable
  | .ok text => (Json.read (read (standard dataFolder)) text).mapError fun _ => .malformed

end Settings

end Mailroom
