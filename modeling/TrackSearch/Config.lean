/-
Settings: the fields that the store supports and the short date formats, read from a TOML file such
as

    [backend]
    fields = ["title", "artist", "album", "rating", "lastplayed"]

    [dates]
    short_formats = ["%d/%m/%Y", "%Y-%m-%d"]

A key with any other name is a fault.
-/
import TrackSearch.Catalog.FieldSet
import TrackSearch.DateValue.Resolver
import TrackSearch.Toml.Document

namespace TrackSearch

/-- What a path leads to. -/
inductive FileState
  | missing
  | directory
  | file (bytes : ByteArray)

inductive CommandError
  | search (e : SearchError)
  /-- The file of settings is not there. -/
  | configNotFound (path : String)
  | configUnreadable
  /-- The text of the settings has a fault. -/
  | configMalformed
  deriving DecidableEq, Repr

def CommandError.message : CommandError → String
  | search e => e.message
  | configNotFound path =>
    "config file not found: " ++ path ++ "\n  hint: check the --config path or SONGQ_CONFIG"
  | configUnreadable => "config error: failed to read config"
  | configMalformed => "config error: failed to parse config"

/-- Settings, each of which may be left out. -/
structure Config where
  fields : Option (List String) := none
  shortFormats : Option (List String) := none
  deriving DecidableEq, Repr

namespace Config

def strings? : Toml.Value → Option (List String)
  | .array items =>
    items.mapM fun v =>
      match v with
      | .string s => some s
      | _ => none
  | _ => none

/-- The one setting that a table can have, or the first item of an array in place of the table. -/
def setting? (name : String) : Toml.Value → Option (Option (List String))
  | .table entries =>
    entries.foldlM (fun _ e => if e.1 = name then (strings? e.2).map some else none) none
  | .array [] => some none
  | .array (v :: _) => (strings? v).map some
  | _ => none

def ofToml? (entries : List (String × Toml.Value)) : Option Config :=
  entries.foldlM (fun (c : Config) e =>
    match e.1 with
    | "backend" => (setting? "fields" e.2).map fun s => { c with fields := s }
    | "dates" => (setting? "short_formats" e.2).map fun s => { c with shortFormats := s }
    | _ => none) {}

def ofText (text : String) : Except CommandError Config :=
  match (Toml.read? text).bind ofToml? with
  | some c => .ok c
  | none => .error .configMalformed

def load (path : String) : FileState → Except CommandError Config
  | .missing => .error (.configNotFound path)
  | .directory => .error .configUnreadable
  | .file bytes =>
    match String.fromUTF8? bytes with
    | some text => ofText text
    | none => .error .configUnreadable

/-- The fields that the store supports: every field, unless the settings name them. -/
def supported (c : Config) : Except SearchError FieldSet :=
  match c.fields with
  | some names => FieldSet.ofNames names
  | none => .ok FieldSet.full

/-- The short date formats: the default ones, unless the settings have others. -/
def formats (c : Config) : Except SearchError (List DateFormat) :=
  match c.shortFormats with
  | some texts => formatsOf texts
  | none => .ok defaultFormats

end Config

end TrackSearch
