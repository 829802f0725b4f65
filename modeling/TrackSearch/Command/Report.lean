/-
What the commands print, as text for people and as JSON for programs.
-/
import TrackSearch.Expression.Description
import TrackSearch.Expression.PlainText
import TrackSearch.Expression.Printer
import TrackSearch.Json.Document
import TrackSearch.Json.Printer
import TrackSearch.Query.Compile
import TrackSearch.Text.Blank
import TrackSearch.Text.Split

namespace TrackSearch

inductive ReportForm
  | text | json
  deriving DecidableEq, Repr

def ReportForm.all : List ReportForm :=
  [.text, .json]

def ReportForm.name : ReportForm → String
  | .text => "text"
  | .json => "json"

namespace Report

/-- Lines, each with its line end. -/
def lines (ls : List String) : String :=
  String.join (ls.map (· ++ "\n"))

def json (j : Json) : String :=
  lines [j.write]

/-! ## Expressions -/

def groupLine (n : Nat) (g : Group) : String :=
  "group " ++ Number.writeInt n ++ ": " ++ Text.join " OR " (g.map Element.describe)

/-- The groups of an expression and its written form. -/
def parse (text : String) (form : ReportForm) : String :=
  let e := Expression.parse text
  match form with
  | .json => json e.toJson
  | .text =>
    if e.groups.isEmpty then lines ["(empty expression)"]
    else
      lines (e.groups.zipIdx.map (fun (g, i) => groupLine (i + 1) g) ++
        ["normalized: " ++ e.write])

/-- The calls for an expression.  Nothing is printed of a query that was stopped. -/
def compile (text : String) (supported : FieldSet) (dates : Resolver) (form : ReportForm) :
    Except SearchError String :=
  let e := Expression.parse text
  let emission := e.compile dates supported
  match emission.failure with
  | some err => .error err
  | none =>
    .ok (match form with
      | .text => lines (Call.outline emission.calls)
      | .json =>
        json (.object [("normalized", .string e.write),
          ("calls", .array (emission.calls.map Call.toJson))]))

def advanced (text : String) : String :=
  lines [if usesSyntax text then "true" else "false"]

/-! ## Dates -/

def date (text : String) (dates : Resolver) (form : ReportForm) : String :=
  let r := dates.resolve text
  match form with
  | .text => lines [r.describe]
  | .json =>
    json (.object ([("input", .string text), ("valid", .bool r.isValid),
      ("value", .integer r.value.toInt), ("is_absolute", .bool r.isAbsolute)] ++
      match r.utc? with
      | some utc => [("utc", .string utc)]
      | none => []))

/-! ## Fields -/

/-- A text with spaces behind it, `width` characters at least. -/
def column (width : Nat) (s : String) : String :=
  s ++ String.ofList (List.replicate (width - s.length) ' ')

/-- A field, its kind, and whether it is a default field or not supported. -/
def fieldLine (supported : FieldSet) (f : Field) : String :=
  let notes := (if Field.defaultText.contains f then ["default"] else []) ++
    (if supported.supports f then [] else ["unsupported"])
  let line := column 12 f.name ++ " " ++ column 8 f.kind.name ++ " " ++ Text.join ", " notes
  String.ofList (Text.trimEnd line.toList)

def fieldRow (supported : FieldSet) (f : Field) : Json :=
  .object [("name", .string f.name), ("kind", .string f.kind.key),
    ("supported", .bool (supported.supports f)),
    ("default_text", .bool (Field.defaultText.contains f))]

def fields (supported : FieldSet) (form : ReportForm) : String :=
  match form with
  | .text =>
    lines (Field.all.map (fieldLine supported) ++
      ["", "formats: " ++ Text.join ", " (FileType.known.map FileType.name)])
  | .json => json (.array (Field.all.map (fieldRow supported)))

end Report

end TrackSearch
