import ClassLayout.Json.Parser
import ClassLayout.Json.Printer
import ClassLayout.Tree

namespace ClassLayout

structure Config where
  outputDir : Location
  settings : Settings := {}
  deriving DecidableEq

def Tree.config (t : Tree) : Config := { outputDir := t.outputDir, settings := t.settings }

namespace CaseSensitivity

def name : CaseSensitivity → Text
  | unknown => "unknown".toList
  | sensitive => "sensitive".toList
  | insensitive => "insensitive".toList

def ofName? (t : Text) : Option CaseSensitivity :=
  [unknown, sensitive, insensitive].find? (·.name = t)

/-- By its name, or as an object in which the name stands before `null`. -/
def ofJson? : Json.Value → Option CaseSensitivity
  | .string (some t) => ofName? t
  | .object [(some t, .null)] => ofName? t
  | _ => none

end CaseSensitivity

namespace Config

def fieldNames : List Text :=
  ["output_dir".toList, "file_extension".toList, "max_component_bytes".toList,
    "case_sensitivity".toList, "escape_reserved_names".toList]

def toRecord? (c : Config) : Option Json.Record :=
  match c.outputDir with
  | .bytes .. => none
  | .text dir =>
      some (fieldNames.zip [.text dir, .text c.settings.fileExtension,
        .count c.settings.maxComponentBytes, .text c.settings.caseSensitivity.name,
        match c.settings.escapeReservedNames with
        | none => .null
        | some b => .bool b])

def fieldOr {α : Type} (default : α) (read : Json.Value → Option α) :
    Option Json.Value → Option α
  | none => some default
  | some v => read v

/-- Only the output directory is required. Escaping alone may be `null`. -/
def ofJson? (v : Json.Value) : Option Config := do
  match ← v.fields? fieldNames with
  | [some dir, extension, maxBytes, case, escape] =>
      let standard : Settings := {}
      return {
        outputDir := .text (← dir.text?)
        settings := {
          fileExtension := ← fieldOr standard.fileExtension Json.Value.text? extension
          maxComponentBytes := ← fieldOr standard.maxComponentBytes Json.Value.count? maxBytes
          caseSensitivity := ← fieldOr standard.caseSensitivity CaseSensitivity.ofJson? case
          escapeReservedNames := ←
            fieldOr standard.escapeReservedNames (Json.Value.optional? Json.Value.bool?) escape } }
  | _ => none

def print? (c : Config) : Option Text := c.toRecord?.map Json.Record.pretty

def parse? (t : Text) : Option Config := (Json.parse t).bind ofJson?

end Config

namespace Stats

def fieldNames : List Text :=
  ["packages".toList, "classes".toList, "virtual_groups".toList, "disambiguated".toList]

def toRecord (s : Stats) : Json.Record :=
  fieldNames.zip [.count s.packages, .count s.classes, .count s.virtualGroups,
    .count s.disambiguated]

def ofJson? (v : Json.Value) : Option Stats := do
  match ← v.fields? fieldNames with
  | [some packages, some classes, some groups, some disambiguated] =>
      return {
        packages := ← packages.count?
        classes := ← classes.count?
        virtualGroups := ← groups.count?
        disambiguated := ← disambiguated.count? }
  | _ => none

def print (s : Stats) : Text := s.toRecord.compact

def parse? (t : Text) : Option Stats := (Json.parse t).bind ofJson?

end Stats

end ClassLayout
