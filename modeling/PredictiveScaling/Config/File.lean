import PredictiveScaling.Config.Value
import PredictiveScaling.Json.Reader
import PredictiveScaling.Text.Split

/-!
# Files of settings

The ending of a file's name says how its text is read. Settings are written in JSON, and a
JSON text says the same in the formats that extend it. Endings are in lower case. A mark of
byte order before the text does not belong to it.
-/
namespace PredictiveScaling.Config

/-- A file that was asked for: its name, and its text if it could be read. -/
structure SettingsFile where
  name : String
  text : Option String
deriving DecidableEq, Repr

namespace SettingsFile

/-- Endings of JSON and of the formats that extend it. -/
def endings : List String := ["json", "json5", "ron", "yaml", "yml"]

/-- What stands behind the last point of a name, unless the name begins there. -/
def ending? (f : SettingsFile) : Option String :=
  let name := match Text.splitLast? '/' f.name with
    | some (_, name) => name
    | none => f.name
  match Text.splitLast? '.' name with
  | some (stem, ending) => if stem.isEmpty then none else some ending
  | none => none

/-- A text without a mark of byte order in front. -/
def withoutMark (s : String) : String :=
  match s.toList with
  | '\ufeff' :: cs => String.ofList cs
  | _ => s

/-- The settings in a file: one JSON object. -/
def settings? (f : SettingsFile) : Option (List (String × Value)) := do
  let ending ← f.ending?
  let text ← f.text
  if endings.contains ending then
    match (Json.ofText? (withoutMark text)).bind (Json.Document.ofJson? Json.maxNesting) with
    | some (.object members) => some (Value.ofMembers members)
    | _ => none
  else none

end SettingsFile

end PredictiveScaling.Config
