import PredictiveScaling.Config.Path

/-!
# Settings from the environment

Variables whose name starts with a certain mark, in any letter case, are settings. A
double underscore in the rest of the name leads into a table. The text of a variable is a
truth value, a number or else a text.
-/
namespace PredictiveScaling.Config.Environment

def mark : String := "autoscaler_"

/-- Double underscores become points. -/
def pointLevels : List Char → List Char
  | '_' :: '_' :: cs => '.' :: pointLevels cs
  | c :: cs => c :: pointLevels cs
  | [] => []

/-- The key of the setting that a variable is, if it is one. -/
def key? (name : String) : Option String :=
  let cs := (Text.lower name).toList
  if mark.toList.isPrefixOf cs then
    some (String.ofList (pointLevels (cs.drop mark.length)))
  else none

/-- The value of the text of a variable. -/
def valueOf (s : String) : Value :=
  match Text.lower s with
  | "true" => .bool true
  | "false" => .bool false
  | _ =>
    match Decimal.readInt? Value.minInt Value.maxInt s, Decimal.readFloat? s with
    | some i, _ => .int i
    | none, some x => .float x
    | none, none => .string s

/-- The settings among variables. -/
def settings (bindings : List (String × String)) : List (String × Value) :=
  bindings.filterMap fun (name, s) => (key? name).map fun k => (k, valueOf s)

end PredictiveScaling.Config.Environment
