import PredictiveScaling.Config.Startup

/-!
# The command line

Reads the configuration and writes to the journal what is going to be managed.
-/
namespace PredictiveScaling.Command

def version : String := "0.1.0"

def usage : String := "usage: forecast-autoscaler [--config FILE]"

/-- What the arguments ask for; none where they make no sense. -/
def fileOfArguments? : List String → Option (Option String)
  | [] => some none
  | ["-c", file] | ["--config", file] => some (some file)
  | _ => none

/-- A variable of the environment. -/
def binding? (entry : String) : Option (String × String) :=
  let cs := entry.toList
  match cs.dropWhile (· ≠ '=') with
  | _ :: value => some (String.ofList (cs.takeWhile (· ≠ '=')), String.ofList value)
  | [] => none

/-- A record as one line. -/
def lineOf (r : Journal.Record) : String :=
  (Json.Document.object (("level", .string r.severity.name) ::
    ("message", .string r.message) :: r.fields)).render

/-- The variables of the environment; none where the system does not show them. -/
def environment : IO (List (String × String)) := do
  let bytes ← try IO.FS.readBinFile "/proc/self/environ" catch _ => pure ByteArray.empty
  let text := (String.fromUTF8? bytes).getD ""
  pure ((text.splitOn "\x00").filterMap binding?)

def readSettings (file : String) : IO Config.SettingsFile := do
  let text ← try (some <$> IO.FS.readFile file) catch _ => pure none
  pure ⟨file, text⟩

def fail (message : String) : IO UInt32 := do
  IO.eprintln ("Error: " ++ message)
  pure 1

/-- Start all workloads in their order. -/
def startAll (instanceName : String) : List Config.WorkloadConfig → IO UInt32
  | [] => pure 0
  | w :: ws =>
    match w.start instanceName with
    | .error e => fail ("failed to start workload " ++ w.workload.text ++ ": " ++ e.message)
    | .ok (record, _) => do
      IO.println (lineOf record)
      startAll instanceName ws

def run (asked : Option String) : IO UInt32 := do
  let bindings ← environment
  let file ← (asked <|> bindings.lookup "AUTOSCALER_CONFIG").mapM readSettings
  match Config.load file bindings with
  | .error e => fail e.message
  | .ok c =>
    IO.println (lineOf (Journal.started c.instanceName version c.workloads.length))
    startAll c.instanceName c.workloads

end PredictiveScaling.Command

def main (args : List String) : IO UInt32 :=
  match PredictiveScaling.Command.fileOfArguments? args with
  | some asked => PredictiveScaling.Command.run asked
  | none => do
    IO.eprintln PredictiveScaling.Command.usage
    pure 2
