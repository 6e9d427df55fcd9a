import Metrology.Number.Binary64
import Metrology.Service

/-!
# Command line

The service on standard input and output.  Settings come from the environment:
`QUANTA_CONFIG` names a settings file, `QUANTA_DEFINITIONS` a definition
document, and `QUANTA_DIAGNOSTICS` switches diagnostics.
-/

open Metrology

/-- Read a file, or find out why it cannot be read. -/
def readSource (path : String) : IO SourceFile := do
  try
    let text ← IO.FS.readFile path
    return ⟨path, .ok text⟩
  catch
    | .noFileOrDirectory _ _ _ =>
        return ⟨path, .error "No such file or directory (os error 2)"⟩
    | failure => return ⟨path, .error failure.toString⟩

/-- The registry that the environment asks for. -/
def loadRegistry : IO (Except Error (Registry Float)) := do
  let file ← (← IO.getEnv "QUANTA_CONFIG").mapM readSource
  let definitions ← IO.getEnv "QUANTA_DEFINITIONS"
  let diagnostics ← IO.getEnv "QUANTA_DIAGNOSTICS"
  match Settings.ofEnvironment file definitions diagnostics with
  | .error failure => return .error failure
  | .ok settings => do
      let document ← settings.definitionsPath.mapM readSource
      return Registry.ofSettings settings document

/-- The next line; no line at the end of the input or where it cannot be read. -/
def nextLine (input : IO.FS.Stream) : IO (Option String) := do
  try
    let line ← input.getLine
    return if line.isEmpty then none else some line
  catch _ => return none

/-- Write an answer, and tell whether that worked. -/
def emit (output : IO.FS.Stream) (answer : Json) : IO Bool := do
  try
    output.putStrLn answer.text
    output.flush
    return true
  catch _ => return false

/-- Answer line after line until the input ends or the output is closed. -/
partial def serve (input output : IO.FS.Stream) (registry : Registry Float) :
    IO UInt32 := do
  match ← nextLine input with
  | none => return 0
  | some line => do
      let (answer, next) := Service.answer? Formula.FunctionTable.standard line registry
      match answer with
      | none => serve input output next
      | some answer =>
          if ← emit output answer then serve input output next else return 0

def main : IO UInt32 := do
  match ← loadRegistry with
  | .error failure => do
      IO.eprintln failure.message
      return 1
  | .ok registry => serve (← IO.getStdin) (← IO.getStdout) registry
