import Metrology.Error
import Metrology.Json.Decoder
import Metrology.Text.Blank

/-!
# Settings

What can be chosen about the engine: the definition document, whether unseen
dimensions are registered, the bound on conversions, and diagnostics.  Settings
come from JSON text and are overridden by the environment.
-/

namespace Metrology

structure Settings where
  /-- The document to load in place of the built-in definitions. -/
  definitionsPath : Option String := none
  /-- Whether quantities are derived for dimensions that have none. -/
  growth : Bool := true
  /-- The greatest number of steps in one conversion. -/
  stepLimit : Nat := 10000
  diagnostics : Bool := false
  deriving DecidableEq, Repr

/-- A file that was asked for: its path, and its text or the reason why it
could not be read. -/
structure SourceFile where
  path : String
  contents : Except String String

namespace SourceFile

/-- The text of a file, or the statement that it cannot be read. -/
def text (file : SourceFile) : Except String String :=
  file.contents.mapError fun reason => s!"cannot read '{file.path}': {reason}"

end SourceFile

namespace Settings

/-- Any field may be left out and keeps its initial value. -/
def read : Json.Decoder Settings := fun value => do
  let initial : Settings := {}
  let record ← Json.record
    ["definitions_path", "jit_registration", "max_conversion_steps", "diagnostics"] value
  let definitionsPath ← record.withDefault "definitions_path"
    (Json.Decoder.optional Json.Decoder.string) initial.definitionsPath
  let growth ← record.withDefault "jit_registration" Json.Decoder.bool initial.growth
  let stepLimit ←
    record.withDefault "max_conversion_steps" Json.Decoder.nat initial.stepLimit
  let diagnostics ←
    record.withDefault "diagnostics" Json.Decoder.bool initial.diagnostics
  .ok { definitionsPath, growth, stepLimit, diagnostics }

/-- The settings in a text.  At least one conversion step has to be allowed. -/
def ofText (text : String) : Except Error Settings :=
  match Json.decodeText read text with
  | .error fault => .error (.settings s!"invalid config JSON: {fault.message}")
  | .ok settings =>
      if settings.stepLimit = 0 then
        .error (.settings "max_conversion_steps must be at least 1")
      else .ok settings

/-- The settings in a file. -/
def ofFile (file : SourceFile) : Except Error Settings :=
  match file.text with
  | .error reason => .error (.settings reason)
  | .ok text => ofText text

/-- Read a switch in any case and among blanks; no text is off. -/
def readSwitch (text : String) : Except Error Bool :=
  let word := String.ofList ((Text.trim text.toList).map Char.toLower)
  if ["1", "true", "yes", "on"].contains word then .ok true
  else if ["0", "false", "no", "off", ""].contains word then .ok false
  else .error (.settings s!"invalid boolean flag: {word}")

/-- Settings from a file, if one is named, with the document and the diagnostics
of the environment in place of its own. -/
def ofEnvironment (file : Option SourceFile) (definitionsPath : Option String)
    (diagnostics : Option String) : Except Error Settings := do
  let initial ← match file with
    | some file => ofFile file
    | none => .ok {}
  let settings := { initial with
    definitionsPath := definitionsPath.orElse fun _ => initial.definitionsPath }
  match diagnostics with
  | none => .ok settings
  | some switch => do
      let on ← readSwitch switch
      .ok { settings with diagnostics := on }

end Settings

end Metrology
