import CSubset.File.Host
import CSubset.Output
import CSubset.Text.Lowercase
import CSubset.Toml.Decode

/-!
# Settings

Settings come from a TOML document or from environment variables. What a document leaves open is taken from the
variables, except for the layout of the generated text, which has its own defaults.
-/

namespace CSubset

abbrev Environment := String → Option String

structure Settings where
  layout : Layout
  log : LogSettings
  writeTrace : Bool
  jsonDiagnostics : Bool
  deriving DecidableEq, Repr

inductive SettingsError where
  | unreadable (path : String) (failure : FileFailure)
  | unusable
  | indentWidth (width : Nat)
  deriving DecidableEq, Repr

def SettingsError.message : SettingsError → String
  | unreadable path failure => "Failed to read configuration file '" ++ path ++ "': " ++ failure.message
  | unusable => "Invalid TOML configuration: " ++ Toml.unusable
  | indentWidth width =>
    "Indent width " ++ toString width ++ " out of range (1..=" ++ toString Limits.current.maxIndentWidth ++ ")"

/-! ## Values of variables -/

def wordThenDigit? (n : Nat) (digit : Char) : Option Nat :=
  let n := 10 * n + (digit.toNat - '0'.toNat)
  if n < 18446744073709551616 then some n else none

/-- Decimal digits, possibly with a plus sign, for a number below `2 ^ 64`. -/
def wordOfText? (text : String) : Option Nat :=
  let digits := match text.toList with
    | '+' :: cs => cs
    | cs => cs
  if digits.isEmpty || !digits.all Char.isDigit then none else digits.foldlM wordThenDigit? 0

def boolOfText? (text : String) : Option Bool :=
  if text = "true" then some true
  else if text = "false" then some false
  else none

def Level.ofText? (text : String) : Option Level :=
  let word := lowercase text
  if word = "warn" then some .warning
  else Level.all.find? fun l => l.name = word || toString l.rank = word

namespace Environment

def indentWidth : String := "MINIC_EMIT_INDENT_WIDTH"

def padEmptyBody : String := "MINIC_EMIT_PAD_EMPTY_BODY"

def logStructured : String := "MINIC_LOGGING_USE_STRUCTURED"

def logConsole : String := "MINIC_LOGGING_ENABLE_CONSOLE"

def logLevel : String := "MINIC_LOGGING_MIN_LEVEL"

def writeTrace : String := "MINIC_WRITE_TRACE"

def jsonDiagnostics : String := "MINIC_JSON_DIAGNOSTICS"

def names : List String :=
  [indentWidth, padEmptyBody, logStructured, logConsole, logLevel, writeTrace, jsonDiagnostics]

def ofList (values : List (String × String)) : Environment := fun name => List.lookup name values

/-- The value of a variable. One that is not set, or cannot be read, leaves the default. -/
def read {α : Type} (env : Environment) (parse : String → Option α) (name : String) (default : α) : α :=
  ((env name).bind parse).getD default

end Environment

/-! ## Layout -/

namespace Layout

def default : Layout := ⟨Limits.current.defaultIndentWidth, false⟩

def check (l : Layout) : Except SettingsError Layout :=
  if 1 ≤ l.indentWidth ∧ l.indentWidth ≤ Limits.current.maxIndentWidth then .ok l
  else .error (.indentWidth l.indentWidth)

def ofEnvironment (env : Environment) : Except SettingsError Layout :=
  check {
    indentWidth := env.read wordOfText? Environment.indentWidth default.indentWidth
    padEmptyBody := env.read boolOfText? Environment.padEmptyBody default.padEmptyBody }

def ofToml? (v : Toml) : Option Layout := do
  let fields ← v.members? ["indent_width", "pad_empty_body"]
  return {
    indentWidth := ← Toml.withDefault Toml.nat? "indent_width" default.indentWidth fields
    padEmptyBody := ← Toml.withDefault Toml.boolean? "pad_empty_body" default.padEmptyBody fields }

end Layout

/-! ## Logging -/

namespace LogSettings

def ofEnvironment (env : Environment) : LogSettings where
  structured := env.read boolOfText? Environment.logStructured false
  console := env.read boolOfText? Environment.logConsole false
  least := env.read Level.ofText? Environment.logLevel .info

def levelOfToml? (v : Toml) : Option Level := v.alternative?.bind Level.ofName?

def ofToml? (defaults : LogSettings) (v : Toml) : Option LogSettings := do
  let fields ← v.members? ["use_structured_logging", "enable_console_logging", "min_log_level"]
  return {
    structured := ← Toml.withDefault Toml.boolean? "use_structured_logging" defaults.structured fields
    console := ← Toml.withDefault Toml.boolean? "enable_console_logging" defaults.console fields
    least := ← Toml.withDefault levelOfToml? "min_log_level" defaults.least fields }

end LogSettings

/-! ## All settings -/

namespace Settings

def withLayout (env : Environment) (layout : Layout) : Settings where
  layout
  log := .ofEnvironment env
  writeTrace := env.read boolOfText? Environment.writeTrace true
  jsonDiagnostics := env.read boolOfText? Environment.jsonDiagnostics false

def ofEnvironment (env : Environment) : Except SettingsError Settings :=
  (Layout.ofEnvironment env).map (withLayout env)

def switchesOfToml? (writeTrace jsonDiagnostics : Bool) (v : Toml) : Option (Bool × Bool) := do
  let fields ← v.members? ["write_trace_file", "json_diagnostics"]
  return (← Toml.withDefault Toml.boolean? "write_trace_file" writeTrace fields,
    ← Toml.withDefault Toml.boolean? "json_diagnostics" jsonDiagnostics fields)

def ofFields? (env : Environment) (fields : List (String × Toml)) : Option Settings := do
  let defaults := withLayout env .default
  let (writeTrace, jsonDiagnostics) ← Toml.withDefault
    (switchesOfToml? defaults.writeTrace defaults.jsonDiagnostics) "driver"
    (defaults.writeTrace, defaults.jsonDiagnostics) fields
  return {
    layout := ← Toml.withDefault Layout.ofToml? "emitter" defaults.layout fields
    log := ← Toml.withDefault (LogSettings.ofToml? defaults.log) "logging" defaults.log fields
    writeTrace
    jsonDiagnostics }

def ofText (env : Environment) (text : String) : Except SettingsError Settings :=
  match (Toml.parse? text).bind (ofFields? env) with
  | none => .error .unusable
  | some s => (s.layout.check).map fun _ => s

def load {m : Type → Type} [Monad m] (h : Host m) (env : Environment) (path : String) :
    m (Except SettingsError Settings) := do
  match ← h.readText path with
  | .error failure => return .error (.unreadable path failure)
  | .ok text => return ofText env text

end Settings

end CSubset
