import CSubset.Arguments
import CSubset.Run

/-!
# The command line program
-/

namespace CSubset

inductive ExitStatus where
  | success | failure
  deriving DecidableEq, Repr

def ExitStatus.code : ExitStatus → UInt32
  | success => 0
  | failure => 1

namespace Session

def version : String := "0.1.0"

def synopsis (program : String) : String :=
  program ++ " <input> [-o <output>] [--trace <log>] [--json] [--config <file.toml>]"

def helpLines (program : String) : List String :=
  ["minic v" ++ version,
    "Translates a small C subset into Python",
    "",
    "USAGE:",
    "    " ++ synopsis program,
    "",
    "OPTIONS:",
    "    -o, --output <file>    Generated Python (default: <input>.py)",
    "    --trace <file>         Trace log (default: <input>.log)",
    "    --json                 Print diagnostics as JSON",
    "    --config <file.toml>   Load runtime preferences from TOML",
    "    -h, --help             Show this help message",
    "",
    "EXIT STATUS:",
    "    0 on success, 1 on usage error, unreadable input or any diagnostic",
    "",
    "Limits: " ++ Limits.sourceInfo]

def errorLine (code message : String) : String := "error[" ++ code ++ "]: " ++ message

section
variable {m : Type → Type} [Monad m]

def fail (h : Host m) (code message : String) : m ExitStatus := do
  h.print .err (errorLine code message)
  return .failure

def diagnosticLines (source : String) (diagnostics : List Diagnostic) : Except Fault (List String) :=
  let text := SourceText.ofString source
  diagnostics.mapM fun d => d.render (some text)

def reportFailure (h : Host m) (json : Bool) (c : FileCompilation) : m ExitStatus := do
  let diagnostics := c.compilation.diagnostics
  if json then
    h.print .out (diagnosticsText diagnostics)
    return .failure
  else
    h.print .err (failureText diagnostics.length)
    match diagnosticLines c.file.text diagnostics with
    | .error f => fail h Code.internalError f.message
    | .ok lines =>
      lines.forM (h.print .err)
      if let some path := c.trace then h.print .err ("Trace written to " ++ path)
      return .failure

def startLog (h : Host m) (service : LogService) : m Unit :=
  h.report { service := some service } (Event.success Code.started "Global logging system initialized")

def targets (o : Options) : Targets := { output := o.output, trace := o.trace }

def conclude (h : Host m) (o : Options) (s : Settings) : Except RunError FileCompilation → m ExitStatus
  | .error e => fail h e.code e.message
  | .ok c => do
    if c.compilation.succeeded then
      h.print .out ("Compiled " ++ o.input ++ " -> " ++ c.output.getD "")
      return .success
    else reportFailure h s.jsonDiagnostics c

def compileInput (h : Host m) (o : Options) (s : Settings) : m ExitStatus := do
  let service := LogService.ofSettings s.log
  startLog h service
  conclude h o s (← (compileFile h (some service) s (targets o) o.input).run)

def loadSettings (h : Host m) (env : Environment) (o : Options) : m (Except SettingsError Settings) := do
  let loaded ← match o.config with
    | some path => Settings.load h env path
    | none => pure (Settings.ofEnvironment env)
  return loaded.map fun s => { s with jsonDiagnostics := o.json || s.jsonDiagnostics }

def run (h : Host m) (env : Environment) (program : String) (args : List String) : m ExitStatus := do
  match Options.ofArguments args with
  | .error e =>
    h.print .err (errorLine Code.usage e.message)
    h.print .err ("Usage: " ++ synopsis program)
    return .failure
  | .ok o =>
    if o.help then
      (helpLines program).forM (h.print .out)
      return .success
    else
      match ← loadSettings h env o with
      | .error e => fail h Code.configuration e.message
      | .ok s => compileInput h o s

end

end Session

end CSubset
