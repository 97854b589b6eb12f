import CSubset.Compile
import CSubset.Settings
import CSubset.SourceFile

/-!
# Compiling a file

A run reads a source file, writes the trace if the settings ask for it, and writes the generated text if nothing was
reported.
-/

namespace CSubset

structure Targets where
  output : Option String := none
  trace : Option String := none
  deriving DecidableEq, Repr

namespace Targets

def defaultOutput (input : String) : String := Path.withExtension input "py"

def defaultTrace (input : String) : String := Path.withExtension input "log"

def outputPath (t : Targets) (input : String) : String := t.output.getD (defaultOutput input)

def tracePath (t : Targets) (input : String) : String := t.trace.getD (defaultTrace input)

end Targets

inductive RunError where
  | load (e : LoadError)
  | settings (e : SettingsError)
  | compilation (count : Nat)
  | write (path : String) (failure : FileFailure)
  | fault (f : Fault)
  deriving DecidableEq, Repr

namespace RunError

def message : RunError → String
  | load e => "File processing failed: " ++ e.message
  | settings e => "Configuration error: " ++ e.message
  | compilation count => failureText count
  | write path failure => "Failed to write '" ++ path ++ "': " ++ failure.message
  | fault f => f.message

def code : RunError → String
  | load e => e.code
  | settings _ => Code.configuration
  | compilation _ => Code.compilationFailed
  | write .. => Code.outputWrite
  | fault _ => Code.internalError

end RunError

structure FileCompilation where
  file : SourceFile
  compilation : Compilation
  output : Option String
  trace : Option String

def renderTrace (input trace : String) (time : Instant) : String :=
  "# minic trace for " ++ input ++ "\n# generated " ++ time.text ++ "\n\n" ++ trace

section
variable {m : Type → Type} [Monad m]

def writeArtifact (h : Host m) (r : Reporter) (path text : String) : ExceptT RunError m Unit := do
  match ← h.write path text with
  | .error failure =>
    h.report r ((Event.error Code.outputWrite "Failed to write output").withDetails
      [("path", path), ("io_error", failure.message)])
    throw (.write path failure)
  | .ok () =>
    h.report r ((Event.success Code.outputWritten "Output written").withDetails
      [("path", path), ("bytes", toString text.utf8ByteSize)])

def writeTrace (h : Host m) (r : Reporter) (s : Settings) (t : Targets) (input : String) (c : Compilation) :
    ExceptT RunError m (Option String) := do
  if s.writeTrace then
    let path := t.tracePath input
    writeArtifact h r path (renderTrace input c.trace (← h.now))
    return some path
  else return none

def reportDiagnostics (h : Host m) (r : Reporter) (c : Compilation) : m Unit := do
  c.diagnostics.forM fun d =>
    h.report r ((Event.error d.code d.message).withDetail "position" (toString d.position))
  h.report r ((Event.error Code.compilationFailed "Compilation failed").withDetail "errors"
    (toString c.diagnostics.length))

def writeOutput (h : Host m) (r : Reporter) (t : Targets) (input : String) (c : Compilation) :
    ExceptT RunError m (Option String) := do
  match c.output with
  | some text =>
    let path := t.outputPath input
    writeArtifact h r path text
    return some path
  | none =>
    ExceptT.lift (reportDiagnostics h r c)
    return none

structure TracedFile where
  start : Instant
  file : SourceFile
  compilation : Compilation
  trace : Option String

def traceFile (h : Host m) (r : Reporter) (s : Settings) (t : Targets) (input : String) :
    ExceptT RunError m TracedFile := do
  let start ← h.now
  h.report r ((Event.info "Starting compilation").withDetail "file" input)
  let file ← (SourceFile.load h r false input).adapt RunError.load
  let compilation ← ExceptT.mk (pure ((compile s.layout Limits.current.maxTokenCount file.text).mapError .fault))
  h.report r ((Event.debug "Translation finished").withDetails
    [("tokens", toString compilation.metrics.totalTokens),
      ("diagnostics", toString compilation.diagnostics.length)])
  let trace ← writeTrace h r s t input compilation
  return { start, file, compilation, trace }

def finishFile (h : Host m) (r : Reporter) (t : Targets) (input : String) (f : TracedFile) :
    ExceptT RunError m FileCompilation := do
  let output ← writeOutput h r t input f.compilation
  let stop ← h.now
  if f.compilation.succeeded then
    h.report r ((Event.success Code.compiled "File translated successfully").withDetails
      [("file", input), ("tokens", toString f.compilation.metrics.totalTokens),
        ("symbols", toString f.compilation.symbols.size), ("duration_ms", f.start.elapsed stop)])
  return { file := f.file, compilation := f.compilation, output, trace := f.trace }

/-- Reads, compiles and writes one file. A run whose compilation failed is no failed run. -/
def compileFile (h : Host m) (service : Option LogService) (s : Settings) (t : Targets) (input : String) :
    ExceptT RunError m FileCompilation := do
  let r : Reporter := { service, file := some input }
  let f ← traceFile h r s t input
  finishFile h r t input f

end

end CSubset
