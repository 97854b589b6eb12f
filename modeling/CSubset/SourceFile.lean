import CSubset.File.Host
import CSubset.Path
import CSubset.Text.Lowercase

/-!
# Source files

A source file is a regular file of bounded size that holds text.
-/

namespace CSubset

inductive LoadError where
  | notFound (path : String)
  | tooLarge (size limit : Nat)
  | permissionDenied (path : String)
  | invalidEncoding (path : String)
  | unreadable (message : String)
  | invalidPath (path : String)
  deriving DecidableEq, Repr

namespace LoadError

def message : LoadError → String
  | notFound path => "File not found: " ++ path
  | tooLarge size limit => "File too large: " ++ toString size ++ " bytes (max: " ++ toString limit ++ ")"
  | permissionDenied path => "Permission denied: " ++ path
  | invalidEncoding path => "Invalid UTF-8 encoding in file: " ++ path
  | unreadable message => "I/O error reading file: " ++ message
  | invalidPath path => "Invalid file path: " ++ path

def code : LoadError → String
  | notFound _ => Code.fileNotFound
  | tooLarge .. => Code.fileTooLarge
  | permissionDenied _ => Code.permissionDenied
  | invalidEncoding _ => Code.invalidEncoding
  | unreadable _ => Code.ioFailure
  | invalidPath _ => Code.invalidPath

def ofFailure (path : String) : FileFailure → LoadError
  | .notFound => notFound path
  | .permissionDenied => permissionDenied path
  | .invalidText => invalidEncoding path
  | failure => unreadable ("'" ++ path ++ "': " ++ failure.message)

end LoadError

structure SourceFile where
  path : String
  text : String
  /-- In bytes. -/
  size : Nat
  deriving DecidableEq, Repr

namespace SourceFile

def extension? (f : SourceFile) : Option String := (Path.extension? f.path).map lowercase

/-- Counts lines where they end: at each newline, and at the end of the text if a line has `begun` by then. -/
def countLines : (begun : Bool) → (count : Nat) → List Char → Nat
  | begun, count, [] => if begun then count + 1 else count
  | _, count, c :: cs => if c = '\n' then countLines false (count + 1) cs else countLines true count cs

def lineCount (f : SourceFile) : Nat := countLines false 0 f.text.toList

section
variable {m : Type → Type} [Monad m]

def refuse {α : Type} (h : Host m) (r : Reporter) (e : LoadError) (message : String)
    (details : List (String × String)) : ExceptT LoadError m α := do
  h.report r ((Event.error e.code message).withDetails details)
  throw e

def inspect (h : Host m) (r : Reporter) (path : String) : ExceptT LoadError m Nat := do
  if path.isEmpty then
    refuse h r (.invalidPath "") "Empty file path provided" []
  else
    match ← h.stat path with
    | .error _ => refuse h r (.notFound path) "File not found" [("path", path)]
    | .ok info =>
      if !info.isRegular then refuse h r (.invalidPath path) "Path is not a file" [("path", path)]
      else
        let limit := Limits.current.maxFileSize
        if limit < info.size then
          refuse h r (.tooLarge info.size limit) "File exceeds compile-time maximum size limit"
            [("file", path), ("size_bytes", toString info.size), ("limit_bytes", toString limit)]
        else return info.size

/-- Reads a source file. A quiet reading does not report its success. -/
def load (h : Host m) (r : Reporter) (quiet : Bool) (path : String) : ExceptT LoadError m SourceFile := do
  let start ← h.now
  h.report r ((Event.debug "Starting file processing").withDetail "file" path)
  let size ← inspect h r path
  match ← h.readText path with
  | .error failure =>
    refuse h r (.ofFailure path failure) "Failed to read file" [("file", path), ("io_error", failure.message)]
  | .ok text =>
    let file : SourceFile := { path, text, size }
    let stop ← h.now
    if !quiet then
      h.report r ((Event.success Code.fileProcessed "File processed successfully").withDetails
        [("file", path), ("size", sizeText size), ("lines", toString file.lineCount),
          ("chars", toString text.length), ("duration_ms", start.elapsed stop)])
    return file

end

end SourceFile

end CSubset
