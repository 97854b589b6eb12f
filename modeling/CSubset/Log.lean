import Std.Data.TreeMap.Basic
import CSubset.Code
import CSubset.Json
import CSubset.Limits
import CSubset.Span

/-!
# Log events

An event has a level, a code, a message of bounded size, and details by name. It can be written on one line, in
detail, or as JSON.
-/

namespace CSubset

/-- The last place between two characters with at most `offset` bytes before it, looked for a byte at a time. -/
def boundaryBefore (text : String) : (offset : Nat) → text.Pos
  | 0 => text.startPos
  | offset + 1 =>
    match text.pos? ⟨offset + 1⟩ with
    | some p => p
    | none => boundaryBefore text offset

def clamp (limit : Nat) (text : String) : String :=
  if text.utf8ByteSize ≤ limit then text else (text.sliceTo (boundaryBefore text limit)).copy ++ "..."

inductive Level where
  | error | warning | info | debug
  deriving DecidableEq, Repr

namespace Level

def rank : Level → Nat
  | error => 0
  | warning => 1
  | info => 2
  | debug => 3

/-- Whether events of level `l` pass when `least` is the least important level that does. -/
def passes (least l : Level) : Bool := decide (l.rank ≤ least.rank)

def label : Level → String
  | error => "ERROR"
  | warning => "WARN"
  | info => "INFO"
  | debug => "DEBUG"

def name : Level → String
  | error => "error"
  | warning => "warning"
  | info => "info"
  | debug => "debug"

def all : List Level := [error, warning, info, debug]

def ofName? (name : String) : Option Level := all.find? (·.name = name)

end Level

structure Event where
  level : Level
  code : String
  message : String
  /-- Seconds since the start of 1970. -/
  time : Int
  span : Option Span
  context : Std.TreeMap String String

namespace Event

def ofMessage (level : Level) (code message : String) : Event where
  level
  code
  message := clamp Limits.current.maxLogMessageLength message
  time := 0
  span := none
  context := ∅

def error (code message : String) : Event := ofMessage .error code message

def warning (message : String) : Event := ofMessage .warning "W000" message

def info (message : String) : Event := ofMessage .info "I000" message

def success (code message : String) : Event := ofMessage .info code message

def debug (message : String) : Event := ofMessage .debug "D000" message

def withDetail (e : Event) (name value : String) : Event := { e with context := e.context.insert name value }

def withDetails (e : Event) (details : List (String × String)) : Event :=
  details.foldl (fun e (name, value) => e.withDetail name value) e

def inFile (e : Event) (file : Option String) : Event :=
  match file with
  | some path => e.withDetail "file" path
  | none => e

def severity (e : Event) : String := (Code.severity e.code).name

def text (e : Event) : String :=
  let place := match e.span with
    | some span => " at " ++ span.start.text
    | none => ""
  "[" ++ e.level.label ++ "] " ++ e.code ++ " - " ++ e.message ++ place

def detailedText (e : Event) : String :=
  let description := Code.description e.code
  let action := Code.action e.code
  let about := e.text ++ "\n  Category: " ++ Code.category e.code ++ "\n  Severity: " ++ e.severity
    ++ (if description = Code.unknownDescription then "" else "\n  Description: " ++ description)
    ++ (if action = Code.unknownAction then "" else "\n  Recommended action: " ++ action)
  if e.context.isEmpty then about
  else e.context.toList.foldl (fun out (name, value) => out ++ "\n    " ++ name ++ ": " ++ value)
    (about ++ "\n  Context:")

def spanJson (s : Span) : Json :=
  .object [("end_column", .ofNat s.stop.column), ("end_line", .ofNat s.stop.line),
    ("start_column", .ofNat s.start.column), ("start_line", .ofNat s.start.line)]

/-- Fields by increasing name. A time before 1970 counts as its start. -/
def toJson (e : Event) : Json :=
  let context := e.context.toList.map fun (name, value) => (name, Json.string value)
  let aboutError := Json.object [("description", .string (Code.description e.code)),
    ("recommended_action", .string (Code.action e.code))]
  .object <|
    [("category", Json.string (Code.category e.code)), ("code", .string e.code)]
      ++ (if context.isEmpty then [] else [("context", .object context)])
      ++ (if e.level = .error then [("error_metadata", aboutError)] else [])
      ++ [("level", .string e.level.label), ("message", .string e.message), ("severity", .string e.severity)]
      ++ (match e.span with
        | some span => [("span", spanJson span)]
        | none => [])
      ++ [("timestamp", .ofNat e.time.toNat)]

end Event

end CSubset
