/-!
# Command line arguments
-/

namespace CSubset

structure Options where
  input : String := ""
  output : Option String := none
  trace : Option String := none
  config : Option String := none
  json : Bool := false
  help : Bool := false
  deriving DecidableEq, Repr

inductive UsageError where
  | unknownOption (flag : String)
  | extraArgument (path : String)
  | missingInput
  | missingValue (flag : String)
  deriving DecidableEq, Repr

def UsageError.message : UsageError → String
  | unknownOption flag => "Unknown option '" ++ flag ++ "'"
  | extraArgument path => "Unexpected extra argument '" ++ path ++ "'"
  | missingInput => "Missing input file"
  | missingValue flag => flag ++ " requires a value"

inductive ArgumentKind where
  | help
  | output
  | trace
  | config
  | json
  | unknown
  | positional
  deriving DecidableEq, Repr

def ArgumentKind.of (arg : String) : ArgumentKind :=
  if arg = "--help" ∨ arg = "-h" then help
  else if arg = "-o" ∨ arg = "--output" then output
  else if arg = "--trace" then trace
  else if arg = "--config" then config
  else if arg = "--json" then json
  else if arg.toList.head? = some '-' then unknown
  else positional

namespace Options

/-- Reads arguments from left to right. `input` is the input file named so far. Help ends the reading at once. -/
def read (o : Options) (input : Option String) : List String → Except UsageError Options
  | [] =>
    match input with
    | some path => .ok { o with input := path }
    | none => .error .missingInput
  | arg :: args =>
    match ArgumentKind.of arg, args with
    | .help, _ => .ok { o with help := true }
    | .output, value :: args => read { o with output := some value } input args
    | .trace, value :: args => read { o with trace := some value } input args
    | .config, value :: args => read { o with config := some value } input args
    | .output, [] | .trace, [] | .config, [] => .error (.missingValue arg)
    | .json, args => read { o with json := true } input args
    | .unknown, _ => .error (.unknownOption arg)
    | .positional, args => if input.isSome then .error (.extraArgument arg) else read o (some arg) args

def ofArguments (args : List String) : Except UsageError Options := read {} none args

end Options

end CSubset
