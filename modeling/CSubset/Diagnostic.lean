import CSubset.Code
import CSubset.Excerpt
import CSubset.Json

/-!
# Diagnostics

An error in a program: its cause, the number of tokens read before it was noticed, and the place it is about.
-/

namespace CSubset

inductive Cause where
  | unexpectedToken (expected found : String)
  | unexpectedEnd (expected : String)
  | tokenOutsideMain (lexeme : String)
  | undeclaredAssignment (identifier : String)
  | unknownType (name : String)
  | unrecognizedStatement (statement : String)
  | invalidPrintArgument (argument : String)
  | missingTerminator (found : Option String)
  | tooManyTokens (limit : Nat)
  deriving DecidableEq, Repr

namespace Cause

def code : Cause → String
  | unexpectedToken .. => Code.unexpectedToken
  | unexpectedEnd _ => Code.unexpectedEnd
  | tokenOutsideMain _ => Code.tokenOutsideMain
  | undeclaredAssignment _ => Code.undeclaredAssignment
  | unknownType _ => Code.unknownType
  | unrecognizedStatement _ => Code.unrecognizedStatement
  | invalidPrintArgument _ => Code.invalidPrintArgument
  | missingTerminator _ => Code.missingTerminator
  | tooManyTokens _ => Code.tooManyTokens

def message : Cause → String
  | unexpectedToken expected found => "expected '" ++ expected ++ "', found '" ++ found ++ "'"
  | unexpectedEnd expected => "unexpected end of input: expected '" ++ expected ++ "'"
  | tokenOutsideMain lexeme => "unexpected token '" ++ lexeme ++ "' outside of main function"
  | undeclaredAssignment identifier => "assignment to undeclared variable '" ++ identifier ++ "'"
  | unknownType name => "unknown type '" ++ name ++ "'"
  | unrecognizedStatement statement => "unrecognized statement '" ++ statement ++ "'"
  | invalidPrintArgument argument => "invalid print argument '" ++ argument ++ "'"
  | missingTerminator (some found) => "missing ';', found '" ++ found ++ "'"
  | missingTerminator none => "missing ';' before end of input"
  | tooManyTokens limit => "Too many tokens: limit of " ++ toString limit ++ " reached"

end Cause

structure Diagnostic where
  cause : Cause
  position : Nat
  span : Option Span
  deriving DecidableEq, Repr

namespace Diagnostic

def code (d : Diagnostic) : String := d.cause.code

def message (d : Diagnostic) : String := d.cause.message

def category (d : Diagnostic) : String := Code.category d.code

def description (d : Diagnostic) : String := Code.description d.code

def action (d : Diagnostic) : String := Code.action d.code

def text (d : Diagnostic) : String :=
  let place := match d.span with
    | some span => ", line " ++ span.start.text
    | none => ""
  "error[" ++ d.code ++ "]: " ++ d.message ++ " (token " ++ toString d.position ++ place ++ ")"

def render (source : Option SourceText) (d : Diagnostic) : Except Fault String :=
  match source, d.span with
  | some source, some span => do
    let excerpt ← source.excerpt span d.description
    return d.text ++ "\n" ++ excerpt
  | _, _ => .ok d.text

end Diagnostic

def Position.toJson (p : Position) : Json :=
  .object [("offset", .ofNat p.offset), ("line", .ofNat p.line), ("column", .ofNat p.column)]

def Span.toJson (s : Span) : Json := .object [("start", s.start.toJson), ("end", s.stop.toJson)]

def Diagnostic.toJson (d : Diagnostic) : Json :=
  .object [
    ("code", .string d.code),
    ("category", .string d.category),
    ("message", .string d.message),
    ("position", .ofNat d.position),
    ("span", match d.span with
      | some span => span.toJson
      | none => .null)]

def diagnosticsText (ds : List Diagnostic) : String := (Json.array (ds.map Diagnostic.toJson)).pretty

end CSubset
