import CSubset.Keyword

/-!
# The generated text

The parser hands over fragments: the heading of the file, the two ends of an entry function, and the statements
between them. A layout turns the fragments into text.
-/

namespace CSubset

inductive InitialValue where
  | given (text : String)
  | default (type : DataType)
  | unknown
  deriving DecidableEq, Repr

inductive Printed where
  | literal (text : String)
  | named (name : String) (type : DataType)
  | raw (text : String)
  deriving DecidableEq, Repr

inductive Statement where
  | declare (name : String) (value : InitialValue)
  | assign (name value : String)
  | print (argument : Printed)
  deriving DecidableEq, Repr

def DataType.defaultLiteral : DataType → String
  | int => "0"
  | float => "0.0"
  | bool => "False"
  | string => "\"\""

def InitialValue.text : InitialValue → String
  | given text => text
  | default type => type.defaultLiteral
  | unknown => "None"

def Printed.text : Printed → String
  | literal text | raw text => text
  | named name .bool => "\"True\" if " ++ name ++ " else \"False\""
  | named name _ => "str(" ++ name ++ ")"

def Statement.text : Statement → String
  | declare name value => name ++ " = " ++ value.text
  | assign name value => name ++ " = " ++ value
  | print argument => "print(" ++ argument.text ++ ")"

inductive Fragment where
  | header
  | openMain
  | statement (s : Statement)
  | closeMain
  deriving DecidableEq, Repr

structure Layout where
  indentWidth : Nat
  /-- Whether an entry function without statements gets a `pass`. -/
  padEmptyBody : Bool
  deriving DecidableEq, Repr

namespace Layout

def headerComment : String := "# Generated by minic: C subset translated to Python"

def indent (l : Layout) : String := String.ofList (List.replicate l.indentWidth ' ')

def indented (l : Layout) (text : String) : String := l.indent ++ text ++ "\n"

/-- The text of a fragment, where `count` statements came since the last opening. -/
def fragmentText (l : Layout) (count : Nat) : Fragment → String
  | .header => headerComment ++ "\n"
  | .openMain => "\ndef main():\n"
  | .statement s => l.indented s.text
  | .closeMain =>
    (if count = 0 ∧ l.padEmptyBody then l.indented "pass" else "")
      ++ "\nif __name__ == \"__main__\":\n" ++ l.indented "main()"

def countAfter (count : Nat) : Fragment → Nat
  | .openMain => 0
  | .statement _ => count + 1
  | .header | .closeMain => count

def texts (l : Layout) (count : Nat) : List Fragment → List String
  | [] => []
  | f :: fs => l.fragmentText count f :: l.texts (countAfter count f) fs

def renderOnto (l : Layout) (out : String) (count : Nat) : List Fragment → String
  | [] => out
  | f :: fs => l.renderOnto (out ++ l.fragmentText count f) (countAfter count f) fs

def render (l : Layout) (fs : List Fragment) : String := l.renderOnto "" 0 fs

end Layout

end CSubset
