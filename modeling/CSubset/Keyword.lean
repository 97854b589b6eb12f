/-!
# Reserved words, punctuation and types
-/

namespace CSubset

inductive Keyword where
  | main | int | float | bool | string | print | return
  deriving DecidableEq, Repr

namespace Keyword

def all : List Keyword := [main, int, float, bool, string, print, .return]

def text : Keyword → String
  | main => "main"
  | int => "int"
  | float => "float"
  | bool => "bool"
  | string => "string"
  | print => "print"
  | .return => "return"

def ofText? (text : String) : Option Keyword := all.find? (·.text = text)

def isType : Keyword → Bool
  | int | float | bool | string => true
  | main | print | .return => false

end Keyword

inductive Punctuation where
  | leftBrace | rightBrace | leftParen | rightParen | semicolon | assign
  deriving DecidableEq, Repr

namespace Punctuation

def all : List Punctuation := [leftBrace, rightBrace, leftParen, rightParen, semicolon, assign]

def char : Punctuation → Char
  | leftBrace => '{'
  | rightBrace => '}'
  | leftParen => '('
  | rightParen => ')'
  | semicolon => ';'
  | assign => '='

def ofChar? (c : Char) : Option Punctuation := all.find? (·.char = c)

end Punctuation

inductive DataType where
  | int | float | bool | string
  deriving DecidableEq, Repr

namespace DataType

def all : List DataType := [int, float, bool, string]

def ofKeyword? : Keyword → Option DataType
  | .int => some int
  | .float => some float
  | .bool => some bool
  | .string => some string
  | .main | .print | .return => none

def ofName? (name : String) : Option DataType := (Keyword.ofText? name).bind ofKeyword?

def name : DataType → String
  | int => "int"
  | float => "float"
  | bool => "bool"
  | string => "string"

end DataType

end CSubset
