import CSubset.Keyword
import CSubset.Span
import CSubset.Text.Characters

/-!
# Tokens

A token is a lexeme with its index, its span and its class. The class follows from the lexeme, but a token list
built by hand may say otherwise. So tokens can be told apart by the class that they carry, or by their text alone
(`Criteria`).
-/

namespace CSubset

inductive TokenClass where
  | keyword (keyword : Keyword)
  | stringLiteral
  | word
  | punctuation (mark : Punctuation)
  | symbol
  deriving DecidableEq, Repr

/-- A quote at both ends, which are not the same character. -/
def isQuotedText (text : String) : Bool :=
  let cs := text.toList
  decide (2 ≤ cs.length) && cs.head? == some '"' && cs.getLast? == some '"'

def isWordText (text : String) : Bool :=
  let cs := text.toList
  !cs.isEmpty && cs.all isWordChar

def punctuationOf? (text : String) : Option Punctuation :=
  match text.toList with
  | [c] => Punctuation.ofChar? c
  | _ => none

namespace TokenClass

def ofText (text : String) : TokenClass :=
  match Keyword.ofText? text with
  | some k => keyword k
  | none =>
    if isQuotedText text then stringLiteral
    else match punctuationOf? text with
      | some p => punctuation p
      | none => if isWordText text then word else symbol

def name : TokenClass → String
  | keyword _ => "keyword"
  | stringLiteral => "string literal"
  | word => "word"
  | punctuation _ => "punctuation"
  | symbol => "symbol"

def keyword? : TokenClass → Option Keyword
  | keyword k => some k
  | _ => none

end TokenClass

structure Token where
  lexeme : String
  index : Nat
  span : Span
  kind : TokenClass
  deriving DecidableEq, Repr

namespace Token

def ofLexeme (lexeme : String) (index : Nat) (span : Span) : Token :=
  ⟨lexeme, index, span, TokenClass.ofText lexeme⟩

def hasText (t : Token) (text : String) : Bool := t.lexeme == text

def isKeyword (k : Keyword) (t : Token) : Bool := t.kind == .keyword k

def isTypeName (t : Token) : Bool := t.kind.keyword?.any Keyword.isType

def isStringLiteral (t : Token) : Bool := t.kind == .stringLiteral

def isWordlike (t : Token) : Bool :=
  match t.kind with
  | .word | .keyword _ => true
  | _ => false

def joinLexemes (ts : List Token) : String := " ".intercalate (ts.map lexeme)

end Token

structure Criteria where
  isKeyword : Keyword → Token → Bool
  isTypeName : Token → Bool
  isStringLiteral : Token → Bool
  isWordlike : Token → Bool

namespace Criteria

def byClass : Criteria where
  isKeyword := Token.isKeyword
  isTypeName := Token.isTypeName
  isStringLiteral := Token.isStringLiteral
  isWordlike := Token.isWordlike

def byText : Criteria where
  isKeyword k t := t.hasText k.text
  isTypeName t := (DataType.ofName? t.lexeme).isSome
  isStringLiteral t := isQuotedText t.lexeme
  isWordlike t := isWordText t.lexeme

end Criteria

end CSubset
