import CSubset.Text.Quoted

/-!
# JSON values and how they are written

Objects keep their fields in order, and may have a field twice. Numbers keep their digits as they were written.
A value that is well formed, but has a string in it that is no Unicode text, is `unreadable`: it can be passed over
and never be used.
-/

namespace CSubset

inductive Json where
  | null
  | bool (b : Bool)
  | number (digits : String)
  | string (text : String)
  | array (items : List Json)
  | object (fields : List (String × Json))
  | unreadable

namespace Json

def ofNat (n : Nat) : Json := number (toString n)

def escapeChar (c : Char) : String :=
  if c = '"' then "\\\""
  else if c = '\\' then "\\\\"
  else if c = '\x08' then "\\b"
  else if c = '\x0c' then "\\f"
  else if c = '\n' then "\\n"
  else if c = '\r' then "\\r"
  else if c = '\t' then "\\t"
  else if c.toNat < 0x20 then (if c.toNat < 0x10 then "\\u000" else "\\u00") ++ hexText c.toNat
  else c.toString

def putText (out text : String) : String :=
  text.toList.foldl (fun out c => out ++ escapeChar c) (out ++ "\"") ++ "\""

mutual

def putCompact (out : String) : Json → String
  | null | unreadable => out ++ "null"
  | bool b => out ++ (if b then "true" else "false")
  | number digits => out ++ digits
  | string text => putText out text
  | array items => putCompactItems (out ++ "[") "" items ++ "]"
  | object fields => putCompactFields (out ++ "\x7b") "" fields ++ "\x7d"

/-- `lead` comes before the first item and a comma before the others. -/
def putCompactItems (out lead : String) : List Json → String
  | [] => out
  | item :: items => putCompactItems (putCompact (out ++ lead) item) "," items

def putCompactFields (out lead : String) : List (String × Json) → String
  | [] => out
  | (name, value) :: fields =>
    putCompactFields (putCompact (putText (out ++ lead) name ++ ":") value) "," fields

end

def compact (j : Json) : String := j.putCompact ""

mutual

def putPretty (out margin : String) : Json → String
  | null | unreadable => out ++ "null"
  | bool b => out ++ (if b then "true" else "false")
  | number digits => out ++ digits
  | string text => putText out text
  | array [] => out ++ "[]"
  | array items => putPrettyItems (out ++ "[") "\n" (margin ++ "  ") items ++ "\n" ++ margin ++ "]"
  | object [] => out ++ "\x7b\x7d"
  | object fields => putPrettyFields (out ++ "\x7b") "\n" (margin ++ "  ") fields ++ "\n" ++ margin ++ "\x7d"

def putPrettyItems (out lead margin : String) : List Json → String
  | [] => out
  | item :: items => putPrettyItems (putPretty (out ++ lead ++ margin) margin item) ",\n" margin items

def putPrettyFields (out lead margin : String) : List (String × Json) → String
  | [] => out
  | (name, value) :: fields =>
    putPrettyFields (putPretty (putText (out ++ lead ++ margin) name ++ ": ") margin value) ",\n" margin fields

end

def pretty (j : Json) : String := j.putPretty "" ""

/-- The value of the one field with this name. A missing field and a repeated one give none. -/
def field? (name : String) (fields : List (String × Json)) : Option Json :=
  match fields.filter (·.1 = name) with
  | [(_, value)] => some value
  | _ => none

def text? : Json → Option String
  | string text => some text
  | _ => none

end Json

end CSubset
