/-!
# Failures of file operations
-/

namespace CSubset

inductive FileFailure where
  | notFound
  | permissionDenied
  | notDirectory
  | isDirectory
  | nameTooLong
  | nulByte
  | invalidText
  | other (code : Option Nat) (text : String)
  deriving DecidableEq, Repr

namespace FileFailure

def code? : FileFailure → Option Nat
  | notFound => some 2
  | permissionDenied => some 13
  | notDirectory => some 20
  | isDirectory => some 21
  | nameTooLong => some 36
  | other code _ => code
  | nulByte | invalidText => none

def ofCode (code : Nat) (text : String) : FileFailure :=
  ([notFound, permissionDenied, notDirectory, isDirectory, nameTooLong].find? (·.code? = some code)).getD
    (other (some code) text)

def description : FileFailure → String
  | notFound => "No such file or directory"
  | permissionDenied => "Permission denied"
  | notDirectory => "Not a directory"
  | isDirectory => "Is a directory"
  | nameTooLong => "File name too long"
  | nulByte => "file name contained an unexpected NUL byte"
  | invalidText => "stream did not contain valid UTF-8"
  | other _ text => text

def kindName : FileFailure → String
  | notFound => "NotFound"
  | permissionDenied => "PermissionDenied"
  | notDirectory => "NotADirectory"
  | isDirectory => "IsADirectory"
  | nameTooLong => "InvalidFilename"
  | nulByte => "InvalidInput"
  | invalidText => "InvalidData"
  | other (some _) _ => "Uncategorized"
  | other none _ => "Other"

def message (f : FileFailure) : String :=
  match f.code? with
  | some code => f.description ++ " (os error " ++ toString code ++ ")"
  | none => f.description

def debugText (f : FileFailure) : String :=
  let about := "kind: " ++ f.kindName ++ ", message: \"" ++ f.description ++ "\" \x7d"
  match f.code? with
  | some code => "Os \x7b code: " ++ toString code ++ ", " ++ about
  | none => "Error \x7b " ++ about

end FileFailure

end CSubset
