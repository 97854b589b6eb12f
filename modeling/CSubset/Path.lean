/-!
# Paths

A path is a text whose parts are separated by slashes. Empty parts, and parts `.` other than the first, do not count.
-/

namespace CSubset

namespace Path

/-- Takes off slashes at the end and parts `.` at the end, but not the root itself. The path is in reverse. -/
def trimReversed : List Char → List Char
  | '/' :: c :: cs => trimReversed (c :: cs)
  | '.' :: '/' :: cs => trimReversed ('/' :: cs)
  | cs => cs

def counted (path : String) : List Char := trimReversed path.toList.reverse

def isName (part : List Char) : Bool := part ≠ [] && part ≠ ['.'] && part ≠ ['.', '.']

def fileName? (path : String) : Option String :=
  let part := (counted path).takeWhile (· ≠ '/')
  if isName part then some (String.ofList part.reverse) else none

/-- A name cut at its last dot. A dot at its beginning does not count. Both parts are in reverse. -/
def cutName (reversedName : List Char) : List Char × Option (List Char) :=
  match reversedName.dropWhile (· ≠ '.') with
  | [] | [_] => (reversedName, none)
  | _ :: stem => (stem, some (reversedName.takeWhile (· ≠ '.')))

def extension? (path : String) : Option String :=
  (fileName? path).bind fun name => (cutName name.toList.reverse).2.map fun e => String.ofList e.reverse

def setExtension (path extension : String) : String :=
  let ahead := counted path
  let part := ahead.takeWhile (· ≠ '/')
  if isName part then
    String.ofList (((cutName part).1 ++ ahead.dropWhile (· ≠ '/')).reverse) ++ "." ++ extension
  else path

/-- The shortest beginning of whole characters that has at least `size` bytes. -/
def coverBytes : (size : Nat) → List Char → List Char
  | 0, _ | _, [] => []
  | size + 1, c :: cs => c :: coverBytes (size + 1 - c.utf8Size) cs

/-- Takes as many bytes off the end of the path as its extension has, and then sets the extension. -/
def withExtension (path extension : String) : String :=
  match extension? path with
  | none => setExtension path extension
  | some old =>
    let kept := coverBytes (path.utf8ByteSize - old.utf8ByteSize) path.toList
    setExtension (String.ofList kept) extension

def parent? (path : String) : Option String :=
  match counted path with
  | [] | ['/'] => none
  | cs => some (String.ofList (trimReversed (cs.dropWhile (· ≠ '/'))).reverse)

def isAbsolute (path : String) : Bool := path.toList.head? == some '/'

def join (base path : String) : String :=
  if isAbsolute path then path
  else if base.isEmpty || base.toList.getLast? == some '/' then base ++ path
  else base ++ "/" ++ path

end Path

end CSubset
