import CSubset.File.Host

/-!
# A store of files

A file system held in memory: directories and files by location, and a working directory. Paths are followed as the
system follows them: every part but the last must be a directory, and a slash at the end asks for a directory.
-/

namespace CSubset

/-- The names on the way from the root. -/
abbrev Location := List String

/-- Locations at different depths are told apart without a look at their names. -/
def Location.same (l k : Location) : Bool := l.length == k.length && l == k

@[simp]
theorem Location.same_eq (l k : Location) : Location.same l k = decide (l = k) := by
  by_cases h : l = k <;> simp [same, h]

inductive Entry where
  | file (content : ByteArray)
  | directory

structure Store where
  entries : List (Location × Entry)
  current : Location

namespace Store

/-- The root is always there. -/
def get? (s : Store) (l : Location) : Option Entry :=
  if l = [] then some .directory else (s.entries.find? fun e => Location.same e.1 l).map (·.2)

def put (s : Store) (l : Location) (e : Entry) : Store :=
  { s with entries := (l, e) :: s.entries.filter fun e => !Location.same e.1 l }

theorem get?_put_self (s : Store) {l : Location} (e : Entry) (h : l ≠ []) : (s.put l e).get? l = some e := by
  simp [get?, put, h]

theorem get?_put_of_ne (s : Store) {l k : Location} (e : Entry) (h : k ≠ l) : (s.put l e).get? k = s.get? k := by
  unfold get? put
  split
  · rfl
  · have hk : (fun x : Location × Entry => !decide (x.1 = l) && decide (x.1 = k)) = fun x => decide (x.1 = k) := by
      funext x
      by_cases hx : x.1 = k <;> simp [hx, h]
    simp [List.find?_filter, Ne.symm h, hk]

def content? (s : Store) (l : Location) : Option ByteArray :=
  match s.get? l with
  | some (.file content) => some content
  | _ => none

/-! ## Paths -/

def maxNameLength : Nat := 255

def maxPathLength : Nat := 4096

/-- Cuts at slashes. `part` is the part being read, last character first. -/
def cutAtSlashes : (part : List Char) → List Char → List String
  | part, [] => [String.ofList part.reverse]
  | part, c :: cs =>
    if c = '/' then String.ofList part.reverse :: cutAtSlashes [] cs else cutAtSlashes (c :: part) cs

def parts (path : String) : List String := (cutAtSlashes [] path.toList).filter (· ≠ "")

def endsInSlash (path : String) : Bool := path.toList.getLast? == some '/'

def origin (s : Store) (path : String) : Location := if path.toList.head? = some '/' then [] else s.current

/-- Follows parts from a location. Whether there is anything at the end is left open. -/
def follow (s : Store) (l : Location) : List String → Except FileFailure Location
  | [] => .ok l
  | part :: parts =>
    match s.get? l with
    | none => .error .notFound
    | some (.file _) => .error .notDirectory
    | some .directory =>
      if part = "." then s.follow l parts
      else if part = ".." then s.follow l.dropLast parts
      else if maxNameLength < part.utf8ByteSize then .error .nameTooLong
      else s.follow (l ++ [part]) parts

def refused? (path : String) : Option FileFailure :=
  if path.toList.contains '\x00' then some .nulByte
  else if path.isEmpty then some .notFound
  else if maxPathLength ≤ path.utf8ByteSize then some .nameTooLong
  else none

def find (s : Store) (path : String) : Except FileFailure (Location × Entry) := do
  if let some failure := refused? path then throw failure
  let l ← s.follow (s.origin path) (parts path)
  match s.get? l with
  | none => throw .notFound
  | some (.file content) => if endsInSlash path then throw .notDirectory else return (l, .file content)
  | some .directory => return (l, .directory)

def target (s : Store) (path : String) : Except FileFailure Location := do
  if let some failure := refused? path then throw failure
  match (parts path).getLast? with
  | none => throw .isDirectory
  | some last =>
    let parent ← s.follow (s.origin path) (parts path).dropLast
    match s.get? parent with
    | none => throw .notFound
    | some (.file _) => throw .notDirectory
    | some .directory =>
      if last = "." ∨ last = ".." ∨ endsInSlash path then throw .isDirectory
      let l ← s.follow parent [last]
      match s.get? l with
      | some .directory => throw .isDirectory
      | _ => return l

/-! ## Operations -/

def stat (s : Store) (path : String) : Except FileFailure FileInfo :=
  match s.find path with
  | .ok (_, .file content) => .ok ⟨true, content.size⟩
  | .ok (_, .directory) => .ok ⟨false, 4096⟩
  | .error failure => .error failure

def read (s : Store) (path : String) : Except FileFailure ByteArray :=
  match s.find path with
  | .ok (_, .file content) => .ok content
  | .ok (_, .directory) => .error .isDirectory
  | .error failure => .error failure

/-- A write that fails changes nothing. -/
def write (s : Store) (path : String) (text : String) : Except FileFailure Store :=
  match s.target path with
  | .ok l => .ok (s.put l (.file text.toUTF8))
  | .error failure => .error failure

def makeDirectories (s : Store) (l : Location) : Store :=
  (List.range l.length).foldl (fun s n => s.put (l.take (n + 1)) .directory) s

def filesBelow (s : Store) (l : Location) : List (String × ByteArray) :=
  s.entries.filterMap fun (place, entry) =>
    match entry with
    | .file content =>
      if l.isPrefixOf place then some ("/".intercalate (place.drop l.length), content) else none
    | .directory => none

end Store

structure World where
  store : Store
  out : String := ""
  err : String := ""

def World.host (time : Instant) : Host (StateM World) where
  stat path := do return (← get).store.stat path
  read path := do return (← get).store.read path
  write path text := do
    let w ← get
    match w.store.write path text with
    | .ok store =>
      set { w with store }
      return .ok ()
    | .error failure => return .error failure
  print channel text := modify fun w =>
    match channel with
    | .out => { w with out := w.out ++ text ++ "\n" }
    | .err => { w with err := w.err ++ text ++ "\n" }
  now := return time

end CSubset
