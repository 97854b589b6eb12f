import CSubset.File.Failure
import CSubset.Instant
import CSubset.Log.Service

/-!
# What a program can do to the world

Files are named by paths, and every file operation can fail. The console has two channels, and a clock tells the
time. The program is written against these operations alone.
-/

namespace CSubset

structure FileInfo where
  isRegular : Bool
  size : Nat
  deriving DecidableEq, Repr

structure Host (m : Type → Type) where
  stat : String → m (Except FileFailure FileInfo)
  read : String → m (Except FileFailure ByteArray)
  /-- Makes the file, or replaces all it held. -/
  write : String → String → m (Except FileFailure Unit)
  print : Channel → String → m Unit
  now : m Instant

section
variable {m : Type → Type} [Monad m]

def Host.readText (h : Host m) (path : String) : m (Except FileFailure String) := do
  match ← h.read path with
  | .error failure => return .error failure
  | .ok bytes =>
    match String.fromUTF8? bytes with
    | some text => return .ok text
    | none => return .error .invalidText

structure Reporter where
  service : Option LogService := none
  file : Option String := none

def Host.deliver (h : Host m) : Delivery → m Unit
  | .line channel text => h.print channel text
  | .kept _ => pure ()

def Host.report (h : Host m) (r : Reporter) (e : Event) : m Unit :=
  match r.service with
  | none => pure ()
  | some service => do
    let time ← h.now
    (service.log { e.inFile r.file with time := time.seconds }).forM h.deliver

end

end CSubset
