import Std.Time.DateTime.Timestamp
import CSubset.Session

/-!
# The executable

The program on the file system, the console and the clock of the machine.
-/

namespace CSubset

def systemFailure : IO.Error → FileFailure
  | .alreadyExists _ code text | .otherError code text | .resourceBusy code text | .resourceVanished code text
  | .unsupportedOperation code text | .hardwareFault code text | .unsatisfiedConstraints code text
  | .illegalOperation code text | .protocolError code text | .timeExpired code text | .interrupted _ code text
  | .noFileOrDirectory _ code text | .invalidArgument _ code text | .permissionDenied _ code text
  | .resourceExhausted _ code text | .inappropriateType _ code text | .noSuchThing _ code text =>
    .ofCode code.toNat text
  | .unexpectedEof => .other none "unexpected end of file"
  | .userError text => .other none text

def attempt {α : Type} (action : IO α) : IO (Except FileFailure α) := do
  match ← action.toBaseIO with
  | .ok a => return .ok a
  | .error e => return .error (systemFailure e)

def systemHost : Host IO where
  stat path := attempt do
    let info ← ((← IO.currentDir) / path).metadata
    return ⟨info.type matches .file, info.byteSize.toNat⟩
  read path := attempt (IO.FS.readBinFile path)
  write path text := attempt (IO.FS.writeFile path text)
  print
    | .out, text => IO.println text
    | .err, text => IO.eprintln text
  now := do
    let n := (← Std.Time.Timestamp.now).toNanosecondsSinceUnixEpoch.val
    return ⟨n / 1000000000, (n % 1000000000).toNat⟩

def systemEnvironment : IO Environment := do
  let values ← Environment.names.filterMapM fun name => do
    return (← IO.getEnv name).map (name, ·)
  return .ofList values

end CSubset

def main (args : List String) : IO UInt32 := do
  let status ← CSubset.Session.run CSubset.systemHost (← CSubset.systemEnvironment) "minic" args
  return status.code
