import PdfText.CommandLine
import PdfText.FileSystem

/-!
# The command

Runs the command line on the files of the machine. The log goes to the error output, by the rules
that the environment variable `RUST_LOG` spells, if it is set.
-/

namespace PdfText

/-- The failure that the machine reports. -/
def IoError.ofMachine : IO.Error → IoError
  | .alreadyExists _ code _ => .system code.toNat
  | .otherError code _ => .system code.toNat
  | .resourceBusy code _ => .system code.toNat
  | .resourceVanished code _ => .system code.toNat
  | .unsupportedOperation code _ => .system code.toNat
  | .hardwareFault code _ => .system code.toNat
  | .unsatisfiedConstraints code _ => .system code.toNat
  | .illegalOperation code _ => .system code.toNat
  | .protocolError code _ => .system code.toNat
  | .timeExpired code _ => .system code.toNat
  | .interrupted _ code _ => .system code.toNat
  | .noFileOrDirectory _ code _ => .system code.toNat
  | .invalidArgument _ code _ => .system code.toNat
  | .permissionDenied _ code _ => .system code.toNat
  | .resourceExhausted _ code _ => .system code.toNat
  | .inappropriateType _ code _ => .system code.toNat
  | .noSuchThing _ code _ => .system code.toNat
  | .unexpectedEof => .plain .unexpectedEnd
  | .userError sentence => .described .other sentence

/-- What the machine does, or how it fails. -/
def onMachine {α : Type} (action : IO α) : ExceptT IoError IO α :=
  ExceptT.mk do
    match ← action.toBaseIO with
    | .ok value => return .ok value
    | .error error => return .error (.ofMachine error)

/-- The files of the machine. Reports are written to the error output. -/
def machine : Surroundings IO where
  read path := onMachine do return (← IO.FS.readBinFile path).toList
  write path content := onMachine (IO.FS.writeBinFile path ⟨content.toArray⟩)
  isPresent path := do
    match ← (IO.FS.realPath path).toBaseIO with
    | .ok _ => return path.utf8ByteSize ≤ FileSystem.maxPathLength
    | .error _ => return false
  report event := IO.eprintln (event.level.label ++ " " ++ event.message)

end PdfText

/-- Runs the command on the words after its name. -/
def main (words : List String) : IO UInt32 := do
  let setting ← IO.getEnv "RUST_LOG"
  let outcome ← PdfText.CommandLine.run PdfText.machine setting words
  IO.print outcome.printed
  IO.eprint outcome.complaint
  return UInt32.ofNat outcome.exitCode
