/-
**The program.**

Runs a command on the files, the clock and the environment of the system:

* `System.disk` has the operations on real files, `System.host` adds the clock;
* `System.environment` is what surrounds the program;
* `main` runs the command that the arguments ask for, and prints its report.
-/

import Std.Time.DateTime.Timestamp
import Provision.Command.Run

namespace Provision.System

/-! ## Files -/

/-- The number of an error of the system, if it has one. -/
def number? : IO.Error → Option UInt32
  | .alreadyExists _ number _ | .otherError number _ | .resourceBusy number _
  | .resourceVanished number _ | .unsupportedOperation number _ | .hardwareFault number _
  | .unsatisfiedConstraints number _ | .illegalOperation number _ | .protocolError number _
  | .timeExpired number _ | .interrupted _ number _ | .noFileOrDirectory _ number _
  | .invalidArgument _ number _ | .permissionDenied _ number _ | .resourceExhausted _ number _
  | .inappropriateType _ number _ | .noSuchThing _ number _ => some number
  | _ => none

/-- The cause of an error of the system. The same number may be given as a negative one. -/
def causeOf (error : IO.Error) : FileError :=
  match (number? error).map fun number => if 0x80000000 ≤ number then 0 - number else number with
  | some 2 => .notFound
  | some 13 => .denied
  | some 17 => .alreadyExists
  | some 20 => .notDirectory
  | some 21 => .isDirectory
  | some 36 => .nameTooLong
  | some 39 => .notEmpty
  | some 40 => .linkLoop
  | _ => .other (toString error)

/-- An operation on a real file with its answer. -/
def attempt {α : Type} (operation : IO α) : IO (FileAnswer α) := do
  match ← operation.toBaseIO with
  | .ok value => pure (.ok value)
  | .error error => pure (.error (causeOf error))

/-- What is known about the file at the end of a path. -/
def metadata (path : String) : IO IO.FS.Metadata := do
  let place ← IO.FS.realPath path
  place.metadata

/-- Copies a regular file. -/
def copy (source target : String) : IO (FileAnswer Unit) := do
  match ← attempt (metadata source) with
  | .error error => pure (.error error)
  | .ok known =>
    if known.type == .file then
      attempt do
        let bytes ← IO.FS.readBinFile source
        IO.FS.writeBinFile target bytes
    else pure (.error .notRegular)

/-- The operations on real files. -/
def disk : Disk IO where
  makeDirectory := fun path => attempt (IO.FS.createDir path)
  isDirectory := fun path => do
    match ← attempt (metadata path) with
    | .ok known => pure (known.type == .dir)
    | .error _ => pure false
  read := fun path => attempt do
    let bytes ← IO.FS.readBinFile path
    pure bytes.toList
  write := fun path bytes => attempt (IO.FS.writeBinFile path ⟨bytes.toArray⟩)
  create := fun path bytes => attempt do
    let handle ← IO.FS.Handle.mk path .writeNew
    handle.write ⟨bytes.toArray⟩
    handle.flush
  exists? := fun path => do
    match ← attempt (metadata path) with
    | .ok _ => pure (.ok true)
    | .error .notFound => pure (.ok false)
    | .error error => pure (.error error)
  copy := copy
  rename := fun source target => attempt (IO.FS.rename source target)
  remove := fun path => attempt (IO.FS.removeFile path)
  modified := fun path => attempt do
    let known ← metadata path
    pure ⟨known.modified.sec, known.modified.nsec.toNat⟩

/-! ## Time and surroundings -/

/-- The current time. -/
def now : IO Instant := do
  let elapsed := (← Std.Time.Timestamp.now).toNanosecondsSinceUnixEpoch.val
  pure ⟨elapsed / 1000000000, (elapsed % 1000000000).toNat⟩

/-- The name of the running program, made of the machine's name and the program's number. -/
def holder : IO String := do
  let machine := ((← IO.getEnv "HOSTNAME").or (← IO.getEnv "HOST")).getD "unknown"
  let process ← (IO.FS.realPath "/proc/self").toBaseIO
  let number := match process with
    | .ok place => place.fileName.getD "0"
    | .error _ => "0"
  pure (machine ++ ":" ++ number)

/-- The system as a host. -/
def host : IO (Host IO) := do
  pure { disk := disk, now := now, holder := ← holder }

/-- The variables that the program asks for. -/
def asked : List String :=
  ["HOME", "XDG_CONFIG_HOME", Settings.fileVariable, Settings.groupVariable,
    Settings.regionVariable, Settings.subscriptionVariable, "CLICOLOR", "CLICOLOR_FORCE",
    "NO_COLOR"]

/-- What surrounds the program. -/
def environment : IO Environment := do
  let values ← asked.mapM fun name => do
    pure (name, ← IO.getEnv name)
  let directory ← (IO.FS.realPath ".").toBaseIO
  pure
    { value? := fun name => (values.lookup name).join
      directory? := match directory with
        | .ok place => some place.toString
        | .error _ => none }

end Provision.System

/-- Runs the command that the arguments ask for. -/
def main (arguments : List String) : IO UInt32 := do
  let host ← Provision.System.host
  let environment ← Provision.System.environment
  let terminal ← (← IO.getStdout).isTty
  let report ← Provision.Command.run host environment terminal arguments
  IO.print report.output
  IO.eprint report.errors
  pure report.code
