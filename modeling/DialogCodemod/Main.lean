import DialogCodemod.CommandLine.Run

/-!
# The command line program

The files of the computer as a file system, and the entry point. Everything else is decided by
`runProgram`.
-/

namespace DialogCodemod

/-- The number of a system fault. Some errors carry it negated, as a word of 32 bits. -/
def Fault.ofErrorCode (code : UInt32) : Fault :=
  .system (if code.toNat < 0x80000000 then code.toNat else 0x100000000 - code.toNat)

/-- The fault behind an error of the computer's file system. -/
def Fault.ofIOError : IO.Error → Fault
  | .noFileOrDirectory _ code _
  | .interrupted _ code _
  | .alreadyExists _ code _
  | .invalidArgument _ code _
  | .permissionDenied _ code _
  | .resourceExhausted _ code _
  | .inappropriateType _ code _
  | .noSuchThing _ code _
  | .otherError code _
  | .resourceBusy code _
  | .resourceVanished code _
  | .unsupportedOperation code _
  | .hardwareFault code _
  | .unsatisfiedConstraints code _
  | .illegalOperation code _
  | .protocolError code _
  | .timeExpired code _ => .ofErrorCode code
  | .unexpectedEof => .ofKind .unexpectedEnd
  | .userError text => .described .other text

/-- The files of the computer. -/
def computerFiles : FileSystem IO where
  read path := do
    try
      let bytes ← IO.FS.readBinFile path.name
      match String.fromUTF8? bytes with
      | some text => pure (.ok text.toList)
      | none => pure (.error .notText)
    catch error => pure (.error (.ofIOError error))
  write path text := do
    try
      IO.FS.writeBinFile path.name (String.ofList text).toUTF8
      pure (.ok ())
    catch error => pure (.error (.ofIOError error))

/-- The settings of this process. -/
def processEnvironment : IO Environment := do
  return {
    noColor := ← IO.getEnv "NO_COLOR"
    cliColor := ← IO.getEnv "CLICOLOR"
    cliColorForce := ← IO.getEnv "CLICOLOR_FORCE"
    term := ← IO.getEnv "TERM"
    logLevel := ← IO.getEnv "RUST_LOG"
    onTerminal := ← (← IO.getStdout).isTty }

end DialogCodemod

/-- Convert the files named on the command line. -/
def main (arguments : List String) : IO UInt32 := do
  let environment ← DialogCodemod.processEnvironment
  let transcript ← DialogCodemod.runProgram DialogCodemod.Arguments.read
    DialogCodemod.computerFiles environment arguments
  IO.eprint transcript.errors
  IO.print transcript.output
  return transcript.exitCode.toUInt32
