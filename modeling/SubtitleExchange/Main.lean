import SubtitleExchange.Command.Convert
import SubtitleExchange.Command.Dump
import SubtitleExchange.Log.Filter

/-!
# Command line

The first word chooses between `dump` and `convert`; the other words are the arguments of the
command. The host is gathered here, and the outcome of the command is carried out.
-/

namespace SubtitleExchange
namespace CommandLine

partial def readAll (stream : IO.FS.Stream) (taken : ByteArray) : IO ByteArray := do
  let piece ← stream.read 65536
  if piece.isEmpty then
    return taken
  else
    readAll stream (taken ++ piece)

def readStdin : IO (List UInt8) := do
  let bytes ← readAll (← IO.getStdin) ByteArray.empty
  return bytes.toList

/-- What opens but cannot be read is taken for a directory. -/
def contents (handle : IO.FS.Handle) : IO Command.Entry := do
  try
    let bytes ← handle.readBinToEnd
    return .file bytes.toList
  catch _ =>
    return .directory

def opened? (path : String) : IO (Option IO.FS.Handle) := do
  try
    return some (← IO.FS.Handle.mk path .read)
  catch _ =>
    return none

def entryOf (path : String) : IO Command.Entry := do
  if path = "/dev/stdin" then
    return .pipe (← readStdin)
  match ← opened? path with
  | some handle => contents handle
  | none => return .missing

/-- The host of a command that reads one input and creates nothing. -/
def hostFor (input : String) : IO Command.Host := do
  let stdin ← if input = "-" then readStdin else pure []
  let logVariable ← IO.getEnv "RUST_LOG"
  let entry ← if input = "-" then pure .missing else entryOf input
  return ⟨stdin, logVariable, fun path => if path = input then entry else .missing, fun _ => none⟩

/-- The host in which a file was created already, if that was possible. -/
def withCreated (host : Command.Host) (sink : Option Command.Sink) : Command.Host :=
  { host with create? := fun _ => sink.map fun sink => ⟨sink, host.entry⟩ }

def finish (outcome : Command.Outcome) : IO UInt32 := do
  IO.print outcome.stdout
  (outcome.printed LogFilter.logger).forM fun text => IO.eprint text
  match outcome.exit with
  | .status code => return UInt32.ofNat code
  | .aborted cause =>
      IO.eprintln cause.message
      return 101

def refuse (error : Command.UsageError) : IO UInt32 := do
  IO.eprintln error.message
  return 1

def dump (words : List String) : IO UInt32 := do
  match Command.DumpOptions.parse words with
  | .error error => refuse error
  | .ok options => finish (Command.Dump.run (← hostFor options.input) options)

def createOutput (path : String) : IO (Option IO.FS.Handle) := do
  if path = "-" then
    return none
  try
    return some (← IO.FS.Handle.mk path .write)
  catch _ =>
    return none

def isWritten (handle : IO.FS.Handle) (text : String) : IO Bool := do
  try
    handle.putStr text
    handle.flush
    return true
  catch _ =>
    return false

/-- The output is created before the input is read. What it accepts is seen when it is written to. -/
def convert (words : List String) : IO UInt32 := do
  match Command.ConvertOptions.parse words with
  | .error error => refuse error
  | .ok options =>
      let output ← createOutput options.output
      let host ← hostFor options.input
      let outcomeWith := fun sink => Command.Convert.run (withCreated host sink) options
      match output with
      | none => finish (outcomeWith none)
      | some handle =>
          let outcome := outcomeWith (some .file)
          let text := (outcome.written.map Command.WrittenFile.text).getD ""
          if ← isWritten handle text then
            finish outcome
          else
            finish (outcomeWith (some .full))

def run : List String → IO UInt32
  | "dump" :: words => dump words
  | "convert" :: words => convert words
  | _ => do
      IO.eprintln "expected dump or convert"
      return 1

end CommandLine
end SubtitleExchange

def main (words : List String) : IO UInt32 :=
  SubtitleExchange.CommandLine.run words
