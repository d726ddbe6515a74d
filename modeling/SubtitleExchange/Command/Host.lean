import SubtitleExchange.Block.Layout
import SubtitleExchange.Log
import SubtitleExchange.Stream.Source

/-!
# What a command meets and leaves

A command finds standard input, the entries of a file system and a variable of its environment. It
leaves an exit status, or was aborted for a cause; what it printed; notices to the user; and the file
it wrote, if it created one. A lone dash stands for standard input or output.
-/

namespace SubtitleExchange
namespace Command

/-- What reading from a path meets. -/
inductive Entry where
  | missing
  | file (bytes : List UInt8)
  | directory
  | pipe (bytes : List UInt8)
deriving DecidableEq

/-- Where text goes that is written to a path: into a file, to standard output or among the notices,
or away, by acceptance or by refusal. -/
inductive Sink where
  | file
  | stdout
  | stderr
  | nowhere
  | full
deriving DecidableEq

/-- What creating a file at a path leads to: where text goes from then on, and what is found. -/
structure Creation where
  sink : Sink
  entry : String → Entry

structure Host where
  stdin : List UInt8
  logVariable : Option String
  entry : String → Entry
  create? : String → Option Creation

inductive Abort where
  | outputNotCreated
  | inputNotOpened
  | headerNotWritten
  | readFailed (error : ReadError)
  | dialogueNotWritten
  | outputNotFlushed
deriving DecidableEq

namespace Abort

def message : Abort → String
  | outputNotCreated => "Could not open output file for writing."
  | inputNotOpened => "Could not open input file for reading."
  | headerNotWritten => "Could not write script header."
  | readFailed error => "Could not read block due to IO error: " ++ error.cause.message
  | dialogueNotWritten => "Could not write dialogue."
  | outputNotFlushed => "Could not flush output."

end Abort

inductive Exit where
  | status (code : Nat)
  | aborted (cause : Abort)
deriving DecidableEq

/-- A notice is a line of the command itself, a piece of text that was written among the notices, or
whatever the logger prints when it is called. -/
inductive Notice where
  | line (text : String)
  | piece (text : String)
  | call (given : LogCall)
deriving DecidableEq

namespace Notice

def record (record : LogRecord) : Notice :=
  .call (.record record)

def ended (text : String) : String :=
  text ++ "\n"

/-- The texts in which a notice is printed by a command with this logger. -/
def printed (logger : Logger) (place : Nat) : Notice → List String
  | line text => [ended text]
  | piece text => [text]
  | call given => logger.print place given

end Notice

structure WrittenFile where
  path : String
  text : String
deriving DecidableEq

structure Outcome where
  exit : Exit
  stdout : String
  notices : List Notice
  written : Option WrittenFile
deriving DecidableEq

namespace Outcome

/-- The outcome with notices that were given before all others. -/
def after (outcome : Outcome) (notices : List Notice) : Outcome :=
  { outcome with notices := notices ++ outcome.notices }

/-- All that is printed for the notices, text by text. -/
def printed (logger : Logger) (outcome : Outcome) : List String :=
  (outcome.notices.mapIdx fun place notice => notice.printed logger place).flatten

end Outcome

namespace Entry

/-- A pipe delivers its bytes in order and cannot be positioned. -/
def source? : Entry → Option Source
  | .missing => none
  | .file bytes => some (.ofBytes bytes)
  | .directory => some .directory
  | .pipe bytes => some (.feed [.chunk bytes] (some Fault.notSeekable))

end Entry

namespace Host

/-- Standard input is read to its end before anything is decoded. -/
def openInput? (host : Host) (name : String) : Option Source :=
  if name = "-" then
    some (.ofBytes host.stdin)
  else
    (host.entry name).source?

/-- The host after a file was created, with where text goes. -/
def afterCreation? (host : Host) (name : String) : Option (Sink × Host) :=
  (host.create? name).map fun creation =>
    (creation.sink, { host with entry := creation.entry })

/-!
# The filter of the logger

The logger gets its filter before anything else is done: the one that was asked for, or else the one
in the environment.
-/

def defaultFilter : String := "warn"

def logFilter (host : Host) (asked : Option String) : String :=
  asked.getD (host.logVariable.getD defaultFilter)

def filterNotice (host : Host) (asked : Option String) : Notice :=
  .call (.filter (host.logFilter asked))

end Host

/-!
# Looking at the signature

Up to eight bytes are taken to see whether the input carries a signature. A fault counts as no bytes.
-/

def probeLength : Nat := 8

def missingSignature : String :=
  "Input does not carry an STL signature; decoding anyway."

def headerNotSkipped (error : ReadError) : String :=
  "Could not skip GSI header: " ++ error.message

/-- The notices about the signature, and the source after the look. -/
def inspect (source : Source) : List Notice × Source :=
  let (result, rest) := source.read probeLength
  let bytes := match result with
    | .ok bytes => bytes
    | .error _ => []
  (if Layout.hasSignature bytes then [] else [.line missingSignature], rest)

end Command
end SubtitleExchange
