/-!
# Faults of a byte source

Why a source could not deliver bytes, and the two places where such a fault surfaces: while a block
is read field by field, and while packets are read. An interruption is not a fault to callers, who
ask again.
-/

namespace SubtitleExchange

inductive FaultKind where
  | other
  | unexpectedEnd
  | permissionDenied
  | brokenPipe
  | wouldBlock
  | interrupted
  | invalidData
  | timedOut
  | notSeekable
  | isDirectory
deriving DecidableEq

structure Fault where
  kind : FaultKind
  message : String
deriving DecidableEq

namespace Fault

/-- The input ended inside something that has a fixed length. -/
def endOfInput : Fault := ⟨.unexpectedEnd, "failed to fill whole buffer"⟩

def notSeekable : Fault := ⟨.notSeekable, "Illegal seek (os error 29)"⟩

def isDirectory : Fault := ⟨.isDirectory, "Is a directory (os error 21)"⟩

end Fault

inductive ReadError where
  | block (cause : Fault)
  | stream (cause : Fault)
deriving DecidableEq

namespace ReadError

def cause : ReadError → Fault
  | block fault => fault
  | stream fault => fault

def message : ReadError → String
  | block _ => "block IO error"
  | stream _ => "stream IO error"

end ReadError
end SubtitleExchange
