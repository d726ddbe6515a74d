/-!
# Logging

A logger is given one filter and then a number of records. The parts of the library tell only what
it is given; what it prints for that is its own affair.
-/

namespace SubtitleExchange

inductive LogLevel where
  | trace
  | debug
  | info
  | warning
deriving DecidableEq

/-- A message with its level and the part of the program it comes from. -/
structure LogRecord where
  level : LogLevel
  origin : String
  message : String
deriving DecidableEq

inductive LogCall where
  | filter (text : String)
  | record (record : LogRecord)
deriving DecidableEq

/-- What a logger prints for the call at a place in a run. It may print one record in two ways, since
it can tell the time. -/
structure Logger where
  print (place : Nat) (call : LogCall) : List String

namespace Logger

/-- A text that the logger itself never prints. -/
def Spares (logger : Logger) (text : String) : Prop :=
  ∀ place call, text ∉ logger.print place call

end Logger
end SubtitleExchange
