import SubtitleExchange.Command.Arguments
import SubtitleExchange.Decimal
import SubtitleExchange.Time.Timecode

/-!
# Options of the commands

Both commands take a frame rate and a log filter. Dumping takes one operand and can show the bytes
of each block; converting takes two and can set the size of the picture.
-/

namespace SubtitleExchange
namespace Command

namespace OptionSpec

def frameRate : OptionSpec := ⟨"frame-rate", some 'f', .valueOrDefault⟩

def log : OptionSpec := ⟨"log", none, .value⟩

def hex : OptionSpec := ⟨"hex", some 'x', .noValue⟩

def width : OptionSpec := ⟨"width", none, .value⟩

def height : OptionSpec := ⟨"height", none, .value⟩

end OptionSpec

/-- The number given for an option, if one was given. -/
def readNumber (arguments : Arguments) (spec : OptionSpec) : Except UsageError (Option UInt32) :=
  match arguments.value? spec.name with
  | none => .ok none
  | some text =>
      match Decimal.readUInt32? text with
      | some n => .ok (some n)
      | none => .error (.invalidNumber spec.name text)

/-- Zero frames in a second are refused. -/
def readRate (arguments : Arguments) : Except UsageError FrameRate := do
  match ← readNumber arguments OptionSpec.frameRate with
  | none => return FrameRate.standard
  | some n =>
      match FrameRate.ofUInt32? n with
      | some rate => return rate
      | none => throw (.invalidNumber OptionSpec.frameRate.name (toString n))

structure DumpOptions where
  rate : FrameRate
  hex : Bool
  logFilter : Option String
  input : String
deriving DecidableEq

namespace DumpOptions

def specs : List OptionSpec :=
  [.frameRate, .hex, .log]

def parse (words : List String) : Except UsageError DumpOptions := do
  let arguments ← Arguments.parse specs words
  let rate ← readRate arguments
  let hex := arguments.given OptionSpec.hex.name
  let logFilter := arguments.value? OptionSpec.log.name
  match arguments.operands with
  | [] => throw (.missingOperand "input file")
  | [input] => return ⟨rate, hex, logFilter, input⟩
  | _ :: surplus :: _ => throw (.surplusOperand surplus)

end DumpOptions

structure ConvertOptions where
  rate : FrameRate
  width : Option UInt32
  height : Option UInt32
  logFilter : Option String
  input : String
  output : String
deriving DecidableEq

namespace ConvertOptions

def specs : List OptionSpec :=
  [.frameRate, .width, .height, .log]

def parse (words : List String) : Except UsageError ConvertOptions := do
  let arguments ← Arguments.parse specs words
  let rate ← readRate arguments
  let width ← readNumber arguments OptionSpec.width
  let height ← readNumber arguments OptionSpec.height
  let logFilter := arguments.value? OptionSpec.log.name
  match arguments.operands with
  | [] => throw (.missingOperand "input file")
  | [_] => throw (.missingOperand "output file")
  | [input, output] => return ⟨rate, width, height, logFilter, input, output⟩
  | _ :: _ :: surplus :: _ => throw (.surplusOperand surplus)

end ConvertOptions
end Command
end SubtitleExchange
