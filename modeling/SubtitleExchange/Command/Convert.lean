import SubtitleExchange.Command.Options
import SubtitleExchange.Command.Output
import SubtitleExchange.Conversion

/-!
# Converting a file

The output is created before the input is opened. It then receives the header of a script and one
line for each subtitle, up to the end or to a read error.
-/

namespace SubtitleExchange
namespace Command
namespace Convert

def settings (options : ConvertOptions) : Session.Settings :=
  ⟨none, options.width, options.height⟩

def wrote (count : Nat) : String :=
  "Wrote " ++ toString count ++ " subtitles."

def converted (count : Nat) : LogRecord :=
  ⟨.info, "stl2ass", "Converted " ++ toString count ++ " subtitles"⟩

/-!
# The course of a conversion

Whatever is logged for a packet comes before its lines are written.
-/

def actsOfLog (log : List Conversion.Event) : List Act :=
  log.map fun event => .notice (.record event.logRecord)

/-- A line is written apart from the line feed behind it. -/
def actsOfDialogue (dialogue : String) : List Act :=
  [.write dialogue .dialogueNotWritten, .write "\n" .dialogueNotWritten]

def actsOfTurn (turn : Conversion.Turn) : List Act :=
  actsOfLog turn.log ++ turn.dialogues.flatMap actsOfDialogue

def actsOf (conversion : Conversion) : List Act :=
  actsOfLog conversion.opening ++ [.write conversion.session.header .headerNotWritten]
    ++ conversion.turns.flatMap actsOfTurn

def closing (count : Nat) : List Act :=
  [.notice (.record (converted count)), .flush .outputNotFlushed, .notice (.line (wrote count))]

def ofSource (options : ConvertOptions) (source : Source) : Course :=
  let (notices, rest) := inspect source
  match Conversion.ofSource rest options.rate (settings options) with
  | .error error =>
      ⟨.status 1, notices.map Act.notice ++ [.notice (.line (headerNotSkipped error))]⟩
  | .ok conversion =>
      let acts := notices.map Act.notice ++ actsOf conversion
      match conversion.failure with
      | none => ⟨.status 0, acts ++ closing conversion.dialogues.length⟩
      | some error => ⟨.aborted (.readFailed error), acts⟩

def ofInput (host : Host) (options : ConvertOptions) : Course :=
  match host.openInput? options.input with
  | none => ⟨.aborted .inputNotOpened, []⟩
  | some source => ofSource options source

def toOutput (host : Host) (options : ConvertOptions) : Outcome :=
  if options.output = "-" then
    (ofInput host options).deliver options.output .stdout
  else
    match host.afterCreation? options.output with
    | none => ⟨.aborted .outputNotCreated, "", [], none⟩
    | some (sink, host) => (ofInput host options).deliver options.output sink

def run (host : Host) (options : ConvertOptions) : Outcome :=
  (toOutput host options).after [host.filterNotice options.logFilter]

end Convert
end Command
end SubtitleExchange
