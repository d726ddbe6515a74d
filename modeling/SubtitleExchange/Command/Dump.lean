import SubtitleExchange.Block.Read
import SubtitleExchange.Command.Host
import SubtitleExchange.Command.Options
import SubtitleExchange.Stream.Reader
import SubtitleExchange.Text.Physical
import SubtitleExchange.Text.Quoted
import SubtitleExchange.Time.Clock

/-!
# Dumping blocks

Every block of a file is printed as one record: a heading with its time, a line for each field, for
the alignment and for each line of text, perhaps its bytes, and an empty line.
-/

namespace SubtitleExchange
namespace Command
namespace Dump

def field (name value : String) : String :=
  "  " ++ name ++ " = " ++ value

def alignmentText (alignment : Alignment) : String :=
  alignment.vertical.name ++ " " ++ alignment.horizontal.name ++ " ("
    ++ toString alignment.grid ++ ")"

def lineText (line : Line) : String :=
  Quoted.quote line.text ++ " (" ++ line.foreground.name ++ " on " ++ line.background.name ++ ")"

def textLine (index : Nat) (line : Line) : String :=
  field ("line[" ++ toString index ++ "]") (lineText line)

def textLines (lines : List Line) : List String :=
  lines.mapIdx textLine

/-!
# Records

A record shows a packet and the block in it.
-/

structure Record where
  packet : Packet
  block : Block
deriving DecidableEq

namespace Record

/-- A complete packet always forms a block. -/
def ofPacket (packet : Packet) : Record :=
  match h : Block.ofBytes packet.data.bytes with
  | .ok block => ⟨packet, block⟩
  | .error _ => nomatch h.symm.trans (Block.ofBytes_octets packet.data)

/-- The lines before the bytes of the block. -/
def body (record : Record) : List String :=
  let block := record.block
  ["tti_block(" ++ Clock.text record.packet.start ++ ")",
    field "subtitle_group_number" (toString block.groupNumber.toNat),
    field "subtitle_number" (toString block.subtitleNumber.toNat),
    field "extension_block_number" (toString block.extensionNumber.toNat),
    field "cumulative_status" (toString block.cumulativeStatus.toNat),
    field "time_code_in" block.timeIn.text,
    field "time_code_out" block.timeOut.text,
    field "duration" (Clock.text record.packet.duration),
    field "vertical_position" (toString block.verticalPosition.toNat),
    field "justification_code" (toString block.justification.toNat),
    field "comment_flag" (toString block.commentFlag.toNat),
    field "alignment" (alignmentText block.alignment)]
    ++ textLines block.lines

def bytesLine (record : Record) : String :=
  field "hex" (Hex.dump record.packet.data.bytes)

def lines (hex : Bool) (record : Record) : List String :=
  record.body ++ (if hex then [record.bytesLine] else []) ++ [""]

end Record

def records (steps : List Reader.Step) : List Record :=
  (Reader.packetsOf steps).map Record.ofPacket

def print (hex : Bool) (records : List Record) : String :=
  Physical.text (records.flatMap (Record.lines hex))

def started : String := "Iterating through TTI blocks..."

/-- The blocks are counted in 32 bits. -/
def dumped (count : Nat) : LogRecord :=
  ⟨.info, "stldump", "Dumped " ++ toString (Int32.ofNat count).toInt ++ " blocks"⟩

def noticesOfLog (log : List Reader.Event) : List Notice :=
  log.map fun event => .record event.logRecord

def ofSource (options : DumpOptions) (source : Source) : Outcome :=
  let (notices, rest) := inspect source
  match Reader.openAt options.rate rest with
  | .error error => ⟨.status 1, "", notices ++ [.line (headerNotSkipped error)], none⟩
  | .ok (reader, opened) =>
      let steps := reader.steps
      let records := records steps
      let notices := notices ++ noticesOfLog opened ++ [.line started]
        ++ noticesOfLog (steps.flatMap Reader.Step.log)
      match Reader.failureOf steps with
      | none =>
          ⟨.status 0, print options.hex records, notices ++ [.record (dumped records.length)], none⟩
      | some error =>
          ⟨.aborted (.readFailed error), print options.hex records, notices, none⟩

def ofInput (host : Host) (options : DumpOptions) : Outcome :=
  match host.openInput? options.input with
  | none => ⟨.aborted .inputNotOpened, "", [], none⟩
  | some source => ofSource options source

def run (host : Host) (options : DumpOptions) : Outcome :=
  (ofInput host options).after [host.filterNotice options.logFilter]

end Dump
end Command
end SubtitleExchange
