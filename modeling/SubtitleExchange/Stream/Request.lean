import SubtitleExchange.Stream.Reader

/-!
# Requests to a reader

A reader can be asked for a packet, for the next item of its sequence, for all items that are left,
and for a description of its stream. A run answers any list of requests in order.
-/

namespace SubtitleExchange
namespace Reader

inductive Request where
  | read
  | next
  | rest
  | info
deriving DecidableEq

inductive Response where
  | result (result : Except ReadError (Option Packet))
  | item (item : Option (Except ReadError Packet))
  | items (items : List (Except ReadError Packet))
  | info (info : StreamInfo)

structure Answer where
  response : Response
  log : List Event
  reader : Reader

def lastReader (reader : Reader) (steps : List Step) : Reader :=
  (steps.getLast?.map Step.reader).getD reader

def answer (reader : Reader) : Request → Answer
  | .read =>
      let step := reader.read
      ⟨.result step.result, step.log, step.reader⟩
  | .next =>
      let step := reader.read
      ⟨.item step.item, step.log, step.reader⟩
  | .rest =>
      let steps := reader.steps
      ⟨.items (steps.filterMap Step.item), steps.flatMap Step.log, reader.lastReader steps⟩
  | .info => ⟨.info StreamInfo.subtitles, [], reader⟩

def run (reader : Reader) : List Request → List Answer
  | [] => []
  | request :: requests =>
      let first := reader.answer request
      first :: run first.reader requests

/-- The reader after a run. -/
def afterRun (reader : Reader) (requests : List Request) : Reader :=
  (((reader.run requests).getLast?).map Answer.reader).getD reader

end Reader
end SubtitleExchange
