import SubtitleExchange.Session.Basic

/-!
# Requests to a session

A session decodes units and packets, and tells the header of its script and its own state. A run
answers any list of requests in order.
-/

namespace SubtitleExchange
namespace Session

inductive Request where
  | decode (bytes : List UInt8) (start duration : Int64)
  | packet (packet : Packet)
  | header
  | state

inductive Response where
  | subtitle (subtitle : Option Subtitle)
  | header (text : String)
  | state (timeBase : TimeBase) (picture : PictureSize)
deriving DecidableEq

def answer (session : Session) : Request → Step Response
  | .decode bytes start duration =>
      let step := session.decode bytes start duration
      ⟨.subtitle step.value, step.log, step.session⟩
  | .packet packet =>
      let step := session.decodePacket packet
      ⟨.subtitle step.value, step.log, step.session⟩
  | .header => ⟨.header session.header, [], session⟩
  | .state => ⟨.state session.timeBase session.picture, [], session⟩

def run (session : Session) : List Request → Step (List Response)
  | [] => ⟨[], [], session⟩
  | request :: requests =>
      let first := session.answer request
      let others := run first.session requests
      ⟨first.value :: others.value, first.log ++ others.log, others.session⟩

end Session
end SubtitleExchange
