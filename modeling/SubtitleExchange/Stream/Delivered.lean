import SubtitleExchange.Stream.Source

/-!
# What a feed delivers

Seen from a buffer that is never full, a feed delivers the bytes of its chunks up to an empty chunk,
a fault that is no interruption, or its end. How the bytes are cut into chunks is not part of that.
-/

namespace SubtitleExchange
namespace Delivery

def delivered : List Delivery → List UInt8
  | [] => []
  | chunk bytes :: rest => if bytes.isEmpty then [] else bytes ++ delivered rest
  | fault cause :: rest => if cause.kind = .interrupted then delivered rest else []

/-- The fault after the bytes delivered, if it is a fault that ends them. -/
def closing : List Delivery → Option Fault
  | [] => none
  | chunk bytes :: rest => if bytes.isEmpty then none else closing rest
  | fault cause :: rest => if cause.kind = .interrupted then closing rest else some cause

/-- The interruptions among the deliveries before that. -/
def interruptions : List Delivery → Nat
  | [] => 0
  | chunk bytes :: rest => if bytes.isEmpty then 0 else interruptions rest
  | fault cause :: rest => if cause.kind = .interrupted then interruptions rest + 1 else 0

end Delivery
end SubtitleExchange
