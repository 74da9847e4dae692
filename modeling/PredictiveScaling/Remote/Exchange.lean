import PredictiveScaling.Remote.Message
import PredictiveScaling.Remote.Sockets

/-!
# Exchanges

One message over one connection: a request that is answered, a request that is not, and a
report that arrives at a listener. Whether a connection comes about is decided outside.
-/
namespace PredictiveScaling

/-- How an exchange went: the result, and the bytes that the other side read. -/
structure Exchange (α : Type) where
  result : Except PredictError α
  sent : List (List UInt8)

namespace Exchange

variable {α : Type}

def refused : PredictError := .transport (.system "connection refused")

/-- An exchange that did not begin. -/
def failed (e : PredictError) : Exchange α := ⟨.error e, []⟩

/-- Send a request and read the answer; without an answer the time runs out. -/
def request (reached : Bool) (message : Json.Document) (ofJson? : Json → Option α)
    (answer : Option (List UInt8)) : Exchange α :=
  if reached then
    ⟨match answer with
      | some bs => (Line.read ofJson? bs).mapError .transport
      | none => .error .timeout, [Line.write message]⟩
  else failed refused

/-- Send a request without reading an answer. -/
def send (reached : Bool) (message : Json.Document) : Exchange Unit :=
  if reached then ⟨.ok (), [Line.write message]⟩ else failed refused

end Exchange

/-- Bytes arrive at the listener of an endpoint, which ends with them; none when nobody
listens there. -/
def Sockets.deliver? (s : Sockets) (e : Endpoint) (bs : List UInt8) :
    Option (Except TransportFault TrainReport × Sockets) :=
  (s.listener? e).map fun id => (Line.read TrainReport.ofJson? bs, s.release id)

end PredictiveScaling
