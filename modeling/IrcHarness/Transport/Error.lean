import IrcHarness.Message.Error
import IrcHarness.Transport.Peer

/-!
# Transport Errors

Why a call on a transport gave nothing. An unparsable line is reported with
its text, and a refusal with the whole reply, so that a report shows what the
peer sent.

## Main definitions

* `TransportError`: Why a call gave nothing.
* `TransportError.message`: The wording.
* `Outcome`: How a call that waits can end.
-/

namespace IrcHarness

/-- Why a call on a transport gave nothing. -/
inductive TransportError where
  /-- The peer is gone. -/
  | connectionClosed
  /-- Nothing came in front of the answer to the synchronization. -/
  | noMessage
  /-- The peer sent a line that is no message. -/
  | parse (line : String) (cause : ParseError)
  /-- The peer does not answer `PING` yet. -/
  | syncRejected (reply : String)
  /-- The message to send has no line. -/
  | encode (cause : EncodeError)
  /-- A read failed for another reason. -/
  | io (fault : Fault)
deriving DecidableEq, Repr

/-- The wording of a transport error. -/
def TransportError.message : TransportError → String
  | .connectionClosed => "connection closed by peer"
  | .noMessage => "no message received before the synchronization point"
  | .parse line cause =>
    "unparseable line from peer " ++ Quoted.write line ++ ": " ++ cause.message
  | .syncRejected reply => "peer refused synchronization PING: " ++ reply
  | .encode cause => "refusing to send message: " ++ cause.message
  | .io fault => "io error: " ++ fault.text

/-- How a call that waits can end. -/
inductive Outcome (α : Type) where
  /-- It gave something. -/
  | ok (value : α)
  /-- It failed. -/
  | error (e : TransportError)
  /-- It still waited when the patience of the caller ended. -/
  | abandoned
deriving DecidableEq, Repr

/-- What a call gave, turned into something else. -/
def Outcome.map {α β : Type} (f : α → β) : Outcome α → Outcome β
  | .ok value => .ok (f value)
  | .error e => .error e
  | .abandoned => .abandoned

end IrcHarness
