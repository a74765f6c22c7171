import IrcHarness.Config.Basic
import IrcHarness.Message.Printer
import IrcHarness.Text.Quoted
import IrcHarness.Transport.Error
import IrcHarness.Transport.Framing
import IrcHarness.Transport.Token

/-!
# Transports

One end of a stream, held by a test. A transport has a name for the log, the
settings for its reads, messages that came and were not asked for yet, and a
count of the tokens it has sent. What it writes goes out at once, as long as
writing works. Afterwards it stays behind, and a shutdown that cannot write it
fails.

## Main definitions

* `LogEntry`: A line of the log.
* `Outgoing`: What was written.
* `Transport`: One end of a stream.
* `Transport.sendLine`, `Transport.sendMessage`: Write a line or a message.
* `Transport.disconnect`: Shut the stream down.
* `Transport.describe`: A transport as text, for a report.

## Theorems

* `withoutEnding_append_ending`: A line ending is taken off once.
* `oneLine_tokens`: Tokens stay on one line.
-/

namespace IrcHarness

/-- How much a log entry matters. -/
inductive LogLevel where
  /-- For everyone. -/
  | info
  /-- For one who looks for a fault. -/
  | debug
  /-- For one who looks at every step. -/
  | trace
deriving DecidableEq, Repr

/-- A line of the log. -/
structure LogEntry where
  /-- How much it matters. -/
  level : LogLevel
  /-- What it says. -/
  text : String
deriving DecidableEq, Repr

namespace Line

/-- A line ending as text. -/
def endingText : List Char := ['\r', '\n']

/-- A text without the line ending at its end, of which one is taken off. -/
def withoutEnding (text : String) : String :=
  let cs := text.toList
  if endingText.isSuffixOf cs then String.ofList (cs.take (cs.length - 2)) else text

theorem withoutEnding_append_ending (text : String) :
    withoutEnding (text ++ "\r\n") = text := by
  have h : (text ++ "\r\n").toList = text.toList ++ endingText := by simp [endingText]
  have hs : endingText.isSuffixOf (text.toList ++ endingText) = true := by
    rw [List.isSuffixOf_iff_suffix]
    exact List.suffix_append text.toList endingText
  simp only [withoutEnding, h, hs, if_true]
  simp [endingText]

end Line

/-- What was written to a stream. -/
structure Outgoing where
  /-- Whether writing works. -/
  writable : Bool
  /-- What went out. -/
  sent : String
  /-- What stayed behind. -/
  unsent : String
deriving DecidableEq, Repr

namespace Outgoing

/-- Nothing was written. -/
def initial : Outgoing := ⟨true, "", ""⟩

/-- Write a text, which goes out together with all that stayed behind, or
    stays behind as well. -/
def write (o : Outgoing) (text : String) : Outgoing :=
  if o.writable then { o with sent := o.sent ++ o.unsent ++ text, unsent := "" }
  else { o with unsent := o.unsent ++ text }

end Outgoing

/-- One end of a stream. -/
structure Transport where
  /-- The name in the log. -/
  name : String
  /-- How to read and what to log. -/
  settings : TransportSettings
  /-- What the clock shows when the token with a number is made. -/
  clock : Nat → Duration
  /-- How many tokens were made. -/
  syncCount : Nat
  /-- Messages that came and were not asked for. -/
  inbox : List Message
  /-- Lines out of reads. -/
  framing : Framing
  /-- The other end. -/
  peer : Peer
  /-- What was written. -/
  outgoing : Outgoing
  /-- The log, the latest entry first. -/
  log : List LogEntry

namespace Transport

/-- A transport that has done nothing. -/
def initial (name : String) (settings : TransportSettings) (clock : Nat → Duration) : Transport :=
  ⟨name, settings, clock, 0, [], .initial, .idle, .initial, []⟩

/-- How long one attempt to read waits, in milliseconds. -/
def readTimeout (t : Transport) : Nat :=
  t.settings.readTimeoutMs.toNat

/-- The token with a number. -/
def token (t : Transport) (number : Nat) : String :=
  Token.text (t.clock number) number

/-- The tokens made so far. -/
def tokens (t : Transport) : List String :=
  (List.range t.syncCount).map fun n => t.token (n + 1)

theorem oneLine_tokens (t : Transport) : OneLine t.tokens := by
  intro text h
  rcases List.mem_map.1 h with ⟨n, _, rfl⟩
  simp only [token, Token.text, String.toList_ofList]
  exact Token.newline_not_mem_chars _ _

/-- The bytes that came and were not taken as a line. -/
def unread (t : Transport) : List UInt8 :=
  t.framing.buffer.bytes

/-- The transport with one more log entry. -/
def note (t : Transport) (level : LogLevel) (text : String) : Transport :=
  { t with log := ⟨level, text⟩ :: t.log }

/-- The transport with a log entry about a line that went out or came in. -/
def noteLine (t : Transport) (direction line : String) : Transport :=
  t.note (if t.settings.showIo then .info else .debug) (direction ++ " " ++ line)

/-- Write a line. Every failure to write means that the peer is gone. -/
def sendLine (t : Transport) (line : String) : Except TransportError Unit × Transport :=
  let text := Line.withoutEnding line
  let t := t.noteLine "->" text
  let t := { t with outgoing := t.outgoing.write (Line.withoutEnding text ++ "\r\n") }
  if t.outgoing.writable then (.ok (), t)
  else (.error .connectionClosed, t.note .debug "write failed")

/-- Write a message, unless it has no line. -/
def sendMessage (t : Transport) (m : Message) : Except TransportError Unit × Transport :=
  match m.encode with
  | .error cause => (.error (.encode cause), t)
  | .ok line => t.sendLine line

/-- Write a `PING` with a new token, and give the token. -/
def sendPing (t : Transport) : Except TransportError String × Transport :=
  let count := t.syncCount + 1
  let token := t.token count
  match { t with syncCount := count }.sendLine ("PING " ++ token) with
  | (.ok _, t) => (.ok token, t)
  | (.error e, t) => (.error e, t)

/-- Shut the stream down, and tell whether that worked. -/
def disconnect (t : Transport) : Bool × Transport :=
  if t.outgoing.writable ∨ t.outgoing.unsent = "" then (true, t.note .debug "disconnected")
  else (false, (t.note .debug "shutdown failed").note .debug "disconnected")

/-- A transport as text. -/
def describe (t : Transport) : String :=
  "SyncTransport \x7b name: " ++ Quoted.write t.name ++
    ", queued: " ++ String.ofList (Digit.decimal t.inbox.length) ++
    ", read_timeout: " ++ t.settings.readTimeout.write ++
    ", show_io: " ++ (if t.settings.showIo then "true" else "false") ++ ", .. \x7d"

end Transport

end IrcHarness
