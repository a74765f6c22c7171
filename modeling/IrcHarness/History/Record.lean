import IrcHarness.History.Timestamp
import IrcHarness.Json.Printer
import IrcHarness.Message.Basic

/-!
# History Records

What is the same in every copy of a message. One message may reach a client
live, in a playback, and through a bouncer, with tags that differ for good
reasons. A record keeps the time, the identity, the target and the text, and
copies are equal when their records are.

A record is made of a message with at least two parameters, the first and the
last of them. A playback is reduced as a whole: its frame and anything that is
not a `PRIVMSG` or `NOTICE` is passed over, and the first message that has too
few parameters fails all of it.

## Main definitions

* `HistoryRecord`: The record of a message.
* `HistoryRecord.reduce`: The record that a message makes.
* `HistoryRecord.reduceBatch`: The records of a playback.
* `HistoryRecord.value`, `HistoryRecord.json`: A record as a value and as
  text, which treat a missing time or identity differently.
-/

namespace IrcHarness

/-- Why a message makes no record. -/
inductive HistoryError where
  /-- There is no target and text. -/
  | tooFewParams (command : String) (count : Nat)
deriving DecidableEq, Repr

/-- The wording of a history error. -/
def HistoryError.message : HistoryError → String
  | .tooFewParams command count =>
    command ++ " has " ++ String.ofList (Digit.decimal count) ++
      " parameters, history records need a target and a text"

/-- What is the same in every copy of a message. -/
structure HistoryRecord where
  /-- The time that the server gave. -/
  time : Option String
  /-- The identity of the message. -/
  msgid : Option String
  /-- The first parameter. -/
  target : String
  /-- The last parameter. -/
  text : String
deriving DecidableEq, Repr

namespace HistoryRecord

/-- The record that a message makes. -/
def reduce (m : Message) : Except HistoryError HistoryRecord :=
  match m.params with
  | target :: second :: rest =>
    .ok ⟨m.serverTime?, m.msgid?, target, (second :: rest).getLast (List.cons_ne_nil _ _)⟩
  | params => .error (.tooFewParams m.command params.length)

/-- Whether a message carries text that a playback repeats. -/
def isReplayed (m : Message) : Bool :=
  m.isCommand "PRIVMSG" || m.isCommand "NOTICE"

/-- The records that all of some messages make, or the first error. -/
def reduceAll : List Message → Except HistoryError (List HistoryRecord)
  | [] => .ok []
  | m :: rest =>
    match reduce m with
    | .error e => .error e
    | .ok r =>
      match reduceAll rest with
      | .error e => .error e
      | .ok rs => .ok (r :: rs)

/-- The records of a playback. -/
def reduceBatch (messages : List Message) : Except HistoryError (List HistoryRecord) :=
  reduceAll (messages.filter isReplayed)

/-- The point in time of a record, if it has one that is well formed. -/
def timestamp? (r : HistoryRecord) : Option Timestamp :=
  r.time.bind Timestamp.parse?

/-- The value that stands for a record. What is missing is `null`. -/
def value (r : HistoryRecord) : Json :=
  Json.ofFields [
    ("time", Json.ofOption r.time),
    ("msgid", Json.ofOption r.msgid),
    ("target", .string r.target),
    ("text", .string r.text)]

/-- An entry of the text of a record, with a comma behind it. -/
def optionalEntry (key : String) : Option String → List Char
  | none => []
  | some s => Json.writeString key ++ ':' :: (Json.writeString s ++ [','])

/-- A record as JSON text. What is missing is left out. -/
def json (r : HistoryRecord) : String :=
  String.ofList ('\x7b' :: (optionalEntry "time" r.time ++ optionalEntry "msgid" r.msgid ++
    Json.writeString "target" ++ ':' :: (Json.writeString r.target ++
    ',' :: (Json.writeString "text" ++ ':' :: (Json.writeString r.text ++ ['\x7d'])))))

end HistoryRecord

end IrcHarness
