import IrcHarness.Message.Source
import IrcHarness.Text.Ascii
import IrcHarness.Text.Digit

/-!
# Messages

One protocol line as its parts: tags, source, command and parameters. Commands
are not decoded further, so a test can look at exactly what a peer sent, and
at replies that nobody has given a meaning yet.

Tags are kept in the order in which their keys first came up, and setting a
key that is there already changes its value where it stands. Two messages are
equal as messages when their tags are the same mapping, whatever the order.
The test asks as many tags of both sides and looks up every tag of the left
side on the right; on messages with distinct keys that is equality up to
order.

## Main definitions

* `Tag`, `Message`: A tag and a message.
* `Tags.find?`, `Tags.set`: Looking up and setting a key.
* `Message.setTag`, `Message.withParam` and the like: Building a message.
* `Message.tagValue?`, `Message.numeric?` and the like: Reading one.
* `Message.equals`: Equality of messages.
* `Message.KeysDistinct`: No two tags share a key.

## Theorems

* `find?_set_self`: A key that was set has the value it was set to.
* `find?_set_of_ne`: Setting a key leaves all others alone.
-/

namespace IrcHarness

/-- A tag, whose value may be missing. -/
structure Tag where
  /-- The key with its vendor and its client-only mark. -/
  key : String
  /-- The value as meant, not as written on the wire. -/
  value : Option String
deriving DecidableEq, Repr

namespace Tags

/-- The first tag with a key. -/
def find? (tags : List Tag) (key : String) : Option Tag :=
  tags.find? fun t => t.key = key

/-- Give a key a value: in place when the key is there, at the end when it is
    not. -/
def set : List Tag → String → Option String → List Tag
  | [], key, value => [⟨key, value⟩]
  | t :: rest, key, value =>
    if t.key = key then ⟨t.key, value⟩ :: rest else t :: set rest key value

theorem find?_set_self (tags : List Tag) (key : String) (value : Option String) :
    find? (set tags key value) key = some ⟨key, value⟩ := by
  induction tags with
  | nil => simp [set, find?]
  | cons t rest ih =>
      simp only [set]
      split
      · next h => simp [find?, h]
      · next h =>
          simp only [find?, List.find?_cons, h, decide_false]
          exact ih

theorem find?_set_of_ne (tags : List Tag) (key other : String) (value : Option String)
    (h : other ≠ key) : find? (set tags key value) other = find? tags other := by
  induction tags with
  | nil => simp [set, find?, h.symm]
  | cons t rest ih =>
      simp only [set]
      split
      · next hk =>
          have hne : t.key ≠ other := fun he => h (he.symm.trans hk)
          simp [find?, hne]
      · simp only [find?, List.find?_cons] at ih ⊢
        split
        · rfl
        · exact ih

end Tags

/-- One protocol line. -/
structure Message where
  /-- The tags, in the order of first appearance. -/
  tags : List Tag
  /-- Where the message comes from, without the colon. -/
  source : Option String
  /-- The command word or the three digits of a reply. -/
  command : String
  /-- The parameters, the trailing one last and like any other. -/
  params : List String
deriving DecidableEq, Repr

namespace Message

/-- A message with nothing but a command. -/
def ofCommand (command : String) : Message :=
  ⟨[], none, command, []⟩

/-- The message with these parameters. -/
def withParams (m : Message) (params : List String) : Message :=
  { m with params }

/-- The message with one more parameter at the end. -/
def withParam (m : Message) (param : String) : Message :=
  { m with params := m.params ++ [param] }

/-- The message with this source. -/
def withSource (m : Message) (source : String) : Message :=
  { m with source := some source }

/-- The message with a tag set. -/
def setTag (m : Message) (key : String) (value : Option String) : Message :=
  { m with tags := Tags.set m.tags key value }

/-- The first tag with a key. -/
def tag? (m : Message) (key : String) : Option Tag :=
  Tags.find? m.tags key

/-- Whether there is a tag with a key, with or without a value. -/
def hasTag (m : Message) (key : String) : Bool :=
  (m.tag? key).isSome

/-- The value of the tag with a key. -/
def tagValue? (m : Message) (key : String) : Option String :=
  (m.tag? key).bind Tag.value

/-- The time that the server gives. -/
def serverTime? (m : Message) : Option String := m.tagValue? "time"

/-- The identity of the message. -/
def msgid? (m : Message) : Option String := m.tagValue? "msgid"

/-- The label that ties a reply to a request. -/
def label? (m : Message) : Option String := m.tagValue? "label"

/-- The number of a reply whose command is exactly three ASCII digits. -/
def numeric? (m : Message) : Option Nat :=
  let cs := m.command.toList
  if cs.length = 3 ∧ cs.all Ascii.isDigit then some (Digit.read 10 cs) else none

/-- Whether the command is the given one, up to the case of ASCII letters. -/
def isCommand (m : Message) (command : String) : Bool :=
  Ascii.eqIgnoreCase m.command command

/-- The parts of the source. -/
def sourceParts? (m : Message) : Option Source :=
  m.source.map Source.ofText

/-- The nickname of the source. -/
def sourceNick? (m : Message) : Option String :=
  m.sourceParts?.bind Source.nick

/-- Equality of messages: the same command, source and parameters, as many
    tags, and each tag of the left side found with its value on the right. -/
def equals (a b : Message) : Bool :=
  a.command = b.command && a.source = b.source && a.params = b.params &&
    a.tags.length = b.tags.length &&
    a.tags.all fun t => (b.tag? t.key).any fun u => u.value = t.value

/-- No two tags share a key. -/
def KeysDistinct (m : Message) : Prop :=
  (m.tags.map Tag.key).Nodup

end Message

end IrcHarness
