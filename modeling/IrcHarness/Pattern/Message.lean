import IrcHarness.Message.Basic
import IrcHarness.Pattern.Check

/-!
# Patterns for Messages

Messages are compared with patterns through a value that shows their parts:
tags as an object, the source as text and taken apart, command and parameters.
A message without a source lacks both of its entries.

`MessagePattern` is a pattern for such values, field by field. A field that is
not set matches anything, and so does one that is set to the wildcard, also
when the message has no source at all. That is why wildcards for parts of the
source are left out: an entry for the source asks for there being one.

## Main definitions

* `Message.value`: The value that stands for a message.
* `MessagePattern`: A pattern by fields.
* `MessagePattern.toPattern`: The pattern for values.
* `MessagePattern.ofMessage`: The pattern that a message makes.
-/

namespace IrcHarness

namespace Message

/-- The tags as an object. -/
def tagsValue (tags : List Tag) : Json :=
  Json.ofFields (tags.map fun t => (t.key, Json.ofOption t.value))

/-- The entries for a source. -/
def sourceEntries : Option Source → List (String × Json)
  | none => []
  | some s => [
    ("prefix", .string s.raw),
    ("source", Json.ofFields [
      ("nick", Json.ofOption s.nick),
      ("user", Json.ofOption s.user),
      ("host", Json.ofOption s.host)])]

/-- The value that stands for a message. -/
def value (m : Message) : Json :=
  Json.ofFields (("tags", tagsValue m.tags) :: sourceEntries m.sourceParts? ++ [
    ("command", .string m.command),
    ("params", .array (m.params.map Json.string))])

end Message

/-- A pattern for messages, field by field. -/
structure MessagePattern where
  /-- The command. -/
  command : Option Pattern := none
  /-- The list of parameters. -/
  params : Option Pattern := none
  /-- The source as a whole. -/
  source : Option Pattern := none
  /-- The nickname of the source. -/
  nick : Option Pattern := none
  /-- The user name of the source. -/
  user : Option Pattern := none
  /-- The host of the source. -/
  host : Option Pattern := none
  /-- The object of tags. -/
  tags : Option Pattern := none

namespace MessagePattern

/-- The pattern that matches every message. -/
def any : MessagePattern := {}

/-- Exactly these parameters. -/
def withParams (p : MessagePattern) (items : List Pattern) : MessagePattern :=
  { p with params := some (.closedList items) }

/-- Parameters that start with these. -/
def withFirstParams (p : MessagePattern) (items : List Pattern) : MessagePattern :=
  { p with params := some (.openList items) }

/-- At least these tags. -/
def withTags (p : MessagePattern) (entries : List (String × Pattern)) : MessagePattern :=
  { p with tags := some (.openMap entries) }

/-- Exactly these tags. -/
def withExactTags (p : MessagePattern) (entries : List (String × Pattern)) : MessagePattern :=
  { p with tags := some (.closedMap entries) }

/-- An entry for a field that is set. -/
def entry (key : String) : Option Pattern → List (String × Pattern)
  | none => []
  | some p => [(key, p)]

/-- The entries for parts of the source that are set to more than the
    wildcard. -/
def sourceParts (p : MessagePattern) : List (String × Pattern) :=
  (entry "nick" p.nick ++ entry "user" p.user ++ entry "host" p.host).filter
    fun e => !e.2.isWildcard

/-- The pattern for the values that stand for messages. -/
def toPattern (p : MessagePattern) : Pattern :=
  .openMap (entry "tags" p.tags ++ entry "prefix" p.source ++ entry "command" p.command ++
    entry "params" p.params ++
    if p.sourceParts = [] then [] else [("source", .openMap p.sourceParts)])

/-- The pattern that a message makes: its command and parameters exactly, its
    source and its tags if it has any, and further tags allowed. -/
def ofMessage (m : Message) : MessagePattern :=
  let base : MessagePattern :=
    { command := some (.text m.command)
      params := some (.closedList (m.params.map Pattern.text))
      source := m.source.map Pattern.text }
  if m.tags = [] then base
  else base.withTags (m.tags.map fun t => (t.key, .literal (Json.ofOption t.value)))

end MessagePattern

end IrcHarness
