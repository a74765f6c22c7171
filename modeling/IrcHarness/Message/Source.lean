import IrcHarness.Text.Split

/-!
# Message Sources

Where a message comes from. The text in front of a command is either the name
of a server or a mask `nick!user@host` of which user and host may be missing.

The first `@` decides where the host starts, and the first `!` in front of it
where the user does. Everything behind the `@` is host, with whatever `!` it
holds. A text with neither sign is a server name when it has a dot and a
nickname otherwise. A part that would be empty counts as missing, but for the
host, which is there as soon as the `@` is.

## Main definitions

* `Source`: The parts of a source, with the text they were taken from.
* `Source.ofText`: The parts of a text.
* `Source.isServer`: Whether a source names a server.
-/

namespace IrcHarness

/-- The parts of the text that says where a message comes from. -/
structure Source where
  /-- The nickname, missing for a server. -/
  nick : Option String
  /-- The user name. -/
  user : Option String
  /-- The host, or the name of the server. -/
  host : Option String
  /-- The whole text. -/
  raw : String
deriving DecidableEq, Repr

namespace Source

/-- A part of a mask, which counts as missing when it is empty. -/
def part (cs : List Char) : Option String :=
  if cs = [] then none else some (String.ofList cs)

/-- Nickname and user of the text in front of the host. -/
def nickAndUser (cs : List Char) : Option String × Option String :=
  match Split.cutAt '!' cs with
  | some (nick, user) => (part nick, part user)
  | none => (part cs, none)

/-- The parts of a text. -/
def ofText (text : String) : Source :=
  let cs := text.toList
  match Split.cutAt '@' cs with
  | some (mask, host) =>
    let names := nickAndUser mask
    ⟨names.1, names.2, some (String.ofList host), text⟩
  | none =>
    if '!' ∉ cs ∧ '.' ∈ cs then ⟨none, none, some text, text⟩
    else
      let names := nickAndUser cs
      ⟨names.1, names.2, none, text⟩

/-- Whether a source names a server: it has a host and nothing in front. -/
def isServer (s : Source) : Bool :=
  s.nick.isNone && s.user.isNone && s.host.isSome

end Source

end IrcHarness
