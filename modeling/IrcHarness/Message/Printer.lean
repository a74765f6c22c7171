import IrcHarness.Message.Basic
import IrcHarness.Message.Error
import IrcHarness.Message.TagValue

/-!
# Writing Messages

The wire line of a message. The trailing parameter gets its colon only when it
needs one: when it is empty, holds a blank, or starts with a colon itself.

`render` writes any message, also one whose parts would be read as something
else. `validate` finds the first part of that kind, in the order in which the
parts are written, and `encode` writes only what `validate` accepts.

## Main definitions

* `Message.render`: The line of a message.
* `Message.validate`: The first reason why the line would not read back.
* `Message.encode`: The line of a message that passes `validate`.
-/

namespace IrcHarness

namespace Message

/-- Whether a trailing parameter is written with a colon. -/
def needsColon (param : List Char) : Bool :=
  param = [] || param.contains ' ' || param.head? = some ':'

/-- One tag as it is written. -/
def renderTag (t : Tag) : List Char :=
  t.key.toList ++ match t.value with
    | none => []
    | some value => '=' :: TagValue.escape value.toList

/-- Tags with a semicolon between each two. -/
def renderTags : List Tag → List Char
  | [] => []
  | [t] => renderTag t
  | t :: rest => renderTag t ++ ';' :: renderTags rest

/-- Parameters with a blank in front of each, the last one with its colon. -/
def renderParams : List (List Char) → List Char
  | [] => []
  | [last] => ' ' :: ((if needsColon last then [':'] else []) ++ last)
  | param :: rest => ' ' :: (param ++ renderParams rest)

/-- The line of a message without its ending. -/
def renderBody (m : Message) : List Char :=
  (if m.tags = [] then [] else '@' :: (renderTags m.tags ++ [' '])) ++
    (match m.source with
      | none => []
      | some source => ':' :: (source.toList ++ [' '])) ++
    m.command.toList ++
    renderParams (m.params.map String.toList)

/-- The line of a message, with its ending. -/
def render (m : Message) : String :=
  String.ofList (m.renderBody ++ ['\r', '\n'])

/-- The characters that no part of a line may hold. -/
def isLineBreaker (c : Char) : Bool :=
  c = '\r' || c = '\n' || c = '\x00'

/-- The characters that no word of a line may hold. -/
def isWordBreaker (c : Char) : Bool :=
  c = ' ' || isLineBreaker c

/-- Whether a tag key can be written. -/
def isWritableKey (key : List Char) : Bool :=
  TagKey.name key ≠ [] && !key.any fun c => isWordBreaker c || c = ';' || c = '='

/-- Whether a source can be written. -/
def isWritableSource (source : List Char) : Bool :=
  source ≠ [] && !source.any isWordBreaker

/-- Whether a command can be written. -/
def isWritableCommand (command : List Char) : Bool :=
  command ≠ [] && command.head? ≠ some ':' && command.head? ≠ some '@' &&
    !command.any isWordBreaker

/-- Check parameters from an index on. All but the last have to be words. -/
def validateParams (index : Nat) : List String → Except EncodeError Unit
  | [] => .ok ()
  | param :: rest =>
    if param.toList.any isLineBreaker then .error (.illegalCharacter index)
    else if rest ≠ [] ∧ needsColon param.toList then .error (.invalidMiddleParam index param)
    else validateParams (index + 1) rest

/-- The first reason, in writing order, why the line of a message would not
    read back as that message. -/
def validate (m : Message) : Except EncodeError Unit :=
  match m.tags.find? fun t => !isWritableKey t.key.toList with
  | some t => .error (.invalidTagKey t.key)
  | none =>
    match m.source.filter fun s => !isWritableSource s.toList with
    | some source => .error (.invalidSource source)
    | none =>
      if isWritableCommand m.command.toList then validateParams 0 m.params
      else .error (.invalidCommand m.command)

/-- The line of a message that passes `validate`. -/
def encode (m : Message) : Except EncodeError String :=
  match m.validate with
  | .ok () => .ok m.render
  | .error e => .error e

end Message

end IrcHarness
