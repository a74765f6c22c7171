import IrcHarness.Text.Quoted

/-!
# Codec Errors

Why a line is no message, and why a message has no line. Each cause carries
what the person who reads the report needs to find the place.

## Main definitions

* `ParseError`: Why a line cannot be read.
* `EncodeError`: Why a message cannot be written.
* `ParseError.message`, `EncodeError.message`: The wording.
-/

namespace IrcHarness

/-- Why a line cannot be read. -/
inductive ParseError where
  /-- Nothing is left without the line ending. -/
  | emptyMessage
  /-- No command follows the tags and the source. -/
  | missingCommand (line : String)
  /-- The source is empty. -/
  | invalidSource (source : String)
  /-- A tag of the section has no name. -/
  | emptyTagKey (tags : String)
  /-- A tag value ends in a lone backslash. -/
  | unterminatedEscape (value : String)
  /-- The line holds a NUL, CR or LF. -/
  | illegalCharacter (byte : Nat) (position : Nat)
  /-- The bytes are not UTF-8 from a position on. -/
  | invalidUtf8 (position : Nat)
deriving DecidableEq, Repr

/-- Why a message cannot be written so that it reads back. -/
inductive EncodeError where
  /-- The command is empty, or would be read as something else. -/
  | invalidCommand (command : String)
  /-- The source is empty or would end early. -/
  | invalidSource (source : String)
  /-- A tag key has no name or would end early. -/
  | invalidTagKey (key : String)
  /-- A parameter that is not the last would be read as something else. -/
  | invalidMiddleParam (index : Nat) (param : String)
  /-- A parameter holds a NUL, CR or LF. -/
  | illegalCharacter (index : Nat)
deriving DecidableEq, Repr

/-- The wording of a parse error. -/
def ParseError.message : ParseError → String
  | .emptyMessage => "empty message"
  | .missingCommand line => "missing command in " ++ Quoted.write line
  | .invalidSource source => "invalid prefix: " ++ Quoted.write source
  | .emptyTagKey tags => "tag with empty key in " ++ Quoted.write tags
  | .unterminatedEscape value => "unterminated escape in tag value " ++ Quoted.write value
  | .illegalCharacter byte position =>
    "illegal character 0x" ++ String.ofList (Digit.padded 2 (Digit.hexadecimal byte)) ++
      " at position " ++ String.ofList (Digit.decimal position)
  | .invalidUtf8 position => "invalid UTF-8 at byte " ++ String.ofList (Digit.decimal position)

/-- The wording of an encode error. -/
def EncodeError.message : EncodeError → String
  | .invalidCommand command => "invalid command: " ++ Quoted.write command
  | .invalidSource source => "invalid prefix: " ++ Quoted.write source
  | .invalidTagKey key => "invalid tag key: " ++ Quoted.write key
  | .invalidMiddleParam index param =>
    "parameter " ++ String.ofList (Digit.decimal index) ++
      " cannot be sent as a middle parameter: " ++ Quoted.write param
  | .illegalCharacter index =>
    "parameter " ++ String.ofList (Digit.decimal index) ++
      " contains an illegal control character"

end IrcHarness
