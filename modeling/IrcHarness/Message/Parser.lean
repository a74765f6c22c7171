import IrcHarness.Message.Basic
import IrcHarness.Message.Error
import IrcHarness.Message.TagValue
import IrcHarness.Text.Utf8

/-!
# Reading Messages

A line is first cut into its sections, and the sections are looked at
afterwards. Tags start with `@` and the source with `:`, and either ends at
the first blank. Any number of blanks may follow. The next word is the
command, and the parameters behind it are words too, up to one that starts
with a colon and takes the rest of the line as it is.

Cutting fails only when nothing is left for the command. What the sections
hold is checked from left to right, so of two faults the one further left is
reported, with two exceptions: a character that no line may hold is found
first, and a missing command before anything in the tags.

## Main definitions

* `Message.splitParams`: The parameters of the text behind a command.
* `Message.Sections`: A line cut into its sections.
* `Message.parseTags`: The tags of a tags section.
* `Message.parse`: The message of a line, with or without its ending.
* `Message.parseBytes`: The message of a line of bytes.
-/

namespace IrcHarness

namespace Message

/-- Whether a character is not a blank. -/
def isWordChar (c : Char) : Bool := c ≠ ' '

/-- A list without the blanks in front. -/
def dropBlanks (cs : List Char) : List Char :=
  cs.dropWhile (· = ' ')

theorem dropBlanks_length_le (cs : List Char) : (dropBlanks cs).length ≤ cs.length :=
  (List.dropWhile_sublist _).length_le

/-- The parameters of the text behind a command. -/
def splitParams (cs : List Char) : List (List Char) :=
  match _h : dropBlanks cs with
  | [] => []
  | c :: rest =>
    if c = ':' then [rest]
    else (c :: rest.takeWhile isWordChar) :: splitParams (rest.dropWhile isWordChar)
termination_by cs.length
decreasing_by
  have h₁ := dropBlanks_length_le cs
  have h₂ : (rest.dropWhile isWordChar).length ≤ rest.length :=
    (List.dropWhile_sublist _).length_le
  rw [_h, List.length_cons] at h₁
  omega

/-- A section that a mark opens and a blank ends, and what follows it. -/
def markedSection (mark : Char) : List Char → Option (List Char) × List Char
  | [] => (none, [])
  | c :: rest =>
    if c = mark then (some (rest.takeWhile isWordChar), rest.dropWhile isWordChar)
    else (none, c :: rest)

/-- A line cut into its sections, before anything is checked. -/
structure Sections where
  /-- What stands behind `@`. -/
  tags : Option (List Char)
  /-- What stands behind `:`. -/
  source : Option (List Char)
  /-- The first word behind tags and source. -/
  command : List Char
  /-- The parameters. -/
  params : List (List Char)

/-- Cut a line into its sections, which takes a command. -/
def Sections.ofLine (line : List Char) : Option Sections :=
  let (tags, rest) := markedSection '@' line
  let (source, rest) := markedSection ':' (dropBlanks rest)
  let rest := dropBlanks rest
  match rest.takeWhile isWordChar with
  | [] => none
  | command => some ⟨tags, source, command, splitParams (rest.dropWhile isWordChar)⟩

/-- Read one tag. The error for a missing name shows the whole section. -/
def parseTag (tags : List Char) (piece : List Char) : Except ParseError Tag :=
  match Split.cutAt '=' piece with
  | none =>
    if TagKey.name piece = [] then .error (.emptyTagKey (String.ofList tags))
    else .ok ⟨String.ofList piece, none⟩
  | some (key, value) =>
    match TagValue.unescape value with
    | none => .error (.unterminatedEscape (String.ofList value))
    | some meant =>
      if TagKey.name key = [] then .error (.emptyTagKey (String.ofList tags))
      else .ok ⟨String.ofList key, some (String.ofList meant)⟩

/-- Read the pieces of a tags section into tags read so far. -/
def parsePieces (tags : List Char) (read : List Tag) :
    List (List Char) → Except ParseError (List Tag)
  | [] => .ok read
  | piece :: rest =>
    match parseTag tags piece with
    | .error e => .error e
    | .ok t => parsePieces tags (Tags.set read t.key t.value) rest

/-- The tags of a tags section. A key that comes again replaces the value. -/
def parseTags (tags : List Char) : Except ParseError (List Tag) :=
  parsePieces tags [] (Split.pieces ';' tags)

/-- A line without its ending, which is CR LF or LF alone. -/
def dropEnding (line : List Char) : List Char :=
  match line.reverse with
  | '\n' :: '\r' :: rest => rest.reverse
  | '\n' :: rest => rest.reverse
  | _ => line

/-- Whether a character may not stand inside a line. -/
def isIllegal (c : Char) : Bool :=
  c = '\r' || c = '\n' || c = '\x00'

/-- The first character that may not stand inside a line, and how many bytes
    stand in front of it. -/
def firstIllegal? : List Char → Option (Char × Nat)
  | [] => none
  | c :: rest =>
    if isIllegal c then some (c, 0)
    else (firstIllegal? rest).map fun found => (found.1, c.utf8Size + found.2)

/-- Check the sections of a line and make a message of them. -/
def ofSections (line : List Char) (s : Sections) : Except ParseError Message := do
  let tags ← match s.tags with
    | none => .ok []
    | some tags => parseTags tags
  if s.source = some [] then .error (.invalidSource "")
  if s.command.head? = some ':' ∨ s.command.head? = some '@' then
    .error (.missingCommand (String.ofList line))
  .ok ⟨tags, s.source.map String.ofList, String.ofList s.command, s.params.map String.ofList⟩

/-- The message of a line without an ending. -/
def parseBody (line : List Char) : Except ParseError Message :=
  if line = [] then .error .emptyMessage
  else match firstIllegal? line with
    | some (c, position) => .error (.illegalCharacter c.toNat position)
    | none =>
      match Sections.ofLine line with
      | none => .error (.missingCommand (String.ofList line))
      | some s => ofSections line s

/-- The message of a line, with or without its ending. -/
def parse (line : String) : Except ParseError Message :=
  parseBody (dropEnding line.toList)

/-- The message of a line of bytes, which have to be UTF-8. -/
def parseBytes (bytes : List UInt8) : Except ParseError Message :=
  match Utf8.decode bytes with
  | .error position => .error (.invalidUtf8 position)
  | .ok cs => parseBody (dropEnding cs)

end Message

end IrcHarness
