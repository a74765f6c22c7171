import IrcHarness.Text.Digit
import IrcHarness.Text.Split
import IrcHarness.Text.Utf8
import IrcHarness.Transport.Line

/-!
# Scripted Peers

The other end of a stream, as a script of what it does: it sends bytes, keeps
silent for a while, lets a read fail, or closes its side. Time is virtual. It
is counted in milliseconds and passes only while a read waits, so that a run
depends on nothing but the script.

What a peer sends may depend on what it was asked. A template has places for
the tokens of the transport, the last one or one by number, and they are
filled in when the bytes are read. A place whose token does not exist keeps
its own text.

A read takes the first event of the script. Silence that ends no later than
the read gives up is waited for, and what comes behind it is read; longer
silence is shortened by the time that was waited. Once a peer has closed its
side, a read at the end of the script brings no bytes at once; before that it
waits in vain.

## Main definitions

* `Template`, `Template.fill`: Bytes with places for tokens.
* `PeerEvent`, `Peer`: What a peer does, and a peer at a moment.
* `Peer.read`: Read once, until a deadline.
* `Peer.feeds`: The line feeds that a peer will still send.

## Theorems

* `feeds_fill`: The tokens filled in bring no line feeds.
* `feeds_read`: A read brings the line feeds that it takes off the script.
* `now_read_of_timedOut`: A read that gives up leaves the moment at its
  deadline.
-/

namespace IrcHarness

/-- What kind of failure a read or a write had. -/
inductive FaultKind where
  /-- The peer reset the connection. -/
  | connectionReset
  /-- The connection was given up. -/
  | connectionAborted
  /-- The peer does not read any more. -/
  | brokenPipe
  /-- The stream ended within something. -/
  | unexpectedEof
  /-- The system waited too long. -/
  | timedOut
  /-- The system did not allow it. -/
  | permissionDenied
  /-- Anything else. -/
  | other
deriving DecidableEq, Repr

/-- A failure of a read. -/
structure Fault where
  /-- What kind of failure it is. -/
  kind : FaultKind
  /-- How the system words it. -/
  text : String
deriving DecidableEq, Repr

/-- Whether a failure means that the peer is gone. -/
def Fault.isDisconnect (f : Fault) : Bool :=
  match f.kind with
  | .connectionReset | .connectionAborted | .brokenPipe | .unexpectedEof => true
  | .timedOut | .permissionDenied | .other => false

/-- A part of what a peer sends. -/
inductive Piece where
  /-- These bytes. -/
  | literal (bytes : List UInt8)
  /-- The token with the highest number. -/
  | latestToken
  /-- The token with this number, counted from one. -/
  | token (number : Nat)
deriving DecidableEq, Repr

/-- What a peer sends, with places for tokens. -/
abbrev Template := List Piece

namespace Piece

/-- The word that asks for a token. -/
def word : List Char := ['t', 'o', 'k', 'e', 'n']

/-- The text that asks for the token with the highest number. -/
def latestMark : List Char := '\x7b' :: (word ++ ['\x7d'])

/-- The text that asks for the token with a number. -/
def numberedMark (number : Nat) : List Char :=
  '\x7b' :: (word ++ ':' :: (Digit.decimal number ++ ['\x7d']))

/-- The bytes of a part, when these tokens exist. -/
def fill (tokens : List String) : Piece → List UInt8
  | literal bytes => bytes
  | latestToken => Utf8.encode ((tokens.getLast?.map String.toList).getD latestMark)
  | token 0 => Utf8.encode (numberedMark 0)
  | token (n + 1) => Utf8.encode ((tokens[n]?.map String.toList).getD (numberedMark (n + 1)))

/-- The place that stands at the front of a text, of which the opening brace
    has been taken off, and the text behind it. -/
def place? (cs : List Char) : Option (Piece × List Char) :=
  match Split.cutAt '\x7d' cs with
  | none => none
  | some (name, rest) =>
    if name = word then some (latestToken, rest)
    else match Split.cutAt ':' name with
      | none => none
      | some (asked, digits) =>
        let number := Digit.read 10 digits
        if asked = word ∧ digits = Digit.decimal number then some (token number, rest)
        else none

end Piece

namespace Template

/-- The bytes of a template, when these tokens exist. -/
def fill (tokens : List String) (t : Template) : List UInt8 :=
  t.flatMap (Piece.fill tokens)

/-- The template of text that stands behind an opening brace. -/
def ofOpened (cs : List Char) : Template :=
  match Piece.place? cs with
  | some (piece, rest) => [piece, .literal (Utf8.encode rest)]
  | none => [.literal (Utf8.encode ('\x7b' :: cs))]

/-- The template that a text spells out. -/
def ofText (text : String) : Template :=
  match Split.pieces '\x7b' text.toList with
  | [] => []
  | first :: opened => .literal (Utf8.encode first) :: opened.flatMap ofOpened

/-- The template of bytes without places. -/
def ofBytes (bytes : List UInt8) : Template :=
  [.literal bytes]

theorem fill_ofBytes (tokens : List String) (bytes : List UInt8) :
    (ofBytes bytes).fill tokens = bytes := by
  simp [ofBytes, fill, Piece.fill]

end Template

namespace Piece

/-- The line feeds of a part, whatever tokens exist. -/
def feeds : Piece → Nat
  | literal bytes => Line.feeds bytes
  | latestToken | token _ => 0

end Piece

/-- Tokens that stay on one line. -/
def OneLine (tokens : List String) : Prop :=
  ∀ token ∈ tokens, '\n' ∉ token.toList

namespace Template

/-- The line feeds of a template, whatever tokens exist. -/
def feeds (t : Template) : Nat :=
  t.foldr (fun p n => p.feeds + n) 0

end Template

theorem Line.feeds_encode_eq_zero {cs : List Char} (h : '\n' ∉ cs) :
    Line.feeds (Utf8.encode cs) = 0 := by
  refine List.count_eq_zero.2 fun hmem => ?_
  have hlow : Line.lf.toNat < 0x80 := by decide
  rcases Utf8.exists_of_mem_encode hlow hmem with ⟨c, hc, hn⟩
  have heq : c.toNat = '\n'.toNat := hn.trans (by decide)
  exact h (Char.toNat_inj.1 heq ▸ hc)

theorem Piece.newline_not_mem_numberedMark (n : Nat) : '\n' ∉ numberedMark n := by
  intro h
  simp only [numberedMark, word, List.cons_append, List.nil_append, List.mem_cons,
    List.mem_append, List.not_mem_nil, or_false] at h
  have hdigit : '\n' ∈ Digit.decimal n := by simpa using h
  have := Nat.isDigit_of_mem_toDigits (by omega) (by omega) hdigit
  simp at this

theorem Piece.feeds_fill {tokens : List String} (h : OneLine tokens) (p : Piece) :
    Line.feeds (p.fill tokens) = p.feeds := by
  cases p with
  | literal bytes => rfl
  | latestToken =>
      refine Line.feeds_encode_eq_zero ?_
      cases hl : tokens.getLast? with
      | none => simp [latestMark, word]
      | some token => exact h token (List.mem_of_getLast? hl)
  | token n =>
      cases n with
      | zero => exact Line.feeds_encode_eq_zero (newline_not_mem_numberedMark 0)
      | succ n =>
          refine Line.feeds_encode_eq_zero ?_
          cases ht : tokens[n]? with
          | none => exact newline_not_mem_numberedMark (n + 1)
          | some token => exact h token (List.mem_of_getElem? ht)

/-- The tokens that are filled in bring no line feeds. -/
theorem Template.feeds_fill {tokens : List String} (h : OneLine tokens) (t : Template) :
    Line.feeds (t.fill tokens) = t.feeds := by
  induction t with
  | nil => rfl
  | cons p t ih =>
      simp only [fill, feeds, List.flatMap_cons, Line.feeds_append, List.foldr_cons] at ih ⊢
      rw [Piece.feeds_fill h, ih]

/-- One thing that a peer does. -/
inductive PeerEvent where
  /-- Send bytes that one read brings. -/
  | data (template : Template)
  /-- Keep silent for some milliseconds. -/
  | silence (ms : Nat)
  /-- Let one read fail. -/
  | fault (f : Fault)
  /-- Close this side, so that a read brings no bytes. -/
  | close
deriving DecidableEq, Repr

/-- The line feeds that an event sends. -/
def PeerEvent.feeds : PeerEvent → Nat
  | .data template => template.feeds
  | .silence _ | .fault _ | .close => 0

/-- A peer at a moment. -/
structure Peer where
  /-- What it will do. -/
  script : List PeerEvent
  /-- The moment, in milliseconds. -/
  now : Nat
  /-- Whether it has closed its side and sent nothing since. -/
  closed : Bool
deriving DecidableEq, Repr

/-- What a read brings. -/
inductive Reading where
  /-- Bytes, and none of them when the peer has closed its side. -/
  | bytes (bs : List UInt8)
  /-- A failure. -/
  | fault (f : Fault)
  /-- Nothing until the deadline. -/
  | timedOut
deriving DecidableEq, Repr

/-- The line feeds among the bytes that a read brings. -/
def Reading.feeds : Reading → Nat
  | .bytes bs => Line.feeds bs
  | .fault _ | .timedOut => 0

namespace Peer

/-- The line feeds that a peer will still send. -/
def feeds (p : Peer) : Nat :=
  p.script.foldr (fun e n => e.feeds + n) 0

/-- A peer that has done nothing and has nothing to do. -/
def idle : Peer := ⟨[], 0, false⟩

/-- The peer with more to do in the end. -/
def willDo (p : Peer) (events : List PeerEvent) : Peer :=
  { p with script := p.script ++ events }

/-- Read once from a peer whose script is given, at a moment that is given. -/
def readScript (tokens : List String) (deadline : Nat) (closed : Bool) :
    Nat → List PeerEvent → Reading × Peer
  | now, [] =>
    if closed then (.bytes [], ⟨[], now, closed⟩) else (.timedOut, ⟨[], deadline, closed⟩)
  | now, .data t :: rest => (.bytes (t.fill tokens), ⟨rest, now, false⟩)
  | now, .silence ms :: rest =>
    if now + ms ≤ deadline then readScript tokens deadline closed (now + ms) rest
    else (.timedOut, ⟨.silence (now + ms - deadline) :: rest, deadline, closed⟩)
  | now, .fault f :: rest => (.fault f, ⟨rest, now, closed⟩)
  | now, .close :: rest => (.bytes [], ⟨rest, now, true⟩)

/-- Read once, and give up at a deadline. -/
def read (tokens : List String) (deadline : Nat) (p : Peer) : Reading × Peer :=
  readScript tokens (max p.now deadline) p.closed p.now p.script

/-- Let time pass until a moment, without a read. -/
def waitUntil (p : Peer) (moment : Nat) : Peer :=
  let passed := moment - p.now
  match p.script with
  | .silence ms :: rest => ⟨.silence (ms - passed) :: rest, p.now + passed, p.closed⟩
  | script => ⟨script, p.now + passed, p.closed⟩

/-- A read that brings bytes takes an event off the script. -/
theorem length_readScript_lt_of_bytes (tokens : List String) (deadline : Nat) (closed : Bool)
    (now : Nat) (script : List PeerEvent) (b : UInt8) (bs : List UInt8)
    (h : (readScript tokens deadline closed now script).1 = .bytes (b :: bs)) :
    (readScript tokens deadline closed now script).2.script.length < script.length := by
  induction script generalizing now with
  | nil =>
      simp only [readScript] at h
      split at h <;> simp at h
  | cons e rest ih =>
      cases e with
      | data t => simp [readScript]
      | silence ms =>
          simp only [readScript] at h ⊢
          split
          · next hle =>
              rw [if_pos hle] at h
              exact Nat.lt_succ_of_lt (ih (now + ms) h)
          · next hle =>
              rw [if_neg hle] at h
              simp at h
      | fault f => simp [readScript]
      | close => simp [readScript]

/-- A read that gives up leaves the moment at its deadline. -/
theorem now_readScript_of_timedOut (tokens : List String) (deadline : Nat) (closed : Bool)
    (now : Nat) (script : List PeerEvent)
    (h : (readScript tokens deadline closed now script).1 = .timedOut) :
    (readScript tokens deadline closed now script).2.now = deadline := by
  induction script generalizing now with
  | nil =>
      simp only [readScript] at h ⊢
      split
      · next hc =>
          rw [if_pos hc] at h
          simp at h
      · rfl
  | cons e rest ih =>
      cases e with
      | data t => simp [readScript] at h
      | silence ms =>
          simp only [readScript] at h ⊢
          split
          · next hle =>
              rw [if_pos hle] at h
              exact ih (now + ms) h
          · rfl
      | fault f => simp [readScript] at h
      | close => simp [readScript] at h

theorem length_read_lt_of_bytes {tokens : List String} {deadline : Nat} {p p' : Peer} {b : UInt8}
    {bs : List UInt8} (h : p.read tokens deadline = (.bytes (b :: bs), p')) :
    p'.script.length < p.script.length := by
  have hlt := length_readScript_lt_of_bytes tokens (max p.now deadline) p.closed p.now p.script b bs
  rw [read] at h
  rw [h] at hlt
  exact hlt rfl

theorem now_read_of_timedOut {tokens : List String} {deadline : Nat} {p p' : Peer}
    (h : p.read tokens deadline = (.timedOut, p')) : p'.now = max p.now deadline := by
  have hnow := now_readScript_of_timedOut tokens (max p.now deadline) p.closed p.now p.script
  rw [read] at h
  rw [h] at hnow
  exact hnow rfl

/-- Time does not go back. -/
theorem le_now_readScript (tokens : List String) (deadline : Nat) (closed : Bool) (now : Nat)
    (script : List PeerEvent) (h : now ≤ deadline) :
    now ≤ (readScript tokens deadline closed now script).2.now := by
  induction script generalizing now with
  | nil =>
      simp only [readScript]
      split
      · exact Nat.le_refl now
      · exact h
  | cons e rest ih =>
      cases e with
      | silence ms =>
          simp only [readScript]
          split
          · next hle => exact Nat.le_trans (Nat.le_add_right now ms) (ih (now + ms) hle)
          · exact h
      | data t => exact Nat.le_refl now
      | fault f => exact Nat.le_refl now
      | close => exact Nat.le_refl now

theorem le_now_read (tokens : List String) (deadline : Nat) (p : Peer) :
    p.now ≤ (p.read tokens deadline).2.now :=
  le_now_readScript tokens (max p.now deadline) p.closed p.now p.script (Nat.le_max_left ..)

theorem feeds_readScript {tokens : List String} (ht : OneLine tokens) (deadline : Nat)
    (closed : Bool) (now : Nat) (script : List PeerEvent) :
    (readScript tokens deadline closed now script).1.feeds
      + (readScript tokens deadline closed now script).2.feeds
      = script.foldr (fun e n => e.feeds + n) 0 := by
  induction script generalizing now with
  | nil =>
      simp only [readScript]
      split <;> rfl
  | cons e rest ih =>
      cases e with
      | data t => simp [readScript, Reading.feeds, feeds, PeerEvent.feeds, Template.feeds_fill ht]
      | silence ms =>
          simp only [readScript]
          split
          · rw [ih (now + ms)]
            simp [PeerEvent.feeds]
          · simp [Reading.feeds, feeds, PeerEvent.feeds]
      | fault f => simp [readScript, Reading.feeds, feeds, PeerEvent.feeds]
      | close => simp [readScript, Reading.feeds, feeds, PeerEvent.feeds, Line.feeds]

/-- A read brings the line feeds that it takes off the script. -/
theorem feeds_read {tokens : List String} (ht : OneLine tokens) (deadline : Nat) (p : Peer) :
    (p.read tokens deadline).1.feeds + (p.read tokens deadline).2.feeds = p.feeds :=
  feeds_readScript ht (max p.now deadline) p.closed p.now p.script

theorem feeds_waitUntil (p : Peer) (moment : Nat) : (p.waitUntil moment).feeds = p.feeds := by
  simp only [waitUntil]
  split
  · next h => simp [feeds, h, PeerEvent.feeds]
  · rfl

theorem le_now_waitUntil (p : Peer) (moment : Nat) : moment ≤ (p.waitUntil moment).now := by
  simp only [waitUntil]
  split <;> simp only [] <;> omega

end Peer

end IrcHarness
