import IrcHarness.Proofs.Transport.Lines
import IrcHarness.Transport.Peer

/-!
# What a Peer Still Sends

A script cuts a stream into reads and puts silences between them, neither of
which the reader should notice. What is left without cuts and silences is the
list of the bytes, ends and failures that are still to come. A read takes a
front off this list or takes nothing, and the sum of the moment and the
silences ahead stays as it is. A read that gives up therefore has some silence
ahead of it, unless the script is over.

## Main definitions

* `StreamItem`: A byte, an end of the stream or a failed read.
* `StreamItem.leading`: The bytes in front of the first end or failure.
* `Peer.items`: What a peer still sends.
* `Peer.doneAt`: The moment at which a peer has sent everything.
* `Peer.faults`: How many reads are still to fail.
* `Peer.Reads`: What one read does.

## Theorems

* `eq_of_line_append`: A stream has one first line.
* `reads_of_read`: Every read is one of those that `Peer.Reads` lists.
* `Reads.items_suffix`: Nothing that was read comes back.
* `faults_eq_countP`: Failures are counted from the items as from the script.
-/

namespace IrcHarness

/-- One thing that is still to come. -/
inductive StreamItem where
  /-- A byte. -/
  | byte (b : UInt8)
  /-- An end of the stream. -/
  | ended
  /-- A failed read. -/
  | failed (f : Fault)
deriving DecidableEq, Repr

namespace StreamItem

/-- Bytes that are still to come. -/
def ofBytes (bytes : List UInt8) : List StreamItem :=
  bytes.map byte

/-- The bytes in front of the first end or failure. -/
def leading : List StreamItem → List UInt8
  | byte b :: rest => b :: leading rest
  | ended :: _ | failed _ :: _ | [] => []

/-- Whether this is a failed read. -/
def isFailed : StreamItem → Bool
  | failed _ => true
  | byte _ | ended => false

theorem ofBytes_append (a b : List UInt8) : ofBytes (a ++ b) = ofBytes a ++ ofBytes b :=
  List.map_append

theorem leading_ofBytes_append (bytes : List UInt8) (items : List StreamItem) :
    leading (ofBytes bytes ++ items) = bytes ++ leading items := by
  induction bytes with
  | nil => rfl
  | cons b bytes ih => exact congrArg (b :: ·) ih

theorem countP_ofBytes (bytes : List UInt8) : (ofBytes bytes).countP isFailed = 0 := by
  rw [List.countP_eq_zero]
  intro item h
  rcases List.mem_map.1 h with ⟨b, _, rfl⟩
  exact Bool.false_ne_true

theorem eq_of_line_append {a b : List UInt8} {x y : List StreamItem} (ha : Line.isIn a = false)
    (hb : Line.isIn b = false)
    (h : ofBytes (a ++ Line.ending) ++ x = ofBytes (b ++ Line.ending) ++ y) : a = b ∧ x = y := by
  -- The bytes in front decide the line, since both are cut in the same place.
  have hlead := congrArg leading h
  rw [leading_ofBytes_append, leading_ofBytes_append] at hlead
  have hcut := Line.cut_append_ending ha (leading x)
  rw [hlead, Line.cut_append_ending hb] at hcut
  have hab : b = a := congrArg Prod.fst (Option.some.inj hcut)
  rw [hab] at h
  exact ⟨hab.symm, List.append_cancel_left h⟩

theorem not_line_of_leading {a line : List UInt8} {x rest : List StreamItem}
    (ha : Line.isIn a = false) (hx : leading x = []) :
    ofBytes a ++ x ≠ ofBytes (line ++ Line.ending) ++ rest := by
  intro h
  have hlead := congrArg leading h
  rw [leading_ofBytes_append, leading_ofBytes_append, hx, List.append_nil] at hlead
  rw [hlead, Line.isIn_append_ending] at ha
  exact absurd ha (by decide)

end StreamItem

open StreamItem (ofBytes)

namespace PeerEvent

/-- What an event brings, when these tokens exist. -/
def items (tokens : List String) : PeerEvent → List StreamItem
  | data t =>
    match t.fill tokens with
    | [] => [.ended]
    | b :: bs => ofBytes (b :: bs)
  | silence _ => []
  | fault f => [.failed f]
  | close => [.ended]

/-- How long an event takes. -/
def duration : PeerEvent → Nat
  | silence ms => ms
  | data _ | fault _ | close => 0

/-- Whether an event lets a read fail. -/
def isFault : PeerEvent → Bool
  | fault _ => true
  | data _ | silence _ | close => false

theorem countP_items (tokens : List String) (e : PeerEvent) :
    (e.items tokens).countP StreamItem.isFailed = if e.isFault then 1 else 0 := by
  cases e with
  | data t =>
      simp only [items, isFault]
      cases t.fill tokens with
      | nil => rfl
      | cons b bs => exact StreamItem.countP_ofBytes (b :: bs)
  | silence ms => rfl
  | fault f => rfl
  | close => rfl

end PeerEvent

namespace Peer

/-- What a peer still sends, when these tokens exist. -/
def items (tokens : List String) (p : Peer) : List StreamItem :=
  p.script.flatMap (PeerEvent.items tokens)

/-- The moment at which a peer has sent everything, if nobody waits for
    anything else. -/
def doneAt (p : Peer) : Nat :=
  p.script.foldl (fun now e => now + e.duration) p.now

/-- How many reads are still to fail. -/
def faults (p : Peer) : Nat :=
  p.script.countP PeerEvent.isFault

/-- Nothing comes from a peer before some time has passed. -/
def Waits (p : Peer) : Prop :=
  ∃ ms rest, p.script = .silence (ms + 1) :: rest

/-- What one read does, which ends at its deadline when nothing comes. -/
inductive Reads (tokens : List String) (deadline : Nat) (p : Peer) : Reading → Peer → Prop where
  /-- Bytes are taken off the stream. -/
  | bytes {b : UInt8} {bs : List UInt8} {p' : Peer}
      (hitems : p.items tokens = ofBytes (b :: bs) ++ p'.items tokens)
      (hover : p'.doneAt = p.doneAt) (hnow : p'.now ≤ deadline) (hopen : p'.closed = false) :
      Reads tokens deadline p (.bytes (b :: bs)) p'
  /-- An end is taken off the stream. -/
  | ended {p' : Peer} (hitems : p.items tokens = .ended :: p'.items tokens)
      (hover : p'.doneAt = p.doneAt) : Reads tokens deadline p (.bytes []) p'
  /-- The stream ended before, and nothing came since. -/
  | stillEnded {p' : Peer} (hclosed : p.closed = true) (hitems : p.items tokens = [])
      (hscript : p'.script = []) (hclosed' : p'.closed = true) :
      Reads tokens deadline p (.bytes []) p'
  /-- A failure is taken off the stream. -/
  | fault {f : Fault} {p' : Peer} (hitems : p.items tokens = .failed f :: p'.items tokens) :
      Reads tokens deadline p (.fault f) p'
  /-- Nothing came, and something comes later or nothing ever. -/
  | timedOut {p' : Peer} (hitems : p'.items tokens = p.items tokens) (hnow : p'.now = deadline)
      (hlater : p.items tokens = [] ∨ p'.Waits ∧ p'.doneAt = p.doneAt) :
      Reads tokens deadline p .timedOut p'

theorem items_cons (tokens : List String) (e : PeerEvent) (rest : List PeerEvent) (now : Nat)
    (closed : Bool) :
    items tokens ⟨e :: rest, now, closed⟩ = e.items tokens ++ items tokens ⟨rest, now, closed⟩ :=
  rfl

theorem doneAt_cons (e : PeerEvent) (rest : List PeerEvent) (now : Nat) (closed : Bool) :
    doneAt ⟨e :: rest, now, closed⟩ = doneAt ⟨rest, now + e.duration, closed⟩ :=
  rfl

theorem now_le_doneAt (script : List PeerEvent) (now : Nat) (closed : Bool) :
    now ≤ doneAt ⟨script, now, closed⟩ := by
  induction script generalizing now with
  | nil => exact Nat.le_refl now
  | cons e rest ih =>
      rw [doneAt_cons]
      exact Nat.le_trans (Nat.le_add_right now e.duration) (ih (now + e.duration))

/-- A read does the same in front of a stream that is the same. -/
theorem Reads.of_eq {tokens : List String} {deadline : Nat} {p q : Peer}
    (hitems : q.items tokens = p.items tokens) (hover : q.doneAt = p.doneAt)
    (hclosed : q.closed = p.closed) {r : Reading} {p' : Peer} (h : Reads tokens deadline p r p') :
    Reads tokens deadline q r p' := by
  cases h with
  | bytes hi ho hn hc => exact .bytes (hitems.trans hi) (ho.trans hover.symm) hn hc
  | ended hi ho => exact .ended (hitems.trans hi) (ho.trans hover.symm)
  | stillEnded hc hi hs hc' => exact .stillEnded (hclosed.trans hc) (hitems.trans hi) hs hc'
  | fault hi => exact .fault (hitems.trans hi)
  | timedOut hi hn hl =>
      refine .timedOut (hi.trans hitems.symm) hn ?_
      rw [hitems, hover]
      exact hl

theorem reads_readScript (tokens : List String) (deadline : Nat) (closed : Bool) (now : Nat)
    (script : List PeerEvent) (h : now ≤ deadline) :
    Reads tokens deadline ⟨script, now, closed⟩ (readScript tokens deadline closed now script).1
      (readScript tokens deadline closed now script).2 := by
  induction script generalizing now with
  | nil =>
      unfold readScript
      by_cases hc : closed = true
      · rw [if_pos hc]
        exact .stillEnded hc rfl rfl hc
      · rw [if_neg hc]
        exact .timedOut rfl rfl (.inl rfl)
  | cons e rest ih =>
      cases e with
      | data t =>
          unfold readScript
          cases hf : t.fill tokens with
          | nil =>
              refine .ended ?_ (doneAt_cons (.data t) rest now closed).symm
              rw [items_cons, PeerEvent.items, hf]
              rfl
          | cons b bs =>
              refine .bytes ?_ (doneAt_cons (.data t) rest now closed).symm h rfl
              rw [items_cons, PeerEvent.items, hf]
              rfl
      | silence ms =>
          unfold readScript
          by_cases hle : now + ms ≤ deadline
          · rw [if_pos hle]
            refine Reads.of_eq ?_ ?_ ?_ (ih (now + ms) hle)
            · rfl
            · exact doneAt_cons (.silence ms) rest now closed
            · rfl
          · -- The deadline comes first, and the rest of the silence is ahead.
            rw [if_neg hle]
            have hms : now + ms - deadline = (now + ms - deadline - 1) + 1 := by omega
            refine .timedOut rfl rfl (.inr ⟨⟨now + ms - deadline - 1, rest, by rw [← hms]⟩, ?_⟩)
            rw [doneAt_cons, doneAt_cons]
            simp only [PeerEvent.duration]
            rw [Nat.add_sub_of_le (by omega)]
      | fault f => exact .fault rfl
      | close => exact .ended rfl (doneAt_cons .close rest now closed).symm

theorem reads_of_read {tokens : List String} {deadline : Nat} {p p' : Peer} {r : Reading}
    (h : p.read tokens deadline = (r, p')) : Reads tokens (max p.now deadline) p r p' := by
  have hread := reads_readScript tokens (max p.now deadline) p.closed p.now p.script
    (Nat.le_max_left ..)
  rw [read] at h
  rw [h] at hread
  exact hread

/-- Nothing that a read takes off the stream comes back. -/
theorem Reads.items_suffix {tokens : List String} {deadline : Nat} {p p' : Peer} {r : Reading}
    (h : Reads tokens deadline p r p') : p'.items tokens <:+ p.items tokens := by
  cases h with
  | bytes hi ho hn hc => exact ⟨_, hi.symm⟩
  | ended hi ho => exact ⟨[.ended], hi.symm⟩
  | stillEnded hc hi hs hc' =>
      unfold items
      rw [hs]
      exact List.nil_suffix
  | @fault f p' hi => exact ⟨[.failed f], hi.symm⟩
  | timedOut hi hn hl => rw [hi]

theorem items_waitUntil (tokens : List String) (p : Peer) (moment : Nat) :
    (p.waitUntil moment).items tokens = p.items tokens := by
  unfold waitUntil
  split
  · next ms rest h =>
      unfold items
      rw [h]
      rfl
  · rfl

/-- A silence that is ahead lets at least a millisecond pass unnoticed. -/
theorem doneAt_waitUntil {p : Peer} (h : p.Waits) {moment : Nat} (hm : moment ≤ p.now + 1) :
    (p.waitUntil moment).doneAt = p.doneAt := by
  rcases p with ⟨script, now, closed⟩
  rcases h with ⟨ms, rest, rfl⟩
  have hpassed : moment - now ≤ 1 := by
    have hle : moment ≤ now + 1 := hm
    omega
  have hend : now + (moment - now) + (ms + 1 - (moment - now)) = now + (ms + 1) := by omega
  simp only [waitUntil, doneAt_cons, PeerEvent.duration]
  rw [hend]

/-- A peer is not over while it waits. -/
theorem Waits.now_lt_doneAt {p : Peer} (h : p.Waits) : p.now < p.doneAt := by
  rcases p with ⟨script, now, closed⟩
  rcases h with ⟨ms, rest, rfl⟩
  have hlt : now < now + (ms + 1) := by omega
  exact Nat.lt_of_lt_of_le hlt (now_le_doneAt rest (now + (ms + 1)) closed)

theorem faults_eq_countP (tokens : List String) (p : Peer) :
    p.faults = (p.items tokens).countP StreamItem.isFailed := by
  unfold faults items
  induction p.script with
  | nil => rfl
  | cons e rest ih =>
      rw [List.flatMap_cons, List.countP_append, PeerEvent.countP_items, ← ih, List.countP_cons,
        Nat.add_comm]

end Peer

end IrcHarness
