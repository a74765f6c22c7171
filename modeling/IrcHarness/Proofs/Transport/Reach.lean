import IrcHarness.Proofs.Transport.Framing
import IrcHarness.Transport.Collect

/-!
# States without a Failed Read

Between two calls the peer gets more to do, time passes, and writing starts or
stops to work. No matter in what order this happens, and which calls are made
and how they end, the framing stays sound as long as every failure that the
peer has in store is still ahead. A call that does meet a failure ends with it,
so the failures left tell the two cases apart.

## Main definitions

* `Transport.ahead`: What is still to come to a transport.
* `Transport.Call`: What a call makes of a transport.
* `Transport.Undisturbed`: A state that was reached without a failed read.

## Theorems

* `agree_gather`: A collection changes nothing that reading does not change.
* `sound_or_failed_gather`: A collection keeps the framing sound or fails.
* `Undisturbed.sound`: Without a failed read the framing is sound.
-/

namespace IrcHarness

/-- Whether a call failed. -/
def Outcome.isError {α : Type} : Outcome α → Bool
  | error _ => true
  | ok _ | abandoned => false

theorem Outcome.isError_map {α β : Type} (f : α → β) (outcome : Outcome α) :
    (outcome.map f).isError = outcome.isError := by
  cases outcome <;> rfl

namespace Transport

/-- What is still to come to a transport, when these tokens exist. -/
def ahead (tokens : List String) (t : Transport) : List StreamItem :=
  t.framing.ahead tokens t.peer

/-- Two transports differ at most in what reading changes: the framing, the
    peer and the log. -/
structure Agree (t u : Transport) : Prop where
  name : u.name = t.name
  settings : u.settings = t.settings
  clock : u.clock = t.clock
  syncCount : u.syncCount = t.syncCount
  inbox : u.inbox = t.inbox
  outgoing : u.outgoing = t.outgoing

theorem Agree.refl (t : Transport) : Agree t t :=
  ⟨rfl, rfl, rfl, rfl, rfl, rfl⟩

theorem Agree.trans {t u v : Transport} (h : Agree t u) (h' : Agree u v) : Agree t v :=
  ⟨h'.name.trans h.name, h'.settings.trans h.settings, h'.clock.trans h.clock,
    h'.syncCount.trans h.syncCount, h'.inbox.trans h.inbox, h'.outgoing.trans h.outgoing⟩

theorem Agree.tokens {t u : Transport} (h : Agree t u) : u.tokens = t.tokens := by
  unfold Transport.tokens Transport.token
  rw [h.syncCount, h.clock]

theorem agree_noteLine (t : Transport) (direction line : String) :
    Agree t (t.noteLine direction line) :=
  ⟨rfl, rfl, rfl, rfl, rfl, rfl⟩

theorem agree_wait (t : Transport) (moment : Nat) :
    Agree t ((t.note .trace "waiting").waitUntil moment) :=
  ⟨rfl, rfl, rfl, rfl, rfl, rfl⟩

theorem agree_of_receive {t t' : Transport} {deadline : Nat} {a : Arrival}
    (h : t.receive deadline = (a, t')) : Agree t t' := by
  unfold receive at h
  rw [Prod.mk.injEq] at h
  rw [← h.2]
  exact ⟨rfl, rfl, rfl, rfl, rfl, rfl⟩

theorem serves_of_receive {t t' : Transport} {deadline : Nat} {a : Arrival}
    (hs : t.framing.Sound) (h : t.receive deadline = (a, t')) :
    t.framing.Serves t.tokens deadline t.peer a t'.framing t'.peer := by
  have hserves := Framing.serves_next hs t.tokens deadline t.peer
  unfold receive at h
  rw [Prod.mk.injEq] at h
  rw [← h.1, ← h.2]
  exact hserves

theorem sound_of_receive {t t' : Transport} {deadline : Nat} {a : Arrival}
    (hs : t.framing.Sound) (h : t.receive deadline = (a, t')) (hne : a.isFault = false) :
    t'.framing.Sound ∧ t'.peer.faults = t.peer.faults :=
  (serves_of_receive hs h).sound hne

theorem faults_lt_of_receive {t t' : Transport} {deadline : Nat} {f : Fault}
    (hs : t.framing.Sound) (h : t.receive deadline = (.fault f, t')) :
    t'.peer.faults < t.peer.faults := by
  cases serves_of_receive hs h with
  | fault hp ha => exact Framing.faults_lt_of_ahead ha

theorem agree_gather (r : Request) (taken : List Received) (t : Transport) :
    Agree t (gather r taken t).2 := by
  fun_induction gather r taken t with
  | case1 taken t => exact .refl t
  | case2 taken t hc line t' h _ received hj ih =>
      exact ((agree_of_receive h).trans (agree_noteLine t' _ _)).trans ih
  | case3 taken t hc line t' h => exact (agree_of_receive h).trans (agree_noteLine t' _ _)
  | case4 taken t hc line t' h => exact (agree_of_receive h).trans (agree_noteLine t' _ _)
  | case5 taken t hc t' h => exact agree_of_receive h
  | case6 taken t hc f t' h hf =>
      exact (agree_of_receive h).trans ⟨rfl, rfl, rfl, rfl, rfl, rfl⟩
  | case7 taken t hc f t' h hf => exact agree_of_receive h
  | case8 taken t hc t' h hl => exact agree_of_receive h
  | case9 taken t hc t' h hl he => exact agree_of_receive h
  | case10 taken t hc t' h hl he ht ih =>
      exact ((agree_of_receive h).trans (agree_wait t' _)).trans ih
  | case11 taken t hc t' h hl he ht => exact agree_of_receive h

/-- Either the framing is sound and no read has failed, or one has failed and
    so did the call. -/
def SoundOrFailed {α : Type} (t : Transport) (result : Outcome α × Transport) : Prop :=
  result.2.framing.Sound ∧ result.2.peer.faults = t.peer.faults ∨
    result.1.isError = true ∧ result.2.peer.faults < t.peer.faults

theorem SoundOrFailed.of_faults {α : Type} {t t' : Transport} {result : Outcome α × Transport}
    (h : SoundOrFailed t' result) (hfaults : t'.peer.faults = t.peer.faults) :
    SoundOrFailed t result := by
  unfold SoundOrFailed at h ⊢
  rw [← hfaults]
  exact h

theorem SoundOrFailed.sound {α : Type} {t t' : Transport} {outcome : Outcome α}
    (h : SoundOrFailed t (outcome, t')) (hne : outcome.isError = false) :
    t'.framing.Sound ∧ t'.peer.faults = t.peer.faults := by
  rcases h with hkept | ⟨herror, _⟩
  · exact hkept
  · exact Bool.noConfusion (hne.symm.trans herror)

theorem faults_waitUntil (t : Transport) (moment : Nat) :
    (t.waitUntil moment).peer.faults = t.peer.faults := by
  rw [waitUntil, Peer.faults_eq_countP [], Peer.items_waitUntil, ← Peer.faults_eq_countP]

theorem sound_or_failed_gather (r : Request) (taken : List Received) {t : Transport}
    (hs : t.framing.Sound) : SoundOrFailed t (gather r taken t) := by
  fun_induction gather r taken t with
  | case1 => exact .inl ⟨hs, rfl⟩
  | case2 taken t hc line t' h _ received hj ih =>
      have hkept := sound_of_receive hs h rfl
      exact (ih hkept.1).of_faults hkept.2
  | case3 taken t hc line t' h =>
      have hkept := sound_of_receive hs h rfl
      exact .inl hkept
  | case4 taken t hc line t' h =>
      have hkept := sound_of_receive hs h rfl
      exact .inl hkept
  | case5 taken t hc t' h => exact .inl (sound_of_receive hs h rfl)
  | case6 taken t hc f t' h hf =>
      have hlt := faults_lt_of_receive hs h
      exact .inr ⟨rfl, hlt⟩
  | case7 taken t hc f t' h hf => exact .inr ⟨rfl, faults_lt_of_receive hs h⟩
  | case8 taken t hc t' h hl => exact .inl (sound_of_receive hs h rfl)
  | case9 taken t hc t' h hl he => exact .inl (sound_of_receive hs h rfl)
  | case10 taken t hc t' h hl he ht ih =>
      -- Waiting takes nothing off the stream.
      have hkept := sound_of_receive hs h rfl
      have hwait := faults_waitUntil (t'.note .trace "waiting") (t.peer.now + 1)
      exact (ih hkept.1).of_faults (hwait.trans hkept.2)
  | case11 taken t hc t' h hl he ht => exact .inl (sound_of_receive hs h rfl)

theorem sendLine_eq (t : Transport) (line : String) :
    (t.sendLine line).2 =
      { t with outgoing := (t.sendLine line).2.outgoing, log := (t.sendLine line).2.log } := by
  simp only [sendLine]
  split <;> rfl

theorem sendPing_eq {t t' : Transport} {answer : Except TransportError String}
    (h : t.sendPing = (answer, t')) :
    t' = { t with syncCount := t.syncCount + 1, outgoing := t'.outgoing, log := t'.log } := by
  have hsent := sendLine_eq { t with syncCount := t.syncCount + 1 }
    ("PING " ++ t.token (t.syncCount + 1))
  simp only [sendPing] at h
  split at h
  · next heq =>
      rw [heq] at hsent
      have ht : _ = t' := congrArg Prod.snd h
      rw [← ht]
      exact hsent
  · next heq =>
      rw [heq] at hsent
      have ht : _ = t' := congrArg Prod.snd h
      rw [← ht]
      exact hsent

theorem sound_or_failed_collectLines {t : Transport} (hs : t.framing.Sound)
    (synchronize required queued raw : Bool) (limit : Nat) :
    SoundOrFailed t (t.collectLines synchronize required queued raw limit) := by
  unfold collectLines
  by_cases hsync : synchronize = true
  · rw [if_pos hsync]
    cases hp : t.sendPing with
    | mk answer t' =>
        -- A `PING` leaves the stream as it is, whether it goes out or not.
        rw [sendPing_eq hp]
        cases answer with
        | error e => exact .inl ⟨hs, rfl⟩
        | ok token => exact sound_or_failed_gather _ [] hs
  · rw [if_neg hsync]
    exact sound_or_failed_gather _ [] hs

theorem sound_or_failed_collect {t : Transport} (hs : t.framing.Sound)
    (synchronize required : Bool) (limit : Nat) :
    SoundOrFailed t (t.collect synchronize required limit) := by
  have hlines := sound_or_failed_collectLines hs synchronize (required && !!t.inbox.isEmpty)
    (!t.inbox.isEmpty) false limit
  unfold collect
  dsimp only
  split
  · next lines t' h =>
      rw [h] at hlines
      exact .inl (hlines.sound rfl)
  · next e t' h =>
      rw [h] at hlines
      exact hlines.imp_right fun hfail => ⟨rfl, hfail.2⟩
  · next t' h =>
      rw [h] at hlines
      exact .inl (hlines.sound rfl)

theorem sound_or_failed_collectRaw {t : Transport} (hs : t.framing.Sound)
    (synchronize required : Bool) (limit : Nat) :
    SoundOrFailed t (t.collectRaw synchronize required limit) := by
  have hlines := sound_or_failed_collectLines hs synchronize required false true limit
  unfold collectRaw
  refine hlines.imp_right fun hfail => ⟨?_, hfail.2⟩
  rw [Outcome.isError_map]
  exact hfail.1

theorem sound_or_failed_getOne {σ : Type} (filter : σ → Message → Bool × σ) (synchronize : Bool)
    (limit : Nat) (state : σ) {t : Transport} (hs : t.framing.Sound) :
    SoundOrFailed t ((getOne filter synchronize limit state t).1,
      (getOne filter synchronize limit state t).2.2) := by
  have hlines : ∀ {t t' : Transport} {outcome : Outcome (List Received)}, t.framing.Sound →
      { t with inbox := [] }.collectLines synchronize true false false limit = (outcome, t') →
      SoundOrFailed t (outcome, t') := by
    intro t t' outcome hs h
    have hcollect := sound_or_failed_collectLines (t := { t with inbox := [] }) hs synchronize true
      false false limit
    rw [h] at hcollect
    exact hcollect
  fun_induction getOne filter synchronize limit state t with
  | case1 => exact .inl ⟨hs, rfl⟩
  | case2 state t state' hf e t' h =>
      exact (hlines hs h).imp_right fun hfail => ⟨rfl, hfail.2⟩
  | case3 state t state' hf t' h => exact .inl ((hlines hs h).sound rfl)
  | case4 state t state' hf t' h => exact .inl ((hlines hs h).sound rfl)
  | case5 state t state' hf lines t' h hl ih =>
      -- A batch came without a failed read, so the next collection is sound too.
      have hkept := (hlines hs h).sound rfl
      exact (ih hkept.1).of_faults hkept.2

/-- What a call makes of a transport. -/
inductive Call : Transport → Transport → Prop where
  /-- Writing a line. -/
  | sendLine (t : Transport) (line : String) : Call t (t.sendLine line).2
  /-- Writing a message. -/
  | sendMessage (t : Transport) (m : Message) : Call t (t.sendMessage m).2
  /-- Collecting messages. -/
  | collect (t : Transport) (synchronize required : Bool) (limit : Nat) :
      Call t (t.collect synchronize required limit).2
  /-- Collecting lines. -/
  | collectRaw (t : Transport) (synchronize required : Bool) (limit : Nat) :
      Call t (t.collectRaw synchronize required limit).2
  /-- Looking for one message. -/
  | getOne {σ : Type} (filter : σ → Message → Bool × σ) (synchronize : Bool) (limit : Nat)
      (state : σ) (t : Transport) : Call t (t.getOne filter synchronize limit state).2.2

/-- A state that was reached without a failed read. -/
inductive Undisturbed : Transport → Prop where
  /-- Nothing has happened. -/
  | initial (name : String) (settings : TransportSettings) (clock : Nat → Duration) :
      Undisturbed (initial name settings clock)
  /-- The peer gets more to do. -/
  | willDo {t : Transport} (h : Undisturbed t) (events : List PeerEvent) :
      Undisturbed { t with peer := t.peer.willDo events }
  /-- Time passes. -/
  | waitUntil {t : Transport} (h : Undisturbed t) (moment : Nat) :
      Undisturbed (t.waitUntil moment)
  /-- Writing starts or stops to work. -/
  | writes {t : Transport} (h : Undisturbed t) (works : Bool) :
      Undisturbed { t with outgoing := { t.outgoing with writable := works } }
  /-- A call is made, and no read fails during it. -/
  | call {t t' : Transport} (h : Undisturbed t) (hcall : Call t t')
      (hfaults : t'.peer.faults = t.peer.faults) : Undisturbed t'

theorem sound_or_faults_lt_of_call {t t' : Transport} (hs : t.framing.Sound) (h : Call t t') :
    t'.framing.Sound ∨ t'.peer.faults < t.peer.faults := by
  cases h with
  | sendLine t line =>
      rw [sendLine_eq]
      exact .inl hs
  | sendMessage t m =>
      unfold sendMessage
      split
      · exact .inl hs
      · rw [sendLine_eq]
        exact .inl hs
  | collect t synchronize required limit =>
      exact (sound_or_failed_collect hs synchronize required limit).imp And.left And.right
  | collectRaw t synchronize required limit =>
      exact (sound_or_failed_collectRaw hs synchronize required limit).imp And.left And.right
  | getOne filter synchronize limit state t =>
      exact (sound_or_failed_getOne filter synchronize limit state hs).imp And.left And.right

/-- Without a failed read the framing is sound. -/
theorem Undisturbed.sound {t : Transport} (h : Undisturbed t) : t.framing.Sound := by
  induction h with
  | initial name settings clock => exact Framing.sound_initial
  | willDo h events ih => exact ih
  | waitUntil h moment ih => exact ih
  | writes h works ih => exact ih
  | call h hcall hfaults ih =>
      exact (sound_or_faults_lt_of_call ih hcall).resolve_right (by omega)

end Transport

end IrcHarness
