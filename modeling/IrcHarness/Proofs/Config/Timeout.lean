import IrcHarness.Config.Basic
import Mathlib

/-!
# Read Timeouts

A span of time is made a timeout by cutting it down to whole milliseconds. Of all the
timeouts that there are, what is left is the longest one that is not longer than the span
(`ofMillis_le_readTimeout_iff`). All else follows from this: a longer span gives no shorter
timeout, a span that is a timeout already stays as it is, and a span that does not reach a
millisecond is left with nothing, which makes the settings invalid.

There is a longest timeout, since milliseconds are stored in 64 bits and seconds are too.
Below it less than a millisecond is lost.

## Main definitions

* `Duration.total`: A span in nanoseconds.
* `LE Duration`: A span is not longer than another.

## Theorems

* `le_iff_total_le`: Spans are compared by their nanoseconds.
* `millis_eq`: The milliseconds that a span reaches.
* `ofMillis_le_readTimeout_iff`: The longest timeout that is not longer than a span.
* `zeroReadTimeout_mem_validate_iff`: The spans that make settings invalid.
* `read_timeout_cuts_down`: All of it.
-/

namespace IrcHarness

namespace Duration

/-- A span in nanoseconds. -/
def total (d : Duration) : Nat :=
  d.seconds.toNat * nanosPerSecond + d.nanos.val

/-- A span is not longer than another: it has fewer seconds, or as many and no more
    nanoseconds behind them. -/
instance : LE Duration :=
  ⟨fun d e => d.seconds < e.seconds ∨ d.seconds = e.seconds ∧ d.nanos ≤ e.nanos⟩

theorem le_iff_total_le (d e : Duration) : d ≤ e ↔ d.total ≤ e.total := by
  change d.seconds < e.seconds ∨ d.seconds = e.seconds ∧ d.nanos ≤ e.nanos ↔ _
  rw [UInt64.lt_iff_toNat_lt, ← UInt64.toNat_inj, Fin.le_def]
  have hd := d.nanos.isLt
  have he := e.nanos.isLt
  unfold total nanosPerSecond
  omega

/-- A span reaches as many milliseconds as there are whole millions in its nanoseconds. -/
theorem millis_eq (d : Duration) : d.millis = d.total / 1000000 := by
  unfold millis total nanosPerSecond
  omega

/-- The milliseconds of a span fit 128 bits. -/
theorem millis_lt (d : Duration) : d.millis < 2 ^ 128 := by
  have hs := d.seconds.toNat_lt
  have hn := d.nanos.isLt
  unfold millis
  omega

theorem total_ofMillis (ms : UInt64) : (ofMillis ms).total = ms.toNat * 1000000 := by
  have hs : (ms / 1000).toNat = ms.toNat / 1000 := UInt64.toNat_div ms 1000
  unfold total ofMillis nanosPerSecond
  dsimp only
  omega

theorem ofMillis_le_iff (ms : UInt64) (d : Duration) : ofMillis ms ≤ d ↔ ms.toNat ≤ d.millis := by
  rw [le_iff_total_le, total_ofMillis, millis_eq, Nat.le_div_iff_mul_le (by decide)]

theorem ofMillis_le_ofMillis_iff (ms ms' : UInt64) : ofMillis ms ≤ ofMillis ms' ↔ ms ≤ ms' := by
  rw [le_iff_total_le, total_ofMillis, total_ofMillis, UInt64.le_iff_toNat_le]
  omega

theorem millis_ofMillis (ms : UInt64) : (ofMillis ms).millis = ms.toNat := by
  rw [millis_eq, total_ofMillis, Nat.mul_div_cancel _ (by decide)]

end Duration

namespace TransportSettings

variable (s : TransportSettings) (d : Duration)

/-- What is stored of a span. -/
theorem toNat_withReadTimeout :
    (s.withReadTimeout d).readTimeoutMs.toNat = min d.millis maxReadTimeoutMs := by
  unfold withReadTimeout
  dsimp only
  exact UInt64.toNat_ofNat_of_lt' (Nat.lt_of_le_of_lt (Nat.min_le_right _ _) (by decide))

/-- A timeout is no longer than the one that is stored of a span exactly when it is no
    longer than the span. -/
theorem ofMillis_le_readTimeout_iff (ms : UInt64) :
    Duration.ofMillis ms ≤ (s.withReadTimeout d).readTimeout ↔ Duration.ofMillis ms ≤ d := by
  have hms := ms.toNat_lt
  rw [readTimeout, Duration.ofMillis_le_ofMillis_iff, UInt64.le_iff_toNat_le,
    toNat_withReadTimeout, Duration.ofMillis_le_iff, Nat.le_min]
  unfold maxReadTimeoutMs
  omega

theorem readTimeout_le : (s.withReadTimeout d).readTimeout ≤ d :=
  (ofMillis_le_readTimeout_iff s d _).1 ((Duration.le_iff_total_le _ _).2 (Nat.le_refl _))

variable {d} in
theorem readTimeout_mono {e : Duration} (h : d ≤ e) :
    (s.withReadTimeout d).readTimeout ≤ (s.withReadTimeout e).readTimeout := by
  -- What is left of the shorter span is a timeout, so it is enough that the longer span is
  -- no shorter than that.
  refine (ofMillis_le_readTimeout_iff s e _).2 ?_
  have hd := readTimeout_le s d
  rw [Duration.le_iff_total_le] at h hd ⊢
  exact Nat.le_trans hd h

/-- Less than a millisecond is lost, up to the longest timeout. -/
theorem total_lt_iff :
    d.total < (s.withReadTimeout d).readTimeout.total + 1000000 ↔
      d.total / 1000000 ≤ maxReadTimeoutMs := by
  rw [readTimeout, Duration.total_ofMillis, toNat_withReadTimeout, Duration.millis_eq]
  unfold maxReadTimeoutMs
  omega

theorem readTimeoutMs_eq_zero_iff :
    (s.withReadTimeout d).readTimeoutMs = 0 ↔ d.total < 1000000 := by
  rw [← UInt64.toNat_inj, toNat_withReadTimeout, Duration.millis_eq]
  change min _ maxReadTimeoutMs = 0 ↔ _
  unfold maxReadTimeoutMs
  omega

/-- The timeout is nothing exactly when nothing is stored. -/
theorem readTimeout_eq_zero_iff : s.readTimeout = ⟨0, 0⟩ ↔ s.readTimeoutMs = 0 := by
  constructor
  · intro h
    have htotal := Duration.total_ofMillis s.readTimeoutMs
    have hzero : Duration.total ⟨0, 0⟩ = 0 := by decide
    rw [← readTimeout, h, hzero] at htotal
    refine UInt64.toNat_inj.1 ?_
    rw [UInt64.toNat_zero]
    omega
  · intro h
    rw [readTimeout, h]
    decide

/-- A timeout that is set to itself stays as it is. -/
theorem withReadTimeout_readTimeout : s.withReadTimeout s.readTimeout = s := by
  have hms : (s.withReadTimeout s.readTimeout).readTimeoutMs = s.readTimeoutMs := by
    have hlt := s.readTimeoutMs.toNat_lt
    rw [← UInt64.toNat_inj, toNat_withReadTimeout, readTimeout, Duration.millis_ofMillis]
    unfold maxReadTimeoutMs
    omega
  exact congrArg (fun ms => (⟨ms, s.showIo⟩ : TransportSettings)) hms

end TransportSettings

/-- Settings are found to wait for nothing exactly when they do. -/
theorem Config.zeroReadTimeout_mem_validate_iff (c : Config) :
    .zeroReadTimeout ∈ c.validate ↔ c.transport.readTimeoutMs = 0 := by
  unfold validate
  grind

/-- A span is stored as its whole milliseconds, or as the most that there can be, and
    nothing overflows on the way. The timeout is then no longer than the span, and shorter
    by less than a millisecond unless the most was stored. It is nothing, which the
    settings must not have, exactly when the span is shorter than a millisecond. A longer
    span gives no shorter timeout, and a timeout that is set to itself stays as it is. -/
theorem TransportSettings.read_timeout_cuts_down (s : TransportSettings) :
    (∀ d : Duration,
      d.millis < 2 ^ 128 ∧
      (s.withReadTimeout d).readTimeoutMs.toNat = min (d.total / 1000000) (2 ^ 64 - 1) ∧
      (s.withReadTimeout d).showIo = s.showIo ∧
      (s.withReadTimeout d).readTimeout ≤ d ∧
      (d.total < (s.withReadTimeout d).readTimeout.total + 1000000 ↔
        d.total / 1000000 ≤ 2 ^ 64 - 1) ∧
      ((s.withReadTimeout d).readTimeout = ⟨0, 0⟩ ↔ d.total < 1000000) ∧
      ∀ c : Config, c.transport = s.withReadTimeout d →
        (.zeroReadTimeout ∈ c.validate ↔ d.total < 1000000)) ∧
    (∀ d e : Duration, d ≤ e →
      (s.withReadTimeout d).readTimeout ≤ (s.withReadTimeout e).readTimeout) ∧
    s.withReadTimeout s.readTimeout = s := by
  refine ⟨fun d => ⟨d.millis_lt, ?_, rfl, readTimeout_le s d, total_lt_iff s d, ?_, ?_⟩,
    fun d e => readTimeout_mono s, withReadTimeout_readTimeout s⟩
  · rw [toNat_withReadTimeout, Duration.millis_eq]
    rfl
  · rw [readTimeout_eq_zero_iff, readTimeoutMs_eq_zero_iff]
  · intro c hc
    rw [Config.zeroReadTimeout_mem_validate_iff, hc, readTimeoutMs_eq_zero_iff]

/-- The longest span is stored as the longest timeout, which loses most of it. A span that
    lacks a nanosecond of a millisecond is left with nothing. -/
theorem TransportSettings.read_timeout_cuts_down_longest :
    (⟨0, 999999⟩ : Duration) ≤ ⟨18446744073709551615, 999999999⟩ ∧
    (initial.withReadTimeout ⟨0, 999999⟩).readTimeout ≤
      (initial.withReadTimeout ⟨18446744073709551615, 999999999⟩).readTimeout ∧
    (initial.withReadTimeout ⟨0, 999999⟩).readTimeout = ⟨0, 0⟩ ∧
    (initial.withReadTimeout ⟨18446744073709551615, 999999999⟩).readTimeoutMs.toNat =
      2 ^ 64 - 1 ∧
    .zeroReadTimeout ∈
      (Config.mk ⟨"localhost", 6667⟩ (initial.withReadTimeout ⟨0, 999999⟩) .none).validate := by
  generalize hconfig :
    Config.mk ⟨"localhost", 6667⟩ (initial.withReadTimeout ⟨0, 999999⟩) .none = c
  have htransport : c.transport = initial.withReadTimeout ⟨0, 999999⟩ := by
    rw [← hconfig]
  rcases read_timeout_cuts_down initial with ⟨hcut, hmono, -⟩
  have hle : (⟨0, 999999⟩ : Duration) ≤ ⟨18446744073709551615, 999999999⟩ :=
    (Duration.le_iff_total_le _ _).2 (by decide)
  have hshort : Duration.total ⟨0, 999999⟩ < 1000000 := by decide
  rcases hcut ⟨0, 999999⟩ with ⟨-, -, -, -, -, hzero, hinvalid⟩
  refine ⟨hle, hmono _ _ hle, hzero.2 hshort, ?_, (hinvalid c htransport).2 hshort⟩
  rw [(hcut ⟨18446744073709551615, 999999999⟩).2.1]
  decide

end IrcHarness
