import Http2Rtsp.Std.Bytes

/-!
# Times

`struct timeval` and the time arithmetic of `server.c`. `micros` is the time a
`timeval` stands for; `timecmp` compares two of them by a borrow that expects
both microsecond fields to be below one second.
-/

namespace Http2Rtsp.Pacing

/-- `struct timeval`. -/
structure Timeval where
  tvSec : Int
  tvUsec : Int
deriving DecidableEq

/-- The time in microseconds. -/
def Timeval.micros (time : Timeval) : Int := time.tvSec * 10 ^ 6 + time.tvUsec

/-- A reading of `gettimeofday`, with its microseconds below one second. -/
structure Clock extends Timeval where
  usec_nonneg : 0 ≤ tvUsec
  usec_lt : tvUsec < 10 ^ 6

/-- `calculate_delta`. -/
def calculateDelta (first second : Timeval) : Timeval :=
  let sec := second.tvSec - first.tvSec
  let usec := second.tvUsec - first.tvUsec
  if usec < 0 then ⟨sec - 1, usec + 1000000⟩ else ⟨sec, usec⟩

/-- `timecmp`. The result is an `int`. -/
def timecmp (first second : Timeval) : Int :=
  let delta := calculateDelta first second
  Std.toInt32 (if delta.tvSec ≠ 0 then delta.tvSec else delta.tvUsec)

/-- The time `push_timeout` gives an event. The microseconds are not carried. -/
def timeoutTime (now : Clock) (timeMs : Int) : Timeval :=
  ⟨now.tvSec + timeMs.tdiv 1000, now.tvUsec + timeMs.tmod 1000 * 1000⟩

/-- `set_timeval`. The quotient by `0.09` is added to the microseconds and truncated; on the whole
range of the remainder this is the exact quotient. -/
def setTimeval (timestamp : UInt32) (base : Clock) : Timeval :=
  let sec := base.tvSec + timestamp.toNat / 90000
  let usec := base.tvUsec + timestamp.toNat % 90000 * 100 / 9
  if usec ≥ 1000000 then ⟨sec + 1, usec - 1000000⟩ else ⟨sec, usec⟩

/-- The time `fill_queue` gives the end of the stream. The microseconds are not carried. -/
def endTime (prevTimestamp : Timeval) : Timeval :=
  { prevTimestamp with tvUsec := prevTimestamp.tvUsec + 10 }

/-- Two times are within `2^31` seconds of each other. -/
def Timeval.Near (first second : Timeval) : Prop :=
  first.micros - second.micros < 2 ^ 31 * 10 ^ 6 ∧ second.micros - first.micros < 2 ^ 31 * 10 ^ 6

/-- Times as the three producers make them: a carry is missing at most once. -/
def Timeval.Produced (time : Timeval) : Prop := 0 ≤ time.tvUsec ∧ time.tvUsec < 2 * 10 ^ 6

/-- Frame times are carried. -/
theorem setTimeval_usec (timestamp : UInt32) (base : Clock) :
    0 ≤ (setTimeval timestamp base).tvUsec ∧ (setTimeval timestamp base).tvUsec < 10 ^ 6 := by
  have low := base.usec_nonneg
  have high := base.usec_lt
  unfold setTimeval
  dsimp only
  split <;> dsimp only <;> omega

theorem setTimeval_produced (timestamp : UInt32) (base : Clock) :
    (setTimeval timestamp base).Produced := by
  have carried := setTimeval_usec timestamp base
  exact ⟨carried.1, by omega⟩

theorem endTime_produced (timestamp : UInt32) (base : Clock) :
    (endTime (setTimeval timestamp base)).Produced := by
  have carried := setTimeval_usec timestamp base
  constructor <;> simp only [endTime] <;> omega

theorem timeoutTime_produced (now : Clock) {timeMs : Int} (nonneg : 0 ≤ timeMs) :
    (timeoutTime now timeMs).Produced := by
  have low := now.usec_nonneg
  have high := now.usec_lt
  rw [Timeval.Produced, timeoutTime, Int.tmod_eq_emod_of_nonneg nonneg]
  dsimp only
  omega

/-- The pairs `timecmp` gets wrong. In the usual case `queued` is one second ahead in its seconds
and the uncarried microseconds of `new` make up more than that second; the others need seconds
which differ by just more than an `int` holds. -/
def Misjudged (queued new : Timeval) : Prop :=
  (queued.tvUsec + 10 ^ 6 < new.tvUsec ∧
      (queued.tvSec = new.tvSec + 1 ∨ queued.tvSec = new.tvSec + 2 ^ 31 + 1)) ∨
    (new.tvUsec + 10 ^ 6 < queued.tvUsec ∧ new.tvSec = queued.tvSec + 2 ^ 31 + 1)

/-- `timecmp` agrees with the order of times on all other pairs. -/
theorem timecmp_nonpos_iff {queued new : Timeval} (queuedProduced : queued.Produced)
    (newProduced : new.Produced) (near : queued.Near new) :
    (timecmp queued new ≤ 0 ↔ new.micros ≤ queued.micros) ↔ ¬ Misjudged queued new := by
  obtain ⟨qLow, qHigh⟩ := queuedProduced
  obtain ⟨nLow, nHigh⟩ := newProduced
  obtain ⟨nearLow, nearHigh⟩ := near
  unfold Timeval.micros at *
  unfold timecmp calculateDelta Std.toInt32 Misjudged
  rw [Int.bmod_def]
  -- With or without the borrow, by the seconds or by the microseconds, wrapped or not.
  by_cases borrow : new.tvUsec - queued.tvUsec < 0
  · simp only [if_pos borrow]
    split_ifs <;> omega
  · simp only [if_neg borrow]
    split_ifs <;> omega

end Http2Rtsp.Pacing
