import Http2Rtsp.Pacing.Waits

/-!
# Frame times

`set_timeval` turns ticks of 90 kHz into microseconds behind a base time. A tick is more than eleven
microseconds, so no two timestamps are rounded to the same time; the times are carried and less than
`2^31` seconds apart, and there `timecmp` has the sign of the difference.
-/

namespace Http2Rtsp.Pacing

open Http2Rtsp.Std

/-- The time of a frame in microseconds, by its seconds and the rest. -/
theorem setTimeval_micros (timestamp : UInt32) (base : Clock) :
    (setTimeval timestamp base).micros = base.micros + timestamp.toNat / 90000 * 10 ^ 6 +
      timestamp.toNat % 90000 * 100 / 9 := by
  unfold setTimeval Timeval.micros
  dsimp only
  split <;> dsimp only <;> omega

/-- The same in one division. -/
theorem setTimeval_micros_floor (timestamp : UInt32) (base : Clock) :
    (setTimeval timestamp base).micros =
      base.micros + ((timestamp.toNat * 10 ^ 6 / 90000 : Nat) : Int) := by
  rw [setTimeval_micros]
  omega

/-- Later timestamps are later times. -/
theorem setTimeval_micros_lt_iff {first second : UInt32} (base : Clock) :
    (setTimeval first base).micros < (setTimeval second base).micros ↔ first < second := by
  rw [setTimeval_micros_floor, setTimeval_micros_floor, UInt32.lt_iff_toNat_lt]
  omega

/-- The times of any two frames are near each other. -/
theorem setTimeval_near (first second : UInt32) (base : Clock) :
    (setTimeval first base).Near (setTimeval second base) := by
  have firstMicros := setTimeval_micros_floor first base
  have secondMicros := setTimeval_micros_floor second base
  have firstRange := first.toNat_lt
  have secondRange := second.toNat_lt
  constructor <;> omega

/-- `timecmp` of carried times is negative when the second one is earlier. -/
theorem timecmp_carried_neg {first second : Timeval} (firstCarried : first.Carried)
    (secondCarried : second.Carried) (near : first.Near second) :
    timecmp first second < 0 ↔ second.micros < first.micros := by
  obtain ⟨low, high⟩ := firstCarried
  obtain ⟨low', high'⟩ := secondCarried
  obtain ⟨nearLow, nearHigh⟩ := near
  unfold Timeval.micros at *
  unfold timecmp calculateDelta toInt32
  rw [Int.bmod_def]
  by_cases borrow : second.tvUsec - first.tvUsec < 0
  · simp only [if_pos borrow]
    split_ifs <;> omega
  · simp only [if_neg borrow]
    split_ifs <;> omega

/-- Frame times are carried, they are the base time and the whole microseconds of the timestamp, and
`timecmp` has the sign of the order of the timestamps. -/
theorem frameTimes_ordered (base : Clock) (a b : UInt32) :
    (setTimeval a base).Carried ∧
      (setTimeval a base).micros = base.micros + ((a.toNat * 10 ^ 6 / 90000 : Nat) : Int) ∧
      (0 < timecmp (setTimeval a base) (setTimeval b base) ↔ a < b) ∧
      (timecmp (setTimeval a base) (setTimeval b base) = 0 ↔ a = b) ∧
      (timecmp (setTimeval a base) (setTimeval b base) < 0 ↔ b < a) := by
  have near := setTimeval_near a b base
  have positive : 0 < timecmp (setTimeval a base) (setTimeval b base) ↔ a < b := by
    rw [← not_le, timecmp_carried (setTimeval_usec a base) (setTimeval_usec b base) near, not_le,
      setTimeval_micros_lt_iff]
  have negative : timecmp (setTimeval a base) (setTimeval b base) < 0 ↔ b < a := by
    rw [timecmp_carried_neg (setTimeval_usec a base) (setTimeval_usec b base) near,
      setTimeval_micros_lt_iff]
  refine ⟨setTimeval_usec a base, setTimeval_micros_floor a base, positive, ?_, negative⟩
  constructor
  · intro zero
    have notBefore : ¬ a < b := fun before => by
      have := positive.mpr before
      omega
    have notAfter : ¬ b < a := fun later => by
      have := negative.mpr later
      omega
    exact UInt32.le_antisymm (UInt32.not_lt.mp notAfter) (UInt32.not_lt.mp notBefore)
  · rintro rfl
    have notPositive := mt positive.mp (UInt32.lt_irrefl a)
    have notNegative := mt negative.mp (UInt32.lt_irrefl a)
    omega

end Http2Rtsp.Pacing
