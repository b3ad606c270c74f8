import Http2Rtsp.Pacing.Order

/-!
# The waits between events

What `Select` is told to wait is the difference of two times. `select` accepts it
when the microseconds of both are carried and the second is not before the first;
a queue of such times stays in time order under every push.
-/

namespace Http2Rtsp.Pacing

open Http2Rtsp.Std

/-- The microseconds are carried. -/
def Timeval.Carried (time : Timeval) : Prop := 0 ≤ time.tvUsec ∧ time.tvUsec < 10 ^ 6

instance (first second : Timeval) : Decidable (first.Near second) :=
  inferInstanceAs (Decidable (_ ∧ _))

/-- What `select` accepts as a timeout. -/
def Timeval.Valid (time : Timeval) : Prop := 0 ≤ time.tvSec ∧ time.Carried

/-- The seconds of a time are over, and the time itself is not. -/
def Timeval.Overshoots (time : Timeval) (now : Clock) : Prop :=
  time.tvSec < now.tvSec ∧ now.micros < time.micros

instance (time : Timeval) (now : Clock) : Decidable (time.Overshoots now) :=
  inferInstanceAs (Decidable (_ ∧ _))

/-- The times of a queue are carried and in order. -/
structure Timely (queue : List TimeoutEvent) : Prop where
  carried : ∀ event ∈ queue, event.time.Carried
  sorted : Ascending eventMicros queue

/-- The events are pushed one after the other. -/
def pushAll (events queue : List TimeoutEvent) : List TimeoutEvent :=
  events.foldl (fun queue event => pushed event queue) queue

/-! ## Times -/

theorem Clock.carried (now : Clock) : now.Carried := ⟨now.usec_nonneg, now.usec_lt⟩

theorem Timeval.Carried.produced {time : Timeval} (carried : time.Carried) : time.Produced := by
  obtain ⟨low, high⟩ := carried
  exact ⟨low, by omega⟩

/-- The time of a timeout is that long behind the clock. -/
theorem timeoutTime_micros (now : Clock) (timeMs : Int) :
    (timeoutTime now timeMs).micros = now.micros + timeMs * 1000 := by
  have split := Int.tdiv_mul_add_tmod timeMs 1000
  simp only [Timeval.micros, timeoutTime]
  omega

/-- A timeout of whole seconds needs no carry. -/
theorem timeoutTime_seconds_carried (now : Clock) (seconds : Int) :
    (timeoutTime now (1000 * seconds)).Carried := by
  have carried := now.carried
  simpa [Timeval.Carried, timeoutTime] using carried

/-- One of 100 ms needs a carry in the last tenth of a second. -/
theorem timeoutTime_tenth_carried_iff (now : Clock) :
    (timeoutTime now 100).Carried ↔ now.tvUsec < 900000 := by
  have low := now.usec_nonneg
  have rest : Int.tmod 100 1000 = 100 := rfl
  simp only [Timeval.Carried, timeoutTime, rest]
  omega

/-- The end of the stream needs one in the last ten microseconds. -/
theorem endTime_carried_iff {prevTimestamp : Timeval} (carried : prevTimestamp.Carried) :
    (endTime prevTimestamp).Carried ↔ prevTimestamp.tvUsec < 999990 := by
  have low := carried.1
  simp only [Timeval.Carried, endTime]
  omega

/-- The difference of carried times is carried. -/
theorem calculateDelta_carried {first second : Timeval} (firstCarried : first.Carried)
    (secondCarried : second.Carried) : (calculateDelta first second).Carried := by
  obtain ⟨low, high⟩ := firstCarried
  obtain ⟨low', high'⟩ := secondCarried
  unfold calculateDelta Timeval.Carried
  dsimp only
  split <;> dsimp only <;> omega

/-- Carried or not, the difference is how far the times are apart. -/
theorem calculateDelta_micros (first second : Timeval) :
    (calculateDelta first second).micros = second.micros - first.micros := by
  unfold calculateDelta Timeval.micros
  dsimp only
  split <;> dsimp only <;> omega

/-- It can be waited for exactly when they are in order. -/
theorem calculateDelta_valid_iff {first second : Timeval} (firstCarried : first.Carried)
    (secondCarried : second.Carried) :
    (calculateDelta first second).Valid ↔ first.micros ≤ second.micros := by
  rw [Timeval.Valid, and_iff_left (calculateDelta_carried firstCarried secondCarried)]
  obtain ⟨low, high⟩ := firstCarried
  obtain ⟨low', high'⟩ := secondCarried
  unfold calculateDelta Timeval.micros
  dsimp only
  split <;> dsimp only <;> omega

/-- Only uncarried times overshoot. -/
theorem Timeval.Carried.not_overshoots {time : Timeval} (carried : time.Carried) (now : Clock) :
    ¬ time.Overshoots now := by
  rintro ⟨seconds, later⟩
  have low := now.usec_nonneg
  have high := carried.2
  unfold Timeval.micros at later
  omega

/-- The seconds of the difference are negative before the time exactly when it overshoots. -/
theorem calculateDelta_neg_iff {time : Timeval} {now : Clock} (later : now.micros < time.micros) :
    (calculateDelta now.toTimeval time).tvSec < 0 ↔ time.Overshoots now := by
  unfold Timeval.Overshoots calculateDelta
  unfold Timeval.micros at *
  dsimp only
  split
  · dsimp only
    omega
  · dsimp only
    omega

/-- `timecmp` judges carried times rightly. -/
theorem timecmp_carried {queued new : Timeval} (queuedCarried : queued.Carried)
    (newCarried : new.Carried) (near : queued.Near new) :
    timecmp queued new ≤ 0 ↔ new.micros ≤ queued.micros := by
  apply (timecmp_nonpos_iff queuedCarried.produced newCarried.produced near).mpr
  obtain ⟨low, high⟩ := queuedCarried
  obtain ⟨low', high'⟩ := newCarried
  unfold Misjudged
  omega

/-! ## Queues -/

@[simp] theorem pushAll_nil (queue : List TimeoutEvent) : pushAll [] queue = queue := rfl

@[simp] theorem pushAll_cons (event : TimeoutEvent) (events queue : List TimeoutEvent) :
    pushAll (event :: events) queue = pushAll events (pushed event queue) := rfl

theorem mem_pushAll {event : TimeoutEvent} {events queue : List TimeoutEvent} :
    event ∈ pushAll events queue ↔ event ∈ events ∨ event ∈ queue := by
  induction events generalizing queue with
  | nil => simp
  | cons first rest ih =>
      rw [pushAll_cons, ih, pushed, mem_scanInsert, List.mem_cons]
      tauto

section Timely

variable {queue : List TimeoutEvent}

theorem Timely.nil : Timely [] := ⟨by simp, .nil⟩

theorem Timely.sublist {smaller : List TimeoutEvent} (timely : Timely queue)
    (sub : smaller.Sublist queue) : Timely smaller where
  carried event member := timely.carried event (sub.subset member)
  sorted := timely.sorted.sublist sub

/-- A carried event near the queued ones is put where it belongs. -/
theorem Timely.pushed {event : TimeoutEvent} (timely : Timely queue) (carried : event.time.Carried)
    (near : ∀ queued ∈ queue, queued.time.Near event.time) : Timely (pushed event queue) := by
  have judged : ∀ queued ∈ queue, (passesOver event.time queued = true ↔
      eventMicros event ≤ eventMicros queued) := fun queued member => by
    rw [passesOver, decide_eq_true_iff]
    exact timecmp_carried (timely.carried queued member) carried (near queued member)
  constructor
  · intro other member
    rcases mem_scanInsert.mp member with rfl | old
    · exact carried
    · exact timely.carried other old
  · refine (ascending_scanInsert_iff timely.sorted fun queued member same => ?_).mpr (.of_iff judged)
    exact (judged queued member).mpr same.ge

/-- So are several, near each other. -/
theorem Timely.pushAll {events : List TimeoutEvent} (timely : Timely queue)
    (carried : ∀ event ∈ events, event.time.Carried)
    (near : ∀ event ∈ events, ∀ queued ∈ queue, queued.time.Near event.time)
    (apart : events.Pairwise fun first second => first.time.Near second.time) :
    Timely (pushAll events queue) := by
  induction events generalizing queue with
  | nil => exact timely
  | cons event rest ih =>
      obtain ⟨nearRest, apart⟩ := List.pairwise_cons.mp apart
      have first := timely.pushed (carried event List.mem_cons_self) (near event List.mem_cons_self)
      refine ih first (fun other member => carried other (List.mem_cons_of_mem event member)) ?_ apart
      intro other member queued there
      rcases mem_scanInsert.mp there with rfl | old
      · exact nearRest other member
      · exact near other (List.mem_cons_of_mem event member) queued old

end Timely

end Http2Rtsp.Pacing
