import Http2Rtsp.Server.OneFiller
import Http2Rtsp.Server.PushTimes
import Http2Rtsp.Server.Stall

/-!
# The timeouts given to `Select`

`Select` ends the server when `select` refuses its timeout. The timeout is the
difference of two event times or of an event time and the clock; it is valid as
long as the times which are pushed have their microseconds carried and `timecmp`
can compare them. `push_timeout` leaves a carry out when a PLAY comes in the last
tenth of a second, `fill_queue` when the last frame is in the last ten
microseconds of one.
-/

namespace Http2Rtsp.Server

open Http2Rtsp.Std Http2Rtsp.Message Http2Rtsp.Pacing Http2Rtsp.Semantics

/-- A timeout which is given to `Select` is one `select` accepts. -/
def TimeoutValid (s : ServerState) : Prop :=
  s.pc = .select → ∀ timeout, s.timeind = some timeout → timeout.Valid

/-! ## The clock -/

/-- The clock during a step, whether or not the step reads it. -/
def Input.readings : Input → List Clock
  | .timeout now _ => [now]
  | .media io => [io.now]
  | .rtsp io => [io.now, io.later]
  | .rearm now => [now]
  | .filler _ (.resume now _ _) => [now]
  | _ => []

/-- The clock along a record. -/
def readings (trace : List (Entry ServerState Input Output)) : List Clock :=
  trace.flatMap fun entry => entry.input.readings

/-- The clock never goes back. -/
def ClockRuns (trace : List (Entry ServerState Input Output)) : Prop :=
  Ascending (fun now : Clock => now.micros) (readings trace)

theorem readings_snoc (trace : List (Entry ServerState Input Output))
    (last : Entry ServerState Input Output) :
    readings (trace ++ [last]) = readings trace ++ last.input.readings := by
  simp [readings]

/-- What was read is not behind what is read now. -/
theorem ClockRuns.snoc {trace : List (Entry ServerState Input Output)}
    {last : Entry ServerState Input Output} (clock : ClockRuns (trace ++ [last])) :
    ClockRuns trace ∧ ∀ earlier ∈ readings trace, ∀ now ∈ last.input.readings,
      earlier.micros ≤ now.micros := by
  rw [ClockRuns, readings_snoc] at clock
  obtain ⟨past, -, across⟩ := List.pairwise_append.mp clock
  exact ⟨past, across⟩

/-! ## The condition -/

/-- No microseconds are left uncarried: a PLAY which pushes a timeout of 100 ms comes in the first
nine tenths of a second, and the end of the file behind a frame which is not in the last ten
microseconds of one. -/
def Carries (s : ServerState) : Input → Prop
  | .rtsp io => pushTimes s (.rtsp io) ≠ [] → io.now.tvUsec < 900000
  | .filler k action => pushTimes s (.filler k action) ≠ [] → action.AtEnd →
      ∃ time ∈ s.fillers[k]?.bind Filler.prevTimestamp, time.tvUsec < 999990
  | _ => True

instance (s : ServerState) : DecidablePred (Carries s)
  | .rtsp _ => inferInstanceAs (Decidable (_ → _))
  | .filler _ _ => inferInstanceAs (Decidable (_ → _ → ∃ time ∈ _, _))
  | .timeout _ _ | .interrupted | .ready _ | .accept _ | .datagram _ | .media _ | .rearm _ =>
      .isTrue trivial

/-- `timecmp` can compare what is pushed with what is queued. -/
structure PushesNear (s : ServerState) (input : Input) : Prop where
  queued : ∀ time ∈ pushTimes s input, ∀ event ∈ s.queue, event.time.Near time
  apart : (pushTimes s input).Pairwise Timeval.Near

/-- What keeps the timeouts valid. -/
structure PushesComparable (s : ServerState) (input : Input) : Prop where
  carries : Carries s input
  near : PushesNear s input

instance (s : ServerState) (input : Input) : Decidable (PushesComparable s input) :=
  decidable_of_iff (Carries s input ∧
      (∀ time ∈ pushTimes s input, ∀ event ∈ s.queue, event.time.Near time) ∧
      (pushTimes s input).Pairwise Timeval.Near) <| by
    constructor
    · rintro ⟨carries, queued, apart⟩
      exact ⟨carries, queued, apart⟩
    · rintro ⟨carries, queued, apart⟩
      exact ⟨carries, queued, apart⟩

/-! ## The invariant -/

/-- What is known of the timeout, the queue and the fillers behind a record. -/
structure WaitInvariant (trace : List (Entry ServerState Input Output)) (s : ServerState) :
    Prop where
  order : DownloadOrder s
  streaming : s.Running → s.download.mediaDownloaded = true → s.download.mediastate = .stream
  stamped : Stamped s.fillers
  timely : Timely s.queue
  /-- Until the media is there, no event is more than a second ahead of the clock. -/
  early : s.download.mediaDownloaded = false → ∀ event ∈ s.queue,
    ∃ now ∈ readings trace, event.time.micros ≤ now.micros + 10 ^ 6
  valid : TimeoutValid s

/-- The media stays there, and `mediastate` with it. -/
theorem streaming_kept {variant : Variant} {url : List UInt8} {s after : ServerState}
    {input : Input} {output : List Output}
    (streaming : s.Running → s.download.mediaDownloaded = true → s.download.mediastate = .stream)
    (taken : step variant url s input = .ok (after, output)) :
    after.Running → after.download.mediaDownloaded = true → after.download.mediastate = .stream := by
  intro running present
  have before := streaming (running_before taken running)
  cases step_download taken with
  | same download => exact download ▸ before (download ▸ present)
  | header reading state downloaded => exact nomatch reading.symm.trans (before (downloaded ▸ present))
  | stored reading state downloaded => exact nomatch reading.symm.trans (before (downloaded ▸ present))
  | completed _ reading downloaded state => exact state running
  | described _ state downloaded => exact state
  | fetched absent state downloaded => exact nomatch present.symm.trans downloaded

/-- The times which are pushed are carried. -/
theorem Carries.carried {s : ServerState} {input : Input} (carries : Carries s input)
    (stamped : Stamped s.fillers) : ∀ time ∈ pushTimes s input, time.Carried := by
  intro time member
  have pushes := List.ne_nil_of_mem member
  cases pushTimes_cases member with
  | @check now wake waiting => exact timeoutTime_seconds_carried now 1
  | @completed io => exact timeoutTime_seconds_carried io.now 1
  | @played io => exact (timeoutTime_tenth_carried_iff io.now).mpr (carries pushes)
  | @launched io downloaded => exact timeoutTime_seconds_carried io.later 2
  | @filled k action filler basetime next unset there ends =>
      cases next with
      | some frame => exact setTimeval_usec frame.timestamp basetime
      | none =>
          obtain ⟨prev, known, room⟩ := carries pushes (ends rfl)
          rw [there] at known
          have assigned : filler.prevTimestamp = some prev := known
          have prevCarried := stamped filler (List.mem_of_getElem? there) prev known
          rw [Filler.fillTime, assigned]
          exact (endTime_carried_iff prevCarried).mpr room

/-- Without the media they are at most a second ahead of the clock. -/
theorem pushTimes_early {s : ServerState} {input : Input} (order : DownloadOrder s)
    (absent : s.download.mediaDownloaded = false) {time : Timeval}
    (member : time ∈ pushTimes s input) :
    ∃ now ∈ input.readings, time.micros ≤ now.micros + 10 ^ 6 := by
  cases pushTimes_cases member with
  | @check now wake waiting =>
      exact ⟨now, List.mem_cons_self, by rw [timeoutTime_micros]; omega⟩
  | @completed io => exact ⟨io.now, List.mem_cons_self, by rw [timeoutTime_micros]; omega⟩
  | @played io => exact ⟨io.now, List.mem_cons_self, by rw [timeoutTime_micros]; omega⟩
  | launched downloaded => exact nomatch absent.symm.trans downloaded
  | filled there ends =>
      rw [order.unlaunched absent] at there
      cases there

theorem Pushes.timely {s after : ServerState} {input : Input}
    (pushes : Pushes s after (pushTimes s input)) (timely : Timely s.queue)
    (carried : ∀ time ∈ pushTimes s input, time.Carried) (near : PushesNear s input) :
    Timely after.queue := by
  obtain ⟨kept, events, sub, queue, times⟩ := pushes
  have listed : ∀ event ∈ events, event.time ∈ pushTimes s input := fun event member =>
    times.subset (List.mem_map_of_mem member)
  rw [queue]
  refine (timely.sublist sub).pushAll (fun event member => carried _ (listed event member)) ?_ ?_
  · intro event member queued there
    exact near.queued _ (listed event member) queued (sub.subset there)
  · exact List.pairwise_map.mp (near.apart.sublist times)

/-- The timeout which is set behind the loop over the descriptors is valid. -/
theorem rearm_valid {s : ServerState} (now : Clock) (free : s.lock = none) (timely : Timely s.queue)
    {timeout : Timeval} (set : (s.rearm now).1.timeind = some timeout) : timeout.Valid := by
  rw [ServerState.rearm, locked_free free] at set
  obtain ⟨first, head, rfl⟩ := Option.map_eq_some_iff.mp set
  have delta := calculateDelta_carried now.carried (timely.carried first (List.mem_of_mem_head? head))
  dsimp only
  split
  · exact ⟨le_refl 0, le_refl 0, by decide⟩
  · rename_i ahead
    exact ⟨not_lt.mp ahead, delta⟩

/-- The timeout which is set behind the handling of an event is valid: what is still queued is not
before the event, and what is pushed for it is a second ahead of the clock. -/
theorem handleTimeout_valid (variant : Variant) {trace : List (Entry ServerState Input Output)}
    {s : ServerState} {now : Clock} (wake : Nat) (inv : WaitInvariant trace s)
    (pc : s.pc = .select) (clock : ∀ earlier ∈ readings trace, earlier.micros ≤ now.micros)
    (timely : Timely (s.handleTimeout variant now wake).1.queue) {timeout : Timeval}
    (set : (s.handleTimeout variant now wake).1.timeind = some timeout) : timeout.Valid := by
  by_cases idle : s.lock ≠ none ∨ s.queue = []
  · rw [(handleTimeout_idle variant now wake idle).2] at set
    cases set
  · obtain ⟨free, busy⟩ := not_or.mp idle
    obtain ⟨event, rest, queued⟩ := List.exists_cons_of_ne_nil busy
    obtain ⟨middle, ⟨kept, events, sub, queue, times⟩, ends⟩ :=
      handleTimeout_pulls variant now wake (running_of_select pc) (not_not.mp free) queued
    rcases ends with ⟨same, unset⟩ | same
    · rw [same, unset] at set
      cases set
    · rw [same] at set timely
      obtain ⟨first, head, rfl⟩ := Option.map_eq_some_iff.mp set
      have there : first ∈ middle.queue := List.mem_of_mem_head? head
      have pulled : event ∈ s.queue := queued ▸ List.mem_cons_self
      have sorted := queued ▸ inv.timely.sorted
      refine (calculateDelta_valid_iff (inv.timely.carried event pulled)
        (timely.carried first there)).mpr ?_
      rw [queue, mem_pushAll] at there
      rcases there with new | old
      · obtain ⟨waiting, time⟩ := mem_eventTimes (times.subset (List.mem_map_of_mem new))
        have absent : s.download.mediaDownloaded = false := by
          by_contra present
          exact waiting (inv.streaming (running_of_select pc) (Bool.not_eq_false _ ▸ present))
        obtain ⟨earlier, read, bound⟩ := inv.early absent event pulled
        have past := clock earlier read
        rw [time, timeoutTime_micros]
        omega
      · exact (List.pairwise_cons.mp sorted).1 first (sub.subset old)

theorem waitInvariant_initial {variant : Variant} {s : ServerState} (initial : Initial variant s) :
    WaitInvariant [] s where
  order := downloadOrder_initial initial
  streaming _ present := nomatch initial.notDownloaded.symm.trans present
  stamped filler member := by
    rw [initial.fillers] at member
    cases member
  timely := by
    rw [initial.queue]
    exact .nil
  early _ event member := by
    rw [initial.queue] at member
    cases member
  valid _ timeout set := nomatch initial.timeind.symm.trans set

/-- A step whose pushes are comparable keeps the invariant. -/
theorem waitInvariant_kept {variant : Variant} {url : List UInt8}
    {trace : List (Entry ServerState Input Output)} {last : Entry ServerState Input Output}
    {after : ServerState} (clock : ClockRuns (trace ++ [last])) (inv : WaitInvariant trace last.before)
    (comparable : PushesComparable last.before last.input)
    (taken : step variant url last.before last.input = .ok (after, last.output)) :
    WaitInvariant (trace ++ [last]) after := by
  have pushes := step_pushes taken
  have carried := comparable.carries.carried inv.stamped
  have timely := pushes.timely inv.timely carried comparable.near
  refine ⟨downloadOrder_kept inv.order taken, streaming_kept inv.streaming taken,
    step_stamped inv.stamped taken, timely, fun absent event member => ?_, ?_⟩
  · have absentBefore := (step_download taken).absent absent
    obtain ⟨kept, events, sub, queue, times⟩ := pushes
    rw [queue, mem_pushAll] at member
    rw [readings_snoc]
    rcases member with new | old
    · obtain ⟨now, read, bound⟩ := pushTimes_early inv.order absentBefore
        (times.subset (List.mem_map_of_mem new))
      exact ⟨now, List.mem_append_right _ read, bound⟩
    · obtain ⟨now, read, bound⟩ := inv.early absentBefore event (sub.subset old)
      exact ⟨now, List.mem_append_left _ read, bound⟩
  · intro selects timeout set
    by_cases other : NoTimeout last.input
    · rcases (step_selects taken other selects).2 with ⟨now, -, -, free, rfl⟩ | ⟨k, -, -, effect⟩
      · exact rearm_valid now free inv.timely set
      · obtain ⟨queue, lock, fillers, rfl, -⟩ := effect.only
        exact inv.valid selects timeout set
    · obtain ⟨now, wake, same⟩ := exists_timeout_of_not other
      have readings := clock.snoc.2
      rw [same] at taken readings
      obtain ⟨pc, -, handled⟩ := step_timeout taken
      have past : ∀ earlier ∈ Server.readings trace, earlier.micros ≤ now.micros :=
        fun earlier read => readings earlier read now List.mem_cons_self
      have valid := @handleTimeout_valid variant trace last.before now wake inv pc past
      rw [handled] at valid
      exact valid timely set

/-! ## Runs -/

/-- In every run of either server in which the clock never goes back and what is pushed is carried
and can be compared, every timeout given to `Select` is valid. -/
theorem timeoutValid_of_pushesComparable {variant : Variant} {url : List UInt8}
    {trace : List (Entry ServerState Input Output)} {state : ServerState}
    (run : (machine variant url).Runs trace state) (clock : ClockRuns trace)
    (comparable : Machine.Throughout (fun _ => PushesComparable) trace) :
    Machine.Always (fun _ => TimeoutValid) trace state := by
  apply run.always_recorded comparable ClockRuns WaitInvariant clock
  · intro trace last clock
    exact clock.snoc.1
  · intro start initial
    exact waitInvariant_initial initial
  · intro trace last after clock inv comparable taken
    exact waitInvariant_kept clock inv comparable taken
  · intro trace state inv
    exact inv.valid

/-- So many microseconds behind the time of the scripts. -/
def clockAt (micros : Nat) : Clock where
  tvSec := 1000 + (micros / 1000000 : Nat)
  tvUsec := (micros % 1000000 : Nat)
  usec_nonneg := Int.natCast_nonneg _
  usec_lt := by
    have small := Nat.mod_lt micros (show 1000000 > 0 by decide)
    omega

/-- A client sends PLAY at this time. -/
def playAt (fd : Int) (micros : Nat) : List Input :=
  [.ready [fd], .rtsp { RtspIo.line "PLAY" with now := clockAt micros, later := clockAt micros },
    .rearm (clockAt micros)]

/-- A client plays twice before the media is there, and both timeouts are over 100 ms later. -/
def playedTwice (first second : Nat) : List Input :=
  connect 6 ++ describe 6 7 someResponse ++ request 6 (RtspIo.line "SETUP") ++
    request 6 (RtspIo.line "SETUP") ++ playAt 6 first ++ playAt 6 second ++
    [.timeout (clockAt (first + 100000)) 0, .timeout (clockAt (second + 100000)) 0]

instance (trace : List (Entry ServerState Input Output)) : Decidable (ClockRuns trace) :=
  inferInstanceAs (Decidable (List.Pairwise _ _))

/-- In the middle of a second, every timeout along this script is valid. -/
theorem timeoutValid_of_pushesComparable_playedTwice : ∃ result,
    (machine .server someUrl).exec [] (startState .server) (playedTwice 500000 540000) = .ok result ∧
      result.2.timeind = some ⟨0, 960000⟩ ∧
      Machine.Always (fun _ => TimeoutValid) result.1 result.2 := by
  obtain ⟨result, computed, clock, comparable, set⟩ : ∃ result,
      (machine .server someUrl).exec [] (startState .server) (playedTwice 500000 540000) =
          .ok result ∧ ClockRuns result.1 ∧
        Machine.MeetsAll (fun _ => PushesComparable) [] result.1 ∧
        result.2.timeind = some ⟨0, 960000⟩ :=
    ⟨_, rfl, by decide +kernel, by decide +kernel, rfl⟩
  have run := Machine.Runs.of_exec (startState_initial .server someUrl) computed
  exact ⟨result, computed, set,
    timeoutValid_of_pushesComparable run clock (Machine.throughout_of_meetsAll comparable)⟩

/-- In the last tenth of a second, the timeout behind the second event is negative. -/
theorem playedTwice_late : ∃ result,
    (machine .server someUrl).exec [] (startState .server) (playedTwice 910000 950000) = .ok result ∧
      ClockRuns result.1 ∧ result.2.pc = .select ∧ result.2.timeind = some ⟨1, -40000⟩ :=
  ⟨_, rfl, by decide +kernel, rfl, rfl⟩

/-- A timeout given to `Select` can be one `select` refuses. -/
theorem timeoutValid_not_always : ¬ ∀ url trace state, (machine .server url).Runs trace state →
    ClockRuns trace → Machine.Always (fun _ => TimeoutValid) trace state := by
  intro all
  obtain ⟨result, computed, clock, pc, set⟩ := playedTwice_late
  have run := Machine.Runs.of_exec (startState_initial .server someUrl) computed
  have valid : Timeval.Valid ⟨1, -40000⟩ := (all someUrl _ _ run clock).here pc _ set
  exact absurd valid.2.1 (by decide)

end Http2Rtsp.Server
