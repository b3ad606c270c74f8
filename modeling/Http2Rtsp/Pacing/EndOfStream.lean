import Http2Rtsp.Pacing.FrameTimes

/-!
# The end of the stream

`fill_queue` pushes the frames of a file in the order `get_frame` returns them,
and behind the last one an event at the time of that frame plus ten microseconds.
Timestamps differ by more, so the event is behind every frame exactly when none
which is still queued has a later timestamp than the last one read; without a
frame its time is never assigned.
-/

namespace Http2Rtsp.Pacing

open Http2Rtsp.Std Http2Rtsp.Semantics

/-! ## Filling -/

/-- What happens to the queue while a file is read: `get_frame` returns a frame or meets the end of
the file, or an event is pulled. `unset` is what an unassigned `prev_timestamp` happens to hold. -/
inductive FillOp where
  | frame (frame : Rtp.Frame)
  | endOfFile (unset : Timeval)
  | pullEvent

/-- The queue and the variables of `fill_queue`. -/
structure FillState where
  queue : List TimeoutEvent
  prevTimestamp : Option Timeval
  quitflag : Bool

/-- What `fill_queue` pushes and `pull_event` returns. -/
inductive FillOutput where
  | pushed (event : TimeoutEvent)
  | pulled (event : Option TimeoutEvent)

/-- The event of a frame. -/
def frameEvent (basetime : Clock) (frame : Rtp.Frame) : TimeoutEvent :=
  ⟨setTimeval frame.timestamp basetime, .frame frame⟩

/-- One round of `fill_queue`, or a pull. Nothing is read behind the end of the file. -/
def fillStep (basetime : Clock) (s : FillState) (op : FillOp) :
    Except Unit (FillState × List FillOutput) :=
  match op with
  | .frame frame =>
      if s.quitflag then .error () else
        let event := frameEvent basetime frame
        .ok ({ s with queue := pushed event s.queue, prevTimestamp := some event.time },
          [.pushed event])
  | .endOfFile unset =>
      if s.quitflag then .error () else
        let event : TimeoutEvent := ⟨endTime (s.prevTimestamp.getD unset), .endOfStream⟩
        .ok ({ s with queue := pushed event s.queue, quitflag := true }, [.pushed event])
  | .pullEvent => .ok ({ s with queue := s.queue.tail }, [.pulled s.queue.head?])

/-- The reading of one file, with one base time. -/
def fillMachine (basetime : Clock) : Machine FillState FillOp FillOutput Unit where
  Initial s := s = ⟨[], none, false⟩
  step := fillStep basetime

/-- The frame of an event, if it has one. -/
def TimeoutEvent.frame? (event : TimeoutEvent) : Option Rtp.Frame :=
  match event.type with
  | .frame frame => some frame
  | _ => none

/-- The frames pushed, in order. -/
def framesPushed (outputs : List FillOutput) : List Rtp.Frame :=
  outputs.filterMap fun
    | .pushed event => event.frame?
    | .pulled _ => none

/-- The frames pulled, in order. -/
def framesPulled (outputs : List FillOutput) : List Rtp.Frame :=
  outputs.filterMap fun
    | .pushed _ => none
    | .pulled event => event.bind TimeoutEvent.frame?

@[simp] theorem framesPushed_append (first second : List FillOutput) :
    framesPushed (first ++ second) = framesPushed first ++ framesPushed second := by
  simp [framesPushed]

@[simp] theorem framesPulled_append (first second : List FillOutput) :
    framesPulled (first ++ second) = framesPulled first ++ framesPulled second := by
  simp [framesPulled]

@[simp] theorem framesPushed_frame (basetime : Clock) (frame : Rtp.Frame) :
    framesPushed [.pushed (frameEvent basetime frame)] = [frame] :=
  rfl

@[simp] theorem framesPushed_pulled (event : Option TimeoutEvent) :
    framesPushed [.pulled event] = [] :=
  rfl

@[simp] theorem framesPulled_pushed (event : TimeoutEvent) : framesPulled [.pushed event] = [] :=
  rfl

/-- Whenever the end of the stream is pulled, every frame of the file has been pulled. -/
def EndBehindFrames (outputs : List FillOutput) : Prop :=
  ∀ earlier event later, outputs = earlier ++ .pulled (some event) :: later →
    event.type = .endOfStream → (framesPulled earlier).Perm (framesPushed outputs)

/-- The end of a file is met in this state: the time of its event is defined, whatever memory which
was not assigned holds, and however the run goes on, the event comes behind every frame. -/
structure EndsLast (basetime : Clock) (trace : List (Entry FillState FillOp FillOutput))
    (s : FillState) : Prop where
  defined : ∃ time, ∀ unset after output,
    fillStep basetime s (.endOfFile unset) = .ok (after, output) →
      output = [.pushed ⟨time, .endOfStream⟩]
  behind : ∀ unset output later state, (fillMachine basetime).Runs
    (trace ++ ⟨s, .endOfFile unset, output⟩ :: later) state →
      EndBehindFrames (Machine.outputs (trace ++ ⟨s, .endOfFile unset, output⟩ :: later))

/-- A frame was read, and no frame which is still queued has a later timestamp than the last one. -/
def LastReadIsLatest (past : List FillOutput) (s : FillState) : Prop :=
  ∃ last, (framesPushed past).getLast? = some last ∧
    ∀ event ∈ s.queue, ∀ frame, event.type = .frame frame → frame.timestamp ≤ last.timestamp

/-! ## Times -/

/-- The time of the end of the stream in microseconds. -/
theorem endTime_micros (prevTimestamp : Timeval) :
    (endTime prevTimestamp).micros = prevTimestamp.micros + 10 := by
  unfold endTime Timeval.micros
  dsimp only
  omega

/-- The test of `push_event` for a frame, on the frames queued. -/
def passesFrame (basetime : Clock) (new : Rtp.Frame) : Rtp.Frame → Bool :=
  fun queued => passesOver (setTimeval new.timestamp basetime) (frameEvent basetime queued)

/-- Frames are never misjudged: both times are carried. -/
theorem passesOver_frame_iff (basetime : Clock) (new queued : Rtp.Frame) :
    passesOver (setTimeval new.timestamp basetime) (frameEvent basetime queued) = true ↔
      (setTimeval new.timestamp basetime).micros ≤ eventMicros (frameEvent basetime queued) := by
  rw [passesOver, decide_eq_true_iff]
  exact timecmp_carried (setTimeval_usec queued.timestamp basetime)
    (setTimeval_usec new.timestamp basetime) (setTimeval_near _ _ basetime)

/-- The end of the stream passes over exactly the frames with a later timestamp. -/
theorem passesOver_endTime_iff (basetime : Clock) (last queued : Rtp.Frame) :
    passesOver (endTime (setTimeval last.timestamp basetime)) (frameEvent basetime queued) = true ↔
      last.timestamp < queued.timestamp := by
  have lastCarried := setTimeval_usec last.timestamp basetime
  have queuedCarried := setTimeval_usec queued.timestamp basetime
  have lastMicros := setTimeval_micros last.timestamp basetime
  have queuedMicros := setTimeval_micros queued.timestamp basetime
  have endMicros := endTime_micros (setTimeval last.timestamp basetime)
  have lastRange := last.timestamp.toNat_lt
  have queuedRange := queued.timestamp.toNat_lt
  -- Ten microseconds are less than what two timestamps differ by.
  have apart : (endTime (setTimeval last.timestamp basetime)).micros ≤
      (setTimeval queued.timestamp basetime).micros ↔
        last.timestamp.toNat < queued.timestamp.toNat := by
    omega
  have near : (setTimeval queued.timestamp basetime).Near
      (endTime (setTimeval last.timestamp basetime)) := by
    constructor <;> omega
  have right : ¬ Misjudged (setTimeval queued.timestamp basetime)
      (endTime (setTimeval last.timestamp basetime)) := by
    have endUsec : (endTime (setTimeval last.timestamp basetime)).tvUsec =
        (setTimeval last.timestamp basetime).tvUsec + 10 := rfl
    have endSec : (endTime (setTimeval last.timestamp basetime)).tvSec =
        (setTimeval last.timestamp basetime).tvSec := rfl
    unfold Timeval.micros at apart lastMicros queuedMicros endMicros
    unfold Misjudged
    omega
  have judged := timecmp_nonpos_iff (setTimeval_produced queued.timestamp basetime)
    (endTime_produced last.timestamp basetime) near
  rw [passesOver, decide_eq_true_iff, UInt32.lt_iff_toNat_lt, ← apart]
  exact judged.mpr right

/-! ## Reading -/

section Reading

variable {basetime : Clock} {past output : List FillOutput} {s after : FillState} {op : FillOp}

/-- While the file is read: the queue holds the frames which were pushed and not yet pulled, in the
order of their times, and `prev_timestamp` is the time of the last one read. -/
structure Reads (basetime : Clock) (past : List FillOutput) (s : FillState) : Prop where
  frames : ∃ frames, s.queue = frames.map (frameEvent basetime) ∧
    (framesPulled past ++ frames).Perm (framesPushed past)
  sorted : Ascending eventMicros s.queue
  previous : s.prevTimestamp =
    (framesPushed past).getLast?.map fun frame => setTimeval frame.timestamp basetime
  noEnd : ∀ event, .pulled (some event) ∈ past → event.type ≠ .endOfStream

theorem reads_initial : Reads basetime [] ⟨[], none, false⟩ :=
  ⟨⟨[], rfl, .nil⟩, List.Pairwise.nil, rfl, fun event member => by cases member⟩

/-- The scan is right about frames. -/
theorem scansRight_frames (frames : List Rtp.Frame) (new : Rtp.Frame) :
    ScansRight eventMicros (passesOver (setTimeval new.timestamp basetime)) (frameEvent basetime new)
      (frames.map (frameEvent basetime)) := by
  refine .of_iff fun x member => ?_
  obtain ⟨queued, -, rfl⟩ := List.mem_map.mp member
  exact passesOver_frame_iff basetime new queued

/-- A frame is read. -/
theorem reads_frame (reads : Reads basetime past s) (frame : Rtp.Frame) :
    Reads basetime (past ++ [.pushed (frameEvent basetime frame)])
      { s with
        queue := pushed (frameEvent basetime frame) s.queue
        prevTimestamp := some (frameEvent basetime frame).time } := by
  obtain ⟨⟨frames, queue, all⟩, sorted, -, noEnd⟩ := reads
  refine ⟨⟨scanInsert (passesFrame basetime frame) frame frames, ?_, ?_⟩, ?_, ?_, ?_⟩
  · rw [queue, pushed]
    exact (map_scanInsert (frameEvent basetime) (passesOver _) frame frames).symm
  · have same : framesPulled (past ++ [.pushed (frameEvent basetime frame)]) = framesPulled past := by
      simp
    rw [same, framesPushed_append]
    refine ((scanInsert_perm _ frame frames).append_left _).trans ?_
    refine List.perm_middle.trans ?_
    exact (all.cons frame).trans (List.perm_append_singleton frame _).symm
  · rw [queue] at sorted ⊢
    refine (ascending_scanInsert_iff sorted fun x member equal => ?_).mpr
      (scansRight_frames frames frame)
    obtain ⟨queued, -, rfl⟩ := List.mem_map.mp member
    exact (passesOver_frame_iff basetime frame queued).mpr equal.ge
  · rw [framesPushed_append, framesPushed_frame, List.getLast?_append]
    rfl
  · intro event member
    exact noEnd event (by simpa using member)

/-- An event is pulled. -/
theorem reads_pull (reads : Reads basetime past s) :
    Reads basetime (past ++ [.pulled s.queue.head?]) { s with queue := s.queue.tail } := by
  obtain ⟨⟨frames, queue, all⟩, sorted, previous, noEnd⟩ := reads
  have same : framesPushed (past ++ [.pulled s.queue.head?]) = framesPushed past := by simp
  refine ⟨⟨frames.tail, by rw [queue, List.map_tail], ?_⟩, List.Pairwise.tail sorted, ?_, ?_⟩
  · rw [same, framesPulled_append, queue, List.append_assoc]
    cases frames with
    | nil => exact all
    | cons frame rest => exact all
  · rw [same]
    exact previous
  · intro event member
    rcases List.mem_append.mp member with earlier | last
    · exact noEnd event earlier
    · have head : s.queue.head? = some event := by simpa using Eq.symm (List.mem_singleton.mp last)
      rw [queue, List.head?_map] at head
      obtain ⟨frame, -, rfl⟩ := Option.map_eq_some_iff.mp head
      simp [frameEvent]

/-- Before the end of the file a run reads. -/
theorem reads_of_runs {trace : List (Entry FillState FillOp FillOutput)}
    (run : (fillMachine basetime).Runs trace s) (reading : s.quitflag = false) :
    Reads basetime (Machine.outputs trace) s := by
  induction run with
  | initial valid =>
      rw [show _ = _ from valid]
      exact reads_initial
  | @step trace state input next output prior taken ih =>
      rw [Machine.outputs_append, Machine.outputs_singleton]
      cases input with
      | frame frame =>
          simp only [fillMachine, fillStep] at taken
          split at taken
          · cases taken
          · rename_i open_
            cases taken
            exact reads_frame (ih (by simpa using open_)) frame
      | endOfFile unset =>
          simp only [fillMachine, fillStep] at taken
          split at taken
          · cases taken
          · cases taken
            cases reading
      | pullEvent =>
          cases taken
          exact reads_pull (ih reading)

/-! ## The end of the file -/

/-- Behind the end of the file: the end event is the last one queued, or it has been pulled behind
every frame. -/
structure Ends (basetime : Clock) (end_ : TimeoutEvent) (past : List FillOutput) (s : FillState) :
    Prop where
  quit : s.quitflag = true
  behind : EndBehindFrames past
  queued : (∃ frames, s.queue = frames.map (frameEvent basetime) ++ [end_] ∧
    (framesPulled past ++ frames).Perm (framesPushed past)) ∨ s.queue = []

/-- A pull adds one place at which the end of the stream may have been pulled. -/
theorem endBehindFrames_pulled {event : Option TimeoutEvent} (behind : EndBehindFrames past)
    (here : ∀ e, event = some e → e.type = .endOfStream →
      (framesPulled past).Perm (framesPushed past)) :
    EndBehindFrames (past ++ [.pulled event]) := by
  have same : framesPushed (past ++ [.pulled event]) = framesPushed past := by simp
  intro earlier e later split ends
  rw [same]
  rcases Machine.snoc_split.mp split with ⟨-, rfl, pulled⟩ | ⟨rest, -, before⟩
  · refine here e ?_ ends
    simpa using pulled.symm
  · exact behind earlier e rest before ends

/-- Nothing but pulls follows the end of the file. -/
theorem ends_kept {end_ : TimeoutEvent} (ends : Ends basetime end_ past s)
    (taken : fillStep basetime s op = .ok (after, output)) :
    Ends basetime end_ (past ++ output) after := by
  obtain ⟨quit, behind, queued⟩ := ends
  cases op with
  | frame frame => simp [fillStep, quit] at taken
  | endOfFile unset => simp [fillStep, quit] at taken
  | pullEvent =>
      cases taken
      have same : framesPushed (past ++ [.pulled s.queue.head?]) = framesPushed past := by simp
      rcases queued with ⟨frames, queue, all⟩ | empty
      · cases frames with
        | nil =>
            refine ⟨quit, endBehindFrames_pulled behind fun _ _ _ => ?_, Or.inr (by simp [queue])⟩
            simpa using all
        | cons frame rest =>
            have head : s.queue.head? = some (frameEvent basetime frame) := by simp [queue]
            refine ⟨quit, endBehindFrames_pulled behind fun e first ends => ?_,
              Or.inl ⟨rest, by simp [queue], ?_⟩⟩
            · rw [head] at first
              cases first
              cases ends
            · rw [same, framesPulled_append, head, List.append_assoc]
              exact all
      · refine ⟨quit, endBehindFrames_pulled behind fun e first ends => ?_, Or.inr (by simp [empty])⟩
        simp [empty] at first

/-- No end of a stream has been pulled before the end of the file is met. -/
theorem Reads.endBehindFrames (reads : Reads basetime past s) {event : TimeoutEvent} :
    EndBehindFrames (past ++ [.pushed event]) := by
  intro earlier e later split ends
  have member : .pulled (some e) ∈ past ++ [.pushed event] := by simp [split]
  exact absurd ends (reads.noEnd e (by simpa using member))

/-- Frames which pass the test of the end of the stream stay behind it. -/
theorem rtakeWhile_frames (frames : List Rtp.Frame) (last : Rtp.Frame)
    (sorted : Ascending eventMicros (frames.map (frameEvent basetime))) :
    (frames.map (frameEvent basetime)).rtakeWhile
        (passesOver (endTime (setTimeval last.timestamp basetime))) = [] ↔
      ∀ frame ∈ frames, frame.timestamp ≤ last.timestamp := by
  have upward : ∀ x ∈ frames.map (frameEvent basetime), ∀ y ∈ frames.map (frameEvent basetime),
      eventMicros x ≤ eventMicros y →
        passesOver (endTime (setTimeval last.timestamp basetime)) x = true →
          passesOver (endTime (setTimeval last.timestamp basetime)) y = true := by
    intro x xMember y yMember before passes
    obtain ⟨first, -, rfl⟩ := List.mem_map.mp xMember
    obtain ⟨second, -, rfl⟩ := List.mem_map.mp yMember
    rw [passesOver_endTime_iff] at passes ⊢
    refine UInt32.lt_of_lt_of_le passes ?_
    rw [UInt32.le_iff_toNat_le]
    have firstMicros := setTimeval_micros first.timestamp basetime
    have secondMicros := setTimeval_micros second.timestamp basetime
    simp only [eventMicros, frameEvent] at before
    omega
  rw [rtakeWhile_eq_nil_iff sorted upward]
  refine ⟨fun fails frame member => ?_, fun late x member => ?_⟩
  · have stopped := fails _ (List.mem_map_of_mem member)
    rw [← Bool.not_eq_true, passesOver_endTime_iff] at stopped
    exact UInt32.not_lt.mp stopped
  · obtain ⟨frame, inFrames, rfl⟩ := List.mem_map.mp member
    rw [← Bool.not_eq_true, passesOver_endTime_iff]
    exact UInt32.not_lt.mpr (late frame inFrames)

/-- The frames of the queue are those of its events. -/
theorem frames_of_queue {queue : List TimeoutEvent} {frames : List Rtp.Frame}
    (queued : queue = frames.map (frameEvent basetime)) (bound : UInt32) :
    (∀ event ∈ queue, ∀ frame, event.type = .frame frame → frame.timestamp ≤ bound) ↔
      ∀ frame ∈ frames, frame.timestamp ≤ bound := by
  subst queued
  constructor
  · intro all frame member
    exact all _ (List.mem_map_of_mem member) frame rfl
  · intro all event member frame same
    obtain ⟨other, inFrames, rfl⟩ := List.mem_map.mp member
    obtain rfl : other = frame := by simpa [frameEvent] using same
    exact all other inFrames

/-- What meeting the end of the file pushes. -/
theorem fillStep_endOfFile (reading : s.quitflag = false) (unset : Timeval) :
    fillStep basetime s (.endOfFile unset) =
      .ok ({ s with
          queue := pushed ⟨endTime (s.prevTimestamp.getD unset), .endOfStream⟩ s.queue
          quitflag := true },
        [.pushed ⟨endTime (s.prevTimestamp.getD unset), .endOfStream⟩]) := by
  simp [fillStep, reading]

/-- The end of the stream is the last event when no queued frame has a later timestamp. -/
theorem pushed_last {frames : List Rtp.Frame} {last : Rtp.Frame}
    (sorted : Ascending eventMicros (frames.map (frameEvent basetime)))
    (late : ∀ frame ∈ frames, frame.timestamp ≤ last.timestamp) :
    pushed ⟨endTime (setTimeval last.timestamp basetime), .endOfStream⟩
        (frames.map (frameEvent basetime)) =
      frames.map (frameEvent basetime) ++
        [⟨endTime (setTimeval last.timestamp basetime), .endOfStream⟩] := by
  have stops := (rtakeWhile_frames frames last sorted).mpr late
  have halves := rdropWhile_append_rtakeWhile
    (passesOver (endTime (setTimeval last.timestamp basetime))) (frames.map (frameEvent basetime))
  rw [stops, List.append_nil] at halves
  rw [pushed, scanInsert, stops, halves]

/-- Events at the front of the queue can be pulled. -/
theorem runs_pulls {trace : List (Entry FillState FillOp FillOutput)}
    {front rest : List TimeoutEvent} (run : (fillMachine basetime).Runs trace s)
    (queue : s.queue = front ++ rest) :
    ∃ later, (fillMachine basetime).Runs (trace ++ later) { s with queue := rest } ∧
      Machine.outputs later = front.map fun event => .pulled (some event) := by
  induction front generalizing trace s with
  | nil =>
      rw [List.nil_append] at queue
      subst queue
      exact ⟨[], by simpa using run, rfl⟩
  | cons event front ih =>
      have taken : (fillMachine basetime).step s .pullEvent =
          .ok ({ s with queue := front ++ rest }, [.pulled (some event)]) := by
        simp [fillMachine, fillStep, queue]
      obtain ⟨later, run', outputs⟩ := ih (run.step taken) rfl
      refine ⟨⟨s, .pullEvent, [.pulled (some event)]⟩ :: later, by simpa using run', ?_⟩
      rw [List.map_cons, ← outputs]
      rfl

end Reading

section Runs

variable {basetime : Clock} {trace : List (Entry FillState FillOp FillOutput)} {s : FillState}

/-- Then the event comes behind every frame. -/
theorem endsLast_of_lastReadIsLatest (run : (fillMachine basetime).Runs trace s)
    (reading : s.quitflag = false) (latest : LastReadIsLatest (Machine.outputs trace) s) :
    EndsLast basetime trace s := by
  have reads := reads_of_runs run reading
  obtain ⟨frames, queue, all⟩ := reads.frames
  obtain ⟨last, read, late⟩ := latest
  have sorted := reads.sorted
  have previous := reads.previous
  rw [read, Option.map_some] at previous
  rw [queue] at sorted
  rw [frames_of_queue queue] at late
  constructor
  · refine ⟨endTime (setTimeval last.timestamp basetime), fun unset after output taken => ?_⟩
    rw [fillStep_endOfFile reading, previous] at taken
    cases taken
    rfl
  · intro unset output later state run'
    have ends : Ends basetime ⟨endTime (setTimeval last.timestamp basetime), .endOfStream⟩
        (Machine.outputs (trace ++ ⟨s, .endOfFile unset, output⟩ :: later)) state := by
      apply run'.since
      · intro next taken
        simp only [fillMachine] at taken
        rw [fillStep_endOfFile reading, previous] at taken
        cases taken
        refine ⟨rfl, reads.endBehindFrames, Or.inl ⟨frames, ?_, ?_⟩⟩
        · simp only [queue, Option.getD_some]
          exact pushed_last sorted late
        · rw [framesPulled_append, framesPushed_append]
          simpa [framesPushed, TimeoutEvent.frame?] using all
      · intro past before input after output ends taken
        exact ends_kept ends taken
    exact ends.behind

/-- A frame has been read when the time of the event is defined. -/
theorem EndsLast.read (run : (fillMachine basetime).Runs trace s) (reading : s.quitflag = false)
    (ends : EndsLast basetime trace s) : ∃ last, (framesPushed (Machine.outputs trace)).getLast? =
      some last ∧ s.prevTimestamp = some (setTimeval last.timestamp basetime) := by
  have previous := (reads_of_runs run reading).previous
  cases read : (framesPushed (Machine.outputs trace)).getLast? with
  | some last => exact ⟨last, rfl, by rw [previous, read, Option.map_some]⟩
  | none =>
      rw [read, Option.map_none] at previous
      obtain ⟨time, defined⟩ := ends.defined
      have zero := defined ⟨0, 0⟩ _ _ (fillStep_endOfFile reading ⟨0, 0⟩)
      have one := defined ⟨1, 0⟩ _ _ (fillStep_endOfFile reading ⟨1, 0⟩)
      rw [previous] at zero one
      have different := zero.trans one.symm
      simp [endTime] at different

/-- Otherwise a frame is queued behind it, and the event can be pulled first. -/
theorem EndsLast.lastReadIsLatest (run : (fillMachine basetime).Runs trace s)
    (reading : s.quitflag = false) (ends : EndsLast basetime trace s) :
    LastReadIsLatest (Machine.outputs trace) s := by
  have reads := reads_of_runs run reading
  obtain ⟨frames, queue, all⟩ := reads.frames
  obtain ⟨last, read, previous⟩ := ends.read run reading
  have sorted := reads.sorted
  rw [queue] at sorted
  refine ⟨last, read, (frames_of_queue queue last.timestamp).mpr ?_⟩
  rw [← rtakeWhile_frames frames last sorted]
  let end_ : TimeoutEvent := ⟨endTime (setTimeval last.timestamp basetime), .endOfStream⟩
  let front := (frames.map (frameEvent basetime)).rdropWhile (passesOver end_.time)
  let back := (frames.map (frameEvent basetime)).rtakeWhile (passesOver end_.time)
  have halves : front ++ back = frames.map (frameEvent basetime) := rdropWhile_append_rtakeWhile _ _
  have taken : (fillMachine basetime).step s (.endOfFile ⟨0, 0⟩) = .ok (
      { s with queue := pushed end_ s.queue, quitflag := true }, [.pushed end_]) := by
    have ended := @fillStep_endOfFile basetime s reading ⟨0, 0⟩
    have assigned : s.prevTimestamp.getD ⟨0, 0⟩ = setTimeval last.timestamp basetime := by
      rw [previous, Option.getD_some]
    rwa [assigned] at ended
  have split : pushed end_ s.queue = (front ++ [end_]) ++ back := by
    rw [queue, pushed, scanInsert, List.append_assoc]
    rfl
  obtain ⟨later, run', outputs⟩ := runs_pulls (run.step taken) split
  have behind := ends.behind ⟨0, 0⟩ [.pushed end_] later _ (by simpa using run')
  have put : Machine.outputs (trace ++ ⟨s, .endOfFile ⟨0, 0⟩, [.pushed end_]⟩ :: later) =
      (Machine.outputs trace ++ [.pushed end_] ++ front.map fun e => .pulled (some e)) ++
        [.pulled (some end_)] := by
    simp [outputs]
  have pulled := behind _ end_ [] put rfl
  have fewer : (framesPulled (front.map fun e => .pulled (some e))).length ≤ front.length := by
    rw [framesPulled, List.filterMap_map]
    exact List.length_filterMap_le _ _
  have noPush : framesPushed (front.map fun e => .pulled (some e)) = [] := by simp [framesPushed]
  have noFrame : framesPushed [.pushed end_] = [] := rfl
  -- As many frames as were pushed have been pulled, so none is left in `back`.
  have counted := pulled.length_eq
  have conserved := all.length_eq
  have total := congrArg List.length halves
  rw [put] at counted
  simp only [framesPulled_append, framesPushed_append, framesPulled_pushed, framesPushed_pulled,
    noPush, noFrame, List.length_append, List.length_nil, List.length_map] at counted conserved total
  exact List.length_eq_zero_iff.mp (show back.length = 0 by omega)

/-- When the end of a file is met, its event has a defined time and comes behind every frame of the
file, however the run goes on, exactly when a frame was read and no frame which is still queued has a
later timestamp than the last one read. -/
theorem endsLast_iff (run : (fillMachine basetime).Runs trace s) (reading : s.quitflag = false) :
    EndsLast basetime trace s ↔ LastReadIsLatest (Machine.outputs trace) s :=
  ⟨fun ends => ends.lastReadIsLatest run reading,
    fun latest => endsLast_of_lastReadIsLatest run reading latest⟩

end Runs

/-- A frame of one byte with this timestamp. -/
def frameAt (timestamp : UInt32) : Rtp.Frame := { tinyFrame with timestamp := timestamp }

/-- A base time. -/
def someBase : Clock := ⟨⟨2000, 0⟩, by decide, by decide⟩

/-- Two frames in the order of their timestamps, or in decoding order. -/
def twoFrames (first second : UInt32) : List FillOp :=
  [.frame (frameAt first), .frame (frameAt second)]

theorem twoFrames_read : ∃ result,
    (fillMachine someBase).exec [] ⟨[], none, false⟩ (twoFrames 0 3600) = .ok result ∧
      result.2.quitflag = false ∧
      result.2.queue = [frameEvent someBase (frameAt 0), frameEvent someBase (frameAt 3600)] ∧
      framesPushed (Machine.outputs result.1) = [frameAt 0, frameAt 3600] :=
  ⟨_, rfl, rfl, rfl, rfl⟩

/-- The end of the stream comes behind two frames in order. -/
theorem endsLast_iff_twoFrames : ∃ result,
    (fillMachine someBase).exec [] ⟨[], none, false⟩ (twoFrames 0 3600) = .ok result ∧
      LastReadIsLatest (Machine.outputs result.1) result.2 ∧ EndsLast someBase result.1 result.2 := by
  obtain ⟨result, computed, reading, queue, pushed⟩ := twoFrames_read
  have latest : LastReadIsLatest (Machine.outputs result.1) result.2 := by
    refine ⟨frameAt 3600, by rw [pushed]; rfl, fun event member frame shown => ?_⟩
    rw [queue, List.mem_pair] at member
    rcases member with rfl | rfl
    · cases shown
      decide
    · cases shown
      decide
  exact ⟨result, computed, latest, (endsLast_iff (Machine.Runs.of_exec rfl computed) reading).mpr latest⟩

/-- With the later frame first, which is still queued. -/
theorem twoFrames_swapped : ∃ result,
    (fillMachine someBase).exec [] ⟨[], none, false⟩ (twoFrames 3600 0) = .ok result ∧
      result.2.quitflag = false ∧
      result.2.queue.map (fun event => event.frame?.map Rtp.Frame.timestamp) = [some 0, some 3600] ∧
      (framesPushed (Machine.outputs result.1)).map Rtp.Frame.timestamp = [3600, 0] :=
  ⟨_, rfl, rfl, by decide, by decide⟩

/-- The event is put in front of a frame which was read before the last one and is shown later. -/
theorem endsLast_not_always : ¬ ∀ basetime trace s, (fillMachine basetime).Runs trace s →
    s.quitflag = false → EndsLast basetime trace s := by
  intro all
  obtain ⟨result, computed, reading, queue, pushed⟩ := twoFrames_swapped
  have initial : (fillMachine someBase).Initial ⟨[], none, false⟩ := rfl
  have run := Machine.Runs.of_exec initial computed
  obtain ⟨last, read, late⟩ := (all someBase _ _ run reading).lastReadIsLatest run reading
  have lastRead : last.timestamp = 0 := by
    have timestamps := congrArg List.getLast? pushed
    rw [List.getLast?_map, read] at timestamps
    simpa using timestamps
  have member : some 3600 ∈ result.2.queue.map fun event => event.frame?.map Rtp.Frame.timestamp := by
    rw [queue]
    simp
  obtain ⟨event, queued, shown⟩ := List.mem_map.mp member
  obtain ⟨frame, found, timestamp⟩ := Option.map_eq_some_iff.mp shown
  have type : event.type = .frame frame := by
    unfold TimeoutEvent.frame? at found
    split at found
    · cases found
      assumption
    · cases found
  have bound := late event queued frame type
  rw [timestamp, lastRead] at bound
  exact absurd bound (by decide)

end Http2Rtsp.Pacing
