import Http2Rtsp.Pacing.EndOfStream
import Http2Rtsp.Server.State

/-!
# Filling the queue, statement by statement

One filler and the main thread on the queue and its mutex. The filler takes one statement of
`fill_queue` at a time, so that its test of the size and the push behind it are apart, with or without
the mutex in between. The main thread does what it does to the queue at any moment, since it pushes
timeouts both with and without the mutex.
-/

namespace Http2Rtsp.Server

open Http2Rtsp.Pacing Http2Rtsp.Semantics

/-- The statement of `fill_queue` which comes next. -/
inductive FillPc where
  /-- `while (!quitflag)`. -/
  | outer
  /-- `lock_mutex(&queuelock)` in front of the wait. -/
  | lock
  /-- `pthread_cond_wait`, which unlocks the mutex. -/
  | wait
  | waiting
  /-- The wait is over as soon as the mutex is free. -/
  | woken
  /-- `while (queue.size < QUEUESIZE && !quitflag)`. -/
  | inner
  /-- `if (!mutlocked)`, with the locking behind it. -/
  | relock
  /-- `get_frame`, and the push of what comes of it. -/
  | push
  /-- `unlock_mutex(&queuelock)`. -/
  | unlock
deriving DecidableEq

/-- The variables of `fill_queue`. `basetime` is there once `timeset` is. -/
structure FillThread where
  pc : FillPc
  quitflag : Bool
  mutlocked : Bool
  basetime : Option Clock
  prevTimestamp : Option Timeval

/-- Who has locked the mutex. -/
inductive Owner where
  | main
  | filler
deriving DecidableEq

/-- The queue, its mutex, and the filler unless there is none. -/
structure FillQueue where
  queue : List TimeoutEvent
  queuelock : Option Owner
  thread : Option FillThread

/-- The filler at its first statement. -/
def FillThread.created : FillThread := ⟨.outer, false, false, none, none⟩

/-- What happens next. -/
inductive FillInput where
  /-- The next statement of the filler, with what the clock says and what `get_frame` reads there.
  `unset` is what an unassigned `prev_timestamp` happens to hold. -/
  | filler (now : Clock) (next : Option Rtp.Frame) (unset : Timeval)
  /-- A signal, or a spurious end of the wait. -/
  | wake
  | lockMutex
  | unlockMutex
  | pullEvent
  /-- `push_timeout` of a `CHECKMEDIASTATE`, as all of its calls are. -/
  | pushTimeout (now : Clock) (timeMs : Nat)
  | emptyQueue
  | create
  | cancel

/-- The next statement of the filler, unless it has to wait. -/
def FillQueue.statement (f : FillQueue) (thread : FillThread) (now : Clock)
    (next : Option Rtp.Frame) (unset : Timeval) : Option FillQueue :=
  let goto pc := { f with thread := some { thread with pc := pc } }
  match thread.pc with
  | .outer => some (if thread.quitflag then { f with thread := none } else goto .lock)
  | .lock => if f.queuelock = none then some { goto .wait with queuelock := some .filler } else none
  | .wait => some { goto .waiting with queuelock := none }
  | .waiting => none
  | .woken =>
      if f.queuelock = none then
        some { f with
          queuelock := some .filler
          thread := some { thread with
            pc := .inner
            mutlocked := true
            basetime := some (thread.basetime.getD now) } }
      else none
  | .inner => some (goto (if f.queue.length < queueSize ∧ thread.quitflag = false then .relock
      else .outer))
  | .relock =>
      if thread.mutlocked then some (goto .push)
      else if f.queuelock = none then some { goto .push with queuelock := some .filler } else none
  | .push =>
      match next with
      | none =>
          let event : TimeoutEvent := ⟨endTime (thread.prevTimestamp.getD unset), .endOfStream⟩
          some { f with
            queue := pushed event f.queue
            thread := some { thread with pc := .unlock, quitflag := true } }
      | some frame =>
          thread.basetime.map fun basetime =>
            let time := setTimeval frame.timestamp basetime
            { f with
              queue := pushed ⟨time, .frame frame⟩ f.queue
              thread := some { thread with pc := .unlock, prevTimestamp := some time } }
  | .unlock =>
      some { f with queuelock := none, thread := some { thread with pc := .inner, mutlocked := false } }

/-- One step, which puts out what is pulled. -/
def FillQueue.step (f : FillQueue) : FillInput → Except Unit (FillQueue × List TimeoutEvent)
  | .filler now next unset =>
      match f.thread.bind fun thread => f.statement thread now next unset with
      | none => .error ()
      | some after => .ok (after, [])
  | .wake =>
      match f.thread with
      | none => .error ()
      | some thread =>
          if thread.pc = .waiting then
            .ok ({ f with thread := some { thread with pc := .woken } }, [])
          else .error ()
  | .lockMutex => if f.queuelock = none then .ok ({ f with queuelock := some .main }, []) else .error ()
  | .unlockMutex =>
      if f.queuelock = some .main then .ok ({ f with queuelock := none }, []) else .error ()
  | .pullEvent => .ok ({ f with queue := f.queue.tail }, f.queue.head?.toList)
  | .pushTimeout now timeMs =>
      .ok ({ f with queue := pushed ⟨timeoutTime now timeMs, .checkMediaState⟩ f.queue }, [])
  | .emptyQueue => .ok ({ f with queue := [] }, [])
  -- There is one filler at a time.
  | .create => if f.thread.isNone then .ok ({ f with thread := some .created }, []) else .error ()
  | .cancel => .ok ({ f with thread := none }, [])

/-- The filler and the main thread. -/
def fillQueue : Machine FillQueue FillInput TimeoutEvent Unit where
  Initial f := f = ⟨[], none, none⟩
  step := FillQueue.step

/-! ## Media events -/

/-- `FRAME` and `ENDOFSTREAM` events. -/
def isMediaEvent (event : TimeoutEvent) : Bool :=
  match event.type with
  | .frame _ | .endOfStream => true
  | .checkMediaState => false

/-- How many of them are queued. -/
def mediaCount (queue : List TimeoutEvent) : Nat := queue.countP isMediaEvent

theorem mediaCount_le_length (queue : List TimeoutEvent) : mediaCount queue ≤ queue.length :=
  List.countP_le_length

theorem mediaCount_tail_le (queue : List TimeoutEvent) : mediaCount queue.tail ≤ mediaCount queue :=
  (List.tail_sublist queue).countP_le

theorem mediaCount_pushed (event : TimeoutEvent) (queue : List TimeoutEvent) :
    mediaCount (pushed event queue) = mediaCount queue + if isMediaEvent event then 1 else 0 := by
  rw [mediaCount, pushed, (Std.scanInsert_perm _ event queue).countP_eq, List.countP_cons]
  rfl

/-- A timeout is not one of them. -/
theorem mediaCount_timeout (time : Timeval) (queue : List TimeoutEvent) :
    mediaCount (pushed ⟨time, .checkMediaState⟩ queue) = mediaCount queue :=
  mediaCount_pushed _ _

/-! ## The bound -/

/-- The filler stands between the test of the size and the push. -/
def FillPc.Tested (pc : FillPc) : Prop := pc = .relock ∨ pc = .push

/-- There are never more media events than fit, and one less while the filler has tested and has not
yet pushed. -/
structure Bounded (f : FillQueue) : Prop where
  fits : mediaCount f.queue ≤ queueSize
  room : ∀ thread ∈ f.thread, thread.pc.Tested → mediaCount f.queue < queueSize

/-- The queue may lose media events behind the filler's back, and the filler may move to where it has
not tested. -/
theorem Bounded.fewer {f after : FillQueue} (bounded : Bounded f)
    (fewer : mediaCount after.queue ≤ mediaCount f.queue)
    (stays : ∀ thread ∈ after.thread, thread.pc.Tested → ∃ earlier ∈ f.thread, earlier.pc.Tested) :
    Bounded after where
  fits := fewer.trans bounded.fits
  room thread there tested := by
    obtain ⟨earlier, before, testedBefore⟩ := stays thread there tested
    exact fewer.trans_lt (bounded.room earlier before testedBefore)

/-- The filler moves: it stood between test and push before, or there is room. -/
theorem Bounded.moved {f : FillQueue} {thread new : FillThread} (bounded : Bounded f)
    (there : f.thread = some thread) (lock : Option Owner)
    (room : new.pc.Tested → thread.pc.Tested ∨ f.queue.length < queueSize) :
    Bounded { f with queuelock := lock, thread := some new } where
  fits := bounded.fits
  room _ here tested := by
    obtain rfl := Option.some.inj here
    rcases room tested with before | short
    · exact bounded.room thread there before
    · exact (mediaCount_le_length f.queue).trans_lt short

/-- The filler pushes, and does not stand there any more. -/
theorem Bounded.push {f : FillQueue} {thread new : FillThread} (bounded : Bounded f)
    (there : f.thread = some thread) (before : thread.pc.Tested) (event : TimeoutEvent)
    (behind : ¬ new.pc.Tested) :
    Bounded { f with queue := pushed event f.queue, thread := some new } where
  fits := by
    have room := bounded.room thread there before
    rw [mediaCount_pushed]
    split <;> omega
  room _ here tested := by
    obtain rfl := Option.some.inj here
    exact absurd tested behind

/-- A statement of the filler keeps the bound: the test finds the room which the push takes. -/
theorem Bounded.statement {f after : FillQueue} {thread : FillThread} {now : Clock}
    {next : Option Rtp.Frame} {unset : Timeval} (bounded : Bounded f) (there : f.thread = some thread)
    (taken : f.statement thread now next unset = some after) : Bounded after := by
  unfold FillQueue.statement at taken
  cases pc : thread.pc with
  | outer =>
      simp only [pc] at taken
      split at taken
      · cases taken
        exact bounded.fewer le_rfl fun _ absent => nomatch absent
      · cases taken
        exact bounded.moved there f.queuelock (by simp [FillPc.Tested])
  | lock =>
      simp only [pc] at taken
      split at taken
      · cases taken
        exact bounded.moved there (some .filler) (by simp [FillPc.Tested])
      · cases taken
  | wait =>
      simp only [pc] at taken
      cases taken
      exact bounded.moved there none (by simp [FillPc.Tested])
  | waiting =>
      simp only [pc] at taken
      cases taken
  | woken =>
      simp only [pc] at taken
      split at taken
      · cases taken
        exact bounded.moved there (some .filler) (by simp [FillPc.Tested])
      · cases taken
  | inner =>
      simp only [pc] at taken
      cases taken
      refine bounded.moved there f.queuelock fun tested => Or.inr ?_
      by_contra full
      simp [FillPc.Tested, full] at tested
  | relock =>
      have before : thread.pc.Tested := Or.inl pc
      simp only [pc] at taken
      split at taken
      · cases taken
        exact bounded.moved there f.queuelock fun _ => Or.inl before
      · split at taken
        · cases taken
          exact bounded.moved there (some .filler) fun _ => Or.inl before
        · cases taken
  | push =>
      have before : thread.pc.Tested := Or.inr pc
      simp only [pc] at taken
      cases next with
      | none =>
          cases taken
          exact bounded.push there before _ (by simp [FillPc.Tested])
      | some frame =>
          obtain ⟨basetime, -, rfl⟩ := Option.map_eq_some_iff.mp taken
          exact bounded.push there before _ (by simp [FillPc.Tested])
  | unlock =>
      simp only [pc] at taken
      cases taken
      exact bounded.moved there none (by simp [FillPc.Tested])

/-- So does everything else that may happen, at any moment. -/
theorem Bounded.step {f after : FillQueue} {input : FillInput} {output : List TimeoutEvent}
    (bounded : Bounded f) (taken : f.step input = .ok (after, output)) : Bounded after := by
  have same : ∀ {queue lock}, mediaCount queue ≤ mediaCount f.queue →
      Bounded { f with queue := queue, queuelock := lock } := fun fewer =>
    bounded.fewer fewer fun thread there tested => ⟨thread, there, tested⟩
  cases input with
  | filler now next unset =>
      simp only [FillQueue.step] at taken
      split at taken
      · cases taken
      · rename_i moved
        cases taken
        obtain ⟨thread, there, taken⟩ := Option.bind_eq_some_iff.mp moved
        exact bounded.statement there taken
  | wake =>
      simp only [FillQueue.step] at taken
      split at taken
      · cases taken
      · rename_i thread there
        split at taken
        · cases taken
          exact bounded.moved there f.queuelock (by simp [FillPc.Tested])
        · cases taken
  | lockMutex =>
      simp only [FillQueue.step] at taken
      split at taken
      · cases taken
        exact same le_rfl
      · cases taken
  | unlockMutex =>
      simp only [FillQueue.step] at taken
      split at taken
      · cases taken
        exact same le_rfl
      · cases taken
  | pullEvent =>
      cases taken
      exact same (mediaCount_tail_le f.queue)
  | pushTimeout now timeMs =>
      cases taken
      exact same (mediaCount_timeout _ f.queue).le
  | emptyQueue =>
      cases taken
      exact same (Nat.zero_le _)
  | create =>
      simp only [FillQueue.step] at taken
      split at taken
      · cases taken
        refine bounded.fewer le_rfl fun thread here tested => ?_
        obtain rfl := Option.some.inj here
        simp [FillPc.Tested, FillThread.created] at tested
      · cases taken
  | cancel =>
      cases taken
      exact bounded.fewer le_rfl fun _ absent => nomatch absent

/-- There is nothing in the queue at first. -/
theorem bounded_initial {f : FillQueue} (initial : fillQueue.Initial f) : Bounded f := by
  obtain rfl : f = ⟨[], none, none⟩ := initial
  exact ⟨Nat.zero_le _, fun _ absent => nomatch absent⟩

/-- The bound holds at every point. -/
theorem bounded_always {trace : List (Entry FillQueue FillInput TimeoutEvent)} {f : FillQueue}
    (run : fillQueue.Runs trace f) : Machine.Always (fun _ => Bounded) trace f :=
  run.always (fun _ => bounded_initial) fun bounded taken => bounded.step taken

/-- However the filler and the main thread are interleaved, the media events in the queue are at no
point more than `QUEUESIZE`. -/
theorem mediaCount_le_queueSize {trace : List (Entry FillQueue FillInput TimeoutEvent)}
    {f : FillQueue} (run : fillQueue.Runs trace f) :
    Machine.Always (fun _ f => mediaCount f.queue ≤ queueSize) trace f :=
  (bounded_always run).imp fun _ _ bounded => bounded.fits

/-- The filler is woken and pushes a frame. It finds room for the next event, which is the end of the
file, but a timeout is pushed and the frame is pulled before it can lock the mutex. -/
def pushedBetween : List FillInput :=
  let statement next : FillInput := .filler someBase next ⟨0, 0⟩
  [.create, statement none, statement none, statement none, .wake, statement none, statement none,
    statement none, statement (some tinyFrame), statement none, statement none, .lockMutex,
    .pushTimeout someBase 100, .pullEvent, .unlockMutex, statement none, statement none]

theorem pushedBetween_runs : ∃ result,
    fillQueue.exec [] ⟨[], none, none⟩ pushedBetween = .ok result ∧
      mediaCount result.2.queue = 1 ∧ result.2.queue.length = 2 :=
  ⟨_, rfl, rfl, rfl⟩

/-- The bound along this run. -/
theorem mediaCount_le_queueSize_pushedBetween : ∃ result,
    fillQueue.exec [] ⟨[], none, none⟩ pushedBetween = .ok result ∧
      Machine.Always (fun _ f => mediaCount f.queue ≤ queueSize) result.1 result.2 := by
  obtain ⟨result, computed, -⟩ := pushedBetween_runs
  have initial : fillQueue.Initial ⟨[], none, none⟩ := rfl
  exact ⟨result, computed, mediaCount_le_queueSize (Machine.Runs.of_exec initial computed)⟩

end Http2Rtsp.Server
