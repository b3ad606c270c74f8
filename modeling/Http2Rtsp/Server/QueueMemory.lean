import Http2Rtsp.Pacing.QueueMemory
import Http2Rtsp.Server.Threads

/-!
# The servers and the memory of their queue

The steps work with the list of queued events. What the threads do with the
nodes, with the frames and with `malloc` and `free` on the way is read off the
same handlers, and is followed beside them in the memory itself. The two agree
along every run; no pointer is bad and nothing is freed twice while all frames
were filled; and what is lost is four blocks for every filler created and one
for every end of a file.
-/

namespace Http2Rtsp.Server

open Http2Rtsp.Std Http2Rtsp.Message Http2Rtsp.Pacing Http2Rtsp.Semantics

/-! ## Moves -/

/-- The moves of `handleTimeout`. -/
def ServerState.timeoutMoves (variant : Variant) (s : ServerState) (now : Clock) : List QueueMove :=
  if s.lock = none then
    match variant, s.queue.head?.map TimeoutEvent.type, (byes s.sip.acknowledged).2 with
    | .mt, some .endOfStream, some _ => [.pull]
    | _, _, _ =>
        [.dispatch (if s.download.mediastate = .stream then none else some (timeoutTime now 1000))]
  else []

/-- The moves of `handleMedia`. -/
def ServerState.mediaMoves (s : ServerState) (i : Int) (io : MediaIo) : List QueueMove :=
  if s.download.mediastate = .recvtcp ∧ s.kernel i ≠ none ∧
      ¬ 0 < (s.storeMedia i io).download.videoleft then
    match io.opening with
    | .error _ => []
    | .ok _ => .sprops :: if s.lock = none then [.timeout (timeoutTime io.now 1000)] else []
  else []

/-- The moves of `handleTeardown`. -/
def ServerState.teardownMoves (s : ServerState) : List QueueMove :=
  match s.threadid, s.tinfo with
  | some _, some tinfo => if s.lock = none ∧ tinfo ∉ s.freed then [.empty] else []
  | _, _ => []

/-- The moves of `clientSwitch`. -/
def ServerState.switchMoves (s : ServerState) (io : RtspIo) : List QueueMove :=
  match s.streamclient.state, s.rtspmsg.type with
  | .setupcomplete, .play =>
      if s.download.mediaDownloaded then
        match io.opening with
        | .error _ => []
        | .ok _ =>
            [.sprops, .timeout (timeoutTime io.now 100), .timeout (timeoutTime io.later 2000)]
      else if s.lock = none then [.timeout (timeoutTime io.now 100)] else []
  | _, _ => []

/-- The moves of `handleRtsp`. Behind the TEARDOWN block the `switch` has nothing to act on. -/
def ServerState.rtspMoves (s : ServerState) (i : Int) (io : RtspIo) : List QueueMove :=
  let received := (s.receiveRtsp i io.received).1
  match received.pc with
  | .halted _ => []
  | _ =>
      if received.rtspmsg.type = .teardown then received.teardownMoves else received.switchMoves io

/-- The moves of a round of `fill_queue`. -/
def Filler.roundMoves (filler : Filler) (basetime : Clock) (next : Option Rtp.Frame)
    (unset : Timeval) (unfilled : Option Nat) : List QueueMove :=
  match next with
  | none => [.endOfStream (endTime (filler.prevTimestamp.getD unset))]
  | some frame => [.frame (setTimeval frame.timestamp basetime) frame unfilled]

/-- The moves of `fill_queue` with this action. -/
def ServerState.fillerMoves (s : ServerState) (k : Nat) (action : FillerAction)
    (unfilled : Option Nat) : List QueueMove :=
  match s.fillers[k]?, action with
  | some filler, .resume now next unset =>
      if s.queue.length < queueSize then
        filler.roundMoves (filler.basetime.getD now) next unset unfilled
      else []
  | some filler, .push next unset =>
      match filler.basetime with
      | none => []
      | some basetime => filler.roundMoves basetime next unset unfilled
  | _, _ => []

/-- The moves of a step. -/
def ServerState.moves (variant : Variant) (s : ServerState) (unfilled : Option Nat) :
    Input → List QueueMove
  | .timeout now _ => s.timeoutMoves variant now
  | .media io =>
      match s.pc with
      | .dispatch (i :: rest) => { s with pc := .dispatch rest }.mediaMoves i io
      | _ => []
  | .rtsp io =>
      match s.pc with
      | .dispatch (i :: rest) => { s with pc := .dispatch rest }.rtspMoves i io
      | _ => []
  | .filler k action => s.fillerMoves k action unfilled
  | .interrupted | .ready _ | .accept _ | .datagram _ | .rearm _ => []

/-! ## What is lost -/

/-- The fillers which met the end of their file. -/
def endsMet (fillers : List Filler) : Nat := fillers.countP fun filler => filler.pc = .done

/-- The blocks to which no pointer leads any more: the parameter sets were copied into two frames for
every filler, and every filler has one frame more than its file. -/
def ServerState.leaked (s : ServerState) : Nat := 4 * s.fillers.length + endsMet s.fillers

section Fillers

variable {fillers : List Filler} {k : Nat} {old new : Filler}

/-- A replaced filler counts as before, if it is as far as before. -/
theorem endsMet_set (there : fillers[k]? = some old) (same : new.pc = .done ↔ old.pc = .done) :
    endsMet (fillers.set k new) = endsMet fillers := by
  obtain ⟨inside, rfl⟩ := List.getElem?_eq_some_iff.mp there
  have counted : endsMet fillers ≥ if fillers[k].pc = .done then 1 else 0 := by
    split
    · exact List.countP_pos_iff.mpr ⟨_, List.getElem_mem inside, by simpa⟩
    · exact Nat.zero_le _
  simp only [endsMet, List.countP_set inside, decide_eq_true_eq, same] at counted ⊢
  omega

/-- One more end is met. -/
theorem endsMet_done (there : fillers[k]? = some old) (before : old.pc ≠ .done)
    (done : new.pc = .done) : endsMet (fillers.set k new) = endsMet fillers + 1 := by
  obtain ⟨inside, rfl⟩ := List.getElem?_eq_some_iff.mp there
  simp [endsMet, List.countP_set inside, before, done]

theorem endsMet_signal (wake : Nat) (fillers : List Filler) :
    endsMet (signal wake fillers) = endsMet fillers := by
  rcases signal_moves wake fillers with same | ⟨k, filler, there, waiting, woken⟩
  · rw [same]
  · rw [woken]
    exact endsMet_set there (by simp [waiting])

theorem endsMet_cancel (thread : Nat) (fillers : List Filler) :
    endsMet (fillers.modify thread Filler.cancel) = endsMet fillers := by
  cases there : fillers[thread]? with
  | none => rw [List.modify_eq_self (List.getElem?_eq_none_iff.mp there)]
  | some filler =>
      rw [List.modify_eq_set_getElem?, there]
      refine endsMet_set there ?_
      unfold Filler.cancel
      cases pc : filler.pc <;> simp [pc]

end Fillers

/-! ## What the moves account for -/

/-- The moves lead from the queue before to the one afterwards, and account for what is lost unless the
behaviour is undefined. -/
structure Remembers (s : ServerState) (moves : List QueueMove) (after : ServerState) : Prop where
  queue : onQueueAll moves s.queue = after.queue
  leaked : (∃ reason, after.pc = .halted (.undefined reason)) ∨
    s.leaked + losesAll moves s.queue = after.leaked

/-- Without moves nothing is changed. -/
theorem Remembers.none {s after : ServerState} (queue : after.queue = s.queue)
    (fillers : after.fillers = s.fillers) : Remembers s [] after where
  queue := queue.symm
  leaked := Or.inr (by simp [ServerState.leaked, fillers, losesAll])

/-- A change in front which concerns neither the queue nor the fillers. -/
theorem Remembers.behind {s middle after : ServerState} {moves : List QueueMove}
    (remembers : Remembers middle moves after) (queue : middle.queue = s.queue)
    (fillers : middle.fillers = s.fillers) : Remembers s moves after where
  queue := queue ▸ remembers.queue
  leaked := by
    have leaked := remembers.leaked
    rwa [ServerState.leaked, queue, fillers, ← ServerState.leaked] at leaked

/-- A filler which was created has met no end. -/
theorem leaked_launch (s : ServerState) (sets : ParameterSets) :
    (s.launch sets).1.leaked = s.leaked + 4 := by
  simp [ServerState.leaked, ServerState.launch, ServerState.createFiller, endsMet]
  omega

theorem leaked_finishTimeout (s : ServerState) (event : TimeoutEvent) (wake : Nat) :
    (s.finishTimeout event wake).leaked = s.leaked := by
  unfold ServerState.leaked ServerState.finishTimeout
  dsimp only
  split
  · rw [endsMet_signal, (fades_signal wake s.fillers).1]
  · rfl

/-- Behind a TEARDOWN block nothing more is lost. -/
theorem leaked_tearDown (variant : Variant) (s : ServerState) (i : Int) (io : RtspIo)
    (thread tinfo : Nat) : (s.tearDown variant i io thread tinfo).1.leaked = s.leaked := by
  cases variant with
  | mt => simp [ServerState.leaked, ServerState.tearDown, endsMet_cancel]
  | server =>
      have length := (fades_signal io.wake (s.fillers.modify thread Filler.cancel)).1
      simp [ServerState.leaked, ServerState.tearDown, endsMet_signal, endsMet_cancel, length]

/-! ### Handlers -/

/-- The critical section of a timeout with an event at the head of the queue. -/
theorem handleEvent_remembers (variant : Variant) {s : ServerState} {event : TimeoutEvent}
    {rest : List TimeoutEvent} (now : Clock) (wake : Nat) (running : s.Running) (free : s.lock = .none)
    (queued : s.queue = event :: rest) :
    Remembers s (s.timeoutMoves variant now)
      (({ s with timeind := none, queue := rest }.handleEvent variant event now).andThen
        fun s => (s.finishTimeout event wake, [])).1 := by
  have still : ServerState.Running { s with timeind := none, queue := rest } := running
  -- The outcomes of the `switch` which let the server go on.
  have dispatched : ∀ {after : ServerState} {rearmed : Option Timeval}, after.Running →
      (QueueMove.dispatch rearmed).onQueue s.queue = after.queue → after.fillers = s.fillers →
      Remembers s [.dispatch rearmed] (after.finishTimeout event wake) := by
    intro after rearmed goes queue fillers
    refine ⟨queue, Or.inr ?_⟩
    rw [leaked_finishTimeout, ServerState.leaked, ServerState.leaked, fillers, queued]
    rfl
  unfold ServerState.timeoutMoves ServerState.handleEvent
  rw [if_pos free, queued]
  simp only [List.head?_cons, Option.map_some]
  cases type : event.type with
  | endOfStream =>
      cases variant with
      | server =>
          simp only
          rw [andThen_running still]
          exact dispatched still (by simp [QueueMove.onQueue, queued, type]) rfl
      | mt =>
          simp only [@andThen_running (_, (byes s.sip.acknowledged).1) _ still]
          cases written : (byes s.sip.acknowledged).2 with
          | some reason =>
              rw [andThen_halted rfl]
              refine ⟨?_, Or.inl ⟨reason, rfl⟩⟩
              simp [onQueueAll, QueueMove.onQueue, queued, halt_eq]
          | none =>
              rw [@andThen_running (_, _) _ still]
              exact dispatched still (by simp [QueueMove.onQueue, queued, type]) rfl
  | frame frame =>
      cases kind : frame.frametype with
      | video =>
          simp only [kind]
          rw [andThen_running still]
          exact dispatched still (by simp [QueueMove.onQueue, queued, type]) rfl
      | audio =>
          simp only [kind]
          rw [andThen_running still]
          exact dispatched still (by simp [QueueMove.onQueue, queued, type]) rfl
  | checkMediaState =>
      by_cases streaming : s.download.mediastate = .stream
      · simp only [if_pos streaming]
        rw [andThen_running still]
        exact dispatched still (by simp [QueueMove.onQueue, queued, type]) rfl
      · simp only [if_neg streaming]
        rw [andThen_running still]
        exact dispatched still (by simp [QueueMove.onQueue, queued, type, ServerState.pushTimeout]) rfl

theorem handleTimeout_remembers (variant : Variant) {s : ServerState} (now : Clock) (wake : Nat)
    (running : s.Running) :
    Remembers s (s.timeoutMoves variant now) (s.handleTimeout variant now wake).1 := by
  let cleared : ServerState := { s with timeind := none }
  by_cases free : s.lock = none
  · rw [ServerState.handleTimeout, locked_free (show cleared.lock = none from free)]
    cases queued : s.queue with
    | nil =>
        have moves : ∃ rearmed, s.timeoutMoves variant now = [.dispatch rearmed] := by
          unfold ServerState.timeoutMoves
          rw [if_pos free, queued]
          cases variant with
          | server => exact ⟨_, rfl⟩
          | mt => exact ⟨_, rfl⟩
        obtain ⟨rearmed, moves⟩ := moves
        rw [moves]
        exact ⟨by simp [onQueueAll, QueueMove.onQueue, queued, cleared], Or.inr (by simp [losesAll,
          QueueMove.loses, cleared, ServerState.leaked])⟩
    | cons event rest => exact handleEvent_remembers variant now wake running free queued
  · rw [ServerState.handleTimeout, locked_taken (show cleared.lock ≠ none from free)]
    have silent : s.timeoutMoves variant now = [] := if_neg free
    rw [silent]
    exact .none rfl rfl

/-- At the end of a download the parameter sets are sent before the mutex is locked. -/
theorem CompleteEffect.remembers {s after : ServerState} {io : MediaIo} {output : List Output}
    (effect : CompleteEffect s io after output) :
    Remembers s (match io.opening with
      | .error _ => []
      | .ok _ => .sprops :: if s.lock = none then [.timeout (timeoutTime io.now 1000)] else [])
      after := by
  cases effect with
  | exited unopened =>
      rw [unopened]
      exact .none rfl rfl
  | @failed reason unopened =>
      rw [unopened]
      exact ⟨rfl, Or.inl ⟨reason, rfl⟩⟩
  | @locked sets opened taken =>
      rw [opened]
      simp only [if_neg taken]
      exact ⟨rfl, Or.inr (leaked_launch s sets).symm⟩
  | @launched sets opened free =>
      rw [opened]
      simp only [if_pos free]
      exact ⟨rfl, Or.inr (leaked_launch s sets).symm⟩

theorem handleMedia_remembers {s : ServerState} (i : Int) (io : MediaIo) (running : s.Running) :
    Remembers s (s.mediaMoves i io) (s.handleMedia i io).1 := by
  unfold ServerState.mediaMoves ServerState.handleMedia
  cases state : s.download.mediastate with
  | idle => exact .none rfl rfl
  | stream => exact .none rfl rfl
  | getsent =>
      rw [if_neg (by simp)]
      by_cases opened : s.kernel i = none
      · simp only [if_pos opened, halt_eq]
        exact .none rfl rfl
      · simp only [if_neg opened]
        cases headerLength io.peeked with
        | none => exact .none rfl rfl
        | some size =>
            cases s.download.getsent io.received with
            | error reason => exact .none rfl rfl
            | ok download => exact .none rfl rfl
  | recvtcp =>
      by_cases opened : s.kernel i = none
      · rw [if_neg (by simp [opened])]
        simp only [if_pos opened, halt_eq]
        exact .none rfl rfl
      · obtain ⟨kernel, masterfds, stored⟩ := storeMedia_eq s i io
        simp only [if_neg opened]
        by_cases more : 0 < (s.storeMedia i io).download.videoleft
        · rw [if_neg (by simp [more]), if_pos more, stored]
          exact .none rfl rfl
        · rw [if_pos (by simp [opened, more]), if_neg more]
          have still : (s.storeMedia i io).Running := by
            rw [stored]
            exact running
          have lock : (s.storeMedia i io).lock = s.lock := by rw [stored]
          have queue : (s.storeMedia i io).queue = s.queue := by rw [stored]
          have fillers : (s.storeMedia i io).fillers = s.fillers := by rw [stored]
          have remembers := (@complete_cases _ io still).remembers.behind queue fillers
          rwa [lock] at remembers

theorem TeardownEffect.remembers {variant : Variant} {s after : ServerState} {i : Int} {io : RtspIo}
    {output : List Output} (effect : TeardownEffect variant s i io after output) :
    Remembers s s.teardownMoves after := by
  unfold ServerState.teardownMoves
  cases effect with
  | locked taken =>
      have blocked : Remembers s [] { s with pc := .halted .deadlock } := .none rfl rfl
      split
      · rwa [if_neg (by simp [taken])]
      · exact blocked
  | dangling free dead =>
      have halted : Remembers s [] { s with pc := .halted (.undefined .dangling) } := .none rfl rfl
      split
      · rename_i thread tinfo named points
        rwa [if_neg (fun both => dead thread tinfo ⟨named, points, both.2⟩)]
      · exact halted
  | @done thread tinfo free armed =>
      simp only [armed.1, armed.2.1, if_pos (And.intro free armed.2.2)]
      exact ⟨rfl, Or.inr (leaked_tearDown variant s i io thread tinfo).symm⟩

theorem handlePlay_remembers {s : ServerState} (i : Int) (io : RtspIo) (running : s.Running) :
    Remembers s (if s.download.mediaDownloaded then
        match io.opening with
        | .error _ => []
        | .ok _ =>
            [.sprops, .timeout (timeoutTime io.now 100), .timeout (timeoutTime io.later 2000)]
      else if s.lock = none then [.timeout (timeoutTime io.now 100)] else []) (s.handlePlay i io).1 := by
  unfold ServerState.handlePlay
  rw [andThen_running running]
  cases downloaded : s.download.mediaDownloaded with
  | true =>
      rw [if_pos rfl, if_pos rfl]
      cases opened : io.opening with
      | error failure =>
          cases failure with
          | exits =>
              rw [ServerState.startFiller, andThen_halt, halt_eq]
              exact .none rfl rfl
          | fails =>
              rw [startFiller_fails running, andThen_halted rfl]
              exact ⟨rfl, Or.inl ⟨_, rfl⟩⟩
      | ok sets =>
          have still : (s.launch sets).1.Running := running
          rw [ServerState.startFiller, andThen_running still]
          exact ⟨rfl, Or.inr (leaked_launch s sets).symm⟩
  | false =>
      rw [if_neg Bool.false_ne_true, if_neg Bool.false_ne_true]
      by_cases free : s.lock = none
      · rw [locked_free free, if_pos free]
        exact ⟨rfl, Or.inr rfl⟩
      · rw [locked_taken free, if_neg free, halt_eq]
        exact .none rfl rfl

/-- The `switch` concerns the queue and the fillers only on a PLAY in the right state. -/
theorem SwitchEffect.still {variant : Variant} {s after : ServerState} {i : Int} {io : RtspIo}
    {output : List Output} (effect : SwitchEffect variant s i io after output)
    (other : ¬ (s.streamclient.state = .setupcomplete ∧ s.rtspmsg.type = .play)) :
    after.queue = s.queue ∧ after.fillers = s.fillers := by
  cases effect with
  | ignored _ => exact ⟨rfl, rfl⟩
  | failed reason output handled before => exact ⟨rfl, rfl⟩
  | options state type => exact ⟨rfl, rfl⟩
  | described state type downloaded => exact ⟨rfl, rfl⟩
  | fetched state type absent fetch => exact ⟨rfl, rfl⟩
  | @setup rtp rtcp session text state type sockets =>
      obtain ⟨kernel, opened⟩ := openUdp_eq s rtp rtcp
      rw [opened]
      exact ⟨rfl, rfl⟩
  | played state type absent free => exact absurd ⟨state, type⟩ other
  | unopened state type downloaded unopened => exact absurd ⟨state, type⟩ other
  | launched state type downloaded opened => exact absurd ⟨state, type⟩ other

theorem clientSwitch_remembers (variant : Variant) (url : List UInt8) {s : ServerState} (i : Int)
    (io : RtspIo) (running : s.Running) :
    Remembers s (s.switchMoves io) (s.clientSwitch variant url i io).1 := by
  by_cases plays : s.streamclient.state = .setupcomplete ∧ s.rtspmsg.type = .play
  · simp only [ServerState.switchMoves, ServerState.clientSwitch, plays.1, plays.2]
    exact handlePlay_remembers i io running
  · obtain ⟨queue, fillers⟩ := (@clientSwitch_cases variant url s i io running).still plays
    have silent : s.switchMoves io = [] := by
      unfold ServerState.switchMoves
      split
      · rename_i state type
        exact absurd ⟨state, type⟩ plays
      · rfl
    rw [silent]
    exact .none queue fillers

/-- The receipt of data concerns neither. -/
theorem ReceiveEffect.aside {s after : ServerState} {i : Int} {received : List UInt8}
    {output : List Output} (effect : ReceiveEffect s i received after output) :
    after.queue = s.queue ∧ after.fillers = s.fillers := by
  cases effect with
  | closed opened empty => exact ⟨rfl, rfl⟩
  | message opened nonempty terminated parsed => exact ⟨rfl, rfl⟩

theorem handleRtsp_remembers (variant : Variant) (url : List UInt8) {s : ServerState} (i : Int)
    (io : RtspIo) (running : s.Running) :
    Remembers s (s.rtspMoves i io) (s.handleRtsp variant url i io).1 := by
  unfold ServerState.rtspMoves
  rcases receiveRtsp_cases s i io.received with ⟨reason, halted, -⟩ | receive
  · rw [ServerState.handleRtsp, halted, andThen_halt, halt_eq]
    exact .none rfl rfl
  · have still : (s.receiveRtsp i io.received).1.Running := fun reason => by
      rw [receive.pc]
      exact running reason
    obtain ⟨queue, fillers⟩ := receive.aside
    generalize known : s.receiveRtsp i io.received = outcome at receive still queue fillers
    obtain ⟨received, output⟩ := outcome
    simp only
    split
    · rename_i reason halted
      exact absurd halted (still reason)
    · by_cases type : received.rtspmsg.type = .teardown
      · rw [handleRtsp_teardown known still type, if_pos type]
        exact (handleTeardown_cases variant received i io).remembers.behind queue fillers
      · rw [handleRtsp_switch known still type, if_neg type]
        exact (clientSwitch_remembers variant url i io still).behind queue fillers

/-- A round of a filler, which either goes on or has met the end of its file. -/
theorem pushNext_remembers {s : ServerState} {k : Nat} {filler : Filler} (basetime : Clock)
    (next : Option Rtp.Frame) (unset : Timeval) (unfilled : Option Nat)
    (there : s.fillers[k]? = some filler) (goes : filler.pc ≠ .done) :
    Remembers s (filler.roundMoves basetime next unset unfilled)
      (s.pushNext k filler basetime next unset) := by
  cases next with
  | none =>
      refine ⟨rfl, Or.inr ?_⟩
      have met := @endsMet_done s.fillers k filler
        { filler with basetime := some basetime, pc := .done } there goes rfl
      simp [ServerState.leaked, ServerState.pushNext, Filler.roundMoves, losesAll, QueueMove.loses, met,
        Nat.add_assoc]
  | some frame =>
      refine ⟨rfl, Or.inr ?_⟩
      have kept := @endsMet_set s.fillers k filler
        { filler with
          basetime := some basetime
          prevTimestamp := some (setTimeval frame.timestamp basetime)
          pc := .slept } there (by simp [goes])
      simp [ServerState.leaked, ServerState.pushNext, Filler.roundMoves, losesAll, QueueMove.loses, kept]

/-- A filler which only moves on. -/
theorem moveFiller_remembers {s after : ServerState} {k : Nat} {old new : Filler}
    (there : s.fillers[k]? = some old) (same : new.pc = .done ↔ old.pc = .done)
    (queue : after.queue = s.queue) (fillers : after.fillers = s.fillers.set k new) :
    Remembers s [] after where
  queue := queue.symm
  leaked := Or.inr (by simp [ServerState.leaked, fillers, endsMet_set there same, losesAll])

theorem handleFiller_remembers {s after : ServerState} {k : Nat} {action : FillerAction}
    (unfilled : Option Nat) (taken : s.handleFiller k action = some after) :
    Remembers s (s.fillerMoves k action unfilled) after := by
  obtain ⟨filler, there, move⟩ := handleFiller_moves taken
  unfold ServerState.fillerMoves
  cases move with
  | wait pc free =>
      simp only [there]
      exact moveFiller_remembers there (by simp [pc]) rfl rfl
  | spurious pc =>
      simp only [there]
      exact moveFiller_remembers there (by simp [pc]) rfl rfl
  | @resume now next unset pc free room =>
      simp only [there, if_pos room]
      exact pushNext_remembers _ next unset unfilled there (by simp [pc])
  | stuck pc free full =>
      simp only [there, if_neg full]
      exact moveFiller_remembers there (by simp [pc]) rfl rfl
  | test pc =>
      simp only [there]
      refine moveFiller_remembers there ?_ rfl rfl
      split <;> simp [pc]
  | @push next unset basetime pc free known =>
      simp only [there, known]
      exact pushNext_remembers _ next unset unfilled there (by simp [pc])
  | unwind pc free =>
      simp only [there]
      exact moveFiller_remembers there (by simp [pc]) rfl rfl

/-- The moves of a step account for what it does to the queue, and for what it loses. -/
theorem step_remembers {variant : Variant} {url : List UInt8} {s after : ServerState}
    {input : Input} {output : List Output} (unfilled : Option Nat)
    (taken : step variant url s input = .ok (after, output)) :
    Remembers s (s.moves variant unfilled input) after := by
  cases input with
  | timeout now wake =>
      obtain ⟨pc, -, same⟩ := step_timeout taken
      have remembers := handleTimeout_remembers variant now wake (running_of_select pc)
      rw [same] at remembers
      exact remembers
  | interrupted =>
      cases step_cases taken with
      | interrupted pc => exact .none rfl rfl
  | ready fds =>
      cases step_cases taken with
      | ready pc members => exact .none rfl rfl
  | accept result =>
      cases step_cases taken with
      | accept pc branch possible effect =>
          cases effect with
          | halted reason => exact .none rfl rfl
          | rejected busy => exact .none rfl rfl
          | accepted accepted free => exact .none rfl rfl
  | datagram io =>
      cases step_cases taken with
      | datagram pc branch effect =>
          cases effect with
          | only halts answers => exact .none rfl rfl
  | media io =>
      rw [step] at taken
      obtain ⟨i, rest, pc, -, -, same⟩ := dispatch_cases taken
      have remembers := handleMedia_remembers i io (dispatch_running s rest)
      rw [← same] at remembers
      simp only [ServerState.moves, pc]
      exact remembers.behind rfl rfl
  | rtsp io =>
      rw [step] at taken
      obtain ⟨i, rest, pc, -, -, same⟩ := dispatch_cases taken
      have remembers := handleRtsp_remembers variant url i io (dispatch_running s rest)
      rw [← same] at remembers
      simp only [ServerState.moves, pc]
      exact remembers.behind rfl rfl
  | rearm now =>
      cases step_cases taken with
      | rearmed pc free =>
          rw [ServerState.rearm, locked_free free]
          exact .none rfl rfl
      | rearmLocked pc owned => exact .none rfl rfl
  | filler k action => exact handleFiller_remembers unfilled (step_filler taken).1

/-! ## Both together -/

/-- A server, and the queue as it is in memory. -/
structure QueuedServer where
  server : ServerState
  memory : QueueMemory

/-- Why there is no step. -/
inductive MemoryStop where
  | refused
  /-- A bad pointer was followed, or freed. -/
  | invalidPointer

/-- A step of both. With the input comes what `data` is of a frame which `get_frame` did not fill. -/
def memoryStep (variant : Variant) (url : List UInt8) (malloc : Malloc) (s : QueuedServer)
    (input : Input × Option Nat) : Except MemoryStop (QueuedServer × List Output) :=
  match step variant url s.server input.1 with
  | .error _ => .error .refused
  | .ok (server, output) =>
      match s.memory.performAll malloc (s.server.moves variant input.2 input.1) with
      | none => .error .invalidPointer
      | some memory => .ok (⟨server, memory⟩, output)

/-- A server with the memory of its queue. -/
def memoryMachine (variant : Variant) (url : List UInt8) (malloc : Malloc) :
    Machine QueuedServer (Input × Option Nat) Output MemoryStop where
  Initial s := Initial variant s.server ∧ s.memory = QueueMemory.empty
  step := memoryStep variant url malloc

/-- Every frame read was filled: its packet belongs to the video or to the audio stream. -/
def FramesFilled (_ : List Output) (_ : QueuedServer) (input : Input × Option Nat) : Prop :=
  input.2 = none

instance (past : List Output) (s : QueuedServer) (input : Input × Option Nat) :
    Decidable (FramesFilled past s input) := inferInstanceAs (Decidable (input.2 = none))

/-- The queue in memory is the one the server works with. -/
structure MemorySound (variant : Variant) (url : List UInt8) (malloc : Malloc) (s : QueuedServer) :
    Prop where
  /-- What is in use belongs to the queued events or is lost, and so much is lost. -/
  accounted : ∃ nodes lost, Represents s.memory.store s.memory.queue nodes ∧
    nodes.map Prod.snd = s.server.queue ∧
    (liveAddresses s.memory.past).Perm (nodes.flatMap s.memory.blocks ++ lost) ∧
    ((∃ reason, s.server.pc = .halted (.undefined reason)) ∨ lost.length = s.server.leaked)
  once : (liveAddresses s.memory.past).Nodup ∧ FreesLive s.memory.past
  head : s.memory.first = some s.server.queue.head?
  /-- No step which the server can take follows a bad pointer. -/
  steps : ∀ input after output, step variant url s.server input = .ok (after, output) →
    ∃ memory, memoryStep variant url malloc s (input, none) = .ok (⟨after, memory⟩, output)

/-- The main thread pushes no frames. -/
theorem switchMoves_filled (s : ServerState) (io : RtspIo) : ∀ move ∈ s.switchMoves io, move.Filled := by
  unfold ServerState.switchMoves
  split
  · split
    · split
      · simp
      · simp [QueueMove.Filled]
    · split <;> simp [QueueMove.Filled]
  · simp

theorem teardownMoves_filled (s : ServerState) : ∀ move ∈ s.teardownMoves, move.Filled := by
  unfold ServerState.teardownMoves
  split
  · split <;> simp [QueueMove.Filled]
  · simp

theorem rtspMoves_filled (s : ServerState) (i : Int) (io : RtspIo) :
    ∀ move ∈ s.rtspMoves i io, move.Filled := by
  unfold ServerState.rtspMoves
  dsimp only
  split
  · simp
  · split
    · exact teardownMoves_filled _
    · exact switchMoves_filled _ io

theorem mediaMoves_filled (s : ServerState) (i : Int) (io : MediaIo) :
    ∀ move ∈ s.mediaMoves i io, move.Filled := by
  unfold ServerState.mediaMoves
  split
  · split
    · simp
    · split <;> simp [QueueMove.Filled]
  · simp

theorem timeoutMoves_filled (variant : Variant) (s : ServerState) (now : Clock) :
    ∀ move ∈ s.timeoutMoves variant now, move.Filled := by
  unfold ServerState.timeoutMoves
  split
  · split <;> simp [QueueMove.Filled]
  · simp

theorem roundMoves_filled (filler : Filler) (basetime : Clock) (next : Option Rtp.Frame)
    (unset : Timeval) : ∀ move ∈ filler.roundMoves basetime next unset none, move.Filled := by
  cases next <;> simp [Filler.roundMoves, QueueMove.Filled]

/-- Without an unfilled frame all moves are filled. -/
theorem moves_filled (variant : Variant) (s : ServerState) (input : Input) :
    ∀ move ∈ s.moves variant none input, move.Filled := by
  unfold ServerState.moves
  split
  · exact timeoutMoves_filled variant s _
  · split
    · exact mediaMoves_filled _ _ _
    · simp
  · split
    · exact rtspMoves_filled _ _ _
    · simp
  · unfold ServerState.fillerMoves
    split
    · split
      · exact roundMoves_filled _ _ _ _
      · simp
    · split
      · simp
      · exact roundMoves_filled _ _ _ _
    · simp
  all_goals simp

/-- Where the behaviour has become undefined nothing happens any more. -/
theorem step_defined {variant : Variant} {url : List UInt8} {s after : ServerState} {input : Input}
    {output : List Output} (taken : step variant url s input = .ok (after, output)) :
    ¬ ∃ reason, s.pc = .halted (.undefined reason) := by
  rintro ⟨reason, halted⟩
  cases input with
  | filler k action => simp [step, halted] at taken
  | timeout now wake => simp [step, halted] at taken
  | interrupted => simp [step, halted] at taken
  | ready fds => simp [step, halted] at taken
  | accept result => simp [step, ServerState.dispatch, halted] at taken
  | datagram io => simp [step, ServerState.dispatch, halted] at taken
  | media io => simp [step, ServerState.dispatch, halted] at taken
  | rtsp io => simp [step, ServerState.dispatch, halted] at taken
  | rearm now => simp [step, halted] at taken

/-! ## Along a run -/

section Run

variable {variant : Variant} {url : List UInt8} {malloc : Malloc} {s : QueuedServer}

/-- The invariant: the memory holds the queue of the server, and the account of what is lost is right. -/
def HoldsQueue (s : QueuedServer) : Prop :=
  ∃ nodes lost, Holds s.memory nodes lost ∧ nodes.map Prod.snd = s.server.queue ∧
    ((∃ reason, s.server.pc = .halted (.undefined reason)) ∨ lost.length = s.server.leaked)

/-- A step of the server is one of both, and keeps the invariant. -/
theorem memoryStep_holds (fresh : malloc.Fresh) (holds : HoldsQueue s) {input : Input}
    {after : ServerState} {output : List Output}
    (taken : step variant url s.server input = .ok (after, output)) :
    ∃ memory, memoryStep variant url malloc s (input, none) = .ok (⟨after, memory⟩, output) ∧
      HoldsQueue ⟨after, memory⟩ := by
  obtain ⟨nodes, lost, held, queue, leaked⟩ := holds
  have remembers := step_remembers none taken
  obtain ⟨memory, nodes', lost', performed, held', order, loses⟩ :=
    held.performAll fresh (moves_filled variant s.server input)
  refine ⟨memory, by simp [memoryStep, taken, performed], nodes', lost', held', ?_, ?_⟩
  · rw [order, queue, remembers.queue]
  · refine remembers.leaked.imp_right fun same => ?_
    rw [loses, queue, ← same, leaked.resolve_left (step_defined taken)]

/-- Every state in which the invariant holds is sound. -/
theorem HoldsQueue.sound (fresh : malloc.Fresh) (holds : HoldsQueue s) :
    MemorySound variant url malloc s where
  accounted := by
    obtain ⟨nodes, lost, held, queue, leaked⟩ := holds
    exact ⟨nodes, lost, held.represents, queue, held.owns.live, leaked⟩
  once := by
    obtain ⟨nodes, lost, held, -, -⟩ := holds
    exact ⟨held.owns.live.nodup_iff.mpr held.owns.distinct, held.owns.frees⟩
  head := by
    obtain ⟨nodes, lost, held, queue, -⟩ := holds
    rw [held.first_eq, queue]
  steps input after output taken := by
    obtain ⟨memory, computed, -⟩ := memoryStep_holds fresh holds taken
    exact ⟨memory, computed⟩

/-- While every frame is filled, the queue in memory is at every point of every run the one the server
works with; no step follows a bad pointer or frees anything twice; and what is lost are the four blocks
of every launch and one for every end of a file. -/
theorem queueMemory_sound (fresh : malloc.Fresh)
    {trace : List (Entry QueuedServer (Input × Option Nat) Output)}
    (run : (memoryMachine variant url malloc).Runs trace s)
    (filled : Machine.Throughout FramesFilled trace) :
    Machine.Always (fun _ s => MemorySound variant url malloc s) trace s := by
  have initial : ∀ start, (memoryMachine variant url malloc).Initial start → HoldsQueue start := by
    rintro ⟨server, memory⟩ ⟨valid, rfl⟩
    have fillers : server.fillers = [] := valid.fillers
    exact ⟨[], [], holds_empty, valid.queue.symm, Or.inr (by simp [ServerState.leaked, fillers, endsMet])⟩
  have always : Machine.Always (fun _ s => HoldsQueue s) trace s := by
    refine run.always_under filled initial ?_
    intro past before input after output holds met taken
    obtain ⟨input, unfilled⟩ := input
    cases met
    change memoryStep variant url malloc before (input, none) = .ok (after, output) at taken
    cases known : step variant url before.server input with
    | error stop => simp [memoryStep, known] at taken
    | ok result =>
        obtain ⟨server, sent⟩ := result
        obtain ⟨memory, computed, holds'⟩ := memoryStep_holds fresh holds known
        cases computed.symm.trans taken
        exact holds'
  exact always.imp fun _ _ holds => holds.sound fresh

end Run

/-- A frame is read, then the end of the file; the frame is sent, and the client says TEARDOWN while the
end of the stream is queued. -/
def frameThenEnd : List Input :=
  connect 6 ++ describe 6 7 someResponse ++ play 6 ++ media 7 someResponse someHeader ++
    media 7 [] [7] ++ [.filler 0 .wait, .filler 0 .spurious,
      .filler 0 (.resume someTime (some ⟨fun _ => 0x65, 5, 0, .video⟩) ⟨0, 0⟩), .filler 0 .test,
      .filler 0 (.push none ⟨0, 0⟩), .timeout someTime 0] ++
    request 6 (RtspIo.line "TEARDOWN")

/-- Four blocks of the parameter sets are left, and the frame for which there was no packet. -/
theorem queueMemory_sound_frameThenEnd : ∃ result,
    (memoryMachine .server someUrl mallocBehind).exec [] ⟨startState .server, QueueMemory.empty⟩
        (frameThenEnd.map fun input => (input, none)) = .ok result ∧
      (liveAddresses result.2.memory.past).length = 5 ∧ result.2.server.queue.length = 0 ∧
      Machine.Always (fun _ s => MemorySound .server someUrl mallocBehind s) result.1 result.2 := by
  have computed : ∃ result,
      (memoryMachine .server someUrl mallocBehind).exec [] ⟨startState .server, QueueMemory.empty⟩
          (frameThenEnd.map fun input => (input, none)) = .ok result ∧
        (liveAddresses result.2.memory.past).length = 5 ∧ result.2.server.queue.length = 0 ∧
        Machine.MeetsAll FramesFilled [] result.1 :=
    ⟨_, rfl, by decide +kernel, by decide +kernel, by decide +kernel⟩
  obtain ⟨result, computed, live, empty, filled⟩ := computed
  have initial : (memoryMachine .server someUrl mallocBehind).Initial
      ⟨startState .server, QueueMemory.empty⟩ := ⟨startState_initial .server someUrl, rfl⟩
  exact ⟨result, computed, live, empty, queueMemory_sound mallocBehind_fresh
    (Machine.Runs.of_exec initial computed) (Machine.throughout_of_meetsAll filled)⟩

end Http2Rtsp.Server
