import Http2Rtsp.Pacing.Waits
import Http2Rtsp.Server.Threads

/-!
# The times of the events which are pushed

Of all that a step does, the events it pushes, with their times: a timeout which
is pushed again, those of the end of the download and of a PLAY, and what a
filler makes of the next frame or of the end of its file.
-/

namespace Http2Rtsp.Server

open Http2Rtsp.Std Http2Rtsp.Message Http2Rtsp.Pacing

/-! ## The times which are pushed -/

/-- Of a dequeued event: `CHECKMEDIASTATE` is pushed again until the media is there. -/
def ServerState.eventTimes (s : ServerState) (event : TimeoutEvent) (now : Clock) : List Timeval :=
  match event.type with
  | .checkMediaState =>
      if s.download.mediastate = .stream then [] else [timeoutTime now 1000]
  | _ => []

/-- Of the end of the download. -/
def ServerState.mediaTimes (s : ServerState) (i : Int) (io : MediaIo) : List Timeval :=
  if s.download.mediastate = .recvtcp ∧ s.kernel i ≠ none ∧
      (s.download.recvtcp io.received io.writes).videoleft ≤ 0 ∧ s.lock = none then
    match io.opening with
    | .ok _ => [timeoutTime io.now 1000]
    | .error _ => []
  else []

/-- Of a PLAY which is acted on. -/
def ServerState.armTimes (s : ServerState) (io : RtspIo) : List Timeval :=
  if s.download.mediaDownloaded then
    match io.opening with
    | .ok _ => [timeoutTime io.now 100, timeoutTime io.later 2000]
    | .error _ => []
  else if s.lock = none then [timeoutTime io.now 100] else []

/-- Of data from a client: only a PLAY pushes timeouts. -/
def ServerState.playTimes (s : ServerState) (i : Int) (io : RtspIo) : List Timeval :=
  if s.streamclient.state = .setupcomplete ∧ s.kernel i ≠ none ∧ io.received ≠ [] ∧
      HasType io.received .play then
    s.armTimes io
  else []

/-- Of a frame, or of the end of the file. -/
def Filler.fillTime (filler : Filler) (basetime : Clock) (next : Option Rtp.Frame)
    (unset : Timeval) : Timeval :=
  match next with
  | none => endTime (filler.prevTimestamp.getD unset)
  | some frame => setTimeval frame.timestamp basetime

/-- Of a filler. -/
def ServerState.fillTimes (s : ServerState) (filler : Filler) : FillerAction → List Timeval
  | .resume now next unset =>
      if s.queue.length < queueSize then
        [filler.fillTime (filler.basetime.getD now) next unset]
      else []
  | .push next unset =>
      match filler.basetime with
      | some basetime => [filler.fillTime basetime next unset]
      | none => []
  | _ => []

/-- The times of the events which a step pushes. -/
def pushTimes (s : ServerState) (input : Input) : List Timeval :=
  match input, s.pc with
  | .timeout now _, _ =>
      match s.queue with
      | event :: _ => if s.lock = none then s.eventTimes event now else []
      | [] => []
  | .media io, .dispatch (i :: _) => s.mediaTimes i io
  | .rtsp io, .dispatch (i :: _) => s.playTimes i io
  | .filler k action, _ =>
      match s.fillers[k]? with
      | some filler => s.fillTimes filler action
      | none => []
  | _, _ => []

/-- The action meets the end of the file. -/
def FillerAction.AtEnd : FillerAction → Prop
  | .resume _ none _ => True
  | .push none _ => True
  | _ => False

instance : DecidablePred FillerAction.AtEnd
  | .resume _ none _ | .push none _ => .isTrue trivial
  | .resume _ (some _) _ | .push (some _) _ => .isFalse id
  | .wait | .spurious | .test | .unwind => .isFalse id

/-- What one of the times which are pushed is. -/
inductive PushTime (s : ServerState) : Input → Timeval → Prop where
  | check {now wake} (waiting : s.download.mediastate ≠ .stream) :
      PushTime s (.timeout now wake) (timeoutTime now 1000)
  | completed {io} : PushTime s (.media io) (timeoutTime io.now 1000)
  | played {io} : PushTime s (.rtsp io) (timeoutTime io.now 100)
  | launched {io} (downloaded : s.download.mediaDownloaded = true) :
      PushTime s (.rtsp io) (timeoutTime io.later 2000)
  | filled {k action filler basetime next unset} (there : s.fillers[k]? = some filler)
      (ends : next = none → action.AtEnd) :
      PushTime s (.filler k action) (filler.fillTime basetime next unset)

theorem mem_eventTimes {s : ServerState} {event : TimeoutEvent} {now : Clock} {time : Timeval}
    (member : time ∈ s.eventTimes event now) :
    s.download.mediastate ≠ .stream ∧ time = timeoutTime now 1000 := by
  unfold ServerState.eventTimes at member
  split at member
  · split at member
    · cases member
    · rename_i waiting
      exact ⟨waiting, List.mem_singleton.mp member⟩
  · cases member

theorem mem_mediaTimes {s : ServerState} {i : Int} {io : MediaIo} {time : Timeval}
    (member : time ∈ s.mediaTimes i io) : time = timeoutTime io.now 1000 := by
  unfold ServerState.mediaTimes at member
  split at member
  · split at member
    · exact List.mem_singleton.mp member
    · cases member
  · cases member

theorem mem_playTimes {s : ServerState} {i : Int} {io : RtspIo} {time : Timeval}
    (member : time ∈ s.playTimes i io) : time = timeoutTime io.now 100 ∨
      (s.download.mediaDownloaded = true ∧ time = timeoutTime io.later 2000) := by
  unfold ServerState.playTimes ServerState.armTimes at member
  split at member
  · split at member
    · rename_i downloaded
      split at member
      · exact (List.mem_pair.mp member).imp_right fun later => ⟨downloaded, later⟩
      · cases member
    · split at member
      · exact Or.inl (List.mem_singleton.mp member)
      · cases member
  · cases member

theorem mem_fillTimes {s : ServerState} {filler : Filler} {action : FillerAction} {time : Timeval}
    (member : time ∈ s.fillTimes filler action) : ∃ basetime next unset,
      time = filler.fillTime basetime next unset ∧ (next = none → action.AtEnd) := by
  unfold ServerState.fillTimes at member
  split at member
  · split at member
    · exact ⟨_, _, _, List.mem_singleton.mp member, fun none => none ▸ trivial⟩
    · cases member
  · split at member
    · exact ⟨_, _, _, List.mem_singleton.mp member, fun none => none ▸ trivial⟩
    · cases member
  · cases member

theorem pushTimes_cases {s : ServerState} {input : Input} {time : Timeval}
    (member : time ∈ pushTimes s input) : PushTime s input time := by
  unfold pushTimes at member
  split at member
  · split at member
    · split at member
      · obtain ⟨waiting, rfl⟩ := mem_eventTimes member
        exact .check waiting
      · cases member
    · cases member
  · rw [mem_mediaTimes member]
    exact .completed
  · rcases mem_playTimes member with rfl | ⟨downloaded, rfl⟩
    · exact .played
    · exact .launched downloaded
  · split at member
    · rename_i filler there
      obtain ⟨basetime, next, unset, rfl, ends⟩ := mem_fillTimes member
      exact .filled there ends
    · cases member
  · cases member

/-! ## What a step does to the queue -/

/-- Events leave the queue, and events at some of these times are pushed. -/
def Pushes (s after : ServerState) (times : List Timeval) : Prop :=
  ∃ rest events, rest.Sublist s.queue ∧ after.queue = pushAll events rest ∧
    (events.map TimeoutEvent.time).Sublist times

theorem Pushes.kept {s after : ServerState} {times : List Timeval} (queue : after.queue = s.queue) :
    Pushes s after times :=
  ⟨s.queue, [], .refl s.queue, queue, List.nil_sublist times⟩

theorem Pushes.one {s after : ServerState} {event : TimeoutEvent}
    (queue : after.queue = pushed event s.queue) : Pushes s after [event.time] :=
  ⟨s.queue, [event], .refl s.queue, queue, .refl _⟩

/-- What is still queued of the queue without its head, behind the handling of the head. -/
theorem handleEvent_pushes (variant : Variant) (s : ServerState) (event : TimeoutEvent)
    (now : Clock) :
    Pushes s (s.handleEvent variant event now).1 (s.eventTimes event now) := by
  cases type : event.type with
  | endOfStream =>
      obtain ⟨pc, same⟩ := handleEvent_ended variant s now type
      exact .kept (by rw [same])
  | frame frame =>
      refine .kept ?_
      simp only [ServerState.handleEvent, type]
      split <;> rfl
  | checkMediaState =>
      by_cases streaming : s.download.mediastate = .stream
      · exact .kept (by simp only [ServerState.handleEvent, type, if_pos streaming])
      · have times : s.eventTimes event now = [timeoutTime now 1000] := by
          simp only [ServerState.eventTimes, type, if_neg streaming]
        rw [times]
        refine @Pushes.one _ _ ⟨timeoutTime now 1000, .checkMediaState⟩ ?_
        simp only [ServerState.handleEvent, type, if_neg streaming]
        rfl

theorem MediaEffect.pushes {s after : ServerState} {i : Int} {io : MediaIo} {output : List Output}
    (effect : MediaEffect s i io after output) : Pushes s after (s.mediaTimes i io) := by
  cases effect with
  | ignored other => exact .kept rfl
  | failed reason reads => exact .kept rfl
  | header getsent opened found parsed => exact .kept rfl
  | stored recvtcp opened more =>
      obtain ⟨kernel, masterfds, stored⟩ := storeMedia_eq s i io
      exact .kept (by rw [stored])
  | completed recvtcp opened last effect =>
      obtain ⟨kernel, masterfds, stored⟩ := storeMedia_eq s i io
      rw [stored] at effect last
      cases effect with
      | exited unopened => exact .kept rfl
      | failed unopened => exact .kept rfl
      | locked opened taken => exact .kept rfl
      | launched launches free =>
          have times : s.mediaTimes i io = [timeoutTime io.now 1000] := by
            rw [ServerState.mediaTimes, if_pos ⟨recvtcp, opened, not_lt.mp last, free⟩, launches]
          rw [times]
          exact @Pushes.one _ _ ⟨timeoutTime io.now 1000, .checkMediaState⟩ rfl

/-- The `switch` pushes timeouts on a PLAY in `SETUPCOMPLETE` only. -/
theorem SwitchEffect.pushes {variant : Variant} {s after : ServerState} {i : Int} {io : RtspIo}
    {output : List Output} (effect : SwitchEffect variant s i io after output)
    {times : List Timeval} (plays : s.streamclient.state = .setupcomplete →
      s.rtspmsg.type = .play → times = s.armTimes io) : Pushes s after times := by
  cases effect with
  | ignored other => exact .kept rfl
  | failed reason output handled before => exact .kept rfl
  | options state type => exact .kept rfl
  | described state type downloaded => exact .kept rfl
  | fetched state type absent fetch => exact .kept rfl
  | @setup rtp rtcp session text state type sockets =>
      obtain ⟨kernel, opened⟩ := openUdp_eq s rtp rtcp
      exact .kept (by rw [opened])
  | played state type absent free =>
      rw [plays state type, ServerState.armTimes, absent, if_neg Bool.false_ne_true, if_pos free]
      exact @Pushes.one _ _ ⟨timeoutTime io.now 100, .checkMediaState⟩ rfl
  | unopened state type downloaded unopened => exact .kept rfl
  | launched state type downloaded opened =>
      rw [plays state type, ServerState.armTimes, if_pos downloaded, opened]
      exact ⟨s.queue, [⟨timeoutTime io.now 100, .checkMediaState⟩,
        ⟨timeoutTime io.later 2000, .checkMediaState⟩], .refl s.queue, rfl, .refl _⟩

theorem ReceiveEffect.queue {s after : ServerState} {i : Int} {received : List UInt8}
    {output : List Output} (effect : ReceiveEffect s i received after output) :
    after.queue = s.queue := by
  cases effect <;> rfl

theorem RtspEffect.pushes {variant : Variant} {s after : ServerState} {i : Int} {io : RtspIo}
    {output : List Output} (effect : RtspEffect variant s i io after output) :
    Pushes s after (s.playTimes i io) := by
  cases effect with
  | failed reason unread => exact .kept rfl
  | teardown receive type effect =>
      have same := receive.queue
      cases effect with
      | locked taken => exact .kept same
      | dangling free dead => exact .kept same
      | done free armed => exact ⟨[], [], List.nil_sublist _, rfl, List.nil_sublist _⟩
  | switched receive type effect =>
      cases receive with
      | closed opened empty => exact effect.pushes fun playing => nomatch playing
      | @message text result msg opened nonempty terminated parsed =>
          refine effect.pushes fun (state : s.streamclient.state = .setupcomplete) play => ?_
          have read : HasType io.received .play := ⟨text, result, msg, terminated, parsed, play⟩
          exact if_pos ⟨state, opened, nonempty, read⟩

/-- The critical section of a filler pushes one event. -/
theorem pushNext_pushes (s : ServerState) (k : Nat) (filler : Filler) (basetime : Clock)
    (next : Option Rtp.Frame) (unset : Timeval) :
    Pushes s (s.pushNext k filler basetime next unset) [filler.fillTime basetime next unset] := by
  cases next with
  | none => exact @Pushes.one _ _ ⟨_, .endOfStream⟩ rfl
  | some frame => exact @Pushes.one _ _ ⟨_, .frame frame⟩ rfl

theorem FillerMove.pushes {s after : ServerState} {k : Nat} {filler : Filler}
    {action : FillerAction} (move : FillerMove s k filler action after) :
    Pushes s after (s.fillTimes filler action) := by
  cases move with
  | wait pc free => exact .kept rfl
  | spurious pc => exact .kept rfl
  | @resume now next unset pc free room =>
      rw [ServerState.fillTimes, if_pos room]
      exact pushNext_pushes s k filler _ next unset
  | stuck pc free full => exact .kept rfl
  | test pc => exact .kept rfl
  | @push next unset basetime pc free known =>
      simp only [ServerState.fillTimes, known]
      exact pushNext_pushes s k filler basetime next unset
  | unwind pc free => exact .kept rfl

/-- The handling of the head of the queue: it leaves, the events it pushes come, and the next timeout
is set unless the main thread has halted. -/
theorem handleTimeout_pulls (variant : Variant) {s : ServerState} {event : TimeoutEvent}
    {rest : List TimeoutEvent} (now : Clock) (wake : Nat) (running : s.Running)
    (free : s.lock = none) (queued : s.queue = event :: rest) :
    ∃ middle : ServerState,
      Pushes { s with queue := rest } middle (s.eventTimes event now) ∧
        (((s.handleTimeout variant now wake).1 = middle ∧ middle.timeind = none) ∨
          (s.handleTimeout variant now wake).1 = middle.finishTimeout event wake) := by
  let cleared : ServerState := { s with timeind := none }
  let pulled : ServerState := { cleared with queue := rest }
  have handled : s.handleTimeout variant now wake = (pulled.handleEvent variant event now).andThen
      fun s => (s.finishTimeout event wake, []) := by
    have head : cleared.queue = event :: rest := queued
    rw [ServerState.handleTimeout, locked_free (show cleared.lock = none from free)]
    simp only [head]
    rfl
  refine ⟨_, handleEvent_pushes variant pulled event now, ?_⟩
  rw [handled]
  have runs : pulled.Running := running
  rcases handleEvent_cases variant event now runs with ⟨-, reason, sent, -, halted⟩ | effect
  · rw [halted, andThen_halted rfl]
    exact Or.inl ⟨rfl, rfl⟩
  · rw [andThen_running fun reason => effect.pc ▸ running reason]
    exact Or.inr rfl

/-- What a timeout does when there is nothing to handle. -/
theorem handleTimeout_idle (variant : Variant) {s : ServerState} (now : Clock) (wake : Nat)
    (idle : s.lock ≠ none ∨ s.queue = []) :
    (s.handleTimeout variant now wake).1.queue = s.queue ∧
      (s.handleTimeout variant now wake).1.timeind = none := by
  let cleared : ServerState := { s with timeind := none }
  by_cases free : s.lock = none
  · rw [ServerState.handleTimeout, locked_free (show cleared.lock = none from free)]
    have empty : cleared.queue = [] := idle.resolve_left (not_not.mpr free)
    simp only [empty]
    exact ⟨empty.symm, rfl⟩
  · rw [ServerState.handleTimeout, locked_taken (show cleared.lock ≠ none from free)]
    exact ⟨rfl, rfl⟩

theorem handleTimeout_pushes (variant : Variant) {s : ServerState} (now : Clock) (wake : Nat)
    (pc : s.pc = .select) :
    Pushes s (s.handleTimeout variant now wake).1 (pushTimes s (.timeout now wake)) := by
  unfold pushTimes
  by_cases idle : s.lock ≠ none ∨ s.queue = []
  · exact .kept (handleTimeout_idle variant now wake idle).1
  · obtain ⟨free, busy⟩ := not_or.mp idle
    rw [not_not] at free
    obtain ⟨event, rest, queued⟩ := List.exists_cons_of_ne_nil busy
    obtain ⟨middle, ⟨kept, events, sub, queue, times⟩, ends⟩ :=
      handleTimeout_pulls variant now wake (running_of_select pc) free queued
    simp only [queued, if_pos free]
    refine ⟨kept, events, queued ▸ sub.trans (List.sublist_cons_self event rest), ?_, times⟩
    rcases ends with ⟨same, -⟩ | same
    · rw [same, queue]
    · rw [same]
      exact queue

/-- What a step does to the queue. -/
theorem step_pushes {variant : Variant} {url : List UInt8} {s after : ServerState} {input : Input}
    {output : List Output} (taken : step variant url s input = .ok (after, output)) :
    Pushes s after (pushTimes s input) := by
  cases step_cases taken with
  | @timeout now wake _ _ pc set effect =>
      have pushes := handleTimeout_pushes variant now wake pc
      rwa [(step_timeout taken).2.2] at pushes
  | interrupted pc => exact .kept rfl
  | ready pc members => exact .kept rfl
  | accept pc branch possible effect => cases effect <;> exact .kept rfl
  | datagram pc branch effect =>
      cases effect
      exact .kept rfl
  | media pc branch possible effect =>
      simp only [pushTimes, pc]
      exact effect.pushes
  | rtsp pc branch possible effect =>
      simp only [pushTimes, pc]
      exact effect.pushes
  | rearmed pc free =>
      rw [ServerState.rearm, locked_free free]
      exact .kept rfl
  | rearmLocked pc taken => exact .kept rfl
  | @filler k action _ effect =>
      obtain ⟨filler, there, move⟩ := handleFiller_moves (step_filler taken).1
      simp only [pushTimes, there]
      exact move.pushes

/-! ## Frame times -/

/-- The times of the last frames the fillers have read are carried. -/
def Stamped (fillers : List Filler) : Prop :=
  ∀ filler ∈ fillers, ∀ time ∈ filler.prevTimestamp, time.Carried

theorem Stamped.modify {fillers : List Filler} (stamped : Stamped fillers) (k : Nat)
    {f : Filler → Filler} (same : ∀ filler, (f filler).prevTimestamp = filler.prevTimestamp) :
    Stamped (fillers.modify k f) := by
  intro filler member time known
  obtain ⟨j, there⟩ := List.mem_iff_getElem?.mp member
  rw [List.getElem?_modify] at there
  obtain ⟨old, before, rfl⟩ := Option.map_eq_some_iff.mp there
  refine stamped old (List.mem_of_getElem? before) time ?_
  split at known
  · rwa [same] at known
  · exact known

theorem Stamped.set {fillers : List Filler} (stamped : Stamped fillers) (k : Nat) {new : Filler}
    (carried : ∀ time ∈ new.prevTimestamp, time.Carried) : Stamped (fillers.set k new) := by
  intro filler member
  rcases List.mem_or_eq_of_mem_set member with old | rfl
  · exact stamped filler old
  · exact carried

/-- A filler which has read nothing more in the place of the old one. -/
theorem Stamped.kept {fillers : List Filler} (stamped : Stamped fillers) {k : Nat}
    {old new : Filler} (there : fillers[k]? = some old)
    (same : new.prevTimestamp = old.prevTimestamp) : Stamped (fillers.set k new) :=
  stamped.set k (same ▸ stamped old (List.mem_of_getElem? there))

theorem Stamped.wakeFirst {fillers : List Filler} (stamped : Stamped fillers) :
    Stamped (wakeFirst fillers) := by
  induction fillers with
  | nil => exact stamped
  | cons filler rest ih =>
      obtain ⟨first, later⟩ := List.forall_mem_cons.mp stamped
      unfold Server.wakeFirst
      split
      · exact List.forall_mem_cons.mpr ⟨first, later⟩
      · exact List.forall_mem_cons.mpr ⟨first, ih later⟩

theorem Stamped.signal {fillers : List Filler} (stamped : Stamped fillers) (wake : Nat) :
    Stamped (signal wake fillers) := by
  unfold Server.signal
  split
  · exact stamped.modify wake fun _ => rfl
  · exact stamped.wakeFirst

theorem cancel_prevTimestamp (filler : Filler) :
    filler.cancel.prevTimestamp = filler.prevTimestamp := by
  unfold Filler.cancel
  split <;> rfl

/-- A new filler has read no frame. -/
theorem Stamped.launched {fillers : List Filler} (stamped : Stamped fillers) (tinfo : Nat) :
    Stamped (fillers ++ [⟨.start, tinfo, none, none⟩]) := by
  intro filler member
  rcases List.mem_append.mp member with old | new
  · exact stamped filler old
  · rw [List.mem_singleton.mp new]
    exact fun _ none => nomatch none

theorem FillerEffect.stamped {s after : ServerState} {k : Nat} (effect : FillerEffect s k after)
    (stamped : Stamped s.fillers) : Stamped after.fillers := by
  cases effect with
  | advanced there advances => exact stamped.kept there rfl
  | @pushed filler basetime next unset there free pc =>
      cases next with
      | none => exact stamped.kept there rfl
      | some frame =>
          refine stamped.set k fun time known => ?_
          obtain rfl := Option.some.inj known
          exact setTimeval_usec frame.timestamp basetime
  | stuck there free pc => exact stamped.kept there rfl
  | unwound there free pc => exact stamped.kept there rfl

theorem TimeoutEffect.stamped {s after : ServerState} {wake : Nat} {output : List Output}
    (effect : TimeoutEffect s wake after output) (stamped : Stamped s.fillers) :
    Stamped after.fillers := by
  cases effect with
  | locked taken => exact stamped
  | idle free empty => exact stamped
  | failed free queued last => exact stamped
  | @handled event rest middle output free queued effect =>
      have same : middle.fillers = s.fillers := effect.threads.1
      simp only [ServerState.finishTimeout, same]
      split
      · exact stamped.signal _
      · exact stamped

theorem MediaEffect.stamped {s after : ServerState} {i : Int} {io : MediaIo} {output : List Output}
    (effect : MediaEffect s i io after output) (stamped : Stamped s.fillers) :
    Stamped after.fillers := by
  obtain ⟨kernel, masterfds, stored⟩ := storeMedia_eq s i io
  cases effect with
  | ignored other => exact stamped
  | failed reason reads => exact stamped
  | header getsent opened found parsed => exact stamped
  | stored recvtcp opened more =>
      rw [stored]
      exact stamped
  | completed recvtcp opened last effect =>
      rw [stored] at effect
      cases effect with
      | exited unopened => exact stamped
      | failed unopened => exact stamped.launched s.allocated
      | locked opened taken => exact stamped.launched s.allocated
      | launched opened free => exact stamped.launched s.allocated

theorem TeardownEffect.stamped {variant : Variant} {s after : ServerState} {i : Int} {io : RtspIo}
    {output : List Output} (effect : TeardownEffect variant s i io after output)
    (stamped : Stamped s.fillers) : Stamped after.fillers := by
  cases effect with
  | locked taken => exact stamped
  | dangling free dead => exact stamped
  | @done thread tinfo free armed =>
      have cancelled := stamped.modify thread cancel_prevTimestamp
      cases variant with
      | server => exact cancelled.signal io.wake
      | mt => exact cancelled

theorem SwitchEffect.stamped {variant : Variant} {s after : ServerState} {i : Int} {io : RtspIo}
    {output : List Output} (effect : SwitchEffect variant s i io after output)
    (stamped : Stamped s.fillers) : Stamped after.fillers := by
  cases effect with
  | unopened state type downloaded unopened => exact stamped.launched s.allocated
  | launched state type downloaded opened => exact stamped.launched s.allocated
  | @setup rtp rtcp session text state type sockets =>
      obtain ⟨kernel, opened⟩ := openUdp_eq s rtp rtcp
      rw [opened]
      exact stamped
  | _ => exact stamped

theorem RtspEffect.stamped {variant : Variant} {s after : ServerState} {i : Int} {io : RtspIo}
    {output : List Output} (effect : RtspEffect variant s i io after output)
    (stamped : Stamped s.fillers) : Stamped after.fillers := by
  have same : ∀ {received output}, ReceiveEffect s i io.received received output →
      Stamped received.fillers := fun receive => by
    cases receive <;> exact stamped
  cases effect with
  | failed reason unread => exact stamped
  | teardown receive type effect => exact effect.stamped (same receive)
  | switched receive type effect => exact effect.stamped (same receive)

/-- The times of the frames stay carried. -/
theorem step_stamped {variant : Variant} {url : List UInt8} {s after : ServerState} {input : Input}
    {output : List Output} (stamped : Stamped s.fillers)
    (taken : step variant url s input = .ok (after, output)) : Stamped after.fillers := by
  cases step_cases taken with
  | timeout pc set effect => exact effect.stamped stamped
  | interrupted pc => exact stamped
  | ready pc members => exact stamped
  | accept pc branch possible effect => cases effect <;> exact stamped
  | datagram pc branch effect =>
      cases effect
      exact stamped
  | media pc branch possible effect => exact effect.stamped stamped
  | rtsp pc branch possible effect => exact effect.stamped stamped
  | rearmed pc free =>
      rw [ServerState.rearm, locked_free free]
      exact stamped
  | rearmLocked pc taken => exact stamped
  | filler effect => exact effect.stamped stamped

end Http2Rtsp.Server
