import Http2Rtsp.Pacing.FrameTimes
import Http2Rtsp.Semantics.Flow
import Http2Rtsp.Server.PushTimes
import Http2Rtsp.Server.QueueBound
import Http2Rtsp.Server.VideoNumbers

/-!
# The way of a frame

A filler reads a frame and pushes it; a timeout takes it off the queue and sends
it. In between it waits among timeouts and the frames of whoever else pushes. No
frame gets lost on the way or is sent twice, and the frames of a file whose times
rise are sent in the order of the file.
-/

namespace Http2Rtsp.Server

open Http2Rtsp.Std Http2Rtsp.Message Http2Rtsp.Pacing Http2Rtsp.Semantics

/-! ## Frames in the queue -/

/-- The frame of an event, with the time it is due. -/
def eventFrame (event : TimeoutEvent) : Option (Timeval × Rtp.Frame) :=
  match event.type with
  | .frame frame => some (event.time, frame)
  | .checkMediaState | .endOfStream => none

/-- The frames in a queue, in its order. -/
def framesOf (queue : List TimeoutEvent) : List (Timeval × Rtp.Frame) := queue.filterMap eventFrame

/-- Another event does not change them. -/
theorem framesOf_pushed_other {event : TimeoutEvent} {queue : List TimeoutEvent}
    (other : eventFrame event = none) : framesOf (pushed event queue) = framesOf queue :=
  filterMap_scanInsert_none other

theorem framesOf_pushTimeout (now : Clock) (timeMs : Nat) (queue : List TimeoutEvent) :
    framesOf (pushed ⟨timeoutTime now timeMs, .checkMediaState⟩ queue) = framesOf queue :=
  framesOf_pushed_other rfl

/-- A frame comes somewhere among them. -/
theorem framesOf_pushed_frame (time : Timeval) (frame : Rtp.Frame) (queue : List TimeoutEvent) :
    (framesOf queue ++ [(time, frame)]).Perm (framesOf (pushed ⟨time, .frame frame⟩ queue)) := by
  have inserted := (scanInsert_perm (passesOver time) ⟨time, .frame frame⟩ queue).filterMap eventFrame
  exact (inserted.trans (List.perm_append_singleton _ _).symm).symm

/-- One which is later than all of them comes behind them. -/
theorem framesOf_pushed_later {time : Timeval} {frame : Rtp.Frame} {queue : List TimeoutEvent}
    (later : ∀ item ∈ framesOf queue, 0 < timecmp item.1 time) :
    framesOf (pushed ⟨time, .frame frame⟩ queue) = framesOf queue ++ [(time, frame)] := by
  refine filterMap_scanInsert_behind rfl fun event member some_ => ?_
  obtain ⟨item, isFrame⟩ := Option.ne_none_iff_exists'.mp some_
  have queued : item ∈ framesOf queue := List.mem_filterMap.mpr ⟨event, member, isFrame⟩
  have due : item.1 = event.time := by
    unfold eventFrame at isFrame
    split at isFrame
    · obtain rfl := Option.some.inj isFrame
      rfl
    · cases isFrame
    · cases isFrame
  have after := later item queued
  rw [due] at after
  exact decide_eq_false (not_le.mpr after)

/-! ## Frames in a step -/

/-- The frame a filler pushes. -/
def pushedFrame (s : ServerState) : Input → Option (Timeval × Rtp.Frame)
  | .filler k (.resume now (some frame) _) =>
      s.fillers[k]?.bind fun filler =>
        if s.queue.length < queueSize then
          some (setTimeval frame.timestamp (filler.basetime.getD now), frame)
        else none
  | .filler k (.push (some frame) _) =>
      s.fillers[k]?.bind fun filler =>
        filler.basetime.map fun basetime => (setTimeval frame.timestamp basetime, frame)
  | _ => none

/-- The frame a timeout takes off the queue. -/
def playedFrame (s : ServerState) : Input → Option (Timeval × Rtp.Frame)
  | .timeout .. => if s.lock = none then s.queue.head?.bind eventFrame else none
  | _ => none

/-- What is sent of it. -/
def ServerState.sentFrame (variant : Variant) (s : ServerState) (frame : Rtp.Frame) : List Output :=
  match frame.frametype with
  | .video => [.videoFrame s.streamclient.videofds.1 frame s.rtpseqnoVideo]
  | .audio => (sendAudio frame s.rtpseqnoAudio (s.audioTargets variant)).2

/-- The frames through the queue, in a session. -/
def frameFlow : Machine.Flow ServerState Input Output (Timeval × Rtp.Frame) where
  comes entry := (pushedFrame entry.before entry.input).toList
  goes entry := (playedFrame entry.before entry.input).toList
  inside s := framesOf s.queue
  resets entry := entry.output.any Output.endsSession

/-- The frames in the queue are those which were there, and the session goes on. -/
structure FramesKept (s after : ServerState) (output : List Output) : Prop where
  frames : framesOf after.queue = framesOf s.queue
  goesOn : ∀ o ∈ output, o.endsSession = false

theorem FramesKept.haltOutput {s after : ServerState} (reason : Halt)
    (queue : after.queue = s.queue) : FramesKept s after (haltOutput reason) := by
  refine ⟨by rw [queue], fun o member => ?_⟩
  obtain ⟨_, rfl⟩ := mem_haltOutput member
  rfl

theorem FramesKept.trans {s middle after : ServerState} {prior output : List Output}
    (first : FramesKept s middle prior) (second : FramesKept middle after output) :
    FramesKept s after (prior ++ output) where
  frames := second.frames.trans first.frames
  goesOn := List.forall_mem_append.mpr ⟨first.goesOn, second.goesOn⟩

/-- What a step does to the frames. -/
inductive FrameEffect (s : ServerState) (input : Input) (after : ServerState) (output : List Output) :
    Prop where
  | kept (kept : FramesKept s after output) (silent : pushedFrame s input = none)
      (unplayed : playedFrame s input = none)
  | pushed {time frame} (comes : pushedFrame s input = some (time, frame))
      (unplayed : playedFrame s input = none)
      (queue : after.queue = Pacing.pushed ⟨time, .frame frame⟩ s.queue) (quiet : output = [])
  | played {item} (silent : pushedFrame s input = none) (goes : playedFrame s input = some item)
      (frames : framesOf s.queue = item :: framesOf after.queue)
      (goesOn : ∀ o ∈ output, o.endsSession = false)
  | emptied (queue : after.queue = []) (ended : ∃ o ∈ output, o.endsSession = true)

/-- A BYE to a SIP client does not end the session. -/
theorem byes_goesOn {sent : List Output}
    (farewell : ∀ output ∈ sent, ∃ text cliaddr, output = .byeSent text cliaddr) :
    ∀ o ∈ sent, o.endsSession = false := by
  intro o member
  obtain ⟨text, cliaddr, rfl⟩ := farewell o member
  rfl

theorem EventEffect.frames {s after : ServerState} {event : TimeoutEvent} {output : List Output}
    (effect : EventEffect s event after output) : FramesKept s after output := by
  cases effect with
  | ended last farewell =>
      exact ⟨rfl, List.forall_mem_append.mpr ⟨byes_goesOn farewell, by simp [Output.endsSession]⟩⟩
  | video media => exact ⟨rfl, by simp [Output.endsSession]⟩
  | audio media frames =>
      refine ⟨rfl, fun o member => ?_⟩
      obtain ⟨fd, seq, rfl⟩ := frames o member
      rfl
  | dummy check waiting => exact ⟨framesOf_pushTimeout _ _ _, by simp [Output.endsSession]⟩
  | ready check streaming => exact ⟨rfl, by simp⟩

theorem TimeoutEffect.frames {s after : ServerState} {now : Clock} {wake : Nat}
    {output : List Output} (effect : TimeoutEffect s wake after output) :
    FrameEffect s (.timeout now wake) after output := by
  have unplayed : s.queue = [] → playedFrame s (.timeout now wake) = none := by
    intro empty
    rw [playedFrame, empty]
    exact ite_self none
  cases effect with
  | locked taken => exact .kept ⟨rfl, by simp⟩ rfl (if_neg taken)
  | idle free empty => exact .kept ⟨rfl, by simp⟩ rfl (unplayed empty)
  | @failed event rest reason sent free queued last farewell =>
      have other : eventFrame event = none := by rw [eventFrame, last]
      have goesOn : ∀ o ∈ sent ++ [.undefined reason], o.endsSession = false :=
        List.forall_mem_append.mpr ⟨byes_goesOn farewell, by simp [Output.endsSession]⟩
      refine .kept ⟨?_, goesOn⟩ rfl ?_
      · rw [queued]
        exact (List.filterMap_cons_none other).symm
      · rw [playedFrame, if_pos free, queued]
        exact other
  | @handled event rest after output free queued effect =>
      obtain ⟨frames, goesOn⟩ := effect.frames
      have played : playedFrame s (.timeout now wake) = eventFrame event := by
        rw [playedFrame, if_pos free, queued]
        rfl
      cases isFrame : eventFrame event with
      | none =>
          refine .kept ⟨?_, goesOn⟩ rfl (played.trans isFrame)
          rw [queued]
          exact frames.trans (List.filterMap_cons_none isFrame).symm
      | some item =>
          refine .played rfl (played.trans isFrame) ?_ goesOn
          rw [queued, framesOf, List.filterMap_cons_some isFrame]
          exact congrArg (List.cons item) frames.symm

theorem MediaEffect.frames {s after : ServerState} {i : Int} {io : MediaIo} {output : List Output}
    (effect : MediaEffect s i io after output) : FramesKept s after output := by
  cases effect with
  | ignored other => exact ⟨rfl, by simp⟩
  | failed reason reads => exact .haltOutput reason rfl
  | header getsent opened found parsed => exact ⟨rfl, by simp⟩
  | stored recvtcp opened more =>
      obtain ⟨kernel, masterfds, stored⟩ := storeMedia_eq s i io
      rw [stored]
      exact ⟨rfl, by simp⟩
  | completed recvtcp opened last effect =>
      obtain ⟨kernel, masterfds, stored⟩ := storeMedia_eq s i io
      rw [stored] at effect
      cases effect with
      | exited unopened => exact ⟨rfl, by simp⟩
      | failed unopened => exact ⟨rfl, by simp [Output.endsSession]⟩
      | locked opened taken =>
          exact ⟨rfl, by simp [ServerState.launch, Output.endsSession]⟩
      | launched opened free =>
          exact ⟨framesOf_pushTimeout _ _ _, by simp [ServerState.launch, Output.endsSession]⟩

theorem SwitchEffect.frames {variant : Variant} {s after : ServerState} {i : Int} {io : RtspIo}
    {output : List Output} (effect : SwitchEffect variant s i io after output) :
    FramesKept s after output := by
  cases effect with
  | ignored other => exact ⟨rfl, by simp⟩
  | failed reason output handled before =>
      have acted : FramesKept s s output := by
        rcases before with ⟨-, rfl⟩ | ⟨-, rfl, -⟩
        · exact ⟨rfl, by simp⟩
        · exact ⟨rfl, by simp [Output.endsSession]⟩
      exact acted.trans (.haltOutput reason rfl)
  | @setup rtp rtcp session text state type sockets =>
      obtain ⟨kernel, opened⟩ := openUdp_eq s rtp rtcp
      rw [opened]
      exact ⟨rfl, by simp [Output.endsSession]⟩
  | played state type absent free =>
      exact ⟨framesOf_pushTimeout _ _ _, by simp [Output.endsSession]⟩
  | launched state type downloaded opened =>
      exact ⟨(framesOf_pushTimeout _ _ _).trans (framesOf_pushTimeout _ _ _),
        by simp [ServerState.launch, Output.endsSession]⟩
  | _ => exact ⟨rfl, by simp [Output.endsSession]⟩

theorem ReceiveEffect.frames {s after : ServerState} {i : Int} {received : List UInt8}
    {output : List Output} (effect : ReceiveEffect s i received after output) :
    FramesKept s after output := by
  cases effect with
  | closed opened empty => exact ⟨rfl, by simp [Output.endsSession]⟩
  | message opened nonempty terminated parsed => exact ⟨rfl, by simp⟩

theorem RtspEffect.frames {variant : Variant} {s after : ServerState} {i : Int} {io : RtspIo}
    {output : List Output} (effect : RtspEffect variant s i io after output) :
    FramesKept s after output ∨
      (after.queue = [] ∧ ∃ o ∈ output, o.endsSession = true) := by
  cases effect with
  | failed reason unread => exact Or.inl (.haltOutput reason rfl)
  | teardown receive type effect =>
      cases effect with
      | locked taken => exact Or.inl (receive.frames.trans ⟨rfl, by simp⟩)
      | dangling free dead =>
          exact Or.inl (receive.frames.trans ⟨rfl, by simp [Output.endsSession]⟩)
      | done free armed =>
          exact Or.inr ⟨rfl, .acted i .teardown, by simp [ServerState.tearDown], rfl⟩
  | switched receive type effect => exact Or.inl (receive.frames.trans effect.frames)

/-- The step of a filler pushes what it has read. -/
theorem FillerMove.frames {s after : ServerState} {k : Nat} {filler : Filler} {action : FillerAction}
    (move : FillerMove s k filler action after) (there : s.fillers[k]? = some filler) :
    FrameEffect s (.filler k action) after [] := by
  cases move with
  | @resume now next unset pc free room =>
      cases next with
      | none =>
          exact .kept ⟨framesOf_pushed_other rfl, by simp⟩ rfl rfl
      | some frame =>
          have comes : pushedFrame s (.filler k (.resume now (some frame) unset)) =
              some (setTimeval frame.timestamp (filler.basetime.getD now), frame) := by
            rw [pushedFrame, there]
            exact if_pos room
          exact .pushed comes rfl rfl rfl
  | @stuck now next unset pc free full =>
      refine .kept ⟨rfl, by simp⟩ ?_ rfl
      cases next with
      | none => rfl
      | some frame =>
          rw [pushedFrame, there]
          exact if_neg full
  | @push next unset basetime pc free known =>
      cases next with
      | none =>
          exact .kept ⟨framesOf_pushed_other rfl, by simp⟩ rfl rfl
      | some frame =>
          have comes : pushedFrame s (.filler k (.push (some frame) unset)) =
              some (setTimeval frame.timestamp basetime, frame) := by
            rw [pushedFrame, there, Option.bind_some, known]
            rfl
          exact .pushed comes rfl rfl rfl
  | _ => exact .kept ⟨rfl, by simp⟩ rfl rfl

/-- What every step does to the frames. -/
theorem step_frames {variant : Variant} {url : List UInt8} {s after : ServerState} {input : Input}
    {output : List Output} (taken : step variant url s input = .ok (after, output)) :
    FrameEffect s input after output := by
  cases step_cases taken with
  | timeout pc set effect => exact effect.frames
  | interrupted pc => exact .kept ⟨rfl, by simp⟩ rfl rfl
  | ready pc members => exact .kept ⟨rfl, by simp⟩ rfl rfl
  | accept pc branch possible effect =>
      cases effect with
      | halted reason => exact .kept (.haltOutput reason rfl) rfl rfl
      | rejected busy => exact .kept ⟨rfl, by simp [Output.endsSession]⟩ rfl rfl
      | accepted accepted free => exact .kept ⟨rfl, by simp [Output.endsSession]⟩ rfl rfl
  | datagram pc branch effect =>
      cases effect with
      | only halts answers =>
          refine .kept ⟨rfl, fun o member => ?_⟩ rfl rfl
          rcases answers o member with ⟨text, size, cliaddr, rfl⟩ | ⟨reason, rfl⟩
          · rfl
          · rfl
  | media pc branch possible effect =>
      obtain ⟨frames, goesOn⟩ := effect.frames
      exact .kept ⟨frames, goesOn⟩ rfl rfl
  | rtsp pc branch possible effect =>
      rcases effect.frames with ⟨frames, goesOn⟩ | ⟨empty, ended⟩
      · exact .kept ⟨frames, goesOn⟩ rfl rfl
      · exact .emptied empty ended
  | rearmed pc free =>
      rw [ServerState.rearm, locked_free free]
      exact .kept ⟨rfl, by simp⟩ rfl rfl
  | rearmLocked pc taken => exact .kept ⟨rfl, by simp⟩ rfl rfl
  | @filler k action _ effect =>
      obtain ⟨filler, there, move⟩ := handleFiller_moves (step_filler taken).1
      exact move.frames there

/-! ## Nothing gets lost -/

theorem goesOn_any {output : List Output} (goesOn : ∀ o ∈ output, o.endsSession = false) :
    output.any Output.endsSession = false := by
  simpa using goesOn

/-- Every step keeps the account of the frames. -/
theorem FrameEffect.keeps {s after : ServerState} {input : Input} {output : List Output}
    (effect : FrameEffect s input after output) : frameFlow.Keeps ⟨s, input, output⟩ after := by
  cases effect with
  | kept kept silent unplayed =>
      refine ⟨fun reset => ?_, fun _ => ?_⟩
      · cases (goesOn_any kept.goesOn).symm.trans reset
      · simp [frameFlow, silent, unplayed, kept.frames]
  | @pushed time frame comes unplayed queue quiet =>
      subst quiet
      refine ⟨fun reset => ?_, fun _ => ?_⟩
      · cases reset
      · simp only [frameFlow, comes, unplayed, queue, Option.toList_some, Option.toList_none,
          List.nil_append]
        exact framesOf_pushed_frame time frame s.queue
  | played silent goes frames goesOn =>
      refine ⟨fun reset => ?_, fun _ => ?_⟩
      · cases (goesOn_any goesOn).symm.trans reset
      · simp [frameFlow, silent, goes, frames]
  | emptied queue ended =>
      obtain ⟨o, member, ends⟩ := ended
      have resets : output.any Output.endsSession = true := List.any_eq_true.mpr ⟨o, member, ends⟩
      refine ⟨fun _ => ?_, fun goesOn => ?_⟩
      · simp [frameFlow, queue, framesOf]
      · cases resets.symm.trans goesOn

/-- A frame which is taken off the queue is sent. -/
theorem playedFrame_sent {variant : Variant} {url : List UInt8} {s after : ServerState}
    {input : Input} {output : List Output} {time : Timeval} {frame : Rtp.Frame}
    (taken : step variant url s input = .ok (after, output))
    (goes : playedFrame s input = some (time, frame)) : output = s.sentFrame variant frame := by
  cases input with
  | timeout now wake =>
      obtain ⟨pc, -, handled⟩ := step_timeout taken
      obtain ⟨free, head⟩ := Option.ite_none_right_eq_some.mp goes
      obtain ⟨event, first, isFrame⟩ := Option.bind_eq_some_iff.mp head
      obtain ⟨rest, queued⟩ := List.head?_eq_some_iff.mp first
      have type : event.type = .frame frame := by
        unfold eventFrame at isFrame
        split at isFrame
        · rename_i found same
          obtain ⟨-, rfl⟩ := Prod.mk.inj (Option.some.inj isFrame)
          exact same
        · cases isFrame
        · cases isFrame
      rw [ServerState.handleTimeout,
        locked_free (show ServerState.lock { s with timeind := none } = none from free)] at handled
      simp only [queued, ServerState.handleEvent, type] at handled
      cases kind : frame.frametype with
      | video =>
          simp only [kind, Outcome.andThen, pc, List.append_nil] at handled
          rw [ServerState.sentFrame, kind]
          exact (Prod.mk.inj handled).2.symm
      | audio =>
          simp only [kind, Outcome.andThen, pc, List.append_nil] at handled
          rw [ServerState.sentFrame, kind]
          exact (Prod.mk.inj handled).2.symm
  | _ => cases goes

/-- A PLAY of the media which is already there finds no live filler and no frame in the queue. -/
def PlaysAfresh (s : ServerState) (input : Input) : Prop :=
  PlaysDownloaded s input → (∀ filler ∈ s.fillers, ¬ filler.Live) ∧ framesOf s.queue = []

/-- The frame a filler reads is due later than the one it has read before. -/
def ReadsLater (s : ServerState) (input : Input) : Prop :=
  ∀ k action filler time frame prev, input = .filler k action → s.fillers[k]? = some filler →
    pushedFrame s input = some (time, frame) → filler.prevTimestamp = some prev →
      prev.micros < time.micros

/-- The filler has read these frames, and nothing later than the last of them. -/
structure Filler.Read (filler : Filler) (frames : List (Timeval × Rtp.Frame)) : Prop where
  stamped : ∀ prev, filler.prevTimestamp = some prev →
    ∃ base ts, filler.basetime = some base ∧ prev = setTimeval ts base
  earlier : ∀ item ∈ frames, ∃ base prev ts, filler.basetime = some base ∧
    filler.prevTimestamp = some prev ∧ item.1 = setTimeval ts base ∧ item.1.micros ≤ prev.micros

/-- The frames in the queue have been read by the only live filler. -/
structure Playing (s : ServerState) : Prop where
  order : DownloadOrder s
  one : OneFiller s
  none : s.fillers = [] → framesOf s.queue = []
  read : ∀ (k : Nat) (filler : Filler), s.fillers[k]? = some filler → filler.Live →
    filler.Read (framesOf s.queue)

theorem Filler.Read.fewer {filler : Filler} {frames rest : List (Timeval × Rtp.Frame)}
    (read : filler.Read frames) (fewer : ∀ item ∈ rest, item ∈ frames) : filler.Read rest :=
  ⟨read.stamped, fun item member => read.earlier item (fewer item member)⟩

/-- A filler with the same memory. -/
theorem Filler.Read.same {filler other : Filler} {frames : List (Timeval × Rtp.Frame)}
    (read : filler.Read frames) (basetime : other.basetime = filler.basetime)
    (prevTimestamp : other.prevTimestamp = filler.prevTimestamp) : other.Read frames where
  stamped := by
    rw [basetime, prevTimestamp]
    exact read.stamped
  earlier := by
    rw [basetime, prevTimestamp]
    exact read.earlier

/-- What a filler reads next comes behind the frames in the queue. -/
theorem Filler.Read.later {filler : Filler} {frames : List (Timeval × Rtp.Frame)} {base : Clock}
    {ts : UInt32} (read : filler.Read frames) (known : ∀ old, filler.basetime = some old → old = base)
    (rises : ∀ prev, filler.prevTimestamp = some prev → prev.micros < (setTimeval ts base).micros) :
    ∀ item ∈ frames, 0 < timecmp item.1 (setTimeval ts base) := by
  intro item member
  obtain ⟨old, prev, first, basetime, last, due, before⟩ := read.earlier item member
  obtain rfl := known old basetime
  have rising := rises prev last
  rw [due] at before ⊢
  have judged := timecmp_carried (setTimeval_usec first old) (setTimeval_usec ts old)
    (setTimeval_near first ts old)
  exact not_le.mp fun notLater => absurd (judged.mp notLater) (by omega)

/-- It has read that frame then. -/
theorem Filler.Read.next {filler : Filler} {frames : List (Timeval × Rtp.Frame)} {base : Clock}
    {frame : Rtp.Frame} {pc : FillerPc} (read : filler.Read frames)
    (known : ∀ old, filler.basetime = some old → old = base)
    (rises : ∀ prev, filler.prevTimestamp = some prev →
      prev.micros < (setTimeval frame.timestamp base).micros) :
    Filler.Read { filler with
        basetime := some base
        prevTimestamp := some (setTimeval frame.timestamp base)
        pc := pc } (frames ++ [(setTimeval frame.timestamp base, frame)]) where
  stamped prev last := ⟨base, frame.timestamp, rfl, (Option.some.inj last).symm⟩
  earlier item member := by
    rcases List.mem_append.mp member with queued | new
    · obtain ⟨old, prev, first, basetime, last, due, before⟩ := read.earlier item queued
      obtain rfl := known old basetime
      exact ⟨old, _, first, rfl, rfl, due, (before.trans (rises prev last).le)⟩
    · rw [List.mem_singleton.mp new]
      exact ⟨base, _, frame.timestamp, rfl, rfl, rfl, le_rfl⟩

/-- Of the steps other than a filler's: what the main thread makes of the queue and the fillers. -/
theorem step_mainThread {variant : Variant} {url : List UInt8} {s after : ServerState} {input : Input}
    {output : List Output} (taken : step variant url s input = .ok (after, output))
    (main : ∀ k action, input ≠ .filler k action) : MainEffect s after := by
  cases step_cases taken with
  | timeout pc set effect => exact effect.main
  | interrupted pc => exact .apart rfl rfl rfl
  | ready pc members => exact .apart rfl rfl rfl
  | accept pc branch possible effect => cases effect <;> exact .apart rfl rfl rfl
  | datagram pc branch effect =>
      cases effect
      exact .apart rfl rfl rfl
  | media pc branch possible effect => exact effect.main.dispatched
  | rtsp pc branch possible effect => exact effect.main.dispatched
  | rearmed pc free =>
      rw [ServerState.rearm, locked_free free]
      exact .apart rfl rfl rfl
  | rearmLocked pc taken => exact .apart rfl rfl rfl
  | filler effect => exact absurd rfl (main _ _)

/-- A step of the main thread brings no frame. -/
theorem FrameEffect.fewer {s after : ServerState} {input : Input} {output : List Output}
    (effect : FrameEffect s input after output) (main : ∀ k action, input ≠ .filler k action) :
    ∀ item ∈ framesOf after.queue, item ∈ framesOf s.queue := by
  cases effect with
  | kept kept silent unplayed => exact fun item member => kept.frames ▸ member
  | pushed comes =>
      cases input with
      | filler k action => exact absurd rfl (main k action)
      | _ => cases comes
  | played silent goes frames goesOn =>
      intro item member
      rw [frames]
      exact List.mem_cons_of_mem _ member
  | emptied queue ended =>
      intro item member
      rw [queue] at member
      cases member

/-- Fillers do not go away. -/
theorem step_fillers_nil {variant : Variant} {url : List UInt8} {s after : ServerState} {input : Input}
    {output : List Output} (taken : step variant url s input = .ok (after, output))
    (none : after.fillers = []) : s.fillers = [] := by
  cases step_threads taken with
  | faded fades => exact List.length_eq_zero_iff.mp (fades.1 ▸ by rw [none]; rfl)
  | launched cause fillers => simp [fillers] at none
  | tornDown cause free armed fades => exact List.length_eq_zero_iff.mp (fades.1 ▸ by rw [none]; rfl)

/-- A step of the main thread behind which the behaviour is defined. -/
theorem playing_main {variant : Variant} {url : List UInt8} {s after : ServerState} {input : Input}
    {output : List Output} (playing : Playing s) (afresh : PlaysAfresh s input)
    (taken : step variant url s input = .ok (after, output))
    (main : ∀ k action, input ≠ .filler k action) (defined : after.Defined) : Playing after := by
  have alone : PlayCreatesFiller s input →
      (∀ filler ∈ s.fillers, ¬ filler.Live) ∧ framesOf s.queue = [] := fun plays =>
    afresh ((plays.adds taken).2.resolve_right defined)
  have fewer := (step_frames taken).fewer main
  have stays : after.fillers.length = s.fillers.length → Stays s.fillers after.fillers := by
    intro same
    cases step_mainThread taken main with
    | kept queue lock fillers => exact fillers
    | launched queue lock fillers => simp [fillers] at same
  have faded : after.fillers.length = s.fillers.length → ∀ (k : Nat) (filler : Filler),
      after.fillers[k]? = some filler → filler.Live → filler.Read (framesOf after.queue) := by
    intro same k filler there live
    obtain ⟨earlier, before, alive, how⟩ := stays same k filler there live
    have read := (playing.read k earlier before alive).fewer fewer
    rcases how with rfl | ⟨-, rfl⟩
    · exact read
    · exact read.same rfl rfl
  refine ⟨downloadOrder_kept playing.order taken,
    (oneFiller_step_iff playing.order playing.one taken).mpr fun plays => (alone plays).1, ?_, ?_⟩
  · intro none
    refine List.eq_nil_iff_forall_not_mem.mpr fun item member => ?_
    have before := fewer item member
    rw [playing.none (step_fillers_nil taken none)] at before
    cases before
  · cases step_threads taken with
    | faded fades => exact faded fades.1
    | tornDown cause free armed fades => exact faded fades.1
    | launched cause fillers =>
        have clear : (∀ filler ∈ s.fillers, ¬ filler.Live) ∧ framesOf s.queue = [] := by
          rcases cause with ⟨running, reading, -⟩ | plays
          · have none := playing.order.unlaunched (playing.order.reading running (Or.inr reading))
            exact ⟨by simp [none], playing.none none⟩
          · exact alone plays
        intro k filler there live
        have new : filler = ⟨.start, s.allocated, none, none⟩ := by
          have member := List.mem_of_getElem? there
          rw [fillers] at member
          rcases List.mem_append.mp member with old | new
          · exact absurd live (clear.1 filler old)
          · exact List.mem_singleton.mp new
        subst new
        refine ⟨nofun, fun item member => ?_⟩
        have before := fewer item member
        rw [clear.2] at before
        cases before

/-- One filler is replaced; the others have read what they had. -/
theorem Playing.read_set {s : ServerState} {k : Nat} {filler new : Filler}
    {frames : List (Timeval × Rtp.Frame)} (playing : Playing s)
    (there : s.fillers[k]? = some filler) (here : new.Live → new.Read frames)
    (others : filler.Live ∨ frames = framesOf s.queue) :
    ∀ (j : Nat) (found : Filler), (s.fillers.set k new)[j]? = some found → found.Live →
      found.Read frames := by
  intro j found thereToo live
  rcases getElem?_set_cases there thereToo with ⟨rfl, rfl⟩ | ⟨apart, before⟩
  · exact here live
  · rcases others with alive | rfl
    · exact absurd (playing.one.unique there alive before live) apart
    · exact playing.read j found before live

/-- What a step of a filler leaves of it. -/
theorem FillerMove.read {s after : ServerState} {k : Nat} {filler : Filler} {action : FillerAction}
    (move : FillerMove s k filler action after) (playing : Playing s)
    (there : s.fillers[k]? = some filler) (rises : ReadsLater s (.filler k action)) :
    (∀ (j : Nat) (found : Filler), after.fillers[j]? = some found → found.Live →
        found.Read (framesOf after.queue)) ∧
      ∀ time frame, pushedFrame s (.filler k action) = some (time, frame) →
        ∀ item ∈ framesOf s.queue, 0 < timecmp item.1 time := by
  -- A frame which is read, with the base time of the filler.
  have reads : ∀ (base : Clock) (frame : Rtp.Frame) (unset : Timeval), filler.Live →
      (∀ old, filler.basetime = some old → old = base) →
      pushedFrame s (.filler k action) = some (setTimeval frame.timestamp base, frame) →
      after = s.pushNext k filler base (some frame) unset →
      (∀ (j : Nat) (found : Filler), after.fillers[j]? = some found → found.Live →
          found.Read (framesOf after.queue)) ∧
        ∀ time frame, pushedFrame s (.filler k action) = some (time, frame) →
          ∀ item ∈ framesOf s.queue, 0 < timecmp item.1 time := by
    intro base frame unset live known comes same
    have read := playing.read k filler there live
    have rising : ∀ prev, filler.prevTimestamp = some prev →
        prev.micros < (setTimeval frame.timestamp base).micros := fun prev last =>
      rises k action filler _ frame prev rfl there comes last
    have later := read.later known rising
    constructor
    · rw [same]
      have queued : framesOf (s.pushNext k filler base (some frame) unset).queue =
          framesOf s.queue ++ [(setTimeval frame.timestamp base, frame)] :=
        framesOf_pushed_later later
      rw [queued]
      exact playing.read_set there (fun _ => read.next known rising) (Or.inl live)
    · intro time frame' comes'
      obtain ⟨rfl, rfl⟩ := Prod.mk.inj (Option.some.inj (comes.symm.trans comes'))
      exact later
  have none : pushedFrame s (.filler k action) = none → ∀ time frame,
      pushedFrame s (.filler k action) = some (time, frame) →
        ∀ item ∈ framesOf s.queue, 0 < timecmp item.1 time := by
    intro silent time frame comes
    cases silent.symm.trans comes
  have moved : ∀ pc, filler.Live → ∀ (j : Nat) (found : Filler),
      (s.moveFiller k filler pc).fillers[j]? = some found → found.Live →
        found.Read (framesOf s.queue) := fun pc live =>
    playing.read_set there (fun _ => (playing.read k filler there live).same rfl rfl) (Or.inl live)
  cases move with
  | wait pc free => exact ⟨moved _ (by simp [Filler.Live, pc]), none rfl⟩
  | spurious pc => exact ⟨moved _ (by simp [Filler.Live, pc]), none rfl⟩
  | @resume now next unset pc free room =>
      have live : filler.Live := by simp [Filler.Live, pc]
      cases next with
      | none =>
          refine ⟨?_, none rfl⟩
          have queued : framesOf (s.pushNext k filler (filler.basetime.getD now) .none unset).queue =
              framesOf s.queue := framesOf_pushed_other rfl
          rw [queued]
          exact playing.read_set there (fun ended => absurd rfl ended.1) (Or.inl live)
      | some frame =>
          refine reads (filler.basetime.getD now) frame unset live (fun old known => ?_) ?_ rfl
          · rw [known]
            rfl
          · rw [pushedFrame, there]
            exact if_pos room
  | @stuck now next unset pc free full =>
      have live : filler.Live := by simp [Filler.Live, pc]
      have read := playing.read k filler there live
      constructor
      · refine playing.read_set there (fun _ => ⟨?_, ?_⟩) (Or.inl live)
        · intro prev last
          obtain ⟨base, ts, known, due⟩ := read.stamped prev last
          exact ⟨base, ts, by simp [known], due⟩
        · intro item member
          obtain ⟨base, prev, ts, known, rest⟩ := read.earlier item member
          exact ⟨base, prev, ts, by simp [known], rest⟩
      · refine none ?_
        cases next with
        | none => rfl
        | some frame =>
            rw [pushedFrame, there]
            exact if_neg full
  | test pc => exact ⟨moved _ (by simp [Filler.Live, pc]), none rfl⟩
  | @push next unset basetime pc free known =>
      have live : filler.Live := by simp [Filler.Live, pc]
      cases next with
      | none =>
          refine ⟨?_, none rfl⟩
          have queued : framesOf (s.pushNext k filler basetime .none unset).queue =
              framesOf s.queue := framesOf_pushed_other rfl
          rw [queued]
          exact playing.read_set there (fun ended => absurd rfl ended.1) (Or.inl live)
      | some frame =>
          refine reads basetime frame unset live (fun old same => ?_) ?_ rfl
          · exact Option.some.inj (same.symm.trans known)
          · rw [pushedFrame, there, Option.bind_some, known]
            rfl
  | unwind pc free =>
      refine ⟨?_, none rfl⟩
      exact playing.read_set there (fun ended => absurd rfl ended.2.1) (Or.inr rfl)

/-- Every PLAY starts afresh, and the times of a file rise. -/
def PlaysInOrder (_past : List Output) (s : ServerState) (input : Input) : Prop :=
  PlaysAfresh s input ∧ ReadsLater s input

theorem playing_initial {variant : Variant} {s : ServerState} (initial : Initial variant s) :
    Playing s where
  order := downloadOrder_initial initial
  one k filler there := by
    rw [initial.fillers] at there
    cases there
  none _ := by
    rw [initial.queue]
    rfl
  read k filler there := by
    rw [initial.fillers] at there
    cases there

/-- A step is one of a queue when no frame comes in front of another one. -/
theorem FrameEffect.queues {s after : ServerState} {input : Input} {output : List Output}
    (effect : FrameEffect s input after output)
    (behind : ∀ time frame, pushedFrame s input = some (time, frame) →
      ∀ item ∈ framesOf s.queue, 0 < timecmp item.1 time) :
    frameFlow.Queues ⟨s, input, output⟩ after := by
  cases effect with
  | kept kept silent unplayed =>
      refine ⟨fun reset => ?_, fun _ => ?_⟩
      · cases (goesOn_any kept.goesOn).symm.trans reset
      · simp [frameFlow, silent, unplayed, kept.frames]
  | @pushed time frame comes unplayed queue quiet =>
      subst quiet
      refine ⟨fun reset => ?_, fun _ => ?_⟩
      · cases reset
      · simp only [frameFlow, comes, unplayed, queue, Option.toList_some, Option.toList_none,
          List.nil_append]
        exact (framesOf_pushed_later (behind time frame comes)).symm
  | played silent goes frames goesOn =>
      refine ⟨fun reset => ?_, fun _ => ?_⟩
      · cases (goesOn_any goesOn).symm.trans reset
      · simp [frameFlow, silent, goes, frames]
  | emptied queue ended =>
      obtain ⟨o, member, ends⟩ := ended
      have resets : output.any Output.endsSession = true := List.any_eq_true.mpr ⟨o, member, ends⟩
      refine ⟨fun _ => ?_, fun goesOn => ?_⟩
      · simp [frameFlow, queue, framesOf]
      · cases resets.symm.trans goesOn

/-- A step under the condition. -/
theorem playing_step {variant : Variant} {url : List UInt8} {past : List Output}
    {s after : ServerState} {input : Input} {output : List Output} (playing : Playing s)
    (inOrder : PlaysInOrder past s input) (taken : step variant url s input = .ok (after, output)) :
    frameFlow.Queues ⟨s, input, output⟩ after ∧ (after.Defined → Playing after) := by
  by_cases main : ∀ k action, input ≠ .filler k action
  · refine ⟨(step_frames taken).queues fun time frame comes => ?_,
      playing_main playing inOrder.1 taken main⟩
    cases input with
    | filler k action => exact absurd rfl (main k action)
    | _ => cases comes
  · simp only [not_forall, not_not] at main
    obtain ⟨k, action, rfl⟩ := main
    obtain ⟨moved, rfl⟩ := step_filler taken
    obtain ⟨filler, there, move⟩ := handleFiller_moves moved
    obtain ⟨read, behind⟩ := move.read playing there inOrder.2
    have alone : PlaysAlone s (.filler k action) := by
      rintro ⟨io, i, rest, impossible, -⟩
      cases impossible
    refine ⟨(step_frames taken).queues behind, fun _ => ⟨downloadOrder_kept playing.order taken,
      (oneFiller_step_iff playing.order playing.one taken).mpr alone, fun none => ?_, read⟩⟩
    rw [step_fillers_nil taken none] at there
    cases there

/-- What a script is checked for: no request once the media is there, and rising times. -/
def scriptInOrder (_past : List Output) (s : ServerState) : Input → Prop
  | .rtsp _ => s.download.mediaDownloaded = false
  | .filler k action =>
      ∀ filler ∈ s.fillers[k]?, ∀ item ∈ pushedFrame s (.filler k action),
        ∀ prev ∈ filler.prevTimestamp, prev.micros < item.1.micros
  | _ => True

instance (past : List Output) (s : ServerState) :
    (input : Input) → Decidable (scriptInOrder past s input)
  | .rtsp _ => inferInstanceAs (Decidable (_ = false))
  | .filler k _ => inferInstanceAs (Decidable (∀ filler ∈ s.fillers[k]?, _))
  | .timeout .. | .interrupted | .ready .. | .accept .. | .datagram .. | .media .. | .rearm .. =>
      isTrue trivial

theorem playsInOrder_of_script {past : List Output} {s : ServerState} {input : Input}
    (checked : scriptInOrder past s input) : PlaysInOrder past s input := by
  constructor
  · rintro ⟨io, i, rest, sets, rfl, -, -, -, -, downloaded, -⟩
    cases downloaded.symm.trans checked
  · rintro k action filler time frame prev rfl there comes last
    exact checked filler there _ comes prev last

/-- A video frame of one byte behind its start code, with this timestamp. -/
def someVideo (timestamp : UInt32) : Rtp.Frame := ⟨fun _ => 0x65, 5, timestamp, .video⟩

/-- Two frames are read, and the first one is sent. -/
def twoFramesRead : List Input :=
  connect 6 ++ describe 6 7 someResponse ++ play 6 ++ media 7 someResponse someHeader ++
    media 7 [] [7] ++ [.filler 0 .wait, .filler 0 .spurious,
      .filler 0 (.resume someTime (some (someVideo 0)) ⟨0, 0⟩), .filler 0 .test,
      .filler 0 (.push (some (someVideo 90)) ⟨0, 0⟩), .timeout someTime 0]

end Http2Rtsp.Server
