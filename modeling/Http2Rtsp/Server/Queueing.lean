import Http2Rtsp.Pacing.GetFrame
import Http2Rtsp.Server.Threads

/-!
# What a step does to the queue

Of all that a step does, the part which concerns the event queue: the main thread
pushes `CHECKMEDIASTATE` timeouts, a live filler pushes an event, a timeout pulls
one, a TEARDOWN block empties the queue.
-/

namespace Http2Rtsp.Server

open Http2Rtsp.Std Http2Rtsp.Message Http2Rtsp.Pacing

/-- Outputs which begin or end the pacing of a session. -/
def Output.ofPacing : Output → Bool
  | .armed | .endOfStream | .acted _ .teardown => true
  | _ => false

/-- What is put out about the pacing of a session. -/
def paceEvents (outputs : List Output) : List Output := outputs.filter Output.ofPacing

@[simp] theorem paceEvents_append (first second : List Output) :
    paceEvents (first ++ second) = paceEvents first ++ paceEvents second :=
  List.filter_append ..

theorem paceEvents_haltOutput (reason : Halt) : paceEvents (haltOutput reason) = [] := by
  cases reason <;> rfl

/-- The events of a queue are those of another one, or timeouts. -/
def AddsTimeouts (before after : List TimeoutEvent) : Prop :=
  ∀ event ∈ after, event ∈ before ∨ event.type = .checkMediaState

theorem AddsTimeouts.refl (queue : List TimeoutEvent) : AddsTimeouts queue queue :=
  fun _ member => Or.inl member

theorem addsTimeouts_pushed (now : Clock) (timeMs : Nat) {before queue : List TimeoutEvent}
    (adds : AddsTimeouts before queue) :
    AddsTimeouts before (pushed ⟨timeoutTime now timeMs, .checkMediaState⟩ queue) := by
  intro event member
  rcases mem_scanInsert.mp member with rfl | old
  · exact Or.inr rfl
  · exact adds event old

theorem pushed_ne_nil (event : TimeoutEvent) (queue : List TimeoutEvent) : pushed event queue ≠ [] := by
  rw [← List.length_pos_iff, pushed, length_scanInsert]
  omega

/-- The reading of a file which `get_frame` continues. -/
def readOp (next : Option Rtp.Frame) (unset : Timeval) : FillOp :=
  match next with
  | none => .endOfFile unset
  | some frame => .frame frame

/-- The critical section of a filler is a round of the reading of its file. -/
theorem pushNext_fill {s : ServerState} {k : Nat} {filler : Filler} (there : k < s.fillers.length)
    (basetime : Clock) (next : Option Rtp.Frame) (unset : Timeval) :
    ∃ after output, fillStep basetime ⟨s.queue, filler.prevTimestamp, false⟩ (readOp next unset) =
        .ok (after, output) ∧
      (s.pushNext k filler basetime next unset).queue = after.queue ∧
      ((s.pushNext k filler basetime next unset).fillers[k]?).map Filler.prevTimestamp =
        some after.prevTimestamp ∧
      (((s.pushNext k filler basetime next unset).fillers[k]?).map Filler.pc = some .done ↔
        after.quitflag = true) := by
  cases next with
  | none => exact ⟨_, _, rfl, rfl, by simp [ServerState.pushNext, there],
      by simp [ServerState.pushNext, there]⟩
  | some frame => exact ⟨_, _, rfl, rfl, by simp [ServerState.pushNext, there, frameEvent],
      by simp [ServerState.pushNext, there]⟩

/-- So is a round which reads a packet, with the frame `get_frame` makes of it. -/
theorem fillOp_round (file : MediaFile) (read : Option PacketRead) (memory : Allocation)
    (unset : Timeval) :
    (ReadOp.round read memory unset).fillOp file = readOp (nextFrame file read memory) unset := by
  simp only [ReadOp.fillOp]
  cases nextFrame file read memory with
  | none => rfl
  | some frame => rfl

/-- What may happen to the queue. -/
inductive QueueEffect (s after : ServerState) (output : List Output) : Prop where
  | kept (queue : after.queue = s.queue) (events : paceEvents output = [])
  | armed (nonempty : after.queue ≠ []) (adds : AddsTimeouts s.queue after.queue)
      (events : paceEvents output = [.armed])
  | filled {filler} (member : filler ∈ s.fillers) (live : filler.Live) (nonempty : after.queue ≠ [])
      (events : paceEvents output = [])
  | pulled {event rest} (pc : s.pc = .select) (queued : s.queue = event :: rest)
      (selects : after.Running → after.pc = .select) (adds : AddsTimeouts rest after.queue)
  | emptied {i} (queue : after.queue = []) (events : paceEvents output = [.acted i .teardown])

/-- What happens to the queue behind a change which does not concern it. -/
theorem QueueEffect.behind {s middle after : ServerState} {prior output : List Output}
    (effect : QueueEffect middle after output) (pc : middle.pc ≠ .select)
    (queue : middle.queue = s.queue) (fillers : middle.fillers = s.fillers)
    (quiet : paceEvents prior = []) : QueueEffect s after (prior ++ output) := by
  cases effect with
  | kept same events => exact .kept (same.trans queue) (by simp [quiet, events])
  | armed nonempty adds events => exact .armed nonempty (queue ▸ adds) (by simp [quiet, events])
  | filled member live nonempty events =>
      exact .filled (fillers ▸ member) live nonempty (by simp [quiet, events])
  | pulled selects => exact absurd selects pc
  | emptied empty events =>
      have all := paceEvents_append prior output
      rw [quiet, events, List.nil_append] at all
      exact .emptied empty all

theorem EventEffect.queue {s after : ServerState} {event : TimeoutEvent} {output : List Output}
    (effect : EventEffect s event after output) : AddsTimeouts s.queue after.queue := by
  cases effect with
  | ended last farewell => exact .refl s.queue
  | video media => exact .refl s.queue
  | audio media frames => exact .refl s.queue
  | dummy check waiting => exact addsTimeouts_pushed _ _ (.refl s.queue)
  | ready check streaming => exact .refl s.queue

theorem TimeoutEffect.queue {s after : ServerState} {wake : Nat} {output : List Output}
    (effect : TimeoutEffect s wake after output) (pc : s.pc = .select) :
    QueueEffect s after output := by
  cases effect with
  | locked taken => exact .kept rfl rfl
  | idle free empty => exact .kept rfl rfl
  | failed free queued last => exact .pulled pc queued (fun runs => absurd rfl (runs _)) (.refl _)
  | handled free queued effect =>
      exact .pulled pc queued (fun _ => effect.pc.trans pc) effect.queue

theorem MediaEffect.queue {s after : ServerState} {i : Int} {io : MediaIo} {output : List Output}
    (effect : MediaEffect s i io after output) : QueueEffect s after output := by
  cases effect with
  | ignored other => exact .kept rfl rfl
  | failed reason reads => exact .kept rfl (paceEvents_haltOutput reason)
  | header getsent opened found parsed => exact .kept rfl rfl
  | stored recvtcp opened more =>
      obtain ⟨kernel, masterfds, stored⟩ := storeMedia_eq s i io
      rw [stored]
      exact .kept rfl rfl
  | completed recvtcp opened last effect =>
      obtain ⟨kernel, masterfds, stored⟩ := storeMedia_eq s i io
      rw [stored] at effect
      cases effect with
      | exited unopened => exact .kept rfl rfl
      | failed unopened => exact .kept rfl rfl
      | locked opened taken => exact .kept rfl rfl
      | launched opened free =>
          exact .armed (pushed_ne_nil _ _) (addsTimeouts_pushed _ _ (.refl s.queue)) rfl

theorem TeardownEffect.queue {variant : Variant} {s after : ServerState} {i : Int} {io : RtspIo}
    {output : List Output} (effect : TeardownEffect variant s i io after output) :
    QueueEffect s after output := by
  cases effect with
  | locked taken => exact .kept rfl rfl
  | dangling free dead => exact .kept rfl rfl
  | done free armed => exact .emptied rfl rfl

theorem SwitchEffect.queue {variant : Variant} {s after : ServerState} {i : Int} {io : RtspIo}
    {output : List Output} (effect : SwitchEffect variant s i io after output) :
    QueueEffect s after output := by
  cases effect with
  | ignored other => exact .kept rfl rfl
  | failed reason output handled before =>
      refine .kept rfl ?_
      rw [paceEvents_append, paceEvents_haltOutput]
      rcases before with ⟨-, rfl⟩ | ⟨-, rfl, -⟩
      · rfl
      · rfl
  | options state type => exact .kept rfl rfl
  | described state type downloaded => exact .kept rfl rfl
  | fetched state type absent fetch => exact .kept rfl rfl
  | @setup rtp rtcp session text state type sockets =>
      obtain ⟨kernel, opened⟩ := openUdp_eq s rtp rtcp
      rw [opened]
      exact .kept rfl rfl
  | played state type absent free =>
      exact .armed (pushed_ne_nil _ _) (addsTimeouts_pushed _ _ (.refl s.queue)) rfl
  | unopened state type downloaded unopened => exact .kept rfl rfl
  | launched state type downloaded opened =>
      refine .armed (pushed_ne_nil _ _) ?_ rfl
      exact addsTimeouts_pushed _ _ (addsTimeouts_pushed _ _ (.refl s.queue))

theorem RtspEffect.queue {variant : Variant} {s after : ServerState} {i : Int} {io : RtspIo}
    {output : List Output} (effect : RtspEffect variant s i io after output)
    (pc : s.pc ≠ .select) : QueueEffect s after output := by
  have received : ∀ {middle after prior later}, ReceiveEffect s i io.received middle prior →
      QueueEffect middle after later → QueueEffect s after (prior ++ later) := by
    intro middle after prior later receive effect
    have middlePc : middle.pc ≠ .select := receive.pc ▸ pc
    cases receive with
    | closed opened empty => exact effect.behind middlePc rfl rfl rfl
    | message opened nonempty terminated parsed => exact effect.behind middlePc rfl rfl rfl
  cases effect with
  | failed reason unread => exact .kept rfl (paceEvents_haltOutput reason)
  | teardown receive type effect => exact received receive effect.queue
  | switched receive type effect => exact received receive effect.queue

theorem FillerEffect.queue {s after : ServerState} {k : Nat} (effect : FillerEffect s k after) :
    QueueEffect s after [] := by
  cases effect with
  | advanced there advances => exact .kept rfl rfl
  | @pushed filler basetime next unset there free pc =>
      have live : filler.Live := by
        unfold Filler.Live
        rcases pc with pc | pc <;> simp [pc]
      have member := List.mem_of_getElem? there
      cases next with
      | none => exact .filled member live (pushed_ne_nil _ _) rfl
      | some frame => exact .filled member live (pushed_ne_nil _ _) rfl
  | stuck there free pc => exact .kept rfl rfl
  | unwound there free pc => exact .kept rfl rfl

/-- What a step does to the queue. -/
theorem step_queue {variant : Variant} {url : List UInt8} {s after : ServerState} {input : Input}
    {output : List Output} (taken : step variant url s input = .ok (after, output)) :
    QueueEffect s after output := by
  have dispatched : ∀ {rest output}, QueueEffect { s with pc := .dispatch rest } after output →
      QueueEffect s after output := fun effect => by
    exact @QueueEffect.behind s _ _ [] _ effect (by simp) rfl rfl rfl
  cases step_cases taken with
  | timeout pc set effect => exact effect.queue pc
  | interrupted pc => exact .kept rfl rfl
  | ready pc members => exact .kept rfl rfl
  | accept pc branch possible effect =>
      cases effect with
      | halted reason => exact .kept rfl (paceEvents_haltOutput reason)
      | rejected busy => exact .kept rfl rfl
      | accepted accepted free => exact .kept rfl rfl
  | datagram pc branch effect =>
      cases effect with
      | only halts answers =>
          refine .kept rfl (List.filter_eq_nil_iff.mpr fun output member => ?_)
          rcases answers output member with ⟨text, size, cliaddr, rfl⟩ | ⟨reason, rfl⟩
          · exact Bool.false_ne_true
          · exact Bool.false_ne_true
  | media pc branch possible effect => exact dispatched effect.queue
  | rtsp pc branch possible effect => exact dispatched (effect.queue (by simp))
  | rearmed pc free =>
      rw [ServerState.rearm, locked_free free]
      exact .kept rfl rfl
  | rearmLocked pc taken => exact .kept rfl rfl
  | filler effect => exact effect.queue

end Http2Rtsp.Server
