import Http2Rtsp.Rtp.Receiver
import Http2Rtsp.Server.Playback

/-!
# What the client receives

The parameter sets, the frames and the dummies of a session leave on one socket.
A receiver which knows nothing but RTP makes of them one NAL unit for each frame,
in the order in which they were sent, whatever dummies there are in between. The
unit is the frame's when it fits a packet, and lacks its last byte when it does
not.
-/

namespace Http2Rtsp.Server

open Http2Rtsp.Std Http2Rtsp.Message Http2Rtsp.Pacing Http2Rtsp.Semantics

/-- The frame of a video output. -/
def Output.video : Output → Option Rtp.Frame
  | .videoFrame _ frame _ => some frame
  | _ => none

/-- Every packet of the video is read, and the receiver makes of them what `send_video_frame`
delivers of each frame. -/
def Received (outputs : List Output) : Prop :=
  (∀ sent ∈ outputs.flatMap Output.videoPackets, ∃ packet, Rtp.readRtp sent.packet = some packet ∧
    packet.payloadType = Rtp.h264 ∧ packet.ssrc = Rtp.ssrc) ∧
  Rtp.receive (Rtp.readAll (outputs.flatMap Output.videoPackets)) =
    (outputs.filterMap Output.video).map fun frame => some frame.delivered

/-- The packets of an output have headers. -/
theorem videoPackets_headed (o : Output) : ∀ sent ∈ o.videoPackets, sent.Headed := by
  cases o with
  | videoFrame fd frame seqnum => exact Rtp.sendVideoFrame_headed frame seqnum
  | dummy fd seqnum =>
      intro sent member
      rw [List.mem_singleton.mp member]
      exact (Rtp.sendDummyRtp_headed seqnum).1
  | _ => exact fun sent member => absurd member List.not_mem_nil

/-- Outputs with frames which can be delivered are received. -/
theorem received_of_deliverable {outputs : List Output}
    (deliverable : ∀ frame ∈ outputs.filterMap Output.video, frame.Deliverable) :
    Received outputs := by
  constructor
  · intro sent member
    obtain ⟨o, -, inside⟩ := List.mem_flatMap.mp member
    obtain ⟨packet, read, typed, -⟩ := (videoPackets_headed o sent inside).reads
    exact ⟨packet, read, typed⟩
  · induction outputs with
    | nil => rfl
    | cons o rest ih =>
        rw [List.flatMap_cons, Rtp.readAll_append]
        cases o with
        | videoFrame fd frame seqnum =>
            obtain ⟨here, later⟩ := List.forall_mem_cons.mp deliverable
            exact (Rtp.receive_frame here seqnum _).trans
              (congrArg (List.cons (some frame.delivered)) (ih later))
        | dummy fd seqnum => exact (Rtp.receive_dummy seqnum _).trans (ih deliverable)
        | _ => exact ih deliverable

/-! ## The frames which are sent -/

/-- The parameter sets can be delivered. -/
def ParameterSets.Deliverable (sets : ParameterSets) : Prop :=
  ∀ ps ∈ [sets.sps, sets.pps], (1 ≤ ps.length ∧ ps.length ≤ bufSize - 12) ∧
    ps.headD 0 &&& 0x1f ≠ Rtp.fuA

/-- The parameter sets an input brings. -/
def Input.sets : Input → Option ParameterSets
  | .media io => io.opening.toOption
  | .rtsp io => io.opening.toOption
  | _ => none

/-- What an input brings can be delivered: the parameter sets of the file, and the video frame a
filler reads. -/
def Delivers (_past : List Output) (s : ServerState) (input : Input) : Prop :=
  (∀ sets, input.sets = some sets → sets.Deliverable) ∧
    ∀ time frame, pushedFrame s input = some (time, frame) → frame.frametype = .video →
      frame.Deliverable

instance (sets : ParameterSets) : Decidable sets.Deliverable :=
  inferInstanceAs (Decidable (∀ ps ∈ [sets.sps, sets.pps], _))

instance (past : List Output) (s : ServerState) (input : Input) : Decidable (Delivers past s input) :=
  decidable_of_iff ((∀ sets ∈ input.sets, sets.Deliverable) ∧
    ∀ item ∈ pushedFrame s input, item.2.frametype = .video → item.2.Deliverable)
    (and_congr Iff.rfl ⟨fun all time frame comes => all (time, frame) comes,
      fun all item comes => all item.1 item.2 comes⟩)

theorem createSpropFrame_deliverable {ps : List UInt8}
    (fits : 1 ≤ ps.length ∧ ps.length ≤ bufSize - 12) (single : ps.headD 0 &&& 0x1f ≠ Rtp.fuA)
    (ts : UInt32) : (createSpropFrame ps ts).Deliverable := by
  have buffer : bufSize = 64000 := rfl
  have size : (createSpropFrame ps ts).size = ps.length + 4 := rfl
  have nal : (createSpropFrame ps ts).data 4 = ps.headD 0 := by cases ps <;> rfl
  refine ⟨⟨by omega, by omega⟩, nal ▸ single, fun short => ?_⟩
  have large := short.1
  omega

/-- The video frames in the queue can be delivered. -/
def QueueDeliverable (s : ServerState) : Prop :=
  ∀ item ∈ framesOf s.queue, item.2.frametype = .video → item.2.Deliverable

theorem FrameEffect.queueDeliverable {s after : ServerState} {input : Input} {output : List Output}
    (effect : FrameEffect s input after output) (queued : QueueDeliverable s)
    (comes : ∀ time frame, pushedFrame s input = some (time, frame) → frame.frametype = .video →
      frame.Deliverable) : QueueDeliverable after := by
  intro item member video
  cases effect with
  | kept kept silent unplayed => exact queued item (kept.frames ▸ member) video
  | @pushed time frame pushed unplayed queue quiet =>
      rw [queue] at member
      rcases List.mem_append.mp ((framesOf_pushed_frame time frame s.queue).mem_iff.mpr member) with
        old | new
      · exact queued item old video
      · obtain rfl := List.mem_singleton.mp new
        exact comes time frame pushed video
  | played silent goes frames goesOn =>
      exact queued item (frames ▸ List.mem_cons_of_mem _ member) video
  | emptied queue ended =>
      rw [queue] at member
      cases member

/-- The video frames of an output have been taken off the queue, or are parameter sets. -/
def FromQueueOrFile (s : ServerState) (input : Input) (output : List Output) : Prop :=
  ∀ frame ∈ output.filterMap Output.video,
    (∃ time, playedFrame s input = some (time, frame)) ∨
      ∃ sets ps, input.sets = some sets ∧ ps ∈ [sets.sps, sets.pps] ∧ frame = createSpropFrame ps 0

theorem FromQueueOrFile.silent {s : ServerState} {input : Input} {output : List Output}
    (silent : output.filterMap Output.video = []) : FromQueueOrFile s input output := by
  intro frame member
  rw [silent] at member
  cases member

theorem haltOutput_video (reason : Halt) : (haltOutput reason).filterMap Output.video = [] := by
  cases reason <;> rfl

/-- A filler that is launched is preceded by the parameter sets of its file. -/
theorem launch_video (s : ServerState) (sets : ParameterSets) :
    (s.launch sets).2.filterMap Output.video =
      [createSpropFrame sets.sps 0, createSpropFrame sets.pps 0] := rfl

/-- So the outputs of a launch are from the file, whatever is put out around them. -/
theorem FromQueueOrFile.launched {s : ServerState} {input : Input} {output : List Output}
    {sets : ParameterSets} (brings : input.sets = some sets)
    (frames : output.filterMap Output.video =
      [createSpropFrame sets.sps 0, createSpropFrame sets.pps 0]) :
    FromQueueOrFile s input output := by
  intro frame member
  rw [frames, List.mem_cons, List.mem_singleton] at member
  rcases member with rfl | rfl
  · exact Or.inr ⟨sets, sets.sps, brings, by simp, rfl⟩
  · exact Or.inr ⟨sets, sets.pps, brings, by simp, rfl⟩

/-- The farewell has no video in it. -/
theorem farewell_video {sent : List Output} {last : Output}
    (farewell : ∀ output ∈ sent, ∃ text cliaddr, output = .byeSent text cliaddr)
    (quiet : last.video = none) : (sent ++ [last]).filterMap Output.video = [] := by
  refine List.filterMap_eq_nil_iff.mpr fun o member => ?_
  rcases List.mem_append.mp member with bye | final
  · obtain ⟨text, cliaddr, rfl⟩ := farewell o bye
    rfl
  · rw [List.mem_singleton.mp final]
    exact quiet

theorem TimeoutEffect.video {s after : ServerState} {now : Clock} {wake : Nat}
    {output : List Output} (effect : TimeoutEffect s wake after output) :
    FromQueueOrFile s (.timeout now wake) output := by
  cases effect with
  | locked taken => exact .silent rfl
  | idle free empty => exact .silent rfl
  | failed free queued last farewell => exact .silent (farewell_video farewell rfl)
  | @handled event rest after output free queued effect =>
      have played : playedFrame s (.timeout now wake) = eventFrame event := by
        rw [playedFrame, if_pos free, queued]
        rfl
      cases effect with
      | ended last farewell => exact .silent (farewell_video farewell rfl)
      | @video frame seqnum media =>
          intro other member
          obtain rfl := List.mem_singleton.mp member
          exact Or.inl ⟨event.time, played.trans (by rw [eventFrame, media])⟩
      | audio media frames =>
          refine .silent (List.filterMap_eq_nil_iff.mpr fun o member => ?_)
          obtain ⟨fd, seq, rfl⟩ := frames o member
          rfl
      | dummy check waiting => exact .silent rfl
      | ready check streaming => exact .silent rfl

theorem MediaEffect.video {s after : ServerState} {i : Int} {io : MediaIo} {output : List Output}
    (effect : MediaEffect s i io after output) (before : ServerState) :
    FromQueueOrFile before (.media io) output := by
  cases effect with
  | failed reason reads => exact .silent (haltOutput_video reason)
  | completed recvtcp opened last effect =>
      cases effect with
      | exited unopened => exact .silent rfl
      | failed unopened => exact .silent rfl
      | @locked sets opened taken =>
          exact .launched (by rw [Input.sets, opened]; rfl) (launch_video _ sets)
      | @launched sets opened free =>
          refine .launched (by rw [Input.sets, opened]; rfl) ?_
          rw [List.filterMap_append, launch_video]
          rfl
  | _ => exact .silent rfl

theorem ReceiveEffect.video {s after : ServerState} {i : Int} {received : List UInt8}
    {output : List Output} (effect : ReceiveEffect s i received after output) :
    output.filterMap Output.video = [] := by
  cases effect with
  | closed opened empty => rfl
  | message opened nonempty terminated parsed => rfl

theorem RtspEffect.video {variant : Variant} {s after : ServerState} {i : Int} {io : RtspIo}
    {output : List Output} (effect : RtspEffect variant s i io after output)
    (before : ServerState) : FromQueueOrFile before (.rtsp io) output := by
  cases effect with
  | failed reason unread => exact .silent (haltOutput_video reason)
  | teardown receive type effect =>
      refine .silent ?_
      rw [List.filterMap_append, receive.video]
      cases effect with
      | locked taken => rfl
      | dangling free dead => rfl
      | done free armed => rfl
  | switched receive type effect =>
      cases effect with
      | failed reason output handled before =>
          refine .silent ?_
          rw [List.filterMap_append, receive.video, List.filterMap_append, haltOutput_video]
          rcases before with ⟨-, rfl⟩ | ⟨-, rfl, -⟩
          · rfl
          · rfl
      | @launched sets state type downloaded opened =>
          refine .launched (by rw [Input.sets, opened]; rfl) ?_
          simp only [List.filterMap_append, receive.video, launch_video]
          rfl
      | _ =>
          refine .silent ?_
          rw [List.filterMap_append, receive.video]
          rfl

/-- Where the video frames of a step come from. -/
theorem step_video {variant : Variant} {url : List UInt8} {s after : ServerState} {input : Input}
    {output : List Output} (taken : step variant url s input = .ok (after, output)) :
    FromQueueOrFile s input output := by
  cases step_cases taken with
  | timeout pc set effect => exact effect.video
  | accept pc branch possible effect =>
      cases effect with
      | halted reason => exact .silent (haltOutput_video reason)
      | rejected busy => exact .silent rfl
      | accepted accepted free => exact .silent rfl
  | datagram pc branch effect =>
      cases effect with
      | only halts answers =>
          refine .silent (List.filterMap_eq_nil_iff.mpr fun o member => ?_)
          rcases answers o member with ⟨text, size, cliaddr, rfl⟩ | ⟨reason, rfl⟩
          · rfl
          · rfl
  | media pc branch possible effect => exact effect.video s
  | rtsp pc branch possible effect => exact effect.video s
  | _ => exact .silent rfl

/-- A frame which is sent as a video frame is one. -/
theorem video_of_sent {variant : Variant} {s : ServerState} {frame other : Rtp.Frame}
    (sent : other ∈ (s.sentFrame variant frame).filterMap Output.video) : frame.frametype = .video := by
  unfold ServerState.sentFrame at sent
  cases kind : frame.frametype with
  | video => rfl
  | audio =>
      rw [kind] at sent
      obtain ⟨o, member, isVideo⟩ := List.mem_filterMap.mp sent
      obtain ⟨fd, seq, rfl⟩ := mem_sendAudio member
      cases isVideo

/-- What is taken off the queue was in it. -/
theorem playedFrame_queued {s : ServerState} {input : Input} {item : Timeval × Rtp.Frame}
    (played : playedFrame s input = some item) : item ∈ framesOf s.queue := by
  cases input with
  | timeout now wake =>
      obtain ⟨-, head⟩ := Option.ite_none_right_eq_some.mp played
      obtain ⟨event, first, isFrame⟩ := Option.bind_eq_some_iff.mp head
      exact List.mem_filterMap.mpr ⟨event, List.mem_of_head? first, isFrame⟩
  | _ => cases played

/-! ## Runs -/

/-- The frames in the queue and those which have been sent can be delivered. -/
def AllDeliverable (past : List Output) (s : ServerState) : Prop :=
  QueueDeliverable s ∧ ∀ frame ∈ past.filterMap Output.video, frame.Deliverable

theorem allDeliverable_kept {variant : Variant} {url : List UInt8} {past : List Output}
    {s after : ServerState} {input : Input} {output : List Output} (all : AllDeliverable past s)
    (delivers : Delivers past s input) (taken : step variant url s input = .ok (after, output)) :
    AllDeliverable (past ++ output) after := by
  obtain ⟨queued, sent⟩ := all
  refine ⟨(step_frames taken).queueDeliverable queued delivers.2, ?_⟩
  rw [List.filterMap_append, List.forall_mem_append]
  refine ⟨sent, fun frame member => ?_⟩
  rcases step_video taken frame member with ⟨time, played⟩ | ⟨sets, ps, brings, among, rfl⟩
  · have video : frame.frametype = .video := by
      rw [playedFrame_sent taken played] at member
      exact video_of_sent member
    exact queued (time, frame) (playedFrame_queued played) video
  · obtain ⟨fits, single⟩ := delivers.1 sets brings ps among
    exact createSpropFrame_deliverable fits single 0

/-- The smallest video frame which has to be fragmented. -/
def largeVideo : Rtp.Frame := ⟨fun _ => 0x65, bufSize - 7, 0, .video⟩

/-- A dummy is sent, the parameter sets, a frame in two fragments, and a frame in one packet. -/
def dummyThenFrames : List Input :=
  connect 6 ++ describe 6 7 someResponse ++ play 6 ++ [.timeout someTime 0] ++
    media 7 someResponse someHeader ++ media 7 [] [7] ++ [.filler 0 .wait, .filler 0 .spurious,
      .filler 0 (.resume someTime (some largeVideo) ⟨0, 0⟩), .filler 0 .test,
      .filler 0 (.push (some (someVideo 90)) ⟨0, 0⟩), .timeout someTime 0, .timeout someTime 0]

end Http2Rtsp.Server
