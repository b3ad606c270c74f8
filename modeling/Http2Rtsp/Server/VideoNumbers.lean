import Mathlib.Data.List.DropRight
import Http2Rtsp.Rtp.Numbering
import Http2Rtsp.Server.Queueing

/-!
# The numbers of the video packets

The main thread advances `rtpseqno_video` in three ways: `send_dummy_rtp`
increments it through a pointer, the two parameter sets take one number each,
and a frame takes as many as `send_video_frame` says it has sent. In a session
all three agree with the numbers in the packets.
-/

namespace Http2Rtsp.Server

open Http2Rtsp.Std Http2Rtsp.Message Http2Rtsp.Pacing Http2Rtsp.Semantics

/-! ## Sessions -/

/-- A processed TEARDOWN ends a session. -/
def Output.endsSession : Output → Bool
  | .acted _ .teardown => true
  | _ => false

/-- What was put out in the session: since the last TEARDOWN. -/
def sinceTeardown (outputs : List Output) : List Output :=
  outputs.rtakeWhile fun o => !o.endsSession

/-- The session goes on. -/
theorem sinceTeardown_append {past output : List Output}
    (goesOn : ∀ o ∈ output, o.endsSession = false) :
    sinceTeardown (past ++ output) = sinceTeardown past ++ output := by
  induction output using List.reverseRecOn with
  | nil => simp
  | append_singleton prior o ih =>
      have earlier := ih fun o member => goesOn o (List.mem_append_left _ member)
      have here := goesOn o (List.mem_append_right _ (List.mem_singleton_self o))
      rw [← List.append_assoc, ← List.append_assoc, ← earlier]
      exact List.rtakeWhile_concat_pos _ _ _ (by simp [here])

/-- A new session begins. -/
theorem sinceTeardown_ended {past rest : List Output} {i : Int}
    (quiet : ∀ o ∈ rest, o.endsSession = false) :
    sinceTeardown (past ++ .acted i .teardown :: rest) = rest := by
  have before : sinceTeardown (past ++ [.acted i .teardown]) = [] :=
    List.rtakeWhile_concat_neg _ _ _ (by simp [Output.endsSession])
  rw [← List.singleton_append, ← List.append_assoc, sinceTeardown_append quiet, before,
    List.nil_append]

/-! ## Packets -/

/-- The packets given to `send_all` for the video. -/
def Output.videoPackets : Output → List Rtp.Sent
  | .videoFrame _ frame seqnum => (Rtp.sendVideoFrame frame seqnum).1
  | .dummy _ seqnum => [(Rtp.sendDummyRtp seqnum).1]
  | _ => []

/-- The sequence numbers of the video packets, in the order in which they are sent. -/
def videoNumbers (outputs : List Output) : List UInt16 :=
  (outputs.flatMap Output.videoPackets).map Rtp.Sent.seqnum

@[simp] theorem videoNumbers_nil : videoNumbers [] = [] := rfl

@[simp] theorem videoNumbers_append (first second : List Output) :
    videoNumbers (first ++ second) = videoNumbers first ++ videoNumbers second := by
  simp [videoNumbers]

@[simp] theorem videoNumbers_cons (o : Output) (rest : List Output) :
    videoNumbers (o :: rest) = o.videoPackets.map Rtp.Sent.seqnum ++ videoNumbers rest := by
  simp [videoNumbers]

/-- Both parameter sets fit a packet. -/
def ParameterSets.Fit (sets : ParameterSets) : Prop :=
  ∀ ps ∈ [sets.sps, sets.pps], 1 ≤ ps.length ∧ ps.length ≤ bufSize - 12

instance (sets : ParameterSets) : Decidable sets.Fit :=
  inferInstanceAs (Decidable (∀ ps ∈ [sets.sps, sets.pps], _))

/-- Whatever parameter sets the media file has, they fit. -/
def OpeningFits (opening : Except OpeningFailure ParameterSets) : Prop :=
  ∀ sets, opening = .ok sets → sets.Fit

instance : (opening : Except OpeningFailure ParameterSets) → Decidable (OpeningFits opening)
  | .error _ => .isTrue fun _ opened => by cases opened
  | .ok sets => decidable_of_iff sets.Fit
      ⟨fun fit _ opened => Except.ok.inj opened ▸ fit, fun fits => fits sets rfl⟩

/-- The parameter sets which an input brings fit. -/
def SetsFit : Input → Prop
  | .media io => OpeningFits io.opening
  | .rtsp io => OpeningFits io.opening
  | _ => True

instance : (input : Input) → Decidable (SetsFit input)
  | .media io => inferInstanceAs (Decidable (OpeningFits io.opening))
  | .rtsp io => inferInstanceAs (Decidable (OpeningFits io.opening))
  | .timeout .. | .interrupted | .ready _ | .accept _ | .datagram _ | .rearm _ | .filler .. =>
      .isTrue trivial

/-- A dummy carries the number before the increment. -/
theorem counts_sendDummyRtp (seqnum : UInt16) :
    Counts seqnum [(Rtp.sendDummyRtp seqnum).1.seqnum] (Rtp.sendDummyRtp seqnum).2 := by
  have filled : (Rtp.sendDummyRtp seqnum).1.buf =
      Rtp.fill (Rtp.rtpHeader Rtp.unmarkedSecondByteH264 seqnum 0 ++ []) := by
    rw [List.append_nil]
    rfl
  rw [Rtp.seqnum_of_header filled (Int.le_refl 12)]
  exact Counts.one seqnum

/-- A parameter set which fits is one packet. -/
theorem counts_createSpropFrame {ps : List UInt8} (fits : 1 ≤ ps.length ∧ ps.length ≤ bufSize - 12)
    (ts : UInt32) (seqnum : UInt16) :
    Counts seqnum ((Rtp.sendVideoFrame (createSpropFrame ps ts) seqnum).1.map Rtp.Sent.seqnum)
      (seqnum + 1) := by
  have buffer : bufSize = 64000 := rfl
  have size : (createSpropFrame ps ts).size = ps.length + 4 := rfl
  have sendable : (createSpropFrame ps ts).Sendable := by
    constructor <;> omega
  obtain ⟨counts, sent⟩ := Rtp.sendVideoFrame_counts (createSpropFrame ps ts) seqnum
  have one : (Rtp.sendVideoFrame (createSpropFrame ps ts) seqnum).1.length = 1 := by
    rw [Rtp.length_sendVideoFrame sendable, Rtp.packetCount, if_pos (by omega)]
  rw [sent, one] at counts
  exact counts

/-! ## Steps -/

/-- Within a session, `rtpseqno_video` is advanced over the numbers of the packets which are sent. -/
structure Counted (s after : ServerState) (output : List Output) : Prop where
  goesOn : ∀ o ∈ output, o.endsSession = false
  counts : Counts s.rtpseqnoVideo (videoNumbers output) after.rtpseqnoVideo

/-- Nothing is sent, and the number stays. -/
theorem Counted.silent {s after : ServerState} {output : List Output}
    (same : after.rtpseqnoVideo = s.rtpseqnoVideo)
    (silent : ∀ o ∈ output, o.endsSession = false ∧ o.videoPackets = []) :
    Counted s after output := by
  refine ⟨fun o member => (silent o member).1, ?_⟩
  have none : videoNumbers output = [] := by
    rw [videoNumbers, List.flatMap_eq_nil_iff.mpr fun o member => (silent o member).2, List.map_nil]
  rw [none, same]
  exact .done

theorem Counted.nothing {s after : ServerState} (same : after.rtpseqnoVideo = s.rtpseqnoVideo) :
    Counted s after [] :=
  .silent same fun _ member => absurd member List.not_mem_nil

/-- One output. -/
theorem Counted.sent {s after : ServerState} {o : Output} (goesOn : o.endsSession = false)
    (counts : Counts s.rtpseqnoVideo (o.videoPackets.map Rtp.Sent.seqnum) after.rtpseqnoVideo) :
    Counted s after [o] := by
  refine ⟨by simp [goesOn], ?_⟩
  rw [videoNumbers_cons, videoNumbers_nil, List.append_nil]
  exact counts

/-- Only the number before the step matters. -/
theorem Counted.starting {s prior after : ServerState} {output : List Output}
    (counted : Counted prior after output) (same : prior.rtpseqnoVideo = s.rtpseqnoVideo) :
    Counted s after output :=
  ⟨counted.goesOn, same ▸ counted.counts⟩

/-- One part of a step after the other. -/
theorem Counted.trans {s middle after : ServerState} {prior output : List Output}
    (first : Counted s middle prior) (second : Counted middle after output) :
    Counted s after (prior ++ output) := by
  refine ⟨fun o member => ?_, ?_⟩
  · rcases List.mem_append.mp member with earlier | later
    · exact first.goesOn o earlier
    · exact second.goesOn o later
  · rw [videoNumbers_append]
    exact first.counts.append second.counts

theorem Counted.andThen {s : ServerState} {outcome : Outcome}
    (first : Counted s outcome.1 outcome.2) (next : ServerState → Outcome)
    (second : ∀ s, Counted s (next s).1 (next s).2) :
    Counted s (outcome.andThen next).1 (outcome.andThen next).2 := by
  unfold Outcome.andThen
  split
  · exact first
  · exact first.trans (second outcome.1)

theorem haltOutput_counted {s after : ServerState} {reason : Halt}
    (same : after.rtpseqnoVideo = s.rtpseqnoVideo) : Counted s after (haltOutput reason) := by
  refine .silent same fun o member => ?_
  obtain ⟨reason, rfl⟩ := mem_haltOutput member
  exact ⟨rfl, rfl⟩

theorem halt_counted (s : ServerState) (reason : Halt) :
    Counted s (s.halt reason).1 (s.halt reason).2 := by
  rw [halt_eq]
  exact haltOutput_counted rfl

/-- A dequeued event. -/
theorem handleEvent_counted (variant : Variant) (s : ServerState) (event : TimeoutEvent)
    (now : Clock) :
    Counted s (s.handleEvent variant event now).1 (s.handleEvent variant event now).2 := by
  unfold ServerState.handleEvent
  split
  · cases variant with
    | server => exact .silent rfl (by simp [Output.endsSession, Output.videoPackets])
    | mt =>
        have said : Counted s s (byes s.sip.acknowledged).1 := by
          refine .silent rfl fun o member => ?_
          obtain ⟨text, cliaddr, rfl⟩ := mem_byes member
          exact ⟨rfl, rfl⟩
        refine @Counted.andThen s (s, (byes s.sip.acknowledged).1) said _ fun s => ?_
        split
        · exact halt_counted _ _
        · exact .sent rfl .done
  · rename_i frame _
    dsimp only
    split
    · exact .sent rfl (Rtp.sendVideoFrame_counts frame s.rtpseqnoVideo).1
    · refine .silent rfl fun o member => ?_
      obtain ⟨fd, seq, rfl⟩ := mem_sendAudio member
      exact ⟨rfl, rfl⟩
  · split
    · exact .nothing rfl
    · exact .sent rfl (counts_sendDummyRtp s.rtpseqnoVideo)

/-- A timeout. -/
theorem handleTimeout_counted (variant : Variant) (s : ServerState) (now : Clock) (wake : Nat) :
    Counted s (s.handleTimeout variant now wake).1 (s.handleTimeout variant now wake).2 := by
  unfold ServerState.handleTimeout ServerState.locked
  split
  · dsimp only
    split
    · exact .nothing rfl
    · rename_i event rest _
      have handled := handleEvent_counted variant { s with timeind := none, queue := rest } event now
      have finished : ∀ s : ServerState, Counted s (s.finishTimeout event wake) [] :=
        fun s => .nothing rfl
      exact (handled.andThen (fun s => (s.finishTimeout event wake, [])) finished).starting rfl
  · exact (halt_counted { s with timeind := none } _).starting rfl

/-- The parameter sets of a new filler. -/
theorem launch_counted {s : ServerState} {sets : ParameterSets} (fit : sets.Fit) :
    Counted s (s.launch sets).1 (s.launch sets).2 := by
  have sps := counts_createSpropFrame (fit sets.sps (by simp)) 0 s.rtpseqnoVideo
  have pps := counts_createSpropFrame (fit sets.pps (by simp)) 0 (s.rtpseqnoVideo + 1)
  have both := sps.append pps
  rw [UInt16.add_assoc] at both
  refine ⟨by simp [ServerState.launch, Output.endsSession], ?_⟩
  simp only [ServerState.launch, videoNumbers_cons, videoNumbers_nil, List.append_nil]
  exact both

/-- The end of a download. -/
theorem CompleteEffect.counted {s after : ServerState} {io : MediaIo} {output : List Output}
    (effect : CompleteEffect s io after output) (fits : OpeningFits io.opening) :
    Counted s after output := by
  cases effect with
  | exited unopened => exact .nothing rfl
  | failed unopened => exact .silent rfl (by simp [Output.endsSession, Output.videoPackets])
  | @locked sets opened taken =>
      have launched := @launch_counted s.closeDownload sets (fits sets opened)
      exact ⟨launched.goesOn, launched.counts⟩
  | @launched sets opened free =>
      have launched := @launch_counted s.closeDownload sets (fits sets opened)
      have armed : Counted (s.closeDownload.launch sets).1
          { (s.closeDownload.launch sets).1.pushTimeout io.now 1000 .checkMediaState with
            download := { s.closeDownload.download with mediastate := .stream } } [.armed] :=
        .sent rfl .done
      exact (launched.trans armed).starting rfl

theorem MediaEffect.counted {s after : ServerState} {i : Int} {io : MediaIo} {output : List Output}
    (effect : MediaEffect s i io after output) (fits : OpeningFits io.opening) :
    Counted s after output := by
  cases effect with
  | ignored other => exact .nothing rfl
  | failed reason reads => exact haltOutput_counted rfl
  | header getsent opened found parsed => exact .nothing rfl
  | stored recvtcp opened more =>
      obtain ⟨kernel, masterfds, stored⟩ := storeMedia_eq s i io
      exact .nothing (by rw [stored])
  | completed recvtcp opened last effect =>
      obtain ⟨kernel, masterfds, stored⟩ := storeMedia_eq s i io
      exact (effect.counted fits).starting (by rw [stored])

theorem ReceiveEffect.counted {s after : ServerState} {i : Int} {received : List UInt8}
    {output : List Output} (effect : ReceiveEffect s i received after output) :
    Counted s after output := by
  cases effect with
  | closed opened empty => exact .sent rfl .done
  | message opened nonempty terminated parsed => exact .nothing rfl

theorem SwitchEffect.counted {variant : Variant} {s after : ServerState} {i : Int} {io : RtspIo}
    {output : List Output} (effect : SwitchEffect variant s i io after output)
    (fits : OpeningFits io.opening) : Counted s after output := by
  cases effect with
  | ignored other => exact .nothing rfl
  | failed reason output handled before =>
      have acted : Counted s s output := by
        rcases before with ⟨-, rfl⟩ | ⟨-, rfl, -⟩
        · exact .nothing rfl
        · exact .silent rfl (by simp [Output.endsSession, Output.videoPackets])
      exact acted.trans (haltOutput_counted rfl)
  | @setup rtp rtcp session text state type sockets =>
      obtain ⟨kernel, opened⟩ := openUdp_eq s rtp rtcp
      exact .silent (by rw [opened]) (by simp [Output.endsSession, Output.videoPackets])
  | launched state type downloaded opened =>
      have acted : Counted s s [.acted i .play, .reply i (rtspPlay s.rtspmsg io.date)] :=
        .silent rfl (by simp [Output.endsSession, Output.videoPackets])
      exact (acted.trans (launch_counted (fits _ opened))).trans (.sent rfl .done)
  | _ => exact .silent rfl (by simp [Output.endsSession, Output.videoPackets])

/-- What a step does to the numbers: it counts on, or it ends the session. -/
inductive NumberEffect (s after : ServerState) (output : List Output) : Prop where
  | counted (counted : Counted s after output)
  | ended {prior rest i} (ended : output = prior ++ .acted i .teardown :: rest)
      (silent : ∀ o ∈ rest, o.endsSession = false ∧ o.videoPackets = [])

theorem RtspEffect.numbers {variant : Variant} {s after : ServerState} {i : Int} {io : RtspIo}
    {output : List Output} (effect : RtspEffect variant s i io after output)
    (fits : OpeningFits io.opening) : NumberEffect s after output := by
  cases effect with
  | failed reason unread => exact .counted (haltOutput_counted rfl)
  | teardown receive type effect =>
      cases effect with
      | locked taken => exact .counted (receive.counted.trans (.nothing rfl))
      | dangling free dead => exact .counted (receive.counted.trans (.sent rfl .done))
      | done free armed =>
          exact .ended rfl (by simp [Output.endsSession, Output.videoPackets])
  | switched receive type effect => exact .counted (receive.counted.trans (effect.counted fits))

/-- The main thread counts in every step. -/
theorem step_numbers {variant : Variant} {url : List UInt8} {s after : ServerState} {input : Input}
    {output : List Output} (taken : step variant url s input = .ok (after, output))
    (fits : SetsFit input) : NumberEffect s after output := by
  cases step_cases taken with
  | @timeout now wake _ _ pc set effect =>
      have handled : s.handleTimeout variant now wake = (after, output) := by
        rw [step, if_pos ⟨pc, set⟩] at taken
        exact Except.ok.inj taken
      have counted := handleTimeout_counted variant s now wake
      rw [handled] at counted
      exact .counted counted
  | interrupted pc => exact .counted (.nothing rfl)
  | ready pc members => exact .counted (.nothing rfl)
  | accept pc branch possible effect =>
      cases effect with
      | halted reason => exact .counted (haltOutput_counted rfl)
      | rejected busy => exact .counted (.sent rfl .done)
      | accepted accepted free => exact .counted (.sent rfl .done)
  | datagram pc branch effect =>
      cases effect with
      | only halts answers =>
          refine .counted (.silent rfl fun o member => ?_)
          rcases answers o member with ⟨text, size, cliaddr, rfl⟩ | ⟨reason, rfl⟩
          · exact ⟨rfl, rfl⟩
          · exact ⟨rfl, rfl⟩
  | media pc branch possible effect => exact .counted ((effect.counted fits).starting rfl)
  | rtsp pc branch possible effect =>
      cases effect.numbers fits with
      | counted counted => exact .counted (counted.starting rfl)
      | ended ended silent => exact .ended ended silent
  | rearmed pc free =>
      rw [ServerState.rearm, locked_free free]
      exact .counted (.nothing rfl)
  | rearmLocked pc taken => exact .counted (.nothing rfl)
  | filler effect =>
      obtain ⟨queue, lock, fillers, rfl, -⟩ := effect.only
      exact .counted (.nothing rfl)

/-! ## Runs -/

/-- The numbers of the session lead up to the one which the main thread goes on with. -/
def NumbersAgree (past : List Output) (s : ServerState) : Prop :=
  ∃ first, Counts first (videoNumbers (sinceTeardown past)) s.rtpseqnoVideo

theorem numbersAgree_kept {past output : List Output} {s after : ServerState}
    (agree : NumbersAgree past s) (effect : NumberEffect s after output) :
    NumbersAgree (past ++ output) after := by
  cases effect with
  | counted counted =>
      obtain ⟨first, counts⟩ := agree
      refine ⟨first, ?_⟩
      rw [sinceTeardown_append counted.goesOn, videoNumbers_append]
      exact counts.append counted.counts
  | @ended prior rest i ended silent =>
      refine ⟨after.rtpseqnoVideo, ?_⟩
      have none : Counted after after rest := .silent rfl silent
      rw [ended, ← List.append_assoc, sinceTeardown_ended fun o member => (silent o member).1]
      exact none.counts

/-- The packets of a session. -/
def ConsecutiveVideo (past : List Output) (_ : ServerState) : Prop :=
  Consecutive (videoNumbers (sinceTeardown past))

/-- The video packets of every session are numbered consecutively, and `send_video_frame` returns
the number of packets it has sent. -/
theorem videoNumbers_consecutive {variant : Variant} {url : List UInt8}
    {trace : List (Entry ServerState Input Output)} {state : ServerState}
    (run : (machine variant url).Runs trace state)
    (fit : Machine.Throughout (fun _ _ input => SetsFit input) trace) :
    Machine.Always ConsecutiveVideo trace state ∧
      ∀ (frame : Rtp.Frame) (seqnum : UInt16), frame.Sendable →
        (Rtp.sendVideoFrame frame seqnum).2 = (Rtp.sendVideoFrame frame seqnum).1.length ∧
          (Rtp.sendVideoFrame frame seqnum).2 = Rtp.packetCount (frame.size - 4) := by
  refine ⟨?_, fun frame seqnum sendable => ?_⟩
  · have agree : Machine.Always NumbersAgree trace state := by
      refine run.always_under fit (fun start _ => ⟨start.rtpseqnoVideo, .done⟩) ?_
      intro past before input after output agree fits taken
      exact numbersAgree_kept agree (step_numbers taken fits)
    exact agree.imp fun past s ⟨first, counts⟩ => counts.consecutive
  · have sent := (Rtp.sendVideoFrame_counts frame seqnum).2
    exact ⟨sent, by rw [sent, Rtp.length_sendVideoFrame sendable]⟩

/-- A dummy is sent before the media is there, then a download ends with its parameter sets. -/
def dummyThenSets : List Input :=
  connect 6 ++ describe 6 7 someResponse ++ play 6 ++ [.timeout someTime 0] ++
    media 7 someResponse someHeader ++ media 7 [] [7]

/-- The three packets of this script are numbered consecutively. -/
theorem videoNumbers_consecutive_dummyThenSets : ∃ result,
    (machine .server someUrl).exec [] (startState .server) dummyThenSets = .ok result ∧
      result.2.rtpseqnoVideo = 3 ∧ Machine.Always ConsecutiveVideo result.1 result.2 := by
  have computed : ∃ result,
      (machine .server someUrl).exec [] (startState .server) dummyThenSets = .ok result ∧
        result.2.rtpseqnoVideo = 3 ∧
        Machine.MeetsAll (fun _ _ input => SetsFit input) [] result.1 :=
    ⟨_, rfl, rfl, of_decide_eq_true rfl⟩
  obtain ⟨result, computed, counted, fit⟩ := computed
  have run := Machine.Runs.of_exec (startState_initial .server someUrl) computed
  exact ⟨result, computed, counted,
    (videoNumbers_consecutive run (Machine.throughout_of_meetsAll fit)).1⟩

end Http2Rtsp.Server
