import Http2Rtsp.Server.Step

/-!
# What a step can do

The handlers taken apart once: for each of them the outcomes it has, with the
state it leaves and the conditions under which it does. Invariants and conditions
on runs are derived from these cases, never from the handlers' text.
-/

namespace Http2Rtsp.Server

open Http2Rtsp.Std Http2Rtsp.Message Http2Rtsp.Pacing

/-- The main thread has not halted. -/
def ServerState.Running (s : ServerState) : Prop := ∀ reason, s.pc ≠ .halted reason

/-- What is put out when the main thread halts. -/
def haltOutput : Halt → List Output
  | .undefined reason => [.undefined reason]
  | _ => []

theorem halt_eq (s : ServerState) (reason : Halt) :
    s.halt reason = ({ s with pc := .halted reason }, haltOutput reason) := by
  cases reason <;> rfl

theorem mem_haltOutput {reason : Halt} {output : Output} (member : output ∈ haltOutput reason) :
    ∃ reason, output = .undefined reason := by
  cases reason with
  | undefined reason => exact ⟨reason, List.mem_singleton.mp member⟩
  | exited => cases member
  | deadlock => cases member

theorem andThen_running {outcome : Outcome} {next : ServerState → Outcome}
    (running : outcome.1.Running) :
    outcome.andThen next = ((next outcome.1).1, outcome.2 ++ (next outcome.1).2) := by
  unfold Outcome.andThen
  split
  · rename_i halted
    exact absurd halted (running _)
  · rfl

theorem andThen_halted {outcome : Outcome} {next : ServerState → Outcome} {reason : Halt}
    (halted : outcome.1.pc = .halted reason) : outcome.andThen next = outcome := by
  simp only [Outcome.andThen, halted]

theorem andThen_halt (s : ServerState) (reason : Halt) (next : ServerState → Outcome) :
    (s.halt reason).andThen next = s.halt reason := by
  simp [Outcome.andThen, ServerState.halt]

theorem locked_free {s : ServerState} {section_ : ServerState → Outcome} (free : s.lock = none) :
    s.locked section_ = section_ s := if_pos free

theorem locked_taken {s : ServerState} {section_ : ServerState → Outcome} (taken : s.lock ≠ none) :
    s.locked section_ = s.halt .deadlock := if_neg taken

/-- The filler is created before the parameter sets are read. -/
theorem startFiller_fails {s : ServerState} (running : s.Running) :
    s.startFiller (.error .fails) =
      ({ s.createFiller with pc := .halted (.undefined s.staleSets) },
        [.launched s.fillers.length, .undefined s.staleSets]) := by
  have created : s.createFiller.Running := running
  rw [ServerState.startFiller, @andThen_running (s.createFiller, _) _ created, halt_eq]
  rfl

/-! ## Timeouts -/

/-- Only audio frames are sent when an audio frame is. -/
theorem mem_sendAudio {frame : Rtp.Frame} {seqnum : UInt16} {fds : List Int} {output : Output}
    (member : output ∈ (sendAudio frame seqnum fds).2) :
    ∃ fd seq, output = .audioFrame fd frame seq := by
  induction fds generalizing seqnum with
  | nil => cases member
  | cons fd rest ih =>
      rcases List.mem_cons.mp member with rfl | later
      · exact ⟨_, _, rfl⟩
      · exact ih later

/-- Only BYEs are sent to the SIP clients at the end of the stream. -/
theorem mem_byes {clients : List SIPClient} {output : Output} (member : output ∈ (byes clients).1) :
    ∃ text cliaddr, output = .byeSent text cliaddr := by
  induction clients with
  | nil => cases member
  | cons client rest ih =>
      rw [byes] at member
      split at member
      · cases member
      · rcases List.mem_cons.mp member with rfl | later
        · exact ⟨_, _, rfl⟩
        · exact ih later

/-- The outcomes of a dequeued event, apart from a failure to write a BYE. -/
inductive EventEffect (s : ServerState) (event : TimeoutEvent) : ServerState → List Output → Prop where
  | ended {sent} (last : event.type = .endOfStream)
      (farewell : ∀ output ∈ sent, ∃ text cliaddr, output = .byeSent text cliaddr) :
      EventEffect s event s (sent ++ [.endOfStream])
  | video {frame seqnum} (media : event.type = .frame frame) :
      EventEffect s event { s with rtpseqnoVideo := seqnum }
        [.videoFrame s.streamclient.videofds.1 frame s.rtpseqnoVideo]
  | audio {frame seqnum sent} (media : event.type = .frame frame)
      (frames : ∀ output ∈ sent, ∃ fd seq, output = .audioFrame fd frame seq) :
      EventEffect s event { s with rtpseqnoAudio := seqnum } sent
  | dummy {now seqnum} (check : event.type = .checkMediaState)
      (waiting : s.download.mediastate ≠ .stream) :
      EventEffect s event { s.pushTimeout now 1000 .checkMediaState with rtpseqnoVideo := seqnum }
        [.dummy s.streamclient.videofds.1 s.rtpseqnoVideo]
  | ready (check : event.type = .checkMediaState) (streaming : s.download.mediastate = .stream) :
      EventEffect s event s []

theorem EventEffect.pc {s after : ServerState} {event : TimeoutEvent} {output : List Output}
    (effect : EventEffect s event after output) : after.pc = s.pc := by
  cases effect <;> rfl

/-- At the end of the stream the main thread changes nothing, apart from where it is. -/
theorem handleEvent_ended (variant : Variant) (s : ServerState) {event : TimeoutEvent} (now : Clock)
    (last : event.type = .endOfStream) :
    ∃ pc, (s.handleEvent variant event now).1 = { s with pc := pc } := by
  simp only [ServerState.handleEvent, last]
  cases variant with
  | server => exact ⟨_, rfl⟩
  | mt =>
      simp only [Outcome.andThen]
      split
      · exact ⟨_, rfl⟩
      · split
        · exact ⟨_, rfl⟩
        · exact ⟨_, rfl⟩

theorem handleEvent_cases (variant : Variant) {s : ServerState} (event : TimeoutEvent) (now : Clock)
    (running : s.Running) :
    (event.type = .endOfStream ∧ ∃ reason sent,
        (∀ output ∈ sent, ∃ text cliaddr, output = .byeSent text cliaddr) ∧
        s.handleEvent variant event now =
          ({ s with pc := .halted (.undefined reason) }, sent ++ [.undefined reason])) ∨
      EventEffect s event (s.handleEvent variant event now).1
        (s.handleEvent variant event now).2 := by
  unfold ServerState.handleEvent
  cases type : event.type with
  | endOfStream =>
      cases variant with
      | server =>
          have none : ∀ output ∈ ([] : List Output), ∃ text cliaddr, output = .byeSent text cliaddr :=
            fun _ member => absurd member List.not_mem_nil
          exact Or.inr (.ended type none)
      | mt =>
          have farewell : ∀ output ∈ (byes s.sip.acknowledged).1, ∃ text cliaddr,
              output = .byeSent text cliaddr := fun output member => mem_byes member
          simp only [@andThen_running (s, (byes s.sip.acknowledged).1) _ running]
          cases (byes s.sip.acknowledged).2 with
          | some reason => exact Or.inl ⟨trivial, reason, _, farewell, rfl⟩
          | none => exact Or.inr (.ended type farewell)
  | frame frame =>
      cases kind : frame.frametype with
      | video =>
          simp only [kind]
          exact Or.inr (.video type)
      | audio =>
          simp only [kind]
          exact Or.inr (.audio type fun output member => mem_sendAudio member)
  | checkMediaState =>
      by_cases streaming : s.download.mediastate = .stream
      · simp only [if_pos streaming]
        exact Or.inr (.ready type streaming)
      · simp only [if_neg streaming]
        exact Or.inr (.dummy type streaming)

/-- The outcomes of a timeout. -/
inductive TimeoutEffect (s : ServerState) (wake : Nat) : ServerState → List Output → Prop where
  | locked (taken : s.lock ≠ none) :
      TimeoutEffect s wake { s with timeind := none, pc := .halted .deadlock } []
  | idle (free : s.lock = none) (empty : s.queue = []) :
      TimeoutEffect s wake { s with timeind := none } []
  | failed {event rest reason sent} (free : s.lock = none) (queued : s.queue = event :: rest)
      (last : event.type = .endOfStream)
      (farewell : ∀ output ∈ sent, ∃ text cliaddr, output = .byeSent text cliaddr) :
      TimeoutEffect s wake
        { s with timeind := none, queue := rest, pc := .halted (.undefined reason) }
        (sent ++ [.undefined reason])
  | handled {event rest after output} (free : s.lock = none) (queued : s.queue = event :: rest)
      (effect : EventEffect { s with timeind := none, queue := rest } event after output) :
      TimeoutEffect s wake (after.finishTimeout event wake) output

theorem handleTimeout_cases (variant : Variant) {s : ServerState} (now : Clock) (wake : Nat)
    (running : s.Running) :
    TimeoutEffect s wake (s.handleTimeout variant now wake).1
      (s.handleTimeout variant now wake).2 := by
  let cleared : ServerState := { s with timeind := none }
  by_cases free : s.lock = none
  · rw [ServerState.handleTimeout, locked_free (show cleared.lock = none from free)]
    cases queued : s.queue with
    | nil => exact .idle free queued
    | cons event rest =>
        have dequeued : ({ cleared with queue := rest } : ServerState).Running := running
        rcases handleEvent_cases variant event now dequeued with
          ⟨last, reason, sent, farewell, halted⟩ | effect
        · simp only [halted]
          rw [andThen_halted rfl]
          exact .failed free queued last farewell
        · have stillRunning : (ServerState.handleEvent variant { cleared with queue := rest } event
              now).1.Running := fun reason => by
            rw [effect.pc]
            exact running reason
          simp only [andThen_running stillRunning, List.append_nil]
          exact .handled free queued effect
  · rw [ServerState.handleTimeout, locked_taken (show cleared.lock ≠ none from free)]
    exact .locked free

/-! ## Connections -/

/-- The outcomes of a connection. -/
inductive AcceptEffect (s : ServerState) (result : Accept) :
    ServerState → List Output → Prop where
  | halted (reason : Halt) :
      AcceptEffect s result { s with pc := .halted reason } (haltOutput reason)
  | rejected (busy : s.streamclient.state ≠ .noclient) : AcceptEffect s result s [.rejected]
  | accepted {fd} (accepted : result = .accepted fd) (free : s.streamclient.state = .noclient) :
      AcceptEffect s result
        { s.openFd fd .peer with
          streamclient := { s.streamclient with rtspfd := fd, state := .cliconnected }
          maxfd := max fd s.maxfd
          masterfds := fdSet s.masterfds fd } [.connected fd]

theorem handleAccept_cases (s : ServerState) (result : Accept) :
    AcceptEffect s result (s.handleAccept result).1 (s.handleAccept result).2 := by
  cases result with
  | fatal => exact .halted .exited
  | failed =>
      by_cases busy : s.streamclient.state ≠ .noclient
      · simp only [ServerState.handleAccept, if_pos busy]
        exact .rejected busy
      · simp only [ServerState.handleAccept, if_neg busy]
        exact .halted (.undefined .badDescriptor)
  | accepted fd =>
      by_cases busy : s.streamclient.state ≠ .noclient
      · simp only [ServerState.handleAccept, if_pos busy]
        exact .rejected busy
      · simp only [ServerState.handleAccept, if_neg busy]
        exact .accepted rfl (not_not.mp busy)

/-! ## The media source -/

/-- The outcomes of the end of a download. -/
inductive CompleteEffect (s : ServerState) (io : MediaIo) : ServerState → List Output → Prop where
  | exited (unopened : io.opening = .error .exits) :
      CompleteEffect s io { s.closeDownload with pc := .halted .exited } []
  /-- The filler is created, but there are no parameter sets to send. -/
  | failed {reason} (unopened : io.opening = .error .fails) :
      CompleteEffect s io { s.closeDownload.createFiller with pc := .halted (.undefined reason) }
        [.launched s.fillers.length, .undefined reason]
  | locked {sets} (opened : io.opening = .ok sets) (taken : s.lock ≠ none) :
      CompleteEffect s io { (s.closeDownload.launch sets).1 with pc := .halted .deadlock }
        (s.closeDownload.launch sets).2
  | launched {sets} (opened : io.opening = .ok sets) (free : s.lock = none) :
      CompleteEffect s io
        { (s.closeDownload.launch sets).1.pushTimeout io.now 1000 .checkMediaState with
          download := { s.closeDownload.download with mediastate := .stream } }
        ((s.closeDownload.launch sets).2 ++ [.armed])

theorem complete_cases {s : ServerState} {io : MediaIo} (running : s.Running) :
    CompleteEffect s io (s.complete io).1 (s.complete io).2 := by
  have closed : s.closeDownload.Running := running
  unfold ServerState.complete
  cases opened : io.opening with
  | error failure =>
      cases failure with
      | exits =>
          rw [ServerState.startFiller, halt_eq, andThen_halted rfl]
          exact .exited opened
      | fails =>
          rw [startFiller_fails closed, andThen_halted rfl]
          exact .failed opened
  | ok sets =>
      have stillRunning : (s.closeDownload.launch sets).1.Running := running
      simp only [ServerState.startFiller, andThen_running stillRunning]
      by_cases free : s.lock = none
      · rw [locked_free (show (s.closeDownload.launch sets).1.lock = none from free)]
        exact .launched opened free
      · rw [locked_taken (show (s.closeDownload.launch sets).1.lock ≠ none from free), halt_eq]
        simp only [haltOutput, List.append_nil]
        exact .locked opened free

/-- The outcomes of data from the media source. -/
inductive MediaEffect (s : ServerState) (i : Int) (io : MediaIo) :
    ServerState → List Output → Prop where
  | ignored (other : s.download.mediastate = .idle ∨ s.download.mediastate = .stream) :
      MediaEffect s i io s []
  | failed (reason : Halt)
      (reads : s.download.mediastate = .getsent ∨ s.download.mediastate = .recvtcp) :
      MediaEffect s i io { s with pc := .halted reason } (haltOutput reason)
  | header {size download} (getsent : s.download.mediastate = .getsent)
      (opened : s.kernel i ≠ none) (found : headerLength io.peeked = some size)
      (parsed : s.download.getsent io.received = .ok download) :
      MediaEffect s i io { s.recv i io.received with download := download } []
  | stored (recvtcp : s.download.mediastate = .recvtcp) (opened : s.kernel i ≠ none)
      (more : 0 < (s.storeMedia i io).download.videoleft) :
      MediaEffect s i io (s.storeMedia i io) []
  | completed {after output} (recvtcp : s.download.mediastate = .recvtcp)
      (opened : s.kernel i ≠ none) (last : ¬ 0 < (s.storeMedia i io).download.videoleft)
      (effect : CompleteEffect (s.storeMedia i io) io after output) :
      MediaEffect s i io after output

/-- What storing does not touch. -/
theorem storeMedia_eq (s : ServerState) (i : Int) (io : MediaIo) : ∃ kernel masterfds,
    s.storeMedia i io =
      { s with
        kernel := kernel
        masterfds := masterfds
        download := s.download.recvtcp io.received io.writes } := by
  unfold ServerState.storeMedia
  dsimp only
  split
  · exact ⟨_, _, rfl⟩
  · exact ⟨_, _, rfl⟩

theorem handleMedia_cases {s : ServerState} (i : Int) (io : MediaIo) (running : s.Running) :
    MediaEffect s i io (s.handleMedia i io).1 (s.handleMedia i io).2 := by
  unfold ServerState.handleMedia
  cases state : s.download.mediastate with
  | idle => exact .ignored (Or.inl state)
  | stream => exact .ignored (Or.inr state)
  | getsent =>
      by_cases opened : s.kernel i = none
      · simp only [if_pos opened, halt_eq]
        exact .failed _ (Or.inl state)
      · simp only [if_neg opened]
        cases found : headerLength io.peeked with
        | none =>
            simp only [halt_eq]
            exact .failed _ (Or.inl state)
        | some size =>
            cases parsed : s.download.getsent io.received with
            | error reason =>
                simp only [halt_eq]
                exact .failed _ (Or.inl state)
            | ok download => exact .header state opened found parsed
  | recvtcp =>
      by_cases opened : s.kernel i = none
      · simp only [if_pos opened, halt_eq]
        exact .failed _ (Or.inr state)
      · simp only [if_neg opened]
        by_cases more : 0 < (s.storeMedia i io).download.videoleft
        · simp only [if_pos more]
          exact .stored state opened more
        · simp only [if_neg more]
          have stillRunning : (s.storeMedia i io).Running := by
            obtain ⟨kernel, masterfds, stored⟩ := storeMedia_eq s i io
            rw [stored]
            exact running
          exact .completed state opened more (complete_cases stillRunning)

/-! ## RTSP -/

/-- The outcomes of the receipt of data in the RTSP branch, apart from a halt. -/
inductive ReceiveEffect (s : ServerState) (i : Int) (received : List UInt8) :
    ServerState → List Output → Prop where
  | closed (opened : s.kernel i ≠ none) (empty : received = []) :
      ReceiveEffect s i received
        { s.close i with
          masterfds := fdClr s.masterfds i
          streamclient := { s.streamclient with state := .noclient } } [.disconnected i]
  | message {text result msg} (opened : s.kernel i ≠ none) (nonempty : received ≠ [])
      (terminated : cString bufSize received = some text)
      (parsed : parseRtsp text = .ok (result, msg)) :
      ReceiveEffect s i received { s.recv i received with rtspmsg := msg } []

theorem ReceiveEffect.pc {s after : ServerState} {i : Int} {received : List UInt8}
    {output : List Output} (effect : ReceiveEffect s i received after output) :
    after.pc = s.pc := by
  cases effect <;> rfl

theorem receiveRtsp_cases (s : ServerState) (i : Int) (received : List UInt8) :
    (∃ reason, s.receiveRtsp i received = s.halt reason ∧
        ∀ after output, ¬ ReceiveEffect s i received after output) ∨
      ReceiveEffect s i received (s.receiveRtsp i received).1 (s.receiveRtsp i received).2 := by
  unfold ServerState.receiveRtsp
  by_cases opened : s.kernel i = none
  · refine Or.inl ⟨_, if_pos opened, fun after output effect => ?_⟩
    cases effect with
    | closed isOpen => exact isOpen opened
    | message isOpen => exact isOpen opened
  · rw [if_neg opened]
    by_cases empty : received = []
    · rw [if_pos empty]
      exact Or.inr (.closed opened empty)
    · rw [if_neg empty]
      cases terminated : cString bufSize received with
      | none =>
          refine Or.inl ⟨_, rfl, fun after output effect => ?_⟩
          cases effect with
          | closed _ isEmpty => exact empty isEmpty
          | message _ _ found => exact nomatch terminated.symm.trans found
      | some text =>
          cases parsed : parseRtsp text with
          | error reason =>
              refine Or.inl ⟨.undefined reason, by simp only [parsed], fun after output effect => ?_⟩
              cases effect with
              | closed _ isEmpty => exact empty isEmpty
              | message _ _ found accepted =>
                  obtain rfl := Option.some.inj (terminated.symm.trans found)
                  exact nomatch parsed.symm.trans accepted
          | ok message =>
              simp only [parsed]
              exact Or.inr (.message opened empty terminated parsed)

/-- The `ThreadInfo` and the thread a TEARDOWN block would use: set, and not yet freed. -/
def ServerState.Armed (s : ServerState) (thread tinfo : Nat) : Prop :=
  s.threadid = some thread ∧ s.tinfo = some tinfo ∧ tinfo ∉ s.freed

/-- The outcomes of a TEARDOWN block. -/
inductive TeardownEffect (variant : Variant) (s : ServerState) (i : Int) (io : RtspIo) :
    ServerState → List Output → Prop where
  | locked (taken : s.lock ≠ none) :
      TeardownEffect variant s i io { s with pc := .halted .deadlock } []
  | dangling (free : s.lock = none) (dead : ∀ thread tinfo, ¬ s.Armed thread tinfo) :
      TeardownEffect variant s i io { s with pc := .halted (.undefined .dangling) }
        [.undefined .dangling]
  | done {thread tinfo} (free : s.lock = none) (armed : s.Armed thread tinfo) :
      TeardownEffect variant s i io (s.tearDown variant i io thread tinfo).1
        (s.tearDown variant i io thread tinfo).2

theorem handleTeardown_cases (variant : Variant) (s : ServerState) (i : Int) (io : RtspIo) :
    TeardownEffect variant s i io (s.handleTeardown variant i io).1
      (s.handleTeardown variant i io).2 := by
  by_cases free : s.lock = none
  · rw [ServerState.handleTeardown, locked_free free]
    cases threadid : s.threadid with
    | none =>
        refine .dangling free fun thread tinfo armed => ?_
        rw [ServerState.Armed, threadid] at armed
        cases armed.1
    | some thread =>
        cases known : s.tinfo with
        | none =>
            refine .dangling free fun thread tinfo armed => ?_
            rw [ServerState.Armed, known] at armed
            cases armed.2.1
        | some tinfo =>
            by_cases dead : tinfo ∈ s.freed
            · simp only [if_pos dead]
              refine .dangling free fun thread' tinfo' armed => armed.2.2 ?_
              obtain rfl := Option.some.inj (known.symm.trans armed.2.1)
              exact dead
            · simp only [if_neg dead]
              exact .done free ⟨threadid, known, dead⟩
  · rw [ServerState.handleTeardown, locked_taken free]
    exact .locked free

/-- Behind a TEARDOWN block there is no client left. -/
theorem TeardownEffect.noclient {variant : Variant} {s after : ServerState} {i : Int} {io : RtspIo}
    {output : List Output} (effect : TeardownEffect variant s i io after output)
    (running : after.Running) : after.streamclient.state = .noclient := by
  cases effect with
  | locked taken => exact absurd rfl (running _)
  | dangling free dead => exact absurd rfl (running _)
  | done free armed => rfl

/-- A state and a request on which the `switch` acts. -/
def Handled : ClientState → RtspMsgType → Prop
  | .cliconnected, .options => True
  | .cliconnected, .describe => True
  | .sdpsent, .setup => True
  | .setupcomplete, .play => True
  | _, _ => False

/-- The client after a SETUP. -/
def setupClient (variant : Variant) (client : Client) (rtp rtcp session : Int) : Client :=
  { (setupSockets variant { client with setupsreceived := client.setupsreceived + 1 } rtp rtcp).1 with
    session := session }

/-- What a SETUP does to the client. -/
theorem setupClient_fields (variant : Variant) (client : Client) (rtp rtcp session : Int)
    (state : client.state = .sdpsent) :
    (setupClient variant client rtp rtcp session).rtspfd = client.rtspfd ∧
      (setupClient variant client rtp rtcp session).setupsreceived = client.setupsreceived + 1 ∧
      ((setupClient variant client rtp rtcp session).state = .sdpsent ∨
        ((setupClient variant client rtp rtcp session).state = .setupcomplete ∧
          2 ≤ client.setupsreceived + 1)) := by
  unfold setupClient setupSockets
  dsimp only
  split
  · exact ⟨rfl, rfl, Or.inl state⟩
  · rename_i enough
    cases variant with
    | server => exact ⟨rfl, rfl, Or.inr ⟨rfl, by omega⟩⟩
    | mt => exact ⟨rfl, rfl, Or.inr ⟨rfl, by omega⟩⟩

/-- The outcomes of the `switch` on the state of the client. -/
inductive SwitchEffect (variant : Variant) (s : ServerState) (i : Int) (io : RtspIo) :
    ServerState → List Output → Prop where
  | ignored (other : ¬ Handled s.streamclient.state s.rtspmsg.type) :
      SwitchEffect variant s i io s []
  | failed (reason : Halt) (output : List Output)
      (handled : Handled s.streamclient.state s.rtspmsg.type)
      (before : (s.rtspmsg.type ≠ .play ∧ output = []) ∨ (s.rtspmsg.type = .play ∧
        output = [.acted i .play, .reply i (rtspPlay s.rtspmsg io.date)] ∧
        (s.download.mediaDownloaded = true → io.opening = .error .exits))) :
      SwitchEffect variant s i io { s with pc := .halted reason } (output ++ haltOutput reason)
  | options {cseq text} (state : s.streamclient.state = .cliconnected)
      (type : s.rtspmsg.type = .options) :
      SwitchEffect variant s i io { s with streamclient := { s.streamclient with cseq := cseq } }
        [.acted i .options, .reply i text]
  | described {cseq text} (state : s.streamclient.state = .cliconnected)
      (type : s.rtspmsg.type = .describe) (downloaded : s.download.mediaDownloaded = true) :
      SwitchEffect variant s i io
        { s with
          download := { s.download with mediastate := .stream }
          streamclient := { s.streamclient with state := .sdpsent, cseq := cseq } }
        [.acted i .describe, .reply i text]
  | fetched {fd request response cseq text} (state : s.streamclient.state = .cliconnected)
      (type : s.rtspmsg.type = .describe) (absent : s.download.mediaDownloaded = false)
      (fetch : io.fetch = .ok (fd, response)) :
      SwitchEffect variant s i io
        { s.openFd fd (.source response) with
          mediafd := fd
          masterfds := fdSet s.masterfds fd
          maxfd := max s.maxfd fd
          download := { s.download with mediastate := .getsent }
          streamclient := { s.streamclient with state := .sdpsent, cseq := cseq } }
        [.fetched fd request response, .acted i .describe, .reply i text]
  | setup {rtp rtcp session text} (state : s.streamclient.state = .sdpsent)
      (type : s.rtspmsg.type = .setup) (sockets : io.sockets = .ok (rtp, rtcp)) :
      SwitchEffect variant s i io
        { (s.openUdp rtp).openUdp rtcp with
          streamclient := setupClient variant s.streamclient rtp rtcp session }
        [.acted i .setup, .reply i text]
  | played (state : s.streamclient.state = .setupcomplete) (type : s.rtspmsg.type = .play)
      (absent : s.download.mediaDownloaded = false) (free : s.lock = none) :
      SwitchEffect variant s i io (s.pushTimeout io.now 100 .checkMediaState)
        [.acted i .play, .reply i (rtspPlay s.rtspmsg io.date), .armed]
  /-- The filler is created, but there are no parameter sets to send. -/
  | unopened {reason} (state : s.streamclient.state = .setupcomplete) (type : s.rtspmsg.type = .play)
      (downloaded : s.download.mediaDownloaded = true) (unopened : io.opening = .error .fails) :
      SwitchEffect variant s i io { s.createFiller with pc := .halted (.undefined reason) }
        ([.acted i .play, .reply i (rtspPlay s.rtspmsg io.date)] ++
          [.launched s.fillers.length, .undefined reason])
  | launched {sets} (state : s.streamclient.state = .setupcomplete) (type : s.rtspmsg.type = .play)
      (downloaded : s.download.mediaDownloaded = true) (opened : io.opening = .ok sets) :
      SwitchEffect variant s i io
        (((s.launch sets).1.pushTimeout io.now 100 .checkMediaState).pushTimeout io.later 2000
          .checkMediaState)
        ([.acted i .play, .reply i (rtspPlay s.rtspmsg io.date)] ++ (s.launch sets).2 ++ [.armed])

/-- What the opening of a client's sockets does not touch. -/
theorem openUdp_eq (s : ServerState) (rtp rtcp : Int) :
    ∃ kernel, (s.openUdp rtp).openUdp rtcp = { s with kernel := kernel } := by
  unfold ServerState.openUdp
  split <;> split <;> exact ⟨_, rfl⟩

theorem fetchMedia_cases (s : ServerState) (url : List UInt8)
    (fetch : Except Halt (Int × List UInt8)) :
    (∃ reason, s.fetchMedia url fetch = s.halt reason) ∨
      ∃ fd request response, fetch = .ok (fd, response) ∧ s.fetchMedia url fetch =
        ({ s.openFd fd (.source response) with
            mediafd := fd
            masterfds := fdSet s.masterfds fd
            maxfd := max s.maxfd fd
            download := { s.download with mediastate := .getsent } },
          [.fetched fd request response]) := by
  unfold ServerState.fetchMedia
  cases built : httpGet url with
  | error reason => exact Or.inl ⟨_, rfl⟩
  | ok request =>
      cases fetch with
      | error reason => exact Or.inl ⟨_, rfl⟩
      | ok connection => exact Or.inr ⟨connection.1, request, connection.2, rfl, rfl⟩

theorem handleDescribe_cases (variant : Variant) {s : ServerState} {url : List UInt8} {i : Int}
    {io : RtspIo} (running : s.Running) (state : s.streamclient.state = .cliconnected)
    (type : s.rtspmsg.type = .describe) :
    SwitchEffect variant s i io (s.handleDescribe url i io).1 (s.handleDescribe url i io).2 := by
  have handled : Handled s.streamclient.state s.rtspmsg.type := by simp [Handled, state, type]
  unfold ServerState.handleDescribe
  cases downloaded : s.download.mediaDownloaded with
  | true =>
      rw [if_pos rfl, andThen_running running]
      exact .described state type downloaded
  | false =>
      rw [if_neg Bool.false_ne_true]
      rcases fetchMedia_cases s url io.fetch with ⟨reason, halted⟩ | ⟨fd, request, response, ok, done⟩
      · rw [halted, andThen_halt, halt_eq]
        exact .failed reason [] handled (Or.inl ⟨by simp [type], rfl⟩)
      · rw [done, andThen_running running]
        exact .fetched state type downloaded ok

theorem handleSetup_cases {variant : Variant} {s : ServerState} {i : Int} {io : RtspIo}
    (state : s.streamclient.state = .sdpsent) (type : s.rtspmsg.type = .setup) :
    SwitchEffect variant s i io (s.handleSetup variant i io).1 (s.handleSetup variant i io).2 := by
  have handled : Handled s.streamclient.state s.rtspmsg.type := by simp [Handled, state, type]
  have notPlay : s.rtspmsg.type ≠ .play := by simp [type]
  unfold ServerState.handleSetup
  cases sockets : io.sockets with
  | error reason =>
      simp only [halt_eq]
      exact .failed reason [] handled (Or.inl ⟨notPlay, rfl⟩)
  | ok pair =>
      simp only [rtspSetup]
      split
      · rename_i reason overflow
        simp only [halt_eq]
        exact .failed _ [] handled (Or.inl ⟨notPlay, rfl⟩)
      · rename_i reply written
        split at written
        · cases written
          exact .setup state type sockets
        · cases written

theorem handlePlay_cases (variant : Variant) {s : ServerState} {i : Int} {io : RtspIo}
    (running : s.Running) (state : s.streamclient.state = .setupcomplete)
    (type : s.rtspmsg.type = .play) :
    SwitchEffect variant s i io (s.handlePlay i io).1 (s.handlePlay i io).2 := by
  have handled : Handled s.streamclient.state s.rtspmsg.type := by simp [Handled, state, type]
  unfold ServerState.handlePlay
  rw [andThen_running running]
  cases downloaded : s.download.mediaDownloaded with
  | true =>
      rw [if_pos rfl]
      cases opened : io.opening with
      | error failure =>
          cases failure with
          | exits =>
              simp only [ServerState.startFiller, halt_eq]
              exact .failed .exited _ handled (Or.inr ⟨type, rfl, fun _ => opened⟩)
          | fails =>
              rw [startFiller_fails running, andThen_halted rfl]
              exact .unopened state type downloaded opened
      | ok sets =>
          have stillRunning : (s.launch sets).1.Running := running
          rw [ServerState.startFiller, andThen_running stillRunning, ← List.append_assoc]
          exact .launched state type downloaded opened
  | false =>
      rw [if_neg Bool.false_ne_true]
      by_cases free : s.lock = none
      · rw [locked_free free]
        exact .played state type downloaded free
      · rw [locked_taken free, halt_eq]
        exact .failed .deadlock _ handled
          (Or.inr ⟨type, rfl, fun present => by rw [downloaded] at present; cases present⟩)

theorem clientSwitch_cases {variant : Variant} {url : List UInt8} {s : ServerState} {i : Int}
    {io : RtspIo} (running : s.Running) :
    SwitchEffect variant s i io (s.clientSwitch variant url i io).1
      (s.clientSwitch variant url i io).2 := by
  unfold ServerState.clientSwitch
  split
  · rename_i state type
    exact .options state type
  · rename_i state type
    exact handleDescribe_cases variant running state type
  · rename_i state type
    exact handleSetup_cases state type
  · rename_i state type
    exact handlePlay_cases variant running state type
  · rename_i notOptions notDescribe notSetup notPlay
    refine .ignored fun handled => ?_
    cases state : s.streamclient.state <;> cases type : s.rtspmsg.type <;>
      simp_all [Handled]

/-- The outcomes of data from a client. -/
inductive RtspEffect (variant : Variant) (s : ServerState) (i : Int) (io : RtspIo) :
    ServerState → List Output → Prop where
  | failed (reason : Halt) (unread : ∀ after output, ¬ ReceiveEffect s i io.received after output) :
      RtspEffect variant s i io { s with pc := .halted reason } (haltOutput reason)
  | teardown {received after output output'}
      (receive : ReceiveEffect s i io.received received output)
      (type : received.rtspmsg.type = .teardown)
      (effect : TeardownEffect variant received i io after output') :
      RtspEffect variant s i io after (output ++ output')
  | switched {received after output output'}
      (receive : ReceiveEffect s i io.received received output)
      (type : received.rtspmsg.type ≠ .teardown)
      (effect : SwitchEffect variant received i io after output') :
      RtspEffect variant s i io after (output ++ output')

/-- Without a client the `switch` does nothing. -/
theorem clientSwitch_noclient {variant : Variant} {url : List UInt8} {s : ServerState} {i : Int}
    {io : RtspIo} (noclient : s.streamclient.state = .noclient) :
    s.clientSwitch variant url i io = (s, []) := by
  simp only [ServerState.clientSwitch, noclient]

/-- A message of type TEARDOWN: behind the block the `switch` has nothing left to act on. -/
theorem handleRtsp_teardown {variant : Variant} {url : List UInt8} {s received : ServerState} {i : Int}
    {io : RtspIo} {output : List Output} (receive : s.receiveRtsp i io.received = (received, output))
    (running : received.Running) (type : received.rtspmsg.type = .teardown) :
    s.handleRtsp variant url i io =
      ((received.handleTeardown variant i io).1,
        output ++ (received.handleTeardown variant i io).2) := by
  rw [ServerState.handleRtsp, receive, andThen_running running]
  dsimp only
  rw [if_pos type]
  by_cases runs : (received.handleTeardown variant i io).1.Running
  · have noclient := (handleTeardown_cases variant received i io).noclient runs
    rw [andThen_running runs, clientSwitch_noclient noclient, List.append_nil]
  · simp only [ServerState.Running, ne_eq, not_forall, not_not] at runs
    obtain ⟨reason, halted⟩ := runs
    rw [andThen_halted halted]

/-- A message of any other type. -/
theorem handleRtsp_switch {variant : Variant} {url : List UInt8} {s received : ServerState} {i : Int}
    {io : RtspIo} {output : List Output} (receive : s.receiveRtsp i io.received = (received, output))
    (running : received.Running) (type : received.rtspmsg.type ≠ .teardown) :
    s.handleRtsp variant url i io =
      ((received.clientSwitch variant url i io).1,
        output ++ (received.clientSwitch variant url i io).2) := by
  rw [ServerState.handleRtsp, receive, andThen_running running]
  dsimp only
  rw [if_neg type, andThen_running running, List.nil_append]

/-- What data from a client comes to: nothing is received, or the TEARDOWN block or the `switch` acts
on what was. -/
theorem handleRtsp_outcome (variant : Variant) (url : List UInt8) {s : ServerState} (i : Int)
    (io : RtspIo) (running : s.Running) :
    (∃ reason, s.handleRtsp variant url i io = s.halt reason ∧
        ∀ after output, ¬ ReceiveEffect s i io.received after output) ∨
      ∃ received prior, ReceiveEffect s i io.received received prior ∧ received.Running ∧
        s.handleRtsp variant url i io =
          if received.rtspmsg.type = .teardown then
            ((received.handleTeardown variant i io).1,
              prior ++ (received.handleTeardown variant i io).2)
          else ((received.clientSwitch variant url i io).1,
            prior ++ (received.clientSwitch variant url i io).2) := by
  rcases receiveRtsp_cases s i io.received with ⟨reason, halted, unread⟩ | receive
  · refine Or.inl ⟨reason, ?_, unread⟩
    rw [ServerState.handleRtsp, halted, andThen_halt]
  · have still : (s.receiveRtsp i io.received).1.Running := fun reason => by
      rw [receive.pc]
      exact running reason
    refine Or.inr ⟨_, _, receive, still, ?_⟩
    split
    · rename_i type
      exact handleRtsp_teardown rfl still type
    · rename_i type
      exact handleRtsp_switch rfl still type

theorem handleRtsp_cases (variant : Variant) (url : List UInt8) {s : ServerState} (i : Int)
    (io : RtspIo) (running : s.Running) :
    RtspEffect variant s i io (s.handleRtsp variant url i io).1
      (s.handleRtsp variant url i io).2 := by
  rcases handleRtsp_outcome variant url i io running with
    ⟨reason, halted, unread⟩ | ⟨received, prior, receive, still, outcome⟩
  · rw [halted, halt_eq]
    exact .failed reason unread
  · rw [outcome]
    split
    · rename_i type
      exact .teardown receive type (handleTeardown_cases variant received i io)
    · rename_i type
      exact .switched receive type (clientSwitch_cases still)

/-! ## SIP and the fillers -/

/-- What the SIP branch leaves alone: everything but its own variables, the descriptors which are
open, and whether the main thread runs. -/
inductive SipEffect (s : ServerState) : ServerState → List Output → Prop where
  | only {pc kernel sip output} (halts : pc = s.pc ∨ ∃ reason, pc = .halted reason)
      (answers : ∀ o ∈ output,
        (∃ text size cliaddr, o = .okSent text size cliaddr) ∨ ∃ reason, o = .undefined reason) :
      SipEffect s { s with pc := pc, kernel := kernel, sip := sip } output

theorem SipEffect.halt (s : ServerState) (reason : Halt) :
    SipEffect s (s.halt reason).1 (s.halt reason).2 := by
  refine @SipEffect.only s _ s.kernel s.sip _ (Or.inr ⟨reason, rfl⟩) fun output member => ?_
  rw [halt_eq] at member
  exact Or.inr (mem_haltOutput member)

/-- Changes of the SIP variables and of the descriptors in front do not matter. -/
theorem SipEffect.of_update {s after : ServerState} {kernel : Int → Option Endpoint} {sip : Sip}
    {output : List Output} (effect : SipEffect { s with kernel := kernel, sip := sip } after output) :
    SipEffect s after output := by
  cases effect with
  | only halts answers => exact .only halts answers

theorem SipEffect.update {s : ServerState} {kernel : Int → Option Endpoint} {sip : Sip}
    {output : List Output} (answers : ∀ o ∈ output,
      (∃ text size cliaddr, o = .okSent text size cliaddr) ∨ ∃ reason, o = .undefined reason) :
    SipEffect s { s with kernel := kernel, sip := sip } output :=
  .only (Or.inl rfl) answers

theorem removeClient_eq (s : ServerState) (msg : SIPMsg) :
    ∃ kernel sip, s.removeClient msg = { s with kernel := kernel, sip := sip } := by
  unfold ServerState.removeClient
  split
  · exact ⟨s.kernel, s.sip, rfl⟩
  · split
    · exact ⟨s.kernel, s.sip, rfl⟩
    · exact ⟨_, _, rfl⟩

theorem handleSip_cases (s : ServerState) (msg : SIPMsg) (io : DatagramIo) :
    SipEffect s (s.handleSip msg io).1 (s.handleSip msg io).2 := by
  unfold ServerState.handleSip
  cases msg.type with
  | invite =>
      simp only [ServerState.invite]
      split
      · split
        · rename_i reason _
          refine @SipEffect.only s _ s.kernel s.sip _ (Or.inr ⟨reason, rfl⟩) fun output member => ?_
          rcases List.mem_cons.mp member with rfl | later
          · exact Or.inl ⟨_, _, _, rfl⟩
          · rw [halt_eq] at later
            exact Or.inr (mem_haltOutput later)
        · split
          · exact .update (by simp)
          · exact .update (by simp)
      · exact .update (by simp)
  | ack =>
      simp only [ServerState.ack]
      split
      · exact .update (by simp)
      · exact .update (by simp)
  | bye =>
      obtain ⟨kernel, sip, removed⟩ := removeClient_eq s msg
      simp only [removed]
      exact .update (by simp)
  | sipok =>
      obtain ⟨kernel, sip, removed⟩ := removeClient_eq s msg
      simp only [removed]
      exact .update (by simp)

theorem handleDatagram_cases (s : ServerState) (io : DatagramIo) :
    SipEffect s (s.handleDatagram io).1 (s.handleDatagram io).2 := by
  unfold ServerState.handleDatagram
  dsimp only
  split
  · exact SipEffect.of_update (.halt { s with sip := { s.sip with sipInbuf := _ } } _)
  · split
    · exact SipEffect.of_update (.halt { s with sip := { s.sip with sipInbuf := _ } } _)
    · exact SipEffect.of_update
        (handleSip_cases { s with sip := { s.sip with sipInbuf := _ } } _ io)

/-- The filler is where it goes on without the mutex. -/
inductive Advances (queue : List TimeoutEvent) : FillerPc → FillerPc → Prop where
  | wait : Advances queue .start .waiting
  | spurious : Advances queue .waiting .woken
  | tested (room : queue.length < queueSize) : Advances queue .slept .tested
  | full (full : ¬ queue.length < queueSize) : Advances queue .slept .start

/-- The outcomes of a step of a filler. -/
inductive FillerEffect (s : ServerState) (k : Nat) : ServerState → Prop where
  | advanced {filler pc} (there : s.fillers[k]? = some filler)
      (advances : Advances s.queue filler.pc pc) : FillerEffect s k (s.moveFiller k filler pc)
  | pushed {filler basetime next unset} (there : s.fillers[k]? = some filler)
      (free : s.lock = none) (pc : filler.pc = .woken ∨ filler.pc = .tested) :
      FillerEffect s k (s.pushNext k filler basetime next unset)
  | stuck {filler basetime} (there : s.fillers[k]? = some filler) (free : s.lock = none)
      (pc : filler.pc = .woken) :
      FillerEffect s k
        { s.moveFiller k { filler with basetime := some basetime } .stuck with lock := some k }
  | unwound {filler} (there : s.fillers[k]? = some filler) (free : s.lock = none)
      (pc : filler.pc = .unwinding) :
      FillerEffect s k { s.moveFiller k filler .cancelled with lock := some k }

/-- What a filler does not touch. -/
theorem FillerEffect.only {s after : ServerState} {k : Nat} (effect : FillerEffect s k after) :
    ∃ queue lock fillers, after = { s with queue := queue, lock := lock, fillers := fillers } ∧
      (queue = s.queue ∨ ∃ event, queue = Pacing.pushed event s.queue) := by
  cases effect with
  | advanced there advances => exact ⟨_, _, _, rfl, Or.inl rfl⟩
  | @pushed filler basetime next unset there free pc =>
      cases next with
      | none => exact ⟨Pacing.pushed _ s.queue, s.lock, _, rfl, Or.inr ⟨_, rfl⟩⟩
      | some frame => exact ⟨Pacing.pushed _ s.queue, s.lock, _, rfl, Or.inr ⟨_, rfl⟩⟩
  | stuck there free pc => exact ⟨_, _, _, rfl, Or.inl rfl⟩
  | unwound there free pc => exact ⟨_, _, _, rfl, Or.inl rfl⟩

/-- How a filler takes an action: it is where the action belongs, and the mutex is free when the action
needs it. -/
inductive FillerMove (s : ServerState) (k : Nat) (filler : Filler) :
    FillerAction → ServerState → Prop where
  | wait (pc : filler.pc = .start) (free : s.lock = none) :
      FillerMove s k filler .wait (s.moveFiller k filler .waiting)
  | spurious (pc : filler.pc = .waiting) :
      FillerMove s k filler .spurious (s.moveFiller k filler .woken)
  | resume {now next unset} (pc : filler.pc = .woken) (free : s.lock = none)
      (room : s.queue.length < queueSize) :
      FillerMove s k filler (.resume now next unset)
        (s.pushNext k filler (filler.basetime.getD now) next unset)
  | stuck {now next unset} (pc : filler.pc = .woken) (free : s.lock = none)
      (full : ¬ s.queue.length < queueSize) :
      FillerMove s k filler (.resume now next unset)
        { s.moveFiller k { filler with basetime := some (filler.basetime.getD now) } .stuck with
          lock := some k }
  | test (pc : filler.pc = .slept) :
      FillerMove s k filler .test
        (s.moveFiller k filler (if s.queue.length < queueSize then .tested else .start))
  | push {next unset basetime} (pc : filler.pc = .tested) (free : s.lock = none)
      (known : filler.basetime = some basetime) :
      FillerMove s k filler (.push next unset) (s.pushNext k filler basetime next unset)
  | unwind (pc : filler.pc = .unwinding) (free : s.lock = none) :
      FillerMove s k filler .unwind { s.moveFiller k filler .cancelled with lock := some k }

/-- Every action taken is one of these. -/
theorem handleFiller_moves {s after : ServerState} {k : Nat} {action : FillerAction}
    (taken : s.handleFiller k action = some after) :
    ∃ filler, s.fillers[k]? = some filler ∧ FillerMove s k filler action after := by
  unfold ServerState.handleFiller at taken
  cases there : s.fillers[k]? with
  | none => simp [there] at taken
  | some filler =>
      refine ⟨filler, rfl, ?_⟩
      simp only [there, Option.bind_eq_bind, Option.bind_some] at taken
      split at taken
      · rename_i pc
        split at taken
        · rename_i free
          cases taken
          exact .wait pc free
        · cases taken
      · rename_i pc
        cases taken
        exact .spurious pc
      · rename_i pc
        split at taken
        · rename_i free
          split at taken
          · rename_i room
            cases taken
            exact .resume pc free room
          · rename_i full
            cases taken
            exact .stuck pc free full
        · cases taken
      · rename_i pc
        cases taken
        exact .test pc
      · rename_i pc
        split at taken
        · rename_i free
          obtain ⟨basetime, known, rfl⟩ := Option.map_eq_some_iff.mp taken
          exact .push pc free known
        · cases taken
      · rename_i pc
        split at taken
        · rename_i free
          cases taken
          exact .unwind pc free
        · cases taken
      · cases taken

theorem handleFiller_cases {s after : ServerState} {k : Nat} {action : FillerAction}
    (taken : s.handleFiller k action = some after) : FillerEffect s k after := by
  obtain ⟨filler, there, move⟩ := handleFiller_moves taken
  cases move with
  | wait pc free => exact .advanced there (pc ▸ .wait)
  | spurious pc => exact .advanced there (pc ▸ .spurious)
  | resume pc free room => exact .pushed there free (Or.inl pc)
  | stuck pc free full => exact .stuck there free pc
  | test pc =>
      by_cases room : s.queue.length < queueSize
      · rw [if_pos room]
        exact .advanced there (pc ▸ .tested room)
      · rw [if_neg room]
        exact .advanced there (pc ▸ .full room)
  | push pc free known => exact .pushed there free (Or.inr pc)
  | unwind pc free => exact .unwound there free pc

/-! ## Steps -/

/-- What a step can do. A handler of a descriptor starts where the rest is still to be handled. -/
inductive StepEffect (variant : Variant) (s : ServerState) :
    Input → ServerState → List Output → Prop where
  | timeout {now wake after output} (pc : s.pc = .select) (set : s.timeind ≠ none)
      (effect : TimeoutEffect s wake after output) :
      StepEffect variant s (.timeout now wake) after output
  | interrupted {fds} (pc : s.pc = .select) :
      StepEffect variant s .interrupted { s with pc := .dispatch fds } []
  | ready {fds} (pc : s.pc = .select) (members : ∀ fd ∈ fds, s.masterfds fd = true) :
      StepEffect variant s (.ready fds) { s with pc := .dispatch fds } []
  | accept {result i rest after output} (pc : s.pc = .dispatch (i :: rest))
      (branch : s.branch variant i = .listen) (possible : result.possible s = true)
      (effect : AcceptEffect { s with pc := .dispatch rest } result after output) :
      StepEffect variant s (.accept result) after output
  | datagram {io i rest after output} (pc : s.pc = .dispatch (i :: rest))
      (branch : s.branch variant i = .sip)
      (effect : SipEffect { s with pc := .dispatch rest } after output) :
      StepEffect variant s (.datagram io) after output
  | media {io i rest after output} (pc : s.pc = .dispatch (i :: rest))
      (branch : s.branch variant i = .media) (possible : s.CanDeliver i io)
      (effect : MediaEffect { s with pc := .dispatch rest } i io after output) :
      StepEffect variant s (.media io) after output
  | rtsp {io i rest after output} (pc : s.pc = .dispatch (i :: rest))
      (branch : s.branch variant i = .rtsp) (possible : io.possible s i = true)
      (effect : RtspEffect variant { s with pc := .dispatch rest } i io after output) :
      StepEffect variant s (.rtsp io) after output
  | rearmed {now} (pc : s.pc = .dispatch []) (free : s.lock = none) :
      StepEffect variant s (.rearm now) (s.rearm now).1 []
  | rearmLocked {now} (pc : s.pc = .dispatch []) (taken : s.lock ≠ none) :
      StepEffect variant s (.rearm now) { s with pc := .halted .deadlock } []
  | filler {k action after} (effect : FillerEffect s k after) :
      StepEffect variant s (.filler k action) after []

/-- The handler which `dispatch` calls. -/
theorem dispatch_cases {variant : Variant} {s : ServerState} {branch : Branch} {possible : Int → Bool}
    {handler : ServerState → Int → Outcome} {outcome : Outcome}
    (taken : s.dispatch variant branch possible handler = .ok outcome) :
    ∃ i rest, s.pc = .dispatch (i :: rest) ∧ s.branch variant i = branch ∧ possible i = true ∧
      outcome = handler { s with pc := .dispatch rest } i := by
  unfold ServerState.dispatch at taken
  split at taken
  · rename_i i rest pc
    split at taken
    · rename_i meant
      cases taken
      exact ⟨i, rest, pc, meant.1, meant.2, rfl⟩
    · cases taken
  · cases taken

theorem running_of_select {s : ServerState} (pc : s.pc = .select) : s.Running := fun reason => by
  simp [pc]

theorem dispatch_running (s : ServerState) (rest : List Int) :
    ServerState.Running { s with pc := .dispatch rest } := fun reason => by
  simp

/-- A timeout is handled in `Select`. -/
theorem step_timeout {variant : Variant} {url : List UInt8} {s after : ServerState} {now : Clock}
    {wake : Nat} {output : List Output}
    (taken : step variant url s (.timeout now wake) = .ok (after, output)) :
    s.pc = .select ∧ s.timeind ≠ none ∧ s.handleTimeout variant now wake = (after, output) := by
  simp only [step] at taken
  split at taken
  · rename_i enabled
    exact ⟨enabled.1, enabled.2, Except.ok.inj taken⟩
  · cases taken

/-- A step of a filler puts nothing out. -/
theorem step_filler {variant : Variant} {url : List UInt8} {s after : ServerState} {k : Nat}
    {action : FillerAction} {output : List Output}
    (taken : step variant url s (.filler k action) = .ok (after, output)) :
    s.handleFiller k action = some after ∧ output = [] := by
  simp only [step] at taken
  split at taken
  · cases taken
  · cases taken
  · split at taken
    · cases taken
    · rename_i next moved
      cases taken
      exact ⟨moved, rfl⟩

/-- Every step does one of these. -/
theorem step_cases {variant : Variant} {url : List UInt8} {s after : ServerState} {input : Input}
    {output : List Output} (taken : step variant url s input = .ok (after, output)) :
    StepEffect variant s input after output := by
  cases input with
  | timeout now wake =>
      obtain ⟨pc, set, same⟩ := step_timeout taken
      have effect := handleTimeout_cases variant now wake (running_of_select pc)
      rw [same] at effect
      exact .timeout pc set effect
  | interrupted =>
      simp only [step] at taken
      split at taken
      · rename_i pc
        cases taken
        exact .interrupted pc
      · cases taken
  | ready fds =>
      simp only [step] at taken
      split at taken
      · rename_i enabled
        cases taken
        exact .ready enabled.1 fun fd member => (enabled.2.2.2 fd member).1
      · cases taken
  | accept result =>
      rw [step] at taken
      obtain ⟨i, rest, pc, branch, possible, same⟩ := dispatch_cases taken
      have effect := handleAccept_cases { s with pc := .dispatch rest } result
      rw [← same] at effect
      exact .accept pc branch possible effect
  | datagram io =>
      rw [step] at taken
      obtain ⟨i, rest, pc, branch, possible, same⟩ := dispatch_cases taken
      have effect := handleDatagram_cases { s with pc := .dispatch rest } io
      rw [← same] at effect
      exact .datagram pc branch effect
  | media io =>
      rw [step] at taken
      obtain ⟨i, rest, pc, branch, possible, same⟩ := dispatch_cases taken
      have effect := handleMedia_cases i io (dispatch_running s rest)
      rw [← same] at effect
      exact .media pc branch (of_decide_eq_true possible) effect
  | rtsp io =>
      rw [step] at taken
      obtain ⟨i, rest, pc, branch, possible, same⟩ := dispatch_cases taken
      have effect := handleRtsp_cases variant url i io (dispatch_running s rest)
      rw [← same] at effect
      exact .rtsp pc branch possible effect
  | rearm now =>
      simp only [step] at taken
      split at taken
      · rename_i pc
        by_cases free : s.lock = none
        · have done : StepEffect variant s (.rearm now) (s.rearm now).1 [] := .rearmed pc free
          rw [ServerState.rearm, locked_free free] at done taken
          obtain ⟨rfl, rfl⟩ := Prod.mk.inj (Except.ok.inj taken)
          exact done
        · rw [ServerState.rearm, locked_taken free] at taken
          obtain ⟨rfl, rfl⟩ := Prod.mk.inj (Except.ok.inj taken)
          exact .rearmLocked pc free
      · cases taken
  | filler k action =>
      obtain ⟨moved, rfl⟩ := step_filler taken
      exact .filler (handleFiller_cases moved)

/-- A step after which the main thread runs started where it ran. -/
theorem running_before {variant : Variant} {url : List UInt8} {s after : ServerState} {input : Input}
    {output : List Output} (taken : step variant url s input = .ok (after, output))
    (running : after.Running) : s.Running := by
  intro reason halted
  cases step_cases taken with
  | filler effect =>
      obtain ⟨queue, lock, fillers, rfl, -⟩ := effect.only
      exact running reason halted
  | timeout pc => cases halted.symm.trans pc
  | interrupted pc => cases halted.symm.trans pc
  | ready pc => cases halted.symm.trans pc
  | accept pc => cases halted.symm.trans pc
  | datagram pc => cases halted.symm.trans pc
  | media pc => cases halted.symm.trans pc
  | rtsp pc => cases halted.symm.trans pc
  | rearmed pc => cases halted.symm.trans pc
  | rearmLocked pc => cases halted.symm.trans pc

/-- The behaviour is defined so far. -/
def ServerState.Defined (s : ServerState) : Prop := ¬ ∃ reason, s.pc = .halted (.undefined reason)

/-- Only then a step is taken. -/
theorem defined_before {variant : Variant} {url : List UInt8} {s after : ServerState} {input : Input}
    {output : List Output} (taken : step variant url s input = .ok (after, output)) : s.Defined := by
  rintro ⟨reason, halted⟩
  cases input <;> simp [step, ServerState.dispatch, halted] at taken

end Http2Rtsp.Server
