import Http2Rtsp.Semantics.Machine
import Http2Rtsp.Server.Sip

/-!
# The steps of the servers

The main loop of `start_server` and `start_mt_server` and the filler threads,
as one machine. A step of the main thread is the handling of a timeout, of one
ready descriptor, or the setting of the next timeout; a step of a filler is a
critical section or a test. What the environment decides is the input.
-/

namespace Http2Rtsp.Server

open Http2Rtsp.Std Http2Rtsp.Message Http2Rtsp.Pacing Http2Rtsp.Semantics

/-! ## Inputs -/

/-- The decoded `sprop-parameter-sets`. -/
structure ParameterSets where
  sps : List UInt8
  pps : List UInt8

/-- How `initialize_context` ends when it finds none. -/
inductive OpeningFailure where
  /-- The program exits. -/
  | exits
  /-- It returns -1, which no caller looks at. -/
  | fails
deriving DecidableEq

/-- How `accept` ends. -/
inductive Accept where
  | accepted (fd : Int)
  /-- With an error the server tolerates. -/
  | failed
  | fatal

/-- Around the branch for data from the media source: what its calls of `recv_all` return, the
answers of `write`, what `initialize_context` finds, and the clock. -/
structure MediaIo where
  peeked : List UInt8
  received : List UInt8
  writes : List WriteResult
  opening : Except OpeningFailure ParameterSets
  now : Clock

/-- Around the branch for data from a client. -/
structure RtspIo where
  received : List UInt8
  rand : Nat
  date : List UInt8
  /-- The connection to the media source, and the response that will be sent on it. -/
  fetch : Except Halt (Int × List UInt8)
  /-- The RTP and the RTCP socket opened on a SETUP; -1 when a connection failed. -/
  sockets : Except Halt (Int × Int)
  opening : Except OpeningFailure ParameterSets
  now : Clock
  later : Clock
  wake : Nat

/-- What a filler does next. `next` is the frame `get_frame` returns, `none` at the end of the file;
`unset` is what an unassigned `prev_timestamp` happens to hold. -/
inductive FillerAction where
  | wait
  | spurious
  | resume (now : Clock) (next : Option Rtp.Frame) (unset : Timeval)
  | test
  | push (next : Option Rtp.Frame) (unset : Timeval)
  | unwind

inductive Input where
  | timeout (now : Clock) (wake : Nat)
  | interrupted
  | ready (fds : List Int)
  | accept (result : Accept)
  | datagram (io : DatagramIo)
  | media (io : MediaIo)
  | rtsp (io : RtspIo)
  /-- The end of the loop over the descriptors. -/
  | rearm (now : Clock)
  | filler (k : Nat) (action : FillerAction)

/-! ## Threads -/

/-- The first waiting filler is woken. -/
def wakeFirst : List Filler → List Filler
  | [] => []
  | filler :: rest =>
      if filler.pc = .waiting then { filler with pc := .woken } :: rest
      else filler :: wakeFirst rest

/-- `pthread_cond_signal`: of the fillers which wait already one is woken. -/
def signal (wake : Nat) (fillers : List Filler) : List Filler :=
  if fillers[wake]?.map Filler.pc = some .waiting then
    fillers.modify wake fun filler => { filler with pc := .woken }
  else wakeFirst fillers

/-- `pthread_cancel` of a filler. -/
def Filler.cancel (filler : Filler) : Filler :=
  match filler.pc with
  | .done => filler
  | .waiting | .woken | .unwinding => { filler with pc := .unwinding }
  | _ => { filler with pc := .cancelled }

/-- `create_sprop_frame`. The four bytes in front of the parameter set are not written. -/
def createSpropFrame (ps : List UInt8) (ts : UInt32) : Rtp.Frame where
  data i := if i < 4 then 0 else ps.getD (i - 4) 0
  size := ps.length + 4
  timestamp := ts
  frametype := .video

/-- The filler is created. -/
def ServerState.createFiller (s : ServerState) : ServerState :=
  { s with
      tinfo := some s.allocated
      allocated := s.allocated + 1
      threadid := some s.fillers.length
      fillers := s.fillers ++ [⟨.start, s.allocated, none, none⟩] }

/-- The filler is created and the parameter sets are sent. -/
def ServerState.launch (s : ServerState) (sets : ParameterSets) : Outcome :=
  let fd := s.streamclient.videofds.1
  let seqnum := s.rtpseqnoVideo
  ({ s.createFiller with rtpseqnoVideo := seqnum + 2 },
    [.launched s.fillers.length, .videoFrame fd (createSpropFrame sets.sps 0) seqnum,
      .videoFrame fd (createSpropFrame sets.pps 0) (seqnum + 1)])

/-- What reading `sps` comes to when it was not set again: `spslen` was never set, or `sps` was freed
with the parameter sets sent before. -/
def ServerState.staleSets (s : ServerState) : Undefined :=
  if s.allocated = 0 then .unset else .dangling

/-- The same, with what `initialize_context` finds. -/
def ServerState.startFiller (s : ServerState) (opening : Except OpeningFailure ParameterSets) :
    Outcome :=
  match opening with
  | .error .exits => s.halt .exited
  | .error .fails =>
      Outcome.andThen (s.createFiller, [.launched s.fillers.length]) fun created =>
        created.halt (.undefined s.staleSets)
  | .ok sets => s.launch sets

/-! ## Timeouts -/

/-- The sockets audio frames are sent to. -/
def ServerState.audioTargets (variant : Variant) (s : ServerState) : List Int :=
  match variant with
  | .server => [s.streamclient.audiofds.1]
  | .mt => s.sip.acknowledged.map SIPClient.sockfd

/-- An audio frame is sent to one socket after the other. -/
def sendAudio (frame : Rtp.Frame) : UInt16 → List Int → UInt16 × List Output
  | seqnum, [] => (seqnum, [])
  | seqnum, fd :: rest =>
      let sent := (Rtp.sendAudioFrame frame seqnum).2
      let later := sendAudio frame (seqnum + sent.toNat.toUInt16) rest
      (later.1, .audioFrame fd frame seqnum :: later.2)

/-- The `switch` on the type of a dequeued event. -/
def ServerState.handleEvent (variant : Variant) (s : ServerState) (event : TimeoutEvent)
    (now : Clock) : Outcome :=
  match event.type with
  | .endOfStream =>
      match variant with
      | .server => (s, [.endOfStream])
      | .mt =>
          let sent := byes s.sip.acknowledged
          Outcome.andThen (s, sent.1) fun s =>
            match sent.2 with
            | some reason => s.halt (.undefined reason)
            | none => (s, [.endOfStream])
  | .frame frame =>
      match frame.frametype with
      | .video =>
          let sent := (Rtp.sendVideoFrame frame s.rtpseqnoVideo).2
          ({ s with rtpseqnoVideo := s.rtpseqnoVideo + sent.toNat.toUInt16 },
            [.videoFrame s.streamclient.videofds.1 frame s.rtpseqnoVideo])
      | .audio =>
          let sent := sendAudio frame s.rtpseqnoAudio (s.audioTargets variant)
          ({ s with rtpseqnoAudio := sent.1 }, sent.2)
  | .checkMediaState =>
      if s.download.mediastate = .stream then (s, []) else
        ({ s.pushTimeout now 1000 .checkMediaState with
            rtpseqnoVideo := (Rtp.sendDummyRtp s.rtpseqnoVideo).2 },
          [.dummy s.streamclient.videofds.1 s.rtpseqnoVideo])

/-- The end of the handling of an event: the next timeout is set, and a filler is woken when the
queue runs low. -/
def ServerState.finishTimeout (s : ServerState) (event : TimeoutEvent) (wake : Nat) :
    ServerState :=
  { s with
    timeind := s.queue.head?.map fun first : TimeoutEvent => calculateDelta event.time first.time
    fillers := if s.queue.length < queueSize / 2 then signal wake s.fillers else s.fillers }

/-- The handling of a timeout. -/
def ServerState.handleTimeout (variant : Variant) (s : ServerState) (now : Clock) (wake : Nat) :
    Outcome :=
  { s with timeind := none }.locked fun s =>
    match s.queue with
    | [] => (s, [])
    | event :: rest =>
        ({ s with queue := rest }.handleEvent variant event now).andThen fun s =>
          (s.finishTimeout event wake, [])

/-- The setting of the timeout after the loop over the descriptors. -/
def ServerState.rearm (s : ServerState) (now : Clock) : Outcome :=
  s.locked fun s =>
    ({ s with
        pc := .select
        timeind := s.queue.head?.map fun first : TimeoutEvent =>
          let delta := calculateDelta now.toTimeval first.time
          if delta.tvSec < 0 then ⟨0, 0⟩ else delta }, [])

/-! ## Connections -/

/-- A connection on the listening socket. -/
def ServerState.handleAccept (s : ServerState) (result : Accept) : Outcome :=
  match result with
  | .fatal => s.halt .exited
  | .failed =>
      if s.streamclient.state ≠ .noclient then (s, [.rejected])
      else s.halt (.undefined .badDescriptor)
  | .accepted fd =>
      if s.streamclient.state ≠ .noclient then (s, [.rejected]) else
        ({ s.openFd fd .peer with
            streamclient := { s.streamclient with rtspfd := fd, state := .cliconnected }
            maxfd := max fd s.maxfd
            masterfds := fdSet s.masterfds fd }, [.connected fd])

/-! ## The media source -/

/-- `RECVTCP` up to the test whether bytes are left. -/
def ServerState.storeMedia (s : ServerState) (i : Int) (io : MediaIo) : ServerState :=
  let s := s.recv i io.received
  let s := if io.received = [] then { s with masterfds := fdClr s.masterfds i }.close i else s
  { s with download := s.download.recvtcp io.received io.writes }

/-- The descriptors of the download are closed. -/
def ServerState.closeDownload (s : ServerState) : ServerState :=
  ({ s with
    masterfds := fdClr s.masterfds s.mediafd
    download := { s.download with mediaDownloaded := true } }.close s.videofd).close s.mediafd

/-- The end of the download. -/
def ServerState.complete (s : ServerState) (io : MediaIo) : Outcome :=
  (s.closeDownload.startFiller io.opening).andThen fun s => s.locked fun s =>
    ({ s.pushTimeout io.now 1000 .checkMediaState with
        download := { s.download with mediastate := .stream } }, [.armed])

/-- Data from the media source. -/
def ServerState.handleMedia (s : ServerState) (i : Int) (io : MediaIo) : Outcome :=
  match s.download.mediastate with
  | .getsent =>
      if s.kernel i = none then s.halt .exited else
        match headerLength io.peeked with
        | none => s.halt (.undefined .nullPointer)
        | some _ =>
            match s.download.getsent io.received with
            | .error reason => s.halt (.undefined reason)
            | .ok download => ({ s.recv i io.received with download := download }, [])
  | .recvtcp =>
      if s.kernel i = none then s.halt .exited else
        let s := s.storeMedia i io
        if 0 < s.download.videoleft then (s, []) else s.complete io
  | _ => (s, [])

/-- What the calls of `recv_all` in that branch may return. -/
def ServerState.CanDeliver (s : ServerState) (i : Int) (io : MediaIo) : Prop :=
  match s.download.mediastate with
  | .getsent => s.CanRecv i bufSize io.peeked ∧
      s.CanRecv i ((headerLength io.peeked).getD bufSize) io.received
  | .recvtcp => s.CanRecv i bufSize io.received
  | _ => True

instance (s : ServerState) (i : Int) (io : MediaIo) : Decidable (s.CanDeliver i io) :=
  match known : s.download.mediastate with
  | .getsent =>
      decidable_of_iff (s.CanRecv i bufSize io.peeked ∧
        s.CanRecv i ((headerLength io.peeked).getD bufSize) io.received) <| by
          simp [ServerState.CanDeliver, known]
  | .recvtcp =>
      decidable_of_iff (s.CanRecv i bufSize io.received) <| by
        simp [ServerState.CanDeliver, known]
  | .idle | .stream => isTrue <| by simp [ServerState.CanDeliver, known]

/-! ## RTSP -/

/-- The receipt of data on a descriptor of the RTSP branch. -/
def ServerState.receiveRtsp (s : ServerState) (i : Int) (received : List UInt8) : Outcome :=
  if s.kernel i = none then s.halt .exited
  else if received = [] then
    ({ s.close i with
        masterfds := fdClr s.masterfds i
        streamclient := { s.streamclient with state := .noclient } }, [.disconnected i])
  else
    match cString bufSize received with
    | none => s.halt (.undefined .unterminated)
    | some text =>
        match parseRtsp text with
        | .error reason => s.halt (.undefined reason)
        | .ok (_, msg) => ({ s.recv i received with rtspmsg := msg }, [])

/-- The TEARDOWN block, with the thread it cancels and the `ThreadInfo` it frees. -/
def ServerState.tearDown (variant : Variant) (s : ServerState) (i : Int) (io : RtspIo)
    (thread tinfo : Nat) : Outcome :=
  let client := s.streamclient
  let cancelled := s.fillers.modify thread Filler.cancel
  let closed := ((((s.close i).close client.videofds.1).close client.videofds.2).close
    client.audiofds.1).close client.audiofds.2
  let rtpseqno := (io.rand % 1000000 + 7).toUInt16
  ({ closed with
      masterfds := fdClr s.masterfds i
      fillers := match variant with
        | .server => signal io.wake cancelled
        | .mt => cancelled
      queue := []
      freed := tinfo :: s.freed
      rtpseqnoVideo := rtpseqno
      rtpseqnoAudio := rtpseqno + 9
      streamclient := initClient },
    [.acted i .teardown, .reply i (rtspTeardown s.rtspmsg), .contextClosed tinfo, .freed tinfo])

/-- What is behind `if (rtspmsg.type == TEARDOWN)`. -/
def ServerState.handleTeardown (variant : Variant) (s : ServerState) (i : Int) (io : RtspIo) :
    Outcome :=
  s.locked fun s =>
    match s.threadid, s.tinfo with
    | some thread, some tinfo =>
        if tinfo ∈ s.freed then s.halt (.undefined .dangling)
        else s.tearDown variant i io thread tinfo
    | _, _ => s.halt (.undefined .dangling)

/-- The request for the media on a DESCRIBE. `parse_url` is called in front of the connection and
again in `http_get`. -/
def ServerState.fetchMedia (s : ServerState) (url : List UInt8)
    (fetch : Except Halt (Int × List UInt8)) : Outcome :=
  match httpGet url with
  | .error reason => s.halt (.undefined reason)
  | .ok request =>
      match fetch with
      | .error reason => s.halt reason
      | .ok (fd, response) =>
          ({ s.openFd fd (.source response) with
              mediafd := fd
              masterfds := fdSet s.masterfds fd
              maxfd := max s.maxfd fd
              download := { s.download with mediastate := .getsent } },
            [.fetched fd request response])

/-- A DESCRIBE in `CLICONNECTED`. -/
def ServerState.handleDescribe (s : ServerState) (url : List UInt8) (i : Int) (io : RtspIo) :
    Outcome :=
  let fetched : Outcome := if s.download.mediaDownloaded then
      ({ s with download := { s.download with mediastate := .stream } }, [])
    else s.fetchMedia url io.fetch
  fetched.andThen fun s =>
    let reply := rtspDescribe { s.streamclient with state := .sdpsent } io.date
    ({ s with streamclient := reply.1 }, [.acted i .describe, .reply i reply.2])

/-- The socket of a client, unless its connection failed. -/
def ServerState.openUdp (s : ServerState) (fd : Int) : ServerState :=
  if 0 ≤ fd then s.openFd fd .udp else s

/-- The client with the sockets of a SETUP, and the ports announced. For the second one
`start_server` stores the RTCP socket in the place of the first one's. -/
def setupSockets (variant : Variant) (client : Client) (rtp rtcp : Int) : Client × Nat × Nat :=
  if client.setupsreceived < 2 then
    ({ client with audiofds := (rtp, rtcp) }, client.serverRtpAudioPort, client.serverRtcpAudioPort)
  else
    let client := match variant with
      | .server => { client with
          videofds := (rtp, client.videofds.2)
          audiofds := (client.audiofds.1, rtcp) }
      | .mt => { client with videofds := (rtp, rtcp) }
    ({ client with state := .setupcomplete }, client.serverRtpVideoPort, client.serverRtcpVideoPort)

/-- A SETUP in `SDPSENT`. -/
def ServerState.handleSetup (variant : Variant) (s : ServerState) (i : Int) (io : RtspIo) :
    Outcome :=
  match io.sockets with
  | .error reason => s.halt reason
  | .ok (rtp, rtcp) =>
      let client := { s.streamclient with setupsreceived := s.streamclient.setupsreceived + 1 }
      let setup := setupSockets variant client rtp rtcp
      match rtspSetup s.rtspmsg setup.1 io.rand setup.2.1 setup.2.2 with
      | .error reason => s.halt (.undefined reason)
      | .ok reply =>
          ({ (s.openUdp rtp).openUdp rtcp with streamclient := reply.1 },
            [.acted i .setup, .reply i reply.2])

/-- A PLAY in `SETUPCOMPLETE`. -/
def ServerState.handlePlay (s : ServerState) (i : Int) (io : RtspIo) : Outcome :=
  Outcome.andThen (s, [.acted i .play, .reply i (rtspPlay s.rtspmsg io.date)]) fun s =>
    if s.download.mediaDownloaded then
      (s.startFiller io.opening).andThen fun s =>
        ((s.pushTimeout io.now 100 .checkMediaState).pushTimeout io.later 2000 .checkMediaState,
          [.armed])
    else s.locked fun s => (s.pushTimeout io.now 100 .checkMediaState, [.armed])

/-- The `switch` on the state of the client. -/
def ServerState.clientSwitch (variant : Variant) (url : List UInt8) (s : ServerState) (i : Int)
    (io : RtspIo) : Outcome :=
  match s.streamclient.state, s.rtspmsg.type with
  | .cliconnected, .options =>
      let reply := rtspOptions s.rtspmsg s.streamclient
      ({ s with streamclient := reply.1 }, [.acted i .options, .reply i reply.2])
  | .cliconnected, .describe => s.handleDescribe url i io
  | .sdpsent, .setup => s.handleSetup variant i io
  | .setupcomplete, .play => s.handlePlay i io
  | _, _ => (s, [])

/-- Data from a client. -/
def ServerState.handleRtsp (variant : Variant) (url : List UInt8) (s : ServerState) (i : Int)
    (io : RtspIo) : Outcome :=
  (s.receiveRtsp i io.received).andThen fun s =>
    (if s.rtspmsg.type = .teardown then s.handleTeardown variant i io else (s, [])).andThen fun s =>
      s.clientSwitch variant url i io

/-! ## The filler -/

/-- The critical section of `fill_queue`: the next event is pushed. -/
def ServerState.pushNext (s : ServerState) (k : Nat) (filler : Filler) (basetime : Clock)
    (next : Option Rtp.Frame) (unset : Timeval) : ServerState :=
  match next with
  | none =>
      let event : TimeoutEvent := ⟨endTime (filler.prevTimestamp.getD unset), .endOfStream⟩
      { s with
        queue := pushed event s.queue
        fillers := s.fillers.set k { filler with basetime := some basetime, pc := .done } }
  | some frame =>
      let time := setTimeval frame.timestamp basetime
      { s with
        queue := pushed ⟨time, .frame frame⟩ s.queue
        fillers := s.fillers.set k { filler with
          basetime := some basetime
          prevTimestamp := some time
          pc := .slept } }

/-- The filler moves on. -/
def ServerState.moveFiller (s : ServerState) (k : Nat) (filler : Filler) (pc : FillerPc) :
    ServerState :=
  { s with fillers := s.fillers.set k { filler with pc := pc } }

/-- A step of a filler, when it is where the action belongs. -/
def ServerState.handleFiller (s : ServerState) (k : Nat) (action : FillerAction) :
    Option ServerState := do
  let filler ← s.fillers[k]?
  match action, filler.pc with
  | .wait, .start => if s.lock = none then some (s.moveFiller k filler .waiting) else none
  | .spurious, .waiting => some (s.moveFiller k filler .woken)
  | .resume now next unset, .woken =>
      if s.lock = none then
        let basetime := filler.basetime.getD now
        if s.queue.length < queueSize then some (s.pushNext k filler basetime next unset)
        -- The inner loop is not entered, and the outer one locks the mutex again.
        else some { s.moveFiller k { filler with basetime := some basetime } .stuck with
            lock := some k }
      else none
  | .test, .slept =>
      some (s.moveFiller k filler (if s.queue.length < queueSize then .tested else .start))
  | .push next unset, .tested =>
      if s.lock = none then
        filler.basetime.map fun basetime => s.pushNext k filler basetime next unset
      else none
  | .unwind, .unwinding =>
      if s.lock = none then some { s.moveFiller k filler .cancelled with lock := some k } else none
  | _, _ => none

/-! ## The machine -/

/-- The branches of the loop over the descriptors, in the order of their tests. -/
inductive Branch where
  | listen
  | sip
  | media
  | rtsp
deriving DecidableEq

def ServerState.branch (variant : Variant) (s : ServerState) (i : Int) : Branch :=
  if i = s.listenfd then .listen
  else if variant = .mt ∧ i = s.sip.siplistenfd then .sip
  else if i = s.mediafd then .media
  else .rtsp

/-- The handling of the next ready descriptor, if it belongs to the branch and the environment can
do what the handler is told. -/
def ServerState.dispatch (variant : Variant) (s : ServerState) (branch : Branch)
    (possible : Int → Bool) (handler : ServerState → Int → Outcome) : Except Unit Outcome :=
  match s.pc with
  | .dispatch (i :: rest) =>
      if s.branch variant i = branch ∧ possible i then
        .ok (handler { s with pc := .dispatch rest } i)
      else .error ()
  | _ => .error ()

/-- New descriptors have numbers which are not open. -/
def Accept.possible (s : ServerState) : Accept → Bool
  | .accepted fd => s.Fresh fd
  | _ => true

def DatagramIo.possible (s : ServerState) (io : DatagramIo) : Bool :=
  io.received.length ≤ bufSize &&
    match io.rtpfd with
    | .ok fd => s.Fresh fd
    | .error _ => true

def RtspIo.possible (s : ServerState) (i : Int) (io : RtspIo) : Bool :=
  decide (s.CanRecv i bufSize io.received) &&
    (match io.fetch with
      | .ok (fd, _) => s.Fresh fd
      | .error _ => true) &&
    match io.sockets with
    | .ok (rtp, rtcp) =>
        (rtp = -1 || s.Fresh rtp) && (rtcp = -1 || (s.Fresh rtcp && rtp ≠ rtcp))
    | .error _ => true

/-- One step. An input which cannot happen in a state is refused. -/
def step (variant : Variant) (url : List UInt8) (s : ServerState) :
    Input → Except Unit Outcome
  | .timeout now wake =>
      if s.pc = .select ∧ s.timeind ≠ none then .ok (s.handleTimeout variant now wake)
      else .error ()
  -- `nready` is -1 and the loop ends at descriptor 0; the set is as it was before the call.
  | .interrupted =>
      if s.pc = .select then
        .ok ({ s with pc := .dispatch (if s.masterfds 0 ∧ 0 ≤ s.maxfd then [0] else []) }, [])
      else .error ()
  | .ready fds =>
      if s.pc = .select ∧ fds ≠ [] ∧ fds.Pairwise (· < ·) ∧
          ∀ fd ∈ fds, s.masterfds fd = true ∧ 0 ≤ fd ∧ fd ≤ s.maxfd then
        .ok ({ s with pc := .dispatch fds }, [])
      else .error ()
  | .accept result =>
      s.dispatch variant .listen (fun _ => result.possible s) fun s _ => s.handleAccept result
  | .datagram io =>
      s.dispatch variant .sip (fun _ => io.possible s) fun s _ => s.handleDatagram io
  | .media io =>
      s.dispatch variant .media (fun i => s.CanDeliver i io) fun s i => s.handleMedia i io
  | .rtsp io =>
      s.dispatch variant .rtsp (io.possible s) fun s i => s.handleRtsp variant url i io
  | .rearm now => if s.pc = .dispatch [] then .ok (s.rearm now) else .error ()
  | .filler k action =>
      match s.pc with
      | .halted .exited | .halted (.undefined _) => .error ()
      | _ =>
          match s.handleFiller k action with
          | none => .error ()
          | some s => .ok (s, [])

/-- The state in which the main loop is entered. -/
structure Initial (variant : Variant) (s : ServerState) : Prop where
  pc : s.pc = .select
  listenfd : s.kernel s.listenfd = some .listener
  videofd : s.kernel s.videofd = some .file
  siplistenfd : variant = .mt → s.kernel s.sip.siplistenfd = some .udp
  others : ∀ fd, fd ≠ s.sip.siplistenfd → s.kernel fd = none ∨ s.kernel fd = some .file ∨
    s.kernel fd = some .listener
  negative : ∀ fd, fd < 0 → s.kernel fd = none
  mediafd : s.mediafd = -1
  maxfd : s.maxfd = s.listenfd
  masterfds : ∀ fd, s.masterfds fd = true ↔
    fd = s.listenfd ∨ (variant = .mt ∧ fd = s.sip.siplistenfd)
  timeind : s.timeind = none
  mediastate : s.download.mediastate = .idle
  notDownloaded : s.download.mediaDownloaded = false
  file : s.download.file = []
  streamclient : s.streamclient = initClient
  threadid : s.threadid = none
  tinfo : s.tinfo = none
  queue : s.queue = []
  lock : s.lock = none
  fillers : s.fillers = []
  allocated : s.allocated = 0
  freed : s.freed = []
  nclients : s.sip.nclients = 0
  clientlist : ∀ k, s.sip.clientlist k = none
  sipmasterfds : ∀ fd, s.sip.sipmasterfds fd = false
  sipInbuf : s.sip.sipInbuf.length = bufSize

/-- The server, for the URL it was started with. -/
def machine (variant : Variant) (url : List UInt8) : Machine ServerState Input Output Unit where
  Initial := Initial variant
  step := step variant url

/-- A state in which the main loop may be entered. -/
def startState (variant : Variant) : ServerState where
  pc := .select
  kernel fd := if fd = 3 then some .udp else if fd = 4 then some .file
    else if fd = 5 then some .listener else none
  listenfd := 5
  videofd := 4
  mediafd := -1
  maxfd := 5
  masterfds fd := decide (fd = 5 ∨ (variant = .mt ∧ fd = 3))
  timeind := none
  download := ⟨.idle, 0, 0, false, []⟩
  rtspmsg := RTSPMsg.zero
  streamclient := initClient
  threadid := none
  tinfo := none
  rtpseqnoVideo := 0
  rtpseqnoAudio := 0
  queue := []
  lock := none
  fillers := []
  allocated := 0
  freed := []
  sip :=
    { siplistenfd := 3
      nclients := 0
      clientlist := fun _ => none
      sipmasterfds := fun _ => false
      sipInbuf := List.replicate bufSize 0 }

theorem startState_initial (variant : Variant) (url : List UInt8) :
    (machine variant url).Initial (startState variant) where
  pc := rfl
  listenfd := rfl
  videofd := rfl
  siplistenfd _ := rfl
  others fd other := by
    have notSip : fd ≠ 3 := other
    simp only [startState, if_neg notSip]
    split
    · exact Or.inr (Or.inl rfl)
    · split
      · exact Or.inr (Or.inr rfl)
      · exact Or.inl rfl
  negative fd negative := by
    simp only [startState]
    rw [if_neg (by omega), if_neg (by omega), if_neg (by omega)]
  mediafd := rfl
  maxfd := rfl
  masterfds fd := by simp [startState]
  timeind := rfl
  mediastate := rfl
  notDownloaded := rfl
  file := rfl
  streamclient := rfl
  threadid := rfl
  tinfo := rfl
  queue := rfl
  lock := rfl
  fillers := rfl
  allocated := rfl
  freed := rfl
  nclients := rfl
  clientlist _ := rfl
  sipmasterfds _ := rfl
  sipInbuf := List.length_replicate

/-! ## Scripts for this state -/

/-- The clock of the scripts. -/
def someTime : Clock := ⟨⟨1000, 0⟩, Int.le_refl 0, Int.pow_pos (by omega)⟩

/-- The URL of the scripts. -/
def someUrl : List UInt8 := ascii "host/video.mp4"

/-- The header of a response with a body of one byte. -/
def someHeader : List UInt8 := ascii "HTTP/1.1 200 OK\r\nContent-Length: 1\r\n\r\n"

/-- That response. -/
def someResponse : List UInt8 := someHeader ++ [7]

/-- A client connects and gets this descriptor. -/
def connect (fd : Int) : List Input := [.ready [5], .accept (.accepted fd), .rearm someTime]

/-- A client sends a text. Sockets can be opened for it, and the media file if it is there; there is
no connection to the source. -/
def RtspIo.text (received : List UInt8) : RtspIo where
  received := received
  rand := 0
  date := []
  fetch := .error .exited
  sockets := .ok (-1, -1)
  opening := .ok ⟨[0x67], [0x68]⟩
  now := someTime
  later := someTime
  wake := 0

/-- A request of one line. -/
def RtspIo.line (method : String) : RtspIo := RtspIo.text (ascii method ++ crlfcrlf)

/-- A client is heard on its descriptor. -/
def request (fd : Int) (io : RtspIo) : List Input := [.ready [fd], .rtsp io, .rearm someTime]

/-- A DESCRIBE on which the response is requested, on a new descriptor. -/
def describe (fd source : Int) (response : List UInt8) : List Input :=
  request fd { RtspIo.line "DESCRIBE" with fetch := .ok (source, response) }

/-- Two SETUPs and a PLAY. -/
def play (fd : Int) : List Input :=
  request fd (RtspIo.line "SETUP") ++ request fd (RtspIo.line "SETUP") ++ request fd (RtspIo.line "PLAY")

/-- The source is heard on its descriptor: a peek and a receipt, without failures. -/
def media (fd : Int) (peeked received : List UInt8) : List Input :=
  [.ready [fd], .media ⟨peeked, received, [], .ok ⟨[0x67], [0x68]⟩, someTime⟩, .rearm someTime]

end Http2Rtsp.Server
