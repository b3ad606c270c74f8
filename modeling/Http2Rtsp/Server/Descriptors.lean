import Http2Rtsp.Server.Intake
import Http2Rtsp.Server.OneFiller
import Http2Rtsp.Server.SipTable

/-!
# Descriptors

What is open under a descriptor changes for few reasons: a branch of the loop
hears from it, or something is opened where nothing was, or the owner of a socket
or file closes it. Descriptors which nobody listens on, the sockets for media, are
only closed by their owners.
-/

namespace Http2Rtsp.Server

open Http2Rtsp.Std Http2Rtsp.Message Http2Rtsp.Pacing Http2Rtsp.Semantics

/-! ## Branches -/

/-- The media branch is for the media descriptor. -/
theorem branch_media {variant : Variant} {s : ServerState} {i : Int}
    (branch : s.branch variant i = .media) : i = s.mediafd := by
  unfold ServerState.branch at branch
  split at branch
  · cases branch
  · split at branch
    · cases branch
    · split at branch
      · assumption
      · cases branch

/-- The RTSP branch is not. -/
theorem branch_rtsp {variant : Variant} {s : ServerState} {i : Int}
    (branch : s.branch variant i = .rtsp) : i ≠ s.mediafd := by
  unfold ServerState.branch at branch
  split at branch
  · cases branch
  · split at branch
    · cases branch
    · split at branch
      · cases branch
      · assumption

/-- `start_server` has no SIP branch. -/
theorem branch_server {s : ServerState} {i : Int} : s.branch .server i ≠ .sip := by
  unfold ServerState.branch
  split
  · nofun
  · rw [if_neg (by simp)]
    split <;> nofun

/-! ## Receipts -/

/-- What storing leaves alone in the kernel. -/
theorem storeMedia_kernel {s : ServerState} {i fd : Int} {io : MediaIo} (differs : fd ≠ i) :
    (s.storeMedia i io).kernel fd = s.kernel fd := by
  unfold ServerState.storeMedia
  dsimp only
  split
  · simp [ServerState.close, ServerState.recv, differs]
  · simp [ServerState.recv, differs]

/-- What the environment promises about a request. -/
theorem RtspIo.possible_iff {s : ServerState} {i : Int} {io : RtspIo}
    (possible : io.possible s i = true) :
    s.CanRecv i bufSize io.received ∧
      (∀ fd response, io.fetch = .ok (fd, response) → s.Fresh fd) ∧
      ∀ rtp rtcp, io.sockets = .ok (rtp, rtcp) →
        (rtp = -1 ∨ s.Fresh rtp) ∧ (rtcp = -1 ∨ s.Fresh rtcp) := by
  simp only [RtspIo.possible, Bool.and_eq_true, decide_eq_true_eq] at possible
  obtain ⟨⟨receives, fetch⟩, sockets⟩ := possible
  refine ⟨receives, fun fd response opened => ?_, fun rtp rtcp opened => ?_⟩
  · rw [opened] at fetch
    exact of_decide_eq_true fetch
  · rw [opened] at sockets
    simp only [Bool.and_eq_true, Bool.or_eq_true, decide_eq_true_eq] at sockets
    exact ⟨sockets.1, sockets.2.imp_right And.left⟩

/-- A receipt touches its own descriptor only. -/
theorem ReceiveEffect.kernel {s after : ServerState} {i : Int} {received : List UInt8}
    {output : List Output} (effect : ReceiveEffect s i received after output) {fd : Int}
    (differs : fd ≠ i) : after.kernel fd = s.kernel fd := by
  cases effect with
  | closed opened empty => simp [ServerState.close, differs]
  | message opened nonempty terminated parsed => simp [ServerState.recv, differs]

/-- Descriptors which were free before a receipt are free behind it. -/
theorem ReceiveEffect.fresh {s after : ServerState} {i : Int} {received : List UInt8}
    {output : List Output} (effect : ReceiveEffect s i received after output) {fd : Int}
    (fresh : s.Fresh fd) : after.Fresh fd := by
  have opened : s.kernel i ≠ none := by
    cases effect with
    | closed opened empty => exact opened
    | message opened nonempty terminated parsed => exact opened
  have differs : fd ≠ i := by
    rintro rfl
    exact opened fresh.2
  exact ⟨fresh.1, (effect.kernel differs).trans fresh.2⟩

/-! ## The sockets of the client -/

/-- The sockets media is sent to. -/
def clientSockets (client : Client) : List Int :=
  [client.videofds.1, client.videofds.2, client.audiofds.1, client.audiofds.2]

/-- The sockets of the client are open as such. -/
def SocketsOpen (s : ServerState) : Prop :=
  ∀ fd ∈ clientSockets s.streamclient, fd = -1 ∨ s.kernel fd = some .udp

/-- The sockets of a SETUP are its own ones and those which were there. -/
theorem mem_setupClient {variant : Variant} {client : Client} {rtp rtcp session fd : Int}
    (member : fd ∈ clientSockets (setupClient variant client rtp rtcp session)) :
    fd ∈ clientSockets client ∨ fd = rtp ∨ fd = rtcp := by
  unfold setupClient setupSockets at member
  split at member
  · simp only [clientSockets, List.mem_cons, List.not_mem_nil, or_false] at member ⊢
    tauto
  · cases variant <;>
      simp only [clientSockets, List.mem_cons, List.not_mem_nil, or_false] at member ⊢ <;> tauto

theorem openUdp_kernel (s : ServerState) (fd other : Int) :
    (s.openUdp fd).kernel other = if other = fd ∧ 0 ≤ fd then some .udp else s.kernel other := by
  unfold ServerState.openUdp
  by_cases valid : 0 ≤ fd <;> simp [valid, ServerState.openFd, Function.update_apply]

/-! ## What a step does to a descriptor -/

/-- A connection, of a client or to the source. -/
def Endpoint.IsStream : Endpoint → Prop
  | .peer | .source _ => True
  | _ => False

/-- Only connections are heard from. -/
theorem delivers_stream {endpoint : Endpoint} {size : Nat} {bytes : List UInt8}
    (delivers : endpoint.delivers size bytes = true) : endpoint.IsStream := by
  cases endpoint with
  | peer => trivial
  | source pending => trivial
  | listener => cases delivers
  | file => cases delivers
  | udp => cases delivers

/-- Why the entry of a descriptor may change. -/
inductive Touched (s after : ServerState) (fd : Int) : Prop where
  | opened (free : s.kernel fd = none)
  | heard {rest endpoint} (pc : s.pc = .dispatch (fd :: rest))
      (known : s.kernel fd = some endpoint) (stream : endpoint.IsStream)
  | file (videofd : fd = s.videofd) (absent : s.download.mediaDownloaded = false)
      (done : after.download.mediaDownloaded = true)
  | socket (member : fd ∈ clientSockets s.streamclient) (reset : after.streamclient = initClient)
  | call {k client} (there : s.sip.clientlist k = some client) (sockfd : fd = client.sockfd)
      (removed : after.sip.clientlist = Function.update s.sip.clientlist k none)

/-- What is heard on is a connection, if it is open. -/
theorem Touched.of_receipt {s after : ServerState} {i : Int} {rest : List Int} {size : Nat}
    {bytes : List UInt8} (pc : s.pc = .dispatch (i :: rest)) (receives : s.CanRecv i size bytes) :
    Touched s after i := by
  cases known : s.kernel i with
  | none => exact .opened known
  | some endpoint => exact .heard pc known (delivers_stream (receives endpoint known))

/-- The media branch may receive what it receives. -/
theorem ServerState.CanDeliver.receives {s : ServerState} {i : Int} {io : MediaIo}
    (possible : s.CanDeliver i io)
    (reads : s.download.mediastate = .getsent ∨ s.download.mediastate = .recvtcp) :
    ∃ size, s.CanRecv i size io.received := by
  rcases reads with getsent | recvtcp
  · simp only [ServerState.CanDeliver, getsent] at possible
    exact ⟨_, possible.2⟩
  · simp only [ServerState.CanDeliver, recvtcp] at possible
    exact ⟨_, possible⟩

theorem MediaEffect.touches {s after : ServerState} {i : Int} {rest : List Int} {io : MediaIo}
    {output : List Output} (effect : MediaEffect { s with pc := .dispatch rest } i io after output)
    (pc : s.pc = .dispatch (i :: rest)) (media : i = s.mediafd) (order : DownloadOrder s)
    (possible : s.CanDeliver i io) (fd : Int) : after.kernel fd = s.kernel fd ∨ Touched s after fd := by
  by_cases same : fd = i
  · subst same
    cases effect with
    | ignored other => exact Or.inl rfl
    | failed reason reads => exact Or.inl rfl
    | header getsent opened found parsed =>
        obtain ⟨size, receives⟩ := possible.receives (Or.inl getsent)
        exact Or.inr (.of_receipt pc receives)
    | stored recvtcp opened more =>
        obtain ⟨size, receives⟩ := possible.receives (Or.inr recvtcp)
        exact Or.inr (.of_receipt pc receives)
    | completed recvtcp opened last effect =>
        obtain ⟨size, receives⟩ := possible.receives (Or.inr recvtcp)
        exact Or.inr (.of_receipt pc receives)
  · have stored := @storeMedia_kernel { s with pc := .dispatch rest } i fd io same
    cases effect with
    | ignored other => exact Or.inl rfl
    | failed reason reads => exact Or.inl rfl
    | header getsent opened found parsed => exact Or.inl (by simp [ServerState.recv, same])
    | stored recvtcp opened more => exact Or.inl stored
    | completed recvtcp opened last effect =>
        have running : s.Running := fun reason => by simp [pc]
        have absent := order.reading running (Or.inr recvtcp)
        obtain ⟨kernel, masterfds, eq⟩ := storeMedia_eq { s with pc := .dispatch rest } i io
        have done := effect.finishes.2.1
        by_cases file : fd = s.videofd
        · exact Or.inr (.file file absent done)
        · have other : fd ≠ s.mediafd := media ▸ same
          refine Or.inl ?_
          rw [eq] at effect stored
          cases effect <;>
            simpa [ServerState.closeDownload, ServerState.close, ServerState.launch,
              ServerState.createFiller, ServerState.pushTimeout, file, other] using stored

theorem TeardownEffect.touches {variant : Variant} {s after : ServerState} {i : Int} {io : RtspIo}
    {output : List Output} (effect : TeardownEffect variant s i io after output) {fd : Int}
    (other : fd ≠ i) : after.kernel fd = s.kernel fd ∨
      (fd ∈ clientSockets s.streamclient ∧ after.streamclient = initClient) := by
  cases effect with
  | locked taken => exact Or.inl rfl
  | dangling free dead => exact Or.inl rfl
  | done free armed =>
      by_cases member : fd ∈ clientSockets s.streamclient
      · exact Or.inr ⟨member, rfl⟩
      · simp only [clientSockets, List.mem_cons, List.not_mem_nil, or_false, not_or] at member
        exact Or.inl (by simp [ServerState.tearDown, ServerState.close, other, member])

theorem SwitchEffect.touches {variant : Variant} {s after : ServerState} {i : Int} {io : RtspIo}
    {output : List Output} (effect : SwitchEffect variant s i io after output)
    (fetch : ∀ fd response, io.fetch = .ok (fd, response) → s.Fresh fd)
    (sockets : ∀ rtp rtcp, io.sockets = .ok (rtp, rtcp) →
      (rtp = -1 ∨ s.Fresh rtp) ∧ (rtcp = -1 ∨ s.Fresh rtcp)) (fd : Int) :
    after.kernel fd = s.kernel fd ∨ s.kernel fd = none := by
  cases effect with
  | @fetched new request response cseq text state type absent fetched =>
      by_cases same : fd = new
      · exact Or.inr (same ▸ (fetch new response fetched).2)
      · exact Or.inl (by simp [ServerState.openFd, same])
  | @setup rtp rtcp session text state type opened =>
      obtain ⟨freeRtp, freeRtcp⟩ := sockets rtp rtcp opened
      simp only [openUdp_kernel]
      split_ifs with isRtcp isRtp
      · refine Or.inr (freeRtcp.elim (fun failed => ?_) fun fresh => isRtcp.1 ▸ fresh.2)
        omega
      · refine Or.inr (freeRtp.elim (fun failed => ?_) fun fresh => isRtp.1 ▸ fresh.2)
        omega
      · exact Or.inl rfl
  | _ => exact Or.inl rfl

theorem RtspEffect.touches {variant : Variant} {s after : ServerState} {i : Int} {rest : List Int}
    {io : RtspIo} {output : List Output}
    (effect : RtspEffect variant { s with pc := .dispatch rest } i io after output)
    (pc : s.pc = .dispatch (i :: rest)) (possible : io.possible s i = true) (fd : Int) :
    after.kernel fd = s.kernel fd ∨ Touched s after fd := by
  obtain ⟨receives, fetch, sockets⟩ := RtspIo.possible_iff possible
  by_cases same : fd = i
  · subst same
    exact Or.inr (.of_receipt pc receives)
  · cases effect with
    | failed reason unread => exact Or.inl rfl
    | @teardown received _ _ _ receive type effect =>
        have kept : received.kernel fd = s.kernel fd := receive.kernel same
        have client : clientSockets received.streamclient = clientSockets s.streamclient := by
          cases receive <;> rfl
        rcases effect.touches same with unchanged | ⟨member, reset⟩
        · exact Or.inl (unchanged.trans kept)
        · exact Or.inr (.socket (client ▸ member) reset)
    | @switched received _ _ _ receive type effect =>
        have kept : received.kernel fd = s.kernel fd := receive.kernel same
        have fetch' : ∀ new response, io.fetch = .ok (new, response) → received.Fresh new :=
          fun new response fetched => receive.fresh (fetch new response fetched)
        have sockets' : ∀ rtp rtcp, io.sockets = .ok (rtp, rtcp) →
            (rtp = -1 ∨ received.Fresh rtp) ∧ (rtcp = -1 ∨ received.Fresh rtcp) := by
          intro rtp rtcp opened
          obtain ⟨freeRtp, freeRtcp⟩ := sockets rtp rtcp opened
          exact ⟨freeRtp.imp_right receive.fresh, freeRtcp.imp_right receive.fresh⟩
        rcases effect.touches fetch' sockets' fd with unchanged | free
        · exact Or.inl (unchanged.trans kept)
        · exact Or.inr (.opened (kept ▸ free))

theorem DatagramEffect.touches {s after : ServerState} {rest : List Int} {io : DatagramIo}
    (effect : DatagramEffect { s with pc := .dispatch rest } io after)
    (fresh : ∀ rtpfd, io.rtpfd = .ok rtpfd → s.Fresh rtpfd) (fd : Int) :
    after.kernel fd = s.kernel fd ∨ Touched s after fd := by
  have connected : ∀ {rtpfd}, io.rtpfd = .ok rtpfd →
      (s.openFd rtpfd .udp).kernel fd = s.kernel fd ∨ s.kernel fd = none := by
    intro rtpfd opened
    by_cases same : fd = rtpfd
    · exact Or.inr (same ▸ (fresh rtpfd opened).2)
    · exact Or.inl (by simp [ServerState.openFd, same])
  cases effect with
  | unread unread => exact Or.inl rfl
  | read reads effect =>
      cases effect with
      | full type full => exact Or.inl rfl
      | unconnected type failed => exact Or.inl rfl
      | homeless invites noPlace => exact (connected invites.connected).imp_right .opened
      | entered invites free => exact (connected invites.connected).imp_right .opened
      | unknown type absent => exact Or.inl rfl
      | acked type there call => exact Or.inl rfl
      | @removed k client type there call =>
          by_cases same : fd = client.sockfd
          · exact Or.inr (.call there same rfl)
          · exact Or.inl (by simp [ServerState.close, ServerState.buffered, same])

/-- A step changes the entry of a descriptor only for one of these reasons. -/
theorem step_kernel {variant : Variant} {url : List UInt8} {s after : ServerState} {input : Input}
    {output : List Output} (order : DownloadOrder s)
    (taken : step variant url s input = .ok (after, output)) (fd : Int) :
    after.kernel fd = s.kernel fd ∨ Touched s after fd := by
  rcases step_sip taken with ⟨-, other⟩ | ⟨io, i, rest, -, -, -, possible, effect⟩
  · cases step_cases taken with
    | datagram pc branch effect => exact absurd rfl (other _)
    | timeout pc set effect =>
        cases effect with
        | handled free queued effect => cases effect <;> exact Or.inl rfl
        | _ => exact Or.inl rfl
    | @accept result i rest after output pc branch possible effect =>
        cases effect with
        | halted reason => exact Or.inl rfl
        | rejected busy => exact Or.inl rfl
        | @accepted new accepted free =>
            subst accepted
            have fresh : s.Fresh new := of_decide_eq_true possible
            by_cases same : fd = new
            · exact Or.inr (.opened (same ▸ fresh.2))
            · exact Or.inl (by simp [ServerState.openFd, same])
    | media pc branch possible effect =>
        exact effect.touches pc (branch_media branch) order possible fd
    | rtsp pc branch possible effect => exact effect.touches pc possible fd
    | rearmed pc free =>
        rw [ServerState.rearm, locked_free free]
        exact Or.inl rfl
    | filler effect =>
        obtain ⟨queue, lock, fillers, rfl, -⟩ := effect.only
        exact Or.inl rfl
    | _ => exact Or.inl rfl
  · have fresh : ∀ rtpfd, io.rtpfd = .ok rtpfd → s.Fresh rtpfd := by
      intro rtpfd opened
      simp only [DatagramIo.possible, opened, Bool.and_eq_true, decide_eq_true_eq] at possible
      exact possible.2
    exact effect.touches fresh fd

end Http2Rtsp.Server
