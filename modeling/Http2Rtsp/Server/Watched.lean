import Http2Rtsp.Server.Routing
import Http2Rtsp.Server.Stall

/-!
# What `Select` is called with

Connections are opened and closed in many places: by `accept`, for a download, when
the other end hangs up, on a TEARDOWN. Each of them sets or clears the descriptor
in `masterfds` as well. So a descriptor which is heard from is open, and none of
the connections is forgotten, even where the server takes one for another.
-/

namespace Http2Rtsp.Server

open Http2Rtsp.Std Http2Rtsp.Message Http2Rtsp.Pacing Http2Rtsp.Semantics

/-! ## Connections -/

/-- There is a connection under the descriptor. -/
def Streams (kernel : Int → Option Endpoint) (fd : Int) : Prop :=
  ∃ endpoint, kernel fd = some endpoint ∧ endpoint.IsStream

section Streams

variable {kernel : Int → Option Endpoint} {fd other : Int}

theorem streams_close : Streams (Function.update kernel fd none) other ↔
    other ≠ fd ∧ Streams kernel other := by
  by_cases same : other = fd
  · simp [Streams, same]
  · simp [Streams, same]

/-- Of what was no connection, none is closed. -/
theorem streams_close_other (silent : ¬ Streams kernel fd) :
    Streams (Function.update kernel fd none) other ↔ Streams kernel other := by
  rw [streams_close]
  refine and_iff_right_of_imp fun stream => ?_
  rintro rfl
  exact silent stream

theorem streams_open {endpoint : Endpoint} (stream : endpoint.IsStream) :
    Streams (Function.update kernel fd (some endpoint)) other ↔ other = fd ∨ Streams kernel other := by
  by_cases same : other = fd
  · simp [Streams, same, stream]
  · simp [Streams, same]

/-- Something else is opened. -/
theorem streams_open_other {endpoint : Endpoint} (other_ : ¬ endpoint.IsStream) (free : kernel fd = none) :
    Streams (Function.update kernel fd (some endpoint)) other ↔ Streams kernel other := by
  by_cases same : other = fd
  · simp [Streams, same, free, other_]
  · simp [Streams, same]

theorem consume_isStream {endpoint : Endpoint} {bytes : List UInt8} :
    (endpoint.consume bytes).IsStream ↔ endpoint.IsStream := by
  cases endpoint <;> exact Iff.rfl

theorem streams_recv {bytes : List UInt8} :
    Streams (Function.update kernel fd ((kernel fd).map fun e => e.consume bytes)) other ↔
      Streams kernel other := by
  by_cases same : other = fd
  · subst same
    simp [Streams, consume_isStream]
  · simp [Streams, same]

theorem streams_udp (udp : kernel fd = some .udp) : ¬ Streams kernel fd := by
  simp [Streams, udp, Endpoint.IsStream]

theorem streams_file (file : kernel fd = some .file) : ¬ Streams kernel fd := by
  simp [Streams, file, Endpoint.IsStream]

theorem streams_absent (absent : kernel fd = none) : ¬ Streams kernel fd := by
  simp [Streams, absent]

end Streams

/-! ## What a handler does to the descriptors which are watched -/

/-- The same descriptors are watched and the same connections are open. -/
structure KeepsWatch (s after : ServerState) : Prop where
  masterfds : after.masterfds = s.masterfds
  maxfd : after.maxfd = s.maxfd
  streams : ∀ fd, Streams after.kernel fd ↔ Streams s.kernel fd

/-- A new connection is opened and watched. -/
structure Opens (s after : ServerState) (fd : Int) : Prop where
  fresh : s.Fresh fd
  masterfds : after.masterfds = fdSet s.masterfds fd
  maxfd : after.maxfd = max s.maxfd fd
  streams : ∀ other, Streams after.kernel other ↔ other = fd ∨ Streams s.kernel other

/-- One connection is closed and not watched any more. -/
structure Closes (s after : ServerState) (i : Int) : Prop where
  masterfds : after.masterfds = fdClr s.masterfds i
  maxfd : after.maxfd = s.maxfd
  streams : ∀ fd, Streams after.kernel fd ↔ fd ≠ i ∧ Streams s.kernel fd

theorem KeepsWatch.of_eq {s after : ServerState} (masterfds : after.masterfds = s.masterfds)
    (maxfd : after.maxfd = s.maxfd) (kernel : after.kernel = s.kernel) : KeepsWatch s after :=
  ⟨masterfds, maxfd, fun fd => by rw [kernel]⟩

section Sequence

variable {s middle after : ServerState} {i fd : Int}

theorem KeepsWatch.trans (first : KeepsWatch s middle) (second : KeepsWatch middle after) :
    KeepsWatch s after :=
  ⟨second.masterfds.trans first.masterfds, second.maxfd.trans first.maxfd, fun fd =>
    (second.streams fd).trans (first.streams fd)⟩

theorem KeepsWatch.opens (first : KeepsWatch s middle) (fresh : s.Fresh fd)
    (second : Opens middle after fd) : Opens s after fd where
  fresh := fresh
  masterfds := by rw [second.masterfds, first.masterfds]
  maxfd := by rw [second.maxfd, first.maxfd]
  streams other := by rw [second.streams, first.streams]

theorem KeepsWatch.closes (first : KeepsWatch s middle) (second : Closes middle after i) :
    Closes s after i where
  masterfds := by rw [second.masterfds, first.masterfds]
  maxfd := second.maxfd.trans first.maxfd
  streams fd := by rw [second.streams, first.streams]

theorem Closes.keeps (first : Closes s middle i) (second : KeepsWatch middle after) :
    Closes s after i where
  masterfds := second.masterfds.trans first.masterfds
  maxfd := second.maxfd.trans first.maxfd
  streams fd := (second.streams fd).trans (first.streams fd)

theorem Closes.twice (first : Closes s middle i) (second : Closes middle after i) :
    Closes s after i where
  masterfds := by
    rw [second.masterfds, first.masterfds]
    exact Function.update_idem ..
  maxfd := second.maxfd.trans first.maxfd
  streams fd := by rw [second.streams, first.streams, and_self_left]

end Sequence

/-- What the handling of a descriptor comes to. -/
inductive WatchEffect (s after : ServerState) (i : Int) : Prop where
  | kept (keeps : KeepsWatch s after)
  | opened {fd} (opens : Opens s after fd)
  | closed (closes : Closes s after i)

theorem AcceptEffect.watches {s after : ServerState} {result : Accept} {output : List Output}
    (effect : AcceptEffect s result after output) (possible : result.possible s = true) :
    KeepsWatch s after ∨ ∃ fd, Opens s after fd := by
  cases effect with
  | halted reason => exact Or.inl (.of_eq rfl rfl rfl)
  | rejected busy => exact Or.inl (.of_eq rfl rfl rfl)
  | @accepted fd accepted free =>
      subst accepted
      exact Or.inr ⟨fd, of_decide_eq_true possible, rfl, max_comm fd s.maxfd, fun other =>
        streams_open trivial⟩

/-! ### The source -/

/-- What is received is written to the file; at the end of the connection it is closed. -/
theorem storeMedia_watches {s : ServerState} {i : Int} {io : MediaIo} :
    KeepsWatch s (s.storeMedia i io) ∨ Closes s (s.storeMedia i io) i := by
  by_cases ended : io.received = []
  · refine Or.inr ⟨?_, ?_, fun fd => ?_⟩
    · simp only [ServerState.storeMedia, if_pos ended]
      rfl
    · simp only [ServerState.storeMedia, if_pos ended]
      rfl
    · simp only [ServerState.storeMedia, if_pos ended]
      exact streams_close.trans (and_congr_right fun _ => streams_recv)
  · refine Or.inl ⟨?_, ?_, fun fd => ?_⟩
    · simp only [ServerState.storeMedia, if_neg ended]
      rfl
    · simp only [ServerState.storeMedia, if_neg ended]
      rfl
    · simp only [ServerState.storeMedia, if_neg ended]
      exact streams_recv

/-- The file which is closed along with the connection is none. -/
theorem CompleteEffect.watches {s after : ServerState} {io : MediaIo} {output : List Output}
    (effect : CompleteEffect s io after output) (file : ¬ Streams s.kernel s.videofd) :
    Closes s after s.mediafd := by
  obtain ⟨-, masterfds, kernel, -⟩ := effect.closes
  refine ⟨masterfds, ?_, fun fd => ?_⟩
  · cases effect <;> rfl
  · rw [kernel, streams_close, streams_close_other file]

theorem MediaEffect.watches {s after : ServerState} {i : Int} {io : MediaIo} {output : List Output}
    (effect : MediaEffect s i io after output) (media : i = s.mediafd)
    (file : s.download.mediastate = .recvtcp → s.kernel s.videofd = some .file) :
    WatchEffect s after i := by
  cases effect with
  | ignored other => exact .kept (.of_eq rfl rfl rfl)
  | failed reason reads => exact .kept (.of_eq rfl rfl rfl)
  | header getsent opened found parsed => exact .kept ⟨rfl, rfl, fun fd => streams_recv⟩
  | stored recvtcp opened more =>
      rcases storeMedia_watches with keeps | closes
      · exact .kept keeps
      · exact .closed closes
  | completed recvtcp opened last effect =>
      obtain ⟨kernel, masterfds, eq⟩ := storeMedia_eq s i io
      have sameFile : (s.storeMedia i io).videofd = s.videofd := by rw [eq]
      have sameMedia : (s.storeMedia i io).mediafd = i := by rw [eq, media]
      have silent := streams_file (file recvtcp)
      rcases @storeMedia_watches s i io with keeps | closes
      · have behind := effect.watches (by rwa [sameFile, keeps.streams])
        rw [sameMedia] at behind
        exact .closed (keeps.closes behind)
      · have behind := effect.watches (by
          rw [sameFile, closes.streams]
          exact fun stream => silent stream.2)
        rw [sameMedia] at behind
        exact .closed (closes.twice behind)

/-! ### The client -/

/-- A receipt keeps the connection, or closes it, and then the client is gone. -/
theorem ReceiveEffect.watches {s after : ServerState} {i : Int} {received : List UInt8}
    {output : List Output} (effect : ReceiveEffect s i received after output) :
    KeepsWatch s after ∨ (after.streamclient.state = .noclient ∧ Closes s after i) := by
  cases effect with
  | closed opened empty => exact Or.inr ⟨rfl, rfl, rfl, fun fd => streams_close⟩
  | message opened nonempty terminated parsed => exact Or.inl ⟨rfl, rfl, fun fd => streams_recv⟩

/-- The sockets of the client are closed: none of them is a connection. -/
theorem streams_closeSockets {kernel : Int → Option Endpoint} {client : Client} {fd : Int}
    (sockets : ∀ fd ∈ clientSockets client, ¬ Streams kernel fd) :
    Streams (Function.update (Function.update (Function.update (Function.update kernel
      client.videofds.1 none) client.videofds.2 none) client.audiofds.1 none) client.audiofds.2 none)
      fd ↔ Streams kernel fd := by
  simp only [clientSockets, List.mem_cons, List.not_mem_nil, or_false, forall_eq_or_imp,
    forall_eq] at sockets
  obtain ⟨rtpVideo, rtcpVideo, rtpAudio, rtcpAudio⟩ := sockets
  rw [streams_close, streams_close, streams_close, streams_close]
  constructor
  · exact fun stream => stream.2.2.2.2
  · intro stream
    refine ⟨?_, ?_, ?_, ?_, stream⟩ <;> rintro rfl
    · exact rtcpAudio stream
    · exact rtpAudio stream
    · exact rtcpVideo stream
    · exact rtpVideo stream

theorem TeardownEffect.watches {variant : Variant} {s after : ServerState} {i : Int} {io : RtspIo}
    {output : List Output} (effect : TeardownEffect variant s i io after output)
    (sockets : ∀ fd ∈ clientSockets s.streamclient, ¬ Streams s.kernel fd) :
    KeepsWatch s after ∨ Closes s after i := by
  cases effect with
  | locked taken => exact Or.inl (.of_eq rfl rfl rfl)
  | dangling free dead => exact Or.inl (.of_eq rfl rfl rfl)
  | done free armed =>
      refine Or.inr ⟨rfl, rfl, fun fd => ?_⟩
      have silent : ∀ fd ∈ clientSockets s.streamclient, ¬ Streams (s.close i).kernel fd :=
        fun fd member stream => sockets fd member (streams_close.mp stream).2
      exact (streams_closeSockets silent).trans streams_close

/-- A socket for media is no connection. -/
theorem streams_openUdp {s : ServerState} {fd other : Int} (free : fd = -1 ∨ s.kernel fd = none) :
    Streams (s.openUdp fd).kernel other ↔ Streams s.kernel other := by
  unfold ServerState.openUdp
  split
  · rename_i valid
    refine streams_open_other not_false (free.resolve_left ?_)
    omega
  · exact Iff.rfl

/-- The sockets of a SETUP are new, and two of them. -/
def RtspIo.NewSockets (s : ServerState) (io : RtspIo) : Prop :=
  ∀ rtp rtcp, io.sockets = .ok (rtp, rtcp) →
    (rtp = -1 ∨ s.Fresh rtp) ∧ (rtcp = -1 ∨ s.Fresh rtcp) ∧ (rtcp = -1 ∨ rtp ≠ rtcp)

theorem newSockets_of_possible {s : ServerState} {i : Int} {io : RtspIo}
    (possible : io.possible s i = true) : io.NewSockets s := by
  intro rtp rtcp opened
  simp only [RtspIo.possible, opened, Bool.and_eq_true, Bool.or_eq_true, decide_eq_true_eq]
    at possible
  obtain ⟨-, freeRtp, freeRtcp⟩ := possible
  exact ⟨freeRtp, freeRtcp.imp_right And.left, freeRtcp.imp_right And.right⟩

theorem SwitchEffect.watches {variant : Variant} {s after : ServerState} {i : Int} {io : RtspIo}
    {output : List Output} (effect : SwitchEffect variant s i io after output)
    (fetch : ∀ fd response, io.fetch = .ok (fd, response) → s.Fresh fd) (sockets : io.NewSockets s) :
    KeepsWatch s after ∨ ∃ fd response, io.fetch = .ok (fd, response) ∧ Opens s after fd := by
  cases effect with
  | @fetched fd request response cseq text state type absent fetched =>
      exact Or.inr ⟨fd, response, fetched, fetch fd response fetched, rfl, rfl, fun other =>
        streams_open trivial⟩
  | @setup rtp rtcp session text state type opened =>
      obtain ⟨freeRtp, freeRtcp, apart⟩ := sockets rtp rtcp opened
      obtain ⟨kernel, same⟩ := openUdp_eq s rtp rtcp
      have second : rtcp = -1 ∨ (s.openUdp rtp).kernel rtcp = none := by
        refine freeRtcp.elim Or.inl fun fresh => apart.imp_right fun differs => ?_
        rw [openUdp_kernel, if_neg fun clash => differs clash.1.symm, fresh.2]
      refine Or.inl ⟨by rw [same], by rw [same], fun fd => ?_⟩
      exact (streams_openUdp second).trans (streams_openUdp (freeRtp.imp_right And.right))
  | _ => exact Or.inl (.of_eq rfl rfl rfl)

/-- Without a client nothing happens. -/
theorem SwitchEffect.stands {variant : Variant} {s after : ServerState} {i : Int} {io : RtspIo}
    {output : List Output} (effect : SwitchEffect variant s i io after output)
    (noclient : s.streamclient.state = .noclient) : after = s := by
  cases effect with
  | ignored other => rfl
  | failed reason output handled before => simp [Handled, noclient] at handled
  | options state type => cases noclient.symm.trans state
  | described state type downloaded => cases noclient.symm.trans state
  | fetched state type absent fetch => cases noclient.symm.trans state
  | setup state type sockets => cases noclient.symm.trans state
  | played state type absent free => cases noclient.symm.trans state
  | unopened state type downloaded unopened => cases noclient.symm.trans state
  | launched state type downloaded opened => cases noclient.symm.trans state

/-! ## Steps -/

theorem RtspEffect.watches {variant : Variant} {s after : ServerState} {i : Int} {io : RtspIo}
    {output : List Output} (effect : RtspEffect variant s i io after output)
    (sockets : ∀ fd ∈ clientSockets s.streamclient, ¬ Streams s.kernel fd)
    (fetch : ∀ fd response, io.fetch = .ok (fd, response) → s.Fresh fd) (new : io.NewSockets s) :
    WatchEffect s after i := by
  cases effect with
  | failed reason unread => exact .kept (.of_eq rfl rfl rfl)
  | @teardown received after prior output receive type effect =>
      have client : clientSockets received.streamclient = clientSockets s.streamclient := by
        cases receive <;> rfl
      rcases receive.watches with keeps | ⟨-, closes⟩
      · have silent : ∀ fd ∈ clientSockets received.streamclient, ¬ Streams received.kernel fd := by
          intro fd member
          rw [keeps.streams]
          exact sockets fd (client ▸ member)
        rcases effect.watches silent with still | ended
        · exact .kept (keeps.trans still)
        · exact .closed (keeps.closes ended)
      · have silent : ∀ fd ∈ clientSockets received.streamclient, ¬ Streams received.kernel fd := by
          intro fd member
          rw [closes.streams]
          exact fun stream => sockets fd (client ▸ member) stream.2
        rcases effect.watches silent with still | ended
        · exact .closed (closes.keeps still)
        · exact .closed (closes.twice ended)
  | @switched received after prior output receive type effect =>
      rcases receive.watches with keeps | ⟨noclient, closes⟩
      · have fetch' : ∀ fd response, io.fetch = .ok (fd, response) → received.Fresh fd :=
          fun fd response fetched => receive.fresh (fetch fd response fetched)
        have new' : io.NewSockets received := fun rtp rtcp opened => by
          obtain ⟨freeRtp, freeRtcp, apart⟩ := new rtp rtcp opened
          exact ⟨freeRtp.imp_right receive.fresh, freeRtcp.imp_right receive.fresh, apart⟩
        rcases effect.watches fetch' new' with still | ⟨fd, response, fetched, opens⟩
        · exact .kept (keeps.trans still)
        · exact .opened (keeps.opens (fetch fd response fetched) opens)
      · obtain rfl := effect.stands noclient
        exact .closed closes

theorem DatagramEffect.watches {s after : ServerState} {io : DatagramIo}
    (effect : DatagramEffect s io after) (sockets : MediaSockets s)
    (fresh : ∀ rtpfd, io.rtpfd = .ok rtpfd → s.Fresh rtpfd) : KeepsWatch s after := by
  have connected : ∀ {rtpfd}, io.rtpfd = .ok rtpfd → ∀ fd,
      Streams (s.openFd rtpfd .udp).kernel fd ↔ Streams s.kernel fd := fun opened fd =>
    streams_open_other not_false (fresh _ opened).2
  cases effect with
  | unread unread => exact .of_eq rfl rfl rfl
  | read reads effect =>
      cases effect with
      | homeless invites noPlace => exact ⟨rfl, rfl, connected invites.connected⟩
      | entered invites free => exact ⟨rfl, rfl, connected invites.connected⟩
      | removed type there call =>
          exact ⟨rfl, rfl, fun fd => streams_close_other (streams_udp (sockets.calls _ _ there).2)⟩
      | _ => exact .of_eq rfl rfl rfl

/-- A descriptor which reaches the media or the RTSP branch is none the server listens on. -/
theorem branch_heard {variant : Variant} {s : ServerState} {i : Int}
    (branch : s.branch variant i = .media ∨ s.branch variant i = .rtsp) :
    i ≠ s.listenfd ∧ (variant = .mt → i ≠ s.sip.siplistenfd) := by
  unfold ServerState.branch at branch
  split at branch
  · simp at branch
  · rename_i notListen
    split at branch
    · simp at branch
    · rename_i notSip
      exact ⟨notListen, fun mt same => notSip ⟨mt, same⟩⟩

/-- What a step comes to: the descriptors `Select` finds are to be handled, the connections stay as
they are, or the handled descriptor is the reason that they do not. -/
inductive WatchStep (variant : Variant) (s after : ServerState) : Prop where
  | begins {fds} (keeps : KeepsWatch s after) (pc : after.pc = .dispatch fds)
      (ascending : fds.Pairwise (· < ·)) (members : ∀ fd ∈ fds, s.masterfds fd = true)
  | stands (keeps : KeepsWatch s after)
      (pc : ∀ fds, after.pc = .dispatch fds → s.pc = .dispatch fds ∨ ∃ i, s.pc = .dispatch (i :: fds))
  | opens {i rest fd} (opens : Opens s after fd) (pc : s.pc = .dispatch (i :: rest))
      (next : ∀ fds, after.pc = .dispatch fds → fds = rest)
  | closes {i rest} (closes : Closes s after i) (pc : s.pc = .dispatch (i :: rest))
      (next : ∀ fds, after.pc = .dispatch fds → fds = rest) (notListen : i ≠ s.listenfd)
      (notSip : variant = .mt → i ≠ s.sip.siplistenfd)

theorem SipEffect.staysOrHalts {s after : ServerState} {output : List Output}
    (effect : SipEffect s after output) : StaysOrHalts s after := by
  cases effect with
  | only halts answers => exact halts

theorem StaysOrHalts.next {s after : ServerState} {rest : List Int}
    (stays : StaysOrHalts { s with pc := .dispatch rest } after) (fds : List Int)
    (dispatching : after.pc = .dispatch fds) : fds = rest := by
  rcases stays with same | ⟨reason, halted⟩
  · exact MainPc.dispatch.inj (dispatching.symm.trans same)
  · cases dispatching.symm.trans halted

/-- The handling of a descriptor which is no listener's. -/
theorem WatchEffect.step {variant : Variant} {s after : ServerState} {i : Int} {rest : List Int}
    (effect : WatchEffect { s with pc := .dispatch rest } after i) (pc : s.pc = .dispatch (i :: rest))
    (stays : StaysOrHalts { s with pc := .dispatch rest } after)
    (branch : s.branch variant i = .media ∨ s.branch variant i = .rtsp) :
    WatchStep variant s after := by
  obtain ⟨notListen, notSip⟩ := branch_heard branch
  cases effect with
  | kept keeps =>
      refine .stands ⟨keeps.masterfds, keeps.maxfd, keeps.streams⟩ fun fds dispatching => ?_
      exact Or.inr ⟨i, stays.next fds dispatching ▸ pc⟩
  | opened opens => exact .opens ⟨opens.fresh, opens.masterfds, opens.maxfd, opens.streams⟩ pc stays.next
  | closed closes =>
      exact .closes ⟨closes.masterfds, closes.maxfd, closes.streams⟩ pc stays.next notListen notSip

theorem step_watchStep {variant : Variant} {url : List UInt8} {s after : ServerState} {input : Input}
    {output : List Output} (facts : SocketFacts s) (negative : ∀ fd, fd < 0 → ¬ Streams s.kernel fd)
    (taken : step variant url s input = .ok (after, output)) : WatchStep variant s after := by
  have standing : ∀ {next : ServerState}, next.masterfds = s.masterfds → next.maxfd = s.maxfd →
      next.kernel = s.kernel → (∀ fds, next.pc = .dispatch fds → s.pc = .dispatch fds) →
        WatchStep variant s next := fun masterfds maxfd kernel pc =>
    .stands (.of_eq masterfds maxfd kernel) fun fds dispatching => Or.inl (pc fds dispatching)
  have sockets : ∀ fd ∈ clientSockets s.streamclient, ¬ Streams s.kernel fd := by
    intro fd member
    rcases facts.sockets.client fd member with rfl | udp
    · exact negative (-1) (by omega)
    · exact streams_udp udp
  cases step_cases taken with
  | timeout pc set effect =>
      cases effect with
      | locked taken => exact standing rfl rfl rfl fun fds moved => by cases moved
      | idle free empty => exact standing rfl rfl rfl fun fds => id
      | failed free queued last => exact standing rfl rfl rfl fun fds moved => by cases moved
      | handled free queued effect => cases effect <;> exact standing rfl rfl rfl fun fds => id
  | @interrupted fds pc =>
      simp only [step, if_pos pc, Except.ok.injEq, Prod.mk.injEq, ServerState.mk.injEq,
        MainPc.dispatch.injEq, and_true] at taken
      have keeps : KeepsWatch s { s with pc := .dispatch fds } := .of_eq rfl rfl rfl
      refine .begins keeps rfl ?_ fun fd member => ?_
      · rw [← taken]
        split
        · exact List.pairwise_singleton _ _
        · exact .nil
      · rw [← taken] at member
        split at member
        · rename_i standing
          exact List.mem_singleton.mp member ▸ standing.1
        · cases member
  | @ready fds pc members =>
      simp only [step] at taken
      split at taken
      · rename_i enabled
        exact .begins (.of_eq rfl rfl rfl) rfl enabled.2.2.1 members
      · cases taken
  | @accept result i rest after output pc branch possible effect =>
      have stays := effect.staysOrHalts
      rcases effect.watches possible with keeps | ⟨fd, opens⟩
      · refine .stands ⟨keeps.masterfds, keeps.maxfd, keeps.streams⟩ fun fds dispatching => ?_
        exact Or.inr ⟨i, stays.next fds dispatching ▸ pc⟩
      · exact .opens ⟨opens.fresh, opens.masterfds, opens.maxfd, opens.streams⟩ pc stays.next
  | datagram pc branch effect =>
      rename_i io i rest
      rcases step_sip taken with ⟨-, other⟩ | ⟨io', i', rest', same, pc', -, possible, table⟩
      · exact absurd rfl (other io)
      · obtain rfl := Input.datagram.inj same
        have fresh : ∀ rtpfd, io.rtpfd = .ok rtpfd → s.Fresh rtpfd := by
          intro rtpfd opened
          simp only [DatagramIo.possible, opened, Bool.and_eq_true, decide_eq_true_eq] at possible
          exact possible.2
        obtain ⟨rfl, rfl⟩ : i = i' ∧ rest = rest' := by simpa [pc] using pc'
        have sameSockets : MediaSockets { s with pc := .dispatch rest } :=
          ⟨facts.sockets.calls, facts.sockets.apart, facts.sockets.client, facts.sockets.separate,
            facts.sockets.valid, facts.sockets.file⟩
        have keeps := table.watches sameSockets fresh
        refine .stands ⟨keeps.masterfds, keeps.maxfd, keeps.streams⟩ fun fds dispatching => ?_
        exact Or.inr ⟨i, effect.staysOrHalts.next fds dispatching ▸ pc⟩
  | media pc branch possible effect =>
      have running : s.Running := fun reason => by simp [pc]
      refine (effect.watches (branch_media branch) fun recvtcp => ?_).step pc effect.staysOrHalts
        (Or.inl branch)
      exact facts.sockets.file (facts.order.reading running (Or.inr recvtcp))
  | rtsp pc branch possible effect =>
      obtain ⟨-, fetch, -⟩ := RtspIo.possible_iff possible
      exact (effect.watches sockets fetch (newSockets_of_possible possible)).step pc
        effect.staysOrHalts (Or.inr branch)
  | rearmed pc free =>
      rw [ServerState.rearm, locked_free free]
      exact standing rfl rfl rfl fun fds moved => by cases moved
  | rearmLocked pc taken => exact standing rfl rfl rfl fun fds moved => by cases moved
  | filler effect =>
      obtain ⟨queue, lock, fillers, rfl, -⟩ := effect.only
      exact standing rfl rfl rfl fun fds => id

/-! ## Runs -/

/-- The SIP socket is open, and nobody else closes it. -/
structure HearsSip (s : ServerState) : Prop where
  valid : 0 ≤ s.sip.siplistenfd
  udp : s.kernel s.sip.siplistenfd = some .udp
  apart : s.sip.siplistenfd ∉ clientSockets s.streamclient
  calls : ∀ k client, s.sip.clientlist k = some client → client.sockfd ≠ s.sip.siplistenfd

/-- The descriptors which are watched are those of the listeners and of the connections. -/
structure Selects (variant : Variant) (s : ServerState) : Prop where
  listens : ListenerOpen s
  sip : variant = .mt → HearsSip s
  negative : ∀ fd, fd < 0 → ¬ Streams s.kernel fd
  listening : s.masterfds s.listenfd = true
  hearing : variant = .mt → s.masterfds s.sip.siplistenfd = true
  watched : ∀ fd, s.masterfds fd = true → (fd ≤ s.maxfd ∨ variant = .mt ∧ fd = s.sip.siplistenfd) ∧
    (fd = s.listenfd ∨ (variant = .mt ∧ fd = s.sip.siplistenfd) ∨ Streams s.kernel fd)
  connections : ∀ fd, fd ≠ s.sip.siplistenfd → Streams s.kernel fd → s.masterfds fd = true
  ready : ∀ fds, s.pc = .dispatch fds → fds.Pairwise (· < ·) ∧ ∀ fd ∈ fds, s.masterfds fd = true

theorem hearsSip_initial {s : ServerState} (initial : Initial .mt s) : HearsSip s where
  valid := by
    by_contra below
    cases (initial.siplistenfd rfl).symm.trans (initial.negative _ (by omega))
  udp := initial.siplistenfd rfl
  apart member := by
    rw [initial.streamclient] at member
    simp [clientSockets, initClient] at member
    cases (initial.siplistenfd rfl).symm.trans (initial.negative _ (by omega))
  calls k client there := by cases (initial.clientlist k).symm.trans there

theorem selects_initial {variant : Variant} {s : ServerState} (initial : Initial variant s) :
    Selects variant s where
  listens := listenerOpen_initial initial
  sip mt := by
    subst mt
    exact hearsSip_initial initial
  negative fd below := streams_absent (initial.negative fd below)
  listening := (initial.masterfds _).mpr (Or.inl rfl)
  hearing mt := (initial.masterfds _).mpr (Or.inr ⟨mt, rfl⟩)
  watched fd watched := by
    rcases (initial.masterfds fd).mp watched with listen | sip
    · exact ⟨Or.inl (by rw [listen, initial.maxfd]), Or.inl listen⟩
    · exact ⟨Or.inr sip, Or.inr (Or.inl sip)⟩
  connections fd other stream := by
    obtain ⟨endpoint, known, stream⟩ := stream
    rcases initial.others fd other with none | file | listener
    · cases none.symm.trans known
    · cases file.symm.trans known
      cases stream
    · cases listener.symm.trans known
      cases stream
  ready fds dispatching := by cases initial.pc.symm.trans dispatching

/-- The SIP socket stays the same. -/
theorem step_siplistenfd {variant : Variant} {url : List UInt8} {s after : ServerState}
    {input : Input} {output : List Output} (taken : step variant url s input = .ok (after, output)) :
    after.sip.siplistenfd = s.sip.siplistenfd := by
  rcases step_sip taken with ⟨same, -⟩ | ⟨io, i, rest, -, -, -, -, effect⟩
  · rw [same]
  · cases effect with
    | unread unread => rfl
    | read reads effect => cases effect <;> rfl

/-- The SIP socket stays open, and no other socket gets its number. -/
theorem hearsSip_kept {url : List UInt8} {s after : ServerState} {input : Input} {output : List Output}
    (hears : HearsSip s) (facts : SocketFacts s)
    (taken : step .mt url s input = .ok (after, output)) : HearsSip after where
  valid := by
    rw [step_siplistenfd taken]
    exact hears.valid
  udp := by
    rw [step_siplistenfd taken]
    rcases udp_kept facts.order facts.sockets taken hears.udp with
      kept | ⟨member, -⟩ | ⟨k, client, there, same, -⟩
    · exact kept
    · exact absurd member hears.apart
    · exact absurd same.symm (hears.calls k client there)
  apart member := by
    rw [step_siplistenfd taken] at member
    rcases step_sockets taken member with failed | before | ⟨free, -⟩
    · have valid := hears.valid
      omega
    · exact hears.apart before
    · cases free.symm.trans hears.udp
  calls k client there same := by
    rw [step_siplistenfd taken] at same
    rcases step_entry taken there with ⟨old, before, shared⟩ | ⟨fresh, -⟩
    · exact hears.calls k old before (shared.trans same)
    · rw [same] at fresh
      cases fresh.2.symm.trans hears.udp

/-- The same connections are open and watched. -/
theorem Selects.keeps {variant : Variant} {s after : ServerState} (watches : Selects variant s)
    (keeps : KeepsWatch s after) (listens : ListenerOpen after) (listen : after.listenfd = s.listenfd)
    (same : after.sip.siplistenfd = s.sip.siplistenfd)
    (sip : variant = .mt → HearsSip after)
    (ready : ∀ fds, after.pc = .dispatch fds →
      fds.Pairwise (· < ·) ∧ ∀ fd ∈ fds, s.masterfds fd = true) : Selects variant after where
  listens := listens
  sip := sip
  negative fd below stream := watches.negative fd below ((keeps.streams fd).mp stream)
  listening := by rw [keeps.masterfds, listen, watches.listening]
  hearing mt := by rw [keeps.masterfds, same, watches.hearing mt]
  watched fd watched := by
    rw [keeps.maxfd, listen, same, keeps.streams]
    exact watches.watched fd (keeps.masterfds ▸ watched)
  connections fd other stream := by
    rw [keeps.masterfds]
    exact watches.connections fd (same ▸ other) ((keeps.streams fd).mp stream)
  ready := by rwa [keeps.masterfds]

/-- A connection is opened. -/
theorem Selects.opens {variant : Variant} {s after : ServerState} {new : Int}
    (watches : Selects variant s) (opens : Opens s after new) (listens : ListenerOpen after)
    (listen : after.listenfd = s.listenfd) (same : after.sip.siplistenfd = s.sip.siplistenfd)
    (sip : variant = .mt → HearsSip after)
    (ready : ∀ fds, after.pc = .dispatch fds →
      fds.Pairwise (· < ·) ∧ ∀ fd ∈ fds, s.masterfds fd = true) : Selects variant after where
  listens := listens
  sip := sip
  negative fd below stream := by
    rcases (opens.streams fd).mp stream with rfl | before
    · exact absurd opens.fresh.1 (by omega)
    · exact watches.negative fd below before
  listening := by
    rw [opens.masterfds, listen]
    exact fdSet_eq_true.mpr (Or.inr watches.listening)
  hearing mt := by
    rw [opens.masterfds, same]
    exact fdSet_eq_true.mpr (Or.inr (watches.hearing mt))
  watched fd watched := by
    rw [opens.masterfds] at watched
    rw [opens.maxfd, listen, same, opens.streams]
    rcases fdSet_eq_true.mp watched with rfl | before
    · exact ⟨Or.inl (le_max_right s.maxfd fd), Or.inr (Or.inr (Or.inl rfl))⟩
    · obtain ⟨reached, why⟩ := watches.watched fd before
      exact ⟨reached.imp_left le_max_of_le_left, why.imp_right (Or.imp_right Or.inr)⟩
  connections fd other stream := by
    rw [opens.masterfds]
    refine fdSet_eq_true.mpr (((opens.streams fd).mp stream).imp_right fun before => ?_)
    exact watches.connections fd (same ▸ other) before
  ready fds dispatching := by
    obtain ⟨ascending, members⟩ := ready fds dispatching
    refine ⟨ascending, fun fd member => ?_⟩
    rw [opens.masterfds]
    exact fdSet_eq_true.mpr (Or.inr (members fd member))

/-- The connection which is handled is closed. -/
theorem Selects.closes {variant : Variant} {s after : ServerState} {i : Int} {rest : List Int}
    (watches : Selects variant s) (closes : Closes s after i) (pc : s.pc = .dispatch (i :: rest))
    (listens : ListenerOpen after) (listen : after.listenfd = s.listenfd)
    (same : after.sip.siplistenfd = s.sip.siplistenfd)
    (sip : variant = .mt → HearsSip after)
    (next : ∀ fds, after.pc = .dispatch fds → fds = rest) (notListen : i ≠ s.listenfd)
    (notSip : variant = .mt → i ≠ s.sip.siplistenfd) : Selects variant after where
  listens := listens
  sip := sip
  negative fd below stream := watches.negative fd below ((closes.streams fd).mp stream).2
  listening := by
    rw [closes.masterfds, listen]
    exact fdClr_eq_true.mpr ⟨notListen.symm, watches.listening⟩
  hearing mt := by
    rw [closes.masterfds, same]
    exact fdClr_eq_true.mpr ⟨(notSip mt).symm, watches.hearing mt⟩
  watched fd watched := by
    rw [closes.masterfds] at watched
    obtain ⟨other, before⟩ := fdClr_eq_true.mp watched
    obtain ⟨reached, why⟩ := watches.watched fd before
    rw [closes.maxfd, listen, same, closes.streams]
    exact ⟨reached, why.imp_right (Or.imp_right fun stream => ⟨other, stream⟩)⟩
  connections fd other stream := by
    obtain ⟨differs, before⟩ := (closes.streams fd).mp stream
    rw [closes.masterfds]
    exact fdClr_eq_true.mpr ⟨differs, watches.connections fd (same ▸ other) before⟩
  ready fds dispatching := by
    obtain rfl := next fds dispatching
    obtain ⟨ascending, members⟩ := watches.ready _ pc
    obtain ⟨first, later⟩ := List.pairwise_cons.mp ascending
    refine ⟨later, fun fd member => ?_⟩
    rw [closes.masterfds]
    have behind := first fd member
    exact fdClr_eq_true.mpr ⟨by omega, members fd (List.mem_cons_of_mem i member)⟩

/-- The descriptors still to be handled are watched and in order. -/
theorem Selects.rest {variant : Variant} {s : ServerState} {i : Int} {rest : List Int}
    (watches : Selects variant s) (pc : s.pc = .dispatch (i :: rest)) :
    rest.Pairwise (· < ·) ∧ ∀ fd ∈ rest, s.masterfds fd = true := by
  obtain ⟨ascending, members⟩ := watches.ready _ pc
  exact ⟨(List.pairwise_cons.mp ascending).2, fun fd member =>
    members fd (List.mem_cons_of_mem i member)⟩

theorem selects_kept {variant : Variant} {url : List UInt8} {s after : ServerState} {input : Input}
    {output : List Output} (watches : Selects variant s)
    (taken : step variant url s input = .ok (after, output)) : Selects variant after := by
  have same := step_siplistenfd taken
  have listen := (step_constants taken).2
  have listens := listenerOpen_kept watches.listens taken
  have sip : variant = .mt → HearsSip after := by
    rintro rfl
    exact hearsSip_kept (watches.sip rfl) watches.listens.facts taken
  cases step_watchStep watches.listens.facts watches.negative taken with
  | begins keeps pc ascending members =>
      refine watches.keeps keeps listens listen same sip fun fds dispatching => ?_
      obtain rfl := MainPc.dispatch.inj (pc.symm.trans dispatching)
      exact ⟨ascending, members⟩
  | stands keeps pc =>
      refine watches.keeps keeps listens listen same sip fun fds dispatching => ?_
      rcases pc fds dispatching with still | ⟨i, handling⟩
      · exact watches.ready fds still
      · exact watches.rest handling
  | opens opens pc next =>
      refine watches.opens opens listens listen same sip fun fds dispatching => ?_
      exact next fds dispatching ▸ watches.rest pc
  | closes closes pc next notListen notSip =>
      exact watches.closes closes pc listens listen same sip next notListen notSip

/-- What is watched is open. -/
theorem Selects.opened {variant : Variant} {s : ServerState} (watches : Selects variant s) {fd : Int}
    (watched : s.masterfds fd = true) : 0 ≤ fd ∧ s.kernel fd ≠ none := by
  have opened : s.kernel fd ≠ none := by
    rcases (watches.watched fd watched).2 with rfl | ⟨mt, rfl⟩ | ⟨endpoint, known, -⟩
    · simp [watches.listens.listener]
    · simp [(watches.sip mt).udp]
    · simp [known]
  refine ⟨?_, opened⟩
  by_contra below
  rcases (watches.watched fd watched).2 with rfl | ⟨mt, rfl⟩ | stream
  · exact below watches.listens.valid
  · exact below (watches.sip mt).valid
  · exact watches.negative fd (by omega) stream

/-- `Select` is called with the listeners and the open connections, all of them open and within
`maxfd`, and a descriptor which is to be handled is still open. Where there is no SIP side,
`siplistenfd` stands for a descriptor of somebody else's. -/
structure SelectsConnections (variant : Variant) (s : ServerState) : Prop where
  watched : ∀ fd, fd ≠ s.sip.siplistenfd ∨ variant = .mt →
    (s.masterfds fd = true ↔
      fd = s.listenfd ∨ (variant = .mt ∧ fd = s.sip.siplistenfd) ∨ Streams s.kernel fd)
  opened : ∀ fd, s.masterfds fd = true → 0 ≤ fd ∧ s.kernel fd ≠ none ∧
    (fd ≤ s.maxfd ∨ variant = .mt ∧ fd = s.sip.siplistenfd)
  ready : ∀ fds, s.pc = .dispatch fds → ∀ fd ∈ fds, s.kernel fd ≠ none

theorem Selects.selects {variant : Variant} {s : ServerState} (watches : Selects variant s) :
    SelectsConnections variant s where
  watched fd own := by
    refine ⟨fun watched => (watches.watched fd watched).2, ?_⟩
    rintro (rfl | ⟨mt, rfl⟩ | stream)
    · exact watches.listening
    · exact watches.hearing mt
    · rcases own with other | rfl
      · exact watches.connections fd other stream
      · refine watches.connections fd ?_ stream
        rintro rfl
        exact streams_udp (watches.sip rfl).udp stream
  opened fd watched :=
    ⟨(watches.opened watched).1, (watches.opened watched).2, (watches.watched fd watched).1⟩
  ready fds dispatching fd member := (watches.opened ((watches.ready fds dispatching).2 fd member)).2

/-- So it is at every point of every run of either server. -/
theorem selectsConnections_always {variant : Variant} {url : List UInt8}
    {trace : List (Entry ServerState Input Output)} {state : ServerState}
    (run : (machine variant url).Runs trace state) :
    Machine.Always (fun _ => SelectsConnections variant) trace state := by
  have all : Machine.Always (fun _ => Selects variant) trace state :=
    run.always (fun _ => selects_initial) fun watches taken => selects_kept watches taken
  exact all.imp fun _ _ => Selects.selects

/-- The listener, a client and the source are watched while a download goes on. -/
theorem selectsConnections_always_describe : ∃ result,
    (machine .server someUrl).exec [] (startState .server)
      (connect 6 ++ describe 6 7 someResponse) = .ok result ∧
      result.2.masterfds 7 = true ∧
      Machine.Always (fun _ => SelectsConnections .server) result.1 result.2 := by
  have computed : ∃ result, (machine .server someUrl).exec [] (startState .server)
      (connect 6 ++ describe 6 7 someResponse) = .ok result ∧ result.2.masterfds 7 = true :=
    ⟨_, rfl, by decide +kernel⟩
  obtain ⟨result, computed, watched⟩ := computed
  exact ⟨result, computed, watched,
    selectsConnections_always (Machine.Runs.of_exec (startState_initial .server someUrl) computed)⟩

end Http2Rtsp.Server
