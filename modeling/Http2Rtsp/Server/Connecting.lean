import Http2Rtsp.Server.SetupCount
import Http2Rtsp.Sockets.ClientSocket

/-!
# The servers and the sockets which call out

The steps are told which sockets a DESCRIBE or a SETUP is given. Here they are
told what `getaddrinfo`, `socket`, `bind` and `connect` come to instead, and
carry the pointer `info` and the memory of the lists behind it along. Each run
is one of the servers as they were.
-/

namespace Http2Rtsp.Server

open Http2Rtsp.Std Http2Rtsp.Message Http2Rtsp.Semantics

/-! ## Calls of a step -/

/-- What the server connects to for a request. -/
inductive Opening where
  | nothing
  | source
  /-- With the own ports of the two sockets. -/
  | client (ports : Nat × Nat)

/-- What the `switch` opens. -/
def ServerState.switchOpening (s : ServerState) (url : List UInt8) : Opening :=
  match s.streamclient.state, s.rtspmsg.type with
  | .cliconnected, .describe =>
      if s.download.mediaDownloaded then .nothing else
        match parseUrl url with
        | .error _ => .nothing
        | .ok _ => .source
  | .sdpsent, .setup => .client (pairPorts s.streamclient s.streamclient.setupsreceived)
  | _, _ => .nothing

/-- What `handleRtsp` opens, as far as it comes, in the state behind the receipt. -/
def ServerState.opening (received : ServerState) (url : List UInt8) : Opening :=
  match received.pc with
  | .halted _ => .nothing
  | _ => if received.rtspmsg.type = .teardown then .nothing else received.switchOpening url

/-- How the connections of a step are found and dialled. -/
structure Connections where
  /-- Whether `write_remote_ip` gets the address of the client. -/
  peer : Bool
  source : Connection
  /-- What the source will send. -/
  response : List UInt8
  rtp : Connection
  rtcp : Connection

/-- Why the main thread takes no further step. -/
def socketHalt : SocketStop → Halt
  | .exited => .exited
  | .undefined reason => .undefined reason
  | .ownaddr reason => .undefined reason

/-- What the connections come to for the handler: the socket of the source, those of the client, and
what the calls leave. -/
structure Dialled where
  fetch : Except Halt (Int × List UInt8)
  sockets : Except Halt (Int × Int)
  net : Net Endpoint
  /-- The connections which failed. -/
  refused : Nat
  /-- Why a call did not come back. -/
  stop : Option SocketStop

/-- The calls for what is opened. -/
def Opening.dial (malloc : Malloc) (net : Net Endpoint) (connections : Connections) :
    Opening → Dialled
  | .nothing => ⟨.error .exited, .error .exited, net, 0, none⟩
  | .source =>
      match net.connect malloc (.source connections.response) 0 connections.source with
      | .error reason => ⟨.error (socketHalt reason), .error .exited, net, 0, some reason⟩
      | .ok (mediafd, after) =>
          -- A socket which is none is no index for `FD_SET`.
          ⟨if mediafd = -1 then .error (.undefined .badDescriptor)
            else .ok (mediafd, connections.response), .error .exited, after, failed [mediafd], none⟩
  | .client ports =>
      match net.connectPair malloc .udp ports connections.peer connections.rtp connections.rtcp with
      | .error reason => ⟨.error .exited, .error (socketHalt reason), net, 0, some reason⟩
      | .ok (sockets, after) =>
          ⟨.error .exited, .ok sockets, after, failed [sockets.1, sockets.2], none⟩

/-- The descriptors are those which the calls left open, if anything was opened. -/
def Opening.keep (net : Net Endpoint) (s : ServerState) : Opening → ServerState
  | .nothing => s
  | .source | .client _ =>
      match s.pc with
      | .halted _ => s
      | _ => { s with kernel := net.kernel }

/-! ## The machine -/

/-- A server with the lists of addresses. -/
structure Outbound where
  server : ServerState
  past : List MemoryEvent
  info : Info

/-- Data from a client which is next to be received. -/
structure DueRequest where
  i : Int
  rest : List Int
  io : RtspIo

/-- The request of a step, if it is one. -/
def Outbound.request (o : Outbound) (input : Input) : Option DueRequest :=
  match input, o.server.pc with
  | .rtsp io, .dispatch (i :: rest) => some ⟨i, rest, io⟩
  | _, _ => none

/-- The state in which it is handled. -/
def Outbound.received (o : Outbound) (request : DueRequest) : ServerState :=
  ({ o.server with pc := .dispatch request.rest }.receiveRtsp request.i request.io.received).1

/-- What the connections for it come to. -/
def Outbound.dial (o : Outbound) (malloc : Malloc) (url : List UInt8) (connections : Connections)
    (request : DueRequest) : Dialled :=
  ((o.received request).opening url).dial malloc ⟨(o.received request).kernel, o.past, o.info⟩
    connections

/-- The request with what the handler is told of its connections. -/
def DueRequest.told (request : DueRequest) (dialled : Dialled) : RtspIo :=
  { request.io with fetch := dialled.fetch, sockets := dialled.sockets }

/-- One step. -/
def outboundStep (variant : Variant) (url : List UInt8) (malloc : Malloc) (o : Outbound)
    (connections : Connections) (input : Input) : Except Unit (Outbound × List Output) :=
  match o.request input with
  | some request =>
      if o.server.branch variant request.i = .rtsp ∧
          o.server.CanRecv request.i bufSize request.io.received then
        let dialled := o.dial malloc url connections request
        let outcome := { o.server with pc := .dispatch request.rest }.handleRtsp variant url request.i
          (request.told dialled)
        .ok (⟨((o.received request).opening url).keep dialled.net outcome.1, dialled.net.past,
          dialled.net.info⟩, outcome.2)
      else .error ()
  | none => do
      let (after, output) ← step variant url o.server input
      .ok ({ o with server := after }, output)

/-- The server with its connections. `server_socket` has freed the list of the listening socket. -/
def outbound (variant : Variant) (url : List UInt8) (malloc : Malloc) :
    Machine Outbound (Input × Connections) Output Unit where
  Initial o := Initial variant o.server ∧ Owns o.past [] ∧ o.info = .dangling
  step o input := outboundStep variant url malloc o input.2 input.1

/-- What the server alone is told for the step. -/
def Outbound.told (o : Outbound) (malloc : Malloc) (url : List UInt8) (input : Input × Connections) :
    Input :=
  match o.request input.1 with
  | some request => .rtsp (request.told (o.dial malloc url input.2 request))
  | none => input.1

/-! ## Conditions -/

/-- `socket` returns descriptors which are not open. -/
def Opening.New (malloc : Malloc) (net : Net Endpoint) (connections : Connections) : Opening → Prop
  | .nothing => True
  | .source => DialsFresh net.kernel connections.source.dials
  | .client ports => DialsFresh net.kernel connections.rtp.dials ∧
      match net.connect malloc .udp ports.1 connections.rtp with
      | .error _ => True
      | .ok (_, after) => DialsFresh after.kernel connections.rtcp.dials

instance (malloc : Malloc) (net : Net Endpoint) (connections : Connections) :
    (opening : Opening) → Decidable (opening.New malloc net connections)
  | .nothing => .isTrue trivial
  | .source => inferInstanceAs (Decidable (DialsFresh _ _))
  | .client ports =>
      @instDecidableAnd _ _ inferInstance <|
        match net.connect malloc .udp ports.1 connections.rtp with
        | .error _ => .isTrue trivial
        | .ok (_, after) => inferInstanceAs (Decidable (DialsFresh after.kernel _))

/-- The hosts are found. -/
def Opening.Resolved (connections : Connections) : Opening → Prop
  | .nothing => True
  | .source => connections.source.found ≠ none
  | .client _ => connections.rtp.found ≠ none ∧ connections.rtcp.found ≠ none

instance (connections : Connections) : (opening : Opening) → Decidable (opening.Resolved connections)
  | .nothing => .isTrue trivial
  | .source => decidable_of_iff (connections.source.found.isSome = true) Option.isSome_iff_ne_none
  | .client _ =>
      decidable_of_iff (connections.rtp.found.isSome = true ∧ connections.rtcp.found.isSome = true) <|
        and_congr Option.isSome_iff_ne_none Option.isSome_iff_ne_none

/-- The sockets of a step are new. -/
def SocketsNew (malloc : Malloc) (url : List UInt8) (_past : List Output) (o : Outbound)
    (input : Input × Connections) : Prop :=
  ∀ request ∈ o.request input.1, ((o.received request).opening url).New malloc
    ⟨(o.received request).kernel, o.past, o.info⟩ input.2

instance (malloc : Malloc) (url : List UInt8) (past : List Output) (o : Outbound)
    (input : Input × Connections) : Decidable (SocketsNew malloc url past o input) :=
  inferInstanceAs (Decidable (∀ request ∈ o.request input.1, Opening.New _ _ _ _))

/-- The hosts of a step are found. -/
def HostsFound (url : List UInt8) (_past : List Output) (o : Outbound) (input : Input × Connections) :
    Prop :=
  ∀ request ∈ o.request input.1, ((o.received request).opening url).Resolved input.2

instance (url : List UInt8) (past : List Output) (o : Outbound) (input : Input × Connections) :
    Decidable (HostsFound url past o input) :=
  inferInstanceAs (Decidable (∀ request ∈ o.request input.1, Opening.Resolved _ _))

/-- The program exits, or does not find its own address. -/
def Foreseen (reason : SocketStop) : Prop :=
  reason = .exited ∨ ∃ ownaddr, reason = .ownaddr ownaddr

/-- Nothing else keeps a call of a step from coming back. -/
def StopsForeseen (malloc : Malloc) (url : List UInt8) (_past : List Output) (o : Outbound)
    (input : Input × Connections) : Prop :=
  ∀ request ∈ o.request input.1, ∀ reason ∈ (o.dial malloc url input.2 request).stop, Foreseen reason

/-- The connections which failed in a step. -/
def Outbound.refused (o : Outbound) (malloc : Malloc) (url : List UInt8) (input : Input × Connections) :
    Nat :=
  match o.request input.1 with
  | some request => (o.dial malloc url input.2 request).refused
  | none => 0

/-! ## Calls -/

section Dial

variable {malloc : Malloc} {net : Net Endpoint} {connections : Connections} {opening : Opening}

/-- The sockets of a connection are new ones or none. -/
structure Dials (opening : Opening) (before : Int → Option Endpoint) (dialled : Dialled) : Prop where
  source : ∀ fd response, dialled.fetch = .ok (fd, response) → 0 ≤ fd ∧ before fd = none ∧
    (opening = .source → dialled.net.kernel = Function.update before fd (some (.source response)))
  client : ∀ rtp rtcp, dialled.sockets = .ok (rtp, rtcp) → ∃ kernel,
    OpenedOnly .udp before kernel rtp ∧ OpenedOnly .udp kernel dialled.net.kernel rtcp

theorem dial_dials (fresh : malloc.Fresh) (accounted : Accounted net.past net.info)
    (new : opening.New malloc net connections) :
    Dials opening net.kernel (opening.dial malloc net connections) ∧
      Accounted (opening.dial malloc net connections).net.past
        (opening.dial malloc net connections).net.info ∧
      (opening.Resolved connections →
        (liveAddresses (opening.dial malloc net connections).net.past).length =
          (liveAddresses net.past).length + (opening.dial malloc net connections).refused) := by
  cases opening with
  | nothing =>
      refine ⟨⟨fun fd response same => ?_, fun rtp rtcp same => ?_⟩, accounted, fun _ => rfl⟩
      · cases same
      · cases same
  | source =>
      cases connected : net.connect malloc (.source connections.response) 0 connections.source with
      | error reason =>
          simp only [Opening.dial, connected]
          refine ⟨⟨fun fd response same => ?_, fun rtp rtcp same => ?_⟩, accounted, fun _ => rfl⟩
          · cases same
          · cases same
      | ok result =>
          obtain ⟨mediafd, after⟩ := result
          simp only [Opening.dial, connected]
          obtain ⟨opened, accounted', counted⟩ := connect_spec fresh accounted new connected
          refine ⟨⟨fun fd response same => ?_, fun rtp rtcp same => ?_⟩, accounted', counted⟩
          · dsimp only at same
            split at same
            · cases same
            · rename_i reached
              cases same
              obtain ⟨positive, unused, kernel⟩ := opened.resolve_left fun refused => reached refused.1
              exact ⟨positive, unused, fun _ => kernel⟩
          · cases same
  | client ports =>
      cases connected : net.connectPair malloc .udp ports connections.peer connections.rtp
          connections.rtcp with
      | error reason =>
          simp only [Opening.dial, connected]
          refine ⟨⟨fun fd response same => ?_, fun rtp rtcp same => ?_⟩, accounted, fun _ => rfl⟩
          · cases same
          · cases same
      | ok result =>
          obtain ⟨⟨rtpfd, rtcpfd⟩, after⟩ := result
          simp only [Opening.dial, connected]
          obtain ⟨newRtp, newRtcp⟩ := new
          obtain ⟨opened, accounted', counted⟩ :=
            connectPair_spec fresh accounted newRtp
              (fun sockfd middle reached => by simpa only [reached] using newRtcp) connected
          refine ⟨⟨fun fd response same => ?_, fun rtp rtcp same => ?_⟩, accounted',
            fun found => counted found.1 found.2⟩
          · cases same
          · cases same
            exact opened

/-- Sockets which were opened are as the handler opens them. -/
theorem kernel_openUdp {s : ServerState} {kernel : Int → Option Endpoint} {fd : Int}
    (opened : OpenedOnly .udp s.kernel kernel fd) : (s.openUdp fd).kernel = kernel := by
  unfold ServerState.openUdp
  rcases opened with ⟨rfl, same⟩ | ⟨positive, -, same⟩
  · rw [if_neg (by decide), same]
  · rw [if_pos positive, same]
    rfl

/-- Something is opened for the first DESCRIBE and for SETUPs only. -/
theorem opening_cases (received : ServerState) (url : List UInt8) :
    received.opening url = .nothing ∨
      (received.Running ∧ received.rtspmsg.type ≠ .teardown) ∧
        (received.streamclient.state = .cliconnected ∧ received.rtspmsg.type = .describe ∧
            received.download.mediaDownloaded = false ∧ received.opening url = .source ∨
          received.streamclient.state = .sdpsent ∧ received.rtspmsg.type = .setup ∧
            received.opening url =
              .client (pairPorts received.streamclient received.streamclient.setupsreceived)) := by
  by_cases running : received.Running
  · have opens : received.opening url =
        if received.rtspmsg.type = .teardown then .nothing else received.switchOpening url := by
      unfold ServerState.opening
      split
      · rename_i reason halted
        exact absurd halted (running reason)
      · rfl
    by_cases type : received.rtspmsg.type = .teardown
    · exact Or.inl (by rw [opens, if_pos type])
    · rw [opens, if_neg type]
      unfold ServerState.switchOpening
      split
      · rename_i state describe
        split
        · exact Or.inl rfl
        · rename_i absent
          cases parsed : parseUrl url with
          | error reason => exact Or.inl rfl
          | ok parts => exact Or.inr ⟨⟨running, type⟩, Or.inl ⟨state, describe, by simpa using absent, rfl⟩⟩
      · rename_i state setup
        exact Or.inr ⟨⟨running, type⟩, Or.inr ⟨state, setup, rfl⟩⟩
      · exact Or.inl rfl
  · simp only [ServerState.Running, ne_eq, not_forall, not_not] at running
    obtain ⟨reason, halted⟩ := running
    exact Or.inl (by simp [ServerState.opening, halted])

/-- What the handlers open is what the calls leave open. -/
theorem keep_clientSwitch {variant : Variant} {url : List UInt8} {received : ServerState} {i : Int}
    {io : RtspIo} {dialled : Dialled} (dials : Dials (received.opening url) received.kernel dialled)
    (fetch : io.fetch = dialled.fetch) (sockets : io.sockets = dialled.sockets) :
    (received.opening url).keep dialled.net (received.clientSwitch variant url i io).1 =
      (received.clientSwitch variant url i io).1 := by
  rcases opening_cases received url with
    nothing | ⟨⟨running, -⟩, ⟨state, type, absent, source⟩ | ⟨state, type, client⟩⟩
  · rw [nothing, Opening.keep]
  · have effect := @clientSwitch_cases variant url received i io running
    rw [source] at dials ⊢
    generalize received.clientSwitch variant url i io = outcome at effect
    obtain ⟨after, output⟩ := outcome
    dsimp only at effect ⊢
    cases effect with
    | failed reason output handled before => rfl
    | ignored other => simp [Handled, state, type] at other
    | options _ other => simp [type] at other
    | described _ _ downloaded => simp [absent] at downloaded
    | fetched _ _ _ fetched =>
        have kernel := (dials.source _ _ (fetch ▸ fetched)).2.2 rfl
        cases pc : received.pc <;> simp [Opening.keep, ServerState.openFd, kernel, pc]
    | setup other => simp [state] at other
    | played other => simp [state] at other
    | unopened other => simp [state] at other
    | launched other => simp [state] at other
  · have effect := @clientSwitch_cases variant url received i io running
    rw [client] at dials ⊢
    generalize received.clientSwitch variant url i io = outcome at effect
    obtain ⟨after, output⟩ := outcome
    dsimp only at effect ⊢
    cases effect with
    | failed reason output handled before => rfl
    | ignored other => simp [Handled, state, type] at other
    | options other => simp [state] at other
    | described other => simp [state] at other
    | fetched other => simp [state] at other
    | @setup rtp rtcp _ _ _ _ opened =>
        obtain ⟨kernel, first, second⟩ := dials.client _ _ (sockets ▸ opened)
        have kernel' : ((received.openUdp rtp).openUdp rtcp).kernel = dialled.net.kernel :=
          kernel_openUdp (kernel_openUdp first ▸ second)
        simp only [Opening.keep]
        split
        · rfl
        · rw [← kernel']
    | played other => simp [state] at other
    | unopened other => simp [state] at other
    | launched other => simp [state] at other

/-- The handler with the descriptors which the calls left. -/
theorem keep_handleRtsp {variant : Variant} {url : List UInt8} {s : ServerState} {i : Int}
    {io : RtspIo} {dialled : Dialled}
    (dials : Dials ((s.receiveRtsp i io.received).1.opening url) (s.receiveRtsp i io.received).1.kernel
      dialled)
    (fetch : io.fetch = dialled.fetch) (sockets : io.sockets = dialled.sockets) :
    ((s.receiveRtsp i io.received).1.opening url).keep dialled.net
        (s.handleRtsp variant url i io).1 = (s.handleRtsp variant url i io).1 := by
  rcases opening_cases (s.receiveRtsp i io.received).1 url with nothing | ⟨⟨running, type⟩, -⟩
  · rw [nothing, Opening.keep]
  · rw [handleRtsp_switch (Prod.eta _).symm running type]
    exact keep_clientSwitch dials fetch sockets

/-- When something is opened, a descriptor which is free behind the receipt was free before. -/
theorem fresh_of_opening {s : ServerState} {url received : List UInt8} {i fd : Int}
    (opens : (s.receiveRtsp i received).1.opening url ≠ .nothing) (positive : 0 ≤ fd)
    (free : (s.receiveRtsp i received).1.kernel fd = none) : s.Fresh fd := by
  refine ⟨positive, ?_⟩
  obtain ⟨⟨running, -⟩, client⟩ := (opening_cases _ url).resolve_left opens
  rcases receiveRtsp_cases s i received with ⟨reason, halted, -⟩ | receive
  · rw [halted] at running
    exact absurd rfl (running reason)
  · generalize s.receiveRtsp i received = outcome at receive free client
    obtain ⟨after, output⟩ := outcome
    cases receive with
    | closed opened empty =>
        rcases client with ⟨state, -⟩ | ⟨state, -⟩
        · cases state
        · cases state
    | message opened nonempty terminated parsed =>
        by_cases same : fd = i
        · simp [ServerState.recv, same] at free
          rw [same, free]
        · simpa [ServerState.recv, same] using free

/-! ## Steps -/

end Dial

section Steps

variable {variant : Variant} {url : List UInt8} {malloc : Malloc} {o after : Outbound}
  {input : Input × Connections} {output : List Output} {request : DueRequest} {past : List Output}

/-- A request belongs to the step and to the state. -/
theorem request_cases {input : Input} (known : o.request input = some request) :
    input = .rtsp request.io ∧ o.server.pc = .dispatch (request.i :: request.rest) := by
  unfold Outbound.request at known
  split at known
  · rename_i pc
    cases known
    exact ⟨rfl, pc⟩
  · cases known

/-- The environment can do what the handler is told. -/
theorem told_possible {dialled : Dialled}
    (receives : o.server.CanRecv request.i bufSize request.io.received)
    (dials : Dials ((o.received request).opening url) (o.received request).kernel dialled)
    (nothing : (o.received request).opening url = .nothing →
      dialled.fetch = .error .exited ∧ dialled.sockets = .error .exited) :
    (request.told dialled).possible o.server request.i = true := by
  have fresh : (o.received request).opening url ≠ .nothing → ∀ fd, 0 ≤ fd →
      (o.received request).kernel fd = none → o.server.Fresh fd := fun opens fd positive free =>
    (fresh_of_opening opens positive free :
      { o.server with pc := .dispatch request.rest }.Fresh fd)
  simp only [RtspIo.possible, Bool.and_eq_true]
  refine ⟨⟨decide_eq_true receives, ?_⟩, ?_⟩
  · split
    · rename_i fd response fetched
      have opens : (o.received request).opening url ≠ .nothing := fun closed => by
        cases fetched.symm.trans (nothing closed).1
      obtain ⟨positive, unused, -⟩ := dials.source fd response fetched
      exact decide_eq_true (fresh opens _ positive unused)
    · rfl
  · split
    · rename_i rtp rtcp connected
      have opens : (o.received request).opening url ≠ .nothing := fun closed => by
        cases connected.symm.trans (nothing closed).2
      obtain ⟨kernel, first, second⟩ := dials.client rtp rtcp connected
      simp only [Bool.and_eq_true, Bool.or_eq_true, decide_eq_true_eq, ne_eq]
      refine ⟨first.imp And.left fun opened => fresh opens _ opened.1 opened.2.1, ?_⟩
      refine second.imp And.left fun opened => ?_
      rcases first with ⟨rfl, same⟩ | ⟨positive, unused, same⟩
      · exact ⟨fresh opens _ opened.1 (same ▸ opened.2.1), by omega⟩
      · have differs : rtcp ≠ rtp := by
          rintro rfl
          simp [same] at opened
        have unused' : (o.received request).kernel rtcp = none := by
          simpa [same, differs] using opened.2.1
        exact ⟨fresh opens _ opened.1 unused', differs.symm⟩
    · rfl

/-- A step is one of the server alone, and accounts for the lists. -/
theorem outboundStep_followed (fresh : malloc.Fresh) (accounted : Accounted o.past o.info)
    (new : SocketsNew malloc url past o input)
    (taken : outboundStep variant url malloc o input.2 input.1 = .ok (after, output)) :
    step variant url o.server (o.told malloc url input) = .ok (after.server, output) ∧
      Accounted after.past after.info ∧
      (HostsFound url past o input → (liveAddresses after.past).length =
        (liveAddresses o.past).length + o.refused malloc url input) := by
  unfold outboundStep at taken
  unfold Outbound.told Outbound.refused
  cases known : o.request input.1 with
  | none =>
      simp only [known] at taken ⊢
      obtain ⟨⟨server, sent⟩, stepped, taken⟩ := bind_eq_ok_iff.mp taken
      cases taken
      exact ⟨stepped, accounted, fun _ => rfl⟩
  | some request =>
      simp only [known] at taken ⊢
      split at taken
      · rename_i meant
        cases taken
        obtain ⟨-, pc⟩ := request_cases known
        obtain ⟨dials, accounted', counted⟩ := dial_dials fresh accounted (new request known)
        refine ⟨?_, accounted', fun found => counted (found request known)⟩
        let dialled := o.dial malloc url input.2 request
        have nothing : (o.received request).opening url = .nothing →
            dialled.fetch = .error .exited ∧ dialled.sockets = .error .exited := fun closed => by
          simp [dialled, Outbound.dial, closed, Opening.dial]
        have possible : (request.told dialled).possible o.server request.i = true :=
          told_possible meant.2 dials nothing
        rw [step, ServerState.dispatch, pc]
        dsimp only
        rw [if_pos ⟨meant.1, possible⟩]
        have kept := @keep_handleRtsp variant url { o.server with pc := .dispatch request.rest }
          request.i (request.told dialled) dialled dials rfl rfl
        exact congrArg Except.ok (Prod.ext kept.symm rfl)
      · cases taken

/-! ### Ports -/

/-- The own ports. -/
def ownPorts (client : Client) : (Nat × Nat) × (Nat × Nat) :=
  ((client.serverRtpAudioPort, client.serverRtcpAudioPort),
    (client.serverRtpVideoPort, client.serverRtcpVideoPort))

/-- A SETUP does not change them. -/
theorem ownPorts_setupClient (variant : Variant) (client : Client) (rtp rtcp session : Int) :
    ownPorts (setupClient variant client rtp rtcp session) = ownPorts client := by
  unfold setupClient setupSockets
  dsimp only
  split
  · rfl
  · cases variant <;> rfl

/-- The own ports are those of `init_client`, in every state reached. -/
theorem ownPorts_reached {trace : List (Entry ServerState Input Output)} {s : ServerState}
    (run : (machine variant url).Runs trace s) : ownPorts s.streamclient = ownPorts initClient := by
  refine @Machine.Runs.invariant _ _ _ _ _ (fun s => ownPorts s.streamclient = ownPorts initClient)
    _ _ run (fun start initial => congrArg ownPorts initial.streamclient) ?_
  intro before input after output kept taken
  have effect := step_client taken
  generalize talkOf output = said at effect
  cases effect with
  | silent same => rw [same, kept]
  | connected running free client => rw [client, ← kept]; rfl
  | closed received pc opened empty client untorn => rw [client, ← kept]; rfl
  | options state client => rw [client, ← kept]; rfl
  | described state client => rw [client, ← kept]; rfl
  | setUp received pc read state sockets client => rw [client, ownPorts_setupClient, kept]
  | played state same => rw [same, kept]
  | tornDown quiet known stream client closed => rw [client]

/-- Neither does a receipt. -/
theorem ownPorts_receiveRtsp (s : ServerState) (i : Int) (received : List UInt8) :
    ownPorts (s.receiveRtsp i received).1.streamclient = ownPorts s.streamclient := by
  rcases receiveRtsp_cases s i received with ⟨reason, halted, -⟩ | receive
  · rw [halted, halt_eq]
  · generalize s.receiveRtsp i received = outcome at receive
    obtain ⟨after, output⟩ := outcome
    cases receive <;> rfl

/-- Their texts fit. -/
theorem pairPorts_short {client : Client} (ports : ownPorts client = ownPorts initClient) (n : Nat) :
    (decimal (pairPorts client n).1).length < 10 ∧ (decimal (pairPorts client n).2).length < 10 := by
  have audio : pairPorts client 0 = pairPorts initClient 0 := congrArg Prod.fst ports
  have video : ∀ n, pairPorts client (n + 1) = pairPorts initClient (n + 1) := fun _ =>
    congrArg Prod.snd ports
  cases n with
  | zero =>
      rw [audio]
      decide
  | succ n =>
      rw [video]
      exact (by decide : (decimal (50508 : Nat)).length < 10 ∧ (decimal (50509 : Nat)).length < 10)

/-- While the hosts are found, the calls end as foreseen. -/
theorem stops_foreseen (ports : ownPorts o.server.streamclient = ownPorts initClient)
    (found : HostsFound url past o input) : StopsForeseen malloc url past o input := by
  intro request known reason stopped
  have resolved := found request known
  unfold Outbound.dial at stopped
  generalize ((⟨(o.received request).kernel, o.past, o.info⟩ : Net Endpoint)) = net at stopped
  rcases opening_cases (o.received request) url with nothing | ⟨-, ⟨-, -, -, source⟩ | ⟨-, -, client⟩⟩
  · rw [nothing] at stopped
    cases stopped
  · rw [source] at stopped resolved
    cases connected : net.connect malloc (.source input.2.response) 0 input.2.source with
    | error early =>
        simp only [Opening.dial, connected, Option.mem_def, Option.some.injEq] at stopped
        subst stopped
        exact (connect_stops (by decide) connected).resolve_left resolved
    | ok result => simp [Opening.dial, connected] at stopped
  · rw [client] at stopped resolved
    have short : ownPorts (o.received request).streamclient = ownPorts initClient :=
      (ownPorts_receiveRtsp ..).trans ports
    let pair := pairPorts (o.received request).streamclient
      (o.received request).streamclient.setupsreceived
    cases connected : net.connectPair malloc .udp pair input.2.peer input.2.rtp input.2.rtcp with
    | error early =>
        simp only [Opening.dial, pair, connected, Option.mem_def, Option.some.injEq] at stopped
        subst stopped
        exact ((connectPair_stops (pairPorts_short short _) connected).resolve_left
          resolved.1).resolve_left resolved.2
    | ok result => simp [Opening.dial, pair, connected] at stopped

/-! ### Runs -/

/-- The step as the server alone takes it. -/
def entryAlone (malloc : Malloc) (url : List UInt8)
    (entry : Entry Outbound (Input × Connections) Output) : Entry ServerState Input Output :=
  ⟨entry.before.server, entry.before.told malloc url entry.input, entry.output⟩

/-- With the calls in full, every run is one of the server alone; the lists in use are accounted for, and
while all hosts are found, they are as many as connections failed, and no call is made with a bad `info`
or a port which does not fit. -/
theorem outbound_followed (fresh : malloc.Fresh)
    {trace : List (Entry Outbound (Input × Connections) Output)}
    (run : (outbound variant url malloc).Runs trace o)
    (new : Machine.Throughout (SocketsNew malloc url) trace) :
    (machine variant url).Runs (trace.map (entryAlone malloc url)) o.server ∧
      Machine.Always (fun _ o => Accounted o.past o.info) trace o ∧
      (Machine.Throughout (HostsFound url) trace →
        (liveAddresses o.past).length =
            (trace.map fun entry => entry.before.refused malloc url entry.input).sum ∧
          Machine.Throughout (StopsForeseen malloc url) trace) := by
  induction run with
  | initial valid =>
      obtain ⟨server, owns, info⟩ := valid
      refine ⟨.initial server, ?_, fun _ => ⟨?_, Machine.throughout_nil⟩⟩
      · exact Machine.always_nil.mpr ⟨[], by rwa [info]⟩
      · exact owns.live.length_eq
  | @step trace before input after output prior taken ih =>
      obtain ⟨earlier, here⟩ := Machine.throughout_snoc.mp new
      obtain ⟨alone, accounted, counted⟩ := ih earlier
      obtain ⟨stepped, accounted', lists⟩ := outboundStep_followed fresh accounted.here here taken
      refine ⟨?_, Machine.always_snoc.mpr ⟨accounted, accounted'⟩, fun found => ?_⟩
      · rw [List.map_append]
        exact alone.step stepped
      · obtain ⟨foundBefore, foundHere⟩ := Machine.throughout_snoc.mp found
        obtain ⟨sum, known⟩ := counted foundBefore
        refine ⟨?_, Machine.throughout_snoc.mpr
          ⟨known, stops_foreseen (ownPorts_reached alone) foundHere⟩⟩
        rw [lists foundHere, sum, List.map_append, List.sum_append]
        simp

end Steps

/-- A host with two addresses. -/
def someFound : Found := ⟨[⟨10, 1, 0, [], 28⟩, ⟨2, 1, 0, [], 16⟩], by simp⟩

/-- The source is reached at once, the client for RTP at its second address and for RTCP not at all. -/
def someConnections : Connections where
  peer := true
  source := ⟨some someFound, [⟨some 7, none, true⟩]⟩
  response := someResponse
  rtp := ⟨some someFound, [⟨some 8, some true, false⟩, ⟨some 8, some true, true⟩]⟩
  rtcp := ⟨some someFound, [⟨none, none, false⟩, ⟨some 9, some true, false⟩]⟩

/-- A DESCRIBE and a SETUP. -/
def describeThenSetup : List Input :=
  connect 6 ++ request 6 (RtspIo.line "DESCRIBE") ++ request 6 (RtspIo.line "SETUP")

/-- The list for RTCP is left. -/
theorem outbound_followed_describeThenSetup : ∃ result,
    (outbound .server someUrl mallocBehind).exec [] ⟨startState .server, [], .dangling⟩
        (describeThenSetup.map fun input => (input, someConnections)) = .ok result ∧
      result.2.server.kernel 8 = some .udp ∧ result.2.server.kernel 9 = none ∧
      (machine .server someUrl).Runs (result.1.map (entryAlone mallocBehind someUrl)) result.2.server ∧
      (liveAddresses result.2.past).length = 1 := by
  have computed : ∃ result,
      (outbound .server someUrl mallocBehind).exec [] ⟨startState .server, [], .dangling⟩
          (describeThenSetup.map fun input => (input, someConnections)) = .ok result ∧
        result.2.server.kernel 8 = some .udp ∧ result.2.server.kernel 9 = none ∧
        Machine.MeetsAll (SocketsNew mallocBehind someUrl) [] result.1 ∧
        Machine.MeetsAll (HostsFound someUrl) [] result.1 ∧
        (result.1.map fun entry => entry.before.refused mallocBehind someUrl entry.input).sum = 1 :=
    ⟨_, rfl, by decide +kernel, by decide +kernel, by decide +kernel, by decide +kernel, by decide +kernel⟩
  obtain ⟨result, computed, rtp, rtcp, new, found, refused⟩ := computed
  have initial : (outbound .server someUrl mallocBehind).Initial ⟨startState .server, [], .dangling⟩ :=
    ⟨startState_initial .server someUrl, owns_nil, rfl⟩
  obtain ⟨alone, -, counted⟩ := outbound_followed mallocBehind_fresh
    (Machine.Runs.of_exec initial computed) (Machine.throughout_of_meetsAll new)
  have lists := (counted (Machine.throughout_of_meetsAll found)).1
  exact ⟨result, computed, rtp, rtcp, alone, lists.trans refused⟩

end Http2Rtsp.Server
