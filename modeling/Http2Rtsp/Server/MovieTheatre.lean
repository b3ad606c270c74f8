import Http2Rtsp.Semantics.Refinement
import Http2Rtsp.Server.SipAudio
import Http2Rtsp.Server.Theatre

/-!
# The movie theatre without callers

While nobody calls, `start_mt_server` follows both servers. It follows
`start_server`: it answers every request with the same text, downloads the same
file and sends the same video. And it follows itself with callers: whatever they
send, unless it stops the server, the RTSP client is served as if they had not
called.
-/

namespace Http2Rtsp.Server

open Http2Rtsp.Std Http2Rtsp.Message Http2Rtsp.Pacing Http2Rtsp.Semantics

/-! ## Steps -/

/-! ### What is done alike -/

/-- Told of no caller: an ACK of a call which nobody has made. -/
def strayAck : DatagramIo where
  received := ascii "ACK\r\n\r\n"
  cliaddr := ⟨0, 0⟩
  rtpfd := .error .exited

/-- The same, with that in the place of a datagram. -/
def Input.unheard : Input → Input
  | .datagram _ => .datagram strayAck
  | input => input

/-- What of an input counts. Next to `start_server`, which signals its fillers at a TEARDOWN, a wait
which ends by itself does not. -/
def Input.told (variant : Variant) (input : Input) : List Input :=
  match variant, input with
  | .server, .filler _ .spurious => []
  | _, input => [input.unheard]

/-- What a run was told to do. -/
def demands (variant : Variant) (trace : List (Entry ServerState Input Output)) : List Input :=
  trace.flatMap fun entry => entry.input.told variant

/-- Nobody calls. -/
def NobodyCalls (trace : List (Entry ServerState Input Output)) : Prop :=
  ∀ entry ∈ trace, ∀ io, entry.input = .datagram io → io = strayAck

/-- The descriptors the kernel hands out in a step. -/
def Input.opens : Input → List Int
  | .accept (.accepted fd) => [fd]
  | .datagram io => io.rtpfd.toOption.toList
  | .rtsp io => io.fetch.toOption.toList.map Prod.fst ++
      io.sockets.toOption.toList.flatMap fun sockets => [sockets.1, sockets.2]
  | _ => []

/-- The theatre does what the server is told and puts out what it puts out for the RTSP client. -/
structure ShowsAlike (variant : Variant) (entry : Entry ServerState Input Output)
    (part : List (Entry ServerState Input Output)) : Prop where
  outputs : Machine.outputs part = withoutCalls entry.output
  demands : demands variant part = demands variant [entry]
  nobody : NobodyCalls part

/-- The steps with which the theatre follows one of the server. -/
def IsFollowed (variant : Variant) (rtcps : Set Int) (url : List UInt8) (s after : ServerState)
    (own : Theatre) (input : Input) (output : List Output) : Prop :=
  ∃ own' part, own'.sip.siplistenfd = own.sip.siplistenfd ∧ Serves variant rtcps after own' ∧
    (machine .mt url).Steps (s.inTheatre own) part (after.inTheatre own') ∧
    ShowsAlike variant ⟨s, input, output⟩ part

section Steps

variable {variant : Variant} {rtcps : Set Int} {url : List UInt8} {s after : ServerState}
  {own : Theatre} {input : Input} {output : List Output}

/-- It takes the same step. -/
theorem Staged.follows {outcome outcome' : Outcome} (staged : Staged variant rtcps own.sip outcome outcome')
    (rtsp : ∀ io, input ≠ .datagram io)
    (taken : step .mt url (s.inTheatre own) input = .ok outcome') :
    IsFollowed variant rtcps url s outcome.1 own input outcome.2 := by
  obtain ⟨own', sip, state, serves, output⟩ := staged
  have moves : (machine .mt url).Steps (s.inTheatre own) [⟨s.inTheatre own, input, outcome'.2⟩]
      (outcome.1.inTheatre own') := state ▸ .step .refl taken
  refine ⟨own', _, by rw [sip], serves, moves, ?_, rfl, ?_⟩
  · rw [Machine.outputs_singleton, output]
  · intro entry member io heard
    obtain rfl := List.mem_singleton.mp member
    exact absurd heard (rtsp io)

/-- It takes the same step, and the wait of one filler ends. -/
theorem Staged.follows_woken {outcome outcome' signalled : Outcome}
    (staged : Staged variant rtcps own.sip outcome outcome') (signals : Signals variant outcome signalled)
    (rtsp : ∀ io, input ≠ .datagram io)
    (taken : step .mt url (s.inTheatre own) input = .ok outcome') :
    IsFollowed variant rtcps url s signalled.1 own input signalled.2 := by
  rcases signals with rfl | ⟨rfl, running, wake, rfl⟩
  · exact staged.follows rtsp taken
  · rcases signal_moves wake outcome.1.fillers with same | ⟨k, filler, there, waiting, woken⟩
    · rw [same]
      exact staged.follows rtsp taken
    · obtain ⟨own', sip, state, serves, output⟩ := staged
      have moves : (machine .mt url).Steps (s.inTheatre own) [⟨s.inTheatre own, input, outcome'.2⟩]
          (outcome.1.inTheatre own') := state ▸ .step .refl taken
      let woken_ : ServerState := { outcome.1 with fillers := signal wake outcome.1.fillers }
      have wakes : step .mt url (outcome.1.inTheatre own') (.filler k .spurious) =
          .ok (woken_.inTheatre own', []) := by
        have moved : (outcome.1.inTheatre own').handleFiller k .spurious =
            some ((outcome.1.inTheatre own').moveFiller k filler .woken) := by
          have shared : (outcome.1.inTheatre own').fillers[k]? = some filler := there
          simp [ServerState.handleFiller, shared, waiting]
        have active : ∀ reason, (outcome.1.inTheatre own').pc ≠ .halted reason := running
        simp only [step, moved, woken_, woken]
        split
        · rename_i halted
          exact absurd halted (active _)
        · rename_i halted
          exact absurd halted (active _)
        · rfl
      have both : (machine .mt url).Steps (s.inTheatre own)
          ([⟨s.inTheatre own, input, outcome'.2⟩] ++
            [⟨outcome.1.inTheatre own', .filler k .spurious, []⟩]) (woken_.inTheatre own') :=
        .step moves wakes
      refine ⟨own', _, by rw [sip], serves.of_eq rfl rfl rfl, both, ?_, ?_, ?_⟩
      · simp [output]
      · simp [Server.demands, Input.told]
      · intro entry member io heard
        rcases List.mem_pair.mp member with rfl | rfl
        · exact absurd heard (rtsp io)
        · cases heard

/-- A filler does the same. -/
theorem handleFiller_staged (s : ServerState) (own : Theatre) (k : Nat) (action : FillerAction) :
    (s.inTheatre own).handleFiller k action =
      (s.handleFiller k action).map fun after => after.inTheatre own := by
  have pushes : ∀ filler basetime next unset,
      (s.inTheatre own).pushNext k filler basetime next unset =
        (s.pushNext k filler basetime next unset).inTheatre own := by
    intro filler basetime next unset
    cases next <;> rfl
  unfold ServerState.handleFiller
  rw [show (s.inTheatre own).fillers = s.fillers from rfl,
    show (s.inTheatre own).lock = s.lock from rfl, show (s.inTheatre own).queue = s.queue from rfl]
  cases s.fillers[k]? with
  | none => rfl
  | some filler =>
      simp only [Option.bind_eq_bind, Option.bind_some, pushes]
      split
      · split <;> rfl
      · rfl
      · split
        · split <;> rfl
        · rfl
      · rfl
      · split
        · cases filler.basetime <;> rfl
        · rfl
      · split <;> rfl
      · rfl

theorem handleFiller_only {s after : ServerState} {k : Nat} {action : FillerAction}
    (taken : s.handleFiller k action = some after) :
    after.kernel = s.kernel ∧ after.sip = s.sip ∧ after.streamclient = s.streamclient := by
  obtain ⟨queue, lock, fillers, rfl, -⟩ := (handleFiller_cases taken).only
  exact ⟨rfl, rfl, rfl⟩

/-! ### The environment -/

/-- The number of the SIP socket is not handed out. -/
def ServerState.KeepsSip (s : ServerState) (siplistenfd : Int) (input : Input) : Prop :=
  ∀ fd ∈ input.opens, s.Fresh fd → fd ≠ siplistenfd

/-- The environment can do here what it can do there. -/
theorem Serves.fresh (serves : Serves variant rtcps s own) (keeps : s.KeepsSip own.sip.siplistenfd input)
    {fd : Int} (member : fd ∈ input.opens) (fresh : s.Fresh fd) : (s.inTheatre own).Fresh fd := by
  refine ⟨fresh.1, ?_⟩
  rcases serves.kernel fd (keeps fd member fresh) with same | leaked
  · exact same.trans fresh.2
  · exact leaked.1

theorem canRecv_theatre {i : Int} {size : Nat} {bytes : List UInt8}
    (same : own.kernel i = s.kernel i) :
    (s.inTheatre own).CanRecv i size bytes ↔ s.CanRecv i size bytes := by
  unfold ServerState.CanRecv
  rw [show (s.inTheatre own).kernel i = s.kernel i from same]

theorem canDeliver_theatre {i : Int} {io : MediaIo} (same : own.kernel i = s.kernel i) :
    (s.inTheatre own).CanDeliver i io ↔ s.CanDeliver i io := by
  unfold ServerState.CanDeliver
  rw [show (s.inTheatre own).download = s.download from rfl]
  cases s.download.mediastate with
  | getsent => exact and_congr (canRecv_theatre same) (canRecv_theatre same)
  | recvtcp => exact canRecv_theatre same
  | idle => exact Iff.rfl
  | stream => exact Iff.rfl

theorem Serves.possibleAccept {result : Accept} (serves : Serves variant rtcps s own)
    (keeps : s.KeepsSip own.sip.siplistenfd (.accept result)) (possible : result.possible s = true) :
    result.possible (s.inTheatre own) = true := by
  cases result with
  | accepted fd =>
      have member : fd ∈ (Input.accept (.accepted fd)).opens := List.mem_singleton_self fd
      exact decide_eq_true (serves.fresh keeps member (of_decide_eq_true possible))
  | failed => rfl
  | fatal => rfl

theorem mem_opens_fetch {io : RtspIo} {fd : Int} {response : List UInt8}
    (fetched : io.fetch = .ok (fd, response)) : fd ∈ (Input.rtsp io).opens := by
  simp [Input.opens, fetched, Except.toOption]

theorem mem_opens_sockets {io : RtspIo} {rtp rtcp : Int} (opened : io.sockets = .ok (rtp, rtcp)) :
    rtp ∈ (Input.rtsp io).opens ∧ rtcp ∈ (Input.rtsp io).opens := by
  simp [Input.opens, opened, Except.toOption]

theorem Serves.possibleRtsp {i : Int} {io : RtspIo} (serves : Serves variant rtcps s own)
    (keeps : s.KeepsSip own.sip.siplistenfd (.rtsp io)) (same : own.kernel i = s.kernel i)
    (possible : io.possible s i = true) : io.possible (s.inTheatre own) i = true := by
  simp only [RtspIo.possible, Bool.and_eq_true, decide_eq_true_eq] at possible ⊢
  obtain ⟨⟨receives, fetch⟩, sockets⟩ := possible
  refine ⟨⟨(canRecv_theatre same).mpr receives, ?_⟩, ?_⟩
  · cases fetched : io.fetch with
    | error reason => rfl
    | ok connection =>
        obtain ⟨fd, response⟩ := connection
        rw [fetched] at fetch
        exact decide_eq_true (serves.fresh keeps (mem_opens_fetch fetched) (of_decide_eq_true fetch))
  · cases opened : io.sockets with
    | error reason => rfl
    | ok pair =>
        obtain ⟨rtp, rtcp⟩ := pair
        obtain ⟨memberRtp, memberRtcp⟩ := mem_opens_sockets opened
        rw [opened] at sockets
        simp only [Bool.and_eq_true, Bool.or_eq_true, decide_eq_true_eq] at sockets ⊢
        exact ⟨sockets.1.imp_right (serves.fresh keeps memberRtp),
          sockets.2.imp_right (And.imp_left (serves.fresh keeps memberRtcp))⟩

/-- A fresh descriptor belongs to no call. -/
theorem MediaSockets.offCalls (sockets : MediaSockets s) {fd : Int} (fresh : s.Fresh fd) :
    s.OffCalls fd := by
  refine ⟨fresh.1, fun k client there same => ?_⟩
  cases fresh.2.symm.trans (same ▸ (sockets.calls k client there).2)

theorem MediaSockets.offSockets {i : Int} {io : RtspIo} (sockets : MediaSockets s)
    (possible : io.possible s i = true) : s.OffSockets io := by
  intro rtp rtcp opened
  obtain ⟨-, -, granted⟩ := RtspIo.possible_iff possible
  obtain ⟨freeRtp, freeRtcp⟩ := granted rtp rtcp opened
  constructor
  · intro valid
    exact sockets.offCalls (freeRtp.resolve_left (by omega))
  · intro valid
    exact sockets.offCalls (freeRtcp.resolve_left (by omega))

/-- The theatre handles a descriptor which is not its SIP socket in the same branch. -/
theorem dispatch_staged {i : Int} {rest : List Int} {branch : Branch} {possible : Int → Bool}
    {handler : ServerState → Int → Outcome} (serves : Serves variant rtcps s own)
    (pc : s.pc = .dispatch (i :: rest)) (other : i ≠ own.sip.siplistenfd)
    (here : s.branch variant i = branch) (can : possible i = true) :
    (s.inTheatre own).dispatch .mt branch possible handler =
      .ok (handler (ServerState.inTheatre { s with pc := .dispatch rest } own) i) := by
  have same : (s.inTheatre own).branch .mt i = branch := by
    have notSip : ¬ (Variant.mt = .mt ∧ i = own.sip.siplistenfd) := fun clash => other clash.2
    have noSip : ¬ (variant = .mt ∧ i = s.sip.siplistenfd) := by
      rintro ⟨mt, clash⟩
      exact other (clash.trans (serves.same mt).symm)
    rw [← here, ServerState.branch, ServerState.branch, if_neg noSip]
    exact ite_congr rfl (fun _ => rfl) fun _ => if_neg notSip
  unfold ServerState.dispatch
  rw [show (s.inTheatre own).pc = .dispatch (i :: rest) from pc]
  dsimp only
  rw [if_pos ⟨same, can⟩]
  rfl

/-- The RTCP sockets of the theatre are none to the server, or open there as well. -/
theorem Serves.rtcpSockets (serves : Serves variant rtcps s own) (sockets : SocketsOpen (s.inTheatre own))
    (hears : HearsSip (s.inTheatre own)) (fd : Int)
    (stored : fd = own.videoRtcp ∨ fd = own.audioRtcp) :
    s.kernel fd = none ∨ s.kernel fd = some .udp := by
  have member : fd ∈ clientSockets (s.inTheatre own).streamclient := by
    rcases stored with rfl | rfl
    · simp [clientSockets, ServerState.inTheatre, withRtcp]
    · simp [clientSockets, ServerState.inTheatre, withRtcp]
  rcases sockets fd member with rfl | udp
  · exact Or.inl (serves.negative (-1) (by omega))
  · have other : fd ≠ own.sip.siplistenfd := by
      rintro rfl
      exact hears.apart member
    rcases serves.kernel fd other with same | ⟨absent, -⟩
    · exact Or.inr (same.symm.trans udp)
    · cases absent.symm.trans udp

/-! ### Datagrams -/

/-- A descriptor which is not open in the theatre is opened or closed for a call. -/
theorem Leaks.ofCall {spare spare' : Int → Prop} {siplistenfd fd : Int}
    {kernel kernel' : Int → Option Endpoint} {entry : Option Endpoint}
    (leaks : Leaks spare siplistenfd kernel kernel') (absent : kernel' fd = none)
    (call : entry = none ∨ (entry = some .udp ∧ spare' fd))
    (others : ∀ other, other ≠ fd → spare other → spare' other) :
    Leaks spare' siplistenfd (Function.update kernel fd entry) kernel' := by
  intro other apart
  by_cases same : other = fd
  · subst same
    rw [Function.update_self]
    exact call.imp (fun none => absent.trans none.symm) fun udp => ⟨absent, udp⟩
  · rw [Function.update_of_ne same]
    exact (leaks other apart).imp_right fun leaked =>
      ⟨leaked.1, leaked.2.1, others other same leaked.2.2⟩

/-- What a caller sends changes nothing the RTSP client depends on. -/
theorem TableEffect.serves {msg : SIPMsg} {io : DatagramIo} (effect : TableEffect s msg io after)
    (serves : Serves .mt rtcps s own) (sockets : MediaSockets s) (counts : TableCounts s)
    (unheard : ∀ fd, io.rtpfd = .ok fd → own.kernel fd = none ∧ 0 ≤ fd) :
    Serves .mt rtcps after own := by
  have opened : ∀ {rtpfd}, Invites s msg io rtpfd → own.kernel rtpfd = none ∧ 0 ≤ rtpfd :=
    fun invites => unheard _ invites.connected
  cases effect with
  | full type full => exact serves
  | unconnected type failed => exact serves.of_eq rfl rfl rfl
  | @homeless rtpfd invites noPlace => exact absurd noPlace (counts.place invites.room)
  | @entered rtpfd k invites free =>
      obtain ⟨absent, valid⟩ := opened invites
      have new : Sip.CallSocket (s.sip.setEntry k (some (invitedClient msg rtpfd))) rtpfd :=
        ⟨k, _, Function.update_self .., rfl⟩
      refine ⟨serves.nobody, serves.valid, serves.same, fun fd below => ?_,
        serves.kernel.ofCall absent (Or.inr ⟨rfl, new⟩) ?_, fun k' client there => ?_, serves.rtcp,
        serves.opened⟩
      · exact (Function.update_of_ne (by omega) ..).trans (serves.negative fd below)
      · rintro fd - ⟨k', client, there, same⟩
        have other : k' ≠ k := by
          rintro rfl
          cases free.symm.trans there
        exact ⟨k', client, (Function.update_of_ne other ..).trans there, same⟩
      · rcases Table.update_eq_some there with ⟨-, new⟩ | ⟨-, old⟩
        · obtain rfl := Option.some.inj new
          exact absent
        · exact serves.calls k' client old
  | unknown type absent => exact serves
  | @acked k client type there call =>
      have more : ∀ fd, s.sip.CallSocket fd →
          (s.sip.setEntry k (some (ackedClient client msg io.cliaddr))).CallSocket fd := by
        rintro fd ⟨k', client', there', same⟩
        by_cases other : k' = k
        · subst other
          obtain rfl := Option.some.inj (there.symm.trans there')
          exact ⟨k', _, Function.update_self .., same⟩
        · exact ⟨k', client', (Function.update_of_ne other ..).trans there', same⟩
      refine ⟨serves.nobody, serves.valid, serves.same, serves.negative, serves.kernel.mono more,
        fun k' client' there' => ?_, serves.rtcp, serves.opened⟩
      rcases Table.update_eq_some there' with ⟨-, new⟩ | ⟨-, old⟩
      · obtain rfl := Option.some.inj new
        exact serves.calls k client there
      · exact serves.calls k' client' old
  | @removed k client type there call =>
      refine ⟨serves.nobody, serves.valid, serves.same, fun fd below => ?_,
        serves.kernel.ofCall (serves.calls k client there) (Or.inl rfl) ?_,
        fun k' client' there' => ?_, serves.rtcp, serves.opened⟩
      · have valid := (sockets.calls k client there).1
        exact (Function.update_of_ne (by omega) ..).trans (serves.negative fd below)
      · rintro fd apart ⟨k', client', there', rfl⟩
        have other : k' ≠ k := by
          rintro rfl
          obtain rfl := Option.some.inj (there.symm.trans there')
          exact apart rfl
        exact ⟨k', client', (Function.update_of_ne other ..).trans there', rfl⟩
      · rcases Table.update_eq_some there' with ⟨-, new⟩ | ⟨-, old⟩
        · cases new
        · exact serves.calls k' client' old

theorem strayAck_possible (s : ServerState) : strayAck.possible s = true := by
  change (decide (strayAck.received.length ≤ bufSize) && true) = true
  rw [Bool.and_true]
  decide +kernel

/-- A short datagram is read as it was sent. -/
theorem cString_receive {sip : Sip} {received : List UInt8} (short : received.length < bufLen)
    (noNul : 0 ∉ received) : cString bufSize (sip.receive received) = some received := by
  have behind : ∃ rest, sip.receive received = received ++ 0 :: rest := by
    obtain ⟨n, rest⟩ : ∃ n, bufLen - received.length = n + 1 :=
      ⟨bufLen - received.length - 1, by omega⟩
    refine ⟨List.replicate n 0 ++ sip.sipInbuf.drop bufLen, ?_⟩
    rw [Sip.receive, List.drop_append_of_le_length (by simp; omega), List.drop_replicate, rest]
    rfl
  obtain ⟨rest, same⟩ := behind
  have nonzero : ∀ byte ∈ received, decide (byte ≠ 0) = true := by
    intro byte member
    exact decide_eq_true fun zero => noNul (zero ▸ member)
  rw [same, cString, if_pos (Or.inl (by simp)), List.takeWhile_append_of_pos nonzero]
  simp

/-- The ACK of a call which nobody has made changes the receive buffer only. -/
theorem handleDatagram_stray (s : ServerState) (nobody : ∀ k, s.sip.clientlist k = none) :
    s.handleDatagram strayAck = (s.buffered strayAck, []) := by
  have read : ∃ msg, parsesipmsg strayAck.received = .ok (0, msg) ∧ msg.type = .ack := ⟨_, rfl, rfl⟩
  obtain ⟨msg, parsed, type⟩ := read
  have short : strayAck.received.length < bufLen := by decide +kernel
  have noNul : 0 ∉ strayAck.received := by decide +kernel
  have absent : (s.buffered strayAck).sip.find (ofCall msg.callid) = none := by
    refine List.find?_eq_none.mpr fun k _ => ?_
    rw [show (s.buffered strayAck).sip.clientlist k = none from nobody k]
    simp [ofCall]
  unfold ServerState.handleDatagram
  dsimp only
  rw [cString_receive short noNul]
  dsimp only
  rw [parsed]
  dsimp only
  rw [show ({ s with sip := { s.sip with sipInbuf := s.sip.receive strayAck.received } } :
    ServerState) = s.buffered strayAck from rfl, ServerState.handleSip, type]
  dsimp only
  rw [ServerState.ack, absent]

/-- A datagram which does not stop the server sends nothing but to callers. -/
theorem handleSip_silent {s : ServerState} {msg : SIPMsg} {io : DatagramIo}
    (runs : (s.handleSip msg io).1.Running) : withoutCalls (s.handleSip msg io).2 = [] := by
  unfold ServerState.handleSip at runs ⊢
  cases type : msg.type with
  | bye => rfl
  | sipok => rfl
  | ack =>
      dsimp only
      unfold ServerState.ack
      split <;> rfl
  | invite =>
      simp only [type] at runs ⊢
      unfold ServerState.invite at runs ⊢
      split
      · rename_i room
        rw [if_pos room] at runs
        cases connected : io.rtpfd with
        | error reason =>
            have stops := runs reason
            simp only [connected, halt_eq] at stops
            exact absurd rfl stops
        | ok rtpfd =>
            dsimp only
            split <;> rfl
      · rfl

theorem handleDatagram_silent {s : ServerState} {io : DatagramIo}
    (runs : (s.handleDatagram io).1.Running) : withoutCalls (s.handleDatagram io).2 = [] := by
  unfold ServerState.handleDatagram at runs ⊢
  dsimp only at runs ⊢
  cases terminated : cString bufSize (s.sip.receive io.received) with
  | none =>
      have stops := runs (.undefined .unterminated)
      simp only [terminated, halt_eq] at stops
      exact absurd rfl stops
  | some text =>
      cases parsed : parsesipmsg text with
      | error reason =>
          have stops := runs (.undefined reason)
          simp only [terminated, parsed, halt_eq] at stops
          exact absurd rfl stops
      | ok message =>
          simp only [terminated, parsed] at runs ⊢
          exact handleSip_silent runs

theorem handleDatagram_serves {io : DatagramIo} (serves : Serves .mt rtcps s own) (sockets : MediaSockets s)
    (counts : TableCounts s) (runs : (s.handleDatagram io).1.Running)
    (unheard : ∀ fd, io.rtpfd = .ok fd → own.kernel fd = none ∧ 0 ≤ fd) :
    Serves .mt rtcps (s.handleDatagram io).1 own := by
  have buffered : Serves .mt rtcps (s.buffered io) own :=
    ⟨serves.nobody, serves.valid, serves.same, serves.negative, serves.kernel, serves.calls,
      serves.rtcp, serves.opened⟩
  have same : MediaSockets (s.buffered io) :=
    ⟨sockets.calls, sockets.apart, sockets.client, sockets.separate, sockets.valid, sockets.file⟩
  have effect := handleDatagram_table s io
  generalize (s.handleDatagram io).1 = after at effect runs ⊢
  cases effect with
  | unread unread => exact absurd rfl (runs _)
  | read reads effect => exact effect.serves buffered same counts unheard

/-- Next to the theatre nothing but the SIP side has changed. -/
theorem handleDatagram_stage {io : DatagramIo} (runs : (s.handleDatagram io).1.Running) :
    (s.handleDatagram io).1.inTheatre { own with sip := ((s.inTheatre own).buffered strayAck).sip } =
      (s.inTheatre own).buffered strayAck := by
  have effect := handleDatagram_cases s io
  generalize (s.handleDatagram io).1 = after at effect runs ⊢
  generalize (s.handleDatagram io).2 = output at effect
  cases effect with
  | only halts answers =>
      rcases halts with rfl | ⟨reason, rfl⟩
      · rfl
      · exact absurd rfl (runs reason)

/-- On a datagram the theatre is told of no caller. -/
theorem datagram_followed {io : DatagramIo} (serves : Serves .mt rtcps s own) (sockets : MediaSockets s)
    (counts : TableCounts s) (hears : HearsSip s) (runs : after.Running)
    (taken : step .mt url s (.datagram io) = .ok (after, output)) :
    IsFollowed .mt rtcps url s after own (.datagram io) output := by
  rw [step] at taken
  obtain ⟨i, rest, pc, branch, possible, handled⟩ := dispatch_cases taken
  obtain ⟨rfl, rfl⟩ := Prod.mk.inj handled
  -- The number the kernel grants is open in neither.
  have unheard : ∀ fd, io.rtpfd = .ok fd → own.kernel fd = none ∧ 0 ≤ fd := by
    intro fd granted
    simp only [DatagramIo.possible, granted, Bool.and_eq_true, decide_eq_true_eq] at possible
    obtain ⟨valid, free⟩ := possible.2
    have other : fd ≠ own.sip.siplistenfd := by
      intro same
      rw [serves.same rfl] at same
      cases free.symm.trans (same ▸ hears.udp)
    exact ⟨(serves.kernel fd other).elim (fun same => same.trans free) And.left, valid⟩
  have handling : Serves .mt rtcps { s with pc := .dispatch rest } own := serves.of_eq rfl rfl rfl
  have opened : MediaSockets { s with pc := .dispatch rest } :=
    ⟨sockets.calls, sockets.apart, sockets.client, sockets.separate, sockets.valid, sockets.file⟩
  have served := handleDatagram_serves handling opened counts runs unheard
  have same : (s.inTheatre own).branch .mt i = .sip := by
    rw [← branch, ServerState.branch, ServerState.branch]
    rw [show (s.inTheatre own).sip.siplistenfd = s.sip.siplistenfd from serves.same rfl]
    rfl
  have follows : step .mt url (s.inTheatre own) (.datagram strayAck) =
      .ok (ServerState.buffered { s.inTheatre own with pc := .dispatch rest } strayAck, []) := by
    rw [step, ServerState.dispatch, show (s.inTheatre own).pc = .dispatch (i :: rest) from pc]
    dsimp only
    rw [if_pos ⟨same, strayAck_possible _⟩]
    exact congrArg Except.ok (handleDatagram_stray _ serves.nobody)
  refine ⟨{ own with sip := ((s.inTheatre own).buffered strayAck).sip },
    [⟨s.inTheatre own, .datagram strayAck, []⟩], rfl, ?_, ?_, ?_, rfl, ?_⟩
  · exact ⟨serves.nobody, serves.valid, served.same, served.negative, served.kernel, served.calls,
      served.rtcp, served.opened⟩
  · have stage := @handleDatagram_stage _ own _ runs
    exact stage ▸ .step .refl follows
  · exact (handleDatagram_silent runs).symm
  · intro entry member io' heard
    obtain rfl := List.mem_singleton.mp member
    exact (Input.datagram.inj heard).symm

/-- The numbers the kernel may grant are not those of the SIP socket: the plain server must not be
granted it. -/
structure StageFree (variant : Variant) (s : ServerState) (siplistenfd : Int) (input : Input) :
    Prop where
  keeps : s.KeepsSip siplistenfd input
  plain : variant = .server → 0 < siplistenfd ∧ s.kernel siplistenfd = none

/-- What is handled outside the SIP branch is open in both, and belongs to no call. -/
structure Shared (s : ServerState) (own : Theatre) (i : Int) : Prop where
  other : i ≠ own.sip.siplistenfd
  off : s.OffCalls i
  same : own.kernel i = s.kernel i
  stream : i ≠ s.listenfd → Streams s.kernel i

theorem Selects.shared {i : Int} {rest : List Int} (selects : Selects variant s)
    (serves : Serves variant rtcps s own) (free : StageFree variant s own.sip.siplistenfd input)
    (pc : s.pc = .dispatch (i :: rest)) (notSip : s.branch variant i ≠ .sip) : Shared s own i := by
  have watched := (selects.ready _ pc).2 i List.mem_cons_self
  obtain ⟨valid, opened⟩ := selects.opened watched
  have notHeard : variant = .mt → i ≠ s.sip.siplistenfd := by
    rintro rfl same
    by_cases listens : i = s.listenfd
    · have listener := selects.listens.listener
      rw [← listens, same] at listener
      cases listener.symm.trans (selects.sip rfl).udp
    · exact notSip (by rw [ServerState.branch, if_neg listens, if_pos ⟨rfl, same⟩])
  have heard : i = s.listenfd ∨ Streams s.kernel i :=
    (selects.watched i watched).2.imp_right fun why => why.resolve_left fun sip =>
      notHeard sip.1 sip.2
  have notUdp : s.kernel i ≠ some .udp := by
    rcases heard with rfl | stream
    · simp [selects.listens.listener]
    · exact fun udp => streams_udp udp stream
  have other : i ≠ own.sip.siplistenfd := by
    rintro same
    cases variant with
    | server => exact opened (same ▸ (free.plain rfl).2)
    | mt => exact notHeard rfl (same.trans (serves.same rfl))
  refine ⟨other, ⟨valid, fun k client there clash => ?_⟩, serves.kernel.same other notUdp,
    heard.resolve_left⟩
  exact notUdp (clash ▸ (selects.listens.facts.sockets.calls k client there).2)

/-- What the server selects over, the theatre selects over. -/
theorem Selects.watches_theatre {fd : Int} (selects : Selects variant s)
    (serves : Serves variant rtcps s own) (plain : variant = .server → fd ≠ own.sip.siplistenfd) :
    (s.inTheatre own).masterfds fd = s.masterfds fd := by
  by_cases sip : fd = own.sip.siplistenfd
  · have mt : variant = .mt := by
      cases variant with
      | server => exact absurd sip (plain rfl)
      | mt => rfl
    have hearing := selects.hearing mt
    rw [← serves.same mt, ← sip] at hearing
    rw [hearing]
    exact fdSet_eq_true.mpr (Or.inr hearing)
  · exact Function.update_of_ne sip ..

/-- A SETUP which is answered in this step has its RTCP socket among these. -/
def CountsRtcps (rtcps : Set Int) (input : Input) (output : List Output) : Prop :=
  ∀ io, input = .rtsp io → CountsRtcp rtcps io output

/-- The theatre follows every step. -/
theorem step_followed (serves : Serves variant rtcps s own) (selects : Selects variant s)
    (counts : TableCounts s)
    (sockets : SocketsOpen (s.inTheatre own)) (hears : HearsSip (s.inTheatre own))
    (free : StageFree variant s own.sip.siplistenfd input) (among : CountsRtcps rtcps input output)
    (runs : variant = .mt → after.Running)
    (taken : step variant url s input = .ok (after, output)) :
    IsFollowed variant rtcps url s after own input output := by
  have facts := selects.listens.facts.sockets
  have moved : ∀ {pc}, Serves variant rtcps { s with pc := pc } own := serves.of_eq rfl rfl rfl
  cases input with
  | timeout now wake =>
      obtain ⟨pc, set, handling⟩ := step_timeout taken
      have staged := handleTimeout_staged serves now wake (running_of_select pc) (by rw [handling]; exact runs)
      rw [handling] at staged
      exact staged.follows (fun io => by simp) (if_pos ⟨pc, set⟩)
  | interrupted =>
      simp only [step] at taken
      split at taken
      · rename_i pc
        have kept : (s.inTheatre own).masterfds 0 = s.masterfds 0 := by
          refine selects.watches_theatre serves fun plain => ?_
          have positive := (free.plain plain).1
          omega
        cases taken
        refine (Staged.silent (@moved (.dispatch (if s.masterfds 0 ∧ 0 ≤ s.maxfd then [0]
          else [])))).follows (fun io => by simp) ?_
        rw [step, if_pos (show (s.inTheatre own).pc = .select from pc), kept]
        rfl
      · cases taken
  | ready fds =>
      simp only [step] at taken
      split at taken
      · rename_i enabled
        cases taken
        refine (Staged.silent (@moved (.dispatch fds))).follows (fun io => by simp) ?_
        rw [step, if_pos]
        · rfl
        · refine ⟨enabled.1, enabled.2.1, enabled.2.2.1, fun fd member => ?_⟩
          obtain ⟨watched, range⟩ := enabled.2.2.2 fd member
          exact ⟨fdSet_eq_true.mpr (Or.inr watched), range⟩
      · cases taken
  | accept result =>
      rw [step] at taken
      obtain ⟨i, rest, pc, branch, possible, same⟩ := dispatch_cases taken
      have shared := selects.shared serves free pc (by rw [branch]; decide)
      have staged := handleAccept_staged (@moved (.dispatch rest)) result fun fd accepted => by
        subst accepted
        exact facts.offCalls (of_decide_eq_true possible)
      rw [← same] at staged
      refine staged.follows (fun io => by simp) ?_
      rw [step]
      exact dispatch_staged serves pc shared.other branch (serves.possibleAccept free.keeps possible)
  | datagram io =>
      cases variant with
      | server =>
          rw [step] at taken
          obtain ⟨i, rest, pc, branch, -⟩ := dispatch_cases taken
          exact absurd branch branch_server
      | mt => exact datagram_followed serves facts counts (selects.sip rfl) (runs rfl) taken
  | media io =>
      rw [step] at taken
      obtain ⟨i, rest, pc, branch, possible, same⟩ := dispatch_cases taken
      have shared := selects.shared serves free pc (by rw [branch]; decide)
      have staged := handleMedia_staged (@moved (.dispatch rest)) io shared.same shared.off
        shared.other (branch_media branch)
      rw [← same] at staged
      refine staged.follows (fun io => by simp) ?_
      rw [step]
      refine dispatch_staged serves pc shared.other branch (decide_eq_true ?_)
      exact (canDeliver_theatre shared.same).mpr (of_decide_eq_true possible)
  | rtsp io =>
      rw [step] at taken
      obtain ⟨i, rest, pc, branch, possible, same⟩ := dispatch_cases taken
      have shared := selects.shared serves free pc (by rw [branch]; decide)
      obtain ⟨-, fetch, -⟩ := RtspIo.possible_iff possible
      have notListen : i ≠ s.listenfd := (branch_heard (Or.inr branch)).1
      obtain ⟨outcome, staged, signals⟩ := handleRtsp_staged (@moved (.dispatch rest)) url
        (dispatch_running s rest) shared.same shared.off shared.other (shared.stream notListen)
        (fun fd response fetched => facts.offCalls (fetch fd response fetched))
        (facts.offSockets possible) (same ▸ among io rfl) (serves.rtcpSockets sockets hears)
      rw [← same] at signals
      refine staged.follows_woken signals (fun io => by simp) ?_
      rw [step]
      exact dispatch_staged serves pc shared.other branch
        (serves.possibleRtsp free.keeps shared.same possible)
  | rearm now =>
      simp only [step] at taken
      split at taken
      · rename_i pc
        have staged := rearm_staged serves now
        rw [Except.ok.inj taken] at staged
        exact staged.follows (fun io => by simp) (if_pos pc)
      · cases taken
  | filler k action =>
      obtain ⟨moved, rfl⟩ := step_filler taken
      obtain ⟨kernel, sip, client⟩ := handleFiller_only moved
      have served : Serves variant rtcps after own := serves.of_eq kernel sip (by rw [client])
      refine (Staged.silent served).follows (fun io => by simp) ?_
      have shared : (s.inTheatre own).handleFiller k action = some (after.inTheatre own) := by
        rw [handleFiller_staged, moved]
        rfl
      simp only [step] at taken ⊢
      rw [show (s.inTheatre own).pc = s.pc from rfl, shared]
      split at taken
      · cases taken
      · cases taken
      · rfl

end Steps

/-! ## Runs -/

/-- The RTCP sockets of the SETUPs which were answered. -/
def rtcpSockets (trace : List (Entry ServerState Input Output)) : Set Int :=
  {rtcp | ∃ entry ∈ trace, ∃ io i rtp, entry.input = .rtsp io ∧ .acted i .setup ∈ entry.output ∧
    io.sockets = .ok (rtp, rtcp)}

theorem rtcpSockets_mono {trace more : List (Entry ServerState Input Output)} :
    rtcpSockets trace ⊆ rtcpSockets (trace ++ more) :=
  fun _ ⟨entry, member, opened⟩ => ⟨entry, List.mem_append_left _ member, opened⟩

theorem rtcpSockets_counts {trace : List (Entry ServerState Input Output)} {s : ServerState}
    {input : Input} {output : List Output} :
    CountsRtcps (rtcpSockets (trace ++ [⟨s, input, output⟩])) input output := by
  rintro io rfl ⟨i, acted⟩ rtp rtcp opened
  exact ⟨_, List.mem_append_right _ (List.mem_singleton_self _), io, i, rtp, rfl, acted, opened⟩

/-- The theatre in which nobody calls, next to the server. -/
def Stages (variant : Variant) (trace : List (Entry ServerState Input Output))
    (s model : ServerState) : Prop :=
  ∃ own, own.sip.siplistenfd = s.sip.siplistenfd ∧ model = s.inTheatre own ∧
    Serves variant (rtcpSockets trace) s own ∧ Selects variant s ∧ TableCounts s

/-- The theatre before its main loop. -/
def curtain (s : ServerState) : Theatre where
  kernel := Function.update s.kernel s.sip.siplistenfd (some .udp)
  videoRtcp := -1
  audioRtcp := -1
  rtpseqnoAudio := s.rtpseqnoAudio
  sip := s.sip

section Initial

variable {variant : Variant} {s : ServerState}

theorem serves_initial (initial : Initial variant s) (valid : 0 ≤ s.sip.siplistenfd)
    (rtcps : Set Int) : Serves variant rtcps s (curtain s) where
  nobody := initial.clientlist
  valid := valid
  same _ := rfl
  negative := initial.negative
  kernel fd other := Or.inl (Function.update_of_ne other ..)
  calls k client there := by cases (initial.clientlist k).symm.trans there
  rtcp := by
    rw [initial.streamclient]
    cases variant with
    | server => exact ⟨rfl, Or.inl rfl⟩
    | mt => exact ⟨rfl, rfl⟩
  opened fd stored := Or.inl (by rcases stored with rfl | rfl <;> rfl)

theorem curtain_initial (initial : Initial variant s) (valid : 0 ≤ s.sip.siplistenfd)
    (unused : s.kernel s.sip.siplistenfd = none ∨ s.kernel s.sip.siplistenfd = some .udp) :
    Initial .mt (s.inTheatre (curtain s)) := by
  have kept : ∀ fd, fd ≠ s.sip.siplistenfd → (s.inTheatre (curtain s)).kernel fd = s.kernel fd :=
    fun fd other => Function.update_of_ne other ..
  have apart : ∀ {fd endpoint}, s.kernel fd = some endpoint → endpoint ≠ .udp →
      fd ≠ s.sip.siplistenfd := by
    rintro fd endpoint known notUdp rfl
    rcases unused with free | udp
    · cases free.symm.trans known
    · exact notUdp (Option.some.inj (known.symm.trans udp))
  exact
    { initial with
      listenfd := (kept _ (apart initial.listenfd (by simp))).trans initial.listenfd
      videofd := (kept _ (apart initial.videofd (by simp))).trans initial.videofd
      siplistenfd := fun _ => Function.update_self ..
      others := fun fd other => by
        rw [kept fd other]
        exact initial.others fd other
      negative := fun fd below => by
        rw [kept fd (by omega)]
        exact initial.negative fd below
      masterfds := fun fd => by
        rw [show (s.inTheatre (curtain s)).masterfds = fdSet s.masterfds s.sip.siplistenfd from rfl,
          fdSet_eq_true, initial.masterfds]
        simp only [ServerState.inTheatre, curtain, true_and]
        tauto
      streamclient := by
        simp only [ServerState.inTheatre, initial.streamclient]
        rfl }

end Initial

/-- The number of the SIP socket is not in use. -/
def SipUnused (s : ServerState) : Prop := 0 < s.sip.siplistenfd ∧ s.kernel s.sip.siplistenfd = none

instance (s : ServerState) : Decidable (SipUnused s) := inferInstanceAs (Decidable (_ ∧ _))

/-- Nor is it given away. -/
def sparesSip (_ : List Output) (s : ServerState) (input : Input) : Prop :=
  s.sip.siplistenfd ∉ input.opens

instance (past : List Output) (s : ServerState) (input : Input) : Decidable (sparesSip past s input) :=
  inferInstanceAs (Decidable (¬ _))

/-- As long as the SIP socket can be opened next to the plain server, and as long as the movie theatre
runs, the theatre without callers does the same. -/
theorem theatre_simulates (variant : Variant) (url : List UInt8) :
    Machine.Simulates (machine variant url) (machine .mt url)
      (fun s => (variant = .server → SipUnused s) ∧ (variant = .mt → s.Running))
      (fun past s input => variant = .server → sparesSip past s input)
      (Stages variant) (ShowsAlike variant) where
  initial start initial ok := by
    have place : 0 ≤ start.sip.siplistenfd ∧ (start.kernel start.sip.siplistenfd = none ∨
        start.kernel start.sip.siplistenfd = some .udp) := by
      cases variant with
      | server =>
          obtain ⟨valid, free⟩ := ok.1 rfl
          exact ⟨by omega, Or.inl free⟩
      | mt =>
          have hears := hearsSip_initial initial
          exact ⟨hears.valid, Or.inr hears.udp⟩
    obtain ⟨valid, unused⟩ := place
    exact ⟨_, curtain_initial initial valid unused, curtain start, rfl, rfl,
      serves_initial initial valid _, selects_initial initial, tableCounts_initial initial⟩
  step := by
    rintro trace trace' before input after output model run
      ⟨own, sip, rfl, serves, selects, counts⟩ ok ok' spared taken
    -- Wherever it gets to, the theatre has its sockets open.
    have stage : Selects .mt (before.inTheatre own) :=
      run.invariant (fun _ => selects_initial) fun before taken => selects_kept before taken
    have free : StageFree variant before own.sip.siplistenfd input := by
      rw [sip]
      refine ⟨fun fd member fresh same => ?_, fun plain => ok.1 plain⟩
      cases variant with
      | server => exact spared rfl (same ▸ member)
      | mt => cases (same ▸ fresh.2).symm.trans (selects.sip rfl).udp
    obtain ⟨own', part, sip', serves', steps, shows_⟩ := step_followed
      (serves.mono rtcpSockets_mono) selects counts stage.listens.facts.sockets.client
      (stage.sip rfl) free rtcpSockets_counts ok'.2 taken
    refine ⟨part, _, steps, ⟨own', ?_, rfl, serves', selects_kept selects taken,
      tableCounts_kept counts taken⟩, shows_⟩
    rw [sip', sip, step_siplistenfd taken]

/-- What is matched was told the same, and puts out the same for the RTSP client. -/
theorem matched_alike {variant : Variant} {trace trace' : List (Entry ServerState Input Output)}
    (matched : Machine.Matched (ShowsAlike variant) trace trace') :
    NobodyCalls trace' ∧ demands variant trace' = demands variant trace ∧
      Machine.outputs trace' = withoutCalls (Machine.outputs trace) := by
  refine ⟨?_, ?_, ?_⟩
  · exact matched.forall fun entry part alike => alike.nobody
  · exact matched.flatMap fun entry part alike => alike.demands.trans (by simp [demands])
  · have shown : trace'.flatMap Entry.output = trace.flatMap fun entry => withoutCalls entry.output :=
      matched.flatMap fun entry part alike => alike.outputs
    rw [Machine.outputs, shown, withoutCalls, Machine.outputs, List.filter_flatMap]
    rfl

/-- The theatre in which nobody calls has a run, told to do the same, which puts out the same for the
RTSP client and gets to the same state but for its own. -/
def PlaysForNobody (url : List UInt8) (trace : List (Entry ServerState Input Output))
    (state : ServerState) : Prop :=
  ∃ trace' own, (machine .mt url).Runs trace' (state.inTheatre own) ∧
    Serves .server (rtcpSockets trace) state own ∧ NobodyCalls trace' ∧
    demands .server trace' = demands .server trace ∧
    Machine.outputs trace' = withoutCalls (Machine.outputs trace)

/-- Whatever the plain server does while the number of the SIP socket is not used, the movie theatre
can do. -/
theorem startMtServer_serves {url : List UInt8} {trace : List (Entry ServerState Input Output)}
    {state : ServerState} (run : (machine .server url).Runs trace state)
    (unused : Machine.Always (fun _ => SipUnused) trace state)
    (spared : Machine.Throughout sparesSip trace) : PlaysForNobody url trace state := by
  have all := unused.imp fun _ s unused =>
    (⟨fun _ => unused, fun mt => by cases mt⟩ :
      (Variant.server = .server → SipUnused s) ∧ (Variant.server = .mt → s.Running))
  obtain ⟨trace', model, run', ⟨own, -, rfl, serves, -⟩, matched⟩ :=
    (theatre_simulates .server url).runs run all
      fun past entry future split _ => spared past entry future split
  exact ⟨trace', own, run', serves, matched_alike matched⟩

/-- The plain server, with no SIP socket open. -/
def plainStart : ServerState := (startState .server).close 3

theorem plainStart_initial (url : List UInt8) : (machine .server url).Initial plainStart := by
  have start := startState_initial .server url
  have kept : ∀ fd, fd ≠ 3 → plainStart.kernel fd = (startState .server).kernel fd :=
    fun fd other => Function.update_of_ne other ..
  exact
    { start with
      listenfd := (kept 5 (by decide)).trans start.listenfd
      videofd := (kept 4 (by decide)).trans start.videofd
      siplistenfd := nofun
      others := fun fd other => by
        rw [kept fd other]
        exact start.others fd other
      negative := fun fd below => by
        rw [kept fd (by omega)]
        exact start.negative fd below }

/-- A session with four sockets up to its TEARDOWN, at which a filler waits. -/
def leaveWaiting : List Input :=
  connect 6 ++ describe 6 7 someResponse ++
    request 6 { RtspIo.line "SETUP" with sockets := .ok (8, 9) } ++
    request 6 { RtspIo.line "SETUP" with sockets := .ok (10, 11) } ++
    request 6 (RtspIo.line "PLAY") ++ media 7 someResponse someHeader ++ media 7 [] [7] ++
    [.filler 0 .wait] ++ request 6 (RtspIo.line "TEARDOWN")

/-- The plain server has left a socket open which the theatre has closed. -/
theorem startMtServer_serves_leaveWaiting : ∃ result,
    (machine .server someUrl).exec [] plainStart leaveWaiting = .ok result ∧
      result.2.kernel 9 = some .udp ∧ PlaysForNobody someUrl result.1 result.2 := by
  have computed : ∃ result, (machine .server someUrl).exec [] plainStart leaveWaiting = .ok result ∧
      result.2.kernel 9 = some .udp ∧ SipUnused result.2 ∧
      Machine.MeetsAll (fun _ s _ => SipUnused s) [] result.1 ∧
      Machine.MeetsAll sparesSip [] result.1 :=
    ⟨_, rfl, by decide +kernel, by decide +kernel, by decide +kernel, by decide +kernel⟩
  obtain ⟨result, computed, leaked, unused, earlier, spared⟩ := computed
  exact ⟨result, computed, leaked, startMtServer_serves
    (Machine.Runs.of_exec (plainStart_initial someUrl) computed)
    ⟨unused, Machine.throughout_of_meetsAll earlier⟩ (Machine.throughout_of_meetsAll spared)⟩

/-- A server which has stopped has stopped for good. -/
theorem step_running {variant : Variant} {url : List UInt8} {s after : ServerState} {input : Input}
    {output : List Output} (taken : step variant url s input = .ok (after, output))
    (runs : after.Running) : s.Running := by
  intro reason halted
  cases step_cases taken with
  | timeout pc set effect => cases pc.symm.trans halted
  | interrupted pc => cases pc.symm.trans halted
  | ready pc members => cases pc.symm.trans halted
  | accept pc branch possible effect => cases pc.symm.trans halted
  | datagram pc branch effect => cases pc.symm.trans halted
  | media pc branch possible effect => cases pc.symm.trans halted
  | rtsp pc branch possible effect => cases pc.symm.trans halted
  | rearmed pc free => cases pc.symm.trans halted
  | rearmLocked pc taken => cases pc.symm.trans halted
  | filler effect =>
      obtain ⟨queue, lock, fillers, rfl, -⟩ := effect.only
      exact runs reason halted

/-- The same state but for the SIP side: the SIP variables, the sockets of the calls, and the numbering
of the audio which is sent to them. -/
structure SameButCalls (s model : ServerState) : Prop where
  state : model = { s with
    kernel := model.kernel
    rtpseqnoAudio := model.rtpseqnoAudio
    sip := model.sip }
  listens : model.sip.siplistenfd = s.sip.siplistenfd
  nobody : ∀ k, model.sip.clientlist k = none
  kernel : ∀ fd, model.kernel fd = s.kernel fd ∨
    (model.kernel fd = none ∧ s.kernel fd = some .udp ∧ s.sip.CallSocket fd)

/-- The theatre next to `start_mt_server` has nothing else of its own. -/
theorem Serves.sameButCalls {rtcps : Set Int} {s : ServerState} {own : Theatre}
    (serves : Serves .mt rtcps s own) (selects : Selects .mt s) (hears : HearsSip (s.inTheatre own)) :
    SameButCalls s (s.inTheatre own) where
  state := by
    have client : withRtcp s.streamclient own = s.streamclient := by
      obtain ⟨video, audio⟩ := serves.rtcp
      rw [withRtcp, ← video, ← audio]
    have watched : fdSet s.masterfds own.sip.siplistenfd = s.masterfds := by
      have hearing := selects.hearing rfl
      rw [← serves.same rfl] at hearing
      rw [fdSet, ← hearing, Function.update_eq_self]
    simp only [ServerState.inTheatre, client, watched]
  listens := serves.same rfl
  nobody := serves.nobody
  kernel fd := by
    by_cases sip : fd = own.sip.siplistenfd
    · refine Or.inl ?_
      have open_ := (selects.sip rfl).udp
      rw [← serves.same rfl] at open_
      rw [sip, open_]
      exact hears.udp
    · exact serves.kernel fd sip

/-- With every datagram an ACK of no call, the demands of `start_mt_server` are its inputs. -/
theorem inputs_of_demands {trace trace' : List (Entry ServerState Input Output)}
    (nobody : NobodyCalls trace') (same : demands .mt trace' = demands .mt trace) :
    trace'.map Entry.input = trace.map fun entry => entry.input.unheard := by
  have told : ∀ trace : List (Entry ServerState Input Output),
      demands .mt trace = trace.map fun entry => entry.input.unheard := fun trace =>
    List.flatMap_pure_eq_map ..
  rw [told, told] at same
  rw [← same]
  refine List.map_congr_left fun entry member => ?_
  cases input : entry.input with
  | datagram io => rw [nobody entry member io input, Input.unheard]
  | _ => rfl

/-- Someone calls, and hears the first frame of a session. -/
def playToCaller : List Input :=
  connect 6 ++ datagram (callDatagram "INVITE" "1" 8) ++ datagram (callDatagram "ACK" "1" 9) ++
    describe 6 7 someResponse ++ play 6 ++ media 7 someResponse someHeader ++ media 7 [] [7] ++
    [.filler 0 .wait, .filler 0 .spurious, .filler 0 (.resume someTime (some someAudio) ⟨0, 0⟩),
      .timeout someTime 0]

end Http2Rtsp.Server
