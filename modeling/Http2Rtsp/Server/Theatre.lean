import Http2Rtsp.Server.ClientRecord
import Http2Rtsp.Server.Watched

/-!
# A theatre next to a server

`start_mt_server` is `start_server` with a SIP side. Here its state without callers
is put next to a state of either server, and each handler of the main loop is shown
to come to the same in both. The second SETUP of the movie theatre stores both
sockets, so that its TEARDOWN closes all four of them, and signals no filler.
-/

namespace Http2Rtsp.Server

open Http2Rtsp.Std Http2Rtsp.Message Http2Rtsp.Pacing Http2Rtsp.Semantics

/-! ## The state of the theatre -/

/-- What `start_mt_server` has apart from what it shares with `start_server`: the descriptors it has
open, the RTCP sockets it has stored, its audio sequence number and the SIP variables. -/
structure Theatre where
  kernel : Int → Option Endpoint
  videoRtcp : Int
  audioRtcp : Int
  rtpseqnoAudio : UInt16
  sip : Sip

/-- With these descriptors open. -/
def Theatre.opening (own : Theatre) (kernel : Int → Option Endpoint) : Theatre :=
  { own with kernel := kernel }

/-- The client with these RTCP sockets. -/
def withRtcp (client : Client) (own : Theatre) : Client :=
  { client with
    videofds := (client.videofds.1, own.videoRtcp)
    audiofds := (client.audiofds.1, own.audioRtcp) }

/-- The state of `start_mt_server` next to this one of `start_server`. -/
def ServerState.inTheatre (s : ServerState) (own : Theatre) : ServerState :=
  { s with
    kernel := own.kernel
    masterfds := fdSet s.masterfds own.sip.siplistenfd
    streamclient := withRtcp s.streamclient own
    rtpseqnoAudio := own.rtpseqnoAudio
    sip := own.sip }

/-- What is open there is open here, apart from the SIP socket; here further sockets of one kind may
be open. -/
def Leaks (spare : Int → Prop) (siplistenfd : Int) (kernel kernel' : Int → Option Endpoint) : Prop :=
  ∀ fd, fd ≠ siplistenfd →
    kernel' fd = kernel fd ∨ (kernel' fd = none ∧ kernel fd = some .udp ∧ spare fd)

/-- A socket of some call. -/
def Sip.CallSocket (sip : Sip) (fd : Int) : Prop :=
  ∃ k client, sip.clientlist k = some client ∧ client.sockfd = fd

/-- The sockets which a server may have open and the theatre not: of these RTCP sockets one which
`start_server` has not closed, or the sockets of calls. -/
def Spare (variant : Variant) (rtcps : Set Int) (sip : Sip) (fd : Int) : Prop :=
  match variant with
  | .server => fd ∈ rtcps
  | .mt => sip.CallSocket fd

/-- The RTCP sockets the two have stored. `start_server` has overwritten one of them. -/
def StoresRtcp (variant : Variant) (client : Client) (own : Theatre) : Prop :=
  match variant with
  | .server => client.videofds.2 = -1 ∧
      (client.audiofds.2 = own.audioRtcp ∨ client.audiofds.2 = own.videoRtcp)
  | .mt => client.videofds.2 = own.videoRtcp ∧ client.audiofds.2 = own.audioRtcp

/-- A server and the theatre in which nobody calls are in step. `rtcps` are the RTCP sockets which
have been opened. -/
structure Serves (variant : Variant) (rtcps : Set Int) (s : ServerState) (own : Theatre) : Prop where
  nobody : ∀ k, own.sip.clientlist k = none
  valid : 0 ≤ own.sip.siplistenfd
  same : variant = .mt → own.sip.siplistenfd = s.sip.siplistenfd
  negative : ∀ fd, fd < 0 → s.kernel fd = none
  kernel : Leaks (Spare variant rtcps s.sip) own.sip.siplistenfd s.kernel own.kernel
  calls : ∀ k client, s.sip.clientlist k = some client → own.kernel client.sockfd = none
  rtcp : StoresRtcp variant s.streamclient own
  opened : ∀ fd, fd = own.videoRtcp ∨ fd = own.audioRtcp → fd = -1 ∨ fd ∈ rtcps

/-- A valid descriptor which belongs to no call. -/
def ServerState.OffCalls (s : ServerState) (fd : Int) : Prop :=
  0 ≤ fd ∧ ∀ k client, s.sip.clientlist k = some client → client.sockfd ≠ fd

section Leaks

variable {spare : Int → Prop} {siplistenfd fd : Int} {kernel kernel' : Int → Option Endpoint}

theorem Leaks.update (leaks : Leaks spare siplistenfd kernel kernel') (fd : Int)
    (entry : Option Endpoint) :
    Leaks spare siplistenfd (Function.update kernel fd entry) (Function.update kernel' fd entry) := by
  intro other apart
  by_cases same : other = fd
  · subst same
    exact Or.inl (by simp)
  · simpa [same] using leaks other apart

/-- What is open in the same way is changed in the same way. -/
theorem Leaks.map (leaks : Leaks spare siplistenfd kernel kernel') (same : kernel' fd = kernel fd)
    (f : Endpoint → Endpoint) :
    Leaks spare siplistenfd (Function.update kernel fd ((kernel fd).map f))
      (Function.update kernel' fd ((kernel' fd).map f)) := by
  rw [same]
  exact leaks.update fd _

/-- What is no socket is open in the same way. -/
theorem Leaks.same (leaks : Leaks spare siplistenfd kernel kernel') (apart : fd ≠ siplistenfd)
    (notUdp : kernel fd ≠ some .udp) : kernel' fd = kernel fd :=
  (leaks fd apart).resolve_right fun leaked => notUdp leaked.2.1

/-- More sockets may be open. -/
theorem Leaks.mono {spare' : Int → Prop} (leaks : Leaks spare siplistenfd kernel kernel')
    (more : ∀ fd, spare fd → spare' fd) : Leaks spare' siplistenfd kernel kernel' :=
  fun fd apart => (leaks fd apart).imp_right fun leaked => ⟨leaked.1, leaked.2.1, more fd leaked.2.2⟩

end Leaks

theorem StoresRtcp.of_eq {variant : Variant} {client client' : Client} {own : Theatre}
    (stores : StoresRtcp variant client own) (same : clientSockets client' = clientSockets client) :
    StoresRtcp variant client' own := by
  simp only [clientSockets, List.cons.injEq, and_true] at same
  obtain ⟨-, video, -, audio⟩ := same
  cases variant
  · exact ⟨video.trans stores.1, audio ▸ stores.2⟩
  · exact ⟨video.trans stores.1, audio.trans stores.2⟩

section Serves

variable {variant : Variant} {rtcps : Set Int} {s after : ServerState} {own : Theatre}

/-- A change of other variables. -/
theorem Serves.of_eq (serves : Serves variant rtcps s own) (kernel : after.kernel = s.kernel)
    (sip : after.sip = s.sip)
    (client : clientSockets after.streamclient = clientSockets s.streamclient) :
    Serves variant rtcps after own where
  nobody := serves.nobody
  valid := serves.valid
  same mt := by rw [sip, serves.same mt]
  negative := by
    rw [kernel]
    exact serves.negative
  kernel := by
    rw [kernel, sip]
    exact serves.kernel
  calls := by
    rw [sip]
    exact serves.calls
  rtcp := serves.rtcp.of_eq client
  opened := serves.opened

/-- Further RTCP sockets may be opened. -/
theorem Serves.mono {more : Set Int} (serves : Serves variant rtcps s own)
    (further : rtcps ⊆ more) : Serves variant more s own where
  nobody := serves.nobody
  valid := serves.valid
  same := serves.same
  negative := serves.negative
  kernel := serves.kernel.mono fun fd spare => by
    cases variant with
    | server => exact further spare
    | mt => exact spare
  calls := serves.calls
  rtcp := serves.rtcp
  opened fd stored := (serves.opened fd stored).imp_right fun opened => further opened

/-- The same descriptor is opened or closed in both. -/
theorem Serves.update (serves : Serves variant rtcps s own) {fd : Int} {entry : Option Endpoint}
    (kernel : after.kernel = Function.update s.kernel fd entry)
    (valid : entry = none ∨ s.OffCalls fd) (sip : after.sip = s.sip)
    (client : clientSockets after.streamclient = clientSockets s.streamclient) :
    Serves variant rtcps after (own.opening (Function.update own.kernel fd entry)) where
  nobody := serves.nobody
  valid := serves.valid
  same mt := sip ▸ serves.same mt
  negative other below := by
    rw [kernel]
    by_cases same : other = fd
    · subst same
      rw [Function.update_self]
      exact valid.resolve_right fun off => absurd off.1 (by omega)
    · rw [Function.update_of_ne same]
      exact serves.negative other below
  kernel := by
    rw [kernel, sip]
    exact serves.kernel.update fd entry
  calls k called there := by
    rw [sip] at there
    have absent := serves.calls k called there
    change Function.update own.kernel fd entry called.sockfd = none
    rw [Function.update_apply]
    split
    · rename_i same
      exact valid.resolve_right fun off => off.2 k called there same
    · exact absent
  rtcp := serves.rtcp.of_eq client
  opened := serves.opened

/-- Bytes are received in both. -/
theorem Serves.recv (serves : Serves variant rtcps s own) {i : Int} {bytes : List UInt8}
    (same : own.kernel i = s.kernel i) (off : s.OffCalls i)
    (kernel : after.kernel = (s.recv i bytes).kernel) (sip : after.sip = s.sip)
    (client : clientSockets after.streamclient = clientSockets s.streamclient) :
    Serves variant rtcps after (own.opening ((s.inTheatre own).recv i bytes).kernel) := by
  have received : ((s.inTheatre own).recv i bytes).kernel =
      Function.update own.kernel i ((s.kernel i).map fun e => e.consume bytes) := by
    rw [← same]
    rfl
  rw [received]
  exact serves.update kernel (Or.inr off) sip client

/-- No negative number is a descriptor there either. -/
theorem Serves.ownNegative (serves : Serves variant rtcps s own) {fd : Int} (below : fd < 0) :
    own.kernel fd = none := by
  have valid := serves.valid
  rcases serves.kernel fd (by omega) with same | leaked
  · exact same.trans (serves.negative fd below)
  · exact leaked.1

end Serves

/-! ## Outcomes -/

/-- What callers are sent; in `start_server`, the audio. -/
def Output.toCallers : Output → Bool
  | .audioFrame _ _ _ | .okSent _ _ _ | .byeSent _ _ => true
  | _ => false

/-- What is put out apart from that. -/
def withoutCalls (outputs : List Output) : List Output := outputs.filter fun o => !o.toCallers

@[simp] theorem withoutCalls_append (first second : List Output) :
    withoutCalls (first ++ second) = withoutCalls first ++ withoutCalls second := List.filter_append ..

/-- A handler comes to the same in both servers. -/
def Staged (variant : Variant) (rtcps : Set Int) (sip : Sip) (outcome outcome' : Outcome) : Prop :=
  ∃ own, own.sip = sip ∧ outcome'.1 = outcome.1.inTheatre own ∧ Serves variant rtcps outcome.1 own ∧
    outcome'.2 = withoutCalls outcome.2

section Staged

variable {variant : Variant} {rtcps : Set Int} {s : ServerState} {own : Theatre}

theorem Staged.halt (serves : Serves variant rtcps s own) (reason : Halt) :
    Staged variant rtcps own.sip (s.halt reason) ((s.inTheatre own).halt reason) := by
  refine ⟨own, rfl, rfl, serves.of_eq rfl rfl rfl, ?_⟩
  cases reason <;> rfl

/-- Nothing is put out. -/
theorem Staged.silent (serves : Serves variant rtcps s own) :
    Staged variant rtcps own.sip (s, []) (s.inTheatre own, []) := ⟨own, rfl, rfl, serves, rfl⟩

/-- One thing after the other. -/
theorem Staged.andThen {sip : Sip} {outcome outcome' : Outcome} {next next' : ServerState → Outcome}
    (first : Staged variant rtcps sip outcome outcome')
    (second : ∀ own, own.sip = sip → outcome'.1 = outcome.1.inTheatre own →
      Serves variant rtcps outcome.1 own →
        Staged variant rtcps sip (next outcome.1) (next' (outcome.1.inTheatre own))) :
    Staged variant rtcps sip (outcome.andThen next) (outcome'.andThen next') := by
  obtain ⟨own, same, state, serves, output⟩ := first
  have pc : outcome'.1.pc = outcome.1.pc := by rw [state]; rfl
  obtain ⟨own', same', state', serves', output'⟩ := second own same state serves
  by_cases runs : outcome.1.Running
  · rw [andThen_running runs, andThen_running fun reason => by rw [pc]; exact runs reason]
    refine ⟨own', same', ?_, serves', ?_⟩
    · rw [state]
      exact state'
    · rw [output, state, output', withoutCalls_append]
  · simp only [ServerState.Running, ne_eq, not_forall, not_not] at runs
    obtain ⟨reason, halted⟩ := runs
    rw [andThen_halted halted, andThen_halted (pc.trans halted)]
    exact ⟨own, same, state, serves, output⟩

/-- The lock is the same one. -/
theorem Staged.locked {section_ section' : ServerState → Outcome}
    (serves : Serves variant rtcps s own) (inside : s.lock = none →
      Staged variant rtcps own.sip (section_ s) (section' (s.inTheatre own))) :
    Staged variant rtcps own.sip (s.locked section_) ((s.inTheatre own).locked section') := by
  by_cases free : s.lock = none
  · rw [locked_free free, locked_free (show (s.inTheatre own).lock = none from free)]
    exact inside free
  · rw [locked_taken free, locked_taken (show (s.inTheatre own).lock ≠ none from free)]
    exact .halt serves .deadlock

end Staged

/-! ## Timeouts -/

/-- Nobody has called. -/
theorem acknowledged_nobody {sip : Sip} (nobody : ∀ k, sip.clientlist k = none) :
    sip.acknowledged = [] := by
  simp [Sip.acknowledged, nobody]

theorem withoutCalls_sendAudio (frame : Rtp.Frame) (seqnum : UInt16) (fds : List Int) :
    withoutCalls (sendAudio frame seqnum fds).2 = [] := by
  refine List.filter_eq_nil_iff.mpr fun o member => ?_
  obtain ⟨fd, seq, rfl⟩ := mem_sendAudio member
  simp [Output.toCallers]

theorem withoutCalls_byes (clients : List SIPClient) : withoutCalls (byes clients).1 = [] := by
  refine List.filter_eq_nil_iff.mpr fun o member => ?_
  obtain ⟨text, cliaddr, rfl⟩ := mem_byes member
  simp [Output.toCallers]

section Timeouts

variable {variant : Variant} {rtcps : Set Int} {s : ServerState} {own : Theatre}

/-- The event comes to the same unless the BYEs stop the server. -/
theorem handleEvent_staged (serves : Serves variant rtcps s own) (event : TimeoutEvent) (now : Clock)
    (running : s.Running) (runs : variant = .mt → (s.handleEvent variant event now).1.Running) :
    Staged variant rtcps own.sip (s.handleEvent variant event now)
      ((s.inTheatre own).handleEvent .mt event now) := by
  have nobody : (s.inTheatre own).sip.acknowledged = [] := acknowledged_nobody serves.nobody
  unfold ServerState.handleEvent at runs ⊢
  cases type : event.type with
  | endOfStream =>
      have alone : ServerState.Running (s.inTheatre own, (byes []).1).1 := running
      have said : ServerState.Running (s, (byes s.sip.acknowledged).1).1 := running
      simp only [nobody, type, andThen_running alone] at runs ⊢
      cases variant with
      | server => exact ⟨own, rfl, rfl, serves, rfl⟩
      | mt =>
          simp only [andThen_running said] at runs ⊢
          cases ended : (byes s.sip.acknowledged).2 with
          | some reason =>
              have stops := runs trivial (.undefined reason)
              simp only [ended] at stops
              exact absurd rfl stops
          | none =>
              refine ⟨own, rfl, rfl, serves, ?_⟩
              rw [withoutCalls_append, withoutCalls_byes]
              rfl
  | frame frame =>
      cases kind : frame.frametype with
      | video =>
          simp only [kind]
          exact ⟨own, rfl, rfl, serves.of_eq rfl rfl rfl, rfl⟩
      | audio =>
          have silent : (s.inTheatre own).audioTargets .mt = [] := by
            simp [ServerState.audioTargets, nobody]
          simp only [kind, silent]
          exact ⟨own, rfl, rfl, serves.of_eq rfl rfl rfl, (withoutCalls_sendAudio ..).symm⟩
  | checkMediaState =>
      by_cases streaming : s.download.mediastate = .stream
      · simp only [if_pos streaming, if_pos (show (s.inTheatre own).download.mediastate = .stream
          from streaming)]
        exact ⟨own, rfl, rfl, serves, rfl⟩
      · simp only [if_neg streaming, if_neg (show (s.inTheatre own).download.mediastate ≠ .stream
          from streaming)]
        exact ⟨own, rfl, rfl, serves.of_eq rfl rfl rfl, rfl⟩

theorem handleTimeout_staged (serves : Serves variant rtcps s own) (now : Clock) (wake : Nat)
    (running : s.Running) (runs : variant = .mt → (s.handleTimeout variant now wake).1.Running) :
    Staged variant rtcps own.sip (s.handleTimeout variant now wake)
      ((s.inTheatre own).handleTimeout .mt now wake) := by
  have cleared : Serves variant rtcps { s with timeind := none } own := serves.of_eq rfl rfl rfl
  refine Staged.locked cleared fun free => ?_
  dsimp only [ServerState.inTheatre]
  cases queued : s.queue with
  | nil => exact ⟨own, rfl, rfl, cleared.of_eq rfl rfl rfl, rfl⟩
  | cons event rest =>
      have dequeued : Serves variant rtcps { s with timeind := none, queue := rest } own :=
        cleared.of_eq rfl rfl rfl
      refine (handleEvent_staged dequeued event now running fun mt reason halted => ?_).andThen
        fun own' same state serves' => ?_
      · refine runs mt reason ?_
        rw [ServerState.handleTimeout, locked_free (show ({ s with timeind := none } :
          ServerState).lock = none from free)]
        dsimp only
        rw [queued]
        dsimp only
        rw [andThen_halted halted]
        exact halted
      · exact ⟨own', same, rfl, serves'.of_eq rfl rfl rfl, rfl⟩

theorem rearm_staged (serves : Serves variant rtcps s own) (now : Clock) :
    Staged variant rtcps own.sip (s.rearm now) ((s.inTheatre own).rearm now) :=
  Staged.locked serves fun _ => ⟨own, rfl, rfl, serves.of_eq rfl rfl rfl, rfl⟩

end Timeouts

/-! ## Descriptors -/

theorem fdSet_comm (fds : Int → Bool) (fd other : Int) :
    fdSet (fdSet fds fd) other = fdSet (fdSet fds other) fd := by
  by_cases same : other = fd
  · rw [same]
  · exact Function.update_comm (Ne.symm same) true true fds

theorem fdClr_fdSet {fd other : Int} (apart : fd ≠ other) (fds : Int → Bool) :
    fdClr (fdSet fds other) fd = fdSet (fdClr fds fd) other := by
  unfold fdClr fdSet
  exact Function.update_comm apart.symm true false fds

section Descriptors

variable {variant : Variant} {rtcps : Set Int} {s : ServerState} {own : Theatre}

theorem handleAccept_staged (serves : Serves variant rtcps s own) (result : Accept)
    (off : ∀ fd, result = .accepted fd → s.OffCalls fd) :
    Staged variant rtcps own.sip (s.handleAccept result) ((s.inTheatre own).handleAccept result) := by
  cases result with
  | fatal => exact .halt serves .exited
  | failed =>
      by_cases busy : s.streamclient.state ≠ .noclient
      · simp only [ServerState.handleAccept, if_pos busy,
          if_pos (show (s.inTheatre own).streamclient.state ≠ .noclient from busy)]
        exact ⟨own, rfl, rfl, serves, rfl⟩
      · simp only [ServerState.handleAccept, if_neg busy,
          if_neg (show ¬ (s.inTheatre own).streamclient.state ≠ .noclient from busy)]
        exact .halt serves _
  | accepted fd =>
      by_cases busy : s.streamclient.state ≠ .noclient
      · simp only [ServerState.handleAccept, if_pos busy,
          if_pos (show (s.inTheatre own).streamclient.state ≠ .noclient from busy)]
        exact ⟨own, rfl, rfl, serves, rfl⟩
      · simp only [ServerState.handleAccept, if_neg busy,
          if_neg (show ¬ (s.inTheatre own).streamclient.state ≠ .noclient from busy)]
        refine ⟨own.opening (Function.update own.kernel fd (some .peer)), rfl, ?_,
          serves.update rfl (Or.inr (off fd rfl)) rfl rfl, rfl⟩
        dsimp only [ServerState.inTheatre, ServerState.openFd, withRtcp, Theatre.opening]
        rw [fdSet_comm]

/-! ## The source -/

/-- What is received is stored in both. -/
theorem storeMedia_staged (serves : Serves variant rtcps s own) {i : Int}
    {io : MediaIo} (same : own.kernel i = s.kernel i) (off : s.OffCalls i)
    (apart : i ≠ own.sip.siplistenfd) : ∃ own', own'.sip = own.sip ∧
      (s.inTheatre own).storeMedia i io = (s.storeMedia i io).inTheatre own' ∧
      Serves variant rtcps (s.storeMedia i io) own' := by
  have received : Serves variant rtcps (s.recv i io.received)
      (own.opening ((s.inTheatre own).recv i io.received).kernel) := serves.recv same off rfl rfl rfl
  by_cases ended : io.received = []
  · let closing := own.opening ((s.inTheatre own).recv i io.received |>.close i).kernel
    have closed : Serves variant rtcps ((s.recv i io.received).close i) closing :=
      received.update rfl (Or.inl rfl) rfl rfl
    refine ⟨closing, rfl, ?_, ?_⟩
    · simp only [ServerState.storeMedia, if_pos ended]
      dsimp only [ServerState.inTheatre, ServerState.recv, ServerState.close, withRtcp, closing,
        Theatre.opening]
      rw [fdClr_fdSet apart]
    · simp only [ServerState.storeMedia, if_pos ended]
      exact closed.of_eq rfl rfl rfl
  · refine ⟨own.opening ((s.inTheatre own).recv i io.received).kernel, rfl, ?_, ?_⟩
    · simp only [ServerState.storeMedia, if_neg ended]
      rfl
    · simp only [ServerState.storeMedia, if_neg ended]
      exact received.of_eq rfl rfl rfl

/-- The creation of a filler. -/
theorem startFiller_staged (serves : Serves variant rtcps s own)
    (opening : Except OpeningFailure ParameterSets) :
    Staged variant rtcps own.sip (s.startFiller opening) ((s.inTheatre own).startFiller opening) := by
  have created : Serves variant rtcps s.createFiller own := serves.of_eq rfl rfl rfl
  unfold ServerState.startFiller
  cases opening with
  | ok sets => exact ⟨own, rfl, rfl, serves.of_eq rfl rfl rfl, rfl⟩
  | error failure =>
      cases failure with
      | exits => exact .halt serves .exited
      | fails =>
          refine Staged.andThen ⟨own, rfl, rfl, created, rfl⟩ fun own' sip state serves' => ?_
          rw [← sip]
          exact .halt serves' _

/-- The end of the download. -/
theorem complete_staged (serves : Serves variant rtcps s own) (io : MediaIo)
    (apart : s.mediafd ≠ own.sip.siplistenfd) :
    Staged variant rtcps own.sip (s.complete io) ((s.inTheatre own).complete io) := by
  let closing := own.opening
    (Function.update (Function.update own.kernel s.videofd none) s.mediafd none)
  have first : Serves variant rtcps (s.close s.videofd)
      (own.opening (Function.update own.kernel s.videofd none)) :=
    serves.update rfl (Or.inl rfl) rfl rfl
  have closed : Serves variant rtcps s.closeDownload closing := first.update rfl (Or.inl rfl) rfl rfl
  have state : (s.inTheatre own).closeDownload = s.closeDownload.inTheatre closing := by
    dsimp only [ServerState.closeDownload, ServerState.inTheatre, ServerState.close, withRtcp, closing,
      Theatre.opening]
    rw [fdClr_fdSet apart]
  unfold ServerState.complete
  rw [state]
  refine Staged.andThen ?_ fun own' sip state' serves' => ?_
  · exact startFiller_staged closed io.opening
  · rw [← sip]
    exact Staged.locked serves' fun _ => ⟨own', rfl, rfl, serves'.of_eq rfl rfl rfl, rfl⟩

theorem handleMedia_staged (serves : Serves variant rtcps s own) {i : Int}
    (io : MediaIo) (same : own.kernel i = s.kernel i) (off : s.OffCalls i)
    (apart : i ≠ own.sip.siplistenfd) (media : i = s.mediafd) :
    Staged variant rtcps own.sip (s.handleMedia i io) ((s.inTheatre own).handleMedia i io) := by
  have shared : (s.inTheatre own).kernel i = s.kernel i := same
  unfold ServerState.handleMedia
  rw [show (s.inTheatre own).download = s.download from rfl, shared]
  cases s.download.mediastate with
  | idle => exact ⟨own, rfl, rfl, serves, rfl⟩
  | stream => exact ⟨own, rfl, rfl, serves, rfl⟩
  | getsent =>
      by_cases opened : s.kernel i = none
      · simp only [if_pos opened]
        exact .halt serves .exited
      · simp only [if_neg opened]
        cases headerLength io.peeked with
        | none => exact .halt serves _
        | some size =>
            cases s.download.getsent io.received with
            | error reason => exact .halt serves _
            | ok download =>
                exact ⟨own.opening ((s.inTheatre own).recv i io.received).kernel, rfl, rfl,
                  serves.recv same off rfl rfl rfl, rfl⟩
  | recvtcp =>
      by_cases opened : s.kernel i = none
      · simp only [if_pos opened]
        exact .halt serves .exited
      · simp only [if_neg opened]
        obtain ⟨own', sip, state, stored⟩ := storeMedia_staged serves same off apart
        rw [state]
        by_cases more : 0 < (s.storeMedia i io).download.videoleft
        · simp only [if_pos more,
            if_pos (show 0 < ((s.storeMedia i io).inTheatre own').download.videoleft from more)]
          exact ⟨own', sip, rfl, stored, rfl⟩
        · simp only [if_neg more, if_neg (show ¬ 0 <
            ((s.storeMedia i io).inTheatre own').download.videoleft from more)]
          obtain ⟨kernel, masterfds, eq⟩ := storeMedia_eq s i io
          have sameMedia : (s.storeMedia i io).mediafd = i := by rw [eq, media]
          rw [← sip]
          refine complete_staged stored io ?_
          rw [sameMedia, sip]
          exact apart

/-! ## The client -/

/-- A receipt comes to the same. -/
theorem receiveRtsp_staged (serves : Serves variant rtcps s own) {i : Int}
    (received : List UInt8) (same : own.kernel i = s.kernel i) (off : s.OffCalls i)
    (apart : i ≠ own.sip.siplistenfd) :
    (∃ reason, s.receiveRtsp i received = s.halt reason ∧
        (s.inTheatre own).receiveRtsp i received = (s.inTheatre own).halt reason) ∨
      ∃ next prior kernel, s.receiveRtsp i received = (next, prior) ∧
        (s.inTheatre own).receiveRtsp i received = (next.inTheatre (own.opening kernel), prior) ∧
        ReceiveEffect s i received next prior ∧ Serves variant rtcps next (own.opening kernel) ∧
        withoutCalls prior = prior := by
  have shared : (s.inTheatre own).kernel i = s.kernel i := same
  have effect := receiveRtsp_cases s i received
  unfold ServerState.receiveRtsp at effect ⊢
  rw [shared]
  by_cases opened : s.kernel i = none
  · simp only [if_pos opened]
    exact Or.inl ⟨_, rfl, rfl⟩
  · simp only [if_neg opened] at effect ⊢
    by_cases empty : received = []
    · simp only [if_pos empty] at effect ⊢
      rcases effect with ⟨reason, -, unread⟩ | effect
      · exact absurd (.closed opened empty) (unread _ _)
      · refine Or.inr ⟨_, _, Function.update own.kernel i none, rfl, ?_, effect,
          serves.update rfl (Or.inl rfl) rfl rfl, rfl⟩
        dsimp only [ServerState.inTheatre, ServerState.close, withRtcp, Theatre.opening]
        rw [fdClr_fdSet apart]
    · simp only [if_neg empty] at effect ⊢
      cases terminated : cString bufSize received with
      | none => exact Or.inl ⟨_, rfl, rfl⟩
      | some text =>
          cases parsed : parseRtsp text with
          | error reason =>
              exact Or.inl ⟨.undefined reason, by simp only [parsed], by simp only [parsed]⟩
          | ok message =>
              simp only [parsed]
              refine Or.inr ⟨{ s.recv i received with rtspmsg := message.2 }, [],
                ((s.inTheatre own).recv i received).kernel, rfl, rfl, ?_,
                serves.recv same off rfl rfl rfl, rfl⟩
              exact .message opened empty terminated parsed

/-! ### The switch -/

/-- The sockets the kernel grants belong to no call. -/
def ServerState.OffSockets (s : ServerState) (io : RtspIo) : Prop :=
  ∀ rtp rtcp, io.sockets = .ok (rtp, rtcp) →
    (0 ≤ rtp → s.OffCalls rtp) ∧ (0 ≤ rtcp → s.OffCalls rtcp)

/-- A socket for media is opened in both. -/
theorem openUdp_staged (serves : Serves variant rtcps s own) (fd : Int) (off : 0 ≤ fd → s.OffCalls fd) :
    ∃ kernel, (s.inTheatre own).openUdp fd = (s.openUdp fd).inTheatre (own.opening kernel) ∧
      Serves variant rtcps (s.openUdp fd) (own.opening kernel) := by
  unfold ServerState.openUdp
  by_cases valid : 0 ≤ fd
  · simp only [if_pos valid]
    exact ⟨_, rfl, serves.update rfl (Or.inr (off valid)) rfl rfl⟩
  · simp only [if_neg valid]
    exact ⟨own.kernel, rfl, serves⟩

/-- With these RTCP sockets stored. -/
def Theatre.storing (own : Theatre) (videoRtcp audioRtcp : Int) : Theatre :=
  { own with videoRtcp := videoRtcp, audioRtcp := audioRtcp }

/-- A SETUP stores the same sockets, but for the place of the RTCP socket of the second one. -/
theorem setupSockets_staged {client : Client} (own : Theatre) (rtp rtcp : Int)
    (stores : StoresRtcp variant client own) : ∃ videoRtcp audioRtcp,
      (∀ fd, fd = videoRtcp ∨ fd = audioRtcp → fd = own.videoRtcp ∨ fd = own.audioRtcp ∨ fd = rtcp) ∧
      setupSockets .mt (withRtcp client own) rtp rtcp =
        (withRtcp (setupSockets variant client rtp rtcp).1 (own.storing videoRtcp audioRtcp),
          (setupSockets variant client rtp rtcp).2) ∧
      StoresRtcp variant (setupSockets variant client rtp rtcp).1
        (own.storing videoRtcp audioRtcp) := by
  by_cases first : client.setupsreceived < 2
  · refine ⟨own.videoRtcp, rtcp, by tauto, ?_, ?_⟩
    · simp only [setupSockets, if_pos first, if_pos (show (withRtcp client own).setupsreceived < 2
        from first)]
      rfl
    · simp only [setupSockets, if_pos first]
      cases variant with
      | server => exact ⟨stores.1, Or.inl rfl⟩
      | mt => exact ⟨stores.1, rfl⟩
  · simp only [setupSockets, if_neg first, if_neg (show ¬ (withRtcp client own).setupsreceived < 2
      from first)]
    refine ⟨rtcp, own.audioRtcp, by tauto, ?_, ?_⟩
    · cases variant with
      | server => rfl
      | mt =>
          rw [withRtcp, withRtcp]
          simp [Theatre.storing]
    · cases variant with
      | server => exact ⟨stores.1, Or.inr rfl⟩
      | mt => exact ⟨rfl, stores.2⟩

/-- The reply to a SETUP does not depend on the sockets. -/
theorem rtspSetup_staged (msg : RTSPMsg) (client : Client) (own : Theatre) (rand rtp rtcp : Nat) :
    rtspSetup msg (withRtcp client own) rand rtp rtcp =
      (rtspSetup msg client rand rtp rtcp).map fun reply => (withRtcp reply.1 own, reply.2) := by
  unfold rtspSetup
  dsimp only
  split <;> rfl

/-- Nor does it change them. -/
theorem rtspSetup_sockets {msg : RTSPMsg} {client : Client} {rand rtp rtcp : Nat}
    {reply : Client × List UInt8} (written : rtspSetup msg client rand rtp rtcp = .ok reply) :
    reply.1.videofds = client.videofds ∧ reply.1.audiofds = client.audiofds := by
  unfold rtspSetup at written
  dsimp only at written
  split at written
  · cases written
    exact ⟨rfl, rfl⟩
  · cases written

/-- A SETUP which is answered has its RTCP socket among these. -/
def CountsRtcp (rtcps : Set Int) (io : RtspIo) (output : List Output) : Prop :=
  (∃ i, .acted i .setup ∈ output) → ∀ rtp rtcp, io.sockets = .ok (rtp, rtcp) → rtcp ∈ rtcps

theorem handleSetup_staged (serves : Serves variant rtcps s own) (i : Int) {io : RtspIo}
    (off : s.OffSockets io) (counts : CountsRtcp rtcps io (s.handleSetup variant i io).2) :
    Staged variant rtcps own.sip (s.handleSetup variant i io)
      ((s.inTheatre own).handleSetup .mt i io) := by
  unfold ServerState.handleSetup at counts ⊢
  cases connected : io.sockets with
  | error reason => exact .halt serves reason
  | ok sockets =>
      obtain ⟨rtp, rtcp⟩ := sockets
      obtain ⟨offRtp, offRtcp⟩ := off rtp rtcp connected
      obtain ⟨first, openedFirst, servesFirst⟩ := openUdp_staged serves rtp offRtp
      have offRtcp' : 0 ≤ rtcp → (s.openUdp rtp).OffCalls rtcp := by
        have sip : (s.openUdp rtp).sip = s.sip := by
          unfold ServerState.openUdp
          split <;> rfl
        rw [ServerState.OffCalls, sip]
        exact offRtcp
      obtain ⟨second, openedSecond, servesSecond⟩ := openUdp_staged servesFirst rtcp offRtcp'
      have opened : ((s.inTheatre own).openUdp rtp).openUdp rtcp =
          ((s.openUdp rtp).openUdp rtcp).inTheatre (own.opening second) := by
        rw [openedFirst, openedSecond]
        rfl
      let client := { s.streamclient with setupsreceived := s.streamclient.setupsreceived + 1 }
      have stores : StoresRtcp variant client own := serves.rtcp
      obtain ⟨videoRtcp, audioRtcp, among, stored, storesBoth⟩ := setupSockets_staged own rtp rtcp stores
      have counted : { (s.inTheatre own).streamclient with
          setupsreceived := (s.inTheatre own).streamclient.setupsreceived + 1 } =
            withRtcp client own := rfl
      have answered := rtspSetup_staged s.rtspmsg (setupSockets variant client rtp rtcp).1
        (own.storing videoRtcp audioRtcp) io.rand (setupSockets variant client rtp rtcp).2.1
        (setupSockets variant client rtp rtcp).2.2
      have sameMsg : (s.inTheatre own).rtspmsg = s.rtspmsg := rfl
      dsimp only
      rw [counted, stored, opened, sameMsg]
      dsimp only
      rw [answered]
      cases written : rtspSetup s.rtspmsg (setupSockets variant client rtp rtcp).1 io.rand
          (setupSockets variant client rtp rtcp).2.1 (setupSockets variant client rtp rtcp).2.2 with
      | error reason =>
          simp only [Except.map]
          exact .halt serves _
      | ok reply =>
          simp only [Except.map]
          obtain ⟨sameVideo, sameAudio⟩ := rtspSetup_sockets written
          have counted : rtcp ∈ rtcps := by
            refine counts ⟨i, ?_⟩ rtp rtcp connected
            dsimp only [client] at written
            simp only [connected, written]
            exact List.mem_cons_self
          refine ⟨(own.opening second).storing videoRtcp audioRtcp, rfl, rfl, ?_, rfl⟩
          refine ⟨servesSecond.nobody, servesSecond.valid, servesSecond.same, servesSecond.negative,
            servesSecond.kernel, servesSecond.calls,
            storesBoth.of_eq (by simp [clientSockets, sameVideo, sameAudio]), fun fd stored => ?_⟩
          rcases among fd stored with video | audio | new
          · exact serves.opened fd (Or.inl video)
          · exact serves.opened fd (Or.inr audio)
          · exact Or.inr (new ▸ counted)

theorem fetchMedia_staged (serves : Serves variant rtcps s own) (url : List UInt8)
    {fetch : Except Halt (Int × List UInt8)}
    (off : ∀ fd response, fetch = .ok (fd, response) → s.OffCalls fd) :
    Staged variant rtcps own.sip (s.fetchMedia url fetch) ((s.inTheatre own).fetchMedia url fetch) := by
  unfold ServerState.fetchMedia
  cases httpGet url with
  | error reason => exact .halt serves _
  | ok request =>
      cases connected : fetch with
      | error reason => exact .halt serves reason
      | ok connection =>
          obtain ⟨fd, response⟩ := connection
          refine ⟨own.opening (Function.update own.kernel fd (some (.source response))), rfl, ?_,
            serves.update rfl (Or.inr (off fd response connected)) rfl rfl, rfl⟩
          dsimp only [ServerState.inTheatre, ServerState.openFd, withRtcp, Theatre.opening]
          rw [fdSet_comm]

theorem handleDescribe_staged (serves : Serves variant rtcps s own)
    (url : List UInt8) (i : Int) {io : RtspIo}
    (off : ∀ fd response, io.fetch = .ok (fd, response) → s.OffCalls fd) :
    Staged variant rtcps own.sip (s.handleDescribe url i io)
      ((s.inTheatre own).handleDescribe url i io) := by
  unfold ServerState.handleDescribe
  refine Staged.andThen ?_ fun own' sip state serves' => ?_
  · rw [show (s.inTheatre own).download = s.download from rfl]
    split
    · exact ⟨own, rfl, rfl, serves.of_eq rfl rfl rfl, rfl⟩
    · exact fetchMedia_staged serves url off
  · exact ⟨own', sip, rfl, serves'.of_eq rfl rfl rfl, rfl⟩

theorem handlePlay_staged (serves : Serves variant rtcps s own) (i : Int)
    (io : RtspIo) : Staged variant rtcps own.sip (s.handlePlay i io) ((s.inTheatre own).handlePlay i io) := by
  unfold ServerState.handlePlay
  refine Staged.andThen ⟨own, rfl, rfl, serves, rfl⟩ fun own' sip state serves' => ?_
  rw [← sip, show (s.inTheatre own').download = s.download from rfl]
  dsimp only at serves' ⊢
  split
  · refine Staged.andThen ?_ fun own'' sip' state' serves'' => ?_
    · exact startFiller_staged serves' io.opening
    · exact ⟨own'', sip', rfl, serves''.of_eq rfl rfl rfl, rfl⟩
  · exact Staged.locked serves' fun _ => ⟨own', rfl, rfl, serves'.of_eq rfl rfl rfl, rfl⟩

theorem clientSwitch_staged (serves : Serves variant rtcps s own)
    (url : List UInt8) (i : Int) {io : RtspIo}
    (off : ∀ fd response, io.fetch = .ok (fd, response) → s.OffCalls fd) (sockets : s.OffSockets io)
    (counts : CountsRtcp rtcps io (s.clientSwitch variant url i io).2) :
    Staged variant rtcps own.sip (s.clientSwitch variant url i io)
      ((s.inTheatre own).clientSwitch .mt url i io) := by
  unfold ServerState.clientSwitch at counts ⊢
  rw [show (s.inTheatre own).streamclient.state = s.streamclient.state from rfl,
    show (s.inTheatre own).rtspmsg = s.rtspmsg from rfl]
  split
  · exact ⟨own, rfl, rfl, serves.of_eq rfl rfl rfl, rfl⟩
  · exact handleDescribe_staged serves url i off
  · rename_i state type
    simp only [state, type] at counts
    exact handleSetup_staged serves i sockets counts
  · exact handlePlay_staged serves i io
  · exact ⟨own, rfl, rfl, serves, rfl⟩

/-! ### TEARDOWN -/

/-- What the one closes and the other does not is not open there, or stays open as a socket. -/
theorem Leaks.close {spare : Int → Prop} {siplistenfd : Int} {kernel kernel' : Int → Option Endpoint}
    {fds fds' : List Int} (leaks : Leaks spare siplistenfd kernel kernel')
    (here : ∀ fd ∈ fds, fd ∈ fds' ∨ kernel' fd = none)
    (there : ∀ fd ∈ fds', fd ∈ fds ∨ kernel fd = none ∨ (kernel fd = some .udp ∧ spare fd)) :
    Leaks spare siplistenfd (fun fd => if fd ∈ fds then none else kernel fd)
      fun fd => if fd ∈ fds' then none else kernel' fd := by
  intro fd apart
  by_cases closed : fd ∈ fds'
  · simp only [if_pos closed]
    by_cases both : fd ∈ fds
    · exact Or.inl (if_pos both).symm
    · simp only [if_neg both]
      exact ((there fd closed).resolve_left both).imp Eq.symm fun udp => ⟨trivial, udp⟩
  · simp only [if_neg closed]
    by_cases only : fd ∈ fds
    · exact Or.inl (((here fd only).resolve_left closed).trans (if_pos only).symm)
    · simp only [if_neg only]
      exact leaks fd apart

theorem StoresRtcp.closes {client : Client} (stores : StoresRtcp variant client own) (i : Int) :
    ∀ fd ∈ teardownCloses i client, fd ∈ teardownCloses i (withRtcp client own) ∨ fd = -1 := by
  intro fd member
  simp only [teardownCloses, withRtcp, clientSockets, List.mem_cons, List.not_mem_nil,
    or_false] at member ⊢
  cases variant with
  | server =>
      obtain ⟨video, audio | audio⟩ := stores <;> rw [video, audio] at member <;> tauto
  | mt =>
      obtain ⟨video, audio⟩ := stores
      rw [video, audio] at member
      exact Or.inl member

theorem closes_theatre {client : Client} {i fd : Int}
    (member : fd ∈ teardownCloses i (withRtcp client own)) :
    fd ∈ teardownCloses i client ∨ fd = own.videoRtcp ∨ fd = own.audioRtcp := by
  simp only [teardownCloses, withRtcp, clientSockets, List.mem_cons, List.not_mem_nil,
    or_false] at member ⊢
  tauto

/-- What the theatre closes and the server does not is not open there, or may stay open. -/
theorem Serves.closes (serves : Serves variant rtcps s own) {i fd : Int}
    (sockets : ∀ fd, fd = own.videoRtcp ∨ fd = own.audioRtcp →
      s.kernel fd = none ∨ s.kernel fd = some .udp)
    (member : fd ∈ teardownCloses i (withRtcp s.streamclient own)) :
    fd ∈ teardownCloses i s.streamclient ∨
      s.kernel fd = none ∨ (s.kernel fd = some .udp ∧ Spare variant rtcps s.sip fd) := by
  refine (closes_theatre member).elim Or.inl fun stored => ?_
  cases variant with
  | server =>
      rcases serves.opened fd stored with rfl | counted
      · exact Or.inr (Or.inl (serves.negative (-1) (by omega)))
      · exact Or.inr ((sockets fd stored).imp_right fun udp => ⟨udp, counted⟩)
  | mt =>
      obtain ⟨video, audio⟩ := serves.rtcp
      refine Or.inl ?_
      simp only [teardownCloses, clientSockets, video, audio, List.mem_cons]
      tauto

theorem handleTeardown_staged (serves : Serves variant rtcps s own) {i : Int} (io : RtspIo)
    (apart : i ≠ own.sip.siplistenfd)
    (sockets : ∀ fd, fd = own.videoRtcp ∨ fd = own.audioRtcp →
      s.kernel fd = none ∨ s.kernel fd = some .udp) :
    Staged variant rtcps own.sip (s.handleTeardown .mt i io)
      ((s.inTheatre own).handleTeardown .mt i io) := by
  refine Staged.locked serves fun free => ?_
  rw [show (s.inTheatre own).threadid = s.threadid from rfl,
    show (s.inTheatre own).tinfo = s.tinfo from rfl, show (s.inTheatre own).freed = s.freed from rfl]
  split
  · rename_i thread tinfo _ _
    split
    · exact .halt serves _
    · let here : Int → Option Endpoint := fun fd =>
        if fd ∈ teardownCloses i s.streamclient then none else s.kernel fd
      let there : Int → Option Endpoint := fun fd =>
        if fd ∈ teardownCloses i (withRtcp s.streamclient own) then none else own.kernel fd
      have kernelHere : (s.tearDown .mt i io thread tinfo).1.kernel = here := by
        funext fd
        rw [tearDown_kernel, foldl_close_kernel]
      have kernelThere : ((s.inTheatre own).tearDown .mt i io thread tinfo).1.kernel = there := by
        funext fd
        rw [tearDown_kernel, foldl_close_kernel]
        rfl
      have leaks : Leaks (Spare variant rtcps s.sip) own.sip.siplistenfd here there := by
        refine serves.kernel.close (fun fd closed => ?_) fun fd closed => serves.closes sockets closed
        refine (serves.rtcp.closes i fd closed).imp_right fun none => ?_
        rw [none]
        exact serves.ownNegative (by omega)
      let rtpseqno := (io.rand % 1000000 + 7).toUInt16 + 9
      refine ⟨⟨there, -1, -1, rtpseqno, own.sip⟩, rfl, ?_, ?_, rfl⟩
      · rw [← kernelThere]
        dsimp only [ServerState.tearDown, ServerState.inTheatre, ServerState.close, withRtcp]
        rw [fdClr_fdSet apart]
        rfl
      · refine ⟨serves.nobody, serves.valid, serves.same, ?_, kernelHere ▸ leaks, ?_, ?_, by simp⟩
        · intro fd below
          rw [kernelHere]
          exact ite_eq_left_iff.mpr fun _ => serves.negative fd below
        · intro k called present
          exact ite_eq_left_iff.mpr fun _ => serves.calls k called present
        · cases variant with
          | server => exact ⟨rfl, Or.inl rfl⟩
          | mt => exact ⟨rfl, rfl⟩
  · exact .halt serves _

/-- An outcome, and the same one, behind a signal in `start_server`. -/
def Signals (variant : Variant) (outcome outcome' : Outcome) : Prop :=
  outcome' = outcome ∨ (variant = .server ∧ outcome.1.Running ∧
    ∃ wake, outcome' = ({ outcome.1 with fillers := signal wake outcome.1.fillers }, outcome.2))

/-- The plain server signals the fillers as well. -/
theorem handleTeardown_signals (variant : Variant) (i : Int) (io : RtspIo) (running : s.Running) :
    Signals variant (s.handleTeardown .mt i io) (s.handleTeardown variant i io) := by
  cases variant with
  | mt => exact Or.inl rfl
  | server =>
      by_cases free : s.lock = none
      · rw [ServerState.handleTeardown, ServerState.handleTeardown, locked_free free,
          locked_free free]
        split
        · split
          · exact Or.inl rfl
          · exact Or.inr ⟨rfl, running, io.wake, rfl⟩
        · exact Or.inl rfl
      · rw [ServerState.handleTeardown, ServerState.handleTeardown, locked_taken free,
          locked_taken free]
        exact Or.inl rfl

/-- Data from a client: what the theatre does, the server does, maybe with a signal. -/
theorem handleRtsp_staged (serves : Serves variant rtcps s own) (url : List UInt8) {i : Int} {io : RtspIo}
    (running : s.Running) (same : own.kernel i = s.kernel i) (off : s.OffCalls i)
    (apart : i ≠ own.sip.siplistenfd) (stream : Streams s.kernel i)
    (fetch : ∀ fd response, io.fetch = .ok (fd, response) → s.OffCalls fd)
    (granted : s.OffSockets io) (counts : CountsRtcp rtcps io (s.handleRtsp variant url i io).2)
    (sockets : ∀ fd, fd = own.videoRtcp ∨ fd = own.audioRtcp →
      s.kernel fd = none ∨ s.kernel fd = some .udp) :
    ∃ outcome, Staged variant rtcps own.sip outcome ((s.inTheatre own).handleRtsp .mt url i io) ∧
      Signals variant outcome (s.handleRtsp variant url i io) := by
  rcases receiveRtsp_staged serves io.received same off apart with
    ⟨reason, halted, halted'⟩ | ⟨received, prior, kernel, left, right, effect, served, silent⟩
  · refine ⟨s.halt reason, ?_, Or.inl ?_⟩
    · rw [ServerState.handleRtsp, halted', andThen_halt]
      exact .halt serves reason
    · rw [ServerState.handleRtsp, halted, andThen_halt]
  · have still : received.Running := fun reason => by
      rw [effect.pc]
      exact running reason
    by_cases type : received.rtspmsg.type = .teardown
    · rw [handleRtsp_teardown left still type, handleRtsp_teardown right still type]
      have closing : ∀ fd, fd = own.videoRtcp ∨ fd = own.audioRtcp →
          received.kernel fd = none ∨ received.kernel fd = some .udp := by
        intro fd stored
        rw [effect.kernel]
        · exact sockets fd stored
        · rintro rfl
          rcases sockets fd stored with none | udp
          · exact streams_absent none stream
          · exact streams_udp udp stream
      obtain ⟨own', sip, state, serves', output⟩ := handleTeardown_staged served io apart closing
      refine ⟨((received.handleTeardown .mt i io).1, prior ++ (received.handleTeardown .mt i io).2),
        ⟨own', sip, state, serves', ?_⟩, ?_⟩
      · rw [withoutCalls_append, silent, output]
      · rcases handleTeardown_signals variant i io still with equal | ⟨plain, runs, wake, equal⟩
        · exact Or.inl (by rw [equal])
        · exact Or.inr ⟨plain, runs, wake, by rw [equal]⟩
    · rw [handleRtsp_switch left still type] at counts ⊢
      rw [handleRtsp_switch right still type]
      have table : received.sip = s.sip := by cases effect <;> rfl
      have fetch' : ∀ fd response, io.fetch = .ok (fd, response) → received.OffCalls fd := by
        unfold ServerState.OffCalls
        rw [table]
        exact fetch
      have granted' : received.OffSockets io := by
        unfold ServerState.OffSockets ServerState.OffCalls
        rw [table]
        exact granted
      have counts' : CountsRtcp rtcps io (received.clientSwitch variant url i io).2 := by
        rintro ⟨j, member⟩
        exact counts ⟨j, List.mem_append_right _ member⟩
      obtain ⟨own', sip, state, serves', output⟩ :=
        clientSwitch_staged served url i fetch' granted' counts'
      refine ⟨((received.clientSwitch variant url i io).1,
        prior ++ (received.clientSwitch variant url i io).2),
        ⟨own', sip, state, serves', ?_⟩, Or.inl rfl⟩
      rw [withoutCalls_append, silent, output]

end Descriptors

end Http2Rtsp.Server
