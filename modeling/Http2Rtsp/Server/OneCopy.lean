import Http2Rtsp.Server.Threads
import Http2Rtsp.Server.Intake
import Http2Rtsp.Server.Descriptors

/-!
# One copy of the media

Clients may come and go while the media is downloaded, and each may ask for a
description. The module shows that the file is one intact body at the end, as long
as nothing is requested from the source behind bytes which are already stored.
-/

namespace Http2Rtsp.Server

open Http2Rtsp.Std Http2Rtsp.Message Http2Rtsp.Semantics

/-! ## Conditions -/

/-- In this state the bytes are a DESCRIBE on which the media is requested. -/
structure FetchesOn (s : ServerState) (i : Int) (received : List UInt8) : Prop where
  state : s.streamclient.state = .cliconnected
  absent : s.download.mediaDownloaded = false
  nonempty : received ≠ []
  describe : Leaves s i received .describe

/-- In this state this input is one. -/
def Fetches (s : ServerState) : Input → Prop
  | .rtsp io =>
      match s.pc with
      | .dispatch (i :: _) => FetchesOn s i io.received
      | _ => False
  | _ => False

/-- The connection to the source, if there is one, brings one of these responses. -/
def Served (served : List HttpResponse) (fetch : Except Halt (Int × List UInt8)) : Prop :=
  ∀ fd bytes, fetch = .ok (fd, bytes) → ∃ response ∈ served, response.bytes = bytes

/-- The source sends one of these responses, its header block arrives whole, and writing to the file
does not fail. -/
def WellServed (served : List HttpResponse) (s : ServerState) : Input → Prop
  | .rtsp io => Fetches s (.rtsp io) → Served served io.fetch
  | .media io =>
      (s.download.mediastate = .getsent → ∃ response ∈ served,
        s.kernel s.mediafd = some (.source response.bytes) ∧ response.header <+: io.peeked ∧
          io.received = response.header) ∧
      (s.download.mediastate = .recvtcp → WriteResult.failed ∉ io.writes)
  | _ => True

/-- The media is requested only while the file is empty. -/
def FetchesAfresh (s : ServerState) (input : Input) : Prop :=
  Fetches s input → s.download.file = []

instance (s : ServerState) (i : Int) (received : List UInt8) : Decidable (FetchesOn s i received) :=
  decidable_of_iff (s.streamclient.state = .cliconnected ∧ s.download.mediaDownloaded = false ∧
      received ≠ [] ∧ Leaves s i received .describe) <| by
    constructor
    · rintro ⟨state, absent, nonempty, describe⟩
      exact ⟨state, absent, nonempty, describe⟩
    · rintro ⟨state, absent, nonempty, describe⟩
      exact ⟨state, absent, nonempty, describe⟩

instance (s : ServerState) : (input : Input) → Decidable (Fetches s input)
  | .rtsp io =>
      match pc : s.pc with
      | .dispatch (i :: _) =>
          decidable_of_iff (FetchesOn s i io.received) <| by simp only [Fetches, pc]
      | .dispatch [] => isFalse <| by simp only [Fetches, pc, not_false_iff]
      | .select => isFalse <| by simp only [Fetches, pc, not_false_iff]
      | .halted _ => isFalse <| by simp only [Fetches, pc, not_false_iff]
  | .accept _ | .media _ | .timeout .. | .interrupted | .ready _ | .datagram _ | .rearm _
  | .filler .. => isFalse id

instance (served : List HttpResponse) :
    (fetch : Except Halt (Int × List UInt8)) → Decidable (Served served fetch)
  | .error _ => isTrue nofun
  | .ok (_, bytes) =>
      decidable_of_iff (∃ response ∈ served, response.bytes = bytes) <| by simp [Served]

instance (served : List HttpResponse) (s : ServerState) :
    (input : Input) → Decidable (WellServed served s input)
  | .rtsp _ => inferInstanceAs (Decidable (_ → _))
  | .media _ => inferInstanceAs (Decidable ((_ → _) ∧ (_ → _)))
  | .accept _ | .timeout .. | .interrupted | .ready _ | .datagram _ | .rearm _ | .filler .. =>
      isTrue trivial

instance (s : ServerState) (input : Input) : Decidable (FetchesAfresh s input) :=
  inferInstanceAs (Decidable (_ → _))

/-- When the download is over, the file is the body of one response which was requested. -/
def OneCopy (served : List HttpResponse) (past : List Output) (s : ServerState) : Prop :=
  s.download.mediaDownloaded = true → ∃ response ∈ served,
    (∃ fd request, .fetched fd request response.bytes ∈ past) ∧ s.download.file = response.body

/-! ## The invariant -/

/-- Nothing was requested yet. -/
structure Untouched (s : ServerState) : Prop where
  mediastate : s.download.mediastate = .idle
  absent : s.download.mediaDownloaded = false
  empty : s.download.file = []

/-- The download of a response is intact. -/
structure Fetching (served : List HttpResponse) (past : List Output) (s : ServerState)
    (response : HttpResponse) : Prop where
  member : response ∈ served
  fetched : ∃ fd request, .fetched fd request response.bytes ∈ past
  valid : 0 ≤ s.mediafd
  intact : Intact response s.mediafd s

/-- What holds as long as nothing is requested behind stored bytes. -/
structure CopyInvariant (served : List HttpResponse) (past : List Output) (s : ServerState) :
    Prop where
  sockets : s.download.mediaDownloaded = false → SocketsOpen s
  copy : Untouched s ∨ ∃ response, Fetching served past s response

theorem copyInvariant_initial {served : List HttpResponse} {variant : Variant} {s : ServerState}
    (initial : Initial variant s) : CopyInvariant served [] s where
  sockets _ fd member := by
    rw [initial.streamclient] at member
    simp [clientSockets, initClient] at member
    exact Or.inl member
  copy := Or.inl ⟨initial.mediastate, initial.notDownloaded, initial.file⟩

/-- The invariant gives what is wanted. -/
theorem CopyInvariant.oneCopy {served : List HttpResponse} {past : List Output} {s : ServerState}
    (inv : CopyInvariant served past s) : OneCopy served past s := by
  intro downloaded
  rcases inv.copy with untouched | ⟨response, fetching⟩
  · cases untouched.absent.symm.trans downloaded
  · exact ⟨response, fetching.member, fetching.fetched, fetching.intact.body downloaded⟩

/-- While the download is not over the media descriptor is a connection to the source. -/
theorem Intact.source {response : HttpResponse} {i : Int} {s : ServerState}
    (intact : Intact response i s) (absent : s.download.mediaDownloaded = false) :
    ∃ pending, s.kernel i = some (.source pending) := by
  cases intact with
  | unread mediastate pending => exact ⟨_, pending⟩
  | reading mediastate pending => exact ⟨_, pending⟩
  | complete mediastate present => cases absent.symm.trans present

/-- A part of a step which leaves the download, its connection and the client's sockets alone. -/
theorem CopyInvariant.keeps {served : List HttpResponse} {past : List Output} {s after : ServerState}
    (inv : CopyInvariant served past s) (output : List Output)
    (download : after.download = s.download) (mediafd : after.mediafd = s.mediafd)
    (running : after.Running → s.Running)
    (pending : ∀ bytes, s.download.mediaDownloaded = false → SocketsOpen s →
      s.kernel s.mediafd = some (.source bytes) → 0 ≤ s.mediafd →
        after.kernel s.mediafd = some (.source bytes))
    (sockets : s.download.mediaDownloaded = false → SocketsOpen s → SocketsOpen after) :
    CopyInvariant served (past ++ output) after where
  sockets absent := by
    rw [download] at absent
    exact sockets absent (inv.sockets absent)
  copy := by
    rcases inv.copy with untouched | ⟨response, member, ⟨fd, request, fetched⟩, valid, intact⟩
    · refine Or.inl ⟨?_, ?_, ?_⟩
      · rw [download]
        exact untouched.mediastate
      · rw [download]
        exact untouched.absent
      · rw [download]
        exact untouched.empty
    · refine Or.inr ⟨response, member, ⟨fd, request, List.mem_append_left _ fetched⟩, ?_, ?_⟩
      · rw [mediafd]
        exact valid
      · rw [mediafd]
        cases intact with
        | unread mediastate known absent empty =>
            have there := pending _ absent (inv.sockets absent) known valid
            exact .unread (download ▸ mediastate) there (download ▸ absent) (download ▸ empty)
        | reading mediastate known absent stored videoleft =>
            have there := pending _ absent (inv.sockets absent) known valid
            exact .reading (download ▸ mediastate) there (download ▸ absent) (download ▸ stored)
              (download ▸ videoleft)
        | complete mediastate present stored =>
            exact .complete (fun runs => download ▸ mediastate (running runs)) (download ▸ present)
              (download ▸ stored)

/-- The same, when no descriptor is touched. -/
theorem CopyInvariant.same {served : List HttpResponse} {past : List Output} {s after : ServerState}
    (inv : CopyInvariant served past s) (output : List Output)
    (download : after.download = s.download) (mediafd : after.mediafd = s.mediafd)
    (running : after.Running → s.Running) (kernel : after.kernel = s.kernel)
    (client : clientSockets after.streamclient = clientSockets s.streamclient) :
    CopyInvariant served (past ++ output) after := by
  refine inv.keeps output download mediafd running (fun bytes _ _ known _ => ?_) fun _ opened => ?_
  · rw [kernel]
    exact known
  · intro fd member
    rw [client] at member
    rw [kernel]
    exact opened fd member

/-! ## Steps -/

theorem TimeoutEffect.copy {served : List HttpResponse} {past output : List Output}
    {s after : ServerState} {wake : Nat} (effect : TimeoutEffect s wake after output)
    (inv : CopyInvariant served past s) (running : s.Running) :
    CopyInvariant served (past ++ output) after := by
  cases effect with
  | locked taken => exact inv.same _ rfl rfl (fun _ => running) rfl rfl
  | idle free empty => exact inv.same _ rfl rfl (fun _ => running) rfl rfl
  | failed free queued last => exact inv.same _ rfl rfl (fun _ => running) rfl rfl
  | handled free queued effect =>
      cases effect <;> exact inv.same _ rfl rfl (fun _ => running) rfl rfl

theorem AcceptEffect.copy {served : List HttpResponse} {past output : List Output}
    {s after : ServerState} {result : Accept} (effect : AcceptEffect s result after output)
    (inv : CopyInvariant served past s) (running : s.Running)
    (possible : ∀ fd, result = .accepted fd → s.Fresh fd) :
    CopyInvariant served (past ++ output) after := by
  cases effect with
  | halted reason => exact inv.same _ rfl rfl (fun _ => running) rfl rfl
  | rejected busy => exact inv.same _ rfl rfl (fun _ => running) rfl rfl
  | @accepted fd accepted free =>
      have unused := (possible fd accepted).2
      have kept : ∀ {other endpoint}, s.kernel other = some endpoint →
          (s.openFd fd .peer).kernel other = some endpoint := by
        intro other endpoint known
        have differs : other ≠ fd := fun same => by
          rw [same, unused] at known
          cases known
        simpa [ServerState.openFd, differs] using known
      refine inv.keeps _ rfl rfl (fun _ => running) (fun bytes _ _ known _ => kept known) ?_
      intro _ opened other member
      exact (opened other member).imp_right kept

/-- Until the download is over, the media branch touches its own descriptor only. -/
theorem MediaEffect.sockets {s after : ServerState} {i : Int} {io : MediaIo} {output : List Output}
    (effect : MediaEffect s i io after output) (absent : after.download.mediaDownloaded = false)
    (opened : SocketsOpen s) (source : ∃ pending, s.kernel i = some (.source pending)) :
    SocketsOpen after := by
  obtain ⟨pending, source⟩ := source
  have differs : ∀ {fd}, s.kernel fd = some .udp → fd ≠ i := by
    rintro fd udp rfl
    cases udp.symm.trans source
  cases effect with
  | ignored other => exact opened
  | failed reason reads => exact opened
  | header getsent isOpen found parsed =>
      intro fd member
      refine (opened fd member).imp_right fun udp => ?_
      simpa [ServerState.recv, differs udp] using udp
  | stored recvtcp isOpen more =>
      obtain ⟨kernel, masterfds, same⟩ := storeMedia_eq s i io
      intro fd member
      rw [same] at member
      exact (opened fd member).imp_right fun udp => (storeMedia_kernel (differs udp)).trans udp
  | completed recvtcp isOpen last effect =>
      cases absent.symm.trans effect.finishes.2.1

/-- What the media branch does to `mediafd` and to `media_downloaded`. -/
theorem MediaEffect.descriptor {s after : ServerState} {i : Int} {io : MediaIo}
    {output : List Output} (effect : MediaEffect s i io after output) :
    after.mediafd = s.mediafd ∧
      (after.download.mediaDownloaded = false → s.download.mediaDownloaded = false) := by
  cases effect with
  | ignored other => exact ⟨rfl, id⟩
  | failed reason reads => exact ⟨rfl, id⟩
  | header getsent opened found parsed =>
      obtain ⟨videosize, rfl⟩ := getsent_eq parsed
      exact ⟨rfl, id⟩
  | stored recvtcp opened more =>
      obtain ⟨kernel, masterfds, same⟩ := storeMedia_eq s i io
      rw [same]
      exact ⟨rfl, id⟩
  | completed recvtcp opened last effect =>
      obtain ⟨kernel, masterfds, same⟩ := storeMedia_eq s i io
      rw [same] at effect
      cases effect <;> exact ⟨rfl, nofun⟩

theorem MediaEffect.copy {served : List HttpResponse} {past output : List Output}
    {s after : ServerState} {io : MediaIo} (effect : MediaEffect s s.mediafd io after output)
    (readable : ∀ response ∈ served, response.Readable) (inv : CopyInvariant served past s)
    (running : s.Running) (possible : s.CanDeliver s.mediafd io)
    (wellServed : WellServed served s (.media io)) :
    CopyInvariant served (past ++ output) after := by
  rcases inv.copy with untouched | ⟨response, member, ⟨fd, request, fetched⟩, valid, intact⟩
  · have idle := untouched.mediastate
    cases effect with
    | ignored other => exact inv.same _ rfl rfl id rfl rfl
    | failed reason reads => rcases reads with reads | reads <;> cases idle.symm.trans reads
    | header getsent => cases idle.symm.trans getsent
    | stored recvtcp => cases idle.symm.trans recvtcp
    | completed recvtcp => cases idle.symm.trans recvtcp
  · have undisturbed : Undisturbed response s io := by
      have header : s.download.mediastate = .getsent →
          response.header <+: io.peeked ∧ io.received = response.header := by
        intro getsent
        obtain ⟨sent, -, known, peeks, receives⟩ := wellServed.1 getsent
        obtain ⟨pending, -, -⟩ := intact.getsent running getsent
        have bytes : sent.bytes = response.bytes := by simpa using known.symm.trans pending
        rw [← HttpResponse.header_eq_of_bytes_eq bytes]
        exact ⟨peeks, receives⟩
      exact ⟨fun getsent => (header getsent).1, fun getsent => (header getsent).2, wellServed.2⟩
    obtain ⟨mediafd, absentBefore⟩ := effect.descriptor
    refine ⟨fun absent => ?_, Or.inr ⟨response, member, ?_, ?_, ?_⟩⟩
    · have before := absentBefore absent
      exact effect.sockets absent (inv.sockets before) (intact.source before)
    · exact ⟨fd, request, List.mem_append_left _ fetched⟩
    · exact mediafd ▸ valid
    · rw [mediafd]
      exact effect.intact (readable response member) intact running possible undisturbed

theorem ReceiveEffect.copy {served : List HttpResponse} {past output : List Output}
    {s after : ServerState} {i : Int} {received : List UInt8}
    (effect : ReceiveEffect s i received after output) (inv : CopyInvariant served past s)
    (running : s.Running) (elsewhere : i ≠ s.mediafd) (receives : s.CanRecv i bufSize received) :
    CopyInvariant served (past ++ output) after := by
  have udp : ∀ {fd}, s.kernel fd = some .udp → fd ≠ i := by
    rintro fd known rfl
    cases receives .udp known
  have same : after.download = s.download ∧ after.mediafd = s.mediafd ∧
      clientSockets after.streamclient = clientSockets s.streamclient := by
    cases effect <;> exact ⟨rfl, rfl, rfl⟩
  refine inv.keeps _ same.1 same.2.1 (fun _ => running) (fun bytes _ _ known _ => ?_) ?_
  · exact (effect.kernel elsewhere.symm).trans known
  · intro _ opened fd member
    rw [same.2.2] at member
    exact (opened fd member).imp_right fun known => (effect.kernel (udp known)).trans known

theorem TeardownEffect.copy {served : List HttpResponse} {variant : Variant}
    {past output : List Output} {s after : ServerState} {i : Int} {io : RtspIo}
    (effect : TeardownEffect variant s i io after output) (inv : CopyInvariant served past s)
    (running : s.Running) (elsewhere : i ≠ s.mediafd) :
    CopyInvariant served (past ++ output) after := by
  cases effect with
  | locked taken => exact inv.same _ rfl rfl (fun _ => running) rfl rfl
  | dangling free dead => exact inv.same _ rfl rfl (fun _ => running) rfl rfl
  | done free armed =>
      refine inv.keeps _ rfl rfl (fun _ => running) (fun bytes _ opened known valid => ?_) ?_
      · -- The sockets which are closed are no connections to the source.
        have differs : ∀ fd ∈ clientSockets s.streamclient, s.mediafd ≠ fd := by
          rintro fd member rfl
          rcases opened _ member with negative | udp
          · omega
          · cases udp.symm.trans known
        simp only [clientSockets, List.forall_mem_cons, List.not_mem_nil, false_imp_iff,
          implies_true, and_true] at differs
        simp [ServerState.tearDown, ServerState.close, differs, elsewhere.symm, known]
      · intro _ _ fd member
        simp only [ServerState.tearDown, clientSockets, initClient, List.mem_cons,
          List.not_mem_nil, or_false, or_self] at member
        exact Or.inl member

theorem SwitchEffect.copy {served : List HttpResponse} {variant : Variant}
    {past output : List Output} {s after : ServerState} {i : Int} {io : RtspIo}
    (effect : SwitchEffect variant s i io after output) (inv : CopyInvariant served past s)
    (running : s.Running) (asked : s.streamclient.state = .cliconnected →
      s.rtspmsg.type = .describe → s.download.mediaDownloaded = false →
        Served served io.fetch ∧ s.download.file = [])
    (fetch : ∀ fd bytes, io.fetch = .ok (fd, bytes) → s.Fresh fd)
    (sockets : ∀ rtp rtcp, io.sockets = .ok (rtp, rtcp) →
      (rtp = -1 ∨ s.Fresh rtp) ∧ (rtcp = -1 ∨ s.Fresh rtcp)) :
    CopyInvariant served (past ++ output) after := by
  cases effect with
  | ignored other => exact inv.same _ rfl rfl id rfl rfl
  | failed reason prior handled before => exact inv.same _ rfl rfl (fun _ => running) rfl rfl
  | options state type => exact inv.same _ rfl rfl id rfl rfl
  | played state type absent free => exact inv.same _ rfl rfl id rfl rfl
  | unopened state type downloaded unopened => exact inv.same _ rfl rfl (fun _ => running) rfl rfl
  | launched state type downloaded opened => exact inv.same _ rfl rfl id rfl rfl
  | described state type downloaded =>
      refine ⟨fun absent => (Bool.eq_false_iff.mp absent downloaded).elim, ?_⟩
      rcases inv.copy with untouched | ⟨response, member, ⟨fd, request, fetched⟩, valid, intact⟩
      · cases untouched.absent.symm.trans downloaded
      · refine Or.inr ⟨response, member, ⟨fd, request, List.mem_append_left _ fetched⟩, valid, ?_⟩
        exact .complete (fun _ => rfl) downloaded (intact.body downloaded)
  | @fetched fd request bytes cseq text state type absent known =>
      obtain ⟨valid, unused⟩ := fetch _ _ known
      obtain ⟨fromServed, empty⟩ := asked state type absent
      obtain ⟨response, member, rfl⟩ := fromServed _ _ known
      refine ⟨fun _ other socket => ?_, Or.inr ⟨response, member, ?_, valid, ?_⟩⟩
      · refine (inv.sockets absent other socket).imp_right fun udp => ?_
        have differs : other ≠ fd := by
          rintro rfl
          cases unused.symm.trans udp
        simpa [ServerState.openFd, differs] using udp
      · exact ⟨fd, request, List.mem_append_right _ List.mem_cons_self⟩
      · exact .unread rfl (by simp [ServerState.openFd]) absent empty
  | @setup rtp rtcp session text state type opened =>
      obtain ⟨freeRtp, freeRtcp⟩ := sockets _ _ opened
      obtain ⟨kernel, same⟩ := openUdp_eq s rtp rtcp
      have known : ∀ fd, ((s.openUdp rtp).openUdp rtcp).kernel fd =
          if fd = rtcp ∧ 0 ≤ rtcp then some .udp
          else if fd = rtp ∧ 0 ≤ rtp then some .udp else s.kernel fd := fun fd => by
        rw [openUdp_kernel, openUdp_kernel]
      have before : ∀ {fd endpoint}, s.kernel fd = some endpoint →
          ((s.openUdp rtp).openUdp rtcp).kernel fd = some endpoint := by
        intro fd endpoint there
        have differs : ∀ new, new = -1 ∨ s.Fresh new → ¬ (fd = new ∧ 0 ≤ new) := by
          rintro new free ⟨rfl, valid⟩
          rcases free with negative | fresh
          · omega
          · cases fresh.2.symm.trans there
        rw [known, if_neg (differs _ freeRtcp), if_neg (differs _ freeRtp), there]
      refine inv.keeps _ (by rw [same]) (by rw [same]) (fun _ => running)
        (fun bytes _ _ there _ => before there) fun _ isOpen fd member => ?_
      rcases mem_setupClient member with old | rfl | rfl
      · exact (isOpen fd old).imp_right before
      · rcases freeRtp with negative | fresh
        · exact Or.inl negative
        · exact Or.inr ((known fd).trans (by simp [fresh.1]))
      · rcases freeRtcp with negative | fresh
        · exact Or.inl negative
        · exact Or.inr ((known fd).trans (by simp [fresh.1]))

theorem RtspEffect.copy {served : List HttpResponse} {variant : Variant}
    {past output : List Output} {s after : ServerState} {i : Int} {io : RtspIo}
    (effect : RtspEffect variant s i io after output) (inv : CopyInvariant served past s)
    (running : s.Running) (elsewhere : i ≠ s.mediafd) (possible : io.possible s i = true)
    (asked : FetchesOn s i io.received → Served served io.fetch ∧ s.download.file = []) :
    CopyInvariant served (past ++ output) after := by
  obtain ⟨receives, fetch, sockets⟩ := RtspIo.possible_iff possible
  cases effect with
  | failed reason unread => exact inv.same _ rfl rfl (fun _ => running) rfl rfl
  | @teardown middle after prior output receive type effect =>
      have first := receive.copy inv running elsewhere receives
      have stillRunning : middle.Running := fun reason => receive.pc ▸ running reason
      have same : middle.mediafd = s.mediafd := by cases receive <;> rfl
      rw [← List.append_assoc]
      exact effect.copy first stillRunning (same ▸ elsewhere)
  | @switched middle after prior output receive type effect =>
      have first := receive.copy inv running elsewhere receives
      have stillRunning : middle.Running := fun reason => receive.pc ▸ running reason
      have download := receive.download
      rw [← List.append_assoc]
      refine effect.copy first stillRunning (fun state describe absent => ?_) ?_ ?_
      · have there : middle.streamclient.state ≠ .noclient := by simp [state]
        obtain ⟨nonempty, same⟩ := receive.client there
        rw [download] at absent ⊢
        exact asked ⟨same ▸ state, absent, nonempty, receive.leaves_iff.mpr describe⟩
      · intro fd bytes known
        exact receive.fresh (fetch fd bytes known)
      · intro rtp rtcp known
        obtain ⟨freeRtp, freeRtcp⟩ := sockets rtp rtcp known
        exact ⟨freeRtp.imp_right receive.fresh, freeRtcp.imp_right receive.fresh⟩

/-- A step of `start_server` which requests nothing behind stored bytes keeps the invariant. -/
theorem step_copy {url : List UInt8} {served : List HttpResponse} {past output : List Output}
    {s after : ServerState} {input : Input}
    (readable : ∀ response ∈ served, response.Readable) (inv : CopyInvariant served past s)
    (wellServed : WellServed served s input) (afresh : FetchesAfresh s input)
    (taken : step .server url s input = .ok (after, output)) :
    CopyInvariant served (past ++ output) after := by
  have dispatched : ∀ i rest, s.pc = .dispatch (i :: rest) →
      CopyInvariant served past { s with pc := .dispatch rest } := fun i rest pc => by
    have running : s.Running := fun reason => by simp [pc]
    exact List.append_nil past ▸ inv.same [] rfl rfl (fun _ => running) rfl rfl
  have running := fun rest => dispatch_running s rest
  cases step_cases taken with
  | timeout pc set effect => exact effect.copy inv (running_of_select pc)
  | interrupted pc => exact inv.same _ rfl rfl (fun _ => running_of_select pc) rfl rfl
  | ready pc members => exact inv.same _ rfl rfl (fun _ => running_of_select pc) rfl rfl
  | @accept result i rest after output pc branch possible effect =>
      refine effect.copy (dispatched i rest pc) (running rest) fun fd accepted => ?_
      subst accepted
      exact of_decide_eq_true possible
  | datagram pc branch effect => exact absurd branch branch_server
  | @media io i rest after output pc branch possible effect =>
      obtain rfl := branch_media branch
      exact effect.copy readable (dispatched _ rest pc) (running rest) possible wellServed
  | @rtsp io i rest after output pc branch possible effect =>
      have on : FetchesOn { s with pc := .dispatch rest } i io.received → Fetches s (.rtsp io) := by
        rintro ⟨state, absent, nonempty, opened, left, parsed⟩
        simp only [Fetches, pc]
        exact ⟨state, absent, nonempty, opened, left, parsed⟩
      exact effect.copy (dispatched i rest pc) (running rest) (branch_rtsp branch) possible
        fun fetches => ⟨wellServed (on fetches), afresh (on fetches)⟩
  | rearmed pc free =>
      have before : s.Running := fun reason => by simp [pc]
      rw [ServerState.rearm, locked_free free]
      exact inv.same _ rfl rfl (fun _ => before) rfl rfl
  | rearmLocked pc taken =>
      have before : s.Running := fun reason => by simp [pc]
      exact inv.same _ rfl rfl (fun _ => before) rfl rfl
  | filler effect =>
      obtain ⟨queue, lock, fillers, rfl, -⟩ := effect.only
      exact inv.same _ rfl rfl id rfl rfl

/-! ## Runs -/

/-- In every run of `start_server` against a source which serves well: when nothing is requested
behind stored bytes, the file is one intact body once the download is over. -/
theorem oneCopy_of_fetchesAfresh {url : List UInt8} {served : List HttpResponse}
    {trace : List (Entry ServerState Input Output)} {state : ServerState}
    (readable : ∀ response ∈ served, response.Readable)
    (run : (machine .server url).Runs trace state)
    (wellServed : Machine.Throughout (fun _ => WellServed served) trace)
    (afresh : Machine.Throughout (fun _ => FetchesAfresh) trace) :
    OneCopy served (Machine.outputs trace) state := by
  have both : Machine.Throughout (fun _ s input => WellServed served s input ∧ FetchesAfresh s input)
      trace := fun past entry future split =>
    ⟨wellServed past entry future split, afresh past entry future split⟩
  have inv : CopyInvariant served (Machine.outputs trace) state := by
    apply run.under both
    · intro start initial
      exact copyInvariant_initial initial
    · intro past before input after output known met taken
      exact step_copy readable known met.1 met.2 taken
  exact inv.oneCopy

/-- The bytes of the response of the scripts. -/
def sent : List UInt8 := someHttpResponse.bytes

theorem sent_readable : ∀ response ∈ [someHttpResponse], response.Readable := by
  intro response member
  rw [List.mem_singleton.mp member]
  exact someHttpResponse_readable

/-- A client asks for a description and goes, and another one asks again. -/
def askedTwice (between : List Input) : List Input :=
  connect 6 ++ describe 6 7 sent ++ between ++ request 6 (RtspIo.text []) ++ connect 6 ++
    describe 6 8 sent ++ media 8 sent someHttpResponse.header ++ media 8 [] [7, 8]

/-- The theorem applied to a source which is asked twice before it answers. -/
theorem oneCopy_of_fetchesAfresh_unanswered :
    ∃ result : List (Entry ServerState Input Output) × ServerState,
      (machine .server someUrl).exec [] (startState .server) (askedTwice []) = .ok result ∧
        result.2.download.mediaDownloaded = true ∧
        OneCopy [someHttpResponse] (Machine.outputs result.1) result.2 := by
  have computed : ∃ result : List (Entry ServerState Input Output) × ServerState,
      (machine .server someUrl).exec [] (startState .server) (askedTwice []) = .ok result ∧
        result.2.download.mediaDownloaded = true ∧
        Machine.MeetsAll (fun _ => WellServed [someHttpResponse]) [] result.1 ∧
        Machine.MeetsAll (fun _ => FetchesAfresh) [] result.1 :=
    ⟨_, rfl, rfl, of_decide_eq_true rfl, of_decide_eq_true rfl⟩
  obtain ⟨result, computed, downloaded, wellServed, afresh⟩ := computed
  have run := Machine.Runs.of_exec (startState_initial .server someUrl) computed
  exact ⟨result, computed, downloaded,
    oneCopy_of_fetchesAfresh sent_readable run (Machine.throughout_of_meetsAll wellServed)
      (Machine.throughout_of_meetsAll afresh)⟩

/-- When a byte is stored before the source is asked again, the second body is put behind it. -/
theorem oneCopy_not_always : ¬ ∀ url served trace state,
    (∀ response ∈ served, response.Readable) → (machine .server url).Runs trace state →
      Machine.Throughout (fun _ => WellServed served) trace →
        OneCopy served (Machine.outputs trace) state := by
  intro always
  have appends : ∃ result : List (Entry ServerState Input Output) × ServerState,
      (machine .server someUrl).exec [] (startState .server)
          (askedTwice (media 7 sent someHttpResponse.header ++ media 7 [] [7])) = .ok result ∧
        result.2.download.mediaDownloaded = true ∧ result.2.download.file = [7, 7, 8] ∧
        Machine.MeetsAll (fun _ => WellServed [someHttpResponse]) [] result.1 :=
    ⟨_, rfl, rfl, rfl, of_decide_eq_true rfl⟩
  obtain ⟨result, computed, downloaded, file, wellServed⟩ := appends
  have run := Machine.Runs.of_exec (startState_initial .server someUrl) computed
  obtain ⟨response, member, -, body⟩ :=
    always _ _ _ _ sent_readable run (Machine.throughout_of_meetsAll wellServed) downloaded
  rw [List.mem_singleton.mp member, file] at body
  cases body

end Http2Rtsp.Server
