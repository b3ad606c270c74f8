import Http2Rtsp.Server.MediaSockets

/-!
# Which branch a descriptor reaches

`start_server` compares the number of a readable descriptor with `listenfd` and
with `mediafd`, and takes it for the client's otherwise. `mediafd` keeps its number
when the connection is closed, and takes a new one whether or not the connection
is closed; the module finds when the numbers still tell the connections apart.
-/

namespace Http2Rtsp.Server

open Http2Rtsp.Std Http2Rtsp.Message Http2Rtsp.Semantics

/-- A client is connected. -/
def ServerState.Connected (s : ServerState) : Prop := s.streamclient.state ≠ .noclient

instance (s : ServerState) : Decidable s.Connected := inferInstanceAs (Decidable (_ ≠ _))

/-- The descriptor is in the set `Select` is called with, or was found readable and is still to be
handled. -/
def ServerState.Readable (s : ServerState) (fd : Int) : Prop :=
  s.masterfds fd = true ∨ ∃ fds, s.pc = .dispatch fds ∧ fd ∈ fds

/-- The media connection the server knows of is open. -/
def ServerState.Fetching (s : ServerState) : Prop := ∃ response, s.kernel s.mediafd = some (.source response)

instance (s : ServerState) : Decidable s.Fetching :=
  match known : s.kernel s.mediafd with
  | some (.source response) => isTrue ⟨response, known⟩
  | none | some .listener | some .file | some .udp | some .peer =>
      isFalse <| by simp [ServerState.Fetching, known]

/-- Every descriptor reaches the branch it is for. -/
structure RoutesRight (variant : Variant) (s : ServerState) : Prop where
  client : s.Connected → s.branch variant s.streamclient.rtspfd = .rtsp
  source : ∀ fd response, s.Readable fd → s.kernel fd = some (.source response) →
    s.branch variant fd = .media ∧
      (s.download.mediastate = .getsent ∨ s.download.mediastate = .recvtcp)
  apart : s.Connected → s.mediafd ≠ s.streamclient.rtspfd
  rtsp : ∀ fd, s.Readable fd → s.branch variant fd = .rtsp →
    s.Connected ∧ fd = s.streamclient.rtspfd

/-- This input starts a download. -/
def StartsDownload (url : List UInt8) (s : ServerState) (input : Input) : Prop :=
  ∃ io i rest request connection, input = .rtsp io ∧ s.pc = .dispatch (i :: rest) ∧
    io.received ≠ [] ∧ Leaves s i io.received .describe ∧ s.streamclient.state = .cliconnected ∧
    s.download.mediaDownloaded = false ∧ httpGet url = .ok request ∧ io.fetch = .ok connection

/-- What keeps the numbers apart: a client does not get the number `mediafd` holds, and no download is
started while the connection of another one is open. -/
structure KeepsApart (url : List UInt8) (s : ServerState) (input : Input) : Prop where
  accepts : ∀ fd, input = .accept (.accepted fd) → ¬ s.Connected → fd ≠ s.mediafd
  fetches : StartsDownload url s input → ¬ s.Fetching

theorem isOk_iff {ε α : Type} {result : Except ε α} :
    result.isOk = true ↔ ∃ value, result = .ok value := by
  cases result <;> simp [Except.isOk, Except.toBool]

instance (url : List UInt8) (s : ServerState) (input : Input) :
    Decidable (StartsDownload url s input) :=
  decidable_of_iff (∃ io i rest, input = .rtsp io ∧ s.pc = .dispatch (i :: rest) ∧
      io.received ≠ [] ∧ Leaves s i io.received .describe ∧ s.streamclient.state = .cliconnected ∧
      s.download.mediaDownloaded = false ∧ (httpGet url).isOk = true ∧ io.fetch.isOk = true) <| by
    simp [StartsDownload, isOk_iff]

instance (url : List UInt8) (s : ServerState) : (input : Input) → Decidable (KeepsApart url s input)
  | .accept (.accepted fd) => decidable_of_iff (¬ s.Connected → fd ≠ s.mediafd) <| by
      constructor
      · intro apart
        exact ⟨by rintro _ ⟨⟩; exact apart, by simp [StartsDownload]⟩
      · intro met
        exact met.accepts fd rfl
  | .rtsp io => decidable_of_iff (StartsDownload url s (.rtsp io) → ¬ s.Fetching) <|
      ⟨fun apart => ⟨by simp, apart⟩, KeepsApart.fetches⟩
  | .accept .failed | .accept .fatal | .timeout .. | .interrupted | .ready _ | .datagram _ | .media _
  | .rearm _ | .filler .. => isTrue ⟨by simp, by simp [StartsDownload]⟩

/-! ## The listening socket -/

/-- What is always so: the facts about the other sockets, and that the listening socket is open. -/
structure ListenerOpen (s : ServerState) : Prop where
  facts : SocketFacts s
  valid : 0 ≤ s.listenfd
  listener : s.kernel s.listenfd = some .listener

theorem listenerOpen_initial {variant : Variant} {s : ServerState} (initial : Initial variant s) :
    ListenerOpen s where
  facts := socketFacts_initial initial
  valid := by
    by_contra negative
    have absent := initial.negative s.listenfd (by omega)
    cases absent.symm.trans initial.listenfd
  listener := initial.listenfd

theorem listenerOpen_kept {variant : Variant} {url : List UInt8} {s after : ServerState} {input : Input}
    {output : List Output} (listens : ListenerOpen s)
    (taken : step variant url s input = .ok (after, output)) : ListenerOpen after := by
  have listener := listens.listener
  have valid := listens.valid
  refine ⟨socketFacts_kept listens.facts taken, ?_, ?_⟩
  · rw [(step_constants taken).2]
    exact valid
  · rw [(step_constants taken).2]
    rcases step_kernel listens.facts.order taken s.listenfd with same | touched
    · exact same.trans listener
    · cases touched with
      | opened free => cases free.symm.trans listener
      | heard pc known stream =>
          obtain rfl := Option.some.inj (known.symm.trans listener)
          exact stream.elim
      | file videofd absent done =>
          rw [videofd, listens.facts.sockets.file absent] at listener
          cases listener
      | socket member reset =>
          rcases listens.facts.sockets.client _ member with failed | udp
          · omega
          · cases udp.symm.trans listener
      | @call k client there sockfd removed =>
          have udp := (listens.facts.sockets.calls k client there).2
          rw [← sockfd] at udp
          cases udp.symm.trans listener

/-! ## The invariant -/

/-- What is watched, as far as descriptors are told apart. -/
structure Routing (s : ServerState) : Prop where
  watched : ∀ fd, s.masterfds fd = true →
    fd = s.listenfd ∨ (s.Connected ∧ fd = s.streamclient.rtspfd) ∨ (fd = s.mediafd ∧ s.Fetching)
  client : s.Connected → s.kernel s.streamclient.rtspfd = some .peer ∧
    s.streamclient.rtspfd ≠ s.mediafd
  media : s.Fetching → 0 ≤ s.mediafd ∧ s.masterfds s.mediafd = true ∧
    (s.download.mediastate = .getsent ∨ s.download.mediastate = .recvtcp)
  pending : ∀ fds, s.pc = .dispatch fds → fds.Pairwise (· < ·) ∧ ∀ fd ∈ fds, s.masterfds fd = true

theorem routing_initial {s : ServerState} (initial : Initial .server s) : Routing s where
  watched fd member := by
    rcases (initial.masterfds fd).mp member with listen | ⟨impossible, -⟩
    · exact Or.inl listen
    · cases impossible
  client connected := absurd (by rw [initial.streamclient]; rfl) connected
  media fetching := by
    obtain ⟨response, opened⟩ := fetching
    rw [initial.mediafd, initial.negative (-1) (by omega)] at opened
    cases opened
  pending fds pc := by
    rw [initial.pc] at pc
    cases pc

/-- What is readable is watched. -/
theorem Routing.readable {s : ServerState} (routing : Routing s) {fd : Int}
    (readable : s.Readable fd) : s.masterfds fd = true := by
  rcases readable with watched | ⟨fds, pc, member⟩
  · exact watched
  · exact (routing.pending fds pc).2 fd member

/-- A descriptor which is neither the listening socket's nor `mediafd` reaches the RTSP branch. -/
theorem branch_server_rtsp {s : ServerState} {i : Int} (notListen : i ≠ s.listenfd)
    (notMedia : i ≠ s.mediafd) : s.branch .server i = .rtsp := by
  simp [ServerState.branch, notListen, notMedia]

theorem branch_server_media {s : ServerState} (notListen : s.mediafd ≠ s.listenfd) :
    s.branch .server s.mediafd = .media := by
  simp [ServerState.branch, notListen]

/-- While the invariant holds every descriptor reaches the right branch. -/
theorem Routing.right {s : ServerState} (routing : Routing s)
    (listener : s.kernel s.listenfd = some .listener) : RoutesRight .server s where
  client connected := by
    obtain ⟨peer, apart⟩ := routing.client connected
    refine branch_server_rtsp (fun same => ?_) apart
    rw [same, listener] at peer
    cases peer
  source fd response readable source := by
    rcases routing.watched fd (routing.readable readable) with rfl | ⟨connected, rfl⟩ | ⟨rfl, fetching⟩
    · cases listener.symm.trans source
    · cases (routing.client connected).1.symm.trans source
    · refine ⟨branch_server_media fun same => ?_, (routing.media fetching).2.2⟩
      rw [same, listener] at source
      cases source
  apart connected := (routing.client connected).2.symm
  rtsp fd readable branch := by
    rcases routing.watched fd (routing.readable readable) with rfl | client | ⟨rfl, fetching⟩
    · simp [ServerState.branch] at branch
    · exact client
    · exact absurd rfl (branch_rtsp branch)

/-! ## Changes which do not matter -/

/-- The variables which tell descriptors apart are the same, and so are the connections. -/
structure SameRoutes (s after : ServerState) : Prop where
  listenfd : after.listenfd = s.listenfd
  mediafd : after.mediafd = s.mediafd
  masterfds : after.masterfds = s.masterfds
  connected : after.Connected ↔ s.Connected
  rtspfd : after.streamclient.rtspfd = s.streamclient.rtspfd
  mediastate : after.download.mediastate = s.download.mediastate
  streams : ∀ fd endpoint, endpoint.IsStream →
    (after.kernel fd = some endpoint ↔ s.kernel fd = some endpoint)

/-- Nothing but other variables is changed. -/
theorem SameRoutes.of_eq {s after : ServerState} (listenfd : after.listenfd = s.listenfd)
    (mediafd : after.mediafd = s.mediafd) (masterfds : after.masterfds = s.masterfds)
    (client : after.streamclient = s.streamclient)
    (mediastate : after.download.mediastate = s.download.mediastate)
    (kernel : after.kernel = s.kernel) : SameRoutes s after where
  listenfd := listenfd
  mediafd := mediafd
  masterfds := masterfds
  connected := by rw [ServerState.Connected, client]; rfl
  rtspfd := by rw [client]
  mediastate := mediastate
  streams fd endpoint _ := by rw [kernel]

theorem SameRoutes.fetching {s after : ServerState} (same : SameRoutes s after) :
    after.Fetching ↔ s.Fetching := by
  unfold ServerState.Fetching
  rw [same.mediafd]
  exact exists_congr fun response => same.streams s.mediafd (.source response) trivial

/-- The invariant is kept when the descriptors still to be handled are watched as well. -/
theorem Routing.keeps {s after : ServerState} (routing : Routing s) (same : SameRoutes s after)
    (pending : ∀ fds, after.pc = .dispatch fds →
      fds.Pairwise (· < ·) ∧ ∀ fd ∈ fds, s.masterfds fd = true) : Routing after where
  watched fd watched := by
    rw [same.listenfd, same.connected, same.rtspfd, same.mediafd, same.fetching]
    exact routing.watched fd (same.masterfds ▸ watched)
  client connected := by
    rw [same.rtspfd, same.mediafd, same.streams _ .peer trivial]
    exact routing.client (same.connected.mp connected)
  media fetching := by
    rw [same.mediafd, same.masterfds, same.mediastate]
    exact routing.media (same.fetching.mp fetching)
  pending fds pc := by
    rw [same.masterfds]
    exact pending fds pc

/-- The same, when the main thread stays where it is. -/
theorem Routing.stays {s after : ServerState} (routing : Routing s) (same : SameRoutes s after)
    (pc : after.pc = s.pc) : Routing after :=
  routing.keeps same fun fds dispatching => routing.pending fds (pc ▸ dispatching)

/-- The same, when it does not dispatch. -/
theorem Routing.leaves {s after : ServerState} (routing : Routing s) (same : SameRoutes s after)
    (pc : ∀ fds, after.pc ≠ .dispatch fds) : Routing after :=
  routing.keeps same fun fds dispatching => absurd dispatching (pc fds)

theorem fdSet_eq_true {fds : Int → Bool} {fd other : Int} :
    fdSet fds fd other = true ↔ other = fd ∨ fds other = true := by
  by_cases same : other = fd
  · simp [fdSet, same]
  · simp [fdSet, same]

theorem fdClr_eq_true {fds : Int → Bool} {fd other : Int} :
    fdClr fds fd other = true ↔ other ≠ fd ∧ fds other = true := by
  by_cases same : other = fd
  · simp [fdClr, same]
  · simp [fdClr, same]

/-! ## Handlers -/

/-- The handling of the first of the descriptors begins. -/
theorem Routing.handling {s : ServerState} {i : Int} {rest : List Int} (routing : Routing s)
    (pc : s.pc = .dispatch (i :: rest)) :
    Routing { s with pc := .dispatch rest } ∧ s.masterfds i = true ∧ ∀ fd ∈ rest, fd ≠ i := by
  obtain ⟨ascending, watched⟩ := routing.pending _ pc
  obtain ⟨first, later⟩ := List.pairwise_cons.mp ascending
  have same : SameRoutes s { s with pc := .dispatch rest } := .of_eq rfl rfl rfl rfl rfl rfl
  refine ⟨routing.keeps same ?_, watched i List.mem_cons_self, fun fd member => ?_⟩
  · rintro fds ⟨⟩
    exact ⟨later, fun fd member => watched fd (List.mem_cons_of_mem i member)⟩
  · have behind := first fd member
    omega

/-- A client gets a number which was free and which `mediafd` does not hold. -/
theorem AcceptEffect.routing {s after : ServerState} {result : Accept} {output : List Output}
    (effect : AcceptEffect s result after output) (routing : Routing s)
    (possible : result.possible s = true)
    (apart : ∀ fd, result = .accepted fd → ¬ s.Connected → fd ≠ s.mediafd) : Routing after := by
  cases effect with
  | halted reason => exact routing.leaves (.of_eq rfl rfl rfl rfl rfl rfl) (by simp)
  | rejected busy => exact routing
  | @accepted fd accepted free =>
      subst accepted
      have fresh : s.Fresh fd := of_decide_eq_true possible
      have alone : ¬ s.Connected := not_not.mpr free
      have other := apart fd rfl alone
      have fetching : ∀ response, Function.update s.kernel fd (some .peer) s.mediafd =
          some (.source response) ↔ s.kernel s.mediafd = some (.source response) := by
        intro response
        rw [Function.update_of_ne other.symm]
      constructor
      · intro g watched
        rcases fdSet_eq_true.mp watched with rfl | before
        · exact Or.inr (Or.inl ⟨ClientState.noConfusion, rfl⟩)
        · rcases routing.watched g before with listen | client | ⟨media, response, opened⟩
          · exact Or.inl listen
          · exact absurd client.1 alone
          · exact Or.inr (Or.inr ⟨media, response, (fetching response).mpr opened⟩)
      · exact fun _ => ⟨Function.update_self .., other⟩
      · rintro ⟨response, opened⟩
        obtain ⟨valid, watched, state⟩ := routing.media ⟨response, (fetching response).mp opened⟩
        exact ⟨valid, fdSet_eq_true.mpr (Or.inr watched), state⟩
      · intro fds pc
        obtain ⟨ascending, watched⟩ := routing.pending fds pc
        exact ⟨ascending, fun g member => fdSet_eq_true.mpr (Or.inr (watched g member))⟩

/-- More is read from the media connection. -/
theorem Routing.reads {s after : ServerState} (routing : Routing s) (fetching : s.Fetching)
    (same : after.listenfd = s.listenfd ∧ after.mediafd = s.mediafd ∧
      after.streamclient = s.streamclient) (masterfds : after.masterfds = s.masterfds)
    (mediastate : after.download.mediastate = .getsent ∨ after.download.mediastate = .recvtcp)
    (opened : after.Fetching) (kernel : ∀ fd, fd ≠ s.mediafd → after.kernel fd = s.kernel fd)
    (pc : after.pc = s.pc) : Routing after := by
  obtain ⟨listenfd, mediafd, client⟩ := same
  have connected : after.Connected ↔ s.Connected := by rw [ServerState.Connected, client]; rfl
  constructor
  · intro fd watched
    rw [listenfd, connected, client, mediafd]
    exact (routing.watched fd (masterfds ▸ watched)).imp_right (Or.imp_right fun media =>
      ⟨media.1, opened⟩)
  · intro present
    obtain ⟨peer, apart⟩ := routing.client (connected.mp present)
    rw [client, mediafd, kernel _ apart]
    exact ⟨peer, apart⟩
  · intro _
    obtain ⟨valid, watched, -⟩ := routing.media fetching
    rw [mediafd, masterfds]
    exact ⟨valid, watched, mediastate⟩
  · rw [pc, masterfds]
    exact routing.pending

/-- The media connection is closed. -/
theorem Routing.ends {s after : ServerState} {rest : List Int} (routing : Routing s)
    (same : after.listenfd = s.listenfd ∧ after.mediafd = s.mediafd ∧
      after.streamclient = s.streamclient)
    (masterfds : ∀ fd, after.masterfds fd = true ↔ fd ≠ s.mediafd ∧ s.masterfds fd = true)
    (closed : after.kernel s.mediafd = none)
    (kernel : ∀ fd, fd ≠ s.mediafd → s.kernel fd = some .peer → after.kernel fd = some .peer)
    (pc : s.pc = .dispatch rest) (apart : ∀ fd ∈ rest, fd ≠ s.mediafd)
    (still : ∀ fds, after.pc = .dispatch fds → fds = rest) : Routing after := by
  obtain ⟨listenfd, mediafd, client⟩ := same
  have connected : after.Connected ↔ s.Connected := by rw [ServerState.Connected, client]; rfl
  constructor
  · intro fd watched
    obtain ⟨other, before⟩ := (masterfds fd).mp watched
    rw [listenfd, connected, client]
    rcases routing.watched fd before with listen | present | media
    · exact Or.inl listen
    · exact Or.inr (Or.inl present)
    · exact absurd media.1 other
  · intro present
    obtain ⟨peer, apart⟩ := routing.client (connected.mp present)
    rw [client, mediafd]
    exact ⟨kernel _ apart peer, apart⟩
  · rintro ⟨response, opened⟩
    rw [mediafd, closed] at opened
    cases opened
  · intro fds dispatching
    obtain rfl := still fds dispatching
    obtain ⟨ascending, watched⟩ := routing.pending fds pc
    exact ⟨ascending, fun fd member => (masterfds fd).mpr ⟨apart fd member, watched fd member⟩⟩

/-- What is heard in the media branch comes from the media connection. -/
theorem Routing.hears_media {s : ServerState} (routing : Routing s) {i : Int}
    (watched : s.masterfds i = true) (branch : s.branch .server i = .media) :
    i = s.mediafd ∧ s.Fetching := by
  have media := branch_media branch
  rcases routing.watched i watched with rfl | ⟨connected, rfl⟩ | fetching
  · simp [ServerState.branch] at branch
  · exact absurd media (routing.client connected).2
  · exact fetching

/-- What is heard in the RTSP branch comes from the client. -/
theorem Routing.hears_client {s : ServerState} (routing : Routing s) {i : Int}
    (watched : s.masterfds i = true) (branch : s.branch .server i = .rtsp) :
    s.Connected ∧ i = s.streamclient.rtspfd := by
  rcases routing.watched i watched with rfl | client | media
  · simp [ServerState.branch] at branch
  · exact client
  · exact absurd media.1 (branch_rtsp branch)

theorem storeMedia_masterfds {s : ServerState} {i fd : Int} {io : MediaIo} :
    (s.storeMedia i io).masterfds fd = true ↔
      (io.received = [] → fd ≠ i) ∧ s.masterfds fd = true := by
  unfold ServerState.storeMedia
  by_cases empty : io.received = []
  · simp [empty, ServerState.close, ServerState.recv, fdClr_eq_true]
  · simp [empty, ServerState.recv]

/-- What the end of a download does to descriptors. -/
theorem CompleteEffect.closes {s after : ServerState} {io : MediaIo} {output : List Output}
    (effect : CompleteEffect s io after output) :
    (after.listenfd = s.listenfd ∧ after.mediafd = s.mediafd ∧
        after.streamclient = s.streamclient) ∧
      after.masterfds = fdClr s.masterfds s.mediafd ∧
      after.kernel = Function.update (Function.update s.kernel s.videofd none) s.mediafd none ∧
      (after.pc = s.pc ∨ ∃ reason, after.pc = .halted reason) := by
  cases effect with
  | exited unopened => exact ⟨⟨rfl, rfl, rfl⟩, rfl, rfl, Or.inr ⟨_, rfl⟩⟩
  | failed unopened => exact ⟨⟨rfl, rfl, rfl⟩, rfl, rfl, Or.inr ⟨_, rfl⟩⟩
  | locked opened taken => exact ⟨⟨rfl, rfl, rfl⟩, rfl, rfl, Or.inr ⟨_, rfl⟩⟩
  | launched opened free => exact ⟨⟨rfl, rfl, rfl⟩, rfl, rfl, Or.inl rfl⟩

theorem MediaEffect.routing {s after : ServerState} {i : Int} {rest : List Int} {io : MediaIo}
    {output : List Output} (effect : MediaEffect s i io after output) (routing : Routing s)
    (pc : s.pc = .dispatch rest) (apart : ∀ fd ∈ rest, fd ≠ i) (media : i = s.mediafd)
    (fetching : s.Fetching) (file : s.download.mediaDownloaded = false → s.kernel s.videofd = some .file)
    (absent : s.download.mediaDownloaded = false) : Routing after := by
  subst media
  obtain ⟨response, source⟩ := fetching
  have others : ∀ bytes fd, fd ≠ s.mediafd → (s.recv s.mediafd bytes).kernel fd = s.kernel fd :=
    fun bytes fd other => by simp [ServerState.recv, other]
  have still : ∀ {pc' fds}, pc' = s.pc → pc' = .dispatch fds → fds = rest := by
    intro pc' fds same dispatching
    exact MainPc.dispatch.inj (dispatching.symm.trans (same.trans pc))
  cases effect with
  | ignored other => exact routing
  | failed reason reads => exact routing.leaves (.of_eq rfl rfl rfl rfl rfl rfl) (by simp)
  | header getsent opened found parsed =>
      obtain ⟨videosize, rfl⟩ := getsent_eq parsed
      refine routing.reads ⟨response, source⟩ ⟨rfl, rfl, rfl⟩ rfl (Or.inr rfl) ?_
        (others io.received) rfl
      exact ⟨_, by simp [ServerState.recv, source, Endpoint.consume]; rfl⟩
  | stored recvtcp opened more =>
      obtain ⟨kernel, masterfds, stored⟩ := storeMedia_eq s s.mediafd io
      have same : (s.storeMedia s.mediafd io).listenfd = s.listenfd ∧
          (s.storeMedia s.mediafd io).mediafd = s.mediafd ∧
          (s.storeMedia s.mediafd io).streamclient = s.streamclient := by
        rw [stored]
        exact ⟨rfl, rfl, rfl⟩
      by_cases empty : io.received = []
      · refine routing.ends same (fun fd => ?_) ?_ ?_ pc apart ?_
        · rw [storeMedia_masterfds]
          simp [empty]
        · simp [ServerState.storeMedia, empty, ServerState.close]
        · intro fd other peer
          rw [storeMedia_kernel other, peer]
        · rw [stored]
          exact fun fds => still rfl
      · refine routing.reads ⟨response, source⟩ same ?_ ?_ ?_ (fun fd => storeMedia_kernel) ?_
        · funext fd
          rw [Bool.eq_iff_iff, storeMedia_masterfds]
          simp [empty]
        · rw [stored]
          exact Or.inr recvtcp
        · refine ⟨response.drop io.received.length, ?_⟩
          simp [ServerState.storeMedia, empty, ServerState.recv, source, Endpoint.consume]
        · rw [stored]
  | completed recvtcp opened last effect =>
      obtain ⟨kernel, masterfds, stored⟩ := storeMedia_eq s s.mediafd io
      obtain ⟨same, cleared, closed, pc'⟩ := effect.closes
      have sets : ∀ fd, after.masterfds fd = true ↔ fd ≠ s.mediafd ∧ s.masterfds fd = true := by
        intro fd
        rw [cleared, fdClr_eq_true, storeMedia_masterfds, stored]
        tauto
      refine routing.ends ?_ sets ?_ (fun fd other peer => ?_) pc apart ?_
      · rw [stored] at same
        exact same
      · rw [closed, stored]
        exact Function.update_self ..
      · have notFile : fd ≠ s.videofd := by
          rintro rfl
          cases peer.symm.trans (file absent)
        rw [closed, stored]
        simp only [Function.update_of_ne other, Function.update_of_ne notFile]
        have kept := @storeMedia_kernel s s.mediafd fd io other
        rw [stored] at kept
        exact kept.trans peer
      · intro fds dispatching
        rcases pc' with same | ⟨reason, halted⟩
        · refine still ?_ dispatching
          rw [same, stored]
        · cases halted.symm.trans dispatching

/-- A connection of the branch is closed, and with it the client goes. -/
theorem Routing.hangsUp {s after : ServerState} {i : Int} {rest : List Int} (routing : Routing s)
    (same : after.listenfd = s.listenfd ∧ after.mediafd = s.mediafd ∧
      after.download.mediastate = s.download.mediastate)
    (masterfds : after.masterfds = fdClr s.masterfds i)
    (client : s.Connected → i = s.streamclient.rtspfd) (gone : ¬ after.Connected)
    (media : i ≠ s.mediafd)
    (kernel : ∀ response, after.kernel s.mediafd = some (.source response) ↔
      s.kernel s.mediafd = some (.source response))
    (pc : s.pc = .dispatch rest) (apart : ∀ fd ∈ rest, fd ≠ i) (still : after.pc = s.pc) :
    Routing after := by
  obtain ⟨listenfd, mediafd, mediastate⟩ := same
  have fetching : after.Fetching ↔ s.Fetching := by
    unfold ServerState.Fetching
    rw [mediafd]
    exact exists_congr kernel
  constructor
  · intro fd watched
    obtain ⟨other, before⟩ := fdClr_eq_true.mp (masterfds ▸ watched)
    rw [listenfd, mediafd, fetching]
    rcases routing.watched fd before with listen | ⟨connected, here⟩ | fetches
    · exact Or.inl listen
    · exact absurd (here.trans (client connected).symm) other
    · exact Or.inr (Or.inr fetches)
  · exact fun connected => absurd connected gone
  · intro fetches
    obtain ⟨valid, watched, state⟩ := routing.media (fetching.mp fetches)
    rw [mediafd, masterfds, mediastate]
    exact ⟨valid, fdClr_eq_true.mpr ⟨media.symm, watched⟩, state⟩
  · rw [still, masterfds]
    rintro fds dispatching
    obtain rfl := MainPc.dispatch.inj (pc.symm.trans dispatching)
    obtain ⟨ascending, watched⟩ := routing.pending _ pc
    exact ⟨ascending, fun fd member => fdClr_eq_true.mpr ⟨apart fd member, watched fd member⟩⟩

/-- Behind a receipt from the client the descriptors are told apart as before. -/
theorem ReceiveEffect.routing {s after : ServerState} {i : Int} {rest : List Int}
    {received : List UInt8} {output : List Output}
    (effect : ReceiveEffect s i received after output) (routing : Routing s)
    (client : s.Connected ∧ i = s.streamclient.rtspfd) (pc : s.pc = .dispatch rest)
    (apart : ∀ fd ∈ rest, fd ≠ i) :
    Routing after ∧ after.mediafd = s.mediafd ∧
      (after.Connected → i = after.streamclient.rtspfd) := by
  obtain ⟨connected, here⟩ := client
  obtain ⟨peer, other⟩ := routing.client connected
  rw [← here] at peer other
  cases effect with
  | closed opened empty =>
      refine ⟨routing.hangsUp ⟨rfl, rfl, rfl⟩ rfl (fun _ => here) (fun present => present rfl) other
        (fun response => ?_) pc apart rfl, rfl, fun present => absurd rfl present⟩
      simp [ServerState.close, Function.update_of_ne other.symm]
  | message opened nonempty terminated parsed =>
      refine ⟨routing.stays ⟨rfl, rfl, rfl, Iff.rfl, rfl, rfl, fun fd endpoint stream => ?_⟩ rfl, rfl,
        fun _ => here⟩
      by_cases same : fd = i
      · subst same
        simp [ServerState.recv, peer, Endpoint.consume]
      · simp [ServerState.recv, same]

theorem TeardownEffect.routing {variant : Variant} {s after : ServerState} {i : Int} {rest : List Int}
    {io : RtspIo} {output : List Output} (effect : TeardownEffect variant s i io after output)
    (routing : Routing s) (client : s.Connected → i = s.streamclient.rtspfd) (other : i ≠ s.mediafd)
    (sockets : SocketsOpen s) (pc : s.pc = .dispatch rest) (apart : ∀ fd ∈ rest, fd ≠ i) :
    Routing after := by
  cases effect with
  | locked taken => exact routing.leaves (.of_eq rfl rfl rfl rfl rfl rfl) (by simp)
  | dangling free dead => exact routing.leaves (.of_eq rfl rfl rfl rfl rfl rfl) (by simp)
  | @done thread tinfo free armed =>
      have effect : TeardownEffect variant s i io (s.tearDown variant i io thread tinfo).1
          (s.tearDown variant i io thread tinfo).2 := .done free armed
      refine routing.hangsUp ⟨rfl, rfl, rfl⟩ rfl client (fun present => present rfl) other ?_ pc apart
        rfl
      intro response
      constructor
      · -- Nothing is opened.
        intro opened
        simp only [ServerState.tearDown, ServerState.close, Function.update_apply] at opened
        split_ifs at opened
        exact opened
      · intro source
        rcases effect.touches other.symm with same | ⟨member, -⟩
        · rw [same, source]
        · rcases sockets _ member with failed | udp
          · have valid := (routing.media ⟨response, source⟩).1
            omega
          · cases udp.symm.trans source

/-- The `switch` keeps the numbers apart unless it starts a download behind an open one. -/
theorem SwitchEffect.routing {variant : Variant} {s after : ServerState} {i : Int} {io : RtspIo}
    {output : List Output} (effect : SwitchEffect variant s i io after output) (routing : Routing s)
    (done : s.download.mediaDownloaded = true → ¬ s.Fetching)
    (fetch : ∀ fd response, io.fetch = .ok (fd, response) → s.Fresh fd)
    (sockets : ∀ rtp rtcp, io.sockets = .ok (rtp, rtcp) →
      (rtp = -1 ∨ s.Fresh rtp) ∧ (rtcp = -1 ∨ s.Fresh rtcp))
    (alone : after.mediafd ≠ s.mediafd → ¬ s.Fetching) : Routing after := by
  cases effect with
  | ignored other => exact routing
  | failed reason output handled before =>
      exact routing.leaves (.of_eq rfl rfl rfl rfl rfl rfl) (by simp)
  | options state type =>
      exact routing.stays ⟨rfl, rfl, rfl, Iff.rfl, rfl, rfl, fun _ _ _ => Iff.rfl⟩ rfl
  | described state type downloaded =>
      have connected : s.Connected := by simp [ServerState.Connected, state]
      exact ⟨fun fd watched => (routing.watched fd watched).imp_right (Or.imp_left fun client =>
          ⟨ClientState.noConfusion, client.2⟩), fun _ => routing.client connected,
        fun fetching => absurd fetching (done downloaded), routing.pending⟩
  | @fetched fd request response cseq text state type absent fetched =>
      have connected : s.Connected := by simp [ServerState.Connected, state]
      have fresh := fetch fd response fetched
      obtain ⟨peer, apart⟩ := routing.client connected
      have idle : ¬ s.Fetching := by
        intro fetching
        refine alone (fun same => ?_) fetching
        obtain ⟨pending, source⟩ := fetching
        rw [← same] at source
        cases fresh.2.symm.trans source
      have differs : s.streamclient.rtspfd ≠ fd := by
        rintro rfl
        cases fresh.2.symm.trans peer
      constructor
      · intro g watched
        rcases fdSet_eq_true.mp watched with rfl | before
        · exact Or.inr (Or.inr ⟨rfl, response, Function.update_self ..⟩)
        · rcases routing.watched g before with listen | client | media
          · exact Or.inl listen
          · exact Or.inr (Or.inl ⟨ClientState.noConfusion, client.2⟩)
          · exact absurd media.2 idle
      · exact fun _ => ⟨(Function.update_of_ne differs ..).trans peer, differs⟩
      · exact fun _ => ⟨fresh.1, fdSet_eq_true.mpr (Or.inl rfl), Or.inl rfl⟩
      · intro fds pc
        obtain ⟨ascending, watched⟩ := routing.pending fds pc
        exact ⟨ascending, fun g member => fdSet_eq_true.mpr (Or.inr (watched g member))⟩
  | @setup rtp rtcp session text state type opened =>
      obtain ⟨freeRtp, freeRtcp⟩ := sockets rtp rtcp opened
      have connected : s.Connected := by simp [ServerState.Connected, state]
      have streams : ∀ fd endpoint, endpoint.IsStream →
          (((s.openUdp rtp).openUdp rtcp).kernel fd = some endpoint ↔ s.kernel fd = some endpoint) := by
        intro fd endpoint stream
        have free : ∀ {new}, (new = -1 ∨ s.Fresh new) → fd = new ∧ 0 ≤ new → s.kernel fd = none := by
          rintro new (failed | fresh) ⟨rfl, valid⟩
          · omega
          · exact fresh.2
        have notUdp : (some Endpoint.udp = some endpoint) ↔ False := by
          refine iff_false_intro fun same => ?_
          obtain rfl := Option.some.inj same
          exact stream
        simp only [openUdp_kernel]
        split_ifs with isRtcp isRtp
        · rw [free freeRtcp isRtcp, notUdp]
          simp
        · rw [free freeRtp isRtp, notUdp]
          simp
        · rfl
      obtain ⟨rtspfd, -, states⟩ := setupClient_fields variant s.streamclient rtp rtcp session state
      obtain ⟨kernel, same⟩ := openUdp_eq s rtp rtcp
      rw [same] at streams ⊢
      refine routing.stays ⟨rfl, rfl, rfl, iff_of_true ?_ connected, rtspfd, rfl, streams⟩ rfl
      unfold ServerState.Connected
      rcases states with still | ⟨complete, -⟩
      · simp [still]
      · simp [complete]
  | played state type absent free =>
      exact routing.stays (.of_eq rfl rfl rfl rfl rfl rfl) rfl
  | unopened state type downloaded unopened =>
      exact routing.leaves (.of_eq rfl rfl rfl rfl rfl rfl) (by simp)
  | launched state type downloaded opened =>
      exact routing.stays (.of_eq rfl rfl rfl rfl rfl rfl) rfl

/-! ## The start of a download -/

/-- A download which is started moves `mediafd` to a new descriptor, and watches it. -/
theorem handleDescribe_fetches {s : ServerState} {url request response : List UInt8} {i fd : Int}
    {io : RtspIo} (running : s.Running) (absent : s.download.mediaDownloaded = false)
    (built : httpGet url = .ok request) (fetched : io.fetch = .ok (fd, response)) :
    (s.handleDescribe url i io).1.mediafd = fd ∧
      (s.handleDescribe url i io).1.masterfds = fdSet s.masterfds fd ∧
      (s.handleDescribe url i io).1.kernel =
        Function.update s.kernel fd (some (.source response)) := by
  unfold ServerState.handleDescribe ServerState.fetchMedia
  simp only [absent, built, fetched, Bool.false_eq_true, if_false]
  rw [andThen_running running]
  exact ⟨rfl, rfl, rfl⟩

/-- Otherwise `mediafd` stays as it is. -/
theorem handleDescribe_idle {s : ServerState} {url : List UInt8} {i : Int} {io : RtspIo}
    (running : s.Running)
    (idle : ¬ (s.download.mediaDownloaded = false ∧
      ∃ request connection, httpGet url = .ok request ∧ io.fetch = .ok connection)) :
    (s.handleDescribe url i io).1.mediafd = s.mediafd := by
  unfold ServerState.handleDescribe ServerState.fetchMedia
  cases downloaded : s.download.mediaDownloaded with
  | true =>
      rw [if_pos rfl, andThen_running running]
  | false =>
      rw [if_neg Bool.false_ne_true]
      cases built : httpGet url with
      | error reason =>
          simp only [andThen_halt]
          rfl
      | ok request =>
          cases fetched : io.fetch with
          | error reason =>
              simp only [andThen_halt]
              rfl
          | ok connection => exact absurd ⟨downloaded, request, connection, built, fetched⟩ idle

/-- The `switch` gives `mediafd` another number only when it starts a download. -/
theorem clientSwitch_mediafd {variant : Variant} {url : List UInt8} {s : ServerState} {i : Int}
    {io : RtspIo} (running : s.Running)
    (moved : (s.clientSwitch variant url i io).1.mediafd ≠ s.mediafd) :
    s.streamclient.state = .cliconnected ∧ s.rtspmsg.type = .describe ∧
      s.download.mediaDownloaded = false ∧
      ∃ request connection, httpGet url = .ok request ∧ io.fetch = .ok connection := by
  by_cases describes : s.streamclient.state = .cliconnected ∧ s.rtspmsg.type = .describe
  · obtain ⟨state, type⟩ := describes
    simp only [ServerState.clientSwitch, state, type] at moved
    have starts := not_not.mp fun idle => moved (handleDescribe_idle running idle)
    exact ⟨state, type, starts⟩
  · refine absurd ?_ moved
    cases same : s.clientSwitch variant url i io with
    | mk after output =>
        have effect := @clientSwitch_cases variant url s i io running
        rw [same] at effect
        cases effect with
        | fetched state type absent fetch => exact absurd ⟨state, type⟩ describes
        | @setup rtp rtcp session text state type sockets =>
            obtain ⟨kernel, opened⟩ := openUdp_eq s rtp rtcp
            rw [opened]
        | _ => rfl

/-- What a request is received as when it starts a download, or would if it were a DESCRIBE. -/
theorem StartsDownload.received {url : List UInt8} {s received : ServerState} {i : Int}
    {rest : List Int} {io : RtspIo} {prior : List Output} (pc : s.pc = .dispatch (i :: rest))
    (receive : ReceiveEffect { s with pc := .dispatch rest } i io.received received prior) :
    StartsDownload url s (.rtsp io) ↔
      received.streamclient.state = .cliconnected ∧ received.rtspmsg.type = .describe ∧
        received.download.mediaDownloaded = false ∧
        ∃ request connection, httpGet url = .ok request ∧ io.fetch = .ok connection := by
  have sameDownload := receive.download
  constructor
  · rintro ⟨io', i', rest', request, connection, ⟨⟩, pc', nonempty, ⟨opened, left, parsed⟩, state,
      absent, built, fetched⟩
    obtain ⟨rfl, rfl⟩ : i = i' ∧ rest = rest' := by simpa [pc] using pc'
    have type : received.rtspmsg.type = .describe := receive.leaves_iff.mp ⟨opened, left, parsed⟩
    cases receive with
    | closed _ empty => exact absurd empty nonempty
    | message => exact ⟨state, type, absent, request, connection, built, fetched⟩
  · rintro ⟨state, type, absent, request, connection, built, fetched⟩
    have present := receive.client (fun gone => by rw [state] at gone; cases gone)
    obtain ⟨opened, left, parsed⟩ := receive.leaves_iff.mpr type
    exact ⟨io, i, rest, request, connection, rfl, pc, present.1, ⟨opened, left, parsed⟩,
      present.2 ▸ state, sameDownload ▸ absent, built, fetched⟩

theorem ReceiveEffect.mediafd {s after : ServerState} {i : Int} {received : List UInt8}
    {output : List Output} (effect : ReceiveEffect s i received after output) :
    after.mediafd = s.mediafd := by
  cases effect with
  | closed opened empty => rfl
  | message opened nonempty terminated parsed => rfl

/-- A request gives `mediafd` another number only when it starts a download. -/
theorem step_mediafd {variant : Variant} {url : List UInt8} {s after : ServerState} {io : RtspIo}
    {output : List Output} (taken : step variant url s (.rtsp io) = .ok (after, output))
    (moved : after.mediafd ≠ s.mediafd) : StartsDownload url s (.rtsp io) := by
  rw [step] at taken
  obtain ⟨i, rest, pc, -, -, same⟩ := dispatch_cases taken
  rcases handleRtsp_outcome variant url i io (dispatch_running s rest) with
    ⟨reason, halted, -⟩ | ⟨received, prior, receive, running, outcome⟩
  · rw [halted, halt_eq] at same
    cases same
    exact absurd rfl moved
  · rw [outcome] at same
    refine (StartsDownload.received pc receive).mpr ?_
    split at same
    · have effect := handleTeardown_cases variant received i io
      obtain ⟨rfl, -⟩ := Prod.mk.inj same
      refine absurd ?_ moved
      rw [show s.mediafd = received.mediafd from receive.mediafd.symm]
      generalize (received.handleTeardown variant i io).1 = final at effect ⊢
      generalize (received.handleTeardown variant i io).2 = answers at effect
      cases effect <;> rfl
    · obtain ⟨rfl, -⟩ := Prod.mk.inj same
      exact clientSwitch_mediafd running fun still => moved (still.trans receive.mediafd)

/-- And then it does, while the connection of another download stays open and watched. -/
theorem StartsDownload.moves {variant : Variant} {url : List UInt8} {s after : ServerState}
    {io : RtspIo} {output : List Output} (starts : StartsDownload url s (.rtsp io))
    (taken : step variant url s (.rtsp io) = .ok (after, output)) :
    s.kernel after.mediafd = none ∧ ∀ response, s.kernel s.mediafd = some (.source response) →
      s.masterfds s.mediafd = true →
        after.kernel s.mediafd = some (.source response) ∧ after.masterfds s.mediafd = true := by
  rw [step] at taken
  obtain ⟨i, rest, pc, branch, possible, same⟩ := dispatch_cases taken
  obtain ⟨-, fetch, -⟩ := RtspIo.possible_iff possible
  have other := branch_rtsp branch
  rcases handleRtsp_outcome variant url i io (dispatch_running s rest) with
    ⟨reason, halted, unread⟩ | ⟨received, prior, receive, running, outcome⟩
  · obtain ⟨io', i', rest', request, connection, ⟨⟩, pc', -, ⟨opened, left, parsed⟩, -⟩ := starts
    obtain ⟨rfl, rfl⟩ : i = i' ∧ rest = rest' := by simpa [pc] using pc'
    have leaves : Leaves { s with pc := .dispatch rest } i io.received .describe :=
      ⟨opened, left, parsed⟩
    obtain ⟨middle, prior, receive⟩ := leaves.receives
    exact absurd receive (unread middle prior)
  · obtain ⟨state, type, absent, request, ⟨fd, response⟩, built, fetched⟩ :=
      (StartsDownload.received pc receive).mp starts
    have fresh := fetch fd response fetched
    rw [outcome, if_neg (by simp [type])] at same
    simp only [ServerState.clientSwitch, state, type] at same
    obtain ⟨rfl, -⟩ := Prod.mk.inj same
    obtain ⟨mediafd, masterfds, kernel⟩ :=
      @handleDescribe_fetches received url request response i fd io running absent built fetched
    rw [mediafd, masterfds, kernel]
    refine ⟨fresh.2, fun pending source watched => ⟨?_, ?_⟩⟩
    · have differs : s.mediafd ≠ fd := by
        intro same
        rw [same, fresh.2] at source
        cases source
      rw [Function.update_of_ne differs, receive.kernel other.symm]
      exact source
    · refine fdSet_eq_true.mpr (Or.inr ?_)
      cases receive with
      | closed opened empty => exact fdClr_eq_true.mpr ⟨other.symm, watched⟩
      | message opened nonempty terminated parsed => exact watched

/-! ## Steps -/

theorem RtspEffect.routing {s after : ServerState} {i : Int} {rest : List Int} {io : RtspIo}
    {output : List Output}
    (effect : RtspEffect .server { s with pc := .dispatch rest } i io after output)
    (routing : Routing s) (listens : ListenerOpen s) (pc : s.pc = .dispatch (i :: rest))
    (branch : s.branch .server i = .rtsp) (possible : io.possible s i = true)
    (alone : after.mediafd ≠ s.mediafd → ¬ s.Fetching) : Routing after := by
  obtain ⟨-, fetch, sockets⟩ := RtspIo.possible_iff possible
  obtain ⟨handling, watched, apart⟩ := routing.handling pc
  have client := routing.hears_client watched branch
  have other := branch_rtsp branch
  cases effect with
  | failed reason unread => exact routing.leaves (.of_eq rfl rfl rfl rfl rfl rfl) (by simp)
  | @teardown received after prior output receive type effect =>
      obtain ⟨routed, mediafd, heard⟩ := receive.routing handling client rfl apart
      refine effect.routing routed heard (mediafd ▸ other) ?_ receive.pc apart
      intro fd member
      have same : clientSockets received.streamclient = clientSockets s.streamclient := by
        cases receive <;> rfl
      rcases listens.facts.sockets.client fd (same ▸ member) with failed | udp
      · exact Or.inl failed
      · refine Or.inr ((receive.kernel ?_).trans udp)
        rintro rfl
        have peer := (routing.client client.1).1
        rw [← client.2] at peer
        cases peer.symm.trans udp
  | @switched received after prior output receive type effect =>
      obtain ⟨routed, mediafd, heard⟩ := receive.routing handling client rfl apart
      have fetching : received.Fetching → s.Fetching := by
        rintro ⟨response, source⟩
        rw [mediafd, receive.kernel other.symm] at source
        exact ⟨response, source⟩
      refine effect.routing routed ?_ (fun fd response fetched => receive.fresh (fetch fd response fetched))
        (fun rtp rtcp opened => ?_) ?_
      · intro downloaded fetches
        have running : s.Running := fun reason => by simp [pc]
        have absent := listens.facts.order.reading running (routing.media (fetching fetches)).2.2
        rw [receive.download] at downloaded
        cases absent.symm.trans downloaded
      · obtain ⟨freeRtp, freeRtcp⟩ := sockets rtp rtcp opened
        exact ⟨freeRtp.imp_right receive.fresh, freeRtcp.imp_right receive.fresh⟩
      · intro moved fetches
        exact alone (fun same => moved (same.trans mediafd.symm)) (fetching fetches)

/-- A step which keeps the numbers apart keeps the invariant. -/
theorem routing_kept {url : List UInt8} {s after : ServerState} {input : Input}
    {output : List Output} (routing : Routing s) (listens : ListenerOpen s)
    (met : KeepsApart url s input) (taken : step .server url s input = .ok (after, output)) :
    Routing after := by
  cases step_cases taken with
  | timeout pc set effect =>
      cases effect with
      | locked taken => exact routing.leaves (.of_eq rfl rfl rfl rfl rfl rfl) (by simp)
      | idle free empty => exact routing.stays (.of_eq rfl rfl rfl rfl rfl rfl) rfl
      | failed free queued last => exact routing.leaves (.of_eq rfl rfl rfl rfl rfl rfl) (by simp)
      | handled free queued effect =>
          cases effect <;> exact routing.stays (.of_eq rfl rfl rfl rfl rfl rfl) rfl
  | @interrupted fds pc =>
      simp only [step, if_pos pc, Except.ok.injEq, Prod.mk.injEq, ServerState.mk.injEq,
        MainPc.dispatch.injEq, and_true] at taken
      refine routing.keeps (.of_eq rfl rfl rfl rfl rfl rfl) ?_
      rintro fds' ⟨⟩
      rw [← taken]
      split
      · rename_i standing
        exact ⟨List.pairwise_singleton _ _, fun fd member => List.mem_singleton.mp member ▸ standing.1⟩
      · exact ⟨.nil, fun fd member => absurd member List.not_mem_nil⟩
  | @ready fds pc members =>
      simp only [step] at taken
      split at taken
      · rename_i enabled
        refine routing.keeps (.of_eq rfl rfl rfl rfl rfl rfl) ?_
        rintro fds' ⟨⟩
        exact ⟨enabled.2.2.1, members⟩
      · cases taken
  | @accept result i rest after output pc branch possible effect =>
      obtain ⟨handling, -, -⟩ := routing.handling pc
      refine effect.routing handling possible ?_
      rintro fd rfl alone
      exact met.accepts fd rfl alone
  | datagram pc branch effect => exact absurd branch branch_server
  | @media io i rest after output pc branch possible effect =>
      obtain ⟨handling, watched, apart⟩ := routing.handling pc
      obtain ⟨media, fetching⟩ := routing.hears_media watched branch
      have running : s.Running := fun reason => by simp [pc]
      have absent := listens.facts.order.reading running (routing.media fetching).2.2
      exact effect.routing handling rfl apart media fetching listens.facts.sockets.file absent
  | @rtsp io i rest after output pc branch possible effect =>
      exact effect.routing routing listens pc branch possible fun moved =>
        met.fetches (step_mediafd taken moved)
  | rearmed pc free =>
      rw [ServerState.rearm, locked_free free]
      exact routing.leaves (.of_eq rfl rfl rfl rfl rfl rfl) (by simp)
  | rearmLocked pc owned => exact routing.leaves (.of_eq rfl rfl rfl rfl rfl rfl) (by simp)
  | filler effect =>
      obtain ⟨queue, lock, fillers, rfl, -⟩ := effect.only
      exact routing.stays (.of_eq rfl rfl rfl rfl rfl rfl) rfl

/-- A client which finds no other one is served. -/
theorem handleAccept_free {s : ServerState} {fd : Int} (free : s.streamclient.state = .noclient) :
    (s.handleAccept (.accepted fd)).1.mediafd = s.mediafd ∧
      (s.handleAccept (.accepted fd)).1.streamclient.rtspfd = fd ∧
      (s.handleAccept (.accepted fd)).1.Connected := by
  simp [ServerState.handleAccept, ServerState.Connected, ServerState.openFd, free]

/-- A step which does not keep the numbers apart sends some descriptor to the wrong branch. -/
theorem not_right_of_not_apart {url : List UInt8} {s after : ServerState} {input : Input}
    {output : List Output} (routing : Routing s)
    (taken : step .server url s input = .ok (after, output)) (right : RoutesRight .server after) :
    KeepsApart url s input := by
  constructor
  · rintro fd rfl alone rfl
    rw [step] at taken
    obtain ⟨i, rest, pc, -, -, same⟩ := dispatch_cases taken
    obtain ⟨mediafd, rtspfd, connected⟩ :=
      @handleAccept_free { s with pc := .dispatch rest } s.mediafd (not_not.mp alone)
    rw [← same] at mediafd rtspfd connected
    exact right.apart connected (mediafd.trans rtspfd.symm)
  · rintro starts ⟨response, source⟩
    obtain ⟨io, i, rest, request, connection, rfl, pc, -⟩ := id starts
    obtain ⟨free, stays⟩ := starts.moves taken
    obtain ⟨opened, watched⟩ := stays response source (routing.media ⟨response, source⟩).2.1
    -- The connection of the old download is taken for the client's.
    have media := branch_media (right.source _ response (Or.inl watched) opened).1
    rw [← media, source] at free
    cases free

/-! ## Runs -/

/-- In every run of `start_server` every descriptor reaches the branch it is for, at every point,
exactly when every step keeps the numbers apart. -/
theorem routesRight_iff_keepsApart {url : List UInt8}
    {trace : List (Entry ServerState Input Output)} {state : ServerState}
    (run : (machine .server url).Runs trace state) :
    Machine.Always (fun _ => RoutesRight .server) trace state ↔
      Machine.Throughout (fun _ => KeepsApart url) trace := by
  apply run.always_iff_throughout (fun _ => True) (fun _ s => ListenerOpen s ∧ Routing s) trivial
  · intro past output _
    trivial
  · intro start initial
    exact ⟨listenerOpen_initial initial, routing_initial initial⟩
  · rintro past before input after output - ⟨listens, routing⟩ taken right
    have met := not_right_of_not_apart routing taken right
    exact ⟨listenerOpen_kept listens taken, routing_kept routing listens met taken⟩
  · intro start initial
    exact (routing_initial initial).right initial.listenfd
  · rintro past before input after output - ⟨listens, routing⟩ - taken
    constructor
    · exact not_right_of_not_apart routing taken
    · intro met
      exact (routing_kept routing listens met taken).right (listenerOpen_kept listens taken).listener

/-- The download ends, the client goes, and the next one gets the number of the media connection. -/
def numberAgain : List Input :=
  connect 6 ++ describe 6 7 someResponse ++ media 7 someResponse someHeader ++ media 7 [] [7] ++
    [.ready [6], .rtsp (RtspIo.text []), .rearm someTime] ++ connect 7

/-- The script ends with a client whose number `mediafd` holds. -/
theorem numberAgain_runs : ∃ result,
    (machine .server someUrl).exec [] (startState .server) numberAgain = .ok result ∧
      result.2.streamclient.state = .cliconnected ∧
      result.2.mediafd = result.2.streamclient.rtspfd :=
  ⟨_, rfl, rfl, rfl⟩

/-- Such a client is in the wrong branch. -/
theorem not_routesRight {s : ServerState} (state : s.streamclient.state = .cliconnected)
    (same : s.mediafd = s.streamclient.rtspfd) : ¬ RoutesRight .server s := by
  intro right
  exact right.apart (by simp [ServerState.Connected, state]) same

/-- The next client gets another number. -/
def otherNumber : List Input :=
  connect 6 ++ describe 6 7 someResponse ++ media 7 someResponse someHeader ++ media 7 [] [7] ++
    [.ready [6], .rtsp (RtspIo.text []), .rearm someTime] ++ connect 8

/-- With another number every descriptor reaches the branch it is for; with this one the numbers are
not kept apart. -/
theorem routesRight_iff_keepsApart_otherNumber :
    (∃ result, (machine .server someUrl).exec [] (startState .server) otherNumber = .ok result ∧
      result.2.streamclient.rtspfd = 8 ∧ Machine.Throughout (fun _ => KeepsApart someUrl) result.1 ∧
      Machine.Always (fun _ => RoutesRight .server) result.1 result.2) ∧
    ∃ result, (machine .server someUrl).exec [] (startState .server) numberAgain = .ok result ∧
      ¬ Machine.Throughout (fun _ => KeepsApart someUrl) result.1 := by
  constructor
  · have computed : ∃ result,
        (machine .server someUrl).exec [] (startState .server) otherNumber = .ok result ∧
          result.2.streamclient.rtspfd = 8 ∧
          Machine.MeetsAll (fun _ => KeepsApart someUrl) [] result.1 :=
      ⟨_, rfl, rfl, by decide +kernel⟩
    obtain ⟨result, computed, client, apart⟩ := computed
    have run := Machine.Runs.of_exec (startState_initial .server someUrl) computed
    have throughout := Machine.throughout_of_meetsAll apart
    exact ⟨result, computed, client, throughout, (routesRight_iff_keepsApart run).mpr throughout⟩
  · obtain ⟨result, computed, state, same⟩ := numberAgain_runs
    have run := Machine.Runs.of_exec (startState_initial .server someUrl) computed
    refine ⟨result, computed, fun apart => ?_⟩
    exact not_routesRight state same ((routesRight_iff_keepsApart run).mpr apart).here

/-- A client can be taken for the media connection. -/
theorem routesRight_not_always : ¬ ∀ url trace state,
    (machine .server url).Runs trace state →
      Machine.Always (fun _ => RoutesRight .server) trace state := by
  intro all
  obtain ⟨result, computed, state, same⟩ := numberAgain_runs
  have run := Machine.Runs.of_exec (startState_initial .server someUrl) computed
  exact not_routesRight state same (all someUrl _ _ run).here

end Http2Rtsp.Server
