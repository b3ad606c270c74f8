import Http2Rtsp.Server.Descriptors

/-!
# The sockets for media

Every socket media is sent to, of the RTSP client or of a SIP client, stays open
under its own number until its owner closes it. So no two SIP clients share a
socket, whatever else is opened and closed.
-/

namespace Http2Rtsp.Server

open Http2Rtsp.Std Http2Rtsp.Message Http2Rtsp.Pacing Http2Rtsp.Semantics

/-- The sockets for media are open, and no two SIP clients share one. The media file is open until
the download is over. -/
structure MediaSockets (s : ServerState) : Prop where
  calls : ∀ k client, s.sip.clientlist k = some client →
    0 ≤ client.sockfd ∧ s.kernel client.sockfd = some .udp
  apart : Table.Keyed SIPClient.sockfd s.sip.clientlist
  client : SocketsOpen s
  separate : ∀ k client, s.sip.clientlist k = some client →
    client.sockfd ∉ clientSockets s.streamclient
  valid : 0 ≤ s.videofd
  file : s.download.mediaDownloaded = false → s.kernel s.videofd = some .file

theorem mediaSockets_initial {variant : Variant} {s : ServerState} (initial : Initial variant s) :
    MediaSockets s where
  calls k client there := by
    rw [initial.clientlist k] at there
    cases there
  apart := Table.keyed_empty initial.clientlist
  client fd member := by
    rw [initial.streamclient] at member
    simp [clientSockets, initClient] at member
    exact Or.inl member
  separate k client there := by
    rw [initial.clientlist k] at there
    cases there
  valid := by
    by_contra negative
    have absent := initial.negative s.videofd (by omega)
    cases absent.symm.trans initial.videofd
  file _ := initial.videofd

/-- A socket for media stays open unless its owner closes it. -/
theorem udp_kept {variant : Variant} {url : List UInt8} {s after : ServerState} {input : Input}
    {output : List Output} (order : DownloadOrder s) (sockets : MediaSockets s)
    (taken : step variant url s input = .ok (after, output)) {fd : Int}
    (udp : s.kernel fd = some .udp) :
    after.kernel fd = some .udp ∨
      (fd ∈ clientSockets s.streamclient ∧ after.streamclient = initClient) ∨
      ∃ k client, s.sip.clientlist k = some client ∧ fd = client.sockfd ∧
        after.sip.clientlist = Function.update s.sip.clientlist k none := by
  rcases step_kernel order taken fd with same | touched
  · exact Or.inl (same.trans udp)
  · cases touched with
    | opened free => cases free.symm.trans udp
    | heard pc known stream =>
        obtain rfl := Option.some.inj (known.symm.trans udp)
        exact stream.elim
    | file videofd absent done =>
        subst videofd
        cases (sockets.file absent).symm.trans udp
    | socket member reset => exact Or.inr (Or.inl ⟨member, reset⟩)
    | @call k client there sockfd removed => exact Or.inr (Or.inr ⟨k, client, there, sockfd, removed⟩)

/-- What no step changes. -/
theorem step_constants {variant : Variant} {url : List UInt8} {s after : ServerState}
    {input : Input} {output : List Output} (taken : step variant url s input = .ok (after, output)) :
    after.videofd = s.videofd ∧ after.listenfd = s.listenfd := by
  have received : ∀ {s middle : ServerState} {i : Int} {bytes : List UInt8} {prior : List Output},
      ReceiveEffect s i bytes middle prior →
        middle.videofd = s.videofd ∧ middle.listenfd = s.listenfd := by
    intro s middle i bytes prior receive
    cases receive <;> exact ⟨rfl, rfl⟩
  cases step_cases taken with
  | timeout pc set effect =>
      cases effect with
      | handled free queued effect => cases effect <;> exact ⟨rfl, rfl⟩
      | _ => exact ⟨rfl, rfl⟩
  | accept pc branch possible effect => cases effect <;> exact ⟨rfl, rfl⟩
  | datagram pc branch effect =>
      cases effect
      exact ⟨rfl, rfl⟩
  | @media io i rest after output pc branch possible effect =>
      obtain ⟨kernel, masterfds, stored⟩ := storeMedia_eq { s with pc := .dispatch rest } i io
      cases effect with
      | stored recvtcp opened more =>
          rw [stored]
          exact ⟨rfl, rfl⟩
      | completed recvtcp opened last effect =>
          rw [stored] at effect
          cases effect <;> exact ⟨rfl, rfl⟩
      | _ => exact ⟨rfl, rfl⟩
  | rtsp pc branch possible effect =>
      cases effect with
      | failed reason unread => exact ⟨rfl, rfl⟩
      | teardown receive type effect =>
          obtain ⟨videofd, listenfd⟩ := received receive
          cases effect <;> exact ⟨videofd, listenfd⟩
      | switched receive type effect =>
          obtain ⟨videofd, listenfd⟩ := received receive
          cases effect with
          | @setup rtp rtcp session text state type opened =>
              obtain ⟨kernel, same⟩ := openUdp_eq _ rtp rtcp
              rw [same]
              exact ⟨videofd, listenfd⟩
          | _ => exact ⟨videofd, listenfd⟩
  | rearmed pc free =>
      rw [ServerState.rearm, locked_free free]
      exact ⟨rfl, rfl⟩
  | filler effect =>
      obtain ⟨queue, lock, fillers, rfl, -⟩ := effect.only
      exact ⟨rfl, rfl⟩
  | _ => exact ⟨rfl, rfl⟩

/-- The sockets of a client come from its SETUPs. -/
theorem SwitchEffect.clientSockets {variant : Variant} {before s after : ServerState} {i : Int}
    {io : RtspIo} {output : List Output} (effect : SwitchEffect variant s i io after output)
    (sockets : ∀ rtp rtcp, io.sockets = .ok (rtp, rtcp) →
      (rtp = -1 ∨ before.Fresh rtp) ∧ (rtcp = -1 ∨ before.Fresh rtcp)) {fd : Int}
    (member : fd ∈ clientSockets after.streamclient) :
    fd = -1 ∨ fd ∈ clientSockets s.streamclient ∨
      (before.Fresh fd ∧ after.kernel fd = some .udp) := by
  cases effect with
  | @setup rtp rtcp session text state type opened =>
      obtain ⟨freeRtp, freeRtcp⟩ := sockets rtp rtcp opened
      rcases mem_setupClient member with old | rfl | rfl
      · exact Or.inr (Or.inl old)
      · refine freeRtp.imp_right fun fresh => Or.inr ⟨fresh, ?_⟩
        simp [openUdp_kernel, fresh.1]
      · refine freeRtcp.imp_right fun fresh => Or.inr ⟨fresh, ?_⟩
        simp [openUdp_kernel, fresh.1]
  | _ => exact Or.inr (Or.inl member)

/-- A step adds no sockets to the client but fresh ones, and a datagram none. -/
theorem step_sockets {variant : Variant} {url : List UInt8} {s after : ServerState} {input : Input}
    {output : List Output} (taken : step variant url s input = .ok (after, output)) {fd : Int}
    (member : fd ∈ clientSockets after.streamclient) :
    fd = -1 ∨ fd ∈ clientSockets s.streamclient ∨
      (s.kernel fd = none ∧ after.kernel fd = some .udp ∧ ∀ io, input ≠ .datagram io) := by
  cases step_cases taken with
  | timeout pc set effect =>
      cases effect with
      | handled free queued effect => cases effect <;> exact Or.inr (Or.inl member)
      | _ => exact Or.inr (Or.inl member)
  | accept pc branch possible effect => cases effect <;> exact Or.inr (Or.inl member)
  | datagram pc branch effect =>
      cases effect
      exact Or.inr (Or.inl member)
  | @media io i rest after output pc branch possible effect =>
      obtain ⟨kernel, masterfds, stored⟩ := storeMedia_eq { s with pc := .dispatch rest } i io
      refine Or.inr (Or.inl ?_)
      cases effect with
      | stored recvtcp opened more =>
          rw [stored] at member
          exact member
      | completed recvtcp opened last effect =>
          rw [stored] at effect
          cases effect <;> exact member
      | _ => exact member
  | @rtsp io i rest after output pc branch possible effect =>
      obtain ⟨receives, fetch, sockets⟩ := RtspIo.possible_iff possible
      have received : ∀ {middle prior},
          ReceiveEffect { s with pc := .dispatch rest } i io.received middle prior →
            clientSockets middle.streamclient = clientSockets s.streamclient := by
        intro middle prior receive
        cases receive <;> rfl
      cases effect with
      | failed reason unread => exact Or.inr (Or.inl member)
      | teardown receive type effect =>
          cases effect with
          | locked taken => exact Or.inr (Or.inl (received receive ▸ member))
          | dangling free dead => exact Or.inr (Or.inl (received receive ▸ member))
          | done free armed =>
              simp only [ServerState.tearDown, clientSockets, initClient, List.mem_cons,
                List.not_mem_nil, or_false, or_self] at member
              exact Or.inl member
      | @switched middle _ _ _ receive type effect =>
          rcases effect.clientSockets sockets member with failed | old | ⟨new, udp⟩
          · exact Or.inl failed
          · exact Or.inr (Or.inl (received receive ▸ old))
          · exact Or.inr (Or.inr ⟨new.2, udp, fun _ same => by cases same⟩)
  | rearmed pc free =>
      rw [ServerState.rearm, locked_free free] at member
      exact Or.inr (Or.inl member)
  | filler effect =>
      obtain ⟨queue, lock, fillers, rfl, -⟩ := effect.only
      exact Or.inr (Or.inl member)
  | _ => exact Or.inr (Or.inl member)

/-- The download is never undone. -/
theorem step_absent {variant : Variant} {url : List UInt8} {s after : ServerState} {input : Input}
    {output : List Output} (taken : step variant url s input = .ok (after, output))
    (absent : after.download.mediaDownloaded = false) : s.download.mediaDownloaded = false := by
  cases step_download taken with
  | same download => exact download ▸ absent
  | header reading state downloaded => exact downloaded ▸ absent
  | stored reading state downloaded => exact downloaded ▸ absent
  | completed running reading downloaded => cases absent.symm.trans downloaded
  | described present state downloaded => cases absent.symm.trans downloaded
  | fetched before => exact before

/-- Where an entry of the table comes from: it was there with its socket, or its socket is new. -/
theorem step_entry {variant : Variant} {url : List UInt8} {s after : ServerState} {input : Input}
    {output : List Output} (taken : step variant url s input = .ok (after, output))
    {k : Fin maxClients} {client : SIPClient} (there : after.sip.clientlist k = some client) :
    (∃ old, s.sip.clientlist k = some old ∧ old.sockfd = client.sockfd) ∨
      (s.Fresh client.sockfd ∧ after.kernel client.sockfd = some .udp ∧
        after.streamclient = s.streamclient) := by
  rcases step_sip taken with ⟨same, -⟩ | ⟨io, i, rest, -, -, -, possible, effect⟩
  · exact Or.inl ⟨client, same ▸ there, rfl⟩
  · cases effect with
    | unread unread => exact Or.inl ⟨client, there, rfl⟩
    | read reads effect =>
        cases effect with
        | full type full => exact Or.inl ⟨client, there, rfl⟩
        | unconnected type failed => exact Or.inl ⟨client, there, rfl⟩
        | homeless invites noPlace => exact Or.inl ⟨client, there, rfl⟩
        | unknown type absent => exact Or.inl ⟨client, there, rfl⟩
        | @entered rtpfd j invites free =>
            rcases Table.update_eq_some there with ⟨-, new⟩ | ⟨-, old⟩
            · obtain rfl := Option.some.inj new
              refine Or.inr ⟨?_, by simp [invitedClient, ServerState.openFd], rfl⟩
              simp only [DatagramIo.possible, invites.connected, Bool.and_eq_true,
                decide_eq_true_eq] at possible
              exact possible.2
            · exact Or.inl ⟨client, old, rfl⟩
        | @acked j old type before call =>
            rcases Table.update_eq_some there with ⟨rfl, new⟩ | ⟨-, old⟩
            · obtain rfl := Option.some.inj new
              exact Or.inl ⟨old, before, rfl⟩
            · exact Or.inl ⟨client, old, rfl⟩
        | removed type before call =>
            rcases Table.update_eq_some there with ⟨-, new⟩ | ⟨-, old⟩
            · cases new
            · exact Or.inl ⟨client, old, rfl⟩

/-- No two clients come to share a socket. -/
theorem MediaSockets.apart_kept {variant : Variant} {url : List UInt8} {s after : ServerState}
    {input : Input} {output : List Output} (sockets : MediaSockets s)
    (taken : step variant url s input = .ok (after, output)) :
    Table.Keyed SIPClient.sockfd after.sip.clientlist := by
  rcases step_sip taken with ⟨same, -⟩ | ⟨io, i, rest, -, -, -, possible, effect⟩
  · rw [same]
    exact sockets.apart
  · cases effect with
    | unread unread => exact sockets.apart
    | read reads effect =>
        cases effect with
        | full type full => exact sockets.apart
        | unconnected type failed => exact sockets.apart
        | homeless invites noPlace => exact sockets.apart
        | unknown type absent => exact sockets.apart
        | @entered rtpfd k invites free =>
            refine (Table.keyed_put_iff sockets.apart free).mpr ?_
            rintro ⟨j, other, there, same⟩
            simp only [DatagramIo.possible, invites.connected, Bool.and_eq_true,
              decide_eq_true_eq] at possible
            have udp := (sockets.calls j other there).2
            rw [same] at udp
            cases possible.2.2.symm.trans udp
        | acked type there call => exact sockets.apart.change there rfl
        | removed type there call => exact sockets.apart.clear

/-- The sockets for media stay as they are. -/
theorem mediaSockets_kept {variant : Variant} {url : List UInt8} {s after : ServerState}
    {input : Input} {output : List Output} (order : DownloadOrder s) (sockets : MediaSockets s)
    (taken : step variant url s input = .ok (after, output)) : MediaSockets after where
  calls k client there := by
    rcases step_entry taken there with ⟨old, before, same⟩ | ⟨fresh, udp, -⟩
    · obtain ⟨valid, open_⟩ := sockets.calls k old before
      rw [same] at valid open_
      refine ⟨valid, ?_⟩
      rcases udp_kept order sockets taken open_ with kept | ⟨member, -⟩ | ⟨j, other, at_, shared, gone⟩
      · exact kept
      · exact absurd (same ▸ member) (sockets.separate k old before)
      · -- The entry whose socket was closed is this one, and it is gone.
        have here := sockets.apart k j old other before at_ (same.trans shared)
        rw [gone, here, Function.update_self] at there
        cases there
    · exact ⟨fresh.1, udp⟩
  apart := sockets.apart_kept taken
  client fd member := by
    rcases step_sockets taken member with failed | old | ⟨-, udp, -⟩
    · exact Or.inl failed
    · refine (sockets.client fd old).elim Or.inl fun udp => ?_
      rcases udp_kept order sockets taken udp with kept | ⟨-, reset⟩ | ⟨k, client, there, shared, -⟩
      · exact Or.inr kept
      · rw [reset] at member
        simp only [clientSockets, initClient, List.mem_cons, List.not_mem_nil, or_false,
          or_self] at member
        exact Or.inl member
      · exact absurd (shared ▸ old) (sockets.separate k client there)
    · exact Or.inr udp
  separate k client there member := by
    rcases step_entry taken there with ⟨old, before, same⟩ | ⟨fresh, -, unchanged⟩
    · obtain ⟨valid, open_⟩ := sockets.calls k old before
      rw [same] at valid open_
      rcases step_sockets taken member with failed | socket | ⟨free, -, -⟩
      · omega
      · exact sockets.separate k old before (same ▸ socket)
      · cases free.symm.trans open_
    · rw [unchanged] at member
      rcases sockets.client _ member with failed | open_
      · have valid := fresh.1
        omega
      · cases fresh.2.symm.trans open_
  valid := by
    rw [(step_constants taken).1]
    exact sockets.valid
  file absent := by
    have file := sockets.file (step_absent taken absent)
    rw [(step_constants taken).1]
    rcases step_kernel order taken s.videofd with same | touched
    · exact same.trans file
    · cases touched with
      | opened free => cases free.symm.trans file
      | heard pc known stream =>
          obtain rfl := Option.some.inj (known.symm.trans file)
          exact stream.elim
      | file videofd before done => cases absent.symm.trans done
      | socket member reset =>
          rcases sockets.client _ member with failed | udp
          · have valid := sockets.valid
            omega
          · cases udp.symm.trans file
      | @call k client there sockfd removed =>
          have udp := (sockets.calls k client there).2
          rw [← sockfd] at udp
          cases udp.symm.trans file

/-- The two invariants together. -/
structure SocketFacts (s : ServerState) : Prop where
  order : DownloadOrder s
  sockets : MediaSockets s

theorem socketFacts_initial {variant : Variant} {s : ServerState} (initial : Initial variant s) :
    SocketFacts s :=
  ⟨downloadOrder_initial initial, mediaSockets_initial initial⟩

theorem socketFacts_kept {variant : Variant} {url : List UInt8} {s after : ServerState}
    {input : Input} {output : List Output} (facts : SocketFacts s)
    (taken : step variant url s input = .ok (after, output)) : SocketFacts after :=
  ⟨downloadOrder_kept facts.order taken, mediaSockets_kept facts.order facts.sockets taken⟩

end Http2Rtsp.Server
