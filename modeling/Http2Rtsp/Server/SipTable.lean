import Http2Rtsp.Server.Behaviour
import Http2Rtsp.Std.Table

/-!
# The table of SIP clients

An INVITE is entered into the first free place of `clientlist`, whatever calls
are there already; an ACK, a BYE and a 200 OK act on the first entry of their
call only. The two agree as long as no INVITE comes for a call which has an
entry.
-/

namespace Http2Rtsp.Server

open Http2Rtsp.Std Http2Rtsp.Message Http2Rtsp.Semantics

/-! ## What a message does to the table -/

/-- What `find` finds passes the test. -/
theorem Sip.find_some {sip : Sip} {test : Option SIPClient → Bool} {k : Fin maxClients}
    (found : sip.find test = some k) : test (sip.clientlist k) = true := by
  have passes := List.find?_some found
  exact passes

/-- When it finds nothing, nothing passes. -/
theorem Sip.find_none {sip : Sip} {test : Option SIPClient → Bool} (absent : sip.find test = none)
    (k : Fin maxClients) : test (sip.clientlist k) = false := by
  have fails := List.find?_eq_none.mp absent k (List.mem_finRange k)
  simpa using fails

/-- The entry of a call. -/
theorem Sip.find_call {sip : Sip} {callid : List UInt8} {k : Fin maxClients}
    (found : sip.find (ofCall callid) = some k) :
    ∃ client, sip.clientlist k = some client ∧ client.callid = callid := by
  have test := Sip.find_some found
  cases entry : sip.clientlist k with
  | none =>
      rw [entry] at test
      cases test
  | some client =>
      rw [entry] at test
      exact ⟨client, rfl, of_decide_eq_true test⟩

/-- A call which is not found has no entry. -/
theorem Sip.find_no_call {sip : Sip} {callid : List UInt8} (absent : sip.find (ofCall callid) = none) :
    ¬ Table.Has SIPClient.callid sip.clientlist callid := by
  rintro ⟨k, client, entry, same⟩
  have test := Sip.find_none absent k
  rw [entry] at test
  exact of_decide_eq_false test same

/-- The client of an INVITE. -/
def invitedClient (msg : SIPMsg) (rtpfd : Int) : SIPClient where
  callid := msg.callid
  sockfd := rtpfd
  ackrecvd := false
  fromHeader := []
  toHeader := []
  cliaddr := ⟨0, 0⟩

/-- The client behind an ACK. -/
def ackedClient (client : SIPClient) (msg : SIPMsg) (cliaddr : SockAddr) : SIPClient :=
  { client with
    ackrecvd := true
    fromHeader := msg.fromHeader
    toHeader := msg.toHeader
    cliaddr := cliaddr }

/-- An INVITE which is answered and gets a socket. -/
structure Invites (s : ServerState) (msg : SIPMsg) (io : DatagramIo) (rtpfd : Int) : Prop where
  type : msg.type = .invite
  room : s.sip.nclients < maxClients
  connected : io.rtpfd = .ok rtpfd

/-- The outcomes of a message, as far as the table and the descriptors are concerned. -/
inductive TableEffect (s : ServerState) (msg : SIPMsg) (io : DatagramIo) : ServerState → Prop where
  | full (type : msg.type = .invite) (full : ¬ s.sip.nclients < maxClients) :
      TableEffect s msg io s
  | unconnected {reason} (type : msg.type = .invite) (failed : io.rtpfd = .error reason) :
      TableEffect s msg io { s with pc := .halted reason }
  | homeless {rtpfd} (invites : Invites s msg io rtpfd)
      (noPlace : s.sip.find Option.isNone = none) : TableEffect s msg io (s.openFd rtpfd .udp)
  | entered {rtpfd k} (invites : Invites s msg io rtpfd) (free : s.sip.clientlist k = none) :
      TableEffect s msg io
        { s.openFd rtpfd .udp with sip := { s.sip.setEntry k (some (invitedClient msg rtpfd)) with
            sipmasterfds := fdSet s.sip.sipmasterfds rtpfd
            nclients := s.sip.nclients + 1 } }
  | unknown (type : msg.type ≠ .invite) (absent : s.sip.find (ofCall msg.callid) = none) :
      TableEffect s msg io s
  | acked {k client} (type : msg.type = .ack) (there : s.sip.clientlist k = some client)
      (call : client.callid = msg.callid) :
      TableEffect s msg io
        { s with sip := s.sip.setEntry k (some (ackedClient client msg io.cliaddr)) }
  | removed {k client} (type : msg.type = .bye ∨ msg.type = .sipok)
      (there : s.sip.clientlist k = some client) (call : client.callid = msg.callid) :
      TableEffect s msg io
        { s.close client.sockfd with sip := { s.sip.setEntry k none with
            sipmasterfds := fdClr s.sip.sipmasterfds client.sockfd
            nclients := s.sip.nclients - 1 } }

theorem removeClient_cases {s : ServerState} {msg : SIPMsg} (io : DatagramIo)
    (type : msg.type = .bye ∨ msg.type = .sipok) : TableEffect s msg io (s.removeClient msg) := by
  unfold ServerState.removeClient
  cases found : s.sip.find (ofCall msg.callid) with
  | none =>
      refine .unknown (fun invite => ?_) found
      rcases type with bye | ok
      · exact nomatch bye.symm.trans invite
      · exact nomatch ok.symm.trans invite
  | some k =>
      obtain ⟨client, there, call⟩ := Sip.find_call found
      simp only [there]
      exact .removed type there call

theorem handleSip_table (s : ServerState) (msg : SIPMsg) (io : DatagramIo) :
    TableEffect s msg io (s.handleSip msg io).1 := by
  unfold ServerState.handleSip
  cases type : msg.type with
  | invite =>
      unfold ServerState.invite
      by_cases room : s.sip.nclients < maxClients
      · rw [if_pos room]
        cases connected : io.rtpfd with
        | error reason =>
            simp only [halt_eq]
            exact .unconnected type connected
        | ok rtpfd =>
            cases found : s.sip.find Option.isNone with
            | none =>
                have same : (s.openFd rtpfd .udp).sip.find Option.isNone = none := found
                simp only [same]
                exact .homeless ⟨type, room, connected⟩ found
            | some k =>
                have same : (s.openFd rtpfd .udp).sip.find Option.isNone = some k := found
                simp only [same]
                exact .entered ⟨type, room, connected⟩ (by simpa using Sip.find_some found)
      · rw [if_neg room]
        exact .full type room
  | ack =>
      unfold ServerState.ack
      cases found : s.sip.find (ofCall msg.callid) with
      | none => exact .unknown (fun invite => nomatch type.symm.trans invite) found
      | some k =>
          obtain ⟨client, there, call⟩ := Sip.find_call found
          simp only [there, Option.map_some]
          exact .acked type there call
  | bye => exact removeClient_cases io (Or.inl type)
  | sipok => exact removeClient_cases io (Or.inr type)

/-! ## What a step does to the table -/

/-- The message which is read from a datagram. -/
def ServerState.Reads (s : ServerState) (io : DatagramIo) (msg : SIPMsg) : Prop :=
  ∃ text result, cString bufSize (s.sip.receive io.received) = some text ∧
    parsesipmsg text = .ok (result, msg)

/-- Only one message is read from a datagram. -/
theorem ServerState.Reads.unique {s : ServerState} {io : DatagramIo} {first second : SIPMsg}
    (one : s.Reads io first) (other : s.Reads io second) : first = second := by
  obtain ⟨text, result, terminated, parsed⟩ := one
  obtain ⟨text', result', terminated', parsed'⟩ := other
  obtain rfl := Option.some.inj (terminated.symm.trans terminated')
  exact (Prod.mk.inj (Except.ok.inj (parsed.symm.trans parsed'))).2

/-- The message of a datagram, if it can be read. -/
def ServerState.sipmsg (s : ServerState) (io : DatagramIo) : Option SIPMsg := do
  let text ← cString bufSize (s.sip.receive io.received)
  match parsesipmsg text with
  | .error _ => none
  | .ok (_, msg) => some msg

theorem reads_iff_sipmsg {s : ServerState} {io : DatagramIo} {msg : SIPMsg} :
    s.Reads io msg ↔ s.sipmsg io = some msg := by
  constructor
  · rintro ⟨text, result, terminated, parsed⟩
    simp only [ServerState.sipmsg, terminated, Option.bind_eq_bind, Option.bind_some, parsed]
  · intro read
    unfold ServerState.sipmsg at read
    obtain ⟨text, terminated, parsed⟩ := Option.bind_eq_some_iff.mp read
    cases known : parsesipmsg text with
    | error reason =>
        rw [known] at parsed
        cases parsed
    | ok result =>
        rw [known] at parsed
        obtain rfl := Option.some.inj parsed
        exact ⟨text, result.1, terminated, known⟩

/-- The datagram is in the buffer. -/
def ServerState.buffered (s : ServerState) (io : DatagramIo) : ServerState :=
  { s with sip := { s.sip with sipInbuf := s.sip.receive io.received } }

/-- The outcomes of a datagram. -/
inductive DatagramEffect (s : ServerState) (io : DatagramIo) : ServerState → Prop where
  | unread {reason} (unread : ∀ msg, ¬ s.Reads io msg) :
      DatagramEffect s io { s.buffered io with pc := .halted reason }
  | read {msg after} (reads : s.Reads io msg) (effect : TableEffect (s.buffered io) msg io after) :
      DatagramEffect s io after

theorem handleDatagram_table (s : ServerState) (io : DatagramIo) :
    DatagramEffect s io (s.handleDatagram io).1 := by
  unfold ServerState.handleDatagram
  dsimp only
  cases terminated : cString bufSize (s.sip.receive io.received) with
  | none =>
      simp only [halt_eq]
      refine .unread fun msg ⟨text, result, found, _⟩ => ?_
      cases terminated.symm.trans found
  | some text =>
      cases parsed : parsesipmsg text with
      | error reason =>
          simp only [parsed, halt_eq]
          refine .unread fun msg ⟨text', result, found, read⟩ => ?_
          obtain rfl := Option.some.inj (terminated.symm.trans found)
          cases parsed.symm.trans read
      | ok message =>
          obtain ⟨result, msg⟩ := message
          simp only [parsed]
          exact .read ⟨text, result, terminated, parsed⟩ (handleSip_table (s.buffered io) msg io)

theorem RtspEffect.sip {variant : Variant} {s after : ServerState} {i : Int} {io : RtspIo}
    {output : List Output} (effect : RtspEffect variant s i io after output) : after.sip = s.sip := by
  have received : ∀ {middle prior}, ReceiveEffect s i io.received middle prior →
      middle.sip = s.sip := by
    intro middle prior receive
    cases receive <;> rfl
  cases effect with
  | failed reason unread => rfl
  | teardown receive type effect =>
      rw [← received receive]
      cases effect <;> rfl
  | switched receive type effect =>
      rw [← received receive]
      cases effect with
      | @setup rtp rtcp session text state type sockets =>
          obtain ⟨kernel, opened⟩ := openUdp_eq _ rtp rtcp
          rw [opened]
      | _ => rfl

theorem MediaEffect.sip {s after : ServerState} {i : Int} {io : MediaIo} {output : List Output}
    (effect : MediaEffect s i io after output) : after.sip = s.sip := by
  obtain ⟨kernel, masterfds, stored⟩ := storeMedia_eq s i io
  cases effect with
  | completed recvtcp opened last effect =>
      rw [stored] at effect
      cases effect <;> rfl
  | stored recvtcp opened more => rw [stored]
  | _ => rfl

/-- Only a datagram changes the variables of the SIP side. -/
theorem step_sip {variant : Variant} {url : List UInt8} {s after : ServerState} {input : Input}
    {output : List Output} (taken : step variant url s input = .ok (after, output)) :
    (after.sip = s.sip ∧ ∀ io, input ≠ .datagram io) ∨
      ∃ io i rest, input = .datagram io ∧ s.pc = .dispatch (i :: rest) ∧
        s.branch variant i = .sip ∧ io.possible s = true ∧
        DatagramEffect { s with pc := .dispatch rest } io after := by
  cases step_cases taken with
  | datagram pc branch effect =>
      rename_i io i rest
      rw [step] at taken
      obtain ⟨i', rest', pc', branch', possible, handled⟩ := dispatch_cases taken
      have table := handleDatagram_table { s with pc := .dispatch rest' } io
      rw [← handled] at table
      exact Or.inr ⟨io, i', rest', rfl, pc', branch', possible, table⟩
  | timeout pc set effect =>
      refine Or.inl ⟨?_, fun _ same => by cases same⟩
      cases effect with
      | handled free queued effect => cases effect <;> rfl
      | _ => rfl
  | accept pc branch possible effect =>
      refine Or.inl ⟨?_, fun _ same => by cases same⟩
      cases effect <;> rfl
  | media pc branch possible effect => exact Or.inl ⟨effect.sip, fun _ same => by cases same⟩
  | rtsp pc branch possible effect => exact Or.inl ⟨effect.sip, fun _ same => by cases same⟩
  | rearmed pc free =>
      rw [ServerState.rearm, locked_free free]
      exact Or.inl ⟨rfl, fun _ same => by cases same⟩
  | filler effect =>
      obtain ⟨queue, lock, fillers, rfl, -⟩ := effect.only
      exact Or.inl ⟨rfl, fun _ same => by cases same⟩
  | _ => exact Or.inl ⟨rfl, fun _ same => by cases same⟩

end Http2Rtsp.Server
