import Http2Rtsp.Server.MediaSockets
import Http2Rtsp.Server.SipCalls
import Http2Rtsp.Std.Pointers

/-!
# SIP clients in memory

`clientlist` holds pointers to clients which an INVITE allocates and a BYE or a
200 OK frees. The steps of the server follow the clients themselves; here
`malloc` and `free` are followed beside them, for any other steps in between.
The table, its counter, the descriptor set and the memory stay consistent.
-/

namespace Http2Rtsp.Server

open Http2Rtsp.Std Http2Rtsp.Message Http2Rtsp.Semantics

/-! ## Pointers -/

/-- The SIP clients where `malloc` put them, and the pointers of `clientlist`. -/
abbrev ClientHeap := Pointers (Fin maxClients) SIPClient

/-- The client of an INVITE is allocated and stored in the first free position. -/
def enterClient (heap : ClientHeap) (msg : SIPMsg) (rtpfd : Int) (address : Nat) : ClientHeap :=
  match (List.finRange maxClients).find? fun k => (heap.table k).isNone with
  | none => heap.assign address (invitedClient msg rtpfd)
  | some k => heap.enter k address (invitedClient msg rtpfd)

/-- The comparison of the call of a client with that of a message. -/
def callTest (msg : SIPMsg) (client : SIPClient) : Bool := client.callid = msg.callid

/-- What a message does with the clients. The address is what `malloc` returns. -/
def handleSipAt (heap : ClientHeap) (nclients : Int) (msg : SIPMsg) (io : DatagramIo)
    (address : Nat) : Option (ClientHeap × List MemoryEvent) :=
  match msg.type with
  | .invite =>
      if nclients < maxClients then
        match io.rtpfd with
        | .error _ => some (heap, [])
        | .ok rtpfd => some (enterClient heap msg rtpfd address, [.allocated address])
      else some (heap, [])
  | .ack => do
      match ← heap.search (callTest msg) (List.finRange maxClients) with
      | none => some (heap, [])
      | some (_, client, old) => some (heap.assign client (ackedClient old msg io.cliaddr), [])
  | .bye | .sipok => do
      match ← heap.search (callTest msg) (List.finRange maxClients) with
      | none => some (heap, [])
      | some (k, client, _) => some (heap.remove k client, [.freed client])

/-- What a step does with the clients. -/
def ServerState.stepAt (s : ServerState) (heap : ClientHeap) (input : Input) (address : Nat) :
    Option (ClientHeap × List MemoryEvent) :=
  match input with
  | .datagram io =>
      match s.sipmsg io with
      | none => some (heap, [])
      | some msg => handleSipAt heap s.sip.nclients msg io address
  | _ => some (heap, [])

/-- The server and the memory of its SIP clients. -/
structure SipServer where
  server : ServerState
  heap : ClientHeap

/-- Why there is no step. -/
inductive SipStop where
  | refused
  /-- A pointer leads nowhere. -/
  | dangling

/-- A step of both. `malloc` returns memory which is not in use. -/
def sipStep (url : List UInt8) (s : SipServer) (input : Input × Nat) :
    Except SipStop (SipServer × List MemoryEvent) :=
  match step .mt url s.server input.1 with
  | .error _ => .error .refused
  | .ok (server, _) =>
      if (s.heap.memory input.2).isSome then .error .refused else
        match s.server.stepAt s.heap input.1 input.2 with
        | none => .error .dangling
        | some (heap, events) => .ok (⟨server, heap⟩, events)

/-- `start_mt_server` with the memory of its SIP clients. -/
def sipMachine (url : List UInt8) : Machine SipServer (Input × Nat) MemoryEvent SipStop where
  Initial s := Initial .mt s.server ∧ (∀ address, s.heap.memory address = none) ∧
    ∀ k, s.heap.table k = none
  step := sipStep url

/-- The table, its counter, the descriptor set and the memory of the clients agree. -/
structure TableConsistent (past : List MemoryEvent) (s : SipServer) : Prop where
  /-- The clients behind the pointers are those the server works with. -/
  same : s.heap.view = s.server.sip.clientlist
  counted : s.server.sip.nclients = (Table.occupied s.heap.table).card
  bounded : s.server.sip.nclients ≤ maxClients
  apart : ∀ j k first second, s.heap.view j = some first → s.heap.view k = some second →
    first.sockfd = second.sockfd → j = k
  watched : ∀ fd, s.server.sip.sipmasterfds fd = true ↔
    ∃ k client, s.heap.view k = some client ∧ client.sockfd = fd
  stored : ∀ address ∈ liveAddresses past, ∃! k, s.heap.table k = some address
  valid : ∀ k address, s.heap.table k = some address → address ∈ liveAddresses past
  once : (liveAddresses past).Nodup ∧ FreesLive past

/-- No step of the server follows a pointer which leads nowhere. -/
def NeverDangles (url : List UInt8) (s : SipServer) : Prop :=
  ∀ input address after output, step .mt url s.server input = .ok (after, output) →
    s.heap.memory address = none → ∃ result, sipStep url s (input, address) = .ok result

/-! ## What a message does to both -/

section Message

variable {past : List MemoryEvent} {heap : ClientHeap} {s : ServerState} {msg : SIPMsg}

/-- The free positions are those without a client. -/
theorem find_free (owned : Pointers.Owned past heap) (same : heap.view = s.sip.clientlist) :
    s.sip.find Option.isNone =
      (List.finRange maxClients).find? fun k => (heap.table k).isNone := by
  refine congrArg (List.find? · _) (funext fun k => ?_)
  rw [← same]
  cases there : heap.table k with
  | none =>
      rw [owned.view_eq_none.mpr there]
      rfl
  | some address =>
      obtain ⟨client, -, seen⟩ := owned.follow there
      rw [seen]
      rfl

/-- The search for a call through the pointers is the search of the server. -/
theorem find_call_search (owned : Pointers.Owned past heap) (same : heap.view = s.sip.clientlist) :
    (heap.search (callTest msg) (List.finRange maxClients) = some none ∧
        s.sip.find (ofCall msg.callid) = none) ∨
      ∃ k address client,
        heap.search (callTest msg) (List.finRange maxClients) = some (some (k, address, client)) ∧
          heap.table k = some address ∧ s.sip.clientlist k = some client ∧
          s.sip.find (ofCall msg.callid) = some k := by
  have test : ∀ k, ofCall msg.callid (s.sip.clientlist k) = (heap.view k).any (callTest msg) := by
    intro k
    rw [← same]
    cases heap.view k <;> rfl
  rcases owned.search_eq (callTest msg) (List.finRange maxClients) with
    ⟨absent, fails⟩ | ⟨k, address, client, searched, there, here, found⟩
  · refine Or.inl ⟨absent, List.find?_eq_none.mpr fun k member => ?_⟩
    rw [test]
    cases seen : heap.view k with
    | none => simp
    | some client => simp [fails k member client seen]
  · refine Or.inr ⟨k, address, client, searched, there, ?_, ?_⟩
    · rw [← same]
      simp [Pointers.view, there, here]
    · rw [← found]
      exact congrArg (List.find? · _) (funext test)

/-- The two levels behind a message: its events keep the memory in order, and the clients behind the
pointers are those of the server. -/
def Matches (past : List MemoryEvent) (after : ServerState)
    (result : Option (ClientHeap × List MemoryEvent)) : Prop :=
  ∃ heap events, result = some (heap, events) ∧ Pointers.Owned (past ++ events) heap ∧
    heap.view = after.sip.clientlist

/-- A message which touches no client. -/
theorem Matches.unchanged {after : ServerState} (owned : Pointers.Owned past heap)
    (same : heap.view = after.sip.clientlist) : Matches past after (some (heap, [])) :=
  ⟨heap, [], rfl, by rwa [List.append_nil], same⟩

/-- An INVITE. -/
theorem invite_matches {io : DatagramIo} {address : Nat} (owned : Pointers.Owned past heap)
    (same : heap.view = s.sip.clientlist) (counts : TableCounts s)
    (new : heap.memory address = none) (type : msg.type = .invite) :
    Matches past (s.invite msg io).1 (handleSipAt heap s.sip.nclients msg io address) := by
  simp only [handleSipAt, type, ServerState.invite]
  by_cases room : s.sip.nclients < maxClients
  · rw [if_pos room, if_pos room]
    cases connected : io.rtpfd with
    | error reason => exact .unchanged owned same
    | ok rtpfd =>
        have place := counts.place room
        obtain ⟨k, found⟩ := Option.ne_none_iff_exists'.mp place
        have found' : (s.openFd rtpfd .udp).sip.find Option.isNone = some k := found
        have free : heap.view k = none := by
          rw [same]
          simpa using Sip.find_some found
        simp only [found']
        rw [find_free owned same] at found
        simp only [enterClient, found]
        refine ⟨_, _, rfl, owned.enter new (owned.view_eq_none.mp free), ?_⟩
        rw [owned.view_enter new, same]
        rfl
  · rw [if_neg room, if_neg room]
    exact .unchanged owned same

/-- An ACK. -/
theorem ack_matches {io : DatagramIo} {address : Nat} (owned : Pointers.Owned past heap)
    (same : heap.view = s.sip.clientlist) (type : msg.type = .ack) :
    Matches past (s.ack msg io).1 (handleSipAt heap s.sip.nclients msg io address) := by
  simp only [handleSipAt, type, ServerState.ack]
  rcases @find_call_search past heap s msg owned same with
    ⟨absent, unknown⟩ | ⟨k, client, old, searched, there, before, found⟩
  · simp only [absent, unknown, Option.bind_eq_bind, Option.bind_some]
    exact .unchanged owned same
  · simp only [searched, found, before, Option.bind_eq_bind, Option.bind_some, Option.map_some]
    refine ⟨_, _, rfl, by simpa using owned.assign there, ?_⟩
    rw [owned.view_assign there, same]
    rfl

/-- A BYE or a 200 OK. -/
theorem remove_matches {io : DatagramIo} {address : Nat} (owned : Pointers.Owned past heap)
    (same : heap.view = s.sip.clientlist) (type : msg.type = .bye ∨ msg.type = .sipok) :
    Matches past (s.removeClient msg) (handleSipAt heap s.sip.nclients msg io address) := by
  have branch : handleSipAt heap s.sip.nclients msg io address = (do
      match ← heap.search (callTest msg) (List.finRange maxClients) with
      | none => some (heap, [])
      | some (k, client, _) => some (heap.remove k client, [.freed client])) := by
    rcases type with bye | ok
    · simp only [handleSipAt, bye]
    · simp only [handleSipAt, ok]
  rw [branch, ServerState.removeClient]
  rcases @find_call_search past heap s msg owned same with
    ⟨absent, unknown⟩ | ⟨k, client, old, searched, there, before, found⟩
  · simp only [absent, unknown, Option.bind_eq_bind, Option.bind_some]
    exact .unchanged owned same
  · simp only [searched, found, before, Option.bind_eq_bind, Option.bind_some]
    refine ⟨_, _, rfl, owned.remove there, ?_⟩
    rw [owned.view_remove there, same]
    rfl

/-- Every message does to the clients in memory what it does to those of the server. -/
theorem handleSip_matches {io : DatagramIo} {address : Nat} (owned : Pointers.Owned past heap)
    (same : heap.view = s.sip.clientlist) (counts : TableCounts s)
    (new : heap.memory address = none) :
    Matches past (s.handleSip msg io).1 (handleSipAt heap s.sip.nclients msg io address) := by
  unfold ServerState.handleSip
  cases type : msg.type with
  | invite => exact invite_matches owned same counts new type
  | ack => exact ack_matches owned same type
  | bye => exact remove_matches owned same (Or.inl type)
  | sipok => exact remove_matches owned same (Or.inr type)

/-- A message which is not read touches no client. -/
theorem handleDatagram_unread {io : DatagramIo} (unread : s.sipmsg io = none) :
    (s.handleDatagram io).1.sip.clientlist = s.sip.clientlist := by
  unfold ServerState.handleDatagram
  dsimp only
  cases terminated : cString bufSize (s.sip.receive io.received) with
  | none => simp only [halt_eq]
  | some text =>
      simp only [ServerState.sipmsg, terminated, Option.bind_eq_bind, Option.bind_some] at unread
      cases parsed : parsesipmsg text with
      | error reason => simp only [parsed, halt_eq]
      | ok message =>
          rw [parsed] at unread
          cases unread

/-- One which is read is handled. -/
theorem handleDatagram_read {io : DatagramIo} (read : s.sipmsg io = some msg) :
    s.handleDatagram io = (s.buffered io).handleSip msg io := by
  unfold ServerState.handleDatagram
  dsimp only
  cases terminated : cString bufSize (s.sip.receive io.received) with
  | none =>
      simp only [ServerState.sipmsg, terminated, Option.bind_eq_bind, Option.bind_none] at read
      cases read
  | some text =>
      simp only [ServerState.sipmsg, terminated, Option.bind_eq_bind, Option.bind_some] at read
      cases parsed : parsesipmsg text with
      | error reason =>
          rw [parsed] at read
          cases read
      | ok message =>
          rw [parsed] at read
          obtain rfl := Option.some.inj read
          simp only [parsed]
          rfl

end Message

/-- Every step of the server does to the clients in memory what it does to its own. -/
theorem stepAt_matches {url : List UInt8} {past : List MemoryEvent} {heap : ClientHeap}
    {s after : ServerState} {input : Input} {output : List Output} {address : Nat}
    (owned : Pointers.Owned past heap) (same : heap.view = s.sip.clientlist)
    (counts : TableCounts s) (new : heap.memory address = none)
    (taken : step .mt url s input = .ok (after, output)) :
    Matches past after (s.stepAt heap input address) := by
  rcases step_sip taken with ⟨unchanged, other⟩ | ⟨io, i, rest, rfl, -, -, -, -⟩
  · have aside : s.stepAt heap input address = some (heap, []) := by
      cases input with
      | datagram io => exact absurd rfl (other io)
      | _ => rfl
    rw [aside]
    exact .unchanged owned (by rw [same, unchanged])
  · rw [step] at taken
    obtain ⟨i', rest', -, -, -, handled⟩ := dispatch_cases taken
    let s' : ServerState := { s with pc := .dispatch rest' }
    have message : s.sipmsg io = s'.sipmsg io := rfl
    have handled : (after, output) = s'.handleDatagram io := handled
    rw [show after = (s'.handleDatagram io).1 from congrArg Prod.fst handled]
    simp only [ServerState.stepAt, message]
    cases read : s'.sipmsg io with
    | none => exact .unchanged owned (same.trans (handleDatagram_unread read).symm)
    | some msg =>
        rw [handleDatagram_read read]
        exact @handleSip_matches past heap (s'.buffered io) msg io address owned same counts new

/-! ## The descriptor set -/

/-- The members of `sipmasterfds` are the sockets of the clients. -/
def Watches (s : ServerState) : Prop :=
  ∀ fd, s.sip.sipmasterfds fd = true ↔ Table.Has SIPClient.sockfd s.sip.clientlist fd

/-- Every message keeps the set in line with the clients. -/
theorem TableEffect.watches {s after : ServerState} {msg : SIPMsg} {io : DatagramIo}
    (effect : TableEffect s msg io after) (watches : Watches s)
    (apart : Table.Keyed SIPClient.sockfd s.sip.clientlist) (counts : TableCounts s) :
    Watches after := by
  cases effect with
  | full type full => exact watches
  | unconnected type failed => exact watches
  | homeless invites noPlace => exact absurd noPlace (counts.place invites.room)
  | @entered rtpfd k invites free =>
      intro fd
      simp only [Sip.setEntry]
      rw [Table.has_put_iff free, ← watches fd, fdSet, Function.update_apply]
      by_cases new : fd = rtpfd
      · simp [new, invitedClient]
      · simp [new, invitedClient, Ne.symm new]
  | unknown type absent => exact watches
  | @acked k client type there call =>
      intro fd
      simp only [Sip.setEntry]
      rw [watches fd]
      exact (@Table.has_change_iff _ _ _ _ SIPClient.sockfd _ k client
        (ackedClient client msg io.cliaddr) fd there rfl).symm
  | @removed k client type there call =>
      intro fd
      simp only [Sip.setEntry]
      rw [apart.has_clear_iff there, ← watches fd, fdClr, Function.update_apply]
      by_cases gone : fd = client.sockfd
      · simp [gone]
      · simp [gone]

theorem watches_kept {variant : Variant} {url : List UInt8} {s after : ServerState} {input : Input}
    {output : List Output} (watches : Watches s) (sockets : MediaSockets s) (counts : TableCounts s)
    (taken : step variant url s input = .ok (after, output)) : Watches after := by
  rcases step_sip taken with ⟨same, -⟩ | ⟨io, i, rest, -, -, -, -, effect⟩
  · rw [Watches, same]
    exact watches
  · cases effect with
    | unread unread => exact watches
    | read reads effect => exact effect.watches watches sockets.apart counts

/-! ## The invariant of a run -/

/-- The facts about the server and the memory of its clients. -/
structure HeapFacts (past : List MemoryEvent) (s : SipServer) : Prop where
  facts : SocketFacts s.server
  counts : TableCounts s.server
  watches : Watches s.server
  owned : Pointers.Owned past s.heap
  same : s.heap.view = s.server.sip.clientlist

theorem heapFacts_initial {url : List UInt8} {s : SipServer} (valid : (sipMachine url).Initial s) :
    HeapFacts [] s := by
  obtain ⟨initial, memory, table⟩ := valid
  have owned := Pointers.owned_empty memory table
  refine ⟨socketFacts_initial initial, tableCounts_initial initial, fun fd => ?_, owned, ?_⟩
  · refine iff_of_false (by simp [initial.sipmasterfds fd]) ?_
    rintro ⟨k, client, there, -⟩
    cases (initial.clientlist k).symm.trans there
  · funext k
    rw [initial.clientlist k, owned.view_eq_none]
    exact table k

/-- A step of the server is one of both, and keeps the facts. -/
theorem heapFacts_step {url : List UInt8} {past : List MemoryEvent} {s : SipServer}
    {after : ServerState} {input : Input} {output : List Output} {address : Nat}
    (known : HeapFacts past s) (new : s.heap.memory address = none)
    (taken : step .mt url s.server input = .ok (after, output)) :
    ∃ next events, sipStep url s (input, address) = .ok (next, events) ∧
      HeapFacts (past ++ events) next := by
  obtain ⟨heap, events, located, owned, same⟩ :=
    stepAt_matches known.owned known.same known.counts new taken
  refine ⟨⟨after, heap⟩, events, ?_, ?_⟩
  · simp [sipStep, taken, new, located]
  · exact ⟨socketFacts_kept known.facts taken, tableCounts_kept known.counts taken,
      watches_kept known.watches known.facts.sockets known.counts taken, owned, same⟩

theorem heapFacts_kept {url : List UInt8} {past events : List MemoryEvent} {s next : SipServer}
    {input : Input × Nat} (known : HeapFacts past s)
    (taken : sipStep url s input = .ok (next, events)) : HeapFacts (past ++ events) next := by
  obtain ⟨input, address⟩ := input
  cases served : step .mt url s.server input with
  | error reason => simp [sipStep, served] at taken
  | ok outcome =>
      have new : s.heap.memory address = none := by
        by_contra used
        have inUse : (s.heap.memory address).isSome = true := Option.isSome_iff_ne_none.mpr used
        simp [sipStep, served, inUse] at taken
      obtain ⟨next', events', computed, known'⟩ := heapFacts_step known new served
      obtain ⟨rfl, rfl⟩ := Prod.mk.inj (Except.ok.inj (computed.symm.trans taken))
      exact known'

/-- Everything agrees. -/
theorem HeapFacts.consistent {past : List MemoryEvent} {s : SipServer} (known : HeapFacts past s) :
    TableConsistent past s := by
  obtain ⟨facts, counts, watches, owned, same⟩ := known
  have places : Table.occupied s.heap.table = Table.occupied s.server.sip.clientlist := by
    ext k
    rw [Table.mem_occupied, Table.mem_occupied, ← same, Option.isSome_iff_ne_none,
      Option.isSome_iff_ne_none, ne_eq, ne_eq, owned.view_eq_none]
  refine ⟨same, by rw [places, counts], ?_, ?_, ?_, owned.stored, owned.valid,
    owned.distinct, owned.frees⟩
  · have most := Finset.card_le_univ (Table.occupied s.server.sip.clientlist)
    rw [Fintype.card_fin] at most
    unfold TableCounts at counts
    omega
  · rw [same]
    exact facts.sockets.apart
  · intro fd
    rw [same]
    exact watches fd

/-- At every point of every run of `start_mt_server` the table of SIP clients is consistent, and no
step follows a pointer which leads nowhere. -/
theorem tableConsistent_always {url : List UInt8}
    {trace : List (Entry SipServer (Input × Nat) MemoryEvent)} {state : SipServer}
    (run : (sipMachine url).Runs trace state) :
    Machine.Always (fun past s => TableConsistent past s ∧ NeverDangles url s) trace state := by
  have always : Machine.Always HeapFacts trace state := by
    apply run.always
    · intro start valid
      exact heapFacts_initial valid
    · intro past before input after output known taken
      exact heapFacts_kept known taken
  refine always.imp fun past s known => ⟨known.consistent, fun input address after output taken new => ?_⟩
  obtain ⟨next, events, computed, -⟩ := heapFacts_step known new taken
  exact ⟨_, computed⟩

/-- The server of the scripts, with no memory in use. -/
def startSipServer : SipServer := ⟨startState .mt, ⟨fun _ => none, fun _ => none⟩⟩

theorem startSipServer_initial (url : List UInt8) : (sipMachine url).Initial startSipServer :=
  ⟨startState_initial .mt url, fun _ => rfl, fun _ => rfl⟩

/-- A datagram is received, and memory for a client would be at this address. -/
def datagramAt (address : Nat) (io : DatagramIo) : List (Input × Nat) :=
  [(.ready [3], address), (.datagram io, address), (.rearm someTime, address + 1)]

/-- Two calls are made, the first ends, and a third takes its place in the table. -/
def threeCalls : List (Input × Nat) :=
  datagramAt 0 (callDatagram "INVITE" "1" 6) ++ datagramAt 1 (callDatagram "INVITE" "2" 7) ++
    datagramAt 2 (callDatagram "ACK" "2" 8) ++ datagramAt 2 (callDatagram "BYE" "1" 8) ++
    datagramAt 2 (callDatagram "INVITE" "3" 6)

/-- The table is consistent at every point of these calls. -/
theorem tableConsistent_always_threeCalls : ∃ result,
    (sipMachine someUrl).exec [] startSipServer threeCalls = .ok result ∧
      Machine.Always (fun past s => TableConsistent past s ∧ NeverDangles someUrl s)
        result.1 result.2 := by
  have computed : ∃ result,
      (sipMachine someUrl).exec [] startSipServer threeCalls = .ok result := ⟨_, rfl⟩
  obtain ⟨result, computed⟩ := computed
  exact ⟨result, computed, tableConsistent_always
    (Machine.Runs.of_exec (startSipServer_initial someUrl) computed)⟩

end Http2Rtsp.Server
