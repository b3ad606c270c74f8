import Http2Rtsp.Server.Behaviour

/-!
# Unsupported datagrams

A datagram which `parsesipmsg` rejects, or in which it finds no header block,
leaves a zeroed message, and a zeroed message is an INVITE. What keeps such a
datagram from being answered is a full table of clients, and nothing else.

The receive buffer may hold more than the datagram: bytes of an earlier one, from
`BUFLEN` on, can complete the header block of a datagram which reaches them.
-/

namespace Http2Rtsp.Server

open Http2Rtsp.Std Http2Rtsp.Message Http2Rtsp.Semantics

/-- The first line begins with no supported type, or there is no complete header block. -/
def UnsupportedDatagram (received : List UInt8) : Prop :=
  sipMessageType received = none ∨ ¬ crlfcrlf <:+: received

/-- The server goes on, its table of clients is as it was, and no 200 OK is sent. -/
structure SipUnchanged (s after : ServerState) (output : List Output) : Prop where
  running : after.Running
  clientlist : after.sip.clientlist = s.sip.clientlist
  nclients : after.sip.nclients = s.sip.nclients
  sipmasterfds : after.sip.sipmasterfds = s.sip.sipmasterfds
  silent : ∀ text size cliaddr, .okSent text size cliaddr ∉ output

/-- Only the table of the state before matters. -/
theorem sipUnchanged_congr {s s' after : ServerState} {output : List Output}
    (clientlist : s'.sip.clientlist = s.sip.clientlist) (nclients : s'.sip.nclients = s.sip.nclients)
    (sipmasterfds : s'.sip.sipmasterfds = s.sip.sipmasterfds) :
    SipUnchanged s after output ↔ SipUnchanged s' after output := by
  constructor
  · rintro ⟨running, list, count, fds, silent⟩
    exact ⟨running, list.trans clientlist.symm, count.trans nclients.symm,
      fds.trans sipmasterfds.symm, silent⟩
  · rintro ⟨running, list, count, fds, silent⟩
    exact ⟨running, list.trans clientlist, count.trans nclients, fds.trans sipmasterfds, silent⟩

/-- A message the dispatcher does nothing about: an INVITE when the table is full, an ACK which is
known already or belongs to no call, a 200 OK which belongs to no call. -/
def Sip.Ignores (sip : Sip) (msg : SIPMsg) (cliaddr : SockAddr) : Prop :=
  match msg.type with
  | .invite => (maxClients : Int) ≤ sip.nclients
  | .ack => ∀ k client, sip.find (ofCall msg.callid) = some k → sip.clientlist k = some client →
      client.ackrecvd = true ∧ client.fromHeader = msg.fromHeader ∧
        client.toHeader = msg.toHeader ∧ client.cliaddr = cliaddr
  | .bye => False
  | .sipok => sip.find (ofCall msg.callid) = none

/-- An unsupported datagram is harmless: the buffer is terminated, and the table is full. When what
is left in the buffer completes the header block of a supported message, the dispatcher ignores
that message instead. -/
def HarmlessDatagram (s : ServerState) (io : DatagramIo) : Prop :=
  ∃ text, cString bufSize (s.sip.receive io.received) = some text ∧
    ((sipMessageType io.received = none ∨ ¬ crlfcrlf <:+: text) →
      (maxClients : Int) ≤ s.sip.nclients) ∧
    (sipMessageType io.received ≠ none ∧ crlfcrlf <:+: text →
      ∃ result msg, parsesipmsg text = .ok (result, msg) ∧ s.sip.Ignores msg io.cliaddr)

/-! ## The buffer -/

/-- What the string in the buffer begins with, the datagram begins with: behind a short one stands a
NUL. -/
theorem receive_begins {sip : Sip} {received text literal : List UInt8}
    (terminated : cString bufSize (sip.receive received) = some text)
    (short : literal.length ≤ bufLen) (begins : literal <+: text) : literal <+: received := by
  have ofBuffer : literal <+: sip.receive received := begins.trans (cString_begins terminated)
  by_cases enough : literal.length ≤ received.length
  · exact List.prefix_of_prefix_length_le ofBuffer (List.prefix_append _ _) enough
  · -- The literal would reach the NUL behind the datagram.
    have inside : received.length < bufLen := by omega
    have nul : (sip.receive received)[received.length]? = some 0 := by
      rw [Sip.receive, List.getElem?_append_right (Nat.le_refl _), Nat.sub_self, List.getElem?_drop,
        List.getElem?_append_left (by simpa using inside), List.getElem?_replicate]
      simp [inside]
    have bound : received.length < literal.length := by omega
    have inLiteral : literal[received.length]? = some 0 := by
      rw [← nul, List.prefix_iff_getElem?.mp ofBuffer received.length bound,
        List.getElem?_eq_getElem bound]
    have member : (0 : UInt8) ∈ text := begins.subset (List.mem_of_getElem? inLiteral)
    unfold cString at terminated
    split at terminated
    · obtain rfl := Option.some.inj terminated
      have nonzero := List.mem_takeWhile_imp member
      simp at nonzero
    · cases terminated

/-- A datagram of no supported type leaves a text of none. -/
theorem receive_unsupported {sip : Sip} {received text : List UInt8}
    (terminated : cString bufSize (sip.receive received) = some text)
    (unsupported : sipMessageType received = none) : sipMessageType text = none := by
  have literal : ∀ literal : List UInt8, literal.length ≤ bufLen →
      startsWith literal text = true → startsWith literal received = true :=
    fun literal short begins =>
      startsWith_iff.mpr (receive_begins terminated short (startsWith_iff.mp begins))
  unfold sipMessageType at unsupported ⊢
  split at unsupported
  · cases unsupported
  · rename_i notInvite
    split at unsupported
    · cases unsupported
    · rename_i notAck
      split at unsupported
      · cases unsupported
      · rename_i notBye
        split at unsupported
        · cases unsupported
        · rename_i notOk
          rw [if_neg fun begins => notInvite (literal _ (by decide) begins),
            if_neg fun begins => notAck (literal _ (by decide) begins),
            if_neg fun begins => notBye (literal _ (by decide) begins),
            if_neg fun begins => notOk (literal _ (by decide) begins)]

/-! ## The dispatcher -/

/-- An entry which is found is one on which the test succeeds. -/
theorem find_ofCall {sip : Sip} {callid : List UInt8} {k : Fin maxClients}
    (found : sip.find (ofCall callid) = some k) : ∃ client, sip.clientlist k = some client := by
  have test := List.find?_some found
  cases entry : sip.clientlist k with
  | none =>
      rw [entry] at test
      cases test
  | some client => exact ⟨client, rfl⟩

/-- An INVITE changes nothing exactly when the table is full. -/
theorem invite_unchanged_iff {s : ServerState} {msg : SIPMsg} {io : DatagramIo} (running : s.Running) :
    SipUnchanged s (s.invite msg io).1 (s.invite msg io).2 ↔ (maxClients : Int) ≤ s.sip.nclients := by
  unfold ServerState.invite
  by_cases room : s.sip.nclients < maxClients
  · rw [if_pos room]
    refine iff_of_false (fun unchanged => ?_) (by omega)
    apply unchanged.silent (okText msg) (okText msg).length io.cliaddr
    dsimp only
    split
    · exact List.mem_cons_self
    · split
      · exact List.mem_cons_self
      · exact List.mem_cons_self
  · rw [if_neg room]
    exact iff_of_true ⟨running, rfl, rfl, rfl, fun _ _ _ => List.not_mem_nil⟩ (by omega)

/-- An ACK changes nothing exactly when the entry of its call, if any, is as it would leave it. -/
theorem ack_unchanged_iff {s : ServerState} {msg : SIPMsg} {io : DatagramIo} (running : s.Running) :
    SipUnchanged s (s.ack msg io).1 (s.ack msg io).2 ↔
      ∀ k client, s.sip.find (ofCall msg.callid) = some k → s.sip.clientlist k = some client →
        client.ackrecvd = true ∧ client.fromHeader = msg.fromHeader ∧
          client.toHeader = msg.toHeader ∧ client.cliaddr = io.cliaddr := by
  unfold ServerState.ack
  cases found : s.sip.find (ofCall msg.callid) with
  | none =>
      refine iff_of_true ⟨running, rfl, rfl, rfl, fun _ _ _ => List.not_mem_nil⟩ ?_
      intro k client impossible
      cases impossible
  | some k =>
      obtain ⟨client, entry⟩ := find_ofCall found
      simp only [entry, Option.map_some]
      constructor
      · intro unchanged k' client' same there
        obtain rfl := Option.some.inj same
        obtain rfl := Option.some.inj (entry.symm.trans there)
        have written := (Function.update_eq_self_iff.mp unchanged.clientlist).trans entry
        rw [Option.some.injEq] at written
        rw [← written]
        exact ⟨rfl, rfl, rfl, rfl⟩
      · intro known
        obtain ⟨acked, fromHeader, toHeader, cliaddr⟩ := known k client rfl entry
        have written : { client with
            ackrecvd := true
            fromHeader := msg.fromHeader
            toHeader := msg.toHeader
            cliaddr := io.cliaddr } = client := by
          rw [← acked, ← fromHeader, ← toHeader, ← cliaddr]
        rw [written]
        refine ⟨running, ?_, rfl, rfl, fun _ _ _ => List.not_mem_nil⟩
        exact Function.update_eq_self_iff.mpr entry.symm

/-- A received 200 OK changes nothing exactly when its call has no entry. -/
theorem sipok_unchanged_iff {s : ServerState} {msg : SIPMsg} (running : s.Running) :
    SipUnchanged s (s.removeClient msg) [] ↔ s.sip.find (ofCall msg.callid) = none := by
  unfold ServerState.removeClient
  cases found : s.sip.find (ofCall msg.callid) with
  | none => exact iff_of_true ⟨running, rfl, rfl, rfl, fun _ _ _ => List.not_mem_nil⟩ rfl
  | some k =>
      obtain ⟨client, entry⟩ := find_ofCall found
      simp only [entry]
      refine iff_of_false (fun unchanged => ?_) (by simp)
      have removed := (Function.update_eq_self_iff.mp unchanged.clientlist).trans entry
      cases removed

theorem handleSip_unchanged_iff {s : ServerState} {msg : SIPMsg} {io : DatagramIo}
    (running : s.Running) :
    SipUnchanged s (s.handleSip msg io).1 (s.handleSip msg io).2 ↔ s.sip.Ignores msg io.cliaddr := by
  unfold ServerState.handleSip Sip.Ignores
  cases msg.type with
  | invite => exact invite_unchanged_iff running
  | ack => exact ack_unchanged_iff running
  | bye => exact iff_of_false (fun unchanged => unchanged.silent _ _ _ List.mem_cons_self) id
  | sipok => exact sipok_unchanged_iff running

/-- A halted server has not left everything as it was. -/
theorem halt_not_unchanged (s before : ServerState) (reason : Halt) :
    ¬ SipUnchanged before (s.halt reason).1 (s.halt reason).2 :=
  fun unchanged => unchanged.running reason rfl

/-- What a message does to the table, once the datagram is in the buffer. -/
theorem received_unchanged_iff {s : ServerState} {buffer : List UInt8} {msg : SIPMsg}
    {io : DatagramIo} (running : s.Running) :
    SipUnchanged s
        (ServerState.handleSip { s with sip := { s.sip with sipInbuf := buffer } } msg io).1
        (ServerState.handleSip { s with sip := { s.sip with sipInbuf := buffer } } msg io).2 ↔
      s.sip.Ignores msg io.cliaddr := by
  have dispatched := @handleSip_unchanged_iff
    { s with sip := { s.sip with sipInbuf := buffer } } msg io running
  refine Iff.trans ?_ dispatched
  exact sipUnchanged_congr rfl rfl rfl

/-- An unsupported datagram changes nothing exactly when it is harmless. -/
theorem handleDatagram_unchanged_iff {s : ServerState} {io : DatagramIo} (running : s.Running) :
    SipUnchanged s (s.handleDatagram io).1 (s.handleDatagram io).2 ↔ HarmlessDatagram s io := by
  unfold ServerState.handleDatagram HarmlessDatagram
  dsimp only
  cases terminated : cString bufSize (s.sip.receive io.received) with
  | none =>
      refine iff_of_false (halt_not_unchanged _ s _) ?_
      rintro ⟨text, found, -⟩
      cases found
  | some text =>
      simp only [Option.some.injEq, exists_eq_left']
      by_cases zeroed : sipMessageType io.received = none ∨ ¬ crlfcrlf <:+: text
      · have parsed : ∃ result, parsesipmsg text = .ok (result, SIPMsg.zero) := by
          rcases zeroed with unsupported | absent
          · exact parsesipmsg_of_unsupported (receive_unsupported terminated unsupported)
          · exact ⟨0, parsesipmsg_of_no_block absent⟩
        obtain ⟨result, parsed⟩ := parsed
        simp only [parsed]
        rw [received_unchanged_iff running]
        constructor
        · intro full
          refine ⟨fun _ => full, fun completed => ?_⟩
          rcases zeroed with unsupported | absent
          · exact absurd unsupported completed.1
          · exact absurd completed.2 absent
        · intro harmless
          exact harmless.1 zeroed
      · have completed : sipMessageType io.received ≠ none ∧ crlfcrlf <:+: text := by
          simpa [not_or] using zeroed
        cases parsed : parsesipmsg text with
        | error reason =>
            refine iff_of_false (halt_not_unchanged _ s _) fun harmless => ?_
            obtain ⟨result, msg, accepted, -⟩ := harmless.2 completed
            cases accepted
        | ok message =>
            dsimp only
            rw [received_unchanged_iff running]
            constructor
            · intro ignores
              exact ⟨fun other => absurd other zeroed, fun _ => ⟨_, _, rfl, ignores⟩⟩
            · intro harmless
              obtain ⟨result, msg, accepted, ignores⟩ := harmless.2 completed
              cases accepted
              exact ignores

/-! ## Runs -/

/-- A step which receives an unsupported datagram changes nothing. -/
def UnchangedOnUnsupported (s : ServerState) (input : Input) (after : ServerState)
    (output : List Output) : Prop :=
  ∀ io, input = .datagram io → UnsupportedDatagram io.received → SipUnchanged s after output

/-- An unsupported datagram which is received in this state is harmless. -/
def HarmlessOnUnsupported (s : ServerState) (input : Input) : Prop :=
  ∀ io, input = .datagram io → UnsupportedDatagram io.received → HarmlessDatagram s io

/-- One step. -/
theorem unchangedOnUnsupported_iff {variant : Variant} {url : List UInt8} {s after : ServerState}
    {input : Input} {output : List Output} (taken : step variant url s input = .ok (after, output)) :
    UnchangedOnUnsupported s input after output ↔ HarmlessOnUnsupported s input := by
  refine forall_congr' fun io => forall_congr' fun same => forall_congr' fun _ => ?_
  subst same
  rw [step] at taken
  obtain ⟨i, rest, pc, -, -, handled⟩ := dispatch_cases taken
  obtain ⟨rfl, rfl⟩ := Prod.mk.inj handled
  have exact_ := @handleDatagram_unchanged_iff { s with pc := .dispatch rest } io
    (dispatch_running s rest)
  refine Iff.trans ?_ exact_
  exact sipUnchanged_congr rfl rfl rfl

/-- In every run of `start_mt_server` the unsupported datagrams change nothing exactly when every one
of them is harmless. -/
theorem unsupportedDatagrams_unchanged_iff {url : List UInt8}
    {trace : List (Entry ServerState Input Output)} {state : ServerState}
    (run : (machine .mt url).Runs trace state) :
    (machine .mt url).EveryStep UnchangedOnUnsupported trace ↔
      ∀ entry ∈ trace, HarmlessOnUnsupported entry.before entry.input := by
  apply run.everyStep_iff fun _ => True
  · intro start valid
    trivial
  · intro before input after output known taken
    trivial
  · intro before input after output known taken
    exact unchangedOnUnsupported_iff taken

/-- Five bytes from somewhere, to which a socket can be connected. -/
def helloDatagram : DatagramIo := ⟨ascii "HELLO", ⟨1, 5060⟩, .ok 6⟩

/-- The datagram arrives. -/
def junk : List Input := [.ready [3], .datagram helloDatagram]

/-- The script runs, from an empty table. -/
theorem junk_runs : ∃ result entry after,
    (machine .mt someUrl).exec [] (startState .mt) junk = .ok result ∧
    entry ∈ result.1 ∧ entry.input = .datagram helloDatagram ∧ entry.before.sip.nclients = 0 ∧
    (machine .mt someUrl).step entry.before entry.input = .ok (after, entry.output) :=
  ⟨_, _, _, rfl, .tail _ (.head _), rfl, rfl, rfl⟩

/-- As long as there is room in the table, they do harm. -/
theorem helloDatagram_harms {s : ServerState} {input : Input} (heard : input = .datagram helloDatagram)
    (room : s.sip.nclients = 0) : ¬ HarmlessOnUnsupported s input := by
  intro harmless
  have unsupported : sipMessageType helloDatagram.received = none := by decide
  obtain ⟨text, -, full, -⟩ := harmless helloDatagram heard (Or.inl unsupported)
  have impossible := full (Or.inl unsupported)
  rw [room] at impossible
  cases impossible

/-- Five bytes of junk change something, and they are not harmless. -/
theorem unsupportedDatagrams_unchanged_iff_junk : ∃ result,
    (machine .mt someUrl).exec [] (startState .mt) junk = .ok result ∧
      ¬ (machine .mt someUrl).EveryStep UnchangedOnUnsupported result.1 ∧
      ¬ ∀ entry ∈ result.1, HarmlessOnUnsupported entry.before entry.input := by
  obtain ⟨result, entry, after, computed, member, input, empty, -⟩ := junk_runs
  have run := Machine.Runs.of_exec (startState_initial .mt someUrl) computed
  have harms : ¬ ∀ entry ∈ result.1, HarmlessOnUnsupported entry.before entry.input :=
    fun harmless => helloDatagram_harms input empty (harmless entry member)
  exact ⟨result, computed, mt (unsupportedDatagrams_unchanged_iff run).mp harms, harms⟩

/-- Five bytes of junk are answered with a 200 OK and take a place in the table. -/
theorem unsupportedDatagrams_not_always_unchanged : ¬ ∀ url trace state,
    (machine .mt url).Runs trace state →
      (machine .mt url).EveryStep UnchangedOnUnsupported trace := by
  intro all
  obtain ⟨result, entry, after, computed, member, input, empty, taken⟩ := junk_runs
  have run := Machine.Runs.of_exec (startState_initial .mt someUrl) computed
  have unchanged := all someUrl _ _ run entry member after taken
  exact helloDatagram_harms input empty ((unchangedOnUnsupported_iff taken).mp unchanged)

end Http2Rtsp.Server
