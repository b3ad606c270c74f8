import Http2Rtsp.Server.SipTable

/-!
# One entry for a call

A BYE or a 200 OK removes the first entry of its call. That is all of the call
as long as no second entry was made, and a second entry is made by every INVITE
of a call which has one already: a retransmission, or a datagram which is taken
for an INVITE and has no Call-ID.
-/

namespace Http2Rtsp.Server

open Http2Rtsp.Std Http2Rtsp.Message Http2Rtsp.Semantics

/-- `nclients` is the number of entries. -/
def TableCounts (s : ServerState) : Prop :=
  s.sip.nclients = (Table.occupied s.sip.clientlist).card

/-- No two entries of `clientlist` belong to the same call. -/
def DistinctCalls (_past : List Output) (s : ServerState) : Prop :=
  Table.Keyed SIPClient.callid s.sip.clientlist

/-- Behind a BYE or a 200 OK its call has no entry, and so no audio is sent for it. -/
def EndsCall (s : ServerState) (input : Input) (after : ServerState) (_output : List Output) : Prop :=
  ∀ io msg, input = .datagram io → s.Reads io msg → (msg.type = .bye ∨ msg.type = .sipok) →
    ¬ Table.Has SIPClient.callid after.sip.clientlist msg.callid ∧
      ∀ client ∈ after.sip.acknowledged, client.callid ≠ msg.callid

/-- An INVITE which is answered and gets a socket is of a call which has no entry yet. -/
def InvitesNew (_past : List Output) (s : ServerState) (input : Input) : Prop :=
  ∀ io msg rtpfd, input = .datagram io → s.Reads io msg → Invites s msg io rtpfd →
    ¬ Table.Has SIPClient.callid s.sip.clientlist msg.callid

/-- An INVITE which would make a call, of a call which has an entry. -/
def entersAgain (s : ServerState) (io : DatagramIo) : Bool :=
  match s.sipmsg io, io.rtpfd with
  | some msg, .ok _ => msg.type = .invite && s.sip.nclients < maxClients &&
      (s.sip.find (ofCall msg.callid)).isSome
  | _, _ => false

theorem entersAgain_iff {s : ServerState} {io : DatagramIo} :
    entersAgain s io = true ↔ ∃ msg rtpfd, s.Reads io msg ∧ Invites s msg io rtpfd ∧
      Table.Has SIPClient.callid s.sip.clientlist msg.callid := by
  constructor
  · intro again
    unfold entersAgain at again
    split at again
    · rename_i msg rtpfd read connected
      simp only [Bool.and_eq_true, decide_eq_true_eq] at again
      obtain ⟨⟨type, room⟩, known⟩ := again
      obtain ⟨k, found⟩ := Option.isSome_iff_exists.mp known
      obtain ⟨client, there, call⟩ := Sip.find_call found
      exact ⟨msg, rtpfd, reads_iff_sipmsg.mpr read, ⟨type, room, connected⟩, k, client, there, call⟩
    · cases again
  · rintro ⟨msg, rtpfd, reads, invites, known⟩
    have found : s.sip.find (ofCall msg.callid) ≠ none := fun absent =>
      Sip.find_no_call absent known
    simp only [entersAgain, reads_iff_sipmsg.mp reads, invites.connected, invites.type, invites.room,
      Option.isSome_iff_ne_none.mpr found, decide_true, Bool.and_self]

instance (past : List Output) (s : ServerState) : (input : Input) → Decidable (InvitesNew past s input)
  | .datagram io => decidable_of_iff (¬ entersAgain s io = true) <| by
      rw [entersAgain_iff]
      constructor
      · rintro new _ msg rtpfd ⟨⟩ reads invites known
        exact new ⟨msg, rtpfd, reads, invites, known⟩
      · rintro new ⟨msg, rtpfd, reads, invites, known⟩
        exact new io msg rtpfd rfl reads invites known
  | .timeout .. | .interrupted | .ready .. | .accept .. | .media .. | .rtsp .. | .rearm ..
  | .filler .. => isTrue <| by simp [InvitesNew]

/-- The count is kept by a message. -/
theorem TableEffect.counts {s after : ServerState} {msg : SIPMsg} {io : DatagramIo}
    (effect : TableEffect s msg io after) (counts : TableCounts s) : TableCounts after := by
  unfold TableCounts at counts ⊢
  cases effect with
  | full type full => exact counts
  | unconnected type failed => exact counts
  | homeless invites noPlace => exact counts
  | @entered rtpfd k invites free =>
      have more := @Table.occupied_put _ _ s.sip.clientlist _ _ k (invitedClient msg rtpfd) free
      simp only [Sip.setEntry]
      omega
  | unknown type absent => exact counts
  | acked type there call =>
      simp only [Sip.setEntry]
      rw [Table.occupied_change there]
      exact counts
  | removed type there call =>
      have fewer := Table.occupied_clear there
      simp only [Sip.setEntry]
      omega

theorem tableCounts_kept {variant : Variant} {url : List UInt8} {s after : ServerState}
    {input : Input} {output : List Output} (counts : TableCounts s)
    (taken : step variant url s input = .ok (after, output)) : TableCounts after := by
  rcases step_sip taken with ⟨same, -⟩ | ⟨io, i, rest, -, -, -, -, effect⟩
  · rw [TableCounts, same]
    exact counts
  · cases effect with
    | unread unread => exact counts
    | read reads effect => exact effect.counts counts

theorem tableCounts_initial {variant : Variant} {s : ServerState} (initial : Initial variant s) :
    TableCounts s := by
  have empty : Table.occupied s.sip.clientlist = ∅ := by
    ext k
    simp [initial.clientlist k]
  rw [TableCounts, initial.nclients, empty]
  rfl

/-- There is a free place for an INVITE which finds the table not full. -/
theorem TableCounts.place {s : ServerState} (counts : TableCounts s)
    (room : s.sip.nclients < maxClients) : s.sip.find Option.isNone ≠ none := by
  intro noPlace
  have fewer : (Table.occupied s.sip.clientlist).card < Fintype.card (Fin maxClients) := by
    rw [Fintype.card_fin]
    unfold TableCounts at counts
    omega
  obtain ⟨k, free⟩ := Table.exists_free fewer
  have taken := Sip.find_none noPlace k
  rw [free] at taken
  cases taken

/-- A message keeps the calls apart exactly when it is no INVITE of a call which has an entry. -/
theorem TableEffect.distinct_iff {s after : ServerState} {msg : SIPMsg} {io : DatagramIo}
    (effect : TableEffect s msg io after) (counts : TableCounts s)
    (distinct : Table.Keyed SIPClient.callid s.sip.clientlist) :
    Table.Keyed SIPClient.callid after.sip.clientlist ↔
      ∀ rtpfd, Invites s msg io rtpfd → ¬ Table.Has SIPClient.callid s.sip.clientlist msg.callid := by
  cases effect with
  | full type full => exact iff_of_true distinct fun rtpfd invites => absurd invites.room full
  | unconnected type failed =>
      exact iff_of_true distinct fun rtpfd invites => nomatch failed.symm.trans invites.connected
  | homeless invites noPlace => exact absurd noPlace (counts.place invites.room)
  | @entered rtpfd k invites free =>
      refine (Table.keyed_put_iff distinct free).trans ⟨fun new _ _ => new, fun new => ?_⟩
      exact new rtpfd invites
  | unknown type absent => exact iff_of_true distinct fun rtpfd invites => absurd invites.type type
  | @acked k client type there call =>
      have kept := @Table.Keyed.change _ _ _ _ SIPClient.callid _ k client
        (ackedClient client msg io.cliaddr) distinct there rfl
      exact iff_of_true kept fun rtpfd invites => nomatch type.symm.trans invites.type
  | removed type there call =>
      refine iff_of_true distinct.clear fun rtpfd invites => ?_
      rcases type with bye | ok
      · exact nomatch bye.symm.trans invites.type
      · exact nomatch ok.symm.trans invites.type

/-- A BYE or a 200 OK takes its call out of a table of distinct calls. -/
theorem TableEffect.ends {s after : ServerState} {msg : SIPMsg} {io : DatagramIo}
    (effect : TableEffect s msg io after)
    (distinct : Table.Keyed SIPClient.callid s.sip.clientlist)
    (ends : msg.type = .bye ∨ msg.type = .sipok) :
    ¬ Table.Has SIPClient.callid after.sip.clientlist msg.callid := by
  have notInvite : msg.type ≠ .invite := by
    rcases ends with bye | ok
    · simp [bye]
    · simp [ok]
  cases effect with
  | full type full => exact absurd type notInvite
  | unconnected type failed => exact absurd type notInvite
  | homeless invites noPlace => exact absurd invites.type notInvite
  | entered invites free => exact absurd invites.type notInvite
  | unknown type absent => exact Sip.find_no_call absent
  | acked type there call =>
      rcases ends with bye | ok
      · exact nomatch type.symm.trans bye
      · exact nomatch type.symm.trans ok
  | removed type there call =>
      rw [← call]
      exact distinct.not_has_clear there

/-- The acknowledged clients have entries. -/
theorem Sip.mem_acknowledged {sip : Sip} {client : SIPClient} :
    client ∈ sip.acknowledged ↔ ∃ k, sip.clientlist k = some client ∧ client.ackrecvd = true := by
  simp only [Sip.acknowledged, List.mem_filterMap, List.mem_finRange, true_and,
    Option.bind_eq_some_iff, Option.ite_none_right_eq_some, Option.some.injEq]
  constructor
  · rintro ⟨k, entry, there, acked, rfl⟩
    exact ⟨k, there, acked⟩
  · rintro ⟨k, there, acked⟩
    exact ⟨k, client, there, acked, rfl⟩

/-- One step keeps the calls apart exactly when it enters no call again. -/
theorem distinctCalls_step_iff {variant : Variant} {url : List UInt8} {past output : List Output}
    {s after : ServerState} {input : Input} (counts : TableCounts s) (distinct : DistinctCalls past s)
    (taken : step variant url s input = .ok (after, output)) :
    DistinctCalls (past ++ output) after ↔ InvitesNew past s input := by
  rcases step_sip taken with ⟨same, other⟩ | ⟨io, i, rest, rfl, -, -, -, effect⟩
  · refine iff_of_true ?_ fun io msg rtpfd datagram => absurd datagram (other io)
    rw [DistinctCalls, same]
    exact distinct
  · cases effect with
    | unread unread =>
        refine iff_of_true distinct fun io' msg rtpfd same reads => ?_
        cases same
        exact absurd reads (unread msg)
    | read reads effect =>
        refine (effect.distinct_iff counts distinct).trans ⟨?_, ?_⟩
        · intro new io' msg rtpfd same reads' invites
          cases same
          obtain rfl := reads.unique reads'
          exact new rtpfd ⟨invites.type, invites.room, invites.connected⟩
        · intro new rtpfd invites
          exact new io _ rtpfd rfl reads ⟨invites.type, invites.room, invites.connected⟩

/-- While the calls are distinct, every BYE and every 200 OK ends its call. -/
theorem endsCall_step {variant : Variant} {url : List UInt8} {past output : List Output}
    {s after : ServerState} {input : Input} (distinct : DistinctCalls past s)
    (taken : step variant url s input = .ok (after, output)) : EndsCall s input after output := by
  intro io msg datagram reads ends
  have gone : ¬ Table.Has SIPClient.callid after.sip.clientlist msg.callid := by
    rcases step_sip taken with ⟨-, other⟩ | ⟨io', i, rest, same, -, -, -, effect⟩
    · exact absurd datagram (other io)
    · obtain rfl := Input.datagram.inj (datagram.symm.trans same)
      cases effect with
      | unread unread => exact absurd reads (unread msg)
      | read reads' effect =>
          obtain rfl := ServerState.Reads.unique reads reads'
          exact effect.ends distinct ends
  refine ⟨gone, fun client member same => ?_⟩
  obtain ⟨k, there, -⟩ := Sip.mem_acknowledged.mp member
  exact gone ⟨k, client, there, same⟩

/-- In every run of `start_mt_server`: a call has at most one entry at every point, and every BYE and
every 200 OK ends its call, exactly when no INVITE enters a call which has an entry. -/
theorem distinctCalls_iff_invitesNew {url : List UInt8}
    {trace : List (Entry ServerState Input Output)} {state : ServerState}
    (run : (machine .mt url).Runs trace state) :
    (Machine.Always DistinctCalls trace state ∧ (machine .mt url).EveryStep EndsCall trace) ↔
      Machine.Throughout InvitesNew trace := by
  have always : Machine.Always DistinctCalls trace state ↔ Machine.Throughout InvitesNew trace := by
    apply run.always_iff_throughout (fun _ => True) (fun _ s => TableCounts s) trivial
    · intro past output all
      trivial
    · intro start valid
      exact tableCounts_initial valid
    · intro past before input after output _ counts taken _
      exact tableCounts_kept counts taken
    · intro start valid
      exact Table.keyed_empty valid.clientlist
    · intro past before input after output _ counts distinct taken
      exact distinctCalls_step_iff counts distinct taken
  constructor
  · rintro ⟨distinct, -⟩
    exact always.mp distinct
  · intro new
    have distinct := always.mpr new
    refine ⟨distinct, fun entry member after taken => ?_⟩
    obtain ⟨past, future, split⟩ := List.append_of_mem member
    exact endsCall_step (distinct.2 past entry future split) taken

/-- A message of a call, from somewhere; the socket to its sender gets this descriptor. -/
def callDatagram (line callid : String) (rtpfd : Int) : DatagramIo where
  received := ascii (line ++ "\r\nCall-ID: " ++ callid ++ "\r\n\r\n")
  cliaddr := ⟨1, 5060⟩
  rtpfd := .ok rtpfd

/-- A datagram is received. -/
def datagram (io : DatagramIo) : List Input := [.ready [3], .datagram io, .rearm someTime]

/-- A call is made and ended. -/
def oneCall : List Input :=
  datagram (callDatagram "INVITE" "1" 6) ++ datagram (callDatagram "ACK" "1" 7) ++
    datagram (callDatagram "BYE" "1" 7)

/-- Its INVITE is new, so the BYE ends the call. -/
theorem distinctCalls_iff_invitesNew_oneCall : ∃ result,
    (machine .mt someUrl).exec [] (startState .mt) oneCall = .ok result ∧
      Machine.Throughout InvitesNew result.1 ∧ Machine.Always DistinctCalls result.1 result.2 ∧
      (machine .mt someUrl).EveryStep EndsCall result.1 := by
  have computed : ∃ result, (machine .mt someUrl).exec [] (startState .mt) oneCall = .ok result ∧
      Machine.MeetsAll InvitesNew [] result.1 := ⟨_, rfl, by decide +kernel⟩
  obtain ⟨result, computed, new⟩ := computed
  have run := Machine.Runs.of_exec (startState_initial .mt someUrl) computed
  have throughout := Machine.throughout_of_meetsAll new
  exact ⟨result, computed, throughout, (distinctCalls_iff_invitesNew run).mpr throughout⟩

/-- The INVITE of a call is received twice. -/
def retransmitted : List Input :=
  datagram (callDatagram "INVITE" "1" 6) ++ datagram (callDatagram "INVITE" "1" 7)

theorem retransmitted_runs : ∃ result,
    (machine .mt someUrl).exec [] (startState .mt) retransmitted = .ok result ∧
      (result.2.sip.clientlist ⟨0, by decide⟩).map SIPClient.callid = some (ascii "1") ∧
      (result.2.sip.clientlist ⟨1, by decide⟩).map SIPClient.callid = some (ascii "1") :=
  ⟨_, rfl, by decide +kernel, by decide +kernel⟩

/-- A retransmitted INVITE makes a second entry for its call. -/
theorem distinctCalls_not_always : ¬ ∀ url trace state,
    (machine .mt url).Runs trace state →
      Machine.Always DistinctCalls trace state ∧ (machine .mt url).EveryStep EndsCall trace := by
  intro all
  obtain ⟨result, computed, atFirst, atSecond⟩ := retransmitted_runs
  have run := Machine.Runs.of_exec (startState_initial .mt someUrl) computed
  have distinct := (all someUrl _ _ run).1.here
  obtain ⟨first, atFirst, firstCall⟩ := Option.map_eq_some_iff.mp atFirst
  obtain ⟨second, atSecond, secondCall⟩ := Option.map_eq_some_iff.mp atSecond
  have impossible := distinct _ _ first second atFirst atSecond (firstCall.trans secondCall.symm)
  cases impossible

end Http2Rtsp.Server
