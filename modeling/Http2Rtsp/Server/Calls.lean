import Http2Rtsp.Message.SipBye
import Http2Rtsp.Server.SipCalls
import Http2Rtsp.Server.SipHeap

/-!
# The calls as a map

What the SIP side is for: it keeps a map from Call-IDs to calls, and what is
heard of a call changes the map at its Call-ID only. The client list with its
places, its searches and its count stands for this map as long as no call is
entered twice.
-/

namespace Http2Rtsp.Server

open Http2Rtsp.Std Http2Rtsp.Message Http2Rtsp.Semantics

/-! ## Calls -/

/-- The other side of a call, as its ACK names it. -/
structure Peer where
  fromHeader : List UInt8
  toHeader : List UInt8
  cliaddr : SockAddr

/-- A call: the socket for its audio, and the other side once an ACK has come. -/
structure Call where
  sockfd : Int
  peer : Option Peer

/-- The calls under their Call-IDs. -/
abbrev Calls := List UInt8 → Option Call

/-- What is heard of a call. -/
inductive CallEvent where
  | invited (callid : List UInt8) (sockfd : Int)
  | acked (callid : List UInt8) (peer : Peer)
  | ended (callid : List UInt8)

/-- The Call-IDs in use. -/
def Calls.ids (calls : Calls) : Set (List UInt8) := {callid | calls callid ≠ none}

/-- What it makes of the calls. There is room for `MAXCLIENTS` of them. -/
noncomputable def Calls.next (calls : Calls) : CallEvent → Calls
  | .invited callid sockfd =>
      if calls.ids.ncard < maxClients then Function.update calls callid (some ⟨sockfd, none⟩)
      else calls
  | .acked callid peer =>
      Function.update calls callid ((calls callid).map fun call => { call with peer := some peer })
  | .ended callid => Function.update calls callid none

/-- The calls after what was heard. -/
noncomputable def Calls.after (events : List CallEvent) : Calls :=
  events.foldl Calls.next fun _ => none

/-! ## What a run hears -/

/-- What a message says of its call. An INVITE makes no call when its socket cannot be opened. -/
def callEvent (msg : SIPMsg) (io : DatagramIo) : Option CallEvent :=
  match msg.type with
  | .invite =>
      match io.rtpfd with
      | .ok rtpfd => some (.invited msg.callid rtpfd)
      | .error _ => none
  | .ack => some (.acked msg.callid ⟨msg.fromHeader, msg.toHeader, io.cliaddr⟩)
  | .bye | .sipok => some (.ended msg.callid)

/-- What is heard in one step. -/
def heardCall (entry : Entry ServerState Input Output) : Option CallEvent :=
  match entry.input with
  | .datagram io => (entry.before.sipmsg io).bind fun msg => callEvent msg io
  | _ => none

/-- What was heard along a run. -/
def callEvents (trace : List (Entry ServerState Input Output)) : List CallEvent :=
  trace.filterMap heardCall

/-- The call an entry of `clientlist` stands for. -/
def Call.of (client : SIPClient) : Call where
  sockfd := client.sockfd
  peer := if client.ackrecvd then some ⟨client.fromHeader, client.toHeader, client.cliaddr⟩ else none

/-- The client list stands for these calls. -/
def ShowsCalls (s : ServerState) (calls : Calls) : Prop :=
  Table.Represents SIPClient.callid Call.of s.sip.clientlist calls

section Step

variable {s after : ServerState} {msg : SIPMsg} {io : DatagramIo} {calls : Calls}

/-- There is room in the map exactly when `nclients` says so. -/
theorem ShowsCalls.room (shows : ShowsCalls s calls) (counts : TableCounts s) :
    calls.ids.ncard < maxClients ↔ s.sip.nclients < maxClients := by
  have entries : calls.ids.ncard = (Table.occupied s.sip.clientlist).card := Table.Represents.ncard shows
  rw [counts, entries, Int.ofNat_lt]

/-- A call which is not found is not in the map. -/
theorem ShowsCalls.unknown (shows : ShowsCalls s calls)
    (absent : s.sip.find (ofCall msg.callid) = none) : calls msg.callid = none := by
  by_contra known
  exact Sip.find_no_call absent (shows.has_iff.mpr known)

/-- A message does to the client list what is heard of its call does to the map. -/
theorem TableEffect.showsCalls (effect : TableEffect s msg io after) (shows : ShowsCalls s calls)
    (counts : TableCounts s)
    (new : ∀ rtpfd, Invites s msg io rtpfd → ¬ Table.Has SIPClient.callid s.sip.clientlist msg.callid) :
    ShowsCalls after ((callEvent msg io).elim calls calls.next) := by
  have gone : ∀ callid, calls callid = none → Function.update calls callid none = calls := by
    intro callid none
    rw [← none, Function.update_eq_self]
  cases effect with
  | full type full =>
      cases connected : io.rtpfd with
      | error reason =>
          simp only [callEvent, type, connected]
          exact shows
      | ok rtpfd =>
          have noRoom : ¬ calls.ids.ncard < maxClients := fun room => full ((shows.room counts).mp room)
          simp only [callEvent, type, connected, Option.elim_some, Calls.next, if_neg noRoom]
          exact shows
  | unconnected type failed =>
      simp only [callEvent, type, failed]
      exact shows
  | homeless invites noPlace => exact absurd noPlace (counts.place invites.room)
  | @entered rtpfd k invites free =>
      have room : calls.ids.ncard < maxClients := (shows.room counts).mpr invites.room
      have fresh : calls msg.callid = none := by
        by_contra known
        exact new rtpfd invites (shows.has_iff.mpr known)
      simp only [callEvent, invites.type, invites.connected, Option.elim_some, Calls.next, if_pos room]
      exact Table.Represents.put (a := invitedClient msg rtpfd) shows free fresh
  | unknown type absent =>
      have none := shows.unknown absent
      cases known : msg.type with
      | invite => exact absurd known type
      | ack =>
          simp only [callEvent, known, Option.elim_some, Calls.next, none, Option.map_none, gone _ none]
          exact shows
      | bye =>
          simp only [callEvent, known, Option.elim_some, Calls.next, gone _ none]
          exact shows
      | sipok =>
          simp only [callEvent, known, Option.elim_some, Calls.next, gone _ none]
          exact shows
  | @acked k client type there call =>
      have known : calls msg.callid = some (Call.of client) := call ▸ shows.lookup there
      have changed := Table.Represents.change (a := ackedClient client msg io.cliaddr) shows there rfl
      rw [call] at changed
      simp only [callEvent, type, Option.elim_some, Calls.next, known, Option.map_some]
      exact changed
  | @removed k client type there call =>
      have cleared := Table.Represents.clear shows there
      rw [call] at cleared
      have ends : callEvent msg io = some (.ended msg.callid) := by
        rcases type with bye | ok
        · simp only [callEvent, bye]
        · simp only [callEvent, ok]
      simp only [ends, Option.elim_some, Calls.next]
      exact cleared

end Step

/-! ## The calls of a run -/

theorem ShowsCalls.initial {variant : Variant} {s : ServerState} (initial : Initial variant s) :
    ShowsCalls s (Calls.after []) :=
  Table.represents_empty initial.clientlist

/-- One step does to the client list what is heard in it does to the map. -/
theorem showsCalls_step {variant : Variant} {url : List UInt8} {s after : ServerState} {input : Input}
    {output : List Output} {calls : Calls} {past : List Output} (counts : TableCounts s)
    (shows : ShowsCalls s calls) (new : InvitesNew past s input)
    (taken : step variant url s input = .ok (after, output)) :
    ShowsCalls after ((heardCall ⟨s, input, output⟩).elim calls calls.next) := by
  rcases step_sip taken with ⟨same, other⟩ | ⟨io, i, rest, rfl, -, -, -, effect⟩
  · have unheard : heardCall ⟨s, input, output⟩ = none := by
      cases input with
      | datagram io => exact absurd rfl (other io)
      | _ => rfl
    rw [unheard, Option.elim_none, ShowsCalls, same]
    exact shows
  · cases effect with
    | unread unread =>
        have unheard : s.sipmsg io = none := by
          by_contra read
          obtain ⟨msg, read⟩ := Option.ne_none_iff_exists'.mp read
          exact unread msg (reads_iff_sipmsg.mpr read)
        simp only [heardCall, unheard, Option.bind_none, Option.elim_none]
        exact shows
    | @read msg _ reads effect =>
        have heard : s.sipmsg io = some msg := reads_iff_sipmsg.mp reads
        simp only [heardCall, heard, Option.bind_some]
        refine effect.showsCalls shows counts fun rtpfd invites => ?_
        exact new io msg rtpfd rfl reads ⟨invites.type, invites.room, invites.connected⟩

theorem callEvents_snoc (trace : List (Entry ServerState Input Output))
    (last : Entry ServerState Input Output) :
    callEvents (trace ++ [last]) = callEvents trace ++ (heardCall last).toList := by
  cases heard : heardCall last with
  | none => simp [callEvents, heard]
  | some event => simp [callEvents, heard]

theorem Calls.after_snoc (events : List CallEvent) (last : Option CallEvent) :
    Calls.after (events ++ last.toList) = last.elim (Calls.after events) (Calls.after events).next := by
  cases last with
  | none => simp
  | some event => simp [Calls.after, List.foldl_append]

/-- The calls shown, at the end of a run and before each of its steps. -/
theorem showsCalls_recorded {variant : Variant} {url : List UInt8}
    {trace : List (Entry ServerState Input Output)} {state : ServerState}
    (run : (machine variant url).Runs trace state) (new : Machine.Throughout InvitesNew trace) :
    (TableCounts state ∧ ShowsCalls state (Calls.after (callEvents trace))) ∧
      ∀ past entry future, trace = past ++ entry :: future →
        TableCounts entry.before ∧ ShowsCalls entry.before (Calls.after (callEvents past)) := by
  apply run.recorded new (fun _ => True)
    (fun trace s => TableCounts s ∧ ShowsCalls s (Calls.after (callEvents trace))) trivial
  · intro trace last all
    trivial
  · intro start valid
    exact ⟨tableCounts_initial valid, ShowsCalls.initial valid⟩
  · intro trace last after _ ⟨counts, shows⟩ fresh taken
    refine ⟨tableCounts_kept counts taken, ?_⟩
    rw [callEvents_snoc, Calls.after_snoc]
    exact showsCalls_step counts shows fresh taken

/-- In every run in which no call is entered twice, the client list stands for the calls there are
after what was heard. -/
theorem clientlist_showsCalls {variant : Variant} {url : List UInt8}
    {trace : List (Entry ServerState Input Output)} {state : ServerState}
    (run : (machine variant url).Runs trace state) (new : Machine.Throughout InvitesNew trace) :
    ShowsCalls state (Calls.after (callEvents trace)) :=
  (showsCalls_recorded run new).1.2

/-- Two calls are made and acknowledged, and the first one is ended. -/
def oneCallLeft : List Input :=
  datagram (callDatagram "INVITE" "1" 6) ++ datagram (callDatagram "ACK" "1" 20) ++
    datagram (callDatagram "INVITE" "2" 7) ++ datagram (callDatagram "ACK" "2" 20) ++
    datagram (callDatagram "BYE" "1" 20)

/-- Behind it the client list holds the second call, and stands for the calls there are. -/
theorem clientlist_showsCalls_oneCallLeft : ∃ result client,
    (machine .mt someUrl).exec [] (startState .mt) oneCallLeft = .ok result ∧
      result.2.sip.clientlist ⟨1, by decide⟩ = some client ∧ client.callid = ascii "2" ∧
      client.ackrecvd = true ∧ ShowsCalls result.2 (Calls.after (callEvents result.1)) := by
  have computed : ∃ result client,
      (machine .mt someUrl).exec [] (startState .mt) oneCallLeft = .ok result ∧
        result.2.sip.clientlist ⟨1, by decide⟩ = some client ∧ client.callid = ascii "2" ∧
        client.ackrecvd = true ∧ Machine.MeetsAll InvitesNew [] result.1 :=
    ⟨_, _, rfl, rfl, rfl, rfl, by decide +kernel⟩
  obtain ⟨result, client, computed, there, callid, acked, new⟩ := computed
  exact ⟨result, client, computed, there, callid, acked, clientlist_showsCalls
    (Machine.Runs.of_exec (startState_initial .mt someUrl) computed) (Machine.throughout_of_meetsAll new)⟩

/-! ## The end of the stream -/

/-- All strings in the client list have been read from messages. -/
def ListFromMessages (s : ServerState) : Prop :=
  ∀ k client, s.sip.clientlist k = some client → client.FromMessages

theorem invitedClient_fromMessages {text : List UInt8} {result : Int} {msg : SIPMsg}
    (parsed : parsesipmsg text = .ok (result, msg)) (rtpfd : Int) : (invitedClient msg rtpfd).FromMessages where
  callid := parsesipmsg_value parsed .callid
  fromHeader nonempty := absurd rfl nonempty
  toHeader nonempty := absurd rfl nonempty

theorem ackedClient_fromMessages {text : List UInt8} {result : Int} {msg : SIPMsg} {client : SIPClient}
    (parsed : parsesipmsg text = .ok (result, msg)) (read : client.FromMessages) (cliaddr : SockAddr) :
    (ackedClient client msg cliaddr).FromMessages where
  callid := read.callid
  fromHeader := parsesipmsg_value parsed .fromHeader
  toHeader := parsesipmsg_value parsed .toHeader

theorem TableEffect.fromMessages {s after : ServerState} {io : DatagramIo} {text : List UInt8}
    {result : Int} {msg : SIPMsg} (effect : TableEffect s msg io after) (known : ListFromMessages s)
    (parsed : parsesipmsg text = .ok (result, msg)) : ListFromMessages after := by
  intro j client there
  cases effect with
  | full type full => exact known j client there
  | unconnected type failed => exact known j client there
  | homeless invites noPlace => exact known j client there
  | @entered rtpfd k invites free =>
      rcases Table.update_eq_some there with ⟨-, new⟩ | ⟨-, old⟩
      · obtain rfl := Option.some.inj new
        exact invitedClient_fromMessages parsed rtpfd
      · exact known j client old
  | unknown type absent => exact known j client there
  | @acked k before type here call =>
      rcases Table.update_eq_some there with ⟨-, new⟩ | ⟨-, old⟩
      · obtain rfl := Option.some.inj new
        exact ackedClient_fromMessages parsed (known k before here) io.cliaddr
      · exact known j client old
  | removed type here call =>
      rcases Table.update_eq_some there with ⟨-, gone⟩ | ⟨-, old⟩
      · cases gone
      · exact known j client old

theorem fromMessages_kept {variant : Variant} {url : List UInt8} {s after : ServerState}
    {input : Input} {output : List Output} (known : ListFromMessages s)
    (taken : step variant url s input = .ok (after, output)) : ListFromMessages after := by
  rcases step_sip taken with ⟨same, -⟩ | ⟨io, i, rest, -, -, -, -, effect⟩
  · rw [ListFromMessages, same]
    exact known
  · cases effect with
    | unread unread => exact known
    | read reads effect =>
        obtain ⟨text, result, -, parsed⟩ := reads
        exact effect.fromMessages known parsed

theorem fromMessages_initial {variant : Variant} {s : ServerState} (initial : Initial variant s) :
    ListFromMessages s := by
  intro k client there
  cases (initial.clientlist k).symm.trans there

/-- The BYE to a client. -/
def goodbye (client : SIPClient) : Output := .byeSent (byeText client) client.cliaddr

/-- The BYE to a client can be made: its Via line fits. -/
def ViaFits (client : SIPClient) : Prop := (byeVia client).length < fieldLen

instance (client : SIPClient) : Decidable (ViaFits client) := Nat.decLt ..

/-- The clients in front of the first one whose Via line does not fit. -/
def reached (clients : List SIPClient) : List SIPClient :=
  clients.takeWhile fun client => decide (ViaFits client)

/-- What the farewell comes to behind the BYEs. -/
def farewellEnd (clients : List SIPClient) : Output :=
  if ∀ client ∈ clients, ViaFits client then .endOfStream else .undefined .overflow

theorem viaFits_of_reached {clients : List SIPClient} {client : SIPClient}
    (member : client ∈ reached clients) : client ∈ clients ∧ ViaFits client :=
  ⟨(List.takeWhile_prefix _).subset member, by simpa using List.mem_takeWhile_imp member⟩

/-- Every client is sent its BYE until one has a Via line which does not fit. -/
theorem byes_eq (clients : List SIPClient) :
    byes clients = ((reached clients).map goodbye,
      if ∀ client ∈ clients, ViaFits client then none else some .overflow) := by
  induction clients with
  | nil => rfl
  | cons client rest ih =>
      by_cases fits : ViaFits client
      · obtain ⟨bye, created⟩ : ∃ bye, createBye SIPMsg.zero client = .ok bye := ⟨_, if_pos fits⟩
        have first : reached (client :: rest) = client :: reached rest :=
          List.takeWhile_cons_of_pos (decide_eq_true fits)
        rw [byes, created, first]
        simp only [ih, writeSip_of_createBye created, Option.getD_some, List.map_cons,
          List.forall_mem_cons, fits, true_and]
        rfl
      · have failed : createBye SIPMsg.zero client = .error .overflow := if_neg fits
        rw [byes, failed]
        simp [reached, fits]

/-- An event of this type is taken off the queue. -/
structure Dispatches (s : ServerState) (input : Input) (type : Pacing.EventType) : Prop where
  timeout : ∃ now wake, input = .timeout now wake
  free : s.lock = none
  head : s.queue.head?.map Pacing.TimeoutEvent.type = some type

/-- The farewell. -/
theorem handleEvent_farewell {s : ServerState} {event : Pacing.TimeoutEvent} (now : Pacing.Clock)
    (running : s.Running) (last : event.type = .endOfStream) :
    (s.handleEvent .mt event now).2 =
      (reached s.sip.acknowledged).map goodbye ++ [farewellEnd s.sip.acknowledged] := by
  have said : ServerState.Running (s, (reached s.sip.acknowledged).map goodbye).1 := running
  simp only [ServerState.handleEvent, last, byes_eq, andThen_running said, farewellEnd]
  by_cases fit : ∀ client ∈ s.sip.acknowledged, ViaFits client
  · rw [if_pos fit, if_pos fit]
  · rw [if_neg fit, if_neg fit]
    rfl

/-- What puts nothing out may follow. -/
theorem andThen_quiet (outcome : Outcome) (next : ServerState → ServerState) :
    (outcome.andThen fun s => (next s, [])).2 = outcome.2 := by
  unfold Outcome.andThen
  split
  · rfl
  · exact List.append_nil _

/-- What is put out at the end of the stream. -/
theorem endOfStream_output {url : List UInt8} {s after : ServerState} {input : Input}
    {output : List Output} (taken : step .mt url s input = .ok (after, output))
    (ended : Dispatches s input .endOfStream) :
    output = (reached s.sip.acknowledged).map goodbye ++ [farewellEnd s.sip.acknowledged] := by
  obtain ⟨⟨now, wake, rfl⟩, free, head⟩ := ended
  obtain ⟨event, first, last⟩ := Option.map_eq_some_iff.mp head
  obtain ⟨rest, queued⟩ := List.head?_eq_some_iff.mp first
  obtain ⟨pc, -, handled⟩ := step_timeout taken
  have pulled : ServerState.Running { s with timeind := none, queue := rest } := running_of_select pc
  have farewell := handleEvent_farewell now pulled last
  rw [ServerState.handleTimeout, locked_free (show ServerState.lock { s with timeind := none } =
    none from free)] at handled
  simp only [queued] at handled
  rw [← farewell, ← andThen_quiet, handled]

/-- The acknowledged clients are those whose calls have another side, each once. -/
theorem ShowsCalls.acknowledged {s : ServerState} {calls : Calls} (shows : ShowsCalls s calls) :
    (s.sip.acknowledged.map SIPClient.callid).Nodup ∧
      ∀ callid call, (calls callid = some call ∧ call.peer ≠ none) ↔
        ∃ client ∈ s.sip.acknowledged, client.callid = callid ∧ Call.of client = call := by
  constructor
  · rw [List.Nodup, List.pairwise_map, Sip.acknowledged]
    refine List.Pairwise.filterMap _ ?_ (List.nodup_finRange maxClients)
    intro j k apart first atJ second atK same
    obtain ⟨one, thereJ, shownJ⟩ := Option.bind_eq_some_iff.mp atJ
    obtain ⟨two, thereK, shownK⟩ := Option.bind_eq_some_iff.mp atK
    obtain rfl := Option.some.inj (Option.ite_none_right_eq_some.mp shownJ).2
    obtain rfl := Option.some.inj (Option.ite_none_right_eq_some.mp shownK).2
    exact apart (shows.keyed j k _ _ thereJ thereK same)
  · intro callid call
    constructor
    · rintro ⟨known, answered⟩
      obtain ⟨k, client, there, same, rfl⟩ := (shows.entries callid call).mp known
      have acked : client.ackrecvd = true := by
        by_contra waiting
        exact answered (if_neg waiting)
      exact ⟨client, Sip.mem_acknowledged.mpr ⟨k, there, acked⟩, same, rfl⟩
    · rintro ⟨client, member, rfl, rfl⟩
      obtain ⟨k, there, acked⟩ := Sip.mem_acknowledged.mp member
      refine ⟨shows.lookup there, ?_⟩
      simp [Call.of, acked]

/-- The BYE to a client is read as one of its call. -/
def Understood (client : SIPClient) : Prop :=
  ∃ read, parsesipmsg (byeText client) = .ok (0, read) ∧ read.type = .bye ∧
    ∀ header : StringHeader, header.value read = byeIds client header

/-- A call is made and acknowledged, by somebody with this name. -/
def acknowledged (callid name : String) (rtpfd : Int) : List Input :=
  datagram (callDatagram "INVITE" callid rtpfd) ++
    datagram { callDatagram "ACK" callid 20 with
      received := ascii ("ACK\r\nFrom: " ++ name ++ "\r\nTo: <sip:c@d>\r\nCall-ID: " ++ callid ++
        "\r\n\r\n") }

/-- Two clients call in, the second one with a name of 62 bytes, and the media ends at once. -/
def streamEnds : List Input :=
  connect 6 ++ acknowledged "1" "<sip:a@b>" 8 ++
    acknowledged "2" "<sip:aaaaaaaaaaaaaaaaaaaaaaaaaaaaaaaaaaaaaaaaaaaaaaaaaaaaa@bb>" 9 ++
    describe 6 7 someResponse ++ play 6 ++ media 7 someResponse someHeader ++ media 7 [] [7] ++
    [.filler 0 .wait, .filler 0 .spurious, .filler 0 (.resume someTime none ⟨0, 0⟩)]

end Http2Rtsp.Server
