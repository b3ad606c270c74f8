import Http2Rtsp.Message.SipReplies
import Http2Rtsp.Server.SipCalls

/-!
# The length of a 200 OK

`create_ok` counts the session description, `write_sip` writes a line end behind
it, and the caller sends the text of the reply to an INVITE but the whole of the
first `BUFLEN` bytes in reply to a BYE. Neither reply has the length it declares.
-/

namespace Http2Rtsp.Server

open Http2Rtsp.Std Http2Rtsp.Message Http2Rtsp.Semantics

/-- The bytes of a buffer which was cleared and then written. -/
def sentBytes (text : List UInt8) (size : Nat) : List UInt8 :=
  (text ++ List.replicate size 0).take size

/-- An INVITE for which there is room, or a BYE. -/
def Accepted (s : ServerState) (io : DatagramIo) : Prop :=
  ∃ msg, s.Reads io msg ∧
    ((msg.type = .invite ∧ s.sip.nclients < maxClients) ∨ msg.type = .bye)

/-- Every 200 OK put out has the length it declares. -/
def DeclaresLength (output : List Output) : Prop :=
  ∀ text size cliaddr, .okSent text size cliaddr ∈ output → LengthMatches (sentBytes text size)

/-- The 200 OK to a message is a message, and within `BUFLEN` unless it has a body. -/
theorem okText_framed {msg : SIPMsg} (received : msg.Received) : ∃ lines : List Line,
    lines.map Line.bytes = okLines msg ∧ okText msg = framed lines (okBody msg) := by
  obtain ⟨lines, same, written⟩ := writeSip_framed received
  exact ⟨lines, same, by rw [okText, written, Option.getD_some]⟩

/-- The text of a 200 OK, sent as it is, has two bytes more than declared when it answers an
INVITE. -/
theorem not_lengthMatches_invite {msg : SIPMsg} (received : msg.Received)
    (invite : msg.type = .invite) : ¬ LengthMatches (sentBytes (okText msg) (okText msg).length) := by
  obtain ⟨lines, same, text⟩ := okText_framed received
  have two : crlf.length = 2 := rfl
  rw [sentBytes, List.take_left, text, lengthMatches_framed same, okBody, okLength, if_pos invite,
    if_pos invite, List.length_append, two]
  omega

/-- The reply to a BYE is short. -/
theorem length_okText_bye {msg : SIPMsg} (received : msg.Received) (bye : msg.type = .bye) :
    (okText msg).length < bufLen := by
  have notInvite : msg.type ≠ .invite := fun invite => by cases bye.symm.trans invite
  have bound : ∀ header : StringHeader, (header.value msg).length < 100 := fun header =>
    (received.strings header).fits
  have via : msg.via.length < 100 := bound .via
  have from_ : msg.fromHeader.length < 100 := bound .fromHeader
  have to_ : msg.toHeader.length < 100 := bound .toHeader
  have callid : msg.callid.length < 100 := bound .callid
  have cseq : msg.cseq.length < 100 := bound .cseq
  have size : bufLen = 5000 := rfl
  rw [okText, writeSip_eq, Option.getD_some, size]
  simp [okLines, okBody, okLength, if_neg notInvite, sipLine, ascii, crlf, decimal]
  omega

/-- The buffer sent on a BYE goes on behind the text. -/
theorem not_lengthMatches_bye {msg : SIPMsg} (received : msg.Received) (bye : msg.type = .bye) :
    ¬ LengthMatches (sentBytes (okText msg) bufLen) := by
  have notInvite : msg.type ≠ .invite := fun invite => by cases bye.symm.trans invite
  have short := length_okText_bye received bye
  obtain ⟨lines, same, text⟩ := okText_framed received
  have bare : okBody msg = [] := if_neg notInvite
  have zeros : sentBytes (okText msg) bufLen =
      framed lines (List.replicate (bufLen - (okText msg).length) 0) := by
    rw [sentBytes, List.take_append, List.take_of_length_le short.le, List.take_replicate,
      Nat.min_eq_left (Nat.sub_le _ _)]
    rw [text, bare]
    simp [framed]
  rw [zeros, lengthMatches_framed same, okLength, if_neg notInvite, List.length_replicate]
  omega

/-- No reply to an INVITE or a BYE has the length it declares. -/
theorem handleDatagram_length {s : ServerState} {io : DatagramIo} (accepted : Accepted s io) :
    ¬ DeclaresLength (s.handleDatagram io).2 := by
  obtain ⟨msg, ⟨text, result, terminated, parsed⟩, type⟩ := accepted
  have received := parsesipmsg_received parsed
  have handled : (s.handleDatagram io).2 = ((s.buffered io).handleSip msg io).2 := by
    unfold ServerState.handleDatagram
    simp only [terminated, parsed]
    rfl
  intro declares
  rw [handled] at declares
  rcases type with ⟨invite, room⟩ | bye
  · refine not_lengthMatches_invite received invite (declares _ _ io.cliaddr ?_)
    have roomy : (s.buffered io).sip.nclients < maxClients := room
    simp only [ServerState.handleSip, invite, ServerState.invite, if_pos roomy]
    split
    · exact List.mem_cons_self
    · split <;> exact List.mem_cons_self
  · refine not_lengthMatches_bye received bye (declares _ _ io.cliaddr ?_)
    simp only [ServerState.handleSip, bye]
    exact List.mem_cons_self

/-- Only the SIP side of the state matters. -/
theorem Accepted.of_sip {s s' : ServerState} {io : DatagramIo} (same : s'.sip = s.sip)
    (accepted : Accepted s io) : Accepted s' io := by
  unfold Accepted ServerState.Reads at accepted ⊢
  rw [same]
  exact accepted

/-- A datagram which is handled in a run. -/
theorem datagram_output {url : List UInt8} {trace : List (Entry ServerState Input Output)}
    {state : ServerState} (run : (machine .mt url).Runs trace state)
    {entry : Entry ServerState Input Output} (member : entry ∈ trace) {io : DatagramIo}
    (given : entry.input = .datagram io) :
    ∃ s : ServerState, s.sip = entry.before.sip ∧ entry.output = (s.handleDatagram io).2 := by
  obtain ⟨after, taken⟩ := run.taken member
  rw [given] at taken
  have dispatched : entry.before.dispatch .mt .sip (fun _ => io.possible entry.before)
      (fun s _ => s.handleDatagram io) = .ok (after, entry.output) := taken
  obtain ⟨i, rest, -, -, -, handled⟩ := dispatch_cases dispatched
  exact ⟨{ entry.before with pc := .dispatch rest }, rfl, congrArg Prod.snd handled⟩

/-- In no run does `start_mt_server` answer an INVITE or a BYE with a 200 OK of the length which that
declares. -/
theorem declaresLength_never {url : List UInt8} {trace : List (Entry ServerState Input Output)}
    {state : ServerState} (run : (machine .mt url).Runs trace state)
    {entry : Entry ServerState Input Output} (member : entry ∈ trace) {io : DatagramIo}
    (given : entry.input = .datagram io) (accepted : Accepted entry.before io) :
    ¬ DeclaresLength entry.output := by
  obtain ⟨s, same, output⟩ := datagram_output run member given
  rw [output]
  exact handleDatagram_length (accepted.of_sip same)

/-- An INVITE in a run. -/
theorem invited_runs : ∃ trace state, (machine .mt someUrl).Runs trace state ∧
    ∃ entry ∈ trace, entry.input = .datagram (callDatagram "INVITE" "1" 6) ∧
      Accepted entry.before (callDatagram "INVITE" "1" 6) := by
  have ready : (machine .mt someUrl).step (startState .mt) (.ready [3]) =
      .ok ({ startState .mt with pc := .dispatch [3] }, []) := rfl
  have taken : ∃ next output, (machine .mt someUrl).step { startState .mt with pc := .dispatch [3] }
      (.datagram (callDatagram "INVITE" "1" 6)) = .ok (next, output) := ⟨_, _, rfl⟩
  obtain ⟨next, output, taken⟩ := taken
  refine ⟨_, _, ((Machine.Runs.initial (startState_initial .mt someUrl)).step ready).step taken, _,
    List.mem_append_right _ (List.mem_singleton.mpr rfl), rfl, ?_⟩
  exact ⟨_, ⟨_, _, rfl, rfl⟩, .inl ⟨rfl, show (0 : Int) < maxClients by decide⟩⟩

/-- The reply to that INVITE has not the length which it declares. -/
theorem declaresLength_never_invited : ∃ trace state, (machine .mt someUrl).Runs trace state ∧
    ∃ entry ∈ trace, entry.input = .datagram (callDatagram "INVITE" "1" 6) ∧
      ¬ DeclaresLength entry.output := by
  obtain ⟨trace, state, run, entry, member, given, accepted⟩ := invited_runs
  exact ⟨trace, state, run, entry, member, given, declaresLength_never run member given accepted⟩

/-- An INVITE is accepted and its 200 OK is longer than it declares. -/
theorem declaresLength_not_always : ¬ ∀ url trace state, (machine .mt url).Runs trace state →
    ∀ entry ∈ trace, ∀ io, entry.input = Input.datagram io → Accepted entry.before io →
      DeclaresLength entry.output := by
  intro always
  obtain ⟨trace, state, run, entry, member, given, accepted⟩ := invited_runs
  obtain ⟨s, same, output⟩ := datagram_output run member given
  have declares := always _ _ _ run entry member _ given accepted
  rw [output] at declares
  exact handleDatagram_length (accepted.of_sip same) declares

end Http2Rtsp.Server
