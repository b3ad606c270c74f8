import Http2Rtsp.Message.Answers
import Http2Rtsp.Message.SipHeaders

/-!
# The 200 OK as a message

What `write_sip` makes of `create_ok`: lines and, to an INVITE, a session
description with a line end which `contentlen` does not count. Only an INVITE has
its content type repeated.
-/

namespace Http2Rtsp.Message

open Http2Rtsp.Std

/-- The line of a header. -/
def sipLine (name : String) (value : List UInt8) : List UInt8 := ascii name ++ value

/-- What the `Content-Length` of the 200 OK says. -/
def okLength (msg : SIPMsg) : Nat := if msg.type = .invite then sipSdp.length else 0

/-- The lines of the 200 OK to a message. -/
def okLines (msg : SIPMsg) : List (List UInt8) :=
  [ascii "SIP/2.0 200 OK", sipLine "Via: " msg.via, sipLine "From: " msg.fromHeader,
    sipLine "To: " msg.toHeader, sipLine "Call-ID: " msg.callid, sipLine "CSeq: " msg.cseq,
    sipLine "Contact: " msg.toHeader, ascii "Max-Forwards: 70"] ++
  (if msg.type = .invite then [sipLine "Content-Type: " msg.contenttype] else []) ++
  [sipLine "Content-Length: " (decimal (okLength msg))]

/-- What is written behind them. -/
def okBody (msg : SIPMsg) : List UInt8 := if msg.type = .invite then sipSdp ++ crlf else []

theorem sipSdp_positive : 0 < sipSdp.length := by
  simp [sipSdp, ascii]

/-- The 200 OK is made of these lines and this body. -/
theorem writeSip_eq (msg : SIPMsg) :
    writeSip (createOk msg) =
      some (((okLines msg).flatMap fun bytes => bytes ++ crlf) ++ crlf ++ okBody msg) := by
  have status : ascii "SIP/2.0 200 OK" ++ crlf = ascii "SIP/2.0 200 OK\r\n" := rfl
  have forwards : ascii "Max-Forwards: 70" ++ crlf = ascii "Max-Forwards: 70\r\n" := rfl
  by_cases invite : msg.type = .invite
  · have type : (createOk msg).type = .sipok := by simp only [createOk, if_pos invite]
    have fields : (createOk msg).fields = sipContents ||| sipContenttype ||| (sipType ||| sipVia |||
        sipFrom ||| sipTo ||| sipContentlen ||| sipCallid ||| sipCseq) := by
      simp only [createOk, if_pos invite]
    have conttype : (createOk msg).has sipContenttype = true := by
      rw [SIPMsg.has, fields]
      rfl
    have contlen : (createOk msg).has sipContentlen = true := by
      rw [SIPMsg.has, fields]
      rfl
    have positive : 0 < (createOk msg).contentlen := by
      simp only [createOk, if_pos invite]
      exact Int.natCast_pos.mpr sipSdp_positive
    rw [writeSip, type, conttype, contlen, if_pos rfl, if_pos rfl, if_pos ⟨rfl, positive⟩]
    simp only [okLines, okBody, okLength, if_pos invite, createOk, headerLine, sipLine, ← status,
      ← forwards, Option.map_some, List.flatMap_append, List.flatMap_cons, List.flatMap_nil,
      List.append_assoc, List.append_nil]
  · have type : (createOk msg).type = .sipok := by simp only [createOk, if_neg invite]
    have fields : (createOk msg).fields = 0 ||| (sipType ||| sipVia |||
        sipFrom ||| sipTo ||| sipContentlen ||| sipCallid ||| sipCseq) := by
      simp only [createOk, if_neg invite]
      rfl
    have conttype : (createOk msg).has sipContenttype = false := by
      rw [SIPMsg.has, fields]
      rfl
    have contlen : (createOk msg).has sipContentlen = true := by
      rw [SIPMsg.has, fields]
      rfl
    have zero : (createOk msg).contentlen = 0 := by
      simp only [createOk, if_neg invite]
      rfl
    rw [writeSip, type, conttype, contlen, if_neg Bool.false_ne_true, if_pos rfl,
      if_neg (by rw [zero]; simp), zero]
    simp only [okLines, okBody, okLength, if_neg invite, createOk, headerLine, sipLine, ← status,
      ← forwards, Option.map_some, List.flatMap_append, List.flatMap_cons, List.flatMap_nil,
      List.append_assoc, List.append_nil]
    rfl

/-! ## Read as a message -/

theorem sipLine_proper {name : String} {value : List UInt8} (nonempty : ascii name ≠ [])
    (nameFree : 13 ∉ ascii name) (valueFree : 13 ∉ value) :
    sipLine name value ≠ [] ∧ ¬ crlf <:+: sipLine name value := by
  refine ⟨by simp [sipLine, nonempty], no_crlf fun occurs => ?_⟩
  exact (List.mem_append.mp occurs).elim nameFree valueFree

/-- Nothing in the lines ends a line. -/
theorem okLines_proper {msg : SIPMsg} (received : msg.Received) :
    ∀ text ∈ okLines msg, text ≠ [] ∧ ¬ crlf <:+: text := by
  intro text member
  simp only [okLines, List.mem_append, List.mem_cons, List.not_mem_nil, or_false] at member
  rcases member with ((status | via | from_ | to_ | callid | cseq | contact | forwards) | conttype) |
    contlen
  · subst status
    exact ⟨by decide, no_crlf (by decide)⟩
  · subst via
    exact sipLine_proper (by decide) (by decide) (received.strings .via).free
  · subst from_
    exact sipLine_proper (by decide) (by decide) (received.strings .fromHeader).free
  · subst to_
    exact sipLine_proper (by decide) (by decide) (received.strings .toHeader).free
  · subst callid
    exact sipLine_proper (by decide) (by decide) (received.strings .callid).free
  · subst cseq
    exact sipLine_proper (by decide) (by decide) (received.strings .cseq).free
  · subst contact
    exact sipLine_proper (by decide) (by decide) (received.strings .toHeader).free
  · subst forwards
    exact ⟨by decide, no_crlf (by decide)⟩
  · split at conttype
    · obtain rfl := List.mem_singleton.mp conttype
      exact sipLine_proper (by decide) (by decide) received.contenttype.free
    · cases conttype
  · subst contlen
    exact sipLine_proper (by decide) (by decide) (decimal_no_cr _)

/-- The 200 OK to a message is a header block and a body. -/
theorem writeSip_framed {msg : SIPMsg} (received : msg.Received) :
    ∃ lines : List Line, lines.map Line.bytes = okLines msg ∧
      writeSip (createOk msg) = some (framed lines (okBody msg)) := by
  obtain ⟨lines, same⟩ := exists_lines (okLines_proper received)
  refine ⟨lines, same, ?_⟩
  rw [writeSip_eq, ← same, ← block_eq]
  rfl

/-- The lines of the 200 OK with the name of a header: its own one, and no other. -/
theorem filterMap_okLines (msg : SIPMsg) (header : StringHeader) :
    (okLines msg).filterMap (afterLiteral (ascii header.name)) =
      [if header = .toHeader then 32 :: msg.toHeader else header.value msg] := by
  have status : ∀ header : StringHeader,
      afterLiteral (ascii header.name) (ascii "SIP/2.0 200 OK") = none := fun header => by
    cases header <;> rfl
  have forwards : ∀ header : StringHeader,
      afterLiteral (ascii header.name) (ascii "Max-Forwards: 70") = none := fun header => by
    cases header <;> rfl
  have conttype : ∀ header : StringHeader,
      ((if msg.type = .invite then [sipLine "Content-Type: " msg.contenttype] else []).filterMap
        (afterLiteral (ascii header.name))) = [] := by
    intro header
    have other : afterLiteral (ascii header.name) (sipLine "Content-Type: " msg.contenttype) = none := by
      cases header <;> exact afterLiteral_apart _ ⟨rfl, rfl⟩
    split
    · simp [other]
    · rfl
  rw [okLines, List.filterMap_append, List.filterMap_append, conttype, List.append_nil]
  simp only [List.filterMap_cons, status header, forwards header, List.filterMap_nil]
  have toSelf : afterLiteral (ascii "To:") (sipLine "To: " msg.toHeader) =
      some (32 :: msg.toHeader) := afterLiteral_self (ascii "To:") (32 :: msg.toHeader)
  cases header with
  | fromHeader =>
      simp (disch := exact ⟨rfl, rfl⟩) only [sipLine, StringHeader.name, afterLiteral_apart,
        afterLiteral_self]
      rfl
  | via =>
      simp (disch := exact ⟨rfl, rfl⟩) only [sipLine, StringHeader.name, afterLiteral_apart,
        afterLiteral_self]
      rfl
  | toHeader =>
      simp only [StringHeader.name, toSelf]
      simp (disch := exact ⟨rfl, rfl⟩) only [sipLine, afterLiteral_apart]
      rfl
  | cseq =>
      simp (disch := exact ⟨rfl, rfl⟩) only [sipLine, StringHeader.name, afterLiteral_apart,
        afterLiteral_self]
      rfl
  | callid =>
      simp (disch := exact ⟨rfl, rfl⟩) only [sipLine, StringHeader.name, afterLiteral_apart,
        afterLiteral_self]
      rfl

/-! ## Lengths -/

/-- What the `Content-Length` of a message says. -/
def declaredLength (text : List UInt8) : Option Int :=
  match headers "Content-Length: " text with
  | [value] => scanInt value
  | _ => none

/-- What follows the first blank line. -/
def bodyOf (text : List UInt8) : Option (List UInt8) :=
  (strstr text crlfcrlf).map fun found => found.drop crlfcrlf.length

/-- The body is as long as it is declared to be. -/
def LengthMatches (text : List UInt8) : Prop :=
  ∃ body, bodyOf text = some body ∧ declaredLength text = some (body.length : Int)

/-- The lines of the 200 OK declare one length. -/
theorem filterMap_okLines_length (msg : SIPMsg) :
    (okLines msg).filterMap (afterLiteral (ascii "Content-Length: ")) =
      [decimal (okLength msg)] := by
  have conttype : (if msg.type = .invite then
      [sipLine "Content-Type: " msg.contenttype] else []).filterMap
        (afterLiteral (ascii "Content-Length: ")) = [] := by
    have other : afterLiteral (ascii "Content-Length: ")
        (sipLine "Content-Type: " msg.contenttype) = none := afterLiteral_apart _ ⟨rfl, rfl⟩
    split
    · simp [other]
    · rfl
  have status : afterLiteral (ascii "Content-Length: ") (ascii "SIP/2.0 200 OK") = none := rfl
  have forwards : afterLiteral (ascii "Content-Length: ") (ascii "Max-Forwards: 70") = none := rfl
  rw [okLines, List.filterMap_append, List.filterMap_append, conttype, List.append_nil]
  simp (disch := exact ⟨rfl, rfl⟩) only [List.filterMap_cons, status, forwards, sipLine,
    afterLiteral_apart, afterLiteral_self, List.filterMap_nil]
  rfl

/-- A message with the lines of a 200 OK and this body. -/
theorem lengthMatches_framed {msg : SIPMsg} {lines : List Line} (same : lines.map Line.bytes = okLines msg)
    (body : List UInt8) : LengthMatches (framed lines body) ↔ body.length = okLength msg := by
  have some_ : lines ≠ [] := by
    rintro rfl
    cases same
  have bounded : IsInt (okLength msg) := by
    have sdp : sipSdp.length < 1000 := by simp [sipSdp, ascii]
    unfold okLength IsInt
    split <;> omega
  have declared : declaredLength (framed lines body) = some (okLength msg : Int) := by
    have value : headers "Content-Length: " (framed lines body) = [decimal (okLength msg)] := by
      rw [headers_framed, same, filterMap_okLines_length]
    have read := @scanInt_decimal _ bounded [] (by simp)
    rw [List.append_nil] at read
    rw [declaredLength, value]
    exact read
  have found : bodyOf (framed lines body) = some body := by
    rw [bodyOf, strstr_blank some_, Option.map_some, List.drop_left]
  rw [LengthMatches, declared, found]
  constructor
  · rintro ⟨body', here, length⟩
    obtain rfl := Option.some.inj here
    exact Int.ofNat.inj (Option.some.inj length).symm
  · intro length
    exact ⟨body, rfl, by rw [length]⟩

end Http2Rtsp.Message
