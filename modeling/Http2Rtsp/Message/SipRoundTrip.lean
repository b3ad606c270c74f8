import Http2Rtsp.Message.SipReplies
import Http2Rtsp.Std.Positions

/-!
# A 200 OK identifies its request

The strings which identify a request are parsed out of it, copied, written into
the 200 OK and parsed out of that. They are the same again, since each of them
occurs once in the request and once in the 200 OK, and since no line of the
200 OK is taken for another.
-/

namespace Http2Rtsp.Message

open Http2Rtsp.Std

/-- What a header of a request begins with, blank included. -/
def StringHeader.fullName : StringHeader → String
  | .toHeader => "To: "
  | header => header.name

/-- A value which is not empty, begins with no white space, has no line end and fits its field. -/
structure Value (bytes : List UInt8) : Prop where
  nonempty : bytes ≠ []
  plain : ∀ byte ∈ bytes.head?, isSpace byte = false
  free : 13 ∉ bytes
  fits : bytes.length < fieldLen

/-- A body has an `m=audio` line with a port which fits its field. -/
def HasPort (body : List UInt8) : Prop :=
  ∃ audio, strstr (crlf ++ body) (ascii "m=audio") = some audio ∧
    ∀ port, scanWord (audio.drop 7) = some port → port.length < portLen

/-- The rest of what is read in a text fits: its content types, and the port of the session
description if its headers declare one. -/
def OthersFit (text : List UInt8) : Prop :=
  ∀ lines body, text = framed lines body → TypesFit lines body ∧
    ∀ type msg, sipHeaders lines body (typedSip type) = .ok msg → msg.Declares → HasPort body

/-- An INVITE or a BYE with a header block in which each of these headers occurs once and has this
value. -/
structure SipRequest (text : List UInt8) (ids : StringHeader → List UInt8) : Prop where
  kind : startsWith (ascii "INVITE") text = true ∨ startsWith (ascii "BYE") text = true
  block : crlfcrlf <:+: text
  once : ∀ header : StringHeader, headers header.fullName text = [ids header]
  oneTo : (headers "To:" text).length = 1
  value : ∀ header, Value (ids header)
  others : OthersFit text

/-- A value is read as it stands. -/
theorem Value.gives {bytes : List UInt8} (value : Value bytes) : Gives bytes bytes :=
  ⟨⟨[], rfl, fun _ member => absurd member List.not_mem_nil⟩, value.nonempty, value.plain,
    value.free, value.fits⟩

/-- It is read the same behind a blank. -/
theorem Value.gives_blank {bytes : List UInt8} (value : Value bytes) : Gives (32 :: bytes) bytes :=
  ⟨⟨[32], rfl, fun byte member => by rw [List.mem_singleton.mp member]; rfl⟩, value.nonempty,
    value.plain, value.free, value.fits⟩

/-- A longer literal is read off in two parts. -/
theorem afterLiteral_append (first second text : List UInt8) :
    afterLiteral (first ++ second) text = (afterLiteral first text).bind (afterLiteral second) := by
  by_cases begins : startsWith first text = true
  · obtain ⟨rest, rfl⟩ := startsWith_iff.mp begins
    have same : startsWith (first ++ second) (first ++ rest) = startsWith second rest := by
      apply Bool.eq_iff_iff.mpr
      rw [startsWith_iff, startsWith_iff, List.prefix_append_right_inj]
    rw [afterLiteral_self, Option.bind_some, afterLiteral, afterLiteral, same, List.length_append,
      List.drop_length_add_append]
  · have longer : ¬ startsWith (first ++ second) text = true := fun both => begins
      (startsWith_iff.mpr ((List.prefix_append _ _).trans (startsWith_iff.mp both)))
    rw [afterLiteral, if_neg longer, afterLiteral, if_neg begins, Option.bind_none]

/-- The port is read, and nothing else changes. -/
theorem sipPort_of_hasPort {msg : SIPMsg} {body : List UInt8} (has : msg.Declares → HasPort body) :
    ∃ after, sipPort msg (crlf ++ body) = .ok after ∧ after.type = msg.type ∧
      ∀ header : StringHeader, header.value after = header.value msg := by
  unfold sipPort
  split
  · rename_i declares
    obtain ⟨audio, found, fits⟩ := has declares
    obtain ⟨port, stored⟩ := storeString_of_fits msg.clirtpport fits
    simp only [found, stored, bind, Except.bind]
    exact ⟨_, rfl, rfl, fun header => by cases header <;> rfl⟩
  · exact ⟨msg, rfl, rfl, fun _ => rfl⟩

/-- A message whose headers identify it is parsed, and has their values. -/
theorem parsesipmsg_identifies {lines : List Line} {body : List UInt8}
    {ids : StringHeader → List UInt8} {type : SipMsgType} (some_ : lines ≠ [])
    (known : sipMessageType (framed lines body) = some type) (identifies : Identifies lines ids)
    (types : TypesFit lines body)
    (port : ∀ msg, sipHeaders lines body (typedSip type) = .ok msg → msg.Declares →
      HasPort body) :
    ∃ msg, parsesipmsg (framed lines body) = .ok (0, msg) ∧ msg.type = type ∧
      ∀ header : StringHeader, header.value msg = ids header := by
  obtain ⟨read, ok, kind, values⟩ := sipHeaders_identifies identifies types (typedSip type)
  obtain ⟨after, scanned, sameKind, sameValues⟩ := sipPort_of_hasPort (port read ok)
  refine ⟨after, ?_, sameKind.trans kind, fun header => (sameValues header).trans (values header)⟩
  rw [parsesipmsg_framed some_ body known]
  simp only [ok, scanned, bind, Except.bind]

/-! ## The request -/

/-- The headers of a request identify it. -/
theorem SipRequest.identifies {lines : List Line} {body : List UInt8}
    {ids : StringHeader → List UInt8} (request : SipRequest (framed lines body) ids) :
    Identifies lines ids := by
  have once : ∀ header : StringHeader,
      (lines.map Line.bytes).filterMap (afterLiteral (ascii header.fullName)) = [ids header] :=
    fun header => by
      rw [← headers_framed header.fullName lines body]
      exact request.once header
  have oneTo := request.oneTo
  rw [headers_framed] at oneTo
  intro header
  by_cases isTo : header = .toHeader
  · -- The one line which begins with `To:` is the one which begins with `To: `.
    subst isTo
    obtain ⟨given, only⟩ := List.length_eq_one_iff.mp oneTo
    have both := once .toHeader
    have literal : ascii "To: " = ascii "To:" ++ [32] := rfl
    have parts : (lines.map Line.bytes).filterMap (afterLiteral (ascii "To: ")) =
        ((lines.map Line.bytes).filterMap (afterLiteral (ascii "To:"))).filterMap
          (afterLiteral [32]) := by
      rw [List.filterMap_filterMap, literal]
      exact List.filterMap_congr fun text _ => afterLiteral_append _ _ text
    rw [StringHeader.fullName, parts, only] at both
    have blank : afterLiteral [32] given = some (ids .toHeader) := by
      rw [List.filterMap_cons] at both
      split at both
      · cases both
      · rename_i value here
        rw [here, (List.cons.inj both).1]
    have shape : given = 32 :: ids .toHeader := by
      unfold afterLiteral at blank
      split at blank
      · rename_i begins
        obtain ⟨rest, rfl⟩ := startsWith_iff.mp begins
        obtain rfl := Option.some.inj blank
        rfl
      · cases blank
    exact ⟨given, only, shape ▸ (request.value .toHeader).gives_blank⟩
  · have name : header.fullName = header.name := by
      cases header with
      | toHeader => exact absurd rfl isTo
      | _ => rfl
    exact ⟨ids header, name ▸ once header, (request.value header).gives⟩

/-- It is an INVITE or a BYE. -/
theorem SipRequest.type {text : List UInt8} {ids : StringHeader → List UInt8}
    (request : SipRequest text ids) :
    sipMessageType text = some .invite ∨ sipMessageType text = some .bye := by
  unfold sipMessageType
  rcases request.kind with invite | bye
  · exact .inl (if_pos invite)
  · have notInvite := Bool.eq_false_iff.mp (startsWith_apart bye
      (show startsWith (ascii "BYE") (ascii "INVITE") = false ∧ _ from ⟨rfl, rfl⟩))
    have notAck := Bool.eq_false_iff.mp (startsWith_apart bye
      (show startsWith (ascii "BYE") (ascii "ACK") = false ∧ _ from ⟨rfl, rfl⟩))
    rw [if_neg notInvite, if_neg notAck, if_pos bye]
    exact .inr rfl

/-- It is parsed, with its values. -/
theorem SipRequest.parsed {text : List UInt8} {ids : StringHeader → List UInt8}
    (request : SipRequest text ids) : ∃ msg, parsesipmsg text = .ok (0, msg) ∧
      ∀ header : StringHeader, header.value msg = ids header := by
  obtain ⟨lines, body, rfl⟩ := framed_of_blank request.block
  have some_ : lines ≠ [] := by
    rintro rfl
    rcases request.kind with invite | bye
    · cases invite
    · cases bye
  obtain ⟨types, port⟩ := request.others lines body rfl
  rcases request.type with known | known
  · obtain ⟨msg, parsed, -, values⟩ :=
      parsesipmsg_identifies some_ known request.identifies types (port _)
    exact ⟨msg, parsed, values⟩
  · obtain ⟨msg, parsed, -, values⟩ :=
      parsesipmsg_identifies some_ known request.identifies types (port _)
    exact ⟨msg, parsed, values⟩

/-! ## The 200 OK -/

/-- The lines of a 200 OK identify the message it was made from. -/
theorem okLines_identifies {msg : SIPMsg} {ids : StringHeader → List UInt8} {lines : List Line}
    (same : lines.map Line.bytes = okLines msg)
    (values : ∀ header : StringHeader, header.value msg = ids header)
    (proper : ∀ header, Value (ids header)) : Identifies lines ids := by
  intro header
  refine ⟨_, by rw [same, filterMap_okLines], ?_⟩
  split
  · rename_i isTo
    subst isTo
    rw [show msg.toHeader = ids .toHeader from values .toHeader]
    exact (proper .toHeader).gives_blank
  · rw [values header]
    exact (proper header).gives

/-- A word which is read in a line is in the line, unless nothing is in the line but white space. -/
theorem scanWord_line {text rest word : List UInt8}
    (scanned : scanWord (text ++ crlf ++ rest) = some word) :
    word.length ≤ text.length ∨ scanWord rest = some word := by
  by_cases blank : ∀ byte ∈ text, isSpace byte = true
  · right
    have skipped : skipSpace (text ++ crlf ++ rest) = skipSpace rest := by
      rw [skipSpace, List.append_assoc, List.dropWhile_append_of_pos blank]
      rfl
    rwa [scanWord, skipped] at scanned
  · left
    obtain ⟨first, tail, shape⟩ : ∃ first tail, text.dropWhile isSpace = first :: tail := by
      refine List.exists_cons_of_ne_nil fun empty => blank ?_
      exact List.dropWhile_eq_nil_iff.mp empty
    have begins : skipSpace (text ++ crlf ++ rest) = first :: tail ++ crlf ++ rest := by
      rw [skipSpace, List.append_assoc, List.dropWhile_append, shape]
      simp
    rw [scanWord, begins, scanSet] at scanned
    split at scanned
    · cases scanned
    · obtain rfl := Option.some.inj scanned
      have inside : (first :: tail ++ crlf ++ rest).takeWhile (fun byte => !isSpace byte) =
          (first :: tail).takeWhile fun byte => !isSpace byte := by
        rw [List.append_assoc, List.takeWhile_append]
        split
        · rename_i whole
          have stops : (crlf ++ rest).takeWhile (fun byte => !isSpace byte) = [] := rfl
          rw [stops, List.append_nil]
          exact ((List.takeWhile_prefix _).eq_of_length whole).symm
        · rfl
      rw [inside, ← shape]
      exact (List.takeWhile_prefix _).length_le.trans (List.dropWhile_suffix _).length_le

/-- The lines of a 200 OK in front of its content type. -/
def okFront (msg : SIPMsg) : List (List UInt8) :=
  [ascii "SIP/2.0 200 OK", sipLine "Via: " msg.via, sipLine "From: " msg.fromHeader,
    sipLine "To: " msg.toHeader, sipLine "Call-ID: " msg.callid, sipLine "CSeq: " msg.cseq,
    sipLine "Contact: " msg.toHeader, ascii "Max-Forwards: 70"]

/-- None of them is a content type, and neither is the length. -/
theorem okFront_untyped (msg : SIPMsg) :
    (∀ text ∈ okFront msg, ¬ startsWith (ascii "Content-Type: ") text = true) ∧
      ∀ length, ¬ startsWith (ascii "Content-Type: ") (sipLine "Content-Length: " length) = true := by
  have other : ∀ {name : String} {value : List UInt8},
      startsWith (ascii name) (ascii "Content-Type: ") = false ∧
        startsWith (ascii "Content-Type: ") (ascii name) = false →
      ¬ startsWith (ascii "Content-Type: ") (sipLine name value) = true := fun apart =>
    Bool.eq_false_iff.mp
      (startsWith_apart (startsWith_iff.mpr (List.prefix_append _ _)) apart)
  refine ⟨?_, fun length => other ⟨rfl, rfl⟩⟩
  simp only [okFront, List.forall_mem_cons]
  exact ⟨by decide, other ⟨rfl, rfl⟩, other ⟨rfl, rfl⟩, other ⟨rfl, rfl⟩, other ⟨rfl, rfl⟩,
    other ⟨rfl, rfl⟩, other ⟨rfl, rfl⟩, by decide, fun _ member => absurd member List.not_mem_nil⟩

/-- The content type read in a 200 OK fits: it is that of the INVITE, or the next word. -/
theorem okLines_typesFit {msg : SIPMsg} (received : msg.Received) {lines : List Line}
    (same : lines.map Line.bytes = okLines msg) (body : List UInt8) : TypesFit lines body := by
  intro before line later split begins word scanned
  obtain ⟨untyped, length⟩ := okFront_untyped msg
  rw [split, List.map_append, List.map_cons] at same
  by_cases invite : msg.type = .invite
  · have whole : okLines msg = okFront msg ++ sipLine "Content-Type: " msg.contenttype ::
        [sipLine "Content-Length: " (decimal (okLength msg))] := by
      simp only [okLines, if_pos invite, okFront, List.append_assoc, List.singleton_append]
    rw [whole] at same
    obtain ⟨-, bytes, rest⟩ := split_unique same begins untyped (by
      rw [List.forall_mem_singleton]
      exact length _)
    have behind : (framed (line :: later) body).drop 14 =
        msg.contenttype ++ crlf ++ framed later body := by
      rw [framed_cons, bytes]
      rfl
    have next : ∃ text, framed later body = ascii "Content-Length: " ++ text := by
      rw [framed, block_eq, rest, List.flatMap_singleton, sipLine]
      simp only [List.append_assoc]
      exact ⟨_, rfl⟩
    obtain ⟨text, next⟩ := next
    rw [behind, next] at scanned
    rcases scanWord_line scanned with inside | following
    · exact inside.trans_lt received.contenttype.fits
    · have read : scanWord (ascii "Content-Length: " ++ text) = some (ascii "Content-Length:") := rfl
      obtain rfl := Option.some.inj (read.symm.trans following)
      decide
  · have whole : okLines msg =
        okFront msg ++ [sipLine "Content-Length: " (decimal (okLength msg))] := by
      simp only [okLines, if_neg invite, okFront, List.append_nil]
    have member : line.bytes ∈ okLines msg := by simp [← same]
    rw [whole] at member
    rcases List.mem_append.mp member with front | last
    · exact absurd begins (untyped _ front)
    · rw [List.mem_singleton.mp last] at begins
      exact absurd begins (length _)

/-- The session description has a port. -/
theorem hasPort_sdp : HasPort (sipSdp ++ crlf) := by
  refine ⟨ascii "m=audio 47522 RTP/AVP 8\r\na=rtpmap:8 PCMA/8000/1\r\n" ++ crlf,
    by decide +kernel, fun port scanned => ?_⟩
  have read : scanWord ((ascii "m=audio 47522 RTP/AVP 8\r\na=rtpmap:8 PCMA/8000/1\r\n" ++ crlf).drop 7) =
      some (ascii "47522") := rfl
  obtain rfl := Option.some.inj (read.symm.trans scanned)
  decide

/-- What is read in a 200 OK that declares a session description has a port. -/
theorem okBody_hasPort {msg read : SIPMsg} {lines : List Line} {type : SipMsgType}
    (same : lines.map Line.bytes = okLines msg)
    (ok : sipHeaders lines (okBody msg) (typedSip type) = .ok read) (declares : read.Declares) :
    HasPort (okBody msg) := by
  by_cases invite : msg.type = .invite
  · rw [okBody, if_pos invite]
    exact hasPort_sdp
  · -- Without a content type there is no session description.
    have untyped : ∀ line ∈ lines, ¬ startsWith (ascii "Content-Type: ") line.bytes = true := by
      intro line member
      obtain ⟨front, length⟩ := okFront_untyped msg
      have inLines : line.bytes ∈ okLines msg := same ▸ List.mem_map_of_mem member
      have whole : okLines msg =
          okFront msg ++ [sipLine "Content-Length: " (decimal (okLength msg))] := by
        simp only [okLines, if_neg invite, okFront, List.append_nil]
      rw [whole] at inLines
      rcases List.mem_append.mp inLines with inFront | last
      · exact front _ inFront
      · rw [List.mem_singleton.mp last]
        exact length _
    have empty := sipHeaders_untyped ok untyped
    have declared := declares.2
    rw [empty] at declared
    cases declared

/-- A request without a content type declares no session description. -/
theorem othersFit_of_untyped {text : List UInt8} (untyped : headers "Content-Type: " text = []) :
    OthersFit text := by
  rintro lines body rfl
  rw [headers_framed] at untyped
  have none_ : ∀ line ∈ lines, ¬ startsWith (ascii "Content-Type: ") line.bytes = true := by
    intro line member begins
    have read := List.filterMap_eq_nil_iff.mp untyped _ (List.mem_map_of_mem member)
    rw [afterLiteral, if_pos begins] at read
    cases read
  constructor
  · rintro before line later rfl begins
    exact absurd begins (none_ line (List.mem_append_right _ List.mem_cons_self))
  · intro type msg ok declares
    have declared := declares.2
    rw [sipHeaders_untyped ok none_] at declared
    cases declared

/-- The 200 OK to a request, parsed, has the type and the strings of the request. -/
theorem parsesipmsg_createOk {text : List UInt8} {ids : StringHeader → List UInt8}
    (request : SipRequest text ids) : ∃ msg reply ok,
      parsesipmsg text = .ok (0, msg) ∧ writeSip (createOk msg) = some reply ∧
        parsesipmsg reply = .ok (0, ok) ∧ ok.type = .sipok ∧
        ∀ header : StringHeader, header.value ok = ids header := by
  obtain ⟨msg, parsed, values⟩ := request.parsed
  have received := parsesipmsg_received parsed
  obtain ⟨lines, same, written⟩ := writeSip_framed received
  have some_ : lines ≠ [] := by
    rintro rfl
    cases same
  have known : sipMessageType (framed lines (okBody msg)) = some .sipok := by
    rw [framed, block_eq, same]
    rfl
  obtain ⟨ok, read, type, again⟩ := parsesipmsg_identifies some_ known
    (okLines_identifies same values request.value) (okLines_typesFit received same _)
    (fun _ made declares => okBody_hasPort same made declares)
  exact ⟨msg, _, ok, parsed, written, read, type, again⟩

/-- An INVITE with other headers around those which identify it. -/
def someInvite : List UInt8 :=
  ascii "INVITE sip:a SIP/2.0\r\nCall-ID: c\r\nExpires: 1\r\nTo: t\r\nVia: v\r\nFrom: f\r\nCSeq: 1\r\n\r\n"

/-- Its values. -/
def someIds : StringHeader → List UInt8
  | .fromHeader => ascii "f"
  | .via => ascii "v"
  | .toHeader => ascii "t"
  | .cseq => ascii "1"
  | .callid => ascii "c"

/-- They come back in the 200 OK to it. -/
theorem parsesipmsg_createOk_invite : ∃ msg reply ok,
    parsesipmsg someInvite = .ok (0, msg) ∧ writeSip (createOk msg) = some reply ∧
      parsesipmsg reply = .ok (0, ok) ∧ ok.type = .sipok ∧
      ∀ header : StringHeader, header.value ok = someIds header := by
  refine parsesipmsg_createOk ⟨.inl rfl, by decide +kernel, fun header => ?_, by decide +kernel,
    fun header => ?_, othersFit_of_untyped (by decide +kernel)⟩
  · cases header <;> decide +kernel
  · cases header <;>
      exact ⟨by decide +kernel, by decide +kernel, by decide +kernel, by decide +kernel⟩

end Http2Rtsp.Message
