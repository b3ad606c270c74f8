import Http2Rtsp.Message.SipMemory
import Http2Rtsp.Message.SipReference
import Http2Rtsp.Message.SipRoundTrip

/-!
# A BYE is read as it was meant

The strings of the client go into the BYE and are parsed out of it again: the
Call-ID as it is, the two sides of the call exchanged. It has no line for a
length or a content type, so that no session description is looked for.
-/

namespace Http2Rtsp.Message

open Http2Rtsp.Std

/-- A scanned string begins with no white space. -/
theorem scanToReturn_plain {text string : List UInt8} (scanned : scanToReturn text = some string) :
    ∀ byte ∈ string.head?, isSpace byte = false := by
  unfold scanToReturn scanSet at scanned
  split at scanned
  · cases scanned
  · obtain rfl := Option.some.inj scanned
    intro byte first
    obtain ⟨rest, whole⟩ := List.takeWhile_prefix (fun byte : UInt8 => decide (byte ≠ 13))
      (l := skipSpace text)
    have begins : (text.dropWhile isSpace).head? = some byte := by
      rw [← skipSpace, ← whole, List.head?_append, Option.mem_def.mp first]
      rfl
    have plain := List.head?_dropWhile_not isSpace text
    rwa [begins] at plain

/-- A string of a parsed message is a value, unless it is empty. -/
theorem parsesipmsg_value {text : List UInt8} {result : Int} {msg : SIPMsg}
    (parsed : parsesipmsg text = .ok (result, msg)) (header : StringHeader)
    (nonempty : header.value msg ≠ []) : Value (header.value msg) := by
  have received := (parsesipmsg_received parsed).strings header
  have zeroed : msg ≠ SIPMsg.zero := by
    rintro rfl
    exact nonempty (by cases header <;> rfl)
  have blank : crlfcrlf <:+: text := by
    by_contra absent
    rw [parsesipmsg_of_no_block absent] at parsed
    exact zeroed (Prod.mk.inj (Except.ok.inj parsed)).2.symm
  have supported : sipMessageType text ≠ none := by
    intro unsupported
    obtain ⟨result', zero⟩ := parsesipmsg_of_unsupported unsupported
    exact zeroed (Prod.mk.inj (Except.ok.inj (parsed.symm.trans zero))).2
  obtain ⟨lines, body, rfl⟩ := framed_of_blank blank
  obtain ⟨type, known⟩ := Option.ne_none_iff_exists'.mp supported
  have some_ : lines ≠ [] := by
    rintro rfl
    exact supported rfl
  obtain ⟨-, -, -, rfl⟩ := (parsesipmsg_eq_ok_iff some_ known).mp parsed
  refine ⟨nonempty, ?_, received.free, received.fits⟩
  rw [(readPort_keeps _ _).1 header, value_readSipHeaders] at nonempty ⊢
  rcases List.eq_nil_or_concat ((stringReading header).values lines body) with none | ⟨_, last, here⟩
  · rw [none] at nonempty
    exact absurd rfl nonempty
  · have member : last ∈ (stringReading header).values lines body := by simp [here]
    obtain ⟨text, scanned⟩ := Reading.scan_of_mem_values member
    rw [here, List.concat_eq_append, List.getLastD_concat]
    exact scanToReturn_plain scanned

/-- The strings of a client are empty or values, as messages leave them. -/
structure SIPClient.FromMessages (client : SIPClient) : Prop where
  callid : client.callid ≠ [] → Value client.callid
  fromHeader : client.fromHeader ≠ [] → Value client.fromHeader
  toHeader : client.toHeader ≠ [] → Value client.toHeader

/-- The strings of a client which say what its call is. -/
structure SIPClient.Named (client : SIPClient) : Prop where
  callid : Value client.callid
  fromHeader : Value client.fromHeader
  toHeader : Value client.toHeader

/-- The lines of the BYE to a client. -/
def byeLines (client : SIPClient) : List (List UInt8) :=
  [ascii "BYE sip:kaisa@localhost SIP/2.0", sipLine "Via: " (byeVia client),
    sipLine "From: " client.toHeader, sipLine "To: " client.fromHeader,
    sipLine "Call-ID: " client.callid, sipLine "CSeq: " (ascii "20 BYE"),
    sipLine "Contact: " client.fromHeader, ascii "Max-Forwards: 70"]

/-- What is read in the BYE to a client. -/
def byeIds (client : SIPClient) : StringHeader → List UInt8
  | .fromHeader => client.toHeader
  | .via => byeVia client
  | .toHeader => client.fromHeader
  | .cseq => ascii "20 BYE"
  | .callid => client.callid

/-- The BYE is made of these lines and nothing else. -/
theorem byeText_eq (client : SIPClient) :
    byeText client = ((byeLines client).flatMap fun bytes => bytes ++ crlf) ++ crlf := by
  have request : ascii "BYE sip:kaisa@localhost SIP/2.0" ++ crlf =
      ascii "BYE sip:kaisa@localhost SIP/2.0\r\n" := rfl
  have forwards : ascii "Max-Forwards: 70" ++ crlf = ascii "Max-Forwards: 70\r\n" := rfl
  simp only [byeText, byeLines, headerLine, sipLine, ← request, ← forwards, List.flatMap_cons,
    List.flatMap_nil, List.append_assoc, List.append_nil]

section Named

variable {client : SIPClient}

theorem byeVia_free (named : client.Named) : 13 ∉ byeVia client := by
  have front : 13 ∉ ascii "SIP/2.0/UDP " := by decide +kernel
  have back : 13 ∉ ascii ";rport;branch=z9hG4bK12345" := by decide +kernel
  simp [byeVia, front, back, named.fromHeader.free]

/-- The strings of a BYE are values. -/
theorem byeIds_value (named : client.Named) (short : (byeVia client).length < fieldLen)
    (header : StringHeader) : Value (byeIds client header) := by
  have bye : Value (ascii "20 BYE") :=
    ⟨by decide +kernel, by decide +kernel, by decide +kernel, by decide +kernel⟩
  cases header with
  | fromHeader => exact named.toHeader
  | via =>
      refine ⟨by simp [byeIds, byeVia, ascii], fun byte member => ?_, byeVia_free named, short⟩
      obtain rfl : (83 : UInt8) = byte := by simpa [byeIds, byeVia, ascii] using member
      rfl
  | toHeader => exact named.fromHeader
  | cseq => exact bye
  | callid => exact named.callid

/-- Nothing in the lines ends a line. -/
theorem byeLines_proper (named : client.Named) :
    ∀ text ∈ byeLines client, text ≠ [] ∧ ¬ crlf <:+: text := by
  simp only [byeLines, List.forall_mem_cons]
  exact ⟨⟨by decide, no_crlf (by decide)⟩,
    sipLine_proper (by decide) (by decide) (byeVia_free named),
    sipLine_proper (by decide) (by decide) named.toHeader.free,
    sipLine_proper (by decide) (by decide) named.fromHeader.free,
    sipLine_proper (by decide) (by decide) named.callid.free,
    sipLine_proper (by decide) (by decide) (by decide),
    sipLine_proper (by decide) (by decide) named.fromHeader.free,
    ⟨by decide, no_crlf (by decide)⟩, fun _ member => absurd member List.not_mem_nil⟩

/-- None of them is a content type. -/
theorem byeLines_untyped (client : SIPClient) :
    ∀ text ∈ byeLines client, ¬ startsWith (ascii "Content-Type: ") text = true := by
  have other : ∀ {name : String} {value : List UInt8},
      startsWith (ascii name) (ascii "Content-Type: ") = false ∧
        startsWith (ascii "Content-Type: ") (ascii name) = false →
      ¬ startsWith (ascii "Content-Type: ") (sipLine name value) = true := fun apart =>
    Bool.eq_false_iff.mp
      (startsWith_apart (startsWith_iff.mpr (List.prefix_append _ _)) apart)
  simp only [byeLines, List.forall_mem_cons]
  exact ⟨by decide, other ⟨rfl, rfl⟩, other ⟨rfl, rfl⟩, other ⟨rfl, rfl⟩, other ⟨rfl, rfl⟩,
    other ⟨rfl, rfl⟩, other ⟨rfl, rfl⟩, by decide, fun _ member => absurd member List.not_mem_nil⟩

/-- The lines of a BYE with the name of a header: its own one, and no other. -/
theorem filterMap_byeLines (client : SIPClient) (header : StringHeader) :
    (byeLines client).filterMap (afterLiteral (ascii header.name)) =
      [if header = .toHeader then 32 :: client.fromHeader else byeIds client header] := by
  have request : ∀ header : StringHeader,
      afterLiteral (ascii header.name) (ascii "BYE sip:kaisa@localhost SIP/2.0") = none :=
    fun header => by cases header <;> rfl
  have forwards : ∀ header : StringHeader,
      afterLiteral (ascii header.name) (ascii "Max-Forwards: 70") = none := fun header => by
    cases header <;> rfl
  simp only [byeLines, List.filterMap_cons, request header, forwards header, List.filterMap_nil]
  have toSelf : afterLiteral (ascii "To:") (sipLine "To: " client.fromHeader) =
      some (32 :: client.fromHeader) := afterLiteral_self (ascii "To:") (32 :: client.fromHeader)
  cases header with
  | toHeader =>
      simp only [StringHeader.name, toSelf]
      simp (disch := exact ⟨rfl, rfl⟩) only [sipLine, afterLiteral_apart]
      rfl
  | _ =>
      simp (disch := exact ⟨rfl, rfl⟩) only [sipLine, StringHeader.name, afterLiteral_apart,
        afterLiteral_self]
      rfl

/-- They identify the call. -/
theorem byeLines_identifies (named : client.Named) (short : (byeVia client).length < fieldLen)
    {lines : List Line} (same : lines.map Line.bytes = byeLines client) :
    Identifies lines (byeIds client) := by
  intro header
  refine ⟨_, by rw [same, filterMap_byeLines], ?_⟩
  have value := byeIds_value named short header
  split
  · rename_i isTo
    subst isTo
    exact value.gives_blank
  · exact value.gives

/-- The text of the BYE is read as a BYE, with the strings it was made of. -/
theorem byeText_reads (named : client.Named) (short : (byeVia client).length < fieldLen) :
    ∃ read, parsesipmsg (byeText client) = .ok (0, read) ∧ read.type = .bye ∧
      ∀ header : StringHeader, header.value read = byeIds client header := by
  obtain ⟨lines, same⟩ := exists_lines (byeLines_proper named)
  have text : byeText client = framed lines [] := by
    rw [byeText_eq, framed, block_eq, same, List.append_nil]
  have some_ : lines ≠ [] := by
    rintro rfl
    cases same
  have known : sipMessageType (framed lines []) = some .bye := by
    rw [framed, block_eq, same]
    rfl
  have untyped : ∀ line ∈ lines, ¬ startsWith (ascii "Content-Type: ") line.bytes = true :=
    fun line member => byeLines_untyped client _ (same ▸ List.mem_map_of_mem member)
  have types : TypesFit lines [] := by
    rintro before line later rfl begins
    exact absurd begins (untyped line (List.mem_append_right _ List.mem_cons_self))
  rw [text]
  refine parsesipmsg_identifies some_ known (byeLines_identifies named short same) types ?_
  intro msg ok declares
  have declared := declares.2
  rw [sipHeaders_untyped ok untyped] at declared
  cases declared

/-- The BYE to a client, parsed, is a BYE of its call: the Call-ID is the client's, and each side is
named where the other one was. -/
theorem parsesipmsg_createBye (named : client.Named) (short : (byeVia client).length < fieldLen)
    (previous : SIPMsg) : ∃ bye text read,
      createBye previous client = .ok bye ∧ writeSip bye = some text ∧
        parsesipmsg text = .ok (0, read) ∧ read.type = .bye ∧
        ∀ header : StringHeader, header.value read = byeIds client header := by
  obtain ⟨bye, made⟩ : ∃ bye, createBye previous client = .ok bye := ⟨_, if_pos short⟩
  obtain ⟨read, parsed, type, values⟩ := byeText_reads named short
  exact ⟨bye, _, read, made, writeSip_of_createBye made, parsed, type, values⟩

end Named

/-- A client whose call has short names. -/
def namedClient : SIPClient where
  callid := ascii "1"
  sockfd := 6
  ackrecvd := true
  fromHeader := ascii "<sip:a@b>"
  toHeader := ascii "<sip:c@d>"
  cliaddr := ⟨1, 5060⟩

theorem namedClient_named : namedClient.Named :=
  ⟨⟨by decide +kernel, by decide +kernel, by decide +kernel, by decide +kernel⟩,
    ⟨by decide +kernel, by decide +kernel, by decide +kernel, by decide +kernel⟩,
    ⟨by decide +kernel, by decide +kernel, by decide +kernel, by decide +kernel⟩⟩

/-- Its BYE is read as a BYE of its call. -/
theorem parsesipmsg_createBye_named : ∃ bye text read,
    createBye SIPMsg.zero namedClient = .ok bye ∧ writeSip bye = some text ∧
      parsesipmsg text = .ok (0, read) ∧ read.type = .bye ∧
      ∀ header : StringHeader, header.value read = byeIds namedClient header :=
  parsesipmsg_createBye namedClient_named (by decide) SIPMsg.zero

end Http2Rtsp.Message
