import Http2Rtsp.Message.Sip
import Http2Rtsp.Std.Memory

/-!
# A BYE in memory

`create_bye` and `write_sip` on the bytes of a `SIPMsg`, its fields laid out in the order of their
declaration. The message of the caller holds anything, and `bzero(bye, sizeof(bye))` clears the
size of a pointer. `SIPMsg.LiesIn` connects the bytes to the record.
-/

namespace Http2Rtsp.Message

open Http2Rtsp.Std

/-- `CONTENTLEN`. -/
def contentLen : Nat := 3000

/-! Offsets in `SIPMsg`. `contentlen` is aligned to four bytes. -/

def fieldsAt : Nat := 0
def typeAt : Nat := 4
def toAt : Nat := 8
def fromAt : Nat := toAt + fieldLen
def clirtpportAt : Nat := fromAt + fieldLen
def viaAt : Nat := clirtpportAt + portLen
def callidAt : Nat := viaAt + fieldLen
def cseqAt : Nat := callidAt + fieldLen
def contentlenAt : Nat := (cseqAt + fieldLen + 3) / 4 * 4
def contenttypeAt : Nat := contentlenAt + 4
def contentsAt : Nat := contenttypeAt + fieldLen
def sipMsgSize : Nat := contentsAt + contentLen

/-- The enumerators of `enum sipmsgtypes`. -/
def SipMsgType.code : SipMsgType → BitVec 32
  | .invite => 0
  | .sipok => 1
  | .ack => 2
  | .bye => 3

/-- What `create_bye` stores in `via`. -/
def byeVia (client : SIPClient) : List UInt8 :=
  ascii "SIP/2.0/UDP " ++ client.fromHeader ++ ascii ";rport;branch=z9hG4bK12345"

/-- `create_bye`, statement by statement. -/
def createByeAt (bye : Memory) (client : SIPClient) : Memory :=
  let bye := bye.clear 0 8
  let bye := bye.write typeAt (Memory.intBytes SipMsgType.bye.code)
  let bye := bye.strcpy fromAt client.toHeader
  let bye := bye.strcpy toAt client.fromHeader
  let bye := bye.strcpy callidAt client.callid
  let bye := bye.strcpy cseqAt (ascii "20 BYE")
  let bye := bye.write contentlenAt (Memory.intBytes 0)
  bye.strcpy viaAt (byeVia client)

/-- A `%s` of `write_sip`: the string at an offset of the message. -/
def stringAt (msg : Memory) (offset : Nat) : Except Undefined (List UInt8) :=
  match msg.string sipMsgSize offset with
  | some text => .ok text
  | none => .error .unterminated

/-- The Content-Type line of `write_sip`, if the message has one. -/
def typeLineAt (msg : Memory) : Except Undefined (List UInt8) :=
  if msg.int fieldsAt &&& sipContenttype ≠ 0 then
    (stringAt msg contenttypeAt).map (headerLine "Content-Type: ")
  else .ok []

/-- Its Content-Length line. -/
def lengthLineAt (msg : Memory) : List UInt8 :=
  if msg.int fieldsAt &&& sipContentlen ≠ 0 then
    headerLine "Content-Length: " (decimal (msg.int contentlenAt).toInt)
  else []

/-- The body behind the blank line. -/
def bodyAt (msg : Memory) : Except Undefined (List UInt8) :=
  if msg.int fieldsAt &&& sipContentlen ≠ 0 ∧ 0 < (msg.int contentlenAt).toInt then
    (stringAt msg contentsAt).map (· ++ crlf)
  else .ok []

/-- `write_sip`: the text in `buf`, or `none` for the value -1. -/
def writeSipAt (msg : Memory) : Except Undefined (Option (List UInt8)) :=
  let type := msg.int typeAt
  let start :=
    if type = SipMsgType.sipok.code then some (ascii "SIP/2.0 200 OK\r\n")
    else if type = SipMsgType.bye.code then some (ascii "BYE sip:kaisa@localhost SIP/2.0\r\n")
    else none
  match start with
  | none => .ok none
  | some start => do
      let via ← stringAt msg viaAt
      let fromHeader ← stringAt msg fromAt
      let toHeader ← stringAt msg toAt
      let callid ← stringAt msg callidAt
      let cseq ← stringAt msg cseqAt
      let typeLine ← typeLineAt msg
      let body ← bodyAt msg
      .ok (some (start ++ headerLine "Via: " via ++ headerLine "From: " fromHeader ++
        headerLine "To: " toHeader ++ headerLine "Call-ID: " callid ++ headerLine "CSeq: " cseq ++
        headerLine "Contact: " toHeader ++ ascii "Max-Forwards: 70\r\n" ++ typeLine ++
        lengthLineAt msg ++ crlf ++ body))

/-! ## Bytes and record -/

/-- What `write_sip` reads of a message lies at the offsets of its fields. -/
structure SIPMsg.LiesIn (msg : SIPMsg) (memory : Memory) : Prop where
  fields : memory.int fieldsAt = msg.fields
  type : memory.int typeAt = msg.type.code
  via : memory.Holds viaAt msg.via
  fromHeader : memory.Holds fromAt msg.fromHeader
  toHeader : memory.Holds toAt msg.toHeader
  callid : memory.Holds callidAt msg.callid
  cseq : memory.Holds cseqAt msg.cseq
  short : msg.via.length < fieldLen ∧ msg.fromHeader.length < fieldLen ∧
    msg.toHeader.length < fieldLen ∧ msg.callid.length < fieldLen ∧ msg.cseq.length < fieldLen
  contentlen : (memory.int contentlenAt).toInt = msg.contentlen
  contenttype : msg.has sipContenttype →
    memory.Holds contenttypeAt msg.contenttype ∧ msg.contenttype.length < fieldLen
  contents : msg.has sipContentlen → 0 < msg.contentlen →
    memory.Holds contentsAt msg.contents ∧ msg.contents.length < contentLen

/-- A string within its field is read. -/
theorem stringAt_of_holds {memory : Memory} {offset : Nat} {text : List UInt8}
    (holds : memory.Holds offset text) (room : offset + text.length < sipMsgSize) :
    stringAt memory offset = .ok text := by
  rw [stringAt, holds.string room]

/-- Every field which `write_sip` reads lies before the contents. -/
theorem stringAt_of_field {memory : Memory} {offset : Nat} {text : List UInt8}
    (holds : memory.Holds offset text) (short : text.length < fieldLen)
    (before : offset ≤ contenttypeAt) : stringAt memory offset = .ok text := by
  have field : fieldLen = 100 := rfl
  have last : contenttypeAt = 524 := rfl
  have size : sipMsgSize = 3624 := rfl
  exact stringAt_of_holds holds (by omega)

section
variable {msg : SIPMsg} {memory : Memory}

/-- The Content-Type line is that of the record. -/
theorem typeLineAt_of_liesIn (lies : msg.LiesIn memory) : typeLineAt memory =
    .ok (if msg.has sipContenttype then headerLine "Content-Type: " msg.contenttype else []) := by
  rw [typeLineAt, lies.fields]
  by_cases set : msg.fields &&& sipContenttype ≠ 0
  · have bit : msg.has sipContenttype = true := by simpa [SIPMsg.has] using set
    obtain ⟨holds, short⟩ := lies.contenttype bit
    rw [if_pos set, if_pos bit, stringAt_of_field holds short le_rfl]
    rfl
  · have bit : ¬ msg.has sipContenttype = true := by simpa [SIPMsg.has] using set
    rw [if_neg set, if_neg bit]

/-- So is the Content-Length line. -/
theorem lengthLineAt_of_liesIn (lies : msg.LiesIn memory) : lengthLineAt memory =
    if msg.has sipContentlen then headerLine "Content-Length: " (decimal msg.contentlen)
    else [] := by
  rw [lengthLineAt, lies.fields, lies.contentlen]
  simp [SIPMsg.has]

/-- So is the body. -/
theorem bodyAt_of_liesIn (lies : msg.LiesIn memory) : bodyAt memory =
    .ok (if msg.has sipContentlen ∧ 0 < msg.contentlen then msg.contents ++ crlf else []) := by
  rw [bodyAt, lies.fields, lies.contentlen]
  by_cases set : msg.fields &&& sipContentlen ≠ 0 ∧ 0 < msg.contentlen
  · have bit : msg.has sipContentlen = true ∧ 0 < msg.contentlen := by
      simpa [SIPMsg.has] using set
    obtain ⟨holds, short⟩ := lies.contents bit.1 bit.2
    have last : contentsAt + contentLen = sipMsgSize := rfl
    rw [if_pos set, if_pos bit, stringAt_of_holds holds (by omega)]
    rfl
  · have bit : ¬ (msg.has sipContentlen = true ∧ 0 < msg.contentlen) := by
      simpa [SIPMsg.has] using set
    rw [if_neg set, if_neg bit]

/-- On the bytes of a message `write_sip` writes the text of the record. -/
theorem writeSipAt_of_liesIn (lies : msg.LiesIn memory) :
    writeSipAt memory = .ok (writeSip msg) := by
  obtain ⟨via, fromHeader, toHeader, callid, cseq⟩ := lies.short
  unfold writeSipAt writeSip
  simp only [lies.type, stringAt_of_field lies.via via (by decide),
    stringAt_of_field lies.fromHeader fromHeader (by decide),
    stringAt_of_field lies.toHeader toHeader (by decide),
    stringAt_of_field lies.callid callid (by decide),
    stringAt_of_field lies.cseq cseq (by decide), typeLineAt_of_liesIn lies,
    lengthLineAt_of_liesIn lies, bodyAt_of_liesIn lies]
  cases msg.type with
  | invite => rfl
  | sipok => rfl
  | ack => rfl
  | bye => rfl

end

/-! ## The message `create_bye` leaves -/

/-- The strings of a client are NUL-terminated in their fields. -/
structure SIPClient.Stored (client : SIPClient) : Prop where
  callid : 0 ∉ client.callid ∧ client.callid.length < fieldLen
  fromHeader : 0 ∉ client.fromHeader ∧ client.fromHeader.length < fieldLen
  toHeader : 0 ∉ client.toHeader ∧ client.toHeader.length < fieldLen

/-- The text of a BYE to a client. -/
def byeText (client : SIPClient) : List UInt8 :=
  ascii "BYE sip:kaisa@localhost SIP/2.0\r\n" ++ headerLine "Via: " (byeVia client) ++
    headerLine "From: " client.toHeader ++ headerLine "To: " client.fromHeader ++
    headerLine "Call-ID: " client.callid ++ headerLine "CSeq: " (ascii "20 BYE") ++
    headerLine "Contact: " client.fromHeader ++ ascii "Max-Forwards: 70\r\n" ++ crlf

/-- The Via text is 38 bytes longer than the From of the client. -/
theorem length_byeVia (client : SIPClient) :
    (byeVia client).length = client.fromHeader.length + 38 := by
  have front : (ascii "SIP/2.0/UDP ").length = 12 := by decide
  have back : (ascii ";rport;branch=z9hG4bK12345").length = 26 := by decide
  rw [byeVia, List.length_append, List.length_append, front, back]
  omega

theorem byeVia_noNul {client : SIPClient} (stored : client.Stored) : 0 ∉ byeVia client := by
  have front : 0 ∉ ascii "SIP/2.0/UDP " := by decide
  have back : 0 ∉ ascii ";rport;branch=z9hG4bK12345" := by decide
  simp [byeVia, front, back, stored.fromHeader.1]

/-- The record `create_bye` builds is written as the BYE. -/
theorem writeSip_of_createBye {before bye : SIPMsg} {client : SIPClient}
    (created : createBye before client = .ok bye) : writeSip bye = some (byeText client) := by
  dsimp only [createBye] at created
  split at created
  · obtain rfl := Except.ok.inj created
    simp [writeSip, byeText, byeVia, SIPMsg.has]
  · cases created

section
variable (before : Memory) {client : SIPClient}

/-- Up to the Via text the message is the BYE of the client. -/
theorem createByeAt_fields (stored : client.Stored) (short : (byeVia client).length < fieldLen) :
    (createByeAt before client).Holds viaAt (byeVia client) ∧
    (createByeAt before client).Holds fromAt client.toHeader ∧
    (createByeAt before client).Holds toAt client.fromHeader ∧
    (createByeAt before client).Holds callidAt client.callid ∧
    (createByeAt before client).Holds cseqAt (ascii "20 BYE") := by
  have field : fieldLen = 100 := rfl
  have places : toAt = 8 ∧ fromAt = 108 ∧ viaAt = 218 ∧ callidAt = 318 ∧ cseqAt = 418 ∧
      contentlenAt = 520 := by decide
  have cseq : (ascii "20 BYE").length = 6 := by decide
  have zero : (Memory.intBytes 0).length = 4 := rfl
  obtain ⟨-, callid⟩ := stored.callid
  obtain ⟨-, fromHeader⟩ := stored.fromHeader
  obtain ⟨-, toHeader⟩ := stored.toHeader
  refine ⟨Memory.holds_strcpy _ _ (byeVia_noNul stored), ?_, ?_, ?_, ?_⟩
  · refine ((((Memory.holds_strcpy _ _ stored.toHeader.1).strcpy ?_).strcpy ?_).strcpy ?_).write ?_
      |>.strcpy ?_ <;> omega
  · refine (((Memory.holds_strcpy _ _ stored.fromHeader.1).strcpy ?_).strcpy ?_).write ?_
      |>.strcpy ?_ <;> omega
  · refine ((Memory.holds_strcpy _ _ stored.callid.1).strcpy ?_).write ?_ |>.strcpy ?_ <;> omega
  · refine (Memory.holds_strcpy _ _ (by decide)).write ?_ |>.strcpy ?_ <;> omega

/-- Its integers are those of a BYE without contents. -/
theorem createByeAt_ints (stored : client.Stored) (short : (byeVia client).length < fieldLen) :
    (createByeAt before client).int fieldsAt = 0 ∧
    (createByeAt before client).int typeAt = SipMsgType.bye.code ∧
    (createByeAt before client).int contentlenAt = 0 := by
  have field : fieldLen = 100 := rfl
  have places : fieldsAt = 0 ∧ typeAt = 4 ∧ toAt = 8 ∧ fromAt = 108 ∧ viaAt = 218 ∧
      callidAt = 318 ∧ cseqAt = 418 ∧ contentlenAt = 520 := by decide
  have ends : ∀ text : List UInt8, (text ++ [0]).length = text.length + 1 := by simp
  have sized : ∀ value : BitVec 32, (Memory.intBytes value).length = 4 := fun _ => rfl
  obtain ⟨-, callid⟩ := stored.callid
  obtain ⟨-, fromHeader⟩ := stored.fromHeader
  obtain ⟨-, toHeader⟩ := stored.toHeader
  have cseq : (ascii "20 BYE").length = 6 := by decide
  unfold createByeAt Memory.strcpy
  refine ⟨?_, ?_, ?_⟩
  · rw [Memory.int_write_of_disjoint, Memory.int_write_of_disjoint, Memory.int_write_of_disjoint,
      Memory.int_write_of_disjoint, Memory.int_write_of_disjoint, Memory.int_write_of_disjoint,
      Memory.int_write_of_disjoint, Memory.int_clear] <;> grind
  · rw [Memory.int_write_of_disjoint, Memory.int_write_of_disjoint, Memory.int_write_of_disjoint,
      Memory.int_write_of_disjoint, Memory.int_write_of_disjoint, Memory.int_write_of_disjoint,
      Memory.int_write_intBytes] <;> grind
  · rw [Memory.int_write_of_disjoint, Memory.int_write_intBytes]
    grind

/-- A Via text which fits leaves the record of `createBye` in memory. -/
theorem createBye_liesIn {old bye : SIPMsg} (stored : client.Stored)
    (created : createBye old client = .ok bye) : bye.LiesIn (createByeAt before client) := by
  dsimp only [createBye] at created
  split at created
  · rename_i short
    obtain rfl := Except.ok.inj created
    obtain ⟨via, fromHeader, toHeader, callid, cseq⟩ := createByeAt_fields before stored short
    obtain ⟨fields, type, contentlen⟩ := createByeAt_ints before stored short
    have end_ : (ascii "20 BYE").length < fieldLen := by decide
    exact {
      fields := fields
      type := type
      via := via
      fromHeader := fromHeader
      toHeader := toHeader
      callid := callid
      cseq := cseq
      short := ⟨short, stored.toHeader.2, stored.fromHeader.2, stored.callid.2, end_⟩
      contentlen := by rw [contentlen]; rfl
      contenttype := fun set => by simp [SIPMsg.has] at set
      contents := fun set => by simp [SIPMsg.has] at set }
  · cases created

/-- The Via text which does not fit ends in the Call-ID. -/
theorem createByeAt_callid (stored : client.Stored) (long : fieldLen ≤ (byeVia client).length) :
    (createByeAt before client).Holds callidAt ((byeVia client).drop fieldLen) :=
  (Memory.holds_strcpy _ viaAt (byeVia_noNul stored)).drop long

/-- A BYE which names its call: its Via is written within `via`, and its text has the Call-ID of
the client, and the client's To and From as From and To. -/
structure NamesCall (client : SIPClient) : Prop where
  within : ∀ index, viaAt ≤ index → index < viaAt + ((byeVia client).length + 1) →
    index < viaAt + fieldLen
  text : writeSipAt (createByeAt before client) = .ok (some (byeText client))

/-- The BYE names its call exactly when the From of the client leaves room for the rest of the
Via text. -/
theorem createBye_namesCall_iff (stored : client.Stored) :
    NamesCall before client ↔ client.fromHeader.length ≤ 61 := by
  have length := length_byeVia client
  have field : fieldLen = 100 := rfl
  constructor
  · intro named
    have last := named.within (viaAt + (byeVia client).length) (by omega) (by omega)
    omega
  · intro short
    have room : (byeVia client).length < fieldLen := by omega
    have created : ∃ bye, createBye .zero client = .ok bye := ⟨_, if_pos room⟩
    obtain ⟨bye, created⟩ := created
    refine ⟨fun index _ inside => by omega, ?_⟩
    rw [writeSipAt_of_liesIn (createBye_liesIn before stored created),
      writeSip_of_createBye created]

end

/-- A client whose From takes the room of the field. -/
def farClient : SIPClient where
  callid := ascii "843817637684230@998sdasdh09"
  sockfd := 7
  ackrecvd := true
  fromHeader := ascii "\"Caller\" <sip:caller@gateway.example.org>;tag=456248-32873-8821"
  toHeader := ascii "<sip:kaisa@localhost>;tag=1"
  cliaddr := ⟨0x7f000001, 5060⟩

/-- A client with a short From gets a BYE which names its call. -/
theorem createBye_namesCall_short :
    NamesCall (fun _ => 0xff) { farClient with fromHeader := ascii "<sip:caller@here>;tag=456248" } :=
  (createBye_namesCall_iff (fun _ => 0xff) ⟨by decide, by decide, by decide⟩).mpr (by decide)

/-- The BYE to a client with a long From does not name its call. -/
theorem createBye_not_namesCall : ¬ ∀ (before : Memory) (client : SIPClient), client.Stored →
    NamesCall before client := by
  intro always
  have named := always (fun _ => 0xff) farClient ⟨by decide, by decide, by decide⟩
  have last := named.within (viaAt + (byeVia farClient).length) (by omega) (by omega)
  have length := length_byeVia farClient
  have long : farClient.fromHeader.length = 63 := by decide
  have field : fieldLen = 100 := rfl
  omega

end Http2Rtsp.Message
