import Http2Rtsp.Message.RequestReference
import Http2Rtsp.Message.SipReplies
import Http2Rtsp.Message.SipSafety

/-!
# What a SIP message reports

A SIP message by its lines: the value of each header is that of the last line with it, looked at
alone, and each flag stands for its own header, the one of the port for a port in the session
description. The bits of `SIP_CONTENTTYPE` are those of two other flags, so `parsesipmsg` reports
a message so exactly when it has no Content-Type, and no value is read past its line.
-/

namespace Http2Rtsp.Message

open Http2Rtsp.Std

/-- The flags of `enum sipfields`. -/
inductive SipFlag where
  | type
  | header (name : SipHeaderName)
  | contents
  | clirtpport
deriving DecidableEq

def SipFlag.bits : SipFlag → BitVec 32
  | .type => sipType
  | .header name => name.field
  | .contents => sipContents
  | .clirtpport => sipClirtpport

/-- A session description is declared and has an `m=audio`. -/
def HasAudio (text : List UInt8) : Prop :=
  0 < (contentlenReading.own (blockLines text)).getD 0 ∧
    (contenttypeReading.own (blockLines text)).getD [] = ascii "application/sdp" ∧
    ascii "m=audio" <:+: (bodyOf text).getD []

instance (text : List UInt8) : Decidable (HasAudio text) := inferInstanceAs (Decidable (_ ∧ _))

/-- What a flag stands for is in a message. No header gives the contents. -/
def SipFlag.Found (text : List UInt8) : SipFlag → Prop
  | .type => sipMessageType text ≠ none
  | .header name => ∃ line ∈ blockLines text, startsWith (ascii name.text) line = true
  | .contents => False
  | .clirtpport => HasAudio text

instance (text : List UInt8) (flag : SipFlag) : Decidable (flag.Found text) :=
  match flag with
  | .type => inferInstanceAs (Decidable (_ ≠ _))
  | .header _ => inferInstanceAs (Decidable (∃ line ∈ _, _))
  | .contents => inferInstanceAs (Decidable False)
  | .clirtpport => inferInstanceAs (Decidable (HasAudio text))

/-- The message reports the headers of a text, each by the last line which has it, and each flag
can be tested alone. -/
structure SIPMsg.Reports (msg : SIPMsg) (text : List UInt8) : Prop where
  strings : ∀ header : StringHeader,
    header.value msg = ((stringReading header).own (blockLines text)).getD []
  contentlen : msg.contentlen = (contentlenReading.own (blockLines text)).getD 0
  contenttype : msg.contenttype = (contenttypeReading.own (blockLines text)).getD []
  flags : ∀ flag : SipFlag, msg.has flag.bits = true ↔ flag.Found text

/-- The datagrams without a Content-Type whose header lines are read within bounds, each value off
its own line. -/
def ReportsOwnLines (text : List UInt8) : Prop :=
  ∀ lines body, text = framed lines body →
    (∀ line ∈ lines, ¬ startsWith (ascii "Content-Type: ") line.bytes = true) ∧
    AllFit lines body ∧
    (∀ header : StringHeader, TextFromItsLine header.name lines body) ∧
    contentlenReading.FromItsLine 0 lines body

/-! ## Readings -/

/-- A string in a line is read there. -/
theorem scanToReturn_of_line {text string : List UInt8} (rest : List UInt8)
    (scanned : scanToReturn text = some string) :
    scanToReturn (text ++ crlf ++ rest) = some string := by
  have plain : skipSpace text ≠ [] := by
    intro blank
    rw [scanToReturn, blank] at scanned
    cases scanned
  rw [scanToReturn, skipSpace_line plain, scanSet_line (by decide)]
  exact scanned

theorem stringReading_local (header : StringHeader) : (stringReading header).Local :=
  headerReading_local header.free fun _ rest _ => scanToReturn_of_line rest

/-- `%[^\r]` behind white space finds whatever is not white space. -/
theorem scanToReturn_findsText : FindsText scanToReturn :=
  scanSet_skipSpace_findsText fun byte plain => decide_eq_true fun return_ => by
    rw [return_] at plain
    cases plain

/-! ## Flags -/

/-- The bits of different headers are apart, those of the content type aside. -/
theorem SipHeaderName.field_and {name other : SipHeaderName} (plain : other ≠ .conttype) :
    other.field &&& name.field ≠ 0 ↔ other = name := by
  rcases other with header | _ | _
  · rcases name with header' | _ | _
    · cases header <;> cases header' <;> decide
    · cases header <;> decide
    · cases header <;> decide
  · rcases name with header' | _ | _
    · cases header' <;> decide
    · decide
    · decide
  · exact absurd rfl plain

/-- The bits of the contents and of the port are set by the content type only. -/
theorem SipHeaderName.field_and_contents {name : SipHeaderName} (plain : name ≠ .conttype) :
    name.field &&& sipContents = 0 ∧ name.field &&& sipClirtpport = 0 := by
  rcases name with header | _ | _
  · cases header <;> decide
  · decide
  · exact absurd rfl plain

section
variable {lines : List (List UInt8)}
  (untyped : ∀ line ∈ lines, ¬ startsWith (ascii "Content-Type: ") line = true)
include untyped

/-- A line has the bits of the one header it begins with. -/
theorem sipHeaderField_and_iff {line : List UInt8} (member : line ∈ lines) (name : SipHeaderName) :
    sipHeaderField line &&& name.field ≠ 0 ↔ startsWith (ascii name.text) line = true := by
  have begins : startsWith (ascii name.text) line = true ↔
      sipHeaderNames.beginning line = some name := sipHeaderNames.beginning_eq_some_iff.symm
  rw [begins, sipHeaderField]
  cases here : sipHeaderNames.beginning line with
  | none => simp
  | some other =>
      have plain : other ≠ .conttype := by
        rintro rfl
        exact untyped line member (sipHeaderNames.beginning_eq_some_iff.mp here)
      rw [Option.some_inj]
      exact SipHeaderName.field_and plain

/-- Without a Content-Type the bits which are set are those of the headers. -/
theorem setFields_sip_and (name : SipHeaderName) :
    setFields sipHeaderField lines sipType &&& name.field ≠ 0 ↔
      ∃ line ∈ lines, startsWith (ascii name.text) line = true := by
  have type : ¬ sipType &&& name.field ≠ 0 := by
    rcases name with header | _ | _
    · cases header <;> decide
    · decide
    · decide
  rw [setFields_and, or_iff_right type]
  exact exists_congr fun line => and_congr_right fun member =>
    sipHeaderField_and_iff untyped member name

/-- No header sets another bit. -/
theorem setFields_sip_other {bit : BitVec 32} (type : sipType &&& bit = 0)
    (other : ∀ name : SipHeaderName, name ≠ .conttype → name.field &&& bit = 0) :
    setFields sipHeaderField lines sipType &&& bit = 0 := by
  by_contra set
  rcases setFields_and.mp set with typed | ⟨line, member, set⟩
  · exact typed type
  · rw [sipHeaderField] at set
    cases here : sipHeaderNames.beginning line with
    | none =>
        rw [here] at set
        simp at set
    | some name =>
        rw [here] at set
        refine set (other name ?_)
        rintro rfl
        exact untyped line member (sipHeaderNames.beginning_eq_some_iff.mp here)

end

/-! ## Agreement -/

theorem SIPMsg.has_iff {msg : SIPMsg} {field : BitVec 32} :
    msg.has field = true ↔ msg.fields &&& field ≠ 0 := by
  simp [SIPMsg.has]

/-- The port leaves the headers as they are, and no bit is taken back. -/
theorem readPort_keeps (msg : SIPMsg) (text : List UInt8) :
    (∀ header : StringHeader, header.value (readPort msg text) = header.value msg) ∧
    (readPort msg text).contentlen = msg.contentlen ∧
    ∀ field, msg.has field = true → (readPort msg text).has field = true := by
  unfold readPort
  split
  · refine ⟨fun header => by cases header <;> rfl, rfl, fun field set => ?_⟩
    rw [SIPMsg.has_iff] at set ⊢
    exact or_and_ne_zero.mpr (Or.inl set)
  · exact ⟨fun _ => rfl, rfl, fun _ set => set⟩

section
variable {lines : List Line} {body : List UInt8} {type : SipMsgType}

theorem value_readSipHeaders (header : StringHeader) :
    header.value (readSipHeaders lines body (typedSip type)) =
      ((stringReading header).values lines body).getLastD [] := by
  cases header <;> rfl

/-- A Content-Type sets the flag of the contents. -/
theorem has_contents_of_typed {line : Line} (member : line ∈ lines)
    (typed : startsWith (ascii "Content-Type: ") line.bytes = true) :
    (readSipHeaders lines body (typedSip type)).has sipContents = true := by
  have beginning : sipHeaderNames.beginning line.bytes = some .conttype :=
    sipHeaderNames.beginning_eq_some_iff.mpr typed
  rw [SIPMsg.has_iff]
  refine setFields_and.mpr (Or.inr ⟨line.bytes, List.mem_map_of_mem member, ?_⟩)
  rw [sipHeaderField, beginning]
  decide

/-- Without one there is no content type to be read. -/
theorem contenttype_untyped
    (untyped : ∀ line ∈ lines, ¬ startsWith (ascii "Content-Type: ") line.bytes = true) :
    contenttypeReading.values lines body = [] ∧
      contenttypeReading.own (lines.map Line.bytes) = none := by
  have absent : contenttypeReading.lastLine (lines.map Line.bytes) = none := by
    refine Reading.lastLine_eq_none fun bytes member => ?_
    obtain ⟨line, inside, rfl⟩ := List.mem_map.mp member
    exact untyped line inside
  exact ⟨Reading.values_of_lastLine_none contenttypeReading_local body absent,
    by rw [Reading.own, absent, Option.bind_none]⟩

/-- The flags of a message without a Content-Type. -/
theorem flags_untyped (supported : sipMessageType (framed lines body) = some type)
    (untyped : ∀ line ∈ lines, ¬ startsWith (ascii "Content-Type: ") line.bytes = true)
    (flag : SipFlag) :
    (readSipHeaders lines body (typedSip type)).has flag.bits = true ↔
      flag.Found (framed lines body) := by
  have untyped_ : ∀ line ∈ lines.map Line.bytes,
      ¬ startsWith (ascii "Content-Type: ") line = true := by
    intro bytes member
    obtain ⟨line, inside, rfl⟩ := List.mem_map.mp member
    exact untyped line inside
  rw [SIPMsg.has_iff]
  cases flag with
  | type =>
      have typed : (0 ||| sipType) &&& sipType ≠ 0 := by decide
      refine iff_of_true (setFields_and.mpr (Or.inl typed)) ?_
      rw [SipFlag.Found, supported]
      exact Option.some_ne_none type
  | header name =>
      rw [SipFlag.Found, blockLines_framed]
      exact setFields_sip_and untyped_ name
  | contents =>
      have unset := @setFields_sip_other _ untyped_ sipContents (by decide) fun name plain =>
        (SipHeaderName.field_and_contents plain).1
      exact iff_of_false (fun set => set unset) id
  | clirtpport =>
      have unset := @setFields_sip_other _ untyped_ sipClirtpport (by decide) fun name plain =>
        (SipHeaderName.field_and_contents plain).2
      refine iff_of_false (fun set => set unset) ?_
      rintro ⟨-, declared, -⟩
      rw [blockLines_framed, (@contenttype_untyped lines body untyped).2] at declared
      cases declared

end

/-- `parsesipmsg` reports exactly the headers present when no line has a Content-Type and every
value is read off its own line. -/
theorem parsesipmsg_reports_iff {buffer : List UInt8} {type : SipMsgType}
    (blank : crlfcrlf <:+: buffer) (supported : sipMessageType buffer = some type) :
    (∃ msg, parsesipmsg buffer = .ok (0, msg) ∧ msg.Reports buffer) ↔ ReportsOwnLines buffer := by
  obtain ⟨lines, body, rfl⟩ := framed_of_blank blank
  have some_ : lines ≠ [] := by
    rintro rfl
    cases supported
  have strings := fun header =>
    (Reading.getLastD_values_eq_own_iff (stringReading_local header) [] lines body).trans
      (fromItsLine_text_iff (stringReading_local header) scanToReturn_findsText)
  have contentlen := Reading.getLastD_values_eq_own_iff contentlenReading_local 0 lines body
  constructor
  · rintro ⟨msg, parsed, reports⟩ lines' body' reading
    obtain ⟨rfl, rfl⟩ := framed_injective reading
    obtain ⟨all, -, -, rfl⟩ := (parsesipmsg_eq_ok_iff some_ supported).mp parsed
    obtain ⟨kept, length, set⟩ := readPort_keeps (readSipHeaders lines body (typedSip type))
      (crlf ++ body)
    refine ⟨fun line member typed => ?_, all, fun header => ?_, ?_⟩
    · exact (reports.flags .contents).mp (set _ (has_contents_of_typed member typed))
    · have value := reports.strings header
      rw [kept, value_readSipHeaders, blockLines_framed] at value
      exact (strings header).mp value
    · have value := reports.contentlen
      rw [length, blockLines_framed] at value
      exact contentlen.mp value
  · intro own
    obtain ⟨untyped, all, ownStrings, ownLength⟩ := own lines body rfl
    obtain ⟨unread, ownType⟩ := @contenttype_untyped lines body untyped
    have contenttype : (readSipHeaders lines body (typedSip type)).contenttype = [] := by
      exact congrArg (fun values : List (List UInt8) => values.getLastD []) unread
    have undeclared : ¬ (readSipHeaders lines body (typedSip type)).Declares := by
      rintro ⟨-, declared⟩
      rw [contenttype] at declared
      cases declared
    have message : readPort (readSipHeaders lines body (typedSip type)) (crlf ++ body) =
        readSipHeaders lines body (typedSip type) := if_neg undeclared
    refine ⟨readSipHeaders lines body (typedSip type),
      (parsesipmsg_eq_ok_iff some_ supported).mpr
        ⟨all, fun declared => absurd declared undeclared, rfl, message.symm⟩, ?_⟩
    constructor
    · intro header
      rw [value_readSipHeaders, blockLines_framed]
      exact (strings header).mpr (ownStrings header)
    · rw [blockLines_framed]
      exact contentlen.mpr ownLength
    · rw [blockLines_framed, ownType, contenttype, Option.getD_none]
    · exact flags_untyped supported untyped

/-- A BYE whose headers have their values. -/
def completeBye : List UInt8 :=
  ascii "BYE sip:kaisa SIP/2.0\r\nCall-ID: 8438@998\r\n\r\n"

/-- It is reported by its own lines. -/
theorem completeBye_reportsOwnLines : ReportsOwnLines completeBye := by
  refine (@parsesipmsg_reports_iff completeBye .bye (by decide +kernel) (by rfl)).mp
    ⟨_, rfl, fun header => ?_, by rfl, by rfl, fun flag => ?_⟩
  · cases header <;> rfl
  · rcases flag with _ | name | _ | _
    · exact iff_of_true (by decide +kernel) (by decide +kernel)
    · rcases name with header | _ | _
      · cases header <;> decide +kernel
      · decide +kernel
      · decide +kernel
    · exact iff_of_false (by decide +kernel) id
    · decide +kernel

/-- An INVITE which only has a text to show. -/
def textInvite : List UInt8 :=
  ascii "INVITE sip:kaisa SIP/2.0\r\nContent-Type: text/plain\r\n\r\n"

/-- Its flags say that it has a port. -/
theorem parsesipmsg_not_reports : ¬ ∀ (buffer : List UInt8) (type : SipMsgType), 0 ∉ buffer →
    buffer.length < bufSize → crlfcrlf <:+: buffer → sipMessageType buffer = some type →
    (∀ line ∈ blockLines buffer, SipValuesFit line) →
    ((contenttypeReading.own (blockLines buffer)).getD [] = ascii "application/sdp" →
      PortFits ((bodyOf buffer).getD [])) →
    ∃ msg, parsesipmsg buffer = .ok (0, msg) ∧ msg.Reports buffer := by
  intro always
  have fit : ∀ line ∈ blockLines textInvite, SipValuesFit line := by
    decide +kernel
  obtain ⟨msg, parsed, reports⟩ := always textInvite .invite (by decide +kernel)
    (by decide +kernel) (by decide +kernel) (by rfl) fit (fun sdp => by cases sdp)
  have made : ∃ msg, parsesipmsg textInvite = .ok (0, msg) ∧ msg.has sipClirtpport = true :=
    ⟨_, rfl, rfl⟩
  obtain ⟨msg', parsed', set⟩ := made
  rw [parsed, Except.ok.injEq, Prod.mk.injEq] at parsed'
  obtain ⟨-, rfl⟩ := parsed'
  have audio : HasAudio textInvite := (reports.flags .clirtpport).mp set
  exact absurd audio (by decide +kernel)

end Http2Rtsp.Message
