import Http2Rtsp.Message.RequestSafety
import Http2Rtsp.Message.SipHeaders

/-!
# What a SIP message stores

`parsesipmsg` in closed form, as `parse_rtsp` is: the last values of the readings at its header
lines, and the port behind the first `m=audio` of the body when the last Content-Length is positive
and the last Content-Type `application/sdp`. The parser keeps its meaning exactly when each of
these values fits its array and the session description has an `m=audio`.
-/

namespace Http2Rtsp.Message

open Http2Rtsp.Std

/-! ## The header of a line -/

/-- The headers `parsesipmsg` knows. -/
inductive SipHeaderName where
  | string (header : StringHeader)
  | contlen
  | conttype
deriving DecidableEq

/-- What is compared. -/
def SipHeaderName.text : SipHeaderName → String
  | .string header => header.name
  | .contlen => "Content-Length: "
  | .conttype => "Content-Type: "

/-- The bits which are set for a header. -/
def SipHeaderName.field : SipHeaderName → BitVec 32
  | .string header => header.field
  | .contlen => sipContentlen
  | .conttype => sipContenttype

/-- None of the names begins another one. -/
def sipHeaderNames : Names SipHeaderName where
  bytes header := ascii header.text
  all := [.string .fromHeader, .string .via, .string .toHeader, .string .cseq, .string .callid,
    .contlen, .conttype]
  complete header := by
    rcases header with header | _ | _
    · cases header <;> decide
    · decide
    · decide
  apart header other distinct := by
    rcases header with header | _ | _ <;> rcases other with other | _ | _ <;>
      first
      | exact absurd rfl distinct
      | rfl
      | (cases header <;> rfl)
      | (cases other <;> rfl)
      | (cases header <;> cases other <;> first | exact absurd rfl distinct | rfl)

/-- The bits of the header a line begins with. -/
def sipHeaderField (temp : List UInt8) : BitVec 32 :=
  match sipHeaderNames.beginning temp with
  | some header => header.field
  | none => 0

/-! ## Readings -/

/-- The string up to the end of a line, behind white space. -/
def stringReading (header : StringHeader) : Reading (List UInt8) :=
  headerReading header.name scanToReturn

/-- The strings scanned where a text begins fit their arrays. -/
structure SipValuesFit (temp : List UInt8) : Prop where
  strings : ∀ header string, (stringReading header).readHere temp = some string →
    string.length < fieldLen
  contenttype : ∀ word, contenttypeReading.readHere temp = some word → word.length < fieldLen

instance (temp : List UInt8) : Decidable (SipValuesFit temp) :=
  decidable_of_iff
    ((∀ header ∈ [StringHeader.fromHeader, .via, .toHeader, .cseq, .callid],
        ∀ string ∈ (stringReading header).readHere temp, string.length < fieldLen) ∧
      ∀ word ∈ contenttypeReading.readHere temp, word.length < fieldLen)
    ⟨fun fits => ⟨fun header => fits.1 header (by cases header <;> decide), fits.2⟩,
      fun fits => ⟨fun header _ => fits.strings header, fits.contenttype⟩⟩

/-- The message behind a line. -/
def readSipHeader (msg : SIPMsg) (temp : List UInt8) : SIPMsg :=
  { msg with
    fields := msg.fields ||| sipHeaderField temp
    fromHeader := ((stringReading .fromHeader).readHere temp).getD msg.fromHeader
    via := ((stringReading .via).readHere temp).getD msg.via
    toHeader := ((stringReading .toHeader).readHere temp).getD msg.toHeader
    cseq := ((stringReading .cseq).readHere temp).getD msg.cseq
    callid := ((stringReading .callid).readHere temp).getD msg.callid
    contentlen := (contentlenReading.readHere temp).getD msg.contentlen
    contenttype := (contenttypeReading.readHere temp).getD msg.contenttype }

/-- A string which is stored, and what is made of the message with it. -/
theorem map_storeString_eq_ok_iff {α : Type} {size : Nat} {old : List UInt8}
    {scanned : Option (List UInt8)} {make : List UInt8 → α} {after : α} :
    (storeString size old scanned).map make = .ok after ↔
      (∀ string, scanned = some string → string.length < size) ∧
        after = make (scanned.getD old) := by
  cases stored : storeString size old scanned with
  | error reason =>
      constructor
      · intro same
        cases same
      · rintro ⟨fits, -⟩
        rw [storeString_eq_ok_iff.mpr ⟨fits, rfl⟩] at stored
        cases stored
  | ok string =>
      obtain ⟨fits, rfl⟩ := storeString_eq_ok_iff.mp stored
      rw [Except.map, Except.ok.injEq]
      exact ⟨fun same => ⟨fits, same.symm⟩, fun same => same.2.symm⟩

section
variable {msg after : SIPMsg} {temp : List UInt8}

theorem stringReading_readHere (header : StringHeader) : (stringReading header).readHere temp =
    if sipHeaderNames.beginning temp = some (.string header) then
      scanToReturn (temp.drop header.name.length)
    else none := by
  have carries := sipHeaderNames.startsWith_eq (.string header) temp
  exact (congrArg (fun carries : Bool => if carries then _ else none) carries).trans (by simp; rfl)

theorem contentlenReading_readHere : contentlenReading.readHere temp =
    if sipHeaderNames.beginning temp = some .contlen then scanInt (temp.drop 16) else none := by
  have carries := sipHeaderNames.startsWith_eq .contlen temp
  exact (congrArg (fun carries : Bool => if carries then _ else none) carries).trans (by simp; rfl)

theorem contenttypeReading_readHere : contenttypeReading.readHere temp =
    if sipHeaderNames.beginning temp = some .conttype then scanWord (temp.drop 14) else none := by
  have carries := sipHeaderNames.startsWith_eq .conttype temp
  exact (congrArg (fun carries : Bool => if carries then _ else none) carries).trans (by simp; rfl)

/-- A line of a string. -/
theorem sipHeader_string_eq_ok_iff {header : StringHeader}
    (here : sipHeaderNames.beginning temp = some (.string header)) :
    sipHeader msg temp = .ok after ↔ SipValuesFit temp ∧ after = readSipHeader msg temp := by
  have begins : startsWith (ascii header.name) temp = true :=
    sipHeaderNames.beginning_eq_some_iff.mp here
  have fit : SipValuesFit temp ↔ ∀ string, scanToReturn (temp.drop header.name.length) =
      some string → string.length < fieldLen := by
    constructor
    · intro fit string scanned
      refine fit.strings header string ?_
      rw [stringReading_readHere, if_pos here, scanned]
    · intro fits
      refine ⟨fun other string read => ?_, fun word read => ?_⟩
      · rw [stringReading_readHere, here] at read
        split at read
        · rename_i same
          obtain rfl := SipHeaderName.string.inj (Option.some.inj same)
          exact fits string read
        · cases read
      · rw [contenttypeReading_readHere, here] at read
        cases read
  have message : readSipHeader msg temp =
      header.read msg ((scanToReturn (temp.drop header.name.length)).getD (header.value msg)) := by
    simp only [readSipHeader, sipHeaderField, stringReading_readHere, contentlenReading_readHere,
      contenttypeReading_readHere, here]
    cases header <;> rfl
  rw [sipHeader_string msg begins, fit, message, map_storeString_eq_ok_iff]

/-- A line of another header, or of none. -/
theorem sipHeader_other_eq_ok_iff
    (other : ∀ header, sipHeaderNames.beginning temp ≠ some (.string header)) :
    sipHeader msg temp = .ok after ↔ SipValuesFit temp ∧ after = readSipHeader msg temp := by
  have unread : ∀ header, (stringReading header).readHere temp = none := fun header => by
    rw [stringReading_readHere, if_neg (other header)]
  have fit : SipValuesFit temp ↔
      ∀ word, contenttypeReading.readHere temp = some word → word.length < fieldLen := by
    refine ⟨fun fit => fit.contenttype, fun fits => ⟨fun header string read => ?_, fits⟩⟩
    rw [unread] at read
    cases read
  have contlen : startsWith (ascii "Content-Length: ") temp =
      decide (sipHeaderNames.beginning temp = some .contlen) :=
    sipHeaderNames.startsWith_eq .contlen temp
  have conttype : startsWith (ascii "Content-Type: ") temp =
      decide (sipHeaderNames.beginning temp = some .conttype) :=
    sipHeaderNames.startsWith_eq .conttype temp
  rw [sipHeader_other msg fun header begins =>
    other header (sipHeaderNames.beginning_eq_some_iff.mpr begins), contlen, conttype, fit]
  simp only [readSipHeader, sipHeaderField, unread, contentlenReading_readHere,
    contenttypeReading_readHere]
  cases here : sipHeaderNames.beginning temp with
  | none => simpa using eq_comm
  | some name =>
      cases name with
      | string header => exact absurd here (other header)
      | contlen => simp [SipHeaderName.field, eq_comm]
      | conttype =>
          have contlen_ : ¬ (some SipHeaderName.conttype = some SipHeaderName.contlen) := by decide
          simp only [contlen_, decide_false, decide_true, Bool.false_eq_true, if_true, if_false,
            map_storeString_eq_ok_iff]
          rfl

/-- A line is read exactly when what is scanned there fits. -/
theorem sipHeader_eq_ok_iff :
    sipHeader msg temp = .ok after ↔ SipValuesFit temp ∧ after = readSipHeader msg temp := by
  by_cases string : ∃ header, sipHeaderNames.beginning temp = some (.string header)
  · obtain ⟨header, here⟩ := string
    exact sipHeader_string_eq_ok_iff here
  · exact sipHeader_other_eq_ok_iff fun header here => string ⟨header, here⟩

end

/-! ## All lines -/

/-- What is scanned at every line of a block fits. -/
def AllFit (lines : List Line) (body : List UInt8) : Prop :=
  ∀ line rest, line :: rest <:+ lines → SipValuesFit (framed (line :: rest) body)

/-- The message behind a block: the last values read. -/
def readSipHeaders (lines : List Line) (body : List UInt8) (msg : SIPMsg) : SIPMsg :=
  { msg with
    fields := setFields sipHeaderField (lines.map Line.bytes) msg.fields
    fromHeader := ((stringReading .fromHeader).values lines body).getLastD msg.fromHeader
    via := ((stringReading .via).values lines body).getLastD msg.via
    toHeader := ((stringReading .toHeader).values lines body).getLastD msg.toHeader
    cseq := ((stringReading .cseq).values lines body).getLastD msg.cseq
    callid := ((stringReading .callid).values lines body).getLastD msg.callid
    contentlen := (contentlenReading.values lines body).getLastD msg.contentlen
    contenttype := (contenttypeReading.values lines body).getLastD msg.contenttype }

/-- The header of a line is that of the text from the line on. -/
theorem sipHeaderField_framed (line : Line) (lines : List Line) (body : List UInt8) :
    sipHeaderField (framed (line :: lines) body) = sipHeaderField line.bytes := by
  have free : ∀ header, 13 ∉ sipHeaderNames.bytes header := by
    intro header
    rcases header with header | _ | _
    · exact header.free
    · decide
    · decide
  have beginning : sipHeaderNames.beginning (framed (line :: lines) body) =
      sipHeaderNames.beginning line.bytes := by
    apply Option.ext
    intro header
    rw [sipHeaderNames.beginning_eq_some_iff, sipHeaderNames.beginning_eq_some_iff, framed_cons,
      startsWith_line (free header)]
  rw [sipHeaderField, beginning, sipHeaderField]

/-- One line, and then the others. -/
theorem readSipHeaders_cons (line : Line) (lines : List Line) (body : List UInt8) (msg : SIPMsg) :
    readSipHeaders (line :: lines) body msg =
      readSipHeaders lines body (readSipHeader msg (framed (line :: lines) body)) := by
  simp only [readSipHeaders, readSipHeader, Reading.getLastD_values_cons, sipHeaderField_framed,
    setFields, List.map_cons, List.foldl_cons]

/-- The headers of a message in closed form. -/
theorem sipHeaders_eq_ok_iff {lines : List Line} {body : List UInt8} {msg after : SIPMsg} :
    sipHeaders lines body msg = .ok after ↔
      AllFit lines body ∧ after = readSipHeaders lines body msg :=
  lines_eq_ok_iff (fun _ _ => rfl) (fun _ _ _ _ => rfl) (fun _ _ => rfl) readSipHeaders_cons
    sipHeader_eq_ok_iff

/-! ## The port -/

/-- The port behind the first `m=audio`. -/
def audioPort (text : List UInt8) : Option (List UInt8) :=
  (strstr text (ascii "m=audio")).bind fun temp => scanWord (temp.drop 7)

/-- A session description has an `m=audio`, and the port fits. -/
structure PortFits (text : List UInt8) : Prop where
  pointer : strstr text (ascii "m=audio") ≠ none
  port : ∀ port, audioPort text = some port → port.length < portLen

/-- The message with the port, if it declares one. -/
def readPort (msg : SIPMsg) (text : List UInt8) : SIPMsg :=
  if msg.Declares then
    { msg with
      clirtpport := (audioPort text).getD msg.clirtpport
      fields := msg.fields ||| sipClirtpport }
  else msg

/-- The port is read exactly when the description which is declared has one that fits. -/
theorem sipPort_eq_ok_iff {msg after : SIPMsg} {text : List UInt8} :
    sipPort msg text = .ok after ↔ (msg.Declares → PortFits text) ∧ after = readPort msg text := by
  rw [readPort]
  by_cases declared : msg.Declares
  · have both : 0 < msg.contentlen ∧ msg.contenttype = ascii "application/sdp" := declared
    rw [if_pos declared]
    cases found : strstr text (ascii "m=audio") with
    | none =>
        have missing : sipPort msg text = .error .nullPointer := by
          rw [sipPort, if_pos both, found]
        rw [missing]
        constructor
        · intro same
          cases same
        · rintro ⟨fits, -⟩
          exact absurd found (fits declared).pointer
    | some temp =>
        have stored : sipPort msg text =
            (storeString portLen msg.clirtpport (scanWord (temp.drop 7))).map fun port =>
              { msg with clirtpport := port, fields := msg.fields ||| sipClirtpport } := by
          rw [sipPort, if_pos both, found]
          rfl
        have port : audioPort text = scanWord (temp.drop 7) := by
          rw [audioPort, found, Option.bind_some]
        have fits : (msg.Declares → PortFits text) ↔
            ∀ string, scanWord (temp.drop 7) = some string → string.length < portLen := by
          constructor
          · intro fits string scanned
            exact (fits declared).port string (port.trans scanned)
          · intro fits _
            refine ⟨fun none_ => ?_, fun string scanned => fits string (port.symm.trans scanned)⟩
            rw [found] at none_
            cases none_
        rw [stored]
        simp only [fits, port, map_storeString_eq_ok_iff]
  · have unread : sipPort msg text = .ok msg := if_neg declared
    rw [unread, if_neg declared]
    constructor
    · intro same
      exact ⟨fun declared' => absurd declared' declared, (Except.ok.inj same).symm⟩
    · rintro ⟨-, rfl⟩
      rfl

/-! ## Safety -/

/-- The bounds a datagram has to keep itself. In a text with a header block of a supported type,
whatever is scanned at a header line fits its array, and when the last number read for a
Content-Length is positive and the last word for a Content-Type is `application/sdp`, the body has
an `m=audio` with a port which fits. -/
def DatagramFits (buffer : List UInt8) : Prop :=
  ∀ lines body, buffer = framed lines body → sipMessageType buffer ≠ none →
    AllFit lines body ∧ (0 < (contentlenReading.values lines body).getLastD 0 →
      (contenttypeReading.values lines body).getLastD [] = ascii "application/sdp" →
        PortFits (crlf ++ body))

/-- A message of a known type is parsed as the values read at its lines and in its body. -/
theorem parsesipmsg_eq_ok_iff {lines : List Line} {body : List UInt8} {type : SipMsgType}
    {result : Int} {msg : SIPMsg} (some_ : lines ≠ [])
    (known : sipMessageType (framed lines body) = some type) :
    parsesipmsg (framed lines body) = .ok (result, msg) ↔
      AllFit lines body ∧
      ((readSipHeaders lines body (typedSip type)).Declares → PortFits (crlf ++ body)) ∧
      result = 0 ∧ msg = readPort (readSipHeaders lines body (typedSip type)) (crlf ++ body) := by
  rw [parsesipmsg_framed some_ body known]
  simp only [bind_eq_ok_iff, sipHeaders_eq_ok_iff, sipPort_eq_ok_iff, Except.ok.injEq,
    Prod.mk.injEq]
  constructor
  · rintro ⟨_, ⟨all, rfl⟩, _, ⟨port, rfl⟩, rfl, rfl⟩
    exact ⟨all, port, rfl, rfl⟩
  · rintro ⟨all, port, rfl, rfl⟩
    exact ⟨_, ⟨all, rfl⟩, _, ⟨port, rfl⟩, rfl, rfl⟩

/-- `parsesipmsg` is safe exactly on the datagrams which fit. -/
theorem parsesipmsg_safe_iff (buffer : List UInt8) :
    (∃ result msg, parsesipmsg buffer = .ok (result, msg)) ↔ DatagramFits buffer := by
  by_cases block : ∃ lines body, buffer = framed lines body ∧ sipMessageType buffer ≠ none
  · obtain ⟨lines, body, rfl, supported⟩ := block
    obtain ⟨type, known⟩ := Option.ne_none_iff_exists'.mp supported
    have some_ : lines ≠ [] := by
      rintro rfl
      exact supported rfl
    constructor
    · rintro ⟨result, msg, parsed⟩ lines' body' same _
      obtain ⟨rfl, rfl⟩ := framed_injective same
      obtain ⟨all, port, -⟩ := (parsesipmsg_eq_ok_iff some_ known).mp parsed
      exact ⟨all, fun length declared => port ⟨length, declared⟩⟩
    · intro fit
      obtain ⟨all, port⟩ := fit lines body rfl supported
      exact ⟨0, _, (parsesipmsg_eq_ok_iff some_ known).mpr
        ⟨all, fun declared => port declared.1 declared.2, rfl, rfl⟩⟩
  · have unsupported : ∀ lines body, buffer = framed lines body → sipMessageType buffer = none := by
      intro lines body same
      by_contra supported
      exact block ⟨lines, body, same, supported⟩
    refine iff_of_true ?_ fun lines body same supported =>
      absurd (unsupported lines body same) supported
    by_cases blank : crlfcrlf <:+: buffer
    · obtain ⟨lines, body, same⟩ := framed_of_blank blank
      obtain ⟨result, parsed⟩ := parsesipmsg_of_unsupported (unsupported lines body same)
      exact ⟨result, SIPMsg.zero, parsed⟩
    · exact ⟨0, SIPMsg.zero, parsesipmsg_of_no_block blank⟩

/-- An INVITE with a session description which offers no audio. -/
def audiolessInvite : List UInt8 :=
  ascii "INVITE sip:kaisa@localhost SIP/2.0\r\nContent-Type: application/sdp\r\n" ++
    ascii "Content-Length: 18\r\n\r\nm=video 40404 RTP/\r\n"

/-- The parser scans a null pointer there. -/
theorem parsesipmsg_not_safe : ¬ ∀ buffer : List UInt8, 0 ∉ buffer → buffer.length < bufSize →
    ∃ result msg, parsesipmsg buffer = .ok (result, msg) := by
  intro always
  obtain ⟨result, msg, parsed⟩ := always audiolessInvite (by decide +kernel) (by decide +kernel)
  have undefined : parsesipmsg audiolessInvite = .error .nullPointer := by rfl
  rw [undefined] at parsed
  cases parsed

end Http2Rtsp.Message
