import Http2Rtsp.Message.Sip
import Http2Rtsp.Std.Lines

/-!
# The headers of a SIP message

`parsesipmsg` read line by line, as `parse_rtsp` is. Five headers are strings
which go up to the end of their line; a header which occurs once is in the
message with its value, wherever it stands.
-/

namespace Http2Rtsp.Message

open Http2Rtsp.Std

/-! ## One header -/

/-- The headers which identify a request. -/
inductive StringHeader where
  | fromHeader
  | via
  | toHeader
  | cseq
  | callid
deriving DecidableEq

namespace StringHeader

/-- What the parser compares. -/
def name : StringHeader → String
  | .fromHeader => "From: "
  | .via => "Via: "
  | .toHeader => "To:"
  | .cseq => "CSeq: "
  | .callid => "Call-ID: "

def field : StringHeader → BitVec 32
  | .fromHeader => sipFrom
  | .via => sipVia
  | .toHeader => sipTo
  | .cseq => sipCseq
  | .callid => sipCallid

def value (msg : SIPMsg) : StringHeader → List UInt8
  | .fromHeader => msg.fromHeader
  | .via => msg.via
  | .toHeader => msg.toHeader
  | .cseq => msg.cseq
  | .callid => msg.callid

/-- The message with the header read. -/
def read (msg : SIPMsg) (string : List UInt8) : StringHeader → SIPMsg
  | .fromHeader => { msg with fromHeader := string, fields := msg.fields ||| sipFrom }
  | .via => { msg with via := string, fields := msg.fields ||| sipVia }
  | .toHeader => { msg with toHeader := string, fields := msg.fields ||| sipTo }
  | .cseq => { msg with cseq := string, fields := msg.fields ||| sipCseq }
  | .callid => { msg with callid := string, fields := msg.fields ||| sipCallid }

/-- The names have no line ends. -/
theorem free (header : StringHeader) : 13 ∉ ascii header.name := by
  cases header <;> decide

/-- A line begins with the name of one of them at most. -/
theorem apart {header other : StringHeader} {temp : List UInt8}
    (begins : startsWith (ascii header.name) temp = true) (distinct : other ≠ header) :
    ¬ startsWith (ascii other.name) temp = true := by
  rw [Bool.not_eq_true]
  cases header <;> cases other <;>
    first
    | exact absurd rfl distinct
    | exact startsWith_apart begins ⟨rfl, rfl⟩

theorem value_read (header other : StringHeader) (msg : SIPMsg) (string : List UInt8) :
    other.value (header.read msg string) = if other = header then string else other.value msg := by
  cases header <;> cases other <;> rfl

theorem type_read (header : StringHeader) (msg : SIPMsg) (string : List UInt8) :
    (header.read msg string).type = msg.type := by
  cases header <;> rfl

theorem contenttype_read (header : StringHeader) (msg : SIPMsg) (string : List UInt8) :
    (header.read msg string).contenttype = msg.contenttype := by
  cases header <;> rfl

end StringHeader

/-- The line of a string. -/
theorem sipHeader_string {header : StringHeader} {temp : List UInt8} (msg : SIPMsg)
    (begins : startsWith (ascii header.name) temp = true) :
    sipHeader msg temp =
      (storeString fieldLen (header.value msg) (scanToReturn (temp.drop header.name.length))).map
        fun string => header.read msg string := by
  have fromLine : StringHeader.fromHeader ≠ header → ¬ startsWith (ascii "From: ") temp = true :=
    StringHeader.apart begins
  have viaLine : StringHeader.via ≠ header → ¬ startsWith (ascii "Via: ") temp = true :=
    StringHeader.apart begins
  have toLine : StringHeader.toHeader ≠ header → ¬ startsWith (ascii "To:") temp = true :=
    StringHeader.apart begins
  have cseqLine : StringHeader.cseq ≠ header → ¬ startsWith (ascii "CSeq: ") temp = true :=
    StringHeader.apart begins
  cases header with
  | fromHeader =>
      rw [sipHeader, if_pos (show startsWith (ascii "From: ") temp = true from begins)]
      rfl
  | via =>
      rw [sipHeader, if_neg (fromLine StringHeader.noConfusion),
        if_pos (show startsWith (ascii "Via: ") temp = true from begins)]
      rfl
  | toHeader =>
      rw [sipHeader, if_neg (fromLine StringHeader.noConfusion),
        if_neg (viaLine StringHeader.noConfusion),
        if_pos (show startsWith (ascii "To:") temp = true from begins)]
      rfl
  | cseq =>
      rw [sipHeader, if_neg (fromLine StringHeader.noConfusion),
        if_neg (viaLine StringHeader.noConfusion), if_neg (toLine StringHeader.noConfusion),
        if_pos (show startsWith (ascii "CSeq: ") temp = true from begins)]
      rfl
  | callid =>
      rw [sipHeader, if_neg (fromLine StringHeader.noConfusion),
        if_neg (viaLine StringHeader.noConfusion), if_neg (toLine StringHeader.noConfusion),
        if_neg (cseqLine StringHeader.noConfusion),
        if_pos (show startsWith (ascii "Call-ID: ") temp = true from begins)]
      rfl

/-- A line of none of the strings. -/
theorem sipHeader_other {temp : List UInt8} (msg : SIPMsg)
    (other : ∀ header : StringHeader, ¬ startsWith (ascii header.name) temp = true) :
    sipHeader msg temp =
      if startsWith (ascii "Content-Length: ") temp then
        .ok { msg with
          contentlen := (scanInt (temp.drop 16)).getD msg.contentlen
          fields := msg.fields ||| sipContentlen }
      else if startsWith (ascii "Content-Type: ") temp then
        (storeString fieldLen msg.contenttype (scanWord (temp.drop 14))).map fun contenttype =>
          { msg with contenttype := contenttype, fields := msg.fields ||| sipContenttype }
      else .ok msg := by
  rw [sipHeader, if_neg (show ¬ startsWith (ascii "From: ") temp = true from other .fromHeader),
    if_neg (show ¬ startsWith (ascii "Via: ") temp = true from other .via),
    if_neg (show ¬ startsWith (ascii "To:") temp = true from other .toHeader),
    if_neg (show ¬ startsWith (ascii "CSeq: ") temp = true from other .cseq),
    if_neg (show ¬ startsWith (ascii "Call-ID: ") temp = true from other .callid)]
  rfl

/-- What one line does to a message. -/
structure SipHeaderEffect (temp : List UInt8) (msg after : SIPMsg) : Prop where
  type : after.type = msg.type
  read : ∀ header : StringHeader, startsWith (ascii header.name) temp = true →
    storeString fieldLen (header.value msg) (scanToReturn (temp.drop header.name.length)) =
      .ok (header.value after)
  kept : ∀ header : StringHeader, ¬ startsWith (ascii header.name) temp = true →
    header.value after = header.value msg
  contenttype : after.contenttype = msg.contenttype ∨
    (startsWith (ascii "Content-Type: ") temp = true ∧
      storeString fieldLen msg.contenttype (scanWord (temp.drop 14)) = .ok after.contenttype)

/-- What a line of a string does. -/
theorem sipHeader_string_effect {header : StringHeader} {msg after : SIPMsg} {temp : List UInt8}
    (begins : startsWith (ascii header.name) temp = true) (ok : sipHeader msg temp = .ok after) :
    SipHeaderEffect temp msg after := by
  rw [sipHeader_string msg begins] at ok
  cases stored : storeString fieldLen (header.value msg)
      (scanToReturn (temp.drop header.name.length)) with
  | error reason =>
      rw [stored] at ok
      cases ok
  | ok string =>
      rw [stored] at ok
      obtain rfl := Except.ok.inj ok
      refine ⟨header.type_read msg string, fun other here => ?_, fun other absent => ?_,
        .inl (header.contenttype_read msg string)⟩
      · have same : other = header := by
          by_contra distinct
          exact StringHeader.apart begins distinct here
        rw [same, stored, header.value_read, if_pos rfl]
      · have distinct : other ≠ header := fun same => absent (same ▸ begins)
        rw [header.value_read, if_neg distinct]

/-- What a line does. -/
theorem sipHeader_effect {msg after : SIPMsg} {temp : List UInt8}
    (ok : sipHeader msg temp = .ok after) : SipHeaderEffect temp msg after := by
  by_cases string : ∃ header : StringHeader, startsWith (ascii header.name) temp = true
  · obtain ⟨header, begins⟩ := string
    exact sipHeader_string_effect begins ok
  · rw [not_exists] at string
    have kept : ∀ {contentlen fields contenttype} (header : StringHeader),
        header.value { msg with
          contentlen := contentlen, fields := fields, contenttype := contenttype } =
        header.value msg := fun header => by cases header <;> rfl
    rw [sipHeader_other msg string] at ok
    split at ok
    · cases ok
      exact ⟨rfl, fun header begins => absurd begins (string header), fun header _ => kept header,
        .inl rfl⟩
    · split at ok
      · rename_i conttype
        cases stored : storeString fieldLen msg.contenttype (scanWord (temp.drop 14)) with
        | error reason =>
            rw [stored] at ok
            cases ok
        | ok contenttype =>
            rw [stored] at ok
            cases ok
            exact ⟨rfl, fun header begins => absurd begins (string header),
              fun header _ => kept header, .inr ⟨conttype, stored⟩⟩
      · cases ok
        exact ⟨rfl, fun header begins => absurd begins (string header), fun _ _ => rfl, .inl rfl⟩

/-- The strings read in a line fit their arrays. -/
structure FitsAt (temp : List UInt8) : Prop where
  strings : ∀ header : StringHeader, startsWith (ascii header.name) temp = true →
    ∀ string, scanToReturn (temp.drop header.name.length) = some string → string.length < fieldLen
  contenttype : startsWith (ascii "Content-Type: ") temp = true →
    ∀ word, scanWord (temp.drop 14) = some word → word.length < fieldLen

theorem storeString_of_fits {size : Nat} {scanned : Option (List UInt8)} (old : List UInt8)
    (fits : ∀ string, scanned = some string → string.length < size) :
    ∃ stored, storeString size old scanned = .ok stored := by
  cases scanned with
  | none => exact ⟨old, rfl⟩
  | some string => exact ⟨string, if_pos (fits string rfl)⟩

/-- Then the line is read. -/
theorem sipHeader_of_fits {temp : List UInt8} (msg : SIPMsg) (fits : FitsAt temp) :
    ∃ after, sipHeader msg temp = .ok after := by
  by_cases string : ∃ header : StringHeader, startsWith (ascii header.name) temp = true
  · obtain ⟨header, begins⟩ := string
    obtain ⟨stored, ok⟩ := storeString_of_fits (header.value msg) (fits.strings header begins)
    exact ⟨_, by rw [sipHeader_string msg begins, ok, Except.map]⟩
  · rw [not_exists] at string
    rw [sipHeader_other msg string]
    split
    · exact ⟨_, rfl⟩
    · split
      · rename_i begins
        obtain ⟨stored, ok⟩ := storeString_of_fits msg.contenttype (fits.contenttype begins)
        exact ⟨_, by rw [ok, Except.map]⟩
      · exact ⟨_, rfl⟩

/-! ## All headers -/

/-- The headers of the lines, one after the other. -/
def sipHeaders : List Line → List UInt8 → SIPMsg → Except Undefined SIPMsg
  | [], _, msg => .ok msg
  | line :: lines, body, msg => do
      let msg ← sipHeader msg (framed (line :: lines) body)
      sipHeaders lines body msg

/-- The first line, and the others. -/
theorem sipHeaders_cons {line : Line} {lines : List Line} {body : List UInt8} {msg after : SIPMsg}
    (ok : sipHeaders (line :: lines) body msg = .ok after) : ∃ next,
      sipHeader msg (framed (line :: lines) body) = .ok next ∧
        sipHeaders lines body next = .ok after := by
  cases first : sipHeader msg (framed (line :: lines) body) with
  | error reason => simp [sipHeaders, first, bind, Except.bind] at ok
  | ok next =>
      simp only [sipHeaders, first, bind, Except.bind] at ok
      exact ⟨next, rfl, ok⟩

/-- The loop of the parser does nothing else. It stops in front of the blank line. -/
theorem sipLines_framed {lines : List Line} {body : List UInt8} {steps : Nat} {msg : SIPMsg}
    (enough : lines.length ≤ steps) :
    sipLines (crlfcrlf ++ body) steps (framed lines body) true msg =
      (sipHeaders lines body msg).map fun msg => some (msg, crlf ++ body) := by
  induction lines generalizing steps msg with
  | nil =>
      cases steps with
      | zero => rfl
      | succ steps =>
          have behind : ¬ (crlfcrlf ++ body).length < (framed [] body).length := by
            simp [framed_nil, crlfcrlf, crlf, ascii]
            omega
          rw [sipLines, if_neg behind]
          rfl
  | cons line lines ih =>
      obtain ⟨steps, rfl⟩ : ∃ n, steps = n + 1 := ⟨steps - 1, by simp at enough; omega⟩
      have before : (crlfcrlf ++ body).length < (framed (line :: lines) body).length := by
        have positive := List.length_pos_iff.mpr line.nonempty
        simp only [framed, block_cons, crlfcrlf, crlf, ascii, List.length_append, List.length_map]
        simp
        omega
      rw [sipLines, if_pos before]
      cases header : sipHeader msg (framed (line :: lines) body) with
      | error reason => simp [sipHeaders, header, bind, Except.bind, Except.map]
      | ok next =>
          have found : strstr (framed (line :: lines) body) crlf = some (crlf ++ framed lines body) := by
            rw [framed_cons]
            exact strstr_crlf line.whole _
          have behind : (crlf ++ framed lines body).drop 2 = framed lines body := rfl
          simp only [sipHeaders, header, bind, Except.bind, if_true, found, behind]
          exact ih (Nat.le_of_succ_le_succ enough)

/-- The message of the type of a datagram, before its headers. -/
def typedSip (type : SipMsgType) : SIPMsg :=
  { SIPMsg.zero with type := type, fields := SIPMsg.zero.fields ||| sipType }

/-- A message which is complete and of a known type. -/
theorem parsesipmsg_framed {lines : List Line} {type : SipMsgType} (some_ : lines ≠ [])
    (body : List UInt8) (known : sipMessageType (framed lines body) = some type) :
    parsesipmsg (framed lines body) = (do
      let msg ← sipHeaders lines body (typedSip type)
      let msg ← sipPort msg (crlf ++ body)
      .ok (0, msg)) := by
  have enough := length_framed lines body
  obtain ⟨steps, size⟩ : ∃ n, (framed lines body).length = n + 1 :=
    ⟨(framed lines body).length - 1, by omega⟩
  have before : (crlfcrlf ++ body).length < (framed lines body).length := by
    obtain ⟨line, rest, rfl⟩ := List.exists_cons_of_ne_nil some_
    have positive := List.length_pos_iff.mpr line.nonempty
    simp [framed, crlfcrlf, crlf, ascii]
    omega
  have typed : sipLines (crlfcrlf ++ body) (steps + 1) (framed lines body) false SIPMsg.zero =
      sipLines (crlfcrlf ++ body) (steps + 1) (framed lines body) true (typedSip type) := by
    simp only [sipLines, if_pos before, known, Bool.false_eq_true, if_false, if_true, Option.map_some]
    rfl
  rw [parsesipmsg, strstr_blank some_, size]
  simp only [typed]
  rw [sipLines_framed (by omega)]
  cases sipHeaders lines body (typedSip type) with
  | error reason => rfl
  | ok msg => rfl

/-! ## Headers which occur once -/

/-- What a header line gives: blanks, and then a value which begins otherwise and has no line end. -/
structure Gives (given value : List UInt8) : Prop where
  blanks : ∃ blanks, given = blanks ++ value ∧ ∀ byte ∈ blanks, isSpace byte = true
  nonempty : value ≠ []
  plain : ∀ byte ∈ value.head?, isSpace byte = false
  free : 13 ∉ value
  fits : value.length < fieldLen

/-- It is read as its value. -/
theorem Gives.scan {given value : List UInt8} (gives : Gives given value) (rest : List UInt8) :
    scanToReturn (given ++ crlf ++ rest) = some value := by
  obtain ⟨blanks, rfl, blank⟩ := gives.blanks
  obtain ⟨first, tail, rfl⟩ := List.exists_cons_of_ne_nil gives.nonempty
  have plain : isSpace first = false := gives.plain first rfl
  have skipped : skipSpace (blanks ++ (first :: tail) ++ crlf ++ rest) =
      first :: tail ++ crlf ++ rest := by
    rw [skipSpace, List.append_assoc, List.append_assoc, List.dropWhile_append_of_pos blank]
    simp [plain]
  have line : (first :: tail ++ crlf ++ rest).takeWhile (fun byte => byte ≠ 13) = first :: tail := by
    have kept : ∀ byte ∈ first :: tail, decide (byte ≠ 13) = true := fun byte member =>
      decide_eq_true fun same => gives.free (same ▸ member)
    rw [List.append_assoc, List.takeWhile_append_of_pos kept]
    simp [crlf, ascii]
  rw [scanToReturn, skipped, scanSet, line, if_neg gives.nonempty]

section Once

variable {header : StringHeader} {line : Line} {lines : List Line} {body : List UInt8}
  {msg after : SIPMsg} {given value : List UInt8}

/-- Whether a line has the header. -/
theorem startsWith_string (header : StringHeader) (line : Line) (rest : List Line)
    (body : List UInt8) :
    startsWith (ascii header.name) (framed (line :: rest) body) =
      startsWith (ascii header.name) line.bytes := by
  rw [framed_cons]
  exact startsWith_line header.free _ _

/-- What is read off the text of a line with the header. -/
theorem scan_string (rest : List Line) (body : List UInt8)
    (here : afterLiteral (ascii header.name) line.bytes = some given) (gives : Gives given value) :
    startsWith (ascii header.name) (framed (line :: rest) body) = true ∧
      scanToReturn ((framed (line :: rest) body).drop header.name.length) = some value := by
  have size : (ascii header.name).length = header.name.length := by
    rw [ascii, List.length_map, String.length_toList]
  have begins : startsWith (ascii header.name) line.bytes = true := by
    by_contra other
    rw [afterLiteral, if_neg other] at here
    cases here
  rw [afterLiteral, if_pos begins, Option.some_inj] at here
  obtain ⟨tail, bytes⟩ := startsWith_iff.mp begins
  rw [← bytes, List.drop_left] at here
  refine ⟨by rw [startsWith_string, begins], ?_⟩
  rw [framed_cons, ← bytes, here, ← size, List.append_assoc, List.append_assoc, List.drop_left,
    ← List.append_assoc]
  exact gives.scan _

/-- A line with another header, or with none. -/
theorem not_startsWith_string (rest : List Line) (body : List UInt8)
    (other : afterLiteral (ascii header.name) line.bytes = none) :
    ¬ startsWith (ascii header.name) (framed (line :: rest) body) = true := by
  rw [startsWith_string]
  intro begins
  rw [afterLiteral, if_pos begins] at other
  cases other

/-- Without a line of its name a string stays as it was. -/
theorem sipHeaders_lacks (ok : sipHeaders lines body msg = .ok after)
    (lacks : (lines.map Line.bytes).filterMap (afterLiteral (ascii header.name)) = []) :
    header.value after = header.value msg := by
  induction lines generalizing msg with
  | nil =>
      cases ok
      rfl
  | cons line lines ih =>
      obtain ⟨next, first, later⟩ := sipHeaders_cons ok
      rw [List.map_cons, List.filterMap_cons] at lacks
      split at lacks
      · rename_i other
        rw [ih later lacks, (sipHeader_effect first).kept header (not_startsWith_string _ _ other)]
      · cases lacks

/-- With one line of its name it is the value which that gives. -/
theorem sipHeaders_once (ok : sipHeaders lines body msg = .ok after)
    (once : (lines.map Line.bytes).filterMap (afterLiteral (ascii header.name)) = [given])
    (gives : Gives given value) : header.value after = value := by
  induction lines generalizing msg with
  | nil => cases once
  | cons line lines ih =>
      obtain ⟨next, first, later⟩ := sipHeaders_cons ok
      rw [List.map_cons, List.filterMap_cons] at once
      split at once
      · exact ih later once
      · rename_i here
        obtain ⟨rfl, lacks⟩ := List.cons.inj once
        obtain ⟨begins, scanned⟩ := scan_string lines body here gives
        have stored := (sipHeader_effect first).read header begins
        rw [scanned, storeString, if_pos gives.fits] at stored
        rw [sipHeaders_lacks later lacks]
        exact (Except.ok.inj stored).symm

/-- Without a line of its name the content type stays as it was. -/
theorem sipHeaders_untyped (ok : sipHeaders lines body msg = .ok after)
    (untyped : ∀ line ∈ lines, ¬ startsWith (ascii "Content-Type: ") line.bytes = true) :
    after.contenttype = msg.contenttype := by
  induction lines generalizing msg with
  | nil =>
      cases ok
      rfl
  | cons line lines ih =>
      obtain ⟨next, first, later⟩ := sipHeaders_cons ok
      rw [ih later fun other member => untyped other (List.mem_cons_of_mem _ member)]
      rcases (sipHeader_effect first).contenttype with same | ⟨begins, -⟩
      · exact same
      · rw [framed_cons, startsWith_line (by decide)] at begins
        exact absurd begins (untyped line List.mem_cons_self)

/-- The headers do not change the type. -/
theorem sipHeaders_type (ok : sipHeaders lines body msg = .ok after) : after.type = msg.type := by
  induction lines generalizing msg with
  | nil =>
      cases ok
      rfl
  | cons line lines ih =>
      obtain ⟨next, first, later⟩ := sipHeaders_cons ok
      rw [ih later, (sipHeader_effect first).type]

end Once

/-- Every header which identifies a request occurs once and gives its value. -/
def Identifies (lines : List Line) (ids : StringHeader → List UInt8) : Prop :=
  ∀ header : StringHeader, ∃ given,
    (lines.map Line.bytes).filterMap (afterLiteral (ascii header.name)) = [given] ∧
      Gives given (ids header)

/-- The content types which are read fit their array. -/
def TypesFit (lines : List Line) (body : List UInt8) : Prop :=
  ∀ before line later, lines = before ++ line :: later →
    startsWith (ascii "Content-Type: ") line.bytes = true →
      ∀ word, scanWord ((framed (line :: later) body).drop 14) = some word → word.length < fieldLen

/-- The strings of a header which occurs at most once, with a value, fit. -/
theorem fitsAt_of_once {line : Line} {lines : List Line} {body : List UInt8}
    {ids : StringHeader → List UInt8}
    (once : ∀ header : StringHeader, ∀ given,
      afterLiteral (ascii header.name) line.bytes = some given → Gives given (ids header))
    (types : startsWith (ascii "Content-Type: ") line.bytes = true →
      ∀ word, scanWord ((framed (line :: lines) body).drop 14) = some word →
        word.length < fieldLen) : FitsAt (framed (line :: lines) body) := by
  constructor
  · intro header begins string scanned
    cases here : afterLiteral (ascii header.name) line.bytes with
    | none => exact absurd begins (not_startsWith_string _ _ here)
    | some given =>
        have gives := once header given here
        obtain ⟨-, read⟩ := scan_string lines body here gives
        obtain rfl := Option.some.inj (read.symm.trans scanned)
        exact gives.fits
  · intro begins
    rw [framed_cons, startsWith_line (by decide)] at begins
    exact types begins

/-- Then the headers are read, and the message has the values. -/
theorem sipHeaders_identifies {lines : List Line} {body : List UInt8}
    {ids : StringHeader → List UInt8} (identifies : Identifies lines ids)
    (types : TypesFit lines body) (msg : SIPMsg) : ∃ after,
      sipHeaders lines body msg = .ok after ∧ after.type = msg.type ∧
        ∀ header : StringHeader, header.value after = ids header := by
  have defined : ∀ (suffix : List Line) (msg : SIPMsg), suffix <:+ lines →
      ∃ after, sipHeaders suffix body msg = .ok after := by
    intro suffix
    induction suffix with
    | nil => exact fun msg _ => ⟨msg, rfl⟩
    | cons line later ih =>
        rintro msg ⟨before, split⟩
        have fits : FitsAt (framed (line :: later) body) := by
          refine @fitsAt_of_once _ _ _ ids (fun header given here => ?_)
            (types before line later split.symm)
          obtain ⟨only, once, gives⟩ := identifies header
          have member : given ∈ (lines.map Line.bytes).filterMap
              (afterLiteral (ascii header.name)) := by
            refine List.mem_filterMap.mpr ⟨line.bytes, List.mem_map_of_mem ?_, here⟩
            rw [← split]
            exact List.mem_append_right _ List.mem_cons_self
          rw [once] at member
          exact List.mem_singleton.mp member ▸ gives
        obtain ⟨next, first⟩ := sipHeader_of_fits msg fits
        obtain ⟨after, rest⟩ := ih next ⟨before ++ [line], by simpa using split⟩
        exact ⟨after, by simp [sipHeaders, first, rest, bind, Except.bind]⟩
  obtain ⟨after, ok⟩ := defined lines msg (List.suffix_refl _)
  refine ⟨after, ok, sipHeaders_type ok, fun header => ?_⟩
  obtain ⟨given, once, gives⟩ := identifies header
  exact sipHeaders_once ok once gives

/-! ## The session description -/

/-- The message declares a session description. -/
def SIPMsg.Declares (msg : SIPMsg) : Prop :=
  0 < msg.contentlen ∧ msg.contenttype = ascii "application/sdp"

instance (msg : SIPMsg) : Decidable msg.Declares := inferInstanceAs (Decidable (_ ∧ _))

/-! ## What every message keeps to -/

/-- A string of a message: it fits its array, and holds no line end. -/
structure LineText (bytes : List UInt8) : Prop where
  fits : bytes.length < fieldLen
  free : 13 ∉ bytes

/-- A message which `parsesipmsg` can have made. -/
structure SIPMsg.Received (msg : SIPMsg) : Prop where
  strings : ∀ header : StringHeader, LineText (header.value msg)
  contenttype : LineText msg.contenttype

theorem LineText.nil : LineText [] := ⟨by decide, List.not_mem_nil⟩

theorem SIPMsg.received_zero : SIPMsg.zero.Received :=
  ⟨fun header => by cases header <;> exact .nil, .nil⟩

/-- The strings are all that matters. -/
theorem SIPMsg.Received.of_same {msg after : SIPMsg} (received : msg.Received)
    (strings : ∀ header : StringHeader, header.value after = header.value msg)
    (contenttype : after.contenttype = msg.contenttype) : after.Received := by
  refine ⟨fun header => ?_, ?_⟩
  · rw [strings header]
    exact received.strings header
  · rw [contenttype]
    exact received.contenttype

/-- What is in an array after a conversion which does not read line ends. -/
theorem LineText.of_stored {old stored : List UInt8} {scanned : Option (List UInt8)}
    (before : LineText old) (free : ∀ string, scanned = some string → 13 ∉ string)
    (ok : storeString fieldLen old scanned = .ok stored) : LineText stored := by
  unfold storeString at ok
  split at ok
  · cases ok
    exact before
  · split at ok
    · rename_i fits
      cases ok
      exact ⟨fits, free _ rfl⟩
    · cases ok

/-- A conversion which stops at a byte does not read it. -/
theorem scanSet_free {accepts : UInt8 → Bool} {text string : List UInt8} {byte : UInt8}
    (stops : accepts byte = false) (scanned : scanSet accepts text = some string) :
    byte ∉ string := by
  unfold scanSet at scanned
  split at scanned
  · cases scanned
  · obtain rfl := Option.some.inj scanned
    intro member
    have accepted := List.mem_takeWhile_imp member
    exact Bool.false_ne_true (stops.symm.trans accepted)

theorem sipHeader_received {msg after : SIPMsg} {temp : List UInt8} (received : msg.Received)
    (ok : sipHeader msg temp = .ok after) : after.Received := by
  have effect := sipHeader_effect ok
  constructor
  · intro header
    by_cases begins : startsWith (ascii header.name) temp = true
    · exact (received.strings header).of_stored (fun _ scanned => scanSet_free rfl scanned)
        (effect.read header begins)
    · rw [effect.kept header begins]
      exact received.strings header
  · rcases effect.contenttype with same | ⟨-, stored⟩
    · rw [same]
      exact received.contenttype
    · exact received.contenttype.of_stored (fun _ scanned => scanSet_free rfl scanned) stored

theorem sipLines_received {stop temp rest : List UInt8} {steps : Nat} {typeflag : Bool}
    {msg after : SIPMsg} (received : msg.Received)
    (ok : sipLines stop steps temp typeflag msg = .ok (some (after, rest))) : after.Received := by
  induction steps generalizing temp typeflag msg with
  | zero =>
      cases ok
      exact received
  | succ steps ih =>
      simp only [sipLines] at ok
      split at ok
      · split at ok
        · cases ok
        · rename_i typed isTyped
          have typed_ : typed.Received := by
            split at isTyped
            · cases isTyped
              exact received
            · obtain ⟨type, -, rfl⟩ := Option.map_eq_some_iff.mp isTyped
              exact received.of_same (fun header => by cases header <;> rfl) rfl
          cases header : sipHeader typed temp with
          | error reason => simp [header, bind, Except.bind] at ok
          | ok next =>
              simp only [header, bind, Except.bind] at ok
              split at ok
              · cases ok
              · exact ih (sipHeader_received typed_ header) ok
      · cases ok
        exact received

/-- The port is no string of the message. -/
theorem sipPort_eq {msg after : SIPMsg} {temp : List UInt8} (ok : sipPort msg temp = .ok after) :
    ∃ port fields, after = { msg with clirtpport := port, fields := fields } := by
  unfold sipPort at ok
  split at ok
  · split at ok
    · cases ok
    · simp only [bind, Except.bind] at ok
      split at ok
      · cases ok
      · cases ok
        exact ⟨_, _, rfl⟩
  · cases ok
    exact ⟨_, _, rfl⟩

/-- Every message keeps to it. -/
theorem parsesipmsg_received {text : List UInt8} {result : Int} {msg : SIPMsg}
    (parsed : parsesipmsg text = .ok (result, msg)) : msg.Received := by
  unfold parsesipmsg at parsed
  split at parsed
  · cases parsed
    exact SIPMsg.received_zero
  · rename_i stop found
    cases lines : sipLines stop text.length text false SIPMsg.zero with
    | error reason => simp [lines, bind, Except.bind] at parsed
    | ok read =>
        cases read with
        | none =>
            simp only [lines, bind, Except.bind] at parsed
            cases parsed
            exact SIPMsg.received_zero
        | some read =>
            have received := sipLines_received SIPMsg.received_zero lines
            simp only [lines, bind, Except.bind] at parsed
            cases port : sipPort read.1 read.2 with
            | error reason => simp [port] at parsed
            | ok after =>
                obtain ⟨clirtpport, fields, rfl⟩ := sipPort_eq port
                simp only [port] at parsed
                cases parsed
                exact received.of_same (fun header => by cases header <;> rfl) rfl

end Http2Rtsp.Message
