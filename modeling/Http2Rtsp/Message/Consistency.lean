import Http2Rtsp.Message.Writer

/-!
# Consistent replies

A reply is consistent when it is one header block and a body of the length the
block announces. The replies are copies of the request with some bits changed, so
a `Content-Length` of the request comes back in a reply without a body. The
module says exactly which replies are consistent.
-/

namespace Http2Rtsp.Message

open Http2Rtsp.Std

/-- A text is a header block, ended by the first blank line in it, and a body of the length which
is given in the block, or none when no length is. -/
def Consistent (text : List UInt8) : Prop :=
  ∃ lines body, lines ≠ [] ∧ text = framed lines body ∧
    strstr text crlfcrlf = some (crlfcrlf ++ body) ∧
    (headers "Content-Length: " text = [] → body = []) ∧
    ∀ value ∈ headers "Content-Length: " text, value = decimal body.length

/-- A builder has left a consistent reply in the buffer and returned its length. -/
def SelfConsistent (result : Except Undefined (List UInt8 × Nat)) : Prop :=
  ∃ buffer returned, result = .ok (buffer, returned) ∧ strlen buffer = .ok returned ∧
    Consistent (buffer.takeWhile (· ≠ 0))

/-- What `ctime_r` writes, without its line end. -/
structure DateText (date : List UInt8) : Prop where
  stored : Stored fieldLen date
  oneLine : 13 ∉ date

/-- The request announces no body, or an empty one. -/
def RTSPMsg.Bodiless (msg : RTSPMsg) : Prop := msg.has fContlen = true → msg.contentlen = 0

/-- The condition under which a builder's reply is consistent. -/
def Builder.Sound (builder : Builder) (msg : RTSPMsg) (args : BuilderArgs) : Prop :=
  match builder with
  | .options | .play => msg.Bodiless
  | .setup => msg.Bodiless ∧ (setupTransport msg args.rtp args.rtcp).length < fieldLen
  | .describe | .teardown => True

/-! ## Texts -/

theorem consistent_framed {lines : List Line} {body : List UInt8} (some_ : lines ≠ []) :
    Consistent (framed lines body) ↔
      (headers "Content-Length: " (framed lines body) = [] → body = []) ∧
        ∀ value ∈ headers "Content-Length: " (framed lines body), value = decimal body.length := by
  constructor
  · rintro ⟨lines', body', -, same, -, lengths⟩
    obtain ⟨rfl, rfl⟩ := framed_injective same
    exact lengths
  · intro lengths
    exact ⟨lines, body, some_, rfl, strstr_blank some_ body, lengths⟩

/-- The text has the numbers of the message and this body. -/
theorem consistent_numbers {text body : List UInt8} {msg : RTSPMsg} {lines : List Line}
    (some_ : lines ≠ []) (text_ : text = framed lines body)
    (numbers : headers "Content-Length: " text = msg.numbers .contlen) :
    Consistent text ↔
      if msg.has fContlen = true then msg.contentlen = body.length else body = [] := by
  subst text_
  rw [consistent_framed some_, numbers]
  unfold RTSPMsg.numbers
  split
  · rename_i set
    have set_ : msg.has fContlen = true := set
    rw [if_pos set_]
    constructor
    · intro lengths
      exact decimal_injective (lengths.2 _ List.mem_cons_self)
    · intro same
      refine ⟨fun none => (by cases none), fun value member => ?_⟩
      obtain rfl := List.mem_singleton.mp member
      rw [← same]
      rfl
  · rename_i clear
    have clear_ : ¬ msg.has fContlen = true := clear
    rw [if_neg clear_]
    exact ⟨fun lengths => lengths.1 rfl, fun empty => ⟨fun _ => empty, fun _ member => by cases member⟩⟩

theorem selfConsistent_iff {result : Except Undefined (List UInt8 × Nat)} {text : List UInt8}
    (leaves : Leaves result text) : SelfConsistent result ↔ Consistent text := by
  obtain ⟨buffer, rfl, length, string⟩ := leaves
  constructor
  · rintro ⟨buffer', returned, same, -, consistent⟩
    obtain ⟨rfl, -⟩ := Prod.mk.inj (Except.ok.inj same)
    rwa [string] at consistent
  · intro consistent
    exact ⟨buffer, text.length, rfl, length, by rwa [string]⟩

/-- What the writer has written: the body is the data, if there are any. -/
theorem writeRtsp_consistent {msg : RTSPMsg} (lined : msg.Lined) :
    Consistent (writeRtsp msg) ↔
      if msg.has fContlen = true then msg.contentlen = (replyBody msg).length
      else replyBody msg = [] := by
  obtain ⟨lines, same, written⟩ := writeRtsp_framed lined
  have some_ : lines ≠ [] := by
    rintro rfl
    cases same
  exact consistent_numbers some_ written (headers_writeRtsp lined .contlen)

/-- A reply without data is consistent when no length, or the length 0, is announced. -/
theorem writeRtsp_bodiless {msg : RTSPMsg} (lined : msg.Lined) (bare : msg.has fData = false) :
    Consistent (writeRtsp msg) ↔ msg.Bodiless := by
  have noBody : replyBody msg = [] := by simp [replyBody, bare]
  rw [writeRtsp_consistent lined, noBody, RTSPMsg.Bodiless]
  split
  · rename_i set
    simp [set]
  · rename_i clear
    simp [clear]

/-! ## The builders -/

section Builders

variable {msg : RTSPMsg} {client : Client} {args : BuilderArgs}

theorem RTSPMsg.Received.stored (received : msg.Received) : msg.Stored where
  numbers := received.numbers
  date dated := absurd (received.undated.symm.trans dated) Bool.false_ne_true
  contenttype := received.contenttype.stored
  transport := received.transport.stored
  range := received.range.stored
  data present := absurd (received.bare.symm.trans present) Bool.false_ne_true

theorem options_consistent (received : msg.Received) :
    SelfConsistent (Builder.options.fill msg client args) ↔ msg.Bodiless := by
  rw [selfConsistent_iff (fill_options received.stored received.bare client args)]
  obtain ⟨lines, same, written⟩ := rtspOptions_framed received.lined received.bare client
  have some_ : lines ≠ [] := by
    rintro rfl
    cases same
  rw [consistent_numbers some_ written
    (headers_rtspOptions received.lined received.bare client .contlen), RTSPMsg.Bodiless]
  split
  · rename_i set
    simp [set]
  · rename_i clear
    simp [clear]

theorem describe_consistent (cseq : IsInt client.cseq) (date : DateText args.date) :
    SelfConsistent (Builder.describe.fill msg client args) := by
  have type : Stored fieldLen (ascii "application/sdp") := ⟨by decide, by decide⟩
  have empty : Stored fieldLen [] := ⟨by decide, List.not_mem_nil⟩
  have data : Stored urlSize sdp := ⟨by decide +kernel, by decide +kernel⟩
  have length : IsInt sdp.length := ⟨by decide +kernel, by decide +kernel⟩
  have numbers : ∀ header : NumberHeader, IsInt (header.value (describeMsg client args.date)) := by
    intro header
    cases header with
    | cseq => exact cseq
    | session => exact isInt_zero
    | contlen => exact length
  have stored : (describeMsg client args.date).Stored :=
    ⟨numbers, fun _ => date.stored, type, empty, empty, fun _ => data⟩
  have leaves : Leaves (Builder.describe.fill msg client args)
      (writeRtsp (describeMsg client args.date)) := (writeRtspTo_writes stored).leaves
  have bits : (fCseq ||| fDate ||| fConttype ||| fContlen ||| fData) &&& fContlen ≠ 0 ∧
      (fCseq ||| fDate ||| fConttype ||| fContlen ||| fData) &&& fData ≠ 0 := by decide
  have announced : (describeMsg client args.date).has fContlen = true := has_iff.mpr bits.1
  have body : replyBody (describeMsg client args.date) = sdp := if_pos (has_iff.mpr bits.2)
  rw [selfConsistent_iff leaves, writeRtsp_consistent (describeMsg_lined client date.oneLine),
    if_pos announced, body]
  rfl

theorem setup_consistent (received : msg.Received) :
    SelfConsistent (Builder.setup.fill msg client args) ↔
      msg.Bodiless ∧ (setupTransport msg args.rtp args.rtcp).length < fieldLen := by
  let session : Int := (args.rand % 1000000 : Nat)
  let reply := setupMsg msg session args.rtp args.rtcp
  by_cases fits : (setupTransport msg args.rtp args.rtcp).length < fieldLen
  · have same : ∀ field, fSession &&& field = 0 → reply.has field = msg.has field :=
      fun field apart => has_set_other rfl apart
    have small : IsInt session := by
      have := Nat.mod_lt args.rand (show 0 < 1000000 by omega)
      exact ⟨by omega, by omega⟩
    have numbers : ∀ header : NumberHeader, IsInt (header.value reply) := by
      intro header
      cases header with
      | cseq => exact received.numbers .cseq
      | session => exact small
      | contlen => exact received.numbers .contlen
    have noNul : 0 ∉ setupTransport msg args.rtp args.rtcp := by
      have literals : (0 : UInt8) ∉ ascii ";server_port=" ∧ (0 : UInt8) ∉ ascii "-" := by decide
      simp only [setupTransport, List.mem_append, not_or]
      exact ⟨⟨⟨⟨received.transport.stored.noNul, literals.1⟩, decimal_noNul _⟩, literals.2⟩,
        decimal_noNul _⟩
    have stored : reply.Stored :=
      { received.stored with
        numbers := numbers
        transport := ⟨fits, noNul⟩
        date := fun dated => received.stored.date ((same fDate rfl).symm.trans dated)
        data := fun present => received.stored.data ((same fData rfl).symm.trans present) }
    have filled : Builder.setup.fill msg client args =
        (do let w ← writeRtspTo reply; .ok (w.buffer, w.temp)) := if_pos fits
    have leaves := (writeRtspTo_writes stored).leaves
    rw [← filled] at leaves
    have bare : reply.has fData = false := (same fData rfl).trans received.bare
    rw [selfConsistent_iff leaves, writeRtsp_bodiless (received.setup_lined _ _ _) bare]
    have bodiless : reply.Bodiless ↔ msg.Bodiless := by
      rw [RTSPMsg.Bodiless, same fContlen rfl]
      rfl
    rw [bodiless]
    exact ⟨fun lengths => ⟨lengths, fits⟩, fun sound => sound.1⟩
  · have overflows : Builder.setup.fill msg client args = .error .overflow := if_neg fits
    rw [overflows]
    refine iff_of_false ?_ fun sound => fits sound.2
    rintro ⟨buffer, returned, same, -⟩
    cases same

theorem play_consistent (received : msg.Received) (date : DateText args.date) :
    SelfConsistent (Builder.play.fill msg client args) ↔ msg.Bodiless := by
  obtain ⟨-, -, -, contlen, data⟩ := has_play msg args.date
  have bare : (playMsg msg args.date).has fData = false := data.trans received.bare
  have numbers : ∀ header : NumberHeader, IsInt (header.value (playMsg msg args.date)) := by
    intro header
    cases header with
    | cseq => exact received.numbers .cseq
    | session => exact received.numbers .session
    | contlen => exact received.numbers .contlen
  have stored : (playMsg msg args.date).Stored :=
    { received.stored with
      numbers := numbers
      date := fun _ => date.stored
      data := fun present => absurd (bare.symm.trans present) Bool.false_ne_true }
  have leaves : Leaves (Builder.play.fill msg client args) (writeRtsp (playMsg msg args.date)) :=
    (writeRtspTo_writes stored).leaves
  rw [selfConsistent_iff leaves, writeRtsp_bodiless (received.play_lined date.oneLine) bare,
    RTSPMsg.Bodiless, contlen]
  rfl

theorem teardown_consistent (received : msg.Received) :
    SelfConsistent (Builder.teardown.fill msg client args) := by
  have bits : (fSession ||| fCseq) &&& fDate = 0 ∧ (fSession ||| fCseq) &&& fData = 0 ∧
      (fSession ||| fCseq) &&& fContlen = 0 := by decide
  have clear : ∀ field, (fSession ||| fCseq) &&& field = 0 → (teardownMsg msg).has field = false :=
    fun field apart => Bool.eq_false_iff.mpr fun set => has_iff.mp set apart
  have numbers : ∀ header : NumberHeader, IsInt (header.value (teardownMsg msg)) := by
    intro header
    cases header with
    | cseq => exact received.numbers .cseq
    | session => exact received.numbers .session
    | contlen => exact received.numbers .contlen
  have stored : (teardownMsg msg).Stored :=
    { received.stored with
      numbers := numbers
      date := fun dated => absurd ((clear fDate bits.1).symm.trans dated) Bool.false_ne_true
      data := fun present => absurd ((clear fData bits.2.1).symm.trans present) Bool.false_ne_true }
  have leaves : Leaves (Builder.teardown.fill msg client args) (writeRtsp (teardownMsg msg)) :=
    (writeRtspTo_writes stored).leaves
  rw [selfConsistent_iff leaves, writeRtsp_bodiless received.teardown_lined (clear fData bits.2.1)]
  intro set
  exact absurd ((clear fContlen bits.2.2).symm.trans set) Bool.false_ne_true

end Builders

/-- For every message made from an accepted request: each builder leaves a consistent reply exactly
when the request announces no body which the reply would announce again, and a SETUP has room for
the ports in the transport. -/
theorem replies_consistent_iff {text : List UInt8} {msg : RTSPMsg} {client : Client}
    {args : BuilderArgs} (noNul : 0 ∉ text) (accepted : parseRtsp text = .ok (1, msg))
    (cseq : IsInt client.cseq) (date : DateText args.date) (builder : Builder) :
    SelfConsistent (builder.fill msg client args) ↔ builder.Sound msg args := by
  have received := parseRtsp_received noNul accepted
  cases builder with
  | options => exact options_consistent received
  | describe => exact iff_of_true (describe_consistent cseq date) trivial
  | setup => exact setup_consistent received
  | play => exact play_consistent received date
  | teardown => exact iff_of_true (teardown_consistent received) trivial

/-- An OPTIONS request with a body. -/
def optionsWithBody : List UInt8 :=
  ascii "OPTIONS * RTSP/1.0\r\nCSeq: 1\r\nContent-Length: 5\r\n\r\nhello"

/-- A date, and the ports of the video. -/
def someArgs : BuilderArgs := ⟨0, ascii "Thu Jan  1 00:00:00 1970", 50508, 50509⟩

theorem someArgs_date : DateText someArgs.date := ⟨⟨by decide, by decide⟩, by decide⟩

/-- It is accepted, and its length is read. -/
theorem optionsWithBody_accepted : ∃ msg, parseRtsp optionsWithBody = .ok (1, msg) ∧
    msg.has fContlen = true ∧ msg.contentlen = 5 :=
  ⟨_, rfl, rfl, rfl⟩

/-- At this request two of the builders leave consistent replies. -/
theorem replies_consistent_iff_optionsWithBody : ∃ msg,
    parseRtsp optionsWithBody = .ok (1, msg) ∧
      ∀ builder : Builder, SelfConsistent (builder.fill msg initClient someArgs) ↔
        builder = .describe ∨ builder = .teardown := by
  obtain ⟨msg, accepted, announced, length⟩ := optionsWithBody_accepted
  have noNul : 0 ∉ optionsWithBody := by decide
  have body : ¬ msg.Bodiless := by
    intro none
    have zero := none announced
    rw [length] at zero
    cases zero
  refine ⟨msg, accepted, fun builder => ?_⟩
  rw [replies_consistent_iff noNul accepted isInt_zero someArgs_date builder]
  cases builder <;> simp [Builder.Sound, body]

/-- The reply to it announces the body again and has none. -/
theorem replies_not_always_consistent : ¬ ∀ text msg client args (builder : Builder), 0 ∉ text →
    parseRtsp text = .ok (1, msg) → IsInt client.cseq → DateText args.date →
      SelfConsistent (builder.fill msg client args) := by
  intro all
  obtain ⟨msg, accepted, announced, length⟩ := optionsWithBody_accepted
  have noNul : 0 ∉ optionsWithBody := by decide
  have consistent := all optionsWithBody msg initClient someArgs .options noNul accepted isInt_zero
    someArgs_date
  rw [options_consistent (parseRtsp_received noNul accepted)] at consistent
  have none := consistent announced
  rw [length] at none
  cases none

end Http2Rtsp.Message
