import Http2Rtsp.Rtp.Numbering
import Http2Rtsp.Std.Positions

/-!
# The framing of a frame's packets

`send_video_frame` decides twice whether a packet is the last one: `remains <=
spaceForData` sets the marker and the length, `remains <= spaceForData - 2` the
end bit of the FU header. A fragmented unit whose `remains` falls between the two
is given a marker too many, and then a packet with no fragment byte.
-/

namespace Http2Rtsp.Rtp

open Http2Rtsp.Std

/-- The marker bit of the RTP header. -/
def Sent.marked (sent : Sent) : Prop := sent.packet.getD 1 0 &&& 0x80 ≠ 0

/-- The S bit of the FU header. -/
def Sent.starts (sent : Sent) : Prop := (payload sent).getD 1 0 &&& 0x80 ≠ 0

/-- The E bit of the FU header. -/
def Sent.ends (sent : Sent) : Prop := (payload sent).getD 1 0 &&& 0x40 ≠ 0

/-- The packet carries this timestamp and the `ssrc`. -/
def Sent.Stamped (timestamp : UInt32) (sent : Sent) : Prop :=
  (sent.packet.drop 4).take 8 = pack32i timestamp ++ pack32i ssrc

/-- An FU-A packet of the unit with this NAL header, with at least one byte behind the two FU
bytes. -/
structure Sent.Fragment (nalbyte : UInt8) (sent : Sent) : Prop where
  fuA : (payload sent).getD 0 0 &&& 0x1f = Rtp.fuA
  nri : (payload sent).getD 0 0 &&& 0xe0 = nalbyte &&& 0xe0
  nalType : (payload sent).getD 1 0 &&& 0x1f = nalbyte &&& 0x1f
  carries : 3 ≤ (payload sent).length

/-- What the packets of a frame are to look like. -/
structure Framed (frame : Frame) (packets : List Sent) : Prop where
  single : frame.size - 4 ≤ bufSize - 12 → ∃ packet, packets = [packet] ∧ payload packet = frame.nal
  fragments : bufSize - 12 < frame.size - 4 → ∀ sent ∈ packets, sent.Fragment (frame.data 4)
  started : bufSize - 12 < frame.size - 4 → OnlyFirst Sent.starts packets
  ended : bufSize - 12 < frame.size - 4 → OnlyLast Sent.ends packets
  marked : OnlyLast Sent.marked packets
  stamped : ∀ sent ∈ packets, sent.Stamped frame.timestamp

/-- A fragmented unit which leaves one byte or two for its last packet. -/
def shortTail (n : Nat) : Prop := bufSize - 12 < n ∧ (n % (bufSize - 14) = 1 ∨ n % (bufSize - 14) = 2)

instance (n : Nat) : Decidable (shortTail n) := inferInstanceAs (Decidable (_ ∧ _))

/-! ## Headers -/

section Header

variable {sent : Sent} {secondbyte : UInt8} {seqnum : UInt16} {timestamp : UInt32}
  {body : List UInt8}

/-- A packet which starts with a header has its second byte, timestamp and `ssrc`. -/
theorem marked_of_header (filled : sent.buf = fill (rtpHeader secondbyte seqnum timestamp ++ body))
    (sized : 12 ≤ sent.buflen) :
    (sent.marked ↔ secondbyte &&& 0x80 ≠ 0) ∧ sent.Stamped timestamp := by
  have length : sent.buflen.toNat = (sent.buflen.toNat - 12) + 12 := by omega
  rw [Sent.marked, Sent.Stamped, Sent.packet, length, filled]
  exact ⟨Iff.rfl, rfl⟩

end Header

/-- Every packet is stamped. -/
theorem packetLoop_stamped (frame : Frame) (l : PacketLoop) :
    ∀ sent ∈ (packetLoop frame l).1, sent.Stamped frame.timestamp := by
  induction l using packetLoop.induct frame with
  | case1 l more =>
      rename_i packet ih
      obtain ⟨secondbyte, body, filled⟩ := videoPacket_header frame l
      have stamped := (marked_of_header filled (videoPacket_buflen frame more)).2
      rw [packetLoop_more more]
      exact List.forall_mem_cons.mpr ⟨stamped, ih⟩
  | case2 l done =>
      rw [packetLoop_done (by omega)]
      exact fun sent member => absurd member List.not_mem_nil

/-- Only the last of the frame, by the first of the two decisions, is marked. -/
theorem videoPacket_marked (frame : Frame) {l : PacketLoop} (more : 0 < l.remains) :
    (videoPacket frame l).1.marked ↔ l.remains ≤ spaceForData := by
  have filled : ∃ body, (videoPacket frame l).1.buf = fill (rtpHeader
      (if l.remains ≤ spaceForData then markedSecondByteH264 else unmarkedSecondByteH264)
      l.seqnum frame.timestamp ++ body) := by
    unfold videoPacket
    dsimp only
    split_ifs <;> simp only [List.append_assoc] <;> exact ⟨_, rfl⟩
  obtain ⟨body, filled⟩ := filled
  rw [(marked_of_header filled (videoPacket_buflen frame more)).1]
  split
  · exact iff_of_true (by decide) ‹_›
  · exact iff_of_false (by decide) ‹_›

/-! ## Fragments -/

/-- The bits of the FU bytes: the low five of the second are those of the NAL header. -/
theorem fu_bits (nalbyte : UInt8) :
    fuIndicator nalbyte &&& 0xe0 = nalbyte &&& 0xe0 ∧
      (fustart <<< 5 ||| origtype nalbyte) &&& 0x1f = nalbyte &&& 0x1f ∧
      (fuend <<< 5 ||| origtype nalbyte) &&& 0x1f = nalbyte &&& 0x1f ∧
      origtype nalbyte &&& 0x1f = nalbyte &&& 0x1f := by
  obtain ⟨bits⟩ := nalbyte
  revert bits
  decide

/-- The first fragment has the S bit only, the last one the E bit only, the others none. -/
theorem fu_flags (nalbyte : UInt8) :
    ((fustart <<< 5 ||| origtype nalbyte) &&& 0x80 ≠ 0 ∧
        (fustart <<< 5 ||| origtype nalbyte) &&& 0x40 = 0) ∧
      ((fuend <<< 5 ||| origtype nalbyte) &&& 0x80 = 0 ∧
        (fuend <<< 5 ||| origtype nalbyte) &&& 0x40 ≠ 0) ∧
      (origtype nalbyte &&& 0x80 = 0 ∧ origtype nalbyte &&& 0x40 = 0) := by
  obtain ⟨bits⟩ := nalbyte
  revert bits
  decide

/-- A packet with FU-A's first byte, the NAL type in its second and a byte behind both. -/
theorem fragment_of_payload {sent : Sent} {nalbyte header byte : UInt8} {rest : List UInt8}
    (carried : payload sent = fuIndicator nalbyte :: header :: byte :: rest)
    (typed : header &&& 0x1f = nalbyte &&& 0x1f) :
    sent.Fragment nalbyte ∧ (sent.starts ↔ header &&& 0x80 ≠ 0) ∧
      (sent.ends ↔ header &&& 0x40 ≠ 0) := by
  refine ⟨⟨?_, ?_, ?_, ?_⟩, ?_, ?_⟩
  · rw [carried]
    exact fuIndicator_type nalbyte
  · rw [carried]
    exact (fu_bits nalbyte).1
  · rw [carried]
    exact typed
  · simp [carried]
  · rw [Sent.starts, carried]
    rfl
  · rw [Sent.ends, carried]
    rfl

/-- The second FU byte of a packet behind the first one. -/
def laterHeader (nalbyte : UInt8) (remains : Int) : UInt8 :=
  if remains ≤ spaceForData - 2 then fuend <<< 5 ||| origtype nalbyte else origtype nalbyte

/-- What a packet behind the first one carries: the two FU bytes count into `remains`, the bytes
of the fragment do not reach beyond it. -/
theorem videoPacket_later (frame : Frame) {l : PacketLoop} (later : l.firstpacket = false)
    (more : 0 < l.remains) :
    payload (videoPacket frame l).1 =
      ([fuIndicator (frame.data 4), laterHeader (frame.data 4) l.remains] ++
        frame.copy l.datastep (min l.remains (spaceForData - 2)).toNat).take
          (min l.remains spaceForData).toNat := by
  have space : spaceForData = 63988 := rfl
  by_cases last : l.remains ≤ spaceForData - 2
  · have fits : l.remains ≤ spaceForData := by omega
    simp only [videoPacket, later, laterHeader, if_pos last, if_pos fits, Int.min_eq_left last,
      Int.min_eq_left fits, List.append_assoc]
    exact payload_fill _ (by omega) (by simp; omega)
  · have middle : spaceForData - 2 ≤ l.remains := by omega
    have positive : 0 < spaceForData := by decide
    simp only [videoPacket, later, laterHeader, if_neg last, Int.min_eq_right middle,
      List.append_assoc]
    refine payload_fill _ ?_ (by simp; omega)
    split <;> omega

/-- With fewer than three bytes left there is none for the fragment. -/
theorem videoPacket_short (frame : Frame) {l : PacketLoop} (later : l.firstpacket = false)
    (more : 0 < l.remains) (few : l.remains < 3) :
    ¬ (videoPacket frame l).1.Fragment (frame.data 4) := by
  intro fragment
  have carries := fragment.carries
  rw [videoPacket_later frame later more, List.length_take] at carries
  omega

/-- With more left, the packet is a fragment; it is not the first one, and is the last one by the
second of the two decisions. -/
theorem videoPacket_fragment (frame : Frame) {l : PacketLoop} (later : l.firstpacket = false)
    (enough : 3 ≤ l.remains) :
    (videoPacket frame l).1.Fragment (frame.data 4) ∧ ¬ (videoPacket frame l).1.starts ∧
      ((videoPacket frame l).1.ends ↔ l.remains ≤ spaceForData - 2) := by
  have space : spaceForData = 63988 := rfl
  have carried := videoPacket_later frame later (by omega)
  have sent : (min l.remains spaceForData).toNat =
      (min l.remains spaceForData).toNat - 3 + 1 + 1 + 1 := by omega
  have copied : (min l.remains (spaceForData - 2)).toNat =
      (min l.remains (spaceForData - 2)).toNat - 1 + 1 := by omega
  rw [sent, copied, copy_succ, List.cons_append, List.cons_append, List.nil_append,
    List.take_succ_cons, List.take_succ_cons, List.take_succ_cons] at carried
  obtain ⟨-, -, lastType, middleType⟩ := fu_bits (frame.data 4)
  obtain ⟨-, ⟨lastStart, lastEnd⟩, middleStart, middleEnd⟩ := fu_flags (frame.data 4)
  by_cases last : l.remains ≤ spaceForData - 2
  · rw [laterHeader, if_pos last] at carried
    obtain ⟨fragment, starts, ends⟩ := fragment_of_payload carried lastType
    exact ⟨fragment, fun first => starts.mp first lastStart, iff_of_true (ends.mpr lastEnd) last⟩
  · rw [laterHeader, if_neg last] at carried
    obtain ⟨fragment, starts, ends⟩ := fragment_of_payload carried middleType
    exact ⟨fragment, fun first => starts.mp first middleStart,
      iff_of_false (fun final => ends.mp final middleEnd) last⟩

/-! ## The loop behind the first fragment -/

/-- Both decisions fall on the same packet, and it carries a byte of the unit. -/
structure Tail (nalbyte : UInt8) (packets : List Sent) : Prop where
  some : packets ≠ []
  fragments : ∀ sent ∈ packets, sent.Fragment nalbyte ∧ ¬ sent.starts
  ended : OnlyLast Sent.ends packets
  marked : OnlyLast Sent.marked packets

/-- A last packet is a tail by itself. -/
theorem tail_last (frame : Frame) {l : PacketLoop} (later : l.firstpacket = false)
    (enough : 3 ≤ l.remains) (last : l.remains ≤ spaceForData - 2) :
    Tail (frame.data 4) [(videoPacket frame l).1] := by
  obtain ⟨fragment, starts, ends⟩ := videoPacket_fragment frame later enough
  have marked := videoPacket_marked frame (by omega : 0 < l.remains)
  exact ⟨List.cons_ne_nil _ _, List.forall_mem_singleton.mpr ⟨fragment, starts⟩,
    onlyLast_singleton.mpr (ends.mpr last), onlyLast_singleton.mpr (marked.mpr (by omega))⟩

/-- A packet in front of a tail, when neither decision takes it for the last one. -/
theorem tail_middle (frame : Frame) {l : PacketLoop} {packets : List Sent}
    (later : l.firstpacket = false) (large : spaceForData < l.remains)
    (tail : Tail (frame.data 4) packets) :
    Tail (frame.data 4) ((videoPacket frame l).1 :: packets) := by
  have space : spaceForData = 63988 := rfl
  obtain ⟨fragment, starts, ends⟩ := videoPacket_fragment frame later (by omega)
  have marked := videoPacket_marked frame (by omega : 0 < l.remains)
  refine ⟨List.cons_ne_nil _ _, List.forall_mem_cons.mpr ⟨⟨fragment, starts⟩, tail.fragments⟩,
    (onlyLast_cons tail.some).mpr ⟨fun final => ?_, tail.ended⟩,
    (onlyLast_cons tail.some).mpr ⟨fun final => ?_, tail.marked⟩⟩
  · have reached := ends.mp final
    omega
  · have reached := marked.mp final
    omega

/-- Unless one byte or two are left over, the packets behind the first one are a tail. -/
theorem packetLoop_tail (frame : Frame) (l : PacketLoop) (later : l.firstpacket = false)
    (more : 0 < l.remains)
    (whole : ¬ (l.remains % (spaceForData - 2) = 1 ∨ l.remains % (spaceForData - 2) = 2)) :
    Tail (frame.data 4) (packetLoop frame l).1 := by
  have fragment : spaceForData - 2 = 63986 := rfl
  -- What is left over stays the same from one packet to the next.
  induction l using packetLoop.induct frame with
  | case1 l _ =>
      rename_i packet ih
      rw [fragment] at whole
      rw [packetLoop_more more]
      by_cases last : l.remains ≤ spaceForData - 2
      · obtain ⟨-, remains⟩ := videoPacket_last frame later more last
        rw [packetLoop_done (by omega)]
        exact tail_last frame later (by omega) last
      · obtain ⟨-, remains, -, follows⟩ := videoPacket_middle frame later (by omega)
        have left : 0 < (videoPacket frame l).2.remains := by omega
        have tail := ih follows left (by
          rw [remains, Int.sub_emod_right, fragment]
          exact whole)
        exact tail_middle frame later (by omega) tail
  | case2 l done => exact absurd more done

/-- One byte or two left over end in a packet which carries nothing. -/
theorem packetLoop_short (frame : Frame) (l : PacketLoop) (later : l.firstpacket = false)
    (more : 0 < l.remains)
    (short : l.remains % (spaceForData - 2) = 1 ∨ l.remains % (spaceForData - 2) = 2) :
    ∃ sent ∈ (packetLoop frame l).1, ¬ sent.Fragment (frame.data 4) := by
  have fragment : spaceForData - 2 = 63986 := rfl
  induction l using packetLoop.induct frame with
  | case1 l _ =>
      rename_i packet ih
      rw [fragment] at short
      rw [packetLoop_more more]
      by_cases last : l.remains ≤ spaceForData - 2
      · exact ⟨_, List.mem_cons_self, videoPacket_short frame later more (by omega)⟩
      · obtain ⟨-, remains, -, follows⟩ := videoPacket_middle frame later (by omega)
        have left : 0 < (videoPacket frame l).2.remains := by omega
        obtain ⟨sent, member, empty⟩ := ih follows left (by
          rw [remains, Int.sub_emod_right, fragment]
          exact short)
        exact ⟨sent, List.mem_cons_of_mem _ member, empty⟩
  | case2 l done => exact absurd more done

/-! ## Frames -/

/-- The first fragment of a unit which does not fit opens the unit and is neither marked nor
ends it. -/
theorem videoPacket_opens (frame : Frame) {l : PacketLoop} (first : l.firstpacket = true)
    (large : spaceForData < l.remains) :
    (videoPacket frame l).1.Fragment (frame.data 4) ∧ (videoPacket frame l).1.starts ∧
      ¬ (videoPacket frame l).1.ends ∧ ¬ (videoPacket frame l).1.marked := by
  have positive : 0 < spaceForData := by decide
  obtain ⟨carried, -⟩ := videoPacket_first frame first large
  have copied : (spaceForData - 2).toNat = 63985 + 1 := rfl
  rw [copied, copy_succ] at carried
  obtain ⟨fragment, starts, ends⟩ := fragment_of_payload carried (fu_bits _).2.1
  obtain ⟨⟨start, no_end⟩, -⟩ := fu_flags (frame.data 4)
  refine ⟨fragment, starts.mpr start, fun final => ends.mp final no_end, fun marked => ?_⟩
  have reached := (videoPacket_marked frame (by omega)).mp marked
  omega

/-- A unit which fits is sent as it is. -/
theorem framed_single {frame : Frame} (sendable : frame.Sendable) (seqnum : UInt16)
    (fits : frame.size - 4 ≤ bufSize - 12) : Framed frame (sendVideoFrame frame seqnum).1 := by
  have size := sendable.1
  have remains := start_remains seqnum (by omega) sendable.2
  have more : 0 < (PacketLoop.start frame seqnum).remains := by omega
  have inside : (PacketLoop.start frame seqnum).remains ≤ spaceForData := by
    rw [remains]
    exact Int.ofNat_le.mpr fits
  obtain ⟨carried, left⟩ := @videoPacket_single frame (.start frame seqnum) rfl more inside
  have packets : (sendVideoFrame frame seqnum).1 =
      [(videoPacket frame (.start frame seqnum)).1] := by
    rw [sendVideoFrame, packetLoop_more more, packetLoop_done (by omega)]
  have stamped : ∀ sent ∈ (sendVideoFrame frame seqnum).1, sent.Stamped frame.timestamp :=
    packetLoop_stamped frame _
  rw [packets] at stamped ⊢
  refine ⟨fun _ => ⟨_, rfl, ?_⟩, fun large => ?_, fun large => ?_, fun large => ?_,
    onlyLast_singleton.mpr ((videoPacket_marked frame more).mpr inside), stamped⟩
  · rw [carried, remains]
    rfl
  all_goals omega

/-- A unit which does not fit: its first packet and those of the loop behind it. -/
theorem sendVideoFrame_split {frame : Frame} (sendable : frame.Sendable) (seqnum : UInt16)
    (large : bufSize - 12 < frame.size - 4) : ∃ first l,
      (sendVideoFrame frame seqnum).1 = first :: (packetLoop frame l).1 ∧
      (first.Fragment (frame.data 4) ∧ first.starts ∧ ¬ first.ends ∧ ¬ first.marked) ∧
      l.firstpacket = false ∧ l.remains = (frame.size - 4 : Nat) - (spaceForData - 2) := by
  have size := sendable.1
  have remains := start_remains seqnum (by omega) sendable.2
  have outside : spaceForData < (PacketLoop.start frame seqnum).remains := by
    rw [remains]
    exact Int.ofNat_lt.mpr large
  have positive : 0 < spaceForData := by decide
  obtain ⟨-, left, -, follows⟩ := @videoPacket_first frame (.start frame seqnum) rfl outside
  refine ⟨_, _, ?_, @videoPacket_opens frame (.start frame seqnum) rfl outside, follows, ?_⟩
  · rw [sendVideoFrame, packetLoop_more (by omega)]
  · rw [left, remains]

/-- What is left over behind the first fragment is what is left over of the unit. -/
theorem tail_mod {n : Nat} (large : bufSize - 12 < n) :
    (((n : Int) - (spaceForData - 2)) % (spaceForData - 2) = 1 ∨
        ((n : Int) - (spaceForData - 2)) % (spaceForData - 2) = 2) ↔ shortTail n := by
  have fragment : spaceForData - 2 = 63986 := rfl
  have size : bufSize - 14 = 63986 := rfl
  rw [Int.sub_emod_right, fragment, shortTail, size]
  omega

/-- A fragmented unit which leaves more, or nothing, is framed. -/
theorem framed_fragmented {frame : Frame} (sendable : frame.Sendable) (seqnum : UInt16)
    (large : bufSize - 12 < frame.size - 4) (whole : ¬ shortTail (frame.size - 4)) :
    Framed frame (sendVideoFrame frame seqnum).1 := by
  have space : spaceForData = 63988 := rfl
  have size : bufSize - 12 = 63988 := rfl
  obtain ⟨first, l, packets, ⟨fragment, starts, ends, marked⟩, later, remains⟩ :=
    sendVideoFrame_split sendable seqnum large
  have tail := packetLoop_tail frame l later (by omega) (by
    rw [remains, tail_mod large]
    exact whole)
  have stamped : ∀ sent ∈ (sendVideoFrame frame seqnum).1, sent.Stamped frame.timestamp :=
    packetLoop_stamped frame _
  rw [packets] at stamped ⊢
  refine ⟨fun fits => by omega, fun _ => ?_, fun _ => ?_, fun _ => ?_, ?_, stamped⟩
  · exact List.forall_mem_cons.mpr ⟨fragment, fun sent member => (tail.fragments sent member).1⟩
  · exact onlyFirst_cons.mpr ⟨starts, fun sent member => (tail.fragments sent member).2⟩
  · exact (onlyLast_cons tail.some).mpr ⟨ends, tail.ended⟩
  · exact (onlyLast_cons tail.some).mpr ⟨marked, tail.marked⟩

/-- A unit with a short tail is not framed: its last packet carries nothing. -/
theorem not_framed_of_shortTail {frame : Frame} (sendable : frame.Sendable) (seqnum : UInt16)
    (short : shortTail (frame.size - 4)) : ¬ Framed frame (sendVideoFrame frame seqnum).1 := by
  intro framed
  have space : spaceForData = 63988 := rfl
  have size : bufSize - 12 = 63988 := rfl
  have large := short.1
  obtain ⟨first, l, packets, -, later, remains⟩ := sendVideoFrame_split sendable seqnum large
  obtain ⟨sent, member, empty⟩ := packetLoop_short frame l later (by omega) (by
    rw [remains, tail_mod large]
    exact short)
  have fragments := framed.fragments large
  rw [packets] at fragments
  exact empty (fragments sent (List.mem_cons_of_mem _ member))

/-- The packets of a frame are framed exactly if the NAL unit fits one packet or its last fragment
is not one of one byte or two, counted as `remains` counts. -/
theorem framed_sendVideoFrame_iff (frame : Frame) (seqnum : UInt16) (sendable : frame.Sendable) :
    Framed frame (sendVideoFrame frame seqnum).1 ↔ ¬ shortTail (frame.size - 4) := by
  constructor
  · intro framed short
    exact not_framed_of_shortTail sendable seqnum short framed
  · intro whole
    by_cases fits : frame.size - 4 ≤ bufSize - 12
    · exact framed_single sendable seqnum fits
    · exact framed_fragmented sendable seqnum (by omega) whole

/-- A frame of 150000 bytes is framed. -/
theorem framed_sendVideoFrame_large :
    Framed ⟨fun _ => 0x65, 150000, 0, .video⟩
      (sendVideoFrame ⟨fun _ => 0x65, 150000, 0, .video⟩ 0).1 :=
  (framed_sendVideoFrame_iff ⟨fun _ => 0x65, 150000, 0, .video⟩ 0 (by decide)).mpr (by decide)

/-- A NAL unit of two full fragments and a byte. -/
theorem framed_not_always : ¬ ∀ (frame : Frame) (seqnum : UInt16), frame.Sendable →
    Framed frame (sendVideoFrame frame seqnum).1 := by
  intro always
  exact not_framed_of_shortTail (by decide) 0 (by decide)
    (always ⟨fun _ => 0x65, 4 + 2 * 63986 + 1, 0, .video⟩ 0 (by decide))

end Http2Rtsp.Rtp
