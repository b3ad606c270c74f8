import Http2Rtsp.Rtp.SendFrame

/-!
# What a receiver makes of the packets

`depacketise` is the receiver of RFC 6184 for one NAL unit: an unfragmented
payload is the unit, FU-A payloads are joined after the unit's first byte is
rebuilt from both FU bytes. It is a statement of what the packets are for and
is not taken from the source.

`packetLoop_fragments` is the fact behind everything here: the fragments
which follow the first carry two bytes fewer than `remains` counts, while the
frame has one byte fewer left than `remains` counts, because `datastep` skips
the NAL byte and `remains` does not.
-/

namespace Http2Rtsp.Rtp

/-- The payload of a packet: what follows the RTP header. -/
def payload (sent : Sent) : List UInt8 := sent.packet.drop 12

/-- The NAL type of FU-A payloads. -/
def fuA : UInt8 := 28

/-- The NAL unit a receiver rebuilds from the payloads of one access unit. -/
def depacketise : List (List UInt8) → Option (List UInt8)
  | (indicator :: rest) :: later =>
      if indicator &&& 0x1f = fuA then
        match rest with
        | header :: fragment =>
            some (((indicator &&& 0xe0) ||| (header &&& 0x1f)) ::
              (fragment ++ later.flatMap fun body => body.drop 2))
        | [] => none
      else if later = [] then some (indicator :: rest) else none
  | _ => none

/-! ## Copies -/

@[simp] theorem length_copy (frame : Frame) (start count : Nat) :
    (frame.copy start count).length = count := by
  simp [Frame.copy]

/-- A shorter copy is the beginning of a longer one. -/
theorem take_copy (frame : Frame) (start : Nat) {few many : Nat} (fewer : few ≤ many) :
    (frame.copy start many).take few = frame.copy start few := by
  simp [Frame.copy, ← List.map_take, List.take_range, Nat.min_eq_left fewer]

/-- Adjacent copies join. -/
theorem copy_add (frame : Frame) (start first second : Nat) :
    frame.copy start first ++ frame.copy (start + first) second =
      frame.copy start (first + second) := by
  simp [Frame.copy, List.range_add, Function.comp_def, Nat.add_assoc]

/-- A copy starts with its first byte. -/
theorem copy_succ (frame : Frame) (start count : Nat) :
    frame.copy start (count + 1) = frame.data start :: frame.copy (start + 1) count := by
  rw [Nat.add_comm, ← copy_add]
  simp [Frame.copy]

/-! ## Payloads -/

@[simp] theorem length_rtpHeader (secondbyte : UInt8) (seqnum : UInt16) (timestamp : UInt32) :
    (rtpHeader secondbyte seqnum timestamp).length = 12 := rfl

/-- The payload of a packet whose `buflen` stays within what was written. -/
theorem payload_fill {secondbyte : UInt8} {seqnum : UInt16} {timestamp : UInt32}
    {body : List UInt8} {buflen : Int} {start count : Nat} (size : Nat)
    (sized : buflen = size + 12) (written : size ≤ body.length) :
    payload ⟨fill (rtpHeader secondbyte seqnum timestamp ++ body), buflen, start, count⟩ =
      body.take size := by
  have length : buflen.toNat = 12 + size := by omega
  have skipped : (fill (rtpHeader secondbyte seqnum timestamp ++ body)).drop 12 =
      body ++ List.replicate (bufSize - (12 + body.length)) 0 := by
    rw [fill, List.append_assoc, List.drop_left' (length_rtpHeader ..)]
    simp
  simp only [payload, Sent.packet, length]
  rw [List.drop_take, skipped, Nat.add_sub_cancel_left, List.take_append_of_le_length written]

/-- The fragment of an FU-A payload is what it carries after its two FU bytes. -/
theorem drop_two_payload_fill {secondbyte : UInt8} {seqnum : UInt16} {timestamp : UInt32}
    {indicator header : UInt8} {frame : Frame} {buflen : Int} {from_ start count size copied : Nat}
    (sized : buflen = size + 12) (written : size ≤ copied + 2) :
    (payload ⟨fill (rtpHeader secondbyte seqnum timestamp ++ [indicator, header] ++
        frame.copy from_ copied), buflen, start, count⟩).drop 2 =
      frame.copy from_ (size - 2) := by
  rw [List.append_assoc, payload_fill size sized (by simp; omega), List.drop_take]
  simp [take_copy _ _ (by omega : size - 2 ≤ copied)]

/-- A loop with nothing left sends nothing. -/
theorem packetLoop_done {frame : Frame} {l : PacketLoop} (done : l.remains ≤ 0) :
    packetLoop frame l = ([], l) := by
  rw [packetLoop, dif_neg (by omega)]

/-- One iteration of the loop. -/
theorem packetLoop_more {frame : Frame} {l : PacketLoop} (more : 0 < l.remains) :
    packetLoop frame l =
      ((videoPacket frame l).1 :: (packetLoop frame (videoPacket frame l).2).1,
        (packetLoop frame (videoPacket frame l).2).2) := by
  rw [packetLoop, dif_pos more]

/-- The first packet of a unit which fits is the whole unit. -/
theorem videoPacket_single (frame : Frame) {l : PacketLoop} (first : l.firstpacket = true)
    (positive : 0 < l.remains) (fits : l.remains ≤ spaceForData) :
    payload (videoPacket frame l).1 = frame.copy l.datastep l.remains.toNat ∧
      (videoPacket frame l).2.remains = 0 := by
  have whole : ¬ spaceForData / l.remains < 1 := by
    rw [Int.ediv_lt_iff_lt_mul positive]
    omega
  simp only [videoPacket, first, if_true, if_neg whole, if_pos fits]
  refine ⟨?_, by omega⟩
  rw [payload_fill l.remains.toNat (by omega) (by simp)]
  exact List.take_of_length_le (by simp)

/-- The first packet of a unit which does not fit. The position moves over the NAL byte,
`remains` does not count it. -/
theorem videoPacket_first (frame : Frame) {l : PacketLoop} (first : l.firstpacket = true)
    (large : spaceForData < l.remains) :
    payload (videoPacket frame l).1 =
        fuIndicator (frame.data 4) :: ((fustart <<< 5) ||| origtype (frame.data 4)) ::
          frame.copy (l.datastep + 1) (spaceForData - 2).toNat ∧
      (videoPacket frame l).2.remains = l.remains - (spaceForData - 2) ∧
      (videoPacket frame l).2.datastep = l.datastep + 1 + (spaceForData - 2).toNat ∧
      (videoPacket frame l).2.firstpacket = false := by
  have space : spaceForData = 63988 := rfl
  have positive : 0 < l.remains := by omega
  have split : spaceForData / l.remains < 1 := by
    rw [Int.ediv_lt_iff_lt_mul positive]
    omega
  have full : ¬ l.remains ≤ spaceForData := by omega
  simp only [videoPacket, first, if_true, if_pos split, if_neg full]
  refine ⟨?_, trivial, trivial, trivial⟩
  have sized : spaceForData + 12 = (spaceForData.toNat : Int) + 12 := by omega
  have written : spaceForData.toNat = ([fuIndicator (frame.data 4),
      (fustart <<< 5) ||| origtype (frame.data 4)] ++
        frame.copy (l.datastep + 1) (spaceForData - 2).toNat).length := by
    simp only [List.length_append, List.length_cons, List.length_nil, length_copy]
    omega
  rw [List.append_assoc, payload_fill _ sized written.le, List.take_of_length_le written.ge]
  simp only [List.cons_append, List.nil_append]

/-- A packet taken for the last one sends two bytes fewer than it copies. -/
theorem videoPacket_last (frame : Frame) {l : PacketLoop} (later : l.firstpacket = false)
    (positive : 0 < l.remains) (small : l.remains ≤ spaceForData - 2) :
    (payload (videoPacket frame l).1).drop 2 = frame.copy l.datastep (l.remains.toNat - 2) ∧
      (videoPacket frame l).2.remains = 0 := by
  have fits : l.remains ≤ spaceForData := by omega
  simp only [videoPacket, later, if_pos small, if_pos fits]
  refine ⟨?_, by simp⟩
  exact drop_two_payload_fill (by omega) (by omega)

/-- Any other packet copies a full fragment, and sends it whole unless `remains` is just above
the fragment size. -/
theorem videoPacket_middle (frame : Frame) {l : PacketLoop} (later : l.firstpacket = false)
    (large : spaceForData - 2 < l.remains) :
    (payload (videoPacket frame l).1).drop 2 =
        frame.copy l.datastep ((min l.remains spaceForData).toNat - 2) ∧
      (videoPacket frame l).2.remains = l.remains - (spaceForData - 2) ∧
      (videoPacket frame l).2.datastep = l.datastep + (spaceForData - 2).toNat ∧
      (videoPacket frame l).2.firstpacket = false := by
  have middle : ¬ l.remains ≤ spaceForData - 2 := by omega
  have positive : 0 < spaceForData := by decide
  simp only [videoPacket, later, if_neg middle]
  refine ⟨?_, by simp, by simp, by simp⟩
  refine drop_two_payload_fill ?_ (by omega)
  split <;> omega

/-- After the first fragment, what the fragments carry is two bytes short of `remains`. -/
theorem packetLoop_fragments (frame : Frame) (l : PacketLoop) (later : l.firstpacket = false)
    (more : 0 ≤ l.remains) :
    ((packetLoop frame l).1.map payload).flatMap (fun body => body.drop 2) =
      frame.copy l.datastep (l.remains.toNat - 2) := by
  -- Induction on `remains`, for every position and sequence number.
  induction bound : l.remains.toNat using Nat.strong_induction_on generalizing l with
  | _ bound ih =>
    subst bound
    by_cases done : l.remains = 0
    · rw [packetLoop_done (by omega)]
      simp [done, Frame.copy]
    · have positive : 0 < l.remains := by omega
      have fewer := videoPacket_remains_lt frame l positive
      rw [packetLoop_more positive, List.map_cons, List.flatMap_cons]
      by_cases last : l.remains ≤ spaceForData - 2
      · obtain ⟨carried, remains⟩ := videoPacket_last frame later positive last
        rw [carried, packetLoop_done (by omega)]
        simp
      · have large : spaceForData - 2 < l.remains := by omega
        obtain ⟨carried, remains, position, follows⟩ :=
          videoPacket_middle frame later large
        rw [carried, ih _ (by omega) _ follows (by omega) rfl, remains, position]
        -- Either the fragment is sent whole, or nothing follows it.
        by_cases whole : spaceForData ≤ l.remains
        · rw [Int.min_eq_right whole]
          have space : spaceForData = 63988 := rfl
          have size : spaceForData.toNat - 2 = (spaceForData - 2).toNat := by omega
          rw [size, copy_add]
          congr 1
          omega
        · have none_left : (l.remains - (spaceForData - 2)).toNat - 2 = 0 := by omega
          rw [Int.min_eq_left (by omega), none_left]
          simp [Frame.copy]

/-- The two FU bytes of the first fragment give back the NAL byte. -/
theorem fu_bytes_nal (nalbyte : UInt8) :
    (fuIndicator nalbyte &&& (0xe0 : UInt8)) |||
        (((fustart <<< 5) ||| origtype nalbyte) &&& (0x1f : UInt8)) = nalbyte := by
  obtain ⟨bits⟩ := nalbyte
  revert bits
  decide

/-- The first byte of a fragment says FU-A. -/
theorem fuIndicator_type (nalbyte : UInt8) : fuIndicator nalbyte &&& 0x1f = fuA := by
  obtain ⟨bits⟩ := nalbyte
  revert bits
  decide

/-- The loop starts with the length of the NAL unit. -/
theorem start_remains {frame : Frame} (seqnum : UInt16) (large : 4 ≤ frame.size)
    (bounded : frame.size - 4 < 2 ^ 31) :
    (PacketLoop.start frame seqnum).remains = (frame.size - 4 : Nat) := by
  have size : (frame.size : Int) - 4 = (frame.size - 4 : Nat) := by omega
  have high : ((frame.size - 4 : Nat) : Int) < 2 ^ 31 := by exact_mod_cast bounded
  simp only [PacketLoop.start, size]
  rw [Std.toInt32_of_bounds (by omega) high]

/-- A unit which fits one packet arrives as it is. -/
theorem depacketise_single {frame : Frame} {seqnum : UInt16} (large : 5 ≤ frame.size)
    (unfragmented : frame.data 4 &&& 0x1f ≠ fuA) (fits : frame.size - 4 ≤ bufSize - 12) :
    depacketise ((sendVideoFrame frame seqnum).1.map payload) = some frame.nal := by
  have remains := start_remains seqnum (by omega : 4 ≤ frame.size)
    (by unfold bufSize at fits; omega)
  have positive : 0 < (PacketLoop.start frame seqnum).remains := by omega
  have inside : (PacketLoop.start frame seqnum).remains ≤ spaceForData := by
    unfold spaceForData bufSize at *
    omega
  obtain ⟨carried, rest⟩ := videoPacket_single frame rfl positive inside
  have nal : (frame.copy (PacketLoop.start frame seqnum).datastep
      (PacketLoop.start frame seqnum).remains.toNat) = frame.nal := by
    rw [remains]
    rfl
  rw [sendVideoFrame, packetLoop_more positive, packetLoop_done (by omega)]
  simp only [List.map_cons, List.map_nil, carried, nal]
  have shape : frame.nal = frame.data 4 :: frame.copy 5 (frame.size - 5) := by
    rw [Frame.nal, show frame.size - 4 = frame.size - 5 + 1 by omega, copy_succ]
  simp only [shape, depacketise, if_neg unfragmented, if_true]

/-- A unit which does not fit arrives without its last byte. -/
theorem depacketise_fragmented {frame : Frame} {seqnum : UInt16}
    (bounded : frame.size - 4 < 2 ^ 31) (large : bufSize - 12 < frame.size - 4) :
    depacketise ((sendVideoFrame frame seqnum).1.map payload) = some frame.nal.dropLast := by
  have remains := start_remains seqnum (by omega) bounded
  have outside : spaceForData < (PacketLoop.start frame seqnum).remains := by
    unfold spaceForData bufSize at *
    omega
  obtain ⟨carried, left, position, follows⟩ := videoPacket_first frame rfl outside
  have space : spaceForData = 63988 := rfl
  have fragments := packetLoop_fragments frame _ follows (by omega)
  have start : (PacketLoop.start frame seqnum).datastep = 4 := rfl
  rw [sendVideoFrame, packetLoop_more (by omega), List.map_cons, carried]
  simp only [depacketise, if_pos (fuIndicator_type _), fu_bytes_nal, fragments]
  rw [left, position, start, copy_add, ← copy_succ, Option.some.injEq]
  -- Both sides are the copy from position 4 of one byte less than the unit has.
  have shape : frame.nal = frame.copy 4 (frame.size - 5) ++ frame.copy (frame.size - 1) 1 := by
    rw [Frame.nal, show frame.size - 1 = 4 + (frame.size - 5) by omega, copy_add]
    congr 1
    omega
  rw [shape, List.dropLast_append_of_ne_nil (by simp [Frame.copy])]
  have single : (frame.copy (frame.size - 1) 1).dropLast = [] := by simp [Frame.copy]
  rw [single, List.append_nil]
  congr 1
  unfold bufSize at large
  omega

/-- NAL types 1 to 23 are those of single NAL units, which FU-A is not. -/
theorem not_fuA_of_nalType {nalbyte : UInt8} (single : (nalbyte &&& 0x1f).toNat ≤ 23) :
    nalbyte &&& 0x1f ≠ fuA := by
  intro same
  rw [same] at single
  exact absurd single (by decide)

/-- Packetising and depacketising is the identity exactly on the units which fit one packet. A
larger unit loses its last byte. -/
theorem depacketise_sendVideoFrame_iff (frame : Frame) (seqnum : UInt16) (large : 5 ≤ frame.size)
    (bounded : frame.size - 4 < 2 ^ 31)
    (nalType : 1 ≤ (frame.data 4 &&& 0x1f).toNat ∧ (frame.data 4 &&& 0x1f).toNat ≤ 23) :
    depacketise ((sendVideoFrame frame seqnum).1.map payload) = some frame.nal ↔
      frame.size - 4 ≤ bufSize - 12 := by
  constructor
  · intro rebuilt
    by_contra tooLarge
    rw [depacketise_fragmented bounded (by omega), Option.some.injEq] at rebuilt
    have lengths := congrArg List.length rebuilt
    simp only [List.length_dropLast, Frame.nal, length_copy] at lengths
    omega
  · exact depacketise_single large (not_fuA_of_nalType nalType.2)

/-- The largest unit which fits arrives as it was, and with one byte more the last one is lost. -/
theorem depacketise_sendVideoFrame_edge :
    (∀ frame : Frame, frame = ⟨fun _ => 0x65, 63992, 0, .video⟩ →
        depacketise ((sendVideoFrame frame 0).1.map payload) = some frame.nal) ∧
      ∀ frame : Frame, frame = ⟨fun _ => 0x65, 63993, 0, .video⟩ →
        depacketise ((sendVideoFrame frame 0).1.map payload) ≠ some frame.nal := by
  constructor
  · rintro frame rfl
    exact (depacketise_sendVideoFrame_iff _ 0 (by decide) (by decide) (by decide)).mpr (by decide)
  · rintro frame rfl
    exact mt (depacketise_sendVideoFrame_iff _ 0 (by decide) (by decide) (by decide)).mp (by decide)

/-- The smallest unit which is fragmented, 63989 bytes of `0x65`, does not arrive as it was. -/
theorem depacketise_sendVideoFrame_fragmented :
    ¬ ∀ (frame : Frame) (seqnum : UInt16), 5 ≤ frame.size → frame.size - 4 < 2 ^ 31 →
      1 ≤ (frame.data 4 &&& 0x1f).toNat ∧ (frame.data 4 &&& 0x1f).toNat ≤ 23 →
        depacketise ((sendVideoFrame frame seqnum).1.map payload) = some frame.nal := by
  intro always
  have rebuilt := always ⟨fun _ => 0x65, 63993, 0, .video⟩ 0 (by decide) (by decide) (by decide)
  rw [depacketise_fragmented (by decide) (by decide), Option.some.injEq] at rebuilt
  have lengths := congrArg List.length rebuilt
  simp [Frame.nal] at lengths

end Http2Rtsp.Rtp
