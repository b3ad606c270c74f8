import Mathlib.Algebra.Order.Floor.Div
import Mathlib.Data.UInt
import Http2Rtsp.Rtp.Depacketise
import Http2Rtsp.Std.Consecutive

/-!
# The numbers of packets

Every packet carries its sequence number in its third and fourth byte. The loop
of `send_video_frame` counts twice: in its copy of the sequence number and in
`numpkts`. Both counts are those of the packets sent.
-/

namespace Http2Rtsp.Rtp

open Http2Rtsp.Std

/-- The sequence number of a packet: its bytes 2 and 3, big-endian. -/
def Sent.seqnum (sent : Sent) : UInt16 :=
  (sent.packet.getD 2 0).toUInt16 * 256 + (sent.packet.getD 3 0).toUInt16

/-- The two bytes of a number make up the number. -/
theorem packi16_join (i : UInt16) :
    (i >>> 8).toUInt8.toUInt16 * 256 + i.toUInt8.toUInt16 = i := by
  apply UInt16.toNat_inj.mp
  have bound := i.toNat_lt
  simp [Nat.shiftRight_eq_div_pow]
  omega

/-- A packet which starts with a header carries its number, whatever is put behind the header. -/
theorem seqnum_of_header {sent : Sent} {secondbyte : UInt8} {seqnum : UInt16} {timestamp : UInt32}
    {body : List UInt8} (filled : sent.buf = fill (rtpHeader secondbyte seqnum timestamp ++ body))
    (sized : 12 ≤ sent.buflen) : sent.seqnum = seqnum := by
  have length : sent.buflen.toNat = (sent.buflen.toNat - 12) + 12 := by omega
  rw [Sent.seqnum, Sent.packet, length, filled]
  exact packi16_join seqnum

/-! ## The packets of a frame -/

/-- Every packet of a frame starts with a header. -/
theorem videoPacket_header (frame : Frame) (l : PacketLoop) : ∃ secondbyte body,
    (videoPacket frame l).1.buf = fill (rtpHeader secondbyte l.seqnum frame.timestamp ++ body) := by
  unfold videoPacket
  dsimp only
  split_ifs <;> simp only [List.append_assoc] <;> exact ⟨_, _, rfl⟩

/-- It is sent with its header. -/
theorem videoPacket_buflen (frame : Frame) {l : PacketLoop} (more : 0 < l.remains) :
    12 ≤ (videoPacket frame l).1.buflen := by
  unfold videoPacket spaceForData bufSize
  dsimp only
  split_ifs <;> dsimp only <;> omega

/-- The loop moves on by one number and one packet. -/
theorem videoPacket_moves (frame : Frame) (l : PacketLoop) :
    (videoPacket frame l).2.seqnum = l.seqnum + 1 ∧
      (videoPacket frame l).2.numpkts = l.numpkts + 1 := by
  unfold videoPacket
  dsimp only
  split_ifs <;> exact ⟨rfl, rfl⟩

/-- The loop numbers its packets consecutively, and both of its counts are those of the packets. -/
theorem packetLoop_counts (frame : Frame) (l : PacketLoop) :
    Counts l.seqnum ((packetLoop frame l).1.map Sent.seqnum) (packetLoop frame l).2.seqnum ∧
      (packetLoop frame l).2.numpkts = l.numpkts + (packetLoop frame l).1.length := by
  induction l using packetLoop.induct frame with
  | case1 l more =>
      rename_i packet ih
      obtain ⟨seqnum, numpkts⟩ := videoPacket_moves frame l
      obtain ⟨secondbyte, body, filled⟩ := videoPacket_header frame l
      have carried := seqnum_of_header filled (videoPacket_buflen frame more)
      obtain ⟨counts, counted⟩ := ih
      rw [packetLoop_more more]
      simp only [List.map_cons, List.length_cons, carried]
      rw [seqnum] at counts
      refine ⟨.more counts, ?_⟩
      rw [counted, numpkts, Nat.cast_add, Nat.cast_one, Int.add_assoc, Int.add_comm 1]
  | case2 l done =>
      rw [packetLoop_done (by omega)]
      exact ⟨.done, by simp⟩

/-- A counter of 16 bits, behind the numbers it was given to. -/
theorem counts_next {first next : UInt16} {numbers : List UInt16}
    (counts : Counts first numbers next) : next = first + numbers.length.toUInt16 := by
  induction counts with
  | done => simp
  | more _ ih =>
      rw [ih, List.length_cons]
      simp only [Nat.toUInt16, UInt16.ofNat_add]
      rw [UInt16.add_assoc, UInt16.add_comm _ (UInt16.ofNat 1)]
      rfl

/-- How many fragments are sent behind the first one. -/
theorem length_packetLoop_fragments (frame : Frame) (l : PacketLoop)
    (later : l.firstpacket = false) :
    (packetLoop frame l).1.length = l.remains.toNat ⌈/⌉ (bufSize - 14) := by
  have fragment : spaceForData - 2 = 63986 := rfl
  have size : bufSize - 14 = 63986 := rfl
  rw [size]
  -- Induction on the iterations; the last one is the one which rounds up.
  induction l using packetLoop.induct frame with
  | case1 l more =>
      rename_i packet ih
      rw [packetLoop_more more, List.length_cons]
      by_cases last : l.remains ≤ spaceForData - 2
      · obtain ⟨-, remains⟩ := videoPacket_last frame later more last
        rw [packetLoop_done (by omega), List.length_nil, Nat.ceilDiv_eq_add_pred_div]
        omega
      · have large : spaceForData - 2 < l.remains := by omega
        obtain ⟨-, remains, -, follows⟩ := videoPacket_middle frame later large
        rw [ih follows, remains, Nat.ceilDiv_eq_add_pred_div, Nat.ceilDiv_eq_add_pred_div]
        omega
  | case2 l done =>
      rw [packetLoop_done (by omega), List.length_nil, Nat.ceilDiv_eq_add_pred_div]
      omega

/-! ## Frames -/

/-- The frame has a NAL unit, of a length an `int` can hold. -/
def Frame.Sendable (frame : Frame) : Prop := 5 ≤ frame.size ∧ frame.size - 4 < 2 ^ 31

instance (frame : Frame) : Decidable frame.Sendable := inferInstanceAs (Decidable (_ ∧ _))

/-- How many packets a NAL unit of this length takes. -/
def packetCount (n : Nat) : Nat := if n ≤ bufSize - 12 then 1 else n ⌈/⌉ (bufSize - 14)

/-- `send_video_frame` numbers its packets from `seqnum` on and returns how many it has sent. -/
theorem sendVideoFrame_counts (frame : Frame) (seqnum : UInt16) :
    Counts seqnum ((sendVideoFrame frame seqnum).1.map Sent.seqnum)
        (seqnum + (sendVideoFrame frame seqnum).2.toNat.toUInt16) ∧
      (sendVideoFrame frame seqnum).2 = (sendVideoFrame frame seqnum).1.length := by
  obtain ⟨counts, counted⟩ := packetLoop_counts frame (.start frame seqnum)
  have sent : (sendVideoFrame frame seqnum).2 = (sendVideoFrame frame seqnum).1.length := by
    rw [sendVideoFrame, counted]
    exact Int.zero_add _
  refine ⟨?_, sent⟩
  have next := counts_next counts
  rw [List.length_map] at next
  rw [sent, Int.toNat_natCast]
  exact next ▸ counts

/-- The number of packets of a frame. -/
theorem length_sendVideoFrame {frame : Frame} (sendable : frame.Sendable) (seqnum : UInt16) :
    (sendVideoFrame frame seqnum).1.length = packetCount (frame.size - 4) := by
  have space : spaceForData = 63988 := rfl
  have fragment : bufSize - 14 = 63986 := rfl
  have size := sendable.1
  have bound := sendable.2
  have remains : (PacketLoop.start frame seqnum).remains = ((frame.size - 4 : Nat) : Int) := by
    have exact_size : toInt32 (frame.size - 4) = (frame.size - 4 : Int) :=
      toInt32_of_bounds (by omega) (by omega)
    have stored : (PacketLoop.start frame seqnum).remains = toInt32 (frame.size - 4) := rfl
    omega
  have more : 0 < (PacketLoop.start frame seqnum).remains := by omega
  rw [sendVideoFrame, packetLoop_more more, List.length_cons, packetCount]
  by_cases fits : frame.size - 4 ≤ bufSize - 12
  · have small : (PacketLoop.start frame seqnum).remains ≤ spaceForData := by
      rw [remains, space]
      exact Int.ofNat_le.mpr fits
    obtain ⟨-, done⟩ := @videoPacket_single frame (.start frame seqnum) rfl more small
    rw [if_pos fits, packetLoop_done (by omega), List.length_nil]
  · have large : spaceForData < (PacketLoop.start frame seqnum).remains := by
      rw [remains, space]
      exact Int.ofNat_lt.mpr (not_le.mp fits)
    obtain ⟨-, left, -, follows⟩ := @videoPacket_first frame (.start frame seqnum) rfl large
    rw [if_neg fits, length_packetLoop_fragments _ _ follows, left, remains,
      fragment, Nat.ceilDiv_eq_add_pred_div, Nat.ceilDiv_eq_add_pred_div]
    omega

end Http2Rtsp.Rtp
