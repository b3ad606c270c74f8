import Http2Rtsp.Rtp.Framing

/-!
# What a frame's packets touch

The memory `send_video_frame` reads of the frame and writes of `buf`, and the lengths it hands to
`send_all`, in the order of the statements. The first fragment skips the NAL byte without taking
it off `remains`, so from there on `datastep + remains` stands one past the end of the frame, and
the copy which uses up `remains` reads that byte.
-/

namespace Http2Rtsp.Rtp

/-- One access of `send_video_frame`: bytes read of `myFrame->data`, bytes written to `buf`, or a
length passed to `send_all`. -/
inductive Access where
  | read (position count : Nat)
  | write (position count : Nat)
  | send (length : Int)
deriving DecidableEq

/-- The reads stay in a frame of `size` bytes, the writes and the lengths in `buf`. -/
def Access.Within (size : Nat) : Access → Prop
  | .read position count => ∀ index, position ≤ index → index < position + count → index < size
  | .write position count =>
      ∀ index, position ≤ index → index < position + count → index < bufSize
  | .send length => length ≤ bufSize

/-- The first packet carries the unit whole. -/
def PacketLoop.whole (l : PacketLoop) : Prop := l.firstpacket ∧ ¬ spaceForData / l.remains < 1

instance (l : PacketLoop) : Decidable l.whole := inferInstanceAs (Decidable (_ ∧ _))

/-- Where `bufstep` stands when the data is copied: behind the header, and behind the two FU
bytes of a fragment. -/
def PacketLoop.bufstep (l : PacketLoop) : Nat := if l.whole then 12 else 14

/-- The accesses of one pass: `bzero`, the header, the FU bytes, the copy and `send_all`. -/
def packetAccesses (frame : Frame) (l : PacketLoop) : List Access :=
  let sent := (videoPacket frame l).1
  [.write 0 bufSize, .write 0 1, .write 1 1, .write 2 2, .write 4 4, .write 8 4] ++
    (if l.whole then [] else [.write 12 1, .write 13 1]) ++
    [.read sent.start sent.count, .write l.bufstep sent.count, .send sent.buflen]

/-- The accesses of the loop. -/
def loopAccesses (frame : Frame) (l : PacketLoop) : List Access :=
  if _more : 0 < l.remains then
    packetAccesses frame l ++ loopAccesses frame (videoPacket frame l).2
  else []
termination_by l.remains.toNat
decreasing_by
  have fewer := videoPacket_remains_lt frame l _more
  omega

/-- The accesses of `send_video_frame`, which first reads the NAL byte. -/
def sendVideoAccesses (frame : Frame) (seqnum : UInt16) : List Access :=
  .read 4 1 :: loopAccesses frame (.start frame seqnum)

/-! ## What a packet holds is what its pass writes -/

/-- `buf` is what stands before `bufstep`, then the copied data. -/
theorem videoPacket_written (frame : Frame) (l : PacketLoop) : ∃ front,
    front.length = l.bufstep ∧ (videoPacket frame l).1.buf =
      fill (front ++ frame.copy (videoPacket frame l).1.start (videoPacket frame l).1.count) := by
  by_cases first : l.firstpacket = true
  · by_cases split : spaceForData / l.remains < 1
    · have parts : ¬ l.whole := fun whole => whole.2 split
      refine ⟨_, ?_, by simp only [videoPacket, if_pos first, if_pos split]; rfl⟩
      simp [PacketLoop.bufstep, parts]
    · have whole : l.whole := ⟨first, split⟩
      refine ⟨_, ?_, by simp only [videoPacket, if_pos first, if_neg split]; rfl⟩
      simp [PacketLoop.bufstep, whole]
  · have parts : ¬ l.whole := fun whole => first whole.1
    by_cases last : l.remains ≤ spaceForData - 2
    · refine ⟨_, ?_, by simp only [videoPacket, if_neg first, if_pos last]; rfl⟩
      simp [PacketLoop.bufstep, parts]
    · refine ⟨_, ?_, by simp only [videoPacket, if_neg first, if_neg last]; rfl⟩
      simp [PacketLoop.bufstep, parts]

/-- The lengths which are sent are those of the packets. -/
theorem loopAccesses_sends (frame : Frame) (l : PacketLoop) (length : Int) :
    .send length ∈ loopAccesses frame l ↔
      ∃ sent ∈ (packetLoop frame l).1, sent.buflen = length := by
  induction bound : l.remains.toNat using Nat.strong_induction_on generalizing l with
  | _ bound ih =>
    subst bound
    by_cases more : 0 < l.remains
    · have fewer := videoPacket_remains_lt frame l more
      rw [loopAccesses, dif_pos more, packetLoop_more more, List.mem_append,
        ih _ (by omega) _ rfl]
      have own : .send length ∈ packetAccesses frame l ↔
          (videoPacket frame l).1.buflen = length := by
        by_cases whole : l.whole <;> simp [packetAccesses, whole, eq_comm]
      simp [own]
    · rw [loopAccesses, dif_neg more, packetLoop_done (by omega)]
      simp

/-! ## Bounds -/

/-- The copy of one pass fits behind `bufstep`. -/
theorem videoPacket_fits (frame : Frame) {l : PacketLoop} (more : 0 < l.remains) :
    l.bufstep + (videoPacket frame l).1.count ≤ bufSize := by
  have size : bufSize = 64000 := rfl
  have space : spaceForData = 63988 := rfl
  by_cases first : l.firstpacket = true
  · by_cases split : spaceForData / l.remains < 1
    · have parts : ¬ l.whole := fun whole => whole.2 split
      simp only [PacketLoop.bufstep, if_neg parts, videoPacket, if_pos first, if_pos split]
      omega
    · have whole : l.whole := ⟨first, split⟩
      have small : l.remains ≤ spaceForData := by
        rw [Int.ediv_lt_iff_lt_mul more] at split
        omega
      simp only [PacketLoop.bufstep, if_pos whole, videoPacket, if_pos first, if_neg split]
      omega
  · have parts : ¬ l.whole := fun whole => first whole.1
    by_cases last : l.remains ≤ spaceForData - 2
    · simp only [PacketLoop.bufstep, if_neg parts, videoPacket, if_neg first, if_pos last]
      omega
    · simp only [PacketLoop.bufstep, if_neg parts, videoPacket, if_neg first, if_neg last]
      omega

/-- A pass whose copy stays in the frame stays within all bounds. -/
theorem packetAccesses_within {frame : Frame} {l : PacketLoop} {size : Nat}
    (more : 0 < l.remains)
    (copied : (videoPacket frame l).1.start + (videoPacket frame l).1.count ≤ size) :
    ∀ access ∈ packetAccesses frame l, access.Within size := by
  have fits := videoPacket_fits frame more
  have sent : (videoPacket frame l).1.buflen ≤ bufSize := by
    have size : bufSize = 64000 := rfl
    have space : spaceForData = 63988 := rfl
    unfold videoPacket
    dsimp only
    split_ifs <;> dsimp only <;> omega
  have small : (14 : Nat) ≤ bufSize := by decide
  intro access member
  simp only [packetAccesses, List.mem_append, List.mem_cons, List.not_mem_nil, or_false] at member
  rcases member with (header | fu) | rfl | rfl | rfl
  · rcases header with rfl | rfl | rfl | rfl | rfl | rfl <;>
      · intro index _ before
        omega
  · by_cases whole : l.whole
    · simp [whole] at fu
    · simp only [if_neg whole, List.mem_cons, List.not_mem_nil, or_false] at fu
      rcases fu with rfl | rfl <;>
        · intro index _ before
          omega
  · intro index _ before
    omega
  · intro index _ before
    omega
  · exact sent

/-- After the first fragment the loop ends with a copy one past where `datastep + remains`
stood. -/
theorem loopAccesses_last_read (frame : Frame) (l : PacketLoop) (later : l.firstpacket = false)
    (more : 0 < l.remains) : ∃ position count,
      .read position count ∈ loopAccesses frame l ∧ 0 < count ∧
        position + count = l.datastep + l.remains.toNat := by
  -- Induction on `remains`: an intermediary packet moves the position by what it takes off.
  induction bound : l.remains.toNat using Nat.strong_induction_on generalizing l with
  | _ bound ih =>
    subst bound
    have fewer := videoPacket_remains_lt frame l more
    rw [loopAccesses, dif_pos more]
    by_cases last : l.remains ≤ spaceForData - 2
    · have copied : (videoPacket frame l).1.start = l.datastep ∧
          (videoPacket frame l).1.count = l.remains.toNat := by
        simp [videoPacket, later, last]
      refine ⟨l.datastep, l.remains.toNat, ?_, by omega, rfl⟩
      simp [packetAccesses, copied.1, copied.2]
    · have space : spaceForData = 63988 := rfl
      obtain ⟨-, remains, position, follows⟩ := videoPacket_middle frame later (by omega)
      obtain ⟨start, count, member, positive, ends⟩ := ih _ (by omega) _ follows (by omega) rfl
      refine ⟨start, count, List.mem_append_right _ member, positive, ?_⟩
      omega

/-- A unit which fits in one packet is read within the frame. -/
theorem sendVideoAccesses_single {frame : Frame} (sendable : frame.Sendable) (seqnum : UInt16)
    (small : frame.size - 4 ≤ bufSize - 12) :
    ∀ access ∈ sendVideoAccesses frame seqnum, access.Within frame.size := by
  obtain ⟨large, bounded⟩ := sendable
  have size : bufSize = 64000 := rfl
  have space : spaceForData = 63988 := rfl
  have remains : (PacketLoop.start frame seqnum).remains = (frame.size - 4 : Nat) :=
    start_remains seqnum (by omega) bounded
  have more : 0 < (PacketLoop.start frame seqnum).remains := by omega
  have whole : ¬ spaceForData / (PacketLoop.start frame seqnum).remains < 1 := by
    rw [Int.ediv_lt_iff_lt_mul more]
    omega
  have first : (PacketLoop.start frame seqnum).firstpacket = true := rfl
  have copied : (videoPacket frame (.start frame seqnum)).1.start = 4 ∧
      (videoPacket frame (.start frame seqnum)).1.count = frame.size - 4 ∧
      (videoPacket frame (.start frame seqnum)).2.remains = 0 := by
    simp only [videoPacket, if_pos first, if_neg whole]
    refine ⟨rfl, by omega, by omega⟩
  intro access member
  rw [sendVideoAccesses, loopAccesses, dif_pos more, loopAccesses, dif_neg (by omega),
    List.append_nil, List.mem_cons] at member
  rcases member with rfl | member
  · intro index _ before
    omega
  · refine packetAccesses_within more ?_ access member
    omega

/-- A fragmented unit is read one byte past the frame. -/
theorem sendVideoAccesses_overrun {frame : Frame} (sendable : frame.Sendable) (seqnum : UInt16)
    (large : bufSize - 12 < frame.size - 4) : ∃ position count,
      .read position count ∈ sendVideoAccesses frame seqnum ∧ 0 < count ∧
        position + count = frame.size + 1 := by
  obtain ⟨five, bounded⟩ := sendable
  have size : bufSize = 64000 := rfl
  have space : spaceForData = 63988 := rfl
  have remains : (PacketLoop.start frame seqnum).remains = (frame.size - 4 : Nat) :=
    start_remains seqnum (by omega) bounded
  have start : (PacketLoop.start frame seqnum).datastep = 4 := rfl
  obtain ⟨-, left, position, follows⟩ :=
    videoPacket_first frame (rfl : (PacketLoop.start frame seqnum).firstpacket = true) (by omega)
  obtain ⟨from_, count, member, positive, ends⟩ :=
    loopAccesses_last_read frame _ follows (by omega)
  refine ⟨from_, count, ?_, positive, by omega⟩
  rw [sendVideoAccesses, loopAccesses, dif_pos (by omega)]
  exact List.mem_cons_of_mem _ (List.mem_append_right _ member)

/-- Whatever its size, the frame is packed within `buf` and sent within it. -/
theorem loopAccesses_buffer (frame : Frame) (l : PacketLoop) :
    ∀ access ∈ loopAccesses frame l,
      (∃ position count, access = .read position count) ∨ access.Within frame.size := by
  induction bound : l.remains.toNat using Nat.strong_induction_on generalizing l with
  | _ bound ih =>
    subst bound
    intro access member
    rw [loopAccesses] at member
    by_cases more : 0 < l.remains
    · have fewer := videoPacket_remains_lt frame l more
      rw [dif_pos more, List.mem_append] at member
      rcases member with own | rest
      · have within := packetAccesses_within more le_rfl access own
        cases access with
        | read position count => exact .inl ⟨position, count, rfl⟩
        | write position count => exact .inr within
        | send length => exact .inr within
      · exact ih _ (by omega) _ rfl access rest
    · simp [dif_neg more] at member

/-- Packetisation stays in bounds exactly for the units which fit in one packet. -/
theorem sendVideoFrame_inBounds_iff (frame : Frame) (seqnum : UInt16)
    (sendable : frame.Sendable) :
    (∀ access ∈ sendVideoAccesses frame seqnum, access.Within frame.size) ↔
      frame.size - 4 ≤ bufSize - 12 := by
  constructor
  · intro within
    by_contra large
    obtain ⟨position, count, member, positive, ends⟩ :=
      sendVideoAccesses_overrun sendable seqnum (by omega)
    have beyond := within _ member frame.size (by omega) (by omega)
    omega
  · exact sendVideoAccesses_single sendable seqnum

/-- The largest unit of one packet stays in bounds. -/
theorem sendVideoFrame_inBounds_full : Frame.Sendable ⟨fun _ => 0x65, 63992, 0, .video⟩ ∧
    ∀ access ∈ sendVideoAccesses ⟨fun _ => 0x65, 63992, 0, .video⟩ 0, access.Within 63992 := by
  have sendable : Frame.Sendable ⟨fun _ => 0x65, 63992, 0, .video⟩ := ⟨by decide, by decide⟩
  exact ⟨sendable, (sendVideoFrame_inBounds_iff _ 0 sendable).mpr (by decide)⟩

/-- A unit of one byte more is read past its end. -/
theorem sendVideoFrame_not_inBounds : ¬ ∀ (frame : Frame) (seqnum : UInt16), frame.Sendable →
    ∀ access ∈ sendVideoAccesses frame seqnum, access.Within frame.size := by
  intro always
  let frame : Frame := ⟨fun _ => 0x65, 63993, 0, .video⟩
  have sendable : frame.Sendable := ⟨by decide, by decide⟩
  obtain ⟨position, count, member, positive, ends⟩ :=
    sendVideoAccesses_overrun sendable 0 (by decide)
  have beyond := always frame 0 sendable _ member frame.size (by omega) (by omega)
  omega

end Http2Rtsp.Rtp
