import Http2Rtsp.Rtp.Framing
import Http2Rtsp.Std.Marked

/-!
# The receiver of a video stream

What the packets of a session are for: a receiver reads the RTP header of each
packet, drops the packets which carry nothing, and joins what is left up to a
marker. `readRtp` and `receive` are such a receiver and are not taken from the
source. It gets the NAL unit of a frame which fits a packet, and all but the last
byte of one which does not.
-/

namespace Http2Rtsp.Rtp

open Http2Rtsp.Std

/-! ## Headers -/

/-- A packet as it is read. -/
structure RtpPacket where
  marker : Bool
  payloadType : UInt8
  seqnum : UInt16
  timestamp : UInt32
  ssrc : UInt32
  payload : List UInt8

/-- Two bytes, big-endian. -/
def join16 (high low : UInt8) : UInt16 := high.toUInt16 * 256 + low.toUInt16

/-- Four bytes, big-endian. -/
def join32 (first second third fourth : UInt8) : UInt32 :=
  ((first.toUInt32 * 256 + second.toUInt32) * 256 + third.toUInt32) * 256 + fourth.toUInt32

/-- The RTP header in front of a payload: version 2, no padding, no extension and no contributing
sources. -/
def readRtp : List UInt8 → Option RtpPacket
  | first :: second :: s0 :: s1 :: t0 :: t1 :: t2 :: t3 :: c0 :: c1 :: c2 :: c3 :: payload =>
      if first = firstByte then
        some ⟨decide (second &&& 0x80 ≠ 0), second &&& 0x7f, join16 s0 s1, join32 t0 t1 t2 t3,
          join32 c0 c1 c2 c3, payload⟩
      else none
  | _ => none

/-- The four bytes of a number make up the number. -/
theorem pack32i_join (src : UInt32) :
    join32 (src >>> 24).toUInt8 (src >>> 16).toUInt8 (src >>> 8).toUInt8 src.toUInt8 = src := by
  apply UInt32.toNat_inj.mp
  have bound := src.toNat_lt
  simp [join32, Nat.shiftRight_eq_div_pow]
  omega

/-- What is read in a packet which starts with a header. -/
theorem readRtp_of_header {sent : Sent} {secondbyte : UInt8} {seqnum : UInt16} {timestamp : UInt32}
    {body : List UInt8} (filled : sent.buf = fill (rtpHeader secondbyte seqnum timestamp ++ body))
    (sized : 12 ≤ sent.buflen) :
    readRtp sent.packet = some ⟨decide (secondbyte &&& 0x80 ≠ 0), secondbyte &&& 0x7f, seqnum,
      timestamp, ssrc, payload sent⟩ := by
  have length : sent.buflen.toNat = (sent.buflen.toNat - 12) + 12 := by omega
  have sequence : join16 (seqnum >>> 8).toUInt8 seqnum.toUInt8 = seqnum := packi16_join seqnum
  rw [payload, Sent.packet, length, filled]
  simp only [fill, rtpHeader, packi16, pack32i, List.cons_append, List.nil_append,
    List.take_succ_cons, readRtp, if_true, sequence, pack32i_join, List.drop_succ_cons,
    List.drop_zero]

/-! ## Packets -/

/-- The payload type of the video. -/
def h264 : UInt8 := 96

/-- The packet starts with an RTP header of the video, which is sent. -/
def Sent.Headed (sent : Sent) : Prop :=
  ∃ secondbyte seqnum timestamp body, secondbyte &&& 0x7f = h264 ∧
    sent.buf = fill (rtpHeader secondbyte seqnum timestamp ++ body) ∧ 12 ≤ sent.buflen

/-- The packets as they are read. -/
def readAll (packets : List Sent) : List RtpPacket :=
  packets.filterMap fun sent => readRtp sent.packet

@[simp] theorem readAll_nil : readAll [] = [] := rfl

theorem readAll_cons {sent : Sent} {packet : RtpPacket} {rest : List Sent}
    (read : readRtp sent.packet = some packet) :
    readAll (sent :: rest) = packet :: readAll rest := by
  simp [readAll, read]

@[simp] theorem readAll_append (first second : List Sent) :
    readAll (first ++ second) = readAll first ++ readAll second :=
  List.filterMap_append ..

/-- The marker of a packet as a truth value. -/
def Sent.marker (sent : Sent) : Bool := sent.packet.getD 1 0 &&& 0x80 ≠ 0

theorem Sent.marker_iff {sent : Sent} : sent.marker = true ↔ sent.marked := decide_eq_true_iff

/-- What is read in a packet with a header. -/
theorem Sent.Headed.reads {sent : Sent} (headed : sent.Headed) : ∃ packet : RtpPacket,
    readRtp sent.packet = some packet ∧ (packet.payloadType = h264 ∧ packet.ssrc = ssrc) ∧
      packet.marker = sent.marker ∧ packet.payload = payload sent := by
  obtain ⟨secondbyte, seqnum, timestamp, body, typed, filled, sized⟩ := headed
  refine ⟨_, readRtp_of_header filled sized, ⟨typed, rfl⟩, ?_, rfl⟩
  have marked := (marked_of_header filled sized).1
  rw [Sent.marker]
  exact decide_eq_decide.mpr marked.symm

/-- Packets with headers are all read. -/
theorem readAll_headed {packets : List Sent} (headed : ∀ sent ∈ packets, sent.Headed) :
    (readAll packets).map RtpPacket.marker = packets.map Sent.marker ∧
      (readAll packets).map RtpPacket.payload = packets.map payload := by
  induction packets with
  | nil => exact ⟨rfl, rfl⟩
  | cons sent rest ih =>
      obtain ⟨here, later⟩ := List.forall_mem_cons.mp headed
      obtain ⟨packet, read, -, marker, carried⟩ := here.reads
      obtain ⟨markers, payloads⟩ := ih later
      rw [readAll_cons read]
      exact ⟨congrArg₂ List.cons marker markers, congrArg₂ List.cons carried payloads⟩

/-- Every packet of the loop has a header. -/
theorem videoPacket_headed (frame : Frame) {l : PacketLoop} (more : 0 < l.remains) :
    (videoPacket frame l).1.Headed := by
  have filled : ∃ body, (videoPacket frame l).1.buf = fill (rtpHeader
      (if l.remains ≤ spaceForData then markedSecondByteH264 else unmarkedSecondByteH264)
      l.seqnum frame.timestamp ++ body) := by
    unfold videoPacket
    dsimp only
    split_ifs <;> simp only [List.append_assoc] <;> exact ⟨_, rfl⟩
  obtain ⟨body, filled⟩ := filled
  refine ⟨_, _, _, body, ?_, filled, videoPacket_buflen frame more⟩
  split
  · rfl
  · rfl

theorem packetLoop_headed (frame : Frame) (l : PacketLoop) :
    ∀ sent ∈ (packetLoop frame l).1, sent.Headed := by
  induction l using packetLoop.induct frame with
  | case1 l more =>
      rename_i packet ih
      rw [packetLoop_more more]
      exact List.forall_mem_cons.mpr ⟨videoPacket_headed frame more, ih⟩
  | case2 l done =>
      rw [packetLoop_done (by omega)]
      exact fun sent member => absurd member List.not_mem_nil

/-- So has every packet of a frame. -/
theorem sendVideoFrame_headed (frame : Frame) (seqnum : UInt16) :
    ∀ sent ∈ (sendVideoFrame frame seqnum).1, sent.Headed :=
  packetLoop_headed frame (.start frame seqnum)

/-! ## The receiver -/

/-- The NAL units of a stream: packets without a payload are dropped, and a marked packet ends a
unit. -/
def receive (packets : List RtpPacket) : List (Option (List UInt8)) :=
  (messages (fun packet => packet.marker = true)
    (packets.filter fun packet => packet.payload ≠ [])).1.map fun unit =>
      depacketise (unit.map RtpPacket.payload)

/-- What `send_video_frame` delivers of a frame, which is not always the NAL unit it is given: the
last byte of a unit which has to be fragmented is never sent. -/
def Frame.delivered (frame : Frame) : List UInt8 :=
  if frame.size - 4 ≤ bufSize - 12 then frame.nal else frame.nal.dropLast

theorem Frame.length_nal (frame : Frame) : frame.nal.length = frame.size - 4 :=
  length_copy ..

theorem Frame.length_delivered (frame : Frame) : frame.delivered.length =
    if frame.size - 4 ≤ bufSize - 12 then frame.size - 4 else frame.size - 4 - 1 := by
  unfold Frame.delivered
  split
  · exact frame.length_nal
  · rw [List.length_dropLast, frame.length_nal]

/-- A frame with one NAL unit, which is not a fragment itself and does not leave a short last
fragment. -/
structure Frame.Deliverable (frame : Frame) : Prop where
  sendable : frame.Sendable
  unfragmented : frame.data 4 &&& 0x1f ≠ fuA
  whole : ¬ shortTail (frame.size - 4)

instance (frame : Frame) : Decidable frame.Deliverable :=
  decidable_of_iff (frame.Sendable ∧ frame.data 4 &&& 0x1f ≠ fuA ∧ ¬ shortTail (frame.size - 4))
    ⟨fun ⟨sendable, unfragmented, whole⟩ => ⟨sendable, unfragmented, whole⟩,
      fun deliverable => ⟨deliverable.1, deliverable.2, deliverable.3⟩⟩

/-- Its packets are joined to what arrives of it. -/
theorem depacketise_deliverable {frame : Frame} (deliverable : frame.Deliverable) (seqnum : UInt16) :
    depacketise ((sendVideoFrame frame seqnum).1.map payload) = some frame.delivered := by
  obtain ⟨large, bounded⟩ := deliverable.sendable
  by_cases fits : frame.size - 4 ≤ bufSize - 12
  · rw [Frame.delivered, if_pos fits]
    exact depacketise_single large deliverable.unfragmented fits
  · rw [Frame.delivered, if_neg fits]
    exact depacketise_fragmented bounded (by omega)

/-- Its packets are framed. -/
theorem framed_deliverable {frame : Frame} (deliverable : frame.Deliverable) (seqnum : UInt16) :
    Framed frame (sendVideoFrame frame seqnum).1 := by
  by_cases fits : frame.size - 4 ≤ bufSize - 12
  · exact framed_single deliverable.sendable seqnum fits
  · exact framed_fragmented deliverable.sendable seqnum (by omega) deliverable.whole

/-- All of them carry something. -/
theorem Framed.carries {frame : Frame} {packets : List Sent} (framed : Framed frame packets)
    (sendable : frame.Sendable) : ∀ sent ∈ packets, payload sent ≠ [] := by
  intro sent member empty
  have size := sendable.1
  by_cases fits : frame.size - 4 ≤ bufSize - 12
  · obtain ⟨packet, rfl, carried⟩ := framed.single fits
    obtain rfl := List.mem_singleton.mp member
    have length := congrArg List.length (carried.symm.trans empty)
    simp [Frame.nal] at length
    omega
  · have carries := (framed.fragments (by omega) sent member).carries
    simp [empty] at carries

/-- The packets of a frame give the receiver one NAL unit. -/
theorem receive_frame {frame : Frame} (deliverable : frame.Deliverable) (seqnum : UInt16)
    (later : List RtpPacket) :
    receive (readAll (sendVideoFrame frame seqnum).1 ++ later) =
      some frame.delivered :: receive later := by
  have framed := framed_deliverable deliverable seqnum
  have joined := depacketise_deliverable deliverable seqnum
  obtain ⟨markers, payloads⟩ := readAll_headed (sendVideoFrame_headed frame seqnum)
  have carrying : (readAll (sendVideoFrame frame seqnum).1).filter
      (fun packet => packet.payload ≠ []) = readAll (sendVideoFrame frame seqnum).1 := by
    refine List.filter_eq_self.mpr fun packet member => decide_eq_true fun empty => ?_
    have carried : packet.payload ∈ (sendVideoFrame frame seqnum).1.map payload :=
      payloads ▸ List.mem_map_of_mem member
    obtain ⟨sent, inside, equal⟩ := List.mem_map.mp carried
    exact framed.carries deliverable.sendable sent inside (equal.trans empty)
  have some_ : readAll (sendVideoFrame frame seqnum).1 ≠ [] := by
    intro none
    rw [none] at payloads
    rw [← payloads] at joined
    cases joined
  have last : OnlyLast (fun packet : RtpPacket => packet.marker = true)
      (readAll (sendVideoFrame frame seqnum).1) := by
    rw [← onlyLast_map (p := fun marker => marker = true), markers, onlyLast_map]
    exact fun index inside => Sent.marker_iff.trans (framed.marked index inside)
  rw [receive, List.filter_append, carrying, messages_append some_ last, List.map_cons, payloads,
    joined, receive]

/-- A dummy has a header and nothing behind it. -/
theorem sendDummyRtp_headed (seqnum : UInt16) :
    (sendDummyRtp seqnum).1.Headed ∧ payload (sendDummyRtp seqnum).1 = [] := by
  have filled : (sendDummyRtp seqnum).1.buf =
      fill (rtpHeader unmarkedSecondByteH264 seqnum 0 ++ []) := by
    rw [List.append_nil]
    rfl
  exact ⟨⟨_, _, _, _, rfl, filled, Int.le_refl 12⟩, rfl⟩

/-- A dummy gives the receiver nothing. -/
theorem receive_dummy (seqnum : UInt16) (later : List RtpPacket) :
    receive (readAll [(sendDummyRtp seqnum).1] ++ later) = receive later := by
  obtain ⟨headed, nothing⟩ := sendDummyRtp_headed seqnum
  obtain ⟨packet, read, -, -, carried⟩ := headed.reads
  have empty : packet.payload = [] := carried.trans nothing
  rw [readAll_cons read, readAll_nil, receive, List.filter_append]
  simp [empty, receive]

end Http2Rtsp.Rtp
