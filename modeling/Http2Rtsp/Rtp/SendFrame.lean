import Http2Rtsp.Sockets

/-!
# RTP packets of a frame

`send_frame.c`: the three functions which write RTP packets into a buffer of
`BUFSIZE` bytes and hand a length of it to `send_all`. Each packet is kept with
the copy that filled it, so that both what is sent and what is read of the frame
can be asked about.
-/

namespace Http2Rtsp.Rtp

/-- `VIDEO_FRAME` and `AUDIO_FRAME`. -/
inductive FrameType where
  | video
  | audio
deriving DecidableEq

/-- `struct frame`. `data` is the memory from the pointer on, also past the `size` bytes the
frame owns. -/
structure Frame where
  data : Nat → UInt8
  size : Nat
  timestamp : UInt32
  frametype : FrameType

/-- The bytes `memcpy(_, data + start, count)` copies. -/
def Frame.copy (frame : Frame) (start count : Nat) : List UInt8 :=
  (List.range count).map fun i => frame.data (start + i)

/-- The NAL unit of a video frame: what follows the four bytes of start code. -/
def Frame.nal (frame : Frame) : List UInt8 := frame.copy 4 (frame.size - 4)

def ssrc : UInt32 := 8472857

def firstByte : UInt8 := 0x80
def markedSecondByteH264 : UInt8 := 0xe0
def unmarkedSecondByteH264 : UInt8 := 0x60
def markedSecondBytePcma : UInt8 := 0x88

def packi16 (i : UInt16) : List UInt8 := [(i >>> 8).toUInt8, i.toUInt8]

def pack32i (src : UInt32) : List UInt8 :=
  [(src >>> 24).toUInt8, (src >>> 16).toUInt8, (src >>> 8).toUInt8, src.toUInt8]

/-- The twelve bytes of an RTP header. -/
def rtpHeader (secondbyte : UInt8) (seqnum : UInt16) (timestamp : UInt32) : List UInt8 :=
  firstByte :: secondbyte :: packi16 seqnum ++ pack32i timestamp ++ pack32i ssrc

/-- RTP header takes 12 bytes. -/
def spaceForData : Int := bufSize - 12

/-- `buf`, zeroed and then written from its start. -/
def fill (written : List UInt8) : List UInt8 :=
  written ++ List.replicate (bufSize - written.length) 0

/-- One call of `send_all(sockfd, buf, buflen)`, with the copy of frame data that precedes it. -/
structure Sent where
  buf : List UInt8
  buflen : Int
  start : Nat
  count : Nat

/-- The bytes which leave: the first `buflen` of `buf`. -/
def Sent.packet (sent : Sent) : List UInt8 := sent.buf.take sent.buflen.toNat

/-- The locals of `send_video_frame` which change in its loop. `datastep` is the position in
`data`. -/
structure PacketLoop where
  remains : Int
  datastep : Nat
  seqnum : UInt16
  firstpacket : Bool
  numpkts : Int

def origtype (nalbyte : UInt8) : UInt8 := nalbyte &&& 0x1f
def fragtype : UInt8 := 0x1c
def fustart : UInt8 := 0x4
def fuend : UInt8 := 0x2

/-- The first byte of a fragment's payload. -/
def fuIndicator (nalbyte : UInt8) : UInt8 := (nalbyte &&& 0xe0) ||| fragtype

/-- The body of the packet loop. -/
def videoPacket (frame : Frame) (l : PacketLoop) : Sent × PacketLoop :=
  let nalbyte := frame.data 4
  -- Last packet, or a full one.
  let buflen := if l.remains ≤ spaceForData then l.remains + 12 else spaceForData + 12
  let secondbyte :=
    if l.remains ≤ spaceForData then markedSecondByteH264 else unmarkedSecondByteH264
  let header := rtpHeader secondbyte l.seqnum frame.timestamp
  let l := { l with seqnum := l.seqnum + 1, numpkts := l.numpkts + 1 }
  if l.firstpacket then
    let l := { l with firstpacket := false }
    -- The packet needs fragmenting.
    if spaceForData / l.remains < 1 then
      let start := l.datastep + 1
      let count := (spaceForData - 2).toNat
      let fu := [fuIndicator nalbyte, (fustart <<< 5) ||| origtype nalbyte]
      (⟨fill (header ++ fu ++ frame.copy start count), buflen, start, count⟩,
        { l with remains := l.remains - (spaceForData - 2), datastep := start + count })
    else
      let count := l.remains.toNat
      (⟨fill (header ++ frame.copy l.datastep count), buflen, l.datastep, count⟩,
        { l with remains := l.remains - l.remains })
  -- The last packet of a fragmented unit.
  else if l.remains ≤ spaceForData - 2 then
    let count := l.remains.toNat
    let fu := [fuIndicator nalbyte, (fuend <<< 5) ||| origtype nalbyte]
    (⟨fill (header ++ fu ++ frame.copy l.datastep count), buflen, l.datastep, count⟩,
      { l with remains := l.remains - l.remains })
  -- An intermediary packet.
  else
    let count := (spaceForData - 2).toNat
    let fu := [fuIndicator nalbyte, origtype nalbyte]
    (⟨fill (header ++ fu ++ frame.copy l.datastep count), buflen, l.datastep, count⟩,
      { l with remains := l.remains - (spaceForData - 2), datastep := l.datastep + count })

/-- Every packet takes something off `remains`. -/
theorem videoPacket_remains_lt (frame : Frame) (l : PacketLoop) (more : 0 < l.remains) :
    (videoPacket frame l).2.remains < l.remains := by
  unfold videoPacket spaceForData bufSize
  dsimp only
  split_ifs <;> dsimp only <;> omega

/-- `while (remains > 0)`. -/
def packetLoop (frame : Frame) (l : PacketLoop) : List Sent × PacketLoop :=
  if _more : 0 < l.remains then
    let packet := videoPacket frame l
    let rest := packetLoop frame packet.2
    (packet.1 :: rest.1, rest.2)
  else ([], l)
termination_by l.remains.toNat
decreasing_by
  have fewer := videoPacket_remains_lt frame l _more
  omega

/-- The locals before the loop. `size - 4` is a `size_t`, stored in an `int`. -/
def PacketLoop.start (frame : Frame) (seqnum : UInt16) : PacketLoop where
  remains := Std.toInt32 (frame.size - 4)
  datastep := 4
  seqnum := seqnum
  firstpacket := true
  numpkts := 0

/-- `send_video_frame`: the packets sent and the number returned. -/
def sendVideoFrame (frame : Frame) (seqnum : UInt16) : List Sent × Int :=
  let done := packetLoop frame (.start frame seqnum)
  (done.1, done.2.numpkts)

/-- `send_audio_frame`. -/
def sendAudioFrame (frame : Frame) (seqnum : UInt16) : List Sent × Int :=
  ([⟨fill (rtpHeader markedSecondBytePcma seqnum frame.timestamp ++ frame.copy 0 frame.size),
      frame.size + 12, 0, frame.size⟩], 1)

/-- `send_dummy_rtp`: the packet and the next sequence number. -/
def sendDummyRtp (seqnum : UInt16) : Sent × UInt16 :=
  (⟨fill (rtpHeader unmarkedSecondByteH264 seqnum 0), 12, 0, 0⟩, seqnum + 1)

end Http2Rtsp.Rtp
