import Http2Rtsp.Pacing.EndOfStream

/-!
# The packets of a file

`get_frame` reads a packet and fills a frame from it if it belongs to the video or to the audio
stream; it returns the index of the stream in every case. `fill_queue` takes each index but that of
the video for audio. A file with subtitles or a second audio track has packets from which no frame
is filled: what `malloc` left in the frame is then pushed as an audio frame.

What libav does to a file is given: the packets it delivers, what the codecs make of them, and the
conversion of a time stamp, which is in floating point.
-/

namespace Http2Rtsp.Pacing

open Http2Rtsp.Std Http2Rtsp.Semantics

/-! ## Files -/

/-- The `codec_type` of a stream. -/
inductive CodecType where
  | video
  | audio
  | other
deriving DecidableEq

/-- An opened file, with the conversion of a `pts` of one of its streams to 90 kHz. -/
structure MediaFile where
  streams : List CodecType
  rescale : Int → Int → UInt32

/-- `AVPacket`. Its stream is one of the streams of the file, by its number. -/
structure Packet where
  streamIndex : Nat
  data : List UInt8
  pts : Int

/-- What the codecs make of a packet: one of them is not there, or the audio is encoded again. -/
inductive Transcoding where
  | unsupported
  | encoded (audio : List UInt8)

/-- A packet as `av_read_frame` delivers it. -/
structure PacketRead where
  packet : Packet
  transcoding : Transcoding

/-- What `malloc` returns, with what the memory holds: the frame and the buffer for its data. -/
structure Allocation where
  frame : Rtp.Frame
  mediabuf : Nat → UInt8

/-- The loop over the streams in `initialize_context`. -/
def scanStreams : Nat → Int × Int → List CodecType → Int × Int
  | _, indexes, [] => indexes
  | i, (videoStream, audioStream), type :: rest =>
      scanStreams (i + 1)
        (if type = .video then i else videoStream, if type = .audio then i else audioStream) rest

/-- `videoIdx`. -/
def MediaFile.videoIdx (file : MediaFile) : Int := (scanStreams 0 (-1, -1) file.streams).1

/-- `audioIdx`. -/
def MediaFile.audioIdx (file : MediaFile) : Int := (scanStreams 0 (-1, -1) file.streams).2

/-! ## Frames -/

/-- A buffer behind a `memcpy` to its start. -/
def copied (bytes : List UInt8) (mediabuf : Nat → UInt8) : Nat → UInt8 :=
  fun i => bytes.getD i (mediabuf i)

/-- `get_frame`. There is nothing to read at the end of the file. -/
def getFrame (file : MediaFile) (read : Option PacketRead) (memory : Allocation)
    (videoIdx audioIdx : Int) : Int × Rtp.Frame :=
  match read with
  | none => (-1, memory.frame)
  | some ⟨packet, transcoding⟩ =>
      if packet.streamIndex = videoIdx then
        (packet.streamIndex, { memory.frame with
          data := copied packet.data memory.mediabuf
          size := packet.data.length
          timestamp := file.rescale videoIdx packet.pts })
      else if packet.streamIndex = audioIdx then
        match transcoding with
        | .unsupported => (-1, memory.frame)
        | .encoded audio =>
            (packet.streamIndex, { memory.frame with
              data := copied audio memory.mediabuf
              size := audio.length
              timestamp := file.rescale audioIdx packet.pts })
      else (packet.streamIndex, memory.frame)

/-- What `fill_queue` makes of it: the next frame, or none at what it takes for the end. -/
def nextFrame (file : MediaFile) (read : Option PacketRead) (memory : Allocation) :
    Option Rtp.Frame :=
  let got := getFrame file read memory file.videoIdx file.audioIdx
  if got.1 = -1 then none
  else some { got.2 with frametype := if got.1 = file.videoIdx then .video else .audio }

/-! ## Reading -/

/-- A round of the inner loop of `fill_queue`, or a pull. -/
inductive ReadOp where
  | round (read : Option PacketRead) (memory : Allocation) (unset : Timeval)
  | pullEvent

/-- What an operation does to the queue. -/
def ReadOp.fillOp (file : MediaFile) : ReadOp → FillOp
  | .round read memory unset =>
      match nextFrame file read memory with
      | some frame => .frame frame
      | none => .endOfFile unset
  | .pullEvent => .pullEvent

/-- The reading of a file packet by packet, with one base time. -/
def readMachine (file : MediaFile) (basetime : Clock) :
    Machine FillState ReadOp FillOutput Unit where
  Initial s := s = ⟨[], none, false⟩
  step s op := fillStep basetime s (op.fillOp file)

/-- It reads frame by frame. -/
theorem readMachine_fills {file : MediaFile} {basetime : Clock}
    {trace : List (Entry FillState ReadOp FillOutput)} {s : FillState}
    (run : (readMachine file basetime).Runs trace s) :
    (fillMachine basetime).Runs
      (trace.map fun entry => ⟨entry.before, entry.input.fillOp file, entry.output⟩) s := by
  induction run with
  | initial valid => exact .initial valid
  | step _ taken ih =>
      rw [List.map_append]
      exact ih.step taken

/-! ## The property and the condition -/

/-- The bytes a frame of the packet is to hold. -/
def PacketRead.content (file : MediaFile) (delivery : PacketRead) : Option (List UInt8) :=
  if delivery.packet.streamIndex = file.videoIdx then some delivery.packet.data
  else if delivery.packet.streamIndex = file.audioIdx then
    match delivery.transcoding with
    | .unsupported => none
    | .encoded audio => some audio
  else none

/-- The frame is filled from the packet, and is of the kind of its stream. -/
structure FilledFrom (file : MediaFile) (delivery : PacketRead) (frame : Rtp.Frame) : Prop where
  content : delivery.content file = some (frame.copy 0 frame.size)
  timestamp : frame.timestamp = file.rescale delivery.packet.streamIndex delivery.packet.pts
  video : frame.frametype = .video ↔ delivery.packet.streamIndex = file.videoIdx
  audio : frame.frametype = .audio ↔ delivery.packet.streamIndex = file.audioIdx

/-- Each frame pushed is filled from the packet which has been read. -/
def PushesFilled (file : MediaFile) (_ : FillState) (op : ReadOp) (_ : FillState)
    (output : List FillOutput) : Prop :=
  ∀ frame ∈ framesPushed output, ∃ delivery memory unset,
    op = .round (some delivery) memory unset ∧ FilledFrom file delivery frame

/-- The packet is of the video or of the audio stream. -/
def ReadsMedia (file : MediaFile) (_ : FillState) : ReadOp → Prop
  | .round (some delivery) _ _ => delivery.packet.streamIndex = file.videoIdx ∨
      delivery.packet.streamIndex = file.audioIdx
  | _ => True

/-! ## Streams -/

/-- The indexes which have been found are those of a video and of an audio stream. -/
structure Finds (streams : List CodecType) (indexes : Int × Int) : Prop where
  video : ∀ i : Nat, indexes.1 = i → streams[i]? = some .video
  audio : ∀ i : Nat, indexes.2 = i → streams[i]? = some .audio

/-- What has been found stays, and the number of a new stream is the number of those before it. -/
theorem getElem?_found {streams : List CodecType} {type wanted : CodecType} {index : Int}
    (found : ∀ i : Nat, index = i → streams[i]? = some wanted) :
    ∀ i : Nat, (if type = wanted then (streams.length : Int) else index) = i →
      (streams ++ [type])[i]? = some wanted := by
  intro i same
  by_cases new : type = wanted
  · rw [if_pos new] at same
    obtain rfl : streams.length = i := Int.ofNat_inj.mp same
    rw [List.getElem?_concat_length, new]
  · rw [if_neg new] at same
    have there := found i same
    obtain ⟨within, -⟩ := List.getElem?_eq_some_iff.mp there
    rw [List.getElem?_append_left within]
    exact there

theorem scanStreams_finds {before rest : List CodecType} {indexes : Int × Int}
    (found : Finds before indexes) :
    Finds (before ++ rest) (scanStreams before.length indexes rest) := by
  induction rest generalizing before indexes with
  | nil =>
      rw [List.append_nil]
      exact found
  | cons type rest ih =>
      have next : Finds (before ++ [type])
          (if type = .video then (before.length : Int) else indexes.1,
            if type = .audio then (before.length : Int) else indexes.2) :=
        ⟨getElem?_found found.video, getElem?_found found.audio⟩
      have all := ih next
      rw [List.append_assoc, List.length_append] at all
      exact all

/-- No stream is both. -/
theorem videoIdx_ne_audioIdx {file : MediaFile} {i : Nat} (video : i = file.videoIdx) :
    (i : Int) ≠ file.audioIdx := by
  intro audio
  have found : Finds ([] ++ file.streams) (scanStreams 0 (-1, -1) file.streams) :=
    @scanStreams_finds [] file.streams (-1, -1) ⟨fun i none => by omega, fun i none => by omega⟩
  have one := found.video i video.symm
  have other := found.audio i audio.symm
  cases one.symm.trans other

/-! ## Filling a frame -/

section Filling

variable {file : MediaFile} {delivery : PacketRead} {memory : Allocation}

/-- A frame holds the bytes which were copied to its buffer. -/
theorem copy_copied {frame : Rtp.Frame} {bytes : List UInt8} {mediabuf : Nat → UInt8}
    (data : frame.data = copied bytes mediabuf) : frame.copy 0 bytes.length = bytes := by
  rw [Rtp.Frame.copy, data]
  apply List.ext_getElem
  · rw [List.length_map, List.length_range]
  · intro i _ within
    simp [copied, within]

/-- An index of a stream is no error. -/
theorem streamIndex_ne_error (packet : Packet) : (packet.streamIndex : Int) ≠ -1 := by
  omega

/-- A video packet fills its frame. -/
theorem nextFrame_video (video : delivery.packet.streamIndex = file.videoIdx) :
    ∀ frame ∈ nextFrame file (some delivery) memory, FilledFrom file delivery frame := by
  intro frame next
  have got : getFrame file (some delivery) memory file.videoIdx file.audioIdx =
      ((delivery.packet.streamIndex : Int), { memory.frame with
        data := copied delivery.packet.data memory.mediabuf
        size := delivery.packet.data.length
        timestamp := file.rescale file.videoIdx delivery.packet.pts }) := if_pos video
  rw [nextFrame, got] at next
  simp only [if_neg (streamIndex_ne_error delivery.packet), if_pos video] at next
  obtain rfl := Option.some.inj next
  refine ⟨?_, by rw [video], iff_of_true rfl video, iff_of_false ?_ (videoIdx_ne_audioIdx video)⟩
  · rw [PacketRead.content, if_pos video]
    exact congrArg some (copy_copied rfl).symm
  · exact Rtp.FrameType.noConfusion

/-- An audio packet fills its frame, unless a codec is missing. -/
theorem nextFrame_audio (audio : delivery.packet.streamIndex = file.audioIdx) :
    ∀ frame ∈ nextFrame file (some delivery) memory, FilledFrom file delivery frame := by
  intro frame next
  have other : ¬ (delivery.packet.streamIndex : Int) = file.videoIdx := fun video =>
    videoIdx_ne_audioIdx video audio
  obtain ⟨packet, transcoding⟩ := delivery
  cases transcoding with
  | unsupported =>
      have got : getFrame file (some ⟨packet, .unsupported⟩) memory file.videoIdx file.audioIdx =
          (-1, memory.frame) := by
        rw [getFrame, if_neg other, if_pos audio]
      rw [nextFrame, got] at next
      cases next
  | encoded bytes =>
      have got : getFrame file (some ⟨packet, .encoded bytes⟩) memory file.videoIdx file.audioIdx =
          ((packet.streamIndex : Int), { memory.frame with
            data := copied bytes memory.mediabuf
            size := bytes.length
            timestamp := file.rescale file.audioIdx packet.pts }) := by
        rw [getFrame, if_neg other, if_pos audio]
      rw [nextFrame, got] at next
      simp only [if_neg (streamIndex_ne_error packet), if_neg other] at next
      obtain rfl := Option.some.inj next
      refine ⟨?_, by rw [audio], iff_of_false Rtp.FrameType.noConfusion other, iff_of_true rfl audio⟩
      rw [PacketRead.content, if_neg other, if_pos audio]
      exact congrArg some (copy_copied rfl).symm

/-- A packet of another stream leaves its frame as `malloc` has returned it, and it goes on as
audio. -/
theorem nextFrame_other (video : delivery.packet.streamIndex ≠ file.videoIdx)
    (audio : delivery.packet.streamIndex ≠ file.audioIdx) :
    nextFrame file (some delivery) memory = some { memory.frame with frametype := .audio } := by
  have got : getFrame file (some delivery) memory file.videoIdx file.audioIdx =
      ((delivery.packet.streamIndex : Int), memory.frame) := (if_neg video).trans (if_neg audio)
  rw [nextFrame, got]
  simp only [if_neg (streamIndex_ne_error delivery.packet), if_neg video]

/-- Only frames of the two streams are filled. -/
theorem FilledFrom.media {frame : Rtp.Frame} (filled : FilledFrom file delivery frame) :
    delivery.packet.streamIndex = file.videoIdx ∨ delivery.packet.streamIndex = file.audioIdx := by
  cases type : frame.frametype with
  | video => exact Or.inl (filled.video.mp type)
  | audio => exact Or.inr (filled.audio.mp type)

/-- The next frame is filled from the packet exactly when the packet is of one of the two. -/
theorem nextFrame_filled_iff :
    (∀ frame ∈ nextFrame file (some delivery) memory, FilledFrom file delivery frame) ↔
      delivery.packet.streamIndex = file.videoIdx ∨
        delivery.packet.streamIndex = file.audioIdx := by
  constructor
  · intro filled
    by_contra neither
    obtain ⟨video, audio⟩ := not_or.mp neither
    have next : nextFrame file (some delivery) memory = _ := nextFrame_other video audio
    exact neither (filled _ next).media
  · rintro (video | audio)
    · exact nextFrame_video video
    · exact nextFrame_audio audio

end Filling

/-! ## Runs -/

section Runs

variable {file : MediaFile} {basetime : Clock}

/-- A round pushes the next frame, if there is one. -/
theorem framesPushed_round {s after : FillState} {output : List FillOutput}
    {read : Option PacketRead} {memory : Allocation} {unset : Timeval}
    (taken : (readMachine file basetime).step s (.round read memory unset) = .ok (after, output)) :
    framesPushed output = (nextFrame file read memory).toList := by
  simp only [readMachine, ReadOp.fillOp] at taken
  cases next : nextFrame file read memory with
  | none =>
      rw [next, fillStep] at taken
      split at taken
      · cases taken
      · cases taken
        rfl
  | some frame =>
      rw [next, fillStep] at taken
      split at taken
      · cases taken
      · cases taken
        rfl

/-- A step pushes filled frames only, exactly when it reads no packet of another stream. -/
theorem readStep_pushesFilled_iff {s after : FillState} {op : ReadOp} {output : List FillOutput}
    (taken : (readMachine file basetime).step s op = .ok (after, output)) :
    PushesFilled file s op after output ↔ ReadsMedia file s op := by
  cases op with
  | pullEvent =>
      cases taken
      exact iff_of_true (fun frame none => nomatch none) trivial
  | round read memory unset =>
      have pushes := framesPushed_round taken
      cases read with
      | none =>
          refine iff_of_true (fun frame pushed => ?_) trivial
          rw [pushes] at pushed
          cases pushed
      | some delivery =>
          refine Iff.trans ?_ (@nextFrame_filled_iff file delivery memory)
          rw [PushesFilled, pushes]
          constructor
          · intro filled frame next
            obtain ⟨other, _, _, same, from_⟩ := filled frame (Option.mem_toList.mpr next)
            cases same
            exact from_
          · intro filled frame pushed
            exact ⟨delivery, memory, unset, rfl, filled frame (Option.mem_toList.mp pushed)⟩

/-- In every run, whatever `malloc` returns and libav delivers: each frame pushed is filled from the
packet which was read, and is of the kind of its stream, if and only if every packet is of the video
or of the audio stream. -/
theorem pushesFilled_iff {trace : List (Entry FillState ReadOp FillOutput)} {s : FillState}
    (run : (readMachine file basetime).Runs trace s) :
    (readMachine file basetime).EveryStep (PushesFilled file) trace ↔
      ∀ entry ∈ trace, ReadsMedia file entry.before entry.input := by
  apply run.everyStep_iff fun _ => True
  · exact fun _ _ => trivial
  · exact fun _ _ => trivial
  · intro before op after output _ taken
    exact readStep_pushesFilled_iff taken

end Runs

/-- A file with these streams, all in the time base of 25 frames a second. -/
def fileOf (streams : List CodecType) : MediaFile :=
  ⟨streams, fun _ pts => (pts * 3600).toNat.toUInt32⟩

/-- A packet of one byte of this stream is read; `malloc` returns a frame which was used before. -/
def readsPacket (streamIndex : Nat) (pts : Int) : ReadOp :=
  .round (some ⟨⟨streamIndex, [0x41], pts⟩, .encoded [0xd5]⟩) ⟨frameAt 900000, fun _ => 0⟩ ⟨0, 0⟩

instance (file : MediaFile) (s : FillState) : DecidablePred (ReadsMedia file s)
  | .round (some _) _ _ => inferInstanceAs (Decidable (_ ∨ _))
  | .round none _ _ | .pullEvent => .isTrue trivial

/-- A file of two streams: its packets become a video and an audio frame. -/
theorem pushesFilled_iff_twoStreams : ∃ result,
    (readMachine (fileOf [.video, .audio]) someBase).exec [] ⟨[], none, false⟩
        [readsPacket 0 0, readsPacket 1 1] = .ok result ∧
      (framesPushed (Machine.outputs result.1)).map (fun frame =>
        (frame.copy 0 frame.size, frame.timestamp, frame.frametype)) =
          [([0x41], 0, .video), ([0xd5], 3600, .audio)] ∧
      (readMachine (fileOf [.video, .audio]) someBase).EveryStep
        (PushesFilled (fileOf [.video, .audio])) result.1 := by
  obtain ⟨result, computed, media, frames⟩ : ∃ result,
      (readMachine (fileOf [.video, .audio]) someBase).exec [] ⟨[], none, false⟩
          [readsPacket 0 0, readsPacket 1 1] = .ok result ∧
        (∀ entry ∈ result.1, ReadsMedia (fileOf [.video, .audio]) entry.before entry.input) ∧
        (framesPushed (Machine.outputs result.1)).map (fun frame =>
          (frame.copy 0 frame.size, frame.timestamp, frame.frametype)) =
            [([0x41], 0, .video), ([0xd5], 3600, .audio)] :=
    ⟨_, rfl, by decide, by decide⟩
  exact ⟨result, computed, frames, (pushesFilled_iff (Machine.Runs.of_exec rfl computed)).mpr media⟩

/-- A packet of a third stream is pushed as an audio frame, with what the memory held. -/
theorem pushesFilled_not_always : ¬ ∀ file basetime trace s,
    (readMachine file basetime).Runs trace s →
      (readMachine file basetime).EveryStep (PushesFilled file) trace := by
  intro all
  obtain ⟨result, computed, entry, member, frame, pushed, type, read⟩ : ∃ result,
      (readMachine (fileOf [.video, .audio, .other]) someBase).exec [] ⟨[], none, false⟩
          [readsPacket 2 0] = .ok result ∧
        ∃ entry ∈ result.1, ∃ frame ∈ framesPushed entry.output,
          frame.frametype = .audio ∧ entry.input = readsPacket 2 0 :=
    ⟨_, rfl, _, List.mem_cons_self, _, List.mem_cons_self, rfl, rfl⟩
  have run := Machine.Runs.of_exec
    (rfl : (readMachine (fileOf [.video, .audio, .other]) someBase).Initial _) computed
  obtain ⟨after, taken⟩ := run.taken member
  obtain ⟨delivery, memory, unset, same, filled⟩ :=
    all _ someBase _ _ run entry member after taken frame pushed
  cases read.symm.trans same
  exact absurd (filled.audio.mp type) (by decide)

end Http2Rtsp.Pacing
