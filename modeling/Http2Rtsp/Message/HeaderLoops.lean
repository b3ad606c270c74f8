import Http2Rtsp.Message.Sip
import Http2Rtsp.Std.LineLoop

/-!
# The loops of the two parsers

`parse_rtsp` and `parsesipmsg` walk over the lines of a header block with the same pointer steps and
differ in what they make of a line. Both are loops over lines, so what their pointer does is what it
does in every such loop.
-/

namespace Http2Rtsp.Message

open Http2Rtsp.Std

/-- The loop of `parse_rtsp`. -/
def rtspLoop : LineLoop RTSPMsg where
  start temp msg :=
    (requestType temp).map fun type => { msg with type := type, fields := msg.fields ||| fType }
  header := rtspHeader

/-- The loop of `parsesipmsg`. -/
def sipLoop : LineLoop SIPMsg where
  start temp msg :=
    (sipMessageType temp).map fun type => { msg with type := type, fields := msg.fields ||| sipType }
  header := sipHeader

/-- What `parse_rtsp` returns behind its loop. -/
def rtspResult : LoopEnd RTSPMsg → Except Undefined (Int × RTSPMsg)
  | .finished msg _ | .outOfSteps msg _ => .ok (1, msg)
  | .rejected msg => .ok (-1, msg)
  | .failed reason => .error reason
  | .noLineEnd => .error .nullPointer

/-- What `parsesipmsg` goes on with behind its loop. -/
def sipResult : LoopEnd SIPMsg → Except Undefined (Option (SIPMsg × List UInt8))
  | .finished msg temp | .outOfSteps msg temp => .ok (some (msg, temp))
  | .rejected _ => .ok none
  | .failed reason => .error reason
  | .noLineEnd => .error .nullPointer

/-- The loop of the model of `parse_rtsp` is this one. -/
theorem rtspLines_eq_run (stop : List UInt8) (steps : Nat) (temp : List UInt8) (typeflag : Bool)
    (msg : RTSPMsg) : rtspLines stop steps temp typeflag msg =
      rtspResult (rtspLoop.run stop steps temp typeflag msg).2 := by
  apply rtspLoop.eq_run stop (fun _ => rfl) (fun _ _ => rfl) (fun _ _ _ => rfl)
  intro steps temp typeflag msg
  rw [rtspLines]
  split
  · simp only [rtspLoop]
    split
    · rename_i rejected
      rw [rejected]
      rfl
    · rename_i started
      rw [started]
      rfl
  · rfl

/-- So is that of the model of `parsesipmsg`. -/
theorem sipLines_eq_run (stop : List UInt8) (steps : Nat) (temp : List UInt8) (typeflag : Bool)
    (msg : SIPMsg) : sipLines stop steps temp typeflag msg =
      sipResult (sipLoop.run stop steps temp typeflag msg).2 := by
  apply sipLoop.eq_run stop (fun _ => rfl) (fun _ _ => rfl) (fun _ _ _ => rfl)
  intro steps temp typeflag msg
  rw [sipLines]
  split
  · simp only [sipLoop]
    split
    · rename_i rejected
      rw [rejected]
      rfl
    · rename_i started
      rw [started]
      rfl
  · rfl

/-- `parse_rtsp` is its loop and the value returned behind it. -/
theorem parseRtsp_eq_over (buffer : List UInt8) :
    parseRtsp buffer = rtspResult (rtspLoop.over buffer RTSPMsg.zero).2 := by
  rw [parseRtsp, LineLoop.over]
  cases strstr buffer crlfcrlf with
  | none => rfl
  | some stop => exact rtspLines_eq_run ..

/-- `parsesipmsg` is its loop and the search for the port behind it. -/
theorem parsesipmsg_eq_over (buffer : List UInt8) :
    parsesipmsg buffer = (do
      match ← sipResult (sipLoop.over buffer SIPMsg.zero).2 with
      | none => .ok (-1, SIPMsg.zero)
      | some (msg, temp) => do
          let msg ← sipPort msg temp
          .ok (0, msg)) := by
  rw [parsesipmsg, LineLoop.over]
  cases strstr buffer crlfcrlf with
  | none =>
      have noPort : sipPort SIPMsg.zero buffer = .ok SIPMsg.zero := by simp [sipPort, SIPMsg.zero]
      simp [sipResult, noPort, bind, Except.bind]
  | some stop =>
      have lines := sipLines_eq_run stop buffer.length buffer false SIPMsg.zero
      exact lines ▸ rfl

/-- Both loops visit the header lines in order and stop behind them. -/
theorem headerLoops_visit (buffer : List UInt8) :
    VisitsLines buffer (rtspLoop.over buffer RTSPMsg.zero).1 (rtspLoop.over buffer RTSPMsg.zero).2 ∧
      VisitsLines buffer (sipLoop.over buffer SIPMsg.zero).1 (sipLoop.over buffer SIPMsg.zero).2 :=
  ⟨rtspLoop.visits buffer RTSPMsg.zero, sipLoop.visits buffer SIPMsg.zero⟩

/-- A text which begins with the blank line: the loop is not entered, and its pointer stays in front
of it. -/
theorem rtspLoop_not_behind_blank : ¬ ∀ (buffer stop temp : List UInt8) (msg : RTSPMsg),
    0 ∉ buffer → strstr buffer crlfcrlf = some stop →
      (rtspLoop.over buffer RTSPMsg.zero).2 = .finished msg temp → temp = stop.drop 2 := by
  intro always
  have moved := always crlfcrlf crlfcrlf crlfcrlf RTSPMsg.zero (by decide) rfl rfl
  cases moved

end Http2Rtsp.Message
