import Http2Rtsp.Message.Writer
import Http2Rtsp.Sockets

/-!
# The log

`write_log` builds a line in an array of 256 bytes on its stack and hands it to
`writestr`. Nothing keeps the message from being longer than what is left of the
array behind the time and the process number; `resolve_host` logs the name of
the host it is given.
-/

namespace Http2Rtsp

open Http2Rtsp.Std Http2Rtsp.Message

/-- `LOGBUFSIZE`. -/
def logBufSize : Nat := 256

/-- `array[index] = byte`. -/
def storeByte (array : List UInt8) (index : Nat) (byte : UInt8) : Except Undefined (List UInt8) :=
  if index < array.length then .ok (array.set index byte) else .error .overflow

/-- `write_log` up to the string in `logbuf`. `timestr` is what `ctime_r` stores, `message` what the
format expands to. -/
def logLine (timestr : List UInt8) (pid : Int) (message : List UInt8) :
    Except Undefined (List UInt8) := do
  let timelength := timestr.length
  match timestr.idxOf? 10 with
  | none => .error .nullPointer
  | some temp => do
      let timestr := timestr.set temp 93
      let logbuf ← storeByte (List.replicate logBufSize 0) 0 91
      let w ← Writer.sprintf ⟨logbuf, 1⟩ timestr
      let logbuf ← storeByte w.buffer (timelength + 1) 32
      let w ← Writer.sprintf ⟨logbuf, timelength + 2⟩ (decimal pid ++ ascii " - ")
      let w ← w.advance
      let w ← w.sprintf message
      let length ← strlen w.buffer
      .ok (w.buffer.take length)

/-- `write_log` on a file, with the answers of the calls of `write`. -/
def writeLog (file : List UInt8) (answers : List WriteResult) (timestr : List UInt8) (pid : Int)
    (message : List UInt8) : Except Undefined (List UInt8) := do
  let line ← logLine timestr pid message
  .ok (file ++ (writestr answers line).1)

/-- What `resolve_host` logs. For a host which is `NULL` the C library writes this. -/
def resolveMessage (hostname : Option (List UInt8)) (port : List UInt8) : List UInt8 :=
  ascii "Resolving " ++ hostname.getD (ascii "(null)") ++ ascii " port " ++ port ++ ascii "...\n"

/-! ## The line -/

/-- What `ctime_r` stores: a date without line end, and a line end. -/
structure IsCtime (timestr date : List UInt8) : Prop where
  text : timestr = date ++ [10]
  size : date.length = 24
  oneLine : 10 ∉ date
  noNul : 0 ∉ date

/-- The line as it is meant. -/
def stampedLine (date : List UInt8) (pid : Int) (message : List UInt8) : List UInt8 :=
  ascii "[" ++ date ++ ascii "] " ++ (decimal pid ++ ascii " - ") ++ message

/-- A text with zeros behind it, in an array of a fixed size. -/
def padded (size : Nat) (text : List UInt8) : List UInt8 :=
  text ++ List.replicate (size - text.length) 0

/-- What `sprintf` stores behind a text, when it fits. -/
theorem sprintf_padded {size : Nat} {front piece : List UInt8} (inside : front.length ≤ size) :
    Writer.sprintf ⟨padded size front, front.length⟩ piece =
      if front.length + piece.length < size then
        .ok ⟨padded size (front ++ piece), front.length⟩
      else .error .overflow := by
  have length : (padded size front).length = size := by
    rw [padded, List.length_append, List.length_replicate]
    omega
  unfold Writer.sprintf
  simp only [length]
  by_cases fits : front.length + piece.length < size
  · rw [if_pos fits, if_pos fits]
    have before : (padded size front).take front.length = front := List.take_left
    have behind : (0 : UInt8) :: (padded size front).drop (front.length + piece.length + 1) =
        List.replicate (size - (front ++ piece).length) 0 := by
      rw [padded, Nat.add_assoc, List.drop_length_add_append, List.drop_replicate, ← List.replicate_succ]
      congr 1
      rw [List.length_append]
      omega
    rw [before, behind]
    rfl
  · rw [if_neg fits, if_neg fits]

/-- A byte stored right behind a text. -/
theorem storeByte_padded {size : Nat} {front : List UInt8} (byte : UInt8) (inside : front.length < size) :
    storeByte (padded size front) front.length byte = .ok (padded size (front ++ [byte])) := by
  have length : (padded size front).length = size := by
    rw [padded, List.length_append, List.length_replicate]
    omega
  have zeros : List.replicate (size - front.length) (0 : UInt8) =
      0 :: List.replicate (size - (front ++ [byte]).length) 0 := by
    rw [← List.replicate_succ]
    congr 1
    rw [List.length_append, List.length_singleton]
    omega
  rw [storeByte, if_pos (by rw [length]; exact inside), padded, zeros, List.set_append_right _ _ le_rfl,
    Nat.sub_self, List.set_cons_zero, padded, List.append_assoc, List.singleton_append]

/-- The string behind a pointer into a text ends where the text does. -/
theorem strlen_drop_padded {size : Nat} {front text : List UInt8} (noNul : 0 ∉ text)
    (fits : front.length + text.length < size) :
    strlen ((padded size (front ++ text)).drop front.length) = .ok text.length := by
  rw [padded, List.append_assoc, List.drop_left]
  refine strlen_zeros noNul ?_
  rw [List.length_append]
  omega

theorem strlen_padded {size : Nat} {text : List UInt8} (noNul : 0 ∉ text) (fits : text.length < size) :
    strlen (padded size text) = .ok text.length :=
  strlen_zeros noNul (by omega)

/-- The pointer moves behind the text it points at. -/
theorem advance_padded {size : Nat} {front text : List UInt8} (noNul : 0 ∉ text)
    (fits : front.length + text.length < size) :
    Writer.advance ⟨padded size (front ++ text), front.length⟩ =
      .ok ⟨padded size (front ++ text), (front ++ text).length⟩ := by
  simp only [Writer.advance, strlen_drop_padded noNul fits, bind, Except.bind, List.length_append]

/-- The line end of a date. -/
theorem idxOf_lineEnd {date : List UInt8} (oneLine : 10 ∉ date) :
    (date ++ [10]).idxOf? 10 = some date.length := by
  induction date with
  | nil => rfl
  | cons byte rest ih =>
      have other : (byte == 10) = false :=
        beq_false_of_ne fun same => oneLine (same ▸ List.mem_cons_self)
      rw [List.cons_append, List.idxOf?_cons, other, ih fun later => oneLine (List.mem_cons_of_mem _ later)]
      rfl

/-- The line is built as it is meant, exactly when it is shorter than the array. -/
theorem logLine_eq {timestr date : List UInt8} (stamp : IsCtime timestr date) (pid : Int)
    {message : List UInt8} (noNul : 0 ∉ message) :
    logLine timestr pid message =
      if (stampedLine date pid message).length < logBufSize then .ok (stampedLine date pid message)
      else .error .overflow := by
  obtain ⟨rfl, dateSize, oneLine, dateNoNul⟩ := stamp
  have replaced : (date ++ [(10 : UInt8)]).set date.length 93 = date ++ [93] := by
    rw [List.set_append_right _ _ le_rfl, Nat.sub_self]
    rfl
  have big : 30 ≤ logBufSize := by decide
  unfold logLine
  generalize logBufSize = size at big ⊢
  -- The texts in front of the pointer.
  let time : List UInt8 := [91] ++ (date ++ [93])
  let stamped := time ++ [32]
  obtain ⟨process, written⟩ : ∃ process, decimal pid ++ ascii " - " = process := ⟨_, rfl⟩
  have timeSize : time.length = (date ++ [(10 : UInt8)]).length + 1 := by simp [time]
  have stampedSize : stamped.length = (date ++ [(10 : UInt8)]).length + 2 := by simp [stamped, time]
  have whole : stampedLine date pid message = stamped ++ process ++ message := by
    rw [stampedLine, written]
    simp [stamped, time, ascii]
  have processNoNul : 0 ∉ process := by
    rw [← written]
    exact fun member => (List.mem_append.mp member).elim (decimal_noNul pid) (by decide)
  have wholeNoNul : 0 ∉ stamped ++ process ++ message := by
    simp only [List.mem_append, not_or]
    exact ⟨⟨by simp [stamped, time, dateNoNul], processNoNul⟩, noNul⟩
  have opened : storeByte (List.replicate size 0) 0 91 = .ok (padded size [91]) := by
    have empty : List.replicate size (0 : UInt8) = padded size [] := by simp [padded]
    rw [empty]
    exact @storeByte_padded size [] 91 (by simp; omega)
  have dated : Writer.sprintf ⟨padded size [91], 1⟩ (date ++ [93]) = .ok ⟨padded size time, 1⟩ := by
    have stored := @sprintf_padded size [91] (date ++ [93]) (by simp; omega)
    rwa [if_pos (by simp [dateSize]; omega)] at stored
  have spaced : storeByte (padded size time) ((date ++ [(10 : UInt8)]).length + 1) 32 =
      .ok (padded size stamped) := by
    rw [← timeSize]
    exact storeByte_padded 32 (by simp [time, dateSize]; omega)
  have numbered := @sprintf_padded size stamped process (by simp [stamped, time, dateSize]; omega)
  rw [stampedSize] at numbered
  simp only [idxOf_lineEnd oneLine, replaced, opened, dated, spaced, bind, Except.bind, written]
  rw [whole]
  by_cases room : stamped.length + process.length < size
  · have stored := @sprintf_padded size (stamped ++ process) message (by
      rw [List.length_append]; omega)
    rw [← stampedSize, if_pos room] at numbered
    rw [← stampedSize]
    simp only [numbered, advance_padded processNoNul room, stored]
    have behind : (stamped ++ process ++ message).length = (stamped ++ process).length + message.length :=
      List.length_append
    rw [behind]
    by_cases fits : (stamped ++ process).length + message.length < size
    · rw [if_pos fits, if_pos fits]
      have measured := strlen_padded wholeNoNul (by rw [List.length_append]; exact fits)
      simp only [measured]
      rw [padded, List.take_left]
    · rw [if_neg fits, if_neg fits]
  · rw [← stampedSize, if_neg room] at numbered
    rw [← stampedSize]
    simp only [numbered]
    rw [if_neg]
    simp only [List.length_append]
    omega

end Http2Rtsp
