import Http2Rtsp.Std.Bytes

/-!
# Buffers and byte sinks

The constants of `socketfunc.h` and the write loop of `fileio.c`. What the
kernel answers to the successive calls of one loop is an argument of the model.
-/

namespace Http2Rtsp

open Http2Rtsp.Std

/-- `BUFSIZE`. -/
def bufSize : Nat := 64000

/-- The answer to one call of `write` on a non-empty buffer. -/
inductive WriteResult where
  /-- `accepted n` takes `n + 1` bytes, or all when fewer are offered. -/
  | accepted (n : Nat)
  /-- Failure with `EINTR`. -/
  | interrupted
  /-- Any other failure. -/
  | failed
deriving DecidableEq

/-- `writestr`: the bytes which reach the file and the value returned. When the answers run out,
the next call takes all that is left. -/
def writestr : List WriteResult → List UInt8 → List UInt8 × Int
  | [], left => (left, left.length)
  | result :: results, left =>
      if left = [] then ([], 0) else
        match result with
        | .accepted n =>
            let rest := writestr results (left.drop (n + 1))
            (left.take (n + 1) ++ rest.1,
              if rest.2 = -1 then -1 else rest.2 + (left.take (n + 1)).length)
        | .interrupted => writestr results left
        | .failed => ([], -1)

/-- A write loop which meets no failure but interruptions stores the whole buffer. -/
theorem writestr_of_not_failed {results : List WriteResult} {left : List UInt8}
    (works : WriteResult.failed ∉ results) : (writestr results left).1 = left := by
  induction results generalizing left with
  | nil => rfl
  | cons result results ih =>
      have later : WriteResult.failed ∉ results := fun member =>
        works (List.mem_cons_of_mem _ member)
      unfold writestr
      split
      · rename_i empty
        exact empty.symm
      · cases result with
        | accepted n => simp [ih later]
        | interrupted => exact ih later
        | failed => exact absurd List.mem_cons_self works

end Http2Rtsp
