import Http2Rtsp.Sockets
import Http2Rtsp.Std.Transfer

/-!
# Short writes

`send_all`, `Sendto_all` and `writestr` hand a buffer to the kernel in as many calls as it takes. They
keep their place in different variables and treat failures differently; behind that they are the same
transfer, so what is lost or repeated is decided once. Only the value `writestr` returns is not what
its caller expects, when the length does not fit an `int`.
-/

namespace Http2Rtsp

open Http2Rtsp.Std

/-- A call of `send`, `sendto` or `write`. -/
abbrev WriteCall := Call UInt8 WriteResult

/-- `send_all` and `Sendto_all` give up at every failure. -/
def sendReaction : WriteResult → Reaction
  | .accepted n => .take n
  | .interrupted | .failed => .stop

/-- `writestr` tries again after `EINTR`. -/
def writeReaction : WriteResult → Reaction
  | .accepted n => .take n
  | .interrupted => .again
  | .failed => .stop

/-- The value a call returns for an accepted part of what it is offered. -/
def acceptedSize (n : Nat) (offered : List UInt8) : Nat := min (n + 1) offered.length

/-- The answers behind the first one. -/
def nextAnswers (answers : Nat → WriteResult) : Nat → WriteResult := fun k => answers (k + 1)

/-! ## The loops -/

/-- The loop of `send_all`, with its variables. `size` is an `int`. -/
def sendAllLoop (buf : List UInt8) (size : Nat) :
    Nat → (Nat → WriteResult) → Nat → Nat → Int → Option (List WriteCall × Int)
  | 0, _, _, _, _ => none
  | steps + 1, answers, sent, left, n =>
      if sent < size then
        let call : WriteCall := ⟨(buf.drop sent).take left, answers 0⟩
        match answers 0 with
        | .accepted k =>
            let n := acceptedSize k call.offered
            (sendAllLoop buf size steps (nextAnswers answers) (sent + n) (left - n) n).map
              fun later => (call :: later.1, later.2)
        -- `n` is -1, and the loop is left.
        | .interrupted | .failed => some ([call], -1)
      else some ([], if n = -1 then -1 else sent)

/-- `send_all`. `unset` is what `n` holds before it is assigned. -/
def sendAll (buf : List UInt8) (unset : Int) (steps : Nat) (answers : Nat → WriteResult) :
    Option (List WriteCall × Int) :=
  sendAllLoop buf buf.length steps answers 0 buf.length unset

/-- How `Sendto_all` ends. -/
inductive SendtoEnd where
  | returned (value : Int)
  /-- By `exit(1)`. -/
  | exited
deriving DecidableEq

/-- The loop of `Sendto_all`. -/
def sendtoAllLoop (buf : List UInt8) (buflen : Nat) :
    Nat → (Nat → WriteResult) → Nat → Nat → Option (List WriteCall × SendtoEnd)
  | 0, _, _, _ => none
  | steps + 1, answers, sent, left =>
      if sent < buflen then
        let call : WriteCall := ⟨(buf.drop sent).take left, answers 0⟩
        match answers 0 with
        | .accepted k =>
            let temp := acceptedSize k call.offered
            (sendtoAllLoop buf buflen steps (nextAnswers answers) (sent + temp) (left - temp)).map
              fun later => (call :: later.1, later.2)
        | .interrupted | .failed => some ([call], .exited)
      else some ([], .returned sent)

/-- `Sendto_all`. -/
def sendtoAll (buf : List UInt8) (steps : Nat) (answers : Nat → WriteResult) :
    Option (List WriteCall × SendtoEnd) :=
  sendtoAllLoop buf buf.length steps answers 0 buf.length

/-- The loop of `writestr`. `ptr` is the string from the pointer on; the `size_t` returned is converted
to an `int`. -/
def writestrLoop (length : Nat) :
    Nat → (Nat → WriteResult) → List UInt8 → Nat → Option (List WriteCall × Int)
  | 0, _, _, _ => none
  | steps + 1, answers, ptr, nleft =>
      if 0 < nleft then
        let call : WriteCall := ⟨ptr.take nleft, answers 0⟩
        let onward nwritten :=
          (writestrLoop length steps (nextAnswers answers) (ptr.drop nwritten) (nleft - nwritten)).map
            fun later => (call :: later.1, later.2)
        match answers 0 with
        | .accepted k => onward (acceptedSize k call.offered)
        | .interrupted => onward 0
        | .failed => some ([call], -1)
      else some ([], toInt32 length)

/-- `writestr`, call by call. -/
def writestrCalls (str : List UInt8) (steps : Nat) (answers : Nat → WriteResult) :
    Option (List WriteCall × Int) :=
  writestrLoop str.length steps answers str str.length

/-! ## What is expected of them -/

/-- `send_all` ends; what the kernel accepts begins the buffer, the length is returned exactly when
that is all of it, and -1 exactly when a call fails. -/
def SendsAll (buf : List UInt8) (unset : Int) (answers : Nat → WriteResult) : Prop :=
  ∃ steps calls value, sendAll buf unset steps answers = some (calls, value) ∧
    delivered sendReaction calls <+: buf ∧
    (value = buf.length ↔ delivered sendReaction calls = buf) ∧
    (value = -1 ↔ ∃ call ∈ calls, call.answer = .failed ∨ call.answer = .interrupted)

/-- `Sendto_all` ends; it returns the length when all of the buffer was accepted, and exits when a call
fails. -/
def SendsAllTo (buf : List UInt8) (answers : Nat → WriteResult) : Prop :=
  ∃ steps calls ended, sendtoAll buf steps answers = some (calls, ended) ∧
    delivered sendReaction calls <+: buf ∧
    (ended = .returned buf.length ∨ ended = .exited) ∧
    (ended = .returned buf.length ↔ delivered sendReaction calls = buf) ∧
    (ended = .exited ↔ ∃ call ∈ calls, call.answer = .failed ∨ call.answer = .interrupted)

/-- The same of `writestr`, which only fails when a call does with another error than `EINTR`. -/
def WritesStr (str : List UInt8) (answers : Nat → WriteResult) : Prop :=
  ∃ steps calls value, writestrCalls str steps answers = some (calls, value) ∧
    delivered writeReaction calls <+: str ∧
    (value = str.length ↔ delivered writeReaction calls = str) ∧
    (value = -1 ↔ ∃ call ∈ calls, call.answer = .failed)

/-! ## The loops as transfers -/

/-- What is left behind an accepted part. -/
theorem drop_acceptedSize (n : Nat) (offered : List UInt8) :
    offered.drop (acceptedSize n offered) = offered.drop (n + 1) := by
  rcases Nat.le_total (n + 1) offered.length with within | beyond
  · rw [acceptedSize, Nat.min_eq_left within]
  · rw [acceptedSize, Nat.min_eq_right beyond, List.drop_length, List.drop_eq_nil_of_le beyond]

section Loops

variable {buf : List UInt8} {sent left : Nat}

/-- `sent` and `left` tell the same place in the buffer. -/
theorem offered_eq (place : sent + left = buf.length) : (buf.drop sent).take left = buf.drop sent :=
  List.take_of_length_le (by rw [List.length_drop]; omega)

/-- They still do behind an accepted part. -/
theorem place_next (place : sent + left = buf.length) (n : Nat) :
    sent + acceptedSize n (buf.drop sent) + (left - acceptedSize n (buf.drop sent)) = buf.length ∧
      buf.drop (sent + acceptedSize n (buf.drop sent)) = (buf.drop sent).drop (n + 1) := by
  constructor
  · rw [acceptedSize, List.length_drop]
    omega
  · rw [← List.drop_drop, drop_acceptedSize]

/-- The loop of `Sendto_all` is a transfer. -/
theorem sendtoAllLoop_eq (steps : Nat) (answers : Nat → WriteResult)
    (place : sent + left = buf.length) :
    sendtoAllLoop buf buf.length steps answers sent left =
      (transfer sendReaction steps answers (buf.drop sent)).map fun run =>
        (run.1, if run.2 then .returned buf.length else .exited) := by
  induction steps generalizing answers sent left with
  | zero => rfl
  | succ steps ih =>
      rw [sendtoAllLoop]
      split
      · rename_i before
        have nonempty : buf.drop sent ≠ [] := by
          rw [← List.length_pos_iff, List.length_drop]
          omega
        rw [transfer_of_ne_nil nonempty, offered_eq place]
        cases answer : answers 0 with
        | accepted k =>
            obtain ⟨placeNext, rest⟩ := place_next place k
            simp only [sendReaction, reduceCtorEq, if_false, Reaction.demand]
            rw [ih (nextAnswers answers) placeNext, rest, Option.map_map, Option.map_map]
            rfl
        | interrupted => simp [sendReaction]
        | failed => simp [sendReaction]
      · rename_i behind
        have whole : sent = buf.length := by omega
        rw [whole, List.drop_length]
        rfl

/-- The value `send_all` returns where `Sendto_all` ends so. -/
def SendtoEnd.value : SendtoEnd → Int
  | .returned value => value
  | .exited => -1

/-- `send_all` is `Sendto_all` with -1 for the exit, when `n` does not hold -1 behind the loop for
another reason. -/
theorem sendAllLoop_eq_sendtoAllLoop {size : Nat} {n : Int} (steps : Nat)
    (answers : Nat → WriteResult) (assigned : sent < size ∨ n ≠ -1) :
    sendAllLoop buf size steps answers sent left n =
      (sendtoAllLoop buf size steps answers sent left).map fun run => (run.1, run.2.value) := by
  induction steps generalizing answers sent left n with
  | zero => rfl
  | succ steps ih =>
      rw [sendAllLoop, sendtoAllLoop]
      split
      · cases answers 0 with
        | accepted k =>
            simp only
            rw [ih _ (Or.inr (by omega)), Option.map_map, Option.map_map]
            rfl
        | interrupted => rfl
        | failed => rfl
      · rename_i behind
        rw [if_neg (assigned.resolve_left behind)]
        rfl

/-- So the loop of `send_all` is a transfer too. -/
theorem sendAllLoop_eq {n : Int} (steps : Nat) (answers : Nat → WriteResult)
    (place : sent + left = buf.length) (assigned : sent < buf.length ∨ n ≠ -1) :
    sendAllLoop buf buf.length steps answers sent left n =
      (transfer sendReaction steps answers (buf.drop sent)).map fun run =>
        (run.1, if run.2 then (buf.length : Int) else -1) := by
  rw [sendAllLoop_eq_sendtoAllLoop steps answers assigned, sendtoAllLoop_eq steps answers place,
    Option.map_map]
  refine congrArg (Option.map · _) (funext ?_)
  rintro ⟨calls, whole⟩
  cases whole <;> rfl

end Loops

/-- And that of `writestr`, whose pointer is the rest itself. -/
theorem writestrLoop_eq (length steps : Nat) (answers : Nat → WriteResult) (ptr : List UInt8) :
    writestrLoop length steps answers ptr ptr.length =
      (transfer writeReaction steps answers ptr).map fun run =>
        (run.1, if run.2 then toInt32 length else -1) := by
  induction steps generalizing answers ptr with
  | zero => rfl
  | succ steps ih =>
      rw [writestrLoop]
      split
      · rename_i positive
        rw [transfer_of_ne_nil (List.length_pos_iff.mp positive), List.take_length]
        cases answer : answers 0 with
        | accepted k =>
            have rest : ptr.length - acceptedSize k ptr = (ptr.drop (k + 1)).length := by
              rw [← drop_acceptedSize, List.length_drop]
            simp only [writeReaction, reduceCtorEq, if_false, Reaction.demand]
            rw [rest, drop_acceptedSize, ih (nextAnswers answers), Option.map_map, Option.map_map]
            rfl
        | interrupted =>
            simp only [writeReaction, reduceCtorEq, if_false, Reaction.demand, List.drop_zero,
              Nat.sub_zero]
            rw [ih (nextAnswers answers), Option.map_map, Option.map_map]
            rfl
        | failed => simp [writeReaction]
      · rename_i zero
        obtain rfl : ptr = [] := List.length_eq_zero_iff.mp (by omega)
        simp only [transfer, Option.map_some, if_true]

/-! ## Short writes -/

theorem sendReaction_stop {answer : WriteResult} :
    sendReaction answer = .stop ↔ answer = .failed ∨ answer = .interrupted := by
  cases answer <;> simp [sendReaction]

theorem writeReaction_stop {answer : WriteResult} :
    writeReaction answer = .stop ↔ answer = .failed := by
  cases answer <;> simp [writeReaction]

/-- A loop which never tries again settles. -/
theorem sendReaction_settles (answers : Nat → WriteResult) : Settles sendReaction answers := by
  refine ⟨0, fun k _ => ?_⟩
  cases answers k <;> simp [sendReaction]

/-- A length which is an `int` is returned, and no other one is. -/
theorem toInt32_eq_length_iff (length : Nat) :
    toInt32 (length : Int) = length ↔ length < 2 ^ 31 := by
  unfold toInt32
  rw [Int.bmod_def]
  split_ifs <;> omega

section Delivery

variable {buf : List UInt8} {answers : Nat → WriteResult}

/-- `send_all` always does what is expected. -/
theorem sendAll_delivers (nonempty : buf ≠ []) (unset : Int) (answers : Nat → WriteResult) :
    SendsAll buf unset answers := by
  obtain ⟨steps, ⟨calls, whole⟩, ran⟩ := transfer_ends (sendReaction_settles answers) buf
  have run := transfer_transferred ran
  have positive := List.length_pos_iff.mpr nonempty
  refine ⟨steps, calls, if whole then (buf.length : Int) else -1, ?_, run.inOrder, ?_, ?_⟩
  · rw [sendAll, sendAllLoop_eq steps answers (Nat.zero_add _) (Or.inl positive), List.drop_zero, ran]
    rfl
  · rw [← run.whole_iff]
    cases whole <;> simp
  · simp only [← sendReaction_stop]
    rw [← run.stopped_iff]
    cases whole <;> simp

/-- So does `Sendto_all`. -/
theorem sendtoAll_delivers (buf : List UInt8) (answers : Nat → WriteResult) :
    SendsAllTo buf answers := by
  obtain ⟨steps, ⟨calls, whole⟩, ran⟩ := transfer_ends (sendReaction_settles answers) buf
  have run := transfer_transferred ran
  refine ⟨steps, calls, if whole then .returned buf.length else .exited, ?_, run.inOrder, ?_, ?_, ?_⟩
  · rw [sendtoAll, sendtoAllLoop_eq steps answers (Nat.zero_add _), List.drop_zero, ran]
    rfl
  · cases whole <;> simp
  · rw [← run.whole_iff]
    cases whole <;> simp
  · simp only [← sendReaction_stop]
    rw [← run.stopped_iff]
    cases whole <;> simp

/-- `writestr` does exactly when its length is an `int` or it fails. -/
theorem writestr_delivers_iff (settles : Settles writeReaction answers) :
    WritesStr buf answers ↔ buf.length < 2 ^ 31 ∨ GivesUp writeReaction answers buf.length := by
  have ended : ∀ {steps calls value}, writestrCalls buf steps answers = some (calls, value) →
      ∃ whole, Transferred writeReaction answers buf calls whole ∧
        value = if whole then toInt32 buf.length else -1 := by
    intro steps calls value computed
    rw [writestrCalls, writestrLoop_eq] at computed
    obtain ⟨⟨_, whole⟩, ran, same⟩ := Option.map_eq_some_iff.mp computed
    obtain ⟨rfl, rfl⟩ := Prod.mk.inj same
    exact ⟨whole, transfer_transferred ran, rfl⟩
  constructor
  · rintro ⟨steps, calls, value, computed, -, length_iff, -⟩
    obtain ⟨whole, run, rfl⟩ := ended computed
    cases whole with
    | false => exact Or.inr (run.givesUp_iff.mp rfl)
    | true =>
        rw [if_pos rfl, toInt32_eq_length_iff] at length_iff
        exact Or.inl (length_iff.mpr (run.whole_iff.mp rfl))
  · intro condition
    obtain ⟨steps, ⟨calls, whole⟩, ran⟩ := transfer_ends settles buf
    have run := transfer_transferred ran
    have computed : writestrCalls buf steps answers =
        some (calls, if whole then toInt32 buf.length else -1) := by
      rw [writestrCalls, writestrLoop_eq, ran]
      simp only [Option.map_some]
    have returned : whole = true → toInt32 buf.length = buf.length := by
      rintro rfl
      have short := condition.resolve_right fun givesUp => nomatch run.givesUp_iff.mpr givesUp
      exact (toInt32_eq_length_iff _).mpr short
    refine ⟨steps, calls, _, computed, run.inOrder, ?_, ?_⟩
    · rw [← run.whole_iff]
      cases whole with
      | false => simp
      | true => simpa using returned rfl
    · simp only [← writeReaction_stop]
      rw [← run.stopped_iff]
      cases whole with
      | false => simp
      | true =>
          rw [if_pos rfl, returned rfl]
          simp

/-- Short writes lose and repeat nothing. `send_all` and `Sendto_all` report what became of the
buffer; `writestr` does exactly when the length is an `int` or a call makes it give up. -/
theorem shortWrites_reported (nonempty : buf ≠ []) (unset : Int)
    (settles : Settles writeReaction answers) :
    SendsAll buf unset answers ∧ SendsAllTo buf answers ∧
      (WritesStr buf answers ↔
        buf.length < 2 ^ 31 ∨ GivesUp writeReaction answers buf.length) :=
  ⟨sendAll_delivers nonempty unset answers, sendtoAll_delivers buf answers,
    writestr_delivers_iff settles⟩

end Delivery

/-- Every call takes one byte, but the second is interrupted. -/
def byteThenInterrupt (k : Nat) : WriteResult := if k = 1 then .interrupted else .accepted 0

/-- All three report what became of three bytes. -/
theorem shortWrites_reported_threeBytes :
    SendsAll [1, 2, 3] 0 byteThenInterrupt ∧ SendsAllTo [1, 2, 3] byteThenInterrupt ∧
      WritesStr [1, 2, 3] byteThenInterrupt := by
  have settles : Settles writeReaction byteThenInterrupt := by
    refine ⟨2, fun k from_ => ?_⟩
    have later : k ≠ 1 := by omega
    simp [byteThenInterrupt, later, writeReaction]
  obtain ⟨sends, sendsTo, writes⟩ := @shortWrites_reported [1, 2, 3] byteThenInterrupt (by simp) 0 settles
  exact ⟨sends, sendsTo, writes.mpr (Or.inl (by decide))⟩

/-- A buffer of 2 GiB is written, and its length is not what `writestr` returns. -/
theorem writesStr_not_always : ¬ ∀ (str : List UInt8) (answers : Nat → WriteResult), str ≠ [] →
    Settles writeReaction answers → WritesStr str answers := by
  intro always
  let answers : Nat → WriteResult := fun _ => .accepted (2 ^ 31)
  have settles : Settles writeReaction answers := ⟨0, fun _ _ => nofun⟩
  have size : (List.replicate (2 ^ 31) (0 : UInt8)).length = 2 ^ 31 := List.length_replicate
  have nonempty : List.replicate (2 ^ 31) (0 : UInt8) ≠ [] :=
    List.ne_nil_of_length_pos (by rw [size]; exact Nat.two_pow_pos 31)
  rcases (writestr_delivers_iff settles).mp (always _ answers nonempty settles) with short | givesUp
  · rw [size] at short
    exact lt_irrefl _ short
  · obtain ⟨k, stops, -⟩ := givesUp
    cases stops

/-! ## The servers' writes -/

/-- The answers of a list; behind it the next call takes all that is left. -/
def answersOf (results : List WriteResult) (bound : Nat) : Nat → WriteResult :=
  fun k => results.getD k (.accepted bound)

/-- What is written with these answers, as a transfer. -/
theorem transfer_answersOf (results : List WriteResult) {bound : Nat} {left : List UInt8}
    (enough : left.length ≤ bound) : ∃ steps calls whole,
      transfer writeReaction steps (answersOf results bound) left = some (calls, whole) ∧
        delivered writeReaction calls = (writestr results left).1 ∧
        (writestr results left).2 = if whole then (left.length : Int) else -1 := by
  induction results generalizing left with
  | nil =>
      by_cases empty : left = []
      · subst empty
        exact ⟨1, [], true, rfl, rfl, rfl⟩
      · have rest : left.drop (bound + 1) = [] := List.drop_eq_nil_of_le (by omega)
        have whole : left.take (bound + 1) = left := List.take_of_length_le (by omega)
        refine ⟨2, [⟨left, .accepted bound⟩], true, ?_, ?_, rfl⟩
        · rw [transfer_of_ne_nil empty]
          simp [answersOf, writeReaction, Reaction.demand, rest, transfer]
        · simp [writestr, writeReaction, Reaction.demand, whole]
  | cons result results ih =>
      by_cases empty : left = []
      · subst empty
        exact ⟨1, [], true, rfl, rfl, rfl⟩
      · have step : ∀ steps,
            transfer writeReaction (steps + 1) (answersOf (result :: results) bound) left =
              if writeReaction result = .stop then some ([⟨left, result⟩], false) else
                (transfer writeReaction steps (answersOf results bound)
                  (left.drop (writeReaction result).demand)).map fun later =>
                    (⟨left, result⟩ :: later.1, later.2) := fun steps =>
          transfer_of_ne_nil empty steps _
        cases result with
        | failed =>
            simp only [writestr, if_neg empty]
            exact ⟨1, _, false, step 0, by simp [writeReaction, Reaction.demand], rfl⟩
        | interrupted =>
            simp only [writestr, if_neg empty]
            obtain ⟨steps, calls, whole, ran, same, value⟩ := ih enough
            refine ⟨steps + 1, ⟨left, .interrupted⟩ :: calls, whole, ?_, ?_, value⟩
            · simp [step, writeReaction, Reaction.demand, ran]
            · simp [writeReaction, Reaction.demand, same]
        | accepted n =>
            simp only [writestr, if_neg empty]
            have shorter : (left.drop (n + 1)).length ≤ bound := by
              rw [List.length_drop]
              omega
            obtain ⟨steps, calls, whole, ran, same, value⟩ := ih shorter
            refine ⟨steps + 1, ⟨left, .accepted n⟩ :: calls, whole, ?_, ?_, ?_⟩
            · simp [step, writeReaction, Reaction.demand, ran]
            · simp [writeReaction, Reaction.demand, same]
            · rw [value]
              cases whole
              · simp
              · simp only [if_true, List.length_drop, List.length_take]
                split <;> omega

/-- What the servers write to the media file is what `writestr` does call by call. -/
theorem writestr_eq_calls (results : List WriteResult) {str : List UInt8}
    (short : str.length < 2 ^ 31) : ∃ steps calls,
      writestrCalls str steps (answersOf results str.length) = some (calls, (writestr results str).2) ∧
        delivered writeReaction calls = (writestr results str).1 := by
  obtain ⟨steps, calls, whole, ran, same, value⟩ := transfer_answersOf results (le_refl str.length)
  refine ⟨steps, calls, ?_, same⟩
  rw [writestrCalls, writestrLoop_eq, ran, value, (toInt32_eq_length_iff _).mpr short]
  rfl

end Http2Rtsp
