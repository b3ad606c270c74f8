import Http2Rtsp.Server.Answers

/-!
# The numbers of requests and replies

A reply should carry the `CSeq` of its request. Most replies are copies of the
request and do; the reply to a DESCRIBE takes the number from a counter in the
`Client`, which OPTIONS requests set and DESCRIBE requests count up. The module
says exactly which replies of a run carry the number of their request.
-/

namespace Http2Rtsp.Server

open Http2Rtsp.Std Http2Rtsp.Message Http2Rtsp.Semantics

/-- The request has the header `CSeq: n`. -/
def Numbered (text : List UInt8) (n : Nat) : Prop :=
  ∃ digits : Digits, headers "CSeq: " text = [digits.bytes] ∧ digits.value = n

/-- The reply contains `CSeq: n`. -/
def CarriesNumber (reply : List UInt8) (n : Nat) : Prop := decimal n ∈ headers "CSeq: " reply

/-- The condition on the state and the request: its type is known; the counter of the client is
at `n` when it is a DESCRIBE; and else `n` is an `int`. -/
def KeepsNumber (s : ServerState) (text : List UInt8) (n : Nat) : Prop :=
  match requestType text with
  | none => False
  | some .describe => s.streamclient.cseq = n
  | some _ => n < 2 ^ 31

/-- Every reply of the run to a request with a number carries that number. -/
def RepliesNumbered (trace : List (Entry ServerState Input Output)) : Prop :=
  ∀ entry ∈ trace, ∀ io text reply n, Exchange entry io text reply → Numbered text n →
    CarriesNumber reply n

/-- Every request of the run with a number which is answered meets the condition. -/
def RequestsKept (trace : List (Entry ServerState Input Output)) : Prop :=
  ∀ entry ∈ trace, ∀ io text reply n, Exchange entry io text reply → Numbered text n →
    KeepsNumber entry.before text n

/-! ## One answer -/

/-- A reply with one number carries that one. -/
theorem carriesNumber_iff {reply : List UInt8} {value : Int} {n : Nat}
    (numbers : headers "CSeq: " reply = [decimal value]) : CarriesNumber reply n ↔ value = n := by
  rw [CarriesNumber, numbers, List.mem_singleton]
  constructor
  · intro same
    exact (decimal_injective same).symm
  · rintro rfl
    rfl

/-- An answer carries the number of its request exactly under the condition. -/
theorem Exchange.carries_iff {variant : Variant} {url : List UInt8}
    {entry : Entry ServerState Input Output} {after : ServerState} {io : RtspIo}
    {text reply : List UInt8} {n : Nat} (exchange : Exchange entry io text reply)
    (taken : step variant url entry.before entry.input = .ok (after, entry.output))
    (dated : 13 ∉ io.date) (numbered : Numbered text n) :
    CarriesNumber reply n ↔ KeepsNumber entry.before text n := by
  obtain ⟨result, msg, type, parsed, received, answer⟩ := exchange.answered taken
  have numbers := answer.numbers received dated .cseq
  have sameType := answer.type_eq
  obtain ⟨digits, given, rfl⟩ := numbered
  unfold KeepsNumber
  cases known : requestType text with
  | none =>
      obtain rfl := parseRtsp_unknown parsed known
      obtain rfl : RtspMsgType.options = type := sameType
      have none_ : headers "CSeq: " reply = [] := numbers
      refine iff_of_false (fun carries => ?_) id
      rw [CarriesNumber, none_] at carries
      cases carries
  | some requested =>
      obtain ⟨typed, has, value⟩ := @parseRtsp_number .cseq _ _ _ _ _ parsed known given
      obtain rfl : requested = type := typed.symm.trans sameType
      have own : msg.numbers .cseq = [decimal (toInt32 (clampLong digits.value))] := by
        rw [RTSPMsg.numbers, if_pos has, value]
      have cseq : msg.cseq = toInt32 (clampLong digits.value) := value
      have copied : headers "CSeq: " reply = msg.numbers .cseq →
          (CarriesNumber reply digits.value ↔ digits.value < 2 ^ 31) := fun same =>
        (carriesNumber_iff (same.trans own)).trans int_of_value
      cases requested with
      | options => exact copied numbers
      | describe => exact carriesNumber_iff numbers
      | setup => exact copied numbers
      | play => exact copied numbers
      | teardown =>
          rw [cseq] at numbers
          exact (carriesNumber_iff numbers).trans int_of_value
      | ok => exact copied numbers

/-! ## Runs -/

/-- In every run, every reply carries the number of its request exactly when every request which
is answered meets the condition. -/
theorem repliesNumbered_iff {variant : Variant} {url : List UInt8}
    {trace : List (Entry ServerState Input Output)} {state : ServerState}
    (run : (machine variant url).Runs trace state) (dated : Dated trace) :
    RepliesNumbered trace ↔ RequestsKept trace := by
  refine forall_congr' fun entry => forall_congr' fun member => ?_
  obtain ⟨after, taken⟩ := run.taken member
  refine forall_congr' fun io => forall_congr' fun text => forall_congr' fun reply =>
    forall_congr' fun n => forall_congr' fun exchange => forall_congr' fun numbered => ?_
  exact exchange.carries_iff taken (dated entry member io exchange.input) numbered

/-- A DESCRIBE with the number 7. -/
def describeSeven : List UInt8 := ascii "DESCRIBE rtsp://h/v RTSP/1.0\r\nCSeq: 7\r\n\r\n"

theorem describeSeven_numbered : Numbered describeSeven 7 :=
  ⟨digitsOf 7, by decide +kernel, value_digitsOf 7⟩

/-- A client connects and sends it; the source can be reached. -/
def askSeven : List Input :=
  connect 6 ++ request 6 { RtspIo.text describeSeven with fetch := .ok (7, someResponse) }

/-- The reply to the first DESCRIBE of a server. -/
def firstDescription : List UInt8 := (rtspDescribe { initClient with state := .sdpsent } []).2

theorem firstDescription_number : headers "CSeq: " firstDescription = [decimal 0] := by
  rw [firstDescription, rtspDescribe_reply]
  exact (headers_writeRtsp (describeMsg_lined _ List.not_mem_nil) .cseq).trans
    (describeMsg_numbers _ _ .cseq)

/-- The script can be run, and its DESCRIBE gets this reply. -/
theorem askSeven_runs : ∃ result entry io,
    (machine .server someUrl).exec [] (startState .server) askSeven = .ok result ∧
    entry ∈ result.1 ∧
    entry.input = .rtsp io ∧ io.received = describeSeven ∧
    .reply 6 firstDescription ∈ entry.output :=
  ⟨_, _, _, rfl, .tail _ (.tail _ (.tail _ (.tail _ (.head _)))), rfl, rfl,
    .tail _ (.tail _ (.head _))⟩

/-- Its dates are lines. -/
theorem askSeven_dated {result : List (Entry ServerState Input Output) × ServerState}
    (computed : (machine .server someUrl).exec [] (startState .server) askSeven = .ok result) :
    Dated result.1 := by
  have inputs : result.1.map Entry.input = askSeven := Machine.exec_inputs computed
  apply dated_of_inputs
  rw [inputs]
  decide +kernel

/-- The reply does not carry the number of the request. -/
theorem askSeven_misnumbered {trace : List (Entry ServerState Input Output)}
    {entry : Entry ServerState Input Output} {io : RtspIo} (member : entry ∈ trace)
    (input : entry.input = .rtsp io) (received : io.received = describeSeven)
    (replied : .reply 6 firstDescription ∈ entry.output) : ¬ RepliesNumbered trace := by
  intro numbered
  have terminated : cString bufSize io.received = some describeSeven := by
    rw [received]
    exact cString_of_lt (by decide +kernel) (by decide +kernel)
  have nonempty : io.received ≠ [] := by
    rw [received]
    decide +kernel
  have carries := numbered entry member io describeSeven firstDescription 7
    ⟨input, terminated, nonempty, 6, replied⟩ describeSeven_numbered
  have same := (carriesNumber_iff firstDescription_number).mp carries
  cases same

/-- An OPTIONS with the number 7. -/
def optionsSeven : List UInt8 := ascii "OPTIONS * RTSP/1.0\r\nCSeq: 7\r\n\r\n"

/-- A client connects and sends it. -/
def askOptions : List Input := connect 6 ++ request 6 (RtspIo.text optionsSeven)

/-- A request has one number at most. -/
theorem Numbered.unique {text : List UInt8} {n m : Nat} (one : Numbered text n)
    (other : Numbered text m) : n = m := by
  obtain ⟨digits, given, rfl⟩ := one
  obtain ⟨digits', given', rfl⟩ := other
  have same := List.singleton_inj.mp (given.symm.trans given')
  rw [Digits.value, Digits.value, same]

/-- It is the only request of this script, and meets the condition. -/
theorem askOptions_kept {result : List (Entry ServerState Input Output) × ServerState}
    (computed : (machine .server someUrl).exec [] (startState .server) askOptions = .ok result) :
    Dated result.1 ∧ RequestsKept result.1 := by
  have inputs : result.1.map Entry.input = askOptions := Machine.exec_inputs computed
  constructor
  · apply dated_of_inputs
    rw [inputs]
    decide +kernel
  · intro entry member io text reply n exchange numbered
    have known : entry.input ∈ askOptions := inputs ▸ List.mem_map_of_mem member
    rw [exchange.input] at known
    obtain rfl : io = RtspIo.text optionsSeven := by simpa [askOptions, connect, request] using known
    have terminated : cString bufSize optionsSeven = some optionsSeven :=
      cString_of_lt (by decide +kernel) (by decide +kernel)
    obtain rfl := Option.some.inj (exchange.terminated.symm.trans terminated)
    have seven : Numbered optionsSeven 7 := ⟨digitsOf 7, by decide +kernel, value_digitsOf 7⟩
    obtain rfl := numbered.unique seven
    have type : requestType optionsSeven = some .options := by decide +kernel
    rw [KeepsNumber, type]
    exact show 7 < 2 ^ 31 by omega

/-- Its reply carries its number; a first DESCRIBE with the number 7 does not meet the condition. -/
theorem repliesNumbered_iff_askOptions :
    (∃ result entry reply,
      (machine .server someUrl).exec [] (startState .server) askOptions = .ok result ∧
      entry ∈ result.1 ∧ .reply 6 reply ∈ entry.output ∧ RequestsKept result.1 ∧
      RepliesNumbered result.1) ∧
    ∃ result, (machine .server someUrl).exec [] (startState .server) askSeven = .ok result ∧
      ¬ RequestsKept result.1 := by
  constructor
  · have computed : ∃ result entry reply,
        (machine .server someUrl).exec [] (startState .server) askOptions = .ok result ∧
          entry ∈ result.1 ∧ .reply 6 reply ∈ entry.output :=
      ⟨_, _, _, rfl, .tail _ (.tail _ (.tail _ (.tail _ (.head _)))), .tail _ (.head _)⟩
    obtain ⟨result, entry, reply, computed, member, replied⟩ := computed
    obtain ⟨dated, kept⟩ := askOptions_kept computed
    have run := Machine.Runs.of_exec (startState_initial .server someUrl) computed
    exact ⟨result, entry, reply, computed, member, replied, kept,
      (repliesNumbered_iff run dated).mpr kept⟩
  · obtain ⟨result, entry, io, computed, member, input, received, replied⟩ := askSeven_runs
    have run := Machine.Runs.of_exec (startState_initial .server someUrl) computed
    refine ⟨result, computed, fun kept => ?_⟩
    exact askSeven_misnumbered member input received replied
      ((repliesNumbered_iff run (askSeven_dated computed)).mpr kept)

/-- The first DESCRIBE of a server is answered with the number 0, whatever its own is. -/
theorem repliesNumbered_not_always : ¬ ∀ url trace state,
    (machine .server url).Runs trace state → Dated trace → RepliesNumbered trace := by
  intro all
  obtain ⟨result, entry, io, computed, member, input, received, replied⟩ := askSeven_runs
  have run := Machine.Runs.of_exec (startState_initial .server someUrl) computed
  exact askSeven_misnumbered member input received replied
    (all someUrl result.1 result.2 run (askSeven_dated computed))

end Http2Rtsp.Server
