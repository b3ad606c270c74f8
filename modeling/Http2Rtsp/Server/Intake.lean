import Http2Rtsp.Server.Progress
import Http2Rtsp.Server.Response

/-!
# One response through the media branch

The branch for data from the media source as a machine of its own: a response
arrives on a connection in deliveries of any size. The module says which of them
leave exactly the body in the file.
-/

namespace Http2Rtsp.Server

open Http2Rtsp.Std Http2Rtsp.Semantics

/-! ## The machine -/

/-- The lengths the branch passes to `recv_all` on an open connection. There is no value for the
difference between a null pointer and `msgbuf`. -/
def ServerState.lengthsPassed (s : ServerState) (io : MediaIo) : List (Option Nat) :=
  match s.download.mediastate with
  | .getsent => [some bufSize, headerLength io.peeked]
  | .recvtcp => [some bufSize]
  | _ => []

/-- The response was requested on this connection, and nothing of it was received. -/
structure Requested (response : HttpResponse) (i : Int) (s : ServerState) : Prop where
  running : s.Running
  mediastate : s.download.mediastate = .getsent
  pending : s.kernel i = some (.source response.bytes)
  absent : s.download.mediaDownloaded = false
  empty : s.download.file = []

/-- One pass through the branch, with the lengths it passes. -/
def intakeStep (i : Int) (s : ServerState) (io : MediaIo) :
    Except Unit (ServerState × List (Option Nat)) :=
  match s.pc with
  | .halted _ => .error ()
  | _ =>
      if s.CanDeliver i io then .ok ((s.handleMedia i io).1, s.lengthsPassed io) else .error ()

/-- The branch on its own. -/
def intake (response : HttpResponse) (i : Int) :
    Machine ServerState MediaIo (Option Nat) Unit where
  Initial := Requested response i
  step := intakeStep i

theorem intakeStep_cases {i : Int} {s after : ServerState} {io : MediaIo}
    {lengths : List (Option Nat)} (taken : intakeStep i s io = .ok (after, lengths)) :
    s.Running ∧ s.CanDeliver i io ∧ after = (s.handleMedia i io).1 ∧
      lengths = s.lengthsPassed io := by
  unfold intakeStep at taken
  split at taken
  · cases taken
  · rename_i running
    split at taken
    · rename_i possible
      cases taken
      exact ⟨running, possible, rfl, rfl⟩
    · cases taken

/-! ## Intact downloads -/

/-- How far the download of a response has come, when nothing of it was lost. -/
inductive Intact (response : HttpResponse) (i : Int) (s : ServerState) : Prop where
  | unread (mediastate : s.download.mediastate = .getsent)
      (pending : s.kernel i = some (.source response.bytes))
      (absent : s.download.mediaDownloaded = false) (empty : s.download.file = [])
  | reading {left} (mediastate : s.download.mediastate = .recvtcp)
      (pending : s.kernel i = some (.source left))
      (absent : s.download.mediaDownloaded = false)
      (stored : s.download.file ++ left = response.body)
      (videoleft : s.download.videoleft = left.length)
  | complete (mediastate : s.Running → s.download.mediastate = .stream)
      (present : s.download.mediaDownloaded = true) (stored : s.download.file = response.body)

/-- An intact download in `GETSENT` has not begun. -/
theorem Intact.getsent {response : HttpResponse} {i : Int} {s : ServerState}
    (intact : Intact response i s) (running : s.Running)
    (getsent : s.download.mediastate = .getsent) :
    s.kernel i = some (.source response.bytes) ∧ s.download.mediaDownloaded = false ∧
      s.download.file = [] := by
  cases intact with
  | unread mediastate pending absent empty => exact ⟨pending, absent, empty⟩
  | reading mediastate => cases getsent.symm.trans mediastate
  | complete mediastate => cases getsent.symm.trans (mediastate running)

/-- In `RECVTCP` what is stored and what is pending make up the body. -/
theorem Intact.recvtcp {response : HttpResponse} {i : Int} {s : ServerState}
    (intact : Intact response i s) (running : s.Running)
    (recvtcp : s.download.mediastate = .recvtcp) :
    ∃ left, s.kernel i = some (.source left) ∧ s.download.mediaDownloaded = false ∧
      s.download.file ++ left = response.body ∧ s.download.videoleft = left.length := by
  cases intact with
  | unread mediastate => cases recvtcp.symm.trans mediastate
  | reading mediastate pending absent stored videoleft => exact ⟨_, pending, absent, stored, videoleft⟩
  | complete mediastate => cases recvtcp.symm.trans (mediastate running)

/-- The file is the body once the download is over. -/
theorem Intact.body {response : HttpResponse} {i : Int} {s : ServerState}
    (intact : Intact response i s) (downloaded : s.download.mediaDownloaded = true) :
    s.download.file = response.body := by
  cases intact with
  | unread mediastate pending absent => cases absent.symm.trans downloaded
  | reading mediastate pending absent => cases absent.symm.trans downloaded
  | complete mediastate present stored => exact stored

/-- The deliveries which lose nothing: the peek holds the whole header block, the receipt behind it
returns all of it, and writing to the file does not fail. -/
structure Undisturbed (response : HttpResponse) (s : ServerState) (io : MediaIo) : Prop where
  peeks : s.download.mediastate = .getsent → response.header <+: io.peeked
  receives : s.download.mediastate = .getsent → io.received = response.header
  writes : s.download.mediastate = .recvtcp → WriteResult.failed ∉ io.writes

instance (response : HttpResponse) (s : ServerState) (io : MediaIo) :
    Decidable (Undisturbed response s io) :=
  decidable_of_iff ((s.download.mediastate = .getsent → response.header <+: io.peeked) ∧
      (s.download.mediastate = .getsent → io.received = response.header) ∧
      (s.download.mediastate = .recvtcp → WriteResult.failed ∉ io.writes)) <| by
    constructor
    · rintro ⟨peeks, receives, writes⟩
      exact ⟨peeks, receives, writes⟩
    · rintro ⟨peeks, receives, writes⟩
      exact ⟨peeks, receives, writes⟩

/-- A receipt returns the first of the pending bytes, and none only if there are none. -/
theorem delivers_source {pending bytes : List UInt8} {size : Nat}
    (delivers : (Endpoint.source pending).delivers size bytes = true) :
    bytes <+: pending ∧ bytes.length ≤ size ∧ (bytes = [] → pending = []) := by
  simp only [Endpoint.delivers, Bool.and_eq_true, List.isPrefixOf_iff_prefix, decide_eq_true_eq,
    Bool.or_eq_true, Bool.not_eq_true', List.isEmpty_eq_false_iff, List.isEmpty_iff] at delivers
  obtain ⟨⟨begins, short⟩, progress⟩ := delivers
  exact ⟨begins, short, fun empty => progress.resolve_left fun nonempty => nonempty empty⟩

/-- Storing bytes, when there are some. -/
theorem storeMedia_of_ne_nil {s : ServerState} {i : Int} {io : MediaIo} (some : io.received ≠ []) :
    s.storeMedia i io =
      { s.recv i io.received with download := s.download.recvtcp io.received io.writes } := by
  simp [ServerState.storeMedia, some, ServerState.recv]

/-- The end of the download, with or without a filler. -/
theorem CompleteEffect.finishes {s after : ServerState} {io : MediaIo} {output : List Output}
    (effect : CompleteEffect s io after output) :
    (after.Running → after.download.mediastate = .stream) ∧
      after.download.mediaDownloaded = true ∧ after.download.file = s.download.file := by
  cases effect with
  | exited unopened => exact ⟨fun runs => absurd rfl (runs _), rfl, rfl⟩
  | failed unopened => exact ⟨fun runs => absurd rfl (runs _), rfl, rfl⟩
  | locked opened taken => exact ⟨fun runs => absurd rfl (runs _), rfl, rfl⟩
  | launched opened free => exact ⟨fun _ => rfl, rfl, rfl⟩

/-- What `RECVTCP` leaves of an intact download when writing does not fail. -/
theorem Intact.delivered {response : HttpResponse} {i : Int} {s : ServerState} {io : MediaIo}
    (intact : Intact response i s) (running : s.Running)
    (recvtcp : s.download.mediastate = .recvtcp) (receives : s.CanRecv i bufSize io.received)
    (works : WriteResult.failed ∉ io.writes) :
    ∃ rest, s.kernel i = some (.source (io.received ++ rest)) ∧
      s.download.mediaDownloaded = false ∧
      (s.storeMedia i io).download.file ++ rest = response.body ∧
      (s.storeMedia i io).download.videoleft = rest.length ∧ (io.received = [] → rest = []) := by
  obtain ⟨left, pending, absent, stored, videoleft⟩ := intact.recvtcp running recvtcp
  obtain ⟨⟨rest, rfl⟩, -, ended⟩ := delivers_source (receives _ pending)
  obtain ⟨kernel, masterfds, same⟩ := storeMedia_eq s i io
  refine ⟨rest, pending, absent, ?_, ?_, fun none => ?_⟩
  · rw [same, Download.recvtcp, writestr_of_not_failed works, List.append_assoc, stored]
  · simp only [same, Download.recvtcp, videoleft, List.length_append]
    omega
  · simpa [none] using ended none

/-- An undisturbed pass through the branch loses nothing. -/
theorem MediaEffect.intact {response : HttpResponse} {i : Int} {s after : ServerState}
    {io : MediaIo} {output : List Output} (effect : MediaEffect s i io after output)
    (readable : response.Readable) (intact : Intact response i s) (running : s.Running)
    (possible : s.CanDeliver i io) (undisturbed : Undisturbed response s io) :
    Intact response i after := by
  have receives : s.download.mediastate = .recvtcp → s.CanRecv i bufSize io.received := by
    intro recvtcp
    rw [ServerState.CanDeliver, recvtcp] at possible
    exact possible
  cases effect with
  | ignored other => exact intact
  | failed reason reads =>
      cases intact with
      | unread mediastate pending absent empty => exact .unread mediastate pending absent empty
      | reading mediastate pending absent stored videoleft =>
          exact .reading mediastate pending absent stored videoleft
      | complete mediastate present stored =>
          exact .complete (fun runs => absurd rfl (runs reason)) present stored
  | header getsent opened found parsed =>
      obtain ⟨pending, absent, empty⟩ := intact.getsent running getsent
      rw [undisturbed.receives getsent] at parsed ⊢
      rw [HttpResponse.getsent_header readable] at parsed
      cases parsed
      refine .reading rfl ?_ absent ?_ rfl
      · simp [ServerState.recv, pending, Endpoint.consume, HttpResponse.bytes]
      · simp [empty]
  | stored recvtcp opened more =>
      obtain ⟨rest, pending, absent, stored, videoleft, ended⟩ :=
        intact.delivered running recvtcp (receives recvtcp) (undisturbed.writes recvtcp)
      have received : io.received ≠ [] := by
        intro none
        rw [videoleft, ended none] at more
        exact absurd more (Int.lt_irrefl _)
      rw [storeMedia_of_ne_nil received] at stored videoleft ⊢
      refine .reading recvtcp ?_ absent stored videoleft
      simp [ServerState.recv, pending, Endpoint.consume]
  | completed recvtcp opened last effect =>
      obtain ⟨rest, pending, absent, stored, videoleft, -⟩ :=
        intact.delivered running recvtcp (receives recvtcp) (undisturbed.writes recvtcp)
      obtain ⟨mediastate, present, file⟩ := effect.finishes
      have nothing : rest = [] := by
        rw [videoleft] at last
        exact List.length_eq_zero_iff.mp (by omega)
      refine .complete mediastate present ?_
      rw [file, ← stored, nothing, List.append_nil]

/-! ## Lengths -/

/-- Every length lies within `msgbuf`. -/
def LengthsFit (lengths : List (Option Nat)) : Prop :=
  ∀ length ∈ lengths, ∃ n ≤ bufSize, length = some n

theorem lengthsFit_append {first second : List (Option Nat)} :
    LengthsFit (first ++ second) ↔ LengthsFit first ∧ LengthsFit second :=
  List.forall_mem_append

/-- While it is in `GETSENT` the branch has consumed nothing. -/
def Unread (response : HttpResponse) (i : Int) (s : ServerState) : Prop :=
  s.download.mediastate = .getsent → s.kernel i = some (.source response.bytes)

theorem MediaEffect.unread {response : HttpResponse} {i : Int} {s after : ServerState}
    {io : MediaIo} {output : List Output} (effect : MediaEffect s i io after output)
    (unread : Unread response i s) : Unread response i after := by
  intro getsent
  cases effect with
  | ignored other => exact unread getsent
  | failed reason reads => exact unread getsent
  | header before opened found parsed =>
      obtain ⟨videosize, rfl⟩ := getsent_eq parsed
      cases getsent
  | stored recvtcp opened more =>
      obtain ⟨kernel, masterfds, same⟩ := storeMedia_eq s i io
      rw [same] at getsent
      cases recvtcp.symm.trans getsent
  | completed recvtcp opened last effect =>
      obtain ⟨kernel, masterfds, same⟩ := storeMedia_eq s i io
      rw [same] at effect
      cases effect with
      | exited unopened => cases recvtcp.symm.trans getsent
      | failed unopened => cases recvtcp.symm.trans getsent
      | locked opened taken => cases recvtcp.symm.trans getsent
      | launched opened free => cases getsent

/-- The lengths of one pass fit exactly when `GETSENT` peeks at the whole header block. -/
theorem lengthsPassed_fit_iff {response : HttpResponse} {i : Int} {s : ServerState} {io : MediaIo}
    (readable : response.Readable) (unread : Unread response i s) (possible : s.CanDeliver i io) :
    LengthsFit (s.lengthsPassed io) ↔
      (s.download.mediastate = .getsent → response.header <+: io.peeked) := by
  unfold ServerState.lengthsPassed
  cases state : s.download.mediastate with
  | idle => simp [LengthsFit]
  | stream => simp [LengthsFit]
  | recvtcp => simp [LengthsFit]
  | getsent =>
      rw [ServerState.CanDeliver, state] at possible
      obtain ⟨begins, -, -⟩ := delivers_source (possible.1 _ (unread state))
      constructor
      · intro fit _
        obtain ⟨size, -, found⟩ := fit (headerLength io.peeked) (by simp)
        exact HttpResponse.peeked_of_headerLength begins found
      · intro peeks
        rw [HttpResponse.headerLength_of_peeked readable.plain (peeks rfl)]
        simpa [LengthsFit] using readable.short.le

/-! ## Runs -/

/-- Every length the branch passes fits `msgbuf` exactly when `GETSENT` peeks at the whole header
block. -/
theorem intake_lengthsFit_iff {response : HttpResponse} {i : Int}
    {trace : List (Entry ServerState MediaIo (Option Nat))} {state : ServerState}
    (readable : response.Readable) (run : (intake response i).Runs trace state) :
    LengthsFit (Machine.outputs trace) ↔
      ∀ entry ∈ trace, entry.before.download.mediastate = .getsent →
        response.header <+: entry.input.peeked := by
  have unread : Unread response i state ∧ (LengthsFit (Machine.outputs trace) ↔
      ∀ entry ∈ trace, entry.before.download.mediastate = .getsent →
        response.header <+: entry.input.peeked) := by
    induction run with
    | initial requested => exact ⟨fun _ => requested.pending, by simp [LengthsFit]⟩
    | step prior taken ih =>
        obtain ⟨running, possible, rfl, rfl⟩ := intakeStep_cases taken
        refine ⟨(handleMedia_cases i _ running).unread ih.1, ?_⟩
        rw [Machine.outputs_append, lengthsFit_append, ih.2, Machine.outputs_singleton,
          lengthsPassed_fit_iff readable ih.1 possible]
        simp [or_imp, forall_and]
  exact unread.2

/-- Nothing was lost, and every length fitted. -/
structure Faithful (response : HttpResponse) (i : Int) (lengths : List (Option Nat))
    (s : ServerState) : Prop where
  intact : Intact response i s
  fit : LengthsFit lengths

/-- A response which is not disturbed leaves exactly its body in the file, however it is delivered,
and no length outside `msgbuf` is passed. -/
theorem intake_intact {response : HttpResponse} {i : Int}
    {trace : List (Entry ServerState MediaIo (Option Nat))} {state : ServerState}
    (readable : response.Readable) (run : (intake response i).Runs trace state)
    (undisturbed : Machine.Throughout (fun _ => Undisturbed response) trace) :
    LengthsFit (Machine.outputs trace) ∧
      (state.download.mediaDownloaded = true → state.download.file = response.body) := by
  have known : Faithful response i (Machine.outputs trace) state := by
    apply run.under undisturbed
    · intro start requested
      have unread : Intact response i start :=
        .unread requested.mediastate requested.pending requested.absent requested.empty
      exact ⟨unread, by simp [LengthsFit]⟩
    · rintro past s io after lengths ⟨intact, fit⟩ fine taken
      obtain ⟨running, possible, rfl, rfl⟩ := intakeStep_cases taken
      refine ⟨(handleMedia_cases i io running).intact readable intact running possible fine, ?_⟩
      have unread : Unread response i s := fun getsent => (intact.getsent running getsent).1
      exact lengthsFit_append.mpr
        ⟨fit, (lengthsPassed_fit_iff readable unread possible).mpr fine.peeks⟩
  exact ⟨known.fit, known.intact.body⟩

/-- A response with a body of two bytes. -/
def someHttpResponse : HttpResponse where
  before := ascii "HTTP/1.1 200 OK\r\n"
  digits := ascii "2"
  after := crlf
  body := [7, 8]
  line := by decide
  nonempty := by decide
  numeric := List.all_eq_true.mp rfl
  length := by decide
  ends := by decide
  first := strstr_eq_none_iff.mp rfl

theorem someHttpResponse_readable : someHttpResponse.Readable where
  short := by decide
  plain := by decide
  earlier := strstr_eq_none_iff.mp rfl
  fits := by decide

/-- A server which has just requested it. -/
def requestedState : ServerState :=
  { (startState .server).openFd 7 (.source someHttpResponse.bytes) with
    mediafd := 7
    download := ⟨.getsent, 0, 0, false, []⟩ }

theorem requestedState_requested : Requested someHttpResponse 7 requestedState where
  running := nofun
  mediastate := rfl
  pending := rfl
  absent := rfl
  empty := rfl

/-- What the calls of one pass return, without failures. -/
def delivery (peeked received : List UInt8) : MediaIo :=
  ⟨peeked, received, [.accepted 0, .interrupted], .ok ⟨[0x67], [0x68]⟩, someTime⟩

/-- The theorem applied to a body which comes in two parts. -/
theorem intake_intact_byteByByte :
    ∃ result : List (Entry ServerState MediaIo (Option Nat)) × ServerState,
      (intake someHttpResponse 7).exec [] requestedState
          [delivery someHttpResponse.bytes someHttpResponse.header, delivery [] [7],
            delivery [] [8]] = .ok result ∧
        result.2.download.mediaDownloaded = true ∧
        LengthsFit (Machine.outputs result.1) ∧
        (result.2.download.mediaDownloaded = true → result.2.download.file = [7, 8]) := by
  have computed : ∃ result : List (Entry ServerState MediaIo (Option Nat)) × ServerState,
      (intake someHttpResponse 7).exec [] requestedState
          [delivery someHttpResponse.bytes someHttpResponse.header, delivery [] [7],
            delivery [] [8]] = .ok result ∧
        result.2.download.mediaDownloaded = true ∧
        Machine.MeetsAll (fun _ => Undisturbed someHttpResponse) [] result.1 :=
    ⟨_, rfl, rfl, of_decide_eq_true rfl⟩
  obtain ⟨result, computed, downloaded, meets⟩ := computed
  have run := Machine.Runs.of_exec requestedState_requested computed
  exact ⟨result, computed, downloaded,
    intake_intact someHttpResponse_readable run (Machine.throughout_of_meetsAll meets)⟩

/-- When the header block comes in two parts, the first peek shows no end of it, and the branch
passes on the difference to a null pointer. -/
theorem intake_not_always_intact : ¬ ∀ response i trace state, response.Readable →
    (intake response i).Runs trace state →
      LengthsFit (Machine.outputs trace) ∧
        (state.download.mediaDownloaded = true → state.download.file = response.body) := by
  intro always
  have splits : ∃ result : List (Entry ServerState MediaIo (Option Nat)) × ServerState,
      (intake someHttpResponse 7).exec [] requestedState
          [delivery (ascii "HTTP/1.1 200 OK\r\n") (ascii "HTTP/1.1 200 OK\r\n")] = .ok result ∧
        none ∈ Machine.outputs result.1 :=
    ⟨_, rfl, of_decide_eq_true rfl⟩
  obtain ⟨result, computed, wild⟩ := splits
  have run := Machine.Runs.of_exec requestedState_requested computed
  obtain ⟨fit, -⟩ := always _ _ _ _ someHttpResponse_readable run
  obtain ⟨size, -, known⟩ := fit none wild
  cases known

end Http2Rtsp.Server
