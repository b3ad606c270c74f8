import Http2Rtsp.Server.Routing

/-!
# Connections which cannot be accepted

The branch of the listening socket tolerates four errors of `accept`, and goes on as if it had
returned a descriptor. While a client is served this descriptor, -1, is closed and nothing happens.
Without a client it becomes the client: the record is taken, so that every later client would be
refused, and `FD_SET` is called with -1, which is where the machine stops.
-/

namespace Http2Rtsp.Server

open Http2Rtsp.Std Http2Rtsp.Message Http2Rtsp.Semantics

/-! ## The branch -/

/-- What the branch of the listening socket stores of the result of `accept`, and the descriptor it
then gives to `FD_SET`. -/
def ServerState.storeAccepted (s : ServerState) (tempfd : Int) : ServerState × Option Int :=
  if s.streamclient.state ≠ .noclient then (s, none)
  else
    ({ s with
        streamclient := { s.streamclient with rtspfd := tempfd, state := .cliconnected }
        maxfd := max tempfd s.maxfd }, some tempfd)

theorem storeAccepted_busy {s : ServerState} (busy : s.streamclient.state ≠ .noclient)
    (tempfd : Int) : s.storeAccepted tempfd = (s, none) :=
  if_pos busy

theorem storeAccepted_free {s : ServerState} (free : s.streamclient.state = .noclient)
    (tempfd : Int) :
    s.storeAccepted tempfd =
      ({ s with
          streamclient := { s.streamclient with rtspfd := tempfd, state := .cliconnected }
          maxfd := max tempfd s.maxfd }, some tempfd) :=
  if_neg (not_not.mpr free)

/-- The handling of a successful `accept` stores its descriptor and puts it into the set. -/
theorem handleAccept_accepted (s : ServerState) (fd : Int) :
    (s.handleAccept (.accepted fd)).1 =
      match s.storeAccepted fd with
      | (stored, some set) =>
          { stored.openFd fd .peer with masterfds := fdSet stored.masterfds set }
      | (stored, none) => stored := by
  by_cases busy : s.streamclient.state ≠ .noclient
  · rw [storeAccepted_busy busy, ServerState.handleAccept, if_pos busy]
  · rw [storeAccepted_free (not_not.mp busy), ServerState.handleAccept, if_neg busy]
    rfl

/-- The handling of a failed one goes on with what is stored for -1, unless that is to be put into
the set. -/
theorem handleAccept_failed (s : ServerState) :
    s.handleAccept .failed =
      match s.storeAccepted (-1) with
      | (_, some _) => s.halt (.undefined .badDescriptor)
      | (stored, none) => (stored, [.rejected]) := by
  by_cases busy : s.streamclient.state ≠ .noclient
  · rw [storeAccepted_busy busy, ServerState.handleAccept, if_pos busy]
  · rw [storeAccepted_free (not_not.mp busy), ServerState.handleAccept, if_neg busy]

/-- What is stored without a client refuses every client which connects. -/
theorem storeAccepted_refuses {s : ServerState} (tempfd fd : Int) :
    ((s.storeAccepted tempfd).1.handleAccept (.accepted fd)).2 = [.rejected] := by
  have taken : (s.storeAccepted tempfd).1.streamclient.state ≠ .noclient := by
    by_cases busy : s.streamclient.state ≠ .noclient
    · rwa [storeAccepted_busy busy]
    · rw [storeAccepted_free (not_not.mp busy)]
      exact ClientState.noConfusion
  rw [ServerState.handleAccept, if_pos taken]

/-! ## The property and the condition -/

/-- A failed `accept` leaves the server as it was: what the branch stores changes neither the client
nor `maxfd`, no negative descriptor is put into the set, and the main thread goes on with the set it
had. -/
structure LeavesServer (s after : ServerState) : Prop where
  client : (s.storeAccepted (-1)).1.streamclient = s.streamclient
  highest : (s.storeAccepted (-1)).1.maxfd = s.maxfd
  nonneg : ∀ fd ∈ (s.storeAccepted (-1)).2, 0 ≤ fd
  watched : after.masterfds = s.masterfds
  running : after.Running
  clientKept : after.streamclient = s.streamclient
  highestKept : after.maxfd = s.maxfd

/-- The client which has connected is served. -/
structure ServesClient (s after : ServerState) (fd : Int) (output : List Output) : Prop where
  connected : output = [.connected fd]
  state : after.streamclient.state = .cliconnected
  rtspfd : after.streamclient.rtspfd = fd
  watched : after.masterfds fd = true
  within : fd ≤ after.maxfd
  running : after.Running

/-- A failed `accept` leaves the server as it was, and a successful one without a client is served. -/
def AcceptsWell (s : ServerState) (input : Input) (after : ServerState) (output : List Output) :
    Prop :=
  (input = .accept .failed → LeavesServer s after) ∧
    ∀ fd, input = .accept (.accepted fd) → s.streamclient.state = .noclient →
      ServesClient s after fd output

/-- `accept` fails only while a client is served. -/
def FailsServing (s : ServerState) : Input → Prop
  | .accept .failed => s.streamclient.state ≠ .noclient
  | _ => True

instance (s : ServerState) : DecidablePred (FailsServing s)
  | .accept .failed => inferInstanceAs (Decidable (_ ≠ _))
  | .accept .fatal | .accept (.accepted _) => .isTrue trivial
  | .timeout _ _ | .interrupted | .ready _ | .datagram _ | .media _ | .rtsp _ | .rearm _
  | .filler _ _ => .isTrue trivial

/-! ## Steps -/

section Steps

variable {variant : Variant} {url : List UInt8} {s after : ServerState} {output : List Output}

/-- A step of the listening socket is a call of its handler. -/
theorem step_accept {result : Accept}
    (taken : step variant url s (.accept result) = .ok (after, output)) :
    ∃ i rest, s.pc = .dispatch (i :: rest) ∧
      (after, output) = { s with pc := .dispatch rest }.handleAccept result := by
  rw [step] at taken
  obtain ⟨i, rest, pc, -, -, same⟩ := dispatch_cases taken
  exact ⟨i, rest, pc, same⟩

/-- A failed `accept` leaves the server as it was exactly while a client is served. -/
theorem step_failed_iff (taken : step variant url s (.accept .failed) = .ok (after, output)) :
    LeavesServer s after ↔ s.streamclient.state ≠ .noclient := by
  obtain ⟨i, rest, -, same⟩ := step_accept taken
  constructor
  · intro leaves free
    have negative := leaves.nonneg (-1) (by rw [storeAccepted_free free]; rfl)
    omega
  · intro busy
    rw [ServerState.handleAccept, if_pos busy] at same
    obtain ⟨rfl, -⟩ := Prod.mk.inj same
    have stored := storeAccepted_busy busy (-1)
    refine ⟨?_, ?_, ?_, rfl, fun reason => ?_, rfl, rfl⟩
    · rw [stored]
    · rw [stored]
    · rw [stored]
      intro fd none
      cases none
    · exact MainPc.noConfusion

/-- A successful one without a client is served. -/
theorem step_accepted {fd : Int} (free : s.streamclient.state = .noclient)
    (taken : step variant url s (.accept (.accepted fd)) = .ok (after, output)) :
    ServesClient s after fd output := by
  obtain ⟨i, rest, -, same⟩ := step_accept taken
  rw [ServerState.handleAccept, if_neg (not_not.mpr free)] at same
  obtain ⟨rfl, rfl⟩ := Prod.mk.inj same
  refine ⟨rfl, rfl, rfl, ?_, le_max_left fd s.maxfd, fun reason => MainPc.noConfusion⟩
  exact fdSet_eq_true.mpr (Or.inl rfl)

end Steps

/-! ## Runs -/

/-- In every run of either server, every failed `accept` leaves the server as it was and every
successful one without a client is served, if and only if `accept` fails only while a client is
served. -/
theorem acceptsWell_iff {variant : Variant} {url : List UInt8}
    {trace : List (Entry ServerState Input Output)} {state : ServerState}
    (run : (machine variant url).Runs trace state) :
    (machine variant url).EveryStep AcceptsWell trace ↔
      ∀ entry ∈ trace, FailsServing entry.before entry.input := by
  apply run.everyStep_iff fun _ => True
  · exact fun _ _ => trivial
  · exact fun _ _ => trivial
  · intro before input after output _ taken
    cases input with
    | accept result =>
        change step variant url before (.accept result) = .ok (after, output) at taken
        cases result with
        | failed =>
            constructor
            · rintro ⟨leaves, -⟩
              exact (step_failed_iff taken).mp (leaves rfl)
            · intro serving
              refine ⟨fun _ => (step_failed_iff taken).mpr serving, ?_⟩
              exact fun fd same => nomatch same
        | accepted fd =>
            refine iff_of_true ⟨nofun, ?_⟩ trivial
            rintro other ⟨⟩ free
            exact step_accepted free taken
        | fatal => exact iff_of_true ⟨nofun, nofun⟩ trivial
    | _ => exact iff_of_true ⟨nofun, nofun⟩ trivial

/-- A connection fails while a client is served; the client leaves, and another one is served. -/
def failedServing : List Input :=
  connect 6 ++ [.ready [5], .accept .failed, .rearm someTime] ++
    request 6 { RtspIo.line "TEARDOWN" with received := [] } ++ connect 7

theorem acceptsWell_iff_failedServing : ∃ result,
    (machine .mt someUrl).exec [] (startState .mt) failedServing = .ok result ∧
      result.2.streamclient.rtspfd = 7 ∧ (machine .mt someUrl).EveryStep AcceptsWell result.1 := by
  obtain ⟨result, computed, serving, served⟩ : ∃ result,
      (machine .mt someUrl).exec [] (startState .mt) failedServing = .ok result ∧
        (∀ entry ∈ result.1, FailsServing entry.before entry.input) ∧
          result.2.streamclient.rtspfd = 7 :=
    ⟨_, rfl, by decide +kernel, rfl⟩
  have run := Machine.Runs.of_exec (startState_initial .mt someUrl) computed
  exact ⟨result, computed, served, (acceptsWell_iff run).mpr serving⟩

/-- Without a client, -1 is stored as the descriptor of one. -/
theorem acceptsWell_not_always : ¬ ∀ variant url trace state, (machine variant url).Runs trace state →
    (machine variant url).EveryStep AcceptsWell trace := by
  intro all
  obtain ⟨result, computed, entry, member, failed, stored⟩ : ∃ result,
      (machine .server someUrl).exec [] (startState .server) [.ready [5], .accept .failed] =
          .ok result ∧
        ∃ entry ∈ result.1, entry.input = .accept .failed ∧
          (entry.before.storeAccepted (-1)).1.streamclient.state = .cliconnected ∧
          entry.before.streamclient.state = .noclient :=
    ⟨_, rfl, _, List.mem_cons_of_mem _ List.mem_cons_self, rfl, rfl, rfl⟩
  have run := Machine.Runs.of_exec (startState_initial .server someUrl) computed
  obtain ⟨after, taken⟩ := run.taken member
  have leaves := (all .server someUrl _ _ run entry member after taken).1 failed
  rw [leaves.client, stored.2] at stored
  exact ClientState.noConfusion stored.1

end Http2Rtsp.Server
