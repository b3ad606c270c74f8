import Http2Rtsp.Server.Progress

/-!
# What a step does to the threads

Of all that a step does, the part which concerns the filler threads and their
`ThreadInfo`s: a filler is created, a TEARDOWN block cancels one and frees its
`ThreadInfo`, or no thread comes to life and the rest is left alone.
-/

namespace Http2Rtsp.Server

open Http2Rtsp.Std Http2Rtsp.Message Http2Rtsp.Pacing

/-! ## Lists of fillers -/

/-- No filler comes to life, and those which stay alive keep their argument. -/
def Fades (before after : List Filler) : Prop :=
  after.length = before.length ∧
    ∀ (k : Nat) (filler : Filler), after[k]? = some filler → filler.Live →
      ∃ earlier : Filler, before[k]? = some earlier ∧ earlier.Live ∧ earlier.tinfo = filler.tinfo

theorem Fades.refl (fillers : List Filler) : Fades fillers fillers :=
  ⟨rfl, fun _ filler there live => ⟨filler, there, live, rfl⟩⟩

theorem Fades.trans {first second third : List Filler} (one : Fades first second)
    (two : Fades second third) : Fades first third := by
  refine ⟨two.1.trans one.1, fun k filler there live => ?_⟩
  obtain ⟨earlier, before, alive, same⟩ := two.2 k filler there live
  obtain ⟨earliest, first, living, sameFirst⟩ := one.2 k earlier before alive
  exact ⟨earliest, first, living, sameFirst.trans same⟩

/-- Without a live filler before there is none afterwards. -/
theorem Fades.none_live {before after : List Filler} (fades : Fades before after)
    (dead : ∀ filler ∈ before, ¬ filler.Live) : ∀ filler ∈ after, ¬ filler.Live := by
  intro filler member live
  obtain ⟨k, there⟩ := List.mem_iff_getElem?.mp member
  obtain ⟨earlier, before, alive, -⟩ := fades.2 k filler there live
  exact dead earlier (List.mem_of_getElem? before) alive

/-- Behind a replacement a filler is the new one, or was there before. -/
theorem getElem?_set_cases {fillers : List Filler} {k j : Nat} {old new found : Filler}
    (there : fillers[k]? = some old) (here : (fillers.set k new)[j]? = some found) :
    (k = j ∧ new = found) ∨ (k ≠ j ∧ fillers[j]? = some found) := by
  by_cases same : k = j
  · subst same
    rw [List.getElem?_set_self (List.getElem?_eq_some_iff.mp there).1] at here
    exact Or.inl ⟨rfl, Option.some.inj here⟩
  · rw [List.getElem?_set_ne same] at here
    exact Or.inr ⟨same, here⟩

/-- One filler is replaced by one which is not more alive. -/
theorem fades_set {fillers : List Filler} {k : Nat} {old new : Filler}
    (there : fillers[k]? = some old) (weaker : new.Live → old.Live) (same : old.tinfo = new.tinfo) :
    Fades fillers (fillers.set k new) := by
  refine ⟨List.length_set, fun j filler found live => ?_⟩
  rcases getElem?_set_cases there found with ⟨rfl, rfl⟩ | ⟨-, before⟩
  · exact ⟨old, there, weaker live, same⟩
  · exact ⟨filler, before, live, rfl⟩

/-- The same for a function of the filler. -/
theorem fades_modify {fillers : List Filler} {k : Nat} {f : Filler → Filler}
    (weaker : ∀ filler, fillers[k]? = some filler → (f filler).Live → filler.Live)
    (same : ∀ filler, filler.tinfo = (f filler).tinfo) : Fades fillers (fillers.modify k f) := by
  cases there : fillers[k]? with
  | none =>
      rw [List.modify_eq_self (List.getElem?_eq_none_iff.mp there)]
      exact .refl fillers
  | some filler =>
      have set : fillers.modify k f = fillers.set k (f filler) := by
        rw [List.modify_eq_set_getElem?, there]
        rfl
      rw [set]
      exact fades_set there (weaker filler there) (same filler)

/-- A signal wakes one of the fillers which wait, if there is one. -/
theorem signal_moves (wake : Nat) (fillers : List Filler) :
    signal wake fillers = fillers ∨ ∃ (k : Nat) (filler : Filler), fillers[k]? = some filler ∧
      filler.pc = .waiting ∧ signal wake fillers = fillers.set k { filler with pc := .woken } := by
  have first : wakeFirst fillers = fillers ∨ ∃ (k : Nat) (filler : Filler),
      fillers[k]? = some filler ∧ filler.pc = .waiting ∧
        wakeFirst fillers = fillers.set k { filler with pc := .woken } := by
    induction fillers with
    | nil => exact Or.inl rfl
    | cons filler rest ih =>
        unfold wakeFirst
        split
        · rename_i waiting
          exact Or.inr ⟨0, filler, rfl, waiting, rfl⟩
        · rcases ih with same | ⟨k, later, there, waiting, woken⟩
          · exact Or.inl (by rw [same])
          · exact Or.inr ⟨k + 1, later, there, waiting, by rw [woken, List.set_cons_succ]⟩
  unfold signal
  split
  · rename_i waits
    obtain ⟨filler, there, waiting⟩ := Option.map_eq_some_iff.mp waits
    refine Or.inr ⟨wake, filler, there, waiting, ?_⟩
    rw [List.modify_eq_set_getElem?, there]
    rfl
  · exact first

/-- A woken filler was waiting, so it is as alive as before. -/
theorem fades_wakeFirst (fillers : List Filler) : Fades fillers (wakeFirst fillers) := by
  induction fillers with
  | nil => exact .refl []
  | cons filler rest ih =>
      unfold wakeFirst
      split
      · rename_i waiting
        have weaker : Filler.Live { filler with pc := .woken } → filler.Live := fun _ => by
          simp [Filler.Live, waiting]
        exact @fades_set (filler :: rest) 0 filler _ rfl weaker rfl
      · refine ⟨by simp [ih.1], fun k found there live => ?_⟩
        cases k with
        | zero =>
            obtain rfl := Option.some.inj there
            exact ⟨filler, rfl, live, rfl⟩
        | succ k => exact ih.2 k found there live

/-- `pthread_cond_signal` brings no filler to life. -/
theorem fades_signal (wake : Nat) (fillers : List Filler) : Fades fillers (signal wake fillers) := by
  unfold signal
  split
  · rename_i waiting
    refine fades_modify (fun filler there _ => ?_) fun _ => rfl
    have pc : filler.pc = .waiting := by simpa [there] using waiting
    simp [Filler.Live, pc]
  · exact fades_wakeFirst fillers

/-- A cancelled filler is not alive, unless it was not there. -/
theorem cancel_not_live (filler : Filler) : ¬ filler.cancel.Live := by
  intro live
  unfold Filler.cancel at live
  split at live
  · rename_i done
    exact live.1 done
  · exact live.2.2 rfl
  · exact live.2.2 rfl
  · exact live.2.2 rfl
  · exact live.2.1 rfl

theorem cancel_tinfo (filler : Filler) : filler.cancel.tinfo = filler.tinfo := by
  unfold Filler.cancel
  split <;> rfl

/-- `pthread_cancel` brings no filler to life. -/
theorem fades_cancel (k : Nat) (fillers : List Filler) :
    Fades fillers (fillers.modify k Filler.cancel) :=
  fades_modify (fun filler _ live => absurd live (cancel_not_live filler)) fun filler =>
    (cancel_tinfo filler).symm

/-- A filler which moves on is alive. -/
theorem Advances.live {queue : List TimeoutEvent} {filler : Filler} {pc : FillerPc}
    (advances : Advances queue filler.pc pc) : filler.Live := by
  unfold Filler.Live
  generalize filler.pc = old at advances ⊢
  cases advances <;> simp

/-- Nor does a step of a filler bring one to life. -/
theorem FillerEffect.fades {s after : ServerState} {k : Nat} (effect : FillerEffect s k after) :
    Fades s.fillers after.fillers := by
  cases effect with
  | advanced there advances => exact fades_set there (fun _ => advances.live) rfl
  | @pushed filler basetime next unset there free pc =>
      have live : filler.Live := by
        unfold Filler.Live
        rcases pc with pc | pc <;> simp [pc]
      cases next with
      | none => exact fades_set there (fun _ => live) rfl
      | some frame => exact fades_set there (fun _ => live) rfl
  | @stuck filler basetime there free pc =>
      have live : filler.Live := by simp [Filler.Live, pc]
      exact fades_set there (fun _ => live) rfl
  | unwound there free pc =>
      exact fades_set there (fun live => absurd rfl live.2.1) rfl

/-- The variables which are about threads and `ThreadInfo`s. -/
def ServerState.ledger (s : ServerState) : Option Nat × Option Nat × Nat × List Nat :=
  (s.threadid, s.tinfo, s.allocated, s.freed)

theorem FillerEffect.ledger {s after : ServerState} {k : Nat} (effect : FillerEffect s k after) :
    after.ledger = s.ledger := by
  obtain ⟨queue, lock, fillers, rfl, -⟩ := effect.only
  rfl

/-! ## Requests -/

/-- The text which was received is parsed to a message of this type. -/
def HasType (received : List UInt8) (type : RtspMsgType) : Prop :=
  ∃ text result msg, cString bufSize received = some text ∧ parseRtsp text = .ok (result, msg) ∧
    msg.type = type

/-- In this state the bytes leave a message of this type: it was received, or the peer has closed
and the message before was one. -/
structure Leaves (s : ServerState) (i : Int) (received : List UInt8) (type : RtspMsgType) : Prop where
  opened : s.kernel i ≠ none
  left : received = [] → s.rtspmsg.type = type
  parsed : received ≠ [] → HasType received type

instance (received : List UInt8) (type : RtspMsgType) : Decidable (HasType received type) :=
  match terminated : cString bufSize received with
  | none => isFalse fun ⟨_, _, _, found, _⟩ => nomatch terminated.symm.trans found
  | some text =>
      match parsed : parseRtsp text with
      | .error _ => isFalse fun ⟨_, _, _, found, accepted, _⟩ => by
          obtain rfl := Option.some.inj (terminated.symm.trans found)
          exact nomatch parsed.symm.trans accepted
      | .ok (result, msg) =>
          decidable_of_iff (msg.type = type) <| by
            constructor
            · intro same
              exact ⟨text, result, msg, terminated, parsed, same⟩
            · rintro ⟨text', result', msg', found, accepted, same⟩
              obtain rfl := Option.some.inj (terminated.symm.trans found)
              cases parsed.symm.trans accepted
              exact same

instance (s : ServerState) (i : Int) (received : List UInt8) (type : RtspMsgType) :
    Decidable (Leaves s i received type) :=
  decidable_of_iff (s.kernel i ≠ none ∧ (received = [] → s.rtspmsg.type = type) ∧
      (received ≠ [] → HasType received type)) <| by
    constructor
    · rintro ⟨opened, left, parsed⟩
      exact ⟨opened, left, parsed⟩
    · rintro ⟨opened, left, parsed⟩
      exact ⟨opened, left, parsed⟩

/-- In this state this input runs the TEARDOWN block. -/
def RunsTeardown (s : ServerState) (input : Input) : Prop :=
  ∃ io i rest, input = .rtsp io ∧ s.pc = .dispatch (i :: rest) ∧ Leaves s i io.received .teardown

/-- In this state this input is a PLAY of the media which is already there. -/
def PlaysDownloaded (s : ServerState) (input : Input) : Prop :=
  ∃ io i rest sets, input = .rtsp io ∧ s.pc = .dispatch (i :: rest) ∧ io.received ≠ [] ∧
    Leaves s i io.received .play ∧ s.streamclient.state = .setupcomplete ∧
    s.download.mediaDownloaded = true ∧ io.opening = .ok sets

/-- In this state this input is a PLAY which creates a filler, also when the media file cannot be
opened. -/
def PlayCreatesFiller (s : ServerState) (input : Input) : Prop :=
  ∃ io i rest, input = .rtsp io ∧ s.pc = .dispatch (i :: rest) ∧ io.received ≠ [] ∧
    Leaves s i io.received .play ∧ s.streamclient.state = .setupcomplete ∧
    s.download.mediaDownloaded = true ∧ io.opening ≠ .error .exits

instance : (opening : Except OpeningFailure ParameterSets) → Decidable (opening = .error .exits)
  | .error failure => decidable_of_iff (failure = .exits) <| by simp
  | .ok _ => isFalse <| by simp

/-- What a receipt comes to can be decided if it can be for the descriptor in turn. -/
instance heardDecidable {heard : RtspIo → Int → Prop} [each : ∀ io i, Decidable (heard io i)]
    (s : ServerState) : (input : Input) →
      Decidable (∃ io i rest, input = .rtsp io ∧ s.pc = .dispatch (i :: rest) ∧ heard io i)
  | .rtsp io =>
      match s.pc with
      | .dispatch (i :: _) => decidable_of_iff (heard io i) <| by simp
      | .dispatch [] | .select | .halted _ => isFalse <| by simp
  | .timeout .. | .interrupted | .ready _ | .accept _ | .datagram _ | .media _ | .rearm _
  | .filler .. => isFalse <| by simp

instance (s : ServerState) (input : Input) : Decidable (RunsTeardown s input) :=
  heardDecidable s input

instance (s : ServerState) (input : Input) : Decidable (PlayCreatesFiller s input) :=
  heardDecidable s input

/-! ## Steps -/

/-- Outputs about threads and `ThreadInfo`s. -/
def Output.ofThreads : Output → Bool
  | .launched _ | .contextClosed _ | .freed _ => true
  | _ => false

/-- What is put out about threads and `ThreadInfo`s. -/
def threadEvents (outputs : List Output) : List Output := outputs.filter Output.ofThreads

@[simp] theorem threadEvents_append (first second : List Output) :
    threadEvents (first ++ second) = threadEvents first ++ threadEvents second :=
  List.filter_append ..

theorem threadEvents_haltOutput (reason : Halt) : threadEvents (haltOutput reason) = [] := by
  cases reason <;> rfl

/-- What may happen to the threads. The parameters are the occasions on which a filler is created
and on which a TEARDOWN block is run. -/
inductive ThreadEffect (launches tearsDown : Prop) (s after : ServerState) (output : List Output) :
    Prop where
  | faded (fades : Fades s.fillers after.fillers) (ledger : after.ledger = s.ledger)
      (events : threadEvents output = [])
  | launched (cause : launches)
      (fillers : after.fillers = s.fillers ++ [⟨.start, s.allocated, none, none⟩])
      (ledger : after.ledger = (some s.fillers.length, some s.allocated, s.allocated + 1, s.freed))
      (events : threadEvents output = [.launched s.fillers.length])
  | tornDown {thread tinfo} (cause : tearsDown) (free : s.lock = none)
      (armed : s.Armed thread tinfo) (fades : Fades s.fillers after.fillers)
      (gone : ∀ filler, after.fillers[thread]? = some filler → ¬ filler.Live)
      (ledger : after.ledger = (s.threadid, s.tinfo, s.allocated, tinfo :: s.freed))
      (events : threadEvents output = [.contextClosed tinfo, .freed tinfo])

/-- An outcome which leaves the threads alone. -/
theorem ThreadEffect.unchanged {launches tearsDown : Prop} {s after : ServerState}
    {output : List Output} (fillers : after.fillers = s.fillers) (ledger : after.ledger = s.ledger)
    (events : threadEvents output = []) : ThreadEffect launches tearsDown s after output :=
  .faded (fillers ▸ .refl _) ledger events

/-- What happens to the threads behind a change which does not concern them. -/
theorem ThreadEffect.behind {launches tearsDown : Prop} {s middle after : ServerState}
    {prior output : List Output} (effect : ThreadEffect launches tearsDown middle after output)
    (fillers : middle.fillers = s.fillers) (ledger : middle.ledger = s.ledger)
    (lock : middle.lock = s.lock) (quiet : threadEvents prior = []) :
    ThreadEffect launches tearsDown s after (prior ++ output) := by
  have all := ledger
  simp only [ServerState.ledger, Prod.mk.injEq] at all
  obtain ⟨threadid, known, allocated, freed⟩ := all
  cases effect with
  | faded fades ledger' events =>
      exact .faded (fillers ▸ fades) (ledger'.trans ledger) (by simp [quiet, events])
  | launched cause fillers' ledger' events =>
      rw [fillers, allocated] at fillers'
      rw [fillers, allocated, freed] at ledger'
      rw [fillers] at events
      exact .launched cause fillers' ledger' (by simp [quiet, events])
  | tornDown cause free armed fades gone ledger' events =>
      rw [threadid, known, allocated, freed] at ledger'
      rw [ServerState.Armed, threadid, known, freed] at armed
      exact .tornDown cause (lock ▸ free) armed (fillers ▸ fades) gone ledger' (by simp [quiet, events])

/-- What happens to the threads in the handler of a descriptor. -/
theorem ThreadEffect.dispatched {launches tearsDown : Prop} {s after : ServerState} {pc : MainPc}
    {output : List Output} (effect : ThreadEffect launches tearsDown { s with pc := pc } after output) :
    ThreadEffect launches tearsDown s after output :=
  @ThreadEffect.behind _ _ s _ _ [] _ effect rfl rfl rfl rfl

/-- What happens to the threads behind a receipt. -/
theorem ThreadEffect.received {launches tearsDown : Prop} {s received after : ServerState} {i : Int}
    {bytes : List UInt8} {prior output : List Output}
    (effect : ThreadEffect launches tearsDown received after output)
    (receive : ReceiveEffect s i bytes received prior) :
    ThreadEffect launches tearsDown s after (prior ++ output) := by
  cases receive with
  | closed opened empty => exact effect.behind rfl rfl rfl rfl
  | message opened nonempty terminated parsed => exact effect.behind rfl rfl rfl rfl

/-- The occasions may be described more generally. -/
theorem ThreadEffect.imp {launches launches' tearsDown tearsDown' : Prop} {s after : ServerState}
    {output : List Output} (effect : ThreadEffect launches tearsDown s after output)
    (one : launches → launches') (two : tearsDown → tearsDown') :
    ThreadEffect launches' tearsDown' s after output := by
  cases effect with
  | faded fades ledger events => exact .faded fades ledger events
  | launched cause fillers ledger events => exact .launched (one cause) fillers ledger events
  | tornDown cause free armed fades gone ledger events =>
      exact .tornDown (two cause) free armed fades gone ledger events

theorem threadEvents_byes {sent : List Output}
    (farewell : ∀ output ∈ sent, ∃ text cliaddr, output = .byeSent text cliaddr) :
    threadEvents sent = [] := by
  refine List.filter_eq_nil_iff.mpr fun output member => ?_
  obtain ⟨text, cliaddr, rfl⟩ := farewell output member
  exact Bool.false_ne_true

theorem EventEffect.threads {s after : ServerState} {event : TimeoutEvent} {output : List Output}
    (effect : EventEffect s event after output) :
    after.fillers = s.fillers ∧ after.ledger = s.ledger ∧ threadEvents output = [] := by
  cases effect with
  | ended last farewell =>
      refine ⟨rfl, rfl, ?_⟩
      rw [threadEvents_append, threadEvents_byes farewell]
      rfl
  | video media => exact ⟨rfl, rfl, rfl⟩
  | audio media frames =>
      refine ⟨rfl, rfl, List.filter_eq_nil_iff.mpr fun output member => ?_⟩
      obtain ⟨fd, seq, rfl⟩ := frames output member
      exact Bool.false_ne_true
  | dummy check waiting => exact ⟨rfl, rfl, rfl⟩
  | ready check streaming => exact ⟨rfl, rfl, rfl⟩

theorem TimeoutEffect.threads {s after : ServerState} {wake : Nat} {output : List Output}
    (effect : TimeoutEffect s wake after output) : ThreadEffect False False s after output := by
  cases effect with
  | locked taken => exact .unchanged rfl rfl rfl
  | idle free empty => exact .unchanged rfl rfl rfl
  | failed free queued last farewell =>
      refine .unchanged rfl rfl ?_
      rw [threadEvents_append, threadEvents_byes farewell]
      rfl
  | @handled event rest after output free queued effect =>
      obtain ⟨fillers, ledger, events⟩ := effect.threads
      refine .faded ?_ ledger events
      unfold ServerState.finishTimeout
      split
      · exact fillers ▸ fades_signal wake after.fillers
      · exact fillers ▸ .refl _

theorem AcceptEffect.threads {s after : ServerState} {result : Accept} {output : List Output}
    (effect : AcceptEffect s result after output) : ThreadEffect False False s after output := by
  cases effect with
  | halted reason => exact .unchanged rfl rfl (threadEvents_haltOutput reason)
  | rejected busy => exact .unchanged rfl rfl rfl
  | accepted accepted free => exact .unchanged rfl rfl rfl

theorem SipEffect.threads {s after : ServerState} {output : List Output}
    (effect : SipEffect s after output) : ThreadEffect False False s after output := by
  cases effect with
  | only halts answers =>
      refine .unchanged rfl rfl (List.filter_eq_nil_iff.mpr fun output member => ?_)
      rcases answers output member with ⟨text, size, cliaddr, rfl⟩ | ⟨reason, rfl⟩
      · exact Bool.false_ne_true
      · exact Bool.false_ne_true

/-- The end of a download. -/
def Completes (s after : ServerState) : Prop :=
  s.download.mediastate = .recvtcp ∧ after.download.mediaDownloaded = true

theorem MediaEffect.threads {s after : ServerState} {i : Int} {io : MediaIo} {output : List Output}
    (effect : MediaEffect s i io after output) :
    ThreadEffect (Completes s after) False s after output := by
  cases effect with
  | ignored other => exact .unchanged rfl rfl rfl
  | failed reason reads => exact .unchanged rfl rfl (threadEvents_haltOutput reason)
  | header getsent opened found parsed => exact .unchanged rfl rfl rfl
  | stored recvtcp opened more =>
      obtain ⟨kernel, masterfds, stored⟩ := storeMedia_eq s i io
      rw [stored]
      exact .unchanged rfl rfl rfl
  | completed recvtcp opened last effect =>
      obtain ⟨kernel, masterfds, stored⟩ := storeMedia_eq s i io
      rw [stored] at effect
      cases effect with
      | exited unopened => exact .unchanged rfl rfl rfl
      | failed unopened => exact .launched ⟨recvtcp, rfl⟩ rfl rfl rfl
      | locked opened taken => exact .launched ⟨recvtcp, rfl⟩ rfl rfl rfl
      | launched opened free => exact .launched ⟨recvtcp, rfl⟩ rfl rfl rfl

theorem Leaves.receives {s : ServerState} {i : Int} {received : List UInt8} {type : RtspMsgType}
    (leaves : Leaves s i received type) :
    ∃ middle output, ReceiveEffect s i received middle output := by
  by_cases empty : received = []
  · exact ⟨_, _, .closed leaves.opened empty⟩
  · obtain ⟨text, result, msg, terminated, parsed, -⟩ := leaves.parsed empty
    exact ⟨_, _, .message leaves.opened empty terminated parsed⟩

/-- What is received leaves a message of one type. -/
theorem ReceiveEffect.leaves_iff {s middle : ServerState} {i : Int} {received : List UInt8}
    {output : List Output} (effect : ReceiveEffect s i received middle output) {type : RtspMsgType} :
    Leaves s i received type ↔ middle.rtspmsg.type = type := by
  cases effect with
  | closed opened empty =>
      exact ⟨fun leaves => leaves.left empty, fun same =>
        ⟨opened, fun _ => same, fun nonempty => absurd empty nonempty⟩⟩
  | message opened nonempty terminated parsed =>
      constructor
      · intro leaves
        obtain ⟨text, result, msg, terminated', parsed', same⟩ := leaves.parsed nonempty
        obtain rfl := Option.some.inj (terminated.symm.trans terminated')
        cases parsed.symm.trans parsed'
        exact same
      · intro same
        exact ⟨opened, fun empty => absurd empty nonempty, fun _ =>
          ⟨_, _, _, terminated, parsed, same⟩⟩

/-- A client behind a receipt: the same one, or none. -/
theorem ReceiveEffect.client {s after : ServerState} {i : Int} {received : List UInt8}
    {output : List Output} (effect : ReceiveEffect s i received after output)
    (present : after.streamclient.state ≠ .noclient) :
    received ≠ [] ∧ after.streamclient = s.streamclient := by
  cases effect with
  | closed opened empty => exact absurd rfl present
  | message opened nonempty terminated parsed => exact ⟨nonempty, rfl⟩

/-- A TEARDOWN block brings no filler to life and ends the one it cancels. -/
theorem tearDown_fades (variant : Variant) (s : ServerState) (i : Int) (io : RtspIo)
    (thread tinfo : Nat) :
    Fades s.fillers (s.tearDown variant i io thread tinfo).1.fillers ∧
      ∀ filler, (s.tearDown variant i io thread tinfo).1.fillers[thread]? = some filler →
        ¬ filler.Live := by
  have signalled : Fades (s.fillers.modify thread Filler.cancel)
      (s.tearDown variant i io thread tinfo).1.fillers := by
    cases variant with
    | server => exact fades_signal io.wake _
    | mt => exact .refl _
  refine ⟨(fades_cancel thread s.fillers).trans signalled, fun filler there live => ?_⟩
  obtain ⟨earlier, found, alive, -⟩ := signalled.2 thread filler there live
  rw [List.getElem?_modify_eq] at found
  obtain ⟨old, -, rfl⟩ := Option.map_eq_some_iff.mp found
  exact cancel_not_live old alive

theorem TeardownEffect.threads {variant : Variant} {s after : ServerState} {i : Int} {io : RtspIo}
    {output : List Output} (effect : TeardownEffect variant s i io after output) :
    ThreadEffect False True s after output := by
  cases effect with
  | locked taken => exact .unchanged rfl rfl rfl
  | dangling free dead => exact .unchanged rfl rfl rfl
  | @done thread tinfo free armed =>
      obtain ⟨fades, gone⟩ := tearDown_fades variant s i io thread tinfo
      exact .tornDown trivial free armed fades gone rfl rfl

/-- A PLAY which launches a filler. -/
def PlayLaunches (s : ServerState) (io : RtspIo) : Prop :=
  s.streamclient.state = .setupcomplete ∧ s.rtspmsg.type = .play ∧
    s.download.mediaDownloaded = true ∧ ∃ sets, io.opening = .ok sets

/-- A PLAY which creates one, also when the media file cannot be opened. -/
def PlayCreates (s : ServerState) (io : RtspIo) : Prop :=
  s.streamclient.state = .setupcomplete ∧ s.rtspmsg.type = .play ∧
    s.download.mediaDownloaded = true ∧ io.opening ≠ .error .exits

theorem SwitchEffect.threads {variant : Variant} {s after : ServerState} {i : Int} {io : RtspIo}
    {output : List Output} (effect : SwitchEffect variant s i io after output) :
    ThreadEffect (PlayCreates s io) False s after output := by
  cases effect with
  | ignored other => exact .unchanged rfl rfl rfl
  | failed reason output handled before =>
      refine .unchanged rfl rfl ?_
      rw [threadEvents_append, threadEvents_haltOutput]
      rcases before with ⟨-, rfl⟩ | ⟨-, rfl, -⟩
      · rfl
      · rfl
  | options state type => exact .unchanged rfl rfl rfl
  | described state type downloaded => exact .unchanged rfl rfl rfl
  | fetched state type absent fetch => exact .unchanged rfl rfl rfl
  | @setup rtp rtcp session text state type sockets =>
      obtain ⟨kernel, opened⟩ := openUdp_eq s rtp rtcp
      rw [opened]
      exact .unchanged rfl rfl rfl
  | played state type absent free => exact .unchanged rfl rfl rfl
  | unopened state type downloaded unopened =>
      have creates : io.opening ≠ .error .exits := by simp [unopened]
      exact .launched ⟨state, type, downloaded, creates⟩ rfl rfl rfl
  | launched state type downloaded opened =>
      have creates : io.opening ≠ .error .exits := by simp [opened]
      exact .launched ⟨state, type, downloaded, creates⟩ rfl rfl rfl

theorem RtspEffect.threads {variant : Variant} {s after : ServerState} {i : Int} {io : RtspIo}
    {rest : List Int} {output : List Output}
    (effect : RtspEffect variant { s with pc := .dispatch rest } i io after output)
    (pc : s.pc = .dispatch (i :: rest)) :
    ThreadEffect (PlayCreatesFiller s (.rtsp io)) (RunsTeardown s (.rtsp io)) s after output := by
  cases effect with
  | failed reason unread => exact .unchanged rfl rfl (threadEvents_haltOutput reason)
  | teardown receive type effect =>
      refine ((effect.threads.received receive).imp False.elim fun _ => ?_).dispatched
      obtain ⟨opened, left, parsed⟩ := receive.leaves_iff.mpr type
      exact ⟨io, i, rest, rfl, pc, opened, left, parsed⟩
  | switched receive type effect =>
      refine ((effect.threads.received receive).imp ?_ False.elim).dispatched
      rintro ⟨state, play, downloaded, opening⟩
      obtain ⟨opened, left, parsed⟩ := receive.leaves_iff.mpr play
      have present := receive.client (fun gone => by rw [state] at gone; cases gone)
      have sameDownload := receive.download
      exact ⟨io, i, rest, rfl, pc, present.1, ⟨opened, left, parsed⟩, present.2 ▸ state,
        sameDownload ▸ downloaded, opening⟩

/-- What a step does to the threads: a filler is created at the end of a download or by a PLAY, and
cancelled by a TEARDOWN block. -/
theorem step_threads {variant : Variant} {url : List UInt8} {s after : ServerState} {input : Input}
    {output : List Output} (taken : step variant url s input = .ok (after, output)) :
    ThreadEffect ((s.Running ∧ Completes s after) ∨ PlayCreatesFiller s input) (RunsTeardown s input)
      s after output := by
  cases step_cases taken with
  | timeout pc set effect => exact effect.threads.imp False.elim False.elim
  | interrupted pc => exact .unchanged rfl rfl rfl
  | ready pc members => exact .unchanged rfl rfl rfl
  | accept pc branch possible effect =>
      exact (effect.threads.imp False.elim False.elim).dispatched
  | datagram pc branch effect => exact (effect.threads.imp False.elim False.elim).dispatched
  | media pc branch possible effect =>
      have running : s.Running := fun reason => by simp [pc]
      exact (effect.threads.imp (fun completes => Or.inl ⟨running, completes⟩) False.elim).dispatched
  | rtsp pc branch possible effect => exact (effect.threads pc).imp Or.inr id
  | rearmed pc free =>
      rw [ServerState.rearm, locked_free free]
      exact .unchanged rfl rfl rfl
  | rearmLocked pc taken => exact .unchanged rfl rfl rfl
  | filler effect => exact .faded effect.fades effect.ledger rfl

/-- A PLAY in the right state adds a filler, unless the program exits. Without parameter sets the
behaviour is undefined behind it. -/
theorem SwitchEffect.adds {variant : Variant} {s after : ServerState} {i : Int} {io : RtspIo}
    {output : List Output} (effect : SwitchEffect variant s i io after output)
    (plays : PlayCreates s io) : after.fillers.length = s.fillers.length + 1 ∧
      (io.opening = .error .fails → ∃ reason, after.pc = .halted (.undefined reason)) := by
  obtain ⟨state, type, downloaded, opening⟩ := plays
  cases effect with
  | ignored other => exact absurd trivial (by rwa [state, type] at other)
  | failed reason output handled before =>
      rcases before with ⟨other, -⟩ | ⟨-, -, unopened⟩
      · exact absurd type other
      · exact absurd (unopened downloaded) opening
  | options other => cases state.symm.trans other
  | described other => cases state.symm.trans other
  | fetched other => cases state.symm.trans other
  | setup other => cases state.symm.trans other
  | played _ _ absent => cases downloaded.symm.trans absent
  | unopened => exact ⟨List.length_append, fun _ => ⟨_, rfl⟩⟩
  | launched _ _ _ opened =>
      refine ⟨List.length_append, fun unopened => ?_⟩
      cases opened.symm.trans unopened

/-- A PLAY which creates a filler adds one. -/
theorem PlayCreatesFiller.adds {variant : Variant} {url : List UInt8} {s after : ServerState}
    {input : Input} {output : List Output} (plays : PlayCreatesFiller s input)
    (taken : step variant url s input = .ok (after, output)) :
    after.fillers.length = s.fillers.length + 1 ∧
      (PlaysDownloaded s input ∨ ∃ reason, after.pc = .halted (.undefined reason)) := by
  obtain ⟨io, i, rest, rfl, pc, nonempty, ⟨opened, left, parsed⟩, state, downloaded, opening⟩ := plays
  cases step_cases taken with
  | @rtsp io i' rest' after output pc' branch possible effect =>
      obtain ⟨rfl, rfl⟩ : i = i' ∧ rest = rest' := by simpa [pc] using pc'
      have leaves : Leaves { s with pc := .dispatch rest } i io.received .play := ⟨opened, left, parsed⟩
      cases effect with
      | failed reason unread =>
          obtain ⟨middle, prior, receives⟩ := leaves.receives
          exact absurd receives (unread middle prior)
      | teardown receive isTeardown effect =>
          cases (receive.leaves_iff.mp leaves).symm.trans isTeardown
      | switched receive notTeardown effect =>
          have type := receive.leaves_iff.mp leaves
          cases receive with
          | closed _ empty => exact absurd empty nonempty
          | message _ _ _ _ =>
              obtain ⟨adds, undefined⟩ := effect.adds ⟨state, type, downloaded, opening⟩
              refine ⟨adds, ?_⟩
              cases known : io.opening with
              | ok sets =>
                  exact Or.inl ⟨io, i, rest, sets, rfl, pc, nonempty, ⟨opened, left, parsed⟩, state,
                    downloaded, known⟩
              | error failure =>
                  cases failure with
                  | exits => exact absurd known opening
                  | fails => exact Or.inr (undefined known)

/-- What the TEARDOWN block comes to: it frees the `ThreadInfo` it finds, or it finds none. -/
theorem RunsTeardown.outcome {variant : Variant} {url : List UInt8} {s after : ServerState}
    {input : Input} {output : List Output} (runs : RunsTeardown s input) (free : s.lock = none)
    (taken : step variant url s input = .ok (after, output)) :
    (∃ thread tinfo, s.Armed thread tinfo ∧ .freed tinfo ∈ output) ∨
      ((∀ thread tinfo, ¬ s.Armed thread tinfo) ∧ .undefined .dangling ∈ output) := by
  obtain ⟨io, i, rest, rfl, pc, ⟨opened, left, parsed⟩⟩ := runs
  cases step_cases taken with
  | @rtsp io i' rest' after output pc' branch possible effect =>
      obtain ⟨rfl, rfl⟩ : i = i' ∧ rest = rest' := by simpa [pc] using pc'
      have leaves : Leaves { s with pc := .dispatch rest } i io.received .teardown :=
        ⟨opened, left, parsed⟩
      cases effect with
      | failed reason unread =>
          obtain ⟨middle, prior, receives⟩ := leaves.receives
          exact absurd receives (unread middle prior)
      | switched receive notTeardown effect => exact absurd (receive.leaves_iff.mp leaves) notTeardown
      | @teardown received after prior output receive isTeardown effect =>
          have same : received.lock = s.lock ∧ ∀ thread tinfo,
              received.Armed thread tinfo ↔ s.Armed thread tinfo := by
            cases receive <;> exact ⟨rfl, fun _ _ => Iff.rfl⟩
          cases effect with
          | locked busy => exact absurd (same.1.trans free) busy
          | dangling _ dead =>
              exact Or.inr ⟨fun thread tinfo armed => dead thread tinfo ((same.2 _ _).mpr armed), by simp⟩
          | done _ armed =>
              exact Or.inl ⟨_, _, (same.2 _ _).mp armed, by simp [ServerState.tearDown]⟩

end Http2Rtsp.Server
