import Http2Rtsp.Server.OneFiller
import Http2Rtsp.Std.Mutex

/-!
# The discipline of `queuelock`

The calls with which the threads lock and unlock `queuelock` and use the queue,
step by step. Followed along a run they account for the owner of the lock and for
the length of the queue, and they keep the discipline but in two places: a filler
which wakes to a full queue locks the mutex a second time, and a PLAY of the media
which is already there pushes its timeouts without the lock.
-/

namespace Http2Rtsp.Server

open Http2Rtsp.Std Http2Rtsp.Message Http2Rtsp.Pacing Http2Rtsp.Semantics

/-! ## Calls -/

/-- The threads of a server. -/
inductive Thread where
  | main
  | filler (k : Nat)
deriving DecidableEq

/-- What `queuelock` guards. `push_timeout` is a `push_event`. -/
inductive QueueOp where
  /-- `push_event`. -/
  | push
  /-- `pull_event`. -/
  | pull
  /-- `empty_queue`. -/
  | empty

abbrev QueueCall := MutexCall Thread QueueOp

/-- The length of the queue behind a call. -/
def QueueOp.size : QueueOp → Nat → Nat
  | .push, size => size + 1
  | .pull, size => size - 1
  | .empty, _ => 0

/-- The length of the queue behind these calls. -/
def sizeAfter (size : Nat) (calls : List QueueCall) : Nat :=
  calls.foldl (fun size call => match call.act with
    | .use operation => operation.size size
    | _ => size) size

/-- The section of the main thread behind `lock_mutex(&queuelock)`, which is not reached when the
mutex is never unlocked. -/
def ServerState.sectionCalls (s : ServerState) (operations : List QueueOp) : List QueueCall :=
  if s.lock = none then critical .main operations else [⟨.main, .lock⟩]

/-- The calls of `handleTimeout`. -/
def ServerState.timeoutCalls (variant : Variant) (s : ServerState) : List QueueCall :=
  match s.queue with
  | [] => s.sectionCalls [.pull]
  | event :: _ =>
      match event.type with
      | .endOfStream =>
          match variant, (byes s.sip.acknowledged).2 with
          -- The farewell is written in the critical section, and may end there.
          | .mt, some _ =>
              if s.lock = none then ⟨.main, .lock⟩ :: uses .main [.pull] else [⟨.main, .lock⟩]
          | _, _ => s.sectionCalls [.pull]
      | .frame _ => s.sectionCalls [.pull]
      | .checkMediaState =>
          s.sectionCalls (if s.download.mediastate = .stream then [.pull] else [.pull, .push])

/-- The calls of `handleMedia`. -/
def ServerState.mediaCalls (s : ServerState) (i : Int) (io : MediaIo) : List QueueCall :=
  if s.download.mediastate = .recvtcp ∧ s.kernel i ≠ none ∧
      ¬ 0 < (s.storeMedia i io).download.videoleft then
    match io.opening with
    | .error _ => []
    | .ok _ => s.sectionCalls [.push]
  else []

/-- The calls of `handleTeardown`. -/
def ServerState.teardownCalls (s : ServerState) : List QueueCall :=
  match s.threadid, s.tinfo with
  | some _, some tinfo =>
      if s.lock = none ∧ tinfo ∉ s.freed then critical .main [.empty] else [⟨.main, .lock⟩]
  | _, _ => [⟨.main, .lock⟩]

/-- The calls of `clientSwitch`. -/
def ServerState.switchCalls (s : ServerState) (io : RtspIo) : List QueueCall :=
  match s.streamclient.state, s.rtspmsg.type with
  | .setupcomplete, .play =>
      if s.download.mediaDownloaded then
        match io.opening with
        | .error _ => []
        | .ok _ => uses .main [.push, .push]
      else s.sectionCalls [.push]
  | _, _ => []

/-- The calls of `handleRtsp`. Behind the TEARDOWN block the `switch` has nothing to act on. -/
def ServerState.rtspCalls (s : ServerState) (i : Int) (io : RtspIo) : List QueueCall :=
  let received := (s.receiveRtsp i io.received).1
  match received.pc with
  | .halted _ => []
  | _ =>
      if received.rtspmsg.type = .teardown then received.teardownCalls else received.switchCalls io

/-- The calls of `fill_queue` with this action. -/
def ServerState.fillerCalls (s : ServerState) (k : Nat) : FillerAction → List QueueCall
  | .wait => [⟨.filler k, .lock⟩, ⟨.filler k, .wait⟩]
  | .spurious | .test => []
  | .resume .. =>
      if s.queue.length < queueSize then
        ⟨.filler k, .reacquire⟩ :: leaving (.filler k) [.push]
      else [⟨.filler k, .reacquire⟩, ⟨.filler k, .lock⟩]
  | .push .. => critical (.filler k) [.push]
  | .unwind => [⟨.filler k, .reacquire⟩]

/-- The calls of a step. -/
def ServerState.calls (variant : Variant) (s : ServerState) : Input → List QueueCall
  | .timeout .. => s.timeoutCalls variant
  | .media io =>
      match s.pc with
      | .dispatch (i :: rest) => { s with pc := .dispatch rest }.mediaCalls i io
      | _ => []
  | .rtsp io =>
      match s.pc with
      | .dispatch (i :: rest) => { s with pc := .dispatch rest }.rtspCalls i io
      | _ => []
  | .rearm _ => s.sectionCalls []
  | .filler k action => s.fillerCalls k action
  | .interrupted | .ready _ | .accept _ | .datagram _ => []

/-- The calls of a run. -/
def callsOf (variant : Variant) (trace : List (Entry ServerState Input Output)) : List QueueCall :=
  trace.flatMap fun entry => entry.before.calls variant entry.input

@[simp] theorem callsOf_nil (variant : Variant) : callsOf variant [] = [] := rfl

theorem callsOf_snoc (variant : Variant) (trace : List (Entry ServerState Input Output))
    (last : Entry ServerState Input Output) :
    callsOf variant (trace ++ [last]) =
      callsOf variant trace ++ last.before.calls variant last.input := by
  simp [callsOf]

theorem sizeAfter_append (size : Nat) (first second : List QueueCall) :
    sizeAfter size (first ++ second) = sizeAfter (sizeAfter size first) second :=
  List.foldl_append

@[simp] theorem sizeAfter_uses (size : Nat) (thread : Thread) (operations : List QueueOp) :
    sizeAfter size (uses thread operations) =
      operations.foldl (fun size operation => operation.size size) size := by
  induction operations generalizing size with
  | nil => rfl
  | cons operation rest ih => exact ih (operation.size size)

@[simp] theorem sizeAfter_critical (size : Nat) (thread : Thread) (operations : List QueueOp) :
    sizeAfter size (critical thread operations) =
      operations.foldl (fun size operation => operation.size size) size := by
  have unlocked : sizeAfter size (critical thread operations) =
      sizeAfter size (uses thread operations ++ [⟨thread, .unlock⟩]) := rfl
  rw [unlocked, sizeAfter_append, sizeAfter_uses]
  rfl

/-! ## What the calls account for -/

/-- The owner of `queuelock` between two steps. -/
def ServerState.owner (s : ServerState) : Option Thread := s.lock.map Thread.filler

/-- The calls lead from the owner and the length of the queue before to those afterwards. Where the
behaviour is undefined nothing is said of the owner. -/
structure Accounts (s : ServerState) (calls : List QueueCall) (after : ServerState) : Prop where
  owner : (∃ reason, after.pc = .halted (.undefined reason)) ∨ ownerAfter s.owner calls = after.owner
  size : sizeAfter s.queue.length calls = after.queue.length

/-- Without calls nothing is changed. -/
theorem Accounts.none {s after : ServerState} (lock : after.lock = s.lock)
    (queue : after.queue = s.queue) : Accounts s [] after where
  owner := Or.inr (by simp [ServerState.owner, lock])
  size := by rw [queue]; rfl

/-- A critical section of a thread which finds the mutex free. -/
theorem Accounts.critical {s after : ServerState} {thread : Thread} {operations : List QueueOp}
    (free : s.lock = .none) (freed : after.lock = .none)
    (size : operations.foldl (fun size operation => operation.size size) s.queue.length =
      after.queue.length) : Accounts s (critical thread operations) after where
  owner := Or.inr (by simp [ServerState.owner, free, freed])
  size := by rw [sizeAfter_critical, size]

/-- A section of the main thread. -/
theorem Accounts.section {s after : ServerState} {operations : List QueueOp}
    (free : s.lock = .none) (freed : after.lock = .none)
    (size : operations.foldl (fun size operation => operation.size size) s.queue.length =
      after.queue.length) : Accounts s (s.sectionCalls operations) after := by
  rw [ServerState.sectionCalls, if_pos free]
  exact .critical free freed size

/-- The main thread waits for a mutex which is never unlocked. -/
theorem Accounts.blocked {s after : ServerState} (taken : s.lock ≠ .none)
    (lock : after.lock = s.lock) (queue : after.queue = s.queue) :
    Accounts s [⟨.main, .lock⟩] after where
  owner := by
    obtain ⟨k, known⟩ := Option.ne_none_iff_exists'.mp taken
    exact Or.inr (by simp [ServerState.owner, lock, known, MutexCall.next])
  size := by rw [queue]; rfl

/-- A change in front which concerns neither the lock nor the queue. -/
theorem Accounts.behind {s middle after : ServerState} {calls : List QueueCall}
    (accounts : Accounts middle calls after) (lock : middle.lock = s.lock)
    (queue : middle.queue = s.queue) : Accounts s calls after where
  owner := by
    have owner := accounts.owner
    rwa [ServerState.owner, lock] at owner
  size := by
    rw [← queue]
    exact accounts.size

/-- The behaviour becomes undefined behind `lock_mutex`. -/
theorem Accounts.undefined {s after : ServerState} {reason : Undefined} {calls : List QueueCall}
    (halted : after.pc = .halted (.undefined reason))
    (size : sizeAfter s.queue.length calls = after.queue.length) : Accounts s calls after where
  owner := Or.inl ⟨reason, halted⟩
  size := size

theorem sectionCalls_taken {s : ServerState} {operations : List QueueOp} (taken : s.lock ≠ .none) :
    s.sectionCalls operations = [⟨.main, .lock⟩] := if_neg taken

theorem length_pushed (event : TimeoutEvent) (queue : List TimeoutEvent) :
    (pushed event queue).length = queue.length + 1 := by
  rw [pushed, length_scanInsert]

/-- The calls at a timeout which finds the mutex taken. -/
theorem timeoutCalls_taken {variant : Variant} {s : ServerState} (taken : s.lock ≠ .none) :
    s.timeoutCalls variant = [⟨.main, .lock⟩] := by
  unfold ServerState.timeoutCalls
  simp only [sectionCalls_taken taken, if_neg taken]
  split
  · rfl
  · split
    · split <;> rfl
    · rfl
    · rfl

/-- The critical section of a timeout with an event at the head of the queue. -/
theorem handleEvent_accounts (variant : Variant) {s : ServerState} {event : TimeoutEvent}
    {rest : List TimeoutEvent} (now : Clock) (wake : Nat) (running : s.Running) (free : s.lock = .none)
    (queued : s.queue = event :: rest) :
    Accounts s (s.timeoutCalls variant)
      (({ s with timeind := none, queue := rest }.handleEvent variant event now).andThen
        fun s => (s.finishTimeout event wake, [])).1 := by
  have still : ServerState.Running { s with timeind := none, queue := rest } := running
  have pull : ∀ {after : ServerState}, after.lock = .none → after.queue = rest →
      Accounts s (s.sectionCalls [.pull]) after := fun freed queue =>
    .section free freed (by simp [queued, queue, QueueOp.size])
  unfold ServerState.timeoutCalls ServerState.handleEvent
  cases type : event.type with
  | endOfStream =>
      cases variant with
      | server =>
          simp only [queued, type]
          rw [andThen_running still]
          exact pull free rfl
      | mt =>
          have said : ServerState.Running ({ s with timeind := none, queue := rest },
              (byes s.sip.acknowledged).1).1 := still
          simp only [queued, type, andThen_running said]
          cases (byes s.sip.acknowledged).2 with
          | some reason =>
              simp only [if_pos free, halt_eq]
              rw [andThen_halted rfl]
              exact .undefined rfl (by simp [sizeAfter, uses, queued, QueueOp.size])
          | none =>
              simp only []
              rw [andThen_running still]
              exact pull free rfl
  | frame frame =>
      simp only [queued, type]
      cases kind : frame.frametype with
      | video =>
          simp only []
          rw [andThen_running still]
          exact pull free rfl
      | audio =>
          simp only []
          rw [andThen_running still]
          exact pull free rfl
  | checkMediaState =>
      simp only [queued, type]
      by_cases streaming : s.download.mediastate = .stream
      · rw [if_pos streaming, if_pos streaming, andThen_running still]
        exact pull free rfl
      · rw [if_neg streaming, if_neg streaming, andThen_running still]
        refine .section free free ?_
        simp [queued, QueueOp.size, ServerState.finishTimeout, ServerState.pushTimeout, length_pushed]

theorem handleTimeout_accounts (variant : Variant) {s : ServerState} (now : Clock) (wake : Nat)
    (running : s.Running) :
    Accounts s (s.timeoutCalls variant) (s.handleTimeout variant now wake).1 := by
  let cleared : ServerState := { s with timeind := none }
  by_cases free : s.lock = none
  · rw [ServerState.handleTimeout, locked_free (show cleared.lock = none from free)]
    cases queued : s.queue with
    | nil =>
        simp only [ServerState.timeoutCalls, queued]
        exact .section free free (by simp [cleared, queued, QueueOp.size])
    | cons event rest => exact handleEvent_accounts variant now wake running free queued
  · rw [ServerState.handleTimeout, locked_taken (show cleared.lock ≠ none from free),
      timeoutCalls_taken free]
    exact .blocked free rfl rfl

/-- At the end of a download one timeout is pushed, behind the creation of the filler. -/
theorem CompleteEffect.accounts {s after : ServerState} {io : MediaIo} {output : List Output}
    (effect : CompleteEffect s io after output) :
    Accounts s (match io.opening with
      | .error _ => []
      | .ok _ => s.sectionCalls [.push]) after := by
  cases effect with
  | exited unopened =>
      rw [unopened]
      exact .none rfl rfl
  | failed unopened =>
      rw [unopened]
      exact .none rfl rfl
  | locked opened taken =>
      rw [opened]
      simp only [sectionCalls_taken taken]
      exact .blocked taken rfl rfl
  | launched opened free =>
      rw [opened]
      exact .section free free (length_pushed _ s.queue).symm

theorem handleMedia_accounts {s : ServerState} (i : Int) (io : MediaIo) (running : s.Running) :
    Accounts s (s.mediaCalls i io) (s.handleMedia i io).1 := by
  unfold ServerState.mediaCalls ServerState.handleMedia
  cases state : s.download.mediastate with
  | idle => exact .none rfl rfl
  | stream => exact .none rfl rfl
  | getsent =>
      rw [if_neg (by simp)]
      by_cases opened : s.kernel i = none
      · simp only [if_pos opened, halt_eq]
        exact .none rfl rfl
      · simp only [if_neg opened]
        cases headerLength io.peeked with
        | none => exact .none rfl rfl
        | some size =>
            cases s.download.getsent io.received with
            | error reason => exact .none rfl rfl
            | ok download => exact .none rfl rfl
  | recvtcp =>
      by_cases opened : s.kernel i = none
      · rw [if_neg (by simp [opened])]
        simp only [if_pos opened, halt_eq]
        exact .none rfl rfl
      · obtain ⟨kernel, masterfds, stored⟩ := storeMedia_eq s i io
        simp only [if_neg opened]
        by_cases more : 0 < (s.storeMedia i io).download.videoleft
        · rw [if_neg (by simp [more]), if_pos more, stored]
          exact .none rfl rfl
        · rw [if_pos (by simp [opened, more]), if_neg more]
          have still : (s.storeMedia i io).Running := by
            rw [stored]
            exact running
          have lock : (s.storeMedia i io).lock = s.lock := by rw [stored]
          have queue : (s.storeMedia i io).queue = s.queue := by rw [stored]
          have accounts := (@complete_cases _ io still).accounts.behind lock queue
          rwa [ServerState.sectionCalls, lock] at accounts

theorem TeardownEffect.accounts {variant : Variant} {s after : ServerState} {i : Int} {io : RtspIo}
    {output : List Output} (effect : TeardownEffect variant s i io after output) :
    Accounts s s.teardownCalls after := by
  unfold ServerState.teardownCalls
  cases effect with
  | locked taken =>
      have blocked : Accounts s [⟨.main, .lock⟩] { s with pc := .halted .deadlock } :=
        .blocked taken rfl rfl
      split
      · rwa [if_neg (by simp [taken])]
      · exact blocked
  | dangling free dead =>
      have halted : Accounts s [⟨.main, .lock⟩] { s with pc := .halted (.undefined .dangling) } :=
        .undefined rfl rfl
      split
      · rename_i thread tinfo named points
        rwa [if_neg (fun both => dead thread tinfo ⟨named, points, both.2⟩)]
      · exact halted
  | done free armed =>
      simp only [armed.1, armed.2.1, if_pos (And.intro free armed.2.2)]
      exact .critical free free rfl

/-- The `switch` uses the queue only on a PLAY in the right state. -/
theorem SwitchEffect.quiet {variant : Variant} {s after : ServerState} {i : Int} {io : RtspIo}
    {output : List Output} (effect : SwitchEffect variant s i io after output)
    (other : ¬ (s.streamclient.state = .setupcomplete ∧ s.rtspmsg.type = .play)) :
    after.lock = s.lock ∧ after.queue = s.queue := by
  cases effect with
  | ignored _ => exact ⟨rfl, rfl⟩
  | failed reason output handled before => exact ⟨rfl, rfl⟩
  | options state type => exact ⟨rfl, rfl⟩
  | described state type downloaded => exact ⟨rfl, rfl⟩
  | fetched state type absent fetch => exact ⟨rfl, rfl⟩
  | @setup rtp rtcp session text state type sockets =>
      obtain ⟨kernel, opened⟩ := openUdp_eq s rtp rtcp
      rw [opened]
      exact ⟨rfl, rfl⟩
  | played state type absent free => exact absurd ⟨state, type⟩ other
  | unopened state type downloaded unopened => exact absurd ⟨state, type⟩ other
  | launched state type downloaded opened => exact absurd ⟨state, type⟩ other

theorem handlePlay_accounts {s : ServerState} (i : Int) (io : RtspIo) (running : s.Running) :
    Accounts s (if s.download.mediaDownloaded then
        match io.opening with
        | .error _ => []
        | .ok _ => uses .main [.push, .push]
      else s.sectionCalls [.push]) (s.handlePlay i io).1 := by
  unfold ServerState.handlePlay
  rw [andThen_running running]
  cases downloaded : s.download.mediaDownloaded with
  | true =>
      rw [if_pos rfl, if_pos rfl]
      cases opened : io.opening with
      | error failure =>
          cases failure with
          | exits =>
              rw [ServerState.startFiller, andThen_halt, halt_eq]
              exact .none rfl rfl
          | fails =>
              rw [startFiller_fails running, andThen_halted rfl]
              exact .none rfl rfl
      | ok sets =>
          have still : (s.launch sets).1.Running := running
          rw [ServerState.startFiller, andThen_running still]
          refine ⟨Or.inr (ownerAfter_uses _ _ _), ?_⟩
          simp [QueueOp.size, ServerState.pushTimeout, ServerState.launch, ServerState.createFiller,
            length_pushed]
  | false =>
      rw [if_neg Bool.false_ne_true, if_neg Bool.false_ne_true]
      by_cases free : s.lock = none
      · rw [locked_free free]
        exact .section free free (length_pushed _ s.queue).symm
      · rw [locked_taken free, halt_eq, sectionCalls_taken free]
        exact .blocked free rfl rfl

theorem clientSwitch_accounts (variant : Variant) (url : List UInt8) {s : ServerState} (i : Int)
    (io : RtspIo) (running : s.Running) :
    Accounts s (s.switchCalls io) (s.clientSwitch variant url i io).1 := by
  by_cases plays : s.streamclient.state = .setupcomplete ∧ s.rtspmsg.type = .play
  · simp only [ServerState.switchCalls, ServerState.clientSwitch, plays.1, plays.2]
    exact handlePlay_accounts i io running
  · obtain ⟨lock, queue⟩ := (@clientSwitch_cases variant url s i io running).quiet plays
    have silent : s.switchCalls io = [] := by
      unfold ServerState.switchCalls
      split
      · rename_i state type
        exact absurd ⟨state, type⟩ plays
      · rfl
    rw [silent]
    exact .none lock queue

theorem ReceiveEffect.quiet {s after : ServerState} {i : Int} {received : List UInt8}
    {output : List Output} (effect : ReceiveEffect s i received after output) :
    after.lock = s.lock ∧ after.queue = s.queue := by
  cases effect with
  | closed opened empty => exact ⟨rfl, rfl⟩
  | message opened nonempty terminated parsed => exact ⟨rfl, rfl⟩

theorem handleRtsp_accounts (variant : Variant) (url : List UInt8) {s : ServerState} (i : Int)
    (io : RtspIo) (running : s.Running) :
    Accounts s (s.rtspCalls i io) (s.handleRtsp variant url i io).1 := by
  unfold ServerState.rtspCalls
  rcases receiveRtsp_cases s i io.received with ⟨reason, halted, -⟩ | receive
  · rw [ServerState.handleRtsp, halted, andThen_halt, halt_eq]
    exact .none rfl rfl
  · have still : (s.receiveRtsp i io.received).1.Running := fun reason => by
      rw [receive.pc]
      exact running reason
    obtain ⟨lock, queue⟩ := receive.quiet
    generalize same : s.receiveRtsp i io.received = outcome at receive still lock queue
    obtain ⟨received, output⟩ := outcome
    simp only
    split
    · rename_i reason halted
      exact absurd halted (still reason)
    · by_cases type : received.rtspmsg.type = .teardown
      · rw [handleRtsp_teardown same still type, if_pos type]
        exact (handleTeardown_cases variant received i io).accounts.behind lock queue
      · rw [handleRtsp_switch same still type, if_neg type]
        exact (clientSwitch_accounts variant url i io still).behind lock queue

theorem pushNext_guarded (s : ServerState) (k : Nat) (filler : Filler) (basetime : Clock)
    (next : Option Rtp.Frame) (unset : Timeval) :
    (s.pushNext k filler basetime next unset).lock = s.lock ∧
      (s.pushNext k filler basetime next unset).queue.length = s.queue.length + 1 := by
  cases next with
  | none => exact ⟨rfl, length_pushed _ s.queue⟩
  | some frame => exact ⟨rfl, length_pushed _ s.queue⟩

theorem handleFiller_accounts {s after : ServerState} {k : Nat} {action : FillerAction}
    (taken : s.handleFiller k action = some after) : Accounts s (s.fillerCalls k action) after := by
  have free_owner : s.lock = none → s.owner = none := fun free => by simp [ServerState.owner, free]
  obtain ⟨filler, there, move⟩ := handleFiller_moves taken
  cases move with
  | wait pc free =>
      refine ⟨Or.inr ?_, rfl⟩
      rw [free_owner free]
      simp [ServerState.fillerCalls, MutexCall.next, ServerState.owner, ServerState.moveFiller, free]
  | spurious pc => exact .none rfl rfl
  | @resume now next unset pc free room =>
      rw [ServerState.fillerCalls, if_pos room]
      obtain ⟨lock, size⟩ := pushNext_guarded s k filler (filler.basetime.getD now) next unset
      refine ⟨Or.inr ?_, size.symm⟩
      rw [free_owner free, ServerState.owner, lock, free]
      exact ownerAfter_leaving (Thread.filler k) [QueueOp.push]
  | stuck pc free full =>
      rw [ServerState.fillerCalls, if_neg full]
      refine ⟨Or.inr ?_, rfl⟩
      rw [free_owner free]
      simp [MutexCall.next, ServerState.owner]
  | test pc => exact .none rfl rfl
  | @push next unset basetime pc free known =>
      obtain ⟨lock, size⟩ := pushNext_guarded s k filler basetime next unset
      exact .critical free (lock.trans free) size.symm
  | unwind pc free =>
      refine ⟨Or.inr ?_, rfl⟩
      rw [free_owner free]
      simp [ServerState.fillerCalls, MutexCall.next, ServerState.owner]

/-- The calls of a step account for what it does to the lock and to the queue. -/
theorem step_accounts {variant : Variant} {url : List UInt8} {s after : ServerState} {input : Input}
    {output : List Output} (taken : step variant url s input = .ok (after, output)) :
    Accounts s (s.calls variant input) after := by
  cases input with
  | timeout now wake =>
      obtain ⟨pc, -, same⟩ := step_timeout taken
      have accounts := handleTimeout_accounts variant now wake (running_of_select pc)
      rw [same] at accounts
      exact accounts
  | interrupted =>
      cases step_cases taken with
      | interrupted pc => exact .none rfl rfl
  | ready fds =>
      cases step_cases taken with
      | ready pc members => exact .none rfl rfl
  | accept result =>
      cases step_cases taken with
      | accept pc branch possible effect =>
          cases effect with
          | halted reason => exact .none rfl rfl
          | rejected busy => exact .none rfl rfl
          | accepted accepted free => exact .none rfl rfl
  | datagram io =>
      cases step_cases taken with
      | datagram pc branch effect =>
          cases effect with
          | only halts answers => exact .none rfl rfl
  | media io =>
      rw [step] at taken
      obtain ⟨i, rest, pc, -, -, same⟩ := dispatch_cases taken
      have accounts := handleMedia_accounts i io (dispatch_running s rest)
      rw [← same] at accounts
      simp only [ServerState.calls, pc]
      exact accounts.behind rfl rfl
  | rtsp io =>
      rw [step] at taken
      obtain ⟨i, rest, pc, -, -, same⟩ := dispatch_cases taken
      have accounts := handleRtsp_accounts variant url i io (dispatch_running s rest)
      rw [← same] at accounts
      simp only [ServerState.calls, pc]
      exact accounts.behind rfl rfl
  | rearm now =>
      cases step_cases taken with
      | rearmed pc free =>
          rw [ServerState.rearm, locked_free free]
          exact .section free free rfl
      | rearmLocked pc owned =>
          simp only [ServerState.calls, sectionCalls_taken owned]
          exact .blocked owned rfl rfl
  | filler k action =>
      exact handleFiller_accounts (step_filler taken).1

/-! ## Discipline -/

/-- A filler whose wait ends finds room in the queue. -/
def WakesWithRoom (s : ServerState) (input : Input) : Prop :=
  ∀ k now next unset, input = .filler k (.resume now next unset) → s.queue.length < queueSize

/-- What a step must be like: no filler wakes to a full queue, and no PLAY is one of the media which
is already there. -/
structure Mindful (s : ServerState) (input : Input) : Prop where
  room : WakesWithRoom s input
  guarded : ¬ PlaysDownloaded s input

/-- Between two steps the main thread owns nothing. -/
theorem disciplined_lock (s : ServerState) :
    Disciplined s.owner ([⟨.main, .lock⟩] : List QueueCall) := by
  refine ⟨fun owns => ?_, trivial⟩
  obtain ⟨k, -, impossible⟩ := Option.map_eq_some_iff.mp owns
  cases impossible

theorem disciplined_section (s : ServerState) (operations : List QueueOp) :
    Disciplined s.owner (s.sectionCalls operations) := by
  by_cases free : s.lock = none
  · rw [ServerState.sectionCalls, if_pos free, ServerState.owner, free]
    exact disciplined_critical Thread.main operations
  · rw [sectionCalls_taken free]
    exact disciplined_lock s

theorem disciplined_timeout (variant : Variant) (s : ServerState) :
    Disciplined s.owner (s.timeoutCalls variant) := by
  unfold ServerState.timeoutCalls
  split
  · exact disciplined_section s _
  · split
    · split
      · split
        · rename_i free
          rw [ServerState.owner, free]
          simp [Disciplined, uses, MutexCall.Allowed, MutexCall.next]
        · exact disciplined_lock s
      · exact disciplined_section s _
    · exact disciplined_section s _
    · exact disciplined_section s _

theorem disciplined_media (s : ServerState) (i : Int) (io : MediaIo) :
    Disciplined s.owner (s.mediaCalls i io) := by
  unfold ServerState.mediaCalls
  split
  · split
    · trivial
    · exact disciplined_section s _
  · trivial

theorem disciplined_teardown (s : ServerState) : Disciplined s.owner s.teardownCalls := by
  unfold ServerState.teardownCalls
  split
  · split
    · rename_i free
      rw [ServerState.owner, free.1]
      exact disciplined_critical Thread.main _
    · exact disciplined_lock s
  · exact disciplined_lock s

/-- The `switch` is disciplined unless a PLAY launches a filler. -/
theorem disciplined_switch_iff {s : ServerState} {io : RtspIo} :
    Disciplined s.owner (s.switchCalls io) ↔ ¬ PlayLaunches s io := by
  by_cases plays : s.streamclient.state = .setupcomplete ∧ s.rtspmsg.type = .play
  · simp only [ServerState.switchCalls, PlayLaunches, plays.1, plays.2, true_and]
    cases downloaded : s.download.mediaDownloaded with
    | false => simpa using disciplined_section s [.push]
    | true =>
        cases opened : io.opening with
        | error failure => simp
        | ok sets =>
            have unowned : s.owner ≠ some .main := (disciplined_lock s).1
            simp [disciplined_uses, unowned]
  · have silent : s.switchCalls io = [] := by
      unfold ServerState.switchCalls
      split
      · rename_i state type
        exact absurd ⟨state, type⟩ plays
      · rfl
    rw [silent]
    exact iff_of_true trivial fun launches => plays ⟨launches.1, launches.2.1⟩

/-- Behind a receipt the occasion is the same. -/
theorem ReceiveEffect.plays_iff {s received : ServerState} {i : Int} {rest : List Int} {io : RtspIo}
    {output : List Output} (pc : s.pc = .dispatch (i :: rest))
    (receive : ReceiveEffect { s with pc := .dispatch rest } i io.received received output) :
    PlaysDownloaded s (.rtsp io) ↔ PlayLaunches received io := by
  constructor
  · rintro ⟨io', i', rest', sets, ⟨⟩, pc', nonempty, ⟨opened, left, parsed⟩, state, downloaded, opening⟩
    obtain ⟨rfl, rfl⟩ : i = i' ∧ rest = rest' := by simpa [pc] using pc'
    have type : received.rtspmsg.type = .play := receive.leaves_iff.mp ⟨opened, left, parsed⟩
    cases receive with
    | closed _ empty => exact absurd empty nonempty
    | message => exact ⟨state, type, downloaded, sets, opening⟩
  · rintro ⟨state, type, downloaded, sets, opening⟩
    have present := receive.client (fun gone => by rw [state] at gone; cases gone)
    obtain ⟨opened, left, parsed⟩ := receive.leaves_iff.mpr type
    have sameDownload := receive.download
    exact ⟨io, i, rest, sets, rfl, pc, present.1, ⟨opened, left, parsed⟩, present.2 ▸ state,
      sameDownload ▸ downloaded, opening⟩

theorem disciplined_rtsp_iff {s : ServerState} {i : Int} {rest : List Int} {io : RtspIo}
    (pc : s.pc = .dispatch (i :: rest)) :
    Disciplined s.owner ({ s with pc := .dispatch rest }.rtspCalls i io) ↔
      ¬ PlaysDownloaded s (.rtsp io) := by
  let handling : ServerState := { s with pc := .dispatch rest }
  unfold ServerState.rtspCalls
  rcases receiveRtsp_cases handling i io.received with ⟨reason, halted, unread⟩ | receive
  · have silent : (handling.receiveRtsp i io.received).1.pc = .halted reason := by rw [halted]; rfl
    simp only [handling] at silent
    simp only [silent]
    refine iff_of_true trivial fun plays => ?_
    obtain ⟨io', i', rest', sets, ⟨⟩, pc', nonempty, ⟨opened, left, parsed⟩, -⟩ := plays
    obtain ⟨rfl, rfl⟩ : i = i' ∧ rest = rest' := by simpa [pc] using pc'
    have leaves : Leaves handling i io.received .play := ⟨opened, left, parsed⟩
    obtain ⟨middle, output, receive⟩ := leaves.receives
    exact unread middle output receive
  · rw [receive.plays_iff pc]
    have dispatching : (handling.receiveRtsp i io.received).1.pc = .dispatch rest := receive.pc
    have owner : (handling.receiveRtsp i io.received).1.owner = s.owner := by
      rw [ServerState.owner, receive.quiet.1]
      rfl
    simp only [handling] at dispatching owner
    simp only [dispatching]
    rw [← owner]
    split
    · rename_i type
      refine iff_of_true (disciplined_teardown _) fun launches => ?_
      cases type.symm.trans launches.2.1
    · exact disciplined_switch_iff

/-- The calls of a filler are disciplined unless it wakes to a full queue. -/
theorem disciplined_filler_iff {s after : ServerState} {k : Nat} {action : FillerAction}
    (taken : s.handleFiller k action = some after) :
    Disciplined s.owner (s.fillerCalls k action) ↔
      ∀ now next unset, action = .resume now next unset → s.queue.length < queueSize := by
  have free_owner : s.lock = none → s.owner = none := fun free => by simp [ServerState.owner, free]
  obtain ⟨filler, there, move⟩ := handleFiller_moves taken
  cases move with
  | wait pc free =>
      rw [free_owner free]
      simp [ServerState.fillerCalls, Disciplined, MutexCall.Allowed]
  | spurious pc => simp [ServerState.fillerCalls]
  | resume pc free room =>
      rw [free_owner free, ServerState.fillerCalls, if_pos room]
      exact iff_of_true ⟨trivial, disciplined_leaving _ _⟩ fun _ _ _ _ => room
  | @stuck now next unset pc free full =>
      rw [free_owner free, ServerState.fillerCalls, if_neg full]
      -- The wait has ended with the mutex, which is now locked again.
      refine iff_of_false (fun disciplined => disciplined.2.1 rfl) fun room => ?_
      exact full (room now next unset rfl)
  | test pc => simp [ServerState.fillerCalls]
  | push pc free known =>
      rw [free_owner free]
      exact iff_of_true (disciplined_critical _ _) (by simp)
  | unwind pc free => simp [ServerState.fillerCalls, Disciplined, MutexCall.Allowed]

/-- A step keeps the discipline exactly when it is mindful. -/
theorem disciplined_step_iff {variant : Variant} {url : List UInt8} {s after : ServerState}
    {input : Input} {output : List Output}
    (taken : step variant url s input = .ok (after, output)) :
    Disciplined s.owner (s.calls variant input) ↔ Mindful s input := by
  have other : (∀ io, input ≠ .rtsp io) → (∀ k action, input ≠ .filler k action) →
      Mindful s input := by
    intro notRtsp notFiller
    constructor
    · rintro k now next unset rfl
      exact absurd rfl (notFiller k _)
    · rintro ⟨io, i, rest, sets, rfl, -⟩
      exact notRtsp io rfl
  cases input with
  | timeout now wake => exact iff_of_true (disciplined_timeout variant s) (other (by simp) (by simp))
  | interrupted => exact iff_of_true trivial (other (by simp) (by simp))
  | ready fds => exact iff_of_true trivial (other (by simp) (by simp))
  | accept result => exact iff_of_true trivial (other (by simp) (by simp))
  | datagram io => exact iff_of_true trivial (other (by simp) (by simp))
  | media io =>
      refine iff_of_true ?_ (other (by simp) (by simp))
      simp only [ServerState.calls]
      split
      · rename_i i rest pc
        exact disciplined_media { s with pc := .dispatch rest } i io
      · trivial
  | rtsp io =>
      rw [step] at taken
      obtain ⟨i, rest, pc, -⟩ := dispatch_cases taken
      simp only [ServerState.calls, pc]
      rw [disciplined_rtsp_iff pc]
      constructor
      · intro guarded
        refine ⟨?_, guarded⟩
        rintro k now next unset ⟨⟩
      · exact Mindful.guarded
  | rearm now => exact iff_of_true (disciplined_section s []) (other (by simp) (by simp))
  | filler k action =>
      cases moved : s.handleFiller k action with
      | none =>
          simp only [step, moved] at taken
          split at taken <;> cases taken
      | some next =>
          have guarded : ¬ PlaysDownloaded s (.filler k action) := by
            rintro ⟨io, i, rest, sets, impossible, -⟩
            cases impossible
          rw [ServerState.calls, disciplined_filler_iff moved]
          constructor
          · intro room
            refine ⟨?_, guarded⟩
            rintro k' now next unset ⟨⟩
            exact room now next unset rfl
          · rintro mindful now next unset rfl
            exact mindful.room k now next unset rfl

/-! ## Runs -/

/-- The calls of a run lead to the owner of `queuelock` and to the length of the queue. -/
theorem run_accounts {variant : Variant} {url : List UInt8}
    {trace : List (Entry ServerState Input Output)} {state : ServerState}
    (run : (machine variant url).Runs trace state) :
    ((∃ reason, state.pc = .halted (.undefined reason)) ∨
      ownerAfter none (callsOf variant trace) = state.owner) ∧
      sizeAfter 0 (callsOf variant trace) = state.queue.length := by
  induction run with
  | initial valid =>
      have free : _ = none := Initial.lock valid
      have empty : _ = [] := Initial.queue valid
      exact ⟨Or.inr (by simp [ServerState.owner, free]), by rw [empty]; rfl⟩
  | step prior taken ih =>
      obtain ⟨owner, size⟩ := ih
      have accounts := step_accounts taken
      rw [callsOf_snoc, ownerAfter_append, sizeAfter_append, size,
        owner.resolve_left (defined_before taken)]
      exact ⟨accounts.owner, accounts.size⟩

/-- In every run of either server the threads keep the discipline of `queuelock` exactly when every
step is mindful. -/
theorem disciplined_iff_mindful {variant : Variant} {url : List UInt8}
    {trace : List (Entry ServerState Input Output)} {state : ServerState}
    (run : (machine variant url).Runs trace state) :
    Disciplined none (callsOf variant trace) ↔
      ∀ entry ∈ trace, Mindful entry.before entry.input := by
  induction run with
  | initial valid => simp
  | @step trace before input after output prior taken ih =>
      have owner := (run_accounts prior).1.resolve_left (defined_before taken)
      rw [callsOf_snoc, disciplined_append, ih, owner, disciplined_step_iff taken]
      simp only [List.forall_mem_append, List.forall_mem_singleton]

/-- The PLAY of this script pushes its timeouts without the lock. -/
theorem playDownloaded_calls (variant : Variant) : ∃ result,
    (machine variant someUrl).exec [] (startState variant) playDownloaded = .ok result ∧
      ¬ Disciplined none (callsOf variant result.1) := by
  cases variant with
  | server => exact ⟨_, rfl, of_decide_eq_false rfl⟩
  | mt => exact ⟨_, rfl, of_decide_eq_false rfl⟩

/-- The client plays before the download ends, and the filler wakes with room in the queue. -/
def playInDownload : List Input :=
  connect 6 ++ describe 6 7 someResponse ++ play 6 ++ media 7 someResponse someHeader ++
    media 7 [] [7] ++ [.filler 0 .wait, .timeout someTime 0,
      .filler 0 (.resume someTime none ⟨0, 0⟩)]

/-- Along this script the discipline is kept, so every step is mindful; along the other one it is not. -/
theorem disciplined_iff_mindful_playInDownload :
    (∃ result, (machine .mt someUrl).exec [] (startState .mt) playInDownload = .ok result ∧
      Disciplined none (callsOf .mt result.1) ∧
      ∀ entry ∈ result.1, Mindful entry.before entry.input) ∧
    ∃ result, (machine .mt someUrl).exec [] (startState .mt) playDownloaded = .ok result ∧
      ¬ ∀ entry ∈ result.1, Mindful entry.before entry.input := by
  constructor
  · obtain ⟨result, computed, disciplined⟩ : ∃ result,
        (machine .mt someUrl).exec [] (startState .mt) playInDownload = .ok result ∧
        Disciplined none (callsOf .mt result.1) := ⟨_, rfl, of_decide_eq_true rfl⟩
    have run := Machine.Runs.of_exec (startState_initial .mt someUrl) computed
    exact ⟨result, computed, disciplined, (disciplined_iff_mindful run).mp disciplined⟩
  · obtain ⟨result, computed, undisciplined⟩ := playDownloaded_calls .mt
    have run := Machine.Runs.of_exec (startState_initial .mt someUrl) computed
    exact ⟨result, computed, mt (disciplined_iff_mindful run).mpr undisciplined⟩

/-- The discipline is not always kept. -/
theorem disciplined_not_always : ¬ ∀ variant url trace state,
    (machine variant url).Runs trace state → Disciplined none (callsOf variant trace) := by
  intro all
  obtain ⟨result, computed, undisciplined⟩ := playDownloaded_calls .server
  have run := Machine.Runs.of_exec (startState_initial .server someUrl) computed
  exact undisciplined (all .server someUrl _ _ run)

end Http2Rtsp.Server
