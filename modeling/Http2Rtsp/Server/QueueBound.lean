import Http2Rtsp.Semantics.Refinement
import Http2Rtsp.Server.FillQueue
import Http2Rtsp.Server.OneFiller

/-!
# The bound of the queue in the servers

The steps of a server are coarser than the statements of `fill_queue`, and its main thread does more
than touch the queue. With one live filler at most it follows the machine of the filler and the queue
all the same, so the bound on the media events holds in the servers as well.
-/

namespace Http2Rtsp.Server

open Http2Rtsp.Std Http2Rtsp.Pacing Http2Rtsp.Semantics

/-! ## The main thread -/

/-- What the main thread may do to the queue, whoever has the mutex and wherever the filler stands. -/
def QueueMoves (before after : List TimeoutEvent) : Prop :=
  ∀ queuelock thread, fillQueue.Reaches ⟨before, queuelock, thread⟩ ⟨after, queuelock, thread⟩

theorem QueueMoves.refl (queue : List TimeoutEvent) : QueueMoves queue queue := fun _ _ => .refl

theorem QueueMoves.trans {first second third : List TimeoutEvent} (one : QueueMoves first second)
    (two : QueueMoves second third) : QueueMoves first third := fun queuelock thread =>
  (one queuelock thread).trans (two queuelock thread)

theorem QueueMoves.pull (event : TimeoutEvent) (rest : List TimeoutEvent) :
    QueueMoves (event :: rest) rest := fun _ _ => .single ⟨.pullEvent, _, rfl⟩

theorem QueueMoves.push (now : Clock) (timeMs : Nat) (queue : List TimeoutEvent) :
    QueueMoves queue (pushed ⟨timeoutTime now timeMs, .checkMediaState⟩ queue) := fun _ _ =>
  .single ⟨.pushTimeout now timeMs, _, rfl⟩

theorem QueueMoves.empty (queue : List TimeoutEvent) : QueueMoves queue [] := fun _ _ =>
  .single ⟨.emptyQueue, _, rfl⟩

/-- Each live filler is where it was, or its wait has ended. -/
def Stays (before after : List Filler) : Prop :=
  ∀ (k : Nat) (filler : Filler), after[k]? = some filler → filler.Live →
    ∃ earlier : Filler, before[k]? = some earlier ∧ earlier.Live ∧
      (filler = earlier ∨ earlier.pc = .waiting ∧ filler = { earlier with pc := .woken })

theorem Stays.refl (fillers : List Filler) : Stays fillers fillers :=
  fun _ filler there live => ⟨filler, there, live, Or.inl rfl⟩

theorem Stays.trans {first second third : List Filler} (one : Stays first second)
    (two : Stays second third) : Stays first third := by
  intro k filler there live
  obtain ⟨middle, between, alive, how⟩ := two k filler there live
  obtain ⟨earlier, before, living, howBefore⟩ := one k middle between alive
  refine ⟨earlier, before, living, ?_⟩
  rcases how with rfl | ⟨waiting, rfl⟩
  · exact howBefore
  · rcases howBefore with rfl | ⟨-, rfl⟩
    · exact Or.inr ⟨waiting, rfl⟩
    · cases waiting

/-- A change of one filler. -/
theorem stays_modify {fillers : List Filler} {k : Nat} {f : Filler → Filler}
    (each : ∀ filler, fillers[k]? = some filler → (f filler).Live →
      filler.pc = .waiting ∧ f filler = { filler with pc := .woken }) :
    Stays fillers (fillers.modify k f) := by
  intro j filler there live
  by_cases here : k = j
  · subst here
    rw [List.getElem?_modify_eq] at there
    obtain ⟨earlier, before, rfl⟩ := Option.map_eq_some_iff.mp there
    obtain ⟨waiting, woken⟩ := each earlier before live
    exact ⟨earlier, before, by simp [Filler.Live, waiting], Or.inr ⟨waiting, woken⟩⟩
  · rw [List.getElem?_modify_ne f fillers here] at there
    exact ⟨filler, there, live, Or.inl rfl⟩

theorem stays_wakeFirst (fillers : List Filler) : Stays fillers (wakeFirst fillers) := by
  induction fillers with
  | nil => exact .refl []
  | cons filler rest ih =>
      unfold wakeFirst
      split
      · rename_i waiting
        exact @stays_modify (filler :: rest) 0 (fun filler => { filler with pc := .woken })
          fun first there _ => by
            obtain rfl := Option.some.inj there
            exact ⟨waiting, rfl⟩
      · intro k found there live
        cases k with
        | zero => exact ⟨found, there, live, Or.inl rfl⟩
        | succ k => exact ih k found there live

theorem stays_signal (wake : Nat) (fillers : List Filler) : Stays fillers (signal wake fillers) := by
  unfold signal
  split
  · rename_i waiting
    refine stays_modify fun filler there _ => ⟨?_, rfl⟩
    simpa [there] using waiting
  · exact stays_wakeFirst fillers

theorem stays_cancel (k : Nat) (fillers : List Filler) :
    Stays fillers (fillers.modify k Filler.cancel) :=
  stays_modify fun filler _ live => absurd live (cancel_not_live filler)

/-- What a step of the main thread comes to. -/
inductive MainEffect (s after : ServerState) : Prop where
  | kept (queue : QueueMoves s.queue after.queue) (lock : after.lock = s.lock)
      (fillers : Stays s.fillers after.fillers)
  | launched (queue : QueueMoves s.queue after.queue) (lock : after.lock = s.lock)
      (fillers : after.fillers = s.fillers ++ [⟨.start, s.allocated, none, none⟩])

/-- A step which leaves all of this alone. -/
theorem MainEffect.apart {s after : ServerState} (queue : after.queue = s.queue)
    (lock : after.lock = s.lock) (fillers : after.fillers = s.fillers) : MainEffect s after :=
  .kept (queue ▸ .refl _) lock (fillers ▸ .refl _)

theorem EventEffect.main {s after : ServerState} {event : TimeoutEvent} {output : List Output}
    (effect : EventEffect s event after output) :
    QueueMoves s.queue after.queue ∧ after.lock = s.lock ∧ after.fillers = s.fillers := by
  cases effect with
  | ended last farewell => exact ⟨.refl _, rfl, rfl⟩
  | video media => exact ⟨.refl _, rfl, rfl⟩
  | audio media frames => exact ⟨.refl _, rfl, rfl⟩
  | @dummy now seqnum check waiting => exact ⟨.push now 1000 _, rfl, rfl⟩
  | ready check streaming => exact ⟨.refl _, rfl, rfl⟩

theorem TimeoutEffect.main {s after : ServerState} {wake : Nat} {output : List Output}
    (effect : TimeoutEffect s wake after output) : MainEffect s after := by
  cases effect with
  | locked taken => exact .apart rfl rfl rfl
  | idle free empty => exact .apart rfl rfl rfl
  | @failed event rest reason sent free queued last =>
      exact .kept (queued ▸ .pull event rest) rfl (.refl _)
  | @handled event rest after output free queued effect =>
      obtain ⟨queue, lock, fillers⟩ := effect.main
      have pulled : QueueMoves s.queue rest := queued ▸ .pull event rest
      refine .kept (pulled.trans queue) lock ?_
      unfold ServerState.finishTimeout
      split
      · exact fillers ▸ stays_signal wake after.fillers
      · exact fillers ▸ .refl _

theorem MediaEffect.main {s after : ServerState} {i : Int} {io : MediaIo} {output : List Output}
    (effect : MediaEffect s i io after output) : MainEffect s after := by
  cases effect with
  | ignored other => exact .apart rfl rfl rfl
  | failed reason reads => exact .apart rfl rfl rfl
  | header getsent opened found parsed => exact .apart rfl rfl rfl
  | stored recvtcp opened more =>
      obtain ⟨kernel, masterfds, stored⟩ := storeMedia_eq s i io
      exact stored ▸ .apart rfl rfl rfl
  | completed recvtcp opened last effect =>
      obtain ⟨kernel, masterfds, stored⟩ := storeMedia_eq s i io
      rw [stored] at effect
      cases effect with
      | exited unopened => exact .apart rfl rfl rfl
      | failed unopened => exact .launched (.refl _) rfl rfl
      | locked opened taken => exact .launched (.refl _) rfl rfl
      | launched opened free => exact .launched (.push io.now 1000 _) rfl rfl

theorem TeardownEffect.main {variant : Variant} {s after : ServerState} {i : Int} {io : RtspIo}
    {output : List Output} (effect : TeardownEffect variant s i io after output) :
    MainEffect s after := by
  cases effect with
  | locked taken => exact .apart rfl rfl rfl
  | dangling free dead => exact .apart rfl rfl rfl
  | @done thread tinfo free armed =>
      refine .kept (.empty _) rfl ?_
      cases variant with
      | server => exact (stays_cancel thread s.fillers).trans (stays_signal io.wake _)
      | mt => exact stays_cancel thread s.fillers

theorem SwitchEffect.main {variant : Variant} {s after : ServerState} {i : Int} {io : RtspIo}
    {output : List Output} (effect : SwitchEffect variant s i io after output) :
    MainEffect s after := by
  cases effect with
  | ignored other => exact .apart rfl rfl rfl
  | failed reason output handled before => exact .apart rfl rfl rfl
  | options state type => exact .apart rfl rfl rfl
  | described state type downloaded => exact .apart rfl rfl rfl
  | fetched state type absent fetch => exact .apart rfl rfl rfl
  | @setup rtp rtcp session text state type sockets =>
      obtain ⟨kernel, opened⟩ := openUdp_eq s rtp rtcp
      rw [opened]
      exact .apart rfl rfl rfl
  | played state type absent free => exact .kept (.push io.now 100 _) rfl (.refl _)
  | unopened state type downloaded unopened => exact .launched (.refl _) rfl rfl
  | launched state type downloaded opened =>
      exact .launched ((QueueMoves.push io.now 100 _).trans (.push io.later 2000 _)) rfl rfl

/-- The effect of a step behind a change which does not concern it. -/
theorem MainEffect.behind {s middle after : ServerState} (effect : MainEffect middle after)
    (queue : middle.queue = s.queue) (lock : middle.lock = s.lock)
    (fillers : middle.fillers = s.fillers) (allocated : middle.allocated = s.allocated) :
    MainEffect s after := by
  cases effect with
  | kept moves kept stays => exact .kept (queue ▸ moves) (kept.trans lock) (fillers ▸ stays)
  | launched moves kept launched =>
      rw [fillers, allocated] at launched
      exact .launched (queue ▸ moves) (kept.trans lock) launched

/-- A receipt is such a change. -/
theorem MainEffect.received {s received after : ServerState} {i : Int} {bytes : List UInt8}
    {prior : List Output} (effect : MainEffect received after)
    (receive : ReceiveEffect s i bytes received prior) : MainEffect s after := by
  cases receive with
  | closed opened empty => exact effect.behind rfl rfl rfl rfl
  | message opened nonempty terminated parsed => exact effect.behind rfl rfl rfl rfl

/-- So is the step to the next descriptor. -/
theorem MainEffect.dispatched {s after : ServerState} {pc : MainPc}
    (effect : MainEffect { s with pc := pc } after) : MainEffect s after :=
  effect.behind rfl rfl rfl rfl

theorem RtspEffect.main {variant : Variant} {s after : ServerState} {i : Int} {io : RtspIo}
    {output : List Output} (effect : RtspEffect variant s i io after output) : MainEffect s after := by
  cases effect with
  | failed reason unread => exact .apart rfl rfl rfl
  | teardown receive type effect => exact effect.main.received receive
  | switched receive type effect => exact effect.main.received receive

/-- A step is one of the main thread or of a filler. -/
theorem step_main {variant : Variant} {url : List UInt8} {s after : ServerState} {input : Input}
    {output : List Output} (taken : step variant url s input = .ok (after, output)) :
    MainEffect s after ∨ ∃ k action filler, s.fillers[k]? = some filler ∧
      FillerMove s k filler action after := by
  cases step_cases taken with
  | timeout pc set effect => exact Or.inl effect.main
  | interrupted pc => exact Or.inl (.apart rfl rfl rfl)
  | ready pc members => exact Or.inl (.apart rfl rfl rfl)
  | accept pc branch possible effect => cases effect <;> exact Or.inl (.apart rfl rfl rfl)
  | datagram pc branch effect =>
      cases effect
      exact Or.inl (.apart rfl rfl rfl)
  | media pc branch possible effect => exact Or.inl effect.main.dispatched
  | rtsp pc branch possible effect => exact Or.inl effect.main.dispatched
  | rearmed pc free =>
      rw [ServerState.rearm, locked_free free]
      exact Or.inl (.apart rfl rfl rfl)
  | rearmLocked pc taken => exact Or.inl (.apart rfl rfl rfl)
  | @filler k action _ effect =>
      obtain ⟨filler, there, move⟩ := handleFiller_moves (step_filler taken).1
      exact Or.inr ⟨k, action, filler, there, move⟩

/-! ## The filler -/

/-- The statement at which a filler stands, while it is alive. A filler which is stuck locks the mutex
it has locked itself. -/
def FillerPc.statement : FillerPc → FillPc
  | .start | .stuck => .lock
  | .waiting => .waiting
  | .woken => .woken
  | .slept => .inner
  | .tested => .relock
  | .done | .cancelled | .unwinding => .outer

/-- Its variables there. -/
def Filler.thread (filler : Filler) : FillThread where
  pc := filler.pc.statement
  quitflag := false
  mutlocked := filler.pc = .stuck
  basetime := filler.basetime
  prevTimestamp := filler.prevTimestamp

/-- The machine of the filler and the queue shows what a server has of them. -/
structure Shows (s : ServerState) (f : FillQueue) : Prop where
  queue : f.queue = s.queue
  free : s.lock = none → f.queuelock = none
  live : ∀ (k : Nat) (filler : Filler), s.fillers[k]? = some filler → filler.Live →
    f.thread = some filler.thread
  gone : (∀ filler ∈ s.fillers, ¬ filler.Live) → f.thread = none

/-- With the one live filler of a server. -/
theorem Shows.alive {s : ServerState} {k : Nat} {filler : Filler} (one : OneFiller s)
    (there : s.fillers[k]? = some filler) (alive : filler.Live) (queuelock : Option Owner)
    (free : s.lock = none → queuelock = none) : Shows s ⟨s.queue, queuelock, some filler.thread⟩ where
  queue := rfl
  free := free
  live j other here liveToo := by
    obtain rfl := one.unique there alive here liveToo
    rw [Option.some.inj (there.symm.trans here)]
  gone dead := absurd alive (dead filler (List.mem_of_getElem? there))

/-- Without one. -/
theorem Shows.dead {s : ServerState} (dead : ∀ filler ∈ s.fillers, ¬ filler.Live)
    (queuelock : Option Owner) (free : s.lock = none → queuelock = none) :
    Shows s ⟨s.queue, queuelock, none⟩ where
  queue := rfl
  free := free
  live _ filler there live := absurd live (dead filler (List.mem_of_getElem? there))
  gone _ := rfl

/-! ## The filler's steps -/

/-- The filler takes its next statement. -/
theorem moves_statement {f after : FillQueue} {thread : FillThread} (there : f.thread = some thread)
    (now : Clock) (next : Option Rtp.Frame) (unset : Timeval)
    (taken : f.statement thread now next unset = some after) : fillQueue.Moves f after := by
  refine ⟨.filler now next unset, [], ?_⟩
  simp only [fillQueue, FillQueue.step, there, Option.bind_some, taken]

/-- A statement at which nothing is read. -/
theorem moves_silent {f after : FillQueue} {thread : FillThread} (there : f.thread = some thread)
    (taken : f.statement thread someTime none ⟨0, 0⟩ = some after) : fillQueue.Moves f after :=
  moves_statement there someTime none ⟨0, 0⟩ taken

/-- It tests the size of the queue. -/
theorem moves_test {f : FillQueue} {thread : FillThread} {pc : FillPc} (there : f.thread = some thread)
    (inner : thread.pc = .inner)
    (outcome : (if f.queue.length < queueSize ∧ thread.quitflag = false then .relock else .outer) = pc) :
    fillQueue.Moves f { f with thread := some { thread with pc := pc } } := by
  refine moves_silent there ?_
  simp only [FillQueue.statement, inner, outcome]

theorem set_there {fillers : List Filler} {k : Nat} {filler : Filler}
    (there : fillers[k]? = some filler) (new : Filler) : (fillers.set k new)[k]? = some new :=
  List.getElem?_set_self (List.getElem?_eq_some_iff.mp there).1

section Filler

variable {s : ServerState} {k : Nat} {filler new : Filler}

/-- When the only live filler comes to its end none is alive. -/
theorem OneFiller.ended (one : OneFiller s) (there : s.fillers[k]? = some filler)
    (alive : filler.Live) (gone : ¬ new.Live) : ∀ filler ∈ s.fillers.set k new, ¬ filler.Live := by
  intro other member live
  obtain ⟨j, here⟩ := List.mem_iff_getElem?.mp member
  rcases getElem?_set_cases there here with ⟨rfl, rfl⟩ | ⟨other, before⟩
  · exact gone live
  · exact other (one.unique there alive before live)

/-- A cancelled filler takes the mutex with it, which nobody sees who is alive. -/
theorem Shows.unwound {f : FillQueue} (shows : Shows s f) (there : s.fillers[k]? = some filler)
    (dead : ¬ filler.Live) (gone : ¬ new.Live) :
    Shows { s with lock := some k, fillers := s.fillers.set k new } f where
  queue := shows.queue
  free := nofun
  live j found here live := by
    rcases getElem?_set_cases there here with ⟨rfl, rfl⟩ | ⟨-, before⟩
    · exact absurd live gone
    · exact shows.live j found before live
  gone none := shows.gone fun found member live => by
    obtain ⟨j, here⟩ := List.mem_iff_getElem?.mp member
    by_cases same : k = j
    · subst same
      obtain rfl := Option.some.inj (there.symm.trans here)
      exact dead live
    · have still : (s.fillers.set k new)[j]? = some found := (List.getElem?_set_ne same).trans here
      exact none found (List.mem_of_getElem? still) live

/-- The push of a filler which stands behind the test, with the mutex locked, and the statements up to
the next test or the end. -/
theorem pushNext_shows (one : OneFiller s) (there : s.fillers[k]? = some filler)
    (alive : filler.Live) (basetime : Clock) (next : Option Rtp.Frame) (unset : Timeval)
    (mutlocked : Bool) (oneAfter : OneFiller (s.pushNext k filler basetime next unset)) :
    ∃ after, fillQueue.Reaches
        ⟨s.queue, some .filler, some ⟨.push, false, mutlocked, some basetime, filler.prevTimestamp⟩⟩
        after ∧ Shows (s.pushNext k filler basetime next unset) after := by
  cases next with
  | none =>
      refine ⟨_, ?_, .dead (one.ended there alive fun live => live.1 rfl) none fun _ => rfl⟩
      refine .head (moves_statement rfl basetime none unset rfl) ?_
      refine .head (moves_silent rfl rfl) ?_
      refine .head (moves_test rfl rfl (if_neg fun room => nomatch room.2)) ?_
      exact .single (moves_silent rfl rfl)
  | some frame =>
      refine ⟨_, ?_, .alive oneAfter (set_there there _) ⟨nofun, nofun, nofun⟩ none fun _ => rfl⟩
      refine .head (moves_statement rfl basetime (some frame) unset rfl) ?_
      exact .single (moves_silent rfl rfl)

/-- A step of a filler is some statements of the filler shown. -/
theorem FillerMove.shown {after : ServerState} {action : FillerAction} {f : FillQueue}
    (move : FillerMove s k filler action after) (there : s.fillers[k]? = some filler)
    (one : OneFiller s) (oneAfter : OneFiller after) (shows : Shows s f) :
    ∃ next, fillQueue.Reaches f next ∧ Shows after next := by
  obtain ⟨queue, queuelock, thread⟩ := f
  obtain rfl : queue = s.queue := shows.queue
  have standing : filler.Live → thread = some filler.thread := shows.live k filler there
  have free : s.lock = none → queuelock = none := shows.free
  obtain ⟨pc, tinfo, basetime, prevTimestamp⟩ := filler
  cases move with
  | wait start unlocked =>
      obtain rfl : pc = .start := start
      obtain rfl := standing ⟨nofun, nofun, nofun⟩
      obtain rfl := free unlocked
      refine ⟨_, ?_, .alive oneAfter (set_there there _) ⟨nofun, nofun, nofun⟩ none fun _ => rfl⟩
      refine .head (moves_silent rfl rfl) ?_
      exact .single (moves_silent rfl rfl)
  | spurious waiting =>
      obtain rfl : pc = .waiting := waiting
      obtain rfl := standing ⟨nofun, nofun, nofun⟩
      refine ⟨_, ?_, .alive oneAfter (set_there there _) ⟨nofun, nofun, nofun⟩ queuelock free⟩
      exact .single ⟨.wake, [], rfl⟩
  | @resume now next unset woken unlocked room =>
      obtain rfl : pc = .woken := woken
      have alive : Filler.Live ⟨.woken, tinfo, basetime, prevTimestamp⟩ := ⟨nofun, nofun, nofun⟩
      obtain rfl := standing alive
      obtain rfl := free unlocked
      obtain ⟨last, reaches, shown⟩ := pushNext_shows one there alive (basetime.getD now) next unset
        true oneAfter
      refine ⟨last, ?_, shown⟩
      refine .head (moves_statement rfl now none ⟨0, 0⟩ rfl) ?_
      refine .head (moves_test rfl rfl (if_pos ⟨room, rfl⟩)) ?_
      exact .head (moves_silent rfl rfl) reaches
  | @stuck now next unset woken unlocked full =>
      obtain rfl : pc = .woken := woken
      obtain rfl := standing ⟨nofun, nofun, nofun⟩
      obtain rfl := free unlocked
      refine ⟨_, ?_, .alive oneAfter (set_there there _) ⟨nofun, nofun, nofun⟩ (some .filler) nofun⟩
      refine .head (moves_statement rfl now none ⟨0, 0⟩ rfl) ?_
      refine .head (moves_test rfl rfl (if_neg fun room => full room.1)) ?_
      exact .single (moves_silent rfl rfl)
  | test slept =>
      obtain rfl : pc = .slept := slept
      obtain rfl := standing ⟨nofun, nofun, nofun⟩
      by_cases room : s.queue.length < queueSize
      · rw [if_pos room] at oneAfter ⊢
        refine ⟨_, ?_, .alive oneAfter (set_there there _) ⟨nofun, nofun, nofun⟩ queuelock free⟩
        refine .head (moves_test rfl rfl (if_pos ⟨room, rfl⟩)) ?_
        exact .refl
      · rw [if_neg room] at oneAfter ⊢
        refine ⟨_, ?_, .alive oneAfter (set_there there _) ⟨nofun, nofun, nofun⟩ queuelock free⟩
        refine .head (moves_test rfl rfl (if_neg fun tested => room tested.1)) ?_
        exact .single (moves_silent rfl rfl)
  | @push next unset known tested unlocked same =>
      obtain rfl : pc = .tested := tested
      obtain rfl : basetime = some known := same
      have alive : Filler.Live ⟨.tested, tinfo, some known, prevTimestamp⟩ := ⟨nofun, nofun, nofun⟩
      obtain rfl := standing alive
      obtain rfl := free unlocked
      obtain ⟨last, reaches, shown⟩ := pushNext_shows one there alive known next unset false oneAfter
      exact ⟨last, .head (moves_silent rfl rfl) reaches, shown⟩
  | unwind unwinding unlocked =>
      obtain rfl : pc = .unwinding := unwinding
      have gone : ¬ Filler.Live ⟨.cancelled, tinfo, basetime, prevTimestamp⟩ := fun live =>
        live.2.1 rfl
      exact ⟨_, .refl, shows.unwound there (fun live => live.2.2 rfl) gone⟩

end Filler

/-! ## The servers -/

/-- A step of the main thread is some steps of the main thread shown: what it does to the queue, and
then the end of the filler's wait, its cancellation or its creation. -/
theorem MainEffect.shown {s after : ServerState} {f : FillQueue} (effect : MainEffect s after)
    (oneAfter : OneFiller after) (shows : Shows s f) :
    ∃ next, fillQueue.Reaches f next ∧ Shows after next := by
  obtain ⟨queue, queuelock, thread⟩ := f
  obtain rfl : queue = s.queue := shows.queue
  cases effect with
  | kept queue lock stays =>
      have free : after.lock = none → queuelock = none := fun unlocked =>
        shows.free (lock ▸ unlocked)
      by_cases lives : ∃ (k : Nat) (filler : Filler), after.fillers[k]? = some filler ∧ filler.Live
      · obtain ⟨k, filler, there, alive⟩ := lives
        obtain ⟨earlier, before, aliveBefore, how⟩ := stays k filler there alive
        obtain rfl : thread = some earlier.thread := shows.live k earlier before aliveBefore
        refine ⟨_, ?_, .alive oneAfter there alive queuelock free⟩
        rcases how with rfl | ⟨waiting, rfl⟩
        · exact queue queuelock _
        · have wakes : fillQueue.Moves ⟨after.queue, queuelock, some earlier.thread⟩
              ⟨after.queue, queuelock, some (Filler.thread { earlier with pc := .woken })⟩ := by
            obtain ⟨pc, tinfo, basetime, prevTimestamp⟩ := earlier
            obtain rfl : pc = .waiting := waiting
            exact ⟨.wake, [], rfl⟩
          exact .tail (queue queuelock _) wakes
      · have dead : ∀ filler ∈ after.fillers, ¬ filler.Live := fun filler member alive => by
          obtain ⟨k, there⟩ := List.mem_iff_getElem?.mp member
          exact lives ⟨k, filler, there, alive⟩
        exact ⟨_, .tail (queue queuelock thread) ⟨.cancel, [], rfl⟩, .dead dead queuelock free⟩
  | launched queue lock fillers =>
      have free : after.lock = none → queuelock = none := fun unlocked =>
        shows.free (lock ▸ unlocked)
      have last : after.fillers[s.fillers.length]? = some ⟨.start, s.allocated, none, none⟩ := by
        rw [fillers, List.getElem?_concat_length]
      have alive : Filler.Live ⟨.start, s.allocated, none, none⟩ := ⟨nofun, nofun, nofun⟩
      have dead : ∀ filler ∈ s.fillers, ¬ filler.Live := fun filler member live => by
        obtain ⟨k, there⟩ := List.mem_iff_getElem?.mp member
        have short := (List.getElem?_eq_some_iff.mp there).1
        have still : after.fillers[k]? = some filler := by
          rw [fillers, List.getElem?_append_left short, there]
        exact absurd (oneAfter.unique still live last alive) short.ne
      obtain rfl : thread = none := shows.gone dead
      refine ⟨_, ?_, .alive oneAfter last alive queuelock free⟩
      refine .tail (.tail (queue queuelock none) ⟨.create, [], rfl⟩) ?_
      exact moves_silent rfl rfl

/-- While PLAYs find no live filler, the machine of the filler and the queue shows what a server does. -/
theorem fillQueue_shows (variant : Variant) (url : List UInt8) :
    Machine.Follows (machine variant url) fillQueue (fun _ => PlaysAlone)
      fun s f => DownloadOrder s ∧ OneFiller s ∧ Shows s f where
  initial s initial := by
    have none : ∀ filler : Filler, filler ∉ s.fillers := by
      rw [Initial.fillers initial]
      exact fun _ => List.not_mem_nil
    refine ⟨⟨s.queue, .none, .none⟩, ?_, downloadOrder_initial initial, ?_, ?_⟩
    · rw [Initial.queue initial]
      rfl
    · exact fun k filler there => absurd (List.mem_of_getElem? there) (none filler)
    · exact .dead (fun filler member => absurd member (none filler)) .none fun _ => rfl
  step := by
    rintro past s input after output f ⟨order, one, shows⟩ alone taken
    have oneAfter := (oneFiller_step_iff order one taken).mpr alone
    have orderAfter := downloadOrder_kept order taken
    rcases step_main taken with effect | ⟨k, action, filler, there, move⟩
    · obtain ⟨next, reaches, shown⟩ := effect.shown oneAfter shows
      exact ⟨next, reaches, orderAfter, oneAfter, shown⟩
    · obtain ⟨next, reaches, shown⟩ := move.shown there one oneAfter shows
      exact ⟨next, reaches, orderAfter, oneAfter, shown⟩

/-- In every run of either server whose PLAYs find no live filler, the media events in the queue are at
no point more than `QUEUESIZE`. -/
theorem server_mediaCount_le {variant : Variant} {url : List UInt8}
    {trace : List (Entry ServerState Input Output)} {state : ServerState}
    (run : (machine variant url).Runs trace state)
    (alone : Machine.Throughout (fun _ => PlaysAlone) trace) :
    Machine.Always (fun _ s => mediaCount s.queue ≤ queueSize) trace state := by
  refine (fillQueue_shows variant url).always run alone (fun fine => (bounded_always fine).here.fits) ?_
  rintro s f ⟨-, -, shows⟩ fits
  exact shows.queue ▸ fits

end Http2Rtsp.Server
