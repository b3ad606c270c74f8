import Http2Rtsp.Message.Replies
import Http2Rtsp.Message.Sip
import Http2Rtsp.Pacing.Queue
import Http2Rtsp.Server.Download

/-!
# The state of the servers

`start_server` and `start_mt_server` share their main loop, so they share a
state: the variables of the loop, the queue and its lock, the filler threads
and the descriptors the kernel has open. `mt` adds the SIP side.
-/

namespace Http2Rtsp.Server

open Http2Rtsp.Std Http2Rtsp.Message Http2Rtsp.Pacing

/-- Which of the two servers runs. -/
inductive Variant where
  | server
  | mt
deriving DecidableEq

/-- `QUEUESIZE`. -/
def queueSize : Nat := 200

/-- `MAXCLIENTS`. -/
def maxClients : Nat := 10

/-- `BUFLEN`. -/
def bufLen : Nat := 5000

/-- Why the main thread takes no further step. -/
inductive Halt where
  | undefined (reason : Undefined)
  | exited
  /-- It waits for a mutex whose owner never unlocks it. -/
  | deadlock
deriving DecidableEq

/-- Where the main thread stands. -/
inductive MainPc where
  /-- In `Select`. -/
  | select
  /-- In the loop over the descriptors, with those which are still to be handled. -/
  | dispatch (ready : List Int)
  | halted (reason : Halt)
deriving DecidableEq

/-- Where a filler thread stands in `fill_queue`. -/
inductive FillerPc where
  /-- Before it locks the mutex and waits for the condition. -/
  | start
  | waiting
  /-- The wait is over as soon as the mutex is free. -/
  | woken
  /-- Behind the unlocking of the mutex, before the test of the inner loop. -/
  | slept
  /-- The test has passed, the mutex is not yet locked. -/
  | tested
  /-- Locking the mutex it owns. -/
  | stuck
  /-- It has met the end of the file and exited. -/
  | done
  | cancelled
  /-- Cancelled in the wait, which ends by locking the mutex. -/
  | unwinding
deriving DecidableEq

/-- A thread of `fill_queue`. `tinfo` is its argument; what is not yet assigned is `none`. -/
structure Filler where
  pc : FillerPc
  tinfo : Nat
  basetime : Option Clock
  prevTimestamp : Option Timeval

/-- The filler has been created and has neither been cancelled nor reached the end of the file. -/
def Filler.Live (filler : Filler) : Prop :=
  filler.pc ≠ .done ∧ filler.pc ≠ .cancelled ∧ filler.pc ≠ .unwinding

instance (filler : Filler) : Decidable filler.Live :=
  inferInstanceAs (Decidable (_ ∧ _ ∧ _))

/-- The SIP side of `start_mt_server`. -/
structure Sip where
  siplistenfd : Int
  nclients : Int
  clientlist : Fin maxClients → Option SIPClient
  sipmasterfds : Int → Bool
  sipInbuf : List UInt8

/-- The state of a server. Descriptor sets are their membership tests; `fillers` and the
`ThreadInfo`s allocated are numbered in the order of their creation. -/
structure ServerState where
  pc : MainPc
  kernel : Int → Option Endpoint
  listenfd : Int
  videofd : Int
  mediafd : Int
  maxfd : Int
  masterfds : Int → Bool
  timeind : Option Timeval
  download : Download
  rtspmsg : RTSPMsg
  streamclient : Client
  threadid : Option Nat
  tinfo : Option Nat
  rtpseqnoVideo : UInt16
  rtpseqnoAudio : UInt16
  queue : List TimeoutEvent
  /-- The filler which owns `queuelock` for good, if one does. -/
  lock : Option Nat
  fillers : List Filler
  allocated : Nat
  freed : List Nat
  sip : Sip

/-- What can be seen of a step. -/
inductive Output where
  /-- An RTSP client was accepted on this descriptor. -/
  | connected (fd : Int)
  /-- An RTSP client was turned away. -/
  | rejected
  /-- `recv` returned 0 on a descriptor of the RTSP branch. -/
  | disconnected (fd : Int)
  /-- The code for a request of this type was run. -/
  | acted (fd : Int) (type : RtspMsgType)
  | reply (fd : Int) (text : List UInt8)
  /-- A connection to the source was opened; it is going to send this response. -/
  | fetched (fd : Int) (request response : List UInt8)
  | launched (filler : Nat)
  | videoFrame (fd : Int) (frame : Rtp.Frame) (seqnum : UInt16)
  | audioFrame (fd : Int) (frame : Rtp.Frame) (seqnum : UInt16)
  | dummy (fd : Int) (seqnum : UInt16)
  /-- `CHECKMEDIASTATE` timeouts of a session were pushed. -/
  | armed
  /-- The `ENDOFSTREAM` event was dequeued. -/
  | endOfStream
  | contextClosed (tinfo : Nat)
  | freed (tinfo : Nat)
  /-- A 200 OK was sent to a SIP client: the buffer and the length sent of it. -/
  | okSent (text : List UInt8) (size : Nat) (cliaddr : SockAddr)
  | byeSent (text : List UInt8) (cliaddr : SockAddr)
  | undefined (reason : Undefined)

/-- What a handler makes of the state. -/
abbrev Outcome := ServerState × List Output

/-! ## Descriptors -/

/-- `FD_SET`. -/
def fdSet (fds : Int → Bool) (fd : Int) : Int → Bool := Function.update fds fd true

/-- `FD_CLR`. -/
def fdClr (fds : Int → Bool) (fd : Int) : Int → Bool := Function.update fds fd false

/-- The kernel gives a new descriptor any number which is not open. -/
def ServerState.Fresh (s : ServerState) (fd : Int) : Prop := 0 ≤ fd ∧ s.kernel fd = none

instance (s : ServerState) (fd : Int) : Decidable (s.Fresh fd) :=
  inferInstanceAs (Decidable (_ ∧ _))

/-- `close`. -/
def ServerState.close (s : ServerState) (fd : Int) : ServerState :=
  { s with kernel := Function.update s.kernel fd none }

/-- A descriptor is opened. -/
def ServerState.openFd (s : ServerState) (fd : Int) (endpoint : Endpoint) : ServerState :=
  { s with kernel := Function.update s.kernel fd (some endpoint) }

/-- `recv` on the descriptor may return these bytes. On a closed one it fails. -/
def ServerState.CanRecv (s : ServerState) (fd : Int) (size : Nat) (bytes : List UInt8) : Prop :=
  ∀ endpoint, s.kernel fd = some endpoint → endpoint.delivers size bytes = true

instance (s : ServerState) (fd : Int) (size : Nat) (bytes : List UInt8) :
    Decidable (s.CanRecv fd size bytes) :=
  match known : s.kernel fd with
  | none => isTrue fun endpoint found => by rw [known] at found; cases found
  | some endpoint =>
      decidable_of_iff (endpoint.delivers size bytes = true) <| by
        simp [ServerState.CanRecv, known]

/-- The bytes are received. -/
def ServerState.recv (s : ServerState) (fd : Int) (bytes : List UInt8) : ServerState :=
  { s with kernel := Function.update s.kernel fd ((s.kernel fd).map fun e => e.consume bytes) }

/-! ## Outcomes -/

/-- The main thread takes no further step. -/
def ServerState.halt (s : ServerState) (reason : Halt) : Outcome :=
  ({ s with pc := .halted reason },
    match reason with
    | .undefined reason => [.undefined reason]
    | _ => [])

/-- Sequencing: what follows happens unless the main thread has halted. -/
def Outcome.andThen (outcome : Outcome) (next : ServerState → Outcome) : Outcome :=
  match outcome.1.pc with
  | .halted _ => outcome
  | _ => ((next outcome.1).1, outcome.2 ++ (next outcome.1).2)

/-- `lock_mutex(&queuelock)`: the section behind it is entered unless the mutex is never unlocked. -/
def ServerState.locked (s : ServerState) (section_ : ServerState → Outcome) : Outcome :=
  if s.lock = none then section_ s else s.halt .deadlock

/-- `push_timeout`. -/
def ServerState.pushTimeout (s : ServerState) (now : Clock) (timeMs : Nat) (type : EventType) :
    ServerState :=
  { s with queue := pushed ⟨timeoutTime now timeMs, type⟩ s.queue }

end Http2Rtsp.Server
