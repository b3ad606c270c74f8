import Http2Rtsp.Sockets.UdpServer
import Http2Rtsp.Std.Blocks
import Http2Rtsp.Std.Decimal

/-!
# The sockets which call out

`resolve_host` stores a list of addresses behind the caller's pointer `info`, and
`client_socket` walks along it, up to an address to which a socket connects. A
socket of its own which did not connect is closed again; the list is freed when
one did, and left to the pointer when none did. What `getaddrinfo`, `socket`,
`bind` and `connect` come to is an argument of the model.
-/

namespace Http2Rtsp

open Http2Rtsp.Std

/-! ## The calls -/

/-- What the calls of `client_socket` come to at an entry: the descriptor of `socket`; whether the own
address is resolved, and if so whether `bind` succeeds; and whether `connect` does. -/
structure Dial where
  sockfd : Option Int
  own : Option Bool
  connects : Bool

/-- Where the answers run out, `socket` fails. -/
def Dial.unanswered : Dial := ⟨none, none, false⟩

/-- What `getaddrinfo` finds: one entry at least. -/
structure Found where
  entries : List AddrInfo
  nonempty : entries ≠ []

/-- Where `info` leads: to a list in use, or to none. -/
inductive Info where
  | dangling
  | list (address : Nat) (entries : List AddrInfo)

/-- The list which is in use because of the pointer. -/
def Info.blocks : Info → List Nat
  | .dangling => []
  | .list address _ => [address]

/-- The descriptors, what was allocated and freed for lists of addresses, and `info`. -/
structure Net (α : Type) where
  kernel : Int → Option α
  past : List MemoryEvent
  info : Info

/-- Why the program does not come back from a call. -/
inductive SocketStop where
  | exited
  | undefined (reason : Undefined)
  /-- The own address is not found, and `ownaddr` leads nowhere. -/
  | ownaddr (reason : Undefined)
deriving DecidableEq

section Calls

variable {α : Type} (malloc : Malloc)

/-- `resolve_host`. Where `getaddrinfo` fails the pointer is what it was. -/
def Net.resolveHost (net : Net α) (found : Option Found) : Net α :=
  match found with
  | none => net
  | some found =>
      { net with
        past := net.past ++ [.allocated (malloc net.past)]
        info := .list (malloc net.past) found.entries }

/-- The binding of the socket to an own port, at an address which is looked up for it. `ownaddr` is what
following the pointer would come to if it is not found. -/
def Net.bindOwn (net : Net α) (bindport : Int) (ownaddr : Undefined) (own : Option Bool) :
    Except SocketStop (Net α) :=
  if 0 < bindport then
    -- `sprintf` into `portstr`.
    if (decimal bindport).length < 10 then
      match own with
      | none => .error (.ownaddr ownaddr)
      | some false => .error .exited
      | some true =>
          .ok { net with
            past := net.past ++ [.allocated (malloc net.past)] ++ [.freed (malloc net.past)] }
    else .error (.undefined .overflow)
  else .ok net

/-- The loop of `client_socket`; none when it comes to the end of the list. Behind a round with a socket
`ownaddr` leads to what was freed. -/
def Net.clientSocketLoop (endpoint : α) (bindport : Int) :
    Undefined → List AddrInfo → List Dial → Net α → Except SocketStop (Option Int × Net α)
  | _, [], _, net => .ok (none, net)
  | ownaddr, _ :: aiNext, dials, net =>
      let dial := dials.headD .unanswered
      match dial.sockfd with
      | none => clientSocketLoop endpoint bindport ownaddr aiNext dials.tail net
      | some sockfd => do
          let opened := { net with kernel := Function.update net.kernel sockfd (some endpoint) }
          let bound ← opened.bindOwn malloc bindport ownaddr dial.own
          if dial.connects then .ok (some sockfd, bound)
          else
            clientSocketLoop endpoint bindport .dangling aiNext dials.tail
              { bound with kernel := Function.update bound.kernel sockfd none }

/-- `client_socket`. -/
def Net.clientSocket (endpoint : α) (bindport : Int) (dials : List Dial) (net : Net α) :
    Except SocketStop (Int × Net α) :=
  match net.info with
  | .dangling => .error (.undefined .dangling)
  | .list address entries => do
      match ← net.clientSocketLoop malloc endpoint bindport .unset entries dials with
      | (none, net) => .ok (-1, net)
      | (some sockfd, net) =>
          .ok (sockfd, { net with past := net.past ++ [.freed address], info := .dangling })

/-- How a host is found and dialled. -/
structure Connection where
  found : Option Found
  dials : List Dial

/-- `resolve_host`, and `client_socket` behind it. -/
def Net.connect (net : Net α) (endpoint : α) (bindport : Int) (connection : Connection) :
    Except SocketStop (Int × Net α) :=
  (net.resolveHost malloc connection.found).clientSocket malloc endpoint bindport connection.dials

/-- The sockets of a SETUP, bound to the ports. `peer` tells whether `write_remote_ip` gets an address. -/
def Net.connectPair (net : Net α) (endpoint : α) (ports : Nat × Nat) (peer : Bool)
    (rtp rtcp : Connection) : Except SocketStop ((Int × Int) × Net α) :=
  if peer then do
    let (rtpfd, net) ← net.connect malloc endpoint ports.1 rtp
    let (rtcpfd, net) ← net.connect malloc endpoint ports.2 rtcp
    .ok ((rtpfd, rtcpfd), net)
  else .error .exited

end Calls

/-! ## What they leave -/

/-- The descriptors of `socket` are new. -/
def DialsFresh {α : Type} (kernel : Int → Option α) (dials : List Dial) : Prop :=
  ∀ dial ∈ dials, ∀ sockfd ∈ dial.sockfd, 0 ≤ sockfd ∧ kernel sockfd = none

instance {α : Type} (kernel : Int → Option α) (dials : List Dial) : Decidable (DialsFresh kernel dials) :=
  inferInstanceAs (Decidable (∀ dial ∈ dials, ∀ sockfd ∈ dial.sockfd, _ ∧ _))

/-- The descriptor which a call returned is the only one it has opened; -1 stands for none. -/
def OpenedOnly {α : Type} (endpoint : α) (before after : Int → Option α) (sockfd : Int) : Prop :=
  (sockfd = -1 ∧ after = before) ∨
    0 ≤ sockfd ∧ before sockfd = none ∧ after = Function.update before sockfd (some endpoint)

/-- The answers to the later calls are new as well. -/
theorem DialsFresh.tail {α : Type} {kernel : Int → Option α} {dials : List Dial}
    (new : DialsFresh kernel dials) : DialsFresh kernel dials.tail :=
  fun dial member => new dial (List.mem_of_mem_tail member)

theorem DialsFresh.head {α : Type} {kernel : Int → Option α} {dials : List Dial}
    (new : DialsFresh kernel dials) {sockfd : Int}
    (socket : (dials.headD .unanswered).sockfd = some sockfd) : 0 ≤ sockfd ∧ kernel sockfd = none := by
  cases dials with
  | nil => cases socket
  | cons dial later => exact new dial List.mem_cons_self sockfd socket

section Spec

variable {α : Type} {malloc : Malloc} {net after : Net α} {endpoint : α} {bindport : Int}
  {blocks : List Nat}

/-- The list for the own address is freed. -/
theorem bindOwn_spec (fresh : malloc.Fresh) (owns : Owns net.past blocks) {ownaddr : Undefined}
    {own : Option Bool} (bound : net.bindOwn malloc bindport ownaddr own = .ok after) :
    after.kernel = net.kernel ∧ after.info = net.info ∧ Owns after.past blocks := by
  unfold Net.bindOwn at bound
  split at bound
  · split at bound
    · split at bound
      · cases bound
      · cases bound
      · cases bound
        exact ⟨rfl, rfl, (owns.allocate (owns.unused fresh)).free⟩
    · cases bound
  · cases bound
    exact ⟨rfl, rfl, owns⟩

/-- Whatever the loop has opened is closed, but the socket which connected. -/
theorem clientSocketLoop_spec (fresh : malloc.Fresh) (owns : Owns net.past blocks)
    {ownaddr : Undefined} {entries : List AddrInfo} {dials : List Dial}
    (new : DialsFresh net.kernel dials) {result : Option Int} (returned :
      net.clientSocketLoop malloc endpoint bindport ownaddr entries dials = .ok (result, after)) :
    OpenedOnly endpoint net.kernel after.kernel (result.getD (-1)) ∧
      (∀ sockfd, result = some sockfd → 0 ≤ sockfd) ∧ after.info = net.info ∧
      Owns after.past blocks := by
  induction entries generalizing ownaddr dials net with
  | nil =>
      cases returned
      refine ⟨Or.inl ⟨rfl, rfl⟩, fun sockfd same => ?_, rfl, owns⟩
      cases same
  | cons step aiNext ih =>
      have later := new.tail
      rw [Net.clientSocketLoop] at returned
      cases socket : (dials.headD .unanswered).sockfd with
      | none =>
          simp only [socket] at returned
          exact ih owns later returned
      | some sockfd =>
          obtain ⟨positive, unused⟩ := new.head socket
          simp only [socket] at returned
          obtain ⟨bound, binds, returned⟩ := bind_eq_ok_iff.mp returned
          let opened : Net α :=
            { net with kernel := Function.update net.kernel sockfd (some endpoint) }
          obtain ⟨kernel, info, owns'⟩ := @bindOwn_spec α malloc opened _ _ _ fresh owns _ _ binds
          split at returned
          · cases returned
            refine ⟨Or.inr ⟨positive, unused, kernel⟩, fun other same => ?_, info, owns'⟩
            cases same
            exact positive
          · have closed : Function.update bound.kernel sockfd none = net.kernel := by
              rw [kernel, Function.update_idem, ← unused, Function.update_eq_self]
            rw [closed] at returned
            let back : Net α := { bound with kernel := net.kernel }
            obtain ⟨opened, nonneg, info', owns''⟩ :=
              ih (show Owns back.past blocks from owns') later returned
            exact ⟨opened, nonneg, info'.trans info, owns''⟩

/-- The port always fits its text, so the binding fails for the calls only. -/
theorem bindOwn_stops {ownaddr : Undefined} {own : Option Bool} {reason : SocketStop}
    (short : (decimal bindport).length < 10)
    (stopped : net.bindOwn malloc bindport ownaddr own = .error reason) :
    reason = .exited ∨ ∃ ownaddr, reason = .ownaddr ownaddr := by
  unfold Net.bindOwn at stopped
  rw [if_pos short] at stopped
  split at stopped
  · split at stopped
    · cases stopped
      exact Or.inr ⟨ownaddr, rfl⟩
    · cases stopped
      exact Or.inl rfl
    · cases stopped
  · cases stopped

/-- What the calls at an own address come to is the only thing which ends the loop early. -/
theorem clientSocketLoop_stops {ownaddr : Undefined} {entries : List AddrInfo} {dials : List Dial}
    {reason : SocketStop} (short : (decimal bindport).length < 10)
    (stopped : net.clientSocketLoop malloc endpoint bindport ownaddr entries dials = .error reason) :
    reason = .exited ∨ ∃ ownaddr, reason = .ownaddr ownaddr := by
  induction entries generalizing ownaddr dials net with
  | nil => cases stopped
  | cons step aiNext ih =>
      rw [Net.clientSocketLoop] at stopped
      split at stopped
      · exact ih stopped
      · rename_i sockfd socket
        cases bound : Net.bindOwn malloc
            { net with kernel := Function.update net.kernel sockfd (some endpoint) } bindport ownaddr
            (dials.headD .unanswered).own with
        | ok after =>
            simp only [bound, bind, Except.bind] at stopped
            split at stopped
            · cases stopped
            · exact ih stopped
        | error early =>
            simp only [bound, bind, Except.bind] at stopped
            cases stopped
            exact bindOwn_stops short bound

/-- `client_socket` opens what it returns and nothing else, and frees the list exactly when it returns a
socket. -/
theorem clientSocket_spec (fresh : malloc.Fresh) {lost : List Nat}
    (owns : Owns net.past (net.info.blocks ++ lost)) {dials : List Dial}
    (new : DialsFresh net.kernel dials) {sockfd : Int}
    (returned : net.clientSocket malloc endpoint bindport dials = .ok (sockfd, after)) :
    OpenedOnly endpoint net.kernel after.kernel sockfd ∧
      after.info = (if sockfd = -1 then net.info else .dangling) ∧
      Owns after.past (after.info.blocks ++ lost) := by
  unfold Net.clientSocket at returned
  cases known : net.info with
  | dangling => simp [known] at returned
  | list address entries =>
      simp only [known] at returned
      obtain ⟨⟨result, middle⟩, looped, returned⟩ := bind_eq_ok_iff.mp returned
      obtain ⟨opened, nonneg, info, owns'⟩ := clientSocketLoop_spec fresh owns new looped
      cases result with
      | none =>
          cases returned
          refine ⟨opened, by simp [info, known], ?_⟩
          rwa [info]
      | some fd =>
          cases returned
          have positive := nonneg sockfd rfl
          refine ⟨opened, ?_, ?_⟩
          · rw [if_neg (by omega)]
          · rw [known] at owns'
            exact owns'.free

/-- It follows a dangling pointer only when it is given one. -/
theorem clientSocket_stops {dials : List Dial} {reason : SocketStop}
    (short : (decimal bindport).length < 10)
    (stopped : net.clientSocket malloc endpoint bindport dials = .error reason) :
    net.info = .dangling ∨ reason = .exited ∨ ∃ ownaddr, reason = .ownaddr ownaddr := by
  unfold Net.clientSocket at stopped
  cases known : net.info with
  | dangling => exact Or.inl rfl
  | list address entries =>
      simp only [known] at stopped
      cases looped : net.clientSocketLoop malloc endpoint bindport .unset entries dials with
      | ok result =>
          obtain ⟨found, middle⟩ := result
          cases found <;> simp [looped, bind, Except.bind] at stopped
      | error early =>
          simp only [looped, bind, Except.bind] at stopped
          cases stopped
          exact Or.inr (clientSocketLoop_stops short looped)

/-! ### With the list of addresses -/

/-- The lists in use are the one behind the pointer, and those to which no pointer leads any more. -/
def Accounted (past : List MemoryEvent) (info : Info) : Prop := ∃ lost, Owns past (info.blocks ++ lost)

/-- Where the pointer led before is lost when something is found. -/
theorem resolveHost_accounted (fresh : malloc.Fresh) (accounted : Accounted net.past net.info)
    (found : Option Found) :
    Accounted (net.resolveHost malloc found).past (net.resolveHost malloc found).info := by
  obtain ⟨lost, owns⟩ := accounted
  cases found with
  | none => exact ⟨lost, owns⟩
  | some found => exact ⟨net.info.blocks ++ lost, owns.allocate (owns.unused fresh)⟩

theorem resolveHost_kernel (net : Net α) (found : Option Found) :
    (net.resolveHost malloc found).kernel = net.kernel := by
  cases found <;> rfl

/-- How many connections failed of these. -/
def failed (sockfds : List Int) : Nat := sockfds.count (-1)

/-- A connection: a socket or none is opened, the lists are accounted for, and when the host was found
there is one more in use exactly if it was not reached. -/
theorem connect_spec (fresh : malloc.Fresh) (accounted : Accounted net.past net.info)
    {connection : Connection} (new : DialsFresh net.kernel connection.dials) {sockfd : Int}
    (returned : net.connect malloc endpoint bindport connection = .ok (sockfd, after)) :
    OpenedOnly endpoint net.kernel after.kernel sockfd ∧ Accounted after.past after.info ∧
      (connection.found ≠ none → (liveAddresses after.past).length =
        (liveAddresses net.past).length + failed [sockfd]) := by
  obtain ⟨lost, owns⟩ := resolveHost_accounted fresh accounted connection.found
  have new' : DialsFresh (net.resolveHost malloc connection.found).kernel connection.dials := by
    rwa [resolveHost_kernel]
  obtain ⟨opened, info, owns'⟩ := clientSocket_spec fresh owns new' returned
  rw [resolveHost_kernel] at opened
  refine ⟨opened, ⟨lost, owns'⟩, fun some => ?_⟩
  obtain ⟨found, known⟩ := Option.ne_none_iff_exists'.mp some
  have before := owns.live.length_eq
  have behind := owns'.live.length_eq
  have one : (liveAddresses (net.resolveHost malloc connection.found).past).length =
      (liveAddresses net.past).length + 1 := by
    simp [known, Net.resolveHost, liveAddresses_snoc, trackAddress]
  have list : (net.resolveHost malloc connection.found).info.blocks.length = 1 := by
    simp [known, Net.resolveHost, Info.blocks]
  rw [info, List.length_append] at behind
  rw [List.length_append] at before
  by_cases refused : sockfd = -1
  · rw [if_pos refused] at behind
    have counted : failed [sockfd] = 1 := by simp [failed, refused]
    omega
  · rw [if_neg refused] at behind
    have counted : failed [sockfd] = 0 := by simp [failed, refused]
    have none : Info.dangling.blocks.length = 0 := rfl
    omega

/-- It stops with a bad pointer only when nothing was found. -/
theorem connect_stops {connection : Connection} {reason : SocketStop}
    (short : (decimal bindport).length < 10)
    (stopped : net.connect malloc endpoint bindport connection = .error reason) :
    connection.found = none ∨ reason = .exited ∨ ∃ ownaddr, reason = .ownaddr ownaddr := by
  rcases clientSocket_stops short stopped with dangling | other
  · refine Or.inl ?_
    cases found : connection.found with
    | none => rfl
    | some found' => simp [found, Net.resolveHost] at dangling
  · exact Or.inr other

/-- Both sockets of a pair are new and differ, or were not connected. -/
theorem connectPair_spec (fresh : malloc.Fresh) (accounted : Accounted net.past net.info)
    {ports : Nat × Nat} {peer : Bool} {rtp rtcp : Connection}
    (new : DialsFresh net.kernel rtp.dials)
    (later : ∀ sockfd middle, net.connect malloc endpoint ports.1 rtp = .ok (sockfd, middle) →
      DialsFresh middle.kernel rtcp.dials) {rtpfd rtcpfd : Int}
    (returned : net.connectPair malloc endpoint ports peer rtp rtcp = .ok ((rtpfd, rtcpfd), after)) :
    (∃ kernel, OpenedOnly endpoint net.kernel kernel rtpfd ∧
        OpenedOnly endpoint kernel after.kernel rtcpfd) ∧
      Accounted after.past after.info ∧
      (rtp.found ≠ none → rtcp.found ≠ none → (liveAddresses after.past).length =
        (liveAddresses net.past).length + failed [rtpfd, rtcpfd]) := by
  unfold Net.connectPair at returned
  split at returned
  · obtain ⟨⟨first, middle⟩, connected, returned⟩ := bind_eq_ok_iff.mp returned
    obtain ⟨⟨second, last⟩, connected', returned⟩ := bind_eq_ok_iff.mp returned
    cases returned
    obtain ⟨opened, accounted', counted⟩ := connect_spec fresh accounted new connected
    obtain ⟨opened', accounted'', counted'⟩ :=
      connect_spec fresh accounted' (later _ _ connected) connected'
    refine ⟨⟨middle.kernel, opened, opened'⟩, accounted'', fun found found' => ?_⟩
    rw [counted' found', counted found, Nat.add_assoc]
    simp only [failed, List.count_cons, List.count_nil]
    omega
  · cases returned

theorem connectPair_stops {ports : Nat × Nat} {peer : Bool} {rtp rtcp : Connection}
    {reason : SocketStop} (short : (decimal ports.1).length < 10 ∧ (decimal ports.2).length < 10)
    (stopped : net.connectPair malloc endpoint ports peer rtp rtcp = .error reason) :
    rtp.found = none ∨ rtcp.found = none ∨ reason = .exited ∨ ∃ ownaddr, reason = .ownaddr ownaddr := by
  unfold Net.connectPair at stopped
  split at stopped
  · cases connected : net.connect malloc endpoint ports.1 rtp with
    | error early =>
        simp only [connected, bind, Except.bind] at stopped
        cases stopped
        exact (connect_stops short.1 connected).imp_right Or.inr
    | ok first =>
        simp only [connected, bind, Except.bind] at stopped
        cases connected' : first.2.connect malloc endpoint ports.2 rtcp with
        | error early =>
            simp only [connected'] at stopped
            cases stopped
            exact Or.inr (connect_stops short.2 connected')
        | ok second => simp [connected'] at stopped
  · cases stopped
    exact Or.inr (Or.inr (Or.inl rfl))

end Spec

end Http2Rtsp
