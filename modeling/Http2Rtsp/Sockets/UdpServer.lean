import Mathlib.Data.List.TakeWhile
import Http2Rtsp.Std.Search

/-!
# The socket which waits for datagrams

`udp_server` walks along the addresses of `getaddrinfo`, up to one at which a socket is created and
bound. It moves on at the end of the body only, so behind a failing `socket` its `continue` comes back
to the same address.
-/

namespace Http2Rtsp

open Http2Rtsp.Std

/-- An entry of the list of `getaddrinfo`. -/
structure AddrInfo where
  aiFamily : Int
  aiSocktype : Int
  aiProtocol : Int
  aiAddr : List UInt8
  aiAddrlen : Nat
deriving DecidableEq

/-- An entry and what the calls come to there: the descriptor `socket` returns, or none when it fails,
and whether `bind` succeeds. -/
structure Candidate extends AddrInfo where
  sockfd : Option Nat
  binds : Bool
deriving DecidableEq

/-- The calls of a search. -/
inductive SocketCall where
  | socket (aiFamily aiSocktype aiProtocol : Int) (sockfd : Option Nat)
  /-- `SO_REUSEADDR`. -/
  | setsockopt (sockfd : Nat)
  | bind (sockfd : Nat) (aiAddr : List UInt8) (aiAddrlen : Nat) (succeeds : Bool)
  | close (sockfd : Nat)
  | freeaddrinfo
deriving DecidableEq

/-- What a call makes of the open descriptors. -/
def SocketCall.effect (opened : List Nat) : SocketCall → List Nat
  | .socket _ _ _ (some sockfd) => sockfd :: opened
  | .close sockfd => opened.erase sockfd
  | .socket _ _ _ none | .setsockopt _ | .bind _ _ _ _ | .freeaddrinfo => opened

/-- The descriptors which calls leave open. -/
def openAfter (calls : List SocketCall) : List Nat := calls.foldl SocketCall.effect []

/-- What a search leaves: the places at which its body was entered, its calls, and the descriptor and
the entry with which it broke off. -/
structure SocketSearch where
  visited : List (List Candidate)
  calls : List SocketCall
  stop : Option (Nat × Candidate)
deriving DecidableEq

/-- The search with a pass of the body in front. -/
def SocketSearch.behind (res : List Candidate) (calls : List SocketCall) (later : SocketSearch) :
    SocketSearch :=
  ⟨res :: later.visited, calls ++ later.calls, later.stop⟩

/-- The loop of `udp_server`. -/
def udpServerLoop : Nat → List Candidate → Option SocketSearch
  | 0, _ => none
  | _ + 1, [] => some ⟨[], [], none⟩
  | steps + 1, res :: aiNext =>
      let socket := SocketCall.socket res.aiFamily res.aiSocktype res.aiProtocol res.sockfd
      match res.sockfd with
      -- `res` is what it was.
      | none => (udpServerLoop steps (res :: aiNext)).map (.behind (res :: aiNext) [socket])
      | some sockfd =>
          let calls := [socket, .setsockopt sockfd, .bind sockfd res.aiAddr res.aiAddrlen res.binds]
          if res.binds then some ⟨[res :: aiNext], calls, some (sockfd, res)⟩ else
            (udpServerLoop steps aiNext).map (.behind (res :: aiNext) (calls ++ [.close sockfd]))

/-- How `udp_server` ends. -/
inductive UdpServerEnd where
  /-- The descriptor returned, and what is stored in `addrlenp` unless it is `NULL`. -/
  | returned (sockfd : Nat) (addrlenp : Option Nat)
  /-- By `exit(1)`. -/
  | exited
deriving DecidableEq

/-- `udp_server`. `found` is the list of `getaddrinfo`, or none when that fails. -/
def udpServer (found : Option (List Candidate)) (addrlenp : Bool) (steps : Nat) :
    Option (SocketSearch × UdpServerEnd) :=
  match found with
  | none => some (⟨[], [], none⟩, .exited)
  | some res =>
      (udpServerLoop steps res).map fun run =>
        match run.stop with
        | none => (run, .exited)
        | some (sockfd, res) =>
            ({ run with calls := run.calls ++ [.freeaddrinfo] },
              .returned sockfd (if addrlenp then some res.aiAddrlen else none))

/-! ## What is expected of it -/

/-- The descriptor of an entry for which both calls succeed. -/
def Candidate.bound (candidate : Candidate) : Option (Nat × Candidate) :=
  if candidate.binds then candidate.sockfd.map fun sockfd => (sockfd, candidate) else none

/-- `udp_server` ends, has seen each entry at most once, and returns the socket of the first one for
which both calls succeed, with no other one open; it exits when there is none. -/
def UdpServerFinds (candidates : List Candidate) (addrlenp : Bool) : Prop :=
  ∃ steps run ended, udpServer (some candidates) addrlenp steps = some (run, ended) ∧
    run.visited <+: candidates.tails ∧ run.visited.Nodup ∧
    match candidates.findSome? Candidate.bound with
    | some (sockfd, first) =>
        ended = .returned sockfd (if addrlenp then some first.aiAddrlen else none) ∧
          openAfter run.calls = [sockfd]
    | none => ended = .exited

/-- `socket` succeeds for all entries in front of the first one for which both calls do. -/
def SocketsInFront (candidates : List Candidate) : Prop :=
  ∀ candidate ∈ candidates.takeWhile (·.bound.isNone), candidate.sockfd ≠ none

/-! ## The loop as a search -/

/-- The calls made for an entry. -/
def Candidate.calls (candidate : Candidate) : List SocketCall :=
  .socket candidate.aiFamily candidate.aiSocktype candidate.aiProtocol candidate.sockfd ::
    match candidate.sockfd with
    | none => []
    | some sockfd =>
        [.setsockopt sockfd, .bind sockfd candidate.aiAddr candidate.aiAddrlen candidate.binds] ++
          if candidate.binds then [] else [.close sockfd]

/-- What `udp_server` makes of an entry. -/
def udpServerVerdict (candidate : Candidate) : Verdict :=
  if candidate.bound.isSome then .found else if candidate.sockfd.isSome then .next else .again

/-- What a search along the entries leaves. -/
def SocketSearch.of (run : List (List Candidate) × List Candidate) : SocketSearch where
  visited := run.1
  calls := (run.1.flatMap (List.take 1)).flatMap Candidate.calls
  stop := run.2.head?.bind Candidate.bound

/-- The search with the calls for the entry at its head in front. -/
def SocketSearch.entered (res : List Candidate) (later : SocketSearch) : SocketSearch :=
  later.behind res ((res.take 1).flatMap Candidate.calls)

theorem SocketSearch.entered_of (res : List Candidate)
    (run : List (List Candidate) × List Candidate) :
    SocketSearch.entered res (.of run) = .of (res :: run.1, run.2) := by
  simp [SocketSearch.entered, SocketSearch.of, SocketSearch.behind]

/-- The loop of `udp_server` stays where `socket` fails. -/
theorem udpServerLoop_eq (steps : Nat) (candidates : List Candidate) :
    udpServerLoop steps candidates = (search udpServerVerdict steps candidates).map .of := by
  apply eq_search (fun _ => rfl) (fun _ => rfl) SocketSearch.entered_of
  intro steps res aiNext
  unfold SocketSearch.entered
  rw [udpServerLoop]
  cases socket : res.sockfd with
  | none => simp [udpServerVerdict, Candidate.bound, Candidate.calls, socket]
  | some sockfd =>
      by_cases binds : res.binds <;>
        simp [udpServerVerdict, Candidate.bound, Candidate.calls, SocketSearch.of, socket, binds]

/-! ## What it leaves open -/

/-- The calls for an entry leave the descriptors which were open, and that of the entry if it is
bound. -/
theorem openAfter_calls (opened : List Nat) (candidate : Candidate) :
    candidate.calls.foldl SocketCall.effect opened =
      match candidate.bound with
      | some (sockfd, _) => sockfd :: opened
      | none => opened := by
  cases socket : candidate.sockfd with
  | none => simp [Candidate.calls, Candidate.bound, SocketCall.effect, socket]
  | some sockfd =>
      by_cases binds : candidate.binds <;>
        simp [Candidate.calls, Candidate.bound, SocketCall.effect, socket, binds]

/-- Nothing stays open of entries which are passed over. -/
theorem openAfter_passed {passed : List Candidate}
    (unbound : ∀ candidate ∈ passed, candidate.bound = none) :
    openAfter (passed.flatMap Candidate.calls) = [] := by
  induction passed with
  | nil => rfl
  | cons candidate passed ih =>
      obtain ⟨here, later⟩ := List.forall_mem_cons.mp unbound
      rw [openAfter, List.flatMap_cons, List.foldl_append, openAfter_calls, here]
      exact ih later

/-- What a search has come to which ended. -/
structure SocketFound (candidates : List Candidate) (run : SocketSearch) : Prop where
  inOrder : run.visited <+: candidates.tails
  once : run.visited.Nodup
  stop_eq : run.stop = candidates.findSome? Candidate.bound
  opened : openAfter run.calls = (run.stop.map Prod.fst).toList

theorem udpServerVerdict_found (candidate : Candidate) :
    udpServerVerdict candidate = .found ↔ candidate.bound.isSome := by
  unfold udpServerVerdict
  split_ifs <;> simp [*]

/-- The entries passed over. -/
theorem passedOver_eq (candidates : List Candidate) :
    passedOver udpServerVerdict candidates = candidates.takeWhile (·.bound.isNone) := by
  refine congrArg (List.takeWhile · candidates) (funext fun candidate => ?_)
  rw [Bool.eq_iff_iff, decide_eq_true_iff, ne_eq, udpServerVerdict_found]
  cases candidate.bound <;> simp

/-- The entry at which a search stops is the first which is bound. -/
theorem stop_eq_first (candidates : List Candidate) :
    (fromFound udpServerVerdict candidates).head?.bind Candidate.bound =
      candidates.findSome? Candidate.bound := by
  induction candidates with
  | nil => rfl
  | cons candidate candidates ih =>
      rw [List.findSome?_cons]
      cases bound : candidate.bound with
      | none =>
          have onward : udpServerVerdict candidate ≠ .found := by
            rw [ne_eq, udpServerVerdict_found, bound]
            nofun
          rw [fromFound_cons onward, ih]
      | some stop =>
          have here : udpServerVerdict candidate = .found := by
            rw [udpServerVerdict_found, bound]
            rfl
          rw [fromFound_found here]
          exact bound

/-- Every search which ends has found the first entry which is bound, and left no other one open. -/
theorem socketFound_of_searched {candidates : List Candidate} {visited : List (List Candidate)}
    {stop : List Candidate} (searched : Searched udpServerVerdict candidates visited stop) :
    SocketFound candidates (.of (visited, stop)) where
  inOrder := searched.inOrder
  once := searched.nodup
  stop_eq := by
    rw [← stop_eq_first candidates, ← searched.stop_eq]
    rfl
  opened := by
    have unbound : ∀ candidate ∈ passedOver udpServerVerdict candidates, candidate.bound = none := by
      intro candidate member
      rw [passedOver_eq] at member
      simpa using List.mem_takeWhile_imp member
    simp only [SocketSearch.of]
    rw [searched.elements, List.flatMap_append, openAfter, List.foldl_append]
    rw [show List.foldl _ _ _ = [] from openAfter_passed unbound]
    cases stop with
    | nil => rfl
    | cons candidate stop =>
        rw [List.take_succ_cons, List.take_zero, List.flatMap_cons, List.flatMap_nil,
          List.append_nil, openAfter_calls]
        simp only [List.head?_cons, Option.bind_some]
        cases candidate.bound <;> rfl

/-- `udp_server` moves on over all it passes when `socket` succeeds there. -/
theorem udpServerVerdict_moves_iff (candidates : List Candidate) :
    (∀ candidate ∈ passedOver udpServerVerdict candidates, udpServerVerdict candidate = .next) ↔
      SocketsInFront candidates := by
  rw [passedOver_eq]
  refine forall₂_congr fun candidate member => ?_
  have unbound := List.mem_takeWhile_imp member
  rw [Option.isNone_iff_eq_none] at unbound
  cases socket : candidate.sockfd <;> simp [udpServerVerdict, unbound, socket]

/-- What `udp_server` makes of a list is decided by its loop. -/
theorem udpServer_some (candidates : List Candidate) (addrlenp : Bool) (steps : Nat) :
    udpServer (some candidates) addrlenp steps = (udpServerLoop steps candidates).map fun run =>
      match run.stop with
      | none => (run, .exited)
      | some (sockfd, res) =>
          ({ run with calls := run.calls ++ [.freeaddrinfo] },
            .returned sockfd (if addrlenp then some res.aiAddrlen else none)) := rfl

/-- The search of `udp_server` ends as it should exactly when `socket` succeeds for every entry in
front of the first one for which both calls do. -/
theorem udpServer_finds_iff (candidates : List Candidate) (addrlenp : Bool) :
    UdpServerFinds candidates addrlenp ↔ SocketsInFront candidates := by
  constructor
  · rintro ⟨steps, _, _, computed, -⟩
    rw [udpServer_some, udpServerLoop_eq, Option.map_map] at computed
    obtain ⟨run, ran, -⟩ := Option.map_eq_some_iff.mp computed
    exact (udpServerVerdict_moves_iff candidates).mp (search_searched ran).moved
  · intro sockets
    obtain ⟨steps, run, ran⟩ := search_ends ((udpServerVerdict_moves_iff candidates).mpr sockets)
    have found := socketFound_of_searched (search_searched ran)
    have computed : udpServerLoop steps candidates = some (.of run) := by
      rw [udpServerLoop_eq, ran, Option.map_some]
    rw [UdpServerFinds, ← found.stop_eq]
    cases stop : (SocketSearch.of run).stop with
    | none =>
        refine ⟨steps, .of run, .exited, ?_, found.inOrder, found.once, rfl⟩
        rw [udpServer_some, computed, Option.map_some, stop]
    | some first =>
        have opened := found.opened
        rw [stop] at opened
        refine ⟨steps, { SocketSearch.of run with
          calls := (SocketSearch.of run).calls ++ [.freeaddrinfo] }, _, ?_, found.inOrder,
          found.once, rfl, ?_⟩
        · rw [udpServer_some, computed, Option.map_some]
          simp only [stop]
        · rw [openAfter, List.foldl_append]
          exact opened

/-- An address of a family without sockets in front of a good one: `udp_server` never gets past it. -/
theorem udpServer_not_always_finds :
    ¬ ∀ (candidates : List Candidate) (addrlenp : Bool), UdpServerFinds candidates addrlenp := by
  intro always
  let inet6 : Candidate := ⟨⟨10, 2, 17, List.replicate 28 0, 28⟩, none, false⟩
  let inet : Candidate := ⟨⟨2, 2, 17, List.replicate 16 0, 16⟩, some 3, true⟩
  have sockets := (udpServer_finds_iff [inet6, inet] false).mp (always _ _)
  exact sockets inet6 List.mem_cons_self rfl

end Http2Rtsp
