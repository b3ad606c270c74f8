import Http2Rtsp.Server.Connecting
import Http2Rtsp.Message.RequestSafety
import Http2Rtsp.Sockets.Log

/-!
# What the servers log

Both servers call `resolve_host` for the source on a DESCRIBE and for the client,
twice, on a SETUP; `client_socket` calls it, with NULL for the host, for the own
port of each socket it makes for the client. The addresses and ports of a client
always fit the line, and so do the own ports; the name of the source is as long
as the URL the server was started with.
-/

namespace Http2Rtsp.Server

open Http2Rtsp.Std Http2Rtsp.Message Http2Rtsp.Semantics

/-! ## Ports -/

/-- A port as a request can give it. -/
structure PortText (port : List UInt8) : Prop where
  fits : port.length < portLen
  digits : ∀ byte ∈ port, isDigit byte = true

theorem PortText.noNul {port : List UInt8} (text : PortText port) : 0 ∉ port := by
  intro member
  exact absurd (text.digits 0 member) (by decide)

theorem scanSet_digits {text digits : List UInt8} (scanned : scanSet isDigit text = some digits) :
    ∀ byte ∈ digits, isDigit byte = true := by
  unfold scanSet at scanned
  split at scanned
  · cases scanned
  · cases scanned
    exact fun byte member => List.mem_takeWhile_imp member

theorem clientPort_digits {text port : List UInt8} (scanned : clientPort text = some port) :
    ∀ byte ∈ port, isDigit byte = true := by
  obtain ⟨a, -, digits⟩ := Option.bind_eq_some_iff.mp scanned
  exact scanSet_digits digits

theorem clientPortEnd_digits {text port : List UInt8} (scanned : clientPortEnd text = some port) :
    ∀ byte ∈ port, isDigit byte = true := by
  obtain ⟨a, -, behind⟩ := Option.bind_eq_some_iff.mp scanned
  obtain ⟨rtp, -, behind⟩ := Option.bind_eq_some_iff.mp behind
  obtain ⟨hyphen, -, digits⟩ := Option.bind_eq_some_iff.mp behind
  exact scanSet_digits digits

/-- The ports of a message. -/
def PortsFit (msg : RTSPMsg) : Prop := PortText msg.clirtpport ∧ PortText msg.clirtcpport

theorem portsFit_zero : PortsFit RTSPMsg.zero := by
  have empty : PortText [] := ⟨by decide, fun byte member => by cases member⟩
  exact ⟨empty, empty⟩

/-- A line stores ports which fit, or none. -/
theorem rtspHeader_portsFit {msg after : RTSPMsg} {temp : List UInt8} (fit : PortsFit msg)
    (read : rtspHeader msg temp = .ok after) : PortsFit after := by
  obtain ⟨readable, rfl⟩ := rtspHeader_eq_ok_iff.mp read
  constructor
  · cases here : rtpportReading.readHere temp with
    | none => simpa [readHeader, here] using fit.1
    | some port =>
        have digits : ∀ byte ∈ port, isDigit byte = true := by
          unfold Reading.readHere at here
          split at here
          · exact clientPort_digits here
          · cases here
        simpa [readHeader, here] using PortText.mk (readable.fit.clirtpport port here) digits
  · cases here : rtcpportReading.readHere temp with
    | none => simpa [readHeader, here] using fit.2
    | some port =>
        have digits : ∀ byte ∈ port, isDigit byte = true := by
          unfold Reading.readHere at here
          split at here
          · exact clientPortEnd_digits here
          · cases here
        simpa [readHeader, here] using PortText.mk (readable.fit.clirtcpport port here) digits

/-- So do all lines. -/
theorem rtspLines_portsFit {stop temp : List UInt8} {steps : Nat} {typeflag : Bool}
    {msg after : RTSPMsg} {result : Int} (fit : PortsFit msg)
    (parsed : rtspLines stop steps temp typeflag msg = .ok (result, after)) : PortsFit after := by
  induction steps generalizing temp typeflag msg with
  | zero =>
      cases parsed
      exact fit
  | succ steps ih =>
      simp only [rtspLines] at parsed
      split at parsed
      · split at parsed
        · cases parsed
          exact fit
        · rename_i typed known
          have still : PortsFit typed := by
            split at known
            · cases known
              exact fit
            · obtain ⟨type, -, rfl⟩ := Option.map_eq_some_iff.mp known
              exact fit
          cases header : rtspHeader typed temp with
          | error reason => simp [header, bind, Except.bind] at parsed
          | ok next =>
              simp only [header, bind, Except.bind] at parsed
              split at parsed
              · cases parsed
              · exact ih (rtspHeader_portsFit still header) parsed
      · cases parsed
        exact fit

/-- A parsed request gives ports which fit. -/
theorem parseRtsp_portsFit {buffer : List UInt8} {msg : RTSPMsg} {result : Int}
    (parsed : parseRtsp buffer = .ok (result, msg)) : PortsFit msg := by
  unfold parseRtsp at parsed
  split at parsed
  · cases parsed
    exact portsFit_zero
  · exact rtspLines_portsFit portsFit_zero parsed

/-! ## Calls -/

/-- A call of `resolve_host`: the host, which is none for NULL, and the port. -/
abbrev Lookup := Option (List UInt8) × List UInt8

/-- The calls for a connection: one for the host, and in `client_socket` one for the own port, if there is
one, with each of the sockets that are `made`. -/
def connectionLookups (host port : List UInt8) (bindport : Int) (made : Nat) : List Lookup :=
  (some host, port) ::
    if 0 < bindport then List.replicate made (none, decimal bindport) else []

/-- What the calls of a step depend on besides the server: the address which `write_remote_ip` stores, and
how many sockets are made for each of the two connections. -/
structure Surroundings where
  remote : List UInt8
  made : Nat × Nat

/-- The calls in the `switch`. -/
def ServerState.switchLookups (s : ServerState) (url : List UInt8) (around : Surroundings) :
    List Lookup :=
  match s.streamclient.state, s.rtspmsg.type with
  | .cliconnected, .describe =>
      if s.download.mediaDownloaded then [] else
        match parseUrl url with
        | .error _ => []
        | .ok (host, _) => connectionLookups host (ascii "80") 0 around.made.1
  | .sdpsent, .setup =>
      let ports := pairPorts s.streamclient s.streamclient.setupsreceived
      connectionLookups around.remote s.rtspmsg.clirtpport ports.1 around.made.1 ++
        connectionLookups around.remote s.rtspmsg.clirtcpport ports.2 around.made.2
  | _, _ => []

/-- The calls of `handleRtsp`, as far as the server comes. -/
def ServerState.rtspLookups (s : ServerState) (url : List UInt8) (around : Surroundings) (i : Int)
    (io : RtspIo) : List Lookup :=
  let received := (s.receiveRtsp i io.received).1
  match received.pc with
  | .halted _ => []
  | _ => if received.rtspmsg.type = .teardown then [] else received.switchLookups url around

/-- The calls of a step. -/
def ServerState.lookups (s : ServerState) (url : List UInt8) (around : Surroundings) :
    Input → List Lookup
  | .rtsp io =>
      match s.pc with
      | .dispatch (i :: rest) => { s with pc := .dispatch rest }.rtspLookups url around i io
      | _ => []
  | _ => []

/-- What `inet_ntop` stores. -/
structure AddressText (remote : List UInt8) : Prop where
  fits : remote.length < 46
  noNul : 0 ∉ remote

/-- Each call of a step appends the line meant to the log, at whatever time, for whichever client and
with however many sockets, while no `write` fails for good. -/
def LogsRight (url : List UInt8) (pid : Int) (s : ServerState) (input : Input) : Prop :=
  ∀ around timestr date file answers, AddressText around.remote → IsCtime timestr date →
    WriteResult.failed ∉ answers → ∀ call ∈ s.lookups url around input,
      writeLog file answers timestr pid (resolveMessage call.1 call.2) =
        .ok (file ++ stampedLine date pid (resolveMessage call.1 call.2))

/-- The source is looked up in this step. -/
def LooksUp (url : List UInt8) (s : ServerState) (input : Input) : Prop :=
  ∃ host, ∀ around, s.lookups url around input = [(some host, ascii "80")]

/-- The name of the source leaves room for the rest of the line. -/
def HostFits (url : List UInt8) (pid : Int) : Prop :=
  ∀ host path, parseUrl url = .ok (host, path) → host.length + (decimal pid).length < 204

/-! ## Lines -/

/-- What is written for a host. -/
def hostText (host : Option (List UInt8)) : List UInt8 := host.getD (ascii "(null)")

theorem noNul_resolveMessage {host : Option (List UInt8)} {port : List UInt8}
    (hostNoNul : 0 ∉ hostText host) (portNoNul : 0 ∉ port) : 0 ∉ resolveMessage host port := by
  have literals : 0 ∉ ascii "Resolving " ∧ 0 ∉ ascii " port " ∧ 0 ∉ ascii "...\n" := by decide
  simp only [resolveMessage, List.mem_append, not_or]
  exact ⟨⟨⟨⟨literals.1, hostNoNul⟩, literals.2.1⟩, portNoNul⟩, literals.2.2⟩

/-- The length of the line. -/
theorem length_resolveLine {date : List UInt8} {host : Option (List UInt8)} {port : List UInt8}
    (size : date.length = 24) (pid : Int) :
    (stampedLine date pid (resolveMessage host port)).length =
      50 + (decimal pid).length + (hostText host).length + port.length := by
  have literals : (ascii "[").length = 1 ∧ (ascii "] ").length = 2 ∧ (ascii " - ").length = 3 ∧
      (ascii "Resolving ").length = 10 ∧ (ascii " port ").length = 6 ∧
      (ascii "...\n").length = 4 := by decide
  simp only [stampedLine, resolveMessage, hostText, List.length_append, size, literals]
  omega

/-- A call of `resolve_host` is logged right exactly when its arguments leave room. -/
theorem resolveHost_logged_iff {timestr date : List UInt8} {host : Option (List UInt8)}
    {port : List UInt8} (stamp : IsCtime timestr date) (pid : Int) (hostNoNul : 0 ∉ hostText host)
    (portNoNul : 0 ∉ port) (file : List UInt8) {answers : List WriteResult}
    (works : WriteResult.failed ∉ answers) :
    writeLog file answers timestr pid (resolveMessage host port) =
        .ok (file ++ stampedLine date pid (resolveMessage host port)) ↔
      (hostText host).length + port.length + (decimal pid).length < 206 := by
  have size := @length_resolveLine date host port stamp.size pid
  have array : logBufSize = 256 := rfl
  unfold writeLog
  rw [logLine_eq stamp pid (noNul_resolveMessage hostNoNul portNoNul), size]
  by_cases room : (hostText host).length + port.length + (decimal pid).length < 206
  · rw [if_pos (by omega)]
    simp only [bind, Except.bind, writestr_of_not_failed works, room]
  · rw [if_neg (by omega)]
    simp [bind, Except.bind, room]

/-! ## Steps -/

/-- A call whose line always fits: for the client or for no host, at a short port. -/
structure ClientLookup (remote : List UInt8) (call : Lookup) : Prop where
  host : call.1 = some remote ∨ call.1 = none
  port : PortText call.2

/-- Its host has no NUL, and is short. -/
theorem ClientLookup.hostText_fits {remote : List UInt8} {call : Lookup} (client : ClientLookup remote call)
    (address : AddressText remote) : 0 ∉ hostText call.1 ∧ (hostText call.1).length < 46 := by
  rcases client.host with same | same
  · rw [same]
    exact ⟨address.noNul, address.fits⟩
  · rw [same]
    decide

/-- The calls for a connection to the client. -/
theorem connectionLookups_client {remote port : List UInt8} {bindport made : Nat}
    (given : PortText port) (own : PortText (decimal bindport)) :
    ∀ call ∈ connectionLookups remote port bindport made, ClientLookup remote call := by
  intro call member
  rcases List.mem_cons.mp member with rfl | bound
  · exact ⟨Or.inl rfl, given⟩
  · split at bound
    · rw [List.eq_of_mem_replicate bound]
      exact ⟨Or.inr rfl, own⟩
    · cases bound

/-- A port without a sign is written with digits alone. -/
theorem portText_decimal (port : Nat) (short : (decimal port).length < portLen) :
    PortText (decimal port) where
  fits := short
  digits := by
    rw [decimal_eq, if_neg (Int.natCast_nonneg port).not_gt, List.nil_append]
    exact (digitsOf _).numeric

/-- The own ports are short as well. -/
theorem pairPorts_text {client : Client} (ports : ownPorts client = ownPorts initClient) (n : Nat) :
    PortText (decimal (pairPorts client n).1) ∧ PortText (decimal (pairPorts client n).2) := by
  have text : PortText (decimal (50508 : Nat)) ∧ PortText (decimal (50509 : Nat)) ∧
      PortText (decimal (50510 : Nat)) ∧ PortText (decimal (50511 : Nat)) :=
    ⟨portText_decimal _ (by decide), portText_decimal _ (by decide), portText_decimal _ (by decide),
      portText_decimal _ (by decide)⟩
  cases n with
  | zero =>
      have audio : pairPorts client 0 = (50510, 50511) := congrArg Prod.fst ports
      rw [audio]
      exact text.2.2
  | succ n =>
      have video : pairPorts client (n + 1) = (50508, 50509) := congrArg Prod.snd ports
      rw [video]
      exact ⟨text.1, text.2.1⟩

/-- The calls for a client, or the one for the source. -/
theorem switchLookups_cases {s : ServerState} (ports : ownPorts s.streamclient = ownPorts initClient)
    (fit : PortsFit s.rtspmsg) (url : List UInt8) :
    (∃ host path, parseUrl url = .ok (host, path) ∧
        ∀ around, s.switchLookups url around = [(some host, ascii "80")]) ∨
      ∀ around, ∀ call ∈ s.switchLookups url around, ClientLookup around.remote call := by
  unfold ServerState.switchLookups
  split
  · split
    · exact Or.inr fun around call member => by cases member
    · cases parsed : parseUrl url with
      | error reason => exact Or.inr fun around call member => by cases member
      | ok parts =>
          obtain ⟨host, path⟩ := parts
          exact Or.inl ⟨host, path, rfl, fun around => rfl⟩
  · refine Or.inr fun around call member => ?_
    obtain ⟨rtp, rtcp⟩ := pairPorts_text ports s.streamclient.setupsreceived
    rcases List.mem_append.mp member with first | second
    · exact connectionLookups_client fit.1 rtp call first
    · exact connectionLookups_client fit.2 rtcp call second
  · exact Or.inr fun around call member => by cases member

/-- The same behind the receipt of a request: the ports are those it gives. -/
theorem rtspLookups_cases {s : ServerState} (ports : ownPorts s.streamclient = ownPorts initClient)
    (url : List UInt8) (i : Int) (io : RtspIo) :
    (∃ host path, parseUrl url = .ok (host, path) ∧
        ∀ around, s.rtspLookups url around i io = [(some host, ascii "80")]) ∨
      ∀ around, ∀ call ∈ s.rtspLookups url around i io, ClientLookup around.remote call := by
  have silent : (∀ around, s.rtspLookups url around i io = []) → ∀ around,
      ∀ call ∈ s.rtspLookups url around i io, ClientLookup around.remote call := by
    intro none around call member
    rw [none] at member
    cases member
  rcases receiveRtsp_cases s i io.received with ⟨reason, halted, -⟩ | receive
  · exact Or.inr (silent fun around => by simp [ServerState.rtspLookups, halted, halt_eq])
  · have ports' := (ownPorts_receiveRtsp s i io.received).trans ports
    generalize known : s.receiveRtsp i io.received = outcome at receive ports'
    obtain ⟨received, output⟩ := outcome
    cases pc : received.pc with
    | halted reason => exact Or.inr (silent fun around => by simp [ServerState.rtspLookups, known, pc])
    | select | dispatch ready =>
        by_cases type : received.rtspmsg.type = .teardown
        · exact Or.inr (silent fun around => by simp [ServerState.rtspLookups, known, pc, type])
        · have calls : ∀ around, s.rtspLookups url around i io = received.switchLookups url around :=
            fun around => by simp [ServerState.rtspLookups, known, pc, type]
          simp only [calls]
          cases receive with
          | closed opened empty =>
              refine Or.inr fun around call member => ?_
              simp [ServerState.switchLookups] at member
          | message opened nonempty terminated parsed =>
              exact switchLookups_cases ports' (parseRtsp_portsFit parsed) url

/-- And for a step. -/
theorem lookups_cases {s : ServerState} (ports : ownPorts s.streamclient = ownPorts initClient)
    (url : List UInt8) (input : Input) :
    (∃ host path, parseUrl url = .ok (host, path) ∧
        ∀ around, s.lookups url around input = [(some host, ascii "80")]) ∨
      ∀ around, ∀ call ∈ s.lookups url around input, ClientLookup around.remote call := by
  unfold ServerState.lookups
  split
  · split
    · rename_i i rest pc
      exact @rtspLookups_cases { s with pc := .dispatch rest } ports url _ _
    · exact Or.inr fun around call member => by cases member
  · exact Or.inr fun around call member => by cases member

/-- The name of the source is a part of the URL. -/
theorem host_noNul {url host path : List UInt8} (noNul : 0 ∉ url)
    (parsed : parseUrl url = .ok (host, path)) : 0 ∉ host := by
  unfold parseUrl at parsed
  split at parsed
  · cases parsed
  · cases parsed
    intro member
    have inHost := List.mem_of_mem_take (List.mem_of_mem_take member)
    unfold urlHost at inHost
    split at inHost
    · exact noNul (List.mem_of_mem_drop inHost)
    · exact noNul inHost

/-- In every state reached, every line of a step is right, but the one of a look-up of a source whose name
is too long. -/
theorem logsRight_iff {variant : Variant} {url : List UInt8} (noNul : 0 ∉ url) {pid : Int}
    (number : IsInt pid) {trace : List (Entry ServerState Input Output)} {s : ServerState}
    (run : (machine variant url).Runs trace s) (input : Input) :
    LogsRight url pid s input ↔ (LooksUp url s input → HostFits url pid) := by
  have portNoNul : 0 ∉ ascii "80" := by decide
  have portSize : (ascii "80").length = 2 := by decide
  have digits := length_decimal number
  rcases lookups_cases (ownPorts_reached run) url input with ⟨host, path, parsed, calls⟩ | client
  · have free : 0 ∉ hostText (some host) := host_noNul noNul parsed
    have text : (hostText (some host)).length = host.length := rfl
    have fits : HostFits url pid ↔ host.length + (decimal pid).length < 204 := by
      constructor
      · intro fits
        exact fits host path parsed
      · intro room host' path' parsed'
        cases parsed.symm.trans parsed'
        exact room
    have looksUp : LooksUp url s input := ⟨host, calls⟩
    simp only [LogsRight, calls, List.forall_mem_singleton]
    constructor
    · intro right _
      have address : AddressText [] := ⟨by decide, List.not_mem_nil⟩
      have stamp : IsCtime (List.replicate 24 32 ++ [10]) (List.replicate 24 32) :=
        ⟨rfl, List.length_replicate, by decide, by decide⟩
      have works : WriteResult.failed ∉ [] := List.not_mem_nil
      have room := (resolveHost_logged_iff stamp pid free portNoNul [] works).mp
        (right ⟨[], 0, 0⟩ _ _ [] [] address stamp works)
      rw [fits]
      omega
    · intro given around timestr date file answers address stamp works
      have room := fits.mp (given looksUp)
      exact (resolveHost_logged_iff stamp pid free portNoNul file works).mpr (by omega)
  · constructor
    · rintro - ⟨host, calls⟩
      -- No two addresses are both the name of the source.
      have called : ∀ remote, some host = some remote ∨ some host = none := fun remote =>
        (client ⟨remote, 0, 0⟩ _ (by rw [calls]; exact List.mem_cons_self)).host
      have one := Option.some.inj ((called [1]).resolve_right (Option.some_ne_none host))
      have two := Option.some.inj ((called [2]).resolve_right (Option.some_ne_none host))
      cases one.symm.trans two
    · intro _ around timestr date file answers address stamp works call member
      have fitting := client around call member
      obtain ⟨hostNoNul, short⟩ := fitting.hostText_fits address
      refine (resolveHost_logged_iff stamp pid hostNoNul fitting.port.noNul file works).mpr ?_
      have portFits := fitting.port.fits
      have portLen_eq : portLen = 10 := rfl
      omega

/-- A URL with a name of 200 letters. -/
def longUrl : List UInt8 := List.replicate 200 97 ++ ascii "/video.mp4"

/-- A SETUP is next to be received, or a first DESCRIBE. -/
def dueRequest : List Input := connect 6 ++ describe 6 7 someResponse ++ [.ready [6]]

/-- The lines of a SETUP are right, those for the own ports among them. On a first DESCRIBE for the long
name the line is longer than the array. -/
theorem logsRight_iff_longUrl : (∃ result,
    (machine .server someUrl).exec [] (startState .server) dueRequest = .ok result ∧
      (none, ascii "50510") ∈ result.2.lookups someUrl ⟨[], 1, 1⟩ (.rtsp (RtspIo.line "SETUP")) ∧
      LogsRight someUrl 1000 result.2 (.rtsp (RtspIo.line "SETUP"))) ∧
    ∃ result,
      (machine .server longUrl).exec [] (startState .server) (connect 6 ++ [.ready [6]]) = .ok result ∧
        ¬ LogsRight longUrl 1000 result.2 (.rtsp (RtspIo.line "DESCRIBE")) := by
  have process : IsInt 1000 := ⟨by decide, by decide⟩
  constructor
  · have computed : ∃ result,
        (machine .server someUrl).exec [] (startState .server) dueRequest = .ok result ∧
          (none, ascii "50510") ∈ result.2.lookups someUrl ⟨[], 1, 1⟩ (.rtsp (RtspIo.line "SETUP")) :=
      ⟨_, rfl, by decide +kernel⟩
    obtain ⟨result, computed, own⟩ := computed
    have run := Machine.Runs.of_exec (startState_initial .server someUrl) computed
    refine ⟨result, computed, own, (logsRight_iff (by decide) process run _).mpr ?_⟩
    rintro ⟨host, calls⟩
    rw [calls, List.mem_singleton] at own
    cases own
  · have computed : ∃ result,
        (machine .server longUrl).exec [] (startState .server) (connect 6 ++ [.ready [6]]) = .ok result ∧
          result.2.lookups longUrl ⟨[], 0, 0⟩ (.rtsp (RtspIo.line "DESCRIBE")) =
            [(some (List.replicate 200 97), ascii "80")] :=
      ⟨_, rfl, by decide +kernel⟩
    obtain ⟨result, computed, calls⟩ := computed
    have run := Machine.Runs.of_exec (startState_initial .server longUrl) computed
    refine ⟨result, computed, mt (logsRight_iff (by decide +kernel) process run _).mp fun given => ?_⟩
    have looksUp : LooksUp longUrl result.2 (.rtsp (RtspIo.line "DESCRIBE")) := by
      rcases lookups_cases (ownPorts_reached run) longUrl (.rtsp (RtspIo.line "DESCRIBE")) with
        ⟨host, path, -, same⟩ | client
      · exact ⟨host, same⟩
      · have client' := (client ⟨[], 0, 0⟩ _ (by rw [calls]; exact List.mem_cons_self)).host
        rcases client' with empty | none
        · cases empty
        · cases none
    have parsed : parseUrl longUrl = .ok (List.replicate 200 97, ascii "/video.mp4") := by
      decide +kernel
    have room := given looksUp _ _ parsed
    rw [List.length_replicate] at room
    have digits : (decimal 1000).length = 4 := by decide
    omega

end Http2Rtsp.Server
