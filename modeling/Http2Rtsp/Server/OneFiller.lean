import Http2Rtsp.Server.Threads

/-!
# At most one filler

A filler is created at the end of the download and by each PLAY of the media
which is already there, also when the media file cannot be opened. The first
finds no filler at all. The second may find a live one: nothing in front of it
asks whether a filler of an earlier PLAY, or of a client which has gone without
TEARDOWN, still runs.
-/

namespace Http2Rtsp.Server

open Http2Rtsp.Std Http2Rtsp.Message Http2Rtsp.Semantics

/-- A live filler is the one which `threadid` names, and `tinfo` is the `ThreadInfo` it reads from. -/
def OneFiller (s : ServerState) : Prop :=
  ∀ (k : Nat) (filler : Filler), s.fillers[k]? = some filler → filler.Live →
    s.threadid = some k ∧ s.tinfo = some filler.tinfo

/-- So there is at most one. -/
theorem OneFiller.unique {s : ServerState} (one : OneFiller s) {k j : Nat} {filler other : Filler}
    (there : s.fillers[k]? = some filler) (live : filler.Live)
    (thereToo : s.fillers[j]? = some other) (liveToo : other.Live) : k = j :=
  Option.some.inj ((one k filler there live).1.symm.trans (one j other thereToo liveToo).1)

/-- A PLAY which creates a filler finds no live one. -/
def PlaysAlone (s : ServerState) (input : Input) : Prop :=
  PlayCreatesFiller s input → ∀ filler ∈ s.fillers, ¬ filler.Live

instance (s : ServerState) (input : Input) : Decidable (PlaysAlone s input) :=
  inferInstanceAs (Decidable (_ → _))

/-- No filler exists before the media is there, and nothing is read from the source once it is. -/
structure DownloadOrder (s : ServerState) : Prop where
  unlaunched : s.download.mediaDownloaded = false → s.fillers = []
  reading : s.Running → s.download.mediastate = .getsent ∨ s.download.mediastate = .recvtcp →
    s.download.mediaDownloaded = false

/-! ## Steps -/

theorem downloadOrder_initial {variant : Variant} {s : ServerState} (initial : Initial variant s) :
    DownloadOrder s where
  unlaunched _ := initial.fillers
  reading _ reads := by
    rw [initial.mediastate] at reads
    rcases reads with reads | reads <;> cases reads

theorem downloadOrder_kept {variant : Variant} {url : List UInt8} {s after : ServerState}
    {input : Input} {output : List Output} (order : DownloadOrder s)
    (taken : step variant url s input = .ok (after, output)) : DownloadOrder after := by
  have threads := step_threads taken
  have download := step_download taken
  constructor
  · intro absent
    have absentBefore := download.absent absent
    have none := order.unlaunched absentBefore
    cases threads with
    | faded fades => exact List.length_eq_zero_iff.mp (fades.1.trans (by rw [none]; rfl))
    | launched cause =>
        rcases cause with ⟨-, -, downloaded⟩ | ⟨_, _, _, _, _, _, _, _, downloaded, _⟩
        · cases absent.symm.trans downloaded
        · cases absentBefore.symm.trans downloaded
    | tornDown _ _ _ fades => exact List.length_eq_zero_iff.mp (fades.1.trans (by rw [none]; rfl))
  · intro running reads
    have runningBefore := running_before taken running
    cases download with
    | same download => exact download ▸ order.reading runningBefore (download ▸ reads)
    | header reading state downloaded =>
        exact downloaded.trans (order.reading runningBefore (Or.inl reading))
    | stored reading state downloaded =>
        exact downloaded.trans (order.reading runningBefore (Or.inr reading))
    | completed _ reading downloaded state =>
        rw [state running] at reads
        rcases reads with reads | reads <;> cases reads
    | described present state downloaded =>
        rw [state] at reads
        rcases reads with reads | reads <;> cases reads
    | fetched absent state downloaded => exact downloaded

/-- Threads which only fade stay at one, when the ledger still names it. -/
theorem OneFiller.fades {s after : ServerState} (one : OneFiller s)
    (fades : Fades s.fillers after.fillers) (threadid : after.threadid = s.threadid)
    (tinfo : after.tinfo = s.tinfo) : OneFiller after := by
  intro k filler there live
  obtain ⟨earlier, before, alive, same⟩ := fades.2 k filler there live
  obtain ⟨named, reads⟩ := one k earlier before alive
  exact ⟨threadid.trans named, tinfo.trans (reads.trans (by rw [same]))⟩

/-- A new filler is the only one exactly when no other one is alive. -/
theorem oneFiller_launched_iff {s after : ServerState}
    (fillers : after.fillers = s.fillers ++ [⟨.start, s.allocated, none, none⟩])
    (threadid : after.threadid = some s.fillers.length) (tinfo : after.tinfo = some s.allocated) :
    OneFiller after ↔ ∀ filler ∈ s.fillers, ¬ filler.Live := by
  constructor
  · intro one filler member live
    obtain ⟨k, there⟩ := List.mem_iff_getElem?.mp member
    have short : k < s.fillers.length := (List.getElem?_eq_some_iff.mp there).1
    have thereAfter : after.fillers[k]? = some filler := by
      rw [fillers, List.getElem?_append_left short, there]
    have named := (one k filler thereAfter live).1
    rw [threadid] at named
    have same := Option.some.inj named
    omega
  · intro dead k filler there live
    rw [fillers] at there
    by_cases short : k < s.fillers.length
    · rw [List.getElem?_append_left short] at there
      exact absurd live (dead filler (List.mem_of_getElem? there))
    · have last : k = s.fillers.length := by
        have bound := (List.getElem?_eq_some_iff.mp there).1
        rw [List.length_append, List.length_singleton] at bound
        omega
      subst last
      rw [List.getElem?_concat_length] at there
      obtain rfl := Option.some.inj there
      exact ⟨threadid, tinfo⟩

/-- One step leaves one filler at most exactly when a PLAY finds none alive. -/
theorem oneFiller_step_iff {variant : Variant} {url : List UInt8} {s after : ServerState}
    {input : Input} {output : List Output} (order : DownloadOrder s) (one : OneFiller s)
    (taken : step variant url s input = .ok (after, output)) :
    OneFiller after ↔ PlaysAlone s input := by
  have noFade : PlayCreatesFiller s input → after.fillers.length ≠ s.fillers.length := fun plays => by
    have adds := (plays.adds taken).1
    omega
  cases step_threads taken with
  | faded fades ledger =>
      simp only [ServerState.ledger, Prod.mk.injEq] at ledger
      exact iff_of_true (one.fades fades ledger.1 ledger.2.1) fun plays =>
        absurd fades.1 (noFade plays)
  | tornDown cause free armed fades gone ledger =>
      simp only [ServerState.ledger, Prod.mk.injEq] at ledger
      exact iff_of_true (one.fades fades ledger.1 ledger.2.1) fun plays =>
        absurd fades.1 (noFade plays)
  | launched cause fillers ledger =>
      simp only [ServerState.ledger, Prod.mk.injEq] at ledger
      rw [oneFiller_launched_iff fillers ledger.1 ledger.2.1]
      constructor
      · intro dead plays
        exact dead
      · intro alone
        rcases cause with ⟨running, reading, -⟩ | plays
        · have none := order.unlaunched (order.reading running (Or.inr reading))
          simp [none]
        · exact alone plays

/-! ## Runs -/

/-- In every run of either server there is at most one filler at every point exactly when every
PLAY which creates one finds no live one. -/
theorem oneFiller_iff_playsAlone {variant : Variant} {url : List UInt8}
    {trace : List (Entry ServerState Input Output)} {state : ServerState}
    (run : (machine variant url).Runs trace state) :
    Machine.Always (fun _ => OneFiller) trace state ↔
      Machine.Throughout (fun _ => PlaysAlone) trace := by
  apply run.always_iff_throughout (fun _ => True) (fun _ => DownloadOrder) trivial
  · intro past output _
    trivial
  · intro start initial
    exact downloadOrder_initial initial
  · intro past before input after output _ order taken _
    exact downloadOrder_kept order taken
  · intro start initial k filler there
    rw [show start.fillers = [] from Initial.fillers initial] at there
    cases there
  · intro past before input after output _ order one taken
    exact oneFiller_step_iff order one taken

/-- A client connects, the media is downloaded, and the client plays it. -/
def playDownloaded : List Input :=
  connect 6 ++ describe 6 7 someResponse ++ media 7 someResponse someHeader ++ media 7 [] [7] ++ play 6

/-- The end of the download and the PLAY have each created a filler. -/
theorem playDownloaded_runs (variant : Variant) : ∃ result,
    (machine variant someUrl).exec [] (startState variant) playDownloaded = .ok result ∧
      result.2.fillers = [⟨.start, 0, none, none⟩, ⟨.start, 1, none, none⟩] := by
  cases variant <;> exact ⟨_, rfl, rfl⟩

/-- Two live fillers are not one. -/
theorem not_oneFiller {s : ServerState} {first second : Filler} (fillers : s.fillers = [first, second])
    (live : first.Live) (liveToo : second.Live) : ¬ OneFiller s := by
  intro one
  have here : s.fillers[0]? = some first := by rw [fillers]; rfl
  have there : s.fillers[1]? = some second := by rw [fillers]; rfl
  cases one.unique here live there liveToo

/-- The download is torn down, and the next client plays with a filler of its own. -/
def playTornDown : List Input :=
  connect 6 ++ describe 6 7 someResponse ++ media 7 someResponse someHeader ++ media 7 [] [7] ++
    request 6 (RtspIo.line "TEARDOWN") ++ connect 6 ++ request 6 (RtspIo.line "DESCRIBE") ++ play 6

/-- The media is downloaded, and cannot be opened when the client plays it. -/
def playUnopened : List Input :=
  connect 6 ++ describe 6 7 someResponse ++ media 7 someResponse someHeader ++ media 7 [] [7] ++
    request 6 (RtspIo.line "SETUP") ++ request 6 (RtspIo.line "SETUP") ++
    [.ready [6], .rtsp { RtspIo.line "PLAY" with opening := .error .fails }]

/-- A PLAY behind a TEARDOWN is alone, and one which finds the filler of the download is not, be the
file opened or not. -/
theorem oneFiller_iff_playsAlone_playTornDown :
    (∃ result, (machine .server someUrl).exec [] (startState .server) playTornDown = .ok result ∧
      result.2.fillers.length = 2 ∧ Machine.Always (fun _ => OneFiller) result.1 result.2) ∧
    ∃ result, (machine .server someUrl).exec [] (startState .server) playUnopened = .ok result ∧
      ¬ Machine.Throughout (fun _ => PlaysAlone) result.1 := by
  constructor
  · obtain ⟨result, computed, two, alone⟩ : ∃ result,
        (machine .server someUrl).exec [] (startState .server) playTornDown = .ok result ∧
        result.2.fillers.length = 2 ∧ Machine.MeetsAll (fun _ => PlaysAlone) [] result.1 :=
      ⟨_, rfl, rfl, of_decide_eq_true rfl⟩
    have run := Machine.Runs.of_exec (startState_initial .server someUrl) computed
    have throughout := Machine.throughout_of_meetsAll alone
    exact ⟨result, computed, two, (oneFiller_iff_playsAlone run).mpr throughout⟩
  · obtain ⟨result, computed, two⟩ : ∃ result,
        (machine .server someUrl).exec [] (startState .server) playUnopened = .ok result ∧
        result.2.fillers = [⟨.start, 0, none, none⟩, ⟨.start, 1, none, none⟩] := ⟨_, rfl, rfl⟩
    have run := Machine.Runs.of_exec (startState_initial .server someUrl) computed
    refine ⟨result, computed, fun alone => ?_⟩
    have one := ((oneFiller_iff_playsAlone run).mpr alone).here
    exact not_oneFiller two (by decide) (by decide) one

/-- A server can have two fillers. -/
theorem oneFiller_not_always : ¬ ∀ variant url trace state,
    (machine variant url).Runs trace state → Machine.Always (fun _ => OneFiller) trace state := by
  intro all
  obtain ⟨result, computed, two⟩ := playDownloaded_runs .server
  have run := Machine.Runs.of_exec (startState_initial .server someUrl) computed
  exact not_oneFiller two (by decide) (by decide) (all .server someUrl _ _ run).here

end Http2Rtsp.Server
