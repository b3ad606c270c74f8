import Http2Rtsp.Server.Behaviour

/-!
# What a step does to the download

How `mediastate` and `media_downloaded` move, and the two facts about them which
hold in every reachable state: no filler exists before the media is there, and
nothing is read from the source once it is.
-/

namespace Http2Rtsp.Server

open Http2Rtsp.Std Http2Rtsp.Message Http2Rtsp.Pacing

/-- How a step moves the state of the download. -/
inductive DownloadEffect (s after : ServerState) : Prop where
  | same (download : after.download = s.download)
  | header (reading : s.download.mediastate = .getsent)
      (state : after.download.mediastate = .recvtcp)
      (downloaded : after.download.mediaDownloaded = s.download.mediaDownloaded)
  | stored (reading : s.download.mediastate = .recvtcp)
      (state : after.download.mediastate = .recvtcp)
      (downloaded : after.download.mediaDownloaded = s.download.mediaDownloaded)
  | completed (running : s.Running) (reading : s.download.mediastate = .recvtcp)
      (downloaded : after.download.mediaDownloaded = true)
      (state : after.Running → after.download.mediastate = .stream)
  | described (present : s.download.mediaDownloaded = true)
      (state : after.download.mediastate = .stream)
      (downloaded : after.download.mediaDownloaded = true)
  | fetched (absent : s.download.mediaDownloaded = false)
      (state : after.download.mediastate = .getsent)
      (downloaded : after.download.mediaDownloaded = false)

theorem EventEffect.download {s after : ServerState} {event : TimeoutEvent} {output : List Output}
    (effect : EventEffect s event after output) : after.download = s.download := by
  cases effect <;> rfl

theorem TimeoutEffect.download {s after : ServerState} {wake : Nat} {output : List Output}
    (effect : TimeoutEffect s wake after output) : after.download = s.download := by
  cases effect with
  | locked taken => rfl
  | idle free empty => rfl
  | failed free queued last => rfl
  | handled free queued effect => exact effect.download

theorem AcceptEffect.download {s after : ServerState} {result : Accept} {output : List Output}
    (effect : AcceptEffect s result after output) : after.download = s.download := by
  cases effect <;> rfl

theorem SipEffect.download {s after : ServerState} {output : List Output}
    (effect : SipEffect s after output) : after.download = s.download := by
  cases effect
  rfl

theorem ReceiveEffect.download {s after : ServerState} {i : Int} {received : List UInt8}
    {output : List Output} (effect : ReceiveEffect s i received after output) :
    after.download = s.download := by
  cases effect <;> rfl

theorem TeardownEffect.download {variant : Variant} {s after : ServerState} {i : Int} {io : RtspIo}
    {output : List Output} (effect : TeardownEffect variant s i io after output) :
    after.download = s.download := by
  cases effect <;> rfl

theorem FillerEffect.download {s after : ServerState} {k : Nat} (effect : FillerEffect s k after) :
    after.download = s.download := by
  obtain ⟨queue, lock, fillers, rfl, -⟩ := effect.only
  rfl

/-- A header which was read changes the sizes and the state. -/
theorem getsent_eq {download after : Download} {received : List UInt8}
    (parsed : download.getsent received = .ok after) : ∃ videosize, after =
      { download with videosize := videosize, videoleft := videosize, mediastate := .recvtcp } := by
  unfold Download.getsent at parsed
  split at parsed
  · cases parsed
  · split at parsed
    · cases parsed
    · cases parsed
      exact ⟨_, rfl⟩

theorem MediaEffect.download {s after : ServerState} {i : Int} {io : MediaIo} {output : List Output}
    (running : s.Running) (effect : MediaEffect s i io after output) : DownloadEffect s after := by
  cases effect with
  | ignored other => exact .same rfl
  | failed reason reads => exact .same rfl
  | header getsent opened found parsed =>
      obtain ⟨videosize, rfl⟩ := getsent_eq parsed
      exact .header getsent rfl rfl
  | stored recvtcp opened more =>
      obtain ⟨kernel, masterfds, stored⟩ := storeMedia_eq s i io
      rw [stored]
      exact .stored recvtcp recvtcp rfl
  | completed recvtcp opened last effect =>
      obtain ⟨kernel, masterfds, stored⟩ := storeMedia_eq s i io
      rw [stored] at effect
      cases effect with
      | exited unopened => exact .completed running recvtcp rfl fun runs => absurd rfl (runs _)
      | failed unopened => exact .completed running recvtcp rfl fun runs => absurd rfl (runs _)
      | locked opened taken => exact .completed running recvtcp rfl fun runs => absurd rfl (runs _)
      | launched opened free => exact .completed running recvtcp rfl fun _ => rfl

theorem SwitchEffect.download {variant : Variant} {s after : ServerState} {i : Int} {io : RtspIo}
    {output : List Output} (effect : SwitchEffect variant s i io after output) :
    DownloadEffect s after := by
  cases effect with
  | ignored other => exact .same rfl
  | failed reason output handled before => exact .same rfl
  | options state type => exact .same rfl
  | described state type downloaded => exact .described downloaded rfl downloaded
  | fetched state type absent fetch => exact .fetched absent rfl absent
  | @setup rtp rtcp session text state type sockets =>
      obtain ⟨kernel, opened⟩ := openUdp_eq s rtp rtcp
      rw [opened]
      exact .same rfl
  | played state type absent free => exact .same rfl
  | unopened state type downloaded unopened => exact .same rfl
  | launched state type downloaded opened => exact .same rfl

/-- What is not there after a step was not there before. -/
theorem DownloadEffect.absent {s after : ServerState} (effect : DownloadEffect s after)
    (absent : after.download.mediaDownloaded = false) : s.download.mediaDownloaded = false := by
  cases effect with
  | same download => exact download ▸ absent
  | header reading state downloaded => exact downloaded ▸ absent
  | stored reading state downloaded => exact downloaded ▸ absent
  | completed running reading downloaded => cases absent.symm.trans downloaded
  | described present state downloaded => cases absent.symm.trans downloaded
  | fetched before => exact before

/-- The download behind a change which does not concern it. -/
theorem DownloadEffect.behind {s middle after : ServerState} (effect : DownloadEffect middle after)
    (running : s.Running) (same : middle.download = s.download) : DownloadEffect s after := by
  cases effect with
  | same download => exact .same (download.trans same)
  | header reading state downloaded =>
      exact .header (same ▸ reading) state (downloaded.trans (by rw [same]))
  | stored reading state downloaded =>
      exact .stored (same ▸ reading) state (downloaded.trans (by rw [same]))
  | completed _ reading downloaded state => exact .completed running (same ▸ reading) downloaded state
  | described present state downloaded => exact .described (same ▸ present) state downloaded
  | fetched absent state downloaded => exact .fetched (same ▸ absent) state downloaded

theorem step_download {variant : Variant} {url : List UInt8} {s after : ServerState} {input : Input}
    {output : List Output} (taken : step variant url s input = .ok (after, output)) :
    DownloadEffect s after := by
  have dispatching : ∀ {i rest}, s.pc = .dispatch (i :: rest) → s.Running := fun pc reason => by
    simp [pc]
  cases step_cases taken with
  | timeout pc set effect => exact .same effect.download
  | interrupted pc => exact .same rfl
  | ready pc members => exact .same rfl
  | accept pc branch possible effect => exact .same effect.download
  | datagram pc branch effect => exact .same effect.download
  | media pc branch possible effect =>
      exact (effect.download (dispatch_running s _)).behind (dispatching pc) rfl
  | rtsp pc branch possible effect =>
      cases effect with
      | failed reason unread => exact .same rfl
      | teardown receive type effect => exact .same (effect.download.trans receive.download)
      | switched receive type effect => exact effect.download.behind (dispatching pc) receive.download
  | rearmed pc free =>
      rw [ServerState.rearm, locked_free free]
      exact .same rfl
  | rearmLocked pc taken => exact .same rfl
  | filler effect => exact .same effect.download

end Http2Rtsp.Server
