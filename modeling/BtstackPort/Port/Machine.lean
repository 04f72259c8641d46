import BtstackPort.Port.Console
/-!
# The port as a step machine

`Port.step` serves one event of the main thread: the handler registered for it runs, and what was received and called
is added to the trace. `Port.RunsTo` are the runs from the initial state.

`PeerView` is what the port remembers of the AVRCP peer, `peerLog` the part of the trace that concerns it: the events,
the files, the image handles and the connects of the cover-art client. The view evolves on its own and decides alone
what the log becomes (`step_peer`).
-/

namespace BtstackPort

open FaultMachine Stdio

variable {P : Platform}

namespace Port

def handle (e : PortEvent) (s : Port P) : Except PortFault (Port P × List PortCall) :=
  match e with
  | .sink e => do
    let t ← (BtstackPort.step s.sink e).mapError .sink
    return ({ s with sink := t }, [])
  | .avrcp e => .ok (avrcpPacketHandler e s)
  | .avrcpController e => avrcpControllerPacketHandler e s
  | .avrcpTarget e => .ok (avrcpTargetPacketHandler e s)
  | .coverArt e => coverArtPacketHandler e s
  | .console cmd reply => .ok (stdinProcess cmd reply s)

/-- What an event and the calls made on its behalf add to the trace. -/
def actions (e : PortEvent) (cs : List PortCall) : List Action := .received e :: cs.map .called

def step (s : Port P) (e : PortEvent) : Except PortFault (Port P) := do
  let (t, cs) ← handle e s
  return { t with trace := s.trace ++ actions e cs }

/-- Runs of the port from its initial state in which `ok` allows every event. -/
def RunsTo (ok : Port P → PortEvent → Prop) (es : List PortEvent) (s : Port P) : Prop :=
  Run step ok (Port.initial P) es s

theorem step_returns {s t : Port P} {e : PortEvent} :
    step s e = .ok t ↔
      ∃ u cs, handle e s = .ok (u, cs) ∧ t = { u with trace := s.trace ++ actions e cs } := by
  unfold step
  rw [bind_returns]
  constructor
  · rintro ⟨⟨u, cs⟩, hu, ht⟩
    cases ht
    exact ⟨u, cs, hu, rfl⟩
  · rintro ⟨u, cs, hu, rfl⟩
    exact ⟨(u, cs), hu, rfl⟩

end Port

/-! ## What the port remembers of the AVRCP peer -/

structure PeerView where
  avrcpConnection : AvrcpConnection
  imageHandle : ImageHandle
  download : CoverArtDownload
deriving DecidableEq, Repr

def Port.peer (s : Port P) : PeerView := ⟨s.avrcpConnection, s.imageHandle, s.download⟩

@[simp] def AvrcpConnection.next (c : AvrcpConnection) : PortEvent → AvrcpConnection
  | .avrcp (.connectionEstablished status cid _) =>
    if status ≠ 0 then { c with avrcpCid := 0 } else { c with avrcpCid := cid }
  | .avrcp (.connectionReleased _) => { c with avrcpCid := 0, notificationsSupportedByTarget := 0 }
  | .avrcpController (.getCapabilityEventId eventId) =>
    if c.avrcpCid = 0 then c
    else { c with notificationsSupportedByTarget := addNotification c.notificationsSupportedByTarget eventId }
  | .avrcpController (.playbackStatusChanged playStatus) =>
    if c.avrcpCid = 0 then c else { c with playing := playStatus = .playing }
  | .console cmd reply => if cmd = 'c' then { c with avrcpCid := reply.cid.getD c.avrcpCid } else c
  | _ => c

@[simp] def CoverArtDownload.next (d : CoverArtDownload) : PortEvent → CoverArtDownload
  | .console cmd reply =>
    if cmd = '@' then
      if reply.fileOpened then ⟨true, 0, some d.filesOpened, d.filesOpened + 1⟩
      else ⟨true, 0, none, d.filesOpened⟩
    else d
  | .coverArt (.bipData packet) =>
    if d.active then { d with fileSize := d.fileSize + packet.size.toUInt32 } else d
  | .coverArt .operationComplete => if d.active then { d with active := false, file := none } else d
  | _ => d

/-- What is done with the file on behalf of an event. -/
@[simp] def CoverArtDownload.fileOps (d : CoverArtDownload) : PortEvent → List (FileOp Nat)
  | .console cmd reply => if cmd = '@' ∧ reply.fileOpened then [.fopen d.filesOpened] else []
  | .coverArt (.bipData packet) => if d.active then d.file.toList.map (.fwrite · packet.bytes) else []
  | .coverArt .operationComplete => if d.active then d.file.toList.map .fclose else []
  | _ => []

/-- The file size reported on behalf of an event. -/
@[simp] def CoverArtDownload.reports (d : CoverArtDownload) : PortEvent → Option UInt32
  | .coverArt .operationComplete => if d.active then some d.fileSize else none
  | _ => none

inductive PeerAction where
  | received (e : PortEvent)
  | file (op : FileOp Nat)
  | reportDownload (fileSize : UInt32)
  | storeHandle (imageHandle : ImageHandle)
  | useHandle (imageHandle : ImageHandle)
  | connectClient (status : UInt8)

def PortCall.peer : PortCall → Option PeerAction
  | .file op => some (.file op)
  | .reportDownload fileSize => some (.reportDownload fileSize)
  | .storeImageHandle imageHandle => some (.storeHandle imageHandle)
  | .avrcpCoverArtClientGetLinkedThumbnail _ imageHandle => some (.useHandle imageHandle)
  | .avrcpCoverArtClientConnect _ status => some (.connectClient status)
  | _ => none

def Action.peer : Action → Option PeerAction
  | .received e => some (.received e)
  | .called c => c.peer

/-- The part of a trace that concerns the AVRCP peer. -/
def peerLog (trace : List Action) : List PeerAction := trace.filterMap Action.peer

def PeerAction.fileOp : PeerAction → Option (FileOp Nat)
  | .file op => some op
  | _ => none

/-- The file operations of a trace. -/
def fileLog (trace : List Action) : List (FileOp Nat) := (peerLog trace).filterMap PeerAction.fileOp

namespace PeerView

/-- The image handle an event stores. -/
@[simp] def stores (v : PeerView) : PortEvent → Option ImageHandle
  | .avrcpController (.nowPlayingCoverArtInfo value) =>
    if v.avrcpConnection.avrcpCid = 0 then none else if h : value.length = 7 then some ⟨value, h⟩ else none
  | _ => none

@[simp] def next (v : PeerView) (e : PortEvent) : PeerView where
  avrcpConnection := v.avrcpConnection.next e
  imageHandle := (v.stores e).getD v.imageHandle
  download := v.download.next e

/-- The status with which the cover-art client was connected on behalf of an event. -/
@[simp] def connects (v : PeerView) : PortEvent → Option UInt8
  | .avrcpController (.getCapabilityEventIdDone reply) =>
    if v.avrcpConnection.avrcpCid = 0 then none else some reply.status
  | .console cmd reply => if cmd = 'd' then some reply.status else none
  | _ => none

/-- The image handle used on behalf of an event. -/
@[simp] def uses (v : PeerView) : PortEvent → Option ImageHandle
  | .console cmd _ => if cmd = '@' then some v.imageHandle else none
  | _ => none

/-- What is done on behalf of an event. -/
def effects (v : PeerView) (e : PortEvent) : List PeerAction :=
  (v.download.reports e).toList.map .reportDownload ++ (v.download.fileOps e).map .file ++
    (v.stores e).toList.map .storeHandle ++ (v.uses e).toList.map .useHandle ++
    (v.connects e).toList.map .connectClient

/-- What an event adds to the log. -/
def actions (v : PeerView) (e : PortEvent) : List PeerAction := .received e :: v.effects e

end PeerView

/-! ## The view decides -/

theorem peer_avrcp (e : AvrcpEvent) (s : Port P) :
    (avrcpPacketHandler e s).1.peer = s.peer.next (.avrcp e) ∧
      (avrcpPacketHandler e s).2.filterMap PortCall.peer = [] := by
  cases e with
  | connectionEstablished status cid addr =>
    by_cases hs : status = 0
    · simp [avrcpPacketHandler, hs, Port.peer, PortCall.peer]
    · simp [avrcpPacketHandler, hs, Port.peer]
  | connectionReleased cid => exact ⟨rfl, rfl⟩
  | ignored => exact ⟨rfl, rfl⟩

theorem peer_controller {e : AvrcpControllerEvent} {s u : Port P} {cs : List PortCall}
    (h : avrcpControllerPacketHandler e s = .ok (u, cs)) :
    u.peer = s.peer.next (.avrcpController e) ∧
      .received (.avrcpController e) :: cs.filterMap PortCall.peer =
        s.peer.actions (.avrcpController e) := by
  by_cases hcid : s.avrcpConnection.avrcpCid = 0
  · simp only [avrcpControllerPacketHandler, hcid, if_true] at h
    cases h
    cases e <;> simp [Port.peer, PeerView.actions, PeerView.effects, hcid]
  · cases e with
    | getCapabilityEventId eventId =>
      simp only [avrcpControllerPacketHandler, if_neg hcid] at h
      split at h
      · cases h
        simp [Port.peer, PeerView.actions, PeerView.effects, hcid]
      · cases h
    | getCapabilityEventIdDone reply =>
      simp only [avrcpControllerPacketHandler, if_neg hcid, coverArtConnect] at h
      cases h
      simp [Port.peer, PeerView.actions, PeerView.effects, hcid]
      rfl
    | playbackStatusChanged playStatus =>
      simp only [avrcpControllerPacketHandler, if_neg hcid] at h
      cases h
      simp [Port.peer, PeerView.actions, PeerView.effects, hcid]
    | uidsChanged =>
      simp only [avrcpControllerPacketHandler, if_neg hcid] at h
      split at h <;> cases h <;> exact ⟨rfl, rfl⟩
    | nowPlayingCoverArtInfo value =>
      simp only [avrcpControllerPacketHandler, if_neg hcid] at h
      split at h
      · rename_i hlen
        cases h
        simp [Port.peer, PeerView.actions, PeerView.effects, hcid, PortCall.peer, hlen]
      · rename_i hlen
        cases h
        simp [Port.peer, PeerView.actions, PeerView.effects, hcid, hlen]
    | ignored =>
      simp only [avrcpControllerPacketHandler, if_neg hcid] at h
      cases h
      exact ⟨rfl, rfl⟩

theorem peer_coverArt {e : CoverArtEvent} {s u : Port P} {cs : List PortCall}
    (h : coverArtPacketHandler e s = .ok (u, cs)) :
    u.peer = s.peer.next (.coverArt e) ∧
      .received (.coverArt e) :: cs.filterMap PortCall.peer = s.peer.actions (.coverArt e) := by
  cases e with
  | bipData packet =>
    simp only [coverArtPacketHandler] at h
    split at h
    · rename_i hactive
      split at h
      · cases h
      · rename_i f hf
        cases h
        simp [Port.peer, PeerView.actions, PeerView.effects, hactive, hf, PortCall.peer]
    · rename_i hidle
      cases h
      simp [Port.peer, PeerView.actions, PeerView.effects, hidle]
  | connectionEstablished status cid =>
    simp only [coverArtPacketHandler] at h
    split at h <;> cases h <;> exact ⟨rfl, rfl⟩
  | operationComplete =>
    simp only [coverArtPacketHandler] at h
    split at h
    · rename_i hactive
      split at h
      · cases h
      · rename_i f hf
        cases h
        simp [Port.peer, PeerView.actions, PeerView.effects, hactive, hf, PortCall.peer]
    · rename_i hidle
      cases h
      simp [Port.peer, PeerView.actions, PeerView.effects, hidle]
  | connectionReleased cid => cases h; exact ⟨rfl, rfl⟩
  | ignored => cases h; exact ⟨rfl, rfl⟩

/-- `'t'` and `'T'` concern the audio sink and the volume only. -/
theorem peer_changeVolume (volumePercent : Int) (reply : Reply) (s : Port P) :
    (changeVolume volumePercent reply s).1.peer = s.peer ∧
      (changeVolume volumePercent reply s).2.filterMap PortCall.peer = [] := by
  refine ⟨rfl, ?_⟩
  unfold changeVolume avrcpVolumeChanged
  simp only
  split <;> rfl

theorem peer_console (cmd : Char) (reply : Reply) (s : Port P) :
    (stdinProcess cmd reply s).1.peer = s.peer.next (.console cmd reply) ∧
      .received (.console cmd reply) :: (stdinProcess cmd reply s).2.filterMap PortCall.peer =
        s.peer.actions (.console cmd reply) := by
  unfold stdinProcess
  split
  · exact ⟨rfl, rfl⟩
  · exact ⟨rfl, rfl⟩
  · exact ⟨rfl, rfl⟩
  · exact ⟨rfl, rfl⟩
  · exact ⟨rfl, rfl⟩
  · obtain ⟨hpeer, hcalls⟩ := peer_changeVolume
      (if s.volumePercentage ≤ 90 then s.volumePercentage + 10 else 100) reply s
    rw [hpeer, hcalls]
    exact ⟨rfl, rfl⟩
  · obtain ⟨hpeer, hcalls⟩ := peer_changeVolume
      (if s.volumePercentage ≥ 10 then s.volumePercentage - 10 else 0) reply s
    rw [hpeer, hcalls]
    exact ⟨rfl, rfl⟩
  · exact ⟨rfl, rfl⟩
  · exact ⟨rfl, rfl⟩
  · exact ⟨rfl, rfl⟩
  · by_cases ho : reply.fileOpened
    · simp [getLinkedThumbnail, Port.peer, PeerView.actions, PeerView.effects, ho, PortCall.peer]
    · simp [getLinkedThumbnail, Port.peer, PeerView.actions, PeerView.effects, ho]
      rfl
  · rename_i hc _ _ _ _ _ hd _ hat
    have hquiet : s.peer.next (.console cmd reply) = s.peer ∧
        s.peer.actions (.console cmd reply) = [.received (.console cmd reply)] := by
      simp [PeerView.actions, PeerView.effects, show cmd ≠ 'c' from hc, show cmd ≠ 'd' from hd, show cmd ≠ '@' from hat]
    rw [hquiet.1, hquiet.2]
    split <;> exact ⟨rfl, rfl⟩

theorem peer_target (e : AvrcpTargetEvent) (s : Port P) :
    (avrcpTargetPacketHandler e s).1.peer = s.peer ∧
      (avrcpTargetPacketHandler e s).2.filterMap PortCall.peer = [] := by
  cases e with
  | volumeChanged volume =>
    refine ⟨rfl, ?_⟩
    simp only [avrcpTargetPacketHandler, avrcpVolumeChanged]
    split <;> rfl
  | ignored => exact ⟨rfl, rfl⟩

/-- **The view decides**: a step of the port takes the view to its next value and logs the view's actions. -/
theorem step_peer {s t : Port P} {e : PortEvent} (h : Port.step s e = .ok t) :
    t.peer = s.peer.next e ∧ peerLog t.trace = peerLog s.trace ++ s.peer.actions e := by
  obtain ⟨u, cs, hu, rfl⟩ := Port.step_returns.1 h
  suffices hpeer : u.peer = s.peer.next e ∧ .received e :: cs.filterMap PortCall.peer = s.peer.actions e by
    refine ⟨hpeer.1, ?_⟩
    rw [← hpeer.2]
    simp [peerLog, Port.actions, Action.peer, List.filterMap_map, Function.comp_def]
  cases e with
  | sink e =>
    obtain ⟨v, -, hv⟩ := bind_returns.1 hu
    cases hv
    exact ⟨rfl, rfl⟩
  | avrcp e =>
    obtain ⟨hpeer, hcalls⟩ := peer_avrcp e s
    rw [Except.ok.inj hu] at hpeer hcalls
    rw [hpeer, hcalls]
    exact ⟨rfl, rfl⟩
  | avrcpController e => exact peer_controller hu
  | avrcpTarget e =>
    obtain ⟨hpeer, hcalls⟩ := peer_target e s
    rw [Except.ok.inj hu] at hpeer hcalls
    rw [hpeer, hcalls]
    exact ⟨rfl, rfl⟩
  | coverArt e => exact peer_coverArt hu
  | console cmd reply =>
    have hpeer := peer_console cmd reply s
    rw [Except.ok.inj hu] at hpeer
    exact hpeer

/-! ## What the actions of a step are -/

section Actions

variable {v : PeerView} {e : PortEvent}

theorem PeerView.received_not_mem_effects (e' : PortEvent) : .received e' ∉ v.effects e := by
  simp [PeerView.effects]

@[simp] theorem PeerView.storeHandle_mem_actions {h : ImageHandle} :
    .storeHandle h ∈ v.actions e ↔ v.stores e = some h := by
  simp [PeerView.actions, PeerView.effects]

@[simp] theorem PeerView.useHandle_mem_actions {h : ImageHandle} :
    .useHandle h ∈ v.actions e ↔ v.uses e = some h := by
  simp [PeerView.actions, PeerView.effects]

@[simp] theorem PeerView.connectClient_mem_actions {status : UInt8} :
    .connectClient status ∈ v.actions e ↔ v.connects e = some status := by
  simp [PeerView.actions, PeerView.effects]

end Actions

theorem PeerView.fileOp_actions (v : PeerView) (e : PortEvent) :
    (v.actions e).filterMap PeerAction.fileOp = v.download.fileOps e := by
  have hnone : ∀ {α : Type} (f : α → PeerAction) (o : Option α), (∀ a, (f a).fileOp = none) →
      (o.toList.map f).filterMap PeerAction.fileOp = [] := by
    intro α f o hf
    cases o <;> simp [hf]
  have hfile : ((v.download.fileOps e).map .file).filterMap PeerAction.fileOp = v.download.fileOps e := by
    simp [List.filterMap_map, Function.comp_def, PeerAction.fileOp]
  rw [PeerView.actions, List.filterMap_cons_none rfl, PeerView.effects]
  simp only [List.filterMap_append, hfile]
  rw [hnone _ _ fun _ => rfl, hnone _ _ fun _ => rfl, hnone _ _ fun _ => rfl, hnone _ _ fun _ => rfl]
  simp

/-- The download part of the view decides what is done with files. -/
theorem step_download {s t : Port P} {e : PortEvent} (h : Port.step s e = .ok t) :
    t.download = s.download.next e ∧ fileLog t.trace = fileLog s.trace ++ s.download.fileOps e := by
  obtain ⟨hpeer, hlog⟩ := step_peer h
  refine ⟨congrArg PeerView.download hpeer, ?_⟩
  rw [fileLog, hlog, List.filterMap_append, PeerView.fileOp_actions]
  rfl

end BtstackPort
