import BtstackPort.Port.ControlPath
import BtstackPort.Port.VolumeEcho
/-!
# What the two sides agree on

The port deals with its peer in three ways that outlive an event. It takes the address of the last peer for outgoing
connections (`connects_to_latest`), it reports its battery status (`battery_told`), and both sides move one volume
(`volumes_agree`). Nothing checks that these stay in step: commands, events of the peer and reconnects come in any
order, and what a command reports may be refused or find no connection. `Dealings` is what one event does about the
first two; `step_volume` says it for the third.
-/

namespace BtstackPort

open FaultMachine Trace

variable {P : Platform}

/-! ## What one event does -/

def nextBattery (status : BatteryStatus) : PortEvent → BatteryStatus
  | .console cmd _ => if cmd = 'V' then status.toggle else status
  | _ => status

def PortCall.battery : PortCall → Option (UInt16 × BatteryStatus)
  | .avrcpTargetBatteryStatusChanged cid status => some (cid, status)
  | _ => none

def batteryReports (s : Port P) : PortEvent → List (UInt16 × BatteryStatus)
  | .avrcp (.connectionEstablished status cid _) => if status = 0 then [(cid, s.batteryStatus)] else []
  | .console cmd _ => if cmd = 'V' then [(s.avrcpConnection.avrcpCid, s.batteryStatus.toggle)] else []
  | _ => []

/-- The peer of a connection that is established. -/
def PortEvent.establishes : PortEvent → Option BdAddr
  | .sink (.a2dp (.streamEstablished status addr _ _)) => if status = 0 then some addr else none
  | .avrcp (.connectionEstablished status _ addr) => if status = 0 then some addr else none
  | _ => none

/-- The peer of an outgoing connection. -/
def PortCall.connectsTo : PortCall → Option BdAddr
  | .a2dpSinkEstablishStream addr => some addr
  | .avrcpConnect addr => some addr
  | .avrcpCoverArtClientConnect addr _ => some addr
  | _ => none

/-- What the event `e` does about the battery and the address, with the calls `cs`. -/
structure Dealings (s u : Port P) (e : PortEvent) (cs : List PortCall) : Prop where
  battery : u.batteryStatus = nextBattery s.batteryStatus e
  reports : cs.filterMap PortCall.battery = batteryReports s e
  addr : u.deviceAddr = e.establishes.getD s.deviceAddr
  connects : cs.filterMap PortCall.connectsTo = [] ∨
    (cs.filterMap PortCall.connectsTo = [s.deviceAddr] ∧ e.establishes = none)

section Handlers

variable {s u : Port P} {cs : List PortCall}

theorem a2dp_deviceAddr {e : A2dpEvent} {s t : Sink P} (h : a2dpSinkPacketHandler e s = .ok t) :
    t.deviceAddr = (PortEvent.sink (.a2dp e)).establishes.getD s.deviceAddr := by
  cases e with
  | mediaCodecSbcConfiguration c =>
    obtain ⟨mode, -, h⟩ := bind_returns.1 h
    cases h
    rfl
  | streamEstablished status addr cid localSeid =>
    simp only [a2dpSinkPacketHandler] at h
    by_cases hstatus : status = 0
    · rw [if_neg (not_not.2 hstatus)] at h
      cases h
      simp [PortEvent.establishes, hstatus]
    · rw [if_pos hstatus] at h
      cases h
      simp [PortEvent.establishes, hstatus]
  | streamStarted =>
    cases h
    rw [streamStarted_eq, mediaProcessingInit_deviceAddr]
    split
    · rw [mediaProcessingClose_deviceAddr]
      rfl
    · rfl
  | _ => cases h; simp [PortEvent.establishes, Sink.setStreamState]

theorem dealings_sink {e : SinkEvent} (h : Port.handle (.sink e) s = .ok (u, cs)) : Dealings s u (.sink e) cs := by
  obtain ⟨t, ht, hu⟩ := bind_returns.1 h
  cases hu
  suffices haddr : t.deviceAddr = (PortEvent.sink e).establishes.getD s.deviceAddr from ⟨rfl, rfl, haddr, Or.inl rfl⟩
  cases hstep : BtstackPort.step s.sink e with
  | error f => rw [hstep] at ht; cases ht
  | ok v =>
    rw [hstep] at ht
    cases ht
    cases e with
    | a2dp e => exact a2dp_deviceAddr hstep
    | media packet now => exact media_deviceAddr hstep
    | playback r => exact playback_deviceAddr hstep

theorem dealings_avrcp (e : AvrcpEvent) (s : Port P) :
    Dealings s (avrcpPacketHandler e s).1 (.avrcp e) (avrcpPacketHandler e s).2 := by
  cases e with
  | connectionEstablished status cid addr =>
    by_cases hstatus : status = 0
    · subst hstatus
      exact ⟨rfl, rfl, rfl, Or.inl rfl⟩
    · unfold avrcpPacketHandler
      simp only [ne_eq, hstatus, not_false_eq_true, if_true]
      exact ⟨rfl, by simp [batteryReports, hstatus], by simp [PortEvent.establishes, hstatus], Or.inl rfl⟩
  | connectionReleased cid => exact ⟨rfl, rfl, rfl, Or.inl rfl⟩
  | ignored => exact ⟨rfl, rfl, rfl, Or.inl rfl⟩

theorem dealings_controller {e : AvrcpControllerEvent} (h : avrcpControllerPacketHandler e s = .ok (u, cs)) :
    Dealings s u (.avrcpController e) cs := by
  unfold avrcpControllerPacketHandler at h
  split at h
  · cases h
    exact ⟨rfl, rfl, rfl, Or.inl rfl⟩
  · cases e with
    | getCapabilityEventId eventId =>
      simp only at h
      split at h
      · cases h
        exact ⟨rfl, rfl, rfl, Or.inl rfl⟩
      · cases h
    | getCapabilityEventIdDone reply => cases h; exact ⟨rfl, rfl, rfl, Or.inr ⟨rfl, rfl⟩⟩
    | playbackStatusChanged playStatus => cases h; exact ⟨rfl, rfl, rfl, Or.inl rfl⟩
    | uidsChanged =>
      simp only at h
      split at h <;> cases h <;> exact ⟨rfl, rfl, rfl, Or.inl rfl⟩
    | nowPlayingCoverArtInfo value =>
      simp only at h
      split at h <;> cases h <;> exact ⟨rfl, rfl, rfl, Or.inl rfl⟩
    | ignored => cases h; exact ⟨rfl, rfl, rfl, Or.inl rfl⟩

theorem dealings_target (e : AvrcpTargetEvent) (s : Port P) :
    Dealings s (avrcpTargetPacketHandler e s).1 (.avrcpTarget e) (avrcpTargetPacketHandler e s).2 := by
  cases e with
  | volumeChanged volume =>
    simp only [avrcpTargetPacketHandler, avrcpVolumeChanged]
    split <;> exact ⟨rfl, rfl, rfl, Or.inl rfl⟩
  | ignored => exact ⟨rfl, rfl, rfl, Or.inl rfl⟩

theorem dealings_coverArt {e : CoverArtEvent} (h : coverArtPacketHandler e s = .ok (u, cs)) :
    Dealings s u (.coverArt e) cs := by
  cases e with
  | bipData packet =>
    simp only [coverArtPacketHandler] at h
    split at h
    · split at h <;> cases h
      exact ⟨rfl, rfl, rfl, Or.inl rfl⟩
    · cases h
      exact ⟨rfl, rfl, rfl, Or.inl rfl⟩
  | connectionEstablished status cid =>
    simp only [coverArtPacketHandler] at h
    split at h <;> cases h <;> exact ⟨rfl, rfl, rfl, Or.inl rfl⟩
  | operationComplete =>
    simp only [coverArtPacketHandler] at h
    split at h
    · split at h <;> cases h
      exact ⟨rfl, rfl, rfl, Or.inl rfl⟩
    · cases h
      exact ⟨rfl, rfl, rfl, Or.inl rfl⟩
  | connectionReleased cid => cases h; exact ⟨rfl, rfl, rfl, Or.inl rfl⟩
  | ignored => cases h; exact ⟨rfl, rfl, rfl, Or.inl rfl⟩

/-- `'t'` and `'T'` concern neither. -/
theorem dealings_changeVolume (volumePercent : Int) (reply : Reply) (s : Port P) :
    (changeVolume volumePercent reply s).2.filterMap PortCall.battery = [] ∧
      (changeVolume volumePercent reply s).2.filterMap PortCall.connectsTo = [] := by
  unfold changeVolume avrcpVolumeChanged
  simp only
  split <;> exact ⟨rfl, rfl⟩

theorem dealings_console (cmd : Char) (reply : Reply) (s : Port P) :
    Dealings s (stdinProcess cmd reply s).1 (.console cmd reply) (stdinProcess cmd reply s).2 := by
  unfold stdinProcess
  split
  case h_1 => exact ⟨rfl, rfl, rfl, Or.inr ⟨rfl, rfl⟩⟩
  case h_3 => exact ⟨rfl, rfl, rfl, Or.inr ⟨rfl, rfl⟩⟩
  case h_6 => exact ⟨rfl, (dealings_changeVolume _ reply s).1, rfl, Or.inl (dealings_changeVolume _ reply s).2⟩
  case h_7 => exact ⟨rfl, (dealings_changeVolume _ reply s).1, rfl, Or.inl (dealings_changeVolume _ reply s).2⟩
  case h_9 => exact ⟨rfl, rfl, rfl, Or.inr ⟨rfl, rfl⟩⟩
  case h_11 =>
    unfold getLinkedThumbnail
    by_cases hopen : reply.fileOpened
    · simp only [hopen, if_true]
      exact ⟨rfl, rfl, rfl, Or.inl rfl⟩
    · simp only [hopen, Bool.false_eq_true, if_false]
      exact ⟨rfl, rfl, rfl, Or.inl rfl⟩
  case h_12 =>
    rename_i hV _ _ _
    have hV : cmd ≠ 'V' := hV
    split <;> exact ⟨(if_neg hV).symm, (if_neg hV).symm, rfl, Or.inl rfl⟩
  all_goals exact ⟨rfl, rfl, rfl, Or.inl rfl⟩

/-- **What one event does** about the battery and the address. -/
theorem handle_dealings {e : PortEvent} (h : Port.handle e s = .ok (u, cs)) : Dealings s u e cs := by
  cases e with
  | sink e => exact dealings_sink h
  | avrcp e =>
    have hd := dealings_avrcp e s
    rw [Except.ok.inj h] at hd
    exact hd
  | avrcpController e => exact dealings_controller h
  | avrcpTarget e =>
    have hd := dealings_target e s
    rw [Except.ok.inj h] at hd
    exact hd
  | coverArt e => exact dealings_coverArt h
  | console cmd reply =>
    have hd := dealings_console cmd reply s
    rw [Except.ok.inj h] at hd
    exact hd

end Handlers

section Runs

variable {ok : Port P → PortEvent → Prop} {es : List PortEvent} {s t : Port P} {e : PortEvent}

/-! ## Outgoing connections -/

def Action.establishes : Action → Option BdAddr
  | .received e => e.establishes
  | .called _ => none

/-- The address for outgoing connections: that of the peer last connected, at first the default. -/
def peerAddr (trace : List Action) : BdAddr := (latest Action.establishes trace).getD deviceAddr

/-- An outgoing connection goes to that peer. -/
def ConnectsToPeer (pre : List Action) (a : Action) : Prop :=
  ∀ c addr, a = .called c → c.connectsTo = some addr → addr = peerAddr pre

theorem peerAddr_called (trace : List Action) (cs : List PortCall) :
    peerAddr (trace ++ cs.map .called) = peerAddr trace := by
  rw [peerAddr, latest_append_ignored]
  · rfl
  · intro a ha
    obtain ⟨c, -, rfl⟩ := List.mem_map.1 ha
    rfl

theorem peerAddr_received (trace : List Action) (e : PortEvent) :
    peerAddr (trace ++ [.received e]) = e.establishes.getD (peerAddr trace) := by
  have hlast : latest Action.establishes [.received e] = e.establishes := by
    simp only [latest, List.reverse_singleton, List.findSome?_cons, Action.establishes]
    cases e.establishes <;> rfl
  rw [peerAddr, latest_append, hlast]
  cases e.establishes <;> rfl

theorem Dealings.connectsToPeer {u : Port P} {cs : List PortCall} (h : Dealings s u e cs) {trace : List Action}
    (haddr : s.deviceAddr = peerAddr trace) :
    Throughout (fun pre => ConnectsToPeer (trace ++ [.received e] ++ pre)) (cs.map .called) := by
  rintro pre a post hsplit c addr rfl hto
  obtain ⟨before, after, hcs, rfl, hafter⟩ := List.map_eq_append_iff.1 hsplit
  have hmem : addr ∈ cs.filterMap PortCall.connectsTo := by
    obtain ⟨c', rest, rfl, hc, -⟩ := List.map_eq_cons_iff.1 hafter
    cases hc
    exact List.mem_filterMap.2 ⟨c, by simp [hcs], hto⟩
  rcases h.connects with hnone | ⟨hone, hestablishes⟩
  · rw [hnone] at hmem
    cases hmem
  · rw [hone, List.mem_singleton] at hmem
    rw [hmem, peerAddr_called, peerAddr_received, hestablishes, haddr]
    rfl

theorem run_connectsToPeer (h : Port.RunsTo ok es s) :
    Throughout ConnectsToPeer s.trace ∧ s.deviceAddr = peerAddr s.trace := by
  refine Run.inv (I := fun s => Throughout ConnectsToPeer s.trace ∧ s.deviceAddr = peerAddr s.trace) ?_ h
    ⟨throughout_nil, rfl⟩
  rintro s e t ⟨hs, haddr⟩ - he
  obtain ⟨u, cs, hu, rfl⟩ := Port.step_returns.1 he
  have hd := handle_dealings hu
  have hsplit : s.trace ++ Port.actions e cs = s.trace ++ [.received e] ++ cs.map .called := by simp [Port.actions]
  constructor
  · simp only [hsplit]
    refine throughout_append.2 ⟨throughout_snoc.2 ⟨hs, ?_⟩, hd.connectsToPeer haddr⟩
    intro c addr heq
    cases heq
  · show u.deviceAddr = _
    simp only [hsplit]
    rw [peerAddr_called, peerAddr_received, hd.addr, haddr]

/-- **Outgoing connections**: whichever way it is made, an outgoing connection goes to the peer that A2DP or AVRCP last
connected to, and to the default address before the first one. -/
theorem connects_to_latest (h : Port.RunsTo ok es s) :
    Throughout ConnectsToPeer s.trace :=
  (run_connectsToPeer h).1

/-! ## The battery -/

/-- A battery status handed to `avrcp_target_battery_status_changed`, whose result the port prints at most. -/
def Action.battery : Action → Option (UInt16 × BatteryStatus)
  | .received _ => none
  | .called c => c.battery

def Establishes (cid : UInt16) (e : PortEvent) : Prop := ∃ addr, e = .avrcp (.connectionEstablished 0 cid addr)

/-- Events after which another connection is recorded, or none. -/
def LosesConnection : PortEvent → Prop
  | .avrcp (.connectionEstablished ..) => True
  | .avrcp (.connectionReleased _) => True
  | .console cmd reply => cmd = 'c' ∧ reply.cid ≠ none
  | _ => False

theorem next_avrcpCid (h : ¬ LosesConnection e) (c : AvrcpConnection) : (c.next e).avrcpCid = c.avrcpCid := by
  cases e with
  | avrcp e =>
    cases e with
    | ignored => rfl
    | _ => exact absurd trivial h
  | avrcpController e =>
    cases e <;> simp only [AvrcpConnection.next]
    all_goals split <;> rfl
  | console cmd reply =>
    simp only [AvrcpConnection.next]
    split
    · rename_i hcmd
      have hnone : reply.cid = none := by
        by_contra hsome
        exact h ⟨hcmd, hsome⟩
      rw [hnone]
      rfl
    · rfl
  | _ => rfl

theorem step_battery (he : Port.step s e = .ok t) :
    t.batteryStatus = nextBattery s.batteryStatus e ∧
      latest Action.battery t.trace = (batteryReports s e).getLast?.or (latest Action.battery s.trace) := by
  obtain ⟨u, cs, hu, rfl⟩ := Port.step_returns.1 he
  have hd := handle_dealings hu
  refine ⟨hd.battery, ?_⟩
  have hreports : (Port.actions e cs).filterMap Action.battery = batteryReports s e := by
    rw [← hd.reports, Port.actions, List.filterMap_cons_none rfl, List.filterMap_map]
    rfl
  rw [latest_append, latest_eq_getLast? _ (Port.actions e cs), hreports]

/-- **The battery**: from the time an AVRCP connection is established until another one is recorded, or none, the last
battery status that was handed to the stack for it is the current one. -/
theorem battery_told {cid : UInt16} (h : Port.RunsTo ok es s) (hcid : Since (Establishes cid) LosesConnection es) :
    s.avrcpConnection.avrcpCid = cid ∧ latest Action.battery s.trace = some (cid, s.batteryStatus) := by
  revert hcid
  refine Run.history (I := fun es s => Since (Establishes cid) LosesConnection es →
    s.avrcpConnection.avrcpCid = cid ∧ latest Action.battery s.trace = some (cid, s.batteryStatus)) ?_ ?_ h
  · intro hcid
    exact absurd hcid since_nil
  · intro es s e t _ hs _ he hcid
    obtain ⟨hbattery, hlast⟩ := step_battery he
    have hconnection : t.avrcpConnection = s.avrcpConnection.next e := congrArg PeerView.avrcpConnection (step_peer he).1
    rcases since_snoc.1 hcid with ⟨addr, rfl⟩ | ⟨hsince, hkeeps⟩
    · rw [hconnection, hlast, hbattery]
      exact ⟨rfl, rfl⟩
    · obtain ⟨hold, hreport⟩ := hs hsince
      refine ⟨by rw [hconnection, next_avrcpCid hkeeps, hold], ?_⟩
      rw [hlast, hbattery, hreport]
      cases e with
      | avrcp e =>
        cases e with
        | ignored => rfl
        | _ => exact absurd trivial hkeeps
      | console cmd reply =>
        by_cases hcmd : cmd = 'V'
        · simp [batteryReports, nextBattery, hcmd, hold]
        · simp [batteryReports, nextBattery, hcmd]
      | _ => rfl

/-! ## The volume -/

/-- A volume that one of the two sides sets. -/
def Action.volumeSet : Action → Option UInt8
  | .received (.avrcpTarget (.volumeChanged volume)) => some volume
  | .called (.avrcpTargetVolumeChanged _ volume _) => some volume
  | _ => none

def lastSet (trace : List Action) : Option UInt8 := latest Action.volumeSet trace

/-- And that the other side learns of: a report counts if there is a connection and it was accepted. -/
def Action.exchanged : Action → Option UInt8
  | .received (.avrcpTarget (.volumeChanged volume)) => some volume
  | .called (.avrcpTargetVolumeChanged cid volume status) => if cid ≠ 0 ∧ status = 0 then some volume else none
  | _ => none

def lastExchanged (trace : List Action) : Option UInt8 := latest Action.exchanged trace

/-- A volume command is typed while a connection is recorded, and its report is accepted. -/
def ReportsVolume (s : Port P) (e : PortEvent) : Prop :=
  ∀ cmd reply, e = .console cmd reply → cmd = 't' ∨ cmd = 'T' → s.avrcpConnection.avrcpCid ≠ 0 ∧ reply.status = 0

/-- The volume that the event sets when it leaves `volumePercent`. -/
def PortEvent.setsVolume (volumePercent : Int) : PortEvent → Option UInt8
  | .avrcpTarget (.volumeChanged volume) => some volume
  | .console cmd _ => if cmd = 't' ∨ cmd = 'T' then some (absoluteVolume volumePercent) else none
  | _ => none

/-- Of the volumes passed on, only those of commands are reported. -/
theorem reported_volumeEffects (p : Int) (e : PortEvent) :
    (volumeEffects P p e).filterMap VolumeAction.reportedVolume =
      if isVolumeCommand e then [absoluteVolume (nextVolume p e)] else [] := by
  cases hcmd : isVolumeCommand e with
  | true =>
    rw [command_effects hcmd, commandedVolume, playedVolume]
    split <;> rfl
  | false =>
    cases e with
    | avrcpTarget e =>
      cases e with
      | volumeChanged volume =>
        rw [volumeEffects, playedVolume]
        split <;> rfl
      | ignored => rfl
    | console cmd reply =>
      simp only [isVolumeCommand, Bool.or_eq_false_iff, decide_eq_false_iff_not] at hcmd
      simp [hcmd.1, hcmd.2]
    | _ => rfl

theorem handle_volumesSet {u : Port P} {cs : List PortCall} (hu : Port.handle e s = .ok (u, cs)) :
    (cs.map Action.called).filterMap Action.volumeSet =
      if isVolumeCommand e then [absoluteVolume (nextVolume s.volumePercentage e)] else [] := by
  obtain ⟨-, hlog⟩ := step_volume (Port.step_returns.2 ⟨u, cs, hu, rfl⟩)
  have hcalls : cs.filterMap PortCall.volume = volumeEffects P s.volumePercentage e := by
    rw [volumeLog, List.filterMap_append, Port.actions, List.filterMap_cons_none rfl, List.filterMap_map] at hlog
    exact List.append_cancel_left hlog
  rw [← reported_volumeEffects (P := P), ← hcalls, List.filterMap_filterMap, List.filterMap_map]
  exact List.filterMap_congr fun c _ => by cases c <;> rfl

theorem step_lastSet (he : Port.step s e = .ok t) :
    lastSet t.trace = (e.setsVolume t.volumePercentage).or (lastSet s.trace) := by
  obtain ⟨hpercent, -⟩ := step_volume he
  obtain ⟨u, cs, hu, rfl⟩ := Port.step_returns.1 he
  have hset := handle_volumesSet hu
  rw [hpercent, lastSet, latest_append, latest_eq_getLast? _ (Port.actions e cs)]
  congr 1
  cases e with
  | avrcpTarget e =>
    cases e with
    | volumeChanged volume =>
      have hall : (Port.actions (.avrcpTarget (.volumeChanged volume)) cs).filterMap Action.volumeSet = [volume] := by
        have hfirst : Action.volumeSet (.received (.avrcpTarget (.volumeChanged volume))) = some volume := rfl
        rw [Port.actions, List.filterMap_cons_some hfirst, hset]
        rfl
      rw [hall]
      rfl
    | ignored => rw [Port.actions, List.filterMap_cons_none rfl, hset]; rfl
  | console cmd reply =>
    rw [Port.actions, List.filterMap_cons_none rfl, hset, PortEvent.setsVolume]
    by_cases hcmd : cmd = 't' ∨ cmd = 'T'
    · simp [isVolumeCommand, hcmd]
    · simp [isVolumeCommand, hcmd]
  | _ => rw [Port.actions, List.filterMap_cons_none rfl, hset]; rfl

/-! What is set is exchanged, unless a report is lost. -/

theorem exchanged_le (a : Action) : a.exchanged = none ∨ a.exchanged = a.volumeSet := by
  unfold Action.exchanged
  split
  · exact Or.inr rfl
  · split
    · exact Or.inr rfl
    · exact Or.inl rfl
  · exact Or.inl rfl

/-- A report that is not lost. -/
theorem changeVolume_exchanged {reply : Reply} (hcid : s.avrcpConnection.avrcpCid ≠ 0) (hstatus : reply.status = 0)
    (volumePercent : Int) :
    ((changeVolume volumePercent reply s).2.map Action.called).filterMap Action.exchanged =
      ((changeVolume volumePercent reply s).2.map Action.called).filterMap Action.volumeSet := by
  have hreport : ∀ volume, Action.exchanged (.called (.avrcpTargetVolumeChanged s.avrcpConnection.avrcpCid volume
      reply.status)) = some volume := fun _ => if_pos ⟨hcid, hstatus⟩
  unfold changeVolume avrcpVolumeChanged
  rw [List.map_cons, List.filterMap_cons_some (hreport _)]
  split <;> rfl

theorem handle_exchanged {u : Port P} {cs : List PortCall} (hok : ReportsVolume s e)
    (hu : Port.handle e s = .ok (u, cs)) :
    (cs.map Action.called).filterMap Action.exchanged = (cs.map Action.called).filterMap Action.volumeSet := by
  cases hcmd : isVolumeCommand e with
  | false =>
    have hnone := handle_volumesSet hu
    rw [hcmd] at hnone
    rw [hnone]
    refine List.filterMap_eq_nil_iff.2 fun a ha => ?_
    rcases exchanged_le a with hlost | hsame
    · exact hlost
    · rw [hsame]
      exact List.filterMap_eq_nil_iff.1 hnone a ha
  | true =>
    cases e with
    | console cmd reply =>
      simp only [isVolumeCommand, Bool.or_eq_true, decide_eq_true_eq] at hcmd
      obtain ⟨hcid, hstatus⟩ := hok cmd reply rfl hcmd
      have hcs : cs = (stdinProcess cmd reply s).2 := by
        rw [show stdinProcess cmd reply s = (u, cs) from Except.ok.inj hu]
      rw [hcs]
      rcases hcmd with rfl | rfl
      · exact changeVolume_exchanged hcid hstatus _
      · exact changeVolume_exchanged hcid hstatus _
    | _ => cases hcmd

theorem step_exchanged (hok : ReportsVolume s e) (he : Port.step s e = .ok t)
    (hs : lastExchanged s.trace = lastSet s.trace) : lastExchanged t.trace = lastSet t.trace := by
  obtain ⟨u, cs, hu, rfl⟩ := Port.step_returns.1 he
  have hreceived : Action.exchanged (.received e) = Action.volumeSet (.received e) := by
    cases e with
    | avrcpTarget e => cases e <;> rfl
    | _ => rfl
  have hactions : (Port.actions e cs).filterMap Action.exchanged = (Port.actions e cs).filterMap Action.volumeSet := by
    rw [Port.actions, List.filterMap_cons, List.filterMap_cons, hreceived, handle_exchanged hok hu]
  rw [lastExchanged, lastSet, latest_append, latest_append, latest_eq_getLast? _ (Port.actions e cs),
    latest_eq_getLast? _ (Port.actions e cs), hactions]
  exact congrArg _ hs

/-- The three places where the volume is known. -/
structure Agreed (s : Port P) : Prop where
  sink : P.audioSink = true → lastPlayed s.trace = lastSet s.trace
  nonneg : 0 ≤ s.volumePercentage
  fits : s.volumePercentage ≤ 200
  percent : ∀ volume, lastSet s.trace = some volume →
    percentOf volume ≤ s.volumePercentage ∧ s.volumePercentage ≤ percentOf volume + 1
  silent : lastSet s.trace = none → s.volumePercentage = 0

theorem agreed_initial : Agreed (Port.initial P) where
  sink _ := rfl
  nonneg := Int.le_refl 0
  fits := (by decide : (0 : Int) ≤ 200)
  percent volume h := by cases h
  silent _ := rfl

/-- What is converted and converted back is off by one percent at most. -/
theorem percentOf_absoluteVolume {p : Int} (h0 : 0 ≤ p) (hfits : p ≤ 200) :
    percentOf (absoluteVolume p) ≤ p ∧ p ≤ percentOf (absoluteVolume p) + 1 := by
  rw [percentOf, toNat_absoluteVolume_of_fits h0 (by omega)]
  omega

theorem Agreed.command (hs : Agreed s) (hcmd : isVolumeCommand e = true) (he : Port.step s e = .ok t) : Agreed t := by
  obtain ⟨-, hplayed⟩ := command_last hcmd he
  have hpercent := (step_volume he).1
  have hset := step_lastSet he
  have hrange : 0 ≤ t.volumePercentage ∧ t.volumePercentage ≤ 200 := by
    have h0 := hs.nonneg
    have hfits := hs.fits
    cases e with
    | console cmd reply =>
      simp only [isVolumeCommand, Bool.or_eq_true, decide_eq_true_eq] at hcmd
      rcases hcmd with rfl | rfl
      · simp only [nextVolume, volumeUp, if_true] at hpercent
        split at hpercent <;> omega
      · simp only [nextVolume, volumeDown, Char.reduceEq, if_false, if_true] at hpercent
        split at hpercent <;> omega
    | _ => cases hcmd
  have hlast : lastSet t.trace = some (absoluteVolume t.volumePercentage) := by
    rw [hset]
    cases e with
    | console cmd reply =>
      simp only [isVolumeCommand, Bool.or_eq_true, decide_eq_true_eq] at hcmd
      rw [PortEvent.setsVolume, if_pos hcmd]
      rfl
    | _ => cases hcmd
  constructor
  · intro hsink
    rw [hplayed, hlast, if_pos hsink]
  · exact hrange.1
  · exact hrange.2
  · intro volume hvolume
    rw [hlast] at hvolume
    cases hvolume
    exact percentOf_absoluteVolume hrange.1 hrange.2
  · intro hnone
    rw [hlast] at hnone
    cases hnone

theorem agreed_remote {volume : UInt8} (he : Port.step s (.avrcpTarget (.volumeChanged volume)) = .ok t) :
    Agreed t := by
  obtain ⟨hpercent, -, hplayed⟩ := echo_last he
  have hlast : lastSet t.trace = some volume := step_lastSet he
  have hlt := volume.toNat_lt
  have hvalue : percentOf volume = (volume.toNat * 100 / 127 : Nat) := rfl
  constructor
  · intro hsink
    rw [hplayed, hlast, if_pos hsink]
  · rw [hpercent, hvalue]
    omega
  · rw [hpercent, hvalue]
    omega
  · intro w hw
    rw [hlast] at hw
    cases hw
    rw [hpercent]
    omega
  · intro hnone
    rw [hlast] at hnone
    cases hnone

/-- Other events leave the volume alone. -/
theorem Agreed.other (hs : Agreed s) (hcmd : isVolumeCommand e = false)
    (hremote : ∀ volume, e ≠ .avrcpTarget (.volumeChanged volume)) (he : Port.step s e = .ok t) : Agreed t := by
  obtain ⟨hpercent, hlog⟩ := step_volume he
  have hset := step_lastSet he
  have hquiet : nextVolume s.volumePercentage e = s.volumePercentage ∧ volumeEffects P s.volumePercentage e = [] ∧
      e.setsVolume t.volumePercentage = none := by
    cases e with
    | avrcpTarget e =>
      cases e with
      | volumeChanged volume => exact absurd rfl (hremote volume)
      | ignored => exact ⟨rfl, rfl, rfl⟩
    | console cmd reply =>
      simp only [isVolumeCommand, Bool.or_eq_false_iff, decide_eq_false_iff_not] at hcmd
      simp [PortEvent.setsVolume, hcmd.1, hcmd.2]
    | _ => exact ⟨rfl, rfl, rfl⟩
  obtain ⟨hnext, heffects, hnone⟩ := hquiet
  rw [heffects] at hlog
  have hplayed : lastPlayed t.trace = lastPlayed s.trace := lastPlayed_append hlog
  rw [hnone, Option.none_or] at hset
  rw [hnext] at hpercent
  constructor
  · rw [hplayed, hset]
    exact hs.sink
  · rw [hpercent]
    exact hs.nonneg
  · rw [hpercent]
    exact hs.fits
  · rw [hset, hpercent]
    exact hs.percent
  · rw [hset, hpercent]
    exact hs.silent

theorem run_agreed (h : Port.RunsTo ok es s) : Agreed s := by
  refine Run.inv (I := Agreed) ?_ h agreed_initial
  intro s e t hs _ he
  cases hcmd : isVolumeCommand e with
  | true => exact hs.command hcmd he
  | false =>
    by_cases hremote : ∃ volume, e = .avrcpTarget (.volumeChanged volume)
    · obtain ⟨volume, rfl⟩ := hremote
      exact agreed_remote he
    · exact hs.other hcmd (fun volume heq => hremote ⟨volume, heq⟩) he

theorem run_exchanged (h : Port.RunsTo ReportsVolume es s) : lastExchanged s.trace = lastSet s.trace :=
  h.inv (I := fun s : Port P => lastExchanged s.trace = lastSet s.trace)
    (fun _ _ _ hs hok he => step_exchanged hok he hs) rfl

/-- **One volume**: the audio sink plays at the volume that was set last, whichever side set it, and the stored
percentage is at most one percent off it. If all volume commands find a connection and are accepted, it is the volume
that was exchanged last. -/
theorem volumes_agree (h : Port.RunsTo ok es s) :
    (P.audioSink = true → lastPlayed s.trace = lastSet s.trace) ∧
      (lastSet s.trace = none → s.volumePercentage = 0) ∧
      (∀ volume, lastSet s.trace = some volume →
        percentOf volume ≤ s.volumePercentage ∧ s.volumePercentage ≤ percentOf volume + 1) ∧
      (Port.RunsTo ReportsVolume es s → lastExchanged s.trace = lastSet s.trace) :=
  ⟨(run_agreed h).sink, (run_agreed h).silent, (run_agreed h).percent, run_exchanged⟩

end Runs

/-- A peer connects; the port connects back, reports its battery, and both sides change the volume. -/
def peerRun : List PortEvent :=
  [.avrcp (.connectionEstablished 0 5 (.replicate 6 7)), .console 'b' (.success none), .console 'V' (.success none),
    .avrcpTarget (.volumeChanged 127), .console 'T' (.success none)]

theorem peerRun_run :
    ∃ s : Port (.reference true), Port.RunsTo ReportsVolume peerRun s ∧ lastSet s.trace = some 114 := by
  refine ⟨_, .cons ?_ rfl (.cons ?_ rfl (.cons ?_ rfl (.cons ?_ rfl (.cons ?_ rfl (.nil _))))), rfl⟩
  all_goals
    intro cmd reply h hcmd
    cases h
  · exact absurd hcmd (by decide)
  · exact absurd hcmd (by decide)
  · exact ⟨by decide, rfl⟩

theorem connects_to_latest_peerRun :
    ∃ s : Port (.reference true), Port.RunsTo ReportsVolume peerRun s ∧ Throughout ConnectsToPeer s.trace := by
  obtain ⟨s, hs, -⟩ := peerRun_run
  exact ⟨s, hs, connects_to_latest hs⟩

theorem battery_told_peerRun :
    ∃ s : Port (.reference true), Port.RunsTo ReportsVolume peerRun s ∧ s.avrcpConnection.avrcpCid = 5 ∧
      latest Action.battery s.trace = some (5, s.batteryStatus) := by
  obtain ⟨s, hs, -⟩ := peerRun_run
  refine ⟨s, hs, battery_told hs ⟨[], _, _, rfl, ⟨_, rfl⟩, ?_⟩⟩
  intro e he
  simp only [List.mem_cons, List.not_mem_nil, or_false] at he
  rcases he with rfl | rfl | rfl | rfl <;> simp [LosesConnection]

theorem volumes_agree_peerRun :
    ∃ s : Port (.reference true), Port.RunsTo ReportsVolume peerRun s ∧ lastPlayed s.trace = some 114 ∧
      lastExchanged s.trace = some 114 ∧ 90 ≤ s.volumePercentage + 1 ∧ s.volumePercentage ≤ 90 := by
  obtain ⟨s, hs, hlast⟩ := peerRun_run
  obtain ⟨hsink, -, hpercent, hexchanged⟩ := volumes_agree hs
  obtain ⟨hle, hge⟩ := hpercent 114 hlast
  have hvalue : percentOf 114 = 89 := by decide
  rw [hvalue] at hle hge
  exact ⟨s, hs, (hsink rfl).trans hlast, (hexchanged hs).trans hlast, by omega, hge⟩

end BtstackPort
