import BtstackPort.Port.AudioPath
/-!
# The port without its audio

Of the sink, the rest of the port reads the connection record and the address for outgoing connections. Media packets and
playback requests leave both alone (`handle_data`), so a run of the port makes the same calls without them
(`control_isolated`): no stream, however it is cut into packets and requests, can delay, repeat or lose a command.
-/

namespace BtstackPort

open FaultMachine

variable {P : Platform}

/-- What of an event is not audio. -/
def PortEvent.toControl : PortEvent → Option PortEvent
  | .sink (.media _ _) | .sink (.playback _) => none
  | e => some e

namespace Sink

/-- What the rest of the port reads of the sink. -/
def record (s : Sink P) : A2dpConnection × BdAddr := (s.a2dpConnection, s.deviceAddr)

/-- Another sink behind the record of this one. -/
def withAudio (x : Sink P) (s : Sink P) : Sink P :=
  { x with a2dpConnection := s.a2dpConnection, deviceAddr := s.deviceAddr }

end Sink

namespace Port

/-- The same port with another sink behind the connection record, and another trace. -/
def withAudio (x : Sink P) (trace : List Action) (s : Port P) : Port P :=
  { s with sink := x.withAudio s.sink, trace := trace }

@[simp] theorem withAudio_self (s : Port P) : s.withAudio s.sink s.trace = s := rfl

@[simp] theorem withAudio_withAudio (x y : Sink P) (trace trace' : List Action) (s : Port P) :
    (s.withAudio x trace).withAudio y trace' = s.withAudio y trace' := rfl

/-- The calls of a trace. -/
def calls (trace : List Action) : List PortCall := trace.filterMap fun
  | .called c => some c
  | .received _ => none

@[simp] theorem calls_append (trace trace' : List Action) : calls (trace ++ trace') = calls trace ++ calls trace' := by
  simp [calls]

@[simp] theorem calls_actions (e : PortEvent) (cs : List PortCall) : calls (actions e cs) = cs := by
  simp [calls, actions, List.filterMap_map]

end Port

/-! ## Audio events -/

theorem media_deviceAddr {packet : List UInt8} {now : Readings} {s t : Sink P}
    (h : handleL2capMediaDataPacket packet now s = .ok t) : t.deviceAddr = s.deviceAddr := by
  have hown := handleL2capMediaDataPacket_withPeer s.deviceAddr s.a2dpConnection.a2dpCid packet now s
  rw [Sink.withPeer_self, h] at hown
  have ht : t = t.withPeer s.deviceAddr s.a2dpConnection.a2dpCid := Except.ok.inj hown
  rw [ht]
  rfl

theorem playback_deviceAddr {r : AudioRequest} {s t : Sink P} (h : playbackHandler r s = .ok t) :
    t.deviceAddr = s.deviceAddr := by
  have hown := playbackHandler_withPeer s.deviceAddr s.a2dpConnection.a2dpCid r s
  rw [Sink.withPeer_self, h] at hown
  have ht : t = t.withPeer s.deviceAddr s.a2dpConnection.a2dpCid := Except.ok.inj hown
  rw [ht]
  rfl

/-- An audio event changes the sink behind the connection record, and calls nothing of the port. -/
theorem step_audio {s t : Port P} {e : PortEvent} (he : e.toControl = none) (h : Port.step s e = .ok t) :
    ∃ y trace, t = s.withAudio y trace ∧ Port.calls trace = Port.calls s.trace := by
  have hsink : ∀ e' : SinkEvent, e = .sink e' → (∀ a, e' ≠ .a2dp a) →
      (∀ u, step s.sink e' = .ok u → u.deviceAddr = s.sink.deviceAddr) →
      ∃ y trace, t = s.withAudio y trace ∧ Port.calls trace = Port.calls s.trace := by
    rintro e' rfl hdata haddr
    obtain ⟨u, hu, rfl⟩ := step_sink_returns.1 h
    refine ⟨u, s.trace ++ Port.actions (.sink e') [], ?_, by simp⟩
    rw [Port.withAudio, Sink.withAudio, ← (step_data hu hdata).1, ← haddr u hu]
  cases e with
  | sink e' =>
    cases e' with
    | a2dp a => cases he
    | media packet now => exact hsink _ rfl (by simp) fun u hu => media_deviceAddr hu
    | playback r => exact hsink _ rfl (by simp) fun u hu => playback_deviceAddr hu
  | _ => cases he

/-! ## All other events -/

@[simp] theorem mediaProcessingInit_deviceAddr (c : SbcConfiguration) (s : Sink P) :
    (mediaProcessingInit c s).deviceAddr = s.deviceAddr := by
  unfold mediaProcessingInit
  split <;> rfl

@[simp] theorem mediaProcessingPause_deviceAddr (s : Sink P) :
    (mediaProcessingPause s).deviceAddr = s.deviceAddr := by
  unfold mediaProcessingPause
  split <;> rfl

@[simp] theorem mediaProcessingClose_deviceAddr (s : Sink P) :
    (mediaProcessingClose s).deviceAddr = s.deviceAddr := by
  unfold mediaProcessingClose
  split <;> rfl

/-- What an A2DP event does to the record does not depend on the audio behind it. -/
theorem a2dpSinkPacketHandler_record (e : A2dpEvent) {s a : Sink P} (h : s.record = a.record) :
    (a2dpSinkPacketHandler e s).map Sink.record = (a2dpSinkPacketHandler e a).map Sink.record := by
  obtain ⟨hconnection, haddr⟩ := Prod.mk.inj h
  cases e with
  | mediaCodecSbcConfiguration c =>
    simp only [a2dpSinkPacketHandler, storeSbcConfiguration]
    cases sbcChannelMode c.channelMode with
    | error f => rfl
    | ok mode => simp [Except.map, pure, Except.pure, Sink.record, hconnection, haddr]
  | streamEstablished status addr cid localSeid =>
    simp only [a2dpSinkPacketHandler]
    split <;> simp [Except.map, Sink.record, hconnection, haddr]
  | streamStarted =>
    simp only [a2dpSinkPacketHandler, streamStarted_eq]
    split <;> split <;> simp_all [Except.map, Sink.record, Sink.setStreamState]
  | _ => simp [a2dpSinkPacketHandler, Except.map, Sink.record, Sink.setStreamState, hconnection, haddr]

/-- The handlers outside the sink read the record only. -/
theorem handle_withAudio {e : PortEvent} (he : e.toSink = none) (x : Sink P) (trace : List Action) (s : Port P) :
    ∃ y, Port.handle e (s.withAudio x trace) =
      (Port.handle e s).map fun (t, cs) => (t.withAudio y trace, cs) := by
  refine ⟨x, ?_⟩
  cases e with
  | sink e => cases he
  | avrcp e =>
    cases e with
    | connectionEstablished status cid addr =>
      by_cases hstatus : status = 0 <;>
        simp [Port.handle, avrcpPacketHandler, Port.withAudio, Sink.withAudio, hstatus, Except.map]
    | _ => rfl
  | avrcpController e =>
    by_cases hcid : s.avrcpConnection.avrcpCid = 0
    · simp [Port.handle, avrcpControllerPacketHandler, Port.withAudio, hcid, Except.map]
    · cases e with
      | getCapabilityEventId eventId =>
        by_cases hshift : eventId.toNat < 31 <;>
          simp [Port.handle, avrcpControllerPacketHandler, Port.withAudio, hcid, hshift, Except.map]
      | uidsChanged =>
        by_cases hclient : s.coverArtClientConnected <;>
          simp [Port.handle, avrcpControllerPacketHandler, Port.withAudio, hcid, hclient, Except.map]
      | nowPlayingCoverArtInfo value =>
        by_cases hlength : value.length = 7 <;>
          simp [Port.handle, avrcpControllerPacketHandler, Port.withAudio, hcid, hlength, Except.map]
      | _ =>
        simp [Port.handle, avrcpControllerPacketHandler, coverArtConnect, Port.withAudio, Sink.withAudio, hcid, Except.map]
  | avrcpTarget e => cases e <;> rfl
  | coverArt e =>
    cases e with
    | bipData packet =>
      cases hactive : s.download.active <;> cases hfile : s.download.file <;>
        simp [Port.handle, coverArtPacketHandler, Port.withAudio, hactive, hfile, Except.map]
    | operationComplete =>
      cases hactive : s.download.active <;> cases hfile : s.download.file <;>
        simp [Port.handle, coverArtPacketHandler, Port.withAudio, hactive, hfile, Except.map]
    | connectionEstablished status cid =>
      by_cases hstatus : status = 0 <;>
        simp [Port.handle, coverArtPacketHandler, Port.withAudio, hstatus, Except.map]
    | _ => rfl
  | console cmd reply =>
    simp only [Port.handle, stdinProcess]
    split
    all_goals first | rfl | (split <;> rfl)

/-! ## The component -/

/-- The port `s` is `a`, up to the audio behind the record and to audio events in the trace. -/
def SameControl (a s : Port P) : Prop :=
  ∃ x trace, s = a.withAudio x trace ∧ Port.calls trace = Port.calls a.trace

theorem SameControl.refl (s : Port P) : SameControl s s := ⟨s.sink, s.trace, rfl, rfl⟩

theorem Sink.withAudio_of_record {u w : Sink P} (h : u.record = w.record) : u.withAudio w = u := by
  obtain ⟨hconnection, haddr⟩ := Prod.mk.inj h
  rw [Sink.withAudio, ← hconnection, ← haddr]

theorem SameControl.step_a2dp {a s t : Port P} {e : A2dpEvent} (h : SameControl a s)
    (ht : Port.step s (.sink (.a2dp e)) = .ok t) : ∃ b, Port.step a (.sink (.a2dp e)) = .ok b ∧ SameControl b t := by
  obtain ⟨x, trace, rfl, hcalls⟩ := h
  obtain ⟨u, hu, rfl⟩ := step_sink_returns.1 ht
  have hrecord := a2dpSinkPacketHandler_record e (s := x.withAudio a.sink) (a := a.sink) rfl
  rw [show a2dpSinkPacketHandler e (x.withAudio a.sink) = .ok u from hu] at hrecord
  cases hw : a2dpSinkPacketHandler e a.sink with
  | error f => simp [hw, Except.map] at hrecord
  | ok w =>
    rw [hw] at hrecord
    refine ⟨_, step_sink_returns.2 ⟨w, hw, rfl⟩, u, trace ++ Port.actions (.sink (.a2dp e)) [], ?_, by simp [hcalls]⟩
    simp only [Port.withAudio]
    rw [Sink.withAudio_of_record (Except.ok.inj hrecord)]

theorem SameControl.step_other {a s t : Port P} {e : PortEvent} (he : e.toSink = none) (h : SameControl a s)
    (ht : Port.step s e = .ok t) : ∃ b, Port.step a e = .ok b ∧ SameControl b t := by
  obtain ⟨x, trace, rfl, hcalls⟩ := h
  obtain ⟨u, cs, hu, rfl⟩ := Port.step_returns.1 ht
  obtain ⟨y, hcommutes⟩ := handle_withAudio he x trace a
  rw [hu] at hcommutes
  cases hv : Port.handle e a with
  | error f => simp [hv, Except.map] at hcommutes
  | ok v =>
    rw [hv] at hcommutes
    obtain ⟨rfl, rfl⟩ := Prod.mk.inj (Except.ok.inj hcommutes)
    exact ⟨_, Port.step_returns.2 ⟨v.1, v.2, hv, rfl⟩, y, trace ++ Port.actions e v.2, rfl, by simp [hcalls]⟩

/-- **The rest of the port is a component of it.** -/
theorem control_component {ok : Port P → PortEvent → Prop} :
    IsComponent Port.step ok Port.step (fun _ _ => True) PortEvent.toControl (fun s a => SameControl a s) where
  own := by
    rintro s e t a k hR - hpart he
    refine ⟨trivial, ?_⟩
    cases e with
    | sink e =>
      cases e with
      | a2dp e => cases hpart; exact hR.step_a2dp he
      | _ => cases hpart
    | _ => cases hpart; exact hR.step_other rfl he
  other := by
    rintro s e t a ⟨x, trace, rfl, hcalls⟩ - hpart he
    obtain ⟨y, trace', rfl, htrace⟩ := step_audio hpart he
    exact ⟨y, trace', rfl, htrace.trans hcalls⟩

/-- **Isolation of the control path**: in every run of the port, the media packets and playback requests can be left out;
the port then makes the same calls and ends in the same state, up to the audio path. -/
theorem control_isolated {ok : Port P → PortEvent → Prop} {es : List PortEvent} {s : Port P}
    (h : Port.RunsTo ok es s) :
    ∃ a : Port P, Port.RunsTo (fun _ _ => True) (es.filterMap PortEvent.toControl) a ∧ SameControl a s :=
  h.component control_component (.refl _)

theorem control_isolated_mixedRun :
    ∃ s : Port (.reference true), Port.RunsTo (fun _ _ => True) mixedRun s ∧
      ∃ a : Port (.reference true),
        Port.RunsTo (fun _ _ => True) (mixedRun.filterMap PortEvent.toControl) a ∧ SameControl a s := by
  obtain ⟨s, hs⟩ := mixedRun_run
  exact ⟨s, hs, control_isolated hs⟩

end BtstackPort
