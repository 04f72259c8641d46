import BtstackPort.Port.AudioPath
import BtstackPort.Port.Thumbnail
import BtstackPort.Sink.Faults
/-!
# Every event that makes the port fault

After a run whose audio events are moderate, the events that break the program can be told from the event and the state
(`port_faults_iff`): those of the sink, a notification id that `1 << event_id` cannot hold, and cover-art data for a
download whose file could not be opened. So the port serves any interleaving, of any length, of events that are each
well formed by themselves (`port_serves_wellFormed`).
-/

namespace BtstackPort

open FaultMachine Sink

variable {P : Platform}

namespace Port

def Moderate (s : Port P) : PortEvent → Prop
  | .sink e => s.sink.Moderate e
  | _ => True

def Faulty (s : Port P) : PortEvent → Prop
  | .sink e => s.sink.Faulty e
  | .avrcpController (.getCapabilityEventId eventId) => s.avrcpConnection.avrcpCid ≠ 0 ∧ 31 ≤ eventId.toNat
  | .coverArt (.bipData _) | .coverArt .operationComplete => s.download.active = true ∧ s.download.file = none
  | _ => False

/-- Serving `e` is undefined: the program faults, or the WAV writer reads a block past its end. -/
def Breaks (s : Port P) (e : PortEvent) : Prop :=
  (∃ f, Port.step s e = .error f) ∨
    ∃ t cs, Port.step s e = .ok t ∧ Extends s.sink t.sink cs ∧ ∃ c ∈ cs, c.OverReads

end Port

/-! ## Faults are told from event and state -/

section Faulty

variable {s : Port P}

theorem controller_faults_iff (e : AvrcpControllerEvent) (s : Port P) :
    (∃ f, avrcpControllerPacketHandler e s = .error f) ↔ s.Faulty (.avrcpController e) := by
  unfold avrcpControllerPacketHandler
  by_cases hcid : s.avrcpConnection.avrcpCid = 0
  · cases e <;> simp [hcid, Port.Faulty]
  · cases e with
    | getCapabilityEventId eventId =>
      simp only [hcid, if_false, Port.Faulty, ne_eq, not_false_eq_true, true_and]
      split
      · simp
        omega
      · simp
        omega
    | uidsChanged => simp [hcid, Port.Faulty]; split <;> simp
    | nowPlayingCoverArtInfo value => simp [hcid, Port.Faulty]; split <;> simp
    | _ => simp [hcid, Port.Faulty]

theorem coverArt_faults_iff (e : CoverArtEvent) (s : Port P) :
    (∃ f, coverArtPacketHandler e s = .error f) ↔ s.Faulty (.coverArt e) := by
  cases e with
  | bipData packet =>
    cases hactive : s.download.active <;> cases hfile : s.download.file <;>
      simp [coverArtPacketHandler, Port.Faulty, hactive, hfile]
  | operationComplete =>
    cases hactive : s.download.active <;> cases hfile : s.download.file <;>
      simp [coverArtPacketHandler, Port.Faulty, hactive, hfile]
  | connectionEstablished status cid =>
    simp only [coverArtPacketHandler, Port.Faulty, iff_false]
    split <;> simp
  | _ => simp [coverArtPacketHandler, Port.Faulty]

/-- A step faults exactly if its handler does. -/
theorem port_step_faults {e : PortEvent} : (∃ f, Port.step s e = .error f) ↔ ∃ f, Port.handle e s = .error f := by
  unfold Port.step
  cases Port.handle e s <;> simp [pure, Except.pure]

/-- An event for the sink breaks the port exactly if it breaks the sink. -/
theorem sink_event_breaks {e : SinkEvent} : s.Breaks (.sink e) ↔ s.sink.Breaks e := by
  have hfaults : (∃ f, Port.step s (.sink e) = .error f) ↔ ∃ f, step s.sink e = .error f := by
    rw [port_step_faults]
    simp only [Port.handle]
    cases step s.sink e <;> simp [Except.mapError, pure, Except.pure]
  unfold Port.Breaks Sink.Breaks
  rw [hfaults]
  refine or_congr Iff.rfl ⟨?_, ?_⟩
  · rintro ⟨t, cs, ht, hlog, hover⟩
    obtain ⟨u, hu, rfl⟩ := step_sink_returns.1 ht
    exact ⟨u, cs, hu, hlog, hover⟩
  · rintro ⟨u, cs, hu, hlog, hover⟩
    exact ⟨_, cs, step_sink_returns.2 ⟨u, hu, rfl⟩, hlog, hover⟩

/-- Any other event leaves the WAV writer alone. -/
theorem other_breaks {e : PortEvent} (he : e.toSink = none) : s.Breaks e ↔ ∃ f, Port.handle e s = .error f := by
  unfold Port.Breaks
  rw [port_step_faults]
  refine or_iff_left ?_
  rintro ⟨t, cs, ht, hlog, c, hc, -⟩
  obtain ⟨u, ps, hu, rfl⟩ := Port.step_returns.1 ht
  obtain ⟨addr, cid, hpeer⟩ := handle_sameAudio he hu
  have hsilent : Extends s.sink u.sink [] := by
    rw [hpeer]
    exact (List.append_nil _).symm
  rw [hlog.unique hsilent] at hc
  cases hc

end Faulty

/-! ## Runs -/

section Runs

variable {s t : Port P}

/-- What is moderate or faulty for the sink does not depend on the variables that others write. -/
theorem SameAudio.moderate {a u : Sink P} (h : SameAudio a u) {e : SinkEvent} (he : u.Moderate e) : a.Moderate e := by
  obtain ⟨addr, cid, rfl⟩ := h
  cases e with
  | a2dp e => cases e <;> exact he
  | media packet now => exact he
  | playback r => trivial

theorem SameAudio.faulty_iff {a u : Sink P} (h : SameAudio a u) (e : SinkEvent) : u.Faulty e ↔ a.Faulty e := by
  obtain ⟨addr, cid, rfl⟩ := h
  cases e with
  | a2dp e => cases e <;> rfl
  | media packet now => rfl
  | playback r => rfl

theorem SameAudio.breaks_iff {a u : Sink P} (h : SameAudio a u) (e : SinkEvent) : u.Breaks e ↔ a.Breaks e := by
  obtain ⟨addr, cid, rfl⟩ := h
  obtain ⟨addr', cid', hcommutes⟩ := step_withPeer addr cid e a
  unfold Sink.Breaks
  rw [hcommutes]
  cases BtstackPort.step a e with
  | error f => simp [Except.map]
  | ok b =>
    -- the calls of `b` do not depend on the two variables
    have hcalls : ∀ cs, Extends (a.withPeer addr cid) (b.withPeer addr' cid') cs ↔ Extends a b cs := fun _ => Iff.rfl
    simp [Except.map, hcalls]

/-- The sink of a port that saw moderate events is one that saw moderate events alone. -/
theorem run_moderate_sink {es : List PortEvent} (h : Port.RunsTo Port.Moderate es s) :
    ∃ a : Sink P, RunsTo Sink.Moderate (es.filterMap PortEvent.toSink) a ∧ SameAudio a s.sink :=
  h.component (audioPath_component fun _ _ _ hR hok => hR.moderate hok) sameAudio_initial

/-- Told from the sink that runs on its own events. -/
theorem port_breaks_of_sound (h144 : P.AtMost144Frames) {a : Sink P} (ha : a.Sound)
    (hnoSink : P.audioSink = false → a.sbcFrameSize = 0) (hsame : SameAudio a s.sink) (e : PortEvent) :
    s.Breaks e ↔ s.Faulty e := by
  cases e with
  | sink e =>
    rw [sink_event_breaks, hsame.breaks_iff, step_breaks_iff h144 ha hnoSink]
    exact (hsame.faulty_iff e).symm
  | avrcpController e => rw [other_breaks rfl]; exact controller_faults_iff e s
  | coverArt e => rw [other_breaks rfl]; exact coverArt_faults_iff e s
  | _ => rw [other_breaks rfl]; simp [Port.handle, Port.Faulty]

/-- **Faults of the port**: after any run whose streams have at most two channels and frames that fit `sbc_frame` (and,
without an audio sink, blocks of two channels), an event breaks the program exactly if it breaks the sink, or is a
notification id from 31 on while an AVRCP connection is recorded, or cover-art data or the end of a download whose file
was not opened. -/
theorem port_faults_iff (h144 : P.AtMost144Frames) {es : List PortEvent}
    (h : Port.RunsTo Port.Moderate es s) (e : PortEvent) : s.Breaks e ↔ s.Faulty e := by
  obtain ⟨a, ha, hsame⟩ := run_moderate_sink h
  exact port_breaks_of_sound h144 (run_sound_sink ha) (run_noSink ha) hsame e

theorem mixedRun_moderate : ∃ s : Port (.reference true), Port.RunsTo Port.Moderate mixedRun s :=
  ⟨_, .cons trivial rfl (.cons trivial rfl (.cons trivial rfl (.cons (Nat.le_refl 2) rfl (.cons trivial rfl
    (.cons (moderate_twoFrames _) rfl (.cons trivial rfl (.cons trivial rfl (.cons trivial rfl (.cons trivial rfl
      (.nil _))))))))))⟩

theorem port_faults_iff_mixedRun :
    ∃ s : Port (.reference true), Port.RunsTo Port.Moderate mixedRun s ∧
      ∀ e, s.Breaks e ↔ s.Faulty e := by
  obtain ⟨s, hs⟩ := mixedRun_moderate
  exact ⟨s, hs, port_faults_iff (Platform.reference_atMost144Frames true) hs⟩

end Runs

/-! ## Events that are well formed by themselves -/

/-- A configuration names a known channel mode and at most two channels, a packet that passes the header checks states
at least one frame, no more than payload bytes and none longer than `sbc_frame`, a notification id fits the mask, and
`fopen` succeeds. None of this depends on the state. -/
def WellFormed (P : Platform) : PortEvent → Prop
  | .sink (.a2dp (.mediaCodecSbcConfiguration c)) => (∀ code, c.channelMode ≠ .other code) ∧ c.numChannels.toNat ≤ 2
  | .sink (.media packet _) => ∀ sbcHeader payload, mediaPayload P packet = some (sbcHeader, payload) →
      sbcHeader.numFrames ≠ 0 ∧ sbcHeader.numFrames ≤ payload.length ∧
        payload.length / sbcHeader.numFrames ≤ maxSbcFrameSize
  | .avrcpController (.getCapabilityEventId eventId) => eventId.toNat < 31
  | .console cmd reply => cmd = '@' → reply.fileOpened = true
  | _ => True

/-- The next well-formed event is served. -/
structure InService (s : Port P) : Prop where
  sink : ∃ a : Sink P, a.Sound ∧ SameAudio a s.sink
  channels : s.sink.a2dpConnection.sbcConfiguration.numChannels.toNat ≤ 2
  download : Recorded s.download (fileLog s.trace)

section WellFormed

variable {s t : Port P} {e : PortEvent}

theorem inService_initial : InService (Port.initial P) where
  sink := ⟨Sink.initial P, sinkSound_initial, sameAudio_initial⟩
  channels := Nat.zero_le 2
  download := recorded_initial

/-- With an audio sink no block is written by itself. -/
theorem not_hasShortBlock (hsink : P.audioSink = true) (s : Sink P) (packet : List UInt8) :
    ¬ s.HasShortBlock packet := by
  rintro ⟨hno, -⟩
  rw [hsink] at hno
  cases hno

theorem WellFormed.moderate (hsink : P.audioSink = true) (he : WellFormed P e) (hs : InService s) : s.Moderate e := by
  cases e with
  | sink e =>
    cases e with
    | a2dp e =>
      cases e with
      | streamStarted => exact hs.channels
      | _ => trivial
    | media packet now =>
      refine ⟨?_, not_hasShortBlock hsink s.sink packet⟩
      rintro - sbcHeader payload hp
      exact Or.inl (he sbcHeader payload hp).2.2
    | playback r => trivial
  | _ => trivial

theorem WellFormed.not_faulty (hsink : P.audioSink = true) (he : WellFormed P e) (hs : InService s) : ¬ s.Faulty e := by
  cases e with
  | sink e =>
    cases e with
    | a2dp e =>
      cases e with
      | mediaCodecSbcConfiguration c =>
        rintro ⟨code, hcode⟩
        exact he.1 code hcode
      | _ => exact id
    | media packet now =>
      rintro (hshort | ⟨sbcHeader, payload, hp, hfaulty⟩)
      · exact not_hasShortBlock hsink s.sink packet hshort
      rw [if_pos hsink] at hfaulty
      obtain ⟨hpos, hle, -⟩ := he sbcHeader payload hp
      omega
    | playback r => exact id
  | avrcpController e =>
    cases e with
    | getCapabilityEventId eventId =>
      rintro ⟨-, hbig⟩
      have hfits : eventId.toNat < 31 := he
      omega
    | _ => exact id
  | coverArt e =>
    have hfile : ¬ (s.download.active = true ∧ s.download.file = none) := by
      rintro ⟨hactive, hnone⟩
      obtain ⟨f, hf, -⟩ := hs.download.active hactive
      rw [hnone] at hf
      cases hf
    cases e with
    | bipData packet => exact hfile
    | operationComplete => exact hfile
    | _ => exact id
  | _ => exact id

/-- The stored number of channels comes from a configuration. -/
theorem a2dp_numChannels {e : A2dpEvent} {u v : Sink P} (he : WellFormed P (.sink (.a2dp e)))
    (hu : u.a2dpConnection.sbcConfiguration.numChannels.toNat ≤ 2) (h : a2dpSinkPacketHandler e u = .ok v) :
    v.a2dpConnection.sbcConfiguration.numChannels.toNat ≤ 2 := by
  cases e with
  | mediaCodecSbcConfiguration c =>
    obtain ⟨mode, -, hv⟩ := bind_returns.1 h
    cases hv
    exact he.2
  | streamEstablished status addr cid localSeid =>
    simp only [a2dpSinkPacketHandler] at h
    split at h <;> cases h <;> exact hu
  | streamStarted =>
    cases h
    rw [streamStarted_eq, mediaProcessingInit_connection]
    split
    · rw [mediaProcessingClose_connection]
      exact hu
    · exact hu
  | _ =>
    cases h
    simpa [Sink.setStreamState] using hu

theorem step_numChannels (he : WellFormed P e)
    (hs : s.sink.a2dpConnection.sbcConfiguration.numChannels.toNat ≤ 2) (h : Port.step s e = .ok t) :
    t.sink.a2dpConnection.sbcConfiguration.numChannels.toNat ≤ 2 := by
  by_cases hnone : e.toSink = none
  · obtain ⟨u, cs, hu, rfl⟩ := Port.step_returns.1 h
    obtain ⟨addr, cid, hpeer⟩ := handle_sameAudio hnone hu
    simp only [hpeer]
    exact hs
  · cases e with
    | sink e =>
      obtain ⟨u, hu, rfl⟩ := step_sink_returns.1 h
      by_cases hdata : ∃ a, e = .a2dp a
      · obtain ⟨a, rfl⟩ := hdata
        exact a2dp_numChannels he hs hu
      · simp only [(step_data hu fun a ha => hdata ⟨a, ha⟩).1]
        exact hs
    | _ => exact absurd rfl hnone

theorem InService.step (hsink : P.audioSink = true) (hs : InService s) (he : WellFormed P e)
    (h : Port.step s e = .ok t) : InService t where
  sink := by
    obtain ⟨a, ha, hsame⟩ := hs.sink
    have hcomponent : IsComponent (Port.step (P := P)) Port.Moderate _ Sink.Moderate _ _ :=
      audioPath_component fun _ _ _ hR hok => hR.moderate hok
    cases hpart : e.toSink with
    | none => exact ⟨a, ha, hcomponent.other s e t a hsame (he.moderate hsink hs) hpart h⟩
    | some k =>
      obtain ⟨hok, b, hb, hsame'⟩ := hcomponent.own s e t a k hsame (he.moderate hsink hs) hpart h
      exact ⟨b, ha.step hok hb, hsame'⟩
  channels := step_numChannels he hs.channels h
  download := by
    obtain ⟨hnext, hlog⟩ := step_download h
    rw [hnext, hlog]
    refine hs.download.step ?_
    rintro reply rfl
    exact he rfl

/-- One well-formed event is served. -/
theorem InService.progress (hsink : P.audioSink = true) (h144 : P.AtMost144Frames) (hs : InService s)
    (he : WellFormed P e) : s.Moderate e ∧ ∃ t, Port.step s e = .ok t ∧ InService t := by
  refine ⟨he.moderate hsink hs, ?_⟩
  have hreturns : ¬ ∃ f, Port.step s e = .error f := by
    obtain ⟨a, ha, hsame⟩ := hs.sink
    have hbreaks := port_breaks_of_sound h144 ha (fun hno => by simp [hsink] at hno) hsame e
    exact fun hf => he.not_faulty hsink hs (hbreaks.1 (Or.inl hf))
  cases ht : Port.step s e with
  | error f => exact absurd ⟨f, ht⟩ hreturns
  | ok t => exact ⟨t, rfl, hs.step hsink he ht⟩

/-- **Progress**: with an audio sink, events that are well formed by themselves are all served without a fault, in any
order and number, however the streams, the peers, the downloads and the console interleave. -/
theorem port_serves_wellFormed (hsink : P.audioSink = true) (h144 : P.AtMost144Frames)
    {es : List PortEvent} (h : ∀ e ∈ es, WellFormed P e) : ∃ s : Port P, Port.RunsTo Port.Moderate es s := by
  have hprogress : ∀ s : Port P, InService s → ∀ e ∈ es, s.Moderate e ∧ ∃ t, Port.step s e = .ok t ∧ InService t :=
    fun s hs e he => hs.progress hsink h144 (h e he)
  obtain ⟨s, hs, -⟩ := Run.of_progress hprogress inService_initial
  exact ⟨s, hs⟩

theorem mixedRun_wellFormed : ∀ e ∈ mixedRun, WellFormed (.reference true) e := by
  intro e he
  simp only [mixedRun, List.mem_cons, List.not_mem_nil, or_false] at he
  rcases he with rfl | rfl | rfl | rfl | rfl | rfl | rfl | rfl | rfl | rfl
  · trivial
  · exact ⟨by simp [SbcConfigurationEvent.stereo44100], by decide⟩
  · intro h
    cases h
  · trivial
  · exact show (2 : UInt8).toNat < 31 by decide
  · rintro sbcHeader payload ⟨⟩
    decide
  · intro _
    rfl
  all_goals trivial

theorem port_serves_wellFormed_mixedRun : ∃ s : Port (.reference true), Port.RunsTo Port.Moderate mixedRun s :=
  port_serves_wellFormed rfl (Platform.reference_atMost144Frames true) mixedRun_wellFormed

end WellFormed

end BtstackPort
