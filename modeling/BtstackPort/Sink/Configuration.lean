import BtstackPort.Sink.PacketHandler
/-!
# The configuration in use is the one stored

`media_processing_init` passes the stored configuration on, but does nothing when media processing is already
initialised. What makes `STREAM_STARTED` use the stored configuration all the same is the `reconfigure` flag: a
configuration that arrives while initialised carries it, and `STREAM_STARTED` then closes first
(`a2dp_sink.c:227`). `Coherent` is the invariant behind this.
-/

namespace BtstackPort

open FaultMachine

variable {P : Platform}

/-- The sampling frequency of an `audio->init`. -/
def audioInitRate : Call → Option UInt16
  | .audioInit _ samplerate => some samplerate
  | _ => none

/-- The format of a `wav_writer_open`. -/
def wavOpenFormat : Call → Option (UInt8 × UInt16)
  | .wavOpen channels samplerate => some (channels, samplerate)
  | _ => none

def resampleInitChannels : Call → Option Nat
  | .resampleInit channels => some channels
  | _ => none

/-- Calls that set nothing up. -/
def Call.SetsNothingUp (c : Call) : Prop :=
  audioInitRate c = none ∧ wavOpenFormat c = none ∧ resampleInitChannels c = none

abbrev Sink.configuration (s : Sink P) : SbcConfiguration := s.a2dpConnection.sbcConfiguration

/-- The most recent setup used the stored configuration. -/
structure Configured (s : Sink P) : Prop where
  audio : P.audioSink = true → latest audioInitRate s.calls = some s.configuration.samplingFrequency
  wav : P.storeToWavFile = true →
    latest wavOpenFormat s.calls = some (s.configuration.numChannels, s.configuration.samplingFrequency)
  resample : latest resampleInitChannels s.calls = some s.configuration.numChannels.toNat

/-- Initialised with the stored configuration, or due to be initialised again. -/
def Coherent (s : Sink P) : Prop :=
  s.mediaInitialized = true → s.configuration.reconfigure ≠ 0 ∨ Configured s

/-- A configuration that arrives while media processing is initialised asks for a reconfiguration. -/
def ReconfiguresWhileInitialized (s : Sink P) : SinkEvent → Prop
  | .a2dp (.mediaCodecSbcConfiguration e) => s.mediaInitialized = true → e.reconfigure ≠ 0
  | _ => True

theorem Configured.of_extends {s t : Sink P} {cs : List Call} (h : Configured s) (hlog : Extends s t cs)
    (hcs : ∀ c ∈ cs, c.SetsNothingUp) (hc : t.configuration = s.configuration) : Configured t := by
  unfold Extends at hlog
  refine ⟨fun ha => ?_, fun hw => ?_, ?_⟩
  · rw [hlog, latest_append_ignored _ _ _ fun c hc => (hcs c hc).1, hc]; exact h.audio ha
  · rw [hlog, latest_append_ignored _ _ _ fun c hc => (hcs c hc).2.1, hc]; exact h.wav hw
  · rw [hlog, latest_append_ignored _ _ _ fun c hc => (hcs c hc).2.2, hc]; exact h.resample

theorem Coherent.of_extends {s t : Sink P} {cs : List Call} (h : Coherent s) (hlog : Extends s t cs)
    (hcs : ∀ c ∈ cs, c.SetsNothingUp) (hm : t.mediaInitialized = s.mediaInitialized)
    (hc : t.configuration = s.configuration) : Coherent t := by
  intro hi
  rw [hm] at hi
  rcases h hi with hr | hconf
  · left; rw [hc]; exact hr
  · right; exact hconf.of_extends hlog hcs hc

theorem Call.IsData.setsNothingUp {c : Call} (h : c.IsData) : c.SetsNothingUp := by
  cases c <;> simp_all [Call.IsData, Call.IsPlayback, Call.IsPcm, Call.IsDrift, Call.SetsNothingUp, audioInitRate,
    wavOpenFormat, resampleInitChannels]

/-! ## `init`, `pause`, `close` -/

/-- An `init` that takes effect uses the stored configuration. -/
theorem mediaProcessingInit_configured {s : Sink P} (hm : s.mediaInitialized = false) :
    (mediaProcessingInit s.configuration s).mediaInitialized = true ∧
      Configured (mediaProcessingInit s.configuration s) := by
  simp only [mediaProcessingInit, hm, Bool.false_eq_true, if_false, true_and]
  refine ⟨fun ha => ?_, fun hw => ?_, ?_⟩
  · rw [latest_append]
    simp only [mediaProcessingInitCalls, wavCalls, audioCalls, ha, if_true]
    split <;> rfl
  · rw [latest_append]
    simp only [mediaProcessingInitCalls, wavCalls, audioCalls, hw, if_true]
    split <;> rfl
  · rw [latest_append]
    unfold mediaProcessingInitCalls wavCalls audioCalls
    split <;> split <;> rfl

theorem mediaProcessingPause_coherent {s : Sink P} (h : Coherent s) : Coherent (mediaProcessingPause s) := by
  by_cases hm : s.mediaInitialized
  · refine h.of_extends (mediaProcessingPause_extends hm) (fun c hc => ?_) ?_ ?_
    · rcases mem_mediaProcessingPauseCalls hc with rfl | rfl | rfl <;> exact ⟨rfl, rfl, rfl⟩
    · simp [mediaProcessingPause, hm]
    · rw [Sink.configuration, mediaProcessingPause_connection]
  · rw [mediaProcessingPause_of_closed (by simpa using hm)]; exact h

theorem mediaProcessingClose_closed (s : Sink P) : (mediaProcessingClose s).mediaInitialized = false := by
  by_cases hm : s.mediaInitialized
  · simp [mediaProcessingClose, hm]
  · rw [mediaProcessingClose_of_closed (by simpa using hm)]; simpa using hm

theorem coherent_of_closed {s : Sink P} (h : s.mediaInitialized = false) : Coherent s := by
  intro hi
  rw [h] at hi; cases hi

/-! ## Every step -/

/-- `STREAM_STARTED` establishes what the invariant only promises. -/
theorem streamStarted_configured {s : Sink P} (h : Coherent s) :
    (streamStarted s).mediaInitialized = true ∧ Configured (streamStarted s) := by
  unfold streamStarted
  simp only
  by_cases hr : s.configuration.reconfigure = 0
  · rw [if_neg (by simpa [Sink.setStreamState] using hr)]
    by_cases hm : (s.setStreamState .playing).mediaInitialized
    · have hconf := (h hm).resolve_left (not_not_intro hr)
      rw [mediaProcessingInit_of_initialized hm]
      exact ⟨hm, hconf.audio, hconf.wav, hconf.resample⟩
    · exact mediaProcessingInit_configured (by simpa using hm)
  · rw [if_pos (by simpa [Sink.setStreamState] using hr)]
    exact mediaProcessingInit_configured (mediaProcessingClose_closed _)

theorem a2dp_coherent {e : A2dpEvent} {s t : Sink P} (hok : ReconfiguresWhileInitialized s (.a2dp e))
    (hs : Coherent s) (h : a2dpSinkPacketHandler e s = .ok t) : Coherent t := by
  cases e with
  | mediaCodecOtherConfiguration => cases h; exact hs
  | mediaCodecSbcConfiguration e =>
    obtain ⟨mode, -, h⟩ := bind_returns.1 h
    cases h
    exact fun hm => Or.inl (hok hm)
  | streamEstablished status addr cid localSeid =>
    simp only [a2dpSinkPacketHandler] at h
    split at h
    · cases h; exact hs
    · cases h
      exact hs.of_extends (List.append_nil _).symm (by simp) rfl rfl
  | streamStarted =>
    cases h
    exact fun _ => Or.inr (streamStarted_configured hs).2
  | streamSuspended =>
    cases h
    exact mediaProcessingPause_coherent (hs.of_extends (List.append_nil _).symm (by simp) rfl rfl)
  | streamReleased => cases h; exact coherent_of_closed (mediaProcessingClose_closed _)
  | signalingConnectionReleased => cases h; exact coherent_of_closed (mediaProcessingClose_closed _)
  | ignored => cases h; exact hs

theorem data_coherent {e : SinkEvent} {s t : Sink P} (hs : Coherent s) (h : step s e = .ok t)
    (he : ∀ a, e ≠ .a2dp a) : Coherent t := by
  obtain ⟨hconnection, hinitialized, cs, hlog, hcs⟩ := step_data h he
  exact hs.of_extends hlog (fun c hc => (hcs c hc).setsNothingUp) hinitialized
    (congrArg A2dpConnection.sbcConfiguration hconnection)

theorem run_coherent {es : List SinkEvent} {s : Sink P} (h : RunsTo ReconfiguresWhileInitialized es s) :
    Coherent s := by
  refine Run.inv ?_ h (coherent_of_closed rfl)
  intro s e t hs hok he
  cases e with
  | a2dp e => exact a2dp_coherent hok hs he
  | media packet now => exact data_coherent hs he (by simp)
  | playback r => exact data_coherent hs he (by simp)

/-- **Configuration coherence**: right after every `STREAM_STARTED`, media processing is initialised and the most
recent setup of the audio sink, the WAV file and the resampler used the stored configuration. -/
theorem configuration_coherent {es : List SinkEvent} {s t : Sink P} (h : RunsTo ReconfiguresWhileInitialized es s)
    (ht : a2dpSinkPacketHandler .streamStarted s = .ok t) : t.mediaInitialized = true ∧ Configured t := by
  cases ht
  exact streamStarted_configured (run_coherent h)

/-- A stream is started, reconfigured to mono at 48 kHz and started again. -/
theorem configuration_coherent_reconfigured :
    ∃ s t : Sink (.reference true),
      RunsTo ReconfiguresWhileInitialized
        [.a2dp (.mediaCodecSbcConfiguration .stereo44100), .a2dp .streamStarted,
          .a2dp (.mediaCodecSbcConfiguration ⟨1, 1, 48000, 16, 8, 2, 53, 1, .mono⟩)] s ∧
      a2dpSinkPacketHandler .streamStarted s = .ok t ∧ t.configuration.samplingFrequency = 48000 ∧
      t.mediaInitialized = true ∧ Configured t := by
  obtain ⟨s, hs, t, ht, hrate⟩ : ∃ s : Sink (.reference true),
      RunsTo ReconfiguresWhileInitialized
        [.a2dp (.mediaCodecSbcConfiguration .stereo44100), .a2dp .streamStarted,
          .a2dp (.mediaCodecSbcConfiguration ⟨1, 1, 48000, 16, 8, 2, 53, 1, .mono⟩)] s ∧
      ∃ t, a2dpSinkPacketHandler .streamStarted s = .ok t ∧ t.configuration.samplingFrequency = 48000 :=
    ⟨_, .cons nofun rfl (.cons trivial rfl (.cons (fun _ => by decide) rfl (.nil _))), _, rfl, rfl⟩
  exact ⟨s, t, hs, ht, hrate, configuration_coherent hs ht⟩

end BtstackPort
