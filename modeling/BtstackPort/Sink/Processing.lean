import BtstackPort.Sink.State
/-!
# Media processing: init, start, pause, close (`a2dp_sink.c:432-527`)

Each of the four looks at `media_initialized` first: `init` does nothing when it is set, the others
nothing when it is clear.
-/

namespace BtstackPort

variable {P : Platform}

/-- Calls of the WAV build. -/
def wavCalls (P : Platform) (cs : List Call) : List Call := if P.storeToWavFile then cs else []

/-- Calls through the audio sink instance. -/
def audioCalls (P : Platform) (cs : List Call) : List Call := if P.audioSink then cs else []

/-- The external calls of a `media_processing_init` that takes effect. -/
def mediaProcessingInitCalls (P : Platform) (configuration : SbcConfiguration) : List Call :=
  wavCalls P [.wavOpen configuration.numChannels configuration.samplingFrequency] ++
    [.ringInit .sbcFrame, .ringInit .decodedAudio, .resampleInit configuration.numChannels.toNat] ++
    audioCalls P [.audioInit numChannels configuration.samplingFrequency]

def mediaProcessingInit (configuration : SbcConfiguration) (s : Sink P) : Sink P :=
  if s.mediaInitialized then s
  else
    { s with
      sbcDecoderInstance := true
      sbcDecoderContext := P.decoder.configure (P.decoder.initInstance s.sbcDecoderContext)
      sbcFrameRingBuffer := P.ring.init sbcFrameStorageSize
      decodedAudioRingBuffer := P.ring.init decodedAudioStorageSize
      resampleInstance := P.resampler.init s.resampleInstance configuration.numChannels.toNat
      audioStreamStarted := false
      mediaInitialized := true
      calls := s.calls ++ mediaProcessingInitCalls P configuration }

def mediaProcessingStart (now : Readings) (s : Sink P) : Sink P :=
  if !s.mediaInitialized then s
  else
    let (compensation, cs) :=
      if P.effectiveSamplerate then
        (P.compensation.reset s.sampleRateCompensation now.resetTimeMs, [Call.compensationReset])
      else (s.sampleRateCompensation, [])
    { s with
      sampleRateCompensation := compensation
      audioStreamStarted := true
      calls := s.calls ++ cs ++ audioCalls P [.audioStartStream] }

def mediaProcessingPause (s : Sink P) : Sink P :=
  if !s.mediaInitialized then s
  else
    { s with
      audioStreamStarted := false
      l2capStreamStarted := if P.effectiveSamplerate then false else s.l2capStreamStarted
      decodedAudioRingBuffer := P.ring.reset s.decodedAudioRingBuffer
      sbcFrameRingBuffer := P.ring.reset s.sbcFrameRingBuffer
      calls := s.calls ++ audioCalls P [.audioStopStream] ++ [.ringReset .decodedAudio, .ringReset .sbcFrame] }

def mediaProcessingClose (s : Sink P) : Sink P :=
  if !s.mediaInitialized then s
  else
    { s with
      mediaInitialized := false
      audioStreamStarted := false
      sbcFrameSize := 0
      l2capStreamStarted := if P.effectiveSamplerate then false else s.l2capStreamStarted
      calls := s.calls ++ wavCalls P [.wavClose, .wavReport s.audioFrameCount] ++ audioCalls P [.audioClose] }

/-! ## When they do nothing -/

theorem mediaProcessingInit_of_initialized {c : SbcConfiguration} {s : Sink P} (h : s.mediaInitialized = true) :
    mediaProcessingInit c s = s := by simp [mediaProcessingInit, h]

theorem mediaProcessingStart_of_closed {now : Readings} {s : Sink P} (h : s.mediaInitialized = false) :
    mediaProcessingStart now s = s := by simp [mediaProcessingStart, h]

theorem mediaProcessingPause_of_closed {s : Sink P} (h : s.mediaInitialized = false) :
    mediaProcessingPause s = s := by simp [mediaProcessingPause, h]

theorem mediaProcessingClose_of_closed {s : Sink P} (h : s.mediaInitialized = false) :
    mediaProcessingClose s = s := by simp [mediaProcessingClose, h]

/-! ## The calls of init, pause and close -/

/-- The external calls of a `media_processing_pause` that takes effect. -/
def mediaProcessingPauseCalls (P : Platform) : List Call :=
  audioCalls P [.audioStopStream] ++ [.ringReset .decodedAudio, .ringReset .sbcFrame]

/-- The external calls of a `media_processing_close` that takes effect. -/
def mediaProcessingCloseCalls (s : Sink P) : List Call :=
  wavCalls P [.wavClose, .wavReport s.audioFrameCount] ++ audioCalls P [.audioClose]

theorem mem_wavCalls {c : Call} {cs : List Call} : c ∈ wavCalls P cs ↔ P.storeToWavFile = true ∧ c ∈ cs := by
  unfold wavCalls
  split <;> simp_all

theorem mem_audioCalls {c : Call} {cs : List Call} : c ∈ audioCalls P cs ↔ P.audioSink = true ∧ c ∈ cs := by
  unfold audioCalls
  split <;> simp_all

/-- Calls of `init`, `pause` and `close`. -/
def Call.IsSession : Call → Prop
  | .audioInit .. | .audioStopStream | .audioClose | .wavOpen .. | .wavClose | .wavReport .. | .resampleInit ..
  | .ringInit .. | .ringReset .. => True
  | _ => False

theorem mem_mediaProcessingInitCalls {c : Call} {configuration : SbcConfiguration}
    (h : c ∈ mediaProcessingInitCalls P configuration) :
    c = .wavOpen configuration.numChannels configuration.samplingFrequency ∨ c = .ringInit .sbcFrame ∨
      c = .ringInit .decodedAudio ∨ c = .resampleInit configuration.numChannels.toNat ∨
      c = .audioInit numChannels configuration.samplingFrequency := by
  simp only [mediaProcessingInitCalls, List.mem_append, mem_wavCalls, mem_audioCalls, List.mem_cons, List.not_mem_nil,
    or_false] at h
  rcases h with (⟨-, rfl⟩ | rfl | rfl | rfl) | ⟨-, rfl⟩ <;> simp

theorem mem_mediaProcessingPauseCalls {c : Call} (h : c ∈ mediaProcessingPauseCalls P) :
    c = .audioStopStream ∨ c = .ringReset .decodedAudio ∨ c = .ringReset .sbcFrame := by
  simp only [mediaProcessingPauseCalls, List.mem_append, mem_audioCalls, List.mem_cons, List.not_mem_nil,
    or_false] at h
  rcases h with ⟨-, rfl⟩ | rfl | rfl <;> simp

theorem mem_mediaProcessingCloseCalls {c : Call} {s : Sink P} (h : c ∈ mediaProcessingCloseCalls s) :
    c = .wavClose ∨ c = .wavReport s.audioFrameCount ∨ c = .audioClose := by
  simp only [mediaProcessingCloseCalls, List.mem_append, mem_wavCalls, mem_audioCalls, List.mem_cons, List.not_mem_nil,
    or_false] at h
  rcases h with ⟨-, rfl | rfl⟩ | ⟨-, rfl⟩ <;> simp

theorem mediaProcessingInit_extends {c : SbcConfiguration} {s : Sink P} (h : s.mediaInitialized = false) :
    Extends s (mediaProcessingInit c s) (mediaProcessingInitCalls P c) := by
  simp [Extends, mediaProcessingInit, h]

theorem mediaProcessingPause_extends {s : Sink P} (h : s.mediaInitialized = true) :
    Extends s (mediaProcessingPause s) (mediaProcessingPauseCalls P) := by
  simp [Extends, mediaProcessingPause, h, mediaProcessingPauseCalls]

theorem mediaProcessingClose_extends {s : Sink P} (h : s.mediaInitialized = true) :
    Extends s (mediaProcessingClose s) (mediaProcessingCloseCalls s) := by
  simp [Extends, mediaProcessingClose, h, mediaProcessingCloseCalls]

@[simp] theorem mediaProcessingInit_connection (c : SbcConfiguration) (s : Sink P) :
    (mediaProcessingInit c s).a2dpConnection = s.a2dpConnection := by
  unfold mediaProcessingInit
  split <;> rfl

@[simp] theorem mediaProcessingPause_connection (s : Sink P) :
    (mediaProcessingPause s).a2dpConnection = s.a2dpConnection := by
  unfold mediaProcessingPause
  split <;> rfl

@[simp] theorem mediaProcessingClose_connection (s : Sink P) :
    (mediaProcessingClose s).a2dpConnection = s.a2dpConnection := by
  unfold mediaProcessingClose
  split <;> rfl

/-- Whatever state it finds, each of the three adds session calls only. -/
theorem mediaProcessingInit_session (c : SbcConfiguration) (s : Sink P) :
    ∃ cs, Extends s (mediaProcessingInit c s) cs ∧ ∀ c ∈ cs, c.IsSession := by
  by_cases hm : s.mediaInitialized
  · rw [mediaProcessingInit_of_initialized hm]
    exact ⟨[], by simp [Extends], by simp⟩
  · refine ⟨_, mediaProcessingInit_extends (by simpa using hm), fun c hc => ?_⟩
    rcases mem_mediaProcessingInitCalls hc with rfl | rfl | rfl | rfl | rfl <;> trivial

theorem mediaProcessingPause_session (s : Sink P) :
    ∃ cs, Extends s (mediaProcessingPause s) cs ∧ ∀ c ∈ cs, c.IsSession := by
  by_cases hm : s.mediaInitialized
  · refine ⟨_, mediaProcessingPause_extends hm, fun c hc => ?_⟩
    rcases mem_mediaProcessingPauseCalls hc with rfl | rfl | rfl <;> trivial
  · rw [mediaProcessingPause_of_closed (by simpa using hm)]
    exact ⟨[], by simp [Extends], by simp⟩

theorem mediaProcessingClose_session (s : Sink P) :
    ∃ cs, Extends s (mediaProcessingClose s) cs ∧ ∀ c ∈ cs, c.IsSession := by
  by_cases hm : s.mediaInitialized
  · refine ⟨_, mediaProcessingClose_extends hm, fun c hc => ?_⟩
    rcases mem_mediaProcessingCloseCalls hc with rfl | rfl | rfl <;> trivial
  · rw [mediaProcessingClose_of_closed (by simpa using hm)]
    exact ⟨[], by simp [Extends], by simp⟩

/-! ## Start -/

/-- The external calls of a `media_processing_start` that takes effect. -/
def mediaProcessingStartCalls (P : Platform) : List Call :=
  (if P.effectiveSamplerate then [.compensationReset] else []) ++ audioCalls P [.audioStartStream]

theorem mem_mediaProcessingStartCalls {c : Call} (h : c ∈ mediaProcessingStartCalls P) :
    c = .compensationReset ∨ c = .audioStartStream := by
  unfold mediaProcessingStartCalls audioCalls at h
  rcases List.mem_append.1 h with h | h
  · split at h
    · exact Or.inl (List.mem_singleton.1 h)
    · cases h
  · split at h
    · exact Or.inr (List.mem_singleton.1 h)
    · cases h

/-- `media_processing_start` touches no buffer and no size. -/
theorem mediaProcessingStart_sameBuffers (now : Readings) (s : Sink P) :
    SameBuffers s (mediaProcessingStart now s) := by
  unfold mediaProcessingStart
  split
  · exact .refl s
  · exact ⟨rfl, rfl, rfl, rfl, rfl, rfl, rfl⟩

theorem mediaProcessingStart_of_initialized {now : Readings} {s : Sink P} (h : s.mediaInitialized = true) :
    (mediaProcessingStart now s).audioStreamStarted = true ∧
      Extends s (mediaProcessingStart now s) (mediaProcessingStartCalls P) := by
  simp only [mediaProcessingStart, h, Bool.not_true, Bool.false_eq_true, if_false, Extends,
    mediaProcessingStartCalls, true_and]
  split <;> simp

end BtstackPort
