import BtstackPort.Sink.Header
import BtstackPort.Sink.Playback
import BtstackPort.Sink.Processing
/-!
# `handle_l2cap_media_data_packet` (`a2dp_sink.c:269-342`)

Both headers are read, then the payload is queued (or, without an audio sink, decoded right away), the
resampling factor is adjusted and the stream started once enough frames are queued.
-/

namespace BtstackPort

open FaultMachine

variable {P : Platform}

/-- The `HAVE_BTSTACK_AUDIO_EFFECTIVE_SAMPLERATE` part (`a2dp_sink.c:305-320`). -/
def updateSampleRateCompensation (numFrames : Nat) (now : Readings) (s : Sink P) : Sink P :=
  let s :=
    if !s.l2capStreamStarted && s.audioStreamStarted then
      let samplingFrequency := s.a2dpConnection.sbcConfiguration.samplingFrequency
      { s with
        l2capStreamStarted := true
        sampleRateCompensation := P.compensation.init s.sampleRateCompensation now.initTimeMs samplingFrequency
        calls := s.calls ++ [.compensationInit samplingFrequency] }
    else s
  if s.audioStreamStarted then
    let (compensation, resamplingFactor) :=
      P.compensation.update s.sampleRateCompensation now.updateTimeMs (numFrames * 128) now.samplerate
    { s with
      sampleRateCompensation := compensation
      resampleInstance := P.resampler.setFactor s.resampleInstance resamplingFactor
      calls := s.calls ++ [.compensationUpdate (numFrames * 128), .resampleSetFactor resamplingFactor] }
  else s

/-- The resampling factor by queue level (`a2dp_sink.c:322-334`). -/
def resamplingFactor (sbcFramesInBuffer : Nat) : Nat :=
  let nominalFactor := 0x10000
  let compensation := 0x00100
  if sbcFramesInBuffer < optimalFramesMin then nominalFactor - compensation
  else if sbcFramesInBuffer ≤ optimalFramesMax then nominalFactor
  else nominalFactor + compensation

def setResamplingFactor (sbcFramesInBuffer : Nat) (s : Sink P) : Sink P :=
  { s with
    resampleInstance := P.resampler.setFactor s.resampleInstance (resamplingFactor sbcFramesInBuffer)
    calls := s.calls ++ [.resampleSetFactor (resamplingFactor sbcFramesInBuffer)] }

/-- Drift control, in one of its two builds. -/
def adjustDrift (numFrames sbcFramesInBuffer : Nat) (now : Readings) (s : Sink P) : Sink P :=
  if P.effectiveSamplerate then updateSampleRateCompensation numFrames now s
  else setResamplingFactor sbcFramesInBuffer s

/-- The frame size is set and the payload written to the SBC ring, whether or not it fits. -/
def writePayload (frameSize : Nat) (payload : List UInt8) (s : Sink P) : Sink P :=
  let (status, ring) := P.ring.write s.sbcFrameRingBuffer payload
  { s with
    sbcFrameSize := frameSize
    sbcFrameRingBuffer := ring
    calls := s.calls ++ [.ringWrite .sbcFrame payload status] }

/-- "start stream if enough frames buffered" (`a2dp_sink.c:339`). -/
def startIfBuffered (sbcFramesInBuffer : Nat) (now : Readings) (s : Sink P) : Sink P :=
  if !s.audioStreamStarted && optimalFramesMin ≤ sbcFramesInBuffer then mediaProcessingStart now s else s

/-- Whole frames of the current size in the SBC ring (`a2dp_sink.c:301`). -/
def Sink.sbcFramesInBuffer (s : Sink P) : Nat := P.ring.available s.sbcFrameRingBuffer / s.sbcFrameSize

/-- The path with an audio sink (`a2dp_sink.c:293-341`). -/
def queuePayload (sbcHeader : AvdtpSbcCodecHeader) (payload : List UInt8) (now : Readings) (s : Sink P) :
    Except Fault (Sink P) :=
  if sbcHeader.numFrames = 0 then .error .divideByNumFrames
  else
    let s := writePayload (payload.length / sbcHeader.numFrames) payload s
    if s.sbcFrameSize = 0 then .error .divideByFrameSize
    else .ok (startIfBuffered s.sbcFramesInBuffer now (adjustDrift sbcHeader.numFrames s.sbcFramesInBuffer now s))

def handleL2capMediaDataPacket (packet : List UInt8) (now : Readings) (s : Sink P) : Except Fault (Sink P) :=
  match mediaPayload P packet with
  | none => .ok s
  | some (sbcHeader, payload) =>
    if !P.audioSink then decodeSigned16 payload s
    else queuePayload sbcHeader payload now s

/-! ## The path with an audio sink -/

theorem adjustDrift_spec (numFrames sbcFramesInBuffer : Nat) (now : Readings) (s : Sink P) :
    SameBuffers s (adjustDrift numFrames sbcFramesInBuffer now s) ∧
      (adjustDrift numFrames sbcFramesInBuffer now s).audioStreamStarted = s.audioStreamStarted ∧
      ∃ ds, Extends s (adjustDrift numFrames sbcFramesInBuffer now s) ds ∧ ∀ c ∈ ds, c.IsDrift := by
  unfold adjustDrift
  split
  · unfold updateSampleRateCompensation
    by_cases hs : s.audioStreamStarted
    · by_cases hl : s.l2capStreamStarted
      · simp only [hs, hl, Bool.not_true, Bool.false_and, Bool.false_eq_true, if_false, if_true]
        exact ⟨⟨rfl, rfl, rfl, rfl, rfl, rfl, by simp⟩, trivial, _, rfl, by simp [Call.IsDrift]⟩
      · simp only [hs, hl, Bool.not_false, Bool.true_and, if_true]
        exact ⟨⟨rfl, rfl, rfl, rfl, rfl, rfl, by simp⟩, trivial, _, List.append_assoc _ _ _,
          by simp [Call.IsDrift]⟩
    · simp only [hs, Bool.and_false, Bool.false_eq_true, if_false]
      exact ⟨.refl s, by simp, [], by simp [Extends], by simp⟩
  · refine ⟨⟨rfl, rfl, rfl, rfl, rfl, rfl, ?_⟩, rfl, _, rfl, by simp [Call.IsDrift]⟩
    simp [setResamplingFactor]

/-- The path returns when neither divisor is zero; then it consists of its three parts. -/
theorem queuePayload_eq_ok {sbcHeader : AvdtpSbcCodecHeader} {payload : List UInt8} {now : Readings} {s t : Sink P} :
    queuePayload sbcHeader payload now s = .ok t ↔
      sbcHeader.numFrames ≠ 0 ∧ payload.length / sbcHeader.numFrames ≠ 0 ∧
        ∃ w, w = writePayload (payload.length / sbcHeader.numFrames) payload s ∧
          t = startIfBuffered w.sbcFramesInBuffer now
            (adjustDrift sbcHeader.numFrames w.sbcFramesInBuffer now w) := by
  unfold queuePayload
  constructor
  · intro h
    split at h
    · cases h
    · rename_i hn
      simp only at h
      split at h
      · cases h
      · rename_i hq
        cases h
        exact ⟨hn, hq, _, rfl, rfl⟩
  · rintro ⟨hn, hq, w, rfl, rfl⟩
    rw [if_neg hn]
    exact if_neg hq

theorem startIfBuffered_cases (sbcFramesInBuffer : Nat) (now : Readings) (s : Sink P) :
    ((s.mediaInitialized = true ∧ s.audioStreamStarted = false ∧ optimalFramesMin ≤ sbcFramesInBuffer) ∧
      startIfBuffered sbcFramesInBuffer now s = mediaProcessingStart now s) ∨
    (¬ (s.mediaInitialized = true ∧ s.audioStreamStarted = false ∧ optimalFramesMin ≤ sbcFramesInBuffer) ∧
      startIfBuffered sbcFramesInBuffer now s = s) := by
  unfold startIfBuffered
  split
  · rename_i hc
    simp only [Bool.and_eq_true, Bool.not_eq_true', decide_eq_true_eq] at hc
    by_cases hm : s.mediaInitialized
    · exact Or.inl ⟨⟨hm, hc⟩, rfl⟩
    · exact Or.inr ⟨fun hall => hm hall.1, mediaProcessingStart_of_closed (by simpa using hm)⟩
  · rename_i hc
    refine Or.inr ⟨fun hall => hc ?_, rfl⟩
    simpa using hall.2

/-- The stream starts on this packet: it has not started yet and enough frames are queued. -/
def Starts (s t : Sink P) : Prop :=
  s.mediaInitialized = true ∧ s.audioStreamStarted = false ∧ optimalFramesMin ≤ t.sbcFramesInBuffer

/-- **The path with an audio sink**: neither divisor is zero; the frame size is the quotient, the payload has
been offered to the SBC ring, and the stream starts when enough frames are queued. -/
theorem queuePayload_spec {sbcHeader : AvdtpSbcCodecHeader} {payload : List UInt8} {now : Readings} {s t : Sink P}
    (h : queuePayload sbcHeader payload now s = .ok t) :
    sbcHeader.numFrames ≠ 0 ∧ payload.length / sbcHeader.numFrames ≠ 0 ∧
      SameBuffers (writePayload (payload.length / sbcHeader.numFrames) payload s) t ∧
      ∃ ds cs, (∀ c ∈ ds, c.IsDrift) ∧
        Extends s t (.ringWrite .sbcFrame payload (P.ring.write s.sbcFrameRingBuffer payload).1 :: ds ++ cs) ∧
        ((Starts s t ∧ t.audioStreamStarted = true ∧ cs = mediaProcessingStartCalls P) ∨
          (¬ Starts s t ∧ t.audioStreamStarted = s.audioStreamStarted ∧ cs = [])) := by
  obtain ⟨hn, hq, w, hw, rfl⟩ := queuePayload_eq_ok.1 h
  refine ⟨hn, hq, ?_⟩
  rw [← hw]
  have hwlog : Extends s w [.ringWrite .sbcFrame payload (P.ring.write s.sbcFrameRingBuffer payload).1] := by
    rw [hw]; rfl
  have hwm : w.mediaInitialized = s.mediaInitialized := by rw [hw]; rfl
  have hws : w.audioStreamStarted = s.audioStreamStarted := by rw [hw]; rfl
  obtain ⟨hd, hds, ds, hdlog, hdrift⟩ := adjustDrift_spec sbcHeader.numFrames w.sbcFramesInBuffer now w
  generalize adjustDrift sbcHeader.numFrames w.sbcFramesInBuffer now w = v at hd hds hdlog ⊢
  have hlog := hwlog.trans hdlog
  rcases startIfBuffered_cases w.sbcFramesInBuffer now v with ⟨⟨hm, hstopped, hmin⟩, hstart⟩ | ⟨hnot, hstart⟩
  · rw [hstart]
    obtain ⟨hst, hslog⟩ := mediaProcessingStart_of_initialized hm
    have hb := hd.trans (mediaProcessingStart_sameBuffers now v)
    refine ⟨hb, ds, _, hdrift, by simpa using hlog.trans hslog, Or.inl ⟨⟨?_, ?_, ?_⟩, hst, rfl⟩⟩
    · rw [← hwm, ← hd.mediaInitialized]; exact hm
    · rw [← hws, ← hds]; exact hstopped
    · rw [Sink.sbcFramesInBuffer, hb.sbcFrameRingBuffer, hb.sbcFrameSize]; exact hmin
  · rw [hstart]
    refine ⟨hd, ds, [], hdrift, by simpa using hlog, Or.inr ⟨fun hS => hnot ?_, by rw [hds, hws], rfl⟩⟩
    obtain ⟨hm, hstopped, hmin⟩ := hS
    rw [Sink.sbcFramesInBuffer, hd.sbcFrameRingBuffer, hd.sbcFrameSize] at hmin
    exact ⟨by rw [hd.mediaInitialized, hwm]; exact hm, by rw [hds, hws]; exact hstopped, hmin⟩

/-- **Path rule**: the path with an audio sink writes the payload, controls the drift and may start the stream;
what these keep, it keeps. -/
theorem queuePayload_rule {I : Sink P → Prop} {sbcHeader : AvdtpSbcCodecHeader} {payload : List UInt8}
    {now : Readings} {s t : Sink P} (h : queuePayload sbcHeader payload now s = .ok t)
    (hwrite : ∀ u frameSize, I u → I (writePayload frameSize payload u))
    (hdrift : ∀ u numFrames sbcFramesInBuffer, I u → I (adjustDrift numFrames sbcFramesInBuffer now u))
    (hstart : ∀ u, u.audioStreamStarted = false → I u → I (mediaProcessingStart now u)) (hs : I s) : I t := by
  obtain ⟨-, -, w, rfl, rfl⟩ := queuePayload_eq_ok.1 h
  have hw := hwrite s (payload.length / sbcHeader.numFrames) hs
  generalize writePayload (payload.length / sbcHeader.numFrames) payload s = w at hw ⊢
  have hd := hdrift w sbcHeader.numFrames w.sbcFramesInBuffer hw
  rcases startIfBuffered_cases w.sbcFramesInBuffer now (adjustDrift sbcHeader.numFrames w.sbcFramesInBuffer now w) with
    ⟨⟨-, hstopped, -⟩, heq⟩ | ⟨-, heq⟩
  · rw [heq]
    exact hstart _ hstopped hd
  · rw [heq]
    exact hd

/-- The SBC ring has room for the payload. -/
def Sink.HasRoom (payload : List UInt8) (s : Sink P) : Prop :=
  s.sbcBytes.length + payload.length ≤ P.ring.capacity s.sbcFrameRingBuffer

instance (payload : List UInt8) (s : Sink P) : Decidable (s.HasRoom payload) := by
  unfold Sink.HasRoom; infer_instance

/-- The payload is queued as a whole or not at all. -/
theorem queuePayload_bytes {sbcHeader : AvdtpSbcCodecHeader} {payload : List UInt8} {now : Readings} {s t : Sink P}
    (h : queuePayload sbcHeader payload now s = .ok t) :
    t.sbcBytes = if s.HasRoom payload then s.sbcBytes ++ payload else s.sbcBytes := by
  obtain ⟨-, -, hsame, -⟩ := queuePayload_spec h
  rw [Sink.sbcBytes, hsame.sbcFrameRingBuffer]
  show P.ring.contents (P.ring.write s.sbcFrameRingBuffer payload).2 = _
  rw [P.ring.contents_write]
  exact if_congr (P.ring.write_status _ _) rfl rfl

/-- The path with an audio sink returns exactly when neither divisor is zero. -/
theorem queuePayload_returns {sbcHeader : AvdtpSbcCodecHeader} {payload : List UInt8} {now : Readings} {s : Sink P} :
    (∃ t, queuePayload sbcHeader payload now s = .ok t) ↔
      sbcHeader.numFrames ≠ 0 ∧ sbcHeader.numFrames ≤ payload.length := by
  constructor
  · rintro ⟨t, h⟩
    obtain ⟨hn, hq, -⟩ := queuePayload_eq_ok.1 h
    exact ⟨hn, Nat.le_of_not_lt fun hlt => hq (Nat.div_eq_of_lt hlt)⟩
  · rintro ⟨hn, hle⟩
    have hq := Nat.div_pos hle (Nat.pos_of_ne_zero hn)
    exact ⟨_, queuePayload_eq_ok.2 ⟨hn, Nat.ne_of_gt hq, _, rfl, rfl⟩⟩

/-- Otherwise it is one of the two divisions. -/
theorem queuePayload_faults {sbcHeader : AvdtpSbcCodecHeader} {payload : List UInt8} {now : Readings} {s : Sink P}
    {f : Fault} (h : queuePayload sbcHeader payload now s = .error f) :
    f = .divideByNumFrames ∨ f = .divideByFrameSize := by
  unfold queuePayload at h
  split at h
  · cases h; exact Or.inl rfl
  · simp only at h
    split at h
    · cases h; exact Or.inr rfl
    · cases h

/-- What a media packet can do. -/
theorem handleL2capMediaDataPacket_cases {packet : List UInt8} {now : Readings} {s t : Sink P}
    (h : handleL2capMediaDataPacket packet now s = .ok t) :
    (mediaPayload P packet = none ∧ t = s) ∨
      ∃ sbcHeader payload, mediaPayload P packet = some (sbcHeader, payload) ∧
        ((P.audioSink = false ∧ decodeSigned16 payload s = .ok t) ∨
          (P.audioSink = true ∧ queuePayload sbcHeader payload now s = .ok t)) := by
  unfold handleL2capMediaDataPacket at h
  split at h
  · rename_i hp
    cases h
    exact Or.inl ⟨hp, rfl⟩
  · rename_i sbcHeader payload hp
    refine Or.inr ⟨sbcHeader, payload, hp, ?_⟩
    split at h
    · rename_i ha; exact Or.inl ⟨by simpa using ha, h⟩
    · rename_i ha; exact Or.inr ⟨by simpa using ha, h⟩

end BtstackPort
