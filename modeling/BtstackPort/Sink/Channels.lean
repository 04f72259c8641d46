import BtstackPort.Sink.PcmConservation
import BtstackPort.Sink.Session
/-!
# Channel counts in the PCM callback (`a2dp_sink.c:382-430`)

The resampler is initialised with the negotiated number of channels, and so is the WAV file; `handle_pcm_data` counts
with `NUM_CHANNELS` throughout ("must be stereo == 2"). The endpoint advertises mono as well. A mono block of `r` frames
fills `r` samples of `output_buffer`, of which the callback takes `2 * r`; and without an audio sink twice as many
samples go to the WAV file as were decoded. `channels_agree_iff` says exactly when the callback is right.
-/

namespace BtstackPort

open FaultMachine

variable {P : Platform}

/-- Frames of `channels` samples as frames of `NUM_CHANNELS` samples: a mono sample goes to both. -/
def stereoSamples (channels : Nat) (samples : List Int16) : List Int16 :=
  if channels = 1 then samples.flatMap fun x => [x, x] else samples

/-- The resampled frames of `b`. -/
abbrev resampledFrames (b : PcmBlock) (s : Sink P) : Nat := (resampleBlock b s).2.2

/-- What the resampler wrote to `output_buffer`, as bytes. -/
abbrev resampledBytes (b : PcmBlock) (s : Sink P) : List UInt8 := int16Bytes (resampleBlock b s).2.1

/-- The callback takes from `output_buffer` only what the resampler wrote, and its frames go, in stereo, to the request
first and then to the PCM ring. -/
structure DeliversBlock (b : PcmBlock) (s t : Sink P) : Prop where
  copied : Memory.Written (resampledBytes b s) 0 (framesToCopy b s * bytesPerFrame)
  stored : Memory.Written (resampledBytes b s) (framesToCopy b s * bytesPerFrame)
    ((resampledFrames b s - framesToCopy b s) * bytesPerFrame)
  delivered : ∃ request surplus, Memory.store s.requestMem s.requestBuffer request = some t.requestMem ∧
    t.pcmBytes = s.pcmBytes ++ surplus ∧
    request ++ surplus = int16Bytes (stereoSamples (P.resampler.channels s.resampleInstance) (resampleBlock b s).2.1)

/-- The PCM ring has room for the frames that the request does not take. -/
def SurplusFits (b : PcmBlock) (s : Sink P) : Prop :=
  s.pcmBytes.length + (resampledFrames b s - s.requestFrames.toNat) * bytesPerFrame ≤
    P.ring.capacity s.decodedAudioRingBuffer

instance (b : PcmBlock) (s : Sink P) : Decidable (SurplusFits b s) := by
  unfold SurplusFits; infer_instance

theorem length_resampledBytes (b : PcmBlock) (s : Sink P) :
    (resampledBytes b s).length = 2 * (resampledFrames b s * P.resampler.channels s.resampleInstance) := by
  rw [resampledBytes, length_int16Bytes, resampleBlock, P.resampler.length_block]
  rfl

/-- What is stored is the ring's gain, if it fits. -/
theorem storeSurplus_pcmBytes {n : Nat} {surplus : List UInt8} {s : Sink P}
    (hlen : surplus.length = n * bytesPerFrame) :
    (storeSurplus n surplus s).pcmBytes =
      if s.pcmBytes.length + surplus.length ≤ P.ring.capacity s.decodedAudioRingBuffer then s.pcmBytes ++ surplus
      else s.pcmBytes := by
  unfold storeSurplus
  by_cases hn : n = 0
  · have hnil : surplus = [] := List.eq_nil_of_length_eq_zero (by rw [hlen, hn, Nat.zero_mul])
    rw [if_pos hn, hnil, List.append_nil]
    split <;> rfl
  · rw [if_neg hn]
    show P.ring.contents (P.ring.write s.decodedAudioRingBuffer surplus).2 = _
    rw [P.ring.contents_write]
    exact if_congr (P.ring.write_status _ _) rfl rfl

/-! ## With an audio sink -/

section AudioSink

variable {b : PcmBlock} {s t : Sink P}

/-- A callback that returns fits `output_buffer`, and is the one `handlePcmData_sink` describes. -/
theorem handlePcmData_state (hsink : P.audioSink = true) (hreq : RequestInv s) (h : handlePcmData b s = .ok t) :
    FitsOutput b s ∧
      Memory.store s.requestMem s.requestBuffer (copiedBytes b s) = some t.requestMem ∧
      t.pcmBytes = if SurplusFits b s then s.pcmBytes ++ surplusBytes b s else s.pcmBytes := by
  have hfit := handlePcmData_fits hsink h
  obtain ⟨mem, hmem, hok, -⟩ := handlePcmData_sink hsink hreq hfit
  rw [h] at hok
  obtain rfl := Except.ok.inj hok
  have hcopy : framesToCopy b s = min (resampledFrames b s) s.requestFrames.toNat := hreq.framesToCopy_eq b
  have hrest : surplusFrames b s = resampledFrames b s - s.requestFrames.toNat := by
    change resampledFrames b s - framesToCopy b s = _
    rw [hcopy]
    omega
  refine ⟨hfit, ?_, ?_⟩
  · rw [(storeSurplus_request _ _ _).2.2]
    exact hmem
  · rw [storeSurplus_pcmBytes (length_surplusBytes b s)]
    refine if_congr ?_ rfl rfl
    rw [SurplusFits, ← hrest, length_surplusBytes]
    exact Iff.rfl

/-- More than no frames can only be taken from two samples each. -/
theorem stereo_of_written (h1 : Memory.Written (resampledBytes b s) 0 (framesToCopy b s * bytesPerFrame))
    (h2 : Memory.Written (resampledBytes b s) (framesToCopy b s * bytesPerFrame)
      ((resampledFrames b s - framesToCopy b s) * bytesPerFrame)) :
    resampledFrames b s * 2 ≤ resampledFrames b s * P.resampler.channels s.resampleInstance := by
  have hlen := length_resampledBytes b s
  have hle : framesToCopy b s ≤ resampledFrames b s := Nat.min_le_left _ _
  simp only [Memory.written_iff, bytesPerFrame, numChannels] at h1 h2
  omega

/-- A block that is delivered, if it has frames, is stereo and fits. -/
theorem DeliversBlock.fits (hsink : P.audioSink = true) (hreq : RequestInv s)
    (hch : P.resampler.channels s.resampleInstance = 1 ∨ P.resampler.channels s.resampleInstance = 2)
    (ht : handlePcmData b s = .ok t) (h : DeliversBlock b s t) (h0 : resampledFrames b s ≠ 0) :
    P.resampler.channels s.resampleInstance = 2 ∧ resampledFrames b s ≤ 128 + 16 ∧ SurplusFits b s := by
  obtain ⟨hcopied, hstored, request, surplus, hrequest, hsurplus, hall⟩ := h
  have hlen := length_resampledBytes b s
  have hstereo := stereo_of_written hcopied hstored
  have htwo : P.resampler.channels s.resampleInstance = 2 := by
    have := Nat.le_of_mul_le_mul_left hstereo (Nat.pos_of_ne_zero h0)
    omega
  obtain ⟨hfit, -, hring⟩ := handlePcmData_state hsink hreq ht
  have hsize : (resampledBytes b s).length ≤ outputBufferSize := hfit
  rw [htwo] at hlen
  refine ⟨htwo, by simp only [outputBufferSize, numChannels] at hsize; omega, ?_⟩
  by_contra hfull
  -- the ring gained nothing, so the whole block would have to be in the request, which ends too early
  rw [if_neg hfull] at hring
  have hnone : surplus.length = 0 := by
    have heq := congrArg List.length (hring.symm.trans hsurplus)
    rw [List.length_append] at heq
    omega
  have hbound := Memory.store_bound hrequest
  have hfront := hreq.frontier
  have htotal : request.length + surplus.length = (resampledBytes b s).length := by
    rw [← List.length_append, hall, htwo]
    rfl
  have hle : resampledFrames b s ≤ s.requestFrames.toNat := by
    simp only [bytesPerFrame, numChannels] at *
    omega
  apply hfull
  unfold SurplusFits
  rw [Nat.sub_eq_zero_of_le hle, Nat.zero_mul]
  exact P.ring.contents_le _

theorem deliversBlock_of_empty (hsink : P.audioSink = true) (hreq : RequestInv s) (ht : handlePcmData b s = .ok t)
    (h0 : resampledFrames b s = 0) : DeliversBlock b s t := by
  have hlen := length_resampledBytes b s
  have hcopy : framesToCopy b s = min (resampledFrames b s) s.requestFrames.toNat := hreq.framesToCopy_eq b
  obtain ⟨-, hmem, hring⟩ := handlePcmData_state hsink hreq ht
  have hcopy0 : framesToCopy b s = 0 := by rw [hcopy]; omega
  have hnil : (resampleBlock b s).2.1 = [] := by
    refine List.eq_nil_of_length_eq_zero ?_
    rw [h0, resampledBytes, length_int16Bytes] at hlen
    omega
  simp only [copiedBytes, surplusBytes, surplusFrames, hcopy0, h0, Nat.zero_mul] at hmem hring
  refine ⟨by simp [Memory.written_iff, hcopy0], by simp [Memory.written_iff, h0], [], [], hmem, ?_, ?_⟩
  · rw [hring]
    split
    · rfl
    · rw [List.append_nil]
  · rw [hnil]
    unfold stereoSamples
    split <;> rfl

theorem deliversBlock_of_stereo (hsink : P.audioSink = true) (hreq : RequestInv s) (ht : handlePcmData b s = .ok t)
    (htwo : P.resampler.channels s.resampleInstance = 2) (hroom : SurplusFits b s) : DeliversBlock b s t := by
  have hlen := length_resampledBytes b s
  have hcopy : framesToCopy b s = min (resampledFrames b s) s.requestFrames.toNat := hreq.framesToCopy_eq b
  obtain ⟨-, hmem, hring⟩ := handlePcmData_state hsink hreq ht
  rw [htwo] at hlen
  rw [if_pos hroom] at hring
  refine ⟨?_, ?_, _, _, hmem, hring, ?_⟩
  · rw [Memory.written_iff]
    simp only [bytesPerFrame, numChannels] at *
    omega
  · rw [Memory.written_iff]
    simp only [bytesPerFrame, numChannels] at *
    omega
  · rw [copied_append_surplus htwo, htwo]
    rfl

/-- **With an audio sink** a block is delivered exactly when it is empty, or stereo and at most 144 frames long with
room in the PCM ring for what the request does not take. -/
theorem handlePcmData_delivers_iff (hsink : P.audioSink = true) (hreq : RequestInv s)
    (hch : P.resampler.channels s.resampleInstance = 1 ∨ P.resampler.channels s.resampleInstance = 2) :
    (∃ t, handlePcmData b s = .ok t ∧ DeliversBlock b s t) ↔
      resampledFrames b s = 0 ∨
        (P.resampler.channels s.resampleInstance = 2 ∧ resampledFrames b s ≤ 128 + 16 ∧ SurplusFits b s) := by
  constructor
  · rintro ⟨t, ht, h⟩
    by_cases h0 : resampledFrames b s = 0
    · exact Or.inl h0
    · exact Or.inr (h.fits hsink hreq hch ht h0)
  · intro h
    have hlen := length_resampledBytes b s
    have hfit : FitsOutput b s := by
      show (resampledBytes b s).length ≤ outputBufferSize
      simp only [outputBufferSize, numChannels]
      rcases h with h0 | ⟨htwo, h144, -⟩
      · rw [hlen, h0]; omega
      · rw [hlen, htwo]; omega
    obtain ⟨mem, -, ht, -⟩ := handlePcmData_sink hsink hreq hfit
    rcases h with h0 | ⟨htwo, -, hroom⟩
    · exact ⟨_, ht, deliversBlock_of_empty hsink hreq ht h0⟩
    · exact ⟨_, ht, deliversBlock_of_stereo hsink hreq ht htwo hroom⟩

end AudioSink

/-! ## Without an audio sink -/

/-- All samples of a block go to the WAV file exactly when the block is empty or stereo. -/
theorem handlePcmData_wav_iff (hsink : P.audioSink = false) (hwav : P.storeToWavFile = true) {b : PcmBlock}
    {channels : Nat} (hdata : b.data.length = b.numAudioFrames * channels) (s : Sink P) :
    (∃ t, handlePcmData b s = .ok t ∧ Extends s t [.wavWrite b.data.length (int16Bytes b.data)]) ↔
      b.numAudioFrames = 0 ∨ channels = 2 := by
  have hok : ∃ t, handlePcmData b s = .ok t ∧
      Extends s t [.wavWrite (b.numAudioFrames * numChannels) (int16Bytes b.data)] := by
    simp only [handlePcmData, hsink, hwav, Bool.not_false, if_true]
    exact ⟨_, rfl, rfl⟩
  obtain ⟨t, ht, hlog⟩ := hok
  have hiff : b.data.length = b.numAudioFrames * numChannels ↔ b.numAudioFrames = 0 ∨ channels = 2 := by
    rw [hdata, numChannels]
    constructor
    · intro heq
      by_cases h0 : b.numAudioFrames = 0
      · exact Or.inl h0
      · exact Or.inr (Nat.eq_of_mul_eq_mul_left (Nat.pos_of_ne_zero h0) heq)
    · rintro (h0 | h2)
      · rw [h0, Nat.zero_mul, Nat.zero_mul]
      · rw [h2]
  rw [← hiff]
  constructor
  · rintro ⟨t', ht', hlog'⟩
    obtain rfl := Except.ok.inj (ht.symm.trans ht')
    have heq := hlog'.unique hlog
    simp only [List.cons.injEq, Call.wavWrite.injEq, and_true] at heq
    exact heq
  · intro heq
    exact ⟨t, ht, by rw [heq]; exact hlog⟩

/-- **Channel counts**: for a block of `channels` = 1 or 2 channels, the resampler being initialised with as many, the
callback reads only what the resampler wrote and delivers all its frames, and without an audio sink writes exactly the
decoded samples to the WAV file, if and only if the block comes out empty or is stereo (and, with a sink, fits). -/
theorem channels_agree_iff {b : PcmBlock} {s : Sink P} (hreq : RequestInv s) {channels : Nat}
    (h12 : channels = 1 ∨ channels = 2) (hch : P.resampler.channels s.resampleInstance = channels)
    (hdata : b.data.length = b.numAudioFrames * channels) :
    (P.audioSink = true →
      ((∃ t, handlePcmData b s = .ok t ∧ DeliversBlock b s t) ↔
        resampledFrames b s = 0 ∨ (channels = 2 ∧ resampledFrames b s ≤ 128 + 16 ∧ SurplusFits b s))) ∧
      (P.audioSink = false → P.storeToWavFile = true →
        ((∃ t, handlePcmData b s = .ok t ∧ Extends s t [.wavWrite b.data.length (int16Bytes b.data)]) ↔
          b.numAudioFrames = 0 ∨ channels = 2)) := by
  constructor
  · intro hsink
    rw [← hch]
    exact handlePcmData_delivers_iff hsink hreq (by rw [hch]; exact h12)
  · intro hsink hwav
    exact handlePcmData_wav_iff hsink hwav hdata s

/-- A stereo block of one frame, in a request for one. -/
theorem channels_agree_iff_stereo :
    ∃ s t : Sink (.reference true),
      RunsTo (fun _ _ => True) [.a2dp (.mediaCodecSbcConfiguration .stereo44100), .a2dp .streamStarted] s ∧
      fillFromPcmRing (.blank 1) s = .ok t ∧
      ((Platform.reference true).audioSink = true →
        ((∃ u, handlePcmData ⟨[1, 2], 1, 2, 44100⟩ t = .ok u ∧ DeliversBlock ⟨[1, 2], 1, 2, 44100⟩ t u) ↔
          resampledFrames ⟨[1, 2], 1, 2, 44100⟩ t = 0 ∨
            (2 = 2 ∧ resampledFrames ⟨[1, 2], 1, 2, 44100⟩ t ≤ 128 + 16 ∧
              SurplusFits ⟨[1, 2], 1, 2, 44100⟩ t))) ∧
      ((Platform.reference true).audioSink = false → (Platform.reference true).storeToWavFile = true →
        ((∃ u, handlePcmData ⟨[1, 2], 1, 2, 44100⟩ t = .ok u ∧ Extends t u [.wavWrite 2 (int16Bytes [1, 2])]) ↔
          1 = 0 ∨ 2 = 2)) := by
  obtain ⟨s, t, hs, ht, hch⟩ : ∃ s t : Sink (.reference true),
      RunsTo (fun _ _ => True) [.a2dp (.mediaCodecSbcConfiguration .stereo44100), .a2dp .streamStarted] s ∧
      fillFromPcmRing (.blank 1) s = .ok t ∧ Resampler.reference.channels t.resampleInstance = 2 :=
    ⟨_, _, .cons trivial rfl (.cons trivial rfl (.nil _)), rfl, rfl⟩
  exact ⟨s, t, hs, ht, channels_agree_iff (b := ⟨[1, 2], 1, 2, 44100⟩)
    (fillFromPcmRing_requestInv ht (run_session hs).whole) (Or.inr rfl) hch rfl⟩

/-- A configuration for a mono stream. -/
def SbcConfigurationEvent.mono44100 : SbcConfigurationEvent := ⟨0, 1, 44100, 16, 8, 2, 53, 1, .mono⟩

/-- In a mono stream a frame takes four bytes of `output_buffer`, of which the resampler wrote two; the right channel
gets what the stack held. Without an audio sink, two samples go to the WAV file where one was decoded. -/
theorem mono_block_not_delivered :
    (∃ s t u : Sink (.reference true),
      RunsTo (fun _ _ => True) [.a2dp (.mediaCodecSbcConfiguration .mono44100), .a2dp .streamStarted] s ∧
      fillFromPcmRing (.blank 1) s = .ok t ∧ Resampler.reference.channels t.resampleInstance = 1 ∧
      handlePcmData ⟨[5], 1, 1, 44100⟩ t = .ok u ∧ resampledBytes ⟨[5], 1, 1, 44100⟩ t = [5, 0] ∧
      framesToCopy ⟨[5], 1, 1, 44100⟩ t * bytesPerFrame = 4 ∧ u.requestMem = [5, 0, 0, 0] ∧
      ¬ DeliversBlock ⟨[5], 1, 1, 44100⟩ t u) ∧
    ∃ s t : Sink (.reference false),
      RunsTo (fun _ _ => True) [.a2dp (.mediaCodecSbcConfiguration .mono44100), .a2dp .streamStarted] s ∧
      .wavOpen 1 44100 ∈ s.calls ∧ handlePcmData ⟨[5], 1, 1, 44100⟩ s = .ok t ∧
      Extends s t [.wavWrite 2 (int16Bytes [5])] := by
  refine ⟨⟨_, _, _, .cons trivial rfl (.cons trivial rfl (.nil _)), rfl, rfl, rfl, rfl, rfl, rfl, ?_⟩,
    _, _, .cons trivial rfl (.cons trivial rfl (.nil _)), .head _, rfl, rfl⟩
  intro h
  exact absurd (h.copied 3 (by decide)) (by decide)

end BtstackPort
