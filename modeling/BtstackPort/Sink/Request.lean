import BtstackPort.Sink.Playback
/-!
# The request being served

`request_buffer` and `request_frames` are globals that `playback_handler` sets and `handle_pcm_data` advances.
`RequestInv` ties them to the caller's buffer: what is left to fill ends exactly where the buffer ends. Under it
no write leaves the buffer, whatever the decoder delivers, and a request can only fault in two ways: the
resampler overruns `output_buffer`, or the frame size exceeds `sbc_frame`.
-/

namespace BtstackPort

open FaultMachine

variable {P : Platform}

structure RequestInv (s : Sink P) : Prop where
  nonneg : 0 ≤ s.requestFrames
  small : s.requestFrames < 2 ^ 16
  /-- `request_buffer + request_frames` frames is the end of the buffer. -/
  frontier : s.requestBuffer + s.requestFrames.toNat * bytesPerFrame = s.requestMem.length

theorem RequestInv.of_same {s t : Sink P} (h : RequestInv s) (h1 : t.requestFrames = s.requestFrames)
    (h2 : t.requestBuffer = s.requestBuffer) (h3 : t.requestMem = s.requestMem) : RequestInv t :=
  ⟨by rw [h1]; exact h.nonneg, by rw [h1]; exact h.small, by rw [h1, h2, h3]; exact h.frontier⟩

theorem RequestInv.framesToCopy_eq {s : Sink P} (h : RequestInv s) (b : PcmBlock) :
    framesToCopy b s = min (resampleBlock b s).2.2 s.requestFrames.toNat := by
  obtain ⟨n, hn⟩ := Int.eq_ofNat_of_zero_le h.nonneg
  have hs := h.small
  unfold framesToCopy
  rw [hn] at hs ⊢
  rw [uint32OfInt_natCast (by omega), Int.toNat_natCast]

/-- What the request takes of a resampled block. -/
def copiedBytes (b : PcmBlock) (s : Sink P) : List UInt8 := outputBuffer b s 0 (framesToCopy b s * bytesPerFrame)

/-- The frames that the request does not take. -/
def surplusFrames (b : PcmBlock) (s : Sink P) : Nat := (resampleBlock b s).2.2 - framesToCopy b s

def surplusBytes (b : PcmBlock) (s : Sink P) : List UInt8 :=
  outputBuffer b s (framesToCopy b s * bytesPerFrame) (surplusFrames b s * bytesPerFrame)

@[simp] theorem length_copiedBytes (b : PcmBlock) (s : Sink P) :
    (copiedBytes b s).length = framesToCopy b s * bytesPerFrame := by
  simp [copiedBytes, outputBuffer]

@[simp] theorem length_surplusBytes (b : PcmBlock) (s : Sink P) :
    (surplusBytes b s).length = surplusFrames b s * bytesPerFrame := by
  simp [surplusBytes, outputBuffer]

/-- The callback's output fits into `output_buffer`. -/
def FitsOutput (b : PcmBlock) (s : Sink P) : Prop :=
  (int16Bytes (resampleBlock b s).2.1).length ≤ outputBufferSize

@[simp] theorem storeSurplus_request (n : Nat) (d : List UInt8) (s : Sink P) :
    (storeSurplus n d s).requestFrames = s.requestFrames ∧ (storeSurplus n d s).requestBuffer = s.requestBuffer ∧
      (storeSurplus n d s).requestMem = s.requestMem := by
  unfold storeSurplus
  split <;> exact ⟨rfl, rfl, rfl⟩

/-- **The PCM callback (`a2dp_sink.c:382`) with an audio sink**: the copy lands inside the caller's buffer and
advances the request by what was copied; the rest goes to the PCM ring. -/
theorem handlePcmData_sink (hsink : P.audioSink = true) {b : PcmBlock} {s : Sink P} (h : RequestInv s)
    (hfit : FitsOutput b s) :
    ∃ mem, Memory.store s.requestMem s.requestBuffer (copiedBytes b s) = some mem ∧
      handlePcmData b s = .ok (storeSurplus (surplusFrames b s) (surplusBytes b s) (advanceRequest b mem s)) ∧
      RequestInv (advanceRequest b mem s) := by
  have hc := h.framesToCopy_eq b
  have hfr := h.frontier
  have hn := h.nonneg
  have hs := h.small
  have hle : framesToCopy b s ≤ s.requestFrames.toNat := by omega
  have hin : s.requestBuffer + (copiedBytes b s).length ≤ s.requestMem.length := by
    have := Nat.mul_le_mul_right bytesPerFrame hle
    rw [length_copiedBytes]
    omega
  have hstore : ∃ mem, Memory.store s.requestMem s.requestBuffer (copiedBytes b s) = some mem := by
    unfold Memory.store
    rw [if_pos hin]
    exact ⟨_, rfl⟩
  obtain ⟨mem, hmem⟩ := hstore
  refine ⟨mem, hmem, ?_, ?_, ?_, ?_⟩
  · have hoff : 2 * (framesToCopy b s * numChannels) = framesToCopy b s * bytesPerFrame := by
      simp only [bytesPerFrame, numChannels]; omega
    unfold FitsOutput at hfit
    simp only [copiedBytes] at hmem
    simp only [handlePcmData, hsink, Bool.not_true, Bool.false_eq_true, if_false, hmem, hoff]
    rw [if_neg (by omega)]
    rfl
  · simp only [advanceRequest]; omega
  · simp only [advanceRequest]; omega
  · have hlen := Memory.length_store hmem
    simp only [advanceRequest, bytesPerFrame, numChannels] at *
    omega

/-- A callback that returns did not overrun `output_buffer`. -/
theorem handlePcmData_fits (hsink : P.audioSink = true) {b : PcmBlock} {s t : Sink P} (h : handlePcmData b s = .ok t) :
    FitsOutput b s := by
  rcases handlePcmData_cases h with ⟨hno, -⟩ | ⟨hno, -⟩ | ⟨-, hfits, -⟩
  · rw [hsink] at hno
    cases hno
  · rw [hsink] at hno
    cases hno
  · exact hfits

/-- Whatever the decoder delivers, the callback keeps the request and the size of the caller's buffer. -/
theorem handlePcmData_requestInv {b : PcmBlock} {s t : Sink P} (hs : RequestInv s) (h : handlePcmData b s = .ok t) :
    RequestInv t ∧ t.requestMem.length = s.requestMem.length := by
  by_cases hsink : P.audioSink
  · obtain ⟨mem, hmem, hok, hinv⟩ := handlePcmData_sink hsink hs (handlePcmData_fits hsink h)
    obtain rfl := Except.ok.inj (hok.symm.trans h)
    obtain ⟨h1, h2, h3⟩ := storeSurplus_request (surplusFrames b s) (surplusBytes b s) (advanceRequest b mem s)
    exact ⟨hinv.of_same h1 h2 h3, by rw [h3]; exact Memory.length_store hmem⟩
  · rcases handlePcmData_cases h with ⟨-, -, rfl⟩ | ⟨-, -, rfl⟩ | ⟨hyes, -⟩
    · exact ⟨hs.of_same rfl rfl rfl, rfl⟩
    · exact ⟨hs, rfl⟩
    · exact absurd hyes hsink

/-- Up to two channels, a block of 144 frames fits into `output_buffer`. -/
theorem fitsOutput (h144 : P.AtMost144Frames) {b : PcmBlock} (hb : P.decoder.FrameBlock b) {s : Sink P}
    (hch : P.resampler.channels s.resampleInstance ≤ 2) : FitsOutput b s := by
  have hframes : (resampleBlock b s).2.2 ≤ 128 + 16 := h144 b hb _
  have hlen : (resampleBlock b s).2.1.length ≤ (128 + 16) * 2 := by
    rw [resampleBlock, P.resampler.length_block]
    exact Nat.mul_le_mul hframes hch
  simp only [FitsOutput, length_int16Bytes, outputBufferSize, numChannels]
  omega

theorem pcmCallbacks_returns (hsink : P.audioSink = true) (h144 : P.AtMost144Frames) {bs : List PcmBlock}
    (hbs : ∀ b ∈ bs, P.decoder.FrameBlock b) {s : Sink P} (h : RequestInv s)
    (hch : P.resampler.channels s.resampleInstance ≤ 2) : ∃ t, pcmCallbacks bs s = .ok t ∧ RequestInv t := by
  have hcallback : ∀ b ∈ bs, ∀ u : Sink P, RequestInv u ∧ P.resampler.channels u.resampleInstance ≤ 2 →
      ∃ t, handlePcmData b u = .ok t ∧ RequestInv t ∧ P.resampler.channels t.resampleInstance ≤ 2 := by
    rintro b hb u ⟨hu, hch⟩
    obtain ⟨mem, -, hok, -⟩ := handlePcmData_sink hsink hu (fitsOutput h144 (hbs b hb) hch)
    refine ⟨_, hok, (handlePcmData_requestInv hu hok).1, ?_⟩
    rw [(handlePcmData_spec hok).1.channels]
    exact hch
  obtain ⟨t, ht, hinv, -⟩ := pcmCallbacks_total hcallback ⟨h, hch⟩
  exact ⟨t, ht, hinv⟩

/-- The request as `fillFromPcmRing` sets it up. -/
theorem fillFromPcmRing_requestInv {r : AudioRequest} {s t : Sink P} (h : fillFromPcmRing r s = .ok t)
    (hwhole : bytesPerFrame ∣ s.pcmBytes.length) : RequestInv t := by
  obtain ⟨-, -, -, hmem, hbuf, hreq, -⟩ := fillFromPcmRing_spec h
  have hlen := r.length_fromRing s
  have hrb := r.length_buffer
  have hlt := r.numAudioFrames.toNat_lt
  have hsub := Nat.sub_le r.numAudioFrames.toNat ((r.fromRing s).length / bytesPerFrame)
  obtain ⟨m, hm⟩ := hwhole
  refine ⟨by rw [hreq]; omega, by rw [hreq]; omega, ?_⟩
  rw [hbuf, hreq, hmem]
  simp only [List.length_append, List.length_drop, Int.toNat_natCast, bytesPerFrame, numChannels] at *
  omega

/-- One iteration of the decode loop returns, whatever the decoder delivers. -/
theorem decodeFrame_returns (hsink : P.audioSink = true) (h144 : P.AtMost144Frames) {s : Sink P}
    (hinst : s.sbcDecoderInstance = true) (hch : P.resampler.channels s.resampleInstance ≤ 2)
    (hsize : s.sbcFrameSize ≤ maxSbcFrameSize) (hinv : RequestInv s) :
    ∃ t, decodeFrame s = .ok t ∧ RequestInv t := by
  rw [decodeFrame_eq hsize hinst]
  exact pcmCallbacks_returns hsink h144 (fun b hb => frameBlock_of_mem hsize hb) (hinv.of_same rfl rfl rfl) hch

/-- **A request returns** when the pipeline is set up for at most two channels, the frame size fits `sbc_frame`
and the PCM ring holds whole frames. -/
theorem playbackHandler_returns (hsink : P.audioSink = true) (h144 : P.AtMost144Frames)
    (r : AudioRequest) {s : Sink P} (hinst : s.sbcDecoderInstance = true)
    (hch : P.resampler.channels s.resampleInstance ≤ 2) (hsize : s.sbcFrameSize ≤ maxSbcFrameSize)
    (hwhole : bytesPerFrame ∣ s.pcmBytes.length) : ∃ t, playbackHandler r s = .ok t := by
  unfold playbackHandler
  by_cases h0 : s.sbcFrameSize = 0
  · rw [if_pos h0]; exact ⟨_, rfl⟩
  · rw [if_neg h0]
    obtain ⟨u, hu⟩ := fillFromPcmRing_returns r s
    have hloop : ∀ v : Sink P, RequestInv v ∧ SameSession s v → wantsFrame v = true →
        ∃ t, decodeFrame v = .ok t ∧ RequestInv t ∧ SameSession s t := by
      rintro v ⟨hinv, hsv⟩ -
      obtain ⟨t, ht, hit⟩ := decodeFrame_returns hsink h144 (hsv.sbcDecoderInstance.trans hinst)
        (by rw [hsv.channels]; exact hch) (by rw [hsv.sbcFrameSize]; exact hsize) hinv
      exact ⟨t, ht, hit, hsv.trans (decodeFrame_spec ht).2.1⟩
    obtain ⟨t, ht, -⟩ := decodeLoop_total hloop (P.ring.available u.sbcFrameRingBuffer)
      ⟨fillFromPcmRing_requestInv hu hwhole, (fillFromPcmRing_spec hu).1⟩
    exact ⟨_, bind_returns.2 ⟨u, hu, bind_returns.2 ⟨t, ht, rfl⟩⟩⟩

end BtstackPort
