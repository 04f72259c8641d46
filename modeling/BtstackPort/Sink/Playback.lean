import BtstackPort.Lib.Frames
import BtstackPort.Lib.Loop
import BtstackPort.Lib.Memory
import BtstackPort.Sink.State
/-!
# Serving a playback request (`a2dp_sink.c:344-430`)

`playback_handler` copies resampled audio left over from earlier requests, then decodes queued SBC frames until
the request is full or the queue runs low. Decoding calls back into `handle_pcm_data`, which resamples and
copies to `request_buffer`; the surplus goes to the PCM ring.

The caller's buffer is `requestMem`, a list of bytes; `request_buffer` is a byte offset into it.
-/

namespace BtstackPort

open FaultMachine

variable {P : Platform}

/-- The object representation of an `int16_t` array. -/
def int16Bytes (samples : List Int16) : List UInt8 :=
  samples.flatMap fun x => [UInt8.ofNat (x.toUInt16.toNat % 256), UInt8.ofNat (x.toUInt16.toNat / 256)]

theorem length_int16Bytes (samples : List Int16) : (int16Bytes samples).length = 2 * samples.length := by
  simp [int16Bytes, List.length_flatMap]; omega

/-- Conversion of an `int` to `uint32_t`. -/
def uint32OfInt (x : Int) : Nat := (x % 2 ^ 32).toNat

theorem uint32OfInt_natCast {n : Nat} (h : n < 2 ^ 32) : uint32OfInt (n : Int) = n := by
  unfold uint32OfInt; omega

/-- `sizeof(output_buffer)` in bytes (`a2dp_sink.c:409`). -/
def outputBufferSize : Nat := 2 * ((128 + 16) * numChannels)

/-! ## `handle_pcm_data` -/

/-- `btstack_resample_block(&resample_instance, data, num_audio_frames, output_buffer)`: the context
afterwards, the samples written to `output_buffer`, the number of frames. -/
def resampleBlock (b : PcmBlock) (s : Sink P) : P.resampler.Context × List Int16 × Nat :=
  P.resampler.block s.resampleInstance b.data b.numAudioFrames

/-- Bytes of `output_buffer`; those the resampler did not write are whatever the stack held. -/
def outputBuffer (b : PcmBlock) (s : Sink P) (offset size : Nat) : List UInt8 :=
  Memory.load (int16Bytes (resampleBlock b s).2.1) (P.stackGarbage s.calls.length) offset size

def framesToCopy (b : PcmBlock) (s : Sink P) : Nat := min (resampleBlock b s).2.2 (uint32OfInt s.requestFrames)

/-- "store data in btstack_audio buffer first" (`a2dp_sink.c:414-417`), the request buffer having become
`requestMem`. -/
def advanceRequest (b : PcmBlock) (requestMem : List UInt8) (s : Sink P) : Sink P :=
  { s with
    resampleInstance := (resampleBlock b s).1
    requestMem := requestMem
    requestFrames := s.requestFrames - framesToCopy b s
    requestBuffer := s.requestBuffer + 2 * (framesToCopy b s * numChannels)
    calls := s.calls ++ [.resampleBlock (resampleBlock b s).2.2 (int16Bytes (resampleBlock b s).2.1),
      .copyToRequest (outputBuffer b s 0 (framesToCopy b s * bytesPerFrame))] }

/-- "and rest in ring buffer" (`a2dp_sink.c:420-429`). -/
def storeSurplus (framesToStore : Nat) (surplus : List UInt8) (s : Sink P) : Sink P :=
  if framesToStore = 0 then s
  else
    let (status, ring) := P.ring.write s.decodedAudioRingBuffer surplus
    { s with
      decodedAudioRingBuffer := ring
      calls := s.calls ++ [.ringWrite .decodedAudio surplus status] }

def handlePcmData (b : PcmBlock) (s : Sink P) : Except Fault (Sink P) :=
  if !P.audioSink then
    if P.storeToWavFile then
      .ok { s with
        audioFrameCount := s.audioFrameCount + UInt32.ofNat b.numAudioFrames
        calls := s.calls ++ [.wavWrite (b.numAudioFrames * numChannels) (int16Bytes b.data)] }
    else .ok s
  else if outputBufferSize < (int16Bytes (resampleBlock b s).2.1).length then .error .outputBufferOverrun
  else
    let framesToStore := (resampleBlock b s).2.2 - framesToCopy b s
    let surplus := outputBuffer b s (2 * (framesToCopy b s * numChannels)) (framesToStore * bytesPerFrame)
    match Memory.store s.requestMem s.requestBuffer (outputBuffer b s 0 (framesToCopy b s * bytesPerFrame)) with
    | none => .error .requestOverrun
    | some requestMem => .ok (storeSurplus framesToStore surplus (advanceRequest b requestMem s))

/-- The callbacks of one decode call, in order. -/
def pcmCallbacks : List PcmBlock → Sink P → Except Fault (Sink P)
  | [], s => .ok s
  | b :: bs, s => handlePcmData b s >>= pcmCallbacks bs

/-- `sbc_decoder_instance->decode_signed_16(&sbc_decoder_context, 0, buffer, size)`. -/
def decodeSigned16 (buffer : List UInt8) (s : Sink P) : Except Fault (Sink P) :=
  if !s.sbcDecoderInstance then .error .nullDecoderInstance
  else
    let (context, blocks) := P.decoder.decodeSigned16 s.sbcDecoderContext buffer
    pcmCallbacks blocks { s with sbcDecoderContext := context, calls := s.calls ++ [.decode buffer] }

/-! ## `playback_handler` -/

/-- One request of the audio driver: a buffer of `num_audio_frames` frames. -/
structure AudioRequest where
  buffer : List UInt8
  numAudioFrames : UInt16
  length_buffer : buffer.length = numAudioFrames.toNat * bytesPerFrame

/-- A request whose buffer is zeroed. -/
def AudioRequest.blank (numAudioFrames : UInt16) : AudioRequest :=
  ⟨List.replicate (numAudioFrames.toNat * bytesPerFrame) 0, numAudioFrames, by simp⟩

/-- `btstack_ring_buffer_read(&sbc_frame_ring_buffer, sbc_frame, sbc_frame_size, &bytes_read)`. -/
def readSbcFrame (s : Sink P) : List UInt8 × Sink P :=
  let (sbcFrame, ring) := P.ring.read s.sbcFrameRingBuffer s.sbcFrameSize
  (sbcFrame, { s with
    sbcFrameRingBuffer := ring
    calls := s.calls ++ [.ringRead .sbcFrame s.sbcFrameSize sbcFrame] })

/-- The body of the decode loop. The loop has just seen at least `sbc_frame_size` bytes in the ring, so
the whole of `sbc_frame` that is passed on has been read. -/
def decodeFrame (s : Sink P) : Except Fault (Sink P) :=
  if maxSbcFrameSize < s.sbcFrameSize then .error (.sbcFrameOverrun s.sbcFrameSize)
  else decodeSigned16 (readSbcFrame s).1 (readSbcFrame s).2

/-- The condition of the decode loop. -/
def wantsFrame (s : Sink P) : Bool :=
  s.requestFrames ≠ 0 && s.sbcFrameSize ≤ P.ring.available s.sbcFrameRingBuffer

/-- The decode loop, with fuel: every iteration takes at least one byte out of the ring, so the bytes in
it are fuel enough (`decodeLoop_returns`). -/
def decodeLoop : Nat → Sink P → Except Fault (Sink P)
  | 0, s => .ok s
  | fuel + 1, s => if wantsFrame s then decodeFrame s >>= decodeLoop fuel else .ok s

/-- `playback_handler` up to the decode loop: the request starts with what the PCM ring holds. -/
def fillFromPcmRing (r : AudioRequest) (s : Sink P) : Except Fault (Sink P) :=
  let requested := r.numAudioFrames.toNat * bytesPerFrame
  let (bytes, ring) := P.ring.read s.decodedAudioRingBuffer requested
  match Memory.store r.buffer 0 bytes with
  | none => .error .requestOverrun
  | some requestMem =>
    let numAudioFrames := r.numAudioFrames - UInt16.ofNat (bytes.length / bytesPerFrame)
    .ok { s with
      decodedAudioRingBuffer := ring
      requestMem := requestMem
      requestBuffer := 2 * (bytes.length / numChannels)
      requestFrames := numAudioFrames.toNat
      calls := s.calls ++ [.ringRead .decodedAudio requested bytes] }

/-- The end of `playback_handler` in the WAV build; `frames` is `num_audio_frames`, by then reduced by
the frames that came from the PCM ring. -/
def writeWav (r : AudioRequest) (frames : Nat) (s : Sink P) : Sink P :=
  if P.storeToWavFile then
    { s with
      audioFrameCount := s.audioFrameCount + UInt32.ofNat frames
      calls := s.calls ++ [.wavWrite (r.numAudioFrames.toNat * numChannels) s.requestMem] }
  else s

def playbackHandler (r : AudioRequest) (s : Sink P) : Except Fault (Sink P) :=
  if s.sbcFrameSize = 0 then
    .ok { s with
      requestMem := List.replicate (r.numAudioFrames.toNat * bytesPerFrame) 0
      calls := s.calls ++ [.silence (r.numAudioFrames.toNat * bytesPerFrame)] }
  else do
    let s ← fillFromPcmRing r s
    let t ← decodeLoop (P.ring.available s.sbcFrameRingBuffer) s
    return writeWav r s.requestFrames.toNat t

/-! ## What a request leaves alone -/

/-- The session: everything but the two rings' contents, the request, the decoder and the WAV count. -/
structure SameSession (s t : Sink P) : Prop where
  sbcFrameSize : t.sbcFrameSize = s.sbcFrameSize
  sbcDecoderInstance : t.sbcDecoderInstance = s.sbcDecoderInstance
  mediaInitialized : t.mediaInitialized = s.mediaInitialized
  audioStreamStarted : t.audioStreamStarted = s.audioStreamStarted
  l2capStreamStarted : t.l2capStreamStarted = s.l2capStreamStarted
  a2dpConnection : t.a2dpConnection = s.a2dpConnection
  channels : P.resampler.channels t.resampleInstance = P.resampler.channels s.resampleInstance
  sbcCapacity : P.ring.capacity t.sbcFrameRingBuffer = P.ring.capacity s.sbcFrameRingBuffer
  pcmCapacity : P.ring.capacity t.decodedAudioRingBuffer = P.ring.capacity s.decodedAudioRingBuffer

theorem SameSession.refl (s : Sink P) : SameSession s s := ⟨rfl, rfl, rfl, rfl, rfl, rfl, rfl, rfl, rfl⟩

theorem SameSession.trans {s t u : Sink P} (h : SameSession s t) (h' : SameSession t u) : SameSession s u :=
  ⟨h'.1.trans h.1, h'.2.trans h.2, h'.3.trans h.3, h'.4.trans h.4, h'.5.trans h.5, h'.6.trans h.6,
    h'.7.trans h.7, h'.8.trans h.8, h'.9.trans h.9⟩

theorem advanceRequest_spec (b : PcmBlock) (requestMem : List UInt8) (s : Sink P) :
    SameSession s (advanceRequest b requestMem s) ∧
      ∃ cs, Extends s (advanceRequest b requestMem s) cs ∧ ∀ c ∈ cs, c.IsPcm :=
  ⟨⟨rfl, rfl, rfl, rfl, rfl, rfl, by simp [advanceRequest, resampleBlock], rfl, rfl⟩, _, rfl,
    by simp [Call.IsPcm]⟩

theorem storeSurplus_spec (n : Nat) (surplus : List UInt8) (s : Sink P) :
    SameSession s (storeSurplus n surplus s) ∧
      (storeSurplus n surplus s).sbcFrameRingBuffer = s.sbcFrameRingBuffer ∧
      ∃ cs, Extends s (storeSurplus n surplus s) cs ∧ ∀ c ∈ cs, c.IsPcm := by
  unfold storeSurplus
  split
  · exact ⟨.refl s, rfl, [], by simp [Extends], by simp⟩
  · exact ⟨⟨rfl, rfl, rfl, rfl, rfl, rfl, rfl, rfl, by simp⟩, rfl, _, rfl, by simp [Call.IsPcm]⟩

/-- What the PCM callback can do: count frames for the WAV file, nothing, or serve the request. -/
theorem handlePcmData_cases {b : PcmBlock} {s t : Sink P} (h : handlePcmData b s = .ok t) :
    (P.audioSink = false ∧ P.storeToWavFile = true ∧ t = { s with
      audioFrameCount := s.audioFrameCount + UInt32.ofNat b.numAudioFrames
      calls := s.calls ++ [.wavWrite (b.numAudioFrames * numChannels) (int16Bytes b.data)] }) ∨
    (P.audioSink = false ∧ P.storeToWavFile = false ∧ t = s) ∨
    (P.audioSink = true ∧ (int16Bytes (resampleBlock b s).2.1).length ≤ outputBufferSize ∧
      ∃ mem, t = storeSurplus ((resampleBlock b s).2.2 - framesToCopy b s)
        (outputBuffer b s (2 * (framesToCopy b s * numChannels))
          (((resampleBlock b s).2.2 - framesToCopy b s) * bytesPerFrame)) (advanceRequest b mem s)) := by
  unfold handlePcmData at h
  cases hsink : P.audioSink with
  | false =>
    rw [hsink] at h
    cases hwav : P.storeToWavFile with
    | true =>
      rw [hwav] at h
      exact Or.inl ⟨rfl, rfl, (Except.ok.inj h).symm⟩
    | false =>
      rw [hwav] at h
      exact Or.inr (Or.inl ⟨rfl, rfl, (Except.ok.inj h).symm⟩)
  | true =>
    simp only [hsink, Bool.not_true, Bool.false_eq_true, if_false] at h
    split at h
    · cases h
    · rename_i hfits
      split at h
      · cases h
      · rename_i mem hmem
        exact Or.inr (Or.inr ⟨rfl, Nat.le_of_not_lt hfits, mem, (Except.ok.inj h).symm⟩)

/-- The PCM callback neither touches the session nor the SBC ring, and makes PCM calls only. -/
theorem handlePcmData_spec {b : PcmBlock} {s t : Sink P} (h : handlePcmData b s = .ok t) :
    SameSession s t ∧ t.sbcFrameRingBuffer = s.sbcFrameRingBuffer ∧
      ∃ cs, Extends s t cs ∧ ∀ c ∈ cs, c.IsPcm := by
  rcases handlePcmData_cases h with ⟨-, -, rfl⟩ | ⟨-, -, rfl⟩ | ⟨-, -, mem, rfl⟩
  · exact ⟨⟨rfl, rfl, rfl, rfl, rfl, rfl, rfl, rfl, rfl⟩, rfl, _, rfl, by simp [Call.IsPcm]⟩
  · exact ⟨.refl t, rfl, [], by simp [Extends], by simp⟩
  · obtain ⟨h1, cs, hc1, hp1⟩ := advanceRequest_spec b mem s
    obtain ⟨h2, hr, ds, hc2, hp2⟩ := storeSurplus_spec ((resampleBlock b s).2.2 - framesToCopy b s)
      (outputBuffer b s (2 * (framesToCopy b s * numChannels))
        (((resampleBlock b s).2.2 - framesToCopy b s) * bytesPerFrame)) (advanceRequest b mem s)
    refine ⟨h1.trans h2, hr, cs ++ ds, hc1.trans hc2, fun c hc => ?_⟩
    rcases List.mem_append.1 hc with hc | hc
    · exact hp1 c hc
    · exact hp2 c hc

theorem pcmCallbacks_spec {bs : List PcmBlock} {s t : Sink P} (h : pcmCallbacks bs s = .ok t) :
    SameSession s t ∧ t.sbcFrameRingBuffer = s.sbcFrameRingBuffer ∧
      ∃ cs, Extends s t cs ∧ ∀ c ∈ cs, c.IsPcm := by
  induction bs generalizing s with
  | nil => cases h; exact ⟨.refl _, rfl, [], by simp [Extends], by simp⟩
  | cons b bs ih =>
    obtain ⟨u, hu, ht⟩ := bind_returns.1 h
    obtain ⟨h1, hr1, cs, hc1, hp1⟩ := handlePcmData_spec hu
    obtain ⟨h2, hr2, ds, hc2, hp2⟩ := ih ht
    refine ⟨h1.trans h2, hr2.trans hr1, cs ++ ds, hc1.trans hc2, fun c hc => ?_⟩
    rcases List.mem_append.1 hc with hc | hc
    · exact hp1 c hc
    · exact hp2 c hc

theorem decodeSigned16_of_instance {buffer : List UInt8} {s : Sink P} (h : s.sbcDecoderInstance = true) :
    decodeSigned16 buffer s =
      pcmCallbacks (P.decoder.decodeSigned16 s.sbcDecoderContext buffer).2
        { s with
          sbcDecoderContext := (P.decoder.decodeSigned16 s.sbcDecoderContext buffer).1
          calls := s.calls ++ [.decode buffer] } := by
  unfold decodeSigned16
  rw [if_neg (by simp [h])]

/-- **Callback rule**: what every callback keeps holds after all of them. -/
theorem pcmCallbacks_rule {I : Sink P → Prop} (hI : ∀ b s t, I s → handlePcmData b s = .ok t → I t)
    {bs : List PcmBlock} {s t : Sink P} (h : pcmCallbacks bs s = .ok t) (hs : I s) : I t := by
  induction bs generalizing s with
  | nil => cases h; exact hs
  | cons b bs ih =>
    obtain ⟨u, hu, ht⟩ := bind_returns.1 h
    exact ih ht (hI b s u hs hu)

/-- **Total callback rule**: when every callback returns and keeps `I`, so do all of them. -/
theorem pcmCallbacks_total {I : Sink P → Prop} {bs : List PcmBlock}
    (hI : ∀ b ∈ bs, ∀ s, I s → ∃ t, handlePcmData b s = .ok t ∧ I t) {s : Sink P} (hs : I s) :
    ∃ t, pcmCallbacks bs s = .ok t ∧ I t := by
  induction bs generalizing s with
  | nil => exact ⟨s, rfl, hs⟩
  | cons b bs ih =>
    obtain ⟨u, hu, hIu⟩ := hI b (List.mem_cons_self ..) s hs
    obtain ⟨t, ht, hIt⟩ := ih (fun b' hb => hI b' (List.mem_cons_of_mem b hb)) hIu
    exact ⟨t, bind_returns.2 ⟨u, hu, ht⟩, hIt⟩

/-- A fault of the callbacks is the fault of one of them, in a state that the others have led to. -/
theorem pcmCallbacks_faults {I : Sink P → Prop} (hI : ∀ b s t, I s → handlePcmData b s = .ok t → I t)
    {bs : List PcmBlock} {s : Sink P} {f : Fault} (h : pcmCallbacks bs s = .error f) (hs : I s) :
    ∃ b ∈ bs, ∃ u, I u ∧ handlePcmData b u = .error f := by
  induction bs generalizing s with
  | nil => cases h
  | cons b bs ih =>
    rcases bind_faults.1 h with hf | ⟨u, hu, hf⟩
    · exact ⟨b, List.mem_cons_self .., s, hs, hf⟩
    · obtain ⟨b', hb', v, hv, hf⟩ := ih hf (hI b s u hs hu)
      exact ⟨b', List.mem_cons_of_mem b hb', v, hv, hf⟩

theorem decodeSigned16_spec {buffer : List UInt8} {s t : Sink P} (h : decodeSigned16 buffer s = .ok t) :
    SameSession s t ∧ t.sbcFrameRingBuffer = s.sbcFrameRingBuffer ∧
      ∃ cs, Extends s t (.decode buffer :: cs) ∧ ∀ c ∈ cs, c.IsPcm := by
  unfold decodeSigned16 at h
  split at h
  · cases h
  · obtain ⟨h1, hr, cs, hc, hp⟩ := pcmCallbacks_spec h
    refine ⟨⟨h1.1, h1.2, h1.3, h1.4, h1.5, h1.6, h1.7, h1.8, h1.9⟩, hr, cs, ?_, hp⟩
    simpa [Extends] using hc

/-! ## The decode loop, seen from the SBC ring -/

/-- The buffers handed to the decoder, in order. -/
def decodes (cs : List Call) : List (List UInt8) :=
  cs.filterMap fun c => match c with
    | .decode buffer => some buffer
    | _ => none

@[simp] theorem decodes_append (cs ds : List Call) : decodes (cs ++ ds) = decodes cs ++ decodes ds := by
  simp [decodes]

theorem decodes_pcm {cs : List Call} (h : ∀ c ∈ cs, c.IsPcm) : decodes cs = [] := by
  simp only [decodes, List.filterMap_eq_nil_iff]
  intro c hc
  have := h c hc
  cases c <;> simp_all [Call.IsPcm]

theorem readSbcFrame_spec (s : Sink P) :
    (readSbcFrame s).1 = s.sbcBytes.take s.sbcFrameSize ∧ SameSession s (readSbcFrame s).2 ∧
      (readSbcFrame s).2.sbcBytes = s.sbcBytes.drop s.sbcFrameSize ∧
      Extends s (readSbcFrame s).2 [.ringRead .sbcFrame s.sbcFrameSize (s.sbcBytes.take s.sbcFrameSize)] := by
  refine ⟨?_, ⟨rfl, rfl, rfl, rfl, rfl, rfl, rfl, ?_, rfl⟩, ?_, ?_⟩
  · simp [readSbcFrame]
  · simp [readSbcFrame]
  · simp [readSbcFrame, Sink.sbcBytes]
  · simp [readSbcFrame, Extends]

/-- The PCM callbacks of the next frame. -/
def frameBlocks (s : Sink P) : List PcmBlock :=
  (P.decoder.decodeSigned16 s.sbcDecoderContext (s.sbcBytes.take s.sbcFrameSize)).2

/-- A frame that fits `sbc_frame` is read into it whole. -/
theorem length_frame_le {s : Sink P} (hsize : s.sbcFrameSize ≤ maxSbcFrameSize) :
    (s.sbcBytes.take s.sbcFrameSize).length ≤ maxSbcFrameSize :=
  Nat.le_trans (List.length_take_le _ _) hsize

theorem frameBlock_of_mem {s : Sink P} {b : PcmBlock} (hsize : s.sbcFrameSize ≤ maxSbcFrameSize)
    (hb : b ∈ frameBlocks s) : P.decoder.FrameBlock b :=
  ⟨s.sbcDecoderContext, _, length_frame_le hsize, hb⟩

/-- A decoder that calls back at most once. -/
theorem frameBlocks_of_one (hone : P.decoder.AtMostOneCallback) {s : Sink P}
    (hsize : s.sbcFrameSize ≤ maxSbcFrameSize) : frameBlocks s = [] ∨ ∃ b, frameBlocks s = [b] := by
  have hcount : (frameBlocks s).length ≤ 1 := hone s.sbcDecoderContext _ (length_frame_le hsize)
  rcases hb : frameBlocks s with - | ⟨b, - | ⟨b', bs⟩⟩
  · exact Or.inl rfl
  · exact Or.inr ⟨b, rfl⟩
  · rw [hb] at hcount
    simp at hcount

/-- The state in which they start: the frame has been read and handed to the decoder. -/
def frameRead (s : Sink P) : Sink P :=
  { (readSbcFrame s).2 with
    sbcDecoderContext := (P.decoder.decodeSigned16 s.sbcDecoderContext (s.sbcBytes.take s.sbcFrameSize)).1
    calls := (readSbcFrame s).2.calls ++ [.decode (s.sbcBytes.take s.sbcFrameSize)] }

theorem frameRead_spec (s : Sink P) :
    SameSession s (frameRead s) ∧ (frameRead s).sbcBytes = s.sbcBytes.drop s.sbcFrameSize ∧
      Extends s (frameRead s) [.ringRead .sbcFrame s.sbcFrameSize (s.sbcBytes.take s.sbcFrameSize),
        .decode (s.sbcBytes.take s.sbcFrameSize)] := by
  obtain ⟨-, hs, hbytes, hlog⟩ := readSbcFrame_spec s
  exact ⟨⟨hs.1, hs.2, hs.3, hs.4, hs.5, hs.6, hs.7, hs.8, hs.9⟩, hbytes, hlog.trans rfl⟩

/-- Past its checks, an iteration is its callbacks. -/
theorem decodeFrame_eq {s : Sink P} (hsize : s.sbcFrameSize ≤ maxSbcFrameSize) (hinst : s.sbcDecoderInstance = true) :
    decodeFrame s = pcmCallbacks (frameBlocks s) (frameRead s) := by
  obtain ⟨hframe, hs, -⟩ := readSbcFrame_spec s
  rw [decodeFrame, if_neg (by omega), decodeSigned16_of_instance (hs.sbcDecoderInstance.trans hinst), hframe]
  rfl

/-- An iteration that returns got past its checks. -/
theorem decodeFrame_returned {s t : Sink P} (h : decodeFrame s = .ok t) :
    s.sbcFrameSize ≤ maxSbcFrameSize ∧ pcmCallbacks (frameBlocks s) (frameRead s) = .ok t := by
  have hchecks := h
  unfold decodeFrame at h
  split at h
  · cases h
  · rename_i hle
    have hsize : s.sbcFrameSize ≤ maxSbcFrameSize := by omega
    unfold decodeSigned16 at h
    split at h
    · cases h
    · rename_i hinst
      rw [decodeFrame_eq hsize (by simpa [readSbcFrame] using hinst)] at hchecks
      exact ⟨hsize, hchecks⟩

/-- One iteration takes one block of `sbc_frame_size` bytes off the ring and decodes it. -/
theorem decodeFrame_spec {s t : Sink P} (h : decodeFrame s = .ok t) :
    s.sbcFrameSize ≤ maxSbcFrameSize ∧ SameSession s t ∧ t.sbcBytes = s.sbcBytes.drop s.sbcFrameSize ∧
      ∃ cs, Extends s t cs ∧ (∀ c ∈ cs, c.IsPlayback) ∧ decodes cs = [s.sbcBytes.take s.sbcFrameSize] := by
  obtain ⟨hle, h⟩ := decodeFrame_returned h
  obtain ⟨hs, hbytes, hlog⟩ := frameRead_spec s
  obtain ⟨hs', hr, cs, hlog', hp⟩ := pcmCallbacks_spec h
  refine ⟨hle, hs.trans hs', ?_, _, hlog.trans hlog', ?_, ?_⟩
  · rw [Sink.sbcBytes, hr]; exact hbytes
  · intro c hc
    simp only [List.cons_append, List.nil_append, List.mem_cons] at hc
    rcases hc with rfl | rfl | hc
    · trivial
    · trivial
    · exact (hp c hc).isPlayback
  · show _ :: decodes cs = _
    rw [decodes_pcm hp]

/-- The decode loop is a loop over `decodeFrame`. -/
theorem decodeLoop_eq (fuel : Nat) : decodeLoop (P := P) fuel = whileLoop wantsFrame decodeFrame fuel := by
  induction fuel with
  | zero => rfl
  | succ fuel ih =>
    funext s
    rw [decodeLoop, whileLoop, ih]

/-- **Loop rule**: what every iteration keeps holds after the loop. -/
theorem decodeLoop_rule {I : Sink P → Prop}
    (hI : ∀ s t, I s → wantsFrame s = true → decodeFrame s = .ok t → I t)
    {fuel : Nat} {s t : Sink P} (h : decodeLoop fuel s = .ok t) (hs : I s) : I t := by
  rw [decodeLoop_eq] at h
  obtain ⟨n, -, hit, -⟩ := whileLoop_iterates h
  exact hit.inv hI hs

/-- **Total loop rule**: when every iteration returns and keeps `I`, so does the loop. -/
theorem decodeLoop_total {I : Sink P → Prop}
    (hI : ∀ s, I s → wantsFrame s = true → ∃ t, decodeFrame s = .ok t ∧ I t) (fuel : Nat) {s : Sink P}
    (hs : I s) :
    ∃ t, decodeLoop fuel s = .ok t ∧ I t := by
  rw [decodeLoop_eq]
  exact whileLoop_total hI fuel hs

theorem wantsFrame_iff {s : Sink P} :
    wantsFrame s = true ↔ s.requestFrames ≠ 0 ∧ s.sbcFrameSize ≤ s.sbcBytes.length := by
  simp [wantsFrame]

/-- `n` iterations decode the first `n` blocks of `sbc_frame_size` bytes and leave the rest. -/
theorem decodeIterations_spec {n : Nat} {s t : Sink P} (h : Iterates wantsFrame decodeFrame n s t) :
    SameSession s t ∧ n * s.sbcFrameSize ≤ s.sbcBytes.length ∧ t.sbcBytes = s.sbcBytes.drop (n * s.sbcFrameSize) ∧
      ∃ cs, Extends s t cs ∧ (∀ c ∈ cs, c.IsPlayback) ∧ decodes cs = Framing.blocks s.sbcFrameSize n s.sbcBytes := by
  induction h with
  | zero s => exact ⟨.refl s, by simp, by simp, [], by simp [Extends], by simp, rfl⟩
  | succ hw hu _ ih =>
    obtain ⟨-, hs, hub, cs, hlog, hp, hd⟩ := decodeFrame_spec hu
    obtain ⟨hs', hn, htb, ds, hlog', hp', hd'⟩ := ih
    have hlen := (wantsFrame_iff.1 hw).2
    rw [hs.sbcFrameSize, hub] at hn htb hd'
    rw [List.length_drop] at hn
    rw [List.drop_drop] at htb
    refine ⟨hs.trans hs', ?_, ?_, cs ++ ds, hlog.trans hlog', ?_, ?_⟩
    · rw [Nat.succ_mul]; omega
    · rw [htb, Nat.succ_mul, Nat.add_comm]
    · intro c hc
      rcases List.mem_append.1 hc with hc | hc
      · exact hp c hc
      · exact hp' c hc
    · rw [decodes_append, hd, hd']; rfl

/-- A loop that has fuel and wants a frame decodes at least one. -/
theorem decodeLoop_iterates {fuel : Nat} {s t : Sink P} (h : decodeLoop fuel s = .ok t) :
    ∃ n, Iterates wantsFrame decodeFrame n s t ∧ (wantsFrame s = true → 0 < fuel → 0 < n) := by
  rw [decodeLoop_eq] at h
  obtain ⟨n, -, hit, hend⟩ := whileLoop_iterates h
  refine ⟨n, hit, fun hw hfuel => Nat.pos_of_ne_zero fun h0 => ?_⟩
  subst h0
  cases hit
  rw [hend hfuel] at hw
  cases hw

/-- Every iteration takes `sbc_frame_size` bytes out of the ring and leaves the size alone. -/
theorem decodeFrame_takes {s t : Sink P} (hsize : 0 < s.sbcFrameSize) (hw : wantsFrame s = true)
    (h : decodeFrame s = .ok t) : 0 < t.sbcFrameSize ∧ t.sbcBytes.length + 1 ≤ s.sbcBytes.length := by
  obtain ⟨-, hs, hub, -⟩ := decodeFrame_spec h
  have hlen := (wantsFrame_iff.1 hw).2
  refine ⟨by rw [hs.sbcFrameSize]; exact hsize, ?_⟩
  rw [hub, List.length_drop]
  omega

/-- The fuel is enough: the loop returns what its iterations lead to, once its condition fails. -/
theorem decodeLoop_returns {fuel : Nat} {s t : Sink P} (hsize : 0 < s.sbcFrameSize)
    (hfuel : s.sbcBytes.length ≤ fuel) :
    decodeLoop fuel s = .ok t ↔ ∃ n, Iterates wantsFrame decodeFrame n s t ∧ wantsFrame t = false := by
  rw [decodeLoop_eq]
  refine whileLoop_returns (I := fun u => 0 < u.sbcFrameSize) (μ := fun u => u.sbcBytes.length) ?_ ?_ hsize hfuel
  · intro u hu hw
    have hlen := (wantsFrame_iff.1 hw).2
    omega
  · intro u v hu hw hv
    exact decodeFrame_takes hu hw hv

/-! ## The whole request, seen from the SBC ring -/

/-- `num_audio_frames -= k` does not wrap. -/
theorem toNat_sub_ofNat {n : UInt16} {k : Nat} (h : k ≤ n.toNat) : (n - UInt16.ofNat k).toNat = n.toNat - k := by
  have hn := n.toNat_lt
  have hk : (UInt16.ofNat k).toNat = k := UInt16.toNat_ofNat_of_lt' (Nat.lt_of_le_of_lt h hn)
  rw [UInt16.toNat_sub_of_le _ _ (UInt16.le_iff_toNat_le.2 (by omega)), hk]

/-- What a request takes out of the PCM ring. -/
def AudioRequest.fromRing (r : AudioRequest) (s : Sink P) : List UInt8 :=
  s.pcmBytes.take (r.numAudioFrames.toNat * bytesPerFrame)

theorem AudioRequest.length_fromRing (r : AudioRequest) (s : Sink P) :
    (r.fromRing s).length = min (r.numAudioFrames.toNat * bytesPerFrame) s.pcmBytes.length := by
  simp [AudioRequest.fromRing]

/-- The start of a request always succeeds: it cannot get more than it asked for. -/
theorem fillFromPcmRing_returns (r : AudioRequest) (s : Sink P) : ∃ t, fillFromPcmRing r s = .ok t := by
  have hle : (s.pcmBytes.take (r.numAudioFrames.toNat * bytesPerFrame)).length ≤ r.buffer.length := by
    rw [r.length_buffer]; exact List.length_take_le _ _
  unfold fillFromPcmRing
  simp only [P.ring.read_data]
  rw [Memory.store_zero hle]
  exact ⟨_, rfl⟩

theorem fillFromPcmRing_spec {r : AudioRequest} {s t : Sink P} (h : fillFromPcmRing r s = .ok t) :
    SameSession s t ∧ t.sbcFrameRingBuffer = s.sbcFrameRingBuffer ∧
      t.pcmBytes = s.pcmBytes.drop (r.numAudioFrames.toNat * bytesPerFrame) ∧
      t.requestMem = r.fromRing s ++ r.buffer.drop (r.fromRing s).length ∧
      t.requestBuffer = 2 * ((r.fromRing s).length / numChannels) ∧
      t.requestFrames = ((r.numAudioFrames.toNat - (r.fromRing s).length / bytesPerFrame : Nat) : Int) ∧
      Extends s t [.ringRead .decodedAudio (r.numAudioFrames.toNat * bytesPerFrame) (r.fromRing s)] := by
  have hlen := r.length_fromRing s
  have hbuf := r.length_buffer
  unfold fillFromPcmRing at h
  simp only [P.ring.read_data] at h
  change (match Memory.store r.buffer 0 (r.fromRing s) with | none => _ | some requestMem => _) = _ at h
  rw [Memory.store_zero (by omega)] at h
  cases h
  refine ⟨⟨rfl, rfl, rfl, rfl, rfl, rfl, rfl, rfl, by simp⟩, rfl, by simp [Sink.pcmBytes], rfl, rfl, ?_, rfl⟩
  have hle : (r.fromRing s).length / bytesPerFrame ≤ r.numAudioFrames.toNat := by
    simp only [bytesPerFrame, numChannels] at *; omega
  exact congrArg Nat.cast (toNat_sub_ofNat hle)

/-- A request that returns with a frame size known: what the PCM ring holds, then iterations until the loop ends. -/
theorem playbackHandler_returned {r : AudioRequest} {s t : Sink P} (hpos : 0 < s.sbcFrameSize)
    (h : playbackHandler r s = .ok t) :
    ∃ u n v, fillFromPcmRing r s = .ok u ∧ Iterates wantsFrame decodeFrame n u v ∧ wantsFrame v = false ∧
      t = writeWav r u.requestFrames.toNat v := by
  rw [playbackHandler, if_neg (by omega)] at h
  obtain ⟨u, hu, h⟩ := bind_returns.1 h
  obtain ⟨v, hv, h⟩ := bind_returns.1 h
  cases h
  have hsize := (fillFromPcmRing_spec hu).1.sbcFrameSize
  have hfuel : u.sbcBytes.length ≤ P.ring.available u.sbcFrameRingBuffer := Nat.le_of_eq (P.ring.available_eq _).symm
  obtain ⟨n, hit, hend⟩ := (decodeLoop_returns (by omega) hfuel).1 hv
  exact ⟨u, n, v, hu, hit, hend, rfl⟩

theorem writeWav_spec (r : AudioRequest) (n : Nat) (s : Sink P) :
    SameSession s (writeWav r n s) ∧ (writeWav r n s).sbcFrameRingBuffer = s.sbcFrameRingBuffer ∧
      ∃ cs, Extends s (writeWav r n s) cs ∧ ∀ c ∈ cs, c.IsPcm := by
  unfold writeWav
  split
  · exact ⟨⟨rfl, rfl, rfl, rfl, rfl, rfl, rfl, rfl, rfl⟩, rfl, _, rfl, by simp [Call.IsPcm]⟩
  · exact ⟨.refl s, rfl, [], by simp [Extends], by simp⟩

/-- **`playback_handler` (`a2dp_sink.c:344`)**: the first `k` blocks of `sbc_frame_size` bytes of the SBC ring
are decoded, in order, and leave the ring; with no frame size known, nothing is. When the PCM ring cannot
fill the request and a block is there, at least one is decoded. -/
theorem playbackHandler_spec {r : AudioRequest} {s t : Sink P} (h : playbackHandler r s = .ok t) :
    SameSession s t ∧ ∃ k cs, k * s.sbcFrameSize ≤ s.sbcBytes.length ∧ (s.sbcFrameSize = 0 → k = 0) ∧
      t.sbcBytes = s.sbcBytes.drop (k * s.sbcFrameSize) ∧ Extends s t cs ∧ (∀ c ∈ cs, c.IsPlayback) ∧
      decodes cs = Framing.blocks s.sbcFrameSize k s.sbcBytes ∧
      (0 < s.sbcFrameSize → s.sbcFrameSize ≤ s.sbcBytes.length →
        s.pcmBytes.length < r.numAudioFrames.toNat * bytesPerFrame → 0 < k) := by
  unfold playbackHandler at h
  split at h
  · rename_i h0
    cases h
    exact ⟨⟨rfl, rfl, rfl, rfl, rfl, rfl, rfl, rfl, rfl⟩, 0, [_], by simp, by simp, by simp, rfl,
      by simp [Call.IsPlayback], rfl, by omega⟩
  · rename_i hne
    obtain ⟨u, hu, h⟩ := bind_returns.1 h
    obtain ⟨v, hv, h⟩ := bind_returns.1 h
    cases h
    obtain ⟨hs1, hr1, -, -, -, hreq, hlog1⟩ := fillFromPcmRing_spec hu
    obtain ⟨k, hit, hfirst⟩ := decodeLoop_iterates hv
    obtain ⟨hs2, hk, hvb, cs, hlog2, hp2, hd2⟩ := decodeIterations_spec hit
    obtain ⟨hs3, hr3, ds, hlog3, hp3⟩ := writeWav_spec r u.requestFrames.toNat v
    have hub : u.sbcBytes = s.sbcBytes := by rw [Sink.sbcBytes, hr1]
    rw [hub, hs1.sbcFrameSize] at hk hvb hd2
    refine ⟨(hs1.trans hs2).trans hs3, k, _, hk, fun h0 => absurd h0 hne, ?_, (hlog1.trans hlog2).trans hlog3,
      ?_, ?_, fun hpos hblock hshort => hfirst (wantsFrame_iff.2 ⟨?_, ?_⟩) ?_⟩
    · rw [Sink.sbcBytes, hr3]; exact hvb
    · intro c hc
      simp only [List.mem_append, List.mem_singleton] at hc
      rcases hc with (rfl | hc) | hc
      · trivial
      · exact hp2 c hc
      · exact (hp3 c hc).isPlayback
    · rw [decodes_append, decodes_append, decodes_pcm hp3, hd2, List.append_nil]
      rfl
    · have := r.length_fromRing s
      simp only [bytesPerFrame, numChannels] at *
      omega
    · rw [hs1.sbcFrameSize, hub]; exact hblock
    · rw [P.ring.available_eq]
      change 0 < u.sbcBytes.length
      rw [hub]; omega

end BtstackPort
