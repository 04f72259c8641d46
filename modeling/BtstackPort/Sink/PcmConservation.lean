import BtstackPort.Sink.PacketHandler
import BtstackPort.Sink.Request
/-!
# Decoded audio is conserved

A resampled block takes one of two ways: to the request being served, or to the PCM ring and from there to
the next request. `Conserved` is what holds between events: delivered audio followed by the PCM ring is
what the resampler produced. While a request is served (`Serving`), audio may be stored only once the
request is full, and a request that is not full has emptied the ring first; so the surplus of one block
always meets an empty ring, and the ring never overflows.
-/

namespace BtstackPort

open FaultMachine

variable {P : Platform}

/-! ## Reading the log -/

/-- The log since the last reset of the PCM ring. -/
structure PcmEpoch where
  /-- Resampled blocks, concatenated. -/
  produced : List UInt8
  /-- Decoded audio written to callers' buffers, concatenated. -/
  delivered : List UInt8

def PcmEpoch.record (e : PcmEpoch) : Call → PcmEpoch
  | .ringInit .decodedAudio => ⟨[], []⟩
  | .ringReset .decodedAudio => ⟨[], []⟩
  | .resampleBlock _ output => { e with produced := e.produced ++ output }
  | .ringRead .decodedAudio _ data => { e with delivered := e.delivered ++ data }
  | .copyToRequest data => { e with delivered := e.delivered ++ data }
  | _ => e

def pcmEpoch (calls : List Call) : PcmEpoch := calls.foldl PcmEpoch.record ⟨[], []⟩

/-- Calls that have nothing to do with the PCM ring, the resampled blocks or the request. -/
def Call.IsForeign : Call → Prop
  | .ringInit .decodedAudio | .ringReset .decodedAudio | .ringRead .decodedAudio .. => False
  | .ringWrite .decodedAudio .. | .resampleBlock .. | .copyToRequest .. => False
  | _ => True

theorem record_foreign {c : Call} (h : c.IsForeign) (e : PcmEpoch) : e.record c = e := by
  cases c with
  | ringInit ring => cases ring <;> simp_all [Call.IsForeign, PcmEpoch.record]
  | ringReset ring => cases ring <;> simp_all [Call.IsForeign, PcmEpoch.record]
  | ringRead ring n d => cases ring <;> simp_all [Call.IsForeign, PcmEpoch.record]
  | ringWrite ring d st => cases ring <;> simp_all [Call.IsForeign, PcmEpoch.record]
  | _ => simp_all [Call.IsForeign, PcmEpoch.record]

theorem pcmEpoch_extends {s t : Sink P} {cs : List Call} (h : Extends s t cs) :
    pcmEpoch t.calls = cs.foldl PcmEpoch.record (pcmEpoch s.calls) := by
  unfold pcmEpoch
  rw [h, List.foldl_append]

theorem pcmEpoch_foreign {s t : Sink P} {cs : List Call} (h : Extends s t cs) (hf : ∀ c ∈ cs, c.IsForeign) :
    pcmEpoch t.calls = pcmEpoch s.calls := by
  unfold pcmEpoch
  rw [h]
  exact foldl_append_ignored PcmEpoch.record _ s.calls cs fun c hc e => record_foreign (hf c hc) e

theorem Call.IsDrift.isForeign {c : Call} (h : c.IsDrift) : c.IsForeign := by
  cases c <;> simp_all [Call.IsDrift, Call.IsForeign]

theorem startCalls_foreign : ∀ c ∈ mediaProcessingStartCalls P, c.IsForeign := by
  intro c hc
  rcases mem_mediaProcessingStartCalls hc with rfl | rfl <;> trivial

/-! ## Between events -/

/-- The pipeline has been set up for stereo. -/
structure Ready (s : Sink P) : Prop where
  sbcDecoderInstance : s.sbcDecoderInstance = true
  channels : P.resampler.channels s.resampleInstance = 2
  pcmCapacity : P.ring.capacity s.decodedAudioRingBuffer = decodedAudioStorageSize

theorem Ready.of_same {s t : Sink P} (h : Ready s) (hsame : SameSession s t) : Ready t :=
  ⟨hsame.sbcDecoderInstance.trans h.1, hsame.channels.trans h.2, hsame.pcmCapacity.trans h.3⟩

structure Conserved (s : Sink P) : Prop where
  balance : (pcmEpoch s.calls).delivered ++ s.pcmBytes = (pcmEpoch s.calls).produced
  /-- Whole frames. -/
  whole : bytesPerFrame ∣ s.pcmBytes.length
  /-- "Error storing samples in PCM ring buffer!!!" was never printed. -/
  stored : ∀ data status, Call.ringWrite .decodedAudio data status ∈ s.calls → status = 0
  frameSize : s.sbcFrameSize ≤ maxSbcFrameSize
  ready : P.ring.capacity s.sbcFrameRingBuffer ≠ 0 → Ready s

theorem conserved_initial : Conserved (Sink.initial P) where
  balance := by simp [Sink.initial, Sink.pcmBytes, pcmEpoch]
  whole := by simp [Sink.initial, Sink.pcmBytes]
  stored := by simp [Sink.initial]
  frameSize := Nat.zero_le _
  ready h := absurd P.ring.capacity_zero h

/-- Steps that leave the PCM ring alone and make foreign calls only. -/
theorem Conserved.of_foreign {s t : Sink P} {cs : List Call} (h : Conserved s) (hlog : Extends s t cs)
    (hf : ∀ c ∈ cs, c.IsForeign) (hpcm : t.pcmBytes = s.pcmBytes) (hsize : t.sbcFrameSize ≤ maxSbcFrameSize)
    (hready : P.ring.capacity t.sbcFrameRingBuffer ≠ 0 → Ready t) : Conserved t := by
  refine ⟨?_, ?_, fun data status hm => ?_, hsize, hready⟩
  · rw [pcmEpoch_foreign hlog hf, hpcm]; exact h.balance
  · rw [hpcm]; exact h.whole
  · rw [hlog, List.mem_append] at hm
    rcases hm with hm | hm
    · exact h.stored data status hm
    · exact absurd (hf _ hm) id

/-- A reset of the PCM ring starts a fresh account. -/
theorem Conserved.of_reset {s t : Sink P} {cs : List Call} (h : Conserved s) (hlog : Extends s t cs)
    (hreset : cs.foldl PcmEpoch.record (pcmEpoch s.calls) = ⟨[], []⟩)
    (hno : ∀ data status, Call.ringWrite .decodedAudio data status ∉ cs) (hpcm : t.pcmBytes = [])
    (hsize : t.sbcFrameSize ≤ maxSbcFrameSize)
    (hready : P.ring.capacity t.sbcFrameRingBuffer ≠ 0 → Ready t) : Conserved t := by
  refine ⟨?_, ?_, fun data status hm => ?_, hsize, hready⟩
  · rw [pcmEpoch_extends hlog, hreset, hpcm]; rfl
  · rw [hpcm]; simp
  · rw [hlog, List.mem_append] at hm
    rcases hm with hm | hm
    · exact h.stored data status hm
    · exact absurd hm (hno data status)

/-! ## The promise on events -/

/-- Media packets yield a frame size between 1 and `MAX_SBC_FRAME_SIZE`; the stream is started in stereo. -/
def StereoWellFormed (s : Sink P) : SinkEvent → Prop
  | .media packet _ => ∀ sbcHeader payload, mediaPayload P packet = some (sbcHeader, payload) →
    1 ≤ sbcHeader.numFrames ∧ 1 ≤ payload.length / sbcHeader.numFrames ∧
      payload.length / sbcHeader.numFrames ≤ maxSbcFrameSize
  | .a2dp .streamStarted => s.a2dpConnection.sbcConfiguration.numChannels = 2
  | _ => True

/-- Two frames of six bytes. -/
theorem stereoWellFormed_twoFrames (s : Sink (.reference true)) :
    StereoWellFormed s (.media (MediaPacket.plain 2 (List.replicate 12 7)).bytes .nominal) := by
  rintro sbcHeader payload ⟨⟩
  decide

/-! ## A2DP events and media packets -/

theorem a2dp_conserved {e : A2dpEvent} {s t : Sink P} (hok : StereoWellFormed s (.a2dp e)) (hs : Conserved s)
    (h : a2dpSinkPacketHandler e s = .ok t) : Conserved t := by
  refine a2dpSinkPacketHandler_rule h ?_ ?_ ?_ ?_ hs
  · intro u connection addr hu
    refine ⟨hu.balance, hu.whole, hu.stored, hu.frameSize, fun hc => ?_⟩
    obtain ⟨h1, h2, h3⟩ := hu.ready hc
    exact ⟨h1, h2, h3⟩
  · rintro u rfl hconf hu
    by_cases hm : u.mediaInitialized
    · rw [mediaProcessingInit_of_initialized hm]; exact hu
    · simp only [mediaProcessingInit, hm, Bool.false_eq_true, if_false]
      have hch : u.a2dpConnection.sbcConfiguration.numChannels = 2 := by rw [hconf]; exact hok
      refine hu.of_reset rfl ?_ ?_ (by simp [Sink.pcmBytes]) hu.frameSize fun _ => ⟨rfl, ?_, by simp⟩
      · unfold mediaProcessingInitCalls wavCalls audioCalls
        split <;> split <;> rfl
      · intro data status
        unfold mediaProcessingInitCalls wavCalls audioCalls
        split <;> split <;> simp
      · simp [hch]
  · intro u hu
    by_cases hm : u.mediaInitialized
    · simp only [mediaProcessingPause, hm, Bool.not_true, Bool.false_eq_true, if_false]
      refine hu.of_reset (List.append_assoc _ _ _) ?_ ?_ (by simp [Sink.pcmBytes]) hu.frameSize fun hc => ?_
      · unfold audioCalls
        split <;> rfl
      · intro data status
        unfold audioCalls
        split <;> simp
      · have hr := hu.ready (by simpa using hc)
        exact ⟨hr.1, hr.2, by simpa using hr.3⟩
    · rw [mediaProcessingPause_of_closed (by simpa using hm)]; exact hu
  · intro u hu
    by_cases hm : u.mediaInitialized
    · simp only [mediaProcessingClose, hm, Bool.not_true, Bool.false_eq_true, if_false]
      refine hu.of_foreign (List.append_assoc _ _ _) ?_ rfl (Nat.zero_le _) fun hc => ?_
      · unfold wavCalls audioCalls
        intro c hc
        split at hc <;> split at hc <;> simp_all <;> rcases hc with rfl | rfl | rfl <;> trivial
      · have hr := hu.ready hc
        exact ⟨hr.1, hr.2, hr.3⟩
    · rw [mediaProcessingClose_of_closed (by simpa using hm)]; exact hu

theorem media_conserved (hsink : P.audioSink = true) {packet : List UInt8} {now : Readings} {s t : Sink P}
    (hok : StereoWellFormed s (.media packet now)) (hs : Conserved s)
    (h : handleL2capMediaDataPacket packet now s = .ok t) : Conserved t := by
  rcases handleL2capMediaDataPacket_cases h with ⟨-, rfl⟩ | ⟨hd, payload, hp, hq⟩
  · exact hs
  · rcases hq with ⟨hno, -⟩ | ⟨-, hq⟩
    · rw [hsink] at hno; cases hno
    · obtain ⟨-, -, hle⟩ := hok hd payload hp
      obtain ⟨-, -, hsame, ds, cs, hds, hlog, hcs⟩ := queuePayload_spec hq
      refine hs.of_foreign hlog ?_ ?_ ?_ fun hc => ?_
      · intro c hc
        simp only [List.cons_append, List.mem_cons, List.mem_append] at hc
        rcases hc with rfl | hc | hc
        · trivial
        · exact (hds c hc).isForeign
        · rcases hcs with ⟨-, -, rfl⟩ | ⟨-, -, rfl⟩
          · exact startCalls_foreign c hc
          · cases hc
      · rw [Sink.pcmBytes, hsame.decodedAudioRingBuffer]; rfl
      · rw [hsame.sbcFrameSize]; exact hle
      · have hr := hs.ready (by rw [hsame.sbcFrameRingBuffer] at hc; simpa [writePayload] using hc)
        refine ⟨?_, ?_, ?_⟩
        · rw [hsame.sbcDecoderInstance]; exact hr.1
        · rw [hsame.channels]; exact hr.2
        · rw [hsame.decodedAudioRingBuffer]; exact hr.3

/-! ## While a request is served -/

/-- A request for the buffer `old`, `d0` having been delivered before it. -/
structure Serving (old d0 : List UInt8) (s : Sink P) : Prop where
  conserved : Conserved s
  request : RequestInv s
  /-- An unfilled request has emptied the PCM ring. -/
  room : s.requestFrames ≠ 0 → s.pcmBytes = []
  /-- The buffer has been filled from its start with what was delivered since. -/
  filled : ∃ w, s.requestMem = w ++ old.drop w.length ∧ w.length ≤ old.length ∧ s.requestBuffer = w.length ∧
    (pcmEpoch s.calls).delivered = d0 ++ w

theorem Serving.of_foreign {old d0 : List UInt8} {s t : Sink P} {cs : List Call} (h : Serving old d0 s)
    (hlog : Extends s t cs) (hf : ∀ c ∈ cs, c.IsForeign) (hsame : SameSession s t)
    (hpcm : t.decodedAudioRingBuffer = s.decodedAudioRingBuffer) (h1 : t.requestFrames = s.requestFrames)
    (h2 : t.requestBuffer = s.requestBuffer) (h3 : t.requestMem = s.requestMem) : Serving old d0 t := by
  have hbytes : t.pcmBytes = s.pcmBytes := by rw [Sink.pcmBytes, hpcm]
  refine ⟨h.conserved.of_foreign hlog hf hbytes ?_ fun hc => ?_, h.request.of_same h1 h2 h3, ?_, ?_⟩
  · rw [hsame.sbcFrameSize]; exact h.conserved.frameSize
  · exact (h.conserved.ready (by rw [← hsame.sbcCapacity]; exact hc)).of_same hsame
  · rw [h1, hbytes]; exact h.room
  · rw [h2, h3, pcmEpoch_foreign hlog hf]; exact h.filled

/-- What the resampler wrote splits into the copied part and the surplus. -/
theorem copied_append_surplus {b : PcmBlock} {s : Sink P} (hch : P.resampler.channels s.resampleInstance = 2) :
    copiedBytes b s ++ surplusBytes b s = int16Bytes (resampleBlock b s).2.1 := by
  have hlen : (int16Bytes (resampleBlock b s).2.1).length = (resampleBlock b s).2.2 * bytesPerFrame := by
    rw [length_int16Bytes, resampleBlock, P.resampler.length_block, hch, bytesPerFrame, numChannels]
    omega
  have hle : framesToCopy b s ≤ (resampleBlock b s).2.2 := Nat.min_le_left _ _
  have hmul := Nat.mul_le_mul_right bytesPerFrame hle
  unfold copiedBytes surplusBytes surplusFrames outputBuffer
  rw [Memory.load_written (by omega), Memory.load_written (by rw [Nat.sub_mul]; omega), List.drop_zero,
    List.take_of_length_le (l := (int16Bytes _).drop _) (Nat.le_of_eq (by rw [List.length_drop, hlen, Nat.sub_mul])),
    List.take_append_drop]

/-- The surplus of one block fits an empty ring. -/
theorem surplus_fits (h144 : P.AtMost144Frames) {b : PcmBlock} (hb : P.decoder.FrameBlock b) {s : Sink P}
    (hready : Ready s) : (surplusBytes b s).length ≤ P.ring.capacity s.decodedAudioRingBuffer := by
  have hframes : (resampleBlock b s).2.2 ≤ 128 + 16 := h144 b hb _
  rw [hready.pcmCapacity, length_surplusBytes, decodedAudioStorageSize]
  exact Nat.mul_le_mul_right _ (Nat.le_trans (Nat.sub_le _ _) hframes)

/-- Surplus that meets an empty ring, if it fits, becomes its contents. -/
theorem storeSurplus_empty {n : Nat} {surplus : List UInt8} {s : Sink P} (hempty : s.pcmBytes = [])
    (hlen : surplus.length = n * bytesPerFrame)
    (hfit : surplus.length ≤ P.ring.capacity s.decodedAudioRingBuffer) :
    (storeSurplus n surplus s).pcmBytes = surplus ∧
      pcmEpoch (storeSurplus n surplus s).calls = pcmEpoch s.calls ∧
      ∀ data status, Call.ringWrite .decodedAudio data status ∈ (storeSurplus n surplus s).calls →
        Call.ringWrite .decodedAudio data status ∈ s.calls ∨ status = 0 := by
  unfold storeSurplus
  by_cases hn : n = 0
  · have hnil : surplus = [] := List.eq_nil_of_length_eq_zero (by rw [hlen, hn, Nat.zero_mul])
    simp only [hn, if_true]
    exact ⟨by rw [hempty, hnil], trivial, fun data status h => Or.inl h⟩
  · have hcontents : P.ring.contents s.decodedAudioRingBuffer = [] := hempty
    have hst : (P.ring.write s.decodedAudioRingBuffer surplus).1 = 0 := by
      rw [P.ring.write_status, hcontents, List.length_nil]
      omega
    simp only [hn, if_false]
    refine ⟨?_, ?_, fun data status h => ?_⟩
    · rw [Sink.pcmBytes, P.ring.contents_write_ok hst, hcontents, List.nil_append]
    · simp [pcmEpoch, PcmEpoch.record]
    · simp only [hst, List.mem_append, List.mem_singleton, Call.ringWrite.injEq, true_and] at h
      rcases h with h | ⟨-, rfl⟩
      · exact Or.inl h
      · exact Or.inr rfl

/-- The copy of one callback, before the surplus is stored. -/
theorem advanceRequest_serving {old d0 : List UInt8} {b : PcmBlock} {mem : List UInt8} {s : Sink P}
    (h : Serving old d0 s)
    (hmem : Memory.store s.requestMem s.requestBuffer (copiedBytes b s) = some mem) :
    ∃ w, mem = w ++ old.drop w.length ∧ w.length ≤ old.length ∧
      (advanceRequest b mem s).requestBuffer = w.length ∧
      (pcmEpoch (advanceRequest b mem s).calls).delivered = d0 ++ w := by
  obtain ⟨w, hreq, hle, hbuf, hdel⟩ := h.filled
  have hc := h.request.framesToCopy_eq b
  have hfr := h.request.frontier
  have hlen : s.requestMem.length = old.length := by rw [hreq]; simp; omega
  have hmul : framesToCopy b s * bytesPerFrame ≤ s.requestFrames.toNat * bytesPerFrame :=
    Nat.mul_le_mul_right _ (by omega)
  have hcopied := length_copiedBytes b s
  rw [hreq, hbuf, Memory.store_frontier (by omega)] at hmem
  cases hmem
  refine ⟨w ++ copiedBytes b s, rfl, ?_, ?_, ?_⟩
  · rw [List.length_append]; omega
  · rw [List.length_append, hcopied, ← hbuf]
    simp only [advanceRequest, bytesPerFrame, numChannels]
    omega
  · simp only [advanceRequest, pcmEpoch, List.foldl_append, List.foldl_cons, List.foldl_nil, PcmEpoch.record]
    rw [← List.append_assoc, ← hdel]
    rfl

/-- **One PCM callback**: the copied part of the block is delivered, the surplus meets an empty ring. -/
theorem handlePcmData_serving (hsink : P.audioSink = true) (h144 : P.AtMost144Frames)
    {old d0 : List UInt8} {b : PcmBlock} (hb : P.decoder.FrameBlock b) {s : Sink P} (h : Serving old d0 s)
    (hready : Ready s) (hreq : s.requestFrames ≠ 0) : ∃ t, handlePcmData b s = .ok t ∧ Serving old d0 t := by
  have hch := hready.channels
  obtain ⟨mem, hmem, hok, hinv⟩ := handlePcmData_sink hsink h.request (fitsOutput h144 hb (Nat.le_of_eq hch))
  have hsplit := copied_append_surplus (b := b) hch
  have hfilled := advanceRequest_serving h hmem
  have hc := h.request.framesToCopy_eq b
  have hnonneg := h.request.nonneg
  have hempty := h.room hreq
  have hdel : (pcmEpoch s.calls).delivered = (pcmEpoch s.calls).produced := by
    rw [← h.conserved.balance, hempty, List.append_nil]
  obtain ⟨hbytes, hepoch, hstored⟩ := storeSurplus_empty (s := advanceRequest b mem s) hempty
    (length_surplusBytes b s) (surplus_fits h144 hb hready)
  obtain ⟨hr1, hr2, hr3⟩ := storeSurplus_request (surplusFrames b s) (surplusBytes b s) (advanceRequest b mem s)
  have hsame := (handlePcmData_spec hok).1
  refine ⟨_, hok, ⟨?_, ?_, fun data status hm => ?_, ?_, fun _ => ?_⟩, hinv.of_same hr1 hr2 hr3,
    fun hne => ?_, ?_⟩
  · -- what was produced is delivered or in the ring
    rw [hbytes, hepoch]
    simp only [advanceRequest, pcmEpoch, List.foldl_append, List.foldl_cons, List.foldl_nil, PcmEpoch.record]
    change (_ ++ copiedBytes b s) ++ _ = _
    rw [List.append_assoc, hsplit]
    exact congrArg (· ++ _) hdel
  · rw [hbytes, length_surplusBytes]; exact Nat.dvd_mul_left _ _
  · rcases hstored data status hm with hm | hm
    · simp only [advanceRequest, List.mem_append, List.mem_cons, List.not_mem_nil, or_false, reduceCtorEq] at hm
      exact h.conserved.stored data status hm
    · exact hm
  · rw [hsame.sbcFrameSize]; exact h.conserved.frameSize
  · exact hready.of_same hsame
  · -- with the request still open, the whole block was copied
    have hc' : framesToCopy b s = (resampleBlock b s).2.2 := by
      rw [hr1] at hne
      simp only [advanceRequest] at hne
      omega
    rw [hbytes]
    exact List.eq_nil_of_length_eq_zero (by rw [length_surplusBytes, surplusFrames, hc', Nat.sub_self, Nat.zero_mul])
  · rw [hr2, hr3, hepoch]; exact hfilled

/-- A ring that holds bytes has been initialised. -/
theorem Conserved.ready_of_bytes {s : Sink P} (h : Conserved s) (hne : 0 < s.sbcBytes.length) : Ready s := by
  have hle := P.ring.contents_le s.sbcFrameRingBuffer
  exact h.ready (by change 0 < (P.ring.contents s.sbcFrameRingBuffer).length at hne; omega)

/-- One iteration of the decode loop: the read, the decode call and at most one callback. -/
theorem decodeFrame_serving (hsink : P.audioSink = true) (hone : P.decoder.AtMostOneCallback)
    (h144 : P.AtMost144Frames) {old d0 : List UInt8} {s : Sink P} (h : Serving old d0 s)
    (hsize : s.sbcFrameSize ≠ 0) (hw : wantsFrame s = true) :
    ∃ t, decodeFrame s = .ok t ∧ Serving old d0 t ∧ t.sbcFrameSize ≠ 0 := by
  obtain ⟨hreq, hblock⟩ := wantsFrame_iff.1 hw
  have hready := h.conserved.ready_of_bytes (by omega)
  obtain ⟨hsame, -, hlog⟩ := frameRead_spec s
  have hread : Serving old d0 (frameRead s) := by
    refine h.of_foreign hlog (fun c hc => ?_) hsame rfl rfl rfl rfl
    simp only [List.mem_cons, List.not_mem_nil, or_false] at hc
    rcases hc with rfl | rfl <;> trivial
  rw [decodeFrame_eq h.conserved.frameSize hready.1]
  rcases frameBlocks_of_one hone h.conserved.frameSize with hb | ⟨b, hb⟩
  · rw [hb]
    exact ⟨_, rfl, hread, hsize⟩
  · have hblock := frameBlock_of_mem h.conserved.frameSize (hb ▸ List.mem_singleton_self b)
    obtain ⟨t, ht, hts⟩ := handlePcmData_serving hsink h144 hblock hread (hready.of_same hsame) hreq
    rw [hb]
    refine ⟨t, bind_returns.2 ⟨t, ht, rfl⟩, hts, ?_⟩
    rw [(handlePcmData_spec ht).1.sbcFrameSize]
    exact hsize

/-- What a request does to its buffer: silence, or the audio delivered to it from the start of the buffer. -/
def Filled (r : AudioRequest) (s t : Sink P) : Prop :=
  t.requestMem.length = r.buffer.length ∧
    ∃ w, (pcmEpoch t.calls).delivered = (pcmEpoch s.calls).delivered ++ w ∧
      ((s.sbcFrameSize = 0 ∧ w = [] ∧ t.requestMem = List.replicate r.buffer.length 0) ∨
        (s.sbcFrameSize ≠ 0 ∧ t.requestMem = w ++ r.buffer.drop w.length))

/-- After the PCM ring a request is being served. -/
theorem fillFromPcmRing_serving {r : AudioRequest} {s u : Sink P} (hs : Conserved s)
    (h : fillFromPcmRing r s = .ok u) : Serving r.buffer (pcmEpoch s.calls).delivered u := by
  have hinv := fillFromPcmRing_requestInv h hs.whole
  obtain ⟨hsame, hsbc, hpcm, hmem, hbuf, hfr, hlog⟩ := fillFromPcmRing_spec h
  have hfrom := r.length_fromRing s
  have hbuflen := r.length_buffer
  have hwhole := hs.whole
  have hepoch : pcmEpoch u.calls =
      { pcmEpoch s.calls with delivered := (pcmEpoch s.calls).delivered ++ r.fromRing s } := pcmEpoch_extends hlog
  refine ⟨⟨?_, ?_, fun data status hm => ?_, ?_, fun hc => ?_⟩, hinv, fun hne => ?_, r.fromRing s, hmem, ?_, ?_, ?_⟩
  · rw [hepoch, hpcm, List.append_assoc, AudioRequest.fromRing, List.take_append_drop]
    exact hs.balance
  · rw [hpcm, List.length_drop]
    exact Nat.dvd_sub hwhole (Nat.dvd_mul_left _ _)
  · rw [hlog] at hm
    simp only [List.mem_append, List.mem_singleton, reduceCtorEq, or_false] at hm
    exact hs.stored data status hm
  · rw [hsame.sbcFrameSize]; exact hs.frameSize
  · have hr := hs.ready (by rw [← hsame.sbcCapacity]; exact hc)
    exact ⟨hsame.sbcDecoderInstance.trans hr.1, hsame.channels.trans hr.2, hsame.pcmCapacity.trans hr.3⟩
  · -- the ring could not fill the request, so it was read empty
    rw [hfr] at hne
    rw [hpcm]
    refine List.drop_eq_nil_of_le ?_
    simp only [bytesPerFrame, numChannels] at *
    omega
  · omega
  · rw [hbuf]
    simp only [bytesPerFrame, numChannels] at *
    omega
  · rw [hepoch]

theorem writeWav_serving {old d0 : List UInt8} {r : AudioRequest} {n : Nat} {s : Sink P} (hs : Serving old d0 s) :
    Serving old d0 (writeWav r n s) := by
  unfold writeWav
  split
  · refine hs.of_foreign rfl ?_ ⟨rfl, rfl, rfl, rfl, rfl, rfl, rfl, rfl, rfl⟩ rfl rfl rfl rfl
    simp [Call.IsForeign]
  · exact hs

/-- **One playback request**: it returns, fills its buffer and nothing else, and conserves the audio. -/
theorem playbackHandler_conserved (hsink : P.audioSink = true) (hone : P.decoder.AtMostOneCallback)
    (h144 : P.AtMost144Frames) (r : AudioRequest) {s : Sink P} (hs : Conserved s) :
    ∃ t, playbackHandler r s = .ok t ∧ Conserved t ∧ Filled r s t := by
  unfold playbackHandler
  by_cases hsize : s.sbcFrameSize = 0
  · rw [if_pos hsize]
    refine ⟨_, rfl, hs.of_foreign rfl (by simp [Call.IsForeign]) rfl hs.frameSize fun hc => ?_, ?_, [], ?_, ?_⟩
    · exact ⟨(hs.ready hc).1, (hs.ready hc).2, (hs.ready hc).3⟩
    · simp [r.length_buffer]
    · simp [pcmEpoch, PcmEpoch.record]
    · exact Or.inl ⟨hsize, rfl, by rw [r.length_buffer]⟩
  · rw [if_neg hsize]
    obtain ⟨u, hu⟩ := fillFromPcmRing_returns r s
    have hserving := fillFromPcmRing_serving hs hu
    have hsize' : u.sbcFrameSize ≠ 0 := by rw [(fillFromPcmRing_spec hu).1.sbcFrameSize]; exact hsize
    obtain ⟨t, ht, hts, -⟩ := decodeLoop_total
      (I := fun v => Serving r.buffer (pcmEpoch s.calls).delivered v ∧ v.sbcFrameSize ≠ 0)
      (fun v hv hw => decodeFrame_serving hsink hone h144 hv.1 hv.2 hw)
      (P.ring.available u.sbcFrameRingBuffer) ⟨hserving, hsize'⟩
    have hbuflen := r.length_buffer
    obtain ⟨hc, -, -, w, hw, hwlen, -, hdel⟩ := writeWav_serving (r := r) (n := u.requestFrames.toNat) hts
    refine ⟨_, bind_returns.2 ⟨u, hu, bind_returns.2 ⟨t, ht, rfl⟩⟩, hc, ?_, w, hdel, ?_⟩
    · rw [hw, List.length_append, List.length_drop]
      omega
    · exact Or.inr ⟨hsize, hw⟩

/-! ## Runs -/

theorem run_conserved (hsink : P.audioSink = true) (hone : P.decoder.AtMostOneCallback)
    (h144 : P.AtMost144Frames) {es : List SinkEvent} {s : Sink P} (h : RunsTo StereoWellFormed es s) :
    Conserved s := by
  refine Run.inv ?_ h conserved_initial
  intro s e t hs hok he
  cases e with
  | a2dp e => exact a2dp_conserved hok hs he
  | media packet now => exact media_conserved hsink hok hs he
  | playback r =>
    obtain ⟨t', ht', hc, -⟩ := playbackHandler_conserved hsink hone h144 r hs
    rw [show playbackHandler r s = .ok t from he] at ht'
    cases ht'
    exact hc

/-- **PCM conservation**: what requests were given, followed by the PCM ring, is what the resampler produced; no
write to that ring ever failed; it holds whole frames; and every request returns, takes no more frames off the
ring than it asked for, and writes inside its own buffer. -/
theorem pcm_conservation (hsink : P.audioSink = true) (hone : P.decoder.AtMostOneCallback)
    (h144 : P.AtMost144Frames) {es : List SinkEvent} {s : Sink P} (h : RunsTo StereoWellFormed es s) :
    (pcmEpoch s.calls).delivered ++ s.pcmBytes = (pcmEpoch s.calls).produced ∧
      (∀ data status, Call.ringWrite .decodedAudio data status ∈ s.calls → status = 0) ∧
      bytesPerFrame ∣ s.pcmBytes.length ∧
      ∀ r : AudioRequest, (r.fromRing s).length / bytesPerFrame ≤ r.numAudioFrames.toNat ∧
        ∃ t, playbackHandler r s = .ok t ∧ Filled r s t := by
  have hs := run_conserved hsink hone h144 h
  refine ⟨hs.balance, hs.stored, hs.whole, fun r => ⟨?_, ?_⟩⟩
  · have hlen := r.length_fromRing s
    simp only [bytesPerFrame, numChannels] at *
    omega
  · obtain ⟨t, ht, -, hfilled⟩ := playbackHandler_conserved hsink hone h144 r hs
    exact ⟨t, ht, hfilled⟩

/-- The sample run is one of a stereo stream with well-formed packets. -/
theorem pcm_conservation_sampleRun :
    ∃ s : Sink (.reference true), RunsTo StereoWellFormed sampleRun s ∧
      (pcmEpoch s.calls).delivered ++ s.pcmBytes = (pcmEpoch s.calls).produced ∧
        (∀ data status, Call.ringWrite .decodedAudio data status ∈ s.calls → status = 0) ∧
        bytesPerFrame ∣ s.pcmBytes.length ∧
        ∀ r : AudioRequest, (r.fromRing s).length / bytesPerFrame ≤ r.numAudioFrames.toNat ∧
          ∃ t, playbackHandler r s = .ok t ∧ Filled r s t := by
  obtain ⟨s, hs⟩ : ∃ s : Sink (.reference true), RunsTo StereoWellFormed sampleRun s :=
    ⟨_, .cons trivial rfl (.cons rfl rfl (.cons (stereoWellFormed_twoFrames _) rfl (.cons trivial rfl (.nil _))))⟩
  exact ⟨s, hs, pcm_conservation rfl SbcDecoder.reference_atMostOneCallback
    (Platform.reference_atMost144Frames true) hs⟩

end BtstackPort
