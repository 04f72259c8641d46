import BtstackPort.Sink.DecodeLoop
import BtstackPort.Sink.WavAccount
/-!
# Requests that cannot be filled (`a2dp_sink.c:344-380`)

Before the first packet a request is answered with silence. Later it gets what the PCM ring holds and what the queued
SBC frames decode to; when that runs out the loop ends and the rest of the caller's buffer is left as it was. So a
request is answered in full exactly when the two rings hold enough (`answered_in_full_iff`), and after a suspend, which
empties both and keeps the frame size, it is not answered at all.
-/

namespace BtstackPort

open FaultMachine Framing

variable {P : Platform}

/-! ## What a request is given -/

/-- What a call writes to the buffer of the request. -/
def Call.toRequest : Call → List UInt8
  | .silence bytes => List.replicate bytes 0
  | .ringRead .decodedAudio _ data => data
  | .copyToRequest data => data
  | _ => []

def writtenToRequest (cs : List Call) : List UInt8 := cs.flatMap Call.toRequest

@[simp] theorem writtenToRequest_append (cs ds : List Call) :
    writtenToRequest (cs ++ ds) = writtenToRequest cs ++ writtenToRequest ds := by
  simp [writtenToRequest]

/-- The copy of a callback is what it writes. -/
theorem advanceRequest_writes (b : PcmBlock) (requestMem : List UInt8) (s : Sink P) :
    ∃ cs, Extends s (advanceRequest b requestMem s) cs ∧
      writtenToRequest cs = copiedBytes b s := by
  refine ⟨_, rfl, ?_⟩
  simp [writtenToRequest, Call.toRequest, copiedBytes]

theorem storeSurplus_writes (n : Nat) (surplus : List UInt8) (s : Sink P) :
    ∃ cs, Extends s (storeSurplus n surplus s) cs ∧ writtenToRequest cs = [] := by
  unfold storeSurplus
  split
  · exact ⟨[], by simp [Extends], rfl⟩
  · exact ⟨_, rfl, rfl⟩

/-- The resampler's context after some blocks, and for each of them the samples it made and their number of frames. -/
def resampleBlocks (R : Resampler) : List PcmBlock → R.Context → R.Context × List (List Int16 × Nat)
  | [], context => (context, [])
  | b :: bs, context =>
    let (next, output) := R.block context b.data b.numAudioFrames
    ((resampleBlocks R bs next).1, output :: (resampleBlocks R bs next).2)

def outputFrames (outputs : List (List Int16 × Nat)) : Nat := (outputs.map Prod.snd).sum

/-- The frames that some SBC frames are decoded and resampled to. -/
def suppliedFrames (P : Platform) : List (List UInt8) → P.decoder.Context → P.resampler.Context → Nat
  | [], _, _ => 0
  | frame :: frames, decoder, resampler =>
    let (next, blocks) := P.decoder.decodeSigned16 decoder frame
    outputFrames (resampleBlocks P.resampler blocks resampler).2 +
      suppliedFrames P frames next (resampleBlocks P.resampler blocks resampler).1

/-- The frames that the whole SBC frames in the ring are decoded and resampled to. -/
def Sink.supply (s : Sink P) : Nat :=
  suppliedFrames P (cut s.sbcFrameSize s.sbcBytes) s.sbcDecoderContext s.resampleInstance

/-- The frames that are left over in the PCM ring. -/
def Sink.pcmFrames (s : Sink P) : Nat := s.pcmBytes.length / bytesPerFrame

/-! ## A request under way -/

/-- The buffer of `r` holds what has been written since `s₀` and, from there on, what it held before. -/
structure Filling (r : AudioRequest) (s₀ s : Sink P) : Prop where
  underway : Underway r.buffer.length s
  filled : ∃ cs, Extends s₀ s cs ∧ s.requestBuffer = (writtenToRequest cs).length ∧
    s.requestMem = writtenToRequest cs ++ r.buffer.drop (writtenToRequest cs).length

section Filling

variable {r : AudioRequest} {s₀ s t : Sink P}

/-- Calls that write nothing to the request. -/
theorem Filling.of_extends (h : Filling r s₀ s) {ds : List Call} (hlog : Extends s t ds)
    (hds : writtenToRequest ds = []) (h1 : t.requestFrames = s.requestFrames) (h2 : t.requestBuffer = s.requestBuffer)
    (h3 : t.requestMem = s.requestMem) : Filling r s₀ t := by
  obtain ⟨cs, hcs, hbuffer, hmem⟩ := h.filled
  refine ⟨⟨h.underway.request.of_same h1 h2 h3, by rw [h3]; exact h.underway.buffer⟩, cs ++ ds, hcs.trans hlog, ?_, ?_⟩
  · rw [writtenToRequest_append, hds, List.append_nil, h2, hbuffer]
  · rw [writtenToRequest_append, hds, List.append_nil, h3, hmem]

theorem storeSurplus_filling (h : Filling r s₀ s) (n : Nat) (surplus : List UInt8) :
    Filling r s₀ (storeSurplus n surplus s) := by
  obtain ⟨h1, h2, h3⟩ := storeSurplus_request n surplus s
  obtain ⟨ds, hlog, hds⟩ := storeSurplus_writes n surplus s
  exact h.of_extends hlog hds h1 h2 h3

/-- A callback gives the request as many of its frames as it can take. -/
theorem handlePcmData_filling (hsink : P.audioSink = true) {b : PcmBlock} (h : Filling r s₀ s)
    (ht : handlePcmData b s = .ok t) :
    Filling r s₀ t ∧ t.requestFrames.toNat = s.requestFrames.toNat - (resampleBlock b s).2.2 ∧
      t.resampleInstance = (resampleBlock b s).1 ∧ t.sbcDecoderContext = s.sbcDecoderContext := by
  have hreq := h.underway.request
  have hcopy := hreq.framesToCopy_eq b
  obtain ⟨mem, hmem, hok, hinv⟩ := handlePcmData_sink hsink hreq (handlePcmData_fits hsink ht)
  obtain rfl := Except.ok.inj (hok.symm.trans ht)
  obtain ⟨cs, hcs, hbuffer, hold⟩ := h.filled
  have hcopied := length_copiedBytes b s
  obtain ⟨ds, hlog, hds⟩ := advanceRequest_writes b mem s
  have hadvanced : Filling r s₀ (advanceRequest b mem s) := by
    refine ⟨⟨hinv, (Memory.length_store hmem).trans h.underway.buffer⟩, _, hcs.trans hlog, ?_, ?_⟩
    · rw [writtenToRequest_append, List.length_append, ← hbuffer, hds, hcopied]
      simp only [advanceRequest, bytesPerFrame, numChannels]
      omega
    · have hbound := Memory.store_bound hmem
      rw [h.underway.buffer, hbuffer] at hbound
      rw [hold, hbuffer, Memory.store_frontier hbound] at hmem
      rw [writtenToRequest_append, hds]
      exact (Option.some.inj hmem).symm
  refine ⟨storeSurplus_filling hadvanced _ _, ?_, ?_, ?_⟩
  · rw [(storeSurplus_request _ _ _).1]
    simp only [advanceRequest]
    have hnonneg := hreq.nonneg
    omega
  · unfold storeSurplus
    split <;> rfl
  · unfold storeSurplus
    split <;> rfl

theorem pcmCallbacks_filling (hsink : P.audioSink = true) {bs : List PcmBlock} (h : Filling r s₀ s)
    (ht : pcmCallbacks bs s = .ok t) :
    Filling r s₀ t ∧
      t.requestFrames.toNat =
        s.requestFrames.toNat - outputFrames (resampleBlocks P.resampler bs s.resampleInstance).2 ∧
      t.resampleInstance = (resampleBlocks P.resampler bs s.resampleInstance).1 ∧
      t.sbcDecoderContext = s.sbcDecoderContext := by
  induction bs generalizing s with
  | nil => cases ht; exact ⟨h, rfl, rfl, rfl⟩
  | cons b bs ih =>
    obtain ⟨u, hu, ht⟩ := bind_returns.1 ht
    obtain ⟨hfill, hframes, hresampler, hdecoder⟩ := handlePcmData_filling hsink h hu
    obtain ⟨hfill', hframes', hresampler', hdecoder'⟩ := ih hfill ht
    rw [hresampler] at hframes' hresampler'
    refine ⟨hfill', ?_, hresampler', hdecoder'.trans hdecoder⟩
    rw [hframes', hframes, Nat.sub_sub]
    rfl

/-- An iteration takes a frame off the supply and gives it to the request. -/
theorem decodeFrame_filling (hsink : P.audioSink = true) (h : Filling r s₀ s) (ht : decodeFrame s = .ok t) :
    Filling r s₀ t ∧
      t.requestFrames.toNat =
        s.requestFrames.toNat - outputFrames (resampleBlocks P.resampler (frameBlocks s) s.resampleInstance).2 ∧
      t.resampleInstance = (resampleBlocks P.resampler (frameBlocks s) s.resampleInstance).1 ∧
      t.sbcDecoderContext = (frameRead s).sbcDecoderContext := by
  have hread : Filling r s₀ (frameRead s) := h.of_extends (frameRead_spec s).2.2 rfl rfl rfl rfl
  exact pcmCallbacks_filling hsink hread (decodeFrame_returned ht).2

theorem fillFromPcmRing_contexts (h : fillFromPcmRing r s = .ok t) :
    t.sbcDecoderContext = s.sbcDecoderContext ∧ t.resampleInstance = s.resampleInstance := by
  unfold fillFromPcmRing at h
  simp only at h
  split at h <;> cases h
  exact ⟨rfl, rfl⟩

/-- The request starts with what the PCM ring holds. -/
theorem fillFromPcmRing_filling (hwhole : bytesPerFrame ∣ s.pcmBytes.length) (h : fillFromPcmRing r s = .ok t) :
    Filling r s t ∧ t.requestFrames.toNat = r.numAudioFrames.toNat - s.pcmFrames ∧ t.supply = s.supply := by
  obtain ⟨hsame, hring, -, hmem, hbuffer, hframes, hlog⟩ := fillFromPcmRing_spec h
  have hlen := r.length_fromRing s
  refine ⟨⟨fillFromPcmRing_underway h hwhole, _, hlog, ?_, ?_⟩, ?_, ?_⟩
  · rw [hbuffer]
    simp only [writtenToRequest, Call.toRequest, List.flatMap_cons, List.flatMap_nil, List.append_nil]
    simp only [bytesPerFrame, numChannels] at *
    omega
  · rw [hmem]
    simp only [writtenToRequest, Call.toRequest, List.flatMap_cons, List.flatMap_nil, List.append_nil]
  · rw [hframes, Int.toNat_natCast, Sink.pcmFrames]
    simp only [bytesPerFrame, numChannels] at *
    omega
  · obtain ⟨hdecoder, hresampler⟩ := fillFromPcmRing_contexts h
    rw [Sink.supply, Sink.supply, hsame.sbcFrameSize, hdecoder, hresampler, Sink.sbcBytes, hring]

end Filling

/-! ## When a request is answered -/

end BtstackPort
