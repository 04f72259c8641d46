import BtstackPort.Lib.Reader
import BtstackPort.Sink.PcmConservation
import BtstackPort.Sink.Underrun
/-!
# Splitting a request (`a2dp_sink.c:356-374`, `a2dp_sink.c:408-429`)

The audio driver decides how many frames it asks for at a time. Seen from the caller's buffer a request is a read from
the SBC ring: the PCM ring is what an earlier read has left over, and one decode call delivers the next chunk
(`playbackHandler_reads`). The frames of a block that the request does not take are left over for the next one. So two
requests in a row into adjacent memory are one request for both, wherever the first one ends.
-/

namespace BtstackPort

open FaultMachine Framing ChunkedReader

variable {P : Platform}

/-! ## The SBC ring as a source -/

/-- What the next audio frames depend on. -/
structure SbcSource (P : Platform) where
  sbcBytes : List UInt8
  sbcDecoderContext : P.decoder.Context
  resampleInstance : P.resampler.Context

def Sink.source (s : Sink P) : SbcSource P := ⟨s.sbcBytes, s.sbcDecoderContext, s.resampleInstance⟩

def outputBytes (outputs : List (List Int16 × Nat)) : List UInt8 := outputs.flatMap fun output => int16Bytes output.1

/-- One block of `sbcFrameSize` bytes, decoded and resampled. -/
def SbcSource.next (sbcFrameSize : Nat) (source : SbcSource P) : Option (List UInt8 × SbcSource P) :=
  if source.sbcBytes.length < sbcFrameSize then none
  else
    let (decoder, blocks) := P.decoder.decodeSigned16 source.sbcDecoderContext (source.sbcBytes.take sbcFrameSize)
    let (resampler, outputs) := resampleBlocks P.resampler blocks source.resampleInstance
    some (outputBytes outputs, ⟨source.sbcBytes.drop sbcFrameSize, decoder, resampler⟩)

/-! ## A request as a read -/

/-- A request under way that started in `s₀`; an unfilled one has emptied the PCM ring. -/
structure Pulling (r : AudioRequest) (s₀ s : Sink P) : Prop where
  filling : Filling r s₀ s
  ready : Ready s
  room : s.requestFrames ≠ 0 → s.pcmBytes = []

section Pulling

variable {r : AudioRequest} {s₀ s t : Sink P}

/-- With the PCM ring empty, a block is divided between the request and the ring. -/
theorem handlePcmData_divides (hsink : P.audioSink = true) (h144 : P.AtMost144Frames) {b : PcmBlock}
    (hb : P.decoder.FrameBlock b) (hreq : RequestInv s) (hready : Ready s) (hempty : s.pcmBytes = [])
    (ht : handlePcmData b s = .ok t) :
    ∃ cs, Extends s t cs ∧ writtenToRequest cs ++ t.pcmBytes = int16Bytes (resampleBlock b s).2.1 ∧
      (writtenToRequest cs).length = framesToCopy b s * bytesPerFrame ∧
      t.pcmBytes.length = surplusFrames b s * bytesPerFrame := by
  obtain ⟨mem, -, hok, -⟩ := handlePcmData_sink hsink hreq (handlePcmData_fits hsink ht)
  obtain rfl := Except.ok.inj (hok.symm.trans ht)
  obtain ⟨hbytes, -, -⟩ := storeSurplus_empty (s := advanceRequest b mem s) hempty (length_surplusBytes b s)
    (surplus_fits h144 hb hready)
  obtain ⟨cs, hcs, hcopied⟩ := advanceRequest_writes b mem s
  obtain ⟨ds, hds, hnone⟩ := storeSurplus_writes (surplusFrames b s) (surplusBytes b s) (advanceRequest b mem s)
  refine ⟨_, hcs.trans hds, ?_, ?_, by rw [hbytes, length_surplusBytes]⟩
  · rw [writtenToRequest_append, hnone, hcopied, List.append_nil, hbytes]
    exact copied_append_surplus hready.channels
  · rw [writtenToRequest_append, hnone, hcopied, List.append_nil, length_copiedBytes]

/-- What one iteration takes from the source. -/
theorem decodeFrame_next (hsink : P.audioSink = true) (h : Filling r s₀ s) (hw : wantsFrame s = true)
    (ht : decodeFrame s = .ok t) :
    s.source.next s.sbcFrameSize =
      some (outputBytes (resampleBlocks P.resampler (frameBlocks s) s.resampleInstance).2, t.source) := by
  have hblock : ¬ s.source.sbcBytes.length < s.sbcFrameSize := Nat.not_lt.2 (wantsFrame_iff.1 hw).2
  obtain ⟨-, -, hresampler, hdecoder⟩ := decodeFrame_filling hsink h ht
  obtain ⟨-, -, hbytes, -⟩ := decodeFrame_spec ht
  rw [SbcSource.next, if_neg hblock, Sink.source, Sink.source, hbytes, hresampler, hdecoder]
  rfl

/-- **One iteration** pulls the next chunk, divides it and leaves the rest of the request. -/
theorem decodeFrame_pulls (hsink : P.audioSink = true) (hone : P.decoder.AtMostOneCallback)
    (h144 : P.AtMost144Frames) (h : Pulling r s₀ s) (hw : wantsFrame s = true) (ht : decodeFrame s = .ok t) :
    Pulling r s₀ t ∧ ∃ cs, Extends s t cs ∧
      s.source.next s.sbcFrameSize = some (writtenToRequest cs ++ t.pcmBytes, t.source) ∧
      (writtenToRequest cs).length + t.requestFrames.toNat * bytesPerFrame =
        s.requestFrames.toNat * bytesPerFrame := by
  obtain ⟨hopen, -⟩ := wantsFrame_iff.1 hw
  obtain ⟨hfill, hframes, -, -⟩ := decodeFrame_filling hsink h.filling ht
  have hsame := (decodeFrame_spec ht).2.1
  obtain ⟨hsameRead, -, hread⟩ := frameRead_spec s
  have hnext := decodeFrame_next hsink h.filling hw ht
  have hempty := h.room hopen
  obtain ⟨hsize, hcallbacks⟩ := decodeFrame_returned ht
  rcases frameBlocks_of_one hone hsize with hb | ⟨b, hb⟩
  · -- no callback: the chunk is empty and the request as it was
    rw [hb] at hcallbacks hnext hframes
    cases hcallbacks
    refine ⟨⟨hfill, h.ready.of_same hsame, fun _ => hempty⟩, _, hread, ?_, ?_⟩
    · rw [hnext]
      change some ([], _) = some ([] ++ s.pcmBytes, _)
      rw [hempty]
      rfl
    · exact Nat.zero_add _
  · have hblock := frameBlock_of_mem hsize (hb ▸ List.mem_singleton_self b)
    rw [hb] at hcallbacks hnext hframes
    obtain ⟨u, hu, hcallbacks⟩ := bind_returns.1 hcallbacks
    cases hcallbacks
    have hreq : RequestInv (frameRead s) := h.filling.underway.request.of_same rfl rfl rfl
    have hcopy := hreq.framesToCopy_eq b
    obtain ⟨cs, hcs, hall, hcopied, hrest⟩ :=
      handlePcmData_divides hsink h144 hblock hreq (h.ready.of_same hsameRead) hempty hu
    have hframes' : t.requestFrames.toNat = s.requestFrames.toNat - (resampleBlock b (frameRead s)).2.2 := hframes
    have hcopy' : framesToCopy b (frameRead s) = min (resampleBlock b (frameRead s)).2.2 s.requestFrames.toNat := hcopy
    refine ⟨⟨hfill, h.ready.of_same hsame, fun hne => ?_⟩, _, hread.trans hcs, ?_, ?_⟩
    · -- with the request still open, the whole block was copied
      have hnonneg := hfill.underway.request.nonneg
      apply List.eq_nil_of_length_eq_zero
      rw [hrest, surplusFrames, hcopy', Nat.min_eq_left (by omega), Nat.sub_self, Nat.zero_mul]
    · have hchunk : outputBytes (resampleBlocks P.resampler [b] s.resampleInstance).2 =
          int16Bytes (resampleBlock b (frameRead s)).2.1 := List.append_nil _
      rw [hnext, hchunk, writtenToRequest_append, ← hall]
      rfl
    · rw [writtenToRequest_append]
      change ([] ++ writtenToRequest cs).length + _ = _
      rw [List.nil_append, hcopied, hframes', hcopy', ← Nat.add_mul]
      congr 1
      omega

/-- **All iterations**: the loop reads what the request needs. -/
theorem decodeLoop_reads (hsink : P.audioSink = true) (hone : P.decoder.AtMostOneCallback)
    (h144 : P.AtMost144Frames) {n : Nat} (hit : DecodeIterations n s t) (hend : wantsFrame t = false)
    (h : Pulling r s₀ s) (hpos : 0 < s.sbcFrameSize) :
    Pulling r s₀ t ∧ ∃ cs, Extends s t cs ∧
      Reads (SbcSource.next s.sbcFrameSize) (s.requestFrames.toNat * bytesPerFrame) s.pcmBytes s.source
        (writtenToRequest cs) t.pcmBytes t.source := by
  induction hit with
  | zero s =>
    refine ⟨h, [], by simp [Extends], ?_⟩
    by_cases hfull : s.requestFrames = 0
    · rw [hfull]
      exact .enough (Nat.zero_le _)
    · -- the source is dry
      have hshort : s.sbcBytes.length < s.sbcFrameSize := by
        by_contra hblock
        rw [wantsFrame_iff.2 ⟨hfull, by omega⟩] at hend
        cases hend
      have hnonneg := h.filling.underway.request.nonneg
      rw [h.room hfull]
      refine .dry ?_ (if_pos hshort)
      simp only [List.length_nil, bytesPerFrame, numChannels]
      omega
  | succ hw hb _ ih =>
    rename_i s u t _
    obtain ⟨hpull, cs, hcs, hnext, hlen⟩ := decodeFrame_pulls hsink hone h144 h hw hb
    have hsize := (decodeFrame_spec hb).2.1.sbcFrameSize
    obtain ⟨hpull', ds, hds, hreads⟩ := ih hend hpull (by omega)
    obtain ⟨hopen, -⟩ := wantsFrame_iff.1 hw
    have hnonneg := h.filling.underway.request.nonneg
    rw [hsize] at hreads
    refine ⟨hpull', _, hcs.trans hds, ?_⟩
    rw [writtenToRequest_append, h.room hopen]
    refine .pull ?_ hnext ?_
    · simp only [List.length_nil, bytesPerFrame, numChannels]
      omega
    · rw [List.length_nil, Nat.sub_zero, ← hlen]
      exact hreads.prepend _

/-- A request first takes what the PCM ring holds. -/
theorem fillFromPcmRing_pulling (hready : Ready s) (hwhole : bytesPerFrame ∣ s.pcmBytes.length)
    (h : fillFromPcmRing r s = .ok t) :
    Pulling r s t ∧ Extends s t [.ringRead .decodedAudio (r.numAudioFrames.toNat * bytesPerFrame) (r.fromRing s)] ∧
      (r.fromRing s).length + t.requestFrames.toNat * bytesPerFrame = r.numAudioFrames.toNat * bytesPerFrame ∧
      r.fromRing s ++ t.pcmBytes = s.pcmBytes ∧ t.source = s.source := by
  obtain ⟨hsame, hring, hbytes, -, -, hframes, hlog⟩ := fillFromPcmRing_spec h
  obtain ⟨hdecoder, hresampler⟩ := fillFromPcmRing_contexts h
  have hlen := r.length_fromRing s
  refine ⟨⟨(fillFromPcmRing_filling hwhole h).1, hready.of_same hsame, fun hne => ?_⟩, hlog, ?_, ?_, ?_⟩
  · rw [hbytes]
    apply List.drop_eq_nil_of_le
    rw [hframes] at hne
    simp only [bytesPerFrame, numChannels] at *
    omega
  · rw [hframes, Int.toNat_natCast]
    simp only [bytesPerFrame, numChannels] at *
    omega
  · rw [hbytes]
    exact List.take_append_drop _ _
  · rw [Sink.source, Sink.source, hdecoder, hresampler, Sink.sbcBytes, hring]

/-- The WAV file gets what the caller got. -/
theorem writeWav_quiet (r : AudioRequest) (n : Nat) (s : Sink P) :
    ∃ cs, Extends s (writeWav r n s) cs ∧ writtenToRequest cs = [] ∧ (writeWav r n s).requestMem = s.requestMem ∧
      (writeWav r n s).pcmBytes = s.pcmBytes ∧ (writeWav r n s).source = s.source := by
  unfold writeWav
  split
  · exact ⟨[.wavWrite (r.numAudioFrames.toNat * numChannels) s.requestMem], rfl, rfl, rfl, rfl, rfl⟩
  · exact ⟨[], by simp [Extends], rfl, rfl, rfl, rfl⟩

/-- **A request is a read**: what it writes to the caller's buffer are the next audio frames, and the PCM ring keeps what
is left over. -/
theorem playbackHandler_pulls (hsink : P.audioSink = true) (hone : P.decoder.AtMostOneCallback)
    (h144 : P.AtMost144Frames) (hready : Ready s) (hpos : 0 < s.sbcFrameSize)
    (hwhole : bytesPerFrame ∣ s.pcmBytes.length) (h : playbackHandler r s = .ok t) :
    ∃ cs, Extends s t cs ∧ t.requestMem = writtenToRequest cs ++ r.buffer.drop (writtenToRequest cs).length ∧
      Reads (SbcSource.next s.sbcFrameSize) r.buffer.length s.pcmBytes s.source (writtenToRequest cs) t.pcmBytes
        t.source := by
  obtain ⟨u, n, v, hu, hit, hend, rfl⟩ := playbackHandler_returned hpos h
  obtain ⟨hpull, hlog, hlen, hleft, hsource⟩ := fillFromPcmRing_pulling hready hwhole hu
  have hsize := (fillFromPcmRing_spec hu).1.sbcFrameSize
  obtain ⟨hpull', cs, hcs, hreads⟩ := decodeLoop_reads hsink hone h144 hit hend hpull (by omega)
  obtain ⟨ds, hds, -, hmem⟩ := hpull'.filling.filled
  obtain rfl := hds.unique (hlog.trans hcs)
  have hwritten : writtenToRequest ([.ringRead .decodedAudio (r.numAudioFrames.toNat * bytesPerFrame) (r.fromRing s)] ++
      cs) = r.fromRing s ++ writtenToRequest cs := by
    rw [writtenToRequest_append]
    simp [writtenToRequest, Call.toRequest]
  have hall := hreads.prepend (r.fromRing s)
  rw [hlen, hleft, hsource, hsize, ← r.length_buffer, ← hwritten] at hall
  obtain ⟨ws, hws, hnone, hmem', hpcm, hsource'⟩ := writeWav_quiet r u.requestFrames.toNat v
  refine ⟨_, hds.trans hws, ?_, ?_⟩
  · rw [writtenToRequest_append, hnone, List.append_nil, hmem']
    exact hmem
  · rw [writtenToRequest_append, hnone, List.append_nil, hpcm, hsource']
    exact hall

theorem playbackHandler_reads (hsink : P.audioSink = true) (hone : P.decoder.AtMostOneCallback)
    (h144 : P.AtMost144Frames) (hready : Ready s) (hpos : 0 < s.sbcFrameSize)
    (hwhole : bytesPerFrame ∣ s.pcmBytes.length) (h : playbackHandler r s = .ok t) :
    ∃ out, t.requestMem = out ++ r.buffer.drop out.length ∧
      Reads (SbcSource.next s.sbcFrameSize) r.buffer.length s.pcmBytes s.source out t.pcmBytes t.source := by
  obtain ⟨cs, -, hmem, hreads⟩ := playbackHandler_pulls hsink hone h144 hready hpos hwhole h
  exact ⟨_, hmem, hreads⟩

end Pulling

/-! ## Two requests in a row -/

/-- A request for the buffers of `a` and `b`, which are adjacent. -/
def AudioRequest.joined (a b : AudioRequest) (h : a.numAudioFrames.toNat + b.numAudioFrames.toNat ≤ 65535) :
    AudioRequest where
  buffer := a.buffer ++ b.buffer
  numAudioFrames := a.numAudioFrames + b.numAudioFrames
  length_buffer := by
    rw [List.length_append, a.length_buffer, b.length_buffer, UInt16.toNat_add, Nat.mod_eq_of_lt (by omega), Nat.add_mul]

/-- What is written to two adjacent buffers, one after the other. A first buffer that is not filled leaves the second
one alone. -/
theorem written_adjacent {α : Type*} {w₁ w₂ a b : List α} (h : w₁.length = a.length ∨ w₁.length < a.length ∧ w₂ = []) :
    (w₁ ++ w₂) ++ (a ++ b).drop (w₁ ++ w₂).length = (w₁ ++ a.drop w₁.length) ++ (w₂ ++ b.drop w₂.length) := by
  rcases h with hfull | ⟨hshort, rfl⟩
  · rw [List.length_append, hfull, List.drop_append, List.drop_eq_nil_of_le (by omega), List.drop_length,
      Nat.add_sub_cancel_left]
    simp
  · rw [List.append_nil, List.drop_append, Nat.sub_eq_zero_of_le (by omega)]
    simp

/-- **Request splitting**: in a stereo pipeline that is set up, with a frame size that fits `sbc_frame` and whole frames
in the PCM ring, two requests in a row make the same decode calls and leave the same bytes in the buffers and in the two
rings as one request for both. -/
theorem request_splitting (hsink : P.audioSink = true) (hone : P.decoder.AtMostOneCallback)
    (h144 : P.AtMost144Frames) {s : Sink P} (hready : Ready s) (hpos : 1 ≤ s.sbcFrameSize)
    (hsize : s.sbcFrameSize ≤ maxSbcFrameSize) (hwhole : bytesPerFrame ∣ s.pcmBytes.length) (a b : AudioRequest)
    (hab : a.numAudioFrames.toNat + b.numAudioFrames.toNat ≤ 65535) :
    ∃ t₁ t₂ t cs₁ cs₂ cs, playbackHandler a s = .ok t₁ ∧ playbackHandler b t₁ = .ok t₂ ∧
      playbackHandler (a.joined b hab) s = .ok t ∧ Extends s t₁ cs₁ ∧ Extends t₁ t₂ cs₂ ∧ Extends s t cs ∧
      decodes cs₁ ++ decodes cs₂ = decodes cs ∧ t₁.requestMem ++ t₂.requestMem = t.requestMem ∧
      t₂.pcmBytes = t.pcmBytes ∧ t₂.sbcBytes = t.sbcBytes := by
  obtain ⟨t₁, h₁⟩ := playbackHandler_returns hsink h144 a hready.1 (Nat.le_of_eq hready.2) hsize hwhole
  obtain ⟨hsame₁, k₁, cs₁, hk₁, -, hbytes₁, hlog₁, -, hdecodes₁, -⟩ := playbackHandler_spec h₁
  have hready₁ := hready.of_same hsame₁
  have hwhole₁ := playbackHandler_whole h₁ hwhole
  have hsize₁ := hsame₁.sbcFrameSize
  obtain ⟨t₂, h₂⟩ := playbackHandler_returns hsink h144 b hready₁.1 (Nat.le_of_eq hready₁.2) (by omega) hwhole₁
  obtain ⟨-, k₂, cs₂, hk₂, -, hbytes₂, hlog₂, -, hdecodes₂, -⟩ := playbackHandler_spec h₂
  obtain ⟨t, h⟩ := playbackHandler_returns hsink h144 (a.joined b hab) hready.1 (Nat.le_of_eq hready.2) hsize hwhole
  obtain ⟨-, k, cs, hk, -, hbytes, hlog, -, hdecodes, -⟩ := playbackHandler_spec h
  obtain ⟨out₁, hmem₁, hreads₁⟩ := playbackHandler_reads hsink hone h144 hready hpos hwhole h₁
  obtain ⟨out₂, hmem₂, hreads₂⟩ := playbackHandler_reads hsink hone h144 hready₁ (by omega) hwhole₁ h₂
  obtain ⟨out, hmem, hreads⟩ := playbackHandler_reads hsink hone h144 hready hpos hwhole h
  rw [hsize₁] at hreads₂ hk₂ hbytes₂ hdecodes₂
  have hboth := hreads₁.append hreads₂
  rw [← List.length_append] at hboth
  obtain ⟨hout, hpcm, hsource⟩ := hboth.unique hreads
  have hsbc : t₂.sbcBytes = t.sbcBytes := congrArg SbcSource.sbcBytes hsource
  refine ⟨t₁, t₂, t, cs₁, cs₂, cs, h₁, h₂, h, hlog₁, hlog₂, hlog, ?_, ?_, hpcm, hsbc⟩
  · -- the same bytes are left, so as many blocks have been decoded
    have hcount : k₁ + k₂ = k := by
      have hlen := congrArg List.length hsbc
      rw [hbytes₂, hbytes₁, hbytes, List.drop_drop, List.length_drop, List.length_drop] at hlen
      rw [hbytes₁, List.length_drop] at hk₂
      refine Nat.eq_of_mul_eq_mul_right hpos ?_
      rw [Nat.add_mul]
      omega
    rw [hdecodes₁, hdecodes₂, hdecodes, hbytes₁, ← hcount, blocks_append]
  · rw [hmem₁, hmem₂, hmem, ← hout]
    refine (written_adjacent ?_).symm
    rcases hreads₁.full_or_dry with hfull | ⟨hshort, hrest, hdry⟩
    · exact Or.inl hfull
    · rw [hrest] at hreads₂
      exact Or.inr ⟨hshort, hreads₂.nil_of_dry hdry⟩

/-- Two frames of 6 bytes are queued, each one audio frame long; one frame is requested, and then three. -/
theorem request_splitting_twoFrames :
    ∃ s t₁ t₂ t : Sink (.reference true), ∃ cs₁ cs₂ cs,
      RunsTo (fun _ _ => True)
        [.a2dp (.mediaCodecSbcConfiguration .stereo44100), .a2dp .streamStarted,
          .media (MediaPacket.plain 2 (List.replicate 12 7)).bytes .nominal] s ∧
      playbackHandler (.blank 1) s = .ok t₁ ∧ playbackHandler (.blank 3) t₁ = .ok t₂ ∧
      playbackHandler ((AudioRequest.blank 1).joined (.blank 3) (by decide)) s = .ok t ∧
      Extends s t₁ cs₁ ∧ Extends t₁ t₂ cs₂ ∧ Extends s t cs ∧ decodes cs₁ ++ decodes cs₂ = decodes cs ∧
      t₁.requestMem ++ t₂.requestMem = t.requestMem ∧ t₂.pcmBytes = t.pcmBytes ∧ t₂.sbcBytes = t.sbcBytes := by
  obtain ⟨s, hs, hready, hsize, hwhole⟩ : ∃ s : Sink (.reference true),
      RunsTo (fun _ _ => True)
        [.a2dp (.mediaCodecSbcConfiguration .stereo44100), .a2dp .streamStarted,
          .media (MediaPacket.plain 2 (List.replicate 12 7)).bytes .nominal] s ∧
      Ready s ∧ s.sbcFrameSize = 6 ∧ bytesPerFrame ∣ s.pcmBytes.length :=
    ⟨_, .cons trivial rfl (.cons trivial rfl (.cons trivial rfl (.nil _))), ⟨rfl, rfl, rfl⟩, rfl, by decide⟩
  obtain ⟨t₁, t₂, t, cs₁, cs₂, cs, h⟩ :=
    request_splitting rfl SbcDecoder.reference_atMostOneCallback (Platform.reference_atMost144Frames true) hready
      (by omega) (by rw [hsize]; decide) hwhole (.blank 1) (.blank 3) (by decide)
  exact ⟨s, t₁, t₂, t, cs₁, cs₂, cs, hs, h⟩

end BtstackPort
