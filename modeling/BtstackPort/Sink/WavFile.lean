import BtstackPort.Sink.PacketHandler
/-!
# Writes to the WAV file

`wav_writer_write_int16` is called in two places. Without an audio sink `handle_pcm_data` writes every block that the
decoder has made (`a2dp_sink.c:403`), with one `playback_handler` writes the buffer of the request (`a2dp_sink.c:378`).
The first call states two samples for each frame of the block, whatever its channels: a mono block is read past its
end (`OverReads`).
-/

namespace BtstackPort

open FaultMachine

variable {P : Platform}

/-- The blocks that the decoder makes of a packet that is decoded right away. -/
def decodedBlocks (packet : List UInt8) (s : Sink P) : List PcmBlock :=
  match mediaPayload P packet with
  | none => []
  | some (_, payload) => (P.decoder.decodeSigned16 s.sbcDecoderContext payload).2

theorem decodedBlocks_of_none {packet : List UInt8} (h : mediaPayload P packet = none) (s : Sink P) :
    decodedBlocks packet s = [] := by
  unfold decodedBlocks
  rw [h]

theorem decodedBlocks_of_some {packet payload : List UInt8} {sbcHeader : AvdtpSbcCodecHeader}
    (h : mediaPayload P packet = some (sbcHeader, payload)) (s : Sink P) :
    decodedBlocks packet s = (P.decoder.decodeSigned16 s.sbcDecoderContext payload).2 := by
  unfold decodedBlocks
  rw [h]

/-- Calls that neither open nor write the WAV file. -/
def Call.IsOffFile : Call → Prop
  | .wavOpen .. | .wavWrite .. => False
  | _ => True

/-- The WAV writer is told of more samples than it is given. -/
def Call.OverReads : Call → Prop
  | .wavWrite samples data => data.length < 2 * samples
  | _ => False

theorem Call.IsOffFile.not_overReads {c : Call} (h : c.IsOffFile) : ¬ c.OverReads := by
  cases c <;> simp_all [Call.IsOffFile, Call.OverReads]

theorem Call.IsDrift.isOffFile {c : Call} (h : c.IsDrift) : c.IsOffFile := by
  cases c <;> simp_all [Call.IsDrift, Call.IsOffFile]

/-- The call that writes a block without an audio sink. -/
def blockWrite (b : PcmBlock) : Call := .wavWrite (b.numAudioFrames * numChannels) (int16Bytes b.data)

theorem blockWrite_overReads (b : PcmBlock) :
    (blockWrite b).OverReads ↔ b.data.length < b.numAudioFrames * numChannels := by
  simp only [blockWrite, Call.OverReads, length_int16Bytes]
  omega

section Steps

variable {s t : Sink P}

/-! ## Without an audio sink -/

/-- Every block is written, in order, and the decoder is left alone. -/
theorem pcmCallbacks_noSink (hno : P.audioSink = false) {bs : List PcmBlock} (h : pcmCallbacks bs s = .ok t) :
    Extends s t (wavCalls P (bs.map blockWrite)) ∧ t.sbcDecoderContext = s.sbcDecoderContext := by
  induction bs generalizing s with
  | nil =>
    cases h
    exact ⟨by simp [Extends, wavCalls], rfl⟩
  | cons b bs ih =>
    obtain ⟨u, hu, ht⟩ := bind_returns.1 h
    obtain ⟨hlog, hcontext⟩ := ih ht
    rcases handlePcmData_cases hu with ⟨-, hw, rfl⟩ | ⟨-, hw, rfl⟩ | ⟨hsink, -⟩
    · refine ⟨?_, hcontext⟩
      unfold Extends wavCalls at *
      rw [if_pos hw] at *
      simpa [blockWrite] using hlog
    · refine ⟨?_, hcontext⟩
      unfold Extends wavCalls at *
      rw [if_neg (by simp [hw])] at *
      exact hlog
    · rw [hno] at hsink
      cases hsink

/-- A packet that is decoded right away. -/
theorem decodeSigned16_noSink (hno : P.audioSink = false) {payload : List UInt8}
    (h : decodeSigned16 payload s = .ok t) :
    Extends s t (.decode payload ::
        wavCalls P ((P.decoder.decodeSigned16 s.sbcDecoderContext payload).2.map blockWrite)) ∧
      t.sbcDecoderContext = (P.decoder.decodeSigned16 s.sbcDecoderContext payload).1 := by
  unfold decodeSigned16 at h
  split at h
  · cases h
  · obtain ⟨hlog, hcontext⟩ := pcmCallbacks_noSink hno h
    exact ⟨by simpa [Extends] using hlog, hcontext⟩

/-- A decoder that has been set up serves every packet. -/
theorem decodeSigned16_returns_noSink (hno : P.audioSink = false) (hinst : s.sbcDecoderInstance = true)
    (payload : List UInt8) : ∃ t, decodeSigned16 payload s = .ok t := by
  have hcallback : ∀ b ∈ (P.decoder.decodeSigned16 s.sbcDecoderContext payload).2, ∀ u : Sink P, True →
      ∃ t, handlePcmData b u = .ok t ∧ True := by
    intro b _ u _
    unfold handlePcmData
    rw [if_pos (by simp [hno])]
    split <;> exact ⟨_, rfl, trivial⟩
  obtain ⟨t, ht, -⟩ := pcmCallbacks_total hcallback trivial
  exact ⟨t, by rw [decodeSigned16_of_instance hinst, ht]⟩

/-! ## With an audio sink -/

/-- What serving a request does to the file and to the size of the caller's buffer, until its end. -/
structure KeepsFile (s t : Sink P) : Prop where
  log : ∃ cs, Extends s t cs ∧ ∀ c ∈ cs, c.IsOffFile
  size : t.requestMem.length = s.requestMem.length

theorem KeepsFile.refl (s : Sink P) : KeepsFile s s := ⟨⟨[], by simp [Extends], by simp⟩, rfl⟩

theorem KeepsFile.trans {u : Sink P} (h : KeepsFile s t) (h' : KeepsFile t u) : KeepsFile s u := by
  obtain ⟨⟨cs, hlog, hcs⟩, hsize⟩ := h
  obtain ⟨⟨ds, hlog', hds⟩, hsize'⟩ := h'
  refine ⟨⟨cs ++ ds, hlog.trans hlog', fun c hc => ?_⟩, hsize'.trans hsize⟩
  rcases List.mem_append.1 hc with hc | hc
  · exact hcs c hc
  · exact hds c hc

theorem handlePcmData_keepsFile (hsink : P.audioSink = true) {b : PcmBlock} (h : handlePcmData b s = .ok t) :
    KeepsFile s t := by
  simp only [handlePcmData, hsink, Bool.not_true, Bool.false_eq_true, if_false] at h
  split at h
  · cases h
  · split at h
    · cases h
    · rename_i mem hmem
      cases h
      have hadvance : KeepsFile s (advanceRequest b mem s) :=
        ⟨⟨_, rfl, by simp [Call.IsOffFile]⟩, Memory.length_store hmem⟩
      refine hadvance.trans ?_
      unfold storeSurplus
      split
      · exact .refl _
      · exact ⟨⟨_, rfl, by simp [Call.IsOffFile]⟩, rfl⟩

theorem decodeFrame_keepsFile (hsink : P.audioSink = true) (h : decodeFrame s = .ok t) : KeepsFile s t := by
  have hread : KeepsFile s (frameRead s) := ⟨⟨_, (frameRead_spec s).2.2, by simp [Call.IsOffFile]⟩, rfl⟩
  refine pcmCallbacks_rule (I := KeepsFile s) ?_ (decodeFrame_returned h).2 hread
  intro b u v hu hv
  exact hu.trans (handlePcmData_keepsFile hsink hv)

theorem fillFromPcmRing_length {r : AudioRequest} (h : fillFromPcmRing r s = .ok t) :
    t.requestMem.length = r.buffer.length := by
  obtain ⟨-, -, -, hmem, -⟩ := fillFromPcmRing_spec h
  have hfrom := r.length_fromRing s
  have hbuffer := r.length_buffer
  rw [hmem, List.length_append, List.length_drop]
  omega

/-- **A request is written as a whole**, after everything else: as many samples as its buffer holds. -/
theorem playbackHandler_wav (hsink : P.audioSink = true) {r : AudioRequest} (hpos : 0 < s.sbcFrameSize)
    (h : playbackHandler r s = .ok t) :
    ∃ cs, Extends s t (cs ++ wavCalls P [.wavWrite (r.numAudioFrames.toNat * numChannels) t.requestMem]) ∧
      (∀ c ∈ cs, c.IsOffFile) ∧ t.requestMem.length = r.buffer.length := by
  obtain ⟨u, n, v, hu, hit, -, rfl⟩ := playbackHandler_returned hpos h
  have hfill := (fillFromPcmRing_spec hu).2.2.2.2.2.2
  obtain ⟨⟨cs, hlog, hcs⟩, hsize⟩ : KeepsFile u v :=
    hit.inv (I := KeepsFile u) (fun _ _ hw _ hx => hw.trans (decodeFrame_keepsFile hsink hx)) (.refl u)
  have hlength : (writeWav r u.requestFrames.toNat v).requestMem = v.requestMem := by
    unfold writeWav
    split <;> rfl
  refine ⟨[.ringRead .decodedAudio (r.numAudioFrames.toNat * bytesPerFrame) (r.fromRing s)] ++ cs, ?_, ?_, ?_⟩
  · have hwrite : Extends v (writeWav r u.requestFrames.toNat v)
        (wavCalls P [.wavWrite (r.numAudioFrames.toNat * numChannels) v.requestMem]) := by
      unfold writeWav wavCalls Extends
      split <;> simp
    rw [hlength]
    exact (hfill.trans hlog).trans hwrite
  · intro c hc
    rcases List.mem_append.1 hc with hc | hc
    · obtain rfl := List.mem_singleton.1 hc
      trivial
    · exact hcs c hc
  · rw [hlength, hsize, fillFromPcmRing_length hu]

/-- A packet for the SBC ring has nothing to do with the file. -/
theorem queuePayload_offFile {sbcHeader : AvdtpSbcCodecHeader} {payload : List UInt8} {now : Readings}
    (h : queuePayload sbcHeader payload now s = .ok t) : ∃ cs, Extends s t cs ∧ ∀ c ∈ cs, c.IsOffFile := by
  obtain ⟨-, -, -, ds, cs, hds, hlog, hcs⟩ := queuePayload_spec h
  refine ⟨_, hlog, fun c hc => ?_⟩
  rcases List.mem_append.1 hc with hc | hc
  · rcases List.mem_cons.1 hc with rfl | hc
    · trivial
    · exact (hds c hc).isOffFile
  · rcases hcs with ⟨-, -, rfl⟩ | ⟨-, -, rfl⟩
    · rcases mem_mediaProcessingStartCalls hc with rfl | rfl <;> trivial
    · cases hc

end Steps

end BtstackPort
