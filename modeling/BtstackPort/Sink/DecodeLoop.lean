import BtstackPort.Sink.Request
import BtstackPort.Sink.Session
/-!
# The decode loop of a request (`a2dp_sink.c:361-374`, `a2dp_sink.c:408-417`)

The loop ends when the request is full or the SBC ring runs out of blocks. Only the callback advances the request, and
the decoder may call it any number of times or not at all; what brings the loop to its end is the ring, which loses
`sbc_frame_size` bytes in every iteration. Whatever the decoder delivers, the request stays inside the caller's buffer.

The one thing the loop relies on is that a resampled block fits `output_buffer`, which is sized for the 128 frames of an
SBC frame and 16 more (`OutputFits`); a longer block is written past its end.
-/

namespace BtstackPort

open FaultMachine

variable {P : Platform}

/-- What the resampler makes of a block of one SBC frame, with the channels of `s`, fits `output_buffer`. -/
def OutputFits (s : Sink P) : Prop :=
  ∀ b, P.decoder.FrameBlock b → ∀ context,
    P.resampler.channels context = P.resampler.channels s.resampleInstance →
      (P.resampler.block context b.data b.numAudioFrames).2.2 * P.resampler.channels context ≤ (128 + 16) * numChannels

theorem OutputFits.fits {s : Sink P} (h : OutputFits s) {b : PcmBlock} (hb : P.decoder.FrameBlock b) :
    FitsOutput b s := by
  have hle := h b hb s.resampleInstance rfl
  unfold FitsOutput
  rw [length_int16Bytes, resampleBlock, P.resampler.length_block]
  simp only [outputBufferSize]
  omega

/-- The request under way, in a caller's buffer of `size` bytes. -/
structure Underway (size : Nat) (s : Sink P) : Prop where
  request : RequestInv s
  buffer : s.requestMem.length = size

/-- The request starts at what the PCM ring held. -/
theorem fillFromPcmRing_underway {r : AudioRequest} {s t : Sink P} (h : fillFromPcmRing r s = .ok t)
    (hwhole : bytesPerFrame ∣ s.pcmBytes.length) : Underway r.buffer.length t := by
  refine ⟨fillFromPcmRing_requestInv h hwhole, ?_⟩
  have hlen := r.length_fromRing s
  have hbuf := r.length_buffer
  rw [(fillFromPcmRing_spec h).2.2.2.1, List.length_append, List.length_drop]
  omega

theorem decodeFrame_underway {size : Nat} {s t : Sink P} (hs : Underway size s) (h : decodeFrame s = .ok t) :
    Underway size t := by
  refine pcmCallbacks_rule (I := Underway size) ?_ (decodeFrame_returned h).2
    ⟨hs.request.of_same rfl rfl rfl, hs.buffer⟩
  intro b u v hu hv
  obtain ⟨hinv, hmem⟩ := handlePcmData_requestInv hu.request hv
  exact ⟨hinv, hmem.trans hu.buffer⟩

/-- `n` iterations of the decode loop. -/
abbrev DecodeIterations (n : Nat) (s t : Sink P) : Prop := Iterates wantsFrame decodeFrame n s t

theorem DecodeIterations.underway {size n : Nat} {s t : Sink P} (h : DecodeIterations n s t) (hs : Underway size s) :
    Underway size t := by
  refine h.inv (I := Underway size) ?_ hs
  intro u v hu _ hv
  exact decodeFrame_underway hu hv

end BtstackPort
