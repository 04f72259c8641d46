import BtstackPort.Sink.Request
import BtstackPort.Sink.Session
/-!
# A change of the frame size while frames are queued

The SBC ring holds bytes, and `sbc_frame_size` is overwritten by every packet (`a2dp_sink.c:293`), also when
frames of another size are still queued. `size_change_iff`: the frames come out whole and in order exactly when
nothing was queued.
-/

namespace BtstackPort

open FaultMachine Framing

variable {P : Platform}

/-- Whatever is requested from `t` on, without new packets, the decoder gets `frames`, in order and whole. -/
def DecodesInOrder (frames : List (List UInt8)) (t : Sink P) : Prop :=
  ∀ (requests : List AudioRequest) (u : Sink P) (cs : List Call),
    Run step (fun _ _ => True) t (requests.map .playback) u → Extends t u cs → decodes cs <+: frames

/-- Any number of requests decode the first `k` blocks of the ring. -/
theorem playbacks_spec {requests : List AudioRequest} {s t : Sink P}
    (h : Run step (fun _ _ => True) s (requests.map .playback) t) :
    ∃ k cs, k * s.sbcFrameSize ≤ s.sbcBytes.length ∧ Extends s t cs ∧
      decodes cs = blocks s.sbcFrameSize k s.sbcBytes := by
  induction requests generalizing s with
  | nil =>
    cases h
    exact ⟨0, [], by simp, by simp [Extends], rfl⟩
  | cons r requests ih =>
    obtain - | ⟨-, hr, hrest⟩ := h
    obtain ⟨hsame, k, cs, hk, -, hbytes, hlog, -, hd, -⟩ := playbackHandler_spec hr
    obtain ⟨n, ds, hn, hlog', hd'⟩ := ih hrest
    rw [hsame.sbcFrameSize, hbytes] at hn hd'
    rw [List.length_drop] at hn
    refine ⟨k + n, cs ++ ds, ?_, hlog.trans hlog', ?_⟩
    · rw [Nat.add_mul]; omega
    · rw [decodes_append, hd, hd', blocks_append]

/-- `packet` brings the frames `arriving`, of `size2` bytes each, to a queue of frames of `size1` bytes, and is
accepted. -/
structure SizeChange (size1 size2 : Nat) (queued arriving : List (List UInt8)) (packet : List UInt8)
    (s t : Sink P) : Prop where
  queue : s.sbcBytes = queued.flatten
  queued_uniform : Uniform size1 queued
  size1_pos : 1 ≤ size1
  size1_le : size1 ≤ maxSbcFrameSize
  payload : ∃ sbcHeader, mediaPayload P packet = some (sbcHeader, arriving.flatten) ∧
    sbcHeader.numFrames = arriving.length
  arriving_uniform : Uniform size2 arriving
  arriving_pos : 1 ≤ arriving.length
  size2_pos : 1 ≤ size2
  size2_le : size2 ≤ maxSbcFrameSize
  different : size1 ≠ size2
  room : s.HasRoom arriving.flatten
  handled : ∃ now, handleL2capMediaDataPacket packet now s = .ok t

namespace SizeChange

variable {size1 size2 : Nat} {queued arriving : List (List UInt8)} {packet : List UInt8} {s t : Sink P}

/-- The new size applies to everything in the ring. -/
theorem spec (hsink : P.audioSink = true) (h : SizeChange size1 size2 queued arriving packet s t) :
    t.sbcFrameSize = size2 ∧ t.sbcBytes = (queued ++ arriving).flatten ∧
      P.resampler.channels t.resampleInstance = P.resampler.channels s.resampleInstance := by
  obtain ⟨sbcHeader, hp, hn⟩ := h.payload
  obtain ⟨now, hhandled⟩ := h.handled
  rcases handleL2capMediaDataPacket_cases hhandled with
    ⟨hnone, -⟩ | ⟨hd, payload, hsome, ⟨hno, -⟩ | ⟨-, hq⟩⟩
  · rw [hp] at hnone; cases hnone
  · rw [hsink] at hno; cases hno
  · rw [hp] at hsome
    cases hsome
    obtain ⟨-, -, hsame, -⟩ := queuePayload_spec hq
    refine ⟨?_, ?_, hsame.channels⟩
    · rw [hsame.sbcFrameSize]
      show arriving.flatten.length / sbcHeader.numFrames = _
      have hpos := h.arriving_pos
      rw [length_flatten_uniform h.arriving_uniform, hn, Nat.mul_div_cancel_left _ (by omega)]
    · rw [queuePayload_bytes hq, if_pos h.room, h.queue, List.flatten_append]

/-- With nothing queued, all blocks of the ring are arriving frames. -/
theorem decodesInOrder_of_empty (hsink : P.audioSink = true)
    (h : SizeChange size1 size2 [] arriving packet s t) : DecodesInOrder arriving t := by
  intro requests u cs hrun hlog
  obtain ⟨hsize, hbytes, -⟩ := h.spec hsink
  obtain ⟨k, ds, hk, hlog', hd⟩ := playbacks_spec hrun
  rw [hsize, hbytes, List.nil_append] at hk hd
  rw [length_flatten_uniform h.arriving_uniform] at hk
  have hpos := h.size2_pos
  have hk' : k ≤ arriving.length := Nat.le_of_mul_le_mul_right hk (by omega)
  rw [hlog.unique hlog', hd, blocks_flatten h.arriving_uniform hk']
  exact List.take_prefix k arriving

/-- With a frame queued, the first block a large request decodes has the wrong length. -/
theorem not_decodesInOrder_of_queued (hsink : P.audioSink = true) (h144 : P.AtMost144Frames)
    (hsession : Session s) (hch : P.resampler.channels s.resampleInstance ≤ 2)
    (h : SizeChange size1 size2 queued arriving packet s t) (hne : queued ≠ []) :
    ¬ DecodesInOrder (queued ++ arriving) t := by
  intro horder
  obtain ⟨hsize, hbytes, hchannels⟩ := h.spec hsink
  obtain ⟨now, hhandled⟩ := h.handled
  have ht : Session t := media_session hsession hhandled
  have hlen : size2 ≤ t.sbcBytes.length := by
    have hpos := h.arriving_pos
    have hmul : 1 * size2 ≤ arriving.length * size2 := Nat.mul_le_mul_right _ hpos
    rw [hbytes, List.flatten_append, List.length_append, length_flatten_uniform h.arriving_uniform]
    omega
  have hpos := h.size2_pos
  have hsetUp : SetUp t := ht.setUp_of_bytes fun h0 => by rw [h0, List.length_nil] at hlen; omega
  have hle2 := h.size2_le
  obtain ⟨u, hu⟩ := playbackHandler_returns hsink h144 largeRequest hsetUp.sbcDecoderInstance (by omega)
    (by omega) ht.whole
  obtain ⟨-, k, cs, -, -, -, hlog, -, hd, hfirst⟩ := playbackHandler_spec hu
  have hk : 0 < k := by
    have hsmall := ht.length_pcmBytes_le
    have hframes : largeRequest.numAudioFrames.toNat = 145 := rfl
    simp only [hframes, bytesPerFrame, numChannels, decodedAudioStorageSize] at *
    exact hfirst (by omega) (by omega) (by omega)
  have hpre := horder [largeRequest] u cs (.cons trivial hu (.nil u)) hlog
  obtain ⟨f, queued', rfl⟩ := List.exists_cons_of_ne_nil hne
  obtain ⟨n, rfl⟩ : ∃ n, k = n + 1 := ⟨k - 1, by omega⟩
  rw [hd, blocks, hsize, List.cons_append, List.cons_prefix_cons] at hpre
  have hf : f.length = size1 := h.queued_uniform f (by simp)
  have htake : (t.sbcBytes.take size2).length = size2 := by rw [List.length_take]; omega
  rw [hpre.1, hf] at htake
  exact h.different htake

end SizeChange

/-- **Frame-size change**: in a reachable state, the queued frames and then the arriving ones come out whole and in
order if and only if nothing was queued. -/
theorem size_change_iff (hsink : P.audioSink = true) (h144 : P.AtMost144Frames)
    {ok : Sink P → SinkEvent → Prop} {es : List SinkEvent} {s t : Sink P} (hrun : RunsTo ok es s)
    (hch : P.resampler.channels s.resampleInstance ≤ 2) {size1 size2 : Nat} {queued arriving : List (List UInt8)}
    {packet : List UInt8} (h : SizeChange size1 size2 queued arriving packet s t) :
    DecodesInOrder (queued ++ arriving) t ↔ queued = [] := by
  constructor
  · intro horder
    by_contra hne
    exact h.not_decodesInOrder_of_queued hsink h144 (run_session hrun) hch hne horder
  · rintro rfl
    exact h.decodesInOrder_of_empty hsink

/-- Two frames of 6 bytes of a stereo stream are queued when one of 12 arrives. -/
theorem size_change_iff_six_twelve :
    ∃ s t : Sink (.reference true),
      RunsTo (fun _ _ => True) queuedStream s ∧
      SizeChange 6 12 (List.replicate 2 (List.replicate 6 7)) [List.replicate 12 9]
        (MediaPacket.plain 1 (List.replicate 12 9)).bytes s t ∧
      (DecodesInOrder (List.replicate 2 (List.replicate 6 7) ++ [List.replicate 12 9]) t ↔
        List.replicate 2 (List.replicate 6 (7 : UInt8)) = []) := by
  obtain ⟨s, hs, t, hch, h⟩ : ∃ s : Sink (.reference true),
      RunsTo (fun _ _ => True) queuedStream s ∧
      ∃ t, Resampler.reference.channels s.resampleInstance ≤ 2 ∧
        SizeChange 6 12 (List.replicate 2 (List.replicate 6 7)) [List.replicate 12 9]
          (MediaPacket.plain 1 (List.replicate 12 9)).bytes s t :=
    ⟨_, .cons trivial rfl (.cons trivial rfl (.cons trivial rfl (.nil _))), _, Nat.le_refl 2, rfl, by decide,
      by decide, by decide, ⟨_, rfl, rfl⟩, by decide, by decide, by decide, by decide, by decide, by decide,
      .nominal, rfl⟩
  exact ⟨s, t, hs, h, size_change_iff (P := .reference true) rfl (Platform.reference_atMost144Frames true) hs hch h⟩

/-- There, the next request passes the two queued frames to the decoder as one. -/
theorem size_change_glues_frames :
    ∃ t u : Sink (.reference true),
      RunsTo (fun _ _ => True)
        (queuedStream ++ [.media (MediaPacket.plain 1 (List.replicate 12 9)).bytes .nominal]) t ∧
      playbackHandler (.blank 1) t = .ok u ∧ decodes t.calls = [] ∧ decodes u.calls = [List.replicate 12 7] ∧
      ¬ decodes u.calls <+: List.replicate 2 (List.replicate 6 7) ++ [List.replicate 12 9] :=
  ⟨_, _, .cons trivial rfl (.cons trivial rfl (.cons trivial rfl (.cons trivial rfl (.nil _)))), rfl, rfl, rfl,
    by decide⟩

end BtstackPort
