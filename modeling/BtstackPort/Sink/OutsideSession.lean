import BtstackPort.Sink.PacketHandler
/-!
# Media packets outside a session

`media_processing_start`, `pause` and `close` return at once while `media_initialized` is clear;
`handle_l2cap_media_data_packet` does not look at it. `ignored_iff` says which packets it nevertheless leaves
without effect: those that fail a header check, and (with an audio sink) those that repeat the stored frame size
and do not fit into the ring.
-/

namespace BtstackPort

variable {P : Platform}

/-- The decoder, or the WAV writer behind its callback. -/
def Call.IsDecoding : Call → Prop
  | .decode .. | .wavWrite .. => True
  | _ => False

/-- A packet that was ignored on the way from `s` to `t`. -/
structure Ignored (s t : Sink P) : Prop where
  sbcFrameSize : t.sbcFrameSize = s.sbcFrameSize
  audioStreamStarted : t.audioStreamStarted = s.audioStreamStarted
  sbcBytes : t.sbcBytes = s.sbcBytes
  pcmBytes : t.pcmBytes = s.pcmBytes
  quiet : ∃ cs, Extends s t cs ∧ ∀ c ∈ cs, ¬ c.IsDecoding

theorem Ignored.refl (s : Sink P) : Ignored s s := ⟨rfl, rfl, rfl, rfl, [], by simp [Extends], by simp⟩

theorem Call.IsDrift.not_isDecoding {c : Call} (h : c.IsDrift) : ¬ c.IsDecoding := by
  cases c <;> simp_all [Call.IsDrift, Call.IsDecoding]

/-- Without an audio sink the payload goes to the decoder at once. -/
theorem decodeSigned16_not_ignored {payload : List UInt8} {s t : Sink P} (h : decodeSigned16 payload s = .ok t) :
    ¬ Ignored s t := by
  intro hi
  obtain ⟨-, -, cs, hlog, -⟩ := decodeSigned16_spec h
  obtain ⟨ds, hlog', hquiet⟩ := hi.quiet
  apply hquiet (.decode payload)
  · rw [hlog'.unique hlog]; exact List.mem_cons_self
  · trivial

/-- With an audio sink, a packet that comes through outside a session has no effect exactly when it repeats the
frame size and finds no room. -/
theorem queuePayload_ignored_iff {sbcHeader : AvdtpSbcCodecHeader} {payload : List UInt8} {now : Readings}
    {s t : Sink P} (hm : s.mediaInitialized = false) (hne : payload ≠ [])
    (h : queuePayload sbcHeader payload now s = .ok t) :
    Ignored s t ↔ payload.length / sbcHeader.numFrames = s.sbcFrameSize ∧ ¬ s.HasRoom payload := by
  obtain ⟨-, -, hsame, ds, cs, hdrift, hlog, hstart⟩ := queuePayload_spec h
  have hbytes := queuePayload_bytes h
  have hsize : t.sbcFrameSize = payload.length / sbcHeader.numFrames := hsame.sbcFrameSize
  constructor
  · intro hi
    refine ⟨by rw [← hsize]; exact hi.sbcFrameSize, fun hroom => hne ?_⟩
    rw [if_pos hroom, hi.sbcBytes] at hbytes
    simpa using hbytes.symm
  · rintro ⟨hq, hroom⟩
    rw [if_neg hroom] at hbytes
    -- nothing can start while `media_initialized` is clear
    rcases hstart with ⟨hS, -⟩ | ⟨-, hst, rfl⟩
    · rw [hS.1] at hm; cases hm
    · refine ⟨by rw [hsize, hq], hst, hbytes, ?_, _, hlog, ?_⟩
      · rw [Sink.pcmBytes, hsame.decodedAudioRingBuffer]; rfl
      · intro c hc
        simp only [List.append_nil, List.mem_cons] at hc
        rcases hc with rfl | hc
        · exact id
        · exact (hdrift c hc).not_isDecoding

/-- **Media packets outside a session**: which of them are ignored, with or without an audio sink. -/
theorem ignored_iff {packet : List UInt8} {now : Readings} {s : Sink P} (hm : s.mediaInitialized = false) :
    (∃ t, handleL2capMediaDataPacket packet now s = .ok t ∧ Ignored s t) ↔
      ∀ sbcHeader payload, mediaPayload P packet = some (sbcHeader, payload) →
        P.audioSink = true ∧ sbcHeader.numFrames ≠ 0 ∧ sbcHeader.numFrames ≤ payload.length ∧
          payload.length / sbcHeader.numFrames = s.sbcFrameSize ∧ ¬ s.HasRoom payload := by
  unfold handleL2capMediaDataPacket
  cases hp : mediaPayload P packet with
  | none => exact ⟨fun _ => nofun, fun _ => ⟨s, rfl, .refl s⟩⟩
  | some x =>
    obtain ⟨sbcHeader, payload⟩ := x
    have hne := mediaPayload_ne_nil hp
    by_cases hsink : P.audioSink
    · simp only [hsink, Bool.not_true, Bool.false_eq_true, if_false, true_and]
      constructor
      · rintro ⟨t, ht, hi⟩ sbcHeader' payload' heq
        cases heq
        obtain ⟨hn, hle⟩ := queuePayload_returns.1 ⟨t, ht⟩
        exact ⟨hn, hle, (queuePayload_ignored_iff hm hne ht).1 hi⟩
      · intro h
        obtain ⟨hn, hle, hcond⟩ := h sbcHeader payload rfl
        obtain ⟨t, ht⟩ := queuePayload_returns.2 ⟨hn, hle⟩
        exact ⟨t, ht, (queuePayload_ignored_iff hm hne ht).2 hcond⟩
    · simp only [hsink, Bool.not_false, if_true, Bool.false_eq_true, false_and]
      constructor
      · rintro ⟨t, ht, hi⟩
        exact absurd hi (decodeSigned16_not_ignored ht)
      · intro h
        exact absurd (h sbcHeader payload rfl) id

/-- Before the first stream: a packet with two frames of 6 bytes. -/
theorem ignored_iff_initial :
    (∃ t, handleL2capMediaDataPacket (MediaPacket.plain 2 (List.replicate 12 7)).bytes .nominal
        (Sink.initial (.reference true)) = .ok t ∧ Ignored (Sink.initial (.reference true)) t) ↔
      ∀ sbcHeader payload,
        mediaPayload (.reference true) (MediaPacket.plain 2 (List.replicate 12 7)).bytes =
          some (sbcHeader, payload) →
        (Platform.reference true).audioSink = true ∧ sbcHeader.numFrames ≠ 0 ∧
          sbcHeader.numFrames ≤ payload.length ∧
          payload.length / sbcHeader.numFrames = (Sink.initial (.reference true)).sbcFrameSize ∧
          ¬ (Sink.initial (.reference true)).HasRoom payload :=
  ignored_iff rfl

/-- Outside a session, that packet changes the frame size; without an audio sink it calls through a null pointer,
or, after a released stream, makes the decoder write to the closed WAV file. -/
theorem outside_session_effects :
    (∃ t, handleL2capMediaDataPacket (MediaPacket.plain 2 (List.replicate 12 7)).bytes .nominal
        (Sink.initial (.reference true)) = .ok t ∧ t.sbcFrameSize = 6) ∧
      handleL2capMediaDataPacket (MediaPacket.plain 2 (List.replicate 12 7)).bytes .nominal
        (Sink.initial (.reference false)) = .error .nullDecoderInstance ∧
      ∃ s t : Sink (.reference false), RunsTo (fun _ _ => True) [.a2dp .streamStarted, .a2dp .streamReleased] s ∧
        s.mediaInitialized = false ∧ .wavClose ∈ s.calls ∧
        handleL2capMediaDataPacket (MediaPacket.plain 2 (List.replicate 12 7)).bytes .nominal s = .ok t ∧
        Extends s t [.decode (List.replicate 12 7), .wavWrite 2 [0, 0, 0, 0]] :=
  ⟨⟨_, rfl, rfl⟩, rfl, _, _, .cons trivial rfl (.cons trivial rfl (.nil _)), rfl,
    List.mem_of_getElem? (i := 4) rfl, rfl, rfl⟩

end BtstackPort
