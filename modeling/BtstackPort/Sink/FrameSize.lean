import BtstackPort.Sink.Request
import BtstackPort.Sink.Session
/-!
# What a remote side can do to the frame size

`sbc_frame_size = packet_length / sbc_header.num_frames` trusts both numbers of the packet. Nothing bounds the
quotient by `MAX_SBC_FRAME_SIZE`, the size of the array a later request reads frames into
(`a2dp_sink.c:368`), and nothing keeps it, or the divisor, from being zero.

The results say exactly which packets do harm: `no_sbcFrame_overrun` for the array, `no_division_by_zero` for
the two divisions.
-/

namespace BtstackPort

open FaultMachine

variable {P : Platform}

/-! ## The array `sbc_frame` -/

/-- The decode loop does not run with a frame size above `MAX_SBC_FRAME_SIZE`. -/
def SafeFrameSize (s : Sink P) : Prop :=
  s.sbcFrameSize ≤ maxSbcFrameSize ∨ s.sbcBytes.length < s.sbcFrameSize

theorem handlePcmData_faults {b : PcmBlock} {s : Sink P} {f : Fault} (h : handlePcmData b s = .error f) :
    f = .outputBufferOverrun ∨ f = .requestOverrun := by
  unfold handlePcmData at h
  split at h
  · split at h <;> cases h
  · split at h
    · cases h; exact Or.inl rfl
    · simp only at h
      split at h
      · cases h; exact Or.inr rfl
      · cases h

theorem decodeSigned16_faults {buffer : List UInt8} {s : Sink P} {f : Fault}
    (h : decodeSigned16 buffer s = .error f) :
    f = .nullDecoderInstance ∨ f = .outputBufferOverrun ∨ f = .requestOverrun := by
  unfold decodeSigned16 at h
  split at h
  · cases h; exact Or.inl rfl
  · obtain ⟨b, -, u, -, hu⟩ := pcmCallbacks_faults (I := fun _ => True) (fun _ _ _ _ _ => trivial) h trivial
    exact Or.inr (handlePcmData_faults hu)

theorem decodeFrame_overrun {s : Sink P} {n : Nat} (h : decodeFrame s = .error (.sbcFrameOverrun n)) :
    maxSbcFrameSize < s.sbcFrameSize := by
  unfold decodeFrame at h
  split at h
  · rename_i hlt; exact hlt
  · rcases decodeSigned16_faults h with hf | hf | hf <;> cases hf

/-- The loop keeps the frame size and shortens the queue, so a safe size stays safe. -/
theorem decodeLoop_safe {fuel : Nat} {s : Sink P} (hs : SafeFrameSize s) (n : Nat) :
    decodeLoop fuel s ≠ .error (.sbcFrameOverrun n) := by
  intro h
  rw [decodeLoop_eq] at h
  obtain ⟨_, t, hit, hw, hf⟩ := whileLoop_faults h
  have ht : SafeFrameSize t := by
    refine hit.inv (I := SafeFrameSize) ?_ hs
    intro u v _ _ hv
    obtain ⟨hle, hsame, -⟩ := decodeFrame_spec hv
    exact Or.inl (by rw [hsame.sbcFrameSize]; exact hle)
  have hblock := (wantsFrame_iff.1 hw).2
  have hlt := decodeFrame_overrun hf
  unfold SafeFrameSize at ht
  omega

theorem playbackHandler_safe {s : Sink P} (hs : SafeFrameSize s) (r : AudioRequest) (n : Nat) :
    playbackHandler r s ≠ .error (.sbcFrameOverrun n) := by
  intro h
  unfold playbackHandler at h
  split at h
  · cases h
  · obtain ⟨u, hu⟩ := fillFromPcmRing_returns r s
    obtain ⟨hsame, hring, -⟩ := fillFromPcmRing_spec hu
    have hu' : SafeFrameSize u := by
      unfold SafeFrameSize
      rw [hsame.sbcFrameSize, Sink.sbcBytes, hring]
      exact hs
    rw [hu, ok_bind] at h
    rcases bind_faults.1 h with hf | ⟨v, -, hf⟩
    · exact decodeLoop_safe hu' n hf
    · cases hf

/-- With an unsafe size, a request that the PCM ring cannot fill overruns the array. -/
theorem playbackHandler_overruns {s : Sink P} (hs : Session s) (h : ¬ SafeFrameSize s) :
    playbackHandler largeRequest s = .error (.sbcFrameOverrun s.sbcFrameSize) := by
  obtain ⟨hlarge, hblock⟩ := not_or.1 h
  have hsmall := hs.length_pcmBytes_le
  obtain ⟨u, hu⟩ := fillFromPcmRing_returns largeRequest s
  obtain ⟨hsame, hring, -, -, -, hreq, -⟩ := fillFromPcmRing_spec hu
  have hlen := largeRequest.length_fromRing s
  have hframes : largeRequest.numAudioFrames.toNat = 145 := rfl
  have hbytes : u.sbcBytes = s.sbcBytes := by rw [Sink.sbcBytes, hring]
  have hw : wantsFrame u = true := by
    rw [wantsFrame_iff, hreq, hsame.sbcFrameSize, hbytes, hframes]
    simp only [bytesPerFrame, numChannels, decodedAudioStorageSize, hframes] at *
    omega
  have hfuel : ∃ fuel, P.ring.available u.sbcFrameRingBuffer = fuel + 1 := by
    refine Nat.exists_eq_succ_of_ne_zero ?_
    rw [P.ring.available_eq]
    change u.sbcBytes.length ≠ 0
    rw [hbytes]
    omega
  obtain ⟨fuel, hfuel⟩ := hfuel
  have hframe : decodeFrame u = .error (.sbcFrameOverrun s.sbcFrameSize) := by
    rw [decodeFrame, hsame.sbcFrameSize, if_pos (by omega)]
  rw [playbackHandler, if_neg (by omega), hu, ok_bind, hfuel, decodeLoop, if_pos hw, hframe]
  rfl

theorem safeFrameSize_iff {s : Sink P} (hs : Session s) :
    SafeFrameSize s ↔ ∀ r n, playbackHandler r s ≠ .error (.sbcFrameOverrun n) := by
  constructor
  · intro h r n
    exact playbackHandler_safe h r n
  · intro h
    by_contra hover
    exact h _ _ (playbackHandler_overruns hs hover)

/-- The packet's frames fit `sbc_frame`, or the packet is too large for the queue and more than it holds. -/
def ShortFrames (s : Sink P) : SinkEvent → Prop
  | .media packet _ => ∀ sbcHeader payload, mediaPayload P packet = some (sbcHeader, payload) →
    payload.length / sbcHeader.numFrames ≤ maxSbcFrameSize ∨
      (¬ s.HasRoom payload ∧ s.sbcBytes.length < payload.length / sbcHeader.numFrames)
  | _ => True

theorem safeFrameSize_initial : SafeFrameSize (Sink.initial P) := Or.inl (Nat.zero_le _)

theorem a2dp_safe {e : A2dpEvent} {s t : Sink P} (hs : SafeFrameSize s) (h : a2dpSinkPacketHandler e s = .ok t) :
    SafeFrameSize t := by
  -- a ring that has just been reset makes the loop run only with size 0
  have hempty : ∀ u : Sink P, u.sbcBytes = [] → SafeFrameSize u := by
    intro u hu
    unfold SafeFrameSize
    rw [hu, List.length_nil]
    omega
  refine a2dpSinkPacketHandler_rule h ?_ ?_ ?_ ?_ hs
  · intro u connection addr hu
    exact hu
  · intro u _ _ hu
    by_cases hm : u.mediaInitialized
    · rw [mediaProcessingInit_of_initialized hm]; exact hu
    · apply hempty
      simp [mediaProcessingInit, hm, Sink.sbcBytes]
  · intro u hu
    by_cases hm : u.mediaInitialized
    · apply hempty
      simp [mediaProcessingPause, hm, Sink.sbcBytes]
    · rw [mediaProcessingPause_of_closed (by simpa using hm)]; exact hu
  · intro u hu
    by_cases hm : u.mediaInitialized
    · left
      simp [mediaProcessingClose, hm]
    · rw [mediaProcessingClose_of_closed (by simpa using hm)]; exact hu

/-- A packet keeps the size safe exactly when it meets the condition. -/
theorem media_safe_iff (hsink : P.audioSink = true) {packet : List UInt8} {now : Readings} {s t : Sink P}
    (hs : SafeFrameSize s) (h : handleL2capMediaDataPacket packet now s = .ok t) :
    SafeFrameSize t ↔ ShortFrames s (.media packet now) := by
  rcases handleL2capMediaDataPacket_cases h with ⟨hnone, rfl⟩ | ⟨hd, payload, hp, ⟨hno, -⟩ | ⟨-, hq⟩⟩
  · have hvacuous : ShortFrames t (.media packet now) := by
      intro sbcHeader payload hsome
      rw [hnone] at hsome; cases hsome
    exact ⟨fun _ => hvacuous, fun _ => hs⟩
  · rw [hsink] at hno; cases hno
  · obtain ⟨hn, -, hsame, -⟩ := queuePayload_spec hq
    have hsize : t.sbcFrameSize = payload.length / hd.numFrames := hsame.sbcFrameSize
    have hbytes := queuePayload_bytes hq
    have hle := Nat.div_le_self payload.length hd.numFrames
    have hiff : SafeFrameSize t ↔ payload.length / hd.numFrames ≤ maxSbcFrameSize ∨
        (¬ s.HasRoom payload ∧ s.sbcBytes.length < payload.length / hd.numFrames) := by
      unfold SafeFrameSize
      rw [hsize, hbytes]
      by_cases hroom : s.HasRoom payload
      · rw [if_pos hroom, List.length_append]
        constructor
        · rintro (h1 | h1)
          · exact Or.inl h1
          · omega
        · rintro (h1 | ⟨h1, -⟩)
          · exact Or.inl h1
          · exact absurd hroom h1
      · rw [if_neg hroom]
        constructor
        · rintro (h1 | h1)
          · exact Or.inl h1
          · exact Or.inr ⟨hroom, h1⟩
        · rintro (h1 | ⟨-, h1⟩)
          · exact Or.inl h1
          · exact Or.inr h1
    rw [hiff]
    constructor
    · intro hcond sbcHeader payload' hsome
      rw [hp] at hsome
      cases hsome
      exact hcond
    · intro hshort
      exact hshort hd payload hp

theorem run_safe (hsink : P.audioSink = true) {es : List SinkEvent} {s : Sink P} (h : RunsTo ShortFrames es s) :
    SafeFrameSize s := by
  refine Run.inv ?_ h safeFrameSize_initial
  intro s e t hs hok he
  cases e with
  | a2dp e => exact a2dp_safe hs he
  | media packet now => exact (media_safe_iff hsink hs he).2 hok
  | playback r =>
    obtain ⟨hsame, k, cs, -, -, hbytes, -⟩ := playbackHandler_spec he
    unfold SafeFrameSize at *
    rw [hsame.sbcFrameSize, hbytes, List.length_drop]
    omega

/-- **No overrun of `sbc_frame`** in runs whose packets meet the condition; and a packet that does not, at the end
of such a run, leads to a state in which some request overruns it. -/
theorem no_sbcFrame_overrun (hsink : P.audioSink = true) {es : List SinkEvent} {s : Sink P}
    (h : RunsTo ShortFrames es s) :
    (∀ r n, playbackHandler r s ≠ .error (.sbcFrameOverrun n)) ∧
      ∀ packet now t, handleL2capMediaDataPacket packet now s = .ok t →
        ((∀ r n, playbackHandler r t ≠ .error (.sbcFrameOverrun n)) ↔ ShortFrames s (.media packet now)) := by
  have hs := run_safe hsink h
  have hsession := run_session h
  refine ⟨(safeFrameSize_iff hsession).1 hs, fun packet now t ht => ?_⟩
  rw [← safeFrameSize_iff (media_session hsession ht)]
  exact media_safe_iff hsink hs ht

/-- The sample run meets the condition: its frames have 6 bytes. -/
theorem no_sbcFrame_overrun_sampleRun :
    ∃ s : Sink (.reference true), RunsTo ShortFrames sampleRun s ∧
      (∀ r n, playbackHandler r s ≠ .error (.sbcFrameOverrun n)) ∧
        ∀ packet now t, handleL2capMediaDataPacket packet now s = .ok t →
          ((∀ r n, playbackHandler r t ≠ .error (.sbcFrameOverrun n)) ↔ ShortFrames s (.media packet now)) := by
  have hok : ∀ s : Sink (.reference true), ShortFrames s
      (.media (MediaPacket.plain 2 (List.replicate 12 7)).bytes .nominal) := by
    rintro s sbcHeader payload ⟨⟩
    exact Or.inl (by decide)
  obtain ⟨s, hs⟩ : ∃ s : Sink (.reference true), RunsTo ShortFrames sampleRun s :=
    ⟨_, .cons trivial rfl (.cons trivial rfl (.cons (hok _) rfl (.cons trivial rfl (.nil _))))⟩
  exact ⟨s, hs, no_sbcFrame_overrun rfl hs⟩

set_option maxRecDepth 2000 in
/-- One frame of a dual channel stream at bitpool 53, which the capabilities offer, has 224 bytes: the next request
reads them into the array of 120. -/
theorem sbcFrame_overrun_dualChannel :
    ∃ s : Sink (.reference true),
      RunsTo (fun _ _ => True)
        [.a2dp .streamStarted, .media (MediaPacket.plain 1 (List.replicate 224 0)).bytes .nominal] s ∧
      maxSbcFrameSize < 224 ∧ playbackHandler (.blank 1) s = .error (.sbcFrameOverrun 224) :=
  ⟨_, .cons trivial rfl (.cons trivial rfl (.nil _)), by decide, rfl⟩

/-! ## The two divisions -/

/-- **No division by zero** on a media packet, whatever the state, exactly when the packet fails a header check or
carries at least one and at most `payload.length` frames. -/
theorem no_division_by_zero (hsink : P.audioSink = true) (packet : List UInt8) (now : Readings) (s : Sink P) :
    (handleL2capMediaDataPacket packet now s ≠ .error .divideByNumFrames ∧
        handleL2capMediaDataPacket packet now s ≠ .error .divideByFrameSize) ↔
      ∀ sbcHeader payload, mediaPayload P packet = some (sbcHeader, payload) →
        sbcHeader.numFrames ≠ 0 ∧ sbcHeader.numFrames ≤ payload.length := by
  unfold handleL2capMediaDataPacket
  cases hp : mediaPayload P packet with
  | none => simp
  | some x =>
    obtain ⟨sbcHeader, payload⟩ := x
    simp only [hsink, Bool.not_true, Bool.false_eq_true, if_false]
    have hiff : (queuePayload sbcHeader payload now s ≠ .error .divideByNumFrames ∧
        queuePayload sbcHeader payload now s ≠ .error .divideByFrameSize) ↔
          sbcHeader.numFrames ≠ 0 ∧ sbcHeader.numFrames ≤ payload.length := by
      rw [← queuePayload_returns (P := P)]
      constructor
      · rintro ⟨h1, h2⟩
        cases hq : queuePayload sbcHeader payload now s with
        | ok t => exact ⟨t, rfl⟩
        | error f =>
          rcases queuePayload_faults hq with rfl | rfl
          · exact absurd hq h1
          · exact absurd hq h2
      · rintro ⟨t, ht⟩
        rw [ht]
        exact ⟨nofun, nofun⟩
    rw [hiff]
    constructor
    · intro h sbcHeader' payload' heq
      cases heq
      exact h
    · intro h
      exact h sbcHeader payload rfl

/-- A packet of 24 zero bytes passes both header checks. -/
theorem no_division_by_zero_sample :
    (handleL2capMediaDataPacket (List.replicate 24 0) .nominal (Sink.initial (.reference true)) ≠
          .error .divideByNumFrames ∧
        handleL2capMediaDataPacket (List.replicate 24 0) .nominal (Sink.initial (.reference true)) ≠
          .error .divideByFrameSize) ↔
      ∀ sbcHeader payload, mediaPayload (.reference true) (List.replicate 24 0) = some (sbcHeader, payload) →
        sbcHeader.numFrames ≠ 0 ∧ sbcHeader.numFrames ≤ payload.length :=
  no_division_by_zero rfl _ _ _

/-- Both divisors can be zero once a stream has started: no frames at all, or 15 frames in 11 bytes. -/
theorem division_by_zero_reached :
    ∃ s : Sink (.reference true), RunsTo (fun _ _ => True) [.a2dp .streamStarted] s ∧
      handleL2capMediaDataPacket (MediaPacket.plain 0 (List.replicate 11 0)).bytes .nominal s =
        .error .divideByNumFrames ∧
      handleL2capMediaDataPacket (MediaPacket.plain 15 (List.replicate 11 0)).bytes .nominal s =
        .error .divideByFrameSize :=
  ⟨_, .cons trivial rfl (.nil _), rfl, rfl⟩

end BtstackPort
