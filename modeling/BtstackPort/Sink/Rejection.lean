import BtstackPort.Sink.Startup
/-!
# A packet that does not fit the queue (`a2dp_sink.c:293-341`)

`sbc_frame_size` is overwritten before the payload is offered to the SBC ring, and a failed write is only printed. The
ring keeps its bytes, so the rejected packet leaves the description of the queue intact exactly when it carried frames
of the size in force (`rejected_packet_iff`). Otherwise the bytes in the ring are cut at the wrong places from then on,
and as many more frames may seem to be queued as start the stream.
-/

namespace BtstackPort

open FaultMachine

variable {P : Platform}

/-- What a packet leaves when it is rejected: the bytes in the ring; the frame size is the packet's, and the stream is
started as if the ring held frames of that size. -/
theorem queuePayload_rejected {h : AvdtpSbcCodecHeader} {payload : List UInt8} {now : Readings} {s t : Sink P}
    (hm : s.mediaInitialized = true) (hroom : ¬ s.HasRoom payload) (hq : queuePayload h payload now s = .ok t) :
    t.sbcFrameSize = payload.length / h.numFrames ∧ t.sbcBytes = s.sbcBytes ∧
      (t.audioStreamStarted = s.audioStreamStarted ↔
        (s.audioStreamStarted = false →
          s.sbcBytes.length / (payload.length / h.numFrames) < optimalFramesMin)) := by
  have hbytes := queuePayload_bytes hq
  rw [if_neg hroom] at hbytes
  obtain ⟨-, -, hsame, ds, cs, -, -, hstart⟩ := queuePayload_spec hq
  have hsize : t.sbcFrameSize = payload.length / h.numFrames := hsame.sbcFrameSize
  have hframes : t.sbcFramesInBuffer = s.sbcBytes.length / (payload.length / h.numFrames) := by
    rw [sbcFramesInBuffer_eq, hsize, hbytes]
  refine ⟨hsize, hbytes, ?_⟩
  rw [← hframes]
  rcases hstart with ⟨⟨-, hns, hmin⟩, hst, -⟩ | ⟨hnot, hst, -⟩
  · rw [hst, hns]
    refine iff_of_false (by simp) fun hfew => ?_
    have hlt := hfew rfl
    omega
  · refine iff_of_true hst fun hns => ?_
    by_contra hmin
    exact hnot ⟨hm, hns, Nat.le_of_not_lt hmin⟩

/-- **Rejected packets**: in a reachable state, a packet with at least one frame and at least a byte for each, whose
payload does not fit the SBC ring, is handled; the frame size, the queue and the state of the stream are what they
were exactly when the packet's frame size is the one in force. -/
theorem rejected_packet_iff (hsink : P.audioSink = true) {ok : Sink P → SinkEvent → Prop} {es : List SinkEvent}
    {s : Sink P} (hrun : RunsTo ok es s) (hm : s.mediaInitialized = true) {packet : List UInt8} {now : Readings}
    {sbcHeader : AvdtpSbcCodecHeader} {payload : List UInt8} (hp : mediaPayload P packet = some (sbcHeader, payload))
    (hnum : 1 ≤ sbcHeader.numFrames) (hlen : sbcHeader.numFrames ≤ payload.length) (hroom : ¬ s.HasRoom payload) :
    ∃ t, handleL2capMediaDataPacket packet now s = .ok t ∧
      (t.sbcFrameSize = s.sbcFrameSize ∧ t.sbcBytes = s.sbcBytes ∧ t.audioStreamStarted = s.audioStreamStarted ↔
        payload.length / sbcHeader.numFrames = s.sbcFrameSize) := by
  obtain ⟨t, ht⟩ : ∃ t, queuePayload sbcHeader payload now s = .ok t := queuePayload_returns.2 ⟨by omega, hlen⟩
  obtain ⟨hsize, hbytes, hstarted⟩ := queuePayload_rejected hm hroom ht
  refine ⟨t, ?_, ?_, ?_⟩
  · unfold handleL2capMediaDataPacket
    rw [hp]
    simpa [hsink] using ht
  · rintro ⟨hkept, -, -⟩
    exact hsize.symm.trans hkept
  · intro heq
    refine ⟨hsize.trans heq, hbytes, hstarted.2 fun hns => ?_⟩
    rw [heq, ← sbcFramesInBuffer_eq]
    exact run_notDue hrun hm hns

/-! ## Filling the queue -/

/-- `k` packets like `m` have been queued since `s₀`, with frames of `size` bytes. -/
structure Queued (m : MediaPacket) (size : Nat) (s₀ : Sink P) (k : Nat) (s : Sink P) : Prop where
  initialized : s.mediaInitialized = true
  length_sbcBytes : s.sbcBytes.length = k * m.payload.length
  frameSize : 0 < k → s.sbcFrameSize = size
  started : s.audioStreamStarted = true ↔ optimalFramesMin ≤ k * m.numFrames
  connection : s.a2dpConnection = s₀.a2dpConnection

/-- One more packet, as long as there is room. -/
theorem Queued.succ (hsink : P.audioSink = true) {m : MediaPacket} {now : Readings} {size k : Nat} {s₀ s : Sink P}
    (hs : Queued m size s₀ k s) (hroom : s.HasRoom m.payload) (hnum : 1 ≤ m.numFrames) (hpos : 1 ≤ size)
    (hlen : m.payload.length = m.numFrames * size) (h11 : 11 ≤ m.payload.length) :
    ∃ t, step s (.media m.bytes now) = .ok t ∧ Queued m size s₀ (k + 1) t := by
  rcases m.mediaPayload_bytes (P := P) with ⟨hshort, -⟩ | ⟨-, hd, hp, hframes⟩
  · omega
  · have hle : m.numFrames * 1 ≤ m.numFrames * size := Nat.mul_le_mul_left _ hpos
    obtain ⟨t, ht⟩ : ∃ t, queuePayload hd m.payload now s = .ok t :=
      queuePayload_returns.2 ⟨by omega, by omega⟩
    have hbytes := queuePayload_bytes ht
    rw [if_pos hroom] at hbytes
    obtain ⟨-, -, hsame, ds, cs, -, -, hstart⟩ := queuePayload_spec ht
    have hsize : t.sbcFrameSize = size := by
      rw [hsame.sbcFrameSize]
      show m.payload.length / hd.numFrames = size
      rw [hlen, hframes, Nat.mul_div_cancel_left _ (by omega)]
    have hlength : t.sbcBytes.length = (k + 1) * m.payload.length := by
      rw [hbytes, List.length_append, hs.length_sbcBytes, Nat.succ_mul]
    have hcount : t.sbcFramesInBuffer = (k + 1) * m.numFrames := by
      rw [sbcFramesInBuffer_eq, hlength, hsize, hlen, ← Nat.mul_assoc, Nat.mul_div_cancel _ (by omega)]
    refine ⟨t, ?_, hsame.mediaInitialized.trans hs.initialized, hlength, fun _ => hsize, ?_,
      hsame.a2dpConnection.trans hs.connection⟩
    · rw [step, handleL2capMediaDataPacket, hp]
      simpa [hsink] using ht
    · rcases hstart with ⟨⟨-, -, hmin⟩, hst, -⟩ | ⟨hnot, hst, -⟩
      · rw [hst]
        exact iff_of_true rfl (hcount ▸ hmin)
      · rw [hst, hs.started, ← hcount]
        constructor
        · intro hmin
          rw [hcount, Nat.succ_mul]
          omega
        · intro hmin
          by_contra hfew
          exact hnot ⟨hs.initialized, by simpa using fun hst => hfew (hs.started.1 hst), hmin⟩

/-- As long as there is room, packets of one kind are queued; the stream starts with the 60th frame. -/
theorem fill_queue (hsink : P.audioSink = true) {ok : Sink P → SinkEvent → Prop} {es : List SinkEvent} {s₀ : Sink P}
    (hrun : RunsTo ok es s₀) (hm : s₀.mediaInitialized = true) (hns : s₀.audioStreamStarted = false)
    (hempty : s₀.sbcBytes = []) {m : MediaPacket} (now : Readings) (hok : ∀ s, ok s (.media m.bytes now)) (size k : Nat)
    (hnum : 1 ≤ m.numFrames) (hpos : 1 ≤ size) (hlen : m.payload.length = m.numFrames * size)
    (h11 : 11 ≤ m.payload.length) (hk : k * m.payload.length ≤ sbcFrameStorageSize) :
    ∃ s : Sink P, Run step ok s₀ (List.replicate k (.media m.bytes now)) s ∧ Queued m size s₀ k s := by
  induction k with
  | zero =>
    refine ⟨s₀, .nil s₀, hm, ?_, fun h => absurd h (by decide), ?_, rfl⟩
    · rw [hempty, List.length_nil, Nat.zero_mul]
    · rw [hns, Nat.zero_mul]
      exact iff_of_false (by decide) (by decide)
  | succ k ih =>
    rw [Nat.succ_mul] at hk
    obtain ⟨s, hs, hqueued⟩ := ih (by omega)
    have hroom : s.HasRoom m.payload := by
      unfold Sink.HasRoom
      rw [((run_session (run_append.2 ⟨s₀, hrun, hs⟩)).setUp hqueued.initialized).sbcCapacity, hqueued.length_sbcBytes]
      exact hk
    obtain ⟨t, ht, hnext⟩ := hqueued.succ hsink hroom hnum hpos hlen h11
    rw [List.replicate_succ']
    exact ⟨t, run_snoc.2 ⟨s, hs, hok s, ht⟩, hnext⟩

/-- A packet of `n` frames of `size` zero bytes. -/
def zeroFrames (n : UInt8) (size : Nat) : MediaPacket := .plain n (List.replicate (n.toNat * size) 0)

theorem length_zeroFrames (n : UInt8) (size : Nat) : (zeroFrames n size).payload.length = n.toNat * size :=
  List.length_replicate

/-- 22 packets of five frames of 119 bytes fill the queue: it holds 110 frames. -/
def fullQueue : List SinkEvent := [.a2dp .streamStarted] ++ List.replicate 22 (.media (zeroFrames 5 119).bytes .nominal)

/-- After them, five frames of any size from 4 bytes on are offered and do not fit. -/
theorem fullQueue_rejects (size : Nat) (hsize : 4 ≤ size) :
    ∃ (s : Sink (.reference true)) (hd : AvdtpSbcCodecHeader),
      RunsTo (fun _ _ => True) fullQueue s ∧ s.mediaInitialized = true ∧ s.sbcFrameSize = 119 ∧
      s.sbcBytes.length = 110 * 119 ∧
      mediaPayload (.reference true) (zeroFrames 5 size).bytes = some (hd, (zeroFrames 5 size).payload) ∧
      hd.numFrames = 5 ∧ ((zeroFrames 5 size).payload.length / 5 = size) ∧ 5 ≤ (zeroFrames 5 size).payload.length ∧
      (110 < 5 * size → ¬ s.HasRoom (zeroFrames 5 size).payload) := by
  have hfive : (5 : UInt8).toNat = 5 := rfl
  have hframes : (zeroFrames 5 size).numFrames = 5 := (by decide : (5 : UInt8).toNat &&& 0x0f = 5)
  have hlen := length_zeroFrames 5 119
  have hlen' := length_zeroFrames 5 size
  rw [hfive] at hlen hlen'
  obtain ⟨s₀, hrun, hm₀, hns, hempty⟩ : ∃ s : Sink (.reference true),
      RunsTo (fun _ _ => True) [.a2dp .streamStarted] s ∧ s.mediaInitialized = true ∧ s.audioStreamStarted = false ∧
        s.sbcBytes = [] := ⟨_, .cons trivial rfl (.nil _), rfl, rfl, rfl⟩
  obtain ⟨s, hs, hm, hqueued, hframe, -⟩ := fill_queue rfl hrun hm₀ hns hempty (m := zeroFrames 5 119)
    .nominal (fun _ => trivial) 119 22 (by decide) (by decide) hlen (by omega) (by rw [hlen]; decide)
  have hs := run_append.2 ⟨s₀, hrun, hs⟩
  rcases (zeroFrames 5 size).mediaPayload_bytes (P := .reference true) with ⟨hshort, -⟩ | ⟨-, hd, hp, hnum⟩
  · omega
  · refine ⟨s, hd, hs, hm, hframe (by decide), by rw [hqueued, hlen], hp, hnum.trans hframes, by omega, by omega, fun hbig => ?_⟩
    unfold Sink.HasRoom
    rw [((run_session hs).setUp hm).sbcCapacity, hqueued, hlen, hlen']
    simp only [sbcFrameStorageSize, optimalFramesMax, additionalFrames, maxSbcFrameSize]
    omega

/-- Another five frames of 119 bytes are rejected and change nothing. -/
theorem rejected_packet_iff_sameSize :
    ∃ (s : Sink (.reference true)) (hd : AvdtpSbcCodecHeader),
      RunsTo (fun _ _ => True) fullQueue s ∧
      mediaPayload (.reference true) (zeroFrames 5 119).bytes = some (hd, (zeroFrames 5 119).payload) ∧
      ∃ t, handleL2capMediaDataPacket (zeroFrames 5 119).bytes .nominal s = .ok t ∧
        (t.sbcFrameSize = s.sbcFrameSize ∧ t.sbcBytes = s.sbcBytes ∧ t.audioStreamStarted = s.audioStreamStarted ↔
          (zeroFrames 5 119).payload.length / hd.numFrames = s.sbcFrameSize) := by
  obtain ⟨s, hd, hs, hm, -, -, hp, hnum, -, hlen, hroom⟩ := fullQueue_rejects 119 (by decide)
  exact ⟨s, hd, hs, hp, rejected_packet_iff (P := .reference true) rfl hs hm hp (by omega) (by omega)
    (hroom (by decide))⟩

/-- Five frames of 118 bytes are rejected, and the 110 queued frames of 119 bytes count as frames of 118 from then
on. -/
theorem rejected_packet_changes_frameSize :
    ∃ (s : Sink (.reference true)) (hd : AvdtpSbcCodecHeader) (t : Sink (.reference true)),
      RunsTo (fun _ _ => True) fullQueue s ∧ s.mediaInitialized = true ∧ s.sbcFrameSize ∣ s.sbcBytes.length ∧
      mediaPayload (.reference true) (zeroFrames 5 118).bytes = some (hd, (zeroFrames 5 118).payload) ∧
      1 ≤ hd.numFrames ∧ hd.numFrames ≤ (zeroFrames 5 118).payload.length ∧
      ((Platform.ring (.reference true)).write s.sbcFrameRingBuffer (zeroFrames 5 118).payload).1 ≠ 0 ∧
      handleL2capMediaDataPacket (zeroFrames 5 118).bytes .nominal s = .ok t ∧
      s.sbcFrameSize = 119 ∧ t.sbcFrameSize = 118 ∧ t.sbcBytes = s.sbcBytes := by
  obtain ⟨s, hd, hs, hm, hsize, hqueued, hp, hnum, hquot, hlen, hroom⟩ := fullQueue_rejects 118 (by decide)
  obtain ⟨t, ht⟩ : ∃ t, queuePayload hd (zeroFrames 5 118).payload .nominal s = .ok t :=
    queuePayload_returns.2 ⟨by omega, by omega⟩
  obtain ⟨hchanged, hkept, -⟩ := queuePayload_rejected hm (hroom (by decide)) ht
  rw [hnum, hquot] at hchanged
  refine ⟨s, hd, t, hs, hm, ?_, hp, by omega, by omega, ?_, ?_, hsize, hchanged, hkept⟩
  · rw [hsize, hqueued]
    exact Nat.dvd_mul_left _ _
  · intro hstored
    exact hroom (by decide) ((BoundedFifo.write_status _ _ _).1 hstored)
  · rw [handleL2capMediaDataPacket, hp]
    exact ht

end BtstackPort
