import BtstackPort.Sink.PacketHandler
/-!
# SBC frames come out whole, once and in order

The SBC ring is a byte FIFO, and the size of the frames in it is one global. As long as every packet
between two resets of the ring carries frames of one size, the ring refines the abstract queue of frames
`Framing.FrameQueue`: a packet pushes its frames (or is rejected), a playback request pops some, `init` and
`pause` reset. `Represents` is the refinement relation.

Nothing resets `sbc_frame_size` together with the ring: after a `pause` the size is stale, after a `close`
the ring is. Neither does harm: an empty ring yields no block of any size, and size 0 stops the decode loop.
-/

namespace BtstackPort

open FaultMachine Framing

variable {P : Platform}

/-! ## Reading the log -/

/-- The log since the last reset of the SBC ring. -/
structure SbcEpoch where
  /-- Resets so far. -/
  resets : Nat
  /-- Payloads whose `btstack_ring_buffer_write` succeeded. -/
  stored : List (List UInt8)
  /-- Buffers passed to `decode_signed_16`. -/
  decoded : List (List UInt8)

def SbcEpoch.record (e : SbcEpoch) : Call → SbcEpoch
  | .ringInit .sbcFrame => ⟨e.resets + 1, [], []⟩
  | .ringReset .sbcFrame => ⟨e.resets + 1, [], []⟩
  | .ringWrite .sbcFrame data status => if status = 0 then { e with stored := e.stored ++ [data] } else e
  | .decode buffer => { e with decoded := e.decoded ++ [buffer] }
  | _ => e

def sbcEpoch (calls : List Call) : SbcEpoch := calls.foldl SbcEpoch.record ⟨0, [], []⟩

theorem sbcEpoch_extends {s t : Sink P} {cs : List Call} (h : Extends s t cs) :
    sbcEpoch t.calls = cs.foldl SbcEpoch.record (sbcEpoch s.calls) := by
  unfold sbcEpoch
  rw [h, List.foldl_append]

theorem record_drift {c : Call} (h : c.IsDrift) (e : SbcEpoch) : e.record c = e := by
  cases c <;> simp_all [Call.IsDrift, SbcEpoch.record]

/-- A playback request only adds to what has been decoded. -/
theorem record_playback {cs : List Call} (h : ∀ c ∈ cs, c.IsPlayback) (e : SbcEpoch) :
    cs.foldl SbcEpoch.record e = { e with decoded := e.decoded ++ decodes cs } := by
  induction cs generalizing e with
  | nil => simp [decodes]
  | cons c cs ih =>
    rw [List.foldl_cons, ih fun c' hc' => h c' (by simp [hc'])]
    have hc := h c (by simp)
    cases c with
    | decode buffer => simp [SbcEpoch.record, decodes]
    | ringWrite ring data status =>
      cases ring <;> simp_all [Call.IsPlayback, Call.IsPcm, SbcEpoch.record, decodes]
    | _ => simp_all [Call.IsPlayback, Call.IsPcm, SbcEpoch.record, decodes]

/-- Drift control and the start of the stream leave the epoch alone. -/
theorem record_control {ds : List Call} (h : ∀ c ∈ ds, c.IsDrift) (e : SbcEpoch) :
    ds.foldl SbcEpoch.record e = e := by
  simpa using foldl_append_ignored SbcEpoch.record e [] ds fun c hc g => record_drift (h c hc) g

theorem record_start (e : SbcEpoch) : (mediaProcessingStartCalls P).foldl SbcEpoch.record e = e := by
  unfold mediaProcessingStartCalls audioCalls
  split <;> split <;> rfl

theorem sbcEpoch_init (c : SbcConfiguration) (e : SbcEpoch) :
    (mediaProcessingInitCalls P c).foldl SbcEpoch.record e = ⟨e.resets + 1, [], []⟩ := by
  unfold mediaProcessingInitCalls wavCalls audioCalls
  split <;> split <;> rfl

/-- All a packet adds to the epoch is its own write. -/
theorem queuePayload_epoch {sbcHeader : AvdtpSbcCodecHeader} {payload : List UInt8} {now : Readings} {s t : Sink P}
    (h : queuePayload sbcHeader payload now s = .ok t) :
    sbcEpoch t.calls = (sbcEpoch s.calls).record
      (.ringWrite .sbcFrame payload (P.ring.write s.sbcFrameRingBuffer payload).1) := by
  obtain ⟨-, -, -, ds, cs, hds, hlog, hcs⟩ := queuePayload_spec h
  have hcs' : ∀ e, cs.foldl SbcEpoch.record e = e := by
    rcases hcs with ⟨-, -, rfl⟩ | ⟨-, -, rfl⟩
    · exact record_start
    · exact fun _ => rfl
  rw [sbcEpoch_extends hlog, List.foldl_append, hcs', List.foldl_cons, record_control hds]

/-! ## The promise on media packets -/

/-- Media packets arrive only while media processing is initialised, pass both header checks and carry
`num_frames ≥ 1` whole frames of the size that belongs to the current epoch. -/
def FixedFrameSize (size : Nat → Nat) (s : Sink P) : SinkEvent → Prop
  | .media packet _ =>
    s.mediaInitialized = true ∧ 1 ≤ size (sbcEpoch s.calls).resets ∧
      size (sbcEpoch s.calls).resets ≤ maxSbcFrameSize ∧
      ∃ sbcHeader payload, mediaPayload P packet = some (sbcHeader, payload) ∧ 1 ≤ sbcHeader.numFrames ∧
        payload.length = sbcHeader.numFrames * size (sbcEpoch s.calls).resets
  | _ => True

/-- The frame size of the current epoch. -/
abbrev epochSize (size : Nat → Nat) (s : Sink P) : Nat := size (sbcEpoch s.calls).resets

/-- The frames of the packets stored since the last reset, in arrival order. -/
def receivedFrames (size : Nat → Nat) (s : Sink P) : List (List UInt8) :=
  (sbcEpoch s.calls).stored.flatMap (cut (epochSize size s))

/-! ## Refinement of the frame queue -/

/-- The sink's SBC path represents the frame queue `q`. -/
structure Represents (size : Nat → Nat) (s : Sink P) (q : FrameQueue UInt8) : Prop where
  stored : q.stored = receivedFrames size s
  served : q.served = (sbcEpoch s.calls).decoded
  bytes : s.sbcBytes = q.pending.flatten
  uniform : Uniform (epochSize size s) q.pending
  /-- With frames queued, the size is known, or the pipeline is closed. -/
  frameSize : q.pending ≠ [] → s.sbcFrameSize = epochSize size s ∨ s.sbcFrameSize = 0

theorem represents_initial (size : Nat → Nat) : Represents size (Sink.initial P) .empty :=
  ⟨rfl, rfl, P.ring.contents_zero, uniform_nil _, fun h => absurd rfl h⟩

theorem Represents.of_same {size : Nat → Nat} {s t : Sink P} {q : FrameQueue UInt8} (h : Represents size s q)
    (he : sbcEpoch t.calls = sbcEpoch s.calls) (hb : t.sbcBytes = s.sbcBytes)
    (hs : t.sbcFrameSize = s.sbcFrameSize ∨ t.sbcFrameSize = 0) : Represents size t q := by
  refine ⟨?_, ?_, hb.trans h.bytes, ?_, fun hne => ?_⟩
  · rw [h.stored, receivedFrames, receivedFrames, epochSize, epochSize, he]
  · rw [h.served, he]
  · rw [epochSize, he]; exact h.uniform
  · rw [epochSize, he]
    rcases hs with hs | hs
    · rw [hs]; exact h.frameSize hne
    · exact Or.inr hs

/-- A fresh ring and a fresh epoch represent the empty queue. -/
theorem represents_reset {size : Nat → Nat} {t : Sink P} {n : Nat} (he : sbcEpoch t.calls = ⟨n, [], []⟩)
    (hb : t.sbcBytes = []) : Represents size t .empty := by
  refine ⟨?_, ?_, by simpa [FrameQueue.empty] using hb, uniform_nil _, fun h => absurd rfl h⟩
  · rw [receivedFrames, he]; rfl
  · rw [he]; rfl

/-- `t` represents a queue that `q` leads to. -/
def RepresentsNext (size : Nat → Nat) (q : FrameQueue UInt8) (t : Sink P) : Prop :=
  ∃ q', Relation.ReflTransGen FrameQueue.Step q q' ∧ Represents size t q'

theorem a2dp_represents {size : Nat → Nat} {e : A2dpEvent} {s t : Sink P} {q : FrameQueue UInt8}
    (hR : Represents size s q) (h : a2dpSinkPacketHandler e s = .ok t) : RepresentsNext size q t := by
  refine a2dpSinkPacketHandler_rule h ?_ ?_ ?_ ?_ ⟨q, .refl, hR⟩
  · rintro u connection addr ⟨q', hq', hu⟩
    exact ⟨q', hq', hu.of_same rfl rfl (Or.inl rfl)⟩
  · rintro u - - ⟨q', hq', hu⟩
    by_cases hm : u.mediaInitialized
    · rw [mediaProcessingInit_of_initialized hm]; exact ⟨q', hq', hu⟩
    · simp only [mediaProcessingInit, hm, Bool.false_eq_true, if_false]
      refine ⟨.empty, hq'.tail (.reset q'), represents_reset (n := (sbcEpoch u.calls).resets + 1) ?_ ?_⟩
      · rw [sbcEpoch, List.foldl_append, sbcEpoch_init]; rfl
      · simp [Sink.sbcBytes]
  · rintro u ⟨q', hq', hu⟩
    by_cases hm : u.mediaInitialized
    · simp only [mediaProcessingPause, hm, Bool.not_true, Bool.false_eq_true, if_false]
      refine ⟨.empty, hq'.tail (.reset q'), represents_reset (n := (sbcEpoch u.calls).resets + 1) ?_ ?_⟩
      · rw [sbcEpoch, List.foldl_append, List.foldl_append, audioCalls]
        split <;> rfl
      · simp [Sink.sbcBytes]
    · rw [mediaProcessingPause_of_closed (by simpa using hm)]; exact ⟨q', hq', hu⟩
  · rintro u ⟨q', hq', hu⟩
    by_cases hm : u.mediaInitialized
    · simp only [mediaProcessingClose, hm, Bool.not_true, Bool.false_eq_true, if_false]
      refine ⟨q', hq', hu.of_same ?_ rfl (Or.inr rfl)⟩
      rw [sbcEpoch, List.foldl_append, List.foldl_append, wavCalls, audioCalls]
      split <;> split <;> rfl
    · rw [mediaProcessingClose_of_closed (by simpa using hm)]; exact ⟨q', hq', hu⟩

/-- A packet pushes its frames, or is rejected as a whole. -/
theorem media_represents {size : Nat → Nat} {packet : List UInt8} {now : Readings} {s t : Sink P} {q : FrameQueue UInt8}
    (hsink : P.audioSink = true) (hR : Represents size s q) (hok : FixedFrameSize size s (.media packet now))
    (h : handleL2capMediaDataPacket packet now s = .ok t) : RepresentsNext size q t := by
  obtain ⟨-, hpos, -, sbcHeader, payload, hp, hn, hlen⟩ := hok
  rcases handleL2capMediaDataPacket_cases h with ⟨hnone, -⟩ | ⟨hd, pl, hsome, hq⟩
  · rw [hp] at hnone; cases hnone
  · rw [hp] at hsome
    cases hsome
    rcases hq with ⟨hno, -⟩ | ⟨-, hq⟩
    · rw [hsink] at hno; cases hno
    · obtain ⟨-, -, hsame, ds, cs, hds, hlog, hcs⟩ := queuePayload_spec hq
      have hepoch := queuePayload_epoch hq
      have hsize : t.sbcFrameSize = epochSize size s := by
        rw [hsame.sbcFrameSize]
        show payload.length / sbcHeader.numFrames = _
        rw [hlen, Nat.mul_div_cancel_left _ (by omega)]
      have hbytes : t.sbcBytes = P.ring.contents (P.ring.write s.sbcFrameRingBuffer payload).2 := by
        rw [Sink.sbcBytes, hsame.sbcFrameRingBuffer]; rfl
      by_cases hst : (P.ring.write s.sbcFrameRingBuffer payload).1 = 0
      · have he : sbcEpoch t.calls = { sbcEpoch s.calls with stored := (sbcEpoch s.calls).stored ++ [payload] } := by
          rw [hepoch, SbcEpoch.record, if_pos hst]
        have hsz : epochSize size t = epochSize size s := by rw [epochSize, he]
        refine ⟨q.push (cut (epochSize size s) payload), .single (.push q _), ?_, ?_, ?_, ?_, fun _ => ?_⟩
        · rw [receivedFrames, hsz, he]
          simp [FrameQueue.push, hR.stored, receivedFrames]
        · rw [he]; exact hR.served
        · rw [hbytes, P.ring.contents_write_ok hst]
          simp only [FrameQueue.push, List.flatten_append]
          rw [flatten_cut hpos hlen, ← hR.bytes]
        · rw [hsz]; exact uniform_append.2 ⟨hR.uniform, cut_uniform _ _⟩
        · rw [hsz]; exact Or.inl hsize
      · have he : sbcEpoch t.calls = sbcEpoch s.calls := by rw [hepoch, SbcEpoch.record, if_neg hst]
        refine ⟨q, .refl, ?_, ?_, ?_, ?_, fun _ => ?_⟩
        · rw [hR.stored, receivedFrames, receivedFrames, epochSize, epochSize, he]
        · rw [he]; exact hR.served
        · rw [hbytes, P.ring.contents_write_fail hst]; exact hR.bytes
        · rw [epochSize, he]; exact hR.uniform
        · rw [epochSize, he]; exact Or.inl hsize

/-- A playback request pops whole frames. -/
theorem playback_represents {size : Nat → Nat} {r : AudioRequest} {s t : Sink P} {q : FrameQueue UInt8}
    (hR : Represents size s q) (h : playbackHandler r s = .ok t) : RepresentsNext size q t := by
  obtain ⟨hs, k, cs, hk, hzero, htb, hlog, hp, hd, -⟩ := playbackHandler_spec h
  have he : sbcEpoch t.calls = { sbcEpoch s.calls with decoded := (sbcEpoch s.calls).decoded ++ decodes cs } := by
    rw [sbcEpoch_extends hlog, record_playback hp]
  -- the blocks taken are the first `k` pending frames, whatever stale size the global holds
  have hkey : k ≤ q.pending.length ∧ decodes cs = q.pending.take k ∧
      t.sbcBytes = (q.pending.drop k).flatten := by
    by_cases hne : q.pending = []
    · have hb : s.sbcBytes = [] := by rw [hR.bytes, hne]; rfl
      rw [hb, List.length_nil, Nat.le_zero, Nat.mul_eq_zero] at hk
      have hk0 : k = 0 := hk.elim id hzero
      subst hk0
      rw [htb, hd, hb]
      simp [hne, blocks]
    · rcases hR.frameSize hne with hsz | hsz
      · rw [hsz] at hk htb hd
        have hkl : k ≤ q.pending.length := by
          rw [hR.bytes, length_flatten_uniform hR.uniform] at hk
          by_cases hpos : 0 < epochSize size s
          · exact Nat.le_of_mul_le_mul_right hk hpos
          · have : k = 0 := hzero (by omega)
            omega
        rw [hR.bytes] at htb hd
        exact ⟨hkl, hd.trans (blocks_flatten hR.uniform hkl), htb.trans (drop_flatten hR.uniform hkl)⟩
      · have hk0 : k = 0 := hzero hsz
        subst hk0
        rw [htb, hd]
        simp [hR.bytes, blocks]
  obtain ⟨hkl, hdec, hbytes⟩ := hkey
  refine ⟨q.pop k, .single (.pop q k), ?_, ?_, hbytes, ?_, fun hne => ?_⟩
  · rw [receivedFrames, epochSize, he]; exact hR.stored
  · rw [he, ← hdec.symm]
    simp [FrameQueue.pop, hR.served]
  · rw [epochSize, he]; exact hR.uniform.drop k
  · rw [epochSize, he, hs.sbcFrameSize]
    exact hR.frameSize fun h0 => hne (by simp [FrameQueue.pop, h0])

/-- **Refinement**: under the promise on media packets, every run of the sink is a run of the frame queue. -/
theorem run_represents (hsink : P.audioSink = true) {size : Nat → Nat} {es : List SinkEvent} {s : Sink P}
    (h : RunsTo (FixedFrameSize size) es s) :
    ∃ q, Relation.ReflTransGen FrameQueue.Step .empty q ∧ Represents size s q := by
  refine Run.simulates ?_ h (represents_initial size)
  intro s e t q hR hok he
  cases e with
  | a2dp e => exact a2dp_represents hR he
  | media packet now => exact media_represents hsink hR hok he
  | playback r => exact playback_represents hR he

/-- **Frame integrity**: in every run that keeps the promise, what has been decoded since the last reset of
the SBC ring is the first `k` frames of the packets stored since then, and the ring holds the others. -/
theorem frame_integrity (hsink : P.audioSink = true) {size : Nat → Nat} {es : List SinkEvent} {s : Sink P}
    (h : RunsTo (FixedFrameSize size) es s) :
    ∃ k ≤ (receivedFrames size s).length,
      (sbcEpoch s.calls).decoded = (receivedFrames size s).take k ∧
        s.sbcBytes = ((receivedFrames size s).drop k).flatten := by
  obtain ⟨q, -, hR⟩ := run_represents hsink h
  refine ⟨q.served.length, ?_, ?_, ?_⟩
  · rw [← hR.stored, q.balance]; simp
  · rw [← hR.served, ← hR.stored]; exact q.served_eq_take
  · rw [hR.bytes, ← hR.stored, ← q.pending_eq_drop]

/-- The sample run keeps the promise with frames of 6 bytes. -/
theorem frame_integrity_sampleRun :
    ∃ s : Sink (.reference true), RunsTo (FixedFrameSize fun _ => 6) sampleRun s ∧
      ∃ k ≤ (receivedFrames (fun _ => 6) s).length,
        (sbcEpoch s.calls).decoded = (receivedFrames (fun _ => 6) s).take k ∧
          s.sbcBytes = ((receivedFrames (fun _ => 6) s).drop k).flatten := by
  obtain ⟨s, hs⟩ : ∃ s : Sink (.reference true), RunsTo (FixedFrameSize fun _ => 6) sampleRun s :=
    ⟨_, .cons trivial rfl (.cons trivial rfl (.cons ⟨rfl, by decide, by decide, _, _, rfl, by decide, rfl⟩ rfl
      (.cons trivial rfl (.nil _))))⟩
  exact ⟨s, hs, frame_integrity rfl hs⟩

end BtstackPort
