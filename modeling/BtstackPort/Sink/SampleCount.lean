import Mathlib.Algebra.GroupWithZero.Nat
import BtstackPort.Sink.SbcFrames
import BtstackPort.Sink.Compensation
import BtstackPort.Sink.Rejection
/-!
# Samples reported to the sample rate compensation (`a2dp_sink.c:312-320`)

In the build with an effective sample rate every packet that is handled while the stream is started reports
`num_frames * 128` samples. A frame decodes to `block_length * subbands` PCM frames, which is 128 for 16 blocks and 8
subbands only; the endpoint also advertises 4, 8 and 12 blocks and 4 subbands. `reported_samples_iff`: over a run the
totals agree exactly when every such packet came under 16 blocks and 8 subbands.
-/

namespace BtstackPort

open FaultMachine

variable {P : Platform}

def Call.updatedSamples : Call → Option Nat
  | .compensationUpdate samples => some samples
  | _ => none

/-- All samples passed to `btstack_sample_rate_compensation_update`. -/
def reportedSamples (calls : List Call) : Nat := (calls.filterMap Call.updatedSamples).sum

@[simp] theorem reportedSamples_nil : reportedSamples [] = 0 := rfl

@[simp] theorem reportedSamples_cons (c : Call) (cs : List Call) :
    reportedSamples (c :: cs) = c.updatedSamples.getD 0 + reportedSamples cs := by
  cases h : c.updatedSamples with
  | none => simp [reportedSamples, h]
  | some samples => simp [reportedSamples, h]

@[simp] theorem reportedSamples_append (cs ds : List Call) :
    reportedSamples (cs ++ ds) = reportedSamples cs + reportedSamples ds := by
  rw [reportedSamples, List.filterMap_append, List.sum_append]
  rfl

theorem reportedSamples_extends {s t : Sink P} {cs : List Call} (h : Extends s t cs) :
    reportedSamples t.calls = reportedSamples s.calls + reportedSamples cs := by
  rw [h, reportedSamples_append]

theorem reportedSamples_of_none {cs : List Call} (h : ∀ c ∈ cs, c.updatedSamples = none) : reportedSamples cs = 0 := by
  rw [reportedSamples, List.filterMap_eq_nil_iff.2 h]
  rfl

/-- PCM frames an SBC frame of the negotiated configuration decodes to. -/
def SbcConfiguration.samplesPerFrame (c : SbcConfiguration) : Nat := c.blockLength.toNat * c.subbands.toNat

abbrev Sink.samplesPerFrame (s : Sink P) : Nat := s.a2dpConnection.sbcConfiguration.samplesPerFrame

/-- The SBC frames of a media packet that passes both header checks while the stream is started. -/
def handledFrames (s : Sink P) : SinkEvent → Nat
  | .media packet _ =>
    match mediaPayload P packet with
    | some (sbcHeader, _) => if s.audioStreamStarted then sbcHeader.numFrames else 0
    | none => 0
  | _ => 0

/-- PCM frames that the packets handled in a run decode to. -/
def decodedPcmFrames (P : Platform) (es : List SinkEvent) : Nat :=
  total step (fun s e => handledFrames s e * s.samplesPerFrame) (Sink.initial P) es

/-- Negotiated block lengths and subbands are advertised. -/
def AdvertisedBlocks (_ : Sink P) : SinkEvent → Prop
  | .a2dp (.mediaCodecSbcConfiguration e) =>
    offers 1 (blockLengthBit e.blockLength.toNat) = true ∧ offers 1 (subbandsBit e.subbands.toNat) = true
  | _ => True

/-- SBC frames are handled only under a configuration of 16 blocks and 8 subbands. -/
def FullBlocks (s : Sink P) (e : SinkEvent) : Prop := handledFrames s e ≠ 0 → s.samplesPerFrame = 128

/-! ## What a step reports -/

theorem adjustDrift_reported (numFrames sbcFramesInBuffer : Nat) (now : Readings)
    (hc : P.effectiveSamplerate = true) (s : Sink P) :
    reportedSamples (adjustDrift numFrames sbcFramesInBuffer now s).calls =
      reportedSamples s.calls + if s.audioStreamStarted then numFrames * 128 else 0 := by
  unfold adjustDrift
  rw [if_pos hc]
  unfold updateSampleRateCompensation
  by_cases ha : s.audioStreamStarted
  · by_cases hl : s.l2capStreamStarted
    · simp [ha, hl, Call.updatedSamples]
    · simp [ha, hl, Call.updatedSamples]
  · simp [ha]

theorem startIfBuffered_reported (sbcFramesInBuffer : Nat) (now : Readings) (s : Sink P) :
    reportedSamples (startIfBuffered sbcFramesInBuffer now s).calls = reportedSamples s.calls := by
  rcases startIfBuffered_cases sbcFramesInBuffer now s with ⟨⟨hm, -⟩, hstart⟩ | ⟨-, hstart⟩
  · have hquiet : reportedSamples (mediaProcessingStartCalls P) = 0 := by
      refine reportedSamples_of_none fun c hc => ?_
      rcases mem_mediaProcessingStartCalls hc with rfl | rfl <;> rfl
    rw [hstart, reportedSamples_extends (mediaProcessingStart_of_initialized hm).2, hquiet, Nat.add_zero]
  · rw [hstart]

theorem queuePayload_reported {sbcHeader : AvdtpSbcCodecHeader} {payload : List UInt8} {now : Readings} {s t : Sink P}
    (hc : P.effectiveSamplerate = true) (h : queuePayload sbcHeader payload now s = .ok t) :
    reportedSamples t.calls =
      reportedSamples s.calls + if s.audioStreamStarted then sbcHeader.numFrames * 128 else 0 := by
  obtain ⟨-, -, w, rfl, rfl⟩ := queuePayload_eq_ok.1 h
  rw [startIfBuffered_reported, adjustDrift_reported _ _ _ hc]
  have hlog : Extends s (writePayload (payload.length / sbcHeader.numFrames) payload s)
      [.ringWrite .sbcFrame payload (P.ring.write s.sbcFrameRingBuffer payload).1] := rfl
  rw [reportedSamples_extends hlog]
  rfl

theorem Call.IsSession.not_update {c : Call} (h : c.IsSession) : c.updatedSamples = none := by
  cases c <;> simp_all [Call.IsSession, Call.updatedSamples]

theorem Call.IsPlayback.not_update {c : Call} (h : c.IsPlayback) : c.updatedSamples = none := by
  cases c <;> simp_all [Call.IsPlayback, Call.IsPcm, Call.updatedSamples]

/-- Without an audio sink no stream is ever started; what is negotiated stays within 16 blocks and 8 subbands. -/
structure CountInv (s : Sink P) : Prop where
  started : s.audioStreamStarted = true → P.audioSink = true
  blocks : s.samplesPerFrame ≤ 128

theorem step_started {e : SinkEvent} {s t : Sink P} (hs : s.audioStreamStarted = true → P.audioSink = true)
    (h : step s e = .ok t) : t.audioStreamStarted = true → P.audioSink = true := by
  cases e with
  | a2dp e =>
    refine a2dpSinkPacketHandler_rule (I := fun u => u.audioStreamStarted = true → P.audioSink = true) h ?_ ?_ ?_ ?_ hs
    · intro u _ _ hu
      exact hu
    · intro u _ _ hu
      unfold mediaProcessingInit
      split
      · exact hu
      · intro hst; cases hst
    · intro u hu
      unfold mediaProcessingPause
      split
      · exact hu
      · intro hst; cases hst
    · intro u hu
      unfold mediaProcessingClose
      split
      · exact hu
      · intro hst; cases hst
  | media packet now =>
    rcases handleL2capMediaDataPacket_cases h with ⟨-, rfl⟩ | ⟨hd, payload, -, ⟨-, hq⟩ | ⟨hsink, -⟩⟩
    · exact hs
    · rw [(decodeSigned16_spec hq).1.audioStreamStarted]; exact hs
    · exact fun _ => hsink
  | playback r => rw [(playbackHandler_spec h).1.audioStreamStarted]; exact hs

theorem step_blocks {e : SinkEvent} {s t : Sink P} (hs : s.samplesPerFrame ≤ 128) (hok : AdvertisedBlocks s e)
    (h : step s e = .ok t) : t.samplesPerFrame ≤ 128 := by
  by_cases hc : ∃ c, e = .a2dp (.mediaCodecSbcConfiguration c)
  · obtain ⟨c, rfl⟩ := hc
    obtain ⟨mode, -, ht⟩ := bind_returns.1 h
    cases ht
    have hblocks := SbcFormat.blockLength_of_bit hok.1
    have hsubbands := SbcFormat.subbands_of_bit hok.2
    show c.blockLength.toNat * c.subbands.toNat ≤ 16 * 8
    exact Nat.mul_le_mul (by omega) (by omega)
  · rw [Sink.samplesPerFrame, step_configuration h fun c hc' => hc ⟨c, hc'⟩]
    exact hs

theorem step_countInv {e : SinkEvent} {s t : Sink P} (hs : CountInv s) (hok : AdvertisedBlocks s e)
    (h : step s e = .ok t) : CountInv t := ⟨step_started hs.started h, step_blocks hs.blocks hok h⟩

theorem countInv_initial : CountInv (Sink.initial P) := ⟨fun h => (by cases h), Nat.zero_le _⟩

/-- Every frame that is handled counts as 128 samples. -/
theorem step_reported {e : SinkEvent} {s t : Sink P} (hc : P.effectiveSamplerate = true) (hs : CountInv s)
    (h : step s e = .ok t) : reportedSamples t.calls = reportedSamples s.calls + handledFrames s e * 128 := by
  cases e with
  | a2dp e =>
    obtain ⟨cs, hlog, hcs⟩ := a2dp_session_calls h
    rw [reportedSamples_extends hlog, reportedSamples_of_none fun c hc => (hcs c hc).not_update]
    exact (Nat.zero_mul 128).symm ▸ rfl
  | media packet now =>
    rcases handleL2capMediaDataPacket_cases h with ⟨hnone, rfl⟩ | ⟨hd, payload, hp, ⟨hno, hq⟩ | ⟨-, hq⟩⟩
    · simp [handledFrames, hnone]
    · -- no sink, no stream
      have hstopped : s.audioStreamStarted = false := by
        cases hst : s.audioStreamStarted with
        | false => rfl
        | true => exact absurd (hs.started hst) (by simp [hno])
      obtain ⟨-, -, cs, hlog, hcs⟩ := decodeSigned16_spec hq
      have hquiet : ∀ c ∈ Call.decode payload :: cs, c.updatedSamples = none := by
        intro c hc
        rcases List.mem_cons.1 hc with rfl | hc
        · rfl
        · exact (hcs c hc).isPlayback.not_update
      rw [reportedSamples_extends hlog, reportedSamples_of_none hquiet]
      simp [handledFrames, hp, hstopped]
    · rw [queuePayload_reported hc hq]
      simp only [handledFrames, hp]
      split
      · rfl
      · rw [Nat.zero_mul]
  | playback r =>
    obtain ⟨-, k, cs, -, -, -, hlog, hcs, -⟩ := playbackHandler_spec h
    rw [reportedSamples_extends hlog, reportedSamples_of_none fun c hc => (hcs c hc).not_update]
    exact (Nat.zero_mul 128).symm ▸ rfl

/-! ## Whole runs -/

/-- What a run reports is 128 for every frame it handles. -/
theorem run_reported {es : List SinkEvent} {s : Sink P} (hc : P.effectiveSamplerate = true)
    (h : RunsTo AdvertisedBlocks es s) :
    reportedSamples s.calls = total step (fun s e => handledFrames s e * 128) (Sink.initial P) es := by
  have htotal := Run.total_of_step (fun s e => handledFrames s e * 128) (fun s => reportedSamples s.calls)
    (I := CountInv) (fun _ _ _ hs hok he => step_countInv hs hok he)
    (fun _ _ _ hs _ he => step_reported hc hs he) h countInv_initial
  rw [htotal]
  exact Nat.zero_add _

theorem weights_agree_iff {n m : Nat} : n * m = n * 128 ↔ (n ≠ 0 → m = 128) := by
  constructor
  · intro h hn
    exact Nat.eq_of_mul_eq_mul_left (Nat.pos_of_ne_zero hn) h
  · intro h
    by_cases hn : n = 0
    · rw [hn, Nat.zero_mul, Nat.zero_mul]
    · rw [h hn]

/-- **Reported samples**: in every run whose configurations are advertised, the samples reported to the compensation
are the PCM frames that the packets handled while the stream is started decode to, exactly when all their frames come
under 16 blocks and 8 subbands. -/
theorem reported_samples_iff {es : List SinkEvent} {s : Sink P} (hc : P.effectiveSamplerate = true)
    (h : RunsTo AdvertisedBlocks es s) : reportedSamples s.calls = decodedPcmFrames P es ↔ RunsTo FullBlocks es s := by
  have hiff := Run.total_eq_iff (I := CountInv) (f := fun s e => handledFrames s e * s.samplesPerFrame)
    (g := fun s e => handledFrames s e * 128) (fun _ _ _ hs hok he => step_countInv hs hok he)
    (fun _ _ hs _ => Nat.mul_le_mul_left _ hs.blocks) h countInv_initial
  rw [run_reported hc h, decodedPcmFrames, eq_comm, hiff]
  constructor
  · exact Run.mono fun _ _ => weights_agree_iff.1
  · exact Run.mono fun _ _ => weights_agree_iff.2

/-! ## Five packets -/

/-- A mono stream is configured and started. -/
def monoStream (blockLength subbands : UInt8) : List SinkEvent :=
  [.a2dp (.mediaCodecSbcConfiguration ⟨0, 1, 44100, blockLength, subbands, 2, 53, 1, .mono⟩), .a2dp .streamStarted]

/-- Then five packets of 15 frames of 7 bytes arrive. -/
def fivePackets (blockLength subbands : UInt8) : List SinkEvent :=
  monoStream blockLength subbands ++ List.replicate 5 (.media (zeroFrames 15 7).bytes .nominal)

theorem handledFrames_zeroFrames (s : Sink .effective) :
    handledFrames s (.media (zeroFrames 15 7).bytes .nominal) = if s.audioStreamStarted then 15 else 0 := by
  have hlen : (zeroFrames 15 7).payload.length = 105 := length_zeroFrames 15 7
  rcases (zeroFrames 15 7).mediaPayload_bytes (P := .effective) with ⟨hshort, -⟩ | ⟨-, hd, hp, hnum⟩
  · omega
  · have hfifteen : hd.numFrames = 15 := hnum
    simp only [handledFrames, hp, hfifteen]

/-- Up to five packets fit into the ring; the fourth starts the stream. -/
theorem fill_zeroFrames {es : List SinkEvent} {s₀ : Sink .effective} (hrun : RunsTo AdvertisedBlocks es s₀)
    (hm : s₀.mediaInitialized = true) (hns : s₀.audioStreamStarted = false) (hempty : s₀.sbcBytes = []) {k : Nat}
    (hk : k ≤ 5) :
    ∃ s, Run step AdvertisedBlocks s₀ (List.replicate k (.media (zeroFrames 15 7).bytes .nominal)) s ∧
      (s.audioStreamStarted = true ↔ optimalFramesMin ≤ k * 15) ∧ s.a2dpConnection = s₀.a2dpConnection := by
  have hlen : (zeroFrames 15 7).payload.length = 105 := length_zeroFrames 15 7
  obtain ⟨s, hs, hqueued⟩ := fill_queue (P := .effective) rfl hrun hm hns hempty
    (m := zeroFrames 15 7) .nominal (fun _ => trivial) 7 k (by decide) (by decide) hlen (by omega)
    (by rw [hlen]; simp only [sbcFrameStorageSize, optimalFramesMax, additionalFrames, maxSbcFrameSize]; omega)
  exact ⟨s, hs, hqueued.started, hqueued.connection⟩

/-- Nothing counts until the stream is started. -/
theorem total_zeroFrames {es : List SinkEvent} {s₀ : Sink .effective} (hrun : RunsTo AdvertisedBlocks es s₀)
    (hm : s₀.mediaInitialized = true) (hns : s₀.audioStreamStarted = false) (hempty : s₀.sbcBytes = [])
    {weight : Sink .effective → SinkEvent → Nat} (hweight : ∀ s e, handledFrames s e = 0 → weight s e = 0) {k : Nat}
    (hk : k ≤ 4) : total step weight s₀ (List.replicate k (.media (zeroFrames 15 7).bytes .nominal)) = 0 := by
  induction k with
  | zero => rfl
  | succ k ih =>
    obtain ⟨s, hs, hstarted, -⟩ := fill_zeroFrames hrun hm hns hempty (show k ≤ 5 by omega)
    have hstopped : s.audioStreamStarted = false := by
      cases hst : s.audioStreamStarted with
      | false => rfl
      | true =>
        have hmin := hstarted.1 hst
        simp only [optimalFramesMin] at hmin
        omega
    rw [List.replicate_succ', hs.total_append, total_singleton, ih (by omega), hweight]
    rw [handledFrames_zeroFrames, hstopped]
    rfl

/-- The fourth packet starts the stream; the fifth is the only one that is handled while it is started. -/
theorem fivePackets_run (blockLength subbands : UInt8) (hblocks : offers 1 (blockLengthBit blockLength.toNat) = true)
    (hsubbands : offers 1 (subbandsBit subbands.toNat) = true) :
    ∃ s₄ s₅ : Sink .effective, RunsTo AdvertisedBlocks (fivePackets blockLength subbands) s₅ ∧
      handledFrames s₄ (.media (zeroFrames 15 7).bytes .nominal) = 15 ∧
      s₄.samplesPerFrame = blockLength.toNat * subbands.toNat ∧
      ∀ weight : Sink .effective → SinkEvent → Nat, (∀ s e, handledFrames s e = 0 → weight s e = 0) →
        total step weight (Sink.initial .effective) (fivePackets blockLength subbands) =
          weight s₄ (.media (zeroFrames 15 7).bytes .nominal) := by
  obtain ⟨s₀, hrun, hm, hns, hempty, hconf, hnone⟩ : ∃ s : Sink .effective,
      RunsTo AdvertisedBlocks (monoStream blockLength subbands) s ∧ s.mediaInitialized = true ∧
        s.audioStreamStarted = false ∧ s.sbcBytes = [] ∧
        s.samplesPerFrame = blockLength.toNat * subbands.toNat ∧
        ∀ weight : Sink .effective → SinkEvent → Nat, (∀ s e, handledFrames s e = 0 → weight s e = 0) →
          total step weight (Sink.initial .effective) (monoStream blockLength subbands) = 0 := by
    refine ⟨_, .cons ⟨hblocks, hsubbands⟩ rfl (.cons trivial rfl (.nil _)), rfl, rfl, rfl, rfl, ?_⟩
    intro weight hweight
    rw [monoStream, total_cons weight rfl, total_cons weight rfl, hweight _ _ rfl, hweight _ _ rfl]
    rfl
  obtain ⟨s₄, hs₄, hstarted, hconn⟩ := fill_zeroFrames hrun hm hns hempty (show 4 ≤ 5 by decide)
  obtain ⟨s₅, hs₅, -⟩ := fill_zeroFrames hrun hm hns hempty (Nat.le_refl 5)
  refine ⟨s₄, s₅, run_append.2 ⟨s₀, hrun, hs₅⟩, ?_, ?_, ?_⟩
  · rw [handledFrames_zeroFrames, if_pos (hstarted.2 (by decide))]
  · rw [← hconf, Sink.samplesPerFrame, hconn]
  · intro weight hweight
    rw [fivePackets, hrun.total_append, hnone weight hweight, List.replicate_succ', hs₄.total_append, total_singleton,
      total_zeroFrames hrun hm hns hempty hweight (Nat.le_refl 4)]
    omega

/-- With 16 blocks and 8 subbands the totals agree. -/
theorem reported_samples_iff_fullBlocks :
    ∃ s : Sink .effective, RunsTo AdvertisedBlocks (fivePackets 16 8) s ∧
      (reportedSamples s.calls = decodedPcmFrames .effective (fivePackets 16 8) ↔
        RunsTo FullBlocks (fivePackets 16 8) s) := by
  obtain ⟨-, s, hs, -⟩ := fivePackets_run 16 8 rfl rfl
  exact ⟨s, hs, reported_samples_iff rfl hs⟩

/-- With 4 blocks and 4 subbands 1920 samples are reported for 240. -/
theorem samples_overreported :
    ∃ s : Sink .effective, RunsTo AdvertisedBlocks (fivePackets 4 4) s ∧ reportedSamples s.calls = 1920 ∧
      decodedPcmFrames .effective (fivePackets 4 4) = 240 := by
  obtain ⟨s₄, s, hs, hframes, hblocks, htotal⟩ := fivePackets_run 4 4 rfl rfl
  refine ⟨s, hs, ?_, ?_⟩
  · rw [run_reported rfl hs, htotal _ fun s e h => by rw [h, Nat.zero_mul], hframes]
  · rw [decodedPcmFrames, htotal _ fun s e h => by rw [h, Nat.zero_mul], hframes, hblocks]
    rfl

end BtstackPort
