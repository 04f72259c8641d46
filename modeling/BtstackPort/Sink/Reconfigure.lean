import BtstackPort.Lib.Trace
import BtstackPort.Sink.Configuration
/-!
# When a stream start opens the pipeline again

`STREAM_STARTED` closes and initialises media processing again when the stored configuration carries a `reconfigure`
flag (`a2dp_sink.c:227`). The flag is not cleared when it has been acted upon, so it acts on every later
`STREAM_STARTED` as well, until the next configuration replaces it.

Whether a configuration event has come since the last initialisation is read off the run: it came when the log held as
many initialisations as it holds now.
-/

namespace BtstackPort

open FaultMachine Trace

variable {P : Platform}

def Call.isResampleInit : Call → Bool
  | .resampleInit _ => true
  | _ => false

/-- How often `media_processing_init` has taken effect; it calls `btstack_resample_init` once. -/
def Sink.inits (s : Sink P) : Nat := s.calls.countP Call.isResampleInit

/-- A configuration event with the property `p` was handled since `media_processing_init` last took effect. -/
def ConfiguredSinceInit (p : SbcConfigurationEvent → Prop) (es : List SinkEvent) (s : Sink P) : Prop :=
  ∃ (es₁ : List SinkEvent) (e : SbcConfigurationEvent) (es₂ : List SinkEvent) (u : Sink P),
    es = es₁ ++ .a2dp (.mediaCodecSbcConfiguration e) :: es₂ ∧ p e ∧
      RunsTo (fun _ _ => True) es₁ u ∧ u.inits = s.inits

def AsksToReconfigure (e : SbcConfigurationEvent) : Prop := e.reconfigure ≠ 0

/-- Media processing, initialised, was closed and initialised again. -/
def Reopens (s t : Sink P) : Prop :=
  s.mediaInitialized = true ∧ Extends s t (mediaProcessingCloseCalls s ++ mediaProcessingInitCalls P s.configuration)

/-! ## Counting initialisations -/

theorem Extends.inits {s t : Sink P} {cs : List Call} (h : Extends s t cs) :
    t.inits = s.inits + cs.countP Call.isResampleInit := by
  unfold Extends at h
  simp [Sink.inits, h]

theorem step_inits_le {e : SinkEvent} {s t : Sink P} (h : step s e = .ok t) : s.inits ≤ t.inits := by
  obtain ⟨cs, hlog⟩ := step_extends h
  rw [hlog.inits]
  exact Nat.le_add_right _ _

theorem run_inits_le {ok : Sink P → SinkEvent → Prop} {es : List SinkEvent} {s t : Sink P}
    (h : Run step ok s es t) : s.inits ≤ t.inits := by
  refine Run.inv (I := fun u => s.inits ≤ u.inits) ?_ h (Nat.le_refl _)
  intro u e v hu _ he
  exact Nat.le_trans hu (step_inits_le he)

/-- What the last event of a run adds to `ConfiguredSinceInit`. -/
theorem configuredSinceInit_snoc {p : SbcConfigurationEvent → Prop} {es : List SinkEvent} {e : SinkEvent}
    {s t : Sink P} (hrun : RunsTo (fun _ _ => True) es s) (he : step s e = .ok t) :
    ConfiguredSinceInit p (es ++ [e]) t ↔
      s.inits = t.inits ∧
        (ConfiguredSinceInit p es s ∨ ∃ c, e = .a2dp (.mediaCodecSbcConfiguration c) ∧ p c) := by
  constructor
  · rintro ⟨es₁, c, es₂, u, heq, hc, hu, hinits⟩
    rcases snoc_eq_append_cons.1 heq with ⟨rfl, rfl, rfl⟩ | ⟨es₂, rfl, rfl⟩
    · obtain rfl := hu.unique hrun
      exact ⟨hinits, Or.inr ⟨c, rfl, hc⟩⟩
    · obtain ⟨u', hu', hrest⟩ := run_append.1 hrun
      obtain rfl := hu.unique hu'
      -- the count cannot fall, so it has stood still since the configuration event
      have h1 := run_inits_le hrest
      have h2 := step_inits_le he
      exact ⟨by omega, Or.inl ⟨es₁, c, es₂, u, rfl, hc, hu, by omega⟩⟩
  · rintro ⟨hinits, ⟨es₁, c, es₂, u, rfl, hc, hu, hsame⟩ | ⟨c, rfl, hc⟩⟩
    · exact ⟨es₁, c, es₂ ++ [e], u, by simp, hc, hu, by rw [hsame, hinits]⟩
    · exact ⟨es, c, [], s, rfl, hc, hrun, hinits⟩

/-! ## The stored flag -/

/-- The stored flag is the one of the last configuration event, if there was one since the last initialisation. -/
theorem run_flag {es : List SinkEvent} {s : Sink P} (h : RunsTo (fun _ _ => True) es s) :
    ConfiguredSinceInit (fun _ => True) es s → s.configuration.reconfigure ≠ 0 →
      ConfiguredSinceInit AsksToReconfigure es s := by
  refine h.history (I := fun es s => ConfiguredSinceInit (fun _ => True) es s → s.configuration.reconfigure ≠ 0 →
    ConfiguredSinceInit AsksToReconfigure es s) ?_ ?_
  · rintro ⟨es₁, c, es₂, u, heq, -⟩
    simp at heq
  · intro es s e t hrun ih _ he hconf hflag
    obtain ⟨hinits, hconf⟩ := (configuredSinceInit_snoc hrun he).1 hconf
    refine (configuredSinceInit_snoc hrun he).2 ⟨hinits, ?_⟩
    by_cases hc : ∃ c, e = .a2dp (.mediaCodecSbcConfiguration c)
    · obtain ⟨c, rfl⟩ := hc
      obtain ⟨mode, -, he⟩ := bind_returns.1 he
      cases he
      exact Or.inr ⟨c, rfl, hflag⟩
    · have hsame : t.configuration = s.configuration := step_configuration he fun c hc' => hc ⟨c, hc'⟩
      rw [hsame] at hflag
      rcases hconf with hconf | ⟨c, rfl, -⟩
      · exact Or.inl (ih hconf hflag)
      · exact absurd ⟨c, rfl⟩ hc

/-- `STREAM_STARTED` opens the pipeline again exactly when it is open and the flag is set. -/
theorem streamStarted_reopens_iff (s : Sink P) :
    Reopens s (streamStarted s) ↔ s.mediaInitialized = true ∧ s.configuration.reconfigure ≠ 0 := by
  unfold streamStarted
  simp only
  by_cases hm : s.mediaInitialized
  · by_cases hr : s.configuration.reconfigure = 0
    · rw [if_neg (by simpa [Sink.setStreamState] using hr),
        mediaProcessingInit_of_initialized (s := s.setStreamState .playing) hm]
      simp only [hr, ne_eq, not_true_eq_false, and_false, iff_false]
      rintro ⟨-, hlog⟩
      have hinits := hlog.inits
      have hpos : 0 < (mediaProcessingInitCalls P s.configuration).countP Call.isResampleInit := by
        rw [List.countP_pos_iff]
        exact ⟨.resampleInit s.configuration.numChannels.toNat, by simp [mediaProcessingInitCalls], rfl⟩
      rw [List.countP_append] at hinits
      simp only [Sink.setStreamState, Sink.inits] at hinits
      omega
    · rw [if_pos (by simpa [Sink.setStreamState] using hr)]
      refine iff_of_true ⟨hm, ?_⟩ ⟨hm, hr⟩
      simp [Extends, mediaProcessingInit, mediaProcessingClose, hm, Sink.setStreamState, mediaProcessingCloseCalls]
  · simp [Reopens, hm]

/-- **Re-initialisation**: in every run, a `STREAM_STARTED` opens the pipeline again only if a configuration has asked
for it since the last initialisation, exactly when the pipeline is closed, the stored flag is clear, or some
configuration event has come since then. -/
theorem reopens_requested_iff {es : List SinkEvent} {s t : Sink P} (h : RunsTo (fun _ _ => True) es s)
    (ht : a2dpSinkPacketHandler .streamStarted s = .ok t) :
    (Reopens s t → ConfiguredSinceInit AsksToReconfigure es s) ↔
      s.mediaInitialized = false ∨ s.configuration.reconfigure = 0 ∨ ConfiguredSinceInit (fun _ => True) es s := by
  cases ht
  rw [streamStarted_reopens_iff]
  constructor
  · intro hreq
    by_cases hm : s.mediaInitialized
    · by_cases hr : s.configuration.reconfigure = 0
      · exact Or.inr (Or.inl hr)
      · obtain ⟨es₁, c, es₂, u, heq, -, hu, hinits⟩ := hreq ⟨hm, hr⟩
        exact Or.inr (Or.inr ⟨es₁, c, es₂, u, heq, trivial, hu, hinits⟩)
    · exact Or.inl (by simpa using hm)
  · rintro hcond ⟨hm, hr⟩
    rcases hcond with hclosed | hclear | hconf
    · rw [hm] at hclosed; cases hclosed
    · exact absurd hclear hr
    · exact run_flag h hconf hr

/-- Asks to reconfigure the stream. -/
def SbcConfigurationEvent.reconfigured : SbcConfigurationEvent := { stereo44100 with reconfigure := 1 }

/-- A stream is started, reconfigured and started again. -/
theorem reopens_requested_iff_reconfigured :
    ∃ s t : Sink (.reference true),
      RunsTo (fun _ _ => True) [.a2dp .streamStarted, .a2dp (.mediaCodecSbcConfiguration .reconfigured)] s ∧
      a2dpSinkPacketHandler .streamStarted s = .ok t ∧ Reopens s t ∧
      ((Reopens s t → ConfiguredSinceInit AsksToReconfigure
          [.a2dp .streamStarted, .a2dp (.mediaCodecSbcConfiguration .reconfigured)] s) ↔
        s.mediaInitialized = false ∨ s.configuration.reconfigure = 0 ∨
          ConfiguredSinceInit (fun _ => True)
            [.a2dp .streamStarted, .a2dp (.mediaCodecSbcConfiguration .reconfigured)] s) := by
  obtain ⟨s, hs, t, ht, hreopens⟩ : ∃ s : Sink (.reference true),
      RunsTo (fun _ _ => True) [.a2dp .streamStarted, .a2dp (.mediaCodecSbcConfiguration .reconfigured)] s ∧
      ∃ t, a2dpSinkPacketHandler .streamStarted s = .ok t ∧ Reopens s t :=
    ⟨_, .cons trivial rfl (.cons trivial rfl (.nil _)), _, rfl, rfl, rfl⟩
  exact ⟨s, t, hs, ht, hreopens, reopens_requested_iff hs ht⟩

/-- After one reconfiguration every resumed stream opens the pipeline again. -/
theorem suspend_resume_reopens :
    ∃ s t : Sink (.reference true),
      RunsTo (fun _ _ => True)
        ([.a2dp (.mediaCodecSbcConfiguration .stereo44100), .a2dp .streamStarted, .a2dp .streamSuspended,
            .a2dp (.mediaCodecSbcConfiguration .reconfigured)] ++
          [SinkEvent.a2dp .streamStarted] ++ [SinkEvent.a2dp .streamSuspended]) s ∧
      a2dpSinkPacketHandler .streamStarted s = .ok t ∧ Reopens s t ∧
      ¬ ConfiguredSinceInit AsksToReconfigure
        ([.a2dp (.mediaCodecSbcConfiguration .stereo44100), .a2dp .streamStarted, .a2dp .streamSuspended,
            .a2dp (.mediaCodecSbcConfiguration .reconfigured)] ++
          [SinkEvent.a2dp .streamStarted] ++ [SinkEvent.a2dp .streamSuspended]) s := by
  obtain ⟨s, hs, hstart⟩ : ∃ s : Sink (.reference true),
      RunsTo (fun _ _ => True)
        [.a2dp (.mediaCodecSbcConfiguration .stereo44100), .a2dp .streamStarted, .a2dp .streamSuspended,
          .a2dp (.mediaCodecSbcConfiguration .reconfigured)] s ∧
      ∃ t, step s (.a2dp .streamStarted) = .ok t ∧ s.inits ≠ t.inits ∧
        ∃ u, step t (.a2dp .streamSuspended) = .ok u ∧
          ∃ v, a2dpSinkPacketHandler .streamStarted u = .ok v ∧ Reopens u v :=
    ⟨_, .cons trivial rfl (.cons trivial rfl (.cons trivial rfl (.cons trivial rfl (.nil _)))), _, rfl, by decide, _,
      rfl, _, rfl, rfl, rfl⟩
  obtain ⟨t, ht, hinits, u, hu, v, hv, hreopens⟩ := hstart
  have hrun := run_snoc.2 ⟨s, hs, trivial, ht⟩
  refine ⟨u, v, run_snoc.2 ⟨t, hrun, trivial, hu⟩, hv, hreopens, ?_⟩
  intro hconf
  rcases (configuredSinceInit_snoc hrun hu).1 hconf with ⟨-, hconf | ⟨c, hc, -⟩⟩
  · exact hinits ((configuredSinceInit_snoc hs ht).1 hconf).1
  · cases hc

end BtstackPort
