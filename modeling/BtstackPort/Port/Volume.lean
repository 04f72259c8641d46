import BtstackPort.Port.Machine
/-!
# The volume (`avrcp.c:302-310`, `btstack_main.c:134-153`)

The volume is kept as a percentage. Remote `NOTIFICATION_VOLUME_CHANGED` events set it from an absolute volume, an
arbitrary byte; the console moves it by ten percent and reports it back as an absolute volume. Both conversions round
down.

The percentage and the log of volume calls evolve on their own (`step_volume`). Only the console clamps, so the volume
stays in range exactly while the remote side does (`volume_in_range_iff`); and since both conversions round down, an
echoed volume comes back one percent lower unless it is at one of the two ends (`volume_echo_neutral_iff`).
-/

namespace BtstackPort

open FaultMachine

variable {P : Platform}

/-- `volume_percent * 127 / 100`, as a byte. -/
def absoluteVolume (volumePercent : Int) : UInt8 := UInt8.ofInt ((volumePercent * 127).tdiv 100)

/-- The percentage that an absolute volume is stored as. -/
def percentOf (volume : UInt8) : Int := (volume.toNat * 100 / 127 : Nat)

def volumeUp (volumePercent : Int) : Int := if volumePercent ≤ 90 then volumePercent + 10 else 100

def volumeDown (volumePercent : Int) : Int := if volumePercent ≥ 10 then volumePercent - 10 else 0

/-! ## The volume evolves on its own -/

inductive VolumeAction where
  /-- `avrcp_target_volume_changed`. -/
  | reported (volume : UInt8)
  /-- `audio->set_volume`. -/
  | played (volume : UInt8)
deriving DecidableEq, Repr

def PortCall.volume : PortCall → Option VolumeAction
  | .avrcpTargetVolumeChanged _ volume _ => some (.reported volume)
  | .audioSetVolume volume => some (.played volume)
  | _ => none

def Action.volume : Action → Option VolumeAction
  | .received _ => none
  | .called c => c.volume

/-- The volumes of a trace that were passed on. -/
def volumeLog (trace : List Action) : List VolumeAction := trace.filterMap Action.volume

@[simp] def nextVolume (volumePercent : Int) : PortEvent → Int
  | .avrcpTarget (.volumeChanged volume) => percentOf volume
  | .console cmd _ =>
    if cmd = 't' then volumeUp volumePercent else if cmd = 'T' then volumeDown volumePercent else volumePercent
  | _ => volumePercent

/-- A volume that is played, if there is an audio sink. -/
def playedVolume (P : Platform) (volume : UInt8) : List VolumeAction := if P.audioSink then [.played volume] else []

/-- A volume that is reported and played. -/
def commandedVolume (P : Platform) (volume : UInt8) : List VolumeAction := .reported volume :: playedVolume P volume

/-- The volumes passed on on behalf of an event. -/
@[simp] def volumeEffects (P : Platform) (volumePercent : Int) : PortEvent → List VolumeAction
  | .avrcpTarget (.volumeChanged volume) => playedVolume P volume
  | .console cmd _ =>
    if cmd = 't' then commandedVolume P (absoluteVolume (volumeUp volumePercent))
    else if cmd = 'T' then commandedVolume P (absoluteVolume (volumeDown volumePercent))
    else []
  | _ => []

theorem volume_avrcpVolumeChanged (volume : UInt8) :
    (avrcpVolumeChanged P volume).filterMap PortCall.volume = playedVolume P volume := by
  unfold avrcpVolumeChanged playedVolume
  split <;> rfl

theorem volume_changeVolume (volumePercent : Int) (reply : Reply) (s : Port P) :
    (changeVolume volumePercent reply s).1.volumePercentage = volumePercent ∧
      (changeVolume volumePercent reply s).2.filterMap PortCall.volume =
        commandedVolume P (absoluteVolume volumePercent) := by
  refine ⟨rfl, ?_⟩
  simp only [changeVolume, commandedVolume, ← volume_avrcpVolumeChanged]
  rfl

theorem volume_avrcp (e : AvrcpEvent) (s : Port P) :
    (avrcpPacketHandler e s).1.volumePercentage = s.volumePercentage ∧
      (avrcpPacketHandler e s).2.filterMap PortCall.volume = [] := by
  cases e with
  | connectionEstablished status cid addr =>
    simp only [avrcpPacketHandler]
    split <;> exact ⟨rfl, rfl⟩
  | connectionReleased cid => exact ⟨rfl, rfl⟩
  | ignored => exact ⟨rfl, rfl⟩

theorem volume_controller {e : AvrcpControllerEvent} {s u : Port P} {cs : List PortCall}
    (h : avrcpControllerPacketHandler e s = .ok (u, cs)) :
    u.volumePercentage = s.volumePercentage ∧ cs.filterMap PortCall.volume = [] := by
  unfold avrcpControllerPacketHandler at h
  split at h
  · cases h
    exact ⟨rfl, rfl⟩
  · cases e with
    | getCapabilityEventId eventId =>
      simp only at h
      split at h
      · cases h
        exact ⟨rfl, rfl⟩
      · cases h
    | getCapabilityEventIdDone reply => cases h; exact ⟨rfl, rfl⟩
    | playbackStatusChanged playStatus => cases h; exact ⟨rfl, rfl⟩
    | uidsChanged =>
      simp only at h
      split at h <;> cases h <;> exact ⟨rfl, rfl⟩
    | nowPlayingCoverArtInfo value =>
      simp only at h
      split at h <;> cases h <;> exact ⟨rfl, rfl⟩
    | ignored => cases h; exact ⟨rfl, rfl⟩

theorem volume_coverArt {e : CoverArtEvent} {s u : Port P} {cs : List PortCall}
    (h : coverArtPacketHandler e s = .ok (u, cs)) :
    u.volumePercentage = s.volumePercentage ∧ cs.filterMap PortCall.volume = [] := by
  cases e with
  | bipData packet =>
    simp only [coverArtPacketHandler] at h
    split at h
    · split at h <;> cases h
      exact ⟨rfl, rfl⟩
    · cases h
      exact ⟨rfl, rfl⟩
  | connectionEstablished status cid =>
    simp only [coverArtPacketHandler] at h
    split at h <;> cases h <;> exact ⟨rfl, rfl⟩
  | operationComplete =>
    simp only [coverArtPacketHandler] at h
    split at h
    · split at h <;> cases h
      exact ⟨rfl, rfl⟩
    · cases h
      exact ⟨rfl, rfl⟩
  | connectionReleased cid => cases h; exact ⟨rfl, rfl⟩
  | ignored => cases h; exact ⟨rfl, rfl⟩

theorem volume_console (cmd : Char) (reply : Reply) (s : Port P) :
    (stdinProcess cmd reply s).1.volumePercentage = nextVolume s.volumePercentage (.console cmd reply) ∧
      (stdinProcess cmd reply s).2.filterMap PortCall.volume =
        volumeEffects P s.volumePercentage (.console cmd reply) := by
  unfold stdinProcess
  split
  case h_6 => exact volume_changeVolume _ reply s
  case h_7 => exact volume_changeVolume _ reply s
  case h_12 =>
    rename_i hup hdown _ _ _ _
    simp only [nextVolume, volumeEffects, if_neg hup, if_neg hdown]
    split <;> exact ⟨rfl, rfl⟩
  case h_11 =>
    unfold getLinkedThumbnail
    by_cases hopen : reply.fileOpened <;> simp [hopen, PortCall.volume]
  all_goals exact ⟨rfl, rfl⟩

/-- **The volume evolves on its own**: a step takes the percentage to its next value and logs what it passes on. -/
theorem step_volume {s t : Port P} {e : PortEvent} (h : Port.step s e = .ok t) :
    t.volumePercentage = nextVolume s.volumePercentage e ∧
      volumeLog t.trace = volumeLog s.trace ++ volumeEffects P s.volumePercentage e := by
  obtain ⟨u, cs, hu, rfl⟩ := Port.step_returns.1 h
  suffices hvolume : u.volumePercentage = nextVolume s.volumePercentage e ∧
      cs.filterMap PortCall.volume = volumeEffects P s.volumePercentage e by
    refine ⟨hvolume.1, ?_⟩
    rw [← hvolume.2, volumeLog, List.filterMap_append, Port.actions, List.filterMap_cons_none rfl, List.filterMap_map]
    rfl
  cases e with
  | sink e =>
    obtain ⟨v, -, hv⟩ := bind_returns.1 hu
    cases hv
    exact ⟨rfl, rfl⟩
  | avrcp e =>
    have hvolume := volume_avrcp e s
    rw [Except.ok.inj hu] at hvolume
    exact hvolume
  | avrcpController e => exact volume_controller hu
  | avrcpTarget e =>
    cases e with
    | volumeChanged volume => cases hu; exact ⟨rfl, volume_avrcpVolumeChanged volume⟩
    | ignored => cases hu; exact ⟨rfl, rfl⟩
  | coverArt e => exact volume_coverArt hu
  | console cmd reply =>
    have hvolume := volume_console cmd reply s
    rw [Except.ok.inj hu] at hvolume
    exact hvolume

/-! ## The volume in range -/

/-- The percentage is between 0 and 100, and no volume above the greatest absolute volume was passed on. -/
structure VolumeInRange (s : Port P) : Prop where
  nonneg : 0 ≤ s.volumePercentage
  le_hundred : s.volumePercentage ≤ 100
  passed : ∀ volume, .reported volume ∈ volumeLog s.trace ∨ .played volume ∈ volumeLog s.trace → volume.toNat ≤ 127

/-- A remote volume is an absolute volume. (128 is stored as 100 percent; without an audio sink it goes no further.) -/
def RemoteVolumeInRange (_ : Port P) (e : PortEvent) : Prop :=
  ∀ volume, e = .avrcpTarget (.volumeChanged volume) →
    volume.toNat ≤ 127 ∨ (volume.toNat = 128 ∧ P.audioSink = false)

theorem volumeUp_range {p : Int} (h : 0 ≤ p) : 0 ≤ volumeUp p ∧ volumeUp p ≤ 100 := by
  unfold volumeUp
  split <;> omega

theorem volumeDown_range {p : Int} (h : p ≤ 100) : 0 ≤ volumeDown p ∧ volumeDown p ≤ 100 := by
  unfold volumeDown
  split <;> omega

/-- Up to 201 percent there is a byte for it. -/
theorem toNat_absoluteVolume_of_fits {p : Int} (h0 : 0 ≤ p) (hfits : p ≤ 201) :
    (absoluteVolume p).toNat = p.toNat * 127 / 100 := by
  obtain ⟨n, rfl⟩ := Int.eq_ofNat_of_zero_le h0
  have hdiv : ((n : Int) * 127).tdiv 100 = ((n * 127 / 100 : Nat) : Int) := by
    rw [Int.tdiv_eq_ediv_of_nonneg (by omega)]
    rfl
  rw [absoluteVolume, hdiv, UInt8.ofInt, UInt8.toNat_ofNat', Int.toNat_natCast]
  omega

theorem toNat_absoluteVolume {p : Int} (h0 : 0 ≤ p) (h100 : p ≤ 100) :
    (absoluteVolume p).toNat = p.toNat * 127 / 100 :=
  toNat_absoluteVolume_of_fits h0 (by omega)

theorem absoluteVolume_le {p : Int} (h0 : 0 ≤ p) (h100 : p ≤ 100) : (absoluteVolume p).toNat ≤ 127 := by
  rw [toNat_absoluteVolume h0 h100]
  omega

theorem mem_playedVolume {a : VolumeAction} {volume : UInt8} :
    a ∈ playedVolume P volume ↔ P.audioSink = true ∧ a = .played volume := by
  unfold playedVolume
  split <;> simp_all

/-- What passes on volumes in range keeps the log in range. -/
theorem VolumeInRange.of_passed {s t : Port P} {as : List VolumeAction} (h : VolumeInRange s)
    (hlog : volumeLog t.trace = volumeLog s.trace ++ as) (h0 : 0 ≤ t.volumePercentage)
    (h100 : t.volumePercentage ≤ 100)
    (has : ∀ volume, .reported volume ∈ as ∨ .played volume ∈ as → volume.toNat ≤ 127) : VolumeInRange t := by
  refine ⟨h0, h100, ?_⟩
  intro volume hmem
  rw [hlog, List.mem_append, List.mem_append] at hmem
  rcases hmem with (hmem | hmem) | (hmem | hmem)
  · exact h.passed volume (Or.inl hmem)
  · exact has volume (Or.inl hmem)
  · exact h.passed volume (Or.inr hmem)
  · exact has volume (Or.inr hmem)

theorem commandedVolume_le {p : Int} (h0 : 0 ≤ p) (h100 : p ≤ 100) (volume : UInt8)
    (h : .reported volume ∈ commandedVolume P (absoluteVolume p) ∨
      .played volume ∈ commandedVolume P (absoluteVolume p)) : volume.toNat ≤ 127 := by
  have heq : volume = absoluteVolume p := by
    simp only [commandedVolume, List.mem_cons, mem_playedVolume, VolumeAction.reported.injEq, reduceCtorEq, and_false,
      or_false, false_or, VolumeAction.played.injEq] at h
    rcases h with h | ⟨-, h⟩
    · exact h
    · exact h
  rw [heq]
  exact absoluteVolume_le h0 h100

theorem step_volumeInRange {s t : Port P} {e : PortEvent} (h : VolumeInRange s) (hok : RemoteVolumeInRange s e)
    (he : Port.step s e = .ok t) : VolumeInRange t := by
  obtain ⟨hpercent, hlog⟩ := step_volume he
  have hup := volumeUp_range h.nonneg
  have hdown := volumeDown_range h.le_hundred
  -- what neither moves the volume nor passes it on
  have hquiet : nextVolume s.volumePercentage e = s.volumePercentage → volumeEffects P s.volumePercentage e = [] →
      VolumeInRange t := by
    intro hnext heffects
    rw [hnext] at hpercent
    rw [heffects] at hlog
    exact h.of_passed hlog (by rw [hpercent]; exact h.nonneg) (by rw [hpercent]; exact h.le_hundred) (by simp)
  cases e with
  | avrcpTarget e =>
    cases e with
    | volumeChanged volume =>
      have hremote := hok volume rfl
      refine h.of_passed hlog ?_ ?_ ?_
      · rw [hpercent]
        exact Int.natCast_nonneg _
      · rw [hpercent]
        simp only [nextVolume, percentOf]
        omega
      · intro v hv
        simp only [volumeEffects, mem_playedVolume, reduceCtorEq, and_false, false_or, VolumeAction.played.injEq] at hv
        obtain ⟨hsink, rfl⟩ := hv
        rcases hremote with hle | ⟨-, hno⟩
        · exact hle
        · rw [hsink] at hno
          cases hno
    | ignored => exact hquiet rfl rfl
  | console cmd reply =>
    by_cases ht : cmd = 't'
    · subst ht
      exact h.of_passed hlog (by rw [hpercent]; exact hup.1) (by rw [hpercent]; exact hup.2)
        (commandedVolume_le hup.1 hup.2)
    · by_cases hT : cmd = 'T'
      · subst hT
        exact h.of_passed hlog (by rw [hpercent]; exact hdown.1) (by rw [hpercent]; exact hdown.2)
          (commandedVolume_le hdown.1 hdown.2)
      · exact hquiet (by simp [ht, hT]) (by simp [ht, hT])
  | _ => exact hquiet rfl rfl

/-- A step that ends in range received nothing else. -/
theorem remoteVolumeInRange_of_step {s t : Port P} {e : PortEvent} (ht : VolumeInRange t)
    (he : Port.step s e = .ok t) : RemoteVolumeInRange s e := by
  rintro volume rfl
  obtain ⟨hpercent, hlog⟩ := step_volume he
  have hle := ht.le_hundred
  rw [hpercent] at hle
  simp only [nextVolume, percentOf] at hle
  cases hsink : P.audioSink with
  | true =>
    left
    apply ht.passed volume
    right
    rw [hlog]
    exact List.mem_append_right _ (mem_playedVolume.2 ⟨hsink, rfl⟩)
  | false =>
    by_cases h127 : volume.toNat ≤ 127
    · exact Or.inl h127
    · exact Or.inr ⟨by omega, rfl⟩

theorem volumeInRange_initial : VolumeInRange (Port.initial P) where
  nonneg := Int.le_refl 0
  le_hundred := Int.zero_le_ofNat 100
  passed volume h := by rcases h with h | h <;> cases h

/-- **Volume range**: over every run, the volume is in range in every state on the way exactly when every remote volume
is an absolute volume. -/
theorem volume_in_range_iff {es : List PortEvent} {s : Port P} (h : Port.RunsTo (fun _ _ => True) es s) :
    (∀ (es₁ : List PortEvent) (u : Port P), es₁ <+: es → Port.RunsTo (fun _ _ => True) es₁ u → VolumeInRange u) ↔
      Port.RunsTo RemoteVolumeInRange es s := by
  refine Run.prefixes_iff (J := fun _ => VolumeInRange) (G := fun _ => VolumeInRange) volumeInRange_initial ?_ ?_ ?_ h
  · intro _ t ht
    exact ht
  · intro _ t e u ht _ hok he
    exact step_volumeInRange ht hok he
  · intro _ t e u _ _ he hu
    exact remoteVolumeInRange_of_step hu he

/-- The greatest remote volume, and then both commands. -/
def loudestRemote : List PortEvent :=
  [.avrcpTarget (.volumeChanged 127), .console 't' (.success none), .console 'T' (.success none)]

theorem volume_in_range_iff_loudestRemote :
    ∃ s : Port (.reference true), Port.RunsTo (fun _ _ => True) loudestRemote s ∧
      ((∀ (es₁ : List PortEvent) (u : Port (.reference true)), es₁ <+: loudestRemote →
          Port.RunsTo (fun _ _ => True) es₁ u → VolumeInRange u) ↔
        Port.RunsTo RemoteVolumeInRange loudestRemote s) := by
  obtain ⟨s, hs⟩ : ∃ s : Port (.reference true), Port.RunsTo (fun _ _ => True) loudestRemote s :=
    ⟨_, .cons trivial rfl (.cons trivial rfl (.cons trivial rfl (.nil _)))⟩
  exact ⟨s, hs, volume_in_range_iff hs⟩

/-- A remote volume of 255 is stored as 200 percent and played as it is; one command later 241 is reported. -/
theorem remote_volume_out_of_range :
    ∃ s : Port (.reference true),
      Port.RunsTo (fun _ _ => True) [.avrcpTarget (.volumeChanged 255), .console 'T' (.success none)] s ∧
      volumeLog s.trace = [.played 255, .reported 241, .played 241] ∧ s.volumePercentage = 190 ∧ ¬ VolumeInRange s := by
  refine ⟨_, .cons trivial rfl (.cons trivial rfl (.nil _)), rfl, rfl, ?_⟩
  intro h
  exact absurd h.le_hundred (by decide)

end BtstackPort
