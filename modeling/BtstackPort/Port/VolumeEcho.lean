import BtstackPort.Port.Volume
/-!
# Echoed volumes (`btstack_main.c:134-153`, `avrcp.c:302-310`)

A remote side may send back the absolute volume it was told. Two runs are compared: one of `'t'` and `'T'` commands
with echoes in between, and the one of the commands alone (`volumeCommands`). As long as echoes come only at 0 and 100
percent the two runs agree (`Echoed`); any other echo lowers the percentage by one.
-/

namespace BtstackPort

open FaultMachine

variable {P : Platform}

def VolumeAction.reportedVolume : VolumeAction → Option UInt8
  | .reported volume => some volume
  | .played _ => none

def VolumeAction.playedVolume : VolumeAction → Option UInt8
  | .reported _ => none
  | .played volume => some volume

/-- The volume last reported to the remote side. -/
def lastReported (trace : List Action) : Option UInt8 := latest VolumeAction.reportedVolume (volumeLog trace)

/-- The volume last given to the audio sink. -/
def lastPlayed (trace : List Action) : Option UInt8 := latest VolumeAction.playedVolume (volumeLog trace)

def isVolumeCommand : PortEvent → Bool
  | .console cmd _ => cmd = 't' || cmd = 'T'
  | _ => false

/-- The commands among some events. -/
def volumeCommands (es : List PortEvent) : List PortEvent := es.filter isVolumeCommand

theorem volumeCommands_snoc_of_command {es : List PortEvent} {e : PortEvent} (h : isVolumeCommand e = true) :
    volumeCommands (es ++ [e]) = volumeCommands es ++ [e] := by
  rw [volumeCommands, List.filter_append, List.filter_cons_of_pos h, List.filter_nil]
  rfl

theorem volumeCommands_snoc_of_echo {es : List PortEvent} {volume : UInt8} :
    volumeCommands (es ++ [.avrcpTarget (.volumeChanged volume)]) = volumeCommands es := by
  rw [volumeCommands, List.filter_append]
  exact List.append_nil _

/-- A volume command, or the volume last reported coming back. -/
def CommandOrEcho (s : Port P) (e : PortEvent) : Prop :=
  isVolumeCommand e = true ∨ ∃ volume, lastReported s.trace = some volume ∧ e = .avrcpTarget (.volumeChanged volume)

/-- Same percentage, same volume at the audio sink. -/
structure SameVolume (s u : Port P) : Prop where
  percent : s.volumePercentage = u.volumePercentage
  played : lastPlayed s.trace = lastPlayed u.trace

/-- A volume comes back only at one of the two ends. -/
def EchoAtLimit (s : Port P) (e : PortEvent) : Prop :=
  isVolumeCommand e = false → s.volumePercentage = 0 ∨ s.volumePercentage = 100

/-- Both conversions round down, so together they lose one percent wherever the first is not exact. -/
theorem percentOf_absoluteVolume_eq_iff {p : Int} (h0 : 0 ≤ p) (h100 : p ≤ 100) :
    percentOf (absoluteVolume p) = p ↔ p = 0 ∨ p = 100 := by
  rw [percentOf, toNat_absoluteVolume h0 h100]
  omega

/-! ## What a command and an echo do -/

/-- A command reports the new percentage and plays it. -/
theorem command_effects {e : PortEvent} (h : isVolumeCommand e = true) (p : Int) :
    volumeEffects P p e = commandedVolume P (absoluteVolume (nextVolume p e)) := by
  cases e with
  | console cmd reply =>
    simp only [isVolumeCommand, Bool.or_eq_true, decide_eq_true_eq] at h
    rcases h with rfl | rfl <;> rfl
  | _ => cases h

theorem command_range {e : PortEvent} (h : isVolumeCommand e = true) {p : Int} (h0 : 0 ≤ p) (h100 : p ≤ 100) :
    0 ≤ nextVolume p e ∧ nextVolume p e ≤ 100 := by
  cases e with
  | console cmd reply =>
    simp only [isVolumeCommand, Bool.or_eq_true, decide_eq_true_eq] at h
    rcases h with rfl | rfl
    · exact volumeUp_range h0
    · exact volumeDown_range h100
  | _ => cases h

theorem command_returns {e : PortEvent} (h : isVolumeCommand e = true) (u : Port P) : ∃ v, Port.step u e = .ok v := by
  cases e with
  | console cmd reply => exact ⟨_, rfl⟩
  | _ => cases h

theorem lastReported_append {trace trace' : List Action} {as : List VolumeAction}
    (h : volumeLog trace' = volumeLog trace ++ as) :
    lastReported trace' = (latest VolumeAction.reportedVolume as).or (lastReported trace) := by
  rw [lastReported, h, latest_append]
  rfl

theorem lastPlayed_append {trace trace' : List Action} {as : List VolumeAction}
    (h : volumeLog trace' = volumeLog trace ++ as) :
    lastPlayed trace' = (latest VolumeAction.playedVolume as).or (lastPlayed trace) := by
  rw [lastPlayed, h, latest_append]
  rfl

theorem command_last {s t : Port P} {e : PortEvent} (h : isVolumeCommand e = true) (he : Port.step s e = .ok t) :
    lastReported t.trace = some (absoluteVolume t.volumePercentage) ∧
      lastPlayed t.trace = if P.audioSink then some (absoluteVolume t.volumePercentage) else lastPlayed s.trace := by
  obtain ⟨hpercent, hlog⟩ := step_volume he
  rw [command_effects h, ← hpercent] at hlog
  rw [lastReported_append hlog, lastPlayed_append hlog, commandedVolume, BtstackPort.playedVolume]
  split <;> exact ⟨rfl, rfl⟩

theorem echo_last {s t : Port P} {volume : UInt8} (he : Port.step s (.avrcpTarget (.volumeChanged volume)) = .ok t) :
    t.volumePercentage = percentOf volume ∧ lastReported t.trace = lastReported s.trace ∧
      lastPlayed t.trace = if P.audioSink then some volume else lastPlayed s.trace := by
  obtain ⟨hpercent, hlog⟩ := step_volume he
  refine ⟨hpercent, ?_⟩
  rw [lastReported_append hlog, lastPlayed_append hlog, volumeEffects, BtstackPort.playedVolume]
  split <;> exact ⟨rfl, rfl⟩

/-! ## The two runs -/

/-- The two runs agree, and what was reported last is what the percentage amounts to. -/
structure Echoed (s u : Port P) : Prop extends SameVolume s u where
  nonneg : 0 ≤ s.volumePercentage
  le_hundred : s.volumePercentage ≤ 100
  reported : ∀ volume, lastReported s.trace = some volume → volume = absoluteVolume s.volumePercentage
  sink : P.audioSink = true → lastPlayed s.trace = lastReported s.trace

theorem echoed_initial : Echoed (Port.initial P) (Port.initial P) where
  percent := rfl
  played := rfl
  nonneg := Int.le_refl 0
  le_hundred := Int.zero_le_ofNat 100
  reported volume h := by cases h
  sink _ := rfl

theorem Echoed.command {s t u v : Port P} {e : PortEvent} (h : Echoed s u) (hcmd : isVolumeCommand e = true)
    (ht : Port.step s e = .ok t) (hv : Port.step u e = .ok v) : Echoed t v := by
  obtain ⟨hreported, hplayed⟩ := command_last hcmd ht
  obtain ⟨-, hplayed'⟩ := command_last hcmd hv
  have hpercent := (step_volume ht).1
  have hsame : t.volumePercentage = v.volumePercentage := by
    rw [hpercent, (step_volume hv).1, h.percent]
  have hrange := command_range hcmd h.nonneg h.le_hundred
  refine ⟨⟨hsame, ?_⟩, ?_, ?_, ?_, ?_⟩
  · rw [hplayed, hplayed', hsame, h.played]
  · rw [hpercent]
    exact hrange.1
  · rw [hpercent]
    exact hrange.2
  · intro volume hv
    rw [hreported, Option.some.injEq] at hv
    exact hv.symm
  · intro hsink
    rw [hplayed, hreported, if_pos hsink]

theorem Echoed.echo {s t u : Port P} {volume : UInt8} (h : Echoed s u) (hlast : lastReported s.trace = some volume)
    (hlimit : s.volumePercentage = 0 ∨ s.volumePercentage = 100)
    (ht : Port.step s (.avrcpTarget (.volumeChanged volume)) = .ok t) : Echoed t u := by
  obtain ⟨hpercent, hreported, hplayed⟩ := echo_last ht
  have hvolume := h.reported volume hlast
  have hback : t.volumePercentage = s.volumePercentage := by
    rw [hpercent, hvolume]
    exact (percentOf_absoluteVolume_eq_iff h.nonneg h.le_hundred).2 hlimit
  have hsame : lastPlayed t.trace = lastPlayed s.trace := by
    rw [hplayed]
    split
    · rename_i hsink
      rw [h.sink hsink, hlast]
    · rfl
  refine ⟨⟨?_, ?_⟩, ?_, ?_, ?_, ?_⟩
  · rw [hback]
    exact h.percent
  · rw [hsame]
    exact h.played
  · rw [hback]
    exact h.nonneg
  · rw [hback]
    exact h.le_hundred
  · rw [hback, hreported]
    exact h.reported
  · intro hsink
    rw [hsame, hreported]
    exact h.sink hsink

/-- **Echoes**: in every run of commands and echoes, percentage and played volume are on the whole way those of the
commands alone exactly when volumes come back only at 0 and 100 percent. -/
theorem volume_echo_neutral_iff {es : List PortEvent} {s : Port P} (h : Port.RunsTo CommandOrEcho es s) :
    (∀ (es₁ : List PortEvent) (s₁ : Port P), es₁ <+: es → Port.RunsTo CommandOrEcho es₁ s₁ →
        ∀ u : Port P, Port.RunsTo (fun _ _ => True) (volumeCommands es₁) u → SameVolume s₁ u) ↔
      Port.RunsTo EchoAtLimit es s := by
  refine Run.prefixes_iff
    (J := fun es s => ∃ u : Port P, Port.RunsTo (fun _ _ => True) (volumeCommands es) u ∧ Echoed s u)
    (G := fun es s => ∀ u : Port P, Port.RunsTo (fun _ _ => True) (volumeCommands es) u → SameVolume s u)
    ⟨_, .nil _, echoed_initial⟩ ?_ ?_ ?_ h
  · intro es s ⟨u, hu, hsame⟩ v hv
    obtain rfl := hu.unique hv
    exact hsame.toSameVolume
  · intro es s e t ⟨u, hu, hsame⟩ hbase hlimit he
    rcases hbase with hcmd | ⟨volume, hlast, rfl⟩
    · obtain ⟨v, hv⟩ := command_returns hcmd u
      refine ⟨v, ?_, hsame.command hcmd he hv⟩
      rw [volumeCommands_snoc_of_command hcmd]
      exact run_snoc.2 ⟨u, hu, trivial, hv⟩
    · refine ⟨u, ?_, hsame.echo hlast (hlimit rfl) he⟩
      rw [volumeCommands_snoc_of_echo]
      exact hu
  · intro es s e t ⟨u, hu, hsame⟩ hbase he hneutral hecho
    rcases hbase with hcmd | ⟨volume, hlast, rfl⟩
    · rw [hcmd] at hecho
      cases hecho
    · have hback := (hneutral u (by rw [volumeCommands_snoc_of_echo]; exact hu)).percent
      rw [(echo_last he).1, ← hsame.percent, hsame.reported volume hlast] at hback
      exact (percentOf_absoluteVolume_eq_iff hsame.nonneg hsame.le_hundred).1 hback

/-- Down at 0 percent, with the reported volume coming back twice. -/
def echoAtZero : List PortEvent :=
  [.console 'T' (.success none), .avrcpTarget (.volumeChanged 0), .avrcpTarget (.volumeChanged 0)]

theorem volume_echo_neutral_iff_echoAtZero :
    ∃ s : Port (.reference true), Port.RunsTo CommandOrEcho echoAtZero s ∧
      ((∀ (es₁ : List PortEvent) (s₁ : Port (.reference true)), es₁ <+: echoAtZero →
          Port.RunsTo CommandOrEcho es₁ s₁ → ∀ u : Port (.reference true),
            Port.RunsTo (fun _ _ => True) (volumeCommands es₁) u → SameVolume s₁ u) ↔
        Port.RunsTo EchoAtLimit echoAtZero s) := by
  obtain ⟨s, hs⟩ : ∃ s : Port (.reference true), Port.RunsTo CommandOrEcho echoAtZero s :=
    ⟨_, .cons (Or.inl rfl) rfl (.cons (Or.inr ⟨0, rfl, rfl⟩) rfl (.cons (Or.inr ⟨0, rfl, rfl⟩) rfl (.nil _)))⟩
  exact ⟨s, hs, volume_echo_neutral_iff hs⟩

/-- Up to 10 percent, which is reported as 12; 12 comes back and is stored as 9 percent; up again, to 19 percent and an
absolute volume of 24, where the commands alone lead to 20 percent and 25. -/
theorem volume_echo_drifts :
    ∃ s u : Port (.reference true),
      Port.RunsTo CommandOrEcho
        [.console 't' (.success none), .avrcpTarget (.volumeChanged 12), .console 't' (.success none)] s ∧
      Port.RunsTo (fun _ _ => True) [.console 't' (.success none), .console 't' (.success none)] u ∧
      s.volumePercentage = 19 ∧ lastPlayed s.trace = some 24 ∧ u.volumePercentage = 20 ∧ lastPlayed u.trace = some 25 :=
  ⟨_, _, .cons (Or.inl rfl) rfl (.cons (Or.inr ⟨12, rfl, rfl⟩) rfl (.cons (Or.inl rfl) rfl (.nil _))),
    .cons trivial rfl (.cons trivial rfl (.nil _)), rfl, rfl, rfl, rfl⟩

end BtstackPort
