import BtstackPort.Port.Machine
/-!
# The AVRCP connection record over whole runs (`avrcp.c:23-64`)

The record outlives the connections it describes. A session ends with `CONNECTION_RELEASED`, or with a
`CONNECTION_ESTABLISHED` that reports a failure; both clear the connection id, the former also the notification mask,
and neither the playing flag. What is left over is what the next peer's session starts with
(`avrcp_sessions_isolated_iff`).

There is one record, and no handler looks whose event it is given: the end of any session or attempt clears the id of
the connection that was established last (`avrcp_cid_tracks`).
-/

namespace BtstackPort

open FaultMachine Trace

variable {P : Platform}

def EndsSession : PortEvent → Prop
  | .avrcp (.connectionEstablished status _ _) => status ≠ 0
  | .avrcp (.connectionReleased _) => True
  | _ => False

/-- The connection id of a successful `CONNECTION_ESTABLISHED`. -/
def avrcpEstablishedCid : PortEvent → Option UInt16
  | .avrcp (.connectionEstablished status cid _) => if status ≠ 0 then none else some cid
  | _ => none

/-- The notification mask that survives the end of a session. -/
def AvrcpConnection.keptNotifications (c : AvrcpConnection) : PortEvent → UInt16
  | .avrcp (.connectionReleased _) => 0
  | _ => c.notificationsSupportedByTarget

theorem step_avrcpConnection {e : PortEvent} {s t : Port P} (h : Port.step s e = .ok t) :
    t.avrcpConnection = s.avrcpConnection.next e := congrArg PeerView.avrcpConnection (step_peer h).1

theorem run_avrcpConnection {ok : Port P → PortEvent → Prop} {es : List PortEvent} {s t : Port P}
    (h : Run Port.step ok s es t) : t.avrcpConnection = es.foldl AvrcpConnection.next s.avrcpConnection := by
  induction h with
  | nil s => rfl
  | cons _ he _ ih =>
    rw [ih, step_avrcpConnection he, List.foldl_cons]

theorem AvrcpConnection.next_of_ends (c : AvrcpConnection) {e : PortEvent} (he : EndsSession e) :
    c.next e = ⟨0, c.playing, c.keptNotifications e⟩ := by
  unfold EndsSession at he
  split at he
  · simp only [AvrcpConnection.next, AvrcpConnection.keptNotifications, if_pos he]
  · rfl
  · contradiction

/-- The end of a session is an AVRCP event, and these are always served. -/
theorem step_of_ends {e : PortEvent} (he : EndsSession e) (s : Port P) : ∃ t, Port.step s e = .ok t := by
  unfold EndsSession at he
  split at he
  · exact ⟨_, rfl⟩
  · exact ⟨_, rfl⟩
  · contradiction

/-! ## One session after another -/

/-- After the two histories have come to their ends, the same session looks the same. -/
def SessionsIsolated (P : Platform) (h₁ h₂ : List PortEvent) : Prop :=
  ∀ (cid : UInt16) (addr : BdAddr) (es : List PortEvent) (t₁ t₂ : Port P),
    Port.RunsTo (fun _ _ => True) (h₁ ++ .avrcp (.connectionEstablished 0 cid addr) :: es) t₁ →
    Port.RunsTo (fun _ _ => True) (h₂ ++ .avrcp (.connectionEstablished 0 cid addr) :: es) t₂ →
      t₁.avrcpConnection = t₂.avrcpConnection

/-- What the record holds once another session is established, and after. -/
theorem run_established {h es : List PortEvent} {e : PortEvent} {s t : Port P} {cid : UInt16} {addr : BdAddr}
    (hs : Port.RunsTo (fun _ _ => True) h s) (he : EndsSession e)
    (ht : Port.RunsTo (fun _ _ => True) ((h ++ [e]) ++ .avrcp (.connectionEstablished 0 cid addr) :: es) t) :
    t.avrcpConnection = es.foldl AvrcpConnection.next
      ⟨cid, s.avrcpConnection.playing, s.avrcpConnection.keptNotifications e⟩ := by
  obtain ⟨u, hu, ht⟩ := run_append.1 ht
  obtain ⟨s', hs', -, hstep⟩ := run_snoc.1 hu
  obtain rfl := hs.unique hs'
  rw [run_avrcpConnection ht, List.foldl_cons, step_avrcpConnection hstep, AvrcpConnection.next_of_ends _ he]
  rfl

/-- **Isolation**: two histories are isolated from the sessions that follow them exactly when the playing flag and the
notification mask that survive their ends agree; and such an end leaves nothing behind exactly when neither survives
it. -/
theorem avrcp_sessions_isolated_iff {h₁ h₂ : List PortEvent} {e₁ e₂ : PortEvent} {s₁ s₂ : Port P}
    (hs₁ : Port.RunsTo (fun _ _ => True) h₁ s₁) (hs₂ : Port.RunsTo (fun _ _ => True) h₂ s₂)
    (he₁ : EndsSession e₁) (he₂ : EndsSession e₂) :
    (SessionsIsolated P (h₁ ++ [e₁]) (h₂ ++ [e₂]) ↔
      s₁.avrcpConnection.playing = s₂.avrcpConnection.playing ∧
        s₁.avrcpConnection.keptNotifications e₁ = s₂.avrcpConnection.keptNotifications e₂) ∧
    ∀ t₁ : Port P, Port.step s₁ e₁ = .ok t₁ → t₁.avrcpConnection.avrcpCid = 0 ∧
      (t₁.avrcpConnection.playing = false ∧ t₁.avrcpConnection.notificationsSupportedByTarget = 0 ↔
        s₁.avrcpConnection.playing = false ∧ s₁.avrcpConnection.keptNotifications e₁ = 0) := by
  refine ⟨⟨?_, ?_⟩, ?_⟩
  · intro hiso
    -- the sessions are compared as soon as they are established
    obtain ⟨u₁, hu₁⟩ := step_of_ends he₁ s₁
    obtain ⟨u₂, hu₂⟩ := step_of_ends he₂ s₂
    have ht₁ := run_snoc.2 ⟨u₁, run_snoc.2 ⟨s₁, hs₁, trivial, hu₁⟩, trivial,
      (rfl : Port.step u₁ (.avrcp (.connectionEstablished 0 0 deviceAddr)) = .ok _)⟩
    have ht₂ := run_snoc.2 ⟨u₂, run_snoc.2 ⟨s₂, hs₂, trivial, hu₂⟩, trivial,
      (rfl : Port.step u₂ (.avrcp (.connectionEstablished 0 0 deviceAddr)) = .ok _)⟩
    have heq := hiso 0 deviceAddr [] _ _ ht₁ ht₂
    rw [run_established hs₁ he₁ ht₁, run_established hs₂ he₂ ht₂] at heq
    simpa using heq
  · rintro ⟨hplaying, hkept⟩ cid addr es t₁ t₂ ht₁ ht₂
    rw [run_established hs₁ he₁ ht₁, run_established hs₂ he₂ ht₂, hplaying, hkept]
  · intro t₁ ht₁
    rw [step_avrcpConnection ht₁, AvrcpConnection.next_of_ends _ he₁]
    exact ⟨rfl, Iff.rfl⟩

/-- A peer connects and plays. -/
def playingPeer : List PortEvent :=
  [.avrcp (.connectionEstablished 0 1 deviceAddr), .avrcpController (.playbackStatusChanged .playing)]

theorem avrcp_sessions_isolated_iff_playingPeer :
    ∃ s₁ s₂ : Port (.reference true),
      Port.RunsTo (fun _ _ => True) playingPeer s₁ ∧ Port.RunsTo (fun _ _ => True) [] s₂ ∧
      (SessionsIsolated (.reference true) (playingPeer ++ [.avrcp (.connectionReleased 1)])
          ([] ++ [.avrcp (.connectionReleased 1)]) ↔
        s₁.avrcpConnection.playing = s₂.avrcpConnection.playing ∧
          s₁.avrcpConnection.keptNotifications (.avrcp (.connectionReleased 1)) =
            s₂.avrcpConnection.keptNotifications (.avrcp (.connectionReleased 1))) ∧
      ∀ t₁ : Port (.reference true), Port.step s₁ (.avrcp (.connectionReleased 1)) = .ok t₁ →
        t₁.avrcpConnection.avrcpCid = 0 ∧
          (t₁.avrcpConnection.playing = false ∧ t₁.avrcpConnection.notificationsSupportedByTarget = 0 ↔
            s₁.avrcpConnection.playing = false ∧
              s₁.avrcpConnection.keptNotifications (.avrcp (.connectionReleased 1)) = 0) := by
  obtain ⟨s₁, hs₁⟩ : ∃ s : Port (.reference true), Port.RunsTo (fun _ _ => True) playingPeer s :=
    ⟨_, .cons trivial rfl (.cons trivial rfl (.nil _))⟩
  exact ⟨s₁, _, hs₁, .nil _, avrcp_sessions_isolated_iff hs₁ (.nil _) trivial trivial⟩

/-- A peer that played before it was released leaves its playing flag to the next session. -/
theorem playing_survives_release :
    ¬ SessionsIsolated (.reference true) (playingPeer ++ [.avrcp (.connectionReleased 1)])
      [.avrcp (.connectionReleased 1)] ∧
    ∃ t : Port (.reference true),
      Port.RunsTo (fun _ _ => True) (playingPeer ++ [PortEvent.avrcp (.connectionReleased 1)]) t ∧
        t.avrcpConnection.avrcpCid = 0 ∧ t.avrcpConnection.playing = true := by
  refine ⟨?_, _, .cons trivial rfl (.cons trivial rfl (.cons trivial rfl (.nil _))), rfl, rfl⟩
  intro hiso
  have heq := hiso 2 deviceAddr [] _ _
    (.cons trivial rfl (.cons trivial rfl (.cons trivial rfl (.cons trivial rfl (.nil _)))))
    (.cons trivial rfl (.cons trivial rfl (.nil _)))
  exact absurd (congrArg AvrcpConnection.playing heq) (by decide)

/-! ## Whose events are they? -/

/-- The connection `cid` was established last, and neither released since nor replaced by one the console asked for. -/
def AvrcpLive (cid : UInt16) : List PortEvent → Prop :=
  Since (avrcpEstablishedCid · = some cid) fun e =>
    avrcpEstablishedCid e ≠ none ∨ e = .avrcp (.connectionReleased cid) ∨ ∃ reply, e = .console 'c' reply

/-- No session has ended and no attempt has failed since `cid` was established. -/
def AvrcpUndisturbed (cid : UInt16) : List PortEvent → Prop := Since (avrcpEstablishedCid · = some cid) EndsSession

theorem AvrcpConnection.next_of_established (c : AvrcpConnection) {e : PortEvent} {cid : UInt16}
    (he : avrcpEstablishedCid e = some cid) : (c.next e).avrcpCid = cid := by
  unfold avrcpEstablishedCid at he
  split at he
  · split at he
    · cases he
    · rename_i hs
      cases he
      simp only [AvrcpConnection.next, if_neg hs]
  · cases he

/-- Any other event but those of the console leaves the id alone. -/
theorem AvrcpConnection.next_of_other (c : AvrcpConnection) {e : PortEvent} (he : avrcpEstablishedCid e = none)
    (hends : ¬ EndsSession e) (hdial : ¬ ∃ reply, e = .console 'c' reply) : (c.next e).avrcpCid = c.avrcpCid := by
  cases e with
  | sink e => rfl
  | avrcp e =>
    cases e with
    | connectionEstablished status cid addr =>
      -- a success is recognised, a failure ends the session
      by_cases hs : status = 0
      · simp [avrcpEstablishedCid, hs] at he
      · exact absurd hs hends
    | connectionReleased cid => exact absurd trivial hends
    | ignored => rfl
  | avrcpController e =>
    cases e with
    | getCapabilityEventId eventId => simp only [AvrcpConnection.next]; split <;> rfl
    | playbackStatusChanged playStatus => simp only [AvrcpConnection.next]; split <;> rfl
    | _ => rfl
  | avrcpTarget e => rfl
  | coverArt e => rfl
  | console cmd reply =>
    have hc : cmd ≠ 'c' := fun hc => hdial ⟨reply, by rw [hc]⟩
    simp [hc]

/-- **Tracking**: while the connection that was established last has not been released, its id is recorded as long as
no other session has ended and no attempt has failed, and no id is recorded from then on. -/
theorem avrcp_cid_tracks {cid : UInt16} {es : List PortEvent} {s : Port P}
    (h : Port.RunsTo (fun _ _ => True) es s) (hlive : AvrcpLive cid es) :
    (AvrcpUndisturbed cid es → s.avrcpConnection.avrcpCid = cid) ∧
      (¬ AvrcpUndisturbed cid es → s.avrcpConnection.avrcpCid = 0) := by
  refine h.history (I := fun es s => AvrcpLive cid es →
    (AvrcpUndisturbed cid es → s.avrcpConnection.avrcpCid = cid) ∧
      (¬ AvrcpUndisturbed cid es → s.avrcpConnection.avrcpCid = 0)) ?_ ?_ hlive
  · intro hlive
    exact absurd hlive since_nil
  · intro es s e t _ ih _ he hlive
    rw [AvrcpUndisturbed, since_snoc, step_avrcpConnection he]
    rcases since_snoc.1 hlive with hest | ⟨hlive, hstill⟩
    · refine ⟨fun _ => AvrcpConnection.next_of_established _ hest, fun hnot => ?_⟩
      exact absurd (Or.inl hest) hnot
    · have hnone : avrcpEstablishedCid e = none := by
        by_contra hsome
        exact hstill (Or.inl hsome)
      have hdial : ¬ ∃ reply, e = .console 'c' reply := fun hdial => hstill (Or.inr (Or.inr hdial))
      by_cases hends : EndsSession e
      · refine ⟨?_, fun _ => by rw [AvrcpConnection.next_of_ends _ hends]⟩
        rintro (hest | ⟨-, hnot⟩)
        · rw [hnone] at hest
          cases hest
        · exact absurd hends hnot
      · rw [AvrcpConnection.next_of_other _ hnone hends hdial]
        obtain ⟨htracked, hlost⟩ := ih hlive
        refine ⟨?_, fun hnot => hlost fun hund => hnot (Or.inr ⟨hund, hends⟩)⟩
        rintro (hest | ⟨hund, -⟩)
        · rw [hnone] at hest
          cases hest
        · exact htracked hund

/-- Connection 1 is established, then an attempt to establish connection 2 fails. -/
def secondAttempt : List PortEvent :=
  [.avrcp (.connectionEstablished 0 1 deviceAddr), .avrcp (.connectionEstablished 4 2 deviceAddr)]

theorem secondAttempt_live : AvrcpLive 1 secondAttempt := by
  refine ⟨[], _, _, rfl, rfl, ?_⟩
  simp [avrcpEstablishedCid]

theorem avrcp_cid_tracks_secondAttempt :
    ∃ s : Port (.reference true),
      Port.RunsTo (fun _ _ => True) secondAttempt s ∧ AvrcpLive 1 secondAttempt ∧
      (AvrcpUndisturbed 1 secondAttempt → s.avrcpConnection.avrcpCid = 1) ∧
      (¬ AvrcpUndisturbed 1 secondAttempt → s.avrcpConnection.avrcpCid = 0) := by
  obtain ⟨s, hs⟩ : ∃ s : Port (.reference true), Port.RunsTo (fun _ _ => True) secondAttempt s :=
    ⟨_, .cons trivial rfl (.cons trivial rfl (.nil _))⟩
  exact ⟨s, hs, secondAttempt_live, avrcp_cid_tracks hs secondAttempt_live⟩

/-- The failed attempt loses the live connection, and so does the release of another one. -/
theorem live_connection_lost :
    (∃ s : Port (.reference true), Port.RunsTo (fun _ _ => True) secondAttempt s ∧ AvrcpLive 1 secondAttempt ∧
      s.avrcpConnection.avrcpCid ≠ 1) ∧
    ∃ s : Port (.reference true),
      Port.RunsTo (fun _ _ => True)
        [.avrcp (.connectionEstablished 0 1 deviceAddr), .avrcp (.connectionEstablished 0 2 deviceAddr),
          .avrcp (.connectionReleased 1)] s ∧
      AvrcpLive 2 [.avrcp (.connectionEstablished 0 1 deviceAddr), .avrcp (.connectionEstablished 0 2 deviceAddr),
          .avrcp (.connectionReleased 1)] ∧
      s.avrcpConnection.avrcpCid ≠ 2 := by
  refine ⟨⟨_, .cons trivial rfl (.cons trivial rfl (.nil _)), secondAttempt_live, by decide⟩,
    _, .cons trivial rfl (.cons trivial rfl (.cons trivial rfl (.nil _))), ?_, by decide⟩
  refine ⟨[.avrcp (.connectionEstablished 0 1 deviceAddr)], _, _, rfl, rfl, ?_⟩
  simp [avrcpEstablishedCid]

end BtstackPort
