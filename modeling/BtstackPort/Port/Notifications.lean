import BtstackPort.Port.AvrcpSession
/-!
# The notifications a target supports (`avrcp.c:84-88`)

The target lists the notifications it supports with one `GET_CAPABILITY_EVENT_ID` event each, and the controller
handler ors `1 << event_id` into a mask of 16 bits. The id is a byte of the target's choosing: below 16 it sets its own
bit, from 16 to 30 the shift is cut off by the mask, and from 31 on it leaves the range of `int`
(`notifications_supported_iff`).
-/

namespace BtstackPort

open FaultMachine

variable {P : Platform}

/-- The target supports the notification `eventId`. -/
def supports (eventId : UInt8) : PortEvent := .avrcpController (.getCapabilityEventId eventId)

abbrev Port.notifications (s : Port P) : UInt16 := s.avrcpConnection.notificationsSupportedByTarget

/-! ## The mask -/

theorem testBit_addNotification (mask : UInt16) (eventId : UInt8) {i : Nat} (hi : i < 16) :
    (addNotification mask eventId).toNat.testBit i = true ↔ mask.toNat.testBit i = true ∨ eventId.toNat = i := by
  have hshift : (UInt16.ofNat (1 <<< eventId.toNat)).toNat.testBit i = decide (eventId.toNat = i) := by
    rw [UInt16.toNat_ofNat', Nat.testBit_mod_two_pow, decide_eq_true hi, Bool.true_and, Nat.one_shiftLeft,
      Nat.testBit_two_pow]
  rw [addNotification, UInt16.toNat_or, Nat.testBit_or, hshift, Bool.or_eq_true, decide_eq_true_eq]

/-- Every id sets its own bit and no other; ids that have none set nothing. -/
theorem testBit_foldl_addNotification (ids : List UInt8) (mask : UInt16) {i : Nat} (hi : i < 16) :
    (ids.foldl addNotification mask).toNat.testBit i = true ↔
      mask.toNat.testBit i = true ∨ ∃ eventId ∈ ids, eventId.toNat = i := by
  induction ids generalizing mask with
  | nil => simp
  | cons eventId ids ih =>
    rw [List.foldl_cons, ih, testBit_addNotification _ _ hi, List.exists_mem_cons_iff, or_assoc]

/-! ## The events -/

/-- While a connection is recorded, the event is served exactly when the shift stays within `int`. -/
theorem supports_step {s : Port P} (hcid : s.avrcpConnection.avrcpCid ≠ 0) (eventId : UInt8) :
    (eventId.toNat < 31 ∧ ∃ t, Port.step s (supports eventId) = .ok t ∧
        t.avrcpConnection.avrcpCid = s.avrcpConnection.avrcpCid ∧
        t.notifications = addNotification s.notifications eventId) ∨
      (31 ≤ eventId.toNat ∧ Port.step s (supports eventId) = .error (.shiftOutOfRange eventId)) := by
  by_cases h : eventId.toNat < 31
  · obtain ⟨t, ht⟩ : ∃ t, Port.step s (supports eventId) = .ok t := by
      simp only [Port.step, supports, Port.handle, avrcpControllerPacketHandler, if_neg hcid, if_pos h]
      exact ⟨_, rfl⟩
    have hnext := step_avrcpConnection ht
    simp only [supports, AvrcpConnection.next, if_neg hcid] at hnext
    exact Or.inl ⟨h, t, ht, by rw [hnext], congrArg AvrcpConnection.notificationsSupportedByTarget hnext⟩
  · refine Or.inr ⟨by omega, ?_⟩
    simp only [Port.step, supports, Port.handle, avrcpControllerPacketHandler, if_neg hcid, if_neg h]
    rfl

/-- All of them are served exactly when all of them are below 31; the mask collects them. -/
theorem supports_run {s : Port P} (hcid : s.avrcpConnection.avrcpCid ≠ 0) (ids : List UInt8) :
    ((∃ t, Run Port.step (fun _ _ => True) s (ids.map supports) t) ↔ ∀ eventId ∈ ids, eventId.toNat < 31) ∧
      ∀ t, Run Port.step (fun _ _ => True) s (ids.map supports) t →
        t.notifications = ids.foldl addNotification s.notifications := by
  induction ids generalizing s with
  | nil =>
    refine ⟨iff_of_true ⟨s, .nil s⟩ (by simp), ?_⟩
    intro t ht
    cases ht
    rfl
  | cons eventId ids ih =>
    rcases supports_step hcid eventId with ⟨hlt, u, hu, hcidu, hmask⟩ | ⟨hge, hfault⟩
    · obtain ⟨hserved, hcollected⟩ := ih (s := u) (by rw [hcidu]; exact hcid)
      have hcut : ∀ t, Run Port.step (fun _ _ => True) s ((eventId :: ids).map supports) t ↔
          Run Port.step (fun _ _ => True) u (ids.map supports) t := by
        intro t
        rw [List.map_cons, run_cons_of_ok hu]
        exact iff_of_eq (true_and _)
      constructor
      · simp only [hcut, List.forall_mem_cons, hlt, true_and]
        exact hserved
      · intro t ht
        rw [hcollected t ((hcut t).1 ht), hmask]
        rfl
    · -- the shift faults, and nothing runs past a fault
      have hnot : ∀ t, ¬ Run Port.step (fun _ _ => True) s ((eventId :: ids).map supports) t := by
        intro t h
        rw [List.map_cons, run_cons, hfault] at h
        obtain ⟨-, u, hu, -⟩ := h
        cases hu
      refine ⟨iff_of_false (fun ⟨t, ht⟩ => hnot t ht) ?_, fun t ht => absurd ht (hnot t)⟩
      intro hall
      have hlt := hall eventId (by simp)
      omega

/-- **Supported notifications**: on a connection whose mask is empty, all events of a sequence are served and the mask
ends up holding exactly the ids below 16 that occurred, exactly when no id of the sequence is 31 or more. -/
theorem notifications_supported_iff {s : Port P} (hcid : s.avrcpConnection.avrcpCid ≠ 0)
    (hempty : s.notifications = 0) (ids : List UInt8) :
    (∃ t, Run Port.step (fun _ _ => True) s (ids.map supports) t ∧
        ∀ i < 16, t.notifications.toNat.testBit i = true ↔ ∃ eventId ∈ ids, eventId.toNat = i) ↔
      ∀ eventId ∈ ids, eventId.toNat < 31 := by
  obtain ⟨hserved, hcollected⟩ := supports_run hcid ids
  rw [← hserved]
  constructor
  · rintro ⟨t, ht, -⟩
    exact ⟨t, ht⟩
  · rintro ⟨t, ht⟩
    refine ⟨t, ht, fun i hi => ?_⟩
    rw [hcollected t ht, testBit_foldl_addNotification _ _ hi, hempty]
    simp

/-- Connection 1 is established; its target supports notifications 1 and 2, and names 20 as well. -/
theorem notifications_supported_iff_established :
    ∃ s : Port (.reference true),
      Port.RunsTo (fun _ _ => True) [.avrcp (.connectionEstablished 0 1 deviceAddr)] s ∧
      ((∃ t, Run Port.step (fun _ _ => True) s ([1, 2, 20].map supports) t ∧
          ∀ i < 16, t.notifications.toNat.testBit i = true ↔
            ∃ eventId ∈ ([1, 2, 20] : List UInt8), eventId.toNat = i) ↔
        ∀ eventId ∈ ([1, 2, 20] : List UInt8), eventId.toNat < 31) :=
  ⟨_, .cons trivial rfl (.nil _), notifications_supported_iff (by decide) rfl [1, 2, 20]⟩

/-- A target that names notification 31, or 32, takes the shift out of the range of `int`. -/
theorem notification_out_of_range :
    ∃ s : Port (.reference true),
      Port.RunsTo (fun _ _ => True) [.avrcp (.connectionEstablished 0 1 deviceAddr)] s ∧ s.notifications = 0 ∧
      Port.step s (supports 31) = .error (.shiftOutOfRange 31) ∧
      Port.step s (supports 32) = .error (.shiftOutOfRange 32) ∧
      ¬ ∃ t, Run Port.step (fun _ _ => True) s ([31].map supports) t := by
  refine ⟨_, .cons trivial rfl (.nil _), rfl, rfl, rfl, ?_⟩
  rintro ⟨t, ht⟩
  cases ht with
  | cons _ he _ => cases he

end BtstackPort
