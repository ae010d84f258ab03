import EthercatSimulator.Behaviour.Acknowledge
import EthercatSimulator.Behaviour.Envelope

/-! Target reached, statusword bit 10, while a set-point is followed. -/

namespace EthercatSimulator.Behaviour

open Base Profile Diagnostics PyFloat ExtRat

namespace Servo

section

variable {F : Type} [PyFloat F] {s : Servo F}

theorem publishedStatusword_reached (s : Servo F) (mode : Int) :
    hasBits (s.publishedStatusword mode) 0x400 = s.targetReached := by
  have hstate : s.sm.statusword &&& 0x400 = 0 := by cases s.sm <;> decide
  rw [← hasBits_flag s.targetReached (by decide) hstate]
  unfold hasBits publishedStatusword
  dsimp only
  iterate 6 rw [flag_and (by decide)]

theorem publish_reached (s : Servo F) (controlword : Nat) (mode : Int) :
    hasBits ((s.publish controlword mode).od.int Key.statusword).toNat 0x400 = s.targetReached := by
  refine Eq.trans ?_ (s.publishedStatusword_reached mode)
  unfold publish Od.int
  rw [write_od_same]
  rfl

theorem one_le_cyclesIn {x y : F} {n : Int} (h : cyclesIn x y = .ok n) : 1 ≤ n := by
  unfold cyclesIn at h
  obtain ⟨q, -, h⟩ := bind_ok.mp h
  obtain ⟨k, -, h⟩ := bind_ok.mp h
  cases h
  exact le_max_left 1 k

/-- One more cycle in the window sets the flag, or it is set. -/
def WindowOver (s : Servo F) : Prop :=
  s.targetReached = true ∨
    ∃ n, cyclesIn (s.od.real Key.positionWindowTime) (s.cycleTime * lit 1000) = .ok n ∧
      n ≤ s.windowCounter + 1

instance (s : Servo F) : Decidable s.WindowOver :=
  match h : cyclesIn (s.od.real Key.positionWindowTime) (s.cycleTime * lit 1000) with
  | .ok n => decidable_of_iff (s.targetReached = true ∨ n ≤ s.windowCounter + 1) (by simp [WindowOver, h])
  | .error _ => decidable_of_iff (s.targetReached = true) (by simp [WindowOver, h])

/-- The flag is set in the window only, and once the time there is over. -/
theorem updateTargetReached_window (s : Servo F) : updateTargetReached.Post s fun _ q =>
    q.targetReached = true → s.isInPosition = true ∧ s.WindowOver := by
  apply Exec.post_modify_bind
  apply Exec.post_get_bind
  cases hin : s.isInPosition with
  | true =>
    rw [if_pos rfl]
    apply Exec.Post.bind
    · apply Exec.post_ofExcept
      intro n hn
      refine Exec.post_modify fun hreached => ⟨rfl, ?_⟩
      split at hreached
      · rename_i hcount
        exact .inr ⟨n, hn, hcount⟩
      · exact .inl hreached
    · apply Exec.post_ofExcept
      exact fun e _ hreached => ⟨rfl, .inl hreached⟩
  | false =>
    rw [if_neg Bool.false_ne_true]
    apply Exec.Post.bind
    · apply Exec.post_ofExcept
      intro n hn
      refine Exec.post_modify fun hreached => ?_
      have hpos := one_le_cyclesIn hn
      rw [if_neg (by change ¬ n ≤ 0; omega)] at hreached
      cases hreached
    · apply Exec.post_ofExcept
      exact fun e _ hreached => nomatch hreached

/-- A positioning that goes on has not passed its target. -/
theorem ppAdvance_ahead {d : F} (h : (s.ppAdvance d).ppActive = true) : ∃ velocity position,
    s.ppAdvance d = (s.setVelocity velocity).setPosition position ∧
      ¬ (same (s.ppTargetPosition - s.actualPosition) 0 = true ∨
        (s.ppTargetPosition - s.actualPosition) * (s.ppTargetPosition - position) ≤ 0) := by
  have hstep : ∀ velocity : F, ∀ q : Servo F, q = (if
      same (s.ppTargetPosition - s.actualPosition) 0 ∨ (s.ppTargetPosition - s.actualPosition) *
        (s.ppTargetPosition - (s.setVelocity velocity).integrated) ≤ 0 then (s.setVelocity velocity).ppArrive
      else (s.setVelocity velocity).setPosition (s.setVelocity velocity).integrated) → q.ppActive = true →
      ∃ velocity position, q = (s.setVelocity velocity).setPosition position ∧
        ¬ (same (s.ppTargetPosition - s.actualPosition) 0 = true ∨
          (s.ppTargetPosition - s.actualPosition) * (s.ppTargetPosition - position) ≤ 0) := by
    rintro velocity q rfl hactive
    split at hactive
    · cases hactive
    · rename_i hahead
      rw [if_neg hahead]
      exact ⟨_, _, rfl, hahead⟩
  exact hstep _ _ rfl h

end

variable {s : Servo ExtRat}

/-- The target of the dictionary lies before the one that is followed. -/
def FallsShort (s : Servo ExtRat) : Prop :=
  0 < (s.ppTargetPosition - s.actualPosition) * (s.ppTargetPosition - s.od.real Key.targetPosition)

/-- A positioning goes on to a target the dictionary no longer names. -/
def Preloaded (s : Servo ExtRat) : Prop :=
  s.ppActive = true ∧ s.newSetpoint = false ∧ s.FallsShort ∧ s.WindowOver

instance (s : Servo ExtRat) : Decidable s.FallsShort := inferInstanceAs (Decidable (_ < _))
instance (s : Servo ExtRat) : Decidable s.Preloaded := inferInstanceAs (Decidable (_ ∧ _))

/-- The flag speaks of the target that is followed. -/
def InWindow (s : Servo ExtRat) : Prop :=
  PyFloat.abs (s.ppTargetPosition - s.actualPosition) ≤ s.od.real Key.positionWindow

/-- What positioning leaves while it goes on: it is on the same side of its target. -/
structure GoesOn (s q : Servo ExtRat) : Prop where
  ppTargetPosition : q.ppTargetPosition = s.ppTargetPosition
  target : q.od.real Key.targetPosition = s.od.real Key.targetPosition
  ahead : 0 < (s.ppTargetPosition - s.actualPosition) * (s.ppTargetPosition - q.actualPosition)
  numeric : ∃ n, q.actualPosition = num n

/-- The flag, where it is set, is the window's around the target of the dictionary. -/
def Flagged (s q : Servo ExtRat) : Prop := q.targetReached = true → s.WindowOver ∧
  PyFloat.abs (q.od.real Key.targetPosition - q.actualPosition) ≤ q.od.real Key.positionWindow

theorem updateTargetReached_goesOn {u : Servo ExtRat} (h : u.ppActive = true → s.GoesOn u ∧
    (u.WindowOver → s.WindowOver) ∧ u.od.real Key.actualPosition = u.actualPosition) :
    updateTargetReached.Post u fun r q => r = .ok () → q.ppActive = true → s.GoesOn q ∧ s.Flagged q := by
  have hframe := updateTargetReached_post (s := u) (P := fun q => q.ppActive = u.ppActive ∧
    q.ppTargetPosition = u.ppTargetPosition ∧ q.od = u.od ∧ q.actualPosition = u.actualPosition)
    (fun _ _ _ hq => hq) ⟨rfl, rfl, rfl, rfl⟩
  refine (hframe.and (updateTargetReached_window u)).mono ?_
  rintro r q ⟨⟨hactive, htarget, hod, hposition⟩, hwindow⟩ _ hq
  obtain ⟨hgoes, hover, hfeedback⟩ := h (hactive.symm.trans hq)
  refine ⟨⟨htarget.trans hgoes.ppTargetPosition, by rw [hod]; exact hgoes.target,
    by rw [hposition]; exact hgoes.ahead, by rw [hposition]; exact hgoes.numeric⟩, fun hreached => ?_⟩
  obtain ⟨hin, hwindowOver⟩ := hwindow hreached
  refine ⟨hover hwindowOver, ?_⟩
  unfold isInPosition at hin
  rw [hfeedback, decide_eq_true_eq] at hin
  rw [hod, hposition]
  exact hin

theorem ppMove_goesOn (h : s.Finite) {t : ℚ} (ht : s.cycleTime = num t) (hpos : 0 ≤ t)
    (hmode : s.od.int Key.modeOfOperation = 1) (hhalt : s.haltActive = false) :
    ppMove.Post s fun r q => r = .ok () → q.ppActive = true → s.GoesOn q ∧ s.Flagged q := by
  apply Exec.post_get_bind
  split
  · apply Exec.post_modify_bind
    apply Exec.post_modify_bind
    exact updateTargetReached_goesOn fun hactive => by cases hactive
  · apply Exec.Post.bind
    · apply Exec.post_ofExcept
      intro d _
      apply Exec.post_modify_bind
      apply Exec.post_modify_bind
      have hstepped := h.ppAdvance_stepped ht hpos hmode hhalt d
      refine updateTargetReached_goesOn fun hactive => ?_
      obtain ⟨velocity, position, hadvance, hahead⟩ := ppAdvance_ahead (s := s) (d := d) hactive
      obtain ⟨l, hl⟩ := h.ppTargetPosition
      obtain ⟨a, ha⟩ := h.actualPosition
      rw [hadvance] at hstepped ⊢
      obtain ⟨n, hn⟩ := hstepped.numbers.actualPosition
      obtain rfl : position = num n := hn
      refine ⟨⟨rfl, rfl, ?_, n, rfl⟩, id, rfl⟩
      change 0 < (s.ppTargetPosition - s.actualPosition) * (s.ppTargetPosition - num n)
      rw [hl, ha] at hahead ⊢
      rw [zero_def] at hahead ⊢
      simp only [num_sub, num_mul, num_le, num_lt] at hahead ⊢
      exact not_le.mp fun hle => hahead (.inr hle)
    · apply Exec.post_ofExcept
      exact fun e _ h => by cases h

theorem publish_inWindow (s : Servo ExtRat) (controlword : Nat) (mode : Int) :
    (s.publish controlword mode).InWindow ↔ s.InWindow := by
  have hwindow : (s.publish controlword mode).od.real Key.positionWindow =
      s.od.real Key.positionWindow := by
    unfold publish Od.real
    rw [write_od_of_ne _ _ (by decide)]
  unfold InWindow
  rw [hwindow]
  rfl

instance (s : Servo ExtRat) : Decidable s.InWindow := inferInstanceAs (Decidable (_ ≤ _))

theorem abs_le_of_beyond {l a r n : ℚ} (hbeyond : (l - a) * (l - r) ≤ 0) (hahead : 0 < (l - a) * (l - n)) :
    |l - n| ≤ |r - n| := by
  rcases pos_and_pos_or_neg_and_neg_of_mul_pos hahead with ⟨ha, hn⟩ | ⟨ha, hn⟩
  · have hr : l - r ≤ 0 := nonpos_of_mul_nonpos_right hbeyond ha
    rw [abs_of_pos hn]
    exact le_trans (by linarith) (le_abs_self _)
  · have hr : 0 ≤ l - r := nonneg_of_mul_nonpos_right hbeyond ha
    rw [abs_of_neg hn]
    exact le_trans (by linarith) (neg_le_abs _)

theorem GoesOn.inWindow {q : Servo ExtRat} (hs : s.Finite) (h : s.GoesOn q) (hflagged : s.Flagged q)
    (hload : s.FallsShort → ¬ s.WindowOver) (hreached : q.targetReached = true) :
    q.InWindow := by
  obtain ⟨hover, hin⟩ := hflagged hreached
  have hbeyond : ¬ s.FallsShort := fun hshort => hload hshort hover
  obtain ⟨l, hl⟩ := hs.ppTargetPosition
  obtain ⟨a, ha⟩ := hs.actualPosition
  obtain ⟨r, hr⟩ := hs.targetPosition
  obtain ⟨n, hn⟩ := h.numeric
  have hahead := h.ahead
  unfold FallsShort at hbeyond
  unfold InWindow
  rw [hl, ha, hr, zero_def] at hbeyond
  rw [hl, ha, hn, zero_def] at hahead
  rw [h.target, hr, hn] at hin
  rw [h.ppTargetPosition, hl, hn]
  simp only [num_sub, num_mul, num_lt, abs_num] at hbeyond hahead hin ⊢
  have hle := abs_le_of_beyond (not_lt.mp hbeyond) hahead
  cases hw : q.od.real Key.positionWindow with
  | num w =>
    rw [hw, num_le] at hin
    exact (num_le _ _).mpr (hle.trans hin)
  | posInf => rfl
  | negInf | nan =>
    rw [hw] at hin
    cases hin

theorem processPp_inWindow (h : s.Finite) {t : ℚ} (ht : s.cycleTime = num t) (hpos : 0 ≤ t)
    (hmode : s.od.int Key.modeOfOperation = 1) (he : s.enabled = true) (hload : ¬ s.Preloaded) :
    processPp.Post s fun r q => r = .ok () → q.ppActive = true → q.targetReached = true → q.InWindow := by
  apply Exec.post_get_bind
  apply Exec.post_when
  · intro _
    cases hhalt : s.haltActive with
    | true => exact fun _ hactive => nomatch hactive
    | false =>
      change (if !s.homingReferenced then _ else _ : PyM (Servo ExtRat) Unit).Post s _
      split
      · exact fun _ hactive => nomatch hactive
      · split
        · exact fun _ hactive => nomatch hactive
        · obtain ⟨active, ack, reached, target, counter, hfollowed⟩ := h.followed
          have hfinite := h.followedBy active ack reached target counter
          rw [← hfollowed] at hfinite
          have hparts : s.followed.cycleTime = s.cycleTime ∧ s.followed.od = s.od ∧
              s.followed.haltActive = s.haltActive := by
            rw [hfollowed]
            exact ⟨rfl, rfl, rfl⟩
          apply ppFollow_post
          · intro hactive
            have hgoes := ppMove_goesOn hfinite (hparts.1.trans ht) hpos (by rw [hparts.2.1, hmode])
              (hparts.2.2.trans hhalt)
            refine hgoes.mono fun r q hq hok hq' hreached => ?_
            obtain ⟨hon, hflagged⟩ := hq hok hq'
            refine hon.inWindow hfinite hflagged (fun hshort hover => ?_) hreached
            cases hedge : s.newSetpoint with
            | true =>
              -- The target was latched in this very cycle.
              obtain ⟨l, hl⟩ := h.targetPosition
              obtain ⟨a, ha⟩ := h.actualPosition
              unfold followed FallsShort at hshort
              rw [hedge] at hshort
              change 0 < (s.od.real Key.targetPosition - s.actualPosition) *
                (s.od.real Key.targetPosition - s.od.real Key.targetPosition) at hshort
              rw [hl, ha, zero_def, num_sub, num_sub, num_mul, num_lt, sub_self, mul_zero] at hshort
              exact lt_irrefl _ hshort
            | false =>
              unfold followed at hactive hshort hover
              rw [hedge] at hactive hshort hover
              exact hload ⟨hactive, hedge, hshort, hover⟩
          · intro hidle
            apply Exec.post_modify_bind
            refine Exec.Post.mono (updateTargetReached_post (P := fun q : Servo ExtRat => q.ppActive = false)
              (fun _ _ _ => id) hidle) ?_
            intro r q hq _ hactive
            rw [hq] at hactive
            cases hactive
  · exact fun hne => absurd he hne

/-- An update that does not see a preloaded target shows the target that is followed. -/
theorem update_inWindow (h : s.Finite) {t : ℚ} (ht : s.cycleTime = num t) (hpos : 0 ≤ t)
    (hload : ¬ s.started.Preloaded) (hok : (modelUpdate s).1 = .ok ())
    (he : (modelUpdate s).2.enabled = true) (hmode : (modelUpdate s).2.od.int Key.modeOfOperation = 1)
    (hactive : (modelUpdate s).2.ppActive = true)
    (hbit : hasBits ((modelUpdate s).2.od.int Key.statusword).toNat 0x400 = true) :
    (modelUpdate s).2.InWindow := by
  rw [update_enabled] at he
  rw [update_mode] at hmode
  have hlaw := processPp_inWindow h.started (s.started_spec.cycleTime.trans ht) hpos hmode he hload
  have hmodes : (processMode (s.started.od.int Key.modeOfOperation) : PyM (Servo ExtRat) Unit) = processPp := by
    rw [hmode]
    rfl
  have hend : modelUpdate.Post s fun r s' => r = .ok () → s'.ppActive = true →
      hasBits (s'.od.int Key.statusword).toNat 0x400 = true → s'.InWindow := by
    apply Exec.post_modify_bind
    apply Exec.post_get_bind
    apply Exec.post_modify_bind
    apply Exec.post_get_bind
    change (processMode (s.started.od.int Key.modeOfOperation) >>= fun _ => _).Post s.started _
    rw [hmodes]
    apply Exec.Post.bind
    · refine hlaw.mono fun r q hq a hr => Exec.post_modify fun _ hactive hbit => ?_
      rw [publish_reached] at hbit
      exact (publish_inWindow q _ _).mpr (hq hr hactive hbit)
    · exact hlaw.mono fun r q hq e hr hok => nomatch hok
  exact hend hok hactive hbit

/-- As long as no update of a positioning finds a target in the dictionary that falls short of the
latched one when the time in the window is over, bit 10 speaks of the latched target. -/
theorem reached_latched (mode : AxisMode) (operations : Nat → Operation ExtRat)
    (htimed : ∀ n, (operations n).Timed)
    (h : ∀ n, (operations n).isUpdate = true → ¬ (updating mode operations n).started.Preloaded)
    {n : Nat} (hop : (operations n).isUpdate = true) :
    let after := servos mode operations (n + 1)
    (modelUpdate (updating mode operations n)).1 = .ok () → after.enabled = true →
    after.homingReferenced = true → after.haltActive = false → after.od.int Key.modeOfOperation = 1 →
    after.ppActive = true → hasBits (after.od.int Key.statusword).toNat 0x400 = true → after.InWindow := by
  intro after hok he _ _ hmode hactive hbit
  have hafter : after = (modelUpdate (updating mode operations n)).2 := operate_update _ hop
  have hfinite := (servos_finite mode htimed n).begun (operations n)
  have hcycle : ∃ t, 0 ≤ t ∧ (updating mode operations n).cycleTime = num t := by
    unfold updating
    cases hn : operations n with
    | rxpdo | sdo => rw [hn] at hop; cases hop
    | update dt =>
      obtain ⟨t, hpos, rfl⟩ := htimed n dt hn
      exact ⟨t, hpos, rfl⟩
  obtain ⟨t, hpos, ht⟩ := hcycle
  rw [hafter] at he hmode hactive hbit ⊢
  exact update_inWindow hfinite ht hpos (h n hop) hok he hmode hactive hbit

/-- Homing, then a positioning to `target` at a low velocity, and `next` in the frames after it. -/
def slowRun (target next : Bytes) : Nat → Operation ExtRat :=
  let slow (controlword : UInt8) (target : Bytes) : Bytes :=
    [controlword, 0x00, 0x01] ++ target ++ [0x0a, 0x00, 0x00, 0x00] ++ List.replicate 13 0x00
  pdoRun (acceptedFrames.take 5 ++ [slow 0x0f target, slow 0x1f target, slow 0x1f next, slow 0x1f next])

def nearRun : Nat → Operation ExtRat := slowRun [0xf2, 0x03, 0x00, 0x00] [0xf2, 0x03, 0x00, 0x00]

/-- The drive passes near the latched target faster than it may stop there. -/
theorem reached_latched_near :
    let after := servos .linear nearRun 16
    hasBits (after.od.int Key.statusword).toNat 0x400 = true ∧ after.ppActive = true ∧ after.InWindow := by
  have hfirst : ∀ n < 18, (nearRun n).isUpdate = true →
      ¬ (updating .linear nearRun n).started.Preloaded := by
    decide +kernel
  have hrest : ∀ n, 18 ≤ n → (nearRun n).isUpdate = false := by
    intro n hn
    have hnone : ∀ frames : List Bytes, frames.length = 9 → frames[n / 2]? = none := fun frames hlen =>
      List.getElem?_eq_none (by omega)
    unfold nearRun slowRun pdoRun
    dsimp only
    rw [hnone _ rfl]
    rfl
  have hend : let after := servos .linear nearRun 16
      after.enabled = true ∧ after.homingReferenced = true ∧ after.haltActive = false ∧
      after.od.int Key.modeOfOperation = 1 ∧ after.ppActive = true ∧
      hasBits (after.od.int Key.statusword).toNat 0x400 = true ∧
      ((modelUpdate (updating .linear nearRun 15)).1.toOption.isSome) =
        true := by
    decide +kernel
  obtain ⟨he, href, hhalt, hmode, hactive, hbit, hok⟩ := hend
  refine ⟨hbit, hactive, reached_latched .linear nearRun (fun n => pdoRun_timed _ n) ?_ (n := 15) rfl ?_ he href hhalt hmode
    hactive hbit⟩
  · intro n hop
    rcases Nat.lt_or_ge n 18 with hn | hn
    · exact hfirst n hn hop
    · rw [hrest n hn] at hop
      cases hop
  · generalize (modelUpdate (updating .linear nearRun 15)).1 = r at hok
    cases r with
    | ok _ => rfl
    | error e => cases hok

/-- A target written in advance, near to which the drive passes on its way: no edge, and bit 10 is set
far away from the latched target. -/
theorem reached_elsewhere :
    let operations := slowRun [0xa0, 0x86, 0x01, 0x00] [0xdc, 0x05, 0x00, 0x00]
    let after := servos .linear operations 18
    (modelUpdate (updating .linear operations 17)).1.toOption.isSome = true ∧
      (updating .linear operations 15).newSetpoint = false ∧
      (updating .linear operations 17).newSetpoint = false ∧ after.enabled = true ∧
      after.homingReferenced = true ∧ after.haltActive = false ∧ after.od.int Key.modeOfOperation = 1 ∧
      after.ppActive = true ∧ hasBits (after.od.int Key.statusword).toNat 0x400 = true ∧
      after.actualPosition = num 1500 ∧ after.ppTargetPosition = num 100000 ∧ ¬ after.InWindow := by
  decide +kernel

end Servo

end EthercatSimulator.Behaviour
