import EthercatSimulator.Behaviour.CycleTime
import EthercatSimulator.Behaviour.TargetWindow
import Mathlib.Algebra.Order.BigOperators.Group.List

/-! How long the drive has been in the position window when the target counts as reached. -/

namespace EthercatSimulator.Behaviour

open Base Profile Diagnostics PyFloat ExtRat

namespace Servo

section

variable {F : Type} [PyFloat F] {s u : Servo F}

/-- A move, up to the look at the window. -/
def ppMoved (s : Servo F) : Option (Servo F) :=
  if s.ppArrived then some s.ppArrive.writeActualFeedback
  else s.stoppingDistance.toOption.map fun d => (s.ppAdvance d).writeActualFeedback

/-- The servo in which the motion law looks at the window; none if it does not look. -/
def windowed (s : Servo F) : Option (Servo F) :=
  let mode := s.od.int Key.modeOfOperation
  if !s.enabled || s.haltActive || !s.homingReferenced then none
  else if mode = 1 then
    if s.newSetpoint && s.positionTargetRejected then none
    else if s.followed.ppActive then s.followed.ppMoved else some s.followed.slowed
  else if mode = 8 then some s.cspStep
  else none

theorem ppMove_moved (h : s.ppMoved = some u) : ppMove s = updateTargetReached u := by
  unfold ppMoved at h
  unfold ppMove
  rw [Exec.run_bind_ok (Exec.run_get _)]
  split
  · rename_i harrived
    rw [if_pos harrived] at h
    cases h
    rfl
  · rename_i hahead
    rw [if_neg hahead] at h
    cases hd : s.stoppingDistance with
    | ok d =>
      rw [hd] at h
      cases h
      rfl
    | error e =>
      rw [hd] at h
      cases h

theorem processMode_windowed (h : s.windowed = some u) :
    processMode (s.od.int Key.modeOfOperation) s = updateTargetReached u := by
  unfold windowed at h
  dsimp only at h
  split_ifs at h with hoff h1 hrejected hactive h8
  all_goals
    simp only [Bool.or_eq_true, Bool.not_eq_true', not_or, Bool.not_eq_true, Bool.not_eq_false] at hoff
    obtain ⟨⟨henabled, hhalt⟩, hreferenced⟩ := hoff
  · have hpp : processPp s = ppMove s.followed := by
      unfold processPp
      rw [Exec.run_bind_ok (Exec.run_get _), Exec.when, if_pos henabled, if_neg (by simp [hhalt]),
        if_neg (by simp [hreferenced]), if_neg hrejected]
      change (if s.followed.ppActive then ppMove else ppIdle) s.followed = _
      rw [if_pos hactive]
    rw [h1]
    exact hpp.trans (ppMove_moved h)
  · cases h
    unfold processMode processPp
    rw [if_pos h1, Exec.run_bind_ok (Exec.run_get _), Exec.when, if_pos henabled, if_neg (by simp [hhalt]),
      if_neg (by simp [hreferenced]), if_neg hrejected]
    change (if s.followed.ppActive then ppMove else ppIdle) s.followed = _
    rw [if_neg hactive]
    rfl
  · cases h
    rw [h8]
    change processCsp s = _
    unfold processCsp
    rw [Exec.run_bind_ok (Exec.run_get _), Exec.when, if_pos henabled, if_neg (by simp [hhalt]),
      if_neg (by simp [hreferenced])]
    rfl

theorem updateTargetReached_counts (u : Servo F) : updateTargetReached.Post u fun _ q =>
    q.windowCounter = (if u.isInPosition then u.windowCounter + 1 else 0) ∧ q.isInPosition = u.isInPosition := by
  have hflag : ∀ (c : Prop) [Decidable c] (q : Servo F),
      (if c then { q with targetReached := true } else q).windowCounter = q.windowCounter ∧
        (if c then { q with targetReached := true } else q).isInPosition = q.isInPosition := by
    intro c _ q
    split <;> exact ⟨rfl, rfl⟩
  apply Exec.post_modify_bind
  apply Exec.post_get_bind
  generalize hcounted : (if u.isInPosition then { u with windowCounter := u.windowCounter + 1 }
    else { u with windowCounter := 0, targetReached := false } : Servo F) = q
  have hq : q.windowCounter = (if u.isInPosition then u.windowCounter + 1 else 0) ∧
      q.isInPosition = u.isInPosition := by
    rw [← hcounted]
    split <;> exact ⟨rfl, rfl⟩
  apply Exec.Post.bind
  · apply Exec.post_ofExcept
    intro n _
    exact ⟨(hflag _ q).1.trans hq.1, (hflag _ q).2.trans hq.2⟩
  · apply Exec.post_ofExcept
    exact fun e _ => hq

theorem publish_isInPosition (s : Servo F) (controlword : Nat) (mode : Int) :
    (s.publish controlword mode).isInPosition = s.isInPosition := by
  have hreal : ∀ key, key ≠ Key.statusword → (s.publish controlword mode).od.real key = s.od.real key := by
    intro key hkey
    unfold publish Od.real
    rw [write_od_of_ne _ _ hkey]
  unfold isInPosition
  rw [hreal _ (by decide), hreal _ (by decide), hreal _ (by decide)]

/-- An update that looks at the window counts the cycles in it. -/
theorem update_windowed (h : s.started.windowed = some u) :
    (modelUpdate s).2.windowCounter = (if u.isInPosition then u.windowCounter + 1 else 0) ∧
      (modelUpdate s).2.isInPosition = u.isInPosition ∧
      ((modelUpdate s).2.targetReached = true → u.isInPosition = true ∧ u.WindowOver) := by
  refine s.modelUpdate_law (P := fun q => q.windowCounter = _ ∧ q.isInPosition = _ ∧
    (q.targetReached = true → _)) (fun q _ _ hq => ⟨hq.1, ?_, hq.2.2⟩) ?_
  · rw [publish_isInPosition]
    exact hq.2.1
  · have hrun := processMode_windowed h
    have hlooks := (updateTargetReached_counts u).and (updateTargetReached_window u)
    unfold Exec.Post at hlooks ⊢
    rw [hrun]
    exact ⟨hlooks.1.1, hlooks.1.2, hlooks.2⟩

/-! The counter before the look. -/

theorem setTargetPosition_counter (s : Servo F) (position previous : Value F) :
    (s.setTargetPosition position previous).windowCounter = s.windowCounter ∨
      (s.setTargetPosition position previous).windowCounter = 0 := by
  unfold setTargetPosition
  dsimp only
  split_ifs
  all_goals first | exact .inl rfl | exact .inr rfl

theorem followMode_counter (s : Servo F) : s.followMode.windowCounter = 0 ∨
    s.followMode.windowCounter = s.windowCounter ∧ s.od.int Key.modeOfOperation = s.lastModeCommand := by
  by_cases h : s.od.int Key.modeOfOperation = s.lastModeCommand
  · rw [followMode_idle h]
    exact .inr ⟨rfl, h⟩
  · left
    obtain ⟨active, error, heq⟩ := s.setMode_form h
    unfold followMode
    rw [if_pos h, heq]
    rfl

/-- The commands keep the cycles counted only while the mode stays. -/
theorem applyOdCommands_counter (s : Servo F) : s.applyOdCommands.windowCounter = 0 ∨
    s.applyOdCommands.windowCounter = s.windowCounter ∧
      (s.deviceResetRequested = false → s.od.int Key.modeOfOperation = s.lastModeCommand) := by
  have hbefore : s.applyDeviceReset.applyParameterSave.windowCounter = s.windowCounter := by
    unfold applyParameterSave applyDeviceReset
    dsimp only
    split_ifs <;> rfl
  have htarget : s.applyOdCommands.windowCounter =
      s.applyDeviceReset.applyParameterSave.followMode.windowCounter ∨ s.applyOdCommands.windowCounter = 0 := by
    unfold applyOdCommands
    rw [applyMotionCommands_eq]
    split_ifs
    · exact .inl rfl
    · exact setTargetPosition_counter _ _ _
  rcases htarget with hkept | hzero
  · rw [hkept]
    refine (followMode_counter _).imp_right fun ⟨hcounter, hmode⟩ => ⟨hcounter.trans hbefore, fun hreset => ?_⟩
    obtain ⟨od, reset, save, heq, hod⟩ := applyParameterSave_unreset hreset
    rw [heq] at hmode
    change od.int Key.modeOfOperation = s.lastModeCommand at hmode
    unfold Od.int at hmode ⊢
    rw [hod _ (by decide) (by decide) (by decide)] at hmode
    exact hmode
  · exact .inl hzero

/-- Only a drive that follows positions keeps cycles counted. -/
def Counting (s : Servo F) : Prop :=
  s.windowCounter ≠ 0 → s.enabled = true ∧ (s.lastModeCommand = 1 ∨ s.lastModeCommand = 8)

theorem Counting.started (h : s.Counting) : s.started.windowCounter = 0 ∨
    s.started.windowCounter = s.windowCounter ∧ s.started.enabled = true ∧
      (s.started.od.int Key.modeOfOperation = 1 ∨ s.started.od.int Key.modeOfOperation = 8) := by
  rw [or_iff_not_imp_left]
  intro hne
  have henabled : s.applyOdCommands.enabled = s.enabled := by
    unfold enabled
    rw [(Commanded.applyOdCommands s).sm]
  have hcounter : s.started.windowCounter = s.applyOdCommands.windowCounter ∧
      (s.enabled = true → s.started.enabled = true) := by
    unfold Servo.started processStateMachine at hne ⊢
    dsimp only at hne ⊢
    split_ifs at hne ⊢ with hloss
    · exact absurd rfl hne
    · refine ⟨rfl, fun he => ?_⟩
      rw [henabled, he, Bool.true_and, Bool.not_eq_true', Bool.not_eq_false] at hloss
      exact hloss
  rw [hcounter.1] at hne ⊢
  obtain ⟨hkept, hmode⟩ := s.applyOdCommands_counter.resolve_left hne
  obtain ⟨he, hlast⟩ := h (hkept ▸ hne)
  have hstarted := hcounter.2 he
  obtain ⟨hreset, -⟩ := s.started_enabled.mp hstarted
  refine ⟨hkept, hstarted, ?_⟩
  rw [started_mode, applyOdCommands_mode, hreset, if_neg Bool.false_ne_true, hmode hreset]
  exact hlast

theorem ppMoved_counter (h : s.ppMoved = some u) : u.windowCounter = s.windowCounter := by
  unfold ppMoved at h
  split_ifs at h with harrived
  · cases h
    rfl
  · obtain ⟨d, -, rfl⟩ := Option.map_eq_some_iff.mp h
    obtain ⟨velocity, heq | ⟨position, heq⟩⟩ := s.ppAdvance_cases d <;> rw [heq] <;> rfl

theorem windowed_follows (h : s.windowed = some u) :
    s.enabled = true ∧ (s.od.int Key.modeOfOperation = 1 ∨ s.od.int Key.modeOfOperation = 8) := by
  unfold windowed at h
  dsimp only at h
  split_ifs at h with hoff h1 hrejected hactive h8
  all_goals
    simp only [Bool.or_eq_true, Bool.not_eq_true', not_or, Bool.not_eq_false] at hoff
  · exact ⟨hoff.1.1, .inl h1⟩
  · exact ⟨hoff.1.1, .inl h1⟩
  · exact ⟨hoff.1.1, .inr h8⟩

theorem windowed_counter (h : s.windowed = some u) : u.windowCounter = s.windowCounter ∨ u.windowCounter = 0 := by
  have hfollowed : s.followed.windowCounter = s.windowCounter ∨ s.followed.windowCounter = 0 := by
    unfold followed
    dsimp only
    split
    · exact .inr rfl
    · exact .inl rfl
  unfold windowed at h
  dsimp only at h
  split_ifs at h
  · rw [ppMoved_counter h]
    exact hfollowed
  · cases h
    exact hfollowed
  · cases h
    exact .inl rfl

theorem processHoming_counter : (processHoming : PyM (Servo F) Unit).Keeps (Exec.Fixes windowCounter) := by
  intro s
  cases he : s.enabled with
  | false =>
    unfold processHoming
    rw [Exec.run_bind_ok (Exec.run_get _), Exec.when, if_neg (by simp [he])]
    rfl
  | true =>
    have hadvance : ∀ q : Servo F, q.advanceHoming.windowCounter = q.windowCounter := by
      intro q
      have hadvanced := q.advanceHoming_advanced
      generalize q.advanceHoming = q' at hadvanced ⊢
      cases hadvanced <;> rfl
    have hhomed := processHoming_homed he
    unfold Exec.Post at hhomed
    generalize processHoming s = r at hhomed ⊢
    obtain ⟨r, q⟩ := r
    cases hhomed with
    | goesOn => exact hadvance s
    | starts edge count => exact hadvance (s.homingStarted count)
    | fails => rfl

end

section

variable {s u : Servo ExtRat}

theorem exists_ppMoved (s : Servo ExtRat) : ∃ u, s.ppMoved = some u := by
  obtain ⟨d, hd⟩ := s.stoppingDistance_ok
  unfold ppMoved
  rw [hd]
  split
  · exact ⟨_, rfl⟩
  · exact ⟨_, rfl⟩

/-- The cycles counted stay as they are while the drive slows down. -/
def Coasts (s q : Servo ExtRat) : Prop :=
  q.windowCounter = s.windowCounter ∧ q.isInPosition = s.slowed.isInPosition

theorem processPp_coasts (he : s.enabled = true) (hmode : s.od.int Key.modeOfOperation = 1)
    (h : s.windowed = none) : s.Coasts (processPp s).2 := by
  unfold windowed at h
  dsimp only at h
  rw [he, if_pos hmode] at h
  unfold processPp
  rw [Exec.run_bind_ok (Exec.run_get _), Exec.when, if_pos he]
  cases hhalt : s.haltActive with
  | true => exact ⟨rfl, rfl⟩
  | false =>
    cases href : s.homingReferenced with
    | false => exact ⟨rfl, rfl⟩
    | true =>
      cases hrejected : s.newSetpoint && s.positionTargetRejected with
      | true => exact ⟨rfl, rfl⟩
      | false =>
        obtain ⟨u, hu⟩ := s.followed.exists_ppMoved
        rw [hhalt, href, hrejected, hu] at h
        change (if s.followed.ppActive then some u else some s.followed.slowed) = none at h
        split at h <;> cases h

theorem processCsp_coasts (he : s.enabled = true) (hmode : s.od.int Key.modeOfOperation = 8)
    (h : s.windowed = none) : s.Coasts (processCsp s).2 := by
  unfold windowed at h
  dsimp only at h
  rw [he, hmode] at h
  unfold processCsp
  rw [Exec.run_bind_ok (Exec.run_get _), Exec.when, if_pos he]
  cases hhalt : s.haltActive with
  | true => exact ⟨rfl, rfl⟩
  | false =>
    cases href : s.homingReferenced with
    | false => exact ⟨rfl, rfl⟩
    | true =>
      rw [hhalt, href] at h
      change some s.cspStep = none at h
      cases h

/-- A motion law that does not look at the window leaves the counter. -/
theorem processMode_unwindowed (h : s.windowed = none) :
    (processMode (s.od.int Key.modeOfOperation) s).2.windowCounter = s.windowCounter ∧
      (s.enabled = true → s.od.int Key.modeOfOperation = 1 ∨ s.od.int Key.modeOfOperation = 8 →
        s.Coasts (processMode (s.od.int Key.modeOfOperation) s).2) := by
  cases he : s.enabled with
  | false =>
    rw [processMode_disabled he]
    exact ⟨rfl, nofun⟩
  | true =>
    unfold processMode
    split_ifs with h1 h3 h8 h6 hj
    · have hcoasts := processPp_coasts he h1 h
      exact ⟨hcoasts.1, fun _ _ => hcoasts⟩
    · refine ⟨?_, fun _ hmode => absurd hmode (by simp [h3])⟩
      unfold processPv
      rw [Exec.run_bind_ok (Exec.run_get _), Exec.when, if_pos he]
      rfl
    · have hcoasts := processCsp_coasts he h8 h
      exact ⟨hcoasts.1, fun _ _ => hcoasts⟩
    · exact ⟨processHoming_counter s, fun _ hmode => absurd hmode (by simp [h6])⟩
    · refine ⟨?_, fun _ hmode => absurd hmode (by simp [hj])⟩
      unfold processJog
      rw [Exec.run_bind_ok (Exec.run_get _), Exec.when, if_pos he]
      rfl
    · exact ⟨rfl, fun _ hmode => absurd hmode (by simp [h1, h8])⟩

theorem update_unwindowed (h : s.started.windowed = none) :
    (modelUpdate s).2.windowCounter = s.started.windowCounter ∧ (s.started.enabled = true →
      s.started.od.int Key.modeOfOperation = 1 ∨ s.started.od.int Key.modeOfOperation = 8 →
        s.started.Coasts (modelUpdate s).2) := by
  refine s.modelUpdate_law (P := fun q => q.windowCounter = _ ∧ (_ → _ → s.started.Coasts q))
    (fun q _ _ hq => ⟨hq.1, fun he hmode => ⟨hq.1, ?_⟩⟩) (processMode_unwindowed h)
  rw [publish_isInPosition]
  exact (hq.2 he hmode).2

theorem Counting.update (h : s.Counting) : (modelUpdate s).2.Counting := by
  intro hne
  rw [update_enabled, update_lastModeCommand, update_mode]
  cases hw : s.started.windowed with
  | some u => exact windowed_follows hw
  | none =>
    rw [(update_unwindowed hw).1] at hne
    exact (h.started.resolve_left hne).2

/-! Runs. -/

/-- The cycle would set the flag, and the cycle times counted, its own included, do not yet add up to
the window time. -/
def Hasty (s : Servo ExtRat) (times : List ℚ) : Prop := ∃ u ∈ s.started.windowed,
  u.isInPosition = true ∧ u.targetReached = false ∧ u.WindowOver ∧
    ¬ u.od.real Key.positionWindowTime ≤ num (1000 * (times.take (u.windowCounter.toNat + 1)).sum)

/-- The drive slows down to a position outside the window without a look at it, and the cycles counted
inside are not forgotten. -/
def KeepsCount (s : Servo ExtRat) : Prop :=
  s.started.windowed.isNone = true ∧ s.started.windowCounter ≠ 0 ∧ s.started.slowed.isInPosition = false

instance (s : Servo ExtRat) (times : List ℚ) : Decidable (s.Hasty times) :=
  inferInstanceAs (Decidable (∃ u ∈ s.started.windowed, _))

instance (s : Servo ExtRat) : Decidable s.KeepsCount := inferInstanceAs (Decidable (_ ∧ _))

/-- The times of the cycles before operation `n`, the latest one first. -/
def cycleTimes (operations : Nat → Operation ExtRat) : Nat → List ℚ
  | 0 => []
  | n + 1 =>
    match operations n with
    | .update (.num t) => t :: cycleTimes operations n
    | _ => cycleTimes operations n

variable (mode : AxisMode) (operations : Nat → Operation ExtRat)

/-- The times of the unbroken series of cycles inside the window that ends before operation `n`. -/
def timesInside : Nat → List ℚ
  | 0 => []
  | n + 1 =>
    match operations n with
    | .update (.num t) => if (servos mode operations (n + 1)).isInPosition then t :: timesInside n else []
    | _ => timesInside n

theorem timesInside_prefix (n : Nat) : timesInside mode operations n <+: cycleTimes operations n := by
  induction n with
  | zero => exact List.prefix_rfl
  | succ n ih =>
    unfold timesInside cycleTimes
    split
    · split
      · exact List.cons_prefix_cons.mpr ⟨rfl, ih⟩
      · exact List.nil_prefix
    · exact ih

end

section Run

variable {mode : AxisMode} {operations : Nat → Operation ExtRat}

/-- The cycles counted lie in the series inside the window. -/
structure Counted (mode : AxisMode) (operations : Nat → Operation ExtRat) (n : Nat) : Prop where
  counting : (servos mode operations n).Counting
  nonneg : 0 ≤ (servos mode operations n).windowCounter
  inside : (servos mode operations n).windowCounter ≤ (timesInside mode operations n).length

theorem construct_counted : Counted mode operations 0 := ⟨fun h => absurd rfl h, le_rfl, le_rfl⟩

theorem Counted.write {n : Nat} (h : Counted mode operations n) (hop : (operations n).isUpdate = false) :
    Counted mode operations (n + 1) := by
  obtain ⟨od, hwrite⟩ := operate_write (s := servos mode operations n) hop
  have hnext : servos mode operations (n + 1) = { servos mode operations n with od := od } := hwrite
  have htimes : timesInside mode operations (n + 1) = timesInside mode operations n := by
    rw [timesInside]
    cases hn : operations n with
    | rxpdo | sdo => rfl
    | update dt =>
      rw [hn] at hop
      cases hop
  refine ⟨?_, ?_, ?_⟩
  · rw [hnext]
    exact h.counting
  · rw [hnext]
    exact h.nonneg
  · rw [hnext, htimes]
    exact h.inside

theorem Counted.update {n : Nat} {t : ℚ} (h : Counted mode operations n) (hop : operations n = .update (num t))
    (hkeeps : ¬ (updating mode operations n).KeepsCount) :
    Counted mode operations (n + 1) ∧ ∀ u, (updating mode operations n).started.windowed = some u →
      0 ≤ u.windowCounter ∧ (u.isInPosition = true →
        u.windowCounter + 1 ≤ (timesInside mode operations (n + 1)).length) := by
  have hbegun : updating mode operations n = { servos mode operations n with cycleTime := num t } := by
    unfold updating
    rw [hop]
    rfl
  have hafter : servos mode operations (n + 1) = (modelUpdate (updating mode operations n)).2 :=
    operate_update _ (by rw [hop]; rfl)
  have htimes : timesInside mode operations (n + 1) =
      if (modelUpdate (updating mode operations n)).2.isInPosition then t :: timesInside mode operations n else [] := by
    rw [timesInside, hop, hafter]
  have hcounting : (updating mode operations n).Counting := by
    rw [hbegun]
    exact h.counting
  have hbounds : 0 ≤ (updating mode operations n).started.windowCounter ∧
      (updating mode operations n).started.windowCounter ≤ (timesInside mode operations n).length := by
    have hnonneg := h.nonneg
    have hinside := h.inside
    have hsame : (updating mode operations n).windowCounter = (servos mode operations n).windowCounter := by
      rw [hbegun]
    rcases hcounting.started with hzero | ⟨hkept, -⟩ <;> omega
  have hnext := hcounting.update
  rw [← hafter] at hnext
  cases hw : (updating mode operations n).started.windowed with
  | some u =>
    obtain ⟨hcounter, hin, -⟩ := update_windowed hw
    rw [hin] at htimes
    rw [← hafter] at hcounter
    have hu : 0 ≤ u.windowCounter ∧ u.windowCounter ≤ (timesInside mode operations n).length := by
      rcases windowed_counter hw with hkept | hzero <;> omega
    cases hinside : u.isInPosition with
    | true =>
      rw [hinside, if_pos rfl] at htimes hcounter
      have hlength : (timesInside mode operations (n + 1)).length = (timesInside mode operations n).length + 1 := by
        rw [htimes, List.length_cons]
      refine ⟨⟨hnext, by omega, by omega⟩, ?_⟩
      rintro _ ⟨⟩
      exact ⟨hu.1, fun _ => by omega⟩
    | false =>
      rw [hinside, if_neg Bool.false_ne_true] at hcounter
      refine ⟨⟨hnext, by omega, by omega⟩, ?_⟩
      rintro _ ⟨⟩
      exact ⟨hu.1, fun hin => by rw [hinside] at hin; cases hin⟩
  | none =>
    refine ⟨?_, fun u hu => absurd hu (Option.some_ne_none u).symm⟩
    obtain ⟨hcounter, hcoasts⟩ := update_unwindowed hw
    rw [← hafter] at hcounter
    by_cases hzero : (updating mode operations n).started.windowCounter = 0
    · rw [hzero] at hcounter
      exact ⟨hnext, hcounter.ge, hcounter.trans_le (Int.natCast_nonneg _)⟩
    · obtain ⟨-, henabled, hmode⟩ := hcounting.started.resolve_left hzero
      have hin : (updating mode operations n).started.slowed.isInPosition = true := by
        by_contra hout
        exact hkeeps ⟨by rw [hw]; rfl, hzero, by simpa using hout⟩
      rw [(hcoasts henabled hmode).2, hin, if_pos rfl] at htimes
      have hlength : (timesInside mode operations (n + 1)).length = (timesInside mode operations n).length + 1 := by
        rw [htimes, List.length_cons]
      refine ⟨hnext, hbounds.1.trans_eq hcounter.symm, ?_⟩
      rw [hcounter, hlength]
      exact hbounds.2.trans (Int.ofNat_le.mpr (Nat.le_succ _))

theorem counted (hpos : ∀ n dt, operations n = .update dt → ∃ t, 0 < t ∧ dt = num t)
    (hkeeps : ∀ n, (operations n).isUpdate = true → ¬ (updating mode operations n).KeepsCount) (n : Nat) :
    Counted mode operations n := by
  induction n with
  | zero => exact construct_counted
  | succ n ih =>
    cases hop : (operations n).isUpdate with
    | false => exact ih.write hop
    | true =>
      cases hn : operations n with
      | rxpdo | sdo =>
        rw [hn] at hop
        cases hop
      | update dt =>
        obtain ⟨t, -, rfl⟩ := hpos n dt hn
        exact (ih.update hn (hkeeps n hop)).1

theorem cycleTimes_pos (hpos : ∀ n dt, operations n = .update dt → ∃ t, 0 < t ∧ dt = num t) (n : Nat) :
    ∀ t ∈ cycleTimes operations n, 0 < t := by
  induction n with
  | zero => exact fun t ht => absurd ht List.not_mem_nil
  | succ n ih =>
    unfold cycleTimes
    split
    · rename_i t hn
      obtain ⟨_, ht, heq⟩ := hpos n _ hn
      cases heq
      exact List.forall_mem_cons.mpr ⟨ht, ih⟩
    · exact ih

/-- The latest cycles are inside the window if no more of them are counted than the series inside has. -/
theorem sum_latest_le (hpos : ∀ n dt, operations n = .update dt → ∃ t, 0 < t ∧ dt = num t) {n k : Nat}
    (hk : k ≤ (timesInside mode operations n).length) :
    ((cycleTimes operations n).take k).sum ≤ (timesInside mode operations n).sum := by
  have hbegins := timesInside_prefix mode operations n
  have hlatest : (cycleTimes operations n).take k <+: timesInside mode operations n :=
    List.prefix_of_prefix_length_le (List.take_prefix _ _) hbegins ((List.length_take_le _ _).trans hk)
  exact hlatest.sublist.sum_le_sum fun t ht => (cycleTimes_pos hpos n t (hbegins.subset ht)).le

end Run

/-- Homing, and then a move to 100 in cycles of one length. -/
def pacedRun (cycle : ℚ) (n : Nat) : Operation ExtRat :=
  let fast (controlword mode : UInt8) : Bytes :=
    [controlword, 0x00, mode, 0x64, 0x00, 0x00, 0x00, 0xe8, 0x03, 0x00, 0x00] ++ List.replicate 13 0x00
  let frames := [fast 0x06 6, fast 0x07 6, fast 0x0f 6] ++ List.replicate 9 (fast 0x1f 6) ++
    [fast 0x0f 1, fast 0x1f 1]
  match frames[n / 2]? with
  | none => .rxpdo []
  | some frame => if n % 2 = 0 then .rxpdo frame else .update (.num cycle)

theorem pacedRun_rest (cycle : ℚ) {n : Nat} (hn : 28 ≤ n) : pacedRun cycle n = .rxpdo [] := by
  have hnone : ∀ frames : List Bytes, frames.length = 14 → frames[n / 2]? = none := fun frames hlen =>
    List.getElem?_eq_none (by omega)
  unfold pacedRun
  dsimp only
  rw [hnone _ rfl]

end Servo

end EthercatSimulator.Behaviour
