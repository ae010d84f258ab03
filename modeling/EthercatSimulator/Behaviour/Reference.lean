import EthercatSimulator.Behaviour.Acknowledge
import EthercatSimulator.Behaviour.CycleTime
import EthercatSimulator.Behaviour.HomingLaws

/-! The reference: without one the position modes do not move the drive, and only a homing run
sets it. -/

namespace EthercatSimulator.Behaviour

open Base Profile Diagnostics PyFloat ExtRat

namespace Servo

variable {s : Servo ExtRat}

def isPositionMode (mode : Int) : Prop := mode = 1 ∨ mode = 8

/-- Unreferenced in a position mode the drive stands still. -/
structure Anchored (s : Servo ExtRat) : Prop extends Settled s where
  sound : s.od.Sound
  still : s.homingReferenced = false → isPositionMode s.lastModeCommand → s.actualVelocity = 0

theorem construct_anchored (mode : AxisMode) : (construct mode : Servo ExtRat).Anchored :=
  ⟨construct_settled mode, configured_sound mode, fun _ _ => rfl⟩

theorem processMode_unreferenced (href : s.homingReferenced = false) (hv : s.actualVelocity = 0)
    (hs : s.od.Sound) (hdt : ∃ q, s.cycleTime = num q) {mode : Int} (hmode : isPositionMode mode) :
    (processMode mode).Post s fun _ q =>
      q.actualPosition = s.actualPosition ∧ q.actualVelocity = 0 := by
  rcases hmode with rfl | rfl
  · have hclear : ∀ reached, let q := ({ s with
        ppActive := false, ppSetpointAck := false, targetReached := reached } : Servo ExtRat).slowed
        q.actualPosition = s.actualPosition ∧ q.actualVelocity = 0 := fun _ => slowed_still hv hs hdt
    change processPp.Post s _
    apply Exec.post_get_bind
    apply Exec.post_when
    · intro _
      split
      · exact hclear s.targetReached
      · rw [if_pos (by simp [href])]
        exact hclear false
    · exact fun _ => ⟨rfl, hv⟩
  · change processCsp.Post s _
    apply Exec.post_get_bind
    apply Exec.post_when
    · intro _
      split
      · exact slowed_still hv hs hdt
      · rw [if_pos (by simp [href])]
        exact slowed_still (s := { s with targetReached := false }) hv hs hdt
    · exact fun _ => ⟨rfl, hv⟩

/-- A cycle in a position mode leaves an unreferenced drive where it is. -/
theorem update_unreferenced (h : s.Anchored) (hdt : ∃ q, s.cycleTime = num q)
    (href : s.homingReferenced = false)
    (hmode : isPositionMode (s.started.od.int Key.modeOfOperation)) :
    (modelUpdate s).2.actualPosition = s.actualPosition ∧ (modelUpdate s).2.actualVelocity = 0 := by
  have hs := s.started_spec
  cases hd : s.started.enabled with
  | false =>
    have hunmoved := update_disabled_unmoved h.toSettled hd
    exact ⟨hunmoved.actualPosition, hunmoved.actualVelocity⟩
  | true =>
    have hreset : s.deviceResetRequested = false := by
      by_contra hr
      unfold enabled at hd
      rw [hs.sm, applyOdCommands_controlword, if_pos (by simpa using hr),
        CiA402State.process_zero] at hd
      cases hd
    have hv : s.started.actualVelocity = 0 := by
      by_cases hchange : s.od.int Key.modeOfOperation = s.lastModeCommand
      · rw [started_mode, applyOdCommands_mode, hreset] at hmode
        exact hs.actualVelocity.elim (·.trans (h.still href (hchange ▸ hmode))) id
      · exact (s.started_of_modeChange hreset hchange).1
    refine s.modelUpdate_law (P := fun q => q.actualPosition = s.actualPosition ∧
      q.actualVelocity = 0) (fun _ _ _ hq => hq) ?_
    rw [← hs.actualPosition]
    exact processMode_unreferenced (hs.homingReferenced.trans href) hv (started_sound h.sound)
      (hs.cycleTime ▸ hdt) hmode

theorem update_anchored (h : s.Anchored) (hdt : ∃ q, s.cycleTime = num q) :
    (modelUpdate s).2.Anchored := by
  refine ⟨update_settled h.toSettled, modelUpdate_sound h.sound, fun href hmode => ?_⟩
  rw [update_lastModeCommand, update_mode] at hmode
  cases hbefore : s.homingReferenced with
  | false => exact (update_unreferenced h hdt hbefore hmode).2
  | true =>
    have hkept : (modelUpdate s).2.homingReferenced = true := by
      refine s.modelUpdate_law (P := fun q => q.homingReferenced = true) (fun _ _ _ hq => hq) ?_
      have hne : s.started.od.int Key.modeOfOperation ≠ 6 := by
        rcases hmode with h | h <;> omega
      exact (congrArg Prod.snd (processMode_reference hne s.started)).trans
        (s.started_spec.homingReferenced.trans hbefore)
    rw [hkept] at href
    cases href

/-- What a cycle does that sets the reference. -/
structure CompletesHoming (s s' : Servo ExtRat) : Prop where
  enabled : s'.enabled = true
  mode : s'.od.int Key.modeOfOperation = 6
  active : s.homingActive = true ∨ s.newSetpoint = true
  done : s'.homingActive = false
  actualPosition : s'.actualPosition = 0
  actualVelocity : s'.actualVelocity = 0

theorem Advanced.references {s s' : Servo ExtRat} (h : s.Advanced s')
    (href : s.homingReferenced = false) (href' : s'.homingReferenced = true) :
    s.homingActive = true ∧ s'.homingActive = false ∧ s'.actualPosition = 0 ∧
      s'.actualVelocity = 0 := by
  cases h with
  | idle => rw [href] at href'; cases href'
  | counts => rw [href] at href'; cases href'
  | ends active => exact ⟨active, rfl, rfl, rfl⟩

theorem update_references (href : s.homingReferenced = false)
    (href' : (modelUpdate s).2.homingReferenced = true) : s.CompletesHoming (modelUpdate s).2 := by
  have hs := s.started_spec
  have hstarted : s.started.homingReferenced = false := hs.homingReferenced.trans href
  have hlaw : (modelUpdate s).2.homingReferenced = true → s.started.enabled = true ∧
      s.started.od.int Key.modeOfOperation = 6 ∧
      (s.started.homingActive = true ∨ s.started.newSetpoint = true) ∧
      (modelUpdate s).2.homingActive = false ∧ (modelUpdate s).2.actualPosition = 0 ∧
      (modelUpdate s).2.actualVelocity = 0 := by
    refine s.modelUpdate_law (P := fun q => q.homingReferenced = true → s.started.enabled = true ∧
      s.started.od.int Key.modeOfOperation = 6 ∧
      (s.started.homingActive = true ∨ s.started.newSetpoint = true) ∧
      q.homingActive = false ∧ q.actualPosition = 0 ∧ q.actualVelocity = 0) (fun _ _ _ hq => hq) ?_
    have habsurd : ∀ q : Servo ExtRat, q.homingReferenced = s.started.homingReferenced →
        q.homingReferenced ≠ true := by
      intro q hq hne
      rw [hq, hstarted] at hne
      cases hne
    by_cases hmode : s.started.od.int Key.modeOfOperation = 6
    · cases he : s.started.enabled with
      | false =>
        unfold Exec.Post
        rw [processMode_disabled he]
        exact fun hq => absurd hq (habsurd _ rfl)
      | true =>
        rw [hmode]
        apply (processHoming_homed he).mono
        intro r q hhomed hq
        cases hhomed with
        | goesOn edge =>
          have hdone := s.started.advanceHoming_advanced.references hstarted hq
          exact ⟨rfl, rfl, .inl hdone.1, hdone.2⟩
        | starts edge count cycles =>
          have hdone := (s.started.homingStarted count).advanceHoming_advanced.references rfl hq
          exact ⟨rfl, rfl, .inr edge, hdone.2⟩
        | fails => exact absurd hq (habsurd _ rfl)
    · have hkept := processMode_reference hmode s.started
      exact fun hq => absurd hq (habsurd _ (congrArg Prod.snd hkept))
  obtain ⟨he, hmode, hactive, hdone⟩ := hlaw href'
  refine ⟨s.update_enabled.trans he, s.update_mode.trans hmode, ?_, hdone.1, hdone.2.1, hdone.2.2⟩
  refine hactive.imp (fun ha => ?_) fun hedge => ?_
  · rw [hs.homingActive] at ha
    exact (Commanded.applyOdCommands s).homingActive ha
  · cases hedge' : s.newSetpoint with
    | true => rfl
    | false => rw [started_newSetpoint hedge'] at hedge; cases hedge

/-- A run under way has given up the reference. -/
def Exclusive (s : Servo ExtRat) : Prop := ¬ (s.homingActive = true ∧ s.homingReferenced = true)

theorem Advanced.exclusive {s s' : Servo ExtRat} (h : s.Advanced s') (hs : s.Exclusive) :
    s'.Exclusive := by
  cases h with
  | idle => exact hs
  | counts => exact hs
  | ends => exact fun h => by cases h.1

theorem update_exclusive (h : s.Exclusive) {q : ℚ} (hdt : s.cycleTime = num q) (hq : q ≠ 0) :
    (modelUpdate s).2.Exclusive := by
  have hs := s.started_spec
  have hstarted : s.started.Exclusive := by
    rintro ⟨hactive, href⟩
    rw [hs.homingActive] at hactive
    exact h ⟨(Commanded.applyOdCommands s).homingActive hactive, hs.homingReferenced ▸ href⟩
  refine s.modelUpdate_law (P := Exclusive) (fun _ _ _ hq => hq) ?_
  by_cases hmode : s.started.od.int Key.modeOfOperation = 6
  · cases he : s.started.enabled with
    | false =>
      unfold Exec.Post
      rw [processMode_disabled he]
      exact hstarted
    | true =>
      rw [hmode]
      apply (processHoming_homed he).mono
      intro r q hhomed
      cases hhomed with
      | goesOn => exact s.started.advanceHoming_advanced.exclusive hstarted
      | starts edge count =>
        exact (s.started.homingStarted count).advanceHoming_advanced.exclusive fun h => by cases h.2
      | fails edge e cycles =>
        obtain ⟨n, hn⟩ := (cyclesIn_ok (p := 1 / 10)).mpr hq
        rw [hs.cycleTime, hdt] at cycles
        exact absurd (hn.symm.trans cycles) nofun
  · have hkept := Prod.mk.inj (processMode_reference hmode s.started)
    change ¬ (_ ∧ _)
    rw [hkept.1, hkept.2]
    exact hstarted

theorem Anchored.begun (h : s.Anchored) (op : Operation ExtRat) : (s.begun op).Anchored := by
  cases op with
  | rxpdo | sdo => exact h
  | update dt => exact ⟨⟨h.actualVelocity, h.ppActive⟩, h.sound, h.still⟩

/-- A refused or accepted write keeps a sound dictionary sound. -/
theorem operate_sound (h : s.od.Sound) (op : Operation ExtRat) : (s.operate op).od.Sound := by
  cases op with
  | rxpdo payload => exact rxpdoFrom_sound payload rxpdoObjects_declared 0 h
  | sdo key payload =>
    unfold operate
    dsimp only
    split
    · rename_i hod
      exact h.bridgeWrite hod
    · exact h
  | update dt => exact modelUpdate_sound (s := { s with cycleTime := dt }) h

theorem operate_anchored (h : s.Anchored) {op : Operation ExtRat}
    (hdt : ∀ dt, op = .update dt → ∃ q, dt = num q) : (s.operate op).Anchored := by
  cases hop : op.isUpdate with
  | false =>
    obtain ⟨od, hwrite⟩ := operate_write (s := s) hop
    have hsound := operate_sound h.sound op
    rw [hwrite] at hsound ⊢
    exact ⟨⟨h.actualVelocity, h.ppActive⟩, hsound, h.still⟩
  | true =>
    cases op with
    | rxpdo | sdo => cases hop
    | update dt => exact update_anchored (h.begun (.update dt)) (hdt dt rfl)

theorem operate_unreferenced (h : s.Anchored) {op : Operation ExtRat}
    (hdt : ∀ dt, op = .update dt → ∃ q, dt = num q) (hop : op.isUpdate = true)
    (href : s.homingReferenced = false)
    (hmode : isPositionMode ((s.operate op).od.int Key.modeOfOperation)) :
    (s.operate op).actualPosition = s.actualPosition ∧ (s.operate op).actualVelocity = 0 := by
  cases op with
  | rxpdo | sdo => cases hop
  | update dt =>
    rw [operate_update s hop, update_mode] at hmode
    exact update_unreferenced (h.begun (.update dt)) (hdt dt rfl) href hmode

theorem operate_references {op : Operation ExtRat} (href : s.homingReferenced = false)
    (href' : (s.operate op).homingReferenced = true) :
    op.isUpdate = true ∧ s.CompletesHoming (s.operate op) := by
  cases hop : op.isUpdate with
  | false =>
    obtain ⟨od, hwrite⟩ := operate_write (s := s) hop
    rw [hwrite] at href'
    exact absurd (href.symm.trans href') nofun
  | true =>
    cases op with
    | rxpdo | sdo => cases hop
    | update dt =>
      have hdone := update_references (s := { s with cycleTime := dt }) href href'
      exact ⟨rfl, hdone.enabled, hdone.mode, hdone.active, hdone.done, hdone.actualPosition,
        hdone.actualVelocity⟩

theorem operate_exclusive (h : s.Exclusive) {op : Operation ExtRat}
    (hdt : ∀ dt, op = .update dt → ∃ q, dt = num q) (hop : op ≠ .update 0) :
    (s.operate op).Exclusive := by
  cases hupdate : op.isUpdate with
  | false =>
    obtain ⟨od, hwrite⟩ := operate_write (s := s) hupdate
    rw [hwrite]
    exact h
  | true =>
    cases op with
    | rxpdo | sdo => cases hupdate
    | update dt =>
      obtain ⟨q, rfl⟩ := hdt dt rfl
      refine update_exclusive (s := { s with cycleTime := num q }) h rfl ?_
      rintro rfl
      exact hop rfl

/-- Home the drive, and start a second run in a cycle that takes no time. -/
def rehomingRun (n : Nat) : Operation ExtRat :=
  if n = 13 then .update 0
  else pdoRun (acceptedFrames.take 5 ++ [positionFrame 0x0f 6 [0, 0, 0, 0],
    positionFrame 0x1f 6 [0, 0, 0, 0]]) n

end Servo

end EthercatSimulator.Behaviour
