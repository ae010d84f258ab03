import EthercatSimulator.Behaviour.Envelope
import EthercatSimulator.Behaviour.Reference

/-! Halt: with controlword bit 8 set every mode slows the drive down and keeps it at rest, but a
homing run goes on. -/

namespace EthercatSimulator.Behaviour

open Base Profile Diagnostics PyFloat ExtRat

namespace Servo

variable {s s' : Servo ExtRat}

/-- The speed does not grow, its direction does not turn, and a drive at rest stays where it is. -/
structure ComesToRest (s s' : Servo ExtRat) : Prop where
  speed : PyFloat.abs s'.actualVelocity ≤ PyFloat.abs s.actualVelocity
  direction : 0 ≤ s.actualVelocity * s'.actualVelocity
  rest : s.actualVelocity = 0 → s'.actualPosition = s.actualPosition

/-- `ComesToRest` between numbers. -/
theorem comesToRest_num {v v' : ℚ} (hv : s.actualVelocity = num v) (hv' : s'.actualVelocity = num v') :
    s.ComesToRest s' ↔ |v'| ≤ |v| ∧ 0 ≤ v * v' ∧ (v = 0 → s'.actualPosition = s.actualPosition) := by
  have hzero : s.actualVelocity = 0 ↔ v = 0 := by
    rw [hv, zero_def, num.injEq]
  constructor
  · intro h
    have hspeed := h.speed
    have hdirection := h.direction
    rw [hv, hv'] at hspeed hdirection
    rw [abs_num, abs_num, num_le] at hspeed
    rw [num_mul, zero_def, num_le] at hdirection
    exact ⟨hspeed, hdirection, fun h0 => h.rest (hzero.mpr h0)⟩
  · rintro ⟨hspeed, hdirection, hrest⟩
    refine ⟨?_, ?_, fun h0 => hrest (hzero.mp h0)⟩
    · rw [hv, hv', abs_num, abs_num, num_le]
      exact hspeed
    · rw [hv, hv', num_mul, zero_def, num_le]
      exact hdirection

theorem toward_zero {v v' : ℚ} (h : Toward v 0 v') : |v'| ≤ |v| ∧ 0 ≤ v * v' := by
  rw [zero_def, toward_num] at h
  rcases h with ⟨hup, hle⟩ | ⟨hle, hdown⟩
  · have hv : v ≤ 0 := hup.trans hle
    rw [abs_of_nonpos hle, abs_of_nonpos hv]
    exact ⟨by linarith, mul_nonneg_of_nonpos_of_nonpos hv hle⟩
  · have hv : 0 ≤ v := hle.trans hdown
    rw [abs_of_nonneg hle, abs_of_nonneg hv]
    exact ⟨hdown, mul_nonneg hv hle⟩

theorem comesToRest_trans {s'' : Servo ExtRat} (hs : ∃ v, s.actualVelocity = num v)
    (hs' : ∃ v, s'.actualVelocity = num v) (hs'' : ∃ v, s''.actualVelocity = num v)
    (h : s.ComesToRest s') (h' : s'.ComesToRest s'') : s.ComesToRest s'' := by
  obtain ⟨v, hv⟩ := hs
  obtain ⟨v', hv'⟩ := hs'
  obtain ⟨v'', hv''⟩ := hs''
  rw [comesToRest_num hv hv'] at h
  rw [comesToRest_num hv' hv''] at h'
  obtain ⟨hspeed, hdirection, hrest⟩ := h
  obtain ⟨hspeed', hdirection', hrest'⟩ := h'
  refine (comesToRest_num hv hv'').mpr ⟨hspeed'.trans hspeed, ?_, fun h0 => ?_⟩
  · rcases eq_or_ne v' 0 with hzero | hne
    · have hrest : v'' = 0 := by
        rw [hzero, abs_zero] at hspeed'
        exact abs_eq_zero.mp (le_antisymm hspeed' (abs_nonneg v''))
      rw [hrest, mul_zero]
    · have hsquare : 0 < v' * v' := mul_self_pos.mpr hne
      have hproduct : 0 ≤ v * v'' * (v' * v') := by
        calc (0 : ℚ) ≤ v * v' * (v' * v'') := mul_nonneg hdirection hdirection'
          _ = v * v'' * (v' * v') := by ring
      exact nonneg_of_mul_nonneg_left hproduct hsquare
  · have hstill : v' = 0 := by
      rw [h0, abs_zero] at hspeed
      exact abs_eq_zero.mp (le_antisymm hspeed (abs_nonneg v'))
    exact (hrest' hstill).trans (hrest h0)

/-- A drive that stops where it is, or was there at rest. -/
theorem comesToRest_of_zero (hv : s'.actualVelocity = 0) (hs : ∃ v, s.actualVelocity = num v)
    (hp : s.actualVelocity = 0 → s'.actualPosition = s.actualPosition) : s.ComesToRest s' := by
  obtain ⟨v, hnum⟩ := hs
  refine (comesToRest_num hnum hv).mpr ⟨by simp, by simp, fun h0 => hp ?_⟩
  rw [hnum, h0]
  rfl

/-- In every mode but homing a halted drive comes to rest. -/
theorem Moved.comesToRest (h : s.Finite) {t : ℚ} (ht : s.cycleTime = num t) {v' p' : ExtRat}
    (hm : s.Moved v' p') (hmode : s.od.int Key.modeOfOperation ≠ 6) (hhalt : s.haltActive = true)
    (hv' : s'.actualVelocity = v') (hp' : s'.actualPosition = p') : s.ComesToRest s' := by
  obtain ⟨v, hv⟩ := h.actualVelocity
  cases hm with
  | keeps =>
    rw [hv] at hv'
    exact (comesToRest_num hv hv').mpr ⟨le_rfl, mul_self_nonneg v, fun _ => hp'⟩
  | steps demand demanded w v' velocity toward =>
    rw [hv] at velocity
    cases velocity
    rw [(demanded.bounded h).halt hhalt] at toward
    obtain ⟨hspeed, hdirection⟩ := toward_zero toward
    refine (comesToRest_num hv hv').mpr ⟨hspeed, hdirection, fun h0 => ?_⟩
    have hstill : v' = 0 := by
      rw [h0, abs_zero] at hspeed
      exact abs_eq_zero.mp (le_antisymm hspeed (abs_nonneg v'))
    obtain ⟨p, hp⟩ := h.actualPosition
    obtain ⟨r, -, hr⟩ := integrated_num (s := s.setVelocity (num v')) hp rfl ht
    rw [hp', hr, hp, hstill]
    simp
  | arrives mode halt =>
    rw [hhalt] at halt
    cases halt
  | brakes mode => exact absurd mode hmode
  | references mode => exact absurd mode hmode

/-- The next cycle in homing mode is the last one of its homing run. -/
def FinishesHoming (s : Servo ExtRat) : Prop :=
  if s.newSetpoint then cyclesIn (lit (1 / 10)) s.cycleTime = .ok 1
  else s.homingActive = true ∧ s.homingCounter ≤ 1

/-- The next update completes a homing run of a drive that stands away from the reference. -/
def ReferencesAway (s : Servo ExtRat) : Prop :=
  s.actualVelocity = 0 ∧ s.actualPosition ≠ 0 ∧ s.deviceResetRequested = false ∧
    s.sm.process s.controlword = .operationEnabled ∧ s.od.int Key.modeOfOperation = 6 ∧
    s.FinishesHoming

instance (s : Servo ExtRat) : Decidable s.FinishesHoming := by
  unfold FinishesHoming
  infer_instance

instance (s : Servo ExtRat) : Decidable s.ReferencesAway := inferInstanceAs (Decidable (_ ∧ _))

/-- What the commands do to the motion does not disturb coming to rest. -/
theorem comesToRest_started (h : s.Finite) (hs : s.started.ComesToRest s')
    (hs' : ∃ v, s'.actualVelocity = num v) : s.ComesToRest s' := by
  have hspec := s.started_spec
  rcases hspec.actualVelocity with heq | hzero
  · exact ⟨heq ▸ hs.speed, heq ▸ hs.direction, fun h0 => hspec.actualPosition ▸ hs.rest (heq.trans h0)⟩
  · obtain ⟨v', hv'⟩ := hs'
    have hstill := ((comesToRest_num hzero hv').mp hs).1
    rw [abs_zero] at hstill
    refine comesToRest_of_zero ?_ h.actualVelocity fun _ => hspec.actualPosition ▸ hs.rest hzero
    rw [hv', abs_eq_zero.mp (le_antisymm hstill (abs_nonneg v'))]
    rfl

theorem cyclesIn_pos {x y : ExtRat} {n : Int} (h : cyclesIn x y = .ok n) : 1 ≤ n := by
  unfold cyclesIn at h
  cases hdiv : floatDiv x y with
  | error e =>
    rw [hdiv] at h
    cases h
  | ok q =>
    rw [hdiv] at h
    change (floatToInt q >>= fun n => Except.ok (Max.max 1 n)) = _ at h
    cases hint : floatToInt q with
    | error e =>
      rw [hint] at h
      cases h
    | ok m =>
      rw [hint] at h
      cases h
      exact le_max_left 1 m

/-- A cycle of homing ends the run at the reference, or leaves the drive where it is. -/
theorem Homed.position {r : Except Exc Unit} {q : Servo ExtRat} (h : s.Homed r q) :
    (s.FinishesHoming → q.actualVelocity = 0 ∧ q.actualPosition = 0) ∧
      (¬ s.FinishesHoming → (q.actualVelocity = s.actualVelocity ∨ q.actualVelocity = 0) ∧
        q.actualPosition = s.actualPosition) := by
  have hadvanced : ∀ {t q : Servo ExtRat}, t.Advanced q →
      (t.homingActive = true ∧ t.homingCounter ≤ 1 → q.actualVelocity = 0 ∧ q.actualPosition = 0) ∧
        (¬ (t.homingActive = true ∧ t.homingCounter ≤ 1) → q.actualVelocity = t.actualVelocity ∧
          q.actualPosition = t.actualPosition) := by
    intro t q ht
    cases ht with
    | idle active => exact ⟨fun h => absurd h.1 (by simp [active]), fun _ => ⟨rfl, rfl⟩⟩
    | counts active counter => exact ⟨fun h => absurd h.2 (by omega), fun _ => ⟨rfl, rfl⟩⟩
    | ends active counter => exact ⟨fun _ => ⟨rfl, rfl⟩, fun h => absurd ⟨active, counter⟩ h⟩
  unfold FinishesHoming
  cases h with
  | goesOn edge =>
    rw [edge]
    obtain ⟨hends, hgoes⟩ := hadvanced s.advanceHoming_advanced
    exact ⟨hends, fun hn => ⟨.inl (hgoes hn).1, (hgoes hn).2⟩⟩
  | starts edge count cycles =>
    rw [edge, if_pos rfl, cycles, Except.ok.injEq]
    have hpos := cyclesIn_pos cycles
    obtain ⟨hends, hgoes⟩ := hadvanced (s.homingStarted count).advanceHoming_advanced
    refine ⟨fun h1 => hends ⟨rfl, h1.le⟩, fun hn => ?_⟩
    have hmore : ¬ ((s.homingStarted count).homingActive = true ∧
        (s.homingStarted count).homingCounter ≤ 1) := fun h => hn (le_antisymm h.2 hpos)
    exact ⟨.inr (hgoes hmore).1, (hgoes hmore).2⟩
  | fails edge e cycles =>
    rw [edge, if_pos rfl, cycles]
    exact ⟨nofun, fun _ => ⟨.inl rfl, rfl⟩⟩

theorem started_finishesHoming (hreset : s.deviceResetRequested = false)
    (hmode : s.od.int Key.modeOfOperation = 6) : s.started.FinishesHoming ↔ s.FinishesHoming := by
  have hactive : s.started.homingActive = s.homingActive := by
    rw [s.started_spec.homingActive, applyOdCommands_homingActive, hmode]
    simp
  have hcounter : s.started.homingCounter = s.homingCounter :=
    congrArg (fun l => l.2.2) s.started_lawful
  unfold FinishesHoming
  rw [started_newSetpoint_eq hreset, s.started_spec.cycleTime, hactive, hcounter]

theorem update_homing (hreset : s.deviceResetRequested = false) (hd : s.started.enabled = true)
    (hmode : s.od.int Key.modeOfOperation = 6) : (s.FinishesHoming → (modelUpdate s).2.actualVelocity = 0 ∧
        (modelUpdate s).2.actualPosition = 0) ∧
      (¬ s.FinishesHoming → ((modelUpdate s).2.actualVelocity = s.actualVelocity ∨
        (modelUpdate s).2.actualVelocity = 0) ∧
        (modelUpdate s).2.actualPosition = s.actualPosition) := by
  have hspec := s.started_spec
  have hstarted : s.started.od.int Key.modeOfOperation = 6 := by
    rw [started_mode, applyOdCommands_mode, hreset]
    exact hmode
  refine s.modelUpdate_law (P := fun q => (s.FinishesHoming → q.actualVelocity = 0 ∧
    q.actualPosition = 0) ∧ (¬ s.FinishesHoming → (q.actualVelocity = s.actualVelocity ∨
      q.actualVelocity = 0) ∧ q.actualPosition = s.actualPosition)) (fun _ _ _ hq => hq) ?_
  rw [hstarted]
  refine (processHoming_homed hd).mono fun r q hq => ?_
  obtain ⟨hends, hgoes⟩ := hq.position
  rw [started_finishesHoming hreset hmode] at hends hgoes
  refine ⟨hends, fun hn => ⟨?_, (hgoes hn).2.trans hspec.actualPosition⟩⟩
  rcases (hgoes hn).1 with hv | hv
  · exact hspec.actualVelocity.imp hv.trans hv.trans
  · exact .inr hv

theorem comesToRest_of_keeps (hs : ∃ v, s.actualVelocity = num v)
    (hv : s'.actualVelocity = s.actualVelocity ∨ s'.actualVelocity = 0)
    (hp : s'.actualPosition = s.actualPosition) : s.ComesToRest s' := by
  rcases hv with hv | hv
  · obtain ⟨v, hnum⟩ := hs
    rw [hnum] at hv
    exact (comesToRest_num hnum hv).mpr ⟨le_rfl, mul_self_nonneg v, fun _ => hp⟩
  · exact comesToRest_of_zero hv hs fun _ => hp

/-- A halted update brings the drive to rest exactly if it does not complete a homing run away from
the reference. -/
theorem update_comesToRest (h : s.Finite) (hsettled : s.Settled) {t : ℚ} (ht : s.cycleTime = num t)
    (hpos : 0 ≤ t) (hhalt : hasBits s.controlword 0x100 = true) :
    s.ComesToRest (modelUpdate s).2 ↔ ¬ s.ReferencesAway := by
  cases hd : s.started.enabled with
  | false =>
    have hunmoved := update_disabled_unmoved hsettled hd
    refine iff_of_true (comesToRest_of_zero hunmoved.actualVelocity h.actualVelocity
      fun _ => hunmoved.actualPosition) ?_
    rintro ⟨-, -, hreset, hsm, -⟩
    rw [s.started_enabled.mpr ⟨hreset, hsm⟩] at hd
    cases hd
  | true =>
    obtain ⟨hreset, hsm⟩ := s.started_enabled.mp hd
    by_cases h6 : s.od.int Key.modeOfOperation = 6
    · obtain ⟨hends, hgoes⟩ := update_homing hreset hd h6
      by_cases hfinishes : s.FinishesHoming
      · obtain ⟨hv, hp⟩ := hends hfinishes
        constructor
        · rintro hrest ⟨hzero, haway, -⟩
          exact haway (hp ▸ hrest.rest hzero).symm
        · intro hstays
          refine comesToRest_of_zero hv h.actualVelocity fun hzero => ?_
          by_contra haway
          rw [hp] at haway
          exact hstays ⟨hzero, fun h => haway h.symm, hreset, hsm, h6, hfinishes⟩
      · obtain ⟨hv, hp⟩ := hgoes hfinishes
        exact iff_of_true (comesToRest_of_keeps h.actualVelocity hv hp) fun h => hfinishes h.2.2.2.2.2
    · have hmode : s.started.od.int Key.modeOfOperation ≠ 6 := by
        rw [started_mode, applyOdCommands_mode, hreset]
        exact h6
      have hhalted : s.started.haltActive = true := by
        rw [started_haltActive, started_controlword, applyOdCommands_controlword, hreset]
        exact hhalt
      obtain ⟨hfinite, hmoved⟩ := update_stepped h ht hpos
      refine iff_of_true ?_ fun h => h6 h.2.2.2.2.1
      refine comesToRest_started h ?_ hfinite.actualVelocity
      exact hmoved.comesToRest h.started (s.started_spec.cycleTime.trans ht) hmode hhalted rfl rfl

theorem operate_comesToRest (h : s.Finite) (hsettled : s.Settled) {op : Operation ExtRat}
    (htimed : op.Timed) (hhalt : op.isUpdate = true → hasBits s.controlword 0x100 = true) :
    s.ComesToRest (s.operate op) ↔ (op.isUpdate = true → ¬ (s.begun op).ReferencesAway) := by
  cases hop : op with
  | rxpdo | sdo =>
    have hupdate : op.isUpdate = false := by rw [hop]; rfl
    obtain ⟨od, hwrite⟩ := operate_write (s := s) hupdate
    refine iff_of_true ?_ nofun
    rw [← hop, hwrite]
    exact comesToRest_of_keeps h.actualVelocity (.inl rfl) rfl
  | update dt =>
    subst hop
    obtain ⟨t, hpos, rfl⟩ := htimed dt rfl
    have hbegun := update_comesToRest (h.begun (.update (num t))) (t := t)
      ⟨hsettled.actualVelocity, hsettled.ppActive⟩ rfl hpos (hhalt rfl)
    exact ⟨fun hrest _ => hbegun.mp ⟨hrest.speed, hrest.direction, hrest.rest⟩, fun hstays =>
      have hrest := hbegun.mpr (hstays rfl)
      ⟨hrest.speed, hrest.direction, hrest.rest⟩⟩

/-- While bit 8 is set the drive comes to rest and stays there, exactly if no homing run is
completed away from the reference. -/
theorem halt (mode : AxisMode) (operations : Nat → Operation ExtRat)
    (htimed : ∀ n, (operations n).Timed) (i j : Nat) (hhalt : ∀ n, i ≤ n → n < j →
      (operations n).isUpdate = true → hasBits (servos mode operations n).controlword 0x100 = true) :
    (∀ m n, i ≤ m → m ≤ n → n ≤ j → (servos mode operations m).ComesToRest (servos mode operations n)) ↔
      ∀ n, i ≤ n → n < j → (operations n).isUpdate = true →
        ¬ (updating mode operations n).ReferencesAway := by
  have hfinite := servos_finite mode htimed
  have hstep : ∀ n, i ≤ n → n < j → ((servos mode operations n).ComesToRest
      (servos mode operations (n + 1)) ↔ ((operations n).isUpdate = true →
        ¬ (updating mode operations n).ReferencesAway)) := fun n hi hj =>
    operate_comesToRest (hfinite n) (servos_settled mode operations n) (htimed n) (hhalt n hi hj)
  constructor
  · intro hrest n hi hj
    exact (hstep n hi hj).mp (hrest n (n + 1) hi (Nat.le_succ n) hj)
  · intro hstays m n hi hm hn
    induction n, hm using Nat.le_induction with
    | base => exact comesToRest_of_keeps (hfinite m).actualVelocity (.inl rfl) rfl
    | succ n hm ih =>
      exact comesToRest_trans (hfinite m).actualVelocity (hfinite n).actualVelocity
        (hfinite (n + 1)).actualVelocity (ih (Nat.le_of_succ_le hn))
        ((hstep n (hi.trans hm) hn).mpr (hstays n (hi.trans hm) hn))

/-- A drive at full speed is halted. -/
theorem halt_velocity :
    let run := pdoRun (velocityFrames.take 6 ++ List.replicate 3 ([0x0f, 0x01, 0x03] ++ List.replicate 21 0x00))
    (servos .linear run 12).ComesToRest (servos .linear run 18) := by
  intro run
  have hwindow : ∀ n < 18, 12 ≤ n → (run n).isUpdate = true →
      hasBits (servos .linear run n).controlword 0x100 = true ∧
        ¬ (updating .linear run n).ReferencesAway := by
    decide +kernel
  have hrest := halt .linear run (pdoRun_timed _) 12 18 fun n hi hj hop => (hwindow n hj hi hop).1
  exact hrest.mpr (fun n hi hj hop => (hwindow n hj hi hop).2) 12 18 le_rfl (by norm_num) le_rfl

/-- A halted drive at rest jumps to the reference when it is homed. -/
theorem halt_homed :
    let frame (controlword mode : UInt8) : Bytes := [controlword, 0x01, mode] ++ List.replicate 21 0x00
    let run := pdoRun (velocityFrames.take 6 ++ [frame 0x0f 0x06, frame 0x1f 0x06, frame 0x1f 0x06])
    (∀ n < 18, 12 ≤ n → (run n).isUpdate = true →
      hasBits (servos .linear run n).controlword 0x100 = true) ∧
      (servos .linear run 14).actualVelocity = 0 ∧
      (servos .linear run 18).actualPosition ≠ (servos .linear run 14).actualPosition := by
  decide +kernel

end Servo

end EthercatSimulator.Behaviour
