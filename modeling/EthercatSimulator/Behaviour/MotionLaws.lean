import EthercatSimulator.Behaviour.DemandLaws
import EthercatSimulator.Behaviour.HomingLaws

/-! One motion law in exact arithmetic: the velocity goes towards a demand, and the position
follows it. -/

namespace EthercatSimulator.Behaviour

open Base Profile Diagnostics PyFloat ExtRat

/-- Time does not run backwards. -/
def Operation.Timed (op : Operation ExtRat) : Prop := ∀ dt, op = .update dt → ∃ t, 0 ≤ t ∧ dt = num t

namespace Servo

variable {s : Servo ExtRat}

/-- The velocity and the position after a motion law. -/
inductive Moved (s : Servo ExtRat) : ExtRat → ExtRat → Prop
  | keeps : Moved s s.actualVelocity s.actualPosition
  | steps (demand : ExtRat) (demanded : s.Demand demand) (v v' : ℚ)
    (velocity : s.actualVelocity = num v) (toward : Toward v demand v') :
    Moved s (num v') (s.setVelocity (num v')).integrated
  | arrives (mode : s.od.int Key.modeOfOperation = 1) (halt : s.haltActive = false) (target : ℚ) :
    Moved s 0 (num target)
  | brakes (mode : s.od.int Key.modeOfOperation = 6) : Moved s 0 s.actualPosition
  | references (mode : s.od.int Key.modeOfOperation = 6) : Moved s 0 0

theorem accelerationToVelocityDelta_num (s : Servo ExtRat) {a t : ℚ} (ha : 0 ≤ a)
    (ht : s.cycleTime = num t) (hpos : 0 ≤ t) :
    ∃ d, 0 ≤ d ∧ s.accelerationToVelocityDelta (num a) s.cycleTime = num d := by
  obtain ⟨x, hx, hscale⟩ := s.accelerationScale_num
  obtain ⟨y, hy, hvelocity⟩ := s.velocityScale_num
  refine ⟨a * x / y * t, by positivity, ?_⟩
  rw [accelerationToVelocityDelta, hscale, hvelocity, ht, num_mul, num_div, num_mul]

theorem integrated_num {p v t : ℚ} (hp : s.actualPosition = num p) (hv : s.actualVelocity = num v)
    (ht : s.cycleTime = num t) : ∃ r, 0 < r ∧ s.integrated = num (p + v * r * t) := by
  obtain ⟨x, hx, hposition⟩ := s.positionScale_num
  obtain ⟨y, hy, hvelocity⟩ := s.velocityScale_num
  refine ⟨y / x, by positivity, ?_⟩
  rw [integrated, velocityToPositionRate, hp, hv, ht, hposition, hvelocity]
  simp only [num_mul, num_div, num_add]
  congr 2
  ring

/-- What a motion law makes of the servo. -/
structure Stepped (s q : Servo ExtRat) : Prop where
  numbers : Finite.Numbers q
  moved : s.Moved q.actualVelocity q.actualPosition

theorem Finite.keeps (h : s.Finite) : s.Stepped s := ⟨h.numbers, .keeps⟩

/-- A law that heads for a demand. -/
theorem Finite.stepped (h : s.Finite) {t : ℚ} (ht : s.cycleTime = num t) {demand : ExtRat}
    (hd : s.Demand demand) {v' : ExtRat}
    (hv' : ∀ v, s.actualVelocity = num v → ∃ q, v' = num q ∧ Toward v demand q) :
    s.Stepped ((s.setVelocity v').setPosition (s.setVelocity v').integrated).writeActualFeedback := by
  obtain ⟨v, hv⟩ := h.actualVelocity
  obtain ⟨p, hp⟩ := h.actualPosition
  obtain ⟨q, rfl, htoward⟩ := hv' v hv
  obtain ⟨r, -, hr⟩ := integrated_num (s := s.setVelocity (num q)) hp rfl ht
  exact ⟨⟨Finite.feedback_numeric h.numeric ⟨_, hr⟩ ⟨q, rfl⟩, ⟨_, hr⟩, ⟨q, rfl⟩, h.ppTargetPosition,
    h.lastTargetPositionCommand⟩, .steps demand hd v q hv htoward⟩

theorem Stepped.counted {q : Servo ExtRat} (h : s.Stepped q) (reached : Bool) (counter : Int) :
    s.Stepped { q with targetReached := reached, windowCounter := counter } :=
  ⟨⟨h.numbers.1, h.numbers.2, h.numbers.3, h.numbers.4, h.numbers.5⟩, h.moved⟩

theorem Finite.velocityStep_stepped (h : s.Finite) {t : ℚ} (ht : s.cycleTime = num t) (hpos : 0 ≤ t)
    {target : ExtRat} (hd : s.Demand target) :
    s.Stepped (s.velocityStep target (s.od.real Key.profileAcceleration)
      (s.od.real Key.profileDeceleration)).1 := by
  obtain ⟨a, ha, haccel⟩ := h.profileAcceleration
  obtain ⟨b, hb, hdecel⟩ := h.profileDeceleration
  refine h.stepped ht hd fun v hv => ?_
  rw [hv, haccel, hdecel]
  split
  · obtain ⟨d, -, hdelta⟩ := s.accelerationToVelocityDelta_num ha ht hpos
    rw [hdelta]
    exact moveTowards_num v (hd.bounded h).ne_nan d
  · obtain ⟨d, -, hdelta⟩ := s.accelerationToVelocityDelta_num hb ht hpos
    rw [hdelta]
    exact moveTowards_num v (hd.bounded h).ne_nan d

theorem Finite.slowed_stepped (h : s.Finite) {t : ℚ} (ht : s.cycleTime = num t) (hpos : 0 ≤ t) :
    s.Stepped s.slowed := by
  obtain ⟨b, hb, hdecel⟩ := h.profileDeceleration
  refine h.stepped ht .rest fun v hv => ?_
  rw [hv, hdecel, abs_num, abs_of_nonneg hb]
  obtain ⟨d, -, hdelta⟩ := s.accelerationToVelocityDelta_num hb ht hpos
  rw [hdelta]
  exact moveTowards_num v s.bounded_zero.ne_nan d

theorem toward_clamped {v c d : ℚ} (hd : 0 ≤ d) :
    Toward v (num c) (v + max (min (c - v) d) (-d)) := by
  rw [toward_num]
  rcases le_total v c with h | h
  · refine .inl ⟨?_, ?_⟩
    · have : 0 ≤ min (c - v) d := le_min (by linarith) hd
      linarith [le_max_left (min (c - v) d) (-d)]
    · have : max (min (c - v) d) (-d) ≤ c - v := max_le (min_le_left _ _) (by linarith)
      linarith
  · refine .inr ⟨?_, ?_⟩
    · have : min (c - v) d = c - v := min_eq_left (by linarith)
      rw [this]
      linarith [le_max_left (c - v) (-d)]
    · have : max (min (c - v) d) (-d) ≤ 0 := max_le ((min_le_left _ _).trans (by linarith)) (by linarith)
      linarith

/-- Following the position target, the change of velocity is clamped on both sides. -/
theorem Finite.cspStep_velocity (h : s.Finite) {t : ℚ} (ht : s.cycleTime = num t) (hpos : 0 ≤ t)
    {v c : ℚ} (hv : s.actualVelocity = num v) (hc : s.cspDemand = num c) :
    ∃ d, 0 ≤ d ∧ s.cspStep.actualVelocity = num (v + max (min (c - v) d) (-d)) := by
  obtain ⟨a, ha, haccel⟩ := h.profileAcceleration
  obtain ⟨b, hb, hdecel⟩ := h.profileDeceleration
  obtain ⟨d, hd, hdelta⟩ : ∃ d, 0 ≤ d ∧ s.accelerationToVelocityDelta
      (if PyFloat.abs s.actualVelocity < PyFloat.abs s.cspDemand then
        s.od.real Key.profileAcceleration else s.od.real Key.profileDeceleration) s.cycleTime =
      num d := by
    rw [haccel, hdecel]
    split
    · exact s.accelerationToVelocityDelta_num ha ht hpos
    · exact s.accelerationToVelocityDelta_num hb ht hpos
  have hclamped : ∀ delta, delta = num d → s.actualVelocity +
      PyFloat.max (PyFloat.min (s.cspDemand - s.actualVelocity) delta) (-delta) =
        num (v + max (min (c - v) d) (-d)) := by
    rintro delta rfl
    rw [hc, hv, num_sub, min_num, neg_num, max_num, num_add]
  exact ⟨d, hd, hclamped _ hdelta⟩

theorem Finite.cspStep_stepped (h : s.Finite) {t : ℚ} (ht : s.cycleTime = num t) (hpos : 0 ≤ t)
    (hhalt : s.haltActive = false) : s.Stepped s.cspStep := by
  obtain ⟨target, htarget⟩ := h.targetPosition
  obtain ⟨p, hp⟩ := h.actualPosition
  obtain ⟨m, -, hm, -⟩ := maxVelocity_num h target
  obtain ⟨r, -, hc⟩ := h.cspDemand htarget hp hm
  refine h.stepped ht (.csp hhalt) fun v hv => ?_
  obtain ⟨d, hd, hclamped⟩ := h.cspStep_velocity ht hpos hv hc
  refine ⟨_, hclamped, ?_⟩
  rw [hc]
  exact toward_clamped hd

theorem updateTargetReached_stepped {q : Servo ExtRat} (h : s.Stepped q) :
    updateTargetReached.Post q fun _ q => s.Stepped q :=
  updateTargetReached_post (fun _ reached counter hq => hq.counted reached counter) h

theorem processPv_stepped (h : s.Finite) {t : ℚ} (ht : s.cycleTime = num t) (hpos : 0 ≤ t) :
    processPv.Post s fun _ q => s.Stepped q := by
  apply Exec.post_get_bind
  apply Exec.post_when
  · exact fun _ => (h.velocityStep_stepped ht hpos .pv).counted _ _
  · exact fun _ => h.keeps

theorem processJog_stepped (h : s.Finite) {t : ℚ} (ht : s.cycleTime = num t) (hpos : 0 ≤ t) :
    processJog.Post s fun _ q => s.Stepped q := by
  apply Exec.post_get_bind
  apply Exec.post_when
  · exact fun _ => (h.velocityStep_stepped ht hpos .jog).counted _ _
  · exact fun _ => h.keeps

theorem processCsp_stepped (h : s.Finite) {t : ℚ} (ht : s.cycleTime = num t) (hpos : 0 ≤ t) :
    processCsp.Post s fun _ q => s.Stepped q := by
  have hslowed := h.slowed_stepped ht hpos
  apply Exec.post_get_bind
  apply Exec.post_when
  · intro _
    cases hhalt : s.haltActive with
    | true => exact hslowed.counted _ _
    | false =>
      change (if !s.homingReferenced then _ else _ : PyM (Servo ExtRat) Unit).Post s _
      split
      · exact hslowed.counted false s.windowCounter
      · apply Exec.post_modify_bind
        exact updateTargetReached_stepped (h.cspStep_stepped ht hpos hhalt)
  · exact fun _ => h.keeps

/-- The servo with another positioning. -/
def followedBy (s : Servo ExtRat) (active ack reached : Bool) (target : ℚ) (counter : Int) :
    Servo ExtRat :=
  { s with
    ppActive := active, ppSetpointAck := ack, ppTargetPosition := num target
    targetReached := reached, windowCounter := counter }

theorem Finite.followedBy (h : s.Finite) (active ack reached : Bool) (target : ℚ) (counter : Int) :
    (s.followedBy active ack reached target counter).Finite :=
  ⟨h.sound, h.numeric, h.actualPosition, h.actualVelocity, ⟨target, rfl⟩, h.lastTargetPositionCommand,
    h.kp⟩

theorem Finite.followed (h : s.Finite) : ∃ active ack reached target counter,
    s.followed = s.followedBy active ack reached target counter := by
  obtain ⟨target, ht⟩ := h.targetPosition
  obtain ⟨latched, hl⟩ := h.ppTargetPosition
  unfold Servo.followed Servo.followedBy
  cases s.newSetpoint with
  | true => exact ⟨true, _, false, target, 0, by rw [← ht]; rfl⟩
  | false => exact ⟨s.ppActive, _, s.targetReached, latched, s.windowCounter, by rw [← hl]; rfl⟩

/-- The motion looks the same whatever the positioning and the window say. -/
theorem Moved.follow {active ack reached : Bool} {target : ℚ} {counter : Int} {v' p' : ExtRat}
    (h : Moved (s.followedBy active ack reached target counter) v' p') : s.Moved v' p' := by
  cases h with
  | keeps => exact .keeps
  | steps demand demanded v v' velocity toward =>
    refine .steps demand ?_ v v' velocity toward
    cases demanded with
    | rest => exact .rest
    | pv => exact .pv
    | jog => exact .jog
    | csp halt => exact .csp halt
    | pp halt target => exact Demand.pp (s := s) halt target
  | arrives mode halt target => exact Moved.arrives (s := s) mode halt target
  | brakes mode => exact .brakes mode
  | references mode => exact .references mode

theorem Stepped.follow {active ack reached : Bool} {target : ℚ} {counter : Int} {q : Servo ExtRat}
    (h : Stepped (s.followedBy active ack reached target counter) q) : s.Stepped q :=
  ⟨h.numbers, h.moved.follow⟩

/-- The positioning ends at its target. -/
theorem Finite.ppArrive_stepped (h : s.Finite) (hmode : s.od.int Key.modeOfOperation = 1)
    (hhalt : s.haltActive = false) (velocity : ExtRat) :
    s.Stepped (s.setVelocity velocity).ppArrive.writeActualFeedback := by
  obtain ⟨target, ht⟩ := h.ppTargetPosition
  refine ⟨⟨Finite.feedback_numeric h.numeric ⟨target, ht⟩ ⟨0, rfl⟩, ⟨target, ht⟩, ⟨0, rfl⟩,
    ⟨target, ht⟩, h.lastTargetPositionCommand⟩, ?_⟩
  change s.Moved 0 s.ppTargetPosition
  rw [ht]
  exact .arrives hmode hhalt target

theorem Finite.ppAdvance_stepped (h : s.Finite) {t : ℚ} (ht : s.cycleTime = num t) (hpos : 0 ≤ t)
    (hmode : s.od.int Key.modeOfOperation = 1) (hhalt : s.haltActive = false) (d : ExtRat) :
    s.Stepped (s.ppAdvance d).writeActualFeedback := by
  obtain ⟨target, htarget⟩ := h.ppTargetPosition
  obtain ⟨a, ha, haccel⟩ := h.profileAcceleration
  obtain ⟨b, hb, hdecel⟩ := h.profileDeceleration
  have hstepped : ∀ (braking : Prop) [Decidable braking] (v' : ExtRat),
      v' = moveTowards s.actualVelocity
        (if braking then 0 else s.ppDirection * s.maxVelocity s.ppTargetPosition)
        (s.accelerationToVelocityDelta
          (if braking then PyFloat.abs (s.od.real Key.profileDeceleration)
            else PyFloat.abs (s.od.real Key.profileAcceleration)) s.cycleTime) →
      s.Stepped ((s.setVelocity v').setPosition (s.setVelocity v').integrated).writeActualFeedback := by
    rintro braking _ v' rfl
    have hdemand : s.Demand
        (if braking then 0 else s.ppDirection * s.maxVelocity s.ppTargetPosition) := by
      split
      · exact .rest
      · have hpp := Demand.pp (s := s) hhalt target
        rw [← htarget] at hpp
        exact hpp
    refine h.stepped ht hdemand fun v hv => ?_
    have hdelta : ∃ d, s.accelerationToVelocityDelta
        (if braking then PyFloat.abs (s.od.real Key.profileDeceleration)
          else PyFloat.abs (s.od.real Key.profileAcceleration)) s.cycleTime = num d := by
      rw [haccel, hdecel, abs_num, abs_num]
      split
      · exact (s.accelerationToVelocityDelta_num (abs_nonneg b) ht hpos).imp fun _ => And.right
      · exact (s.accelerationToVelocityDelta_num (abs_nonneg a) ht hpos).imp fun _ => And.right
    obtain ⟨d, hd⟩ := hdelta
    rw [hd, hv]
    exact moveTowards_num v (hdemand.bounded h).ne_nan d
  have hite : ∀ {c : Prop} [Decidable c] {x y : Servo ExtRat}, s.Stepped x.writeActualFeedback →
      s.Stepped y.writeActualFeedback → s.Stepped (if c then x else y).writeActualFeedback := by
    intro c _ x y hx hy
    split
    · exact hx
    · exact hy
  exact hite (h.ppArrive_stepped hmode hhalt _) (hstepped _ _ rfl)

theorem ppMove_stepped (h : s.Finite) {t : ℚ} (ht : s.cycleTime = num t) (hpos : 0 ≤ t)
    (hmode : s.od.int Key.modeOfOperation = 1) (hhalt : s.haltActive = false) :
    ppMove.Post s fun _ q => s.Stepped q := by
  apply Exec.post_get_bind
  split
  · apply Exec.post_modify_bind
    apply Exec.post_modify_bind
    exact updateTargetReached_stepped (h.ppArrive_stepped hmode hhalt s.actualVelocity)
  · apply Exec.Post.bind
    · apply Exec.post_ofExcept
      intro d _
      apply Exec.post_modify_bind
      apply Exec.post_modify_bind
      exact updateTargetReached_stepped (h.ppAdvance_stepped ht hpos hmode hhalt d)
    · apply Exec.post_ofExcept
      exact fun e _ => h.keeps

theorem processPp_stepped (h : s.Finite) {t : ℚ} (ht : s.cycleTime = num t) (hpos : 0 ≤ t)
    (hmode : s.od.int Key.modeOfOperation = 1) : processPp.Post s fun _ q => s.Stepped q := by
  obtain ⟨latched, hlatched⟩ := h.ppTargetPosition
  have hclear : ∀ reached, s.Stepped (Servo.slowed { s with
      ppActive := false, ppSetpointAck := false, targetReached := reached }) := by
    intro reached
    have hcleared := (h.followedBy false false reached latched s.windowCounter).slowed_stepped ht hpos
    rw [Servo.followedBy, ← hlatched] at hcleared
    exact Stepped.follow (s := s) (by rw [Servo.followedBy, ← hlatched]; exact hcleared)
  apply Exec.post_get_bind
  apply Exec.post_when
  · intro _
    cases hhalt : s.haltActive with
    | true => exact (hclear s.targetReached).counted _ _
    | false =>
      change (if !s.homingReferenced then _ else _ : PyM (Servo ExtRat) Unit).Post s _
      split
      · exact hclear false
      · split
        · exact hclear s.targetReached
        · obtain ⟨active, ack, reached, target, counter, hfollowed⟩ := h.followed
          have hfinite := h.followedBy active ack reached target counter
          rw [← hfollowed] at hfinite
          have hback : ∀ q, s.followed.Stepped q → s.Stepped q := by
            rw [hfollowed]
            exact fun q => Stepped.follow
          have hparts : s.followed.cycleTime = s.cycleTime ∧ s.followed.od = s.od ∧
              s.followed.haltActive = s.haltActive := by
            rw [hfollowed]
            exact ⟨rfl, rfl, rfl⟩
          have ht' := hparts.1.trans ht
          apply ppFollow_post
          · intro _
            exact (ppMove_stepped hfinite ht' hpos (by rw [hparts.2.1, hmode])
              (hparts.2.2.trans hhalt)).mono fun _ q => hback q
          · intro _
            apply Exec.post_modify_bind
            exact (updateTargetReached_stepped (hfinite.slowed_stepped ht' hpos)).mono
              fun _ q => hback q
  · exact fun _ => h.keeps

theorem Finite.homingStarted (h : s.Finite) (count : Int) : (s.homingStarted count).Finite :=
  ⟨(h.sound.writeMotion _ (.inr (.inl rfl)) _).writeMotion _ (.inr (.inr rfl)) _,
    Finite.feedback_numeric h.numeric h.actualPosition ⟨0, rfl⟩, h.actualPosition, ⟨0, rfl⟩,
    h.ppTargetPosition, h.lastTargetPositionCommand, h.kp⟩

/-- A homing run keeps the drive where it is, stops it, or ends at the reference. -/
theorem Advanced.stepped (h : s.Finite) {q : Servo ExtRat} (hq : s.Advanced q) :
    Finite.Numbers q ∧ (q.actualVelocity = s.actualVelocity ∧ q.actualPosition = s.actualPosition ∨
      q.actualVelocity = 0 ∧ q.actualPosition = 0) := by
  cases hq with
  | idle => exact ⟨h.numbers, .inl ⟨rfl, rfl⟩⟩
  | counts => exact ⟨⟨h.numeric, h.actualPosition, h.actualVelocity, h.ppTargetPosition,
      h.lastTargetPositionCommand⟩, .inl ⟨rfl, rfl⟩⟩
  | ends =>
    refine ⟨⟨Finite.feedback_numeric (h.numeric.write _ fun _ => numeric_num 0) ⟨0, rfl⟩ ⟨0, rfl⟩,
      ⟨0, rfl⟩, ⟨0, rfl⟩, h.ppTargetPosition, h.lastTargetPositionCommand⟩, .inr ⟨rfl, rfl⟩⟩

theorem processHoming_stepped (h : s.Finite) (hmode : s.od.int Key.modeOfOperation = 6) :
    processHoming.Post s fun _ q => s.Stepped q := by
  cases he : s.enabled with
  | false =>
    apply Exec.post_get_bind
    rw [Exec.when, if_neg (by simp [he])]
    exact h.keeps
  | true =>
    apply (processHoming_homed he).mono
    intro r q hq
    cases hq with
    | goesOn edge =>
      obtain ⟨hnumbers, hmoved⟩ := s.advanceHoming_advanced.stepped h
      refine ⟨hnumbers, ?_⟩
      rcases hmoved with ⟨hv, hp⟩ | ⟨hv, hp⟩ <;> rw [hv, hp]
      · exact .keeps
      · exact .references hmode
    | starts edge count cycles =>
      obtain ⟨hnumbers, hmoved⟩ :=
        (s.homingStarted count).advanceHoming_advanced.stepped (h.homingStarted count)
      refine ⟨hnumbers, ?_⟩
      rcases hmoved with ⟨hv, hp⟩ | ⟨hv, hp⟩ <;> rw [hv, hp]
      · exact Moved.brakes (s := s) hmode
      · exact .references hmode
    | fails => exact ⟨⟨h.numeric, h.actualPosition, h.actualVelocity, h.ppTargetPosition,
        h.lastTargetPositionCommand⟩, .keeps⟩

/-- The law of the mode in force. -/
theorem processMode_stepped (h : s.Finite) {t : ℚ} (ht : s.cycleTime = num t) (hpos : 0 ≤ t) :
    (processMode (s.od.int Key.modeOfOperation)).Post s fun _ q => s.Stepped q := by
  unfold processMode
  split_ifs with hpp _ _ hhoming
  · exact processPp_stepped h ht hpos hpp
  · exact processPv_stepped h ht hpos
  · exact processCsp_stepped h ht hpos
  · exact processHoming_stepped h hhoming
  · exact processJog_stepped h ht hpos
  · exact h.keeps

theorem processMode_kp (mode : Int) : (processMode mode : PyM (Servo ExtRat) Unit).Keeps
    (Exec.Fixes Servo.kp) := by
  have hparts : MotionParts (F := ExtRat) (Exec.Fixes Servo.kp) :=
    ⟨fun _ _ _ => rfl, fun _ _ _ => rfl⟩
  exact hparts.processMode (fun _ => ⟨fun _ _ _ _ => rfl⟩) fun _ =>
    ⟨fun _ _ _ _ _ => rfl, fun _ => rfl⟩

/-- An update leaves numbers, and moves the drive as one law does. -/
theorem update_stepped (h : s.Finite) {t : ℚ} (ht : s.cycleTime = num t) (hpos : 0 ≤ t) :
    (modelUpdate s).2.Finite ∧
      s.started.Moved (modelUpdate s).2.actualVelocity (modelUpdate s).2.actualPosition := by
  have hfinite := h.started
  have hlaw := processMode_stepped hfinite (s.started_spec.cycleTime.trans ht) hpos
  have hq : s.started.Stepped (modelUpdate s).2 ∧ (modelUpdate s).2.kp = s.started.kp := by
    refine s.modelUpdate_law (P := fun q => s.started.Stepped q ∧ q.kp = s.started.kp) ?_
      (hlaw.and (processMode_kp _ s.started))
    rintro q controlword mode ⟨hq, hkp⟩
    have hwritten := hq.numbers.writeInt Key.statusword (q.publishedStatusword mode)
    exact ⟨⟨⟨hwritten.1, hwritten.2, hwritten.3, hwritten.4, hwritten.5⟩, hq.moved⟩, hkp⟩
  obtain ⟨⟨hnumbers, hmoved⟩, hkp⟩ := hq
  exact ⟨⟨modelUpdate_sound h.sound, hnumbers.1, hnumbers.2, hnumbers.3, hnumbers.4, hnumbers.5,
    hkp.trans hfinite.kp⟩, hmoved⟩

theorem Finite.begun (h : s.Finite) (op : Operation ExtRat) : (s.begun op).Finite := by
  cases op with
  | rxpdo | sdo => exact h
  | update dt => exact ⟨h.sound, h.numeric, h.actualPosition, h.actualVelocity, h.ppTargetPosition,
      h.lastTargetPositionCommand, h.kp⟩

theorem rxpdoObjects_integer : ∀ o ∈ rxpdoObjects, ∀ key t default,
    o = .mapped key t default → t ≠ .float32 := by
  intro o ho key t default heq
  subst heq
  simp only [rxpdoObjects, List.mem_cons, PdoObject.mapped.injEq, reduceCtorEq, List.not_mem_nil,
    or_false] at ho
  rcases ho with h | h | h | h | h | h | h | h <;> rw [h.2.1] <;> decide

theorem operate_finite (h : s.Finite) {op : Operation ExtRat} (hop : op.Timed) :
    (s.operate op).Finite := by
  cases op with
  | rxpdo payload =>
    exact ⟨rxpdoFrom_sound payload rxpdoObjects_declared 0 h.sound,
      rxpdoFrom_numeric payload rxpdoObjects_integer 0 h.numeric, h.actualPosition, h.actualVelocity,
      h.ppTargetPosition, h.lastTargetPositionCommand, h.kp⟩
  | sdo key payload =>
    unfold operate
    dsimp only
    split
    · rename_i hod
      exact ⟨h.sound.bridgeWrite hod, h.numeric.bridgeWrite hod, h.actualPosition, h.actualVelocity,
        h.ppTargetPosition, h.lastTargetPositionCommand, h.kp⟩
    · exact h
  | update dt =>
    obtain ⟨t, hpos, rfl⟩ := hop dt rfl
    exact (update_stepped (h.begun (.update (num t))) rfl hpos).1

theorem servos_finite (mode : AxisMode) {operations : Nat → Operation ExtRat}
    (htimed : ∀ n, (operations n).Timed) (n : Nat) : (servos mode operations n).Finite := by
  induction n with
  | zero => exact construct_finite mode
  | succ n ih => exact operate_finite ih (htimed n)

end Servo

end EthercatSimulator.Behaviour
