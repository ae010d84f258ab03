import EthercatSimulator.Behaviour.Acknowledge
import EthercatSimulator.Behaviour.MotionLaws

/-! The velocity envelope: whatever the modes do, the velocity stays within the limits. -/

namespace EthercatSimulator.Behaviour

open Base Profile Diagnostics PyFloat ExtRat

namespace Servo

variable {s : Servo ExtRat}

/-- The velocity is within the limits. -/
def Within (negative positive : ExtRat) (velocity : ExtRat) : Prop :=
  -negative ≤ velocity ∧ velocity ≤ positive

theorem within_zero {negative positive : ExtRat} (hn : 0 < negative) (hp : 0 < positive) :
    Within negative positive 0 := by
  constructor
  · cases negative with
    | num n =>
      rw [zero_def, num_lt] at hn
      exact (num_le (-n) 0).mpr (by linarith)
    | posInf => rfl
    | negInf | nan => cases hn
  · cases positive with
    | num p =>
      rw [zero_def, num_lt] at hp
      exact (num_le 0 p).mpr hp.le
    | posInf => rfl
    | negInf | nan => cases hp

theorem toward_le {v v' p : ℚ} {demand : ExtRat} (h : Toward v demand v') (hd : demand ≤ num p)
    (hv : v ≤ p) : v' ≤ p := by
  rcases h with ⟨-, hup⟩ | ⟨-, hdown⟩
  · cases demand with
    | num d => exact ((num_le v' d).mp hup).trans ((num_le d p).mp hd)
    | posInf | nan => cases hd
    | negInf => cases hup
  · exact hdown.trans hv

theorem le_toward {v v' n : ℚ} {demand : ExtRat} (h : Toward v demand v') (hd : num n ≤ demand)
    (hv : n ≤ v) : n ≤ v' := by
  rcases h with ⟨hup, -⟩ | ⟨hdown, -⟩
  · exact hv.trans hup
  · cases demand with
    | num d => exact ((num_le n d).mp hd).trans ((num_le d v').mp hdown)
    | negInf | nan => cases hd
    | posInf => cases hdown

/-- On the way to a demand within the limits the velocity stays within them. -/
theorem Bounded.within {demand : ExtRat} (hd : s.Bounded demand) {v v' : ℚ}
    (h : Toward v demand v') (hneg : 0 < s.negativeLimit) (hpos : 0 < s.positiveLimit)
    (hv : Within s.negativeLimit s.positiveLimit (num v)) :
    Within s.negativeLimit s.positiveLimit (num v') := by
  constructor
  · cases hlimit : s.negativeLimit with
    | num n =>
      rw [hlimit, zero_def, num_lt] at hneg
      rw [Within, hlimit, neg_num, num_le] at hv
      rw [neg_num, num_le]
      exact le_toward h (hd.lower n hneg hlimit) hv.1
    | posInf => rfl
    | negInf | nan => rw [hlimit] at hneg; cases hneg
  · cases hlimit : s.positiveLimit with
    | num p =>
      rw [hlimit, zero_def, num_lt] at hpos
      rw [Within, hlimit, num_le] at hv
      rw [num_le]
      exact toward_le h (hd.upper p hpos hlimit) hv.2
    | posInf => rfl
    | negInf | nan => rw [hlimit] at hpos; cases hpos

theorem Moved.within (h : s.Finite) {v' p' : ExtRat} (hm : s.Moved v' p')
    (hneg : 0 < s.negativeLimit) (hpos : 0 < s.positiveLimit)
    (hv : Within s.negativeLimit s.positiveLimit s.actualVelocity) :
    Within s.negativeLimit s.positiveLimit v' := by
  cases hm with
  | keeps => exact hv
  | steps demand demanded v v' velocity toward =>
    exact (demanded.bounded h).within toward hneg hpos (velocity ▸ hv)
  | arrives | brakes | references => exact within_zero hneg hpos

/-- What neither a motion law nor the statusword touches. -/
theorem update_od (s : Servo ExtRat) {key : Key} (ht : key ≠ Key.targetPosition)
    (hp : key ≠ Key.actualPosition) (hv : key ≠ Key.actualVelocity) (hs : key ≠ Key.statusword) :
    (modelUpdate s).2.od key = s.started.od key := by
  refine s.modelUpdate_law (P := fun q => q.od key = s.started.od key) (fun q _ _ hq => ?_) ?_
  · rw [← hq]
    exact write_od_of_ne _ _ hs
  · exact (Driven.processMode rfl).mono fun _ q hq => hq.od key ht hp hv

theorem update_limits (s : Servo ExtRat) :
    (modelUpdate s).2.negativeLimit = s.started.negativeLimit ∧
      (modelUpdate s).2.positiveLimit = s.started.positiveLimit := by
  have hnegative : (modelUpdate s).2.od Key.negativeVelocityLimit =
      s.started.od Key.negativeVelocityLimit :=
    s.update_od (by decide) (by decide) (by decide) (by decide)
  have hpositive : (modelUpdate s).2.od Key.maxProfileVelocity = s.started.od Key.maxProfileVelocity :=
    s.update_od (by decide) (by decide) (by decide) (by decide)
  unfold negativeLimit positiveLimit Od.real
  rw [hnegative, hpositive]
  exact ⟨rfl, rfl⟩

/-- A cycle after which the limits are `negative` and `positive` keeps the velocity within them. -/
theorem update_within (h : s.Finite) {t : ℚ} (ht : s.cycleTime = num t) (hpos : 0 ≤ t)
    (hn : 0 < (modelUpdate s).2.negativeLimit) (hp : 0 < (modelUpdate s).2.positiveLimit)
    (hv : Within (modelUpdate s).2.negativeLimit (modelUpdate s).2.positiveLimit s.actualVelocity) :
    Within (modelUpdate s).2.negativeLimit (modelUpdate s).2.positiveLimit
      (modelUpdate s).2.actualVelocity := by
  obtain ⟨-, hmoved⟩ := update_stepped h ht hpos
  obtain ⟨hnegative, hpositive⟩ := s.update_limits
  rw [hnegative] at hn
  rw [hpositive] at hp
  rw [hnegative, hpositive] at hv ⊢
  refine hmoved.within h.started hn hp ?_
  rcases s.started_spec.actualVelocity with heq | hzero
  · rw [heq]
    exact hv
  · rw [hzero]
    exact within_zero hn hp

/-- While every cycle runs under the same positive limits the velocity never leaves them, whatever
the modes, targets, halts, homing runs, resets and other parameters are. -/
theorem envelope (mode : AxisMode) (operations : Nat → Operation ExtRat)
    (htimed : ∀ n, (operations n).Timed) {negative positive : ExtRat} (hneg : 0 < negative)
    (hpos : 0 < positive) (hlimits : ∀ n, (operations n).isUpdate = true →
      (servos mode operations (n + 1)).negativeLimit = negative ∧
        (servos mode operations (n + 1)).positiveLimit = positive) (n : Nat) :
    -negative ≤ (servos mode operations n).actualVelocity ∧
      (servos mode operations n).actualVelocity ≤ positive := by
  change Within negative positive (servos mode operations n).actualVelocity
  induction n with
  | zero => exact within_zero hneg hpos
  | succ n ih =>
    have hfinite := servos_finite mode htimed n
    have hlimits := hlimits n
    change Within negative positive ((servos mode operations n).operate (operations n)).actualVelocity
    change _ → ((servos mode operations n).operate (operations n)).negativeLimit = negative ∧
      ((servos mode operations n).operate (operations n)).positiveLimit = positive at hlimits
    generalize servos mode operations n = s at ih hfinite hlimits
    cases hop : operations n with
    | rxpdo | sdo =>
      have hupdate : (operations n).isUpdate = false := by rw [hop]; rfl
      obtain ⟨od, hwrite⟩ := operate_write (s := s) hupdate
      rw [← hop, hwrite]
      exact ih
    | update dt =>
      obtain ⟨t, ht, rfl⟩ := htimed n dt hop
      rw [hop] at hlimits
      obtain ⟨hn, hp⟩ := hlimits rfl
      rw [operate_update _ rfl] at hn hp ⊢
      have hbegun := hfinite.begun (.update (num t))
      rw [← hn, ← hp]
      refine update_within hbegun rfl ht (by rw [hn]; exact hneg) (by rw [hp]; exact hpos) ?_
      rw [hn, hp]
      exact ih

theorem pdoRun_timed (frames : List Bytes) (n : Nat) : (pdoRun frames n).Timed := by
  intro dt h
  unfold pdoRun at h
  split at h
  · cases h
  · split at h
    · cases h
    · cases h
      exact ⟨1 / 20, by norm_num, rfl⟩

/-- Towards a velocity far beyond the limits, and back. -/
def velocityFrames : List Bytes :=
  let frame (controlword : UInt8) (velocity : Bytes) : Bytes :=
    [controlword, 0x00, 0x03] ++ List.replicate 8 0x00 ++ velocity ++ List.replicate 9 0x00
  let up : Bytes := [0xff, 0xff, 0xff, 0x7f]
  let down : Bytes := [0x00, 0x00, 0x00, 0x80]
  [frame 0x06 up, frame 0x07 up] ++ List.replicate 6 (frame 0x0f up) ++
    List.replicate 10 (frame 0x0f down)

theorem envelope_exhausted : -num 200 ≤ (servos .linear (pdoRun velocityFrames) 36).actualVelocity ∧
    (servos .linear (pdoRun velocityFrames) 36).actualVelocity ≤ num 200 := by
  have hfirst : ∀ n < 36, (pdoRun velocityFrames n).isUpdate = true →
      (servos .linear (pdoRun velocityFrames) (n + 1)).negativeLimit = num 200 ∧
        (servos .linear (pdoRun velocityFrames) (n + 1)).positiveLimit = num 200 := by
    decide +kernel
  refine envelope .linear _ (pdoRun_timed _) (by decide) (by decide) (fun n hop => ?_) 36
  rcases Nat.lt_or_ge n 36 with hn | hn
  · exact hfirst n hn hop
  · have hnone : velocityFrames[n / 2]? = none :=
      List.getElem?_eq_none (by change 18 ≤ n / 2; omega)
    simp [pdoRun, hnone, Operation.isUpdate] at hop

end Servo

end EthercatSimulator.Behaviour
