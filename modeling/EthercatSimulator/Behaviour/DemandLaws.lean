import EthercatSimulator.Behaviour.FiniteLaws

/-! The velocities the motion laws head for, in exact arithmetic, and the limits they obey. -/

namespace EthercatSimulator.Behaviour

open Base Profile Diagnostics PyFloat ExtRat

/-- `v'` lies on the way from `v` to `demand`. -/
def Toward (v : ℚ) (demand : ExtRat) (v' : ℚ) : Prop :=
  v ≤ v' ∧ num v' ≤ demand ∨ demand ≤ num v' ∧ v' ≤ v

theorem toward_num {v t v' : ℚ} : Toward v (num t) v' ↔ v ≤ v' ∧ v' ≤ t ∨ t ≤ v' ∧ v' ≤ v := by
  simp [Toward]

theorem toward_self {v : ℚ} {t : ExtRat} (ht : t ≠ nan) : Toward v t v := by
  cases t with
  | num t =>
    rw [toward_num]
    exact (le_total v t).imp (⟨le_refl v, ·⟩) (⟨·, le_refl v⟩)
  | posInf => exact .inl ⟨le_refl v, rfl⟩
  | negInf => exact .inr ⟨rfl, le_refl v⟩
  | nan => contradiction

namespace Servo

theorem moveTowards_num (v : ℚ) {t : ExtRat} (ht : t ≠ nan) (d : ℚ) :
    ∃ v', moveTowards (num v) t (num d) = num v' ∧ Toward v t v' := by
  have hle : (num d ≤ (0 : ExtRat)) ↔ d ≤ 0 := by rw [zero_def, num_le]
  unfold moveTowards
  by_cases hzero : d ≤ 0
  · rw [if_pos (hle.mpr hzero)]
    exact ⟨v, rfl, toward_self ht⟩
  · rw [if_neg (hle.not.mpr hzero)]
    cases t with
    | num t =>
      simp only [num_sub, abs_num, num_le, zero_def, num_lt, lit, ofRat_eq]
      split
      · exact ⟨t, rfl, toward_num.mpr ((le_total v t).imp (⟨·, le_refl t⟩) (⟨le_refl t, ·⟩))⟩
      · rename_i hfar
        rw [not_le] at hfar
        split
        · rename_i hup
          rw [abs_of_pos hup] at hfar
          exact ⟨v + d * 1, rfl, toward_num.mpr (.inl ⟨by linarith, by linarith⟩)⟩
        · rename_i hdown
          rw [not_lt] at hdown
          rw [abs_of_nonpos hdown] at hfar
          exact ⟨v + d * -1, rfl, toward_num.mpr (.inr ⟨by linarith, by linarith⟩)⟩
    | posInf => exact ⟨v + d * 1, rfl, .inl ⟨by linarith, rfl⟩⟩
    | negInf => exact ⟨v + d * -1, rfl, .inr ⟨rfl, by linarith⟩⟩
    | nan => contradiction

variable {s : Servo ExtRat}

/-! The limits and demands as numbers. -/

theorem negativeLimit_cases (s : Servo ExtRat) : s.negativeLimit = nan ∨ s.negativeLimit = posInf ∨
    ∃ q, 0 ≤ q ∧ s.negativeLimit = num q := by
  unfold negativeLimit
  cases s.od.real Key.negativeVelocityLimit with
  | num q => exact .inr (.inr ⟨|q * 1000|, abs_nonneg _, by simp [lit]⟩)
  | posInf => exact .inr (.inl rfl)
  | negInf => exact .inr (.inl rfl)
  | nan => exact .inl rfl

theorem Finite.unsigned (h : s.Finite) (key : Key) {d : Definition} (hd : definition key = some d)
    (hmotion : ¬ key.isMotion) (ht : d.dataType ≠ .float32) (hlow : d.dataType.low = 0) :
    ∃ q, 0 ≤ q ∧ s.od.real key = num q := by
  obtain ⟨hint, hrange, -⟩ := h.sound.int_range key hd hmotion ht
  refine ⟨s.od.int key, ?_, ?_⟩
  · rw [hlow] at hrange
    exact_mod_cast hrange
  · unfold Od.real
    rw [hint]
    rfl

theorem Finite.profileAcceleration (h : s.Finite) :
    ∃ q, 0 ≤ q ∧ s.od.real Key.profileAcceleration = num q :=
  h.unsigned _ rfl (by simp [Key.isMotion]) (by decide) (by decide)

theorem Finite.profileDeceleration (h : s.Finite) :
    ∃ q, 0 ≤ q ∧ s.od.real Key.profileDeceleration = num q :=
  h.unsigned _ rfl (by simp [Key.isMotion]) (by decide) (by decide)

theorem Finite.profileVelocity (h : s.Finite) : ∃ q, 0 ≤ q ∧ s.profileVelocity = num q := by
  obtain ⟨q, hq, heq⟩ := h.unsigned Key.profileVelocity rfl (by simp [Key.isMotion]) (by decide)
    (by decide)
  exact ⟨q, hq, by rw [Servo.profileVelocity, heq, abs_num, abs_of_nonneg hq]⟩

theorem Finite.positiveLimit (h : s.Finite) : ∃ q, 0 ≤ q ∧ s.positiveLimit = num q := by
  obtain ⟨q, hq, heq⟩ := h.unsigned Key.maxProfileVelocity rfl (by simp [Key.isMotion]) (by decide)
    (by decide)
  exact ⟨q, hq, by rw [Servo.positiveLimit, heq, abs_num, abs_of_nonneg hq]⟩

theorem Finite.targetPosition (h : s.Finite) : ∃ q, s.od.real Key.targetPosition = num q :=
  h.numeric _ (.inl rfl)

/-- A positive limit, where it applies, and the profile velocity bound the speed of positioning. -/
theorem maxVelocity_num (h : s.Finite) (target : ℚ) : ∃ q, 0 ≤ q ∧ s.maxVelocity (num target) = num q ∧
    ∀ limit, 0 < limit → (if num target < s.actualPosition ∧ 0 < s.negativeLimit then s.negativeLimit
      else s.positiveLimit) = num limit → q ≤ limit := by
  obtain ⟨v, hv, hprofile⟩ := h.profileVelocity
  obtain ⟨p, hp, hpositive⟩ := h.positiveLimit
  have hbound : ∀ limit : ExtRat, limit = posInf ∨ (∃ q, 0 ≤ q ∧ limit = num q) →
      ∃ q, 0 ≤ q ∧ (if 0 < limit then PyFloat.min (num v) limit else num v) = num q ∧
        ∀ l, 0 < l → limit = num l → q ≤ l := by
    rintro limit (rfl | ⟨l, hl, rfl⟩)
    · exact ⟨v, hv, rfl, fun _ _ h => by cases h⟩
    · rw [zero_def]
      simp only [num_lt, PyFloat.min]
      split_ifs with hlt hmin
      · exact ⟨l, hl, rfl, fun _ _ h => by cases h; exact le_refl l⟩
      · exact ⟨v, hv, rfl, fun _ _ h => by cases h; exact not_lt.mp hmin⟩
      · exact ⟨v, hv, rfl, fun _ hpos h => by cases h; exact absurd hpos hlt⟩
  unfold maxVelocity
  dsimp only
  rw [hprofile]
  split
  · rename_i hneg
    rcases s.negativeLimit_cases with hn | hn | hn
    · rw [hn] at hneg
      cases hneg.2
    · exact hbound _ (.inl hn)
    · exact hbound _ (.inr hn)
  · exact hbound _ (.inr ⟨p, hp, hpositive⟩)

/-- The direction of the remaining way to `target` at the limiting speed. -/
def ppDemand (s : Servo ExtRat) (target : ExtRat) : ExtRat :=
  (if 0 ≤ target - s.actualPosition then lit 1 else lit (-1)) * s.maxVelocity target

/-- The velocity the position loop asks for. -/
def cspDemand (s : Servo ExtRat) : ExtRat :=
  let target := s.od.real Key.targetPosition
  let desired := s.positionRateToVelocity (s.kp * (target - s.actualPosition))
  PyFloat.max (PyFloat.min desired (s.maxVelocity target)) (-(s.maxVelocity target))

/-- The velocities a motion law may head for. -/
inductive Demand (s : Servo ExtRat) : ExtRat → Prop
  | rest : Demand s 0
  | pv : Demand s s.pvTarget
  | jog : Demand s s.jogTarget
  | csp (halt : s.haltActive = false) : Demand s s.cspDemand
  | pp (halt : s.haltActive = false) (target : ℚ) : Demand s (s.ppDemand (num target))

/-! A demand is within the limits in force, and none while the drive is halted. -/

structure Bounded (s : Servo ExtRat) (demand : ExtRat) : Prop where
  ne_nan : demand ≠ nan
  upper : ∀ limit, 0 < limit → s.positiveLimit = num limit → demand ≤ num limit
  lower : ∀ limit, 0 < limit → s.negativeLimit = num limit → num (-limit) ≤ demand
  halt : s.haltActive = true → demand = 0

theorem bounded_zero (s : Servo ExtRat) : s.Bounded 0 where
  ne_nan := nofun
  upper limit hl _ := (num_le 0 limit).mpr hl.le
  lower limit hl _ := (num_le (-limit) 0).mpr (by linarith)
  halt _ := rfl

theorem Finite.targetVelocity (h : s.Finite) : ∃ q, s.od.real Key.targetVelocity = num q :=
  h.sound.real_num Key.targetVelocity rfl (by simp [Key.isMotion]) (by decide)

theorem bounded_num {q : ℚ} (hupper : ∀ limit, 0 < limit → s.positiveLimit = num limit → q ≤ limit)
    (hlower : ∀ limit, 0 < limit → s.negativeLimit = num limit → -limit ≤ q)
    (hhalt : s.haltActive = true → q = 0) : s.Bounded (num q) where
  ne_nan := nofun
  upper limit hl h := (num_le q limit).mpr (hupper limit hl h)
  lower limit hl h := (num_le (-limit) q).mpr (hlower limit hl h)
  halt h := congrArg num (hhalt h)

theorem pvTarget_bounded (h : s.Finite) : s.Bounded s.pvTarget := by
  obtain ⟨q, hq⟩ := h.targetVelocity
  obtain ⟨p, hp, hpositive⟩ := h.positiveLimit
  obtain ⟨t, ht, hhalt⟩ : ∃ t, (if s.haltActive then 0 else s.od.real Key.targetVelocity) = num t ∧
      (s.haltActive = true → t = 0) := by
    split
    · exact ⟨0, rfl, fun _ => rfl⟩
    · rename_i hhalt
      exact ⟨q, hq, fun h => absurd h hhalt⟩
  unfold pvTarget
  dsimp only
  rw [ht, hpositive, zero_def]
  simp only [num_le, num_lt, min_num]
  split_ifs with hup hdown
  · refine bounded_num (fun limit hl heq => ?_) (fun limit hl _ => ?_) fun h => ?_
    · rw [hpositive] at heq
      cases heq
      exact min_le_right t p
    · exact (neg_nonpos.mpr hl.le).trans (le_min hup.1 hp)
    · rw [hhalt h]
      exact min_eq_left hp
  · have hhalted : ¬ s.haltActive = true := fun h => absurd (hhalt h) hdown.1.ne
    rcases s.negativeLimit_cases with hn | hn | ⟨n, hn0, hn⟩
    · rw [hn] at hdown
      cases hdown.2
    · have hmax : PyFloat.max (num t) (-s.negativeLimit) = num t := by
        rw [hn]
        rfl
      rw [hmax]
      refine bounded_num (fun limit hl _ => by linarith [hdown.1]) (fun limit _ heq => ?_)
        fun h => absurd h hhalted
      rw [hn] at heq
      cases heq
    · rw [hn, neg_num, max_num]
      refine bounded_num (fun limit hl _ => ?_) (fun limit hl heq => ?_) fun h => absurd h hhalted
      · exact max_le (hdown.1.le.trans hl.le) (by linarith)
      · rw [hn] at heq
        cases heq
        exact le_max_right t (-n)
  · refine bounded_num (fun limit hl heq => ?_) (fun limit hl heq => ?_) hhalt
    · rw [hpositive] at heq
      cases heq
      by_contra hlt
      exact hup ⟨by linarith, hl⟩
    · by_contra hlt
      refine hdown ⟨by linarith, ?_⟩
      rw [heq]
      exact (num_lt 0 limit).mpr hl

/-- Slowing a speed down keeps it within a bound. -/
theorem mul_num_spec {x : ExtRat} (hx : 0 ≤ x) {f : ℚ} (hf : 0 < f) (hf' : f ≤ 1) :
    0 ≤ x * num f ∧ ∀ limit, x ≤ num limit → x * num f ≤ num limit := by
  cases x with
  | num q =>
    rw [zero_def, num_le] at hx
    rw [zero_def, num_mul, num_le]
    refine ⟨mul_nonneg hx hf.le, fun limit hlimit => ?_⟩
    rw [num_le] at hlimit ⊢
    exact (mul_le_of_le_one_right hx hf').trans hlimit
  | posInf =>
    have hscale : (posInf : ExtRat) * num f = posInf := if_pos hf
    rw [hscale]
    exact ⟨rfl, fun limit h => by cases h⟩
  | negInf | nan => cases hx

/-- The speed of jogging is within the limits in force. -/
theorem jogVelocityLimit_spec (s : Servo ExtRat) : 0 ≤ s.jogVelocityLimit ∧
    ∀ limit, 0 < limit → s.positiveLimit = num limit ∨ s.negativeLimit = num limit →
      s.jogVelocityLimit ≤ num limit := by
  obtain ⟨f, hf, hf', hfactor⟩ : ∃ f, 0 < f ∧ f ≤ 1 ∧
      (if hasBits s.controlword 0x1000 then lit 1
        else if hasBits s.controlword 0x800 then lit (1 / 4) else lit (1 / 2)) = num f := by
    split_ifs
    · exact ⟨1, by norm_num, by norm_num, rfl⟩
    · exact ⟨1 / 4, by norm_num, by norm_num, rfl⟩
    · exact ⟨1 / 2, by norm_num, by norm_num, rfl⟩
  have hpos : ∀ x ∈ [s.profileVelocity, s.positiveLimit, s.negativeLimit].filter (0 < ·), 0 < x :=
    fun x hx => of_decide_eq_true (List.mem_filter.mp hx).2
  have hmem : ∀ limit, 0 < limit → s.positiveLimit = num limit ∨ s.negativeLimit = num limit →
      num limit ∈ [s.profileVelocity, s.positiveLimit, s.negativeLimit].filter (0 < ·) := by
    intro limit hl hlimit
    refine List.mem_filter.mpr ⟨?_, decide_eq_true ((num_lt 0 limit).mpr hl)⟩
    rcases hlimit with h | h <;> simp [h]
  unfold jogVelocityLimit
  dsimp only
  rw [hfactor]
  generalize [s.profileVelocity, s.positiveLimit, s.negativeLimit].filter (0 < ·) = speeds
    at hpos hmem ⊢
  cases speeds with
  | nil =>
    refine ⟨(mul_num_spec (x := 0) rfl hf hf').1, fun limit hl hlimit => ?_⟩
    cases hmem limit hl hlimit
  | cons x xs =>
    have hmin := foldl_min_pos (hpos x List.mem_cons_self) fun y hy =>
      hpos y (List.mem_cons_of_mem _ hy)
    have hnonneg : 0 ≤ xs.foldl PyFloat.min x := by
      cases hfold : xs.foldl PyFloat.min x with
      | num q =>
        rw [hfold, zero_def, num_lt] at hmin
        exact (num_le 0 q).mpr hmin.1.le
      | posInf => rfl
      | negInf | nan => rw [hfold] at hmin; cases hmin.1
    have hspec := mul_num_spec hnonneg hf hf'
    exact ⟨hspec.1, fun limit hl hlimit => hspec.2 limit (hmin.2 limit
      ⟨num limit, hmem limit hl hlimit, (num_le limit limit).mpr le_rfl⟩)⟩

theorem jogTarget_bounded (s : Servo ExtRat) : s.Bounded s.jogTarget := by
  have hlimited : ∀ target, s.Bounded target →
      s.Bounded (s.limitJogVelocityAtSoftwareLimit target) := by
    intro target ht
    unfold limitJogVelocityAtSoftwareLimit
    split_ifs <;> first | exact s.bounded_zero | exact ht
  obtain ⟨hnonneg, hlimit⟩ := s.jogVelocityLimit_spec
  apply hlimited
  split
  · exact s.bounded_zero
  · rename_i hgo
    have hhalted : ¬ s.haltActive = true := fun h => hgo (.inr h)
    generalize s.jogVelocityLimit = m at hnonneg hlimit
    cases m with
    | num q =>
      rw [zero_def, num_le] at hnonneg
      have hle : ∀ limit, 0 < limit → s.positiveLimit = num limit ∨ s.negativeLimit = num limit →
          q ≤ limit := fun limit hl h => (num_le q limit).mp (hlimit limit hl h)
      split
      · change s.Bounded (num (1 * q))
        refine bounded_num (fun limit hl h => ?_) (fun limit hl _ => ?_) fun h => absurd h hhalted
        · linarith [hle limit hl (.inl h)]
        · linarith
      · change s.Bounded (num (-1 * q))
        refine bounded_num (fun limit hl _ => ?_) (fun limit hl h => ?_) fun h => absurd h hhalted
        · linarith
        · linarith [hle limit hl (.inr h)]
    | posInf =>
      have hnone : ∀ limit, 0 < limit → ¬ (s.positiveLimit = num limit ∨ s.negativeLimit = num limit) :=
        fun limit hl h => nomatch hlimit limit hl h
      split
      · change s.Bounded posInf
        exact ⟨nofun, fun limit hl h => absurd (.inl h) (hnone limit hl), fun _ _ _ => rfl,
          fun h => absurd h hhalted⟩
      · change s.Bounded negInf
        exact ⟨nofun, fun _ _ _ => rfl, fun limit hl h => absurd (.inr h) (hnone limit hl),
          fun h => absurd h hhalted⟩
    | negInf | nan => cases hnonneg

/-- The side the target lies on decides which limit applies to the speed, and its direction. -/
theorem bounded_towards (h : s.Finite) (hhalt : s.haltActive = false) {target p m q : ℚ}
    (hp : s.actualPosition = num p) (hm : s.maxVelocity (num target) = num m) (hq : |q| ≤ m)
    (hup : p ≤ target → 0 ≤ q) (hdown : target < p → q ≤ 0) : s.Bounded (num q) := by
  obtain ⟨m', hm0, hm', hlimit⟩ := maxVelocity_num h target
  rw [hm] at hm'
  cases hm'
  have hhalted : ¬ s.haltActive = true := by simp [hhalt]
  rw [hp] at hlimit
  simp only [num_lt] at hlimit
  obtain ⟨hlow, hhigh⟩ := abs_le.mp hq
  by_cases hside : p ≤ target
  · have hnonneg := hup hside
    refine bounded_num (fun limit hl heq => hhigh.trans (hlimit limit hl ?_)) (fun limit hl _ => ?_)
      fun h => absurd h hhalted
    · rw [if_neg fun hneg => absurd hneg.1 (not_lt.mpr hside), heq]
    · linarith
  · rw [not_le] at hside
    have hnonpos := hdown hside
    refine bounded_num (fun limit hl _ => hnonpos.trans hl.le) (fun limit hl heq => ?_)
      fun h => absurd h hhalted
    have hle := hlimit limit hl (by rw [heq, if_pos ⟨hside, (num_lt 0 limit).mpr hl⟩])
    linarith

theorem Finite.cspDemand (h : s.Finite) {target p m : ℚ} (ht : s.od.real Key.targetPosition = num target)
    (hp : s.actualPosition = num p) (hm : s.maxVelocity (num target) = num m) :
    ∃ r, 0 < r ∧ s.cspDemand = num (max (min ((target - p) * r) m) (-m)) := by
  obtain ⟨x, hx, hposition⟩ := s.positionScale_num
  obtain ⟨y, hy, hvelocity⟩ := s.velocityScale_num
  refine ⟨5 * x / y, by positivity, ?_⟩
  unfold Servo.cspDemand
  dsimp only
  rw [ht, hm, hp, h.kp, positionRateToVelocity, hposition, hvelocity]
  simp only [num_sub, num_mul, num_div, min_num, neg_num, max_num]
  congr 3
  ring

theorem cspDemand_bounded (h : s.Finite) (hhalt : s.haltActive = false) : s.Bounded s.cspDemand := by
  obtain ⟨target, ht⟩ := h.targetPosition
  obtain ⟨p, hp⟩ := h.actualPosition
  obtain ⟨m, hm0, hm, -⟩ := maxVelocity_num h target
  obtain ⟨r, hr, hdemand⟩ := h.cspDemand ht hp hm
  rw [hdemand]
  refine bounded_towards h hhalt hp hm ?_ (fun hside => ?_) fun hside => ?_
  · exact abs_le.mpr ⟨le_max_right _ _, max_le (min_le_right _ _) (by linarith)⟩
  · have hgap : 0 ≤ (target - p) * r := mul_nonneg (sub_nonneg.mpr hside) hr.le
    exact le_max_of_le_left (le_min hgap hm0)
  · have hgap : (target - p) * r ≤ 0 := mul_nonpos_of_nonpos_of_nonneg (by linarith) hr.le
    exact max_le ((min_le_left _ _).trans hgap) (by linarith)

theorem ppDemand_bounded (h : s.Finite) (hhalt : s.haltActive = false) (target : ℚ) :
    s.Bounded (s.ppDemand (num target)) := by
  obtain ⟨p, hp⟩ := h.actualPosition
  obtain ⟨m, hm0, hm, -⟩ := maxVelocity_num h target
  have hdemand : s.ppDemand (num target) = num ((if p ≤ target then 1 else -1) * m) := by
    unfold ppDemand
    rw [hp, hm, zero_def, num_sub]
    simp only [num_le, sub_nonneg]
    split <;> rfl
  rw [hdemand]
  refine bounded_towards h hhalt hp hm ?_ (fun hside => ?_) fun hside => ?_
  · split <;> simp [abs_of_nonneg hm0]
  · rw [if_pos hside, one_mul]
    exact hm0
  · rw [if_neg (not_le.mpr hside)]
    linarith

theorem Demand.bounded (h : s.Finite) {demand : ExtRat} (hd : s.Demand demand) : s.Bounded demand := by
  cases hd with
  | rest => exact s.bounded_zero
  | pv => exact pvTarget_bounded h
  | jog => exact s.jogTarget_bounded
  | csp halt => exact cspDemand_bounded h halt
  | pp halt target => exact ppDemand_bounded h halt target

end Servo

end EthercatSimulator.Behaviour
