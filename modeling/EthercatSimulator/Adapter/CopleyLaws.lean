import EthercatSimulator.Adapter.Copley
import EthercatSimulator.Adapter.FKrCmmtLaws
import EthercatSimulator.Profile.Numeric

/-! What the adapter calls do to the Copley adapter, behind an FMU that does not fail. -/

namespace EthercatSimulator.Adapter

open Base Profile Diagnostics EthercatSimulator.Runtime PyFloat ExtRat

/-- No call on the FMU raises. -/
structure Runner.Succeeds {F ρ : Type} (R : Runner F ρ) : Prop where
  set : ∀ x r, (R.set x).Runs r
  step : ∀ dt r, (R.step dt).Runs r
  statusWord : ∀ r, R.statusWord.Runs r
  output : ∀ o r, (R.output o).Runs r

namespace Copley

/-- The integer objects hold integers. -/
def Integral {F : Type} (od : Od F) : Prop :=
  od.Meets fun _ d v => d.dataType ≠ .float32 → ∃ n, v = .int n

theorem decodes_int {F : Type} :
    Decodes fun _ d (v : Value F) => d.dataType ≠ .float32 → ∃ n, v = .int n := by
  intro key d payload v _ hv ht
  unfold decodeOdValue at hv
  dsimp only at hv
  split at hv
  · generalize d.dataType = t at hv ht
    cases t <;> first | contradiction | (cases hv; exact ⟨_, rfl⟩)
  · cases hv

theorem Integral.writeInt {F : Type} {od : Od F} (h : Integral od) (key : Key) (n : Int) :
    Integral (od.write key (.int n)) := h.write key _ fun _ _ _ => ⟨n, rfl⟩

section Runs

variable {ρ : Type} {R : Runner ExtRat ρ} {s : Copley ExtRat ρ}

/-- Runner calls and integer objects: what a step changes besides its clock. -/
structure Refreshed (s s' : Copley ExtRat ρ) : Prop where
  frame : ∃ od runner, s' = { s with od := od, runner := runner }
  integral : Integral s.od → Integral s'.od

theorem Refreshed.refl (s : Copley ExtRat ρ) : Refreshed s s := ⟨⟨s.od, s.runner, rfl⟩, id⟩

theorem Refreshed.trans {s' s'' : Copley ExtRat ρ} (h : Refreshed s s') (h' : Refreshed s' s'') :
    Refreshed s s'' := by
  obtain ⟨⟨od, runner, rfl⟩, hi⟩ := h
  obtain ⟨⟨od', runner', rfl⟩, hi'⟩ := h'
  exact ⟨⟨od', runner', rfl⟩, hi' ∘ hi⟩

theorem onRunner_returns {α : Type} {x : PyM ρ α} (h : x.Runs s.runner) :
    (onRunner x).Returns s fun _ s' => Refreshed s s' := by
  obtain ⟨a, ha⟩ := h
  exact Exec.returns_zoom ⟨a, (x s.runner).2, Prod.ext ha rfl, ⟨⟨_, _, rfl⟩, id⟩⟩

theorem write_returns (s : Copley ExtRat ρ) (key : Key) (n : Int) :
    (write key (.int n)).Returns s fun _ s' => Refreshed s s' :=
  ⟨(), _, rfl, ⟨_, _, rfl⟩, fun h => h.writeInt key n⟩

theorem setAll_returns (hR : R.Succeeds) (settings : List (Setting ExtRat)) (s : Copley ExtRat ρ) :
    (setAll R settings).Returns s fun _ s' => Refreshed s s' := by
  induction settings generalizing s with
  | nil => exact Exec.returns_pure (.refl s)
  | cons setting rest ih =>
    apply Exec.Returns.bind
    apply (onRunner_returns (hR.set setting s.runner)).mono
    exact fun _ s₁ h₁ => (ih s₁).mono fun _ _ h₂ => h₁.trans h₂

theorem round_num (q : ℚ) : ∃ n, round (num q) = .ok n := by
  have hint : floatToInt (num q) = .ok (q.num.tdiv q.den) := rfl
  unfold round
  rw [hint]
  dsimp only [bind, Except.bind]
  split <;> exact ⟨_, rfl⟩

theorem refresh_returns (hR : R.Succeeds) {v : ℚ} (hv : s.velocityFactor = num v) :
    (refresh R).Returns s fun _ s' => Refreshed s s' := by
  have hcall {α : Type} {x : PyM ρ α} (hx : ∀ r, x.Runs r) {s₁ : Copley ExtRat ρ} (h₁ : Refreshed s s₁) :
      (onRunner x).Returns s₁ fun _ s₂ => Refreshed s s₂ :=
    (onRunner_returns (hx _)).mono fun _ _ h => h₁.trans h
  have hwrite (key : Key) (n : Int) {s₁ : Copley ExtRat ρ} (h₁ : Refreshed s s₁) :
      (write key (.int n)).Returns s₁ fun _ s₂ => Refreshed s s₂ :=
    (write_returns s₁ key n).mono fun _ _ h => h₁.trans h
  refine .bind ((hcall hR.statusWord (.refl s)).mono fun _ _ h => ?_)
  refine .bind ((hwrite _ _ h).mono fun _ _ h => ?_)
  refine .bind ((hcall (hR.output _) h).mono fun _ _ h => ?_)
  refine .bind ((hwrite _ _ h).mono fun _ _ h => ?_)
  refine .bind ((hcall (hR.output _) h).mono fun _ _ h => ?_)
  refine .bind ((hwrite _ _ h).mono fun _ _ h => ?_)
  refine .bind ((hcall (hR.output _) h).mono fun _ _ h => ?_)
  refine .bind ((hwrite _ _ h).mono fun _ _ h => ?_)
  refine .bind ((hcall (hR.output _) h).mono fun velocity s₁ h => ?_)
  obtain ⟨od, runner, rfl⟩ := h.frame
  have hround : ∃ n, round (ofInt velocity * lit (1 / 10) / s.velocityFactor) = .ok n := by
    rw [hv]
    exact round_num _
  obtain ⟨n, hn⟩ := hround
  exact .bind ⟨_, _, rfl, .bind (Exec.returns_ofExcept hn (hwrite _ _ h))⟩

/-! The sub-steps of a cycle. -/

def stepLength : ℚ := 1 / 500
def tolerance : ℚ := 1 / 10 ^ 12

/-- Fuel for what is left after a sub-step that was due. -/
theorem left_after {r : ℚ} {fuel : Nat} (hdue : stepLength ≤ r + tolerance)
    (hfuel : r + tolerance < (fuel + 1 : Nat) * stepLength) :
    max 0 (r - stepLength) + tolerance < fuel * stepLength := by
  rw [Nat.cast_succ, add_mul, one_mul] at hfuel
  rcases le_total r stepLength with hlast | hmore
  · have hfuel' : (1 : ℚ) ≤ fuel := by
      have hpos : fuel ≠ 0 := by
        rintro rfl
        rw [Nat.cast_zero, zero_mul, zero_add] at hfuel
        linarith
      exact_mod_cast Nat.one_le_iff_ne_zero.mpr hpos
    have hsmall : tolerance < stepLength := by norm_num [tolerance, stepLength]
    rw [max_eq_left (by linarith), zero_add]
    calc tolerance < 1 * stepLength := by linarith
      _ ≤ fuel * stepLength := mul_le_mul_of_nonneg_right hfuel' (by norm_num [stepLength])
  · rw [max_eq_right (by linarith)]
    linarith

/-- The sub-steps end where less than one is due. -/
theorem subSteps_returns (hR : R.Succeeds) (fuel : Nat) {s : Copley ExtRat ρ} {r : ℚ}
    (hr : s.remainder = num r) (hr0 : 0 ≤ r) (hfuel : r + tolerance < fuel * stepLength) :
    (subSteps R fuel).Returns s fun _ s' => ∃ runner r', s' =
      { s with runner := runner, remainder := num r' } ∧ 0 ≤ r' ∧ r' + tolerance < stepLength := by
  induction fuel generalizing s r with
  | zero =>
    have : 0 < tolerance := by norm_num [tolerance]
    rw [Nat.cast_zero, zero_mul] at hfuel
    linarith
  | succ fuel ih =>
    have hdue : (stepSeconds ≤ s.remainder + lit (1 / 10 ^ 12)) ↔ stepLength ≤ r + tolerance := by
      rw [hr]
      exact num_le _ _
    apply Exec.returns_get_bind
    unfold Exec.when
    split
    · rename_i h
      rw [hdue] at h
      obtain ⟨a, ha⟩ := hR.step stepSeconds s.runner
      refine .bind (Exec.returns_zoom ⟨a, (R.step stepSeconds s.runner).2, Prod.ext ha rfl, ?_⟩)
      apply Exec.returns_modify_bind
      have hnext : PyFloat.max 0 (s.remainder - stepSeconds) = num (max 0 (r - stepLength)) := by
        have hlength : (stepSeconds : ExtRat) = num stepLength := rfl
        rw [hr, hlength, num_sub]
        exact max_num _ _
      have hleft := left_after h hfuel
      refine (ih (s := _) (r := max 0 (r - stepLength)) hnext (le_max_left _ _) hleft).mono ?_
      rintro _ _ ⟨runner, r', rfl, h0, h1⟩
      exact ⟨runner, r', rfl, h0, h1⟩
    · rename_i h
      rw [hdue, not_le] at h
      exact Exec.returns_pure ⟨s.runner, r, by rw [← hr], hr0, h⟩

/-! What holds of the adapter between two requests. -/

structure Regular (s : Copley ExtRat ρ) : Prop where
  integral : Integral s.od
  fault : s.fault = false
  velocityFactor : ∃ v, s.velocityFactor = num v
  remainder : ∃ r, s.remainder = num r ∧ 0 ≤ r ∧ r + tolerance < stepLength

theorem Regular.refreshed {s' : Copley ExtRat ρ} (h : s.Regular) (hr : Refreshed s s') : s'.Regular := by
  obtain ⟨⟨od, runner, rfl⟩, hi⟩ := hr
  exact ⟨hi h.integral, h.fault, h.velocityFactor, h.remainder⟩

theorem Regular.withOd (h : s.Regular) {od : Od ExtRat} (hod : Integral od) :
    Regular { s with od := od } := ⟨hod, h.fault, h.velocityFactor, h.remainder⟩

/-- The parameters and inputs a step takes. -/
structure Ready (s : Copley ExtRat ρ) : Prop where
  equal : s.od.int Key.profileAcceleration = s.od.int Key.profileDeceleration
  valid : validateAll s.od = .ok ()

/-- The cycle times a step takes. -/
def Admitted (dt : ExtRat) : Prop := isFinite dt = true ∧ 0 < dt ∧ dt ≤ lit (1 / 10)

theorem Admitted.num {dt : ExtRat} (h : Admitted dt) : ∃ q, dt = .num q ∧ 0 < q ∧ q ≤ 1 / 10 := by
  obtain ⟨hfinite, hpos, hmax⟩ := h
  cases dt with
  | num q => exact ⟨q, rfl, (num_lt 0 q).mp hpos, (num_le q (1 / 10)).mp hmax⟩
  | posInf | negInf | nan => cases hfinite

theorem admitted_num {q : ℚ} : Admitted (num q) ↔ 0 < q ∧ q ≤ 1 / 10 := by
  have hfinite : isFinite (num q) = true := rfl
  have hmax : num q ≤ lit (1 / 10) ↔ q ≤ 1 / 10 := num_le q (1 / 10)
  unfold Admitted
  rw [zero_def, num_lt, hmax]
  exact and_iff_right hfinite

/-- What a step does once it is admitted. -/
theorem advance_returns (hR : R.Succeeds) (h : s.Regular) {dt : ExtRat} (hdt : Admitted dt) :
    (do
      setAll R s.settings
      Exec.modify fun s => { s with remainder := s.remainder + dt }
      subSteps R subStepLimit
      refresh R : PyM (Copley ExtRat ρ) Unit).Returns s fun _ s' => s'.Regular := by
  obtain ⟨q, rfl, hpos, hmax⟩ := hdt.num
  apply Exec.Returns.bind
  apply (setAll_returns hR s.settings s).mono
  intro _ s₁ hset
  have h₁ := h.refreshed hset
  obtain ⟨v, hv⟩ := h₁.velocityFactor
  obtain ⟨r, hr, hr0, hr1⟩ := h₁.remainder
  apply Exec.returns_modify_bind
  apply Exec.Returns.bind
  have hsum : s₁.remainder + num q = num (r + q) := by rw [hr, num_add]
  have hfuel : r + q + tolerance < (subStepLimit : ℚ) * stepLength := by
    have hlimit : (subStepLimit : ℚ) * stepLength = 64 / 500 := by norm_num [subStepLimit, stepLength]
    have hlength : stepLength = 1 / 500 := rfl
    linarith
  apply (subSteps_returns (s := { s₁ with remainder := s₁.remainder + num q }) hR subStepLimit hsum
    (by linarith) hfuel).mono
  rintro _ _ ⟨runner, r', rfl, hr0', hr1'⟩
  have h₂ : Regular { s₁ with runner := runner, remainder := num r' } :=
    ⟨h₁.integral, h₁.fault, ⟨v, hv⟩, r', rfl, hr0', hr1'⟩
  obtain ⟨_, hv₂⟩ := h₂.velocityFactor
  exact (refresh_returns hR hv₂).mono fun _ _ hrefreshed => h₂.refreshed hrefreshed

/-- A ready adapter steps, unless the length of the step is not admitted. -/
theorem step_runs (hR : R.Succeeds) (h : s.Regular) (hready : s.Ready) (dt : ExtRat) :
    (step R dt).Runs s ↔ Admitted dt := by
  have hquiet : ¬ (s.fault = true ∧ hasBits s.controlword 0x80 = true) := by simp [h.fault]
  unfold step
  rw [Exec.runs_require_bind]
  refine and_iff_left_of_imp fun hdt => ?_
  rw [Exec.runs_get_bind, Exec.runs_require_bind, Exec.runs_require_bind, Exec.runs_ofExcept_bind]
  exact ⟨hquiet, hready.equal, (), hready.valid, (advance_returns hR h hdt).runs⟩

theorem step_regular (hR : R.Succeeds) (h : s.Regular) (dt : ExtRat) :
    (step R dt).Post s fun _ s' => s'.Regular := by
  apply Exec.post_require_bind
  · intro hdt
    apply Exec.post_get_bind
    apply Exec.post_require_bind
    · intro _
      apply Exec.post_require_bind
      · intro _
        have hadvance := (advance_returns hR h hdt).post
        apply Exec.Post.bind
        · apply Exec.post_ofExcept
          intro _ _
          exact hadvance.mono fun _ _ ⟨_, _, hs⟩ => hs
        · apply Exec.post_ofExcept
          exact fun _ _ => h
      · exact fun _ => h
    · exact fun _ => h
  · exact fun _ => h

/-! The calls on the adapter. -/

theorem applyOutputs_regular (payload : Bytes) (h : s.Regular) :
    (applyOutputs payload).Post s fun _ s' => s'.Regular := by
  apply Exec.post_require_bind
  · intro _
    apply Exec.Post.bind
    · apply Exec.post_ofExcept
      intro _ _
      apply Exec.post_zoom
      exact (rxpdoFrom_meets decodes_int payload rxpdoObjects_declared 0 h.integral).mono
        fun _ _ hod => h.withOd hod
    · apply Exec.post_ofExcept
      exact fun _ _ => h
  · exact fun _ => h

theorem writeSdo_regular (key : Key) (payload : Bytes) (h : s.Regular) :
    (writeSdo key payload).Post s fun _ s' => s'.Regular := by
  apply Exec.post_require_bind
  · intro _
    cases definition key with
    | none => exact h
    | some d =>
      apply Exec.post_require_bind
      · intro _
        apply Exec.Post.bind
        · apply Exec.post_ofExcept
          intro value _
          apply Exec.post_require_bind
          · intro _
            apply Exec.Post.bind
            · apply Exec.post_ofExcept
              intro _ _
              apply Exec.post_get_bind
              apply Exec.Post.bind
              · apply Exec.post_ofExcept
                intro od hod
                exact h.withOd (h.integral.bridgeWrite decodes_int.takes hod)
              · apply Exec.post_ofExcept
                exact fun _ _ => h
            · apply Exec.post_ofExcept
              exact fun _ _ => h
          · exact fun _ => h
        · apply Exec.post_ofExcept
          exact fun _ _ => h
      · exact fun _ => h
  · exact fun _ => h

theorem modelCalls (hR : R.Succeeds) :
    Axis.ModelCalls (copley R) (Exec.Preserves Regular) where
  readSdo key _ s h := by
    have hs : (readSdo key s).2 = s := congrArg Prod.snd (Exec.run_ofExcept (bridgeReadSdo s.od key) s)
    exact hs.symm ▸ h
  writeSdo key payload s h := writeSdo_regular key payload h
  odRead _ _ h := h
  odWriteRole kn _ s h := h.withOd (h.integral.writeInt kn.1 kn.2)
  validateParameters s h := by
    have hs : ((copley R).validateParameters s).2 = s := congrArg Prod.snd (Exec.run_ofExcept _ s)
    exact hs.symm ▸ h
  applyOutputs payload s h := applyOutputs_regular payload h
  step dt s h := step_regular hR h dt
  readInputs s h := by
    have hs : (readInputs s).2 = s := congrArg Prod.snd (Exec.run_ofExcept (odToTxpdoPayload s.od) s)
    exact hs.symm ▸ h

/-! The adapter as it is opened. -/

instance : Std.Refl (Refreshed (ρ := ρ)) := ⟨Refreshed.refl⟩
instance : IsTrans (Copley ExtRat ρ) Refreshed := ⟨fun _ _ _ => Refreshed.trans⟩

theorem keeps_onRunner {α : Type} (x : PyM ρ α) : (onRunner x).Keeps Refreshed :=
  fun _ => ⟨⟨_, _, rfl⟩, id⟩

theorem keeps_write (key : Key) (n : Int) : (write key (.int n)).Keeps (Refreshed (ρ := ρ)) :=
  fun _ => ⟨⟨_, _, rfl⟩, fun h => h.writeInt key n⟩

theorem keeps_refresh : (refresh R).Keeps Refreshed := by
  refine .bind (keeps_onRunner _) fun _ => .bind (keeps_write _ _) fun _ => ?_
  refine .bind (keeps_onRunner _) fun _ => .bind (keeps_write _ _) fun _ => ?_
  refine .bind (keeps_onRunner _) fun _ => .bind (keeps_write _ _) fun _ => ?_
  refine .bind (keeps_onRunner _) fun _ => .bind (keeps_write _ _) fun _ => ?_
  refine .bind (keeps_onRunner _) fun _ => .bind Exec.keeps_get fun _ => ?_
  exact .bind (Exec.keeps_ofExcept _) fun _ => keeps_write _ _

theorem keeps_initialise : (initialise R).Keeps Refreshed := by
  refine .bind Exec.keeps_get fun _ => .bind (keeps_onRunner _) fun _ => ?_
  refine .bind (Exec.keeps_ofExcept _) fun _ => .bind (keeps_write _ _) fun _ => ?_
  refine .bind (keeps_onRunner _) fun _ => .bind (Exec.keeps_ofExcept _) fun _ => ?_
  exact .bind (keeps_write _ _) fun _ => .bind (keeps_write _ _) fun _ => keeps_refresh

theorem configured_integral (mode : AxisMode) : Integral (Od.configured mode : Od ExtRat) := by
  have hfits : (Od.configured mode : Od ExtRat).FitsBut fun _ => False := configured_fits mode
  exact fun key d hd ht => (hfits key d hd id).int ht

theorem construct_regular {mode : AxisMode} {runner : ρ} (h : construct R mode runner = .ok s) :
    s.Regular := by
  have hconfigured : Regular (configured mode runner : Copley ExtRat ρ) := by
    refine ⟨?_, rfl, ⟨_, rfl⟩, 0, rfl, le_rfl, by norm_num [tolerance, stepLength]⟩
    exact ((configured_integral mode).writeInt _ 1).writeInt _ 1
  have hkept := keeps_initialise (R := R) (configured mode runner)
  unfold construct at h
  generalize initialise R (configured mode runner) = p at h hkept
  obtain ⟨r, s'⟩ := p
  cases r with
  | error e => cases h
  | ok _ =>
    cases h
    exact hconfigured.refreshed hkept

/-! What a frame and the parameters make of a step. -/

theorem validateObjects_cons {payload : Bytes} {o : PdoObject} {rest : List PdoObject} {offset : Nat} :
    validateObjects ExtRat payload (o :: rest) offset = .ok () ↔
      validateObject ExtRat o ((payload.drop offset).take o.byteLength) = .ok () ∧
        validateObjects ExtRat payload rest (offset + o.byteLength) = .ok () := by
  change (validateObject ExtRat o _ >>= fun _ => validateObjects ExtRat payload rest _) = _ ↔ _
  cases validateObject ExtRat o ((payload.drop offset).take o.byteLength) with
  | error e => exact iff_of_false nofun fun h => nomatch h.1
  | ok _ => exact (and_iff_right rfl).symm

/-- An accepted object is one the adapter takes. -/
theorem validate_of_object {key : Key} {t : DataType} (ht : t ≠ .float32) {default : Int} {raw : Bytes}
    (hlen : raw.length = t.size) (h : validateObject ExtRat (.mapped key t default) raw = .ok ()) :
    validate key.1 (.int (if t.signed then leInt raw else leNat raw) : Value ExtRat) = .ok () := by
  change (decodeOdValue t raw : Except Exc (Value ExtRat)) >>= validateInput key.1 = .ok () at h
  rw [decodeOdValue_int ht hlen] at h
  change (validate key.1 _ >>= fun _ => _) = _ at h
  generalize validate key.1 (_ : Value ExtRat) = r at h ⊢
  cases r with
  | ok _ => rfl
  | error e => cases h

theorem applyOutputs_ok {payload : Bytes} {s' : Copley ExtRat ρ}
    (h : applyOutputs payload s = (.ok (), s')) : payload.length = 24 ∧
      validateObjects ExtRat payload rxpdoObjects 0 = .ok () ∧
        s' = { s with od := s.od.writeAll (FKrCmmt.commands payload) } := by
  have hpost : (applyOutputs payload).Post s fun r s' => r = .ok () → payload.length = 24 ∧
      validateObjects ExtRat payload rxpdoObjects 0 = .ok () ∧
        s' = { s with od := s.od.writeAll (FKrCmmt.commands payload) } := by
    apply Exec.post_require_bind
    · intro hlen
      apply Exec.Post.bind
      · apply Exec.post_ofExcept
        intro _ hvalid
        apply Exec.post_zoom
        unfold Exec.Post
        rw [FKrCmmt.rxpdoPayloadToOd_ok hlen]
        exact fun _ => ⟨hlen, hvalid, rfl⟩
      · apply Exec.post_ofExcept
        exact fun _ _ => nofun
    · exact fun _ => nofun
  unfold Exec.Post at hpost
  rw [h] at hpost
  exact hpost rfl

/-- What `validate_parameters` asks of the dictionary. -/
theorem validateParameters_ok {od : Od ExtRat} (h : validateParameters
    (persistentRoles.map fun key => (key, od.read key)) = .ok ()) :
    isNonpositive (od Key.profileAcceleration) = false ∧
      isNonpositive (od Key.profileDeceleration) = false ∧
        (od Key.profileAcceleration).same (od Key.profileDeceleration) = true := by
  have hvalue (key : Key) (hkey : key ∈ persistentRoles) :
      valueOf (persistentRoles.map fun key => (key, od.read key)) key = .ok (od key) := by
    have hlookup : (persistentRoles.map fun key => (key, od.read key)).lookup key = some (od key) := by
      simp only [persistentRoles, List.mem_cons, List.not_mem_nil, or_false] at hkey
      rcases hkey with rfl | rfl | rfl | rfl | rfl | rfl | rfl | rfl <;> rfl
    unfold valueOf
    rw [hlookup]
  unfold validateParameters at h
  simp only [List.forIn_cons, List.forIn_nil] at h
  rw [hvalue _ (by decide), hvalue _ (by decide), hvalue _ (by decide)] at h
  cases hv : isNonpositive (od Key.profileVelocity) <;>
    cases ha : isNonpositive (od Key.profileAcceleration) <;>
    cases hd : isNonpositive (od Key.profileDeceleration) <;>
    cases hs : (od Key.profileAcceleration).same (od Key.profileDeceleration) <;>
    first
      | exact ⟨rfl, rfl, rfl⟩
      | (simp [bind, Except.bind, pure, Except.pure, throw, throwThe, MonadExceptOf.throw, hv, ha, hd, hs] at h)

theorem validate_positive {index : Nat} (hindex : index ≠ 0x6060) {v : Value ExtRat}
    (hv : isNonpositive v = false) : validate index v = .ok () := by
  unfold validate
  rw [if_neg (fun h => hindex h.1), if_neg (fun h => by simp [hv] at h)]
  rfl

/-- An accepted frame and valid parameters make the adapter ready. -/
theorem ready_of_applied {payload : Bytes} {s' : Copley ExtRat ρ} (h : s.Regular)
    (hrun : applyOutputs payload s = (.ok (), s')) (hvalid : (copley R).validateParameters.Runs s') :
    s'.Ready := by
  have hregular : s'.Regular := by
    have hpost := applyOutputs_regular payload h
    unfold Exec.Post at hpost
    rw [hrun] at hpost
    exact hpost
  obtain ⟨hlen, hobjects, hs'⟩ := applyOutputs_ok hrun
  obtain ⟨ha, hd, hsame⟩ : isNonpositive (s'.od Key.profileAcceleration) = false ∧
      isNonpositive (s'.od Key.profileDeceleration) = false ∧
        (s'.od Key.profileAcceleration).same (s'.od Key.profileDeceleration) = true := by
    obtain ⟨_, hok⟩ := hvalid
    exact validateParameters_ok ((congrArg Prod.fst (Exec.run_ofExcept _ s')).symm.trans hok)
  unfold rxpdoObjects at hobjects
  obtain ⟨-, hobjects⟩ := validateObjects_cons.mp hobjects
  obtain ⟨hmode, hobjects⟩ := validateObjects_cons.mp hobjects
  obtain ⟨-, hobjects⟩ := validateObjects_cons.mp hobjects
  obtain ⟨hvelocity, -⟩ := validateObjects_cons.mp hobjects
  constructor
  · obtain ⟨m, hm⟩ := hregular.integral Key.profileAcceleration _ rfl (by decide)
    obtain ⟨n, hn⟩ := hregular.integral Key.profileDeceleration _ rfl (by decide)
    rw [hm, hn] at hsame
    rw [Od.int, hm, Od.int, hn]
    simpa [Value.same] using hsame
  · have h0 : validate 0x6040 (s'.od Key.controlword) = .ok () := by simp [validate, pure, Except.pure]
    have h1 : validate 0x6060 (s'.od Key.modeOfOperation) = .ok () := by
      have hraw := validate_of_object (by decide) (by simp [PdoObject.byteLength, DataType.size, hlen]) hmode
      rw [hs']
      exact hraw
    have h2 : validate 0x6081 (s'.od Key.profileVelocity) = .ok () := by
      have hraw := validate_of_object (by decide) (by simp [PdoObject.byteLength, DataType.size, hlen]) hvelocity
      rw [hs']
      exact hraw
    have h3 : validate 0x6083 (s'.od Key.profileAcceleration) = .ok () := validate_positive (by decide) ha
    have h4 : validate 0x6084 (s'.od Key.profileDeceleration) = .ok () := validate_positive (by decide) hd
    unfold validateAll Od.read
    rw [h0, h1, h2, h3, h4]
    rfl

end Runs

end Copley

end EthercatSimulator.Adapter
