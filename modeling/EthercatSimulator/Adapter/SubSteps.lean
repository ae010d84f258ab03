import EthercatSimulator.Adapter.CopleyLaws

/-! The sub-steps of the FMU keep the time of the calls, in exact arithmetic. -/

namespace EthercatSimulator.Adapter

open Base Profile Diagnostics EthercatSimulator.Runtime PyFloat ExtRat

namespace Copley

variable {ρ : Type}

/-! The loop. -/

/-- `while` of `step`: the loop started in a state ends, with an outcome and in a state. -/
inductive LoopEnds (R : Runner ExtRat ρ) :
    Copley ExtRat ρ → Except Exc Unit → Copley ExtRat ρ → Prop
  | done {s : Copley ExtRat ρ} (idle : ¬ stepSeconds ≤ s.remainder + lit (1 / 10 ^ 12)) :
    LoopEnds R s (.ok ()) s
  | fails {s : Copley ExtRat ρ} (due : stepSeconds ≤ s.remainder + lit (1 / 10 ^ 12)) {e : Exc} {runner : ρ}
    (step : R.step stepSeconds s.runner = (.error e, runner)) : LoopEnds R s (.error e) { s with runner := runner }
  | again {s s' : Copley ExtRat ρ} (due : stepSeconds ≤ s.remainder + lit (1 / 10 ^ 12)) {runner : ρ}
    (step : R.step stepSeconds s.runner = (.ok (), runner)) {r : Except Exc Unit}
    (rest : LoopEnds R { s with runner := runner, remainder := PyFloat.max 0 (s.remainder - stepSeconds) } r s') :
    LoopEnds R s r s'

variable {R : Runner ExtRat ρ}

theorem due_iff {s : Copley ExtRat ρ} {r : ℚ} (hr : s.remainder = num r) :
    stepSeconds ≤ s.remainder + lit (1 / 10 ^ 12) ↔ stepLength ≤ r + tolerance := by
  rw [hr]
  exact num_le _ _

theorem remainder_next {x : ExtRat} {r : ℚ} (hr : x = num r) :
    PyFloat.max 0 (x - stepSeconds) = num (max 0 (r - stepLength)) := by
  have hlength : (stepSeconds : ExtRat) = num stepLength := rfl
  rw [hr, hlength, num_sub]
  exact max_num _ _

/-- The sub-steps of the model are the whole loop: the fuel lasts. -/
theorem subSteps_ends (fuel : Nat) {s : Copley ExtRat ρ} {r : ℚ} (hr : s.remainder = num r)
    (hr0 : 0 ≤ r) (hfuel : r + tolerance < fuel * stepLength) :
    LoopEnds R s (subSteps R fuel s).1 (subSteps R fuel s).2 := by
  induction fuel generalizing s r with
  | zero =>
    have : 0 < tolerance := by norm_num [tolerance]
    rw [Nat.cast_zero, zero_mul] at hfuel
    linarith
  | succ fuel ih =>
    unfold subSteps
    rw [Exec.run_bind_ok (Exec.run_get _), Exec.when]
    split
    · rename_i hdue
      have hleft := left_after ((due_iff hr).mp hdue) hfuel
      cases hstep : R.step stepSeconds s.runner with
      | mk r' runner =>
        cases r' with
        | error e =>
          have hrun : onRunner (R.step stepSeconds) s = (.error e, { s with runner := runner }) := by
            unfold onRunner Exec.zoom
            rw [hstep]
          rw [Exec.run_bind_error hrun]
          exact .fails hdue hstep
        | ok _ =>
          have hrun : onRunner (R.step stepSeconds) s = (.ok (), { s with runner := runner }) := by
            unfold onRunner Exec.zoom
            rw [hstep]
          rw [Exec.run_bind_ok hrun, Exec.run_bind_ok (Exec.run_modify _ _)]
          exact .again hdue hstep (ih (remainder_next hr) (le_max_left _ _) hleft)
    · rename_i hidle
      exact .done hidle

end Copley

/-! Counting. -/

/-- The runner, with the number of steps it has performed. -/
def Runner.counted {F ρ : Type} (R : Runner F ρ) : Runner F (ρ × Nat) :=
  let view {α : Type} (x : PyM ρ α) : PyM (ρ × Nat) α := x.zoom Prod.fst fun p runner => (runner, p.2)
  { set := fun x => view (R.set x)
    step := fun dt => do
      view (R.step dt)
      Exec.modify fun p => (p.1, p.2 + 1)
    statusWord := view R.statusWord
    output := fun o => view (R.output o)
    parameter := fun p => view (R.parameter p) }

namespace Copley

variable {ρ : Type} {R : Runner ExtRat ρ} {s s' : Copley ExtRat (ρ × Nat)}

/-- The stored remainder, and the number of steps performed. -/
def clock (s : Copley ExtRat (ρ × Nat)) : ExtRat × Nat := (s.remainder, s.runner.2)

theorem counted_step {dt : ExtRat} {p p' : ρ × Nat} (h : R.counted.step dt p = (.ok (), p')) : p'.2 = p.2 + 1 := by
  obtain ⟨_, p₁, hview, hcount⟩ := Exec.run_bind_eq_ok.mp h
  cases hcount
  change (match R.step dt p.1 with | (r, runner) => (r, (runner, p.2))) = _ at hview
  generalize R.step dt p.1 = q at hview
  obtain ⟨r, runner⟩ := q
  cases hview
  rfl

/-- The steps of a loop take their time off the remainder, up to the tolerance for each of them. -/
theorem LoopEnds.time {r : Except Exc Unit} (h : LoopEnds R.counted s r s') (hok : r = .ok ()) {x : ℚ}
    (hx : s.remainder = num x) (hx0 : 0 ≤ x) : ∃ (k : ℕ) (x' : ℚ), s'.remainder = num x' ∧
      s'.runner.2 = s.runner.2 + k ∧ 0 ≤ x' ∧ x' + tolerance < stepLength ∧ x ≤ k * stepLength + x' ∧
        k * stepLength + x' ≤ x + k * tolerance := by
  induction h generalizing x with
  | done idle =>
    have hidle := not_le.mp fun h => idle ((due_iff hx).mpr h)
    exact ⟨0, x, hx, rfl, hx0, hidle, by simp, by simp⟩
  | fails => cases hok
  | again due step rest ih =>
    obtain ⟨k, x', hx', hcount, hpos, hlast, hlow, hhigh⟩ := ih hok (remainder_next hx) (le_max_left _ _)
    have hdue := (due_iff hx).mp due
    refine ⟨k + 1, x', hx', ?_, hpos, hlast, ?_, ?_⟩
    · rw [hcount]
      rw [counted_step step]
      omega
    · have hmax := le_max_right 0 (x - stepLength)
      push_cast
      linarith
    · have hmax : max 0 (x - stepLength) ≤ x - stepLength + tolerance :=
        max_le (by linarith) (by norm_num [tolerance])
      push_cast
      linarith

theorem keeps_clock {α : Type} {x : PyM (ρ × Nat) α} (h : x.Keeps (Exec.Fixes Prod.snd)) :
    (onRunner x : PyM (Copley ExtRat (ρ × Nat)) α).Keeps (Exec.Fixes clock) := by
  intro s
  have hx := h s.runner
  exact Prod.ext rfl hx

theorem setAll_clock {settings : List (Setting ExtRat)} :
    (setAll R.counted settings).Keeps (Exec.Fixes clock) := by
  induction settings with
  | nil => exact Exec.keeps_pure ()
  | cons setting rest ih => exact .bind (keeps_clock fun _ => rfl) fun _ => ih

theorem write_clock (key : Key) (v : Value ExtRat) :
    (write key v : PyM (Copley ExtRat (ρ × Nat)) Unit).Keeps (Exec.Fixes clock) := fun _ => rfl

theorem refresh_clock : (refresh R.counted).Keeps (Exec.Fixes clock) := by
  have hcall {α : Type} {x : PyM (ρ × Nat) α} (hx : x.Keeps (Exec.Fixes Prod.snd)) := keeps_clock hx
  refine .bind (hcall fun _ => rfl) fun _ => .bind (write_clock _ _) fun _ => ?_
  refine .bind (hcall fun _ => rfl) fun _ => .bind (write_clock _ _) fun _ => ?_
  refine .bind (hcall fun _ => rfl) fun _ => .bind (write_clock _ _) fun _ => ?_
  refine .bind (hcall fun _ => rfl) fun _ => .bind (write_clock _ _) fun _ => ?_
  refine .bind (hcall fun _ => rfl) fun _ => .bind Exec.keeps_get fun _ => ?_
  exact .bind (Exec.keeps_ofExcept _) fun _ => write_clock _ _

/-! A call. -/

/-- A call up to the moment its time is added to the remainder. -/
def prepare {F ρ : Type} [PyFloat F] (R : Runner F ρ) (dt : F) : PyM (Copley F ρ) Unit := do
  Exec.require (isFinite dt ∧ 0 < dt ∧ dt ≤ lit (1 / 10)) (valueError "Model dt must be in (0, 0.1] seconds")
  let s ← Exec.get
  Exec.require (¬ (s.fault ∧ hasBits s.controlword 0x80)) (deviceRejected "Fault injection is still active")
  Exec.require (s.od.int Key.profileAcceleration = s.od.int Key.profileDeceleration)
    (deviceRejected unequalAccelerations)
  Exec.ofExcept (validateAll s.od)
  setAll R s.settings

def advance {F ρ : Type} [PyFloat F] (R : Runner F ρ) (dt : F) : PyM (Copley F ρ) Unit := do
  Exec.modify fun s => { s with remainder := s.remainder + dt }
  subSteps R subStepLimit
  refresh R

theorem step_eq {F ρ : Type} [PyFloat F] (R : Runner F ρ) (dt : F) : step R dt = (do prepare R dt; advance R dt) := by
  unfold step prepare advance
  simp only [bind_assoc]

/-- Why a call is refused: its length, an injected fault, unequal accelerations, or a mode or profile
parameter the adapter does not take. -/
def Refused (s : Copley ExtRat ρ) (dt : ExtRat) : Prop :=
  ¬ Admitted dt ∨ (s.fault = true ∧ hasBits s.controlword 0x80 = true) ∨
    s.od.int Key.profileAcceleration ≠ s.od.int Key.profileDeceleration ∨ validateAll s.od ≠ .ok ()

theorem step_refused {R : Runner ExtRat ρ} {s : Copley ExtRat ρ} {dt : ExtRat} (h : s.Refused dt) :
    ∃ e, step R dt s = (.error e, s) := by
  have hpost : (step R dt).Post s fun r s' => s.Refused dt → ∃ e, r = .error e ∧ s' = s := by
    apply Exec.post_require_bind
    · intro hdt
      apply Exec.post_get_bind
      apply Exec.post_require_bind
      · intro hfault
        apply Exec.post_require_bind
        · intro hequal
          apply Exec.Post.bind
          · apply Exec.post_ofExcept
            intro _ hvalid
            refine fun hrefused => ?_
            rcases hrefused with hlength | hactive | hunequal | hinvalid
            · exact absurd hdt hlength
            · exact absurd hactive hfault
            · exact absurd hequal hunequal
            · exact absurd hvalid hinvalid
          · apply Exec.post_ofExcept
            exact fun e _ _ => ⟨e, rfl, rfl⟩
        · exact fun _ _ => ⟨_, rfl, rfl⟩
      · exact fun _ _ => ⟨_, rfl, rfl⟩
    · exact fun _ _ => ⟨_, rfl, rfl⟩
  obtain ⟨e, hr, hs⟩ := hpost h
  exact ⟨e, Prod.ext hr hs⟩

theorem prepare_clock (dt : ExtRat) : (prepare R.counted dt).Keeps (Exec.Fixes clock) := by
  refine .bind (Exec.keeps_require _ _) fun _ => .bind Exec.keeps_get fun s => ?_
  refine .bind (Exec.keeps_require _ _) fun _ => .bind (Exec.keeps_require _ _) fun _ => ?_
  exact .bind (Exec.keeps_ofExcept _) fun _ => setAll_clock

theorem step_unprepared {dt : ExtRat} {e : Exc} (h : (prepare R.counted dt s).1 = .error e) :
    (step R.counted dt s).1 = .error e ∧ clock (step R.counted dt s).2 = clock s := by
  have hkept := prepare_clock (R := R) dt s
  rw [step_eq]
  rw [Exec.run_bind_error (Prod.ext h rfl)]
  exact ⟨rfl, hkept⟩

/-- The fuel of a call lasts for its loop. -/
theorem loop_ends {R : Runner ExtRat ρ} {s : Copley ExtRat ρ} {x q : ℚ} (hx : s.remainder = num x) (hx0 : 0 ≤ x)
    (hx1 : x + tolerance < stepLength) (hq0 : 0 < q) (hq1 : q ≤ 1 / 10) :
    let started := { s with remainder := s.remainder + num q }
    LoopEnds R started (subSteps R subStepLimit started).1 (subSteps R subStepLimit started).2 := by
  intro started
  have hstart : started.remainder = num (x + q) := by
    change s.remainder + num q = _
    rw [hx, num_add]
  refine subSteps_ends subStepLimit hstart (by linarith) ?_
  have hlimit : (subStepLimit : ℚ) * stepLength = 64 / 500 := by norm_num [subStepLimit, stepLength]
  have hlength : stepLength = 1 / 500 := rfl
  linarith

/-- What a call that returns adds to the time. -/
theorem step_time {dt : ExtRat} (h : step R.counted dt s = (.ok (), s')) {x : ℚ} (hx : s.remainder = num x)
    (hx0 : 0 ≤ x) (hx1 : x + tolerance < stepLength) : ∃ (q : ℚ) (k : ℕ) (x' : ℚ), dt = num q ∧ 0 < q ∧
      q ≤ 1 / 10 ∧ s'.remainder = num x' ∧ s'.runner.2 = s.runner.2 + k ∧ 0 ≤ x' ∧ x' + tolerance < stepLength ∧
        x + q ≤ k * stepLength + x' ∧ k * stepLength + x' ≤ x + q + k * tolerance := by
  have hadmitted : Admitted dt := by
    by_contra hlength
    obtain ⟨e, he⟩ := step_refused (R := R.counted) (s := s) (.inl hlength)
    rw [h] at he
    cases he
  obtain ⟨q, rfl, hq0, hq1⟩ := hadmitted.num
  rw [step_eq] at h
  obtain ⟨_, s₁, hprepare, h⟩ := Exec.run_bind_eq_ok.mp h
  obtain ⟨_, s₂, hmodify, h⟩ := Exec.run_bind_eq_ok.mp h
  obtain ⟨_, s₃, hloop, hrefresh⟩ := Exec.run_bind_eq_ok.mp h
  cases hmodify
  have hclock₁ : clock s₁ = clock s := by
    have hkept := prepare_clock (R := R) (num q) s
    rw [hprepare] at hkept
    exact hkept
  have hclock₃ : clock s' = clock s₃ := by
    have hkept := refresh_clock (R := R) s₃
    rw [hrefresh] at hkept
    exact hkept
  obtain ⟨hremainder₁, hcount₁⟩ := Prod.mk.inj hclock₁
  obtain ⟨hremainder₃, hcount₃⟩ := Prod.mk.inj hclock₃
  have hends := loop_ends (R := R.counted) (hremainder₁.trans hx) hx0 hx1 hq0 hq1
  dsimp only at hends
  rw [hloop] at hends
  have hsum : s₁.remainder + num q = num (x + q) := by rw [hremainder₁, hx, num_add]
  obtain ⟨k, x', hx', hcount, hpos, hlast, hlow, hhigh⟩ := hends.time rfl hsum (by linarith)
  exact ⟨q, k, x', rfl, hq0, hq1, hremainder₃.trans hx', by rw [hcount₃, hcount, ← hcount₁], hpos, hlast, hlow, hhigh⟩

/-! Calls one after the other. -/

/-- Calls that return, newest first, of the given lengths.  Between them the adapter may change as it
will, its clock apart. -/
inductive Stepped (R : Runner ExtRat ρ) (start : Copley ExtRat (ρ × Nat)) :
    List ℚ → Copley ExtRat (ρ × Nat) → Prop
  | start : Stepped R start [] start
  | changed {lengths : List ℚ} {s s' : Copley ExtRat (ρ × Nat)} (before : Stepped R start lengths s)
    (clock : clock s' = clock s) : Stepped R start lengths s'
  | call {lengths : List ℚ} {s s' : Copley ExtRat (ρ × Nat)} {q : ℚ} (before : Stepped R start lengths s)
    (returns : step R.counted (num q) s = (.ok (), s')) : Stepped R start (q :: lengths) s'

/-- The clock says how long the calls were. -/
structure OnTime (lengths : List ℚ) (s : Copley ExtRat (ρ × Nat)) (x : ℚ) : Prop where
  remainder : s.remainder = num x
  nonneg : 0 ≤ x
  last : x + tolerance < stepLength
  kept : lengths.sum ≤ s.runner.2 * stepLength + x
  drift : s.runner.2 * stepLength + x ≤ lengths.sum + s.runner.2 * tolerance

theorem Stepped.onTime {start : Copley ExtRat (ρ × Nat)} (hstart : clock start = (0, 0)) {lengths : List ℚ}
    (h : Stepped R start lengths s) : ∃ x, OnTime lengths s x := by
  induction h with
  | start =>
    obtain ⟨hremainder, hcount⟩ := Prod.mk.inj hstart
    refine ⟨0, hremainder, le_rfl, by norm_num [tolerance, stepLength], ?_, ?_⟩ <;> rw [hcount] <;> simp
  | changed _ hclock ih =>
    obtain ⟨x, hx⟩ := ih
    obtain ⟨hremainder, hcount⟩ := Prod.mk.inj hclock
    exact ⟨x, hremainder.trans hx.remainder, hx.nonneg, hx.last, hcount ▸ hx.kept, hcount ▸ hx.drift⟩
  | call _ returns ih =>
    obtain ⟨x, hx⟩ := ih
    obtain ⟨q, k, x', hq, -, -, hremainder, hcount, hpos, hlast, hlow, hhigh⟩ :=
      step_time returns hx.remainder hx.nonneg hx.last
    cases hq
    have hkept := hx.kept
    have hdrift := hx.drift
    refine ⟨x', hremainder, hpos, hlast, ?_, ?_⟩
    · rw [hcount, List.sum_cons]
      push_cast
      linarith
    · rw [hcount, List.sum_cons]
      push_cast
      linarith

theorem construct_clock {axisMode : AxisMode} {runner : ρ} (h : construct R.counted axisMode (runner, 0) = .ok s) :
    clock s = (0, 0) := by
  have hkept : clock (initialise R.counted (configured axisMode (runner, 0))).2 =
      clock (configured axisMode (runner, 0) : Copley ExtRat (ρ × Nat)) := by
    have hinitialise : (initialise R.counted).Keeps (Exec.Fixes clock) := by
      refine .bind Exec.keeps_get fun _ => .bind (keeps_clock fun _ => rfl) fun _ => ?_
      refine .bind (Exec.keeps_ofExcept _) fun _ => .bind (write_clock _ _) fun _ => ?_
      refine .bind (keeps_clock fun _ => rfl) fun _ => .bind (Exec.keeps_ofExcept _) fun _ => ?_
      exact .bind (write_clock _ _) fun _ => .bind (write_clock _ _) fun _ => refresh_clock
    exact hinitialise _
  unfold construct at h
  generalize initialise R.counted (configured axisMode (runner, 0)) = p at h hkept
  obtain ⟨r, s'⟩ := p
  cases r with
  | error e => cases h
  | ok _ =>
    cases h
    exact hkept

/-- However the calls follow each other, the steps and the remainder account for their lengths, the loop
of the next call ends, and a call that raises before it steps changes neither. -/
theorem steps_keep_time {axisMode : AxisMode} {runner : ρ} {start : Copley ExtRat (ρ × Nat)}
    (hstart : construct R.counted axisMode (runner, 0) = .ok start) {lengths : List ℚ}
    (h : Stepped R start lengths s) :
    (∃ x, s.remainder = num x ∧ 0 ≤ x ∧ x < 1 / 500 ∧ lengths.sum ≤ 1 / 500 * s.runner.2 + x ∧
      1 / 500 * s.runner.2 + x ≤ lengths.sum + s.runner.2 * (1 / 10 ^ 12)) ∧
    (∀ s' q, clock s' = clock s → 0 < q → q ≤ 1 / 10 →
      let started := { s' with remainder := s'.remainder + num q }
      LoopEnds R.counted started (subSteps R.counted subStepLimit started).1
        (subSteps R.counted subStepLimit started).2) ∧
    (∀ dt, s.Refused dt → ∃ e, step R.counted dt s = (.error e, s)) ∧
    ∀ dt e, (prepare R.counted dt s).1 = .error e →
      (step R.counted dt s).1 = .error e ∧ clock (step R.counted dt s).2 = clock s := by
  obtain ⟨x, hx⟩ := h.onTime (construct_clock hstart)
  refine ⟨⟨x, hx.remainder, hx.nonneg, ?_, ?_, ?_⟩, ?_, fun dt => step_refused, fun dt e => step_unprepared⟩
  · have hlast := hx.last
    have htolerance : 0 < tolerance := by norm_num [tolerance]
    exact lt_trans (by linarith) hlast
  · rw [mul_comm]
    exact hx.kept
  · rw [mul_comm (1 / 500 : ℚ)]
    exact hx.drift
  · intro s' q hclock hq0 hq1
    exact loop_ends ((Prod.mk.inj hclock).1.trans hx.remainder) hx.nonneg hx.last hq0 hq1

/-- An FMU at rest. -/
def atRest : Runner ExtRat Unit where
  set _ := pure ()
  step _ := pure ()
  statusWord := pure 0x40
  output _ := pure 0
  parameter _ := pure (num 1000)

theorem steps_keep_time_atRest : ∃ start s, construct atRest.counted .linear ((), 0) = .ok start ∧
    Stepped atRest start [3 / 1000] s ∧ clock s = (num (1 / 1000), 1) ∧ (1 / 1000 : ℚ) < 1 / 500 := by
  let opened := initialise atRest.counted (configured .linear ((), 0))
  let stepped := step atRest.counted (num (3 / 1000)) opened.2
  have hopens : opened.1 = .ok () := by decide +kernel
  have hreturns : stepped.1 = .ok () := by decide +kernel
  have hclock : clock stepped.2 = (num (1 / 1000), 1) := by decide +kernel
  have hstart : construct atRest.counted .linear ((), 0) = .ok opened.2 := by
    rw [construct, show initialise atRest.counted (configured .linear ((), 0)) = (.ok (), opened.2) from Prod.ext hopens rfl]
  have hstepped : Stepped atRest opened.2 [3 / 1000] stepped.2 := .call .start (Prod.ext hreturns rfl)
  obtain ⟨⟨x, hx, -, hlast, -⟩, -⟩ := steps_keep_time hstart hstepped
  obtain rfl : x = 1 / 1000 := ExtRat.num.inj (hx.symm.trans (Prod.mk.inj hclock).1)
  exact ⟨_, _, hstart, hstepped, hclock, hlast⟩

end Copley

end EthercatSimulator.Adapter
