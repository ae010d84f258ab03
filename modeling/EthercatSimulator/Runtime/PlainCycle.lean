import EthercatSimulator.Runtime.ModelLaws

/-! A cycle request while nothing is latched. -/

namespace EthercatSimulator.Runtime

open Base Profile Diagnostics

/-- The guard lets frames pass, and no fault is latched. -/
structure Healthy (g : AxisFault) : Prop where
  phase : g.phase = .normal
  fault : g.fault = none

namespace Axis

variable {F σ : Type}

theorem run_call {α : Type} (log : Except Exc α → Call F) {x : PyM σ α} {a : Axis F σ} {r : Except Exc α} {s : σ}
    (h : x a.adapter = (r, s)) : call log x a = (r, { a with adapter := s, calls := a.calls ++ [log r] }) := by
  rw [call, h]

variable [PyFloat F] {A : DriveAdapter F σ} {m : Moment F} {a : Axis F σ} {frame : Bytes}

omit [PyFloat F] in
theorem prepare_healthy (h : Healthy a.faultState) (frame : Bytes) :
    prepare m frame a =
      (.ok (some frame, false), a.setGuard { a.faultState with previousCw := firstWord frame }) := by
  unfold prepare Exec.zoom AxisFault.prepare
  simp only [h.phase]

/-- A frame of the right length that is not late runs on the adapter. -/
theorem innerCycle_ok (hlen : frame.length = rxSize) (hgap : ¬ PyFloat.ofRat (1 / 10) < a.elapsed m)
    {output : Bytes} {s : σ} (hrun : A.cycle frame (a.elapsed m) a.adapter = (.ok output, s)) :
    ∃ calls, innerCycle A m frame a = (.ok output, { a with
      adapter := s, lastCycle := some m.monotonic, cycles := a.cycles + 1, calls := calls }) := by
  obtain ⟨_, s₁, happly, hrest⟩ := Exec.run_bind_eq_ok.mp hrun
  obtain ⟨_, s₂, hstep, hread⟩ := Exec.run_bind_eq_ok.mp hrest
  unfold innerCycle
  rw [Exec.run_bind_ok (Exec.run_require hlen _ a), Exec.run_bind_ok (Exec.run_get a),
    Exec.run_bind_ok (Exec.run_require hgap _ a), Exec.run_bind_ok (Exec.run_modify _ a)]
  set b : Axis F σ := { a with lastCycle := some m.monotonic }
  have hb : b.adapter = a.adapter := rfl
  unfold applyOutputs step readInputs
  rw [Exec.run_bind_ok (run_call _ (hb ▸ happly)), Exec.run_bind_ok (run_call _ hstep),
    Exec.run_bind_ok (run_call _ hread)]
  exact ⟨_, rfl⟩

/-- A cycle that raises on the adapter, other than to refuse the frame, raises nothing that is taken
for a refusal. -/
theorem innerCycle_failed {e : Exc} {s : σ} (hrun : A.cycle frame (a.elapsed m) a.adapter = (.error e, s))
    (he : e.isDeviceRejected = false) :
    ∃ e' b, innerCycle A m frame a = (.error e', b) ∧ e'.isDeviceRejected = false := by
  have hmodel := innerCycle_model (A := A) (m := m) frame a
  unfold Exec.Post at hmodel
  generalize innerCycle A m frame a = p at hmodel
  obtain ⟨r, b⟩ := p
  rcases hmodel with ⟨e', hr, he'⟩ | ⟨hcycle, _⟩
  · exact ⟨e', b, Prod.ext hr rfl, he'⟩
  · obtain ⟨hr, _⟩ := Prod.mk.inj (hrun.symm.trans hcycle)
    exact ⟨e, b, Prod.ext hr.symm rfl, he⟩

omit [PyFloat F] in
/-- An output of the right length without the fault bit keeps the guard healthy. -/
theorem acceptOutput_healthy (h : Healthy a.faultState) {output : Bytes}
    (hlen : output.length = a.faultState.last.length) (hsw : hasBits (firstWord output) 8 = false) :
    ∃ g, acceptOutput m output false a = (.ok (), a.setGuard g) ∧ Healthy g ∧ g.last = output := by
  cases hacc : a.faultState.accept m.time output false with
  | error e =>
    unfold AxisFault.accept at hacc
    rw [if_neg (not_not.mpr hlen)] at hacc
    cases hacc
  | ok g =>
    obtain ⟨haccepted, hverdict⟩ := AxisFault.accept_cases hacc
    refine ⟨g, by rw [acceptOutput, hacc], ?_, haccepted.last⟩
    cases hverdict with
    | faulted hfault => rw [hsw] at hfault; cases hfault
    | unchanged _ _ phase fault => exact ⟨phase.trans h.phase, fault.trans h.fault⟩
    | awaits _ hr => cases hr
    | cleared _ hr => cases hr

variable {text : String}

theorem cycleBody_healthy (h : Healthy a.faultState) (htext : fromHex text = some frame)
    (hlen : frame.length = rxSize) : cycleBody A m (some text) a =
      forwarded A m frame false (a.setGuard { a.faultState with previousCw := firstWord frame }) := by
  unfold cycleBody
  simp only [htext]
  exact (Exec.run_bind_ok (Exec.run_require hlen _ a) _).trans (Exec.run_bind_ok (prepare_healthy h frame) _)

theorem forwarded_plain (frame : Bytes) (b : Axis F σ) : forwarded A m frame false b =
    (do
      let result ← innerCycle A m frame
      let a ← Exec.get
      acceptOutput m result false
      return .result (.output (hexText result) (some a.cycles)) : PyM (Axis F σ) Progress) b := rfl

/-- A cycle the adapter runs is answered with its output. -/
theorem dispatch_ok (h : Healthy a.faultState) (htext : fromHex text = some frame) (hlen : frame.length = rxSize)
    (hgap : ¬ PyFloat.ofRat (1 / 10) < a.elapsed m) {output : Bytes} {s : σ}
    (hrun : A.cycle frame (a.elapsed m) a.adapter = (.ok output, s))
    (hout : output.length = a.faultState.last.length) (hsw : hasBits (firstWord output) 8 = false) :
    (dispatch A m (.cycle (some text))).Post a fun r b =>
      r = .ok (.output (hexText output) (some (a.cycles + 1))) ∧ b.adapter = s ∧ Healthy b.faultState ∧
        b.faultState.last = output ∧ b.lastCycle = some m.monotonic ∧ b.cycles = a.cycles + 1 := by
  apply Exec.post_modify_bind
  set a₀ : Axis F σ := { a with calls := [] }
  have h₀ : Healthy a₀.faultState := h
  set a₁ : Axis F σ := a₀.setGuard { a.faultState with previousCw := firstWord frame }
  obtain ⟨calls, hinner⟩ := innerCycle_ok (A := A) (a := a₁) hlen hgap hrun
  set a₂ : Axis F σ := { a₁ with adapter := s, lastCycle := some m.monotonic, cycles := a₁.cycles + 1, calls := calls }
  have hhealthy : Healthy a₂.faultState := ⟨h.phase, h.fault⟩
  obtain ⟨g, haccept, hg, hlast⟩ := acceptOutput_healthy (m := m) hhealthy hout hsw
  have hbody : cycleBody A m (some text) a₀ =
      (.ok (.result (.output (hexText output) (some (a.cycles + 1)))), a₂.setGuard g) := by
    rw [cycleBody_healthy h₀ htext hlen, forwarded_plain, Exec.run_bind_ok hinner,
      Exec.run_bind_ok (Exec.run_get a₂), Exec.run_bind_ok haccept]
    rfl
  change (processData m (cycleBody A m (some text))).Post a₀ _
  unfold Exec.Post processData
  rw [hbody]
  dsimp only
  unfold finish
  rw [if_pos ⟨hg.phase, hg.fault⟩]
  exact ⟨rfl, rfl, hg, hlast, rfl, rfl⟩

/-- A cycle the adapter fails at latches a fault that needs a restart. -/
theorem dispatch_failed (h : Healthy a.faultState) (htext : fromHex text = some frame)
    (hlen : frame.length = rxSize) {e : Exc} {s : σ}
    (hrun : A.cycle frame (a.elapsed m) a.adapter = (.error e, s)) (he : e.isDeviceRejected = false) :
    (dispatch A m (.cycle (some text)) a).2.faultState.restartRequired = true := by
  set a₀ : Axis F σ := { a with calls := [] }
  have h₀ : Healthy a₀.faultState := h
  set a₁ : Axis F σ := a₀.setGuard { a.faultState with previousCw := firstWord frame }
  obtain ⟨e', b, hinner, he'⟩ := innerCycle_failed (A := A) (m := m) (a := a₁) hrun he
  have hbody : cycleBody A m (some text) a₀ = (.error e', b) := by
    rw [cycleBody_healthy h₀ htext hlen, forwarded_plain, Exec.run_bind_error hinner]
  change (processData m (cycleBody A m (some text)) a₀).2.faultState.restartRequired = true
  unfold processData
  rw [hbody]
  dsimp only
  have hfault : (b.containFault m e').faultState.phase = .fault ∧
      (b.containFault m e').faultState.restartRequired = true := by
    unfold containFault
    rw [if_neg (by simp [he'])]
    refine ⟨rfl, ?_⟩
    change (b.faultState.detect _ _ _ _).restartRequired = true
    rw [AxisFault.detect_restartRequired, Bool.or_true]
  rw [finish_faulted none hfault.1]
  exact hfault.2

/-- An idle request shows what the adapter reads. -/
theorem dispatch_idle (h : Healthy a.faultState) {output : Bytes} {s : σ}
    (hrun : A.readInputs a.adapter = (.ok output, s)) (hout : output.length = a.faultState.last.length)
    (hsw : hasBits (firstWord output) 8 = false) :
    (dispatch A m .idle).Post a fun r b =>
      r = .ok (.output (hexText output) none) ∧ b.adapter = s ∧ Healthy b.faultState := by
  apply Exec.post_modify_bind
  set a₀ : Axis F σ := { a with calls := [] }
  have hinner : innerIdle A a₀ = (.ok output, { a₀.forgetCycle with
      adapter := s, calls := a₀.calls ++ [.readInputs (some output)] }) :=
    (Exec.run_bind_ok (Exec.run_modify _ a₀) _).trans (run_call _ hrun)
  set a₁ : Axis F σ := { a₀.forgetCycle with adapter := s, calls := a₀.calls ++ [.readInputs (some output)] }
  have h₁ : Healthy a₁.faultState := h
  obtain ⟨g, haccept, hg, _⟩ := acceptOutput_healthy (m := m) h₁ hout hsw
  have hbody : idleBody A m a₀ = (.ok (.result (.output (hexText output) none)), a₁.setGuard g) := by
    unfold idleBody
    rw [Exec.run_bind_ok (Exec.run_get a₀), if_neg (not_not.mpr h.phase)]
    unfold polled
    rw [Exec.run_bind_ok hinner, Exec.run_bind_ok haccept]
    rfl
  change (processData m (idleBody A m)).Post a₀ _
  unfold Exec.Post processData
  rw [hbody]
  dsimp only
  unfold finish
  rw [if_pos ⟨hg.phase, hg.fault⟩]
  exact ⟨rfl, rfl, hg⟩

end Axis

end EthercatSimulator.Runtime
