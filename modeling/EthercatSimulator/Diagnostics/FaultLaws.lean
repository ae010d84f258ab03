import EthercatSimulator.Diagnostics.Fault
import Mathlib.Data.Nat.Bitwise

/-! What one guard operation can do: the invariant that ties the latched fault to the phase,
and the cases of `prepare` and `accept`. -/

namespace EthercatSimulator.Diagnostics

open Base

theorem testBit_clearBits (w m i : Nat) :
    (clearBits w m).testBit i = (w.testBit i && !m.testBit i) := by
  unfold clearBits
  rw [Nat.testBit_xor, Nat.testBit_and]
  cases w.testBit i <;> cases m.testBit i <;> rfl

theorem firstWord_lt (data : Bytes) : firstWord data < 2 ^ 16 := by
  have h := leNat_lt (data.take 2)
  have hlen : (data.take 2).length ≤ 2 := List.length_take_le _ _
  calc firstWord data < 256 ^ (data.take 2).length := h
    _ ≤ 256 ^ 2 := Nat.pow_le_pow_right (by omega) hlen

theorem firstWord_append {w : Bytes} (hw : w.length = 2) (rest : Bytes) :
    firstWord (w ++ rest) = leNat w := by
  rw [firstWord, ← hw, List.take_left]

@[simp] theorem firstWord_withControlword (a b : UInt8) (payload : Bytes) :
    firstWord (withControlword [a, b] payload) = leNat [a, b] :=
  firstWord_append rfl _

namespace AxisFault

theorem testBit_of_testBit_eight {i : Nat} (h : Nat.testBit 8 i = true) :
    Nat.testBit 0x106f i = true := by
  rw [show 8 = 2 ^ 3 from rfl, Nat.testBit_two_pow, decide_eq_true_iff] at h
  subst h
  decide

/-- The published statusword shows Fault and nothing else of the drive state. -/
theorem faultWord_and (sw : Nat) : faultWord sw &&& 0x106f = 8 := by
  apply Nat.eq_of_testBit_eq
  intro i
  have h := testBit_of_testBit_eight (i := i)
  rw [faultWord, Nat.testBit_and, Nat.testBit_or, testBit_clearBits]
  revert h
  cases sw.testBit i <;> cases Nat.testBit 0x106f i <;> cases Nat.testBit 8 i <;> simp

theorem clearBits_faultWord (sw : Nat) : clearBits (faultWord sw) 0x106f = clearBits sw 0x106f := by
  apply Nat.eq_of_testBit_eq
  intro i
  have h := testBit_of_testBit_eight (i := i)
  rw [testBit_clearBits, testBit_clearBits, faultWord, Nat.testBit_or, testBit_clearBits]
  revert h
  cases sw.testBit i <;> cases Nat.testBit 0x106f i <;> cases Nat.testBit 8 i <;> simp

theorem faultWord_lt {sw : Nat} (h : sw < 2 ^ 16) : faultWord sw < 2 ^ 16 := by
  have hc : clearBits sw 0x106f < 2 ^ 16 :=
    Nat.xor_lt_two_pow h (Nat.and_lt_two_pow _ (by decide))
  exact Nat.or_lt_two_pow hc (by decide)

theorem firstWord_responseData {g : AxisFault} (h : g.fault ≠ none) :
    firstWord g.responseData = faultWord (firstWord g.last) := by
  unfold responseData
  cases hf : g.fault with
  | none => exact absurd hf h
  | some d =>
    change firstWord (leBytes 2 _ ++ _) = _
    rw [firstWord_append (length_leBytes _ _)]
    exact leNat_leBytes_of_lt (faultWord_lt (firstWord_lt _))

theorem drop_responseData (g : AxisFault) : g.responseData.drop 2 = g.last.drop 2 := by
  unfold responseData
  cases g.fault with
  | none => rfl
  | some d => exact List.drop_left' (length_leBytes _ _)

theorem length_responseData {g : AxisFault} (h : 2 ≤ g.last.length) :
    g.responseData.length = g.last.length := by
  unfold responseData
  cases g.fault with
  | none => rfl
  | some d => simp; omega

/-- A fault is latched exactly in the two phases before the drive is confirmed clear, and a
fault that needs a restart is never left. -/
structure Valid (g : AxisFault) : Prop where
  fault_iff : g.fault ≠ none ↔ g.phase = .fault ∨ g.phase = .verifyReset
  phase_of_restart : g.restartRequired = true → g.phase = .fault

namespace Valid

variable {g : AxisFault}

theorem fault_of_phase (h : g.Valid) (hp : g.phase = .fault ∨ g.phase = .verifyReset) :
    ∃ d, g.fault = some d := Option.ne_none_iff_exists'.mp (h.fault_iff.mpr hp)

theorem fault_none (h : g.Valid) (hf : g.phase ≠ .fault) (hv : g.phase ≠ .verifyReset) :
    g.fault = none := by
  by_contra hne
  cases h.fault_iff.mp hne with
  | inl hp => exact hf hp
  | inr hp => exact hv hp

theorem restart_of_fault_none (h : g.Valid) (hn : g.fault = none) : g.restartRequired = false := by
  by_contra hr
  have hp := h.phase_of_restart (by simpa using hr)
  exact h.fault_iff.mpr (.inl hp) hn

end Valid

section Detect

variable (g : AxisFault) (now : Time) (code : Code) (detail : String) (restart : Bool)

theorem latch_eq : ∃ d issued printed, g.latch now code detail restart =
    { g with fault := some d, issued := issued, printed := printed } := by
  unfold latch print
  cases hf : g.fault with
  | none => exact ⟨_, _, _, rfl⟩
  | some d =>
    dsimp only
    split
    · exact ⟨_, _, _, rfl⟩
    · exact ⟨d, g.issued, g.printed, by rw [← hf]⟩

/-- The fields `detect` writes. -/
theorem detect_eq : ∃ d valid issued printed, g.detect now code detail restart =
    { g with
      fault := some d, feedbackValid := valid, issued := issued, printed := printed
      restartRequired := g.restartRequired || restart, phase := .fault
      detections := g.detections + 1 } := by
  obtain ⟨d, issued, printed, h⟩ := latch_eq { g with
    feedbackValid := if code ≠ Code.axisDriveFault ∨ restart then false else g.feedbackValid
    detections := g.detections + 1 } now code detail restart
  exact ⟨d, _, issued, printed, by rw [detect, h]⟩

@[simp] theorem detect_phase : (g.detect now code detail restart).phase = .fault := rfl

@[simp] theorem detect_restartRequired :
    (g.detect now code detail restart).restartRequired = (g.restartRequired || restart) := by
  obtain ⟨_, _, _, _, h⟩ := g.detect_eq now code detail restart
  rw [h]

@[simp] theorem detect_last : (g.detect now code detail restart).last = g.last := by
  obtain ⟨_, _, _, _, h⟩ := g.detect_eq now code detail restart
  rw [h]

@[simp] theorem detect_previousCw :
    (g.detect now code detail restart).previousCw = g.previousCw := by
  obtain ⟨_, _, _, _, h⟩ := g.detect_eq now code detail restart
  rw [h]

@[simp] theorem detect_detections :
    (g.detect now code detail restart).detections = g.detections + 1 := by
  obtain ⟨_, _, _, _, h⟩ := g.detect_eq now code detail restart
  rw [h]

theorem detect_fault : (g.detect now code detail restart).fault ≠ none := by
  obtain ⟨_, _, _, _, h⟩ := g.detect_eq now code detail restart
  rw [h]
  exact Option.some_ne_none _

/-- A later cause does not replace the code of the first one. -/
theorem detect_code : (g.detect now code detail restart).fault.map (·.code) =
    some ((g.fault.map (·.code)).getD code) := by
  unfold detect latch print
  dsimp only
  cases hf : g.fault with
  | none => rfl
  | some d =>
    dsimp only
    split
    · rfl
    · simp

theorem detect_valid : (g.detect now code detail restart).Valid where
  fault_iff := iff_of_true (g.detect_fault now code detail restart) (.inl rfl)
  phase_of_restart _ := rfl

end Detect

/-! The gate: what of a frame passes in each phase. -/

inductive Gate (g : AxisFault) (payload : Bytes) : Option Bytes → Bool → Phase → Prop
  | passes : g.phase = .normal → Gate g payload (some payload) false .normal
  | holds : g.phase ≠ .normal → Gate g payload none false g.phase
  | verifies : g.phase = .verifyReset → hasBits (firstWord payload) 0x80 = false →
    Gate g payload (some (withControlword [0x00, 0x00] payload)) true .verifyReset
  | resets : g.phase = .fault → g.restartRequired = false →
    hasBits (firstWord payload) 0x80 = true → hasBits g.previousCw 0x80 = false →
    Gate g payload (some (withControlword [0x80, 0x00] payload)) true .fault
  | disables : g.phase = .fault → g.restartRequired = false →
    g.fault.map (·.code) = some .axisDriveFault →
    Gate g payload (some (withControlword [0x00, 0x00] payload)) false .fault
  | shutdown : g.phase = .shutdown → firstWord payload &&& 0x8f = 6 →
    Gate g payload (some payload) false .switchOn
  | switchOn : g.phase = .switchOn → firstWord payload &&& 0x8f = 7 →
    Gate g payload (some payload) false .enable
  | enable : g.phase = .enable → firstWord payload &&& 0x8f = 15 →
    hasBits (firstWord payload) 0x10 = false → payload[2]? = some 1 →
    Gate g payload (some payload) false .normal

/-- `g'` publishes and blocks as `g` does. -/
structure Kept (g g' : AxisFault) : Prop where
  last : g'.last = g.last
  restartRequired : g'.restartRequired = g.restartRequired
  detections : g'.detections = g.detections
  code : g'.fault.map (·.code) = g.fault.map (·.code)

theorem Kept.refl (g : AxisFault) : g.Kept g := ⟨rfl, rfl, rfl, rfl⟩

theorem Kept.fault_iff {g g' : AxisFault} (h : g.Kept g') : g'.fault ≠ none ↔ g.fault ≠ none := by
  have hcode := h.code
  cases hg : g.fault <;> cases hg' : g'.fault <;> simp_all

/-- What preparing a frame keeps of the guard. -/
structure Prepared (g : AxisFault) (payload : Bytes) (g' : AxisFault) : Prop extends Kept g g' where
  previousCw : g'.previousCw = firstWord payload

theorem acknowledgeFault_eq (g : AxisFault) (d : Diagnostic) (now : Time) :
    ∃ d' printed, g.acknowledgeFault d now = { g with fault := some d', printed := printed } ∧
      d'.code = d.code := by
  unfold acknowledgeFault Diagnostic.acknowledge print
  dsimp only
  split <;> exact ⟨_, _, rfl, rfl⟩

theorem acknowledgeFault_prepared (g : AxisFault) (d : Diagnostic) (now : Time) (payload : Bytes)
    (h : g.previousCw = firstWord payload) (hd : g.fault = some d) :
    g.Prepared payload (g.acknowledgeFault d now) ∧
      (g.acknowledgeFault d now).phase = g.phase := by
  obtain ⟨d', printed, heq, hcode⟩ := acknowledgeFault_eq g d now
  rw [heq]
  exact ⟨⟨⟨rfl, rfl, rfl, by simp [hd, hcode]⟩, h⟩, rfl⟩

theorem prepare_gate {g g' : AxisFault} (hv : g.Valid) {now : Time} {payload : Bytes}
    (hlen : 2 < payload.length) {r : Except Exc (Option Bytes × Bool)}
    (h : prepare now payload g = (r, g')) :
    ∃ frame resetting, r = .ok (frame, resetting) ∧ g.Gate payload frame resetting g'.phase ∧
      g.Prepared payload g' := by
  have hmode : payload[2]? = some payload[2] := List.getElem?_eq_getElem hlen
  cases hp : g.phase with
  | normal =>
    simp only [prepare, hp] at h
    cases h
    exact ⟨_, _, rfl, .passes hp, ⟨rfl, rfl, rfl, rfl⟩, rfl⟩
  | verifyReset =>
    simp only [prepare, hp] at h
    split at h
    · cases h
      exact ⟨_, _, rfl, hp ▸ .holds (by simp [hp]), ⟨rfl, rfl, rfl, rfl⟩, rfl⟩
    · rename_i hb
      cases h
      exact ⟨_, _, rfl, .verifies hp (by simpa using hb), ⟨rfl, rfl, rfl, rfl⟩, rfl⟩
  | fault =>
    obtain ⟨d, hd⟩ := hv.fault_of_phase (.inl hp)
    simp only [prepare, hp, hd] at h
    split at h
    · cases h
      exact ⟨_, _, rfl, hp ▸ .holds (by simp [hp]), ⟨rfl, rfl, rfl, hd ▸ rfl⟩, rfl⟩
    · rename_i hr
      split at h
      · rename_i hreset
        rw [Bool.and_eq_true, Bool.not_eq_true'] at hreset
        cases h
        obtain ⟨hack, hphase⟩ := acknowledgeFault_prepared
          { g with fault := some d, phase := .fault, previousCw := firstWord payload } d now payload
          rfl rfl
        rw [hphase]
        exact ⟨_, _, rfl, .resets hp (by simpa using hr) hreset.1 hreset.2, 
          ⟨hack.last, hack.restartRequired, hack.detections, hd ▸ hack.code⟩, hack.previousCw⟩
      · split at h
        · rename_i hcode
          cases h
          exact ⟨_, _, rfl, .disables hp (by simpa using hr) (by rw [hd, Option.map_some, hcode]),
            ⟨rfl, rfl, rfl, hd ▸ rfl⟩, rfl⟩
        · cases h
          exact ⟨_, _, rfl, hp ▸ .holds (by simp [hp]), ⟨rfl, rfl, rfl, hd ▸ rfl⟩, rfl⟩
  | shutdown =>
    simp only [prepare, hp] at h
    split at h
    · rename_i hc
      cases h
      exact ⟨_, _, rfl, .shutdown hp hc, ⟨rfl, rfl, rfl, rfl⟩, rfl⟩
    · cases h
      exact ⟨_, _, rfl, hp ▸ .holds (by simp [hp]), ⟨rfl, rfl, rfl, rfl⟩, rfl⟩
  | switchOn =>
    simp only [prepare, hp] at h
    split at h
    · rename_i hc
      cases h
      exact ⟨_, _, rfl, .switchOn hp hc, ⟨rfl, rfl, rfl, rfl⟩, rfl⟩
    · cases h
      exact ⟨_, _, rfl, hp ▸ .holds (by simp [hp]), ⟨rfl, rfl, rfl, rfl⟩, rfl⟩
  | enable =>
    simp only [prepare, hp, hmode] at h
    split at h
    · rename_i hc
      split at h
      · rename_i hone
        cases h
        exact ⟨_, _, rfl, .enable hp hc.1 (by simpa using hc.2) (by rw [hmode, hone]),
          ⟨rfl, rfl, rfl, rfl⟩, rfl⟩
      · cases h
        exact ⟨_, _, rfl, hp ▸ .holds (by simp [hp]), ⟨rfl, rfl, rfl, rfl⟩, rfl⟩
    · cases h
      exact ⟨_, _, rfl, hp ▸ .holds (by simp [hp]), ⟨rfl, rfl, rfl, rfl⟩, rfl⟩

/-- Nothing passes once a restart is required. -/
theorem Gate.not_restart {g : AxisFault} {payload frame : Bytes} {resetting : Bool} {phase : Phase}
    (hgate : g.Gate payload (some frame) resetting phase) (hv : g.Valid) :
    g.restartRequired = false := by
  by_contra hr
  have hp := hv.phase_of_restart (by simpa using hr)
  cases hgate <;> simp_all

/-- While a fault is latched, only the disable and the reset word pass. -/
theorem Gate.controlword {g : AxisFault} {payload frame : Bytes} {resetting : Bool} {phase : Phase}
    (hgate : g.Gate payload (some frame) resetting phase) (hv : g.Valid) (hf : g.fault ≠ none) :
    firstWord frame = 0 ∨ firstWord frame = 0x80 := by
  have hp := hv.fault_iff.mp hf
  cases hgate <;> first | (simp_all; done) | (rw [firstWord_withControlword]; decide)

theorem Gate.valid {g g' : AxisFault} {payload : Bytes} {frame : Option Bytes} {resetting : Bool}
    (hgate : g.Gate payload frame resetting g'.phase) (hprep : g.Prepared payload g')
    (hv : g.Valid) : g'.Valid := by
  have hfault := hprep.toKept.fault_iff.trans hv.fault_iff
  have hrestart := hprep.restartRequired ▸ hv.phase_of_restart
  generalize hp' : g'.phase = phase at hgate
  constructor
  · rw [hfault, hp']
    cases hgate <;> simp_all
  · intro hr
    have hp := hrestart hr
    rw [hp']
    cases hgate <;> simp_all

/-! The verdict: what a model output does to the phase. -/

inductive Verdict (g : AxisFault) (sw : Nat) (resetting : Bool) (g' : AxisFault) : Prop
  | faulted (hsw : hasBits sw 8 = true) (phase : g'.phase = .fault) (fault : g'.fault ≠ none)
    (detections : g'.detections = g.detections + 1)
  | unchanged (hsw : hasBits sw 8 = false) (quiet : resetting = false ∨ g.fault = none)
    (phase : g'.phase = g.phase) (fault : g'.fault = g.fault)
    (detections : g'.detections = g.detections)
  | awaits (hsw : hasBits sw 8 = false) (hr : resetting = true) (held : g.fault ≠ none)
    (from_phase : g.phase ≠ .verifyReset) (phase : g'.phase = .verifyReset)
    (fault : g'.fault = g.fault) (detections : g'.detections = g.detections)
  | cleared (hsw : hasBits sw 8 = false) (hr : resetting = true) (held : g.fault ≠ none)
    (from_phase : g.phase = .verifyReset) (phase : g'.phase = .shutdown)
    (fault : g'.fault = none) (detections : g'.detections = g.detections)

/-- What accepting an output writes whatever the verdict. -/
structure Accepted (g : AxisFault) (output : Bytes) (g' : AxisFault) : Prop where
  length : output.length = g.last.length
  last : g'.last = output
  restartRequired : g'.restartRequired = g.restartRequired
  previousCw : g'.previousCw = g.previousCw

theorem updateWarning_eq (g : AxisFault) (now : Time) (sw : Nat) :
    ∃ warning issued printed, g.updateWarning now sw =
      { g with warning := warning, issued := issued, printed := printed } := by
  unfold updateWarning print
  cases hw : g.warning with
  | none =>
    dsimp only
    split
    · exact ⟨_, _, _, rfl⟩
    · exact ⟨none, g.issued, g.printed, by rw [← hw]⟩
  | some d =>
    dsimp only
    split
    · exact ⟨some d, g.issued, g.printed, by rw [← hw]⟩
    · split <;> exact ⟨_, _, _, rfl⟩

theorem updateFault_verdict (g : AxisFault) (now : Time) (sw : Nat) (resetting : Bool) :
    let g' := g.updateFault now sw resetting
    g.Verdict sw resetting g' ∧ g'.last = g.last ∧ g'.restartRequired = g.restartRequired ∧
      g'.previousCw = g.previousCw := by
  intro g'
  have hg' : g' = g.updateFault now sw resetting := rfl
  unfold updateFault at hg'
  by_cases hsw : hasBits sw 8 = true
  · have hg : g' = g.detect now .axisDriveFault "Model reports drive Fault" := by
      rw [hg', if_pos hsw]
    rw [hg]
    exact ⟨.faulted hsw rfl (g.detect_fault _ _ _ _) (g.detect_detections _ _ _ _), by simp⟩
  · rw [Bool.not_eq_true] at hsw
    cases hf : g.fault with
    | none =>
      have hg : g' = g := by simp [hg', hsw, hf]
      rw [hg]
      exact ⟨.unchanged hsw (.inr hf) rfl rfl rfl, rfl, rfl, rfl⟩
    | some d =>
      have held : g.fault ≠ none := hf ▸ Option.some_ne_none d
      cases hr : resetting with
      | false =>
        have hg : g' = g := by simp [hg', hsw, hf, hr]
        rw [hg]
        exact ⟨.unchanged hsw (.inl rfl) rfl rfl rfl, rfl, rfl, rfl⟩
      | true =>
        by_cases hp : g.phase = .verifyReset
        · have hg : g' = { g.resolveFault d now with phase := .shutdown } := by
            simp [hg', hsw, hf, hr, hp]
          have hres : ∃ printed, g.resolveFault d now = { g with fault := none, printed := printed } := by
            unfold resolveFault print
            dsimp only
            split <;> exact ⟨_, rfl⟩
          obtain ⟨printed, hres⟩ := hres
          rw [hg, hres]
          exact ⟨.cleared hsw rfl held hp rfl rfl rfl, rfl, rfl, rfl⟩
        · have hg : g' = { g with phase := .verifyReset } := by simp [hg', hsw, hf, hr, hp]
          rw [hg]
          exact ⟨.awaits hsw rfl held hp rfl rfl rfl, rfl, rfl, rfl⟩

theorem accept_cases {g g' : AxisFault} {now : Time} {output : Bytes} {resetting : Bool}
    (h : g.accept now output resetting = .ok g') :
    g.Accepted output g' ∧ g.Verdict (firstWord output) resetting g' := by
  unfold accept at h
  split at h
  · cases h
  · rename_i hlen
    cases h
    set g₁ : AxisFault :=
      { g with last := output, lastValidAt := some now, feedbackValid := true } with hg₁
    obtain ⟨hverdict, hlast, hrestart, hprev⟩ :=
      g₁.updateFault_verdict now (firstWord output) resetting
    obtain ⟨_, _, _, hw⟩ :=
      (g₁.updateFault now (firstWord output) resetting).updateWarning_eq now (firstWord output)
    rw [hw]
    refine ⟨⟨not_not.mp hlen, hlast, hrestart, hprev⟩, ?_⟩
    cases hverdict with
    | faulted hsw phase fault detections => exact .faulted hsw phase fault detections
    | unchanged hsw quiet phase fault detections => exact .unchanged hsw quiet phase fault detections
    | awaits hsw hr held from_phase phase fault detections =>
      exact .awaits hsw hr held from_phase phase fault detections
    | cleared hsw hr held from_phase phase fault detections =>
      exact .cleared hsw hr held from_phase phase fault detections

theorem Verdict.valid {g g' : AxisFault} {output : Bytes} {sw : Nat} {resetting : Bool}
    (hverdict : g.Verdict sw resetting g') (hacc : g.Accepted output g') (hv : g.Valid)
    (hr : g.restartRequired = false) : g'.Valid := by
  have hr' : g'.restartRequired = false := hacc.restartRequired ▸ hr
  refine ⟨?_, fun h => absurd h (by simp [hr'])⟩
  have := hv.fault_iff
  cases hverdict <;> simp_all

end AxisFault

end EthercatSimulator.Diagnostics
