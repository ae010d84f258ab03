import EthercatSimulator.Adapter.Copley
import EthercatSimulator.Adapter.FKrCmmtLaws
import EthercatSimulator.Runtime.SdoWrite

/-! SDO access of both adapters: a refused write changes nothing, an accepted one is the bridge's. -/

namespace EthercatSimulator.Adapter

open Base Profile Behaviour EthercatSimulator.Runtime

theorem expected_rejected (message : String) : Expected (deviceRejected message) := ⟨rfl, rfl⟩

theorem expected_value (message : String) : Expected (valueError message) := ⟨rfl, rfl⟩

section

variable {F : Type} {od : Od F} {key : Key} {payload : Bytes}

/-- A payload of the object's size is refused for what the object is, or not at all. -/
theorem bridgeWriteSdo_expected {e : Exc} (h : bridgeWriteSdo od key payload = .error e)
    (hlen : ∀ d, definition key = some d → payload.length = d.dataType.size) : Expected e := by
  unfold bridgeWriteSdo at h
  cases hd : definition key with
  | none =>
    rw [hd] at h
    cases h
    exact ⟨rfl, rfl⟩
  | some d =>
    rw [hd] at h
    dsimp only at h
    split at h
    · cases h
      exact expected_rejected _
    · obtain ⟨v, hv⟩ := decodeOdValue_ok (F := F) (hlen d hd)
      rw [hv] at h
      cases h

theorem bridgeWriteSdo_saveCommand (od : Od F) (b : UInt8) :
    ∃ od', bridgeWriteSdo od Key.parameterSaveCommand [b] = .ok od' := by
  obtain ⟨v, hv⟩ := decodeOdValue_ok (F := F) (show [b].length = DataType.uint8.size from rfl)
  refine ⟨od.write Key.parameterSaveCommand v, ?_⟩
  unfold bridgeWriteSdo
  rw [show definition Key.parameterSaveCommand = some _ from rfl]
  dsimp only
  rw [if_neg (by decide), hv]
  rfl

end

namespace FKrCmmt

variable {F : Type} [PyFloat F]

omit [PyFloat F] in
theorem writeSdo_access (key : Key) (payload : Bytes) (s : Servo F) :
    (writeSdo key payload).Post s fun r s' =>
      (∃ e, r = .error e ∧ s' = s ∧
        ((∀ d, definition key = some d → payload.length = d.dataType.size) → Expected e)) ∨
      r = .ok () ∧ bridgeWriteSdo s.od key payload = .ok s'.od := by
  have hmode : (Exec.when (key = Key.modeOfOperation) (validateMode (leInt payload)) : PyM (Servo F) Unit).Post s
      fun r s' => s' = s ∧ ∀ e, r = .error e → Expected e := by
    apply Exec.post_when
    · intro _
      apply Exec.post_require
      · exact fun _ => ⟨rfl, nofun⟩
      · refine fun _ => ⟨rfl, fun e he => ?_⟩
        cases he
        exact expected_rejected _
    · exact fun _ => ⟨rfl, nofun⟩
  apply Exec.Post.bind
  · apply hmode.mono
    rintro _ _ ⟨rfl, _⟩ _ _
    apply Exec.post_get_bind
    apply Exec.Post.bind
    · apply Exec.post_ofExcept
      intro od hod
      exact .inr ⟨rfl, hod⟩
    · apply Exec.post_ofExcept
      intro e he
      exact .inl ⟨e, rfl, rfl, bridgeWriteSdo_expected he⟩
  · apply hmode.mono
    rintro _ _ ⟨rfl, hexpected⟩ e he
    exact .inl ⟨e, rfl, rfl, fun _ => hexpected e he⟩

def odAccess (F : Type) [PyFloat F] : OdAccess (fKrCmmt F) where
  od := Servo.od
  readInputs := readInputs_eq
  readSdo key _ := readSdo_eq key
  writeSdo := writeSdo_access
  saveCommand b s := by
    obtain ⟨od', hod'⟩ := bridgeWriteSdo_saveCommand s.od b
    refine ⟨(), ?_⟩
    change (writeSdo Key.parameterSaveCommand [b] s).1 = _
    unfold writeSdo
    have hskip : Exec.when (Key.parameterSaveCommand = Key.modeOfOperation) (validateMode (leInt [b])) s =
        (.ok (), s) := rfl
    rw [Exec.run_bind_ok hskip, Exec.run_bind_ok (Exec.run_get s), Exec.run_ofExcept_bind, hod']
    rfl
  odRead _ _ := rfl
  odWriteRole key v s := ⟨s.write key v, rfl, rfl⟩
  validateParameters _ := rfl

end FKrCmmt

namespace Copley

variable {F ρ : Type} [PyFloat F]

theorem validate_expected {index : Nat} {v : Value F} {e : Exc} (h : validate index v = .error e) : Expected e := by
  unfold validate at h
  by_cases hmode : index = 0x6060 ∧ !(v.same (.int 0) || v.same (.int 1))
  · rw [if_pos hmode] at h
    cases h
    exact expected_rejected _
  · by_cases hpositive : index ∈ [0x6081, 0x6083, 0x6084] ∧ isNonpositive v
    · rw [if_neg hmode, if_pos hpositive] at h
      cases h
      exact expected_rejected _
    · rw [if_neg hmode, if_neg hpositive] at h
      cases h

theorem writeSdo_access (key : Key) (payload : Bytes) (s : Copley F ρ) :
    (writeSdo key payload).Post s fun r s' =>
      (∃ e, r = .error e ∧ s' = s ∧
        ((∀ d, definition key = some d → payload.length = d.dataType.size) → Expected e)) ∨
      r = .ok () ∧ bridgeWriteSdo s.od key payload = .ok s'.od := by
  apply Exec.post_require_bind
  · intro _
    cases hd : definition key with
    | none => exact .inl ⟨_, rfl, rfl, fun _ => ⟨rfl, rfl⟩⟩
    | some d =>
      apply Exec.post_require_bind
      · intro hlen
        obtain ⟨v, hv⟩ := decodeOdValue_ok (F := F) hlen
        rw [hv]
        apply Exec.post_require_bind
        · intro _
          apply Exec.Post.bind
          · apply Exec.post_ofExcept
            intro _ _
            apply Exec.post_get_bind
            apply Exec.Post.bind
            · apply Exec.post_ofExcept
              intro od hod
              exact .inr ⟨rfl, hod⟩
            · apply Exec.post_ofExcept
              intro e he
              refine .inl ⟨e, rfl, rfl, fun _ => bridgeWriteSdo_expected he fun d' hd' => ?_⟩
              rw [hd] at hd'
              cases hd'
              exact hlen
          · apply Exec.post_ofExcept
            exact fun e he => .inl ⟨e, rfl, rfl, fun _ => validate_expected he⟩
        · exact fun _ => .inl ⟨_, rfl, rfl, fun _ => expected_rejected _⟩
      · exact fun _ => .inl ⟨_, rfl, rfl, fun _ => expected_value _⟩
  · exact fun _ => .inl ⟨_, rfl, rfl, fun _ => expected_rejected _⟩

/-- The save command is taken at any value. -/
theorem writeSdo_saveCommand (b : UInt8) (s : Copley F ρ) : (writeSdo Key.parameterSaveCommand [b]).Runs s := by
  obtain ⟨od', hod'⟩ := bridgeWriteSdo_saveCommand s.od b
  refine ⟨(), ?_⟩
  unfold writeSdo
  have hwritable : (Exec.require (Key.parameterSaveCommand ∈ writable) (unsupportedWrite Key.parameterSaveCommand) :
      PyM (Copley F ρ) Unit) s = (.ok (), s) := rfl
  rw [Exec.run_bind_ok hwritable, show definition Key.parameterSaveCommand = some ⟨.uint8, .rw, 0, false⟩ from rfl]
  dsimp only
  obtain ⟨v, hv⟩ := decodeOdValue_ok (F := F) (show [b].length = DataType.uint8.size from rfl)
  rw [hv]
  have hvalid : validate Key.parameterSaveCommand.1 v = .ok () := rfl
  have hlength : (Exec.require ([b].length = DataType.uint8.size) (valueError "SDO length mismatch") :
      PyM (Copley F ρ) Unit) s = (.ok (), s) := rfl
  have hreset : (Exec.require (¬ (Key.parameterSaveCommand = Key.deviceResetCommand ∧ !v.same (.int 0)))
      restartUnsupported : PyM (Copley F ρ) Unit) s = (.ok (), s) := by
    rw [Exec.require, if_pos fun h => absurd h.1 (by decide)]
    rfl
  rw [Exec.run_bind_ok hlength, Exec.run_ofExcept_bind]
  dsimp only
  rw [Exec.run_bind_ok hreset, hvalid, Exec.run_ofExcept_bind]
  dsimp only
  rw [Exec.run_bind_ok (Exec.run_get s), Exec.run_ofExcept_bind, hod']
  rfl

theorem readInputs_eq (s : Copley F ρ) : readInputs s = (odToTxpdoPayload s.od, s) := Exec.run_ofExcept _ s

theorem readSdo_eq (key : Key) (_size : Nat) (s : Copley F ρ) : readSdo key s = (bridgeReadSdo s.od key, s) :=
  Exec.run_ofExcept _ s

def odAccess (R : Runner F ρ) : OdAccess (copley R) where
  od := Copley.od
  readInputs := readInputs_eq
  readSdo := readSdo_eq
  writeSdo := writeSdo_access
  saveCommand := writeSdo_saveCommand
  odRead _ _ := rfl
  odWriteRole key v s := ⟨{ s with od := s.od.write key v }, rfl, rfl⟩
  validateParameters s := congrArg Prod.snd (Exec.run_ofExcept _ s)

/-! What decoding gives and the FMU's outputs have, every call keeps. -/

section Meets

variable {R : Runner F ρ} {P : Key → Definition → Value F → Prop}

/-- What `_refresh` writes. -/
def refreshed : List Key := [
  Key.statusword, Key.modeOfOperationDisplay, Key.actualPosition, Key.actualTorque, Key.actualVelocity]

/-- The values have the property after if they had it before. -/
abbrev KeepsMeets (P : Key → Definition → Value F → Prop) : Copley F ρ → Copley F ρ → Prop :=
  Exec.Preserves fun s => s.od.Meets P

omit [PyFloat F] in
theorem onRunner_meets {α : Type} (x : PyM ρ α) : (onRunner x).Keeps (KeepsMeets (F := F) P) := fun _ h => h

omit [PyFloat F] in
theorem write_meets {key : Key} {n : Int} (h : ∀ d, definition key = some d → P key d (.int n)) :
    (write key (.int n)).Keeps (KeepsMeets (ρ := ρ) P) := fun _ hs => hs.write key _ h

theorem refresh_meets (h : ∀ key ∈ refreshed, ∀ d n, definition key = some d → P key d (.int n)) :
    (refresh R).Keeps (KeepsMeets P) := by
  have hwrite (key : Key) (hkey : key ∈ refreshed) (n : Int) :
      (write key (.int n)).Keeps (KeepsMeets (ρ := ρ) P) := write_meets fun d => h key hkey d n
  refine .bind (onRunner_meets _) fun _ => .bind (hwrite _ (by decide) _) fun _ => ?_
  refine .bind (onRunner_meets _) fun _ => .bind (hwrite _ (by decide) _) fun _ => ?_
  refine .bind (onRunner_meets _) fun _ => .bind (hwrite _ (by decide) _) fun _ => ?_
  refine .bind (onRunner_meets _) fun _ => .bind (hwrite _ (by decide) _) fun _ => ?_
  refine .bind (onRunner_meets _) fun _ => .bind Exec.keeps_get fun _ => ?_
  exact .bind (Exec.keeps_ofExcept _) fun _ => hwrite _ (by decide) _

/-- What the start of the adapter writes. -/
def initialised : List Key :=
  refreshed ++ [Key.modeOfOperation, Key.profileVelocity, Key.profileAcceleration, Key.profileDeceleration]

theorem initialise_meets (h : ∀ key ∈ initialised, ∀ d n, definition key = some d → P key d (.int n)) :
    (initialise R).Keeps (KeepsMeets P) := by
  have hwrite (key : Key) (hkey : key ∈ initialised) (n : Int) :
      (write key (.int n)).Keeps (KeepsMeets (ρ := ρ) P) := write_meets fun d => h key hkey d n
  refine .bind Exec.keeps_get fun _ => .bind (onRunner_meets _) fun _ => ?_
  refine .bind (Exec.keeps_ofExcept _) fun _ => .bind (hwrite _ (by decide) _) fun _ => ?_
  refine .bind (onRunner_meets _) fun _ => .bind (Exec.keeps_ofExcept _) fun _ => ?_
  refine .bind (hwrite _ (by decide) _) fun _ => .bind (hwrite _ (by decide) _) fun _ => ?_
  exact refresh_meets fun key hkey => h key (List.mem_append_left _ hkey)

theorem construct_meets (h : ∀ key ∈ initialised, ∀ d n, definition key = some d → P key d (.int n))
    {mode : AxisMode} (hmode : (Od.configured mode : Od F).Meets P) {runner : ρ} {s : Copley F ρ}
    (hconstruct : construct R mode runner = .ok s) : s.od.Meets P := by
  have hconfigured : (configured mode runner : Copley F ρ).od.Meets P :=
    (hmode.write _ _ fun d => h Key.modeOfOperation (by decide) d 1).write _ _ fun d =>
      h Key.modeOfOperationDisplay (by decide) d 1
  have hinitialised := initialise_meets (R := R) h _ hconfigured
  unfold construct at hconstruct
  generalize initialise R (configured mode runner) = p at hconstruct hinitialised
  obtain ⟨r, s'⟩ := p
  cases r with
  | error e => cases hconstruct
  | ok _ =>
    cases hconstruct
    exact hinitialised

omit [PyFloat F] in
theorem setAll_meets (settings : List (Setting F)) : (setAll R settings).Keeps (KeepsMeets P) := by
  induction settings with
  | nil => exact Exec.keeps_pure _
  | cons setting rest ih => exact .bind (onRunner_meets _) fun _ => ih

theorem subSteps_meets (fuel : Nat) : (subSteps R fuel).Keeps (KeepsMeets P) := by
  induction fuel with
  | zero => exact Exec.keeps_raise _
  | succ fuel ih =>
    refine .bind Exec.keeps_get fun _ => .when _ (.bind (onRunner_meets _) fun _ => ?_)
    exact .bind (fun _ h => h) fun _ => ih

theorem modelCalls_meets (hP : Takes P)
    (hinputs : ∀ payload, (rxpdoPayloadToOd payload : PyM (Od F) Unit).Keeps (Exec.Preserves fun od => od.Meets P))
    (houtcome : ∀ kn ∈ Axis.saveOutcome, ∀ d, definition kn.1 = some d → P kn.1 d (.int kn.2))
    (hrefresh : ∀ key ∈ refreshed, ∀ d n, definition key = some d → P key d (.int n)) :
    Axis.ModelCalls (copley R) (KeepsMeets P) where
  toSdoCalls := (odAccess R).sdoCalls hP houtcome
  applyOutputs payload s hs := by
    change (applyOutputs payload).Post s fun _ s' => s'.od.Meets P
    apply Exec.post_require_bind
    · intro _
      apply Exec.Post.bind
      · apply Exec.post_ofExcept
        intro _ _
        apply Exec.post_zoom
        exact hinputs payload _ hs
      · apply Exec.post_ofExcept
        exact fun _ _ => hs
    · exact fun _ => hs
  step dt := by
    refine .bind (Exec.keeps_require _ _) fun _ => .bind Exec.keeps_get fun _ => ?_
    refine .bind (Exec.keeps_require _ _) fun _ => .bind (Exec.keeps_require _ _) fun _ => ?_
    refine .bind (Exec.keeps_ofExcept _) fun _ => .bind (setAll_meets _) fun _ => ?_
    exact .bind (fun _ h => h) fun _ => .bind (subSteps_meets _) fun _ => refresh_meets hrefresh
  readInputs s hs := by
    rw [(odAccess R).readInputs]
    exact hs

end Meets

end Copley

end EthercatSimulator.Adapter
