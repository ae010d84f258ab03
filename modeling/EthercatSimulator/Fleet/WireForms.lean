import EthercatSimulator.FKr.WireForms
import EthercatSimulator.Fleet.Drive
import EthercatSimulator.Runtime.Run

/-! As long as no fault is latched, every object of an axis has a wire form. -/

namespace EthercatSimulator.Fleet

open Base Profile Diagnostics Behaviour Adapter Storage EthercatSimulator.Runtime

variable {F σ ρ : Type} [PyFloat F]

/-- A drive whose objects live in one dictionary, which restored values are written to. -/
structure OdDrive (D : Drive F σ) extends OdAccess D.adapter where
  write : ∀ key v s, od (D.access.write key v s) = (od s).write key v

def fKrOd (F : Type) [PyFloat F] : OdDrive (fKrDrive F) where
  toOdAccess := FKrCmmt.odAccess F
  write _ _ _ := rfl

def copleyOd (R : Runner F ρ) : OdDrive (copleyDrive R) where
  toOdAccess := Copley.odAccess R
  write _ _ _ := rfl

/-- Mapped in the process data that goes out. -/
def Shown (key : Key) : Prop := ∃ t default, .mapped key t default ∈ txpdoObjects

theorem shown_iff {key : Key} : Shown key ↔ key ∈ [Key.statusword, Key.modeOfOperationDisplay, Key.actualPosition,
    Key.actualVelocity, Key.actualTorque] := by
  simp [Shown, txpdoObjects, exists_or]

instance : DecidablePred Shown := fun _ => decidable_of_iff' _ shown_iff

/-- The outcome of a save is not shown. -/
theorem saveOutcome_hidden : ∀ kn ∈ Axis.saveOutcome, ¬ Shown kn.1 := by decide

/-- The values of the objects that `free` leaves have a wire form. -/
def EncodableBut (free : Key → Prop) (key : Key) (d : Definition) (v : Value F) : Prop :=
  ¬ free key → Encodable d.dataType v

theorem decodes_encodable (free : Key → Prop) : Decodes (EncodableBut (F := F) free) :=
  fun _ _ _ _ _ hv _ => (fits_of_decode hv).encodable

theorem saveOutcome_encodable (free : Key → Prop) : ∀ kn ∈ Axis.saveOutcome, ∀ d, definition kn.1 = some d →
    EncodableBut (F := F) free kn.1 d (.int kn.2) := by
  intro kn hkn d hd _
  have hrange : ∀ kn ∈ Axis.saveOutcome, ∀ d ∈ definition kn.1,
      d.dataType ≠ .float32 ∧ d.dataType.low ≤ kn.2 ∧ kn.2 ≤ d.dataType.high := by decide
  obtain ⟨ht, hlow, hhigh⟩ := hrange kn hkn d hd
  exact (fits_int ht hlow hhigh).encodable

/-- What went out has a wire form. -/
theorem shown_encodable {od : Od F} {output : Bytes} (h : odToTxpdoPayload od = .ok output) :
    od.Meets (EncodableBut fun key => ¬ Shown key) := by
  intro key d hd hshown
  obtain ⟨t, default, hmem⟩ := not_not.mp hshown
  have hdeclared : (definition key).map (·.dataType) = some t := txpdoObjects_declared _ hmem
  rw [hd] at hdeclared
  cases hdeclared
  exact encodable_of_objects h hmem

section Axis

variable {D : Drive F σ} {format : Format} {device : Device} {m : Moment F} {a b : Axis F σ} {request : Request}

/-- A model that was opened had every entry read, and its first inputs. -/
theorem opened_encodable (h : OdDrive D) {s s' : σ} {initial : Bytes}
    (hrun : openModel D.adapter s = (.ok initial, s')) :
    (h.od s').Meets (EncodableBut fun _ => False) ∧ odToTxpdoPayload (h.od s') = .ok initial := by
  have hentries (entries : List (Key × Definition)) : (readEntries D.adapter entries).Post s fun r s' =>
      s' = s ∧ (r = .ok () → ∀ kd ∈ entries, ∃ raw, bridgeReadSdo (h.od s) kd.1 = .ok raw) := by
    induction entries with
    | nil => exact ⟨rfl, fun _ => nofun⟩
    | cons kd rest ih =>
      have hread : (D.adapter.readSdo kd.1 kd.2.dataType.size).Post s fun r s' =>
          r = bridgeReadSdo (h.od s) kd.1 ∧ s' = s := by
        unfold Exec.Post
        rw [h.readSdo]
        exact ⟨rfl, rfl⟩
      apply Exec.Post.bind
      · refine hread.mono ?_
        rintro _ _ ⟨rfl, rfl⟩ raw hraw
        refine ih.mono fun _ _ ⟨hs, hrest⟩ => ⟨hs, fun hok kd' hkd' => ?_⟩
        rcases List.mem_cons.mp hkd' with rfl | hkd'
        · exact ⟨raw, hraw⟩
        · exact hrest hok kd' hkd'
      · refine hread.mono ?_
        rintro _ _ ⟨rfl, rfl⟩ e _
        exact ⟨rfl, nofun⟩
  obtain ⟨_, s₁, hread, hinputs⟩ := Exec.run_bind_eq_ok.mp hrun
  have hread' := hentries definitions
  unfold Exec.Post at hread'
  rw [hread] at hread'
  obtain ⟨rfl, hall⟩ := hread'
  rw [h.readInputs] at hinputs
  obtain ⟨houtput, rfl⟩ := Prod.mk.inj hinputs
  refine ⟨fun key d hd _ => ?_, houtput⟩
  obtain ⟨raw, hraw⟩ := hall rfl _ (mem_definitions hd)
  unfold bridgeReadSdo at hraw
  rw [hd] at hraw
  exact ⟨raw, hraw⟩

/-- A request whose answer the guard accepts has the shown values read after all else. -/
theorem modelled_shown (h : OdAccess D.adapter) (hv : b.faultState.Valid)
    (ha : a.faultState.fault = none → (h.od a.adapter).Meets (EncodableBut fun key => ¬ Shown key))
    (hm : Axis.Modelled D.adapter m a request b) (hb : b.faultState.fault = none) :
    (h.od b.adapter).Meets (EncodableBut fun key => ¬ Shown key) := by
  have hread {s : σ} {r : Except Exc Bytes} {s' : σ} (hrun : D.adapter.readInputs s = (r, s')) :
      r = odToTxpdoPayload (h.od s') := by
    rw [h.readInputs] at hrun
    obtain ⟨rfl, rfl⟩ := Prod.mk.inj hrun
    rfl
  cases hm with
  | restart restart =>
    rw [hv.restart_of_fault_none hb] at restart
    cases restart
  | refused g₁ detail _ _ detected =>
    exact (g₁.detect_fault _ _ _ _ (detected ▸ hb)).elim
  | rejected payload frame resetting g₁ disabling dt e _ _ detected =>
    exact (g₁.detect_fault _ _ _ _ (detected ▸ hb)).elim
  | unread e _ _ _ detected =>
    exact (a.faultState.detect_fault _ _ _ _ (detected ▸ hb)).elim
  | held adapter entered =>
    rw [adapter]
    refine ha ?_
    by_contra hne
    exact entered.toKept.fault_iff.mpr hne hb
  | executed payload frame resetting g₁ disabling dt output ran =>
    obtain ⟨_, s₁, _, hcycle⟩ := Exec.run_bind_eq_ok.mp ran.run
    obtain ⟨_, s₂, _, hstep⟩ := Exec.run_bind_eq_ok.mp hcycle
    obtain ⟨_, s₃, _, hinputs⟩ := Exec.run_bind_eq_ok.mp hstep
    exact shown_encodable (hread hinputs).symm
  | polled output _ _ run => exact shown_encodable (hread run).symm

theorem restored_meets (h : OdDrive D) {P : Key → Definition → Value F → Prop} (hP : Decodes P)
    (houtcome : ∀ kn ∈ Axis.saveOutcome, ∀ d, definition kn.1 = some d → P kn.1 d (.int kn.2))
    {files : Base.Files String UInt8} {found : Bool} {s s' : σ}
    (hload : load format device D.adapter D.access files s = (.ok found, s')) (hs : (h.od s).Meets P) :
    (h.od s').Meets P := by
  have hkept := @load_keeps F σ _ format device D.adapter D.access _ (h.sdoCalls hP.takes houtcome)
    (fun key d payload v s hd hv hs => ?_) files s
  · rw [hload] at hkept
    exact hkept hs
  · rw [h.write]
    exact hs.decoded hP hd hv

/-- What an axis shows has a wire form, as long as nothing is latched. -/
theorem reachable_shown (h : OdDrive D) (ha : D.Reachable format device a) :
    a.faultState.Valid ∧ (a.faultState.fault = none →
      (h.od a.adapter).Meets (EncodableBut fun key => ¬ Shown key)) := by
  have hdecodes := decodes_encodable (F := F) fun key => ¬ Shown key
  have houtcome := saveOutcome_encodable (F := F) fun key => ¬ Shown key
  induction ha with
  | opened slaveIndex _ run =>
    exact ⟨Axis.start_valid .., fun _ key d hd _ => (opened_encodable h run).1 key d hd id⟩
  | restored slaveIndex _ run loaded =>
    exact ⟨Axis.start_valid .., fun _ => restored_meets h hdecodes houtcome loaded fun key d hd _ =>
      (opened_encodable h run).1 key d hd id⟩
  | @dispatched a m request _ ih =>
    obtain ⟨hv, hshown⟩ := ih
    have hv' := Axis.dispatch_valid (A := D.adapter) m request a hv
    refine ⟨hv', fun hfault => ?_⟩
    cases hreq : request.isProcessData with
    | true =>
      have hmodelled := Axis.dispatch_modelled (A := D.adapter) (m := m) hreq hv
      exact modelled_shown (a := { a with calls := [] }) h.toOdAccess hv' hshown hmodelled hfault
    | false =>
      have hout := (Axis.dispatch_sdo (A := D.adapter) (m := m) hreq a).outcome
      have hkept := Axis.dispatch_sdoCalls (m := m) (a := a) (h.sdoCalls hdecodes.takes houtcome) hreq
      generalize (Axis.dispatch D.adapter m request a).2.faultState = g at hout hfault
      cases hout with
      | kept => exact hkept (hshown hfault)
      | failed => exact (AxisFault.detect_fault _ _ _ _ _ hfault).elim

end Axis

/-- Nothing latched, all that an SDO request reads has a wire form. -/
structure Readable (od : Od F) : Prop where
  values : ∀ key d, definition key = some d → Encodable d.dataType (od key)
  saveCommand : ∃ n, od Key.parameterSaveCommand = .int n

/-! The virtual servo. -/

section FKr

variable {format : Format} {device : Device} {a : Axis F (Servo F)}

theorem fKr_sound (ha : (fKrDrive F).Reachable format device a) : a.adapter.od.Sound := by
  refine ha.invariant (P := fun s => s.od.Sound) (fun s s' initial opens run => ?_) FKrCmmt.modelCalls ?_
  · cases opens
    have hkept := openModel_keeps FKrCmmt.modelCalls.readSdo FKrCmmt.modelCalls.readInputs
      (Servo.construct (F := F) device.mode)
    have hs : (Servo.construct device.mode : Servo F).od.Sound := configured_sound device.mode
    rw [show openModel (fKrCmmt F) (Servo.construct device.mode) = _ from run] at hkept
    exact hkept hs
  · intro key d payload v s hd hv hs
    exact hs.write key v fun d' hd' _ => by
      rw [hd] at hd'
      cases hd'
      exact fits_of_decode hv

/-- Restored values come through the codec. -/
theorem load_wired {files : Base.Files String UInt8} {found : Bool} {s s' : Servo F} (hs : s.Wired)
    (hload : load format device (fKrCmmt F) (fKrDrive F).access files s = (.ok found, s')) : s'.Wired := by
  have hkept := @load_keeps F _ _ format device _ (fKrDrive F).access _ FKr.sdoCalls_wired
    (fun key d payload v s hd hv hs => hs.write fun hmotion =>
      FKr.motion_int32 hmotion hd ▸ (fits_of_decode hv).encodable) files s
  rw [hload] at hkept
  exact hkept hs

theorem fKr_wired (ha : (fKrDrive F).Reachable format device a) :
    a.faultState.Valid ∧ (a.faultState.restartRequired = false → a.adapter.Wired) := by
  have hopened {s s' : Servo F} {initial : Bytes} (opens : s = Servo.construct device.mode)
      (hrun : openModel (fKrCmmt F) s = (.ok initial, s')) : s'.Wired := by
    obtain ⟨_, hconstruct⟩ := openModel_fKr (F := F) device.mode
    rw [opens, hconstruct] at hrun
    exact (Prod.mk.inj hrun).2 ▸ Servo.construct_wired device.mode
  induction ha with
  | opened slaveIndex opens run => exact ⟨Axis.start_valid .., fun _ => hopened opens run⟩
  | restored slaveIndex opens run loaded =>
    exact ⟨Axis.start_valid .., fun _ => load_wired (hopened opens run) loaded⟩
  | dispatched m request _ ih =>
    exact ⟨Axis.dispatch_valid m request _ ih.1, FKr.dispatch_wired ih.1 ih.2⟩

theorem fKr_readable (ha : (fKrDrive F).Reachable format device a) (hfault : a.faultState.fault = none) :
    Readable a.adapter.od := by
  have hsound := fKr_sound ha
  obtain ⟨hv, hwired⟩ := fKr_wired ha
  have hmeets := FKr.wired_meets (hwired (hv.restart_of_fault_none hfault))
  refine ⟨fun key d hd => ?_, ⟨_, (hsound.int_range Key.parameterSaveCommand rfl (by simp [Key.isMotion])
    (by decide)).1⟩⟩
  by_cases hmotion : key.isMotion
  · exact FKr.motion_int32 hmotion hd ▸ hmeets key d hd hmotion
  · exact (hsound key d hd hmotion).encodable

end FKr

/-! The adapter of an FMU. -/

section Copley

variable {R : Runner F ρ} {format : Format} {device : Device} {a : Axis F (Copley F ρ)}

theorem refreshed_shown : ∀ key ∈ Copley.refreshed, Shown key := by decide

/-- What the process data does not show has a wire form, whatever is latched. -/
theorem copley_hidden (ha : (copleyDrive R).Reachable format device a) :
    a.adapter.od.Meets (EncodableBut Shown) := by
  refine ha.invariant (P := fun s => s.od.Meets (EncodableBut Shown)) (fun s s' initial _ run => ?_)
    (Copley.modelCalls_meets (decodes_encodable Shown).takes (rxpdoPayloadToOd_meets (decodes_encodable Shown))
      (saveOutcome_encodable Shown) ?_) ?_
  · exact fun key d hd _ => (opened_encodable (copleyOd R) run).1 key d hd id
  · exact fun key hkey _ _ _ hhidden => absurd (refreshed_shown key hkey) hhidden
  · exact fun key d payload v s hd hv hs => hs.decoded (decodes_encodable Shown) hd hv

theorem copley_integral (ha : (copleyDrive R).Reachable format device a) : Copley.Integral a.adapter.od := by
  have hcalls : Axis.ModelCalls (copley R) (Copley.KeepsMeets fun _ d v => d.dataType ≠ .float32 → ∃ n, v = .int n) :=
    Copley.modelCalls_meets Copley.decodes_int.takes (rxpdoPayloadToOd_meets Copley.decodes_int)
      (fun kn _ _ _ _ => ⟨kn.2, rfl⟩) fun _ _ _ n _ _ => ⟨n, rfl⟩
  have hconfigured : Copley.Integral (Od.configured device.mode : Od F) := by
    have hfits : (Od.configured device.mode : Od F).FitsBut fun _ => False := configured_fits device.mode
    exact fun key d hd ht => (hfits key d hd id).int ht
  refine ha.invariant (P := fun s => Copley.Integral s.od) (fun s s' initial opens run => ?_) hcalls ?_
  · obtain ⟨runner, hrunner⟩ := opens
    have hopened := openModel_keeps hcalls.readSdo hcalls.readInputs s
    rw [show openModel (copley R) s = _ from run] at hopened
    exact hopened (Copley.construct_meets (fun _ _ _ n _ _ => ⟨n, rfl⟩) hconfigured hrunner)
  · exact fun key d payload v s hd hv hs => hs.decoded Copley.decodes_int hd hv

theorem copley_readable (ha : (copleyDrive R).Reachable format device a) (hfault : a.faultState.fault = none) :
    Readable a.adapter.od := by
  refine ⟨fun key d hd => ?_, copley_integral ha Key.parameterSaveCommand _ rfl (by decide)⟩
  by_cases hshown : Shown key
  · exact (reachable_shown (copleyOd R) ha).2 hfault key d hd (not_not.mpr hshown)
  · exact copley_hidden ha key d hd hshown

end Copley

end EthercatSimulator.Fleet
