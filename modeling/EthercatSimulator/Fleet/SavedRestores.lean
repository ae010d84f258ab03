import EthercatSimulator.Adapter.UnitLaws
import EthercatSimulator.Fleet.Protocol
import EthercatSimulator.Fleet.StartUp
import EthercatSimulator.Storage.SnapshotLaws

/-! Which saved parameters are loaded again. -/

namespace EthercatSimulator.Fleet

open Base Profile Behaviour Adapter Storage EthercatSimulator.Runtime

variable {F ρ : Type} [PyFloat F] {fmu : Artifact F ρ} {format : Format} {device : Device}

/-! The units of an axis never change. -/

theorem fKr_unconverted {a : Axis F (Servo F)} (ha : (fKrDrive F).Reachable format device a) :
    Unconverted device.mode a.adapter := by
  have hcalls := fKr_units (F := F) device.mode
  refine ha.rule (fun s s' initial opens run => ?_) (fun files found s s' loaded hs => ?_) hcalls
  · cases opens
    have hopened := openModel_keeps hcalls.readSdo hcalls.readInputs (Servo.construct (F := F) device.mode)
    rw [show openModel (fKrCmmt F) (Servo.construct device.mode) = _ from run] at hopened
    exact hopened ⟨rfl, configured_units device.mode⟩
  · have hunits := fKrServes.load_meets takes_units (fun _ _ _ _ _ => decode_unit) loaded hs.units
    refine ⟨?_, hunits⟩
    rcases fKrServes.load_ok loaded with rfl | ⟨text, decoded, _, rfl⟩
    · exact hs.axisMode
    · exact writeDecoded_keeps (Q := fun s : Servo F => s.axisMode = device.mode) (fun _ _ _ h => h) hs.axisMode

theorem copley_unconverted {R : Runner F ρ} {a : Axis F (Copley F ρ)}
    (ha : (copleyDrive R).Reachable format device a) : a.adapter.od.Meets (HasUnits device.mode) := by
  have hcalls := copley_units R device.mode
  refine ha.rule (P := fun s => s.od.Meets (HasUnits device.mode)) (fun s s' initial opens run => ?_)
    (fun files found s s' loaded hs => ?_) hcalls
  · obtain ⟨runner, hrunner⟩ := opens
    have hopened := openModel_keeps hcalls.readSdo hcalls.readInputs s
    rw [show openModel (copley R) s = _ from run] at hopened
    exact hopened (construct_units hrunner)
  · exact (copleyServes R).load_meets takes_units (fun _ _ _ _ _ => decode_unit) loaded hs

/-! The parameters of an axis, for every drive of the registry. -/

section Registry

variable {type : ModelType} {a : Axis F (AdapterState F ρ type)}

theorem registry_units (ha : (registry fmu type).Reachable format device a) :
    ((registryServes fmu type).od a.adapter).Meets (HasUnits device.mode) := by
  cases type with
  | fKrCmmt => exact (fKr_unconverted ha).units
  | copleyDriveSim => exact copley_unconverted ha

theorem readonly_units (fmu : Artifact F ρ) (type : ModelType) :
    ∀ key ∈ (registry fmu type).adapter.persistentRoles, ∀ d, definition key = some d →
      d.access = .ro → key ∈ unitKeys := by
  have hfKr : ∀ key ∈ Profile.persistentRoles ++ [Key.profileVelocity], ∀ d ∈ definition key,
      d.access = .ro → key ∈ unitKeys := by decide
  have hcopley : ∀ key ∈ Copley.persistentRoles, ∀ d ∈ definition key, d.access = .ro → key ∈ unitKeys := by decide
  cases type with
  | fKrCmmt => exact hfKr
  | copleyDriveSim => exact hcopley

/-- Only one of the parameters is a float. -/
theorem float_negativeVelocityLimit (fmu : Artifact F ρ) (type : ModelType) :
    ∀ key ∈ (registry fmu type).adapter.persistentRoles, ∀ d, definition key = some d →
      (d.dataType = .float32 ↔ key = Key.negativeVelocityLimit) := by
  have hfKr : ∀ key ∈ Profile.persistentRoles ++ [Key.profileVelocity], ∀ d ∈ definition key,
      (d.dataType = .float32 ↔ key = Key.negativeVelocityLimit) := by decide
  have hcopley : ∀ key ∈ Copley.persistentRoles, ∀ d ∈ definition key,
      (d.dataType = .float32 ↔ key = Key.negativeVelocityLimit) := by decide
  cases type with
  | fKrCmmt => exact hfKr
  | copleyDriveSim => exact hcopley

/-- Where a drive checks its parameters, they are integers, which are read as they are. -/
theorem registry_valid (ha : (registry fmu type).Reachable format device a) {values : List (Key × Bytes)}
    (hsaved : (savedValues (registry fmu type).adapter a.adapter).1 = .ok values) {decoded : List (Key × Value F)}
    (hkeys : decoded.map Prod.fst = (registry fmu type).adapter.persistentRoles)
    (hreread : ∀ kv ∈ decoded, Reread ((registryServes fmu type).od a.adapter) kv) :
    (registry fmu type).access.validate decoded = .ok () := by
  cases type with
  | fKrCmmt => rfl
  | copleyDriveSim =>
    have hintegers := copley_integral ha
    have hfloat : ∀ key ∈ Copley.persistentRoles, ∀ d ∈ definition key, d.dataType ≠ .float32 := by decide
    have hsame : ∀ kv ∈ decoded, (kv.1, a.adapter.od.read kv.1) = kv := by
      intro kv hkv
      obtain ⟨d, raw, hd, hread, hdecode⟩ := hreread kv hkv
      have hrole : kv.1 ∈ decoded.map Prod.fst := List.mem_map_of_mem (f := Prod.fst) hkv
      rw [hkeys] at hrole
      have ht := hfloat kv.1 hrole d hd
      obtain ⟨n, hn⟩ := hintegers kv.1 d hd ht
      obtain ⟨d', hd', hencode⟩ := bridgeReadSdo_ok.mp hread
      obtain rfl : d = d' := Option.some.inj (hd.symm.trans hd')
      have hvalue : a.adapter.od.read kv.1 = .int n := hn
      change encodeOdValue d.dataType (a.adapter.od.read kv.1) = _ at hencode
      rw [hvalue] at hencode ⊢
      exact Prod.ext rfl (Except.ok.inj ((decode_of_encode ht hencode).symm.trans hdecode))
    have hdecoded : Copley.persistentRoles.map (fun key => (key, a.adapter.od.read key)) = decoded := by
      rw [← show _ = Copley.persistentRoles from hkeys, List.map_map]
      exact (List.map_congr_left hsame).trans (List.map_id decoded)
    have hvalid := ((registryServes fmu .copleyDriveSim).saved_valid hsaved).1
    rw [← hdecoded]
    exact hvalid

theorem opens_createAdapter {adapter : AdapterState F ρ type}
    (h : createAdapter fmu device.mode type = .ok adapter) : (registry fmu type).Opens device.mode adapter := by
  cases type with
  | fKrCmmt => exact (Except.ok.inj h).symm
  | copleyDriveSim =>
    obtain ⟨runner, _, hrunner⟩ := bind_ok.mp h
    exact ⟨runner, hrunner⟩

/-- A model as it is opened. -/
theorem init_ok {fmus : Device → Artifact F ρ} {m : Model F ρ} (h : Model.init fmus device = .ok m) :
    ∃ (adapter adapter' : AdapterState F ρ device.modelType) (initial : Bytes), m = ⟨device, adapter'⟩ ∧
      (registry (fmus device) device.modelType).Opens device.mode adapter ∧
      openModel (registry (fmus device) device.modelType).adapter adapter = (.ok initial, adapter') := by
  obtain ⟨adapter, hcreate, h⟩ := bind_ok.mp h
  cases hrun : openModel (registry (fmus device) device.modelType).adapter adapter with
  | mk r adapter' =>
    rw [hrun] at h
    cases r with
    | error e => cases h
    | ok initial => exact ⟨adapter, adapter', initial, (Except.ok.inj h).symm, opens_createAdapter hcreate, hrun⟩

theorem opened_read {fmu : Artifact F ρ} {s s' : AdapterState F ρ type} {initial : Bytes}
    (hrun : openModel (registry fmu type).adapter s = (.ok initial, s')) :
    ∃ expected, valuesOf ((registryServes fmu type).od s') (registry fmu type).adapter.persistentRoles = .ok expected := by
  have hencodable := (opened_encodable (registryOd fmu type) hrun).1
  refine exists_valuesOf fun key hkey => ?_
  obtain ⟨d, hd⟩ := Option.isSome_iff_exists.mp ((registryServes fmu type).defined key hkey)
  obtain ⟨raw, hraw⟩ := hencodable key d hd id
  refine ⟨raw, bridgeReadSdo_ok.mpr ⟨d, hd, ?_⟩⟩
  cases type with
  | fKrCmmt => exact hraw
  | copleyDriveSim => exact hraw

end Registry

/-- A snapshot decodes and loads, or neither. -/
theorem load_found_iff {fmus : Device → Artifact F ρ} {m : Model F ρ} {files : Files String UInt8} {text : Bytes}
    (hfile : files m.device.path = some text) :
    ((m.load fmus format files).1 = .ok true ↔ ∃ decoded, decodeSnapshot format m.device (m.drive fmus).adapter
      (m.drive fmus).access ((m.serves fmus).od m.adapter) text = .ok decoded) ∧
    ((m.load fmus format files).1 = .ok true ∨ ∃ e, (m.load fmus format files).1 = .error e) := by
  rw [Model.load_found hfile]
  cases decodeSnapshot format m.device (m.drive fmus).adapter (m.drive fmus).access ((m.serves fmus).od m.adapter) text with
  | ok decoded => exact ⟨iff_of_true rfl ⟨decoded, rfl⟩, .inl rfl⟩
  | error e => exact ⟨iff_of_false nofun (fun ⟨_, h⟩ => nomatch h), .inr ⟨e, rfl⟩⟩

/-- A save that succeeds is loaded by a model of the same device that is opened, unless the velocity limit that
it holds is a NaN or an infinity; then the model has the saved parameters.  Otherwise the load raises, and so
does the start of a fleet with the device. -/
theorem saved_restores (fmus : Device → Artifact F ρ) (env : Surroundings) {model : HostAxis F ρ}
    (hmodel : model.Reachable fmus env.format) {disk : Disk} {v v' : Volume}
    (hsave : env.store.save env.format model.device disk (registry (fmus model.device) model.device.modelType).adapter
      model.axis.adapter v = (.ok (), v'))
    (hformat : ∀ values, (savedValues (registry (fmus model.device) model.device.modelType).adapter
      model.axis.adapter).1 = .ok values → env.ReadsBack model.device values)
    {fresh : Model F ρ} (hfresh : Model.init fmus model.device = .ok fresh) :
    ∃ values, (Runtime.parameterValues (registry (fmus model.device) model.device.modelType).adapter
        model.axis.adapter).1 = .ok values ∧
      let loaded := fresh.load fmus env.format v'.files
      (loaded.1 = .ok true ↔ ∀ raw, (Key.negativeVelocityLimit, raw) ∈ values →
        finite32 (BitVec.ofNat 32 (leNat raw)) = true) ∧
      (loaded.1 = .ok true → loaded.2.parameterValues fmus = .ok values) ∧
      (loaded.1 ≠ .ok true → loaded.2 = fresh ∧ ∀ config : Configuration, model.device ∈ config.devices →
        ∃ e, construct fmus env config v' = (.error e, v')) := by
  obtain ⟨values, hsaved, _, hfile, _⟩ := ParameterStore.saveValues_ok hsave
  obtain ⟨adapter, opened, initial, rfl, hopens, hrun⟩ := init_ok hfresh
  set serves := registryServes (fmus model.device) model.device.modelType
  obtain ⟨_, hread⟩ := serves.saved_valid hsaved
  obtain ⟨expected, hexpected⟩ := opened_read hrun
  have hparse : env.ReadsBack model.device values := hformat values hsaved
  have hroles : values.map Prod.fst = (registry (fmus model.device) model.device.modelType).adapter.persistentRoles :=
    (valuesOf_ok.mp hread).1
  have hstart : (registry (fmus model.device) model.device.modelType).Reachable env.format model.device
      (Axis.start 0 opened initial false) := .opened 0 hopens hrun
  have hunits : ∀ key ∈ (registry (fmus model.device) model.device.modelType).adapter.persistentRoles, ∀ d,
      definition key = some d → d.access = .ro → serves.od opened key = serves.od model.axis.adapter key := by
    intro key hkey d hd hro
    have hunit := readonly_units (fmus model.device) model.device.modelType key hkey d hd hro
    exact (registry_units hstart key d hd hunit).trans (registry_units hmodel key d hd hunit).symm
  have hloads := decodeSnapshot_snapshot serves hread hexpected hunits (fun decoded => registry_valid hmodel hsaved) hparse
  have hfinite : (∀ kv ∈ values, FiniteValue kv) ↔ ∀ raw, (Key.negativeVelocityLimit, raw) ∈ values →
      finite32 (BitVec.ofNat 32 (leNat raw)) = true := by
    constructor
    · exact fun h raw hraw => h _ hraw _ rfl rfl
    · rintro h ⟨key, raw⟩ hkv d hd ht
      have hrole : key ∈ values.map Prod.fst := List.mem_map_of_mem (f := Prod.fst) hkv
      rw [hroles] at hrole
      obtain rfl : key = Key.negativeVelocityLimit :=
        (float_negativeVelocityLimit (fmus model.device) model.device.modelType key hrole d hd).mp ht
      exact h raw hkv
  obtain ⟨hloaded, houtcome⟩ := @load_found_iff F ρ _ env.format fmus ⟨model.device, opened⟩ v'.files _ hfile
  refine ⟨values, ?_, (hloaded.trans hloads).trans hfinite, fun hok => ?_, fun hraised => ?_⟩
  · rw [serves.parameterValues]
    exact hread
  · -- What is read of the model is what the snapshot holds.
    have hnodup : (values.map fun kv => keyText kv.1).Nodup := by
      have hnodup := serves.nodup
      rwa [← hroles, List.map_map] at hnodup
    obtain ⟨hfalse, _⟩ | ⟨_, text, saved, htext, hsavedRead, hparameters⟩ := Model.load_parameters (Prod.ext hok rfl)
    · cases hfalse
    · have hsame : text = env.format.dump (snapshot env.format model.device values) :=
        Option.some.inj (htext.symm.trans hfile)
      have hvalues := parameters_snapshot hnodup hparse
      rw [hroles, ← hsame] at hvalues
      rw [hsavedRead, Option.some.inj (hparameters.symm.trans hvalues)]
  · obtain ⟨e, he⟩ := houtcome.resolve_left hraised
    exact ⟨Model.load_error he, fun config hdevice => construct_error hdevice hfresh he⟩

/-! The axis of the empty store. -/

theorem readsBack_opened : sparing.ReadsBack axisDevice openedValues := by
  have hdocument : snapshot sparing.format axisDevice openedValues = openedSnapshot := rfl
  unfold Surroundings.ReadsBack
  rw [hdocument]
  unfold sparing openedFormat
  dsimp only
  rw [if_pos rfl]

theorem save_opened : (sparing.store.save sparing.format axisDevice (sparing.disk axisDevice) (fKrCmmt ExtRat)
    (Servo.construct .linear) ⟨fun _ => none, []⟩).1 = .ok () := by
  obtain ⟨steps, content, htrace⟩ := sparing.store.saveValues_trace sparing.format axisDevice
    (sparing.disk axisDevice) (savedValues (fKrCmmt ExtRat) (Servo.construct .linear)).1 ⟨fun _ => none, []⟩
  have hreplaces : (sparing.disk axisDevice).Replaces (fun _ => none) axisDevice.path := by decide
  have hreplacement := (sparing.store.replacement_eq_some sparing.format axisDevice (sparing.disk axisDevice) _).mpr
    ⟨rfl, hreplaces, openedValues, savedValues_opened, rfl⟩
  exact htrace.result.mpr ⟨Option.ne_none_iff_exists'.mpr ⟨_, hreplacement⟩, by decide⟩

theorem saved_restores_opened : ∃ v',
    sparing.store.save sparing.format axisDevice (sparing.disk axisDevice) (fKrCmmt ExtRat) (Servo.construct .linear)
      ⟨fun _ => none, []⟩ = (.ok (), v') ∧
    (axisModel.load noFmu sparing.format v'.files).1 = .ok true ∧
    (axisModel.load noFmu sparing.format v'.files).2.parameterValues noFmu = .ok openedValues := by
  obtain ⟨initial, hopen⟩ := openModel_fKr (F := ExtRat) .linear
  let model : HostAxis ExtRat Unit := ⟨axisDevice, Axis.start 0 (Servo.construct .linear : Servo ExtRat) initial false⟩
  have hmodel : model.Reachable noFmu sparing.format := .opened (D := fKrDrive ExtRat) 0 rfl hopen
  have hformat : ∀ values, (savedValues (fKrCmmt ExtRat) (Servo.construct .linear)).1 = .ok values →
      sparing.ReadsBack axisDevice values := by
    intro values hvalues
    cases savedValues_opened.symm.trans hvalues
    exact readsBack_opened
  obtain ⟨v', hsave⟩ : ∃ v', sparing.store.save sparing.format axisDevice (sparing.disk axisDevice) (fKrCmmt ExtRat)
      (Servo.construct .linear) ⟨fun _ => none, []⟩ = (.ok (), v') := ⟨_, Prod.ext save_opened rfl⟩
  obtain ⟨values, hread, hloads, hsame, _⟩ := saved_restores noFmu sparing hmodel hsave hformat init_axis
  have hvalues : openedValues = values := by
    have hopened := (fKrServes.saved_valid savedValues_opened).2
    have hparameters : (Runtime.parameterValues (fKrCmmt ExtRat) (Servo.construct .linear)).1 = .ok values := hread
    rw [fKrServes.parameterValues] at hparameters
    exact Except.ok.inj (hopened.symm.trans hparameters)
  subst hvalues
  have hfinite : ∀ kv ∈ openedValues, kv.1 = Key.negativeVelocityLimit →
      finite32 (BitVec.ofNat 32 (leNat kv.2)) = true := by decide +kernel
  have hok := hloads.mpr fun raw hraw => hfinite _ hraw rfl
  exact ⟨v', hsave, hok, hsame hok⟩

end EthercatSimulator.Fleet
