import EthercatSimulator.Fleet.ModelFleet
import EthercatSimulator.Ipc.Hex
import EthercatSimulator.Storage.CrashRecovery

/-! The start of a fleet is all or nothing: every snapshot is loaded before a missing one is
written. -/

namespace EthercatSimulator.Fleet

open Base Profile Behaviour Adapter Storage Ipc EthercatSimulator.Runtime

variable {F ρ : Type} [PyFloat F] {fmus : Device → Artifact F ρ} {env : Surroundings}

/-! Loading. -/

namespace Model

variable {m : Model F ρ} {format : Format} {files : Files String UInt8}

theorem load_missing (h : files m.device.path = none) : m.load fmus format files = (.ok false, m) := by
  unfold load Storage.load
  rw [h]
  rfl

theorem load_found {text : Bytes} (h : files m.device.path = some text) :
    m.load fmus format files =
      match decodeSnapshot format m.device (m.drive fmus).adapter (m.drive fmus).access
          ((m.serves fmus).od m.adapter) text with
      | .ok decoded => (.ok true, { m with adapter := writeDecoded (m.drive fmus).access decoded m.adapter })
      | .error e => (.error e, m) := by
  unfold load Storage.load
  rw [h, (m.serves fmus).loadFound]
  cases decodeSnapshot format m.device (m.drive fmus).adapter (m.drive fmus).access
    ((m.serves fmus).od m.adapter) text with
  | ok decoded => rfl
  | error e => rfl

theorem load_error {e : Exc} (h : (m.load fmus format files).1 = .error e) :
    (m.load fmus format files).2 = m := by
  cases hfile : files m.device.path with
  | none =>
    rw [load_missing hfile] at h
    cases h
  | some text =>
    rw [load_found hfile] at h ⊢
    split at h
    · cases h
    · rfl

/-- A model that is loaded has the parameters of its file. -/
theorem load_parameters {found : Bool} {m' : Model F ρ} (h : m.load fmus format files = (.ok found, m')) :
    (found = false ∧ files m.device.path = none ∧ m' = m) ∨
      found = true ∧ ∃ text values, files m'.device.path = some text ∧
        m'.parameterValues fmus = .ok values ∧
        format.parameters (m'.drive fmus).adapter.persistentRoles text = some values := by
  cases hfile : files m.device.path with
  | none =>
    rw [load_missing hfile] at h
    cases h
    exact .inl ⟨rfl, rfl, rfl⟩
  | some text =>
    rw [load_found hfile] at h
    split at h
    · rename_i decoded hdecoded
      cases h
      obtain ⟨data, values, expected, hrestored⟩ := decodeSnapshot_ok.mp hdecoded
      obtain ⟨saved, hsaved, hread⟩ := hrestored.parameters (m.serves fmus)
      refine .inr ⟨rfl, text, saved, hfile, ?_, hsaved⟩
      unfold parameterValues
      change (Runtime.parameterValues (m.drive fmus).adapter _).1 = _
      rw [(m.serves fmus).parameterValues, (m.serves fmus).writeDecoded, hread]
    · cases h

theorem init_device {device : Device} (h : init fmus device = .ok m) : m.device = device := by
  unfold init at h
  obtain ⟨adapter, -, h⟩ := bind_ok.mp h
  split at h
  · cases h
    rfl
  · cases h

end Model

/-- Loading leaves the volume as it is, and takes the models one by one. -/
theorem loadAll_eq (models : List (Model F ρ)) (v : Volume) :
    loadAll fmus env models v = (models.mapM fun m => (fun found =>
      ((m.load fmus env.format v.files).2, found)) <$> (m.load fmus env.format v.files).1, v) := by
  induction models with
  | nil => rfl
  | cons m rest ih =>
    change (Exec.ofExcept (m.load fmus env.format v.files).1 >>= fun found => loadAll fmus env rest >>=
      fun others => pure (((m.load fmus env.format v.files).2, found) :: others)) v = _
    rw [List.mapM_cons]
    generalize m.load fmus env.format v.files = r
    obtain ⟨found, m'⟩ := r
    cases found with
    | error e => rfl
    | ok found =>
      refine (Exec.run_bind (loadAll fmus env rest) _ v).trans ?_
      rw [ih]
      generalize (rest.mapM fun m => (fun found =>
        ((m.load fmus env.format v.files).2, found)) <$> (m.load fmus env.format v.files).1) = others
      cases others with
      | error e => rfl
      | ok others => rfl

theorem loadAll_ok {models : List (Model F ρ)} {v v' : Volume} {loaded : List (Model F ρ × Bool)}
    (h : loadAll fmus env models v = (.ok loaded, v')) : v' = v ∧
      List.Forall₂ (fun m mf => m.load fmus env.format v.files = (.ok mf.2, mf.1)) models loaded := by
  rw [loadAll_eq] at h
  obtain ⟨hloaded, rfl⟩ := Prod.mk.inj h
  refine ⟨rfl, (mapM_ok.mp hloaded).imp fun m mf hone => ?_⟩
  cases hload : (m.load fmus env.format v.files).1 with
  | error e =>
    rw [hload] at hone
    cases hone
  | ok found =>
    rw [hload] at hone
    cases hone
    exact Prod.ext hload rfl

/-! Saving. -/

theorem savedValues_ok {m : Model F ρ} {values : List (Key × Bytes)}
    (h : (savedValues (m.drive fmus).adapter m.adapter).1 = .ok values) :
    m.parameterValues fmus = .ok values := by
  rw [(m.serves fmus).savedValues] at h
  split at h
  · exact h
  · cases h

theorem parameterValues_keys {m : Model F ρ} {values : List (Key × Bytes)}
    (h : m.parameterValues fmus = .ok values) :
    values.map Prod.fst = (m.drive fmus).adapter.persistentRoles := by
  unfold Model.parameterValues at h
  rw [(m.serves fmus).parameterValues] at h
  exact (valuesOf_ok.mp h).1

theorem fileName_injective : Function.Injective fileName := fun _ _ h => (String.append_left_inj _).mp h

/-- A snapshot that is missing is written, and no other file is touched. -/
theorem saveAll_ok {models : List (Model F ρ)} {v v' : Volume}
    (hnames : ∀ m ∈ models, isName m.device.parameterSet = true)
    (hdistinct : (models.map (·.device.parameterSet)).Nodup)
    (hmissing : ∀ m ∈ models, v.files m.device.path = none)
    (h : saveAll fmus env models v = (.ok (), v')) :
    (∀ name bytes, v.files name = some bytes → v'.files name = some bytes) ∧
      ∀ m ∈ models, ∃ values, (savedValues (m.drive fmus).adapter m.adapter).1 = .ok values ∧
        v'.files m.device.path = some (env.format.dump (snapshot env.format m.device values)) := by
  induction models generalizing v with
  | nil =>
    cases h
    exact ⟨fun _ _ => id, fun m hm => absurd hm List.not_mem_nil⟩
  | cons m rest ih =>
    obtain ⟨hname, hnames⟩ := List.forall_mem_cons.mp hnames
    obtain ⟨hmiss, hmissing⟩ := List.forall_mem_cons.mp hmissing
    rw [List.map_cons, List.nodup_cons] at hdistinct
    obtain ⟨_, v₁, hsave, hrest⟩ := Exec.run_bind_eq_ok.mp h
    obtain ⟨values, hvalues, hreplaces, hwritten, hother⟩ := ParameterStore.saveValues_ok hsave
    have hkept : ∀ name bytes, v.files name = some bytes → v₁.files name = some bytes := by
      intro name bytes hbytes
      refine (hother name ?_ ?_).trans hbytes
      · rintro rfl
        cases hbytes.symm.trans hreplaces.2.1
      · rintro rfl
        cases hbytes.symm.trans hmiss
    have hmissing₁ : ∀ m' ∈ rest, v₁.files m'.device.path = none := by
      intro m' hm'
      refine (hother _ (fileName_ne_temporaryName (hnames m' hm') _ _) fun hsame => ?_).trans (hmissing m' hm')
      exact hdistinct.1 (List.mem_map.mpr ⟨m', hm', fileName_injective hsame⟩)
    obtain ⟨hkept', hwritten'⟩ := ih hnames hdistinct.2 hmissing₁ hrest
    exact ⟨fun name bytes hbytes => hkept' name bytes (hkept name bytes hbytes),
      List.forall_mem_cons.mpr ⟨⟨values, hvalues, hkept' _ _ hwritten⟩, hwritten'⟩⟩

/-! The start. -/

/-- What a start that succeeds leaves behind. -/
structure Started (fmus : Device → Artifact F ρ) (env : Surroundings) (config : Configuration) (v v' : Volume)
    (models : List (Model F ρ)) : Prop where
  devices : models.map (·.device) = config.devices
  kept : ∀ name bytes, v.files name = some bytes → v'.files name = some bytes
  snapshots : ∀ m ∈ models, ∃ text values, v'.files m.device.path = some text ∧
    m.parameterValues fmus = .ok values ∧
    env.format.parameters (m.drive fmus).adapter.persistentRoles text = some values

/-- The text of a snapshot of these values is read back. -/
def Surroundings.ReadsBack (env : Surroundings) (device : Device) (values : List (Key × Bytes)) : Prop :=
  env.format.parse (env.format.dump (snapshot env.format device values)) =
    .ok (snapshot env.format device values)

theorem construct_error {config : Configuration} {v : Volume} {device : Device} {m : Model F ρ} {e : Exc}
    (hdevice : device ∈ config.devices) (hinit : Model.init fmus device = .ok m)
    (hload : (m.load fmus env.format v.files).1 = .error e) :
    ∃ e', construct fmus env config v = (.error e', v) := by
  unfold construct
  rw [Exec.run_ofExcept_bind]
  cases hmodels : config.devices.mapM (Model.init fmus) with
  | error e => exact ⟨e, rfl⟩
  | ok models =>
    obtain ⟨m', hm', hinit'⟩ := mem_of_mapM hmodels hdevice
    cases hinit.symm.trans hinit'
    match hloaded : loadAll fmus env models v with
    | (.error e', v') =>
      have hstate : (loadAll fmus env models v).2 = v := congrArg Prod.snd (loadAll_eq models v)
      rw [hloaded] at hstate
      obtain rfl : v' = v := hstate
      exact ⟨e', Exec.run_bind_error hloaded _⟩
    | (.ok loaded, v') =>
      obtain ⟨mf, -, hmf⟩ := exists_right_of_forall₂ (loadAll_ok hloaded).2 hm'
      rw [hmf] at hload
      cases hload

theorem construct_ok {config : Configuration} {v v' : Volume} {models : List (Model F ρ)}
    (hformat : ∀ device ∈ config.devices, ∀ m : Model F ρ, Model.init fmus device = .ok m →
      ∀ values, m.parameterValues fmus = .ok values → env.ReadsBack device values)
    (h : construct fmus env config v = (.ok models, v')) : Started fmus env config v v' models := by
  unfold construct at h
  rw [Exec.run_ofExcept_bind] at h
  cases hmodels : config.devices.mapM (Model.init fmus) with
  | error e =>
    rw [hmodels] at h
    cases h
  | ok opened =>
    rw [hmodels] at h
    dsimp only at h
    obtain ⟨loaded, v₁, hloaded, hrest⟩ := Exec.run_bind_eq_ok.mp h
    obtain ⟨rfl, hall⟩ := loadAll_ok hloaded
    obtain ⟨_, v₂, hsaved, hend⟩ := Exec.run_bind_eq_ok.mp hrest
    cases hend
    have hinit : ∀ m ∈ opened, m.device ∈ config.devices ∧ Model.init fmus m.device = .ok m := by
      intro m hm
      obtain ⟨device, hdevice, hm⟩ := exists_of_mapM hmodels hm
      rw [Model.init_device hm]
      exact ⟨hdevice, hm⟩
    have hdevices : (loaded.map Prod.fst).map (·.device) = config.devices := by
      have hloaded : opened.map (·.device) = loaded.map (·.1.device) :=
        map_eq_of_forall₂ hall fun m mf hload => congrArg (fun r => r.2.device) hload
      have hopened : config.devices.map id = opened.map (·.device) :=
        map_eq_of_forall₂ (mapM_ok.mp hmodels) fun _ _ hm => (Model.init_device hm).symm
      rw [List.map_map]
      exact hloaded.symm.trans (hopened.symm.trans (List.map_id _))
    have hdistinct : ((missing loaded).map (·.device.parameterSet)).Nodup := by
      refine List.Nodup.sublist ((List.filter_sublist.map Prod.fst).map _) ?_
      have hnodup := config.distinct
      rw [← hdevices, List.map_map] at hnodup
      exact hnodup
    -- A model without a snapshot is the model as it was opened.
    have hmissing : ∀ m ∈ missing loaded, m ∈ opened ∧ v₁.files m.device.path = none := by
      intro m hm
      obtain ⟨⟨m, found⟩, hmf, rfl⟩ := List.mem_map.mp hm
      obtain ⟨hmf, hfound⟩ := List.mem_filter.mp hmf
      obtain ⟨m', hm', hload⟩ := exists_left_of_forall₂ hall hmf
      rcases Model.load_parameters hload with ⟨-, hnone, rfl⟩ | ⟨rfl, -⟩
      · exact ⟨hm', hnone⟩
      · cases hfound
    obtain ⟨hkept, hwritten⟩ := saveAll_ok (fun m hm => config.names _ (hinit m (hmissing m hm).1).1)
      hdistinct (fun m hm => (hmissing m hm).2) hsaved
    refine ⟨hdevices, hkept, fun m hm => ?_⟩
    obtain ⟨⟨m, found⟩, hmf, rfl⟩ := List.mem_map.mp hm
    obtain ⟨m', hm', hload⟩ := exists_left_of_forall₂ hall hmf
    rcases Model.load_parameters hload with ⟨rfl, -, rfl⟩ | ⟨-, text, values, htext, hvalues, hparameters⟩
    · obtain ⟨values, hvalues, htext⟩ := hwritten m
        (List.mem_map.mpr ⟨(m, false), List.mem_filter.mpr ⟨hmf, rfl⟩, rfl⟩)
      have hread := savedValues_ok hvalues
      have hkeys := parameterValues_keys hread
      have hnodup : (values.map fun kv => keyText kv.1).Nodup := by
        have hroles := (m.serves fmus).nodup
        rw [← hkeys, List.map_map] at hroles
        exact hroles
      obtain ⟨hdevice, hm⟩ := hinit m hm'
      refine ⟨_, values, htext, hread, ?_⟩
      rw [← hkeys]
      exact parameters_snapshot hnodup (hformat _ hdevice m hm values hread)
    · exact ⟨text, values, hkept _ _ htext, hvalues, hparameters⟩

variable (fmus env)

/-- A snapshot that does not load stops the start before anything is written; a start that succeeds
adds the snapshots that were missing. -/
theorem all_or_nothing (config : Configuration) (v : Volume)
    (hformat : ∀ device ∈ config.devices, ∀ m : Model F ρ, Model.init fmus device = .ok m →
      ∀ values, m.parameterValues fmus = .ok values → env.ReadsBack device values) :
    (∀ device ∈ config.devices, ∀ m, Model.init fmus device = .ok m →
      ∀ e, (m.load fmus env.format v.files).1 = .error e → ∃ e', construct fmus env config v = (.error e', v)) ∧
    (∀ models v', construct fmus env config v = (.ok models, v') → Started fmus env config v v' models) ∧
    ∀ (m : Model F ρ) files e, (m.load fmus env.format files).1 = .error e →
      (m.load fmus env.format files).2 = m :=
  ⟨fun _ hdevice _ hinit _ => construct_error hdevice hinit, fun _ _ => construct_ok hformat,
    fun _ _ _ => Model.load_error⟩

/-! One axis and an empty store. -/

mutual

/-- `json.dump` with two blanks for a level, of what a snapshot is made of. -/
def indentedText (margin : String) : Json → String
  | .int n => toString n
  | .string s => "\"" ++ s ++ "\""
  | .object members => "\x7b\n" ++ indentedMembers (margin ++ "  ") members ++ "\n" ++ margin ++ "\x7d"
  | _ => "null"

def indentedMembers (margin : String) : List (String × Json) → String
  | [] => ""
  | [(key, value)] => margin ++ "\"" ++ key ++ "\": " ++ indentedText margin value
  | (key, value) :: rest =>
    margin ++ "\"" ++ key ++ "\": " ++ indentedText margin value ++ ",\n" ++ indentedMembers margin rest

end

def axisDevice : Device := ⟨"cia402-drive", .fKrCmmt, .linear, "axis-0"⟩

def openedValues : List (Key × Bytes) :=
  (savedValues (fKrCmmt ExtRat) (Servo.construct .linear)).1.toOption.getD []

def openedSnapshot : Json := .object (snapshotBody axisDevice openedValues ++
  [("checksum", .string "2ee099c7502aaaba1f8c5836d73975ddf96bacd9da1c8234899b97f8dda66dca")])

/-- The text and the digest of the snapshot of this axis. -/
def openedFormat : Format where
  dump data := utf8 (indentedText "" data)
  parse text := if text = utf8 (indentedText "" openedSnapshot) then .ok openedSnapshot
    else .error (valueError "Expecting value: line 1 column 1 (char 0)")
  checksum _ := "2ee099c7502aaaba1f8c5836d73975ddf96bacd9da1c8234899b97f8dda66dca"

def noFmu (_ : Device) : Artifact ExtRat Unit where
  runner := ⟨fun _ => pure (), fun _ => pure (), pure 0, fun _ => pure 0, fun _ => pure 0⟩
  opened := .error ⟨.osError, "No such file or directory"⟩

def oneAxis : Configuration where
  devices := [axisDevice]
  types := by decide
  names := by decide
  distinct := by decide

def sparing : Surroundings := ⟨⟨true, true⟩, openedFormat, fun _ => ⟨"k3_w0x9a", fun _ => none, 0⟩⟩

theorem savedValues_opened :
    (savedValues (fKrCmmt ExtRat) (Servo.construct .linear)).1 = .ok openedValues := by
  have hsaved : (savedValues (fKrCmmt ExtRat) (Servo.construct .linear)).1.toOption.isSome := by
    decide +kernel
  unfold openedValues
  cases hvalues : (savedValues (fKrCmmt ExtRat) (Servo.construct .linear)).1 with
  | error e =>
    rw [hvalues] at hsaved
    cases hsaved
  | ok values => rfl

def axisModel : Model ExtRat Unit := ⟨axisDevice, (Servo.construct .linear : Servo ExtRat)⟩

theorem init_axis : Model.init noFmu axisDevice = .ok axisModel := by
  obtain ⟨initial, hopen⟩ := openModel_fKr (F := ExtRat) .linear
  have hrun : openModel (registry (noFmu axisDevice) axisDevice.modelType).adapter axisModel.adapter =
      (.ok initial, axisModel.adapter) := hopen
  unfold Model.init
  refine bind_ok.mpr ⟨axisModel.adapter, rfl, ?_⟩
  rw [hrun]
  rfl

theorem all_or_nothing_empty : ∃ models v', construct noFmu sparing oneAxis ⟨fun _ => none, []⟩ = (.ok models, v') ∧
    Started noFmu sparing oneAxis ⟨fun _ => none, []⟩ v' models := by
  have hsave : (axisModel.save noFmu sparing.store sparing.format (sparing.disk axisDevice)
      ⟨fun _ => none, []⟩).1 = .ok () := by
    obtain ⟨steps, content, htrace⟩ := sparing.store.saveValues_trace sparing.format axisDevice
      (sparing.disk axisDevice) (savedValues (fKrCmmt ExtRat) (Servo.construct .linear)).1 ⟨fun _ => none, []⟩
    have hreplaces : (sparing.disk axisDevice).Replaces (fun _ => none) axisDevice.path := by decide
    have hreplacement := (sparing.store.replacement_eq_some sparing.format axisDevice
      (sparing.disk axisDevice) _).mpr ⟨rfl, hreplaces, openedValues, savedValues_opened, rfl⟩
    exact htrace.result.mpr ⟨Option.ne_none_iff_exists'.mpr ⟨_, hreplacement⟩, by decide⟩
  have hformat : ∀ device ∈ oneAxis.devices, ∀ m : Model ExtRat Unit, Model.init noFmu device = .ok m →
      ∀ values, m.parameterValues noFmu = .ok values → sparing.ReadsBack device values := by
    intro device hdevice m hinit values hread
    obtain rfl := List.mem_singleton.mp hdevice
    cases init_axis.symm.trans hinit
    have hopened : axisModel.parameterValues noFmu = .ok openedValues := savedValues_ok savedValues_opened
    cases hopened.symm.trans hread
    have hdocument : snapshot sparing.format axisDevice openedValues = openedSnapshot := rfl
    unfold Surroundings.ReadsBack
    rw [hdocument]
    unfold sparing openedFormat
    dsimp only
    rw [if_pos rfl]
  have hrun : construct noFmu sparing oneAxis ⟨fun _ => none, []⟩ = (.ok [axisModel],
      (axisModel.save noFmu sparing.store sparing.format (sparing.disk axisDevice) ⟨fun _ => none, []⟩).2) := by
    have hmodels : oneAxis.devices.mapM (Model.init noFmu) = .ok [axisModel] := by
      change [axisDevice].mapM (Model.init noFmu) = _
      rw [List.mapM_cons, init_axis]
      rfl
    unfold construct
    rw [Exec.run_ofExcept_bind, hmodels]
    have hloads : loadAll noFmu sparing [axisModel] ⟨fun _ => none, []⟩ =
        (.ok [(axisModel, false)], ⟨fun _ => none, []⟩) := by
      rw [loadAll_eq, List.mapM_cons, Model.load_missing rfl]
      rfl
    refine (Exec.run_bind_ok hloads _).trans ?_
    have hall : saveAll noFmu sparing [axisModel] ⟨fun _ => none, []⟩ = (.ok (), _) :=
      Exec.run_bind_ok (Prod.ext hsave rfl) _
    exact Exec.run_bind_ok hall _
  exact ⟨_, _, hrun, (all_or_nothing noFmu sparing oneAxis _ hformat).2.1 _ _ hrun⟩

end EthercatSimulator.Fleet
