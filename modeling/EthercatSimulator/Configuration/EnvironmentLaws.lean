import Mathlib.Data.List.Perm.Basic
import EthercatSimulator.Base.Dict
import EthercatSimulator.Configuration.Environment

/-! What a loaded environment means, and that the order of the entries of its lists is not part
of it. -/

namespace EthercatSimulator.Configuration

open Base Profile Storage EthercatSimulator.Runtime

theorem check_ok {c : Prop} [Decidable c] {message : String} {u : Unit} : check c message = .ok u ↔ c := by
  unfold check
  by_cases h : c
  · rw [if_pos h]
    exact iff_of_true rfl h
  · rw [if_neg h]
    exact iff_of_false nofun h

theorem check_bind_ok {β : Type} {c : Prop} [Decidable c] {message : String} {f : Unit → Except Exc β} {b : β} :
    (check c message >>= f) = .ok b ↔ c ∧ f () = .ok b := by
  rw [bind_ok]
  constructor
  · rintro ⟨u, hc, hf⟩
    exact ⟨check_ok.mp hc, hf⟩
  · rintro ⟨hc, hf⟩
    exact ⟨(), check_ok.mpr hc, hf⟩

theorem required_ok {env : Environment} {key : String} {text : List Char} :
    required env key = .ok text ↔ text = Text.strip ((env.lookup key).getD "").toList ∧ text ≠ [] := by
  unfold required
  by_cases h : Text.strip ((env.lookup key).getD "").toList = []
  · rw [if_pos h]
    exact iff_of_false nofun fun ⟨heq, hne⟩ => hne (heq.trans h)
  · rw [if_neg h]
    constructor
    · intro heq
      cases heq
      exact ⟨rfl, h⟩
    · rintro ⟨rfl, _⟩
      rfl

/-! The lists. -/

/-- Every entry of a list is read. -/
def Reads {α : Type} (parse : List Char → Option α) (entries : List (List Char)) (values : List α) : Prop :=
  List.Forall₂ (fun entry value => parse entry = some value) entries values

/-- A list of the environment and what its entries say. -/
def Lists {α : Type} (env : Environment) (key : String) (parse : List Char → Option α) (values : List α) : Prop :=
  ∃ text, required env key = .ok text ∧ Reads parse (text.splitOn ',') values

section Nodup

variable {α β : Type} {f : α → β} {xs rest : List α} {x : α}

theorem nodup_snoc (hxs : (xs.map f).Nodup) (hx : f x ∉ xs.map f) : ((xs ++ [x]).map f).Nodup := by
  rw [List.map_append]
  refine List.nodup_append.mpr ⟨hxs, List.nodup_singleton _, fun a ha b hb hab => hx ?_⟩
  rw [List.map_singleton, List.mem_singleton] at hb
  rwa [← hb, ← hab]

theorem fresh_of_nodup (h : ((xs ++ x :: rest).map f).Nodup) : f x ∉ xs.map f := by
  intro hmem
  rw [List.map_append, List.nodup_append] at h
  exact h.2.2 (f x) hmem (f x) List.mem_cons_self rfl

end Nodup

theorem axisValues_ok {key : String} {entries : List (List Char)} {values out : List (Nat × String)}
    (hvalues : (values.map Prod.fst).Nodup) :
    axisValues key entries values = .ok out ↔
      ∃ read, Reads axisEntry entries read ∧ out = values ++ read ∧ (out.map Prod.fst).Nodup := by
  induction entries generalizing values with
  | nil =>
    rw [axisValues]
    constructor
    · intro h
      cases h
      exact ⟨[], .nil, (List.append_nil _).symm, hvalues⟩
    · rintro ⟨read, hread, rfl, _⟩
      cases hread
      rw [List.append_nil]
  | cons entry rest ih =>
    rw [axisValues]
    cases hentry : axisEntry entry with
    | none =>
      refine iff_of_false nofun ?_
      rintro ⟨read, hread, _⟩
      cases hread with
      | cons hread _ => rw [hentry] at hread; cases hread
    | some kv =>
      obtain ⟨n, value⟩ := kv
      dsimp only
      by_cases hmem : n ∈ values.map Prod.fst
      · rw [if_pos hmem]
        refine iff_of_false nofun ?_
        rintro ⟨read, hread, rfl, hnodup⟩
        cases hread with
        | cons hread _ =>
          rw [hentry] at hread
          cases hread
          exact fresh_of_nodup hnodup hmem
      · have hmore : ((values ++ [(n, value)]).map Prod.fst).Nodup := nodup_snoc hvalues hmem
        rw [if_neg hmem, ih hmore]
        constructor
        · rintro ⟨read, hread, rfl, hnodup⟩
          exact ⟨(n, value) :: read, .cons hentry hread, by rw [List.append_assoc, List.singleton_append], hnodup⟩
        · rintro ⟨read, hread, rfl, hnodup⟩
          cases hread with
          | cons hread hrest =>
            rw [hentry] at hread
            cases hread
            exact ⟨_, hrest, by rw [List.append_assoc, List.singleton_append], hnodup⟩

theorem readAxis_ok {env : Environment} {key : String} {values : List (Nat × String)} :
    readAxis env key = .ok values ↔ Lists env key axisEntry values ∧ (values.map Prod.fst).Nodup := by
  have hempty : (([] : List (Nat × String)).map Prod.fst).Nodup := List.nodup_nil
  rw [readAxis, bind_ok]
  constructor
  · rintro ⟨text, htext, h⟩
    obtain ⟨read, hread, rfl, hnodup⟩ := (axisValues_ok hempty).mp h
    exact ⟨⟨text, htext, hread⟩, hnodup⟩
  · rintro ⟨⟨text, htext, hread⟩, hnodup⟩
    exact ⟨text, htext, (axisValues_ok hempty).mpr ⟨values, hread, rfl, hnodup⟩⟩

theorem readMappings_ok {env : Environment} {m : Mappings} :
    readMappings env = .ok m ↔
      ∀ list, Lists env (AxisList.key list) axisEntry (m.values list) ∧ ((m.values list).map Prod.fst).Nodup := by
  simp only [readMappings, bind_ok, readAxis_ok]
  constructor
  · rintro ⟨ids, hids, models, hmodels, modes, hmodes, sets, hsets, h⟩
    cases h
    intro list
    cases list with
    | ids => exact hids
    | models => exact hmodels
    | modes => exact hmodes
    | parameterSets => exact hsets
  · intro h
    exact ⟨_, h .ids, _, h .models, _, h .modes, _, h .parameterSets, rfl⟩

theorem device_iff {m : Mappings} {index : Nat} {d : Device} :
    m.device index = some d ↔
      d.slaveIndex = index ∧ d.type = cia402Drive ∧ d.model.artifact = none ∧
        m.ids.lookup index = some d.id ∧ m.models.lookup index = some d.model.type ∧
        m.modes.lookup index = some d.model.mode ∧ m.parameterSets.lookup index = some d.parameterSet := by
  simp only [Mappings.device, Option.bind_eq_bind, Option.bind_eq_some_iff, Option.pure_def, Option.some.injEq]
  constructor
  · rintro ⟨id, hid, model, hmodel, mode, hmode, set, hset, rfl⟩
    exact ⟨rfl, rfl, rfl, hid, hmodel, hmode, hset⟩
  · obtain ⟨index', id, type, ⟨model, mode, artifact⟩, set⟩ := d
    rintro ⟨rfl, rfl, rfl, hid, hmodel, hmode, hset⟩
    exact ⟨id, hid, model, hmodel, mode, hmode, set, hset, rfl⟩

/-- An entry of the bus stands for the device. -/
def OnBus (m : Mappings) (entry : List Char) (d : Device) : Prop :=
  busEntry entry = some d.slaveIndex ∧ m.device d.slaveIndex = some d

theorem busDevices_ok {m : Mappings} {entries : List (List Char)} {devices out : List Device}
    (hdevices : (devices.map Device.slaveIndex).Nodup) :
    busDevices m entries devices = .ok out ↔
      ∃ found, List.Forall₂ (OnBus m) entries found ∧ out = devices ++ found ∧
        (out.map Device.slaveIndex).Nodup := by
  induction entries generalizing devices with
  | nil =>
    rw [busDevices]
    constructor
    · intro h
      cases h
      exact ⟨[], .nil, (List.append_nil _).symm, hdevices⟩
    · rintro ⟨found, hfound, rfl, _⟩
      cases hfound
      rw [List.append_nil]
  | cons entry rest ih =>
    rw [busDevices]
    cases hentry : busEntry entry with
    | none =>
      refine iff_of_false nofun ?_
      rintro ⟨found, hfound, _⟩
      cases hfound with
      | cons hd _ => rw [OnBus, hentry] at hd; cases hd.1
    | some index =>
      -- Whatever device the entry stands for is the one that the loop adds.
      have honBus : ∀ {d}, OnBus m entry d → index = d.slaveIndex ∧ m.device index = some d := by
        intro d hd
        have hindex := Option.some.inj (hentry.symm.trans hd.1)
        exact ⟨hindex, hindex ▸ hd.2⟩
      dsimp only
      by_cases hmem : index ∈ devices.map Device.slaveIndex
      · rw [if_pos hmem]
        refine iff_of_false nofun ?_
        rintro ⟨found, hfound, rfl, hnodup⟩
        cases hfound with
        | cons hd _ => exact fresh_of_nodup hnodup ((honBus hd).1 ▸ hmem)
      · rw [if_neg hmem]
        cases hdevice : m.device index with
        | none =>
          refine iff_of_false nofun ?_
          rintro ⟨found, hfound, _⟩
          cases hfound with
          | cons hd _ => cases hdevice.symm.trans (honBus hd).2
        | some d =>
          have hindex : d.slaveIndex = index := (device_iff.mp hdevice).1
          have hmore : ((devices ++ [d]).map Device.slaveIndex).Nodup := nodup_snoc hdevices (hindex ▸ hmem)
          dsimp only
          rw [ih hmore]
          constructor
          · rintro ⟨found, hfound, rfl, hnodup⟩
            refine ⟨d :: found, .cons ⟨hindex ▸ hentry, hindex ▸ hdevice⟩ hfound, ?_, hnodup⟩
            rw [List.append_assoc, List.singleton_append]
          · rintro ⟨found, hfound, rfl, hnodup⟩
            cases hfound with
            | cons hd hrest =>
              cases hdevice.symm.trans (honBus hd).2
              exact ⟨_, hrest, by rw [List.append_assoc, List.singleton_append], hnodup⟩

/-! The validation. -/

/-- A model that is accepted, and the model with its path resolved. -/
def AcceptedModel (P : Platform) (base : String) (m m' : Model) : Prop :=
  (m.type = ModelType.fKrCmmt.text ∨ m.type = ModelType.copleyDriveSim.text) ∧
    (m.mode = modeText .linear ∨ m.mode = modeText .rotary) ∧
    match m.artifact with
    | none => m.type ≠ ModelType.copleyDriveSim.text ∧ m' = m
    | some artifact =>
      m.type = ModelType.copleyDriveSim.text ∧ isNonblank artifact = true ∧
        ∃ resolved, P.resolve base artifact = .ok resolved ∧ m' = { m with artifact := some resolved }

theorem validateModel_ok {P : Platform} {base location : String} {m m' : Model} :
    validateModel P base location m = .ok m' ↔ AcceptedModel P base m m' := by
  obtain ⟨type, mode, artifact⟩ := m
  simp only [validateModel, AcceptedModel, check_bind_ok]
  cases artifact with
  | none =>
    simp only [Option.isSome_none, Bool.false_eq_true, false_iff]
    constructor
    · rintro ⟨hne, ⟨htype, hmode⟩, h⟩
      cases h
      exact ⟨htype, hmode, hne, rfl⟩
    · rintro ⟨htype, hmode, hne, rfl⟩
      exact ⟨hne, ⟨htype, hmode⟩, rfl⟩
  | some artifact =>
    simp only [Option.isSome_some, true_iff, check_bind_ok]
    simp only [bind_ok]
    constructor
    · rintro ⟨heq, ⟨htype, hmode⟩, hblank, resolved, hresolved, h⟩
      cases h
      exact ⟨htype, hmode, heq, hblank, resolved, hresolved, rfl⟩
    · rintro ⟨htype, hmode, heq, hblank, resolved, hresolved, rfl⟩
      exact ⟨heq, ⟨htype, hmode⟩, hblank, resolved, hresolved, rfl⟩

/-- A device that is accepted on its own, and the device with its path resolved. -/
def Accepted (P : Platform) (base : String) (d d' : Device) : Prop :=
  isName d.id = true ∧ isName d.parameterSet = true ∧ d.type = cia402Drive ∧
    ∃ model, AcceptedModel P base d.model model ∧ d' = { d with model }

/-- No two devices share a number, an id or a parameter set. -/
structure Distinct (devices : List Device) : Prop where
  slaveIndex : (devices.map Device.slaveIndex).Nodup
  id : (devices.map Device.id).Nodup
  parameterSet : (devices.map Device.parameterSet).Nodup

theorem Distinct.perm {devices devices' : List Device} (h : Distinct devices) (hperm : devices.Perm devices') :
    Distinct devices' where
  slaveIndex := (hperm.map _).nodup_iff.mp h.slaveIndex
  id := (hperm.map _).nodup_iff.mp h.id
  parameterSet := (hperm.map _).nodup_iff.mp h.parameterSet

theorem validateDevice_ok {P : Platform} {base : String} {before : List Device} {d d' : Device} :
    validateDevice P base before d = .ok d' ↔
      Accepted P base d d' ∧ d.slaveIndex ∉ before.map Device.slaveIndex ∧ d.id ∉ before.map Device.id ∧
        d.parameterSet ∉ before.map Device.parameterSet := by
  have hunique : ∀ (field : Device → String) (location : String) (u : Unit),
      checkUniqueName field location before d = .ok u ↔ isName (field d) = true ∧ field d ∉ before.map field := by
    intro field location u
    rw [checkUniqueName, checkName, check_bind_ok, check_ok]
  simp only [validateDevice, bind_ok, check_ok, hunique, validateModel_ok, Accepted]
  constructor
  · rintro ⟨_, hindex, _, ⟨hid, hid'⟩, _, ⟨hset, hset'⟩, _, htype, model, hmodel, h⟩
    cases h
    exact ⟨⟨hid, hset, htype, model, hmodel, rfl⟩, hindex, hid', hset'⟩
  · rintro ⟨⟨hid, hset, htype, model, hmodel, rfl⟩, hindex, hid', hset'⟩
    exact ⟨(), hindex, (), ⟨hid, hid'⟩, (), ⟨hset, hset'⟩, (), htype, model, hmodel, rfl⟩

theorem Distinct.snoc {P : Platform} {base : String} {before : List Device} {d d' : Device}
    (h : Distinct before) (hd : validateDevice P base before d = .ok d') : Distinct (before ++ [d']) := by
  obtain ⟨⟨_, _, _, model, _, rfl⟩, hindex, hid, hset⟩ := validateDevice_ok.mp hd
  exact ⟨nodup_snoc h.slaveIndex hindex, nodup_snoc h.id hid, nodup_snoc h.parameterSet hset⟩

theorem validateDevices_ok {P : Platform} {base : String} {before devices out : List Device}
    (hbefore : Distinct before) :
    validateDevices P base before devices = .ok out ↔
      ∃ valid, List.Forall₂ (Accepted P base) devices valid ∧ out = before ++ valid ∧ Distinct out := by
  induction devices generalizing before with
  | nil =>
    rw [validateDevices]
    constructor
    · intro h
      cases h
      exact ⟨[], .nil, (List.append_nil _).symm, hbefore⟩
    · rintro ⟨valid, hvalid, rfl, _⟩
      cases hvalid
      rw [List.append_nil]
  | cons d rest ih =>
    rw [validateDevices, bind_ok]
    constructor
    · rintro ⟨d', hd, h⟩
      obtain ⟨valid, hvalid, rfl, hdistinct⟩ := (ih (hbefore.snoc hd)).mp h
      refine ⟨d' :: valid, .cons (validateDevice_ok.mp hd).1 hvalid, ?_, hdistinct⟩
      rw [List.append_assoc, List.singleton_append]
    · rintro ⟨valid, hvalid, rfl, hdistinct⟩
      cases hvalid with
      | @cons _ d' _ valid haccepted hvalid =>
        obtain ⟨_, _, _, model, _, rfl⟩ := id haccepted
        have hindex := fresh_of_nodup hdistinct.slaveIndex
        have hid := fresh_of_nodup hdistinct.id
        have hset := fresh_of_nodup hdistinct.parameterSet
        have hd := validateDevice_ok.mpr ⟨haccepted, hindex, hid, hset⟩
        refine ⟨_, hd, (ih (hbefore.snoc hd)).mpr ⟨valid, hvalid, ?_, hdistinct⟩⟩
        rw [List.append_assoc, List.singleton_append]

/-! The whole environment. -/

/-- The settings outside the lists. -/
structure Settings (P : Platform) (base : String) (env : Environment) (config : Config) : Prop where
  noConfigFile : env.lookup configFileKey = none
  noUnused : unused env = []
  interface : required env interfaceKey = .ok config.interface.toList
  interfaceName : isInterface config.interface = true
  directory : ∃ state, required env stateKey = .ok state ∧
    isNonblank (P.path (String.ofList state)) = true ∧
    P.resolve base (P.path (String.ofList state)) = .ok config.directory
  version : config.schemaVersion = 1

theorem withArtifact_slaveIndex {P : Platform} {env : Environment} {d d' : Device}
    (h : withArtifact P env d = .ok d') : d'.slaveIndex = d.slaveIndex := by
  unfold withArtifact at h
  dsimp only at h
  split at h
  · split at h
    · cases h
    · cases h
      rfl
  · cases h
    rfl

theorem Accepted.slaveIndex {P : Platform} {base : String} {d d' : Device} (h : Accepted P base d d') :
    d'.slaveIndex = d.slaveIndex := by
  obtain ⟨_, _, _, model, _, rfl⟩ := h
  rfl

def sortDevices (devices : List Device) : List Device :=
  devices.insertionSort fun d d' => d.slaveIndex ≤ d'.slaveIndex

/-- What lies between an environment and its configuration: the mappings, and the devices in the
order of the bus, as the lists have them, with the paths of their artifacts, and as they are accepted. -/
structure Loaded (P : Platform) (base : String) (env : Environment) (config : Config) (m : Mappings)
    (found equipped devices : List Device) : Prop where
  settings : Settings P base env config
  lists : ∀ list, Lists env (AxisList.key list) axisEntry (m.values list)
  unique : ∀ list, ((m.values list).map Prod.fst).Nodup
  bus : ∃ text, required env busKey = .ok text ∧ List.Forall₂ (OnBus m) (text.splitOn ',') found
  matching : ∀ list, Matches (m.values list) found
  artifacts : List.Forall₂ (fun d d' => withArtifact P env d = .ok d') found equipped
  accepted : List.Forall₂ (Accepted P base) equipped devices
  nonempty : devices ≠ []
  distinct : Distinct devices
  contiguous : IsContiguous devices
  sorted : config.devices = sortDevices devices

/-- Neither the paths nor the validation change the numbers. -/
theorem slaveIndex_stages {P : Platform} {base : String} {env : Environment} {found equipped devices : List Device}
    (hequipped : List.Forall₂ (fun d d' => withArtifact P env d = .ok d') found equipped)
    (haccepted : List.Forall₂ (Accepted P base) equipped devices) :
    found.map Device.slaveIndex = devices.map Device.slaveIndex :=
  (map_eq_of_forall₂ hequipped fun _ _ h => (withArtifact_slaveIndex h).symm).trans
    (map_eq_of_forall₂ haccepted fun _ _ h => h.slaveIndex.symm)

theorem validateConfig_ok {P : Platform} {base : String} {data config : Config} :
    validateConfig P base data = .ok config ↔
      data.schemaVersion = 1 ∧ isInterface data.interface = true ∧ isNonblank data.directory = true ∧
        ∃ directory devices, P.resolve base data.directory = .ok directory ∧
          List.Forall₂ (Accepted P base) data.devices devices ∧ devices ≠ [] ∧ Distinct devices ∧
          IsContiguous devices ∧ config = { data with directory, devices := sortDevices devices } := by
  have hempty : Distinct [] := ⟨List.nodup_nil, List.nodup_nil, List.nodup_nil⟩
  have hnil : ∀ {ds ds' : List Device}, List.Forall₂ (Accepted P base) ds ds' → (ds ≠ [] ↔ ds' ≠ []) := by
    intro ds ds' h
    rw [← List.length_pos_iff, ← List.length_pos_iff, h.length_eq]
  simp only [validateConfig, bind_ok, check_ok, validateDevices_ok hempty, List.nil_append]
  constructor
  · rintro ⟨_, hversion, _, hinterface, _, hblank, directory, hdirectory, _, hne, devices, hdevices, _, hrange, h⟩
    obtain ⟨_, haccepted, rfl, hdistinct⟩ := hdevices
    cases h
    exact ⟨hversion, hinterface, hblank, directory, _, hdirectory, haccepted, (hnil haccepted).mp hne, hdistinct,
      hrange, rfl⟩
  · rintro ⟨hversion, hinterface, hblank, directory, devices, hdirectory, haccepted, hne, hdistinct, hrange, rfl⟩
    exact ⟨(), hversion, (), hinterface, (), hblank, directory, hdirectory, (), (hnil haccepted).mpr hne, devices,
      ⟨devices, haccepted, rfl, hdistinct⟩, (), hrange, rfl⟩

theorem loadEnvironment_ok {P : Platform} {base : Option String} {env : Environment} {config : Config} :
    loadEnvironment P base env = .ok config ↔
      ∃ m found equipped devices, Loaded P (base.getD P.cwd) env config m found equipped devices := by
  have hempty : (([] : List Device).map Device.slaveIndex).Nodup := List.nodup_nil
  have hall : ∀ (m : Mappings) (found : List Device),
      (∀ list ∈ AxisList.all, Matches (m.values list) found) ↔ ∀ list, Matches (m.values list) found :=
    fun m found => ⟨fun h list => h list list.mem_all, fun h list _ => h list⟩
  simp only [loadEnvironment, bind_ok, check_ok, readMappings_ok, busDevices_ok hempty, List.nil_append, hall,
    mapM_ok, validateConfig_ok]
  constructor
  · rintro ⟨_, hfile, m, hm, text, htext, found, ⟨_, hfound, rfl, _⟩, _, hmatch, _, hunused, equipped, hequipped,
      state, hstate, interface, hinterface, _, hname, hblank, directory, devices, hdirectory, haccepted,
      hne, hdistinct, hrange, rfl⟩
    refine ⟨m, found, equipped, devices, ?_, fun list => (hm list).1, fun list => (hm list).2, ⟨text, htext, hfound⟩,
      hmatch, hequipped, haccepted, hne, hdistinct, hrange, rfl⟩
    exact ⟨hfile, hunused, by rwa [String.toList_ofList], hname, ⟨state, hstate, hblank, hdirectory⟩, rfl⟩
  · rintro ⟨m, found, equipped, devices, h⟩
    obtain ⟨hfile, hunused, hinterface, hname, ⟨state, hstate, hblank, hdirectory⟩, hversion⟩ := h.settings
    obtain ⟨text, htext, hfound⟩ := h.bus
    have hnodup : (found.map Device.slaveIndex).Nodup :=
      slaveIndex_stages h.artifacts h.accepted ▸ h.distinct.slaveIndex
    refine ⟨(), hfile, m, fun list => ⟨h.lists list, h.unique list⟩, text, htext, found, ⟨found, hfound, rfl, hnodup⟩,
      (), h.matching, (), hunused, equipped, h.artifacts, state, hstate, config.interface.toList, hinterface, trivial, ?_,
      hblank, config.directory, devices, hdirectory, h.accepted, h.nonempty, h.distinct, h.contiguous, ?_⟩
    · rwa [String.ofList_toList]
    · rw [String.ofList_toList, ← h.sorted, ← hversion]

end EthercatSimulator.Configuration
