import Mathlib.Data.List.Dedup
import EthercatSimulator.Configuration.EnvironmentLaws

/-! The order of the entries of a list: it is neither part of what is accepted nor of the result. -/

namespace EthercatSimulator.Configuration

open Base Profile Storage EthercatSimulator.Runtime

/-- What the list says of a device. -/
def Device.listed (d : Device) : AxisList → String
  | .ids => d.id
  | .models => d.model.type
  | .modes => d.model.mode
  | .parameterSets => d.parameterSet

/-! What is loaded. -/

theorem device_lookup {m : Mappings} {d : Device} (h : m.device d.slaveIndex = some d) (list : AxisList) :
    (m.values list).lookup d.slaveIndex = some (d.listed list) := by
  obtain ⟨_, _, _, hid, hmodel, hmode, hset⟩ := device_iff.mp h
  cases list with
  | ids => exact hid
  | models => exact hmodel
  | modes => exact hmode
  | parameterSets => exact hset

theorem withArtifact_listed {P : Platform} {env : Environment} {d d' : Device}
    (h : withArtifact P env d = .ok d') : d'.listed = d.listed := by
  unfold withArtifact at h
  dsimp only at h
  split at h
  · split at h
    · cases h
    · cases h
      rfl
  · cases h
    rfl

theorem AcceptedModel.same {P : Platform} {base : String} {m m' : Model} (h : AcceptedModel P base m m') :
    m'.type = m.type ∧ m'.mode = m.mode := by
  obtain ⟨type, mode, artifact⟩ := m
  obtain ⟨_, _, h⟩ := h
  cases artifact with
  | none =>
    obtain ⟨_, rfl⟩ := h
    exact ⟨rfl, rfl⟩
  | some artifact =>
    obtain ⟨_, _, _, _, rfl⟩ := h
    exact ⟨rfl, rfl⟩

theorem Accepted.listed {P : Platform} {base : String} {d d' : Device} (h : Accepted P base d d') :
    d'.listed = d.listed := by
  obtain ⟨_, _, _, model, hmodel, rfl⟩ := h
  obtain ⟨htype, hmode⟩ := hmodel.same
  funext list
  cases list with
  | ids | parameterSets => rfl
  | models => exact htype
  | modes => exact hmode

/-- Nothing that is accepted is empty. -/
theorem Accepted.listed_ne {P : Platform} {base : String} {d d' : Device} (h : Accepted P base d d')
    (list : AxisList) : d'.listed list ≠ "" := by
  rw [h.listed]
  obtain ⟨hid, hset, _, model, ⟨htype, hmode, _⟩, _⟩ := h
  intro hempty
  cases list with
  | ids =>
    rw [show d.id = "" from hempty] at hid
    cases hid
  | models =>
    rw [show d.model.type = "" from hempty] at htype
    revert htype
    decide
  | modes =>
    rw [show d.model.mode = "" from hempty] at hmode
    revert hmode
    decide
  | parameterSets =>
    rw [show d.parameterSet = "" from hempty] at hset
    cases hset

namespace Loaded

variable {P : Platform} {base : String} {env : Environment} {config : Config} {m : Mappings}
  {found equipped devices : List Device}

/-- The entry of an accepted device: it has the number and the settings of the device. -/
theorem origin (h : Loaded P base env config m found equipped devices) {d : Device} (hd : d ∈ devices) :
    ∃ d₀ ∈ found, d₀.slaveIndex = d.slaveIndex ∧ d₀.listed = d.listed ∧ m.device d₀.slaveIndex = some d₀ := by
  obtain ⟨text, _, hfound⟩ := h.bus
  obtain ⟨d₁, hd₁, haccepted⟩ := exists_left_of_forall₂ h.accepted hd
  obtain ⟨d₀, hd₀, hartifact⟩ := exists_left_of_forall₂ h.artifacts hd₁
  obtain ⟨entry, _, honBus⟩ := exists_left_of_forall₂ hfound hd₀
  refine ⟨d₀, hd₀, ?_, ?_, honBus.2⟩
  · rw [haccepted.slaveIndex, withArtifact_slaveIndex hartifact]
  · rw [haccepted.listed, withArtifact_listed hartifact]

theorem numbers (h : Loaded P base env config m found equipped devices) :
    (devices.map Device.slaveIndex).Perm (List.range devices.length) :=
  (List.perm_ext_iff_of_nodup h.distinct.slaveIndex List.nodup_range).mpr fun _ =>
    ⟨fun hn => h.contiguous.1 hn, fun hn => h.contiguous.2 hn⟩

/-- A list says of every device what the device has become, and it says nothing else. -/
theorem listed (h : Loaded P base env config m found equipped devices) (list : AxisList) :
    (m.values list).Perm (devices.map fun d => (d.slaveIndex, d.listed list)) := by
  have hkeys : ((devices.map fun d => (d.slaveIndex, d.listed list)).map Prod.fst).Nodup := by
    rw [List.map_map]
    exact h.distinct.slaveIndex
  refine (List.perm_ext_iff_of_nodup (h.unique list).of_map hkeys.of_map).mpr fun ⟨n, value⟩ => ?_
  rw [← Dict.lookup_iff_mem (h.unique list)]
  have hlookup : ∀ d ∈ devices, (m.values list).lookup d.slaveIndex = some (d.listed list) := by
    intro d hd
    obtain ⟨d₀, _, hindex, hlisted, hdevice⟩ := h.origin hd
    rw [← hindex, ← hlisted]
    exact device_lookup hdevice list
  constructor
  · intro hvalue
    have hn := (h.matching list).1 (List.mem_map_of_mem (f := Prod.fst)
      ((Dict.lookup_iff_mem (h.unique list)).mp hvalue))
    rw [slaveIndex_stages h.artifacts h.accepted] at hn
    obtain ⟨d, hd, rfl⟩ := List.mem_map.mp hn
    rw [hlookup d hd] at hvalue
    cases hvalue
    exact List.mem_map_of_mem hd
  · intro hmem
    obtain ⟨d, hd, heq⟩ := List.mem_map.mp hmem
    cases heq
    exact hlookup d hd

theorem perm_config (h : Loaded P base env config m found equipped devices) : config.devices.Perm devices :=
  h.sorted ▸ List.perm_insertionSort _ _

theorem length_config (h : Loaded P base env config m found equipped devices) :
    config.devices.length = devices.length := h.perm_config.length_eq

end Loaded

/-- Devices with their numbers in order. -/
theorem pairwise_sortDevices (devices : List Device) :
    (sortDevices devices).Pairwise fun d d' => d.slaveIndex ≤ d'.slaveIndex := by
  have : Std.Total fun d d' : Device => d.slaveIndex ≤ d'.slaveIndex := ⟨fun d d' => Nat.le_total _ _⟩
  have : IsTrans Device fun d d' => d.slaveIndex ≤ d'.slaveIndex := ⟨fun _ _ _ => Nat.le_trans⟩
  exact List.pairwise_insertionSort _ _

theorem sortDevices_perm {devices devices' : List Device} (hnodup : (devices.map Device.slaveIndex).Nodup)
    (hperm : devices.Perm devices') : sortDevices devices = sortDevices devices' := by
  have hall : (sortDevices devices).Perm devices := List.perm_insertionSort _ _
  have hall' : (sortDevices devices').Perm devices' := List.perm_insertionSort _ _
  refine List.Perm.eq_of_pairwise (fun d d' hd hd' hle hle' => ?_) (pairwise_sortDevices _) (pairwise_sortDevices _)
    (hall.trans (hperm.trans hall'.symm))
  have hmem := hall.mem_iff.mp hd
  have hmem' := hperm.mem_iff.mpr (hall'.mem_iff.mp hd')
  exact List.inj_on_of_nodup_map hnodup hmem hmem' (Nat.le_antisymm hle hle')

/-- The devices of the result stand in the places of their numbers. -/
theorem Loaded.inPlace {P : Platform} {base : String} {env : Environment} {config : Config} {m : Mappings}
    {found equipped devices : List Device} (h : Loaded P base env config m found equipped devices) :
    config.devices.map Device.slaveIndex = List.range config.devices.length := by
  refine @List.Perm.eq_of_pairwise Nat (· ≤ ·) _ _ (fun _ _ _ _ => Nat.le_antisymm) ?_ List.pairwise_le_range ?_
  · rw [h.sorted]
    exact List.pairwise_map.mpr (pairwise_sortDevices _)
  · rw [h.length_config]
    exact (h.perm_config.map _).trans h.numbers

namespace Loaded

variable {P : Platform} {base : String} {env : Environment} {config : Config} {m : Mappings}
  {found equipped devices : List Device}

theorem numbers_found (h : Loaded P base env config m found equipped devices) :
    (found.map Device.slaveIndex).Perm (List.range devices.length) :=
  slaveIndex_stages h.artifacts h.accepted ▸ h.numbers

theorem length_found (h : Loaded P base env config m found equipped devices) : found.length = devices.length := by
  rw [← List.length_map Device.slaveIndex, h.numbers_found.length_eq, List.length_range]

theorem numbers_listed (h : Loaded P base env config m found equipped devices) (list : AxisList) :
    ((m.values list).map Prod.fst).Perm (List.range devices.length) := by
  have hlisted := (h.listed list).map Prod.fst
  rw [List.map_map] at hlisted
  exact hlisted.trans h.numbers

/-- The ids and the parameter sets are names, each of one device. -/
theorem names (h : Loaded P base env config m found equipped devices) {list : AxisList}
    (hlist : list = .ids ∨ list = .parameterSets) :
    (∀ p ∈ m.values list, isName p.2 = true) ∧ ((m.values list).map Prod.snd).Nodup := by
  constructor
  · intro p hp
    obtain ⟨d, hd, rfl⟩ := List.mem_map.mp ((h.listed list).mem_iff.mp hp)
    obtain ⟨d₁, _, haccepted⟩ := exists_left_of_forall₂ h.accepted hd
    rw [haccepted.listed]
    rcases hlist with rfl | rfl
    · exact haccepted.1
    · exact haccepted.2.1
  · have hvalues := (h.listed list).map Prod.snd
    rw [List.map_map] at hvalues
    refine hvalues.nodup_iff.mpr ?_
    rcases hlist with rfl | rfl
    · exact h.distinct.id
    · exact h.distinct.parameterSet

/-- The device in a place has the number of the place, and what the lists say of that number. -/
theorem atNumber (h : Loaded P base env config m found equipped devices) (i : Nat)
    (hi : i < config.devices.length) : config.devices[i].slaveIndex = i ∧
      ∀ list value, (i, value) ∈ m.values list ↔ value = config.devices[i].listed list := by
  have hindex : config.devices[i].slaveIndex = i := by
    have hplace := List.getElem_map Device.slaveIndex (l := config.devices) (i := i) (h := by rwa [List.length_map])
    simpa only [h.inPlace, List.getElem_range] using hplace.symm
  refine ⟨hindex, fun list value => ?_⟩
  have hmem : (i, config.devices[i].listed list) ∈ m.values list := by
    refine (h.listed list).mem_iff.mpr (List.mem_map.mpr ⟨config.devices[i], ?_, by rw [hindex]⟩)
    exact h.perm_config.mem_iff.mp (List.getElem_mem hi)
  rw [← Dict.lookup_iff_mem (h.unique list)] at hmem ⊢
  rw [hmem, Option.some.injEq, eq_comm]

end Loaded

/-! Entries with white space around them. -/

/-- Parts of an entry between which the patterns do not tell. -/
def Alike (a b : List Char) : Prop := Text.strip a = Text.strip b ∧ (',' ∈ a ↔ ',' ∈ b)

theorem Alike.symm {a b : List Char} (h : Alike a b) : Alike b a := ⟨h.1.symm, h.2.symm⟩

theorem parts_alike {entry entry' : List Char} (h : Text.Padded entry entry') :
    List.Forall₂ Alike (entry.splitOn ':') (entry'.splitOn ':') :=
  (Text.splitOn_padded (by decide) h).imp fun _ _ h => ⟨(Text.strip_padded h).symm, (h.mem_iff (by decide)).symm⟩

theorem parts_alike' {entry entry' : List Char} (h : Text.Padded entry entry') :
    List.Forall₂ Alike (entry'.splitOn ':') (entry.splitOn ':') :=
  (parts_alike h).flip.imp fun _ _ h => Alike.symm h

theorem axisEntry_some {entry : List Char} {n : Nat} {value : String} :
    axisEntry entry = some (n, value) ↔
      ∃ a b, entry.splitOn ':' = [a, b] ∧ b ≠ [] ∧ ',' ∉ b ∧ number (Text.strip a) = some n ∧
        value = String.ofList (Text.strip b) := by
  unfold axisEntry
  constructor
  · intro h
    split at h
    · next a b hparts =>
      split at h
      · cases h
      · next hb =>
        obtain ⟨n', hn, heq⟩ := Option.map_eq_some_iff.mp h
        cases heq
        exact ⟨a, b, hparts, fun h => hb (.inl h), fun h => hb (.inr h), hn, rfl⟩
    · cases h
  · rintro ⟨a, b, hparts, hne, hcomma, hn, rfl⟩
    rw [hparts]
    dsimp only
    rw [if_neg (not_or.mpr ⟨hne, hcomma⟩), hn]
    rfl

theorem axisEntry_alike {entry entry' : List Char} {p : Nat × String}
    (hparts : List.Forall₂ Alike (entry.splitOn ':') (entry'.splitOn ':')) (hvalue : p.2 ≠ "")
    (h : axisEntry entry = some p) : axisEntry entry' = some p := by
  obtain ⟨n, value⟩ := p
  obtain ⟨a, b, heq, _, hcomma, hn, rfl⟩ := axisEntry_some.mp h
  rw [heq] at hparts
  generalize hparts' : entry'.splitOn ':' = parts' at hparts
  cases hparts with
  | cons ha hrest =>
    cases hrest with
    | @cons _ b' _ _ hb hnil =>
      cases hnil
      refine axisEntry_some.mpr ⟨_, _, hparts', ?_, fun h => hcomma (hb.2.mpr h), ha.1 ▸ hn, by rw [hb.1]⟩
      rintro rfl
      exact hvalue (by rw [hb.1]; rfl)

theorem busEntry_alike {entry entry' : List Char} {n : Nat}
    (hparts : List.Forall₂ Alike (entry.splitOn ':') (entry'.splitOn ':')) (h : busEntry entry = some n) :
    busEntry entry' = some n := by
  unfold busEntry at h ⊢
  generalize entry.splitOn ':' = parts at hparts h
  generalize entry'.splitOn ':' = parts' at hparts ⊢
  match parts, hparts with
  | [_, _, _], .cons ha (.cons hb (.cons hc .nil)) =>
    dsimp only at h ⊢
    rwa [← ha.1, ← hb.1, ← hc.1]

/-- How the patterns see an entry does not depend on the white space around it. -/
theorem axisEntry_padded {entry entry' : List Char} {p : Nat × String} (hvalue : p.2 ≠ "")
    (h : Text.Padded entry entry') : axisEntry entry = some p ↔ axisEntry entry' = some p :=
  ⟨axisEntry_alike (parts_alike h) hvalue, axisEntry_alike (parts_alike' h) hvalue⟩

theorem onBus_padded {m : Mappings} {entry entry' : List Char} {d : Device} (h : Text.Padded entry entry') :
    OnBus m entry d ↔ OnBus m entry' d :=
  and_congr_left fun _ => ⟨busEntry_alike (parts_alike h), busEntry_alike (parts_alike' h)⟩

/-! Lists in another order. -/

def listKeys : List String := busKey :: AxisList.all.map AxisList.key

def listEntries (text : String) : List (List Char) := text.toList.splitOn ','

/-- The lists have the same entries, in any order, and all else is the same. -/
def Rearranged (env env' : Environment) : Prop :=
  ∀ key, Option.Rel
    (fun text text' => if key ∈ listKeys then (listEntries text).Perm (listEntries text') else text = text')
    (env.lookup key) (env'.lookup key)

namespace Rearranged

variable {env env' : Environment}

/-- Two environments with the same keys in the same places. -/
theorem of_forall₂ (h : List.Forall₂ (fun kv kv' : String × String => kv.1 = kv'.1 ∧
      if kv.1 ∈ listKeys then (listEntries kv.2).Perm (listEntries kv'.2) else kv.2 = kv'.2) env env') :
    Rearranged env env' := by
  intro key
  induction h with
  | nil => exact .none
  | @cons kv kv' _ _ hkv _ ih =>
    obtain ⟨k, text⟩ := kv
    obtain ⟨_, text'⟩ := kv'
    obtain ⟨rfl, htexts⟩ := hkv
    rw [List.lookup_cons, List.lookup_cons]
    cases hkey : key == k with
    | true =>
      have heq := eq_of_beq hkey
      subst heq
      exact .some htexts
    | false => exact ih

theorem symm (h : Rearranged env env') : Rearranged env' env := by
  intro key
  have hkey := h key
  generalize env.lookup key = value at hkey ⊢
  generalize env'.lookup key = value' at hkey ⊢
  cases hkey with
  | none => exact .none
  | some htexts =>
    refine .some ?_
    split at htexts
    · next hmem =>
      rw [if_pos hmem]
      exact htexts.symm
    · next hmem =>
      rw [if_neg hmem]
      exact htexts.symm

theorem lookup (h : Rearranged env env') {key : String} (hkey : key ∉ listKeys) : env.lookup key = env'.lookup key := by
  have hrel := h key
  simp only [if_neg hkey] at hrel
  generalize env.lookup key = value at hrel ⊢
  generalize env'.lookup key = value' at hrel ⊢
  cases hrel with
  | none => rfl
  | some htexts => rw [htexts]

theorem required_eq (h : Rearranged env env') {key : String} (hkey : key ∉ listKeys) :
    required env' key = required env key := by
  rw [required, required, h.lookup hkey]

theorem mem_keys (h : Rearranged env env') {key : String} : key ∈ env.map Prod.fst ↔ key ∈ env'.map Prod.fst := by
  have hkeys : ∀ env : Environment, key ∈ env.map Prod.fst ↔ (env.lookup key).isSome = true := by
    intro env
    rw [List.lookup_isSome_iff]
    simp
  rw [hkeys, hkeys]
  have hrel := h key
  generalize env.lookup key = value at hrel ⊢
  generalize env'.lookup key = value' at hrel ⊢
  cases hrel <;> simp

theorem unused_nil (h : Rearranged env env') (hunused : unused env = []) : unused env' = [] := by
  refine List.eq_nil_iff_forall_not_mem.mpr fun key hkey => ?_
  refine List.eq_nil_iff_forall_not_mem.mp hunused key ?_
  simp only [unused, List.mem_dedup, List.mem_filter] at hkey ⊢
  exact ⟨h.mem_keys.mpr hkey.1, hkey.2⟩

/-- What the entries of a list stand for, the entries of the rearranged list stand for in their order. -/
theorem values {α : Type} {R : List Char → α → Prop} {key : String} {text : List Char} {values : List α}
    (h : Rearranged env env') (hkey : key ∈ listKeys) (htext : required env key = .ok text)
    (hvalues : List.Forall₂ R (text.splitOn ',') values)
    (hpadded : ∀ v ∈ values, ∀ entry entry', Text.Padded entry entry' → (R entry v ↔ R entry' v)) :
    ∃ text' values', required env' key = .ok text' ∧ List.Forall₂ R (text'.splitOn ',') values' ∧
      values'.Perm values := by
  -- Between the text that is split and the text as it stands, only white space around the entries differs.
  have hstrip : ∀ {vs : List α} (raw : List Char), (∀ v ∈ vs, v ∈ values) →
      (List.Forall₂ R ((Text.strip raw).splitOn ',') vs ↔ List.Forall₂ R (raw.splitOn ',') vs) := by
    intro vs raw hvs
    have hparts : List.Forall₂ Text.Padded ((Text.strip raw).splitOn ',') (raw.splitOn ',') :=
      Text.splitOn_padded (by decide) (Text.padded_strip raw)
    generalize (Text.strip raw).splitOn ',' = parts at hparts ⊢
    generalize raw.splitOn ',' = parts' at hparts ⊢
    induction hparts generalizing vs with
    | nil => rfl
    | cons hpart _ ih =>
      cases vs with
      | nil => exact iff_of_false nofun nofun
      | cons v vs =>
        have hrest := ih fun v' hv => hvs v' (List.mem_cons_of_mem _ hv)
        rw [List.forall₂_cons, List.forall₂_cons, hpadded v (hvs v List.mem_cons_self) _ _ hpart]
        exact and_congr_right fun _ => hrest
  obtain ⟨rfl, hne⟩ := required_ok.mp htext
  have hrel := h key
  simp only [if_pos hkey] at hrel
  cases hvalue : env.lookup key with
  | none =>
    rw [hvalue] at hne
    exact absurd rfl hne
  | some raw =>
    rw [hvalue] at hrel hvalues hne
    cases hvalue' : env'.lookup key with
    | none =>
      rw [hvalue'] at hrel
      cases hrel
    | some raw' =>
      rw [hvalue'] at hrel
      cases hrel with
      | some hperm =>
        obtain ⟨values', hread, hperm'⟩ :=
          List.perm_comp_forall₂ hperm.symm ((hstrip raw.toList fun _ h => h).mp hvalues)
        have hread' := (hstrip raw'.toList fun v hv => hperm'.mem_iff.mp hv).mpr hread
        refine ⟨Text.strip raw'.toList, values', required_ok.mpr ⟨by rw [hvalue']; rfl, ?_⟩, hread', hperm'⟩
        -- A blank text has one entry, and then the other text is the same.
        intro hblank
        have hcomma : ',' ∉ raw'.toList := (Text.blank_iff_strip.mpr hblank).not_mem (by decide)
        rw [listEntries, listEntries, List.splitOn_eq_singleton hcomma] at hperm
        have heq : raw.toList = raw'.toList := by
          have hjoin : [','].intercalate (raw.toList.splitOn ',') = raw.toList := List.intercalate_splitOn ','
          rw [List.perm_singleton.mp hperm] at hjoin
          rw [← hjoin]
          simp
        exact hne (heq ▸ hblank)

end Rearranged

theorem Settings.rearranged {P : Platform} {base : String} {env env' : Environment} {config : Config}
    (h : Settings P base env config) (henv : Rearranged env env') : Settings P base env' config where
  noConfigFile := (henv.lookup (by decide)).symm.trans h.noConfigFile
  noUnused := henv.unused_nil h.noUnused
  interface := (henv.required_eq (by decide)).trans h.interface
  interfaceName := h.interfaceName
  directory := by
    obtain ⟨state, hstate, hdirectory⟩ := h.directory
    exact ⟨state, (henv.required_eq (by decide)).trans hstate, hdirectory⟩
  version := h.version

theorem Matches.perm {values values' : List (Nat × String)} {devices devices' : List Device}
    (h : Matches values devices) (hvalues : values'.Perm values) (hdevices : devices'.Perm devices) :
    Matches values' devices' := by
  have hkeys := hvalues.map Prod.fst
  have hindices := hdevices.map Device.slaveIndex
  exact ⟨fun _ hn => hindices.mem_iff.mpr (h.1 (hkeys.mem_iff.mp hn)),
    fun _ hn => hkeys.mem_iff.mpr (h.2 (hindices.mem_iff.mp hn))⟩

theorem IsContiguous.perm {devices devices' : List Device} (h : IsContiguous devices)
    (hperm : devices'.Perm devices) : IsContiguous devices' := by
  have hindices := hperm.map Device.slaveIndex
  rw [IsContiguous, hperm.length_eq]
  exact ⟨fun _ hn => h.1 (hindices.mem_iff.mp hn), fun _ hn => hindices.mem_iff.mpr (h.2 hn)⟩

theorem device_perm {m m' : Mappings} (hunique : ∀ list, ((m'.values list).map Prod.fst).Nodup)
    (hperm : ∀ list, (m'.values list).Perm (m.values list)) : m'.device = m.device := by
  have hlookup : ∀ list index, (m'.values list).lookup index = (m.values list).lookup index :=
    fun list index => Dict.lookup_perm (hunique list) (hperm list) index
  funext index
  have hids := hlookup .ids index
  have hmodels := hlookup .models index
  have hmodes := hlookup .modes index
  have hsets := hlookup .parameterSets index
  simp only [Mappings.values] at hids hmodels hmodes hsets
  simp only [Mappings.device, hids, hmodels, hmodes, hsets]

theorem withArtifact_rearranged {P : Platform} {env env' : Environment} (h : Rearranged env env') :
    withArtifact P env' = withArtifact P env := by
  funext d
  rw [withArtifact, withArtifact, h.lookup (by decide)]

/-- A rearranged environment leads to the same configuration, through the same devices in another order. -/
theorem Loaded.rearranged {P : Platform} {base : String} {env env' : Environment} {config : Config} {m : Mappings}
    {found equipped devices : List Device} (h : Loaded P base env config m found equipped devices)
    (henv : Rearranged env env') :
    ∃ m' found' equipped' devices', Loaded P base env' config m' found' equipped' devices' := by
  have haxis : ∀ list : AxisList, ∃ values, Lists env' list.key axisEntry values ∧ values.Perm (m.values list) := by
    intro list
    obtain ⟨text, htext, hread⟩ := h.lists list
    have hkey : list.key ∈ listKeys := List.mem_cons_of_mem _ (List.mem_map_of_mem list.mem_all)
    obtain ⟨text', values, htext', hread', hperm⟩ := henv.values hkey htext hread fun p hp entry entry' hpadded => by
      refine axisEntry_padded ?_ hpadded
      obtain ⟨d, hd, rfl⟩ := List.mem_map.mp ((h.listed list).mem_iff.mp hp)
      obtain ⟨_, _, haccepted⟩ := exists_left_of_forall₂ h.accepted hd
      exact haccepted.listed_ne list
    exact ⟨values, ⟨text', htext', hread'⟩, hperm⟩
  choose values hlists hvalues using haxis
  let m' : Mappings := ⟨values .ids, values .models, values .modes, values .parameterSets⟩
  have hm' : ∀ list, m'.values list = values list := fun list => by cases list <;> rfl
  have hperm : ∀ list, (m'.values list).Perm (m.values list) := fun list => hm' list ▸ hvalues list
  have hunique : ∀ list, ((m'.values list).map Prod.fst).Nodup := fun list =>
    ((hperm list).map _).nodup_iff.mpr (h.unique list)
  obtain ⟨text, htext, hfound⟩ := h.bus
  obtain ⟨text', found', htext', hfound', hfoundPerm⟩ :=
    henv.values List.mem_cons_self htext hfound fun _ _ _ _ => onBus_padded
  obtain ⟨equipped', hartifacts, hequippedPerm⟩ := List.perm_comp_forall₂ hfoundPerm h.artifacts
  obtain ⟨devices', haccepted, hdevicesPerm⟩ := List.perm_comp_forall₂ hequippedPerm h.accepted
  refine ⟨m', found', equipped', devices', ?_⟩
  exact {
    settings := h.settings.rearranged henv
    lists := fun list => hm' list ▸ hlists list
    unique := hunique
    bus := by
      refine ⟨text', htext', hfound'.imp fun _ _ honBus => ?_⟩
      rwa [OnBus, device_perm hunique hperm]
    matching := fun list => (h.matching list).perm (hperm list) hfoundPerm
    artifacts := by
      rw [withArtifact_rearranged henv]
      exact hartifacts
    accepted := haccepted
    nonempty := fun hnil => h.nonempty (List.nil_perm.mp (hnil ▸ hdevicesPerm))
    distinct := h.distinct.perm hdevicesPerm.symm
    contiguous := h.contiguous.perm hdevicesPerm
    sorted := by rw [h.sorted, sortDevices_perm h.distinct.slaveIndex hdevicesPerm.symm] }

/-- `load_environment` accepts exactly the environments whose lists agree on the numbers from `0` on, each
device is what the lists say of its number, and the order of the entries does not matter. -/
theorem loadEnvironment_complete (P : Platform) (base : Option String) (env : Environment) :
    (∀ config, loadEnvironment P base env = .ok config →
      ∃ (bus : List Nat) (values : AxisList → List (Nat × String)),
        Lists env busKey busEntry bus ∧ (∀ list, Lists env list.key axisEntry (values list)) ∧
        bus.Perm (List.range bus.length) ∧
        (∀ list, ((values list).map Prod.fst).Perm (List.range bus.length)) ∧
        (∀ list, list = .ids ∨ list = .parameterSets →
          (∀ p ∈ values list, isName p.2 = true) ∧ ((values list).map Prod.snd).Nodup) ∧
        config.devices.length = bus.length ∧
        ∀ i, (h : i < config.devices.length) → config.devices[i].slaveIndex = i ∧
          ∀ list value, (i, value) ∈ values list ↔ value = config.devices[i].listed list) ∧
    ∀ env', Rearranged env env' → ∀ config,
      loadEnvironment P base env = .ok config ↔ loadEnvironment P base env' = .ok config := by
  refine ⟨fun config hload => ?_, fun env' henv config => ?_⟩
  · obtain ⟨m, found, equipped, devices, h⟩ := loadEnvironment_ok.mp hload
    obtain ⟨text, htext, hfound⟩ := h.bus
    have hlength : (found.map Device.slaveIndex).length = devices.length := by rw [List.length_map, h.length_found]
    have hbus : Reads busEntry (text.splitOn ',') (found.map Device.slaveIndex) :=
      List.forall₂_map_right_iff.mpr (hfound.imp fun _ _ honBus => honBus.1)
    refine ⟨found.map Device.slaveIndex, m.values, ⟨text, htext, hbus⟩, h.lists, ?_, ?_, fun _ => h.names, ?_,
      h.atNumber⟩
    · rw [hlength]
      exact h.numbers_found
    · rw [hlength]
      exact h.numbers_listed
    · rw [hlength]
      exact h.length_config
  · rw [loadEnvironment_ok, loadEnvironment_ok]
    constructor
    · rintro ⟨m, found, equipped, devices, h⟩
      exact h.rearranged henv
    · rintro ⟨m, found, equipped, devices, h⟩
      exact h.rearranged henv.symm

/-- An installation with the paths joined as they are written. -/
def slashes : Platform where
  cwd := "/work"
  path := id
  join folder name := folder ++ "/" ++ name
  resolve base path := .ok (base ++ "/" ++ path)
  repr := String.intercalate ", "

def environment (bus ids : String) : Environment :=
  [("DEVICE_SIMULATOR_BUS", bus), ("DEVICE_SIMULATOR_AXIS_IDS", ids),
    ("DEVICE_SIMULATOR_AXIS_MODELS", "1:copley_drive_sim, 0:f_kr_cmmt"),
    ("DEVICE_SIMULATOR_AXIS_MODES", "0:linear,1:rotary"),
    ("DEVICE_SIMULATOR_AXIS_PARAMETER_SETS", "0:left,1:right"),
    ("DEVICE_SIMULATOR_STATE_DIR", "state"), ("KICKCAT_INTERFACE", "eth0")]

def installed : Config where
  schemaVersion := 1
  interface := "eth0"
  directory := "/work/state"
  devices :=
    [⟨0, "axis-0", cia402Drive, ⟨"f_kr_cmmt", "linear", none⟩, "left"⟩,
      ⟨1, "axis-1", cia402Drive,
        ⟨"copley_drive_sim", "rotary", some "/work/./model_artifacts/CopleyDriveSim-linux.fmu"⟩, "right"⟩]

def forwards : Environment := environment "0:axis:cia402-drive,1:axis:cia402-drive " "1:axis-1,0:axis-0"
def backwards : Environment := environment "1:axis:cia402-drive ,0:axis:cia402-drive" "0:axis-0,1:axis-1"

theorem loadEnvironment_complete_installed :
    (∃ bus, Lists forwards busKey busEntry bus ∧ bus.Perm (List.range bus.length)) ∧
      loadEnvironment slashes none backwards = .ok installed := by
  have hload : loadEnvironment slashes none forwards = .ok installed := by decide +kernel
  have hrearranged : Rearranged forwards backwards := by
    refine .of_forall₂ (.cons ⟨rfl, ?_⟩ (.cons ⟨rfl, ?_⟩ (.cons ⟨rfl, ?_⟩ (.cons ⟨rfl, ?_⟩ (.cons ⟨rfl, ?_⟩
      (.cons ⟨rfl, ?_⟩ (.cons ⟨rfl, ?_⟩ .nil)))))))
    all_goals decide +kernel
  obtain ⟨hcomplete, horder⟩ := loadEnvironment_complete slashes none forwards
  obtain ⟨bus, _, hbus, _, hnumbers, _⟩ := hcomplete installed hload
  exact ⟨⟨bus, hbus, hnumbers⟩, (horder backwards hrearranged installed).mp hload⟩

end EthercatSimulator.Configuration
