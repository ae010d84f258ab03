import EthercatSimulator.Slave.Fixture

/-! The addresses that a fixture advertises. -/

namespace EthercatSimulator.Slave

open Base Diagnostics

/-- An address of the dictionary, with the access to it. -/
def EsiItem.address (item : EsiItem) : Nat × String := (item.subindex, item.access)

def ContractEntry.address (e : ContractEntry) : Nat × String := (e.subindex, accessOrDefault e)

theorem constant_address {index subindex bits number : Nat} {name type : String} {e : ContractEntry}
    (h : constant index subindex name type bits number = .ok e) : e.address = (subindex, "ro") := by
  unfold constant at h
  split at h
  · cases h
    rfl
  · cases h

theorem recordItems_address (entries : List ContractEntry) (offset : Nat) :
    (recordItems entries offset).map EsiItem.address = entries.map ContractEntry.address := by
  induction entries generalizing offset with
  | nil => rfl
  | cons e rest ih =>
    rw [recordItems, List.map_cons, List.map_cons, ih]
    rfl

/-! Groups. -/

theorem groupEntries_lookup (entries : List ContractEntry) (index : Nat) :
    (groupEntries entries).lookup index =
      let group := entries.filter (·.index = index)
      if group = [] then none else some group := by
  unfold groupEntries
  induction entries using List.reverseRecOn with
  | nil => rfl
  | append_singleton entries e ih =>
    rw [List.foldl_append, List.foldl_cons, List.foldl_nil, List.filter_append]
    by_cases hindex : e.index = index
    · subst hindex
      rw [Finmap.lookup_insert, ih]
      dsimp only
      by_cases hnil : entries.filter (·.index = e.index) = []
      · simp [hnil]
      · simp [hnil]
    · rw [Finmap.lookup_insert_of_ne _ (Ne.symm hindex), ih]
      simp [hindex]

theorem insertAll_lookup {objects : List (Nat × Except Exc (List ContractEntry))} {groups groups' : Groups}
    (hnodup : (objects.map Prod.fst).Nodup) (h : insertAll objects groups = .ok groups') :
    (∀ object ∈ objects, ∃ entries, object.2 = .ok entries ∧ groups'.lookup object.1 = some entries) ∧
      ∀ index, index ∉ objects.map Prod.fst → groups'.lookup index = groups.lookup index := by
  induction objects generalizing groups with
  | nil =>
    cases h
    exact ⟨nofun, fun _ _ => rfl⟩
  | cons object rest ih =>
    obtain ⟨index, result⟩ := object
    rw [List.map_cons, List.nodup_cons] at hnodup
    cases result with
    | error e => cases h
    | ok entries =>
      obtain ⟨hrest, hother⟩ := ih hnodup.2 h
      constructor
      · intro object hobject
        rcases List.mem_cons.mp hobject with rfl | hobject
        · exact ⟨entries, rfl, (hother index hnodup.1).trans (Finmap.lookup_insert _)⟩
        · exact hrest object hobject
      · intro index' hindex'
        rw [List.map_cons, List.mem_cons, not_or] at hindex'
        rw [hother index' hindex'.2, Finmap.lookup_insert_of_ne _ hindex'.1]

/-! Objects. -/

theorem counted_address {index : Nat} {entries entries' : List ContractEntry}
    (hsorted : entries.Pairwise fun a b => a.subindex ≤ b.subindex) (hne : entries ≠ [])
    (h : counted index entries = .ok entries') (address : Nat × String) :
    address ∈ entries'.map ContractEntry.address ↔ address ∈ entries.map ContractEntry.address ∨
      address = (0, "ro") ∧ ∀ e ∈ entries, e.subindex ≠ 0 := by
  cases entries with
  | nil => exact absurd rfl hne
  | cons first rest =>
    rw [counted] at h
    split at h
    · rename_i hzero
      cases h
      refine ⟨.inl, fun h => h.resolve_right fun h => h.2 first List.mem_cons_self hzero⟩
    · rename_i hpositive
      have hall : ∀ e ∈ first :: rest, e.subindex ≠ 0 := by
        intro e he hzero
        rcases List.mem_cons.mp he with rfl | he
        · exact hpositive hzero
        · have := List.rel_of_pairwise_cons hsorted he
          omega
      dsimp only at h
      cases hcount : constant index 0 "Count" "USINT" 8
          ((first :: rest).foldl (fun n e => max n e.subindex) 0) with
      | error e =>
        rw [hcount] at h
        cases h
      | ok count =>
        rw [hcount] at h
        cases h
        rw [List.map_cons, List.mem_cons, constant_address hcount]
        exact ⟨fun h => h.elim (fun h => .inr ⟨h, hall⟩) .inl, fun h => h.elim .inr fun h => .inl h.1⟩

theorem esiObject_address {index : Nat} {entries : List ContractEntry} {o : EsiObject}
    (hne : entries ≠ []) (h : esiObject index entries = .ok o) :
    o.index = index ∧ ∀ address, address ∈ o.items.map EsiItem.address ↔
      address ∈ entries.map ContractEntry.address ∨
        address = (0, "ro") ∧ ∀ e ∈ entries, e.subindex ≠ 0 := by
  let sorted := entries.insertionSort fun a b => a.subindex ≤ b.subindex
  have hperm : sorted.Perm entries := List.perm_insertionSort _ _
  have hpairwise : sorted.Pairwise fun a b => a.subindex ≤ b.subindex := by
    have : IsTrans ContractEntry fun a b => a.subindex ≤ b.subindex := ⟨fun _ _ _ => Nat.le_trans⟩
    have : Std.Total fun a b : ContractEntry => a.subindex ≤ b.subindex := ⟨fun _ _ => Nat.le_total _ _⟩
    exact List.pairwise_insertionSort _ _
  have hsorted : sorted ≠ [] := fun hnil => hne (List.nil_perm.mp (hnil ▸ hperm))
  have hmem (address : Nat × String) : address ∈ sorted.map ContractEntry.address ∨
      address = (0, "ro") ∧ (∀ e ∈ sorted, e.subindex ≠ 0) ↔
      address ∈ entries.map ContractEntry.address ∨
        address = (0, "ro") ∧ ∀ e ∈ entries, e.subindex ≠ 0 := by
    rw [(hperm.map _).mem_iff]
    simp only [hperm.mem_iff]
  have hrecord (hrun : esiObject.record index sorted = .ok o) : o.index = index ∧ ∀ address,
      address ∈ o.items.map EsiItem.address ↔ address ∈ entries.map ContractEntry.address ∨
        address = (0, "ro") ∧ ∀ e ∈ entries, e.subindex ≠ 0 := by
    unfold esiObject.record at hrun
    cases hcounted : counted index sorted with
    | error e =>
      rw [hcounted] at hrun
      cases hrun
    | ok entries' =>
      rw [hcounted] at hrun
      cases hrun
      refine ⟨rfl, fun address => ?_⟩
      dsimp only
      rw [recordItems_address, counted_address hpairwise hsorted hcounted]
      exact hmem address
  unfold esiObject at h
  split at h
  · rename_i e hsingle
    have hsingle' : sorted = [e] := hsingle
    split at h
    · rename_i hzero
      cases h
      refine ⟨rfl, fun address => ?_⟩
      rw [← hmem, hsingle']
      have haddress : e.address = (0, accessOrDefault e) := by
        unfold ContractEntry.address
        rw [hzero]
      simp [haddress, EsiItem.address, hzero]
    · exact hrecord (hsingle' ▸ h)
  · exact hrecord h

/-! The CoE communication area. -/

/-- How many subindices the fixture gives an object of its own accord. -/
def subindexCount (spec : Contract) : Nat → Nat
  | 0x1018 | 0x1C00 => 5
  | 0x1600 => spec.rx.length + 1
  | 0x1A00 => spec.tx.length + 1
  | 0x1C12 | 0x1C13 => 2
  | _ => 1

def communicationIndices : List Nat := [0x1000, 0x1018, 0x1C00, 0x1600, 0x1C12, 0x1A00, 0x1C13]

theorem constants_address {α : Type} {f : α × Nat → Except Exc ContractEntry} {b : Nat}
    (hf : ∀ x e, f x = .ok e → e.address = (x.2 + b, "ro")) {elements : List α}
    {entries : List ContractEntry} (h : elements.zipIdx.mapM f = .ok entries) :
    entries.map ContractEntry.address = (List.range' b elements.length).map (·, "ro") := by
  have hmap (numbered : List (α × Nat)) (hmap : numbered.mapM f = .ok entries) :
      entries.map ContractEntry.address = (numbered.map Prod.snd).map fun i => (i + b, "ro") := by
    have hall := mapM_ok.mp hmap
    clear hmap h
    induction hall with
    | nil => rfl
    | cons hx _ ih => rw [List.map_cons, List.map_cons, List.map_cons, hf _ _ hx, ih]
  rw [hmap _ h, List.zipIdx_map_snd]
  apply List.ext_getElem
  · simp
  · intro i _ _
    simp [Nat.add_comm]

theorem array_address {index count : Nat} {elements : List (String × String × Nat × Nat)}
    {entries : List ContractEntry} (h : array index count elements = .ok entries) :
    entries.map ContractEntry.address = (List.range (elements.length + 1)).map (·, "ro") := by
  obtain ⟨first, hfirst, h⟩ := bind_ok.mp h
  obtain ⟨rest, hrest, h⟩ := bind_ok.mp h
  cases h
  have hconstants := constants_address (b := 1) (fun x e he => constant_address he) hrest
  rw [List.map_cons, constant_address hfirst, hconstants, List.range_eq_range', List.range'_succ]
  rfl

theorem communication_indices (spec : Contract) : (communication spec).map Prod.fst = communicationIndices := rfl

theorem communication_address (spec : Contract) : ∀ object ∈ communication spec, ∀ entries,
    object.2 = .ok entries →
      entries.map ContractEntry.address = (List.range (subindexCount spec object.1)).map (·, "ro") := by
  intro object hobject entries h
  simp only [communication, List.mem_cons, List.not_mem_nil, or_false] at hobject
  rcases hobject with rfl | rfl | rfl | rfl | rfl | rfl | rfl
  · cases hdevice : constant 0x1000 0 "Device type" "UDINT" 32 402 with
    | error e =>
      rw [hdevice] at h
      cases h
    | ok e =>
      rw [hdevice] at h
      cases h
      exact congrArg (fun a => [a]) (constant_address hdevice)
  · exact array_address h
  · exact constants_address (b := 0) (fun x e he => constant_address he) h
  · refine (array_address h).trans ?_
    rw [List.length_map, List.length_zipIdx]
    rfl
  · exact array_address h
  · refine (array_address h).trans ?_
    rw [List.length_map, List.length_zipIdx]
    rfl
  · exact array_address h

theorem array_count {index count : Nat} {elements : List (String × String × Nat × Nat)}
    {entries : List ContractEntry} (h : array index count elements = .ok entries) : count < 256 := by
  by_contra hcount
  have hfirst : constant index 0 "Count" "USINT" 8 count = .error overflow := if_neg hcount
  unfold array at h
  rw [hfirst] at h
  cases h

theorem communication_count (spec : Contract) : ∀ object ∈ communication spec, ∀ entries,
    object.2 = .ok entries → subindexCount spec object.1 ≤ 2 ^ 8 := by
  intro object hobject entries h
  simp only [communication, List.mem_cons, List.not_mem_nil, or_false] at hobject
  rcases hobject with rfl | rfl | rfl | rfl | rfl | rfl | rfl
  · exact (by decide : 1 ≤ 2 ^ 8)
  · exact (by decide : 5 ≤ 2 ^ 8)
  · exact (by decide : 5 ≤ 2 ^ 8)
  · exact array_count h
  · exact (by decide : 2 ≤ 2 ^ 8)
  · exact array_count h
  · exact (by decide : 2 ≤ 2 ^ 8)

/-! The dictionary as a whole. -/

variable {spec : Contract} {objects : List EsiObject}

/-- The dictionary has the address in its object with the index. -/
def Advertises (objects : List EsiObject) (index : Nat) (address : Nat × String) : Prop :=
  ∃ o ∈ objects, o.index = index ∧ address ∈ o.items.map EsiItem.address

/-- An object advertises the entries of its group, and a count if they have none. -/
def GroupAdvertises (entries : List ContractEntry) (address : Nat × String) : Prop :=
  address ∈ entries.map ContractEntry.address ∨ address = (0, "ro") ∧ ∀ e ∈ entries, e.subindex ≠ 0

theorem groups_lookup {groups : Groups}
    (h : insertAll (communication spec) (groupEntries spec.entries) = .ok groups) (index : Nat) :
    (index ∈ communicationIndices → ∃ entries, groups.lookup index = some entries ∧
      entries.map ContractEntry.address = (List.range (subindexCount spec index)).map (·, "ro")) ∧
    (index ∉ communicationIndices → groups.lookup index = (groupEntries spec.entries).lookup index) := by
  obtain ⟨hin, hout⟩ := insertAll_lookup (by rw [communication_indices]; decide) h
  rw [communication_indices] at hout
  refine ⟨fun hindex => ?_, hout index⟩
  rw [← communication_indices spec] at hindex
  obtain ⟨object, hobject, rfl⟩ := List.mem_map.mp hindex
  obtain ⟨entries, hentries, hlookup⟩ := hin object hobject
  exact ⟨entries, hlookup, communication_address spec object hobject entries hentries⟩

theorem advertises_group {groups : Groups} (hne : ∀ index entries, groups.lookup index = some entries →
      entries ≠ []) (h : (groups.keys.sort.mapM fun index => esiObject index ((groups.lookup index).getD [])) =
      .ok objects) (index : Nat) (address : Nat × String) :
    Advertises objects index address ↔
      ∃ entries, groups.lookup index = some entries ∧ GroupAdvertises entries address := by
  have hkey (index : Nat) (hindex : index ∈ groups.keys.sort) :
      ∃ entries, groups.lookup index = some entries := by
    rw [Finset.mem_sort, Finmap.mem_keys, ← Finmap.lookup_isSome] at hindex
    exact Option.isSome_iff_exists.mp hindex
  constructor
  · rintro ⟨o, ho, rfl, haddress⟩
    obtain ⟨index, hindex, hrun⟩ := exists_of_mapM h ho
    obtain ⟨entries, hentries⟩ := hkey index hindex
    rw [hentries, Option.getD_some] at hrun
    obtain ⟨hsame, hitems⟩ := esiObject_address (hne index entries hentries) hrun
    rw [hsame]
    exact ⟨entries, hentries, (hitems address).mp haddress⟩
  · rintro ⟨entries, hentries, haddress⟩
    have hindex : index ∈ groups.keys.sort := by
      rw [Finset.mem_sort, Finmap.mem_keys, ← Finmap.lookup_isSome, hentries]
      rfl
    obtain ⟨o, ho, hrun⟩ := mem_of_mapM h hindex
    rw [hentries, Option.getD_some] at hrun
    obtain ⟨hsame, hitems⟩ := esiObject_address (hne index entries hentries) hrun
    exact ⟨o, ho, hsame, (hitems address).mpr haddress⟩

theorem mem_roAddresses {n : Nat} {address : Nat × String} :
    address ∈ (List.range n).map (·, "ro") ↔ address.1 < n ∧ address.2 = "ro" := by
  rw [List.mem_map]
  constructor
  · rintro ⟨i, hi, rfl⟩
    exact ⟨List.mem_range.mp hi, rfl⟩
  · rintro ⟨hlt, haccess⟩
    exact ⟨address.1, List.mem_range.mpr hlt, Prod.ext rfl haccess.symm⟩

theorem subindexCount_other {index : Nat} (h : index ∉ communicationIndices) : subindexCount spec index = 1 := by
  simp only [communicationIndices, List.mem_cons, List.not_mem_nil, or_false, not_or] at h
  unfold subindexCount
  split <;> simp_all

theorem subindexCount_pos (spec : Contract) (index : Nat) : 0 < subindexCount spec index := by
  unfold subindexCount
  split <;> omega

/-- What a fixture advertises: the communication area, and outside it the contract and the counts
that it lacks. -/
theorem advertises_iff (h : generateFixture spec = .ok objects) (index : Nat) (address : Nat × String) :
    Advertises objects index address ↔
      index ∈ communicationIndices ∧ address.1 < subindexCount spec index ∧ address.2 = "ro" ∨
      index ∉ communicationIndices ∧ (∃ e ∈ spec.entries, e.index = index) ∧
        GroupAdvertises (spec.entries.filter (·.index = index)) address := by
  unfold generateFixture at h
  cases hgroups : insertAll (communication spec) (groupEntries spec.entries) with
  | error e =>
    rw [hgroups] at h
    cases h
  | ok groups =>
    rw [hgroups] at h
    have hlookup := groups_lookup hgroups
    have hcontract (index : Nat) (hindex : index ∉ communicationIndices) : groups.lookup index =
        if spec.entries.filter (·.index = index) = [] then none
        else some (spec.entries.filter (·.index = index)) :=
      ((hlookup index).2 hindex).trans (groupEntries_lookup spec.entries index)
    have hne : ∀ index entries, groups.lookup index = some entries → entries ≠ [] := by
      intro index entries hentries
      by_cases hindex : index ∈ communicationIndices
      · obtain ⟨entries', hentries', haddress⟩ := (hlookup index).1 hindex
        rw [hentries] at hentries'
        cases hentries'
        rintro rfl
        have hlen := congrArg List.length haddress
        have := subindexCount_pos spec index
        rw [List.length_map, List.length_map, List.length_range, List.length_nil] at hlen
        omega
      · rw [hcontract index hindex] at hentries
        split at hentries
        · cases hentries
        · rename_i hfull
          cases hentries
          exact hfull
    rw [advertises_group hne h]
    by_cases hindex : index ∈ communicationIndices
    · obtain ⟨entries, hentries, haddress⟩ := (hlookup index).1 hindex
      have hzero : ∃ e ∈ entries, e.subindex = 0 := by
        have : (0, "ro") ∈ entries.map ContractEntry.address := by
          rw [haddress, mem_roAddresses]
          exact ⟨subindexCount_pos spec index, rfl⟩
        obtain ⟨e, he, hsame⟩ := List.mem_map.mp this
        exact ⟨e, he, congrArg Prod.fst hsame⟩
      obtain ⟨first, hfirst, hfirst0⟩ := hzero
      simp only [hindex, true_and, not_true_eq_false, false_and, or_false, hentries, Option.some.injEq,
        exists_eq_left', GroupAdvertises, haddress, mem_roAddresses]
      exact or_iff_left fun hno => hno.2 first hfirst hfirst0
    · have hfilter : spec.entries.filter (·.index = index) = [] ↔ ¬ ∃ e ∈ spec.entries, e.index = index := by
        simp
      simp only [hindex, false_and, not_false_eq_true, true_and, false_or, hcontract index hindex, hfilter]
      by_cases hgroup : ∃ e ∈ spec.entries, e.index = index
      · simp [hgroup]
      · simp [hgroup]

theorem subindexCount_le (h : generateFixture spec = .ok objects) (index : Nat) :
    subindexCount spec index ≤ 2 ^ 8 := by
  unfold generateFixture at h
  cases hgroups : insertAll (communication spec) (groupEntries spec.entries) with
  | error e =>
    rw [hgroups] at h
    cases h
  | ok groups =>
    by_cases hindex : index ∈ communicationIndices
    · rw [← communication_indices spec] at hindex
      obtain ⟨object, hobject, rfl⟩ := List.mem_map.mp hindex
      obtain ⟨entries, hentries, -⟩ := (insertAll_lookup (by rw [communication_indices]; decide) hgroups).1
        object hobject
      exact communication_count spec object hobject entries hentries
    · rw [subindexCount_other hindex]
      decide

end EthercatSimulator.Slave
