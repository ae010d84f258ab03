import EthercatSimulator.Slave.FixtureLaws
import EthercatSimulator.Slave.SdoGatewayLaws

/-! The dictionary that a slave advertises, and the part of it that the gateway serves. -/

namespace EthercatSimulator.Slave

open Base Diagnostics

def EsiItem.readable (item : EsiItem) : Bool := 'r' ∈ item.access.toList

def EsiItem.entry (item : EsiItem) : Entry where
  bitlen := item.bits
  readable := item.readable
  writable := 'w' ∈ item.access.toList
  data := (fromHex item.default).getD []

/-- The dictionary of a slave that has loaded the fixture. -/
def loaded (objects : List EsiObject) : Dictionary := fun index subindex =>
  ((objects.find? (·.index = index)).bind fun o => o.items.find? (·.subindex = subindex)).map EsiItem.entry

/-- The entries of the contract, each of which the dictionary must have with its size. -/
def registerEntries (dictionary : Dictionary) : List ContractEntry → Except String Unit
  | [] => .ok ()
  | e :: rest =>
    match dictionary e.index e.subindex with
    | none => .error "ESI/model entry mismatch"
    | some entry =>
      if entry.data = [] ∨ entry.bitlen ≠ e.bits then .error "ESI/model entry mismatch"
      else registerEntries dictionary rest

def buildGateway (spec : Contract) (objects : List EsiObject) : Except String SdoGateway := do
  registerEntries (loaded objects) spec.entries
  return ⟨spec.entries.map ContractEntry.key, true⟩

/-- `wrappedFactory` keeps a message from the upstream mailbox if `lower_bound` finds its index. -/
def SdoGateway.claims (gateway : SdoGateway) (raw : Bytes) : Bool :=
  dataOffset ≤ raw.length && (readByte raw 5).map (· % 16) = some 3 &&
    (readByte raw 7).map (· / 16) = some 2 && gateway.entries.any fun e => readWord raw 9 = some e.1

/-- A request to upload an object. -/
structure Upload (raw : Bytes) (index subindex : Nat) : Prop where
  length : ∃ len, readWord raw 0 = some len ∧ 10 ≤ len ∧ 6 + len ≤ raw.length
  type : (readByte raw 5).map (· % 16) = some 3
  service : (readByte raw 7).map (· / 16) = some 2
  command : ∃ b, readByte raw 8 = some b ∧ (Command.ofByte b).command = 2 ∧
    (Command.ofByte b).completeAccess = false
  index : readWord raw 9 = some index
  subindex : readByte raw 11 = some subindex

/-- The gateway answers that the subindex does not exist. -/
def SubindexMissing (gateway : SdoGateway) (dictionary : Dictionary) (raw : Bytes) : Prop :=
  gateway.claims raw = true ∧ validate gateway dictionary raw = some (.error 0x06090011)

/-- Every advertised entry with read access can be uploaded. -/
def Served (gateway : SdoGateway) (objects : List EsiObject) : Prop :=
  ∀ o ∈ objects, ∀ item ∈ o.items, item.readable = true → ∀ raw, Upload raw o.index item.subindex →
    ¬ SubindexMissing gateway (loaded objects) raw

/-- The contract has what the fixture adds to the objects of its indices. -/
def SelfContained (spec : Contract) : Prop :=
  ∀ e ∈ spec.entries, ∀ subindex < subindexCount spec e.index,
    (e.index, subindex) ∈ spec.entries.map ContractEntry.key

instance (spec : Contract) : Decidable (SelfContained spec) :=
  inferInstanceAs (Decidable (∀ e ∈ spec.entries, ∀ subindex < _, _ ∈ _))

/-! Uploads. -/

theorem Upload.claims_iff {gateway : SdoGateway} {raw : Bytes} {index subindex : Nat}
    (h : Upload raw index subindex) : gateway.claims raw = true ↔ ∃ e ∈ gateway.entries, e.1 = index := by
  obtain ⟨len, -, hten, hlen⟩ := h.length
  have hdata : dataOffset ≤ raw.length := by
    unfold dataOffset
    omega
  unfold SdoGateway.claims
  rw [h.type, h.service, h.index]
  simp only [hdata, decide_true, Bool.true_and, List.any_eq_true, decide_eq_true_eq, Option.some.injEq]
  exact exists_congr fun e => and_congr_right fun _ => eq_comm

/-- Past the membership test no check of an upload ends with this code. -/
theorem Upload.missing_iff {gateway : SdoGateway} {dictionary : Dictionary} {raw : Bytes}
    {index subindex : Nat} (h : Upload raw index subindex) :
    validate gateway dictionary raw = some (.error 0x06090011) ↔ (index, subindex) ∉ gateway.entries := by
  obtain ⟨len, hword, hten, hlen⟩ := h.length
  obtain ⟨b, hb, hcommand, hsingle⟩ := h.command
  unfold validate
  simp only [hword, hb, h.index, h.subindex, serviceOffset, Nat.reduceAdd, Option.bind_eq_bind,
    Option.bind_some, Option.pure_def]
  rw [if_neg (by omega)]
  by_cases hmem : (index, subindex) ∈ gateway.entries
  · rw [if_neg (not_not_intro hmem), hsingle]
    refine iff_of_false (fun hcode => ?_) (not_not_intro hmem)
    rw [if_neg (by decide)] at hcode
    cases hentry : dictionary index subindex with
    | none =>
      rw [hentry] at hcode
      cases hcode
    | some entry =>
      rw [hentry] at hcode
      have hread : ¬ (Command.ofByte b).command = 1 := by
        rw [hcommand]
        decide
      simp only [hread, if_false] at hcode
      split_ifs at hcode <;> cases hcode
  · rw [if_pos hmem]
    exact iff_of_true rfl hmem

def uploadRequest (index subindex : Nat) : Bytes :=
  [0x0A, 0, 0, 0, 0, 0x03, 0, 0x20, 0x40] ++ leBytes 2 index ++ [UInt8.ofNat subindex, 0, 0, 0, 0]

theorem uploadRequest_upload {index subindex : Nat} (hindex : index < 2 ^ 16) (hsub : subindex < 2 ^ 8) :
    Upload (uploadRequest index subindex) index subindex where
  length := ⟨10, rfl, le_refl _, le_refl _⟩
  type := rfl
  service := rfl
  command := ⟨0x40, rfl, rfl, rfl⟩
  index := congrArg some (leNat_leBytes_of_lt (k := 2) hindex)
  subindex := congrArg some (Nat.mod_eq_of_lt hsub)

/-! Agreement. -/

variable {spec : Contract} {objects : List EsiObject} {gateway : SdoGateway}

theorem entries_of_build (h : buildGateway spec objects = .ok gateway) :
    gateway.entries = spec.entries.map ContractEntry.key := by
  unfold buildGateway at h
  cases hregister : registerEntries (loaded objects) spec.entries with
  | error e =>
    rw [hregister] at h
    cases h
  | ok _ =>
    rw [hregister] at h
    cases h
    rfl

theorem selfContained_of_served (hfixture : generateFixture spec = .ok objects)
    (hgateway : buildGateway spec objects = .ok gateway)
    (hserved : Served gateway objects) : SelfContained spec := by
  have hentries := entries_of_build hgateway
  intro e he subindex hsub
  by_contra hmissing
  obtain ⟨address, haddress, hfirst, hro⟩ : ∃ address, Advertises objects e.index address ∧
      address.1 = subindex ∧ address.2 = "ro" := by
    refine ⟨(subindex, "ro"), (advertises_iff hfixture e.index _).mpr ?_, rfl, rfl⟩
    by_cases hindex : e.index ∈ communicationIndices
    · exact .inl ⟨hindex, hsub, rfl⟩
    · rw [subindexCount_other hindex] at hsub
      have hzero : subindex = 0 := by omega
      subst hzero
      refine .inr ⟨hindex, ⟨e, he, rfl⟩, .inr ⟨rfl, fun e' he' hzero => hmissing ?_⟩⟩
      rw [List.mem_filter, decide_eq_true_eq] at he'
      exact List.mem_map.mpr ⟨e', he'.1, Prod.ext he'.2 hzero⟩
  obtain ⟨o, ho, hindex, hitem⟩ := haddress
  obtain ⟨item, hmem, rfl⟩ := List.mem_map.mp hitem
  subst hfirst
  have hreadable : item.readable = true := by
    unfold EsiItem.readable
    rw [show item.access = "ro" from hro]
    decide
  have hupload : Upload (uploadRequest e.index item.subindex) e.index item.subindex :=
    uploadRequest_upload (spec.addressed e he).1 (lt_of_lt_of_le hsub (subindexCount_le hfixture e.index))
  refine hserved o ho item hmem hreadable (uploadRequest e.index item.subindex) (hindex ▸ hupload)
    ⟨hupload.claims_iff.mpr ?_, hupload.missing_iff.mpr ?_⟩
  · rw [hentries]
    exact ⟨e.key, List.mem_map_of_mem he, rfl⟩
  · rw [hentries]
    exact hmissing

theorem served_of_selfContained (hfixture : generateFixture spec = .ok objects)
    (hgateway : buildGateway spec objects = .ok gateway)
    (hcontained : SelfContained spec) : Served gateway objects := by
  have hentries := entries_of_build hgateway
  intro o ho item hitem hreadable raw hraw ⟨hclaims, hmissing⟩
  rw [hraw.missing_iff, hentries] at hmissing
  obtain ⟨key, hkey, hindex⟩ := hraw.claims_iff.mp hclaims
  rw [hentries] at hkey
  obtain ⟨e, he, rfl⟩ := List.mem_map.mp hkey
  have haddress := (advertises_iff hfixture o.index item.address).mp ⟨o, ho, rfl, List.mem_map_of_mem hitem⟩
  have hadded (hlt : item.subindex < subindexCount spec o.index) :
      (o.index, item.subindex) ∈ spec.entries.map ContractEntry.key := by
    have hsame : e.index = o.index := hindex
    rw [← hsame] at hlt ⊢
    exact hcontained e he item.subindex hlt
  rcases haddress with ⟨-, hlt, -⟩ | ⟨-, -, hgroup | ⟨hcount, -⟩⟩
  · exact hmissing (hadded hlt)
  · obtain ⟨e', he', hsame⟩ := List.mem_map.mp hgroup
    rw [List.mem_filter, decide_eq_true_eq] at he'
    exact hmissing (List.mem_map.mpr ⟨e', he'.1, Prod.ext he'.2 (congrArg Prod.fst hsame)⟩)
  · have hzero : item.subindex = 0 := congrArg Prod.fst hcount
    refine hmissing (hadded ?_)
    rw [hzero]
    exact subindexCount_pos spec o.index

/-- The advertised dictionary is the served one exactly when the contract needs no additions. -/
theorem served_iff (hfixture : generateFixture spec = .ok objects)
    (hgateway : buildGateway spec objects = .ok gateway) :
    Served gateway objects ↔ SelfContained spec :=
  ⟨selfContained_of_served hfixture hgateway, served_of_selfContained hfixture hgateway⟩

/-- A drive with nothing but a controlword, and one with nothing but its software limits. -/
def controlwordContract : Contract where
  vendor := 0x1D
  product := 0x1
  revision := 0x1
  entries := [⟨0x6040, 0, "Controlword", "UINT", 16, "rw", "0000"⟩]
  rx := [⟨0x6040, 0, 16⟩]
  tx := []
  distinct := by decide
  addressed := by decide

def limitsContract : Contract where
  vendor := 0x1D
  product := 0x1
  revision := 0x1
  entries := [⟨0x607D, 1, "Min position limit", "DINT", 32, "rw", "00000000"⟩,
    ⟨0x607D, 2, "Max position limit", "DINT", 32, "rw", "00000000"⟩]
  rx := []
  tx := []
  distinct := by decide
  addressed := by decide

/-- The slave of a contract starts, given the indices of its objects in their order. -/
theorem exists_gateway (indices : List Nat) {groups : Groups}
    (hgroups : insertAll (communication spec) (groupEntries spec.entries) = .ok groups)
    (hindices : groups.keys = indices.toFinset ∧ indices.Nodup ∧ indices.Pairwise (· ≤ ·))
    (hbuild : ((indices.mapM fun index => esiObject index ((groups.lookup index).getD [])).toOption.any
      fun objects => (buildGateway spec objects).isOk) = true) :
    ∃ objects gateway, generateFixture spec = .ok objects ∧ buildGateway spec objects = .ok gateway := by
  obtain ⟨hkeys, hnodup, hsorted⟩ := hindices
  have hsort : groups.keys.sort = indices := by
    rw [hkeys]
    exact (List.toFinset_sort _ hnodup).mpr hsorted
  cases hobjects : indices.mapM fun index => esiObject index ((groups.lookup index).getD []) with
  | error e =>
    rw [hobjects] at hbuild
    cases hbuild
  | ok objects =>
    rw [hobjects] at hbuild
    cases hgateway : buildGateway spec objects with
    | error e =>
      change (buildGateway spec objects).isOk = true at hbuild
      rw [hgateway] at hbuild
      cases hbuild
    | ok gateway =>
      refine ⟨objects, gateway, ?_, hgateway⟩
      unfold generateFixture
      rw [hgroups, ← hobjects, ← hsort]
      rfl

theorem served_iff_controlword : ∃ objects gateway, generateFixture controlwordContract = .ok objects ∧
    buildGateway controlwordContract objects = .ok gateway ∧ Served gateway objects := by
  obtain ⟨objects, gateway, hfixture, hgateway⟩ : ∃ objects gateway,
      generateFixture controlwordContract = .ok objects ∧
        buildGateway controlwordContract objects = .ok gateway :=
    exists_gateway [0x1000, 0x1018, 0x1600, 0x1A00, 0x1C00, 0x1C12, 0x1C13, 0x6040] rfl
      (by decide +kernel) (by decide +kernel)
  exact ⟨objects, gateway, hfixture, hgateway, (served_iff hfixture hgateway).mpr (by decide)⟩

/-- The count of the software limits is advertised, and aborted. -/
theorem unserved_count : ∃ objects gateway, generateFixture limitsContract = .ok objects ∧
    buildGateway limitsContract objects = .ok gateway ∧ ¬ Served gateway objects := by
  obtain ⟨objects, gateway, hfixture, hgateway⟩ : ∃ objects gateway,
      generateFixture limitsContract = .ok objects ∧ buildGateway limitsContract objects = .ok gateway :=
    exists_gateway [0x1000, 0x1018, 0x1600, 0x1A00, 0x1C00, 0x1C12, 0x1C13, 0x607D] rfl
      (by decide +kernel) (by decide +kernel)
  refine ⟨objects, gateway, hfixture, hgateway, fun hserved => ?_⟩
  exact absurd (selfContained_of_served hfixture hgateway hserved) (by decide)

end EthercatSimulator.Slave
