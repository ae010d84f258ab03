import Mathlib.Data.Finmap
import EthercatSimulator.Base.Run
import EthercatSimulator.Slave.SdoGateway

/-! The guard of the PDO configuration, and the dictionary entries it watches. -/

namespace EthercatSimulator.Slave

open Base

structure FixedMapping where
  expected : Finmap fun _ : Nat × Nat => Nat
  current : Finmap fun _ : Nat × Nat => Nat

namespace FixedMapping

def construct (expected : Finmap fun _ : Nat × Nat => Nat) : FixedMapping := ⟨expected, expected⟩

def write (g : FixedMapping) (index subindex value : Nat) (preop : Bool) : Except String FixedMapping :=
  match preop, g.expected.lookup (index, subindex) with
  | true, some found =>
    if value ≠ found ∧ ¬ (subindex = 0 ∧ value = 0) then
      .error "Changing the selected PDO configuration is unsupported"
    else .ok { g with current := g.current.insert (index, subindex) value }
  | _, _ => .error "PDO configuration write outside supported PRE-OP contract"

def complete (g : FixedMapping) : Bool := g.current = g.expected

/-- What `write` lets pass. -/
def Admits (g : FixedMapping) (index subindex value : Nat) (preop : Bool) : Prop :=
  preop = true ∧ ∃ found, g.expected.lookup (index, subindex) = some found ∧
    (value = found ∨ subindex = 0 ∧ value = 0)

theorem write_cases (g : FixedMapping) (index subindex value : Nat) (preop : Bool) :
    g.Admits index subindex value preop ∧ g.write index subindex value preop =
        .ok { g with current := g.current.insert (index, subindex) value } ∨
      ¬ g.Admits index subindex value preop ∧ ∃ e, g.write index subindex value preop = .error e := by
  unfold write Admits
  cases preop with
  | false => exact .inr ⟨(fun h => nomatch h.1), _, rfl⟩
  | true =>
    cases hfound : g.expected.lookup (index, subindex) with
    | none => exact .inr ⟨(fun ⟨_, _, h, _⟩ => nomatch h), _, rfl⟩
    | some found =>
      dsimp only
      by_cases hvalue : value = found ∨ subindex = 0 ∧ value = 0
      · exact .inl ⟨⟨rfl, _, rfl, hvalue⟩, if_neg fun h => hvalue.elim h.1 h.2⟩
      · refine .inr ⟨?_, _, if_pos ⟨fun h => hvalue (.inl h), fun h => hvalue (.inr h)⟩⟩
        rintro ⟨-, _, hsame, h⟩
        cases hsame
        exact hvalue h

end FixedMapping

/-- `memcpy` of the entry into a number, and of a number into the entry. -/
def Entry.value (entry : Entry) : Nat := leNat (entry.data.take entry.size)

def Entry.store (entry : Entry) (value : Nat) : Entry :=
  { entry with data := leBytes entry.size value ++ entry.data.drop entry.size }

theorem Entry.value_store (entry : Entry) (value : Nat) :
    (entry.store value).value = value % 256 ^ entry.size := by
  have htake : (entry.store value).data.take entry.size = leBytes entry.size value := by
    rw [store, List.take_append_of_le_length (by rw [length_leBytes]),
      List.take_of_length_le (by rw [length_leBytes])]
  rw [← leNat_leBytes, ← htake]
  rfl

def mappingObjects : List Nat := [0x1600, 0x1A00, 0x1C12, 0x1C13]

/-- The dictionary of a slave with the objects it lists, each with its subindices. -/
structure ObjectDictionary where
  objects : List (Nat × List Nat)
  dictionary : Dictionary
  listed : ∀ index sub, (dictionary index sub).isSome ↔ ∃ o ∈ objects, o.1 = index ∧ sub ∈ o.2

def ObjectDictionary.mappingKeys (d : ObjectDictionary) : List (Nat × Nat) :=
  (d.objects.filter (·.1 ∈ mappingObjects)).flatMap fun o => o.2.map fun sub => (o.1, sub)

def mappingValues (dictionary : Dictionary) : List (Nat × Nat) → (Finmap fun _ : Nat × Nat => Nat) →
    Except String (Finmap fun _ : Nat × Nat => Nat)
  | [], values => .ok values
  | key :: rest, values =>
    match dictionary key.1 key.2 with
    | none => mappingValues dictionary rest values
    | some entry =>
      if 32 < entry.bitlen ∨ entry.data = [] then .error "Invalid PDO configuration entry"
      else mappingValues dictionary rest (values.insert key entry.value)

/-- The dictionary of a slave and its guard. -/
structure PdoConfiguration where
  dictionary : Dictionary
  mapping : FixedMapping

def ObjectDictionary.guard (d : ObjectDictionary) : Except String PdoConfiguration := do
  let values ← mappingValues d.dictionary d.mappingKeys ∅
  return ⟨d.dictionary, .construct values⟩

/-- A download to one of the objects. -/
structure MappingWrite where
  index : Nat
  subindex : Nat
  value : Nat
  preop : Bool
  mapped : index ∈ mappingObjects

namespace PdoConfiguration

/-- The hook in `after_access`. -/
def afterAccess (mapping : FixedMapping) (write : Bool) (index subindex : Nat) (target : Entry)
    (preop : Bool) : Except String FixedMapping :=
  if !write then .ok mapping else mapping.write index subindex target.value preop

variable (c : PdoConfiguration) (w : MappingWrite)

def stored (entry : Entry) : Dictionary := fun index subindex =>
  if index = w.index ∧ subindex = w.subindex then some (entry.store w.value)
  else c.dictionary index subindex

/-- The entry is stored before its hook runs; the flag says whether the write was accepted. -/
def download : PdoConfiguration × Bool :=
  match c.dictionary w.index w.subindex with
  | none => (c, false)
  | some entry =>
    match afterAccess c.mapping true w.index w.subindex (entry.store w.value) w.preop with
    | .ok mapping => (⟨c.stored w entry, mapping⟩, true)
    | .error _ => (⟨c.stored w entry, c.mapping⟩, false)

def states (writes : Nat → MappingWrite) : Nat → PdoConfiguration :=
  runOf (fun c w => (c.download w).1) c writes

/-! The agreement of the two. -/

def valueAt (index subindex : Nat) : Option Nat := (c.dictionary index subindex).map Entry.value

/-- Every watched entry has the value that the guard holds for it. -/
def Agrees : Prop := ∀ index ∈ mappingObjects, ∀ subindex value, c.valueAt index subindex = some value →
  c.mapping.current.lookup (index, subindex) = some value

/-- The dictionary shows the selected configuration. -/
def ShowsSelected : Prop := ∀ index ∈ mappingObjects, ∀ subindex value,
  c.valueAt index subindex = some value → c.mapping.expected.lookup (index, subindex) = some value

/-- Guard and dictionary say the same after a write, and a rejected one changes neither. -/
structure InStep : Prop where
  agrees : (c.download w).1.Agrees
  complete : (c.download w).1.mapping.complete = true ↔ (c.download w).1.ShowsSelected
  rejected : (c.download w).2 = false → (c.download w).1.mapping = c.mapping ∧
    ∀ index subindex, (c.download w).1.valueAt index subindex = c.valueAt index subindex

/-- A write that the guard admits, or that stores what the entry holds already. -/
def Harmless : Prop := ∀ entry, c.dictionary w.index w.subindex = some entry →
  c.mapping.Admits w.index w.subindex (w.value % 256 ^ entry.size) w.preop ∨
    w.value % 256 ^ entry.size = entry.value

/-- The guard knows the watched entries and no others. -/
structure Covers : Prop where
  expected : ∀ index subindex, (c.mapping.expected.lookup (index, subindex)).isSome ↔
    index ∈ mappingObjects ∧ (c.valueAt index subindex).isSome
  current : ∀ index subindex, (c.mapping.current.lookup (index, subindex)).isSome ↔
    index ∈ mappingObjects ∧ (c.valueAt index subindex).isSome

variable {c w}

theorem valueAt_stored {entry : Entry} {mapping : FixedMapping} (index subindex : Nat) :
    (⟨c.stored w entry, mapping⟩ : PdoConfiguration).valueAt index subindex =
      if index = w.index ∧ subindex = w.subindex then some (w.value % 256 ^ entry.size)
      else c.valueAt index subindex := by
  unfold valueAt stored
  dsimp only
  split_ifs
  · exact congrArg some (entry.value_store w.value)
  · rfl

/-- A write misses the dictionary, or is admitted, or is stored and then rejected. -/
theorem download_cases (c : PdoConfiguration) (w : MappingWrite) :
    c.dictionary w.index w.subindex = none ∧ c.download w = (c, false) ∨
    ∃ entry, c.dictionary w.index w.subindex = some entry ∧
      (c.mapping.Admits w.index w.subindex (w.value % 256 ^ entry.size) w.preop ∧
        c.download w = (⟨c.stored w entry, { c.mapping with
          current := c.mapping.current.insert (w.index, w.subindex) (w.value % 256 ^ entry.size) }⟩, true) ∨
      ¬ c.mapping.Admits w.index w.subindex (w.value % 256 ^ entry.size) w.preop ∧
        c.download w = (⟨c.stored w entry, c.mapping⟩, false)) := by
  unfold download afterAccess
  cases hentry : c.dictionary w.index w.subindex with
  | none => exact .inl ⟨rfl, rfl⟩
  | some entry =>
    refine .inr ⟨entry, rfl, ?_⟩
    simp only [Bool.not_true, Bool.false_eq_true, if_false, entry.value_store w.value]
    rcases c.mapping.write_cases w.index w.subindex (w.value % 256 ^ entry.size) w.preop with
      ⟨hadmits, hok⟩ | ⟨hrefused, e, herror⟩
    · exact .inl ⟨hadmits, by rw [hok]⟩
    · exact .inr ⟨hrefused, by rw [herror]⟩

theorem valueAt_isSome_stored {entry : Entry} {mapping : FixedMapping}
    (hentry : c.dictionary w.index w.subindex = some entry) (index subindex : Nat) :
    ((⟨c.stored w entry, mapping⟩ : PdoConfiguration).valueAt index subindex).isSome =
      (c.valueAt index subindex).isSome := by
  rw [valueAt_stored]
  split_ifs with hkey
  · rw [hkey.1, hkey.2, valueAt, hentry]
    rfl
  · rfl

theorem Covers.download (h : c.Covers) (w : MappingWrite) : (c.download w).1.Covers := by
  rcases download_cases c w with ⟨-, hrun⟩ | ⟨entry, hentry, ⟨-, hrun⟩ | ⟨-, hrun⟩⟩
  · rw [hrun]
    exact h
  · rw [hrun]
    refine ⟨fun index sub => ?_, fun index sub => ?_⟩
    · rw [valueAt_isSome_stored hentry]
      exact h.expected index sub
    · rw [valueAt_isSome_stored hentry, ← h.current index sub]
      by_cases hkey : (index, sub) = (w.index, w.subindex)
      · cases hkey
        rw [Finmap.lookup_insert, h.current w.index w.subindex, valueAt, hentry]
        exact iff_of_true rfl ⟨w.mapped, rfl⟩
      · rw [Finmap.lookup_insert_of_ne _ hkey]
  · rw [hrun]
    refine ⟨fun index sub => ?_, fun index sub => ?_⟩
    · rw [valueAt_isSome_stored hentry]
      exact h.expected index sub
    · rw [valueAt_isSome_stored hentry]
      exact h.current index sub

theorem complete_iff (hcovers : c.Covers) (hagrees : c.Agrees) :
    c.mapping.complete = true ↔ c.ShowsSelected := by
  unfold FixedMapping.complete
  rw [decide_eq_true_eq]
  constructor
  · intro hsame index hindex sub value hvalue
    rw [← hsame]
    exact hagrees index hindex sub value hvalue
  · intro hshows
    apply Finmap.ext_lookup
    rintro ⟨index, sub⟩
    by_cases hsome : index ∈ mappingObjects ∧ (c.valueAt index sub).isSome
    · obtain ⟨value, hvalue⟩ := Option.isSome_iff_exists.mp hsome.2
      rw [hagrees index hsome.1 sub value hvalue, hshows index hsome.1 sub value hvalue]
    · rw [← hcovers.current, Option.not_isSome_iff_eq_none] at hsome
      rw [hsome, eq_comm, ← Option.not_isSome_iff_eq_none, hcovers.expected, ← hcovers.current, hsome]
      decide

/-- A write keeps the agreement if and only if it is harmless. -/
theorem agrees_download_iff (h : c.Agrees) (w : MappingWrite) : (c.download w).1.Agrees ↔ c.Harmless w := by
  rcases download_cases c w with ⟨hnone, hrun⟩ | ⟨entry, hentry, ⟨hadmits, hrun⟩ | ⟨hrefused, hrun⟩⟩
  · rw [hrun]
    refine iff_of_true h fun entry hentry => ?_
    rw [hnone] at hentry
    cases hentry
  · rw [hrun]
    refine iff_of_true (fun index hindex sub value hvalue => ?_) fun entry' hentry' => ?_
    · rw [valueAt_stored] at hvalue
      by_cases hkey : index = w.index ∧ sub = w.subindex
      · rw [if_pos hkey] at hvalue
        cases hvalue
        rw [hkey.1, hkey.2]
        exact Finmap.lookup_insert _
      · rw [if_neg hkey] at hvalue
        refine (Finmap.lookup_insert_of_ne _ fun hsame => hkey ?_).trans (h index hindex sub value hvalue)
        cases hsame
        exact ⟨rfl, rfl⟩
    · rw [hentry] at hentry'
      cases hentry'
      exact .inl hadmits
  · have hheld : c.valueAt w.index w.subindex = some entry.value := by
      rw [valueAt, hentry]
      rfl
    rw [hrun]
    constructor
    · intro hagrees entry' hentry'
      rw [hentry] at hentry'
      cases hentry'
      have hstored := hagrees w.index w.mapped w.subindex _ ((valueAt_stored _ _).trans (if_pos ⟨rfl, rfl⟩))
      have hcurrent := h w.index w.mapped w.subindex _ hheld
      exact .inr (Option.some.inj (hstored.symm.trans hcurrent))
    · intro hharmless index hindex sub value hvalue
      have hsame := (hharmless entry hentry).resolve_left hrefused
      rw [valueAt_stored] at hvalue
      by_cases hkey : index = w.index ∧ sub = w.subindex
      · rw [if_pos hkey, hsame, ← hheld, ← hkey.1, ← hkey.2] at hvalue
        exact h index hindex sub value hvalue
      · rw [if_neg hkey] at hvalue
        exact h index hindex sub value hvalue

theorem inStep_of_harmless (hcovers : c.Covers) (hagrees : c.Agrees) (h : c.Harmless w) : c.InStep w := by
  have hagrees' := (agrees_download_iff hagrees w).mpr h
  refine ⟨hagrees', complete_iff (hcovers.download w) hagrees', fun hrejected => ?_⟩
  rcases download_cases c w with ⟨-, hrun⟩ | ⟨entry, hentry, ⟨-, hrun⟩ | ⟨hrefused, hrun⟩⟩
  · rw [hrun]
    exact ⟨rfl, fun _ _ => rfl⟩
  · rw [hrun] at hrejected
    cases hrejected
  · rw [hrun]
    refine ⟨rfl, fun index sub => ?_⟩
    rw [valueAt_stored]
    split_ifs with hkey
    · rw [(h entry hentry).resolve_left hrefused, hkey.1, hkey.2, valueAt, hentry]
      rfl
    · rfl

/-! The guard as it is installed. -/

theorem mappingValues_lookup {dictionary : Dictionary} {keys : List (Nat × Nat)}
    {values values' : Finmap fun _ : Nat × Nat => Nat} (h : mappingValues dictionary keys values = .ok values')
    (key : Nat × Nat) : values'.lookup key =
      if key ∈ keys ∧ (dictionary key.1 key.2).isSome then (dictionary key.1 key.2).map Entry.value
      else values.lookup key := by
  induction keys generalizing values with
  | nil =>
    cases h
    simp
  | cons key' rest ih =>
    rw [mappingValues] at h
    cases hentry : dictionary key'.1 key'.2 with
    | none =>
      rw [hentry] at h
      rw [ih h]
      by_cases hkey : key = key'
      · subst hkey
        simp [hentry]
      · simp [hkey]
    | some entry =>
      rw [hentry] at h
      dsimp only at h
      split at h
      · cases h
      · rw [ih h]
        by_cases hkey : key = key'
        · subst hkey
          simp [hentry]
        · simp [hkey]

theorem mem_mappingKeys {d : ObjectDictionary} {index sub : Nat}
    (h : (d.dictionary index sub).isSome) : (index, sub) ∈ d.mappingKeys ↔ index ∈ mappingObjects := by
  obtain ⟨o, ho, rfl, hsub⟩ := (d.listed index sub).mp h
  unfold ObjectDictionary.mappingKeys
  rw [List.mem_flatMap]
  constructor
  · rintro ⟨o', ho', hmem⟩
    obtain ⟨sub', -, hkey⟩ := List.mem_map.mp hmem
    rw [List.mem_filter, decide_eq_true_eq, (Prod.mk.inj hkey).1] at ho'
    exact ho'.2
  · intro hindex
    exact ⟨o, List.mem_filter.mpr ⟨ho, decide_eq_true hindex⟩, List.mem_map.mpr ⟨sub, hsub, rfl⟩⟩

theorem guard_spec {d : ObjectDictionary} (h : d.guard = .ok c) : c.Covers ∧ c.Agrees := by
  unfold ObjectDictionary.guard at h
  cases hvalues : mappingValues d.dictionary d.mappingKeys ∅ with
  | error e =>
    rw [hvalues] at h
    cases h
  | ok values =>
    rw [hvalues] at h
    cases h
    have hlookup (index sub : Nat) : values.lookup (index, sub) =
        if index ∈ mappingObjects then (d.dictionary index sub).map Entry.value else none := by
      rw [mappingValues_lookup hvalues]
      cases hentry : d.dictionary index sub with
      | none => simp
      | some entry =>
        have hmem : (index, sub) ∈ d.mappingKeys ↔ index ∈ mappingObjects :=
          mem_mappingKeys (by rw [hentry]; rfl)
        simp [hmem]
    have hcovers (index sub : Nat) : (values.lookup (index, sub)).isSome ↔
        index ∈ mappingObjects ∧ ((d.dictionary index sub).map Entry.value).isSome := by
      rw [hlookup]
      split_ifs with hindex <;> simp [hindex]
    refine ⟨⟨hcovers, hcovers⟩, fun index hindex sub value hvalue => ?_⟩
    exact ((hlookup index sub).trans (if_pos hindex)).trans hvalue

/-- Guard and dictionary stay in step over a run exactly when every write of it is harmless. -/
theorem guard_in_step {d : ObjectDictionary} (h : d.guard = .ok c) (writes : Nat → MappingWrite) :
    (∀ n, (c.states writes n).InStep (writes n)) ↔ ∀ n, (c.states writes n).Harmless (writes n) := by
  obtain ⟨hcovers, hagrees⟩ := guard_spec h
  have hcover (n : Nat) : (c.states writes n).Covers :=
    runOf.invariant _ c writes Covers hcovers (fun c w hc => hc.download w) n
  constructor
  · intro hstep n
    have hn : (c.states writes n).Agrees := by
      cases n with
      | zero => exact hagrees
      | succ n => exact (hstep n).agrees
    exact (agrees_download_iff hn _).mp (hstep n).agrees
  · intro hharmless n
    have hn : (c.states writes n).Agrees := by
      induction n with
      | zero => exact hagrees
      | succ n ih => exact (agrees_download_iff ih _).mpr (hharmless n)
    exact inStep_of_harmless (hcover n) hn (hharmless n)

/-- The assignment of one PDO, in a dictionary of its own. -/
def assignment : ObjectDictionary where
  objects := [(0x1C12, [0, 1])]
  dictionary index sub :=
    if index = 0x1C12 ∧ sub = 0 then some ⟨8, true, true, [0x01]⟩
    else if index = 0x1C12 ∧ sub = 1 then some ⟨16, true, true, [0x00, 0x16]⟩
    else none
  listed index sub := by
    split_ifs with h0 h1
    · simp [h0]
    · simp [h1]
    · simp only [not_and] at h0 h1
      simp only [Option.isSome_none, Bool.false_eq_true, List.mem_singleton, exists_eq_left, false_iff]
      rintro ⟨rfl, hsub⟩
      simp only [List.mem_cons, List.not_mem_nil, or_false] at hsub
      exact hsub.elim (h0 rfl) (h1 rfl)

def assigned : PdoConfiguration where
  dictionary := assignment.dictionary
  mapping := .construct ((Finmap.insert (0x1C12, 0) 1 ∅).insert (0x1C12, 1) 0x1600)

theorem assignment_guard : assignment.guard = .ok assigned := rfl

theorem expected_download : (c.download w).1.mapping.expected = c.mapping.expected := by
  rcases download_cases c w with ⟨-, hrun⟩ | ⟨entry, -, ⟨-, hrun⟩ | ⟨-, hrun⟩⟩ <;> rw [hrun]

/-- The assignment is cleared again and again. -/
theorem guard_in_step_cleared :
    let clear : MappingWrite := ⟨0x1C12, 0, 0, true, by decide⟩
    ∀ n, (assigned.states (fun _ => clear) n).InStep clear := by
  intro clear
  refine (guard_in_step assignment_guard fun _ => clear).mpr fun n entry _ => .inl ⟨rfl, 1, ?_, ?_⟩
  · exact runOf.invariant _ assigned _ (fun c => c.mapping.expected.lookup (0x1C12, 0) = some 1) rfl
      (fun c w h => by rw [expected_download]; exact h) n
  · exact .inr ⟨rfl, Nat.zero_mod _⟩

/-- Another PDO is rejected, and the dictionary shows it. -/
theorem guard_out_of_step :
    let w : MappingWrite := ⟨0x1C12, 1, 0x1601, true, by decide⟩
    let after := (assigned.download w).1
    assignment.guard = .ok assigned ∧ (assigned.download w).2 = false ∧
      after.valueAt 0x1C12 1 = some 0x1601 ∧ after.mapping.current.lookup (0x1C12, 1) = some 0x1600 ∧
        after.mapping.complete = true ∧ ¬ assigned.InStep w := by
  intro w after
  have hrun : (assigned.download w).2 = false ∧ after.valueAt 0x1C12 1 = some 0x1601 ∧
      after.mapping.current.lookup (0x1C12, 1) = some 0x1600 ∧ after.mapping.complete = true := by
    decide +kernel
  refine ⟨assignment_guard, hrun.1, hrun.2.1, hrun.2.2.1, hrun.2.2.2, fun h => ?_⟩
  have hsame := h.agrees 0x1C12 (by decide) 1 _ hrun.2.1
  rw [hrun.2.2.1] at hsame
  cases hsame

end PdoConfiguration

end EthercatSimulator.Slave
