import Mathlib.Data.List.Basic

/-! Dictionaries that keep the order of insertion, as lists of pairs. -/

namespace EthercatSimulator.Base.Dict

/-- Objects are found by index and subindex. -/
instance instLawfulBEqPair : LawfulBEq (Nat × Nat) := inferInstance

variable {K V : Type} [BEq K]

/-- `d[key] = value`: in the place of the old value, or at the end. -/
def set (key : K) (value : V) : List (K × V) → List (K × V)
  | [] => [(key, value)]
  | (k, v) :: rest => if key == k then (key, value) :: rest else (k, v) :: set key value rest

/-- A value that looks alike takes the place of another one. -/
theorem map_set {W : Type} {f : V → W} {key : K} {v v' : V} {d : List (K × V)} (h : d.lookup key = some v)
    (hf : f v' = f v) : (set key v' d).map (fun kv => f kv.2) = d.map fun kv => f kv.2 := by
  induction d with
  | nil => cases h
  | cons kv rest ih =>
    obtain ⟨k, w⟩ := kv
    rw [List.lookup_cons] at h
    rw [set]
    by_cases hk : key == k
    · rw [hk] at h
      cases h
      rw [if_pos hk, List.map_cons, List.map_cons, hf]
    · rw [Bool.eq_false_iff.mpr hk] at h
      rw [if_neg hk, List.map_cons, List.map_cons, ih h]

variable [LawfulBEq K]

theorem lookup_set (key key' : K) (value : V) (d : List (K × V)) :
    (set key value d).lookup key' = if key' == key then some value else d.lookup key' := by
  induction d with
  | nil =>
    rw [set, List.lookup_cons]
    split <;> rename_i h <;> simp [h]
  | cons kv rest ih =>
    obtain ⟨k, v⟩ := kv
    rw [set]
    by_cases hk : key == k
    · have heq := eq_of_beq hk
      subst heq
      rw [if_pos hk, List.lookup_cons, List.lookup_cons]
      split <;> rename_i h <;> simp [h]
    · rw [if_neg hk, List.lookup_cons, List.lookup_cons, ih]
      by_cases h : key' == k
      · have heq := eq_of_beq h
        subst heq
        have hkey : ¬ (key' == key) := fun hkey => hk (by rw [eq_of_beq hkey]; exact beq_self_eq_true key)
        simp [hkey]
      · simp [h]

/-- In a dictionary every key stands for one value. -/
theorem lookup_iff_mem {key : K} {value : V} {d : List (K × V)} (h : (d.map Prod.fst).Nodup) :
    d.lookup key = some value ↔ (key, value) ∈ d := by
  induction d with
  | nil => exact iff_of_false nofun nofun
  | cons kv rest ih =>
    obtain ⟨k, v⟩ := kv
    obtain ⟨hk, hrest⟩ := List.nodup_cons.mp h
    rw [List.lookup_cons, List.mem_cons, Prod.mk.injEq]
    cases hkey : key == k with
    | true =>
      have heq := eq_of_beq hkey
      subst heq
      refine ⟨fun h => .inl ⟨rfl, (Option.some.inj h).symm⟩, fun h => h.elim (fun h => h.2 ▸ rfl) fun h => ?_⟩
      exact absurd (List.mem_map_of_mem (f := Prod.fst) h) hk
    | false =>
      rw [ih hrest]
      exact ⟨.inr, fun h => h.resolve_left fun h => by simp [h.1] at hkey⟩

/-- The order of the keys does not matter. -/
theorem lookup_perm {d d' : List (K × V)} (h : (d.map Prod.fst).Nodup) (hperm : d.Perm d') (key : K) :
    d.lookup key = d'.lookup key := by
  have h' : (d'.map Prod.fst).Nodup := (hperm.map _).nodup_iff.mp h
  refine Option.ext fun value => ?_
  rw [lookup_iff_mem h, lookup_iff_mem h', hperm.mem_iff]

end EthercatSimulator.Base.Dict
