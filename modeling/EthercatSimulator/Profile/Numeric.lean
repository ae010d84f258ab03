import EthercatSimulator.Profile.Sound

/-! Dictionaries whose positions and velocities are numbers, in exact arithmetic. -/

namespace EthercatSimulator.Profile

open Base ExtRat

/-- The value is read as a number. -/
def Value.Numeric (v : Value ExtRat) : Prop := ∃ q, v.toFloat = num q

theorem numeric_int (n : Int) : (Value.int n : Value ExtRat).Numeric := ⟨n, rfl⟩
theorem numeric_num (q : ℚ) : (Value.float (num q) : Value ExtRat).Numeric := ⟨q, rfl⟩

theorem PresetValue.numeric (v : PresetValue) : (v.value : Value ExtRat).Numeric := by
  cases v with
  | int n => exact numeric_int n
  | decimal q => exact numeric_num q

/-- The objects the motion laws write hold numbers. -/
def Od.Numeric (od : Od ExtRat) : Prop := ∀ key, key.isMotion → (od key).Numeric

namespace Od.Numeric

variable {od : Od ExtRat}

theorem write (h : od.Numeric) (key : Key) {v : Value ExtRat} (hv : key.isMotion → v.Numeric) :
    (od.write key v).Numeric := by
  intro key' hmotion
  by_cases hkey : key' = key
  · subst hkey
    rw [od.write_same]
    exact hv hmotion
  · rw [od.write_of_ne v hkey]
    exact h key' hmotion

theorem writeAll (h : od.Numeric) {values : List (Key × Value ExtRat)}
    (hvalues : ∀ kv ∈ values, kv.1.isMotion → kv.2.Numeric) : (od.writeAll values).Numeric := by
  induction values generalizing od with
  | nil => exact h
  | cons kv values ih =>
    exact ih (h.write _ (hvalues kv List.mem_cons_self)) fun kv' hkv' =>
      hvalues kv' (List.mem_cons_of_mem _ hkv')

theorem resetNonPdoConfiguration (h : od.Numeric) (mode : AxisMode) :
    (od.resetNonPdoConfiguration mode).Numeric := by
  apply h.writeAll
  intro kv hkv _
  obtain ⟨kp, -, rfl⟩ := List.mem_map.mp hkv
  exact kp.2.numeric

theorem resetPdoValues (h : od.Numeric) : od.resetPdoValues.Numeric := by
  intro key hmotion
  unfold Od.resetPdoValues
  split
  · split
    · exact numeric_int _
    · exact h key hmotion
  · exact h key hmotion

/-- The wire types of these objects are integers. -/
theorem of_decode {key : Key} {d : Definition} {payload : Bytes} {v : Value ExtRat}
    (hmotion : key.isMotion) (hd : definition key = some d)
    (hv : decodeOdValue d.dataType payload = .ok v) : v.Numeric := by
  have ht : d.dataType ≠ .float32 := by
    rcases hmotion with rfl | rfl | rfl <;> cases hd <;> decide
  obtain ⟨n, rfl⟩ := (fits_of_decode hv).int ht
  exact numeric_int n

theorem bridgeWrite (h : od.Numeric) {od' : Od ExtRat} {key : Key} {payload : Bytes}
    (hwrite : bridgeWriteSdo od key payload = .ok od') : od'.Numeric := by
  obtain ⟨d, v, hd, -, hv, rfl⟩ := bridgeWriteSdo_ok hwrite
  exact h.write key fun hmotion => of_decode hmotion hd hv

end Od.Numeric

theorem configured_numeric (mode : AxisMode) : (Od.configured mode : Od ExtRat).Numeric := by
  have hzero : Od.Numeric fun _ => .int 0 := fun _ _ => numeric_int 0
  exact (hzero.resetNonPdoConfiguration mode).resetPdoValues

/-- A frame writes what it decodes. -/
theorem rxpdoFrom_numeric (payload : Bytes) {objects : List PdoObject}
    (hobjects : ∀ o ∈ objects, ∀ key t default, o = .mapped key t default → t ≠ .float32)
    (offset : Nat) {od : Od ExtRat} (h : od.Numeric) : (rxpdoFrom payload objects offset od).2.Numeric := by
  induction objects generalizing offset od with
  | nil => exact h
  | cons o rest ih =>
    have hrest := fun offset {od : Od ExtRat} (h : od.Numeric) =>
      ih (fun o ho => hobjects o (List.mem_cons_of_mem _ ho)) offset h
    change (rxpdoFrom payload (o :: rest) offset).Post od fun _ od' => od'.Numeric
    apply Exec.post_require_bind
    · intro _
      cases o with
      | padding n => exact hrest _ h
      | mapped key t default =>
        have ht := hobjects _ List.mem_cons_self key t default rfl
        apply Exec.Post.bind
        · apply Exec.Post.bind
          · apply Exec.post_ofExcept
            intro v hv _ _
            obtain ⟨n, rfl⟩ := (fits_of_decode hv).int ht
            exact hrest _ (h.write key fun _ => numeric_int n)
          · apply Exec.post_ofExcept
            intro e _ _ he
            cases he
        · apply Exec.Post.bind
          · apply Exec.post_ofExcept
            intro v _ _ he
            cases he
          · apply Exec.post_ofExcept
            intro e _ _ _
            exact h
    · exact fun _ => h

end EthercatSimulator.Profile
