import EthercatSimulator.Profile.Bridge

/-! Dictionaries whose values fit their definitions. -/

namespace EthercatSimulator.Profile

open Base

/-- Written by the motion laws, which know no wire type. -/
def Key.isMotion (key : Key) : Prop :=
  key = Key.targetPosition ∨ key = Key.actualPosition ∨ key = Key.actualVelocity

variable {F : Type} [PyFloat F]

/-- `v` is an integer of the type's range, or a float that packs. -/
structure Fits (t : DataType) (v : Value F) : Prop where
  encodable : Encodable t v
  int : t ≠ .float32 → ∃ n, v = .int n

theorem fits_int {t : DataType} (ht : t ≠ .float32) {n : Int} (hlow : t.low ≤ n) (hhigh : n ≤ t.high) :
    Fits t (.int n : Value F) := by
  refine ⟨⟨leBytesInt t.size n, ?_⟩, fun _ => ⟨n, rfl⟩⟩
  rw [encodeOdValue_int ht]
  change packInt t n = _
  rw [packInt, if_pos ⟨hlow, hhigh⟩]

/-- Whatever is decoded fits. -/
theorem fits_of_decode {t : DataType} {payload : Bytes} {v : Value F}
    (h : decodeOdValue t payload = .ok v) : Fits t v := by
  have hlen : (payload.take t.size).length = t.size := by
    by_contra hne
    unfold decodeOdValue at h
    rw [if_neg hne] at h
    cases h
  have htake : decodeOdValue t (payload.take t.size) = .ok v := by
    rw [← h]
    unfold decodeOdValue
    rw [List.take_take, Nat.min_self]
  refine ⟨encodable_of_decode hlen htake, fun ht => ?_⟩
  unfold decodeOdValue at h
  rw [if_pos hlen] at h
  cases t <;> first | contradiction | (cases h; exact ⟨_, rfl⟩)

/-- Every value has the property its definition asks for. -/
def Od.Meets (P : Key → Definition → Value F → Prop) (od : Od F) : Prop :=
  ∀ key d, definition key = some d → P key d (od key)

/-- Whatever is decoded has the property. -/
def Decodes (P : Key → Definition → Value F → Prop) : Prop := ∀ key d payload v,
  definition key = some d → decodeOdValue d.dataType payload = .ok v → P key d v

/-- Whatever is decoded into an object that can be written has the property. -/
def Takes (P : Key → Definition → Value F → Prop) : Prop := ∀ key d payload v,
  definition key = some d → d.access ≠ .ro → decodeOdValue d.dataType payload = .ok v → P key d v

omit [PyFloat F] in
theorem Decodes.takes {P : Key → Definition → Value F → Prop} (hP : Decodes P) : Takes P :=
  fun key d payload v hd _ => hP key d payload v hd

namespace Od.Meets

variable {P : Key → Definition → Value F → Prop} {od : Od F}

omit [PyFloat F] in
theorem write (h : od.Meets P) (key : Key) (v : Value F)
    (hv : ∀ d, definition key = some d → P key d v) : (od.write key v).Meets P := by
  intro key' d hd
  by_cases hkey : key' = key
  · subst hkey
    rw [od.write_same]
    exact hv d hd
  · rw [od.write_of_ne v hkey]
    exact h key' d hd

omit [PyFloat F] in
theorem writeAll (h : od.Meets P) {values : List (Key × Value F)}
    (hvalues : ∀ kv ∈ values, ∀ d, definition kv.1 = some d → P kv.1 d kv.2) :
    (od.writeAll values).Meets P := by
  induction values generalizing od with
  | nil => exact h
  | cons kv values ih =>
    exact ih (h.write _ _ (hvalues kv List.mem_cons_self)) fun kv' hkv' =>
      hvalues kv' (List.mem_cons_of_mem _ hkv')

omit [PyFloat F] in
theorem decoded (h : od.Meets P) (hP : Decodes P) {key : Key} {d : Definition}
    (hd : definition key = some d) {payload : Bytes} {v : Value F}
    (hv : decodeOdValue d.dataType payload = .ok v) : (od.write key v).Meets P := by
  refine h.write _ _ fun d' hd' => ?_
  rw [hd] at hd'
  cases hd'
  exact hP _ _ _ _ hd hv

omit [PyFloat F] in
theorem taken (h : od.Meets P) (hP : Takes P) {key : Key} {d : Definition} (hd : definition key = some d)
    (haccess : d.access ≠ .ro) {payload : Bytes} {v : Value F} (hv : decodeOdValue d.dataType payload = .ok v) :
    (od.write key v).Meets P := by
  refine h.write _ _ fun d' hd' => ?_
  rw [hd] at hd'
  cases hd'
  exact hP _ _ _ _ hd haccess hv

omit [PyFloat F] in
theorem bridgeWrite {od' : Od F} (h : od.Meets P) (hP : Takes P) {key : Key} {payload : Bytes}
    (hwrite : bridgeWriteSdo od key payload = .ok od') : od'.Meets P := by
  obtain ⟨d, v, hd, haccess, hv, rfl⟩ := bridgeWriteSdo_ok hwrite
  exact h.taken hP hd haccess hv

end Od.Meets

/-- Every value fits its definition, those of the `free` objects apart. -/
def Od.FitsBut (free : Key → Prop) (od : Od F) : Prop :=
  ∀ key d, definition key = some d → ¬ free key → Fits d.dataType (od key)

theorem decodes_fits (free : Key → Prop) :
    Decodes fun key d (v : Value F) => ¬ free key → Fits d.dataType v :=
  fun _ _ _ _ _ hv _ => fits_of_decode hv

namespace Od.FitsBut

variable {free : Key → Prop} {od : Od F}

theorem meets (h : od.FitsBut free) : od.Meets fun key d v => ¬ free key → Fits d.dataType v := h

theorem write (h : od.FitsBut free) (key : Key) (v : Value F)
    (hv : ∀ d, definition key = some d → ¬ free key → Fits d.dataType v) :
    (od.write key v).FitsBut free := h.meets.write key v hv

theorem writeAll (h : od.FitsBut free) {values : List (Key × Value F)}
    (hvalues : ∀ kv ∈ values, ∀ d, definition kv.1 = some d → ¬ free kv.1 → Fits d.dataType kv.2) :
    (od.writeAll values).FitsBut free := h.meets.writeAll hvalues

theorem bridgeWrite {od' : Od F} (h : od.FitsBut free) {key : Key} {payload : Bytes}
    (hwrite : bridgeWriteSdo od key payload = .ok od') : od'.FitsBut free :=
  h.meets.bridgeWrite (decodes_fits free).takes hwrite

end Od.FitsBut

/-- Every value fits its definition, those of the motion laws apart. -/
def Od.Sound (od : Od F) : Prop :=
  ∀ key d, definition key = some d → ¬ key.isMotion → Fits d.dataType (od key)

namespace Od.Sound

variable {od : Od F}

theorem write (h : od.Sound) (key : Key) (v : Value F)
    (hv : ∀ d, definition key = some d → ¬ key.isMotion → Fits d.dataType v) : (od.write key v).Sound :=
  Od.FitsBut.write h key v hv

theorem writeAll (h : od.Sound) {values : List (Key × Value F)}
    (hvalues : ∀ kv ∈ values, ∀ d, definition kv.1 = some d → ¬ kv.1.isMotion → Fits d.dataType kv.2) :
    (od.writeAll values).Sound := Od.FitsBut.writeAll h hvalues

/-- The motion laws write what they like. -/
theorem writeMotion (h : od.Sound) (key : Key) (hkey : key.isMotion) (v : Value F) :
    (od.write key v).Sound := h.write _ _ fun _ _ hmotion => absurd hkey hmotion

/-- An integer object holds an integer of its range. -/
theorem int_range (h : od.Sound) (key : Key) {d : Definition} (hd : definition key = some d)
    (hmotion : ¬ key.isMotion) (ht : d.dataType ≠ .float32) :
    od key = .int (od.int key) ∧ d.dataType.low ≤ od.int key ∧ od.int key ≤ d.dataType.high := by
  obtain ⟨⟨raw, hraw⟩, hint⟩ := h key d hd hmotion
  obtain ⟨n, hn⟩ := hint ht
  have hint : od.int key = n := by rw [Od.int, hn]
  rw [hn, encodeOdValue_int ht] at hraw
  have hrange := packInt_ok (t := d.dataType) (n := n) hraw
  rw [hint]
  exact ⟨hn, hrange.1, hrange.2.1⟩

/-- ... which the motion laws read as a number. -/
theorem real_num {od : Od ExtRat} (h : od.Sound) (key : Key) {d : Definition}
    (hd : definition key = some d) (hmotion : ¬ key.isMotion) (ht : d.dataType ≠ .float32) :
    ∃ q, od.real key = .num q := by
  refine ⟨od.int key, ?_⟩
  unfold Od.real
  rw [(h.int_range key hd hmotion ht).1]
  rfl

theorem bridgeWrite {od' : Od F} (h : od.Sound) {key : Key} {payload : Bytes}
    (hwrite : bridgeWriteSdo od key payload = .ok od') : od'.Sound := Od.FitsBut.bridgeWrite h hwrite

end Od.Sound

/-! The values the device description starts with. -/

/-- The preset has the type's kind and range. -/
def PresetValue.Suits (t : DataType) : PresetValue → Prop
  | .int n => t ≠ .float32 ∧ t.low ≤ n ∧ n ≤ t.high
  | .decimal q => t = .float32 ∧ |q| ≤ 1000

instance (t : DataType) : (v : PresetValue) → Decidable (v.Suits t)
  | .int n => inferInstanceAs (Decidable (t ≠ .float32 ∧ t.low ≤ n ∧ n ≤ t.high))
  | .decimal q => inferInstanceAs (Decidable (t = .float32 ∧ |q| ≤ 1000))

theorem PresetValue.Suits.fits {t : DataType} {v : PresetValue} (h : v.Suits t) :
    Fits t (v.value : Value F) := by
  cases v with
  | int n => exact fits_int h.1 h.2.1 h.2.2
  | decimal q =>
    obtain ⟨rfl, hq⟩ := h
    obtain ⟨bits, hbits⟩ := PyFloat.pack32_ofRat (F := F) q hq
    refine ⟨⟨leBytes 4 bits.toNat, ?_⟩, fun ht => absurd rfl ht⟩
    change packFloat (PyFloat.ofRat q) = _
    rw [packFloat, hbits]

theorem presets_suit (mode : AxisMode) :
    ∀ kv ∈ presets mode, ∀ d ∈ definition kv.1, kv.2.Suits d.dataType := by
  cases mode <;> decide +kernel

theorem defaults_suit :
    ∀ kd ∈ definitions, kd.2.pdo = true →
      kd.2.dataType ≠ .float32 ∧ kd.2.dataType.low ≤ kd.2.default ∧ kd.2.default ≤ kd.2.dataType.high := by
  decide +kernel

theorem fits_zero (t : DataType) : Fits t (.int 0 : Value F) := by
  by_cases ht : t = .float32
  · subst ht
    obtain ⟨bits, hbits⟩ := PyFloat.pack32_ofRat (F := F) 0 (by norm_num)
    refine ⟨⟨leBytes 4 bits.toNat, ?_⟩, fun ht => absurd rfl ht⟩
    change packFloat (PyFloat.ofInt 0) = _
    rw [packFloat, ← PyFloat.ofRat_intCast, Int.cast_zero, hbits]
  · exact fits_int ht (by cases t <;> decide) (by cases t <;> decide)

theorem mem_definitions {key : Key} {d : Definition} (h : definition key = some d) :
    (key, d) ∈ definitions := by
  obtain ⟨before, rest, hsplit, _⟩ := List.lookup_eq_some_iff.mp h
  exact hsplit ▸ List.mem_append_right _ List.mem_cons_self

section Reset

variable {free : Key → Prop} {od : Od F}

theorem Od.FitsBut.resetNonPdoConfiguration (h : od.FitsBut free) (mode : AxisMode) :
    (od.resetNonPdoConfiguration mode).FitsBut free := by
  apply h.writeAll
  intro kv hkv d hd _
  obtain ⟨preset, hpreset, rfl⟩ := List.mem_map.mp hkv
  exact (presets_suit mode preset hpreset d hd).fits

theorem Od.FitsBut.resetPdoValues (h : od.FitsBut free) : od.resetPdoValues.FitsBut free := by
  intro key d hd hfree
  have hvalue : od.resetPdoValues key = if d.pdo then .int d.default else od key := by
    unfold Od.resetPdoValues
    rw [hd]
  rw [hvalue]
  split
  · rename_i hpdo
    obtain ⟨ht, hlow, hhigh⟩ := defaults_suit _ (mem_definitions hd) hpdo
    exact fits_int ht hlow hhigh
  · exact h key d hd hfree

theorem configured_fits (mode : AxisMode) : (Od.configured mode : Od F).FitsBut free := by
  have hzero : Od.FitsBut free (fun _ => .int 0 : Od F) := fun _ d _ _ => fits_zero d.dataType
  exact (hzero.resetNonPdoConfiguration mode).resetPdoValues

end Reset

theorem Od.Sound.resetNonPdoConfiguration {od : Od F} (h : od.Sound) (mode : AxisMode) :
    (od.resetNonPdoConfiguration mode).Sound := Od.FitsBut.resetNonPdoConfiguration h mode

theorem Od.Sound.resetPdoValues {od : Od F} (h : od.Sound) : od.resetPdoValues.Sound :=
  Od.FitsBut.resetPdoValues h

theorem configured_sound (mode : AxisMode) : (Od.configured mode : Od F).Sound := configured_fits mode

/-! Process data. -/

/-- The object has the type of its definition. -/
def PdoObject.Declared : PdoObject → Prop
  | .padding _ => True
  | .mapped key t _ => (definition key).map (·.dataType) = some t

instance : (o : PdoObject) → Decidable o.Declared
  | .padding _ => inferInstanceAs (Decidable True)
  | .mapped key t _ => inferInstanceAs (Decidable ((definition key).map (·.dataType) = some t))

theorem rxpdoObjects_declared : ∀ o ∈ rxpdoObjects, o.Declared := by decide

/-- What went out has a wire form. -/
theorem encodable_of_objects {od : Od F} {objects : List PdoObject} {output : Bytes}
    (h : encodePdoObjects od objects = .ok output) {key : Key} {t : DataType} {default : Int}
    (hmem : .mapped key t default ∈ objects) : Encodable t (od key) := by
  induction objects generalizing output with
  | nil => cases hmem
  | cons o rest ih =>
    obtain ⟨raw, hraw, hrest⟩ := bind_ok.mp h
    obtain ⟨tail, htail, _⟩ := bind_ok.mp hrest
    rcases List.mem_cons.mp hmem with rfl | hmem
    · exact ⟨raw, hraw⟩
    · exact ih htail hmem

omit [PyFloat F] in
/-- Process data of any content keeps what decoding gives, also where it is refused half way. -/
theorem rxpdoFrom_meets {P : Key → Definition → Value F → Prop} (hP : Decodes P) (payload : Bytes)
    {objects : List PdoObject} (hobjects : ∀ o ∈ objects, o.Declared) (offset : Nat) {od : Od F}
    (h : od.Meets P) : (rxpdoFrom payload objects offset).Post od fun _ od' => od'.Meets P := by
  induction objects generalizing offset od with
  | nil => exact h
  | cons o rest ih =>
    have hrest := fun offset {od : Od F} (h : od.Meets P) =>
      ih (fun o' ho' => hobjects o' (List.mem_cons_of_mem _ ho')) offset h
    apply Exec.post_require_bind
    · intro _
      cases o with
      | padding n => exact hrest _ h
      | mapped key t _ =>
        have hdeclared : (definition key).map (·.dataType) = some t :=
          hobjects _ List.mem_cons_self
        obtain ⟨d, hd, rfl⟩ := Option.map_eq_some_iff.mp hdeclared
        apply Exec.Post.bind
        · apply Exec.Post.bind
          · apply Exec.post_ofExcept
            intro v hv _ _
            exact hrest _ (h.decoded hP hd hv)
          · apply Exec.post_ofExcept
            intro e _ _ he
            cases he
        · apply Exec.Post.bind
          · apply Exec.post_ofExcept
            intro v _ e he
            cases he
          · apply Exec.post_ofExcept
            intro _ _ _ _
            exact h
    · exact fun _ => h

omit [PyFloat F] in
theorem rxpdoPayloadToOd_meets {P : Key → Definition → Value F → Prop} (hP : Decodes P) (payload : Bytes) :
    (rxpdoPayloadToOd payload : PyM (Od F) Unit).Keeps (Exec.Preserves fun od => od.Meets P) :=
  fun _ hod => rxpdoFrom_meets hP payload rxpdoObjects_declared 0 hod

theorem rxpdoFrom_sound (payload : Bytes) {objects : List PdoObject}
    (hobjects : ∀ o ∈ objects, o.Declared) (offset : Nat) {od : Od F} (h : od.Sound) :
    (rxpdoFrom payload objects offset).Post od fun _ od' => od'.Sound :=
  rxpdoFrom_meets (decodes_fits Key.isMotion) payload hobjects offset h

end EthercatSimulator.Profile
