import EthercatSimulator.Profile.Sound
import EthercatSimulator.Storage.RestoreLaws

/-! Which snapshots of saved values are loaded. -/

namespace EthercatSimulator.Storage

open Base Profile Ipc EthercatSimulator.Runtime

variable {F σ : Type} [PyFloat F] {format : Format} {device : Device} {A : DriveAdapter F σ}
  {P : ParameterAccess F σ} {od opened : Od F} {values expected : List (Key × Bytes)}

/-- A value that is saved is no NaN and no infinity. -/
def FiniteValue (kv : Key × Bytes) : Prop :=
  ∀ d, definition kv.1 = some d → d.dataType = .float32 → finite32 (BitVec.ofNat 32 (leNat kv.2)) = true

/-- What an object is read and decoded to. -/
def Reread (od : Od F) (kv : Key × Value F) : Prop :=
  ∃ d raw, definition kv.1 = some d ∧ bridgeReadSdo od kv.1 = .ok raw ∧ decodeOdValue d.dataType raw = .ok kv.2

omit [PyFloat F] in
theorem isFinite_decode {t : DataType} {raw : Bytes} {v : Value F} (hlen : raw.length = t.size)
    (h : decodeOdValue t raw = .ok v) :
    isFinite v = true ↔ (t = .float32 → finite32 (BitVec.ofNat 32 (leNat raw)) = true) := by
  by_cases ht : t = .float32
  · subst ht
    unfold decodeOdValue at h
    rw [List.take_of_length_le hlen.le, if_pos hlen] at h
    cases h
    exact ⟨fun hfinite _ => hfinite, fun hfinite => hfinite rfl⟩
  · rw [decodeOdValue_int ht hlen] at h
    cases h
    exact iff_of_true rfl fun hfloat => absurd hfloat ht

/-- A value that is read in one model decodes in another one whose units are the same, once it is finite. -/
theorem decodeParameter_snapshot (hnodup : (values.map fun kv => keyText kv.1).Nodup) {key : Key} {raw original : Bytes}
    (hkv : (key, raw) ∈ values) (hread : bridgeReadSdo od key = .ok raw)
    (horiginal : bridgeReadSdo opened key = .ok original)
    (hunit : ∀ d, definition key = some d → d.access = .ro → opened key = od key) (path : String) :
    (FiniteValue (key, raw) → ∃ v : Value F,
      decodeParameter path (snapshotValues values) key original = .ok (key, v) ∧ Reread od (key, v)) ∧
    ∀ kv : Key × Value F, decodeParameter path (snapshotValues values) key original = .ok kv → FiniteValue (key, raw) := by
  have htext := lookup_snapshotValues hnodup hkv
  dsimp only at htext
  obtain ⟨d, hd, hencode⟩ := bridgeReadSdo_ok.mp hread
  obtain ⟨d', hd', hencode'⟩ := bridgeReadSdo_ok.mp horiginal
  obtain rfl : d = d' := Option.some.inj (hd.symm.trans hd')
  have hlen : raw.length = d.dataType.size := length_of_encode hencode
  constructor
  · intro hfinite
    obtain ⟨v, hv⟩ := decodeOdValue_ok (F := F) hlen
    have hsame : d.access = .ro → hexText raw = hexText original := fun hro => by
      have hvalue : opened.read key = od.read key := hunit d hd hro
      rw [hvalue] at hencode'
      rw [Except.ok.inj (hencode'.symm.trans hencode)]
    refine ⟨v, decodeParameter_ok.mpr ⟨rfl, d, hexText raw, raw, hd, htext, ?_, fromHex_hexText raw, hv, ?_,
      encodable_of_decode hlen hv, hsame⟩, d, raw, hd, hread, hv⟩
    · rw [length_hexText, length_hexText, hlen, length_of_encode hencode']
    · exact (isFinite_decode hlen hv).mpr (hfinite d hd)
  · intro kv hdecode
    obtain ⟨_, d', raw', payload, hdecoded⟩ := decodeParameter_ok.mp hdecode
    obtain rfl : hexText raw = raw' := Option.some.inj (htext.symm.trans hdecoded.text)
    obtain rfl : raw = payload := Option.some.inj ((fromHex_hexText raw).symm.trans hdecoded.hex)
    obtain rfl : d = d' := Option.some.inj (hd.symm.trans hdecoded.definition)
    intro d' hd'
    obtain rfl : d = d' := Option.some.inj (hd.symm.trans hd')
    exact (isFinite_decode hlen hdecoded.value).mp hdecoded.finite

/-- The snapshot of one model loads in another one whose units are the same if and only if what is saved is
finite. -/
theorem decodeSnapshot_snapshot (hserves : Serves A P) (hread : valuesOf od A.persistentRoles = .ok values)
    (hexpected : valuesOf opened A.persistentRoles = .ok expected)
    (hunits : ∀ key ∈ A.persistentRoles, ∀ d, definition key = some d → d.access = .ro → opened key = od key)
    (hvalid : ∀ decoded : List (Key × Value F), decoded.map Prod.fst = A.persistentRoles →
      (∀ kv ∈ decoded, Reread od kv) → P.validate decoded = .ok ())
    (hparse : format.parse (format.dump (snapshot format device values)) = .ok (snapshot format device values)) :
    (∃ decoded, decodeSnapshot format device A P opened (format.dump (snapshot format device values)) = .ok decoded) ↔
      ∀ kv ∈ values, FiniteValue kv := by
  obtain ⟨hkeys, hreads⟩ := valuesOf_ok.mp hread
  obtain ⟨hroles, hopened⟩ := valuesOf_ok.mp hexpected
  have hnodup : (values.map fun kv => keyText kv.1).Nodup := by
    have hroles := hserves.nodup
    rwa [← hkeys, List.map_map] at hroles
  have hmem (key : Key) : (∃ raw, (key, raw) ∈ values) ↔ ∃ original, (key, original) ∈ expected := by
    have hsame : key ∈ values.map Prod.fst ↔ key ∈ expected.map Prod.fst := by rw [hkeys, hroles]
    simpa using hsame
  have hunit {key : Key} {raw : Bytes} (hkv : (key, raw) ∈ values) :
      ∀ d, definition key = some d → d.access = .ro → opened key = od key :=
    hunits key (hkeys ▸ List.mem_map_of_mem (f := Prod.fst) hkv)
  constructor
  · rintro ⟨decoded, hdecoded⟩ ⟨key, raw⟩ hkv
    obtain ⟨data, document, expected', hrestored⟩ := decodeSnapshot_ok.mp hdecoded
    cases hparse.symm.trans hrestored.parse
    cases (checkDocument_snapshot values).symm.trans hrestored.check
    cases hexpected.symm.trans hrestored.read
    obtain ⟨original, he⟩ := (hmem key).mp ⟨raw, hkv⟩
    obtain ⟨kv, _, hone⟩ := mem_of_mapM hrestored.decode he
    exact (decodeParameter_snapshot hnodup hkv (hreads _ hkv) (hopened _ he) (hunit hkv) device.path).2 kv hone
  · intro hfinite
    have hone : ∀ e ∈ expected, ∃ kv : Key × Value F,
        decodeParameter device.path (snapshotValues values) e.1 e.2 = .ok kv ∧ kv.1 = e.1 ∧ Reread od kv := by
      rintro ⟨key, original⟩ he
      obtain ⟨raw, hkv⟩ := (hmem key).mpr ⟨original, he⟩
      obtain ⟨v, hdecode, hreread⟩ :=
        (decodeParameter_snapshot hnodup hkv (hreads _ hkv) (hopened _ he) (hunit hkv) device.path).1 (hfinite _ hkv)
      exact ⟨(key, v), hdecode, rfl, hreread⟩
    obtain ⟨decoded, hdecoded⟩ : ∃ decoded : List (Key × Value F), List.Forall₂ (fun e kv =>
        decodeParameter device.path (snapshotValues values) e.1 e.2 = .ok kv ∧ kv.1 = e.1 ∧ Reread od kv) expected decoded :=
      exists_forall₂ hone
    refine ⟨decoded, decodeSnapshot_ok.mpr ⟨_, _, expected, hparse, checkDocument_snapshot values, hexpected, ?_, ?_, ?_⟩⟩
    · have htexts : (expected.map fun kv => keyText kv.1) = values.map fun kv => keyText kv.1 := by
        have hsame := congrArg (List.map keyText) (hroles.trans hkeys.symm)
        rwa [List.map_map, List.map_map] at hsame
      rw [htexts]
      exact hasFields_snapshotValues values
    · exact mapM_ok.mpr (hdecoded.imp fun _ _ h => h.1)
    · refine hvalid decoded ?_ fun kv hkv => ?_
      · rw [← hroles]
        exact (map_eq_of_forall₂ hdecoded fun _ _ h => h.2.1.symm).symm
      · obtain ⟨_, _, h⟩ := exists_left_of_forall₂ hdecoded hkv
        exact h.2.2

theorem exists_valuesOf {roles : List Key} (h : ∀ key ∈ roles, ∃ raw, bridgeReadSdo od key = .ok raw) :
    ∃ values, valuesOf od roles = .ok values := by
  have hone : ∀ key ∈ roles, ∃ kv, (key, ·) <$> bridgeReadSdo od key = .ok kv := by
    intro key hkey
    obtain ⟨raw, hraw⟩ := h key hkey
    exact ⟨(key, raw), by rw [hraw]; rfl⟩
  obtain ⟨values, hvalues⟩ := exists_forall₂ hone
  exact ⟨values, mapM_ok.mpr hvalues⟩

/-- Values that are saved are valid. -/
theorem Serves.saved_valid (hserves : Serves A P) {s : σ} (h : (Storage.savedValues A s).1 = .ok values) :
    P.validate (A.persistentRoles.map fun key => (key, (hserves.od s).read key)) = .ok () ∧
      valuesOf (hserves.od s) A.persistentRoles = .ok values := by
  rw [hserves.savedValues] at h
  cases hvalid : P.validate (A.persistentRoles.map fun key => (key, (hserves.od s).read key)) with
  | error e =>
    rw [hvalid] at h
    cases h
  | ok _ =>
    rw [hvalid] at h
    dsimp only at h
    rw [hserves.parameterValues] at h
    exact ⟨rfl, h⟩

/-! What a load leaves. -/

theorem Serves.load_ok (hserves : Serves A P) {files : Files String UInt8} {found : Bool} {s s' : σ}
    (h : load format device A P files s = (.ok found, s')) : s' = s ∨
      ∃ text decoded, decodeSnapshot format device A P (hserves.od s) text = .ok decoded ∧
        s' = Storage.writeDecoded P decoded s := by
  unfold load at h
  cases hfile : files device.path with
  | none =>
    rw [hfile] at h
    cases h
    exact .inl rfl
  | some text =>
    rw [hfile, hserves.loadFound] at h
    split at h
    · next decoded hdecoded =>
      cases h
      exact .inr ⟨text, decoded, hdecoded, rfl⟩
    · cases h

/-- A load keeps what decoding gives to the objects that can be written, and what a value that is read and
decoded has where they cannot. -/
theorem Serves.load_meets (hserves : Serves A P) {Q : Key → Definition → Value F → Prop} (hQ : Takes Q)
    (hreread : ∀ key d v w raw, definition key = some d → Q key d v → encodeOdValue d.dataType v = .ok raw →
      decodeOdValue d.dataType raw = .ok w → Q key d w)
    {files : Files String UInt8} {found : Bool} {s s' : σ}
    (h : load format device A P files s = (.ok found, s')) (hs : (hserves.od s).Meets Q) : (hserves.od s').Meets Q := by
  rcases hserves.load_ok h with rfl | ⟨text, decoded, hdecoded, rfl⟩
  · exact hs
  · obtain ⟨data, document, expected, hrestored⟩ := decodeSnapshot_ok.mp hdecoded
    rw [hserves.writeDecoded]
    refine hs.writeAll fun kv hkv d hd => ?_
    obtain ⟨⟨key, original⟩, he, hone⟩ := exists_of_mapM hrestored.decode hkv
    obtain ⟨hkey, d', raw, payload, hvalue⟩ := decodeParameter_ok.mp hone
    rw [hkey] at hd ⊢
    obtain rfl : d = d' := Option.some.inj (hd.symm.trans hvalue.definition)
    by_cases hro : d.access = .ro
    · obtain ⟨d', hd', hread⟩ := bridgeReadSdo_ok.mp ((valuesOf_ok.mp hrestored.read).2 _ he)
      obtain rfl : d = d' := Option.some.inj (hd.symm.trans hd')
      have hhex := hvalue.hex
      rw [hvalue.unit hro, fromHex_hexText] at hhex
      obtain rfl : original = payload := Option.some.inj hhex
      exact hreread key d _ kv.2 original hd (hs key d hd) hread hvalue.value
    · exact hQ key d payload kv.2 hd hro hvalue.value

end EthercatSimulator.Storage
