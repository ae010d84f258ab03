import EthercatSimulator.Storage.LoadLaws
import Mathlib.Data.List.Nodup

/-! A restored model holds the values of its snapshot. -/

namespace EthercatSimulator.Storage

open Base Profile Ipc EthercatSimulator.Runtime

variable {F σ : Type} [PyFloat F]

/-- An adapter whose parameters are the objects of one dictionary. -/
structure Serves (A : DriveAdapter F σ) (P : ParameterAccess F σ) where
  od : σ → Od F
  readSdo : ∀ key size s, A.readSdo key size s = (bridgeReadSdo (od s) key, s)
  write : ∀ key v s, od (P.write key v s) = (od s).write key v
  validate : ∀ s, A.validateParameters s =
    (P.validate (A.persistentRoles.map fun key => (key, (od s).read key)), s)
  nodup : (A.persistentRoles.map keyText).Nodup
  defined : ∀ key ∈ A.persistentRoles, (definition key).isSome = true

/-! Parameter values. -/

/-- What `parameter_values` reads from a dictionary. -/
def valuesOf (od : Od F) (roles : List Key) : Except Exc (List (Key × Bytes)) :=
  roles.mapM fun key => (key, ·) <$> bridgeReadSdo od key

theorem valuesOf_ok {od : Od F} {roles : List Key} {values : List (Key × Bytes)} :
    valuesOf od roles = .ok values ↔
      values.map Prod.fst = roles ∧ ∀ kv ∈ values, bridgeReadSdo od kv.1 = .ok kv.2 := by
  have hone (key : Key) (kv : Key × Bytes) : (key, ·) <$> bridgeReadSdo od key = .ok kv ↔
      kv.1 = key ∧ bridgeReadSdo od kv.1 = .ok kv.2 := by
    obtain ⟨key', raw⟩ := kv
    cases hread : bridgeReadSdo od key with
    | error e =>
      refine iff_of_false nofun ?_
      rintro ⟨rfl, hkey⟩
      cases hread.symm.trans hkey
    | ok raw' =>
      constructor
      · intro h
        cases h
        exact ⟨rfl, hread⟩
      · rintro ⟨rfl, hkey⟩
        cases hread.symm.trans hkey
        rfl
  unfold valuesOf
  rw [mapM_ok]
  simp only [hone]
  induction roles generalizing values with
  | nil =>
    rw [List.forall₂_nil_left_iff]
    constructor
    · rintro rfl
      exact ⟨rfl, nofun⟩
    · exact fun h => List.map_eq_nil_iff.mp h.1
  | cons key rest ih =>
    rw [List.forall₂_cons_left_iff]
    constructor
    · rintro ⟨kv, values, ⟨rfl, hread⟩, hrest, rfl⟩
      obtain ⟨hkeys, hreads⟩ := ih.mp hrest
      exact ⟨by rw [List.map_cons, hkeys], List.forall_mem_cons.mpr ⟨hread, hreads⟩⟩
    · rintro ⟨hkeys, hreads⟩
      obtain ⟨kv, values, rfl, hkey, hkeys⟩ := List.map_eq_cons_iff.mp hkeys
      obtain ⟨hread, hreads⟩ := List.forall_mem_cons.mp hreads
      exact ⟨kv, values, ⟨hkey, hread⟩, ih.mpr ⟨hkeys, hreads⟩, rfl⟩

namespace Serves

variable {A : DriveAdapter F σ} {P : ParameterAccess F σ} (h : Serves A P)

include h

theorem parameterValues (s : σ) :
    Runtime.parameterValues A s = (valuesOf (h.od s) A.persistentRoles, s) := by
  have hdefined := h.defined
  unfold Runtime.parameterValues valuesOf
  generalize A.persistentRoles = roles at hdefined ⊢
  induction roles with
  | nil => rfl
  | cons key rest ih =>
    obtain ⟨d, hd⟩ := Option.isSome_iff_exists.mp (hdefined key List.mem_cons_self)
    have hrest := ih fun key hkey => hdefined key (List.mem_cons_of_mem _ hkey)
    rw [List.mapM_cons, List.mapM_cons, hd]
    dsimp only
    have hread := h.readSdo key d.dataType.size s
    cases hraw : bridgeReadSdo (h.od s) key with
    | error e =>
      rw [hraw] at hread
      exact Exec.run_bind_error (Exec.run_bind_error hread _) _
    | ok raw =>
      rw [hraw] at hread
      refine (Exec.run_bind_ok (Exec.run_bind_ok hread _) _).trans ?_
      rw [Exec.run_bind, hrest]
      cases hvalues : rest.mapM fun key => (key, ·) <$> bridgeReadSdo (h.od s) key with
      | error e =>
        rfl
      | ok values => rfl

/-- Values that are saved are read, once they are valid. -/
theorem savedValues (s : σ) : Storage.savedValues A s =
    match P.validate (A.persistentRoles.map fun key => (key, (h.od s).read key)) with
    | .ok _ => Runtime.parameterValues A s
    | .error e => (.error e, s) := by
  unfold Storage.savedValues
  rw [Exec.run_bind, h.validate]
  cases P.validate (A.persistentRoles.map fun key => (key, (h.od s).read key)) with
  | ok _ => rfl
  | error e => rfl

theorem writeDecoded (decoded : List (Key × Value F)) (s : σ) :
    h.od (Storage.writeDecoded P decoded s) = (h.od s).writeAll decoded := by
  induction decoded generalizing s with
  | nil => rfl
  | cons kv rest ih =>
    refine (ih (P.write kv.1 kv.2 s)).trans ?_
    rw [h.write]
    rfl

end Serves

/-! Restoring. -/

/-- The values a snapshot leads to. -/
def decodeSnapshot (format : Format) (device : Device) (A : DriveAdapter F σ) (P : ParameterAccess F σ)
    (od : Od F) (text : Bytes) : Except Exc (List (Key × Value F)) := do
  let data ← format.parse text
  let values ← checkDocument format device data
  let expected ← valuesOf od A.persistentRoles
  if ¬ hasFields (expected.map fun kv => keyText kv.1) values then
    throw (valueError (device.path ++ ": parameter catalog mismatch"))
  let decoded ← expected.mapM fun kv => decodeParameter device.path values kv.1 kv.2
  P.validate decoded
  return decoded

/-- What a snapshot that is restored is made of. -/
structure Restored (format : Format) (device : Device) (A : DriveAdapter F σ) (P : ParameterAccess F σ)
    (od : Od F) (text : Bytes) (decoded : List (Key × Value F)) (data values : Json)
    (expected : List (Key × Bytes)) : Prop where
  parse : format.parse text = .ok data
  check : checkDocument format device data = .ok values
  read : valuesOf od A.persistentRoles = .ok expected
  catalog : hasFields (expected.map fun kv => keyText kv.1) values = true
  decode : (expected.mapM fun kv => decodeParameter device.path values kv.1 kv.2) = .ok decoded
  valid : P.validate decoded = .ok ()

variable {format : Format} {device : Device} {A : DriveAdapter F σ} {P : ParameterAccess F σ}

theorem decodeSnapshot_ok {od : Od F} {text : Bytes} {decoded : List (Key × Value F)} :
    decodeSnapshot format device A P od text = .ok decoded ↔
      ∃ data values expected, Restored format device A P od text decoded data values expected := by
  unfold decodeSnapshot
  constructor
  · intro h
    obtain ⟨data, hparse, h⟩ := bind_ok.mp h
    obtain ⟨values, hcheck, h⟩ := bind_ok.mp h
    obtain ⟨expected, hread, h⟩ := bind_ok.mp h
    dsimp only at h
    split at h
    · cases h
    · rename_i hcatalog
      obtain ⟨decoded', hdecode, h⟩ := bind_ok.mp h
      obtain ⟨_, hvalid, h⟩ := bind_ok.mp h
      cases h
      exact ⟨data, values, expected, hparse, hcheck, hread, not_not.mp hcatalog, hdecode, hvalid⟩
  · rintro ⟨data, values, expected, hr⟩
    rw [hr.parse]
    dsimp only [bind, Except.bind]
    rw [hr.check]
    dsimp only
    rw [hr.read]
    dsimp only
    rw [if_neg (not_not.mpr hr.catalog), hr.decode]
    dsimp only
    rw [hr.valid]
    rfl

/-- A restore raises and changes nothing, or writes the values it has decoded. -/
theorem Serves.restore (h : Serves A P) (text : Bytes) (s : σ) :
    Storage.restore format device A P text s =
      match decodeSnapshot format device A P (h.od s) text with
      | .ok decoded => (.ok (), Storage.writeDecoded P decoded s)
      | .error e => (.error e, s) := by
  unfold Storage.restore decodeSnapshot
  rw [Exec.run_ofExcept_bind]
  cases format.parse text with
  | error e => rfl
  | ok data =>
    dsimp only [bind, Except.bind]
    refine (Exec.run_ofExcept_bind _ _ s).trans ?_
    cases checkDocument format device data with
    | error e => rfl
    | ok values =>
      dsimp only
      refine (Exec.run_bind _ _ s).trans ?_
      rw [h.parameterValues]
      cases valuesOf (h.od s) A.persistentRoles with
      | error e => rfl
      | ok expected =>
        dsimp only
        by_cases hcatalog : hasFields (expected.map fun kv => keyText kv.1) values = true
        · rw [if_neg (not_not.mpr hcatalog)]
          have hrequire : Exec.require (hasFields (expected.map fun kv => keyText kv.1) values = true)
              (valueError (device.path ++ ": parameter catalog mismatch")) s = (.ok (), s) := by
            unfold Exec.require
            rw [if_pos hcatalog]
            rfl
          refine (Exec.run_bind_ok hrequire _).trans ((Exec.run_ofExcept_bind _ _ s).trans ?_)
          generalize (expected.mapM fun kv => decodeParameter device.path values kv.1 kv.2 :
            Except Exc (List (Key × Value F))) = decoded
          cases decoded with
          | error e => rfl
          | ok decoded =>
            dsimp only
            refine (Exec.run_ofExcept_bind _ _ s).trans ?_
            cases P.validate decoded with
            | error e => rfl
            | ok _ => rfl
        · rw [if_pos hcatalog]
          refine Exec.run_bind_error ?_ _
          unfold Exec.require
          rw [if_neg hcatalog]
          rfl

theorem Serves.loadFound (h : Serves A P) (text : Bytes) (s : σ) :
    Storage.loadFound format device A P (some text) s =
      match decodeSnapshot format device A P (h.od s) text with
      | .ok decoded => (.ok true, Storage.writeDecoded P decoded s)
      | .error e => (.error e, s) := by
  unfold Storage.loadFound
  dsimp only
  rw [Exec.run_bind, h.restore]
  cases decodeSnapshot format device A P (h.od s) text with
  | ok decoded => rfl
  | error e => rfl

/-! The parameters of a snapshot. -/

/-- The parameters as bytes, if the values are exactly those of the roles. -/
def parametersOf (roles : List Key) (values : Json) : Option (List (Key × Bytes)) :=
  if hasFields (roles.map keyText) values then
    roles.mapM fun key => (key, ·) <$> (text? (keyText key) values).bind fromHex
  else none

def Format.parameters (format : Format) (roles : List Key) (text : Bytes) : Option (List (Key × Bytes)) :=
  match format.parse text with
  | .ok data => (data.get? "values").bind (parametersOf roles)
  | .error _ => none

/-- One reading of the same parameters is the other. -/
theorem exists_parameters {roles : List Key} {f : Key → Option Bytes} {g : Key → Except Exc Bytes}
    (h : ∀ key ∈ roles, ∃ payload, f key = some payload ∧ g key = .ok payload) :
    ∃ values : List (Key × Bytes), (roles.mapM fun key => (key, ·) <$> f key) = some values ∧
      (roles.mapM fun key => (key, ·) <$> g key) = .ok values := by
  induction roles with
  | nil => exact ⟨[], rfl, rfl⟩
  | cons key rest ih =>
    obtain ⟨payload, hf, hg⟩ := h key List.mem_cons_self
    obtain ⟨values, hsome, hok⟩ := ih fun key hkey => h key (List.mem_cons_of_mem _ hkey)
    refine ⟨(key, payload) :: values, ?_, ?_⟩
    · rw [List.mapM_cons, hf, hsome]
      rfl
    · rw [List.mapM_cons, hg, hok]
      rfl

omit [PyFloat F] in
theorem checkDocument_values {data values : Json} (h : checkDocument format device data = .ok values) :
    data.get? "values" = some values := by
  unfold checkDocument at h
  dsimp only [bind, Except.bind, throw, throwThe, MonadExceptOf.throw, pure, Except.pure] at h
  split at h
  · cases h
  · split at h
    · cases h
    · split at h
      · cases h
      · cases hvalues : data.get? "values" with
        | none => rw [hvalues] at h; cases h
        | some values' => rw [hvalues] at h; cases h; rfl

namespace Restored

variable {od : Od F} {text : Bytes} {decoded : List (Key × Value F)} {data values : Json}
  {expected : List (Key × Bytes)} {hserves : Serves A P} {s : σ}

theorem keys (h : Restored format device A P od text decoded data values expected) :
    decoded.map Prod.fst = A.persistentRoles := by
  rw [← (valuesOf_ok.mp h.read).1]
  exact (map_eq_of_forall₂ (mapM_ok.mp h.decode) fun _ _ hone => (decodeParameter_ok.mp hone).1.symm).symm

/-- What is read back of a parameter is what the snapshot holds. -/
theorem payload (h : Restored format device A P od text decoded data values expected) (hserves : Serves A P)
    {key : Key} {original : Bytes} {kv : Key × Value F} (hmem : (key, original) ∈ expected)
    (hdecode : decodeParameter device.path values key original = .ok kv) :
    kv.1 = key ∧ ∃ d raw payload, Decoded values key original kv.2 d raw payload ∧
      payload.length = original.length ∧ bridgeReadSdo (od.writeAll decoded) key = .ok payload := by
  obtain ⟨⟨key', v⟩, hdecoded, hsame⟩ := mem_of_mapM h.decode hmem
  cases hdecode.symm.trans hsame
  obtain ⟨rfl, d, raw, payload, hd⟩ := decodeParameter_ok.mp hdecode
  have hread := (valuesOf_ok.mp h.read).2 _ hmem
  unfold bridgeReadSdo at hread
  rw [hd.definition] at hread
  have horiginal := length_of_encode hread
  -- The text is as long as that of the value it replaces, so no byte is left over.
  have hsize : payload.length = d.dataType.size := by
    have hlength := length_fromHex hd.hex
    rw [hd.length, length_hexText, horiginal] at hlength
    exact Nat.le_antisymm (by omega) (size_le_of_decode hd.value)
  have hnodup : (decoded.map Prod.fst).Nodup := by
    rw [h.keys]
    exact List.Nodup.of_map _ hserves.nodup
  have hwritten : od.writeAll decoded key' = v := od.writeAll_mem hnodup hdecoded
  refine ⟨rfl, d, raw, payload, hd, hsize.trans horiginal.symm, ?_⟩
  unfold bridgeReadSdo Od.read
  rw [hd.definition, hwritten]
  exact encode_of_decode hsize hd.value

/-- All that is read back is what the snapshot holds. -/
theorem parameters (h : Restored format device A P od text decoded data values expected)
    (hserves : Serves A P) : ∃ saved, format.parameters A.persistentRoles text = some saved ∧
      valuesOf (od.writeAll decoded) A.persistentRoles = .ok saved := by
  have hkeys := valuesOf_ok.mp h.read
  have hone : ∀ key ∈ A.persistentRoles, ∃ payload, (text? (keyText key) values).bind fromHex = some payload ∧
      bridgeReadSdo (od.writeAll decoded) key = .ok payload := by
    intro key hkey
    rw [← hkeys.1] at hkey
    obtain ⟨⟨key, original⟩, hmem, rfl⟩ := List.mem_map.mp hkey
    obtain ⟨kv, -, hdecode⟩ := mem_of_mapM h.decode hmem
    obtain ⟨-, d, raw, payload, hd, -, hread⟩ := h.payload hserves hmem hdecode
    exact ⟨payload, by rw [hd.text]; exact hd.hex, hread⟩
  obtain ⟨saved, hsome, hok⟩ := exists_parameters hone
  refine ⟨saved, ?_, hok⟩
  unfold Format.parameters parametersOf
  rw [h.parse]
  dsimp only
  rw [checkDocument_values h.check, Option.bind_some, if_pos, hsome]
  rw [← hkeys.1, List.map_map]
  exact h.catalog

/-- The values that are saved of a restored model are valid. -/
theorem savedValues (h : Restored format device A P (hserves.od s) text decoded data values expected) :
    (Storage.savedValues A (writeDecoded P decoded s)).1 =
      valuesOf ((hserves.od s).writeAll decoded) A.persistentRoles := by
  have hnodup : (decoded.map Prod.fst).Nodup := by
    rw [h.keys]
    exact List.Nodup.of_map _ hserves.nodup
  have hreads : (A.persistentRoles.map fun key => (key, ((hserves.od s).writeAll decoded).read key)) = decoded := by
    rw [← h.keys, List.map_map]
    refine (List.map_congr_left fun kv hkv => ?_).trans (List.map_id decoded)
    exact Prod.ext rfl ((hserves.od s).writeAll_mem hnodup hkv)
  rw [hserves.savedValues, hserves.writeDecoded, hreads, h.valid]
  dsimp only
  rw [hserves.parameterValues, hserves.writeDecoded]

end Restored

/-! What a save writes, read back. -/

theorem lookup_snapshotValues {values : List (Key × Bytes)} (hnodup : (values.map fun kv => keyText kv.1).Nodup)
    {kv : Key × Bytes} (hkv : kv ∈ values) : text? (keyText kv.1) (snapshotValues values) = some (hexText kv.2) := by
  unfold text? snapshotValues Json.get?
  dsimp only
  induction values with
  | nil => cases hkv
  | cons kv' values ih =>
    rw [List.map_cons, List.nodup_cons] at hnodup
    rw [List.map_cons, Json.lookup]
    rcases List.mem_cons.mp hkv with rfl | hkv
    · rw [if_pos rfl]
      rfl
    · rw [if_neg fun hsame => hnodup.1 (List.mem_map.mpr ⟨kv, hkv, hsame.symm⟩)]
      exact ih hnodup.2 hkv

theorem hasFields_snapshotValues (values : List (Key × Bytes)) :
    hasFields (values.map fun kv => keyText kv.1) (snapshotValues values) = true := by
  unfold hasFields snapshotValues
  dsimp only
  rw [Bool.and_eq_true, List.all_eq_true, List.all_eq_true]
  constructor
  · intro key hkey
    obtain ⟨kv, hkv, rfl⟩ := List.mem_map.mp hkey
    exact List.any_eq_true.mpr ⟨_, List.mem_map.mpr ⟨kv, hkv, rfl⟩, by simp⟩
  · intro m hm
    obtain ⟨kv, hkv, rfl⟩ := List.mem_map.mp hm
    exact List.contains_iff_mem.mpr (List.mem_map.mpr ⟨kv, hkv, rfl⟩)

theorem parametersOf_snapshotValues {values : List (Key × Bytes)}
    (hnodup : (values.map fun kv => keyText kv.1).Nodup) :
    parametersOf (values.map Prod.fst) (snapshotValues values) = some values := by
  unfold parametersOf
  rw [List.map_map]
  refine (if_pos (hasFields_snapshotValues values)).trans ?_
  have hlookup := fun kv (hkv : kv ∈ values) => lookup_snapshotValues hnodup hkv
  generalize snapshotValues values = data at hlookup
  clear hnodup
  induction values with
  | nil => rfl
  | cons kv values ih =>
    obtain ⟨hkv, hrest⟩ := List.forall_mem_cons.mp hlookup
    rw [List.map_cons, List.mapM_cons, hkv, Option.bind_some, fromHex_hexText, ih hrest]
    rfl

omit [PyFloat F] in
/-- A snapshot whose text is read back has the values that were saved. -/
theorem parameters_snapshot {values : List (Key × Bytes)} (hnodup : (values.map fun kv => keyText kv.1).Nodup)
    (h : format.parse (format.dump (snapshot format device values)) = .ok (snapshot format device values)) :
    format.parameters (values.map Prod.fst) (format.dump (snapshot format device values)) = some values := by
  unfold Format.parameters
  rw [h]
  exact parametersOf_snapshotValues hnodup

omit [PyFloat F] in
theorem isIdentity_identity (device : Device) : isIdentity device device.identity = true := by
  unfold isIdentity Device.identity
  simp [hasFields, text?, Json.get?, Json.lookup, Json.string?]

omit [PyFloat F] in
theorem checkDocument_snapshot (values : List (Key × Bytes)) :
    checkDocument format device (snapshot format device values) = .ok (snapshotValues values) := by
  have hfields : hasFields ["schema_version", "identity", "values", "checksum"]
      (snapshot format device values) = true := rfl
  have hbody : without "checksum" (snapshot format device values) = .object (snapshotBody device values) := rfl
  have hversion : isVersion device (some (.int device.schemaVersion)) = true := decide_eq_true rfl
  unfold checkDocument
  have hidentity : (some device.identity).any (isIdentity device) = true := isIdentity_identity device
  dsimp only [bind, Except.bind, throw, throwThe, MonadExceptOf.throw, pure, Except.pure]
  rw [if_neg (not_not.mpr hfields), hbody, if_neg (fun h => h rfl), if_neg]
  · rfl
  · change ¬ ¬ (isVersion device (some (.int device.schemaVersion)) && (some device.identity).any (isIdentity device)) = true
    rw [hversion, hidentity]
    exact not_not.mpr rfl

/-- A snapshot of the values that a restore has written is restored alike. -/
theorem Restored.again {od : Od F} {text : Bytes} {decoded : List (Key × Value F)} {data values : Json}
    {expected saved : List (Key × Bytes)} (hserves : Serves A P)
    (h : Restored format device A P od text decoded data values expected)
    (hsaved : valuesOf (od.writeAll decoded) A.persistentRoles = .ok saved)
    (hread : format.parse (format.dump (snapshot format device saved)) = .ok (snapshot format device saved)) :
    Restored format device A P od (format.dump (snapshot format device saved)) decoded
      (snapshot format device saved) (snapshotValues saved) expected := by
  have hroles := (valuesOf_ok.mp h.read).1
  obtain ⟨hkeys, hreads⟩ := valuesOf_ok.mp hsaved
  have hsame : expected.map (fun kv => keyText kv.1) = saved.map fun kv => keyText kv.1 := by
    have htexts := congrArg (List.map keyText) (hroles.trans hkeys.symm)
    rwa [List.map_map, List.map_map] at htexts
  have hnodup : (saved.map fun kv => keyText kv.1).Nodup := by
    have hroles := hserves.nodup
    rwa [← hkeys, List.map_map] at hroles
  refine ⟨hread, checkDocument_snapshot saved, h.read, ?_, ?_, h.valid⟩
  · rw [hsame]
    exact hasFields_snapshotValues saved
  · refine mapM_ok.mpr ?_
    have hdecode := (List.forall₂_and_left expected decoded).mpr ⟨fun kv hkv => hkv, mapM_ok.mp h.decode⟩
    refine hdecode.imp fun x kv hone => ?_
    obtain ⟨key, original⟩ := x
    obtain ⟨hmem, hdecode⟩ := hone
    obtain ⟨hkey, d, raw, payload, hd, hlength, hpayload⟩ := h.payload hserves hmem hdecode
    -- The snapshot holds the parameter as it was read back.
    have htext : text? (keyText key) (snapshotValues saved) = some (hexText payload) := by
      have hrole : key ∈ saved.map Prod.fst := by
        rw [hkeys, ← hroles]
        exact List.mem_map_of_mem hmem
      obtain ⟨⟨key, raw'⟩, hkv, rfl⟩ := List.mem_map.mp hrole
      cases hpayload.symm.trans (hreads _ hkv)
      exact lookup_snapshotValues hnodup hkv
    refine decodeParameter_ok.mpr ⟨hkey, d, hexText payload, payload, hd.definition, htext, ?_,
      fromHex_hexText payload, hd.value, hd.finite, hd.encodes, fun hro => ?_⟩
    · rw [length_hexText, length_hexText, hlength]
    · have hhex := hd.hex
      rw [hd.unit hro, fromHex_hexText] at hhex
      rw [Option.some.inj hhex]

end EthercatSimulator.Storage
