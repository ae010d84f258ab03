import EthercatSimulator.Storage.MigrationRun

/-! The values of a migrated snapshot. -/

namespace EthercatSimulator.Storage

open Base Profile Ipc EthercatSimulator.Runtime

/-! Members. -/

theorem lookup_setMember (key key' : String) (value : Json) (members : List (String × Json)) :
    Json.lookup key' (setMember key value members) =
      if key = key' then some value else Json.lookup key' members := by
  induction members with
  | nil => rfl
  | cons m rest ih =>
    obtain ⟨k, v⟩ := m
    rw [setMember]
    by_cases hk : k = key
    · subst hk
      rw [if_pos rfl, Json.lookup, Json.lookup]
      split <;> rfl
    · rw [if_neg hk, Json.lookup, Json.lookup, ih]
      by_cases hkey : k = key'
      · subst hkey
        rw [if_pos rfl, if_pos rfl, if_neg (Ne.symm hk)]
      · rw [if_neg hkey, if_neg hkey]

theorem setMember_of_notMem {key : String} {value : Json} {members : List (String × Json)}
    (h : key ∉ members.map Prod.fst) : setMember key value members = members ++ [(key, value)] := by
  induction members with
  | nil => rfl
  | cons m rest ih =>
    rw [List.map_cons, List.mem_cons, not_or] at h
    obtain ⟨k, v⟩ := m
    rw [setMember, if_neg (Ne.symm h.1), ih h.2]
    rfl

theorem text?_withMember {key key' : String} {value data : Json} (h : key ≠ key') :
    text? key' (withMember key value data) = text? key' data := by
  unfold text?
  cases data with
  | object members =>
    change (Json.lookup key' (setMember key value members)).bind _ = _
    rw [lookup_setMember, if_neg h]
    rfl
  | _ => rfl

theorem text?_withMember_self {key text : String} {data : Json} {keys : List String}
    (h : hasFields keys data = true) : text? key (withMember key (.string text) data) = some text := by
  cases data with
  | object members =>
    unfold text?
    change (Json.lookup key (setMember key (.string text) members)).bind _ = _
    rw [lookup_setMember, if_pos rfl]
    rfl
  | _ => cases h

/-- The document of schema 2 has the values of that of schema 1, and the velocity. -/
theorem addVelocity_ok {format : Format} {expected : List String} {value : Int} {data doc : Json}
    (h : addVelocity format expected value data = .ok doc) :
    ∃ values, data.get? "values" = some values ∧
      hasFields (expected.filter fun key => key ≠ "6081:00") values = true ∧
      doc.get? "values" = some (withMember "6081:00" (.string (hexText (leBytes 4 value.toNat))) values) := by
  unfold addVelocity at h
  cases hvalues : data.get? "values" with
  | none =>
    rw [hvalues] at h
    cases h
  | some values =>
    rw [hvalues] at h
    dsimp only at h
    split at h
    · cases h
    · rename_i hcatalog
      cases h
      refine ⟨values, rfl, not_not.mp hcatalog, ?_⟩
      cases data with
      | object members =>
        change Json.lookup "values" (setMember "checksum" _ (setMember "schema_version" _
          (setMember "values" _ _))) = _
        rw [lookup_setMember, if_neg (by decide), lookup_setMember, if_neg (by decide), lookup_setMember,
          if_pos rfl]
      | _ => cases hvalues

/-! Parameters. -/

theorem keyText_profileVelocity : keyText Key.profileVelocity = "6081:00" := by decide

section

variable {old : List Key} {value : Int} {values : Json}

theorem filter_roles (hnodup : ((old ++ [Key.profileVelocity]).map keyText).Nodup) :
    ((old ++ [Key.profileVelocity]).map keyText).filter (fun key => key ≠ "6081:00") = old.map keyText := by
  rw [List.map_append, List.nodup_append] at hnodup
  rw [List.map_append, List.filter_append]
  have hlast : ([Key.profileVelocity].map keyText).filter (fun key => key ≠ "6081:00") = [] := by decide
  rw [hlast, List.append_nil, List.filter_eq_self]
  intro key hkey
  have hne := hnodup.2.2 key hkey "6081:00" (by decide)
  exact decide_eq_true hne

theorem parametersOf_withVelocity (hnodup : ((old ++ [Key.profileVelocity]).map keyText).Nodup)
    (hcatalog : hasFields (old.map keyText) values = true) {saved : List (Key × Bytes)}
    (h : parametersOf (old ++ [Key.profileVelocity])
      (withMember "6081:00" (.string (hexText (leBytes 4 value.toNat))) values) = some saved) :
    ∃ before, parametersOf old values = some before ∧
      saved = before ++ [(Key.profileVelocity, leBytes 4 value.toNat)] := by
  rw [List.map_append, List.nodup_append] at hnodup
  unfold parametersOf at h ⊢
  rw [if_pos hcatalog]
  split at h
  · have hold : (old.mapM fun key => (key, ·) <$> (text? (keyText key)
        (withMember "6081:00" (.string (hexText (leBytes 4 value.toNat))) values)).bind fromHex) =
        old.mapM fun key => (key, ·) <$> (text? (keyText key) values).bind fromHex := by
      refine mapM_congr fun key hkey => ?_
      have hne := hnodup.2.2 (keyText key) (List.mem_map_of_mem hkey) "6081:00" (by decide)
      rw [text?_withMember hne.symm]
    have hvelocity : (text? (keyText Key.profileVelocity)
        (withMember "6081:00" (.string (hexText (leBytes 4 value.toNat))) values)).bind fromHex =
        some (leBytes 4 value.toNat) := by
      rw [keyText_profileVelocity, text?_withMember_self hcatalog]
      exact fromHex_hexText _
    rw [List.mapM_append, hold, List.mapM_cons, hvelocity] at h
    obtain ⟨before, hbefore, hsaved⟩ := Option.bind_eq_some_iff.mp h
    exact ⟨before, hbefore, (Option.some.inj hsaved).symm⟩
  · cases h

end

/-! A migration. -/

namespace Migration

variable {F σ : Type} [PyFloat F]

/-- The texts of a migration are read back: that of the staged document, and that of the snapshot. -/
structure ReadsBack (M : Migration F σ) (old : List Key) (value : Int) (s : σ) (original : Bytes) : Prop where
  staged : ∀ data doc, M.format.parse original = .ok data → M.legacyDocument value data s = (.ok doc, s) →
    M.format.parse (M.dumps doc) = .ok doc
  saved : ∀ before, M.format.parameters old original = some before →
    M.format.parse (M.format.dump
      (snapshot M.format M.device (before ++ [(Key.profileVelocity, leBytes 4 value.toNat)]))) =
    .ok (snapshot M.format M.device (before ++ [(Key.profileVelocity, leBytes 4 value.toNat)]))

variable {M : Migration F σ} {hserves : Serves M.adapter M.access} {old : List Key} {value : Int}
  {files : Files String UInt8} {s : σ} {original : Bytes} {data doc : Json} {decoded : List (Key × Value F)}

/-- What is saved is what the original held, and the velocity; it is restored as it was staged. -/
theorem Prepared.values (h : M.Prepared hserves value files s original data doc decoded)
    (hroles : M.adapter.persistentRoles = old ++ [Key.profileVelocity])
    (hread : M.ReadsBack old value s original) :
    ∃ before, M.format.parameters old original = some before ∧
      (before ++ [(Key.profileVelocity, leBytes 4 value.toNat)]).map Prod.fst = M.adapter.persistentRoles ∧
      (savedValues M.adapter (writeDecoded M.access decoded s)).1 =
        .ok (before ++ [(Key.profileVelocity, leBytes 4 value.toNat)]) ∧
      decodeSnapshot M.format M.device M.adapter M.access (hserves.od s) (M.format.dump
        (snapshot M.format M.device (before ++ [(Key.profileVelocity, leBytes 4 value.toNat)]))) =
          .ok decoded := by
  have hnodup := hserves.nodup
  rw [hroles] at hnodup
  have hdocument := legacyDocument_run hserves value data s
  rw [h.document] at hdocument
  obtain ⟨_, -, hdocument⟩ := bind_ok.mp (Prod.mk.inj hdocument).1.symm
  obtain ⟨legacy, hlegacy, hdocument⟩ := bind_ok.mp hdocument
  obtain ⟨values, hvalues, hcatalog, hdoc⟩ := addVelocity_ok hdocument
  have hold : hasFields (old.map keyText) values = true := by
    have hkeys := congrArg (List.map keyText) (valuesOf_ok.mp hlegacy).1
    rw [List.map_map, hroles] at hkeys
    rw [← filter_roles hnodup, ← hkeys]
    exact hcatalog
  obtain ⟨data', values', expected, hrestored⟩ := decodeSnapshot_ok.mp h.decode
  cases hrestored.parse.symm.trans (hread.staged data doc h.parse h.document)
  obtain ⟨saved, hparameters, hsaved⟩ := hrestored.parameters hserves
  have hstaged : parametersOf (old ++ [Key.profileVelocity])
      (withMember "6081:00" (.string (hexText (leBytes 4 value.toNat))) values) = some saved := by
    unfold Format.parameters at hparameters
    rw [hrestored.parse] at hparameters
    dsimp only at hparameters
    rwa [hdoc, hroles] at hparameters
  obtain ⟨before, hbefore, rfl⟩ := parametersOf_withVelocity hnodup hold hstaged
  have horiginal : M.format.parameters old original = some before := by
    unfold Format.parameters
    rw [h.parse]
    dsimp only
    rw [hvalues]
    exact hbefore
  refine ⟨before, horiginal, (valuesOf_ok.mp hsaved).1, hrestored.savedValues.trans hsaved, ?_⟩
  exact decodeSnapshot_ok.mpr ⟨_, _, _, hrestored.again hserves hsaved (hread.saved before horiginal)⟩

/-- The calls that read. -/
def readCalls : List MigrationCall := [.readBytes, .readText, .loadText]

/-- A snapshot of schema 2 is loaded, and no file is touched. -/
theorem migrate_again {d : MigrationDisk} {v : Volume} {saved : List (Key × Bytes)}
    (hlocked : M.store.locked = true) (htype : M.device.modelType = .fKrCmmt)
    (hrange : 0 ≤ value ∧ value ≤ 0xffffffff)
    (hfile : v.files M.device.path = some (M.format.dump (snapshot M.format M.device saved)))
    (hparse : M.format.parse (M.format.dump (snapshot M.format M.device saved)) =
      .ok (snapshot M.format M.device saved))
    (hdecode : decodeSnapshot M.format M.device M.adapter M.access (hserves.od s)
      (M.format.dump (snapshot M.format M.device saved)) = .ok decoded) :
    (M.migrateProfileVelocity d value (v, s)).2.1 = v ∧
      ((∀ c ∈ readCalls, d.raises c = none) →
        M.migrateProfileVelocity d value (v, s) = (.ok false, v, writeDecoded M.access decoded s)) := by
  have hversion : schemaVersion? (snapshot M.format M.device saved) = .ok (some (.int 2)) := by
    change Except.ok (some (Json.int M.device.schemaVersion)) = _
    unfold Device.schemaVersion
    rw [if_pos htype]
  have hload : load M.format M.device M.adapter M.access v.files s =
      (.ok true, writeDecoded M.access decoded s) := by
    unfold load
    rw [hfile, hserves.loadFound, hdecode]
  have hrun : M.migrateProfileVelocity d value = M.migrateSnapshot d value := by
    unfold migrateProfileVelocity Exec.require
    rw [if_pos hlocked, if_pos htype, if_pos hrange]
    rfl
  rw [hrun]
  rcases M.migrateSnapshot_cases d value s hfile hparse hversion with hcases | ⟨e, hcases, hraises⟩
  · rw [hcases]
    rw [if_pos (by decide)]
    rcases d.call_cases .loadText (v, s) with ⟨-, hcall⟩ | ⟨e, hraises, hcall⟩
    · have hreload : M.reload d (v, s) = (.ok (), v, writeDecoded M.access decoded s) := by
        unfold reload
        rw [Exec.run_bind_ok hcall]
        exact Exec.run_bind_ok (onModel_run hload v) _
      rw [Exec.run_bind_ok hreload]
      exact ⟨rfl, fun _ => rfl⟩
    · have hreload : M.reload d (v, s) = (.error e, v, s) := Exec.run_bind_error hcall _
      rw [Exec.run_bind_error hreload]
      refine ⟨rfl, fun h => ?_⟩
      rw [h .loadText (by decide)] at hraises
      cases hraises
  · rw [hcases]
    exact ⟨rfl, fun h => absurd ⟨h _ (by decide), h _ (by decide)⟩ hraises⟩

/-! Snapshots that are rejected. -/

/-- The snapshot that is found is not one of schema 2. -/
structure Found (M : Migration F σ) (files : Files String UInt8) (original : Bytes) (data : Json) : Prop where
  file : files M.device.path = some original
  parse : M.format.parse original = .ok data
  schema : ∃ version, schemaVersion? data = .ok version ∧ isInt 2 version = false

/-- The snapshot is no document that can be migrated, a value of it does not load, or another backup
is kept. -/
inductive Rejects (M : Migration F σ) (value : Int) (files : Files String UInt8) (s : σ) : Prop
  | unread {original : Bytes} {e : Exc} (file : files M.device.path = some original)
    (version : M.format.parse original >>= schemaVersion? = .error e)
  | document {original : Bytes} {data : Json} {e : Exc} (found : M.Found files original data)
    (document : (M.legacyDocument value data s).1 = .error e)
  | value {original : Bytes} {data doc : Json} {e : Exc} (found : M.Found files original data)
    (document : (M.legacyDocument value data s).1 = .ok doc)
    (load : (loadFound M.format M.device M.adapter M.access (some (M.dumps doc)) s).1 = .error e)
  | backup {original kept : Bytes} {data : Json} (found : M.Found files original data)
    (backup : files M.backupName = some kept) (differs : kept ≠ original)

section Rejects

variable {d : MigrationDisk} {v : Volume}

omit [PyFloat F] in
theorem keepBackup_differs {kept : Bytes} (hbackup : v.files M.backupName = some kept) (hdiffers : kept ≠ original) :
    ∃ e, M.keepBackup d original v = (.error e, v) := by
  unfold keepBackup
  rcases d.call_cases .findBackup v with ⟨-, hcall⟩ | ⟨e, -, hcall⟩
  · rw [Exec.run_bind_ok hcall, Exec.run_bind, Exec.run_get]
    dsimp only
    rw [hbackup]
    dsimp only
    rcases d.compareBackup_cases kept original v with ⟨hsame, -⟩ | hrun
    · exact absurd hsame hdiffers
    · exact hrun
  · exact ⟨e, Exec.run_bind_error hcall _⟩

theorem migrate_error (h : ∃ e s', M.migrateSnapshot d value (v, s) = (.error e, v, s')) :
    ∃ e s', M.migrateProfileVelocity d value (v, s) = (.error e, v, s') := by
  unfold migrateProfileVelocity
  rcases Exec.require_cases (M.store.locked = true) (runtimeError "Parameter storage lock is required") (v, s)
    with ⟨-, hlocked⟩ | ⟨-, hlocked⟩
  · rw [Exec.run_bind_ok hlocked]
    rcases Exec.require_cases (M.device.modelType = .fKrCmmt)
      (valueError "Only F-KR CMMT schema 1 migration is supported") (v, s) with ⟨-, htype⟩ | ⟨-, htype⟩
    · rw [Exec.run_bind_ok htype]
      rcases Exec.require_cases (0 ≤ value ∧ value ≤ 0xffffffff)
        (valueError "Profile velocity must be an explicit uint32 raw OD value") (v, s) with ⟨-, hrange⟩ | ⟨-, hrange⟩
      · rw [Exec.run_bind_ok hrange]
        exact h
      · exact ⟨_, s, Exec.run_bind_error hrange _⟩
    · exact ⟨_, s, Exec.run_bind_error htype _⟩
  · exact ⟨_, s, Exec.run_bind_error hlocked _⟩

theorem Found.error {data : Json} (hfound : M.Found v.files original data)
    (h : ∃ e s', M.upgrade d value original data (v, s) = (.error e, v, s')) :
    ∃ e s', M.migrateProfileVelocity d value (v, s) = (.error e, v, s') := by
  obtain ⟨version, hversion, hschema⟩ := hfound.schema
  refine migrate_error ?_
  rcases M.migrateSnapshot_cases d value s hfound.file hfound.parse hversion with
    hcases | ⟨e, hcases, -⟩
  · rw [hcases, if_neg (by rw [hschema]; nofun)]
    exact h
  · exact ⟨e, s, hcases⟩

theorem upgrade_stopped {data : Json} (hserves : Serves M.adapter M.access)
    (h : ∀ doc decoded, M.legacyDocument value data s = (.ok doc, s) →
      decodeSnapshot M.format M.device M.adapter M.access (hserves.od s) (M.dumps doc) = .ok decoded →
      ∃ e, M.keepBackup d original v = (.error e, v)) :
    ∃ e s', M.upgrade d value original data (v, s) = (.error e, v, s') := by
  unfold upgrade
  rcases legacyDocument_cases hserves value data s with ⟨doc, hdoc⟩ | ⟨e, hdoc⟩
  · rw [Exec.run_bind_ok (onModel_run hdoc v)]
    rcases stage_cases (d := d) hserves doc s with ⟨decoded, hdecoded, hstage⟩ | ⟨e, s', hstage⟩
    · rw [Exec.run_bind_ok (onModel_run hstage v)]
      obtain ⟨e, hbackup⟩ := h doc decoded hdoc hdecoded
      exact ⟨e, _, Exec.run_bind_error (onVolume_run hbackup _) _⟩
    · exact ⟨e, s', Exec.run_bind_error (onModel_run hstage v) _⟩
  · exact ⟨e, s, Exec.run_bind_error (onModel_run hdoc v) _⟩

/-- A migration that rejects the snapshot raises, and no file is touched. -/
theorem Rejects.run (hserves : Serves M.adapter M.access) (h : M.Rejects value v.files s) :
    ∃ e s', M.migrateProfileVelocity d value (v, s) = (.error e, v, s') := by
  cases h with
  | @unread original _ file version =>
    refine migrate_error ?_
    unfold migrateSnapshot
    rcases M.readBytes_cases d v with ⟨-, original', hfile, hread⟩ | ⟨e, hread⟩
    · obtain rfl := Option.some.inj (hfile.symm.trans file)
      rw [Exec.run_bind_ok (onVolume_run hread s)]
      rcases d.call_cases .readText (v, s) with ⟨-, hcall⟩ | ⟨e, -, hcall⟩
      · rw [Exec.run_bind_ok hcall, Exec.run_ofExcept_bind]
        cases hparse : M.format.parse original' with
        | error e => exact ⟨e, s, rfl⟩
        | ok data =>
          rw [hparse] at version
          change schemaVersion? data = _ at version
          dsimp only
          rw [Exec.run_ofExcept_bind, version]
          exact ⟨_, s, rfl⟩
      · exact ⟨e, s, Exec.run_bind_error hcall _⟩
    · exact ⟨e, s, Exec.run_bind_error (onVolume_run hread s) _⟩
  | document found document =>
    refine found.error (upgrade_stopped hserves fun doc decoded hdoc _ => ?_)
    rw [hdoc] at document
    cases document
  | value found document load =>
    refine found.error (upgrade_stopped hserves fun doc decoded hdoc hdecoded => ?_)
    rw [hdoc] at document
    cases document
    rw [hserves.loadFound, hdecoded] at load
    cases load
  | backup found backup differs =>
    exact found.error (upgrade_stopped hserves fun _ _ _ _ => keepBackup_differs backup differs)

end Rejects

/-! What holds of every migration. -/

/-- A complete snapshot of schema 2, which a fresh model loads. -/
structure Complete (M : Migration F σ) (fresh : σ) (text : Bytes) : Prop where
  schema : M.device.schemaVersion = 2
  snapshot : ∃ values, values.map Prod.fst = M.adapter.persistentRoles ∧
    text = M.format.dump (snapshot M.format M.device values)
  accepted : (loadFound M.format M.device M.adapter M.access (some text) fresh).1 = .ok true

/-- The snapshot is as it was, or a complete one has taken its place and the backup is the original. -/
def Safe (M : Migration F σ) (fresh : σ) (files files' : Files String UInt8) : Prop :=
  files' M.device.path = files M.device.path ∨
    ∃ original text, files M.device.path = some original ∧ files' M.backupName = some original ∧
      files' M.device.path = some text ∧ M.Complete fresh text

/-- The new snapshot has the values of the old one and the velocity, and is not migrated again. -/
structure Migrated (M : Migration F σ) (old : List Key) (value : Int) (fresh : σ) (files : Files String UInt8)
    (v' : Volume) : Prop where
  values : ∃ original text before, files M.device.path = some original ∧ v'.files M.device.path = some text ∧
    M.format.parameters old original = some before ∧
    M.format.parameters M.adapter.persistentRoles text =
      some (before ++ [(Key.profileVelocity, leBytes 4 value.toNat)])
  velocity : decodeOdValue .uint32 (leBytes 4 value.toNat) = .ok (.int value : Value F)
  again : ∀ (d : MigrationDisk) (value' : Int), 0 ≤ value' ∧ value' ≤ 0xffffffff →
    (M.migrateProfileVelocity d value' (v', fresh)).2.1 = v' ∧
      ((∀ c ∈ readCalls, d.raises c = none) → (M.migrateProfileVelocity d value' (v', fresh)).1 = .ok false)

/-- What holds of one migration, wherever it stops. -/
structure KeepsOriginal (M : Migration F σ) (old : List Key) (fresh : σ) (d : MigrationDisk)
    (files : Files String UInt8) (value : Int) : Prop where
  safe : ∀ killed, M.Safe fresh files (M.interrupted d value files fresh killed)
  migrated : (M.migrateProfileVelocity d value (⟨files, []⟩, fresh)).1 = .ok true →
    M.Migrated old value fresh files (M.migrateProfileVelocity d value (⟨files, []⟩, fresh)).2.1
  rejected : M.Rejects value files fresh →
    ∃ e s', M.migrateProfileVelocity d value (⟨files, []⟩, fresh) = (.error e, ⟨files, []⟩, s')

omit [PyFloat F] in
theorem decode_velocity (h : 0 ≤ value ∧ value ≤ 0xffffffff) :
    decodeOdValue .uint32 (leBytes 4 value.toNat) = .ok (.int value : Value F) := by
  have hlt : value.toNat < 256 ^ 4 := by
    have := h.2
    omega
  have hlength : (leBytes 4 value.toNat).length = DataType.uint32.size := length_leBytes ..
  refine (decodeOdValue_int (by decide) hlength).trans ?_
  change Except.ok (Value.int (leNat (leBytes 4 value.toNat) : Int)) = _
  rw [leNat_leBytes_of_lt hlt, Int.toNat_of_nonneg h.1]

section Main

variable {d : MigrationDisk} (hserves) (hroles : M.adapter.persistentRoles = old ++ [Key.profileVelocity])

include hserves hroles

theorem safe_interrupted (hread : ∀ original, files M.device.path = some original → M.ReadsBack old value s original)
    (killed : Nat) : M.Safe s files (M.interrupted d value files s killed) := by
  rcases interrupted_cases (d := d) hserves value files s killed with
    hpath | ⟨original, data, doc, decoded, values, hprepared, hvalues, hupgraded⟩
  · exact .inl hpath
  · obtain ⟨before, hbefore, hkeys, hsaved, hdecode⟩ := hprepared.values hroles (hread original hprepared.file)
    cases hvalues.symm.trans hsaved
    refine .inr ⟨original, _, hprepared.file, hupgraded.backup, hupgraded.snapshot, ?_, ⟨_, hkeys, rfl⟩, ?_⟩
    · unfold Device.schemaVersion
      rw [if_pos hprepared.type]
    · rw [hserves.loadFound, hdecode]

theorem migrated_of_true {v : Volume}
    (hread : ∀ original, v.files M.device.path = some original → M.ReadsBack old value s original)
    (h : (M.migrateProfileVelocity d value (v, s)).1 = .ok true) :
    M.Migrated old value s v.files (M.migrateProfileVelocity d value (v, s)).2.1 := by
  obtain ⟨original, data, doc, decoded, values, hprepared, hvalues, hupgraded⟩ := migrated hserves h
  have hback := hread original hprepared.file
  obtain ⟨before, hbefore, hkeys, hsaved, hdecode⟩ := hprepared.values hroles hback
  cases hvalues.symm.trans hsaved
  refine ⟨⟨original, _, before, hprepared.file, hupgraded.snapshot, hbefore, ?_⟩, decode_velocity hprepared.range,
    fun d' value' hrange => ?_⟩
  · have hnodup := hserves.nodup
    rw [← hkeys, List.map_map] at hnodup
    rw [← hkeys]
    exact parameters_snapshot hnodup (hback.saved before hbefore)
  · have hagain := migrate_again (d := d') hprepared.locked hprepared.type hrange hupgraded.snapshot
      (hback.saved before hbefore) hdecode
    exact ⟨hagain.1, fun hquiet => by rw [hagain.2 hquiet]⟩

end Main

end Migration

end EthercatSimulator.Storage
