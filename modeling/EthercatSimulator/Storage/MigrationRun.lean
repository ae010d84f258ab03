import EthercatSimulator.Storage.Migrate
import EthercatSimulator.Storage.RestoreLaws
import EthercatSimulator.Storage.SaveLaws

/-! What a migration does to the files: the backup is whole before the snapshot is replaced. -/

namespace EthercatSimulator.Storage

open Base Profile Ipc EthercatSimulator.Runtime

namespace Disk

variable {d : Disk} {v : Volume}

theorem writeNew_does (name : String) (text : Bytes) :
    d.Does v (d.writeNew name text) streamCalls fun steps =>
      (∀ step ∈ steps, step.Local name) ∧ (d.Spares streamCalls → steps = writing name text) := by
  have hseq := (does_call (d := d) (v := v) .fdopen).seq fun _ _ _ =>
    (does_perform (.create name)).seq fun _ _ _ =>
      (writeText_does name text).ensuring fun _ _ => does_call .close
  refine hseq.mono Iff.rfl fun steps hsteps => ?_
  rcases hsteps with ⟨hraise, rfl⟩ | ⟨-, _, rest, rfl, hrest, rfl⟩
  · exact ⟨nofun, fun h => absurd (h.mono (by decide)) hraise⟩
  rcases hrest with ⟨hraise, -⟩ | ⟨-, _, rest, rfl, ⟨body, _, hbody, rfl, rfl⟩, rfl⟩
  · exact absurd nofun hraise
  rw [List.append_nil, List.singleton_append]
  constructor
  · intro step hstep
    have hwriting : step ∈ writing name text := (List.cons_subset_cons _ hbody.1.subset) hstep
    exact writing_local step hwriting
  · intro h
    rw [hbody.2 (h.mono (by decide))]
    rfl

end Disk

variable {F σ α : Type}

theorem onVolume_run {x : PyM Volume α} {v v' : Volume} {r : Except Exc α} (h : x v = (r, v')) (s : σ) :
    onVolume x (v, s) = (r, v', s) := by
  change ((x v).1, (x v).2, s) = _
  rw [h]

theorem onModel_run {x : PyM σ α} {s s' : σ} {r : Except Exc α} (h : x s = (r, s')) (v : Volume) :
    onModel x (v, s) = (r, v, s') := by
  change ((x s).1, v, (x s).2) = _
  rw [h]

theorem MigrationDisk.call_cases {S : Type} (d : MigrationDisk) (c : MigrationCall) (s : S) :
    (d.raises c = none ∧ d.call c s = (.ok (), s)) ∨ ∃ e, d.raises c = some e ∧ d.call c s = (.error e, s) := by
  unfold call
  cases d.raises c with
  | none => exact .inl ⟨rfl, rfl⟩
  | some e => exact .inr ⟨e, rfl, rfl⟩

theorem MigrationDisk.compareBackup_cases (d : MigrationDisk) (kept original : Bytes) (v : Volume) :
    (kept = original ∧ d.compareBackup kept original v = (.ok (), v)) ∨
      ∃ e, d.compareBackup kept original v = (.error e, v) := by
  unfold compareBackup
  rcases d.call_cases .readBackup v with ⟨-, hcall⟩ | ⟨e, -, hcall⟩
  · rw [Exec.run_bind_ok hcall]
    rcases Exec.require_cases (kept = original)
      (valueError "Existing migration backup differs; preserve and investigate") v with ⟨hsame, hrun⟩ | ⟨-, hrun⟩
    · exact .inl ⟨hsame, hrun⟩
    · exact .inr ⟨_, hrun⟩
  · exact .inr ⟨e, Exec.run_bind_error hcall _⟩

namespace Migration

variable (M : Migration F σ) (d : MigrationDisk)

theorem backupName_ne : M.backupName ≠ M.device.path := by
  intro h
  have hlength := congrArg String.length h
  unfold backupName at hlength
  rw [String.length_append] at hlength
  have hsuffix : ".schema1.bak".length = 12 := by decide
  omega

theorem readBytes_cases (v : Volume) :
    (d.raises .readBytes = none ∧ ∃ original, v.files M.device.path = some original ∧
      M.readBytes d v = (.ok original, v)) ∨ ∃ e, M.readBytes d v = (.error e, v) := by
  unfold readBytes
  rw [Exec.run_bind]
  rcases d.call_cases .readBytes v with ⟨hraises, hcall⟩ | ⟨e, -, hcall⟩
  · rw [hcall]
    dsimp only
    rw [Exec.run_bind, Exec.run_get]
    dsimp only
    cases hfile : v.files M.device.path with
    | none => exact .inr ⟨_, rfl⟩
    | some original => exact .inl ⟨hraises, original, rfl, rfl⟩
  · rw [hcall]
    exact .inr ⟨e, rfl⟩

/-- A backup is the original, or a step towards it. -/
theorem keepBackup_spec (original : Bytes) (v : Volume) :
    ∃ steps, (M.keepBackup d original v).2 = v.after steps ∧ (∀ step ∈ steps, step.Local M.backupName) ∧
      ((M.keepBackup d original v).1 = .ok () → (v.after steps).files M.backupName = some original) := by
  unfold keepBackup
  rw [Exec.run_bind]
  rcases d.call_cases .findBackup v with ⟨-, hcall⟩ | ⟨e, -, hcall⟩
  · rw [hcall]
    dsimp only
    rw [Exec.run_bind, Exec.run_get]
    dsimp only
    cases hfile : v.files M.backupName with
    | none =>
      dsimp only
      obtain ⟨steps, hstate, hresult, hlocal, hwhole⟩ :=
        Disk.writeNew_does (d := d.backup) (v := v) M.backupName original
      refine ⟨steps, hstate, hlocal, fun hok => ?_⟩
      rw [hwhole (hresult.mp hok)]
      exact applyAll_writing v.files
    | some kept =>
      dsimp only
      refine ⟨[], ?_, nofun, ?_⟩ <;> rw [Volume.after_nil]
      · rcases d.compareBackup_cases kept original v with ⟨-, hrun⟩ | ⟨e, hrun⟩ <;> rw [hrun]
      · intro hok
        rcases d.compareBackup_cases kept original v with ⟨rfl, hrun⟩ | ⟨e, hrun⟩
        · exact hfile
        · rw [hrun] at hok
          cases hok
  · rw [hcall]
    exact ⟨[], Volume.after_nil.symm, nofun, nofun⟩

/-! The save of a migration. -/

def savePrepared (decoded : List (Key × Value F)) (s : σ) : PyM Volume Unit :=
  M.store.save M.format M.device d.save M.adapter (writeDecoded M.access decoded s)

/-- The snapshot has been replaced by one of these values, and the backup is the original. -/
structure Upgraded (files : Files String UInt8) (original : Bytes) (values : List (Key × Bytes)) : Prop where
  backup : files M.backupName = some original
  snapshot : files M.device.path = some (M.format.dump (Storage.snapshot M.format M.device values))

section

variable {M d} {decoded : List (Key × Value F)} {s : σ} {v : Volume} {original : Bytes}

theorem path_of_backup_steps {steps : List (FileStep String UInt8)}
    (hlocal : ∀ step ∈ steps, step.Local M.backupName) (files : Files String UInt8) :
    FileStep.applyAll files steps M.device.path = files M.device.path :=
  FileStep.applyAll_of_local M.backupName_ne.symm hlocal files

/-- The temporary file of a save that replaces the snapshot is new, so it is not the backup. -/
theorem backupName_ne_temporaryName (hkept : v.files M.backupName = some original)
    (hreplaces : d.save.Replaces v.files M.device.path) : M.backupName ≠ d.save.temporaryName M.device.path := by
  intro hsame
  rw [hsame, hreplaces.2.1] at hkept
  cases hkept

theorem savePrepared_killed (decoded : List (Key × Value F)) (hkept : v.files M.backupName = some original) :
    ∃ steps, (M.savePrepared d decoded s v).2 = v.after steps ∧ ∀ killed, killed <+: steps →
      FileStep.applyAll v.files killed M.device.path = v.files M.device.path ∨
        ∃ values, (savedValues M.adapter (writeDecoded M.access decoded s)).1 = .ok values ∧
          M.Upgraded (FileStep.applyAll v.files killed) original values := by
  obtain ⟨steps, content, htrace⟩ := M.store.saveValues_trace M.format M.device d.save
    (savedValues M.adapter (writeDecoded M.access decoded s)).1 v
  refine ⟨steps, htrace.state, fun killed hkilled => ?_⟩
  have hpath := htrace.killed hkilled (d.save.temporaryName_ne M.device.path)
  by_cases hreplaced : Replaced (d.save.temporaryName M.device.path) M.device.path killed
  · obtain ⟨text, htext⟩ := Option.ne_none_iff_exists'.mp (htrace.replaced.mp (hkilled.subset hreplaced))
    obtain ⟨-, hreplaces, values, hvalues, rfl⟩ :=
      (M.store.replacement_eq_some M.format M.device d.save _).mp htext
    refine .inr ⟨values, hvalues, ?_, ?_⟩
    · refine (htrace.killed hkilled (backupName_ne_temporaryName hkept hreplaces)).trans ?_
      rw [if_neg fun h => M.backupName_ne h.1, hkept]
    · rw [hpath, if_pos ⟨rfl, hreplaced⟩, htext]
  · rw [hpath, if_neg fun h => hreplaced h.2]
    exact .inl rfl

theorem savePrepared_ok {v' : Volume} (hkept : v.files M.backupName = some original)
    (h : M.savePrepared d decoded s v = (.ok (), v')) :
    ∃ values, (savedValues M.adapter (writeDecoded M.access decoded s)).1 = .ok values ∧
      M.Upgraded v'.files original values := by
  obtain ⟨values, hvalues, hreplaces, hpath, hother⟩ := ParameterStore.saveValues_ok h
  refine ⟨values, hvalues, ?_, hpath⟩
  exact (hother _ (backupName_ne_temporaryName hkept hreplaces) M.backupName_ne).trans hkept

end

/-- What a migration does with the document it reads. -/
theorem migrateSnapshot_cases [PyFloat F] (value : Int) {v : Volume} (s : σ) {original : Bytes} {data : Json}
    {version : Option Json} (hfile : v.files M.device.path = some original)
    (hparse : M.format.parse original = .ok data) (hversion : schemaVersion? data = .ok version) :
    M.migrateSnapshot d value (v, s) =
      (if isInt 2 version then do
        M.reload d
        return false
      else M.upgrade d value original data) (v, s) ∨
    ∃ e, M.migrateSnapshot d value (v, s) = (.error e, v, s) ∧
      ¬ (d.raises .readBytes = none ∧ d.raises .readText = none) := by
  unfold migrateSnapshot
  rcases d.call_cases .readBytes v with ⟨-, hbytes⟩ | ⟨e, hraises, hbytes⟩
  · have hread : M.readBytes d v = (.ok original, v) := by
      unfold readBytes
      rw [Exec.run_bind_ok hbytes, Exec.run_bind, Exec.run_get]
      dsimp only
      rw [hfile]
      rfl
    rw [Exec.run_bind_ok (onVolume_run hread s)]
    rcases d.call_cases .readText (v, s) with ⟨-, htext⟩ | ⟨e, hraises, htext⟩
    · rw [Exec.run_bind_ok htext, Exec.run_ofExcept_bind, hparse]
      dsimp only
      rw [Exec.run_ofExcept_bind, hversion]
      exact .inl rfl
    · refine .inr ⟨e, Exec.run_bind_error htext _, fun h => ?_⟩
      rw [hraises] at h
      cases h.2
  · have hread : M.readBytes d v = (.error e, v) := Exec.run_bind_error hbytes _
    refine .inr ⟨e, Exec.run_bind_error (onVolume_run hread s) _, fun h => ?_⟩
    rw [hraises] at h
    cases h.1

section Serves

variable [PyFloat F]

/-- A snapshot of schema 1 that is migrated, with its document of schema 2 and what that leads to. -/
structure Prepared (hserves : Serves M.adapter M.access) (value : Int) (files : Files String UInt8) (s : σ)
    (original : Bytes) (data doc : Json) (decoded : List (Key × Value F)) : Prop where
  locked : M.store.locked = true
  type : M.device.modelType = .fKrCmmt
  range : 0 ≤ value ∧ value ≤ 0xffffffff
  file : files M.device.path = some original
  parse : M.format.parse original = .ok data
  document : M.legacyDocument value data s = (.ok doc, s)
  decode : decodeSnapshot M.format M.device M.adapter M.access (hserves.od s) (M.dumps doc) = .ok decoded

/-- A migration stops before the snapshot is touched, or it saves after the backup is whole. -/
inductive Outcome (hserves : Serves M.adapter M.access) (value : Int) (v : Volume) (s : σ) :
    Except Exc Bool → Volume → Prop
  | stopped {r : Except Exc Bool} {steps : List (FileStep String UInt8)}
    (hlocal : ∀ step ∈ steps, step.Local M.backupName) (hr : r ≠ .ok true) :
    Outcome hserves value v s r (v.after steps)
  | saved {original : Bytes} {data doc : Json} {decoded : List (Key × Value F)}
    {steps : List (FileStep String UInt8)}
    (hprepared : M.Prepared hserves value v.files s original data doc decoded)
    (hlocal : ∀ step ∈ steps, step.Local M.backupName)
    (hkept : (v.after steps).files M.backupName = some original) :
    Outcome hserves value v s ((fun _ => true) <$> (M.savePrepared d decoded s (v.after steps)).1)
      (M.savePrepared d decoded s (v.after steps)).2

variable {M d}

/-- A load reads, and leaves the volume alone. -/
theorem reload_cases (v : Volume) (s : σ) : ∃ r s', M.reload d (v, s) = (r, v, s') := by
  unfold reload
  rcases d.call_cases .loadText (v, s) with ⟨-, hcall⟩ | ⟨e, -, hcall⟩
  · rw [Exec.run_bind_ok hcall]
    match hload : load M.format M.device M.adapter M.access v.files s with
    | (.ok found, s') => exact ⟨.ok (), s', Exec.run_bind_ok (onModel_run hload v) _⟩
    | (.error e, s') => exact ⟨.error e, s', Exec.run_bind_error (onModel_run hload v) _⟩
  · exact ⟨.error e, s, Exec.run_bind_error hcall _⟩

theorem Outcome.untouched {hserves : Serves M.adapter M.access} {value : Int} {v : Volume} {s : σ}
    {r : Except Exc Bool} (h : r ≠ .ok true) : M.Outcome d hserves value v s r v := by
  have hstopped : M.Outcome d hserves value v s r (v.after []) := .stopped nofun h
  rwa [Volume.after_nil] at hstopped

variable (hserves : Serves M.adapter M.access)

include hserves

theorem legacyDocument_run (value : Int) (data : Json) (s : σ) :
    M.legacyDocument value data s = ((do
      checkLegacy M.format M.device data
      let expected ← valuesOf (hserves.od s) M.adapter.persistentRoles
      addVelocity M.format (expected.map fun kv => keyText kv.1) value data), s) := by
  unfold legacyDocument
  rw [Exec.run_ofExcept_bind]
  cases checkLegacy M.format M.device data with
  | error e => rfl
  | ok _ =>
    dsimp only [bind, Except.bind]
    refine (Exec.run_bind _ _ s).trans ?_
    rw [hserves.parameterValues]
    cases valuesOf (hserves.od s) M.adapter.persistentRoles with
    | error e => rfl
    | ok expected => exact Exec.run_ofExcept ..

theorem loadStaged_cases (doc : Json) (s : σ) :
    (∃ decoded, decodeSnapshot M.format M.device M.adapter M.access (hserves.od s) (M.dumps doc) = .ok decoded ∧
      M.loadStaged d doc s = (.ok (), writeDecoded M.access decoded s)) ∨
    ∃ e, M.loadStaged d doc s = (.error e, s) := by
  unfold loadStaged
  rcases d.call_cases .writeStaged s with ⟨-, hwrite⟩ | ⟨e, -, hwrite⟩
  · rw [Exec.run_bind_ok hwrite]
    rcases d.call_cases .loadText s with ⟨-, htext⟩ | ⟨e, -, htext⟩
    · rw [Exec.run_bind_ok htext, Exec.run_bind, hserves.loadFound]
      cases decodeSnapshot M.format M.device M.adapter M.access (hserves.od s) (M.dumps doc) with
      | ok decoded => exact .inl ⟨decoded, rfl, rfl⟩
      | error e => exact .inr ⟨e, rfl⟩
    · exact .inr ⟨e, Exec.run_bind_error htext _⟩
  · exact .inr ⟨e, Exec.run_bind_error hwrite _⟩

theorem stage_cases (doc : Json) (s : σ) :
    (∃ decoded, decodeSnapshot M.format M.device M.adapter M.access (hserves.od s) (M.dumps doc) = .ok decoded ∧
      M.stage d doc s = (.ok (), writeDecoded M.access decoded s)) ∨
    ∃ e s', M.stage d doc s = (.error e, s') := by
  unfold stage
  rcases d.call_cases .makeDirectory s with ⟨-, hmake⟩ | ⟨e, -, hmake⟩
  · rw [Exec.run_bind_ok hmake]
    rcases loadStaged_cases (d := d) hserves doc s with ⟨decoded, hdecoded, hload⟩ | ⟨e, hload⟩
    · rw [Exec.run_ensuring, hload]
      rcases d.call_cases .removeDirectory (writeDecoded M.access decoded s) with ⟨-, hremove⟩ | ⟨e, -, hremove⟩
      · exact .inl ⟨decoded, hdecoded, by rw [hremove]⟩
      · exact .inr ⟨e, _, by rw [hremove]⟩
    · exact .inr (Exec.ensuring_error hload)
  · exact .inr ⟨e, s, Exec.run_bind_error hmake _⟩

theorem legacyDocument_cases (value : Int) (data : Json) (s : σ) :
    (∃ doc, M.legacyDocument value data s = (.ok doc, s)) ∨ ∃ e, M.legacyDocument value data s = (.error e, s) := by
  have hrun := legacyDocument_run hserves value data s
  match hdoc : M.legacyDocument value data s with
  | (.ok doc, s') =>
    rw [hdoc] at hrun
    exact .inl ⟨doc, by rw [(Prod.mk.inj hrun).2]⟩
  | (.error e, s') =>
    rw [hdoc] at hrun
    exact .inr ⟨e, by rw [(Prod.mk.inj hrun).2]⟩

theorem upgrade_outcome {value : Int} {v : Volume} {s : σ} {original : Bytes} {data : Json}
    (hprepared : ∀ doc decoded, M.legacyDocument value data s = (.ok doc, s) →
      decodeSnapshot M.format M.device M.adapter M.access (hserves.od s) (M.dumps doc) = .ok decoded →
      M.Prepared hserves value v.files s original data doc decoded) :
    (M.upgrade d value original data).Post (v, s) fun r p => M.Outcome d hserves value v s r p.1 := by
  unfold upgrade Exec.Post
  rcases legacyDocument_cases hserves value data s with ⟨doc, hdoc⟩ | ⟨e, hdoc⟩
  · rw [Exec.run_bind_ok (onModel_run hdoc v)]
    rcases stage_cases (d := d) hserves doc s with ⟨decoded, hdecoded, hstage⟩ | ⟨e, s', hstage⟩
    · rw [Exec.run_bind_ok (onModel_run hstage v)]
      obtain ⟨steps, hstate, hlocal, hkept⟩ := M.keepBackup_spec d original v
      match hbackup : M.keepBackup d original v with
      | (.ok (), v') =>
        rw [hbackup] at hstate hkept
        obtain rfl : v' = v.after steps := hstate
        rw [Exec.run_bind_ok (onVolume_run hbackup _), Exec.run_bind, Exec.run_get]
        dsimp only
        rw [Exec.run_bind]
        have hsaved := Outcome.saved (d := d) (hprepared doc decoded hdoc hdecoded) hlocal (hkept rfl)
        unfold savePrepared at hsaved
        match hsave : M.store.save M.format M.device d.save M.adapter (writeDecoded M.access decoded s)
            (v.after steps) with
        | (.ok (), v') =>
          rw [hsave] at hsaved
          rw [onVolume_run hsave]
          exact hsaved
        | (.error e, v') =>
          rw [hsave] at hsaved
          rw [onVolume_run hsave]
          exact hsaved
      | (.error e, v') =>
        rw [hbackup] at hstate
        obtain rfl : v' = v.after steps := hstate
        rw [Exec.run_bind_error (onVolume_run hbackup _)]
        exact .stopped hlocal nofun
    · rw [Exec.run_bind_error (onModel_run hstage v)]
      exact .untouched nofun
  · rw [Exec.run_bind_error (onModel_run hdoc v)]
    exact .untouched nofun

theorem migrateSnapshot_outcome {value : Int} {v : Volume} {s : σ} (hlocked : M.store.locked = true)
    (htype : M.device.modelType = .fKrCmmt) (hrange : 0 ≤ value ∧ value ≤ 0xffffffff) :
    (M.migrateSnapshot d value).Post (v, s) fun r p => M.Outcome d hserves value v s r p.1 := by
  unfold migrateSnapshot Exec.Post
  rcases M.readBytes_cases d v with ⟨-, original, hfile, hread⟩ | ⟨e, hread⟩
  · rw [Exec.run_bind_ok (onVolume_run hread s)]
    rcases d.call_cases .readText (v, s) with ⟨-, hcall⟩ | ⟨e, -, hcall⟩
    · rw [Exec.run_bind_ok hcall, Exec.run_ofExcept_bind]
      cases hparse : M.format.parse original with
      | error e => exact .untouched nofun
      | ok data =>
        dsimp only
        rw [Exec.run_ofExcept_bind]
        cases schemaVersion? data with
        | error e => exact .untouched nofun
        | ok version =>
          dsimp only
          split
          · obtain ⟨r, s', hreload⟩ := reload_cases (M := M) (d := d) v s
            rw [Exec.run_bind, hreload]
            cases r with
            | ok _ => exact .untouched nofun
            | error e => exact .untouched nofun
          · exact upgrade_outcome hserves fun doc decoded hdoc hdecoded =>
              ⟨hlocked, htype, hrange, hfile, hparse, hdoc, hdecoded⟩
    · rw [Exec.run_bind_error hcall]
      exact .untouched nofun
  · rw [Exec.run_bind_error (onVolume_run hread s)]
    exact .untouched nofun

theorem migrate_outcome (value : Int) (v : Volume) (s : σ) :
    (M.migrateProfileVelocity d value).Post (v, s) fun r p => M.Outcome d hserves value v s r p.1 := by
  unfold migrateProfileVelocity
  refine Exec.post_require_bind (fun hlocked => ?_) fun _ => .untouched nofun
  refine Exec.post_require_bind (fun htype => ?_) fun _ => .untouched nofun
  refine Exec.post_require_bind (fun hrange => ?_) fun _ => .untouched nofun
  exact migrateSnapshot_outcome hserves hlocked htype hrange

end Serves

/-! Every point of a migration. -/

section Points

variable [PyFloat F] (hserves : Serves M.adapter M.access)

/-- The files of a migration that is killed after some of its steps. -/
def interrupted (value : Int) (files : Files String UInt8) (s : σ) (killed : Nat) : Files String UInt8 :=
  FileStep.applyAll files ((M.migrateProfileVelocity d value (⟨files, []⟩, s)).2.1.steps.take killed)

variable {M d}

theorem interrupted_cases (hserves : Serves M.adapter M.access) (value : Int) (files : Files String UInt8) (s : σ)
    (killed : Nat) :
    M.interrupted d value files s killed M.device.path = files M.device.path ∨
      ∃ original data doc decoded values, M.Prepared hserves value files s original data doc decoded ∧
        (savedValues M.adapter (writeDecoded M.access decoded s)).1 = .ok values ∧
        M.Upgraded (M.interrupted d value files s killed) original values := by
  have houtcome : M.Outcome d hserves value ⟨files, []⟩ s _ _ :=
    migrate_outcome (d := d) hserves value ⟨files, []⟩ s
  unfold interrupted
  generalize (M.migrateProfileVelocity d value (⟨files, []⟩, s)).1 = r at houtcome
  generalize (M.migrateProfileVelocity d value (⟨files, []⟩, s)).2.1 = v' at houtcome ⊢
  cases houtcome with
  | @stopped r steps hlocal _ =>
    refine .inl (path_of_backup_steps (fun step hstep => hlocal step ?_) files)
    exact List.mem_of_mem_take hstep
  | @saved original data doc decoded steps hprepared hlocal hkept =>
    obtain ⟨saving, hstate, hsaving⟩ := savePrepared_killed (d := d) (s := s) decoded hkept
    rw [hstate, Volume.after_after]
    change FileStep.applyAll files ((steps ++ saving).take killed) _ = _ ∨ ∃ _ _ _ _ _, _ ∧ _ ∧
      M.Upgraded (FileStep.applyAll files ((steps ++ saving).take killed)) _ _
    rw [List.take_append, FileStep.applyAll_append]
    by_cases hearly : killed ≤ steps.length
    · rw [Nat.sub_eq_zero_of_le hearly, List.take_zero]
      refine .inl (path_of_backup_steps (fun step hstep => hlocal step ?_) files)
      exact List.mem_of_mem_take hstep
    · rw [List.take_of_length_le (Nat.le_of_not_le hearly)]
      rcases hsaving _ (List.take_prefix _ saving) with hpath | ⟨values, hvalues, hupgraded⟩
      · exact .inl (hpath.trans (path_of_backup_steps hlocal files))
      · exact .inr ⟨original, data, doc, decoded, values, hprepared, hvalues, hupgraded⟩

theorem migrated (hserves : Serves M.adapter M.access) {value : Int} {v : Volume} {s : σ}
    (h : (M.migrateProfileVelocity d value (v, s)).1 = .ok true) :
    ∃ original data doc decoded values, M.Prepared hserves value v.files s original data doc decoded ∧
      (savedValues M.adapter (writeDecoded M.access decoded s)).1 = .ok values ∧
      M.Upgraded (M.migrateProfileVelocity d value (v, s)).2.1.files original values := by
  have houtcome : M.Outcome d hserves value v s _ _ := migrate_outcome (d := d) hserves value v s
  rw [h] at houtcome
  generalize (M.migrateProfileVelocity d value (v, s)).2.1 = v' at houtcome ⊢
  generalize hr : (.ok true : Except Exc Bool) = r at houtcome
  cases houtcome with
  | stopped _ hfails => exact absurd hr.symm hfails
  | @saved original data doc decoded steps hprepared _ hkept =>
    match hsave : M.savePrepared d decoded s (v.after steps) with
    | (.ok (), v') =>
      obtain ⟨values, hvalues, hupgraded⟩ := savePrepared_ok hkept hsave
      exact ⟨original, data, doc, decoded, values, hprepared, hvalues, hupgraded⟩
    | (.error e, v') =>
      rw [hsave] at hr
      cases hr

end Points

end Migration

end EthercatSimulator.Storage
