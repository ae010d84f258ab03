import EthercatSimulator.Fleet.StartUp
import EthercatSimulator.Storage.MigrationLaws

/-! The migration of an F-KR snapshot never loses the original, and keeps every value. -/

namespace EthercatSimulator.Fleet

open Base Profile Behaviour Adapter Storage Ipc EthercatSimulator.Runtime

/-- A migration with the adapter of `migrate.main`. -/
def fKrMigration (F : Type) [PyFloat F] (store : ParameterStore) (format : Format) (dumps : Json → Bytes)
    (device : Device) : Migration F (Servo F) where
  store := store
  format := format
  dumps := dumps
  device := device
  adapter := fKrCmmt F
  access := (fKrDrive F).access

/-- At every point of a migration the snapshot is the original, or a complete one while the backup is
the original; one that succeeds keeps every value, and one that is rejected touches no file. -/
theorem original_never_lost {F : Type} [PyFloat F] (store : ParameterStore) (format : Format)
    (dumps : Json → Bytes) (device : Device) (d : MigrationDisk) (files : Files String UInt8) (value : Int)
    (hread : ∀ original, files device.path = some original →
      (fKrMigration F store format dumps device).ReadsBack Profile.persistentRoles value
        (Servo.construct device.mode) original) :
    (fKrMigration F store format dumps device).KeepsOriginal Profile.persistentRoles
      (Servo.construct device.mode) d files value where
  safe := Migration.safe_interrupted fKrServes rfl hread
  migrated := Migration.migrated_of_true (v := ⟨files, []⟩) fKrServes rfl hread
  rejected := Migration.Rejects.run (v := ⟨files, []⟩) fKrServes

/-! A snapshot of one axis. -/

mutual

/-- `json.dumps`, of what a snapshot is made of. -/
def compactText : Json → String
  | .int n => toString n
  | .string s => "\"" ++ s ++ "\""
  | .object members => "\x7b" ++ compactMembers members ++ "\x7d"
  | _ => "null"

def compactMembers : List (String × Json) → String
  | [] => ""
  | [(key, value)] => "\"" ++ key ++ "\": " ++ compactText value
  | (key, value) :: rest => "\"" ++ key ++ "\": " ++ compactText value ++ ", " ++ compactMembers rest

end

/-- The parameters of schema 1. -/
def legacyValues : List (Key × Bytes) := openedValues.dropLast

def legacySnapshot : Json := .object [("schema_version", .int 1), ("identity", axisDevice.identity),
  ("values", snapshotValues legacyValues), ("checksum", .string "20c3ce4079a04abe8a43b2862a0f57f907144a26ed40ad727bb98289f49d7f45")]

def upgradedValues : List (Key × Bytes) := legacyValues ++ [(Key.profileVelocity, [0xD2, 0x04, 0x00, 0x00])]

def upgradedSnapshot : Json := .object (snapshotBody axisDevice upgradedValues ++ [("checksum", .string "40b412ca064380e8ee07f81a60bc1a0e80cc17da297d2ef574315c4d07d4fe0e")])

/-- The texts and the digests of the two snapshots. -/
def migrationFormat : Format where
  dump data := utf8 (indentedText "" data)
  parse text :=
    if text = utf8 (indentedText "" legacySnapshot) then .ok legacySnapshot
    else if text = utf8 (compactText upgradedSnapshot) ∨ text = utf8 (indentedText "" upgradedSnapshot) then
      .ok upgradedSnapshot
    else .error (valueError "Expecting value: line 1 column 1 (char 0)")
  checksum data := if isInt 1 (data.get? "schema_version") then "20c3ce4079a04abe8a43b2862a0f57f907144a26ed40ad727bb98289f49d7f45" else "40b412ca064380e8ee07f81a60bc1a0e80cc17da297d2ef574315c4d07d4fe0e"

def legacyText : Bytes := utf8 (indentedText "" legacySnapshot)

def legacyFiles : Files String UInt8 := fun name => if name = "axis-0.json" then some legacyText else none

def quietDisk : MigrationDisk := ⟨fun _ => none, ⟨"", fun _ => none, 100⟩, ⟨"k3_w0x9a", fun _ => none, 100⟩⟩

def axisMigration : Migration ExtRat (Servo ExtRat) :=
  fKrMigration ExtRat ⟨true, true⟩ migrationFormat (fun data => utf8 (compactText data)) axisDevice

theorem parse_legacy : migrationFormat.parse legacyText = .ok legacySnapshot := by
  have htext : legacyText = utf8 (indentedText "" legacySnapshot) := rfl
  unfold migrationFormat
  dsimp only
  rw [if_pos htext]

theorem parse_upgraded : migrationFormat.parse (utf8 (compactText upgradedSnapshot)) = .ok upgradedSnapshot ∧
    migrationFormat.parse (utf8 (indentedText "" upgradedSnapshot)) = .ok upgradedSnapshot := by
  have hne : utf8 (compactText upgradedSnapshot) ≠ utf8 (indentedText "" legacySnapshot) ∧
      utf8 (indentedText "" upgradedSnapshot) ≠ utf8 (indentedText "" legacySnapshot) := by
    decide +kernel
  unfold migrationFormat
  dsimp only
  rw [if_neg hne.1, if_neg hne.2, if_pos (.inl rfl), if_pos (.inr rfl)]
  exact ⟨rfl, rfl⟩

theorem withMember_legacy : withMember "6081:00" (.string (hexText (leBytes 4 (1234 : Int).toNat)))
    (snapshotValues legacyValues) = snapshotValues upgradedValues := by
  have hfree : "6081:00" ∉ legacyValues.map fun kv => keyText kv.1 := by decide +kernel
  unfold upgradedValues snapshotValues
  rw [List.map_append]
  refine congrArg Json.object ((setMember_of_notMem ?_).trans rfl)
  rw [List.map_map]
  exact hfree

theorem legacyDocument_axis : axisMigration.legacyDocument 1234 legacySnapshot (Servo.construct .linear) =
    (.ok upgradedSnapshot, Servo.construct .linear) := by
  have hcheck : checkLegacy migrationFormat axisDevice legacySnapshot = .ok () := by decide +kernel
  have hread : valuesOf (Servo.construct .linear : Servo ExtRat).od
      (Profile.persistentRoles ++ [Key.profileVelocity]) = .ok openedValues := by decide +kernel
  have hcatalog : hasFields ((openedValues.map fun kv => keyText kv.1).filter fun key => key ≠ "6081:00")
      (snapshotValues legacyValues) = true := by decide +kernel
  have hvalues : legacySnapshot.get? "values" = some (snapshotValues legacyValues) := rfl
  rw [Migration.legacyDocument_run (M := axisMigration) fKrServes]
  refine Prod.ext (bind_ok.mpr ⟨(), hcheck, bind_ok.mpr ⟨openedValues, hread, ?_⟩⟩) rfl
  unfold addVelocity
  rw [hvalues]
  dsimp only
  rw [if_neg (not_not.mpr hcatalog)]
  unfold upgradedBody
  rw [withMember_legacy]
  rfl

theorem original_never_lost_axis :
    (axisMigration.migrateProfileVelocity quietDisk 1234 (⟨legacyFiles, []⟩, Servo.construct .linear)).1 = .ok true ∧
    axisMigration.KeepsOriginal Profile.persistentRoles (Servo.construct .linear) quietDisk legacyFiles 1234 := by
  have hparameters : migrationFormat.parameters Profile.persistentRoles legacyText = some legacyValues := by
    unfold Format.parameters
    rw [parse_legacy]
    decide +kernel
  refine ⟨by decide +kernel, original_never_lost _ _ _ axisDevice _ _ _ fun original hfile => ?_⟩
  obtain rfl : legacyText = original := Option.some.inj hfile
  constructor
  · intro data doc hparse hdoc
    cases parse_legacy.symm.trans hparse
    cases legacyDocument_axis.symm.trans hdoc
    exact parse_upgraded.1
  · intro before hbefore
    cases hparameters.symm.trans hbefore
    exact parse_upgraded.2

end EthercatSimulator.Fleet
