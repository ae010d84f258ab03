import Mathlib.Data.Finmap
import Mathlib.Data.Finset.Sort
import EthercatSimulator.Base.Exec
import EthercatSimulator.Diagnostics.Fault
import EthercatSimulator.Slave.SdoGateway

/-! The ESI dictionary that is generated from a model contract. -/

namespace EthercatSimulator.Slave

open Base Diagnostics

structure ContractEntry where
  index : Nat
  subindex : Nat
  name : String
  type : String
  bits : Nat
  access : String
  initial : String

def ContractEntry.key (e : ContractEntry) : Nat × Nat := (e.index, e.subindex)

/-- An object of the process image. -/
structure MappedObject where
  index : Nat
  subindex : Nat
  bits : Nat

/-- What the fixture takes from `describe`: the identity, the entries and the process image. -/
structure Contract where
  vendor : Nat
  product : Nat
  revision : Nat
  entries : List ContractEntry
  rx : List MappedObject
  tx : List MappedObject
  distinct : (entries.map ContractEntry.key).Nodup
  addressed : ∀ e ∈ entries, e.index < 2 ^ 16 ∧ e.subindex < 2 ^ 8

/-- A subitem of an object, with its offset in bits. -/
structure EsiItem where
  subindex : Nat
  name : String
  type : String
  bits : Nat
  offset : Nat
  access : String
  default : String

structure EsiObject where
  index : Nat
  name : String
  type : String
  bitSize : Nat
  items : List EsiItem

/-! `generate_fixture` -/

def overflow : Exc := ⟨.overflowError, "int too big to convert"⟩

/-- `value` -/
def constant (index subindex : Nat) (name type : String) (bits number : Nat) : Except Exc ContractEntry :=
  if number < 256 ^ (bits / 8) then
    .ok ⟨index, subindex, name, type, bits, "ro", hexText (leBytes (bits / 8) number)⟩
  else .error overflow

abbrev Groups := Finmap fun _ : Nat => List ContractEntry

def groupEntries (entries : List ContractEntry) : Groups :=
  entries.foldl (fun groups e => groups.insert e.index ((groups.lookup e.index).getD [] ++ [e])) ∅

def MappedObject.word (o : MappedObject) : Nat := o.index <<< 16 ||| o.subindex <<< 8 ||| o.bits

/-- The count of an array and its elements, the first of which has subindex 1. -/
def array (index : Nat) (count : Nat) (elements : List (String × String × Nat × Nat)) :
    Except Exc (List ContractEntry) := do
  let first ← constant index 0 "Count" "USINT" 8 count
  let rest ← elements.zipIdx.mapM fun (e, i) => constant index (i + 1) e.1 e.2.1 e.2.2.1 e.2.2.2
  return first :: rest

def mapping (index : Nat) (objects : List MappedObject) : Except Exc (List ContractEntry) :=
  array index objects.length <|
    objects.zipIdx.map fun (o, i) => ("Mapping " ++ toString (i + 1), "UDINT", 32, o.word)

def assignmentOf (index pdo : Nat) : Except Exc (List ContractEntry) :=
  array index 1 [("PDO", "UINT", 16, pdo)]

/-- The objects of the CoE communication area, which replace those of the contract. -/
def communication (spec : Contract) : List (Nat × Except Exc (List ContractEntry)) := [
  (0x1000, do return [← constant 0x1000 0 "Device type" "UDINT" 32 402]),
  (0x1018, array 0x1018 4 [("Vendor", "UDINT", 32, spec.vendor), ("Product", "UDINT", 32, spec.product),
    ("Revision", "UDINT", 32, spec.revision), ("Serial", "UDINT", 32, 1)]),
  (0x1C00, [4, 1, 2, 3, 4].zipIdx.mapM fun (v, i) =>
    constant 0x1C00 i ("SM" ++ toString i) "USINT" 8 v),
  (0x1600, mapping 0x1600 spec.rx),
  (0x1C12, assignmentOf 0x1C12 0x1600),
  (0x1A00, mapping 0x1A00 spec.tx),
  (0x1C13, assignmentOf 0x1C13 0x1A00)]

def insertAll : List (Nat × Except Exc (List ContractEntry)) → Groups → Except Exc Groups
  | [], groups => .ok groups
  | (index, entries) :: rest, groups => do insertAll rest (groups.insert index (← entries))

def accessOrDefault (e : ContractEntry) : String := if e.access = "" then "ro" else e.access

/-- The subitems of a record; the first is the count, with eight bits of padding behind it. -/
def recordItems : List ContractEntry → Nat → List EsiItem
  | [], _ => []
  | e :: rest, offset =>
    ⟨e.subindex, "Sub " ++ toString e.subindex ++ " " ++ e.name, e.type, e.bits, offset, accessOrDefault e, e.initial⟩ ::
      recordItems rest (if e.subindex = 0 then 16 else offset + e.bits)

/-- Entries of a record, the lowest subindex first and a count before them if that is not zero. -/
def counted (index : Nat) (entries : List ContractEntry) : Except Exc (List ContractEntry) :=
  match entries with
  | [] => .ok []
  | first :: rest =>
    if first.subindex = 0 then .ok (first :: rest)
    else do
      let most := (first :: rest).foldl (fun n e => max n e.subindex) 0
      return (← constant index 0 "Count" "USINT" 8 most) :: first :: rest

def objectName (index : Nat) : String := "Simulator object " ++ String.ofList (hexDigits 4 index)

def esiObject (index : Nat) (entries : List ContractEntry) : Except Exc EsiObject :=
  match entries.insertionSort fun a b => a.subindex ≤ b.subindex with
  | [e] =>
    if e.subindex = 0 then
      .ok ⟨index, objectName index, e.type, e.bits, [⟨0, e.name, e.type, e.bits, 0, accessOrDefault e, e.initial⟩]⟩
    else record [e]
  | sorted => record sorted
where
  record (sorted : List ContractEntry) : Except Exc EsiObject := do
    let entries ← counted index sorted
    return ⟨index, objectName index, "SIM_" ++ String.ofList (hexDigits 4 index),
      16 + (entries.tail.map (·.bits)).sum, recordItems entries 0⟩

def generateFixture (spec : Contract) : Except Exc (List EsiObject) := do
  let groups ← insertAll (communication spec) (groupEntries spec.entries)
  groups.keys.sort.mapM fun index => esiObject index ((groups.lookup index).getD [])

end EthercatSimulator.Slave
