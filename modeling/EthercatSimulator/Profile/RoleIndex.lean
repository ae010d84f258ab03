import EthercatSimulator.Base.Dict
import EthercatSimulator.Profile.VirtualOd

/-! The lookup of definitions by their role: the scan of the dictionary, and the index that
`install_role_index` puts in its place. -/

namespace EthercatSimulator.Profile.RoleIndex

open Base

/-- `None`, or a value. -/
abbrev Arg (F : Type) := Option (Content F)

/-- `VirtualOdDefinition`.  `define` converts what it is given, `overlay` does not. -/
structure RoleDefinition (F : Type) where
  index : Nat
  subindex : Nat
  name : Content F
  dataType : Content F
  bitSize : Content F
  access : Content F
  default : Arg F
  role : Option String
  rxpdo : Content F
  txpdo : Content F

structure RoleEntry (F : Type) where
  definition : RoleDefinition F
  value : Arg F

/-- `VirtualOdModel` -/
structure RoleOd (F : Type) where
  entries : List (Key × RoleEntry F) := []
  lastWriteKey : Option Key := none
  writeGeneration : Nat := 0

/-- The keyword arguments of `define` and `overlay`: none for one that is not given. -/
structure Keywords (F : Type) where
  name : Option (Arg F) := none
  dataType : Option (Arg F) := none
  bitSize : Option (Arg F) := none
  access : Option (Arg F) := none
  default : Option (Arg F) := none
  role : Option (Option String) := none
  rxpdo : Option (Arg F) := none
  txpdo : Option (Arg F) := none
  unexpected : List (String × Arg F) := []

def typeError (message : String) : Exc := ⟨.typeError, message⟩
def keyError (message : String) : Exc := ⟨.keyError, message⟩

variable {F : Type} [PyFloat F] (py : TextConversion F)

/-! `define` -/

/-- `str(arg)` -/
def argStr : Arg F → String
  | none => "None"
  | some v => py.str v

/-- `int(arg)` -/
def argInt : Arg F → Except Exc Int
  | none => .error (typeError
      "int() argument must be a string, a bytes-like object or a real number, not 'NoneType'")
  | some v => v.toInt py

/-- `bool(arg)` -/
def argBool : Arg F → Bool
  | none => false
  | some (.number v) => !v.same (.int 0)
  | some (.text s) => s ≠ ""
  | some (.bytes b) => b ≠ []

def ofBool (b : Bool) : Content F := .number (.int b.toNat)

omit [PyFloat F] in
def missingArguments (kw : Keywords F) : List String :=
  (if kw.name.isNone then ["'name'"] else []) ++ (if kw.dataType.isNone then ["'data_type'"] else []) ++
    if kw.bitSize.isNone then ["'bit_size'"] else []

/-- What the interpreter makes of the arguments of `define`. -/
def bindArguments (kw : Keywords F) : Except Exc (Arg F × Arg F × Arg F) :=
  match kw.unexpected, kw.name, kw.dataType, kw.bitSize with
  | (key, _) :: _, _, _, _ => .error (typeError
      ("VirtualOdModel.define() got an unexpected keyword argument '" ++ key ++ "'"))
  | [], some name, some dataType, some bitSize => .ok (name, dataType, bitSize)
  | [], _, _, _ => .error (typeError
      ("VirtualOdModel.define() missing required keyword-only arguments: " ++
        ", ".intercalate (missingArguments kw)))

def newDefinition (key : Key) (kw : Keywords F) : Except Exc (RoleDefinition F) := do
  let (name, dataType, bitSize) ← bindArguments kw
  let bits ← argInt py bitSize
  let access := kw.access.getD (some (.text ""))
  return {
    index := key.1, subindex := key.2
    name := .text (argStr py name), dataType := .text (argStr py dataType)
    bitSize := .number (.int bits)
    access := .text (if argBool access then argStr py access else "")
    default := kw.default.getD (some (.number (.int 0))), role := kw.role.getD none
    rxpdo := ofBool (argBool (kw.rxpdo.getD none)), txpdo := ofBool (argBool (kw.txpdo.getD none)) }

/-- `define`, of the storage key -/
def define (key : Key) (kw : Keywords F) : PyM (RoleOd F) (RoleDefinition F) := do
  let definition ← Exec.ofExcept (newDefinition py key kw)
  Exec.modify fun od => { od with entries := Dict.set key ⟨definition, definition.default⟩ od.entries }
  return definition

/-! `overlay` -/

/-- `value not in (None, "")` -/
def supplied : Option (Arg F) → Option (Content F)
  | some (some (.text "")) => none
  | some (some v) => some v
  | _ => none

def suppliedRole : Option (Option String) → Option String
  | some (some "") => none
  | some role => role
  | none => none

/-- `replace(current.definition, **supplied)` -/
def replaceDefinition (kw : Keywords F) (d : RoleDefinition F) : Except Exc (RoleDefinition F) :=
  match kw.unexpected.find? fun change => (supplied (some change.2)).isSome with
  | some (key, _) => .error (typeError
      ("VirtualOdDefinition.__init__() got an unexpected keyword argument '" ++ key ++ "'"))
  | none => .ok { d with
      name := (supplied kw.name).getD d.name
      dataType := (supplied kw.dataType).getD d.dataType
      bitSize := (supplied kw.bitSize).getD d.bitSize
      access := (supplied kw.access).getD d.access
      default := ((supplied kw.default).map some).getD d.default
      role := (suppliedRole kw.role).or d.role
      rxpdo := (supplied kw.rxpdo).getD d.rxpdo
      txpdo := (supplied kw.txpdo).getD d.txpdo }

def overlayEntry (key : Key) (kw : Keywords F) (current : RoleEntry F) : PyM (RoleOd F) (RoleDefinition F) := do
  let definition ← Exec.ofExcept (replaceDefinition kw current.definition)
  let value := kw.default.getD current.value
  Exec.modify fun od => { od with entries := Dict.set key ⟨definition, value⟩ od.entries }
  return definition

/-! Access by role. -/

def RoleOd.definitions (od : RoleOd F) : List (RoleDefinition F) := od.entries.map fun kv => kv.2.definition

def matchesOf (role : Option String) (definitions : List (RoleDefinition F)) : List (RoleDefinition F) :=
  definitions.filter fun d => d.role = role

/-- `role!r` -/
def roleText : Option String → String
  | none => "None"
  | some role => "'" ++ role ++ "'"

def single (role : Option String) (found : List (RoleDefinition F)) : Except Exc (RoleDefinition F) :=
  match found with
  | [d] => .ok d
  | _ => .error (keyError ("Expected one OD definition for role " ++ roleText role ++ ", found "
      ++ toString found.length))

/-- `definition_by_role`: the scan -/
def definitionByRole (role : Option String) : PyM (RoleOd F) (RoleDefinition F) := do
  let od ← Exec.get
  Exec.ofExcept (single role (matchesOf role od.definitions))

def entryOf (key : Key) : PyM (RoleOd F) (RoleEntry F) := do
  let od ← Exec.get
  match od.entries.lookup key with
  | some entry => return entry
  | none => Exec.raise (keyError (toString key))

def read (key : Key) : PyM (RoleOd F) (Arg F) := do
  let entry ← entryOf key
  return entry.value

def writeInternal (key : Key) (value : Arg F) : PyM (RoleOd F) Unit := do
  let entry ← entryOf key
  Exec.modify fun od => { od with entries := Dict.set key { entry with value } od.entries }

def write (key : Key) (value : Arg F) : PyM (RoleOd F) Unit := do
  writeInternal key value
  Exec.modify fun od => { od with lastWriteKey := some key, writeGeneration := od.writeGeneration + 1 }

/-! `install_role_index` -/

abbrev Index (F : Type) := List (Option String × List (RoleDefinition F))

/-- The dictionary with the index as it is built, unless it is to be built. -/
structure IndexedOd (F : Type) where
  od : RoleOd F
  index : Option (Index F)

/-- `rebuilt.setdefault(role, []).append(definition)` -/
def addDefinition (index : Index F) (d : RoleDefinition F) : Index F :=
  Dict.set d.role ((index.lookup d.role).getD [] ++ [d]) index

def rebuild (od : RoleOd F) : Index F := od.definitions.foldl addDefinition []

def install (od : RoleOd F) : IndexedOd F := ⟨od, some (rebuild od)⟩

/-- What the methods of a dictionary are, for a call that finds them on the instance. -/
structure Methods (F S : Type) where
  onOd : {α : Type} → PyM (RoleOd F) α → PyM S α
  /-- Around `define` and `overlay`. -/
  updating : {α : Type} → PyM S α → PyM S α
  definitionByRole : Option String → PyM S (RoleDefinition F)

def plain (F : Type) : Methods F (RoleOd F) where
  onOd x := x
  updating x := x
  definitionByRole := definitionByRole

def onIndexed {α : Type} (x : PyM (RoleOd F) α) : PyM (IndexedOd F) α :=
  x.zoom (·.od) fun s od => { s with od }

/-- Even a failed definition update must not leave stale entries. -/
def invalidateAfter {α : Type} (x : PyM (IndexedOd F) α) : PyM (IndexedOd F) α :=
  x.ensuring (Exec.modify fun s => { s with index := none })

def indexedByRole (role : Option String) : PyM (IndexedOd F) (RoleDefinition F) := do
  Exec.modify fun s => { s with index := some (s.index.getD (rebuild s.od)) }
  let s ← Exec.get
  Exec.ofExcept (single role (((s.index.getD []).lookup role).getD []))

def indexed (F : Type) : Methods F (IndexedOd F) where
  onOd := onIndexed
  updating := invalidateAfter
  definitionByRole := indexedByRole

/-! Calls. -/

inductive Call (F : Type)
  | define (key : Key) (kw : Keywords F)
  | overlay (key : Key) (kw : Keywords F)
  | write (key : Key) (value : Arg F)
  | writeRole (role : Option String) (value : Arg F)
  | writeInternal (key : Key) (value : Arg F)
  | readRole (role : Option String)
  | definitionByRole (role : Option String)

inductive Answer (F : Type)
  | none
  | definition (d : RoleDefinition F)
  | value (v : Arg F)

namespace Methods

variable {S : Type} (M : Methods F S)

def define (key : Key) (kw : Keywords F) : PyM S (RoleDefinition F) :=
  M.updating (M.onOd (RoleIndex.define py key kw))

def overlay (key : Key) (kw : Keywords F) : PyM S (RoleDefinition F) := M.updating do
  let current ← M.onOd do
    let od ← Exec.get
    return od.entries.lookup key
  match current with
  | some current => M.onOd (overlayEntry key kw current)
  | none => M.define py key kw

def writeRole (role : Option String) (value : Arg F) : PyM S Unit := do
  let d ← M.definitionByRole role
  M.onOd (write (d.index, d.subindex) value)

def readRole (role : Option String) : PyM S (Arg F) := do
  let d ← M.definitionByRole role
  M.onOd (read (d.index, d.subindex))

def call : Call F → PyM S (Answer F)
  | .define key kw => .definition <$> M.define py key kw
  | .overlay key kw => .definition <$> M.overlay py key kw
  | .write key value => (fun _ => .none) <$> M.onOd (write key value)
  | .writeRole role value => (fun _ => .none) <$> M.writeRole role value
  | .writeInternal key value => (fun _ => .none) <$> M.onOd (writeInternal key value)
  | .readRole role => .value <$> M.readRole role
  | .definitionByRole role => .definition <$> M.definitionByRole role

/-- The answers to a sequence of calls, some of which may raise. -/
def run : List (Call F) → S → List (Except Exc (Answer F)) × S
  | [], s => ([], s)
  | c :: rest, s =>
    let (answer, s) := M.call py c s
    let (answers, s) := run rest s
    (answer :: answers, s)

end Methods

end EthercatSimulator.Profile.RoleIndex
