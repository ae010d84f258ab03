import EthercatSimulator.Profile.Bridge

/-! An object dictionary with any definitions, its overlay by a process data configuration, and the
bridge to it. -/

namespace EthercatSimulator.Profile

open Base

/-- What an entry may hold. -/
inductive Content (F : Type)
  | number (v : Value F)
  | text (s : String)
  | bytes (b : Bytes)

/-- What `str` makes of a value, and what `int` makes of a text. -/
structure TextConversion (F : Type) where
  str : Content F → String
  int : Content F → Except Exc Int

variable {F : Type} [PyFloat F] (py : TextConversion F)

def Content.toInt : Content F → Except Exc Int
  | .number v => v.toInt
  | v => py.int v

/-! Names of data types. -/

inductive StructFormat
  | bool
  | numeric (t : DataType)

def StructFormat.size : StructFormat → Nat
  | .bool => 1
  | .numeric t => t.size

def DataType.name : DataType → String
  | .uint8 => "uint8"
  | .int8 => "int8"
  | .uint16 => "uint16"
  | .int16 => "int16"
  | .uint32 => "uint32"
  | .int32 => "int32"
  | .uint64 => "uint64"
  | .int64 => "int64"
  | .float32 => "float32"

/-- `DATA_TYPE_FORMATS` -/
def dataTypeFormats : List (String × StructFormat) :=
  ("bool", .bool) :: [DataType.uint8, .int8, .uint16, .int16, .uint32, .int32, .uint64, .int64, .float32].map
    fun t => (t.name, .numeric t)

/-- `DATA_TYPE_BITS` -/
def dataTypeBits : List (String × Nat) :=
  dataTypeFormats.map (fun tf => (tf.1, tf.2.size * 8)) ++
    [("visible_string", 0), ("octet_string", 0), ("unicode_string", 0), ("byte_array", 0)]

/-- `_DATA_TYPE_ALIASES` -/
def dataTypeAliases : List (String × String) := [
  ("BOOL", "bool"), ("USINT", "uint8"), ("BYTE", "uint8"), ("SINT", "int8"), ("UINT", "uint16"),
  ("WORD", "uint16"), ("INT", "int16"), ("UDINT", "uint32"), ("DWORD", "uint32"), ("DINT", "int32"),
  ("ULINT", "uint64"), ("LINT", "int64"), ("REAL", "float32")]

def strip (s : String) : String :=
  String.ofList ((s.toList.dropWhile isAsciiSpace).reverse.dropWhile isAsciiSpace).reverse

def upper (s : String) : String := String.ofList (s.toList.map Char.toUpper)
def lower (s : String) : String := String.ofList (s.toList.map Char.toLower)

def normalizeOdDataType (dataType : String) : String :=
  let name := strip dataType
  (dataTypeAliases.lookup (upper name)).getD (lower name)

/-- `part in s` -/
def isIn (part s : String) : Bool := s.toList.tails.any part.toList.isPrefixOf

def isByteArrayType (normalized : String) : Bool :=
  normalized = "byte_array" || normalized = "octet_string" ||
    isIn "array" normalized && isIn "byte" normalized

/-! `encode_od_value` and `decode_od_value` -/

/-- `bytes(value)` -/
def Content.toBytes : Content F → Except Exc Bytes
  | .bytes b => .ok b
  | .number (.int n) =>
    if n < 0 then .error ⟨.valueError, "negative count"⟩ else .ok (List.replicate n.toNat 0)
  | .number _ => .error ⟨.typeError, "cannot convert 'float' object to bytes"⟩
  | .text _ => .error ⟨.typeError, "string argument without an encoding"⟩

/-- `encode("ascii", errors="replace")` and its inverse. -/
def asciiBytes (s : String) : Bytes :=
  s.toList.map fun c => if c.toNat < 128 then UInt8.ofNat c.toNat else 0x3F

def asciiText (b : Bytes) : String :=
  String.ofList (b.map fun byte => if byte.toNat < 128 then Char.ofNat byte.toNat else Char.ofNat 0xFFFD)

/-- `struct.pack` -/
def packFormat (f : StructFormat) (v : Content F) : Except Exc Bytes :=
  match f, v with
  | .bool, v => do
    let n ← v.toInt py
    return [if n = 0 then 0 else 1]
  | .numeric .float32, .number v => encodeOdValue .float32 v
  | .numeric .float32, _ => .error ⟨.structError, "required argument is not a float"⟩
  | .numeric t, v => v.toInt py >>= packInt t

def intToBytes (n : Int) (size : Nat) : Except Exc Bytes :=
  if (if n < 0 then -(256 ^ size : Int) ≤ 2 * n else n < 256 ^ size) then .ok (leBytesInt size n)
  else .error ⟨.overflowError, "int too big to convert"⟩

def encodeNamed (dataType : String) (v : Content F) (size : Option Nat) : Except Exc Bytes :=
  let normalized := normalizeOdDataType dataType
  if isByteArrayType normalized then do
    let payload ← v.toBytes
    match size with
    | none => return payload
    | some size => return payload.take size ++ List.replicate (size - payload.length) 0
  else if isIn "string" normalized then
    let payload := asciiBytes (py.str v)
    .ok (match size with | none => payload | some size => payload.take size)
  else
    match dataTypeFormats.lookup normalized with
    | some f => packFormat py f v
    | none =>
      match size with
      | none => .error ⟨.valueError, "OD data type '" ++ dataType ++ "' requires an explicit size"⟩
      | some size => do
        let n ← v.toInt py
        intToBytes n size

def unpackFormat (f : StructFormat) (payload : Bytes) : Except Exc (Content F) :=
  match f with
  | .numeric t => Content.number <$> decodeOdValue t payload
  | .bool =>
    match payload with
    | [] => .error ⟨.structError, "unpack requires a buffer of the format's size"⟩
    | b :: _ => .ok (.number (.int (if b = 0 then 0 else 1)))

omit [PyFloat F] in
def decodeNamed (dataType : String) (payload : Bytes) : Except Exc (Content F) :=
  let normalized := normalizeOdDataType dataType
  if isByteArrayType normalized then .ok (.bytes payload)
  else if isIn "string" normalized then .ok (.text (asciiText (payload.takeWhile (· ≠ 0))))
  else
    match dataTypeFormats.lookup normalized with
    | some f => unpackFormat f payload
    | none => .ok (.number (.int (leNat payload)))

/-! `VirtualOdModel` -/

structure VirtualOdDefinition (F : Type) where
  name : String
  dataType : String
  bitSize : Nat
  access : String
  default : Content F
  role : Option String
  rxpdo : Bool
  txpdo : Bool

structure VirtualOdEntry (F : Type) where
  definition : VirtualOdDefinition F
  value : Content F

/-- Entries by their address; the source drops a subindex 0 from its key. -/
def VirtualOd (F : Type) := Key → Option (VirtualOdEntry F)

/-- Arguments of `define` and `overlay`; `none` for one that is not given. -/
structure Definitions (F : Type) where
  name : String
  dataType : String
  bitSize : Nat
  access : Option String := none
  default : Option (Content F) := none
  role : Option String := none
  rxpdo : Bool := false
  txpdo : Bool := false

/-- A text that is given and not empty, or else what was there. -/
def supplied (change current : String) : String := if change = "" then current else change

def suppliedContent (change : Option (Content F)) (current : Content F) : Content F :=
  match change with
  | none => current
  | some (.text "") => current
  | some v => v

namespace VirtualOd

variable (od : VirtualOd F)

def define (key : Key) (c : Definitions F) : VirtualOd F :=
  let default := c.default.getD (.number (.int 0))
  Function.update od key (some {
    value := default
    definition := {
      name := c.name, dataType := c.dataType, bitSize := c.bitSize, access := c.access.getD "", default
      role := c.role, rxpdo := c.rxpdo, txpdo := c.txpdo } })

def overlay (key : Key) (c : Definitions F) : VirtualOd F :=
  match od key with
  | none => od.define key c
  | some current =>
    let d := current.definition
    Function.update od key (some {
      value := c.default.getD current.value
      definition := {
        name := supplied c.name d.name
        dataType := supplied c.dataType d.dataType
        bitSize := c.bitSize
        access := supplied (c.access.getD "") d.access
        default := suppliedContent c.default d.default
        role := match c.role with
          | none | some "" => d.role
          | some role => some role
        rxpdo := c.rxpdo || d.rxpdo
        txpdo := c.txpdo || d.txpdo } })

def read (key : Key) : Except Exc (Content F) :=
  match od key with
  | some entry => .ok entry.value
  | none => .error ⟨.keyError, ""⟩

def write (key : Key) (v : Content F) : Except Exc (VirtualOd F) :=
  match od key with
  | some entry => .ok (Function.update od key (some { entry with value := v }))
  | none => .error ⟨.keyError, ""⟩

end VirtualOd

/-! Process data configurations. -/

/-- `ObjectDictionaryEntry` -/
structure PdoEntry (F : Type) where
  index : Nat
  subindex : Nat
  name : String
  dataType : String
  field : Option String
  default : Value F

/-- `int` of the digits that `padding_object` writes. -/
def digits? (s : List Char) : Option Nat :=
  if s ≠ [] ∧ s.all Char.isDigit then some (s.foldl (fun n c => 10 * n + (c.toNat - 48)) 0) else none

namespace PdoEntry

variable (e : PdoEntry F)

def key : Key := (e.index, e.subindex)

def bitLength : Except Exc Nat :=
  if "padding".toList.isPrefixOf e.dataType.toList then
    match digits? (e.dataType.toList.drop 7) with
    | some n => .ok n
    | none => .error ⟨.valueError, "invalid literal for int() with base 10"⟩
  else
    match dataTypeBits.lookup e.dataType with
    | some n => .ok n
    | none => .error ⟨.keyError, e.dataType⟩

def byteLength : Except Exc Nat := (· / 8) <$> e.bitLength

end PdoEntry

inductive Direction
  | rxpdo | txpdo
  deriving DecidableEq

def overlayPdo (direction : Direction) : List (PdoEntry F) → VirtualOd F → Except Exc (VirtualOd F)
  | [], od => .ok od
  | e :: rest, od =>
    if e.index = 0 then overlayPdo direction rest od
    else do
      let bitSize ← e.bitLength
      overlayPdo direction rest (od.overlay e.key {
        name := e.name, dataType := e.dataType, bitSize, default := some (.number e.default)
        role := e.field, rxpdo := direction = .rxpdo, txpdo := direction = .txpdo })

namespace VirtualOd

variable (od : VirtualOd F)

/-! `VirtualOdBridge` -/

def readSdo (key : Key) (size : Nat) : Except Exc Bytes :=
  match od key with
  | none => .error objectNotFound
  | some entry => encodeNamed py entry.definition.dataType entry.value (some size)

def rxpdoEntry (e : PdoEntry F) (raw : Bytes) : Except Exc (VirtualOd F) :=
  if e.index = 0 ∨ e.field = none then .ok od
  else do
    let v ← decodeNamed e.dataType raw
    od.write e.key v

/-- The entries from `offset` on, written one after the other. -/
def rxpdoFrom (payload : Bytes) : List (PdoEntry F) → Nat → PyM (VirtualOd F) Unit
  | [], _ => pure ()
  | e :: rest, offset => do
    let byteLength ← Exec.ofExcept e.byteLength
    let stop := offset + byteLength
    Exec.require (stop ≤ payload.length) (payloadTooSmall stop payload.length)
    let od ← Exec.get
    let od ← Exec.ofExcept (od.rxpdoEntry e ((payload.drop offset).take byteLength))
    Exec.modify fun _ => od
    rxpdoFrom payload rest stop

def txpdoEntry (e : PdoEntry F) : Except Exc Bytes := do
  let byteLength ← e.byteLength
  if e.index = 0 ∨ e.field = none then return List.replicate byteLength 0
  else
    let v ← od.read e.key
    encodeNamed py e.dataType v (some byteLength)

def txpdoPayload : List (PdoEntry F) → Except Exc Bytes
  | [] => .ok []
  | e :: rest => do
    let raw ← od.txpdoEntry py e
    let tail ← txpdoPayload rest
    return raw ++ tail

end VirtualOd

end EthercatSimulator.Profile
