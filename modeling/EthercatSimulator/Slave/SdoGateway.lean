import EthercatSimulator.Base.Dict
import EthercatSimulator.Base.Run
import EthercatSimulator.Ipc.Hex
import EthercatSimulator.Ipc.Json

/-! The gateway between the CoE mailbox and the model host: an SDO request for an object of the
model is answered after the model has answered it. -/

namespace EthercatSimulator.Slave

open Base Ipc

/-- An entry of the object dictionary of the slave. -/
structure Entry where
  bitlen : Nat
  readable : Bool
  writable : Bool
  data : Bytes

def Entry.size (entry : Entry) : Nat := (entry.bitlen + 7) / 8

/-- Entries by index and subindex. -/
abbrev Dictionary := Nat → Nat → Option Entry

structure SdoGateway where
  entries : List (Nat × Nat)
  async : Bool

/-- A message in the mailbox, what the gateway has asked the model, and what it has replied. -/
structure GatewayMessage where
  data : Bytes
  pending : Bool
  submitted : List Json
  replies : List Bytes
  dictionary : Dictionary
  finalized : Bool

/-- What the model does at one call of `process`: whether `submit` throws, what the future holds, and
what the synchronous `request` returns, if it does not throw. -/
structure Poll where
  refused : Bool
  future : Future
  response : Option Json

/-! Accesses to the buffer of the message, which fail outside it. -/

def readBytes (data : Bytes) (offset n : Nat) : Option Bytes :=
  if offset + n ≤ data.length then some ((data.drop offset).take n) else none

def readByte (data : Bytes) (offset : Nat) : Option Nat := (data[offset]?).map UInt8.toNat

def readWord (data : Bytes) (offset : Nat) : Option Nat := (readBytes data offset 2).map leNat

def writeBytes (data : Bytes) (offset : Nat) (bytes : Bytes) : Option Bytes :=
  if offset + bytes.length ≤ data.length then
    some (data.take offset ++ bytes ++ data.drop (offset + bytes.length))
  else none

def resize (data : Bytes) (n : Nat) : Bytes := data ++ List.replicate (n - data.length) 0

/-- `S` and `P`: where the service data and the data of an SDO message begin; the mailbox header has
six bytes and the CoE header two. -/
def serviceOffset : Nat := 8
def dataOffset : Nat := 12

/-- The bit fields of the SDO command byte. -/
structure Command where
  sizeIndicator : Bool
  transferType : Bool
  blockSize : Nat
  completeAccess : Bool
  command : Nat

def Command.ofByte (b : Nat) : Command where
  sizeIndicator := b % 2 = 1
  transferType := b / 2 % 2 = 1
  blockSize := b / 4 % 4
  completeAccess := b / 16 % 2 = 1
  command := b / 32

/-- A request that has passed the checks. -/
structure SdoRequest where
  write : Bool
  index : Nat
  subindex : Nat
  size : Nat
  value : Bytes

namespace SdoRequest

def json (r : SdoRequest) : Json :=
  .object ([("op", .string (if r.write then "write" else "read")), ("index", .int r.index),
    ("subindex", .int r.subindex)] ++ if r.write then [("data", .string (hexText r.value))] else [])

end SdoRequest

/-- The checks of a request; they end with an abort code, or outside the buffer. -/
def validate (gateway : SdoGateway) (dictionary : Dictionary) (data : Bytes) :
    Option (Except Nat SdoRequest) := do
  let len ← readWord data 0
  let s := Command.ofByte (← readByte data serviceOffset)
  let index ← readWord data (serviceOffset + 1)
  let sub ← readByte data (serviceOffset + 3)
  if len < 10 ∨ data.length < 6 + len then return .error 0x06070010
  if (index, sub) ∉ gateway.entries then return .error 0x06090011
  if s.completeAccess then return .error 0x06010000
  match dictionary index sub with
  | none => return .error 0x06020000
  | some entry =>
    let size := entry.size
    if 4 < size ∨ size = 0 then return .error 0x06010000
    let write := s.command = 1
    if ¬ write ∧ s.command ≠ 2 then return .error 0x05040001
    if ¬ (if write then entry.writable else entry.readable) then
      return .error (if write then 0x06010002 else 0x06010001)
    if write then
      if s.transferType then
        let length := if s.sizeIndicator then 4 - s.blockSize else size
        if length ≠ size ∨ 6 + len < dataOffset + size then return .error 0x06070010
        let value ← readBytes data dataOffset size
        return .ok ⟨true, index, sub, size, value⟩
      else
        if ¬ s.sizeIndicator then return .error 0x06010000
        let length ← (readBytes data dataOffset 4).map leNat
        if length ≠ size ∨ 6 + len < dataOffset + 4 + size then return .error 0x06070010
        let value ← readBytes data (dataOffset + 4) size
        return .ok ⟨true, index, sub, size, value⟩
    else return .ok ⟨false, index, sub, size, []⟩

def unhex (text : String) (size : Nat) : Except String Bytes :=
  decodeHex "SDO IPC size mismatch" "Invalid SDO hex" text size

/-- The bytes to commit after a reply without error. -/
def SdoRequest.accepted (r : SdoRequest) (response : Json) : Option Bytes :=
  if r.write then some r.value
  else do
    let text ← (← response.get? "data").string?
    match unhex text r.size with
    | .ok value => return value
    | .error _ => none

/-- `memcpy` into the data of the entry that was asked for. -/
def Dictionary.commit (dictionary : Dictionary) (r : SdoRequest) (value : Bytes) : Dictionary :=
  fun index subindex =>
    if index = r.index ∧ subindex = r.subindex then
      (dictionary index subindex).map fun entry =>
        { entry with data := value ++ entry.data.drop value.length }
    else dictionary index subindex

namespace GatewayMessage

variable (m : GatewayMessage)

/-- The headers that every reply has: ten bytes of payload, and the CoE service. -/
def header (data : Bytes) (service command : Nat) : Option Bytes := do
  let data ← writeBytes data 0 (leBytes 2 10)
  let number ← readByte data 7
  let data ← writeBytes data 7 [UInt8.ofNat (number % 16 + 16 * service)]
  writeBytes data serviceOffset [UInt8.ofNat command]

/-- `reply` and `FINALIZE` -/
def reply (data : Bytes) : GatewayMessage :=
  { m with data := [], replies := m.replies ++ [data], finalized := true }

def abort (code : Nat) : Option GatewayMessage := do
  let data ← header (resize m.data (dataOffset + 4)) 2 0x80
  let data ← writeBytes data dataOffset (leBytes 4 code)
  return m.reply data

def succeed (r : SdoRequest) (value : Bytes) : Option GatewayMessage := do
  let m := { m with dictionary := Dictionary.commit m.dictionary r value }
  let data ← header (resize m.data (dataOffset + 4)) 3
    (if r.write then 0x60 else 0x43 ||| (4 - r.size) <<< 2)
  let data := data.take dataOffset ++ List.replicate (data.length - dataOffset) 0
  let data ← if r.write then some data else writeBytes data dataOffset value
  return m.reply data

/-- The answer of the model, from the future or from the synchronous request. -/
def consult (gateway : SdoGateway) (pending : Bool) (p : Poll) : Future :=
  if gateway.async then
    if !pending && p.refused then .exception "submit" else p.future
  else
    match p.response with
    | some response => .value response
    | none => .exception "request"

/-- The reply to a request that the model has answered. -/
def conclude (r : SdoRequest) (response : Json) : Option GatewayMessage :=
  if response.contains "error" then
    match (response.get? "error").bind (·.get? "code") |>.bind Json.uint32? with
    | some code => m.abort code
    | none => m.abort 0x08000000
  else
    match r.accepted response with
    | some value => m.succeed r value
    | none => m.abort 0x08000000

def settle (r : SdoRequest) : Future → Option GatewayMessage
  | .unready => some { m with pending := true }
  | .exception _ => m.abort 0x08000000
  | .value response => m.conclude r response

/-- One call of `process`; nothing calls it again after it has returned `FINALIZE`. -/
def process (gateway : SdoGateway) (p : Poll) : Option GatewayMessage := do
  if m.finalized then return m
  match ← validate gateway m.dictionary m.data with
  | .error code => m.abort code
  | .ok r =>
    let asked :=
      if gateway.async && m.pending then m else { m with submitted := m.submitted ++ [r.json] }
    asked.settle r (consult gateway m.pending p)

end GatewayMessage

end EthercatSimulator.Slave
