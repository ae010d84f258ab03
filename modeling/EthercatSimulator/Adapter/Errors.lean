import EthercatSimulator.Base.Exec

namespace EthercatSimulator

open Base

/-- The exception classes the code distinguishes; `other` stands for every other subclass
of `Exception`. -/
inductive ExcKind
  | deviceRejected
  | sdoObjectNotFound
  | keyError
  | valueError
  | typeError
  | indexError
  | attributeError
  | unboundLocalError
  | osError
  | overflowError
  | zeroDivisionError
  | structError
  | runtimeError
  | other (name : String)
  deriving DecidableEq

structure Exc where
  kind : ExcKind
  /-- `str(exc)` -/
  message : String
  deriving DecidableEq

namespace Exc

def isDeviceRejected (e : Exc) : Bool := e.kind = .deviceRejected

/-- `DeviceRejectedException` is a `ValueError`, `SdoObjectNotFoundException` a `KeyError`. -/
def isValueError (e : Exc) : Bool := e.kind = .valueError || e.kind = .deviceRejected
def isKeyError (e : Exc) : Bool := e.kind = .keyError || e.kind = .sdoObjectNotFound

def isOSError (e : Exc) : Bool := e.kind = .osError
def isTypeError (e : Exc) : Bool := e.kind = .typeError

end Exc

abbrev PyM (S α : Type) := Exec Exc S α

end EthercatSimulator
