import Mathlib.Data.Rat.Floor

/-! The JSON values of the model protocol, with the accessors the slave process uses. -/

namespace EthercatSimulator.Ipc

/-- `nlohmann::json`; the members of an object have different keys. -/
inductive Json
  | null
  | bool (b : Bool)
  | int (n : Int)
  | float (x : ℚ)
  | string (s : String)
  | array (items : List Json)
  | object (members : List (String × Json))

namespace Json

/-- False also for a value that is no object. -/
def contains (key : String) : Json → Bool
  | .object members => members.any fun member => member.1 = key
  | _ => false

def lookup (key : String) : List (String × Json) → Option Json
  | [] => none
  | (k, v) :: rest => if k = key then some v else lookup key rest

/-- `at`: the error of a value that is no object, or has no such member. -/
def get? (key : String) : Json → Option Json
  | .object members => lookup key members
  | _ => none

/-- `get<std::string>()` -/
def string? : Json → Option String
  | .string s => some s
  | _ => none

/-- `get<uint32_t>()`: a number or a boolean, converted. -/
def uint32? : Json → Option Nat
  | .bool b => some b.toNat
  | .int n => some (n % 2 ^ 32).toNat
  | .float x => some ((if x < 0 then ⌈x⌉ else ⌊x⌋) % 2 ^ 32).toNat
  | _ => none

end Json

/-- What `wait_for` and `get` find in a future. -/
inductive Future
  | unready
  | value (response : Json)
  | exception (what : String)

end EthercatSimulator.Ipc
