import Muduo.Base.Fault
import Muduo.Lib.Storage

/-!
# Reading and writing memory

An object is the list of its bytes, and a pointer into it is an offset. A copy that would leave the
object stops with `outOfRange`.
-/

namespace Muduo

open Storage

/-- Copy bytes into an object from an offset on. -/
def store (cells : List UInt8) (position : Nat) (data : List UInt8) : Except Fault (List UInt8) :=
  if position + data.length ≤ cells.length then .ok (overwrite cells position data)
  else .error .outOfRange

/-- The first `count` bytes that a pointer points to. -/
def load (data : List UInt8) (count : Nat) : Except Fault (List UInt8) :=
  if count ≤ data.length then .ok (data.take count) else .error .outOfRange

/-- A copy that stays inside the object. -/
theorem store_eq {cells data : List UInt8} {position : Nat}
    (inside : position + data.length ≤ cells.length) :
    store cells position data = .ok (overwrite cells position data) := if_pos inside

end Muduo
