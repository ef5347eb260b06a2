import Muduo.Lib.Outcome

/-!
# How the program stops

A debug build of the library stops at a failed `assert`, at an exception that nobody catches, or
with undefined behaviour when it touches memory it does not own. Every modelled function that can
stop returns `Except Fault`, so that a run of the program is a chain of results `ok`.
-/

namespace Muduo

/-- The ways in which a modelled function does not return. -/
inductive Fault
  /-- `assert(expression)` found its expression false. -/
  | assertion (expression : String)
  /-- `std::length_error`: a vector was asked for more than `max_size()` elements. -/
  | lengthError
  /-- A read or a write outside the storage of an object. -/
  | outOfRange
  /-- An access to an object after its deletion, or a second deletion of it. -/
  | useAfterFree
  /-- An access through a null pointer. -/
  | nullPointer
  /-- A loop that does not end. -/
  | endless
  deriving DecidableEq, Repr

/-- `assert(expression)` with the value of the expression and its text. -/
def ensure (condition : Bool) (expression : String) : Except Fault Unit :=
  if condition then .ok () else .error (.assertion expression)

/-- An assertion is passed exactly when its condition is true. -/
@[simp] theorem ensure_eq_ok {condition : Bool} {expression : String} {value : Unit} :
    ensure condition expression = .ok value ↔ condition = true := by
  cases condition <;> simp [ensure]

/-- A true assertion changes nothing. -/
@[simp] theorem ensure_true (expression : String) : ensure true expression = .ok () := rfl

/-- A false assertion stops the program. -/
@[simp] theorem ensure_false (expression : String) :
    ensure false expression = .error (.assertion expression) := rfl

end Muduo
