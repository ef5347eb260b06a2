import Mathlib.Algebra.Order.Ring.Int
import Mathlib.Tactic.Common

/-!
# Pre- and postconditions of computations that may stop

`Meets result post stop` says of one result of an `Except` computation that a value satisfies
`post` and an error satisfies `stop`. The rules compose such statements along a sequence of
computations, so a function is verified from the statements about the functions it calls.
-/

namespace Outcome

variable {ε α β : Type}

/-- A sequence of two computations succeeds through an intermediate result. -/
theorem bind_eq_ok {first : Except ε α} {next : α → Except ε β} {result : β} :
    first >>= next = .ok result ↔ ∃ value, first = .ok value ∧ next value = .ok result := by
  cases first <;> simp [bind, Except.bind]

/-- A success is passed on to the next computation. -/
@[simp] theorem ok_bind (value : α) (next : α → Except ε β) :
    (Except.ok value : Except ε α) >>= next = next value := rfl

/-- An error skips the next computation. -/
@[simp] theorem error_bind (error : ε) (next : α → Except ε β) :
    (Except.error error : Except ε α) >>= next = .error error := rfl

/-- A function of the result is a function of the result of the second computation. -/
theorem map_bind {γ : Type} (first : Except ε α) (next : α → Except ε β) (f : β → γ) :
    (first >>= next).map f = first >>= fun value => (next value).map f := by
  cases first <;> rfl

/-- `pure` is success. -/
@[simp] theorem pure_eq_ok (value : α) : (pure value : Except ε α) = .ok value := rfl

/-- A value satisfies the postcondition, and an error the condition on stopping. -/
inductive Meets : Except ε α → (α → Prop) → (ε → Prop) → Prop
  | ok {post : α → Prop} {stop : ε → Prop} {value : α} (holds : post value) :
      Meets (.ok value) post stop
  | error {post : α → Prop} {stop : ε → Prop} {error : ε} (holds : stop error) :
      Meets (.error error) post stop

variable {result : Except ε α} {post : α → Prop} {stop : ε → Prop}

/-- A success meets its postcondition. -/
@[simp] theorem meets_ok {value : α} : Meets (.ok value : Except ε α) post stop ↔ post value := by
  refine ⟨fun met => ?_, .ok⟩
  cases met with
  | ok holds => exact holds

/-- A stop meets its condition. -/
@[simp] theorem meets_error {error : ε} :
    Meets (.error error : Except ε α) post stop ↔ stop error := by
  refine ⟨fun met => ?_, .error⟩
  cases met with
  | error holds => exact holds

/-- The postcondition of a computation known to succeed. -/
theorem Meets.of_ok {value : α} (met : Meets result post stop) (done : result = .ok value) :
    post value := by
  rw [done, meets_ok] at met
  exact met

/-- The condition on a computation known to stop. -/
theorem Meets.of_error {error : ε} (met : Meets result post stop)
    (stopped : result = .error error) : stop error := by
  rw [stopped, meets_error] at met
  exact met

/-- A computation ends in one of the two ways. -/
theorem Meets.split (met : Meets result post stop) :
    (∃ value, result = .ok value ∧ post value) ∨ ∃ error, result = .error error ∧ stop error := by
  cases met with
  | ok holds => exact .inl ⟨_, rfl, holds⟩
  | error holds => exact .inr ⟨_, rfl, holds⟩

/-- Every computation meets the trivial conditions. -/
theorem Meets.any (result : Except ε α) : Meets result (fun _ => True) fun _ => True := by
  cases result with
  | ok => exact .ok trivial
  | error => exact .error trivial

/-- Both conditions may be weakened. -/
theorem Meets.mono {weaker : α → Prop} {laxer : ε → Prop} (met : Meets result post stop)
    (values : ∀ value, post value → weaker value) (errors : ∀ error, stop error → laxer error) :
    Meets result weaker laxer := by
  cases met with
  | ok holds => exact .ok (values _ holds)
  | error holds => exact .error (errors _ holds)

/-- A sequence meets what its second part meets from every value of the first. -/
theorem Meets.bind {next : α → Except ε β} {final : β → Prop} (met : Meets result post stop)
    (continues : ∀ value, post value → Meets (next value) final stop) :
    Meets (result >>= next) final stop := by
  cases met with
  | ok holds => exact continues _ holds
  | error holds => exact .error holds

end Outcome
