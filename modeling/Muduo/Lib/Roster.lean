import Mathlib.Algebra.BigOperators.Group.List.Basic
import Mathlib.Algebra.Order.Ring.Int
import Mathlib.Data.List.Nodup
import Mathlib.Data.List.Perm.Basic
import Mathlib.Logic.Function.Basic
import Mathlib.Tactic.Common

/-!
# Rosters

The members of a team are each at some stage. When one member moves to another stage, the stages of
the others are what they were, so what the members hold changes by what that member held and holds,
and a sum over the members by that member's summand.
-/

open Function

namespace Roster

variable {τ σ β : Type} {team : List τ} {member : τ}

/-- The stages of the members. -/
def stages (team : List τ) (stage : τ → σ) : List σ := team.map stage

/-- Two parts of a team. -/
theorem stages_append (front back : List τ) (stage : τ → σ) :
    stages (front ++ back) stage = stages front stage ++ stages back stage := List.map_append

/-- A sum over the members, each of which counts little. -/
theorem sum_le (team : List τ) (stage : τ → σ) (count : σ → Nat) {most : Nat}
    (bound : ∀ one, count one ≤ most) :
    ((stages team stage).map count).sum ≤ most * team.length := by
  induction team with
  | nil => exact Nat.zero_le _
  | cons member team ih =>
    have one := bound (stage member)
    rw [stages] at ih
    rw [stages, List.map_cons, List.map_cons, List.sum_cons, List.length_cons]
    rw [Nat.mul_add]
    omega

variable [DecidableEq τ]

/-- One member moves and the others stay. -/
theorem stages_update (once : team.Nodup) (here : member ∈ team) (stage : τ → σ) (next : σ) :
    ∃ others, (stages team stage).Perm (stage member :: others) ∧
      (stages team (update stage member next)).Perm (next :: others) := by
  refine ⟨(team.erase member).map stage, ?_, ?_⟩
  · exact (List.perm_cons_erase here).map stage
  · have moved := (List.perm_cons_erase here).map (update stage member next)
    rw [List.map_cons, update_self] at moved
    have stay : (team.erase member).map (update stage member next) =
        (team.erase member).map stage := by
      apply List.map_congr_left
      intro other inside
      apply update_of_ne
      rintro rfl
      exact once.not_mem_erase inside
    rw [stay] at moved
    exact moved

/-- Who is not in the team changes nothing by moving. -/
theorem stages_update_of_notMem (outside : member ∉ team) (stage : τ → σ) (next : σ) :
    stages team (update stage member next) = stages team stage := by
  apply List.map_congr_left
  intro other inside
  apply update_of_ne
  rintro rfl
  exact outside inside

/-- What the members hold changes by what one member held and holds. -/
theorem filterMap_update (once : team.Nodup) (here : member ∈ team) (stage : τ → σ) (next : σ)
    (holds : σ → Option β) :
    ∃ others, ((stages team stage).filterMap holds).Perm
        ((holds (stage member)).toList ++ others) ∧
      ((stages team (update stage member next)).filterMap holds).Perm
        ((holds next).toList ++ others) := by
  obtain ⟨others, before, after⟩ := stages_update once here stage next
  refine ⟨others.filterMap holds, ?_, ?_⟩
  · have held := before.filterMap holds
    cases one : holds (stage member) <;> simpa [List.filterMap_cons, one] using held
  · have held := after.filterMap holds
    cases one : holds next <;> simpa [List.filterMap_cons, one] using held

/-- A sum over the members changes by what one member counted and counts. -/
theorem sum_update (once : team.Nodup) (here : member ∈ team) (stage : τ → σ) (next : σ)
    (count : σ → Nat) :
    ((stages team (update stage member next)).map count).sum + count (stage member) =
      ((stages team stage).map count).sum + count next := by
  obtain ⟨others, before, after⟩ := stages_update once here stage next
  rw [(before.map count).sum_eq, (after.map count).sum_eq, List.map_cons, List.map_cons,
    List.sum_cons, List.sum_cons]
  omega

end Roster
