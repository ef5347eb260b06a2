import Mathlib.Algebra.Order.Ring.Int
import Mathlib.Tactic.Common

/-!
# Windows of a flat storage

A storage is a list of cells addressed by position. `window` reads the cells between two
positions, `overwrite` replaces cells from a position on and `resize` cuts or fills the storage at
its end. The lemmas say which windows an operation keeps and what it puts into the others.
-/

namespace Storage

variable {α : Type}

/-- The cells from position `start` up to position `stop`. -/
def window (cells : List α) (start stop : Nat) : List α := (cells.take stop).drop start

/-- The cells from position `start` on are replaced by `data`. -/
def overwrite (cells : List α) (start : Nat) (data : List α) : List α :=
  cells.take start ++ data ++ cells.drop (start + data.length)

/-- The first `size` cells, with `fill` in the cells that did not exist. -/
def resize (cells : List α) (size : Nat) (fill : α) : List α :=
  cells.take size ++ List.replicate (size - cells.length) fill

/-- A window inside the storage has as many cells as its positions are apart. -/
theorem length_window {cells : List α} {stop : Nat} (start : Nat) (inside : stop ≤ cells.length) :
    (window cells start stop).length = stop - start := by
  simp only [window, List.length_drop, List.length_take]
  omega

/-- An empty range reads nothing. -/
@[simp] theorem window_self (cells : List α) (position : Nat) :
    window cells position position = [] := by
  simp [window]

/-- Adjacent windows join. -/
theorem window_append {start middle stop : Nat} (cells : List α) (left : start ≤ middle)
    (right : middle ≤ stop) :
    window cells start middle ++ window cells middle stop = window cells start stop := by
  have cut : cells.take stop = cells.take middle ++ (cells.take stop).drop middle := by
    conv_lhs => rw [← List.take_append_drop middle (cells.take stop)]
    rw [List.take_take, Nat.min_eq_left right]
  by_cases inside : start ≤ (cells.take middle).length
  · simp only [window]
    conv_rhs => rw [cut, List.drop_append_of_le_length inside]
  · have short : cells.length < middle := by
      simp only [List.length_take] at inside
      omega
    have outside : cells.length ≤ start := by
      simp only [List.length_take] at inside
      omega
    simp only [window]
    rw [List.drop_eq_nil_of_le (by simp; omega), List.drop_eq_nil_of_le (by simp; omega),
      List.drop_eq_nil_of_le (by simp; omega), List.append_nil]

/-- Moving the start forward drops cells at the front. -/
theorem window_drop (cells : List α) (start stop count : Nat) :
    window cells (start + count) stop = (window cells start stop).drop count := by
  simp only [window, List.drop_drop]

/-- Moving the end back drops cells at the end. -/
theorem window_take {start stop count : Nat} (cells : List α) (fits : count ≤ stop - start) :
    window cells start (start + count) = (window cells start stop).take count := by
  simp only [window, List.drop_take, Nat.add_sub_cancel_left, List.take_take,
    Nat.min_eq_left fits]

/-- Overwriting inside the storage keeps its size. -/
theorem length_overwrite (cells data : List α) (start : Nat)
    (fits : start + data.length ≤ cells.length) :
    (overwrite cells start data).length = cells.length := by
  simp only [overwrite, List.length_append, List.length_take, List.length_drop]
  omega

/-- What was written is read back. -/
theorem window_overwrite_self {cells : List α} (data : List α) {start : Nat}
    (inside : start ≤ cells.length) :
    window (overwrite cells start data) start (start + data.length) = data := by
  have front : (cells.take start).length = start := by simp [inside]
  simp only [window, overwrite]
  rw [List.take_append_of_le_length (by simp [front]), List.take_of_length_le (by simp [front]),
    List.drop_append_of_le_length (by simp [front]), List.drop_of_length_le (by simp [front]),
    List.nil_append]

/-- Cells before the written ones are kept. -/
theorem window_overwrite_before {cells data : List α} {position stop : Nat} (start : Nat)
    (inside : position ≤ cells.length) (before : stop ≤ position) :
    window (overwrite cells position data) start stop = window cells start stop := by
  simp only [window, overwrite, List.append_assoc]
  rw [List.take_append_of_le_length (by simp; omega), List.take_take, Nat.min_eq_left before]

/-- Cells after the written ones are kept. -/
theorem window_overwrite_after {cells data : List α} {position start : Nat} (stop : Nat)
    (fits : position + data.length ≤ cells.length) (after : position + data.length ≤ start) :
    window (overwrite cells position data) start stop = window cells start stop := by
  have front : (cells.take position ++ data).length = position + data.length := by
    simp only [List.length_append, List.length_take]
    omega
  by_cases order : stop ≤ start
  · simp only [window]
    rw [List.drop_of_length_le (by simp; omega), List.drop_of_length_le (by simp; omega)]
  · simp only [window, overwrite, List.drop_take]
    congr 1
    rw [List.drop_append, front, List.drop_of_length_le (by omega), List.nil_append,
      List.drop_drop]
    congr 1
    omega

/-- A storage resized to at least the end of a window keeps the window. -/
theorem window_resize {cells : List α} {size stop : Nat} (start : Nat) (fill : α)
    (kept : stop ≤ size) (inside : stop ≤ cells.length) :
    window (resize cells size fill) start stop = window cells start stop := by
  simp only [window, resize]
  rw [List.take_append_of_le_length (by simp; omega), List.take_take, Nat.min_eq_left kept]

/-- A resized storage has the size asked for. -/
@[simp] theorem length_resize (cells : List α) (size : Nat) (fill : α) :
    (resize cells size fill).length = size := by
  simp only [resize, List.length_append, List.length_take, List.length_replicate]
  omega

/-- Writing behind a front part replaces the first cells of the rest. -/
theorem overwrite_behind (front rest data : List α) :
    overwrite (front ++ rest) front.length data = front ++ data ++ rest.drop data.length := by
  rw [overwrite, List.take_left, List.drop_append, List.drop_of_length_le (Nat.le_add_right _ _),
    List.nil_append, Nat.add_sub_cancel_left]

/-- What is written behind other data is written together with it. -/
theorem overwrite_adjacent {cells : List α} (first second : List α) {start : Nat}
    (inside : start ≤ cells.length) :
    overwrite (overwrite cells start first) (start + first.length) second =
      overwrite cells start (first ++ second) := by
  have front : (cells.take start ++ first).length = start + first.length := by
    rw [List.length_append, List.length_take, Nat.min_eq_left inside]
  have written : overwrite cells start first =
      cells.take start ++ first ++ cells.drop (start + first.length) := rfl
  have behind := overwrite_behind (cells.take start ++ first) (cells.drop (start + first.length))
    second
  rw [front, List.drop_drop] at behind
  rw [written, behind, overwrite, List.length_append, Nat.add_assoc, List.append_assoc _ first]

/-- What is written over a first part of other data replaces it. -/
theorem overwrite_front {cells old new : List α} (rest : List α) {start : Nat}
    (same : new.length = old.length) (inside : start ≤ cells.length) :
    overwrite (overwrite cells start (old ++ rest)) start new =
      overwrite cells start (new ++ rest) := by
  have front : (cells.take start).length = start := by
    rw [List.length_take, Nat.min_eq_left inside]
  have behind := overwrite_behind (cells.take start)
    (old ++ rest ++ cells.drop (start + (old ++ rest).length)) new
  rw [front, same, List.append_assoc old, List.drop_left] at behind
  have written : overwrite cells start (old ++ rest) = cells.take start ++
      (old ++ (rest ++ cells.drop (start + (old ++ rest).length))) := by
    rw [overwrite, List.append_assoc, List.append_assoc]
  rw [written, behind, overwrite, List.length_append, List.length_append, same, List.append_assoc,
    List.append_assoc, List.append_assoc]

end Storage
