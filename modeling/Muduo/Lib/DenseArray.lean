import Mathlib.Data.List.Basic
import Mathlib.Tactic.Common

/-!
# Dense arrays with back references

An array without holes whose elements belong to keys that know their places. A new element goes to
the end; the last element moves into the place of one that is removed.
-/

variable {α β : Type}

/-- Keys in the places of an array: a key holds the element in its place, every place has a key, and
no place has two. -/
structure DenseArray (slots : List β) (place : α → Option Nat) (holds : α → β → Prop) : Prop where
  /-- A key with a place holds the element there. -/
  entry : ∀ {key i}, place key = some i → ∃ element, slots[i]? = some element ∧ holds key element
  /-- Every place has a key. -/
  owner : ∀ {i}, i < slots.length → ∃ key, place key = some i
  /-- No place has two keys. -/
  unique : ∀ {key other i}, place key = some i → place other = some i → key = other

namespace DenseArray

variable {slots : List β} {place after : α → Option Nat} {holds keeps : α → β → Prop}

/-- An array of nothing. -/
theorem nil (none : ∀ key, place key = none) : DenseArray [] place holds where
  entry {key _} placed := by cases (none key).symm.trans placed
  owner inside := absurd inside (Nat.not_lt_zero _)
  unique {key _ _} placed := by cases (none key).symm.trans placed

/-- The place of a key is inside the array. -/
theorem inside (dense : DenseArray slots place holds) {key : α} {i : Nat}
    (placed : place key = some i) : i < slots.length := by
  obtain ⟨element, found, -⟩ := dense.entry placed
  exact (List.getElem?_eq_some_iff.mp found).1

/-- A new key with an element at the end. -/
theorem push (dense : DenseArray slots place holds) {key : α} {element : β}
    (fresh : place key = none) (placed : after key = some slots.length) (new : keeps key element)
    (stays : ∀ other, other ≠ key → after other = place other)
    (others : ∀ other x, other ≠ key → holds other x → keeps other x) :
    DenseArray (slots ++ [element]) after keeps where
  entry {other i} there := by
    by_cases same : other = key
    · subst same
      obtain rfl := Option.some.inj (placed.symm.trans there)
      exact ⟨element, List.getElem?_concat_length, new⟩
    · rw [stays other same] at there
      obtain ⟨x, found, held⟩ := dense.entry there
      refine ⟨x, ?_, others other x same held⟩
      rw [List.getElem?_append_left (dense.inside there)]
      exact found
  owner {i} within := by
    rw [List.length_append, List.length_singleton] at within
    by_cases last : i = slots.length
    · exact ⟨key, last ▸ placed⟩
    · obtain ⟨other, there⟩ := dense.owner (show i < slots.length by omega)
      have apart : other ≠ key := by
        intro same
        rw [same, fresh] at there
        cases there
      exact ⟨other, (stays other apart).trans there⟩
  unique {left right i} there again := by
    by_cases first : left = key
    · by_cases second : right = key
      · exact first.trans second.symm
      · rw [first, placed] at there
        rw [stays right second] at again
        obtain rfl := Option.some.inj there
        exact absurd (dense.inside again) (Nat.lt_irrefl _)
    · rw [stays left first] at there
      by_cases second : right = key
      · rw [second, placed] at again
        obtain rfl := Option.some.inj again
        exact absurd (dense.inside there) (Nat.lt_irrefl _)
      · rw [stays right second] at again
        exact dense.unique there again

/-- A new element for a key in its place. -/
theorem write (dense : DenseArray slots place holds) {key : α} {i : Nat} {element : β}
    (placed : place key = some i) (new : keeps key element)
    (stays : ∀ other, after other = place other)
    (others : ∀ other x, other ≠ key → holds other x → keeps other x) :
    DenseArray (slots.set i element) after keeps where
  entry {other j} there := by
    rw [stays other] at there
    by_cases same : other = key
    · subst same
      obtain rfl := Option.some.inj (placed.symm.trans there)
      exact ⟨element, List.getElem?_set_self (dense.inside placed), new⟩
    · obtain ⟨x, found, held⟩ := dense.entry there
      have apart : i ≠ j := by
        intro equal
        subst equal
        exact same (dense.unique there placed)
      exact ⟨x, (List.getElem?_set_ne apart).trans found, others other x same held⟩
  owner {j} within := by
    rw [List.length_set] at within
    obtain ⟨other, there⟩ := dense.owner within
    exact ⟨other, (stays other).trans there⟩
  unique {left right j} there again := by
    rw [stays left] at there
    rw [stays right] at again
    exact dense.unique there again

/-- The key of the last place leaves. -/
theorem pop (dense : DenseArray slots place holds) {key : α}
    (placed : place key = some (slots.length - 1)) (gone : after key = none)
    (stays : ∀ other, other ≠ key → after other = place other)
    (others : ∀ other x, other ≠ key → holds other x → keeps other x) :
    DenseArray slots.dropLast after keeps where
  entry {other i} there := by
    have apart : other ≠ key := by
      intro same
      rw [same, gone] at there
      cases there
    rw [stays other apart] at there
    obtain ⟨x, found, held⟩ := dense.entry there
    have inner : i < slots.length - 1 := by
      have bound := dense.inside there
      have different : i ≠ slots.length - 1 := by
        intro equal
        subst equal
        exact apart (dense.unique there placed)
      omega
    refine ⟨x, ?_, others other x apart held⟩
    rw [List.getElem?_dropLast, if_pos inner]
    exact found
  owner {i} within := by
    rw [List.length_dropLast] at within
    obtain ⟨other, there⟩ := dense.owner (show i < slots.length by omega)
    have apart : other ≠ key := by
      intro same
      rw [same, placed] at there
      have equal := Option.some.inj there
      omega
    exact ⟨other, (stays other apart).trans there⟩
  unique {left right i} there again := by
    have first : left ≠ key := by
      intro same
      rw [same, gone] at there
      cases there
    have second : right ≠ key := by
      intro same
      rw [same, gone] at again
      cases again
    rw [stays left first] at there
    rw [stays right second] at again
    exact dense.unique there again

/-- Two keys exchange their places and their elements. -/
theorem swap (dense : DenseArray slots place holds) {left right : α} {i j : Nat} {x y : β}
    (first : place left = some i) (second : place right = some j) (mine : slots[i]? = some x)
    (other : slots[j]? = some y) (apart : i ≠ j) (forth : after left = some j)
    (back : after right = some i)
    (stays : ∀ key, key ≠ left → key ≠ right → after key = place key) :
    DenseArray ((slots.set i y).set j x) after holds where
  entry {key k} there := by
    have lower := dense.inside first
    have upper := dense.inside second
    by_cases isLeft : key = left
    · subst isLeft
      obtain rfl := Option.some.inj (forth.symm.trans there)
      obtain ⟨z, found, held⟩ := dense.entry first
      obtain rfl := Option.some.inj (mine.symm.trans found)
      exact ⟨x, List.getElem?_set_self (by rwa [List.length_set]), held⟩
    by_cases isRight : key = right
    · subst isRight
      obtain rfl := Option.some.inj (back.symm.trans there)
      obtain ⟨z, found, held⟩ := dense.entry second
      obtain rfl := Option.some.inj (other.symm.trans found)
      refine ⟨y, ?_, held⟩
      rw [List.getElem?_set_ne apart.symm]
      exact List.getElem?_set_self lower
    · rw [stays key isLeft isRight] at there
      obtain ⟨z, found, held⟩ := dense.entry there
      have notFirst : i ≠ k := fun equal => isLeft (dense.unique there (equal ▸ first))
      have notSecond : j ≠ k := fun equal => isRight (dense.unique there (equal ▸ second))
      refine ⟨z, ?_, held⟩
      rw [List.getElem?_set_ne notSecond, List.getElem?_set_ne notFirst]
      exact found
  owner {k} within := by
    rw [List.length_set, List.length_set] at within
    by_cases isFirst : k = i
    · exact ⟨right, isFirst ▸ back⟩
    by_cases isSecond : k = j
    · exact ⟨left, isSecond ▸ forth⟩
    · obtain ⟨key, there⟩ := dense.owner within
      have notLeft : key ≠ left := by
        intro same
        rw [same, first] at there
        exact isFirst (Option.some.inj there).symm
      have notRight : key ≠ right := by
        intro same
        rw [same, second] at there
        exact isSecond (Option.some.inj there).symm
      exact ⟨key, (stays key notLeft notRight).trans there⟩
  unique {key key' k} there again := by
    have before (key : α) (placed : after key = some k) :
        key = left ∧ k = j ∨ key = right ∧ k = i ∨ place key = some k ∧ k ≠ i ∧ k ≠ j := by
      by_cases isLeft : key = left
      · rw [isLeft, forth] at placed
        exact .inl ⟨isLeft, (Option.some.inj placed).symm⟩
      by_cases isRight : key = right
      · rw [isRight, back] at placed
        exact .inr (.inl ⟨isRight, (Option.some.inj placed).symm⟩)
      · rw [stays key isLeft isRight] at placed
        refine .inr (.inr ⟨placed, fun equal => ?_, fun equal => ?_⟩)
        · exact isLeft (dense.unique placed (equal ▸ first))
        · exact isRight (dense.unique placed (equal ▸ second))
    obtain ⟨rfl, atSecond⟩ | ⟨rfl, atFirst⟩ | ⟨placed, notFirst, notSecond⟩ := before key there
    · obtain ⟨rfl, -⟩ | ⟨-, atFirst⟩ | ⟨-, -, notSecond⟩ := before key' again
      · rfl
      · exact absurd (atFirst.symm.trans atSecond) apart
      · exact absurd atSecond notSecond
    · obtain ⟨-, atSecond⟩ | ⟨rfl, -⟩ | ⟨-, notFirst, -⟩ := before key' again
      · exact absurd (atFirst.symm.trans atSecond) apart
      · rfl
      · exact absurd atFirst notFirst
    · obtain ⟨-, atSecond⟩ | ⟨-, atFirst⟩ | ⟨also, -, -⟩ := before key' again
      · exact absurd atSecond notSecond
      · exact absurd atFirst notFirst
      · exact dense.unique placed also

end DenseArray
