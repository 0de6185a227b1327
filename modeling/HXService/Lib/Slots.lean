import Mathlib.Tactic

/-! Tables of slots that are free (`none`) or hold a value, and the number of
occupied slots below a bound. -/

namespace Slots
variable {α : Type*}

def occupied (n : Nat) (f : Nat → Option α) : Finset Nat :=
  (Finset.range n).filter fun i => (f i).isSome

@[simp] theorem mem_occupied {n i : Nat} {f : Nat → Option α} :
    i ∈ occupied n f ↔ i < n ∧ (f i).isSome := by
  rw [occupied, Finset.mem_filter, Finset.mem_range]

theorem card_occupied_le (n : Nat) (f : Nat → Option α) : (occupied n f).card ≤ n := by
  have h := Finset.card_filter_le (Finset.range n) fun i => (f i).isSome
  rwa [Finset.card_range] at h

theorem occupied_eq_empty {n : Nat} {f : Nat → Option α} (h : ∀ i < n, f i = none) :
    occupied n f = ∅ := by
  ext i
  rw [mem_occupied]
  constructor
  · rintro ⟨hi, hs⟩
    rw [h i hi] at hs
    exact nomatch hs
  · exact fun hi => absurd hi (Finset.notMem_empty i)

theorem occupied_update_some {n i : Nat} {f : Nat → Option α} (a : α) (hi : i < n) :
    occupied n (Function.update f i (some a)) = insert i (occupied n f) := by
  ext j
  rw [mem_occupied, Finset.mem_insert, mem_occupied]
  by_cases hj : j = i
  · subst hj
    rw [Function.update_self]
    exact ⟨fun _ => Or.inl rfl, fun _ => ⟨hi, rfl⟩⟩
  · rw [Function.update_of_ne hj]
    exact ⟨Or.inr, fun h => h.resolve_left hj⟩

theorem occupied_update_none {n i : Nat} {f : Nat → Option α} :
    occupied n (Function.update f i none) = (occupied n f).erase i := by
  ext j
  rw [mem_occupied, Finset.mem_erase, mem_occupied]
  by_cases hj : j = i
  · subst hj
    rw [Function.update_self]
    exact ⟨fun h => absurd h.2 Bool.false_ne_true, fun h => absurd rfl h.1⟩
  · rw [Function.update_of_ne hj]
    exact ⟨fun h => ⟨hj, h⟩, fun h => h.2⟩

theorem card_occupy {n i : Nat} {f : Nat → Option α} (a : α) (hi : i < n) (h : f i = none) :
    (occupied n (Function.update f i (some a))).card = (occupied n f).card + 1 := by
  rw [occupied_update_some a hi, Finset.card_insert_of_notMem]
  intro hmem
  rw [mem_occupied, h] at hmem
  exact nomatch hmem.2

theorem card_vacate {n i : Nat} {f : Nat → Option α} (hi : i < n) (h : (f i).isSome) :
    (occupied n (Function.update f i none)).card + 1 = (occupied n f).card := by
  rw [occupied_update_none]
  exact Finset.card_erase_add_one (mem_occupied.mpr ⟨hi, h⟩)

end Slots
