import Mathlib.Tactic

/-! The first so many flagged members of a list, taken together, and the list with
the flags of just these cleared. -/

namespace Batch
variable {α : Type*} (flag : α → Bool) (clear : α → α)

def batch (k : Nat) (xs : List α) : List α := (xs.filter flag).take k

def clearFirst : Nat → List α → List α
  | 0, xs => xs
  | _ + 1, [] => []
  | k + 1, x :: xs => if flag x then clear x :: clearFirst k xs else x :: clearFirst (k + 1) xs

variable {flag clear} {k : Nat} {x : α} {xs : List α}

theorem batch_nil : batch flag k [] = [] := List.take_nil

theorem batch_cons_of_flag (h : flag x = true) : batch flag (k + 1) (x :: xs) = x :: batch flag k xs := by
  rw [batch, List.filter_cons_of_pos h, List.take_succ_cons]
  rfl

theorem batch_cons_of_not (h : ¬flag x = true) : batch flag k (x :: xs) = batch flag k xs := by
  rw [batch, List.filter_cons_of_neg h]
  rfl

theorem length_batch_le : (batch flag k xs).length ≤ k := List.length_take_le _ _

theorem flag_of_mem (h : x ∈ batch flag k xs) : flag x = true :=
  List.of_mem_filter (List.mem_of_mem_take h)

theorem mem_of_mem_batch (h : x ∈ batch flag k xs) : x ∈ xs :=
  List.mem_of_mem_filter (List.mem_of_mem_take h)

theorem map_clearFirst {β : Type*} (g : α → β) (hg : ∀ x, g (clear x) = g x) :
    (clearFirst flag clear k xs).map g = xs.map g := by
  induction xs generalizing k with
  | nil =>
    cases k with
    | zero => rfl
    | succ k => rfl
  | cons x xs ih =>
    cases k with
    | zero => rfl
    | succ k =>
      unfold clearFirst
      split_ifs
      · rw [List.map_cons, List.map_cons, hg, ih]
      · rw [List.map_cons, List.map_cons, ih]

theorem clearFirst_eq_map [DecidableEq α] (h : xs.Nodup) :
    clearFirst flag clear k xs = xs.map fun x => if x ∈ batch flag k xs then clear x else x := by
  induction xs generalizing k with
  | nil =>
    cases k with
    | zero => rfl
    | succ k => rfl
  | cons x xs ih =>
    obtain ⟨hx, hxs⟩ := List.nodup_cons.mp h
    cases k with
    | zero =>
      have hnone : ∀ y ∈ x :: xs, (if y ∈ batch flag 0 (x :: xs) then clear y else y) = id y :=
        fun y _ => if_neg List.not_mem_nil
      rw [List.map_congr_left hnone, List.map_id]
      rfl
    | succ k =>
      rw [List.map_cons]
      unfold clearFirst
      split_ifs with hflag hin hin
      · rw [ih hxs]
        congr 1
        apply List.map_congr_left
        intro y hy
        have hne : y ≠ x := fun hsame => hx (hsame ▸ hy)
        simp only [batch_cons_of_flag hflag, List.mem_cons, hne, false_or]
      · rw [batch_cons_of_flag hflag] at hin
        exact absurd List.mem_cons_self hin
      · exact absurd (flag_of_mem hin) hflag
      · rw [ih hxs]
        simp only [batch_cons_of_not hflag]

end Batch
