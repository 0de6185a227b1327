import HXService.Lib.Batch
import HXService.Lib.Bytes

/-! Records of one size, copied one behind the other into a buffer of fixed length. -/

namespace Packing
open Batch Bytes
variable {α : Type*} {size total count p : Nat} {buffer record : List α} {written : List (List α)}

-- `total - count * size` in a `size_t`
def spare (total size count : Nat) : Nat := (((total : Int) - count * size) % 2 ^ 64).toNat

theorem spare_eq (htotal : total < 2 ^ 64) (h : count * size ≤ total) :
    spare total size count = total - count * size := by
  have hnat : (total : Int) - count * size = (total - count * size : Nat) := by
    rw [Nat.cast_sub h, Nat.cast_mul]
  unfold spare
  rw [hnat]
  exact Nat.mod_eq_of_lt (by omega)

theorem spare_lt_iff (htotal : total < 2 ^ 64) (h : count * size ≤ total) :
    spare total size count < size ↔ total < (count + 1) * size := by
  rw [spare_eq htotal h, Nat.succ_mul]
  omega

theorem length_records {β : Type*} {f : β → List α} (h : ∀ x, (f x).length = size) (xs : List β) :
    (xs.flatMap f).length = xs.length * size := by
  induction xs with
  | nil => simp
  | cons x xs ih =>
    rw [List.flatMap_cons, List.length_append, h, ih, List.length_cons]
    ring

/-- A buffer, the place behind the records in it, and their number. -/
structure Filling (α : Type*) where
  buffer : List α
  p : Nat
  count : Nat

/-- The buffer starts with the records `written`, and `p` is behind them. -/
structure Packed (total size : Nat) (g : Filling α) (written : List (List α)) : Prop where
  length_eq : g.buffer.length = total
  p_eq : g.p = g.count * size
  count_eq : g.count = written.length
  room : g.count * size ≤ total
  take_eq : g.buffer.take g.p = written.flatten

theorem packed_empty (h : buffer.length = total) : Packed total size ⟨buffer, 0, 0⟩ [] :=
  ⟨h, (Nat.zero_mul size).symm, rfl, (Nat.zero_mul size).le.trans (Nat.zero_le _), List.take_zero⟩

theorem Packed.copy {g : Filling α} (h : Packed total size g written)
    (hroom : (g.count + 1) * size ≤ total) (hrecord : record.length = size) :
    ∃ buffer', copyInto g.buffer g.p record size = some buffer' ∧
      Packed total size ⟨buffer', g.p + size, g.count + 1⟩ (written ++ [record]) := by
  have hp := h.p_eq
  have hend : g.p + size = (g.count + 1) * size := by
    rw [hp]
    ring
  have hfit : g.p + record.length ≤ g.buffer.length := by
    rw [hrecord, hend, h.length_eq]
    exact hroom
  have htake : record.take size = record := List.take_of_length_le hrecord.le
  refine ⟨_, copyInto_eq_some_iff.mpr ⟨hrecord.ge, hrecord ▸ hfit, rfl⟩, ?_⟩
  rw [htake]
  refine ⟨(length_patch hfit).trans h.length_eq, hend, ?_, hroom, ?_⟩
  · rw [List.length_append, h.count_eq, List.length_singleton]
  · have htaken := take_patch hfit
    rw [hrecord] at htaken
    rw [htaken, h.take_eq, List.flatten_append, List.flatten_singleton]

section Loop
variable {β : Type*} (total size : Nat) (flag : β → Bool) (record : β → List α) (clear : β → β)

/-- The records of flagged entries are copied and the entries cleared, until there is no
room for one more. -/
def fill : Filling α → List β → Option (List β × Filling α)
  | g, [] => some ([], g)
  | g, x :: xs =>
    if spare total size g.count < size then some (x :: xs, g)
    else if flag x then
      (copyInto g.buffer g.p (record x) size).bind fun buffer =>
        (fill ⟨buffer, g.p + size, g.count + 1⟩ xs).map fun out => (clear x :: out.1, out.2)
    else (fill g xs).map fun out => (x :: out.1, out.2)

variable {total size record} {g : Filling α}

/-- No copy leaves the buffer, and it gets the first records that it has room for. -/
theorem fill_eq (htotal : total < 2 ^ 64) (hsize : 0 < size) (hrecord : ∀ x, (record x).length = size)
    (h : Packed total size g written) (xs : List β) :
    ∃ g', fill total size flag record clear g xs =
        some (clearFirst flag clear (total / size - g.count) xs, g') ∧
      Packed total size g' (written ++ (batch flag (total / size - g.count) xs).map record) := by
  induction xs generalizing g written with
  | nil =>
    refine ⟨g, ?_, ?_⟩
    · cases total / size - g.count <;> rfl
    · rwa [batch_nil, List.map_nil, List.append_nil]
  | cons x xs ih =>
    have hfull : spare total size g.count < size ↔ total / size < g.count + 1 := by
      rw [spare_lt_iff htotal h.room, Nat.div_lt_iff_lt_mul hsize]
    have hcount : g.count ≤ total / size := (Nat.le_div_iff_mul_le hsize).mpr h.room
    unfold fill
    by_cases hroom : spare total size g.count < size
    · have hnone : total / size - g.count = 0 := by
        have hlast := hfull.mp hroom
        omega
      rw [if_pos hroom, hnone]
      refine ⟨g, rfl, ?_⟩
      rw [batch, List.take_zero, List.map_nil, List.append_nil]
      exact h
    have hlt : g.count < total / size := by
      rw [hfull] at hroom
      omega
    obtain ⟨k, hk⟩ : ∃ k, total / size - g.count = k + 1 := ⟨total / size - g.count - 1, by omega⟩
    rw [if_neg hroom, hk]
    unfold clearFirst
    by_cases hflag : flag x = true
    · have hmore : (g.count + 1) * size ≤ total := (Nat.le_div_iff_mul_le hsize).mp hlt
      obtain ⟨buffer, hcopy, hpacked⟩ := h.copy hmore (hrecord x)
      obtain ⟨g', hrest, hg'⟩ := ih hpacked
      have hk' : total / size - (g.count + 1) = k := by omega
      dsimp only at hrest hg'
      rw [hk'] at hrest hg'
      refine ⟨g', ?_, ?_⟩
      · rw [if_pos hflag, if_pos hflag, hcopy, Option.bind_some, hrest]
        rfl
      · rwa [batch_cons_of_flag hflag, List.map_cons, List.append_cons]
    · obtain ⟨g', hrest, hg'⟩ := ih h
      rw [hk] at hrest hg'
      refine ⟨g', ?_, ?_⟩
      · rw [if_neg hflag, if_neg hflag, hrest]
        rfl
      · rwa [batch_cons_of_not hflag]

end Loop

end Packing
