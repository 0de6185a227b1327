import Mathlib.Tactic

/-! Transfers that read, bit by bit and at any time, from storage they only refer
to. What they read of storage that is gone is not certain. -/

namespace Transfers
variable {ρ α β : Type*}

/-- `bytes` stood at `source` when the transfer started; `read` is what it has read so
far, `none` where the storage held nothing certain. -/
structure Transfer (ρ β : Type*) where
  source : ρ
  bytes : List β
  read : List (Option β)

namespace Transfer

def start (source : ρ) (bytes : List β) : Transfer ρ β := ⟨source, bytes, []⟩

def next (t : Transfer ρ β) (b : Option β) : Transfer ρ β := { t with read := t.read ++ [b] }

def transmitted (t : Transfer ρ β) (stale : Nat → β) : List β :=
  t.read.mapIdx fun k b => b.getD (stale k)

/-- Whatever the uncertain reads find, the transfer transmits its bytes. -/
def Faithful (t : Transfer ρ β) : Prop := ∀ stale, t.transmitted stale <+: t.bytes

variable {t : Transfer ρ β} {b : Option β}

theorem getElem_transmitted (stale : Nat → β) (k : Nat) (hk : k < t.read.length) :
    (t.transmitted stale)[k]? = some (t.read[k].getD (stale k)) := by
  simp [transmitted, hk]

theorem length_transmitted (stale : Nat → β) : (t.transmitted stale).length = t.read.length := by
  simp [transmitted]

theorem faithful_of_certain (h : t.read <+: t.bytes.map some) : t.Faithful := by
  intro stale
  rw [List.prefix_iff_getElem?] at h ⊢
  intro k hk
  rw [length_transmitted] at hk
  have hread := h k hk
  rw [List.getElem?_map, Option.map_eq_some_iff] at hread
  obtain ⟨a, ha, heq⟩ := hread
  have hget := getElem_transmitted stale k hk
  rw [← heq, Option.getD_some, List.getElem?_eq_some_iff] at hget
  obtain ⟨_, hget⟩ := hget
  rw [ha, hget]

/-- An uncertain read may find anything, and so a byte other than the right one. -/
theorem Faithful.certain [Nontrivial β] (h : t.Faithful) : t.read <+: t.bytes.map some := by
  have hwrong : ∀ k : Nat, ∃ a : β, t.bytes[k]? ≠ some a := by
    intro k
    cases hk : t.bytes[k]? with
    | none =>
      obtain ⟨a, -, -⟩ := exists_pair_ne β
      exact ⟨a, by simp⟩
    | some a =>
      obtain ⟨a', ha'⟩ := exists_ne a
      exact ⟨a', fun heq => ha' (Option.some.inj heq).symm⟩
  choose stale hstale using hwrong
  rw [List.prefix_iff_getElem?]
  intro k hk
  have hget : t.bytes[k]? = some (t.read[k].getD (stale k)) := by
    have hfirst := h stale
    rw [List.prefix_iff_getElem?] at hfirst
    have hk' : k < (t.transmitted stale).length := (length_transmitted stale).symm ▸ hk
    have htrans := getElem_transmitted stale k hk
    rw [List.getElem?_eq_getElem hk', Option.some.injEq] at htrans
    rw [hfirst k hk', htrans]
  rw [List.getElem?_map, hget]
  cases hread : t.read[k] with
  | none =>
    rw [hread, Option.getD_none] at hget
    exact absurd hget (hstale k)
  | some a => rfl

theorem faithful_iff [Nontrivial β] : t.Faithful ↔ t.read <+: t.bytes.map some :=
  ⟨Faithful.certain, faithful_of_certain⟩

theorem faithful_start (source : ρ) (bytes : List β) : (start source bytes).Faithful :=
  faithful_of_certain (by simp [start])

/-- The next read has to find the next byte. -/
theorem Faithful.next_iff [Nontrivial β] (h : t.Faithful) (hlt : t.read.length < t.bytes.length) :
    (t.next b).Faithful ↔ b = t.bytes[t.read.length]? := by
  have hfirst := h.certain
  rw [faithful_iff]
  show t.read ++ [b] <+: t.bytes.map some ↔ _
  rw [List.prefix_iff_getElem?] at hfirst ⊢
  rw [List.getElem?_eq_getElem hlt]
  constructor
  · intro hall
    have hlast := hall t.read.length (by simp)
    simpa [hlt] using hlast.symm
  · rintro rfl k hk
    rw [List.length_append, List.length_singleton] at hk
    rcases Nat.lt_succ_iff_lt_or_eq.mp hk with hk | rfl
    · rw [hfirst k hk, List.getElem_append_left hk]
    · simp [hlt]

theorem Faithful.complete (h : t.Faithful) (hall : t.read.length = t.bytes.length) (stale : Nat → β) :
    t.transmitted stale = t.bytes :=
  (h stale).eq_of_length ((length_transmitted stale).trans hall)

end Transfer

/-! ## References into a queue

An element is referred to by the number of elements appended before it, and `gone`
of them have been removed from the front. Appending invalidates no reference. -/

def deref (gone : Nat) (queue : List α) (k : Nat) : Option α :=
  if gone ≤ k then queue[k - gone]? else none

section Deref
variable {gone k : Nat} {queue : List α} {a : α}

theorem deref_front (gone : Nat) (queue : List α) : deref gone queue gone = queue.head? := by
  simp [deref, List.head?_eq_getElem?]

theorem deref_append (h : deref gone queue k = some a) (more : List α) :
    deref gone (queue ++ more) k = some a := by
  unfold deref at h ⊢
  split_ifs at h ⊢ with hle
  exact (List.getElem?_append_left (List.getElem?_eq_some_iff.mp h).1).trans h

end Deref
end Transfers
