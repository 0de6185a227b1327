import HXService.Lib.Runs

/-! Blocks that are made and freed. The allocator gives any address where there is no
block, also one that has been given before. -/

abbrev Heap (α : Type*) := Nat → Option α

namespace Heap
variable {α : Type*}

def empty : Heap α := fun _ => none

def new (h : Heap α) (p : Nat) (x : α) : Option (Heap α) :=
  match h p with
  | some _ => none
  | none => some (Function.update h p (some x))

/-- Only a live block can be freed. -/
def delete (h : Heap α) (p : Nat) : Option (Heap α) :=
  match h p with
  | some _ => some (Function.update h p none)
  | none => none

def deleteAll (h : Heap α) (ps : List Nat) : Option (Heap α) := ps.foldlM delete h

/-- The holder of the pointers `ps` owns all blocks: each is pointed to by one of them. -/
structure Owns (h : Heap α) (ps : List Nat) : Prop where
  nodup : ps.Nodup
  live : ∀ p, (h p).isSome ↔ p ∈ ps

section Owns
variable {h h' : Heap α} {ps qs : List Nat} {p q : Nat} {x : α}

theorem owns_empty : Owns (empty : Heap α) [] :=
  ⟨List.nodup_nil, fun _ => ⟨nofun, nofun⟩⟩

theorem Owns.perm (hps : ps.Perm qs) (howns : Owns h ps) : Owns h qs :=
  ⟨hps.nodup_iff.mp howns.nodup, fun p => (howns.live p).trans hps.mem_iff⟩

theorem Owns.get (howns : Owns h ps) (hp : p ∈ ps) : ∃ x, h p = some x :=
  Option.isSome_iff_exists.mp ((howns.live p).mpr hp)

theorem Owns.none (howns : Owns h ps) (hp : p ∉ ps) : h p = .none := by
  rw [← Option.not_isSome_iff_eq_none, howns.live p]
  exact hp

theorem new_eq_some_iff : h.new p x = some h' ↔ h p = .none ∧ h' = Function.update h p (some x) := by
  unfold new
  cases h p with
  | none => exact ⟨fun heq => ⟨rfl, (Option.some.inj heq).symm⟩, fun heq => congrArg some heq.2.symm⟩
  | some y => exact ⟨nofun, fun heq => nomatch heq.1⟩

theorem Owns.new (howns : Owns h ps) (hnew : h.new p x = some h') :
    Owns h' (ps ++ [p]) ∧ h' p = some x ∧ ∀ q ∈ ps, h' q = h q := by
  obtain ⟨hfree, rfl⟩ := new_eq_some_iff.mp hnew
  have hp : p ∉ ps := by
    rw [← howns.live p, hfree]
    exact nofun
  have hother : ∀ q ∈ ps, Function.update h p (some x) q = h q := by
    intro q hq
    apply Function.update_of_ne
    rintro rfl
    exact hp hq
  refine ⟨⟨?_, fun q => ?_⟩, Function.update_self .., hother⟩
  · exact List.nodup_append_comm.mp (List.nodup_cons.mpr ⟨hp, howns.nodup⟩)
  · rw [List.mem_append, List.mem_singleton]
    by_cases hq : q = p
    · subst hq
      rw [Function.update_self]
      exact ⟨fun _ => Or.inr rfl, fun _ => rfl⟩
    · rw [Function.update_of_ne hq, howns.live q]
      exact ⟨Or.inl, fun hor => hor.resolve_right hq⟩

theorem Owns.delete (howns : Owns h (p :: qs)) :
    ∃ h', h.delete p = some h' ∧ Owns h' qs ∧ h' p = .none ∧ ∀ q, q ≠ p → h' q = h q := by
  obtain ⟨x, hx⟩ := howns.get List.mem_cons_self
  obtain ⟨hp, hqs⟩ := List.nodup_cons.mp howns.nodup
  refine ⟨Function.update h p .none, ?_, ⟨hqs, fun q => ?_⟩, Function.update_self ..,
    fun q hq => Function.update_of_ne hq ..⟩
  · rw [Heap.delete, hx]
  · by_cases hq : q = p
    · subst hq
      rw [Function.update_self]
      exact ⟨nofun, fun hmem => absurd hmem hp⟩
    · rw [Function.update_of_ne hq, howns.live q, List.mem_cons]
      exact or_iff_right hq

theorem Owns.deleteAll (howns : Owns h (ps ++ qs)) :
    ∃ h', h.deleteAll ps = some h' ∧ Owns h' qs ∧ ∀ q ∉ ps, h' q = h q := by
  induction ps generalizing h with
  | nil => exact ⟨h, rfl, howns, fun _ _ => rfl⟩
  | cons p ps ih =>
    obtain ⟨h₁, hdelete, howns₁, -, hsame₁⟩ := howns.delete
    obtain ⟨h₂, hdeleteAll, howns₂, hsame₂⟩ := ih howns₁
    refine ⟨h₂, ?_, howns₂, fun q hq => ?_⟩
    · rw [Heap.deleteAll, List.foldlM_cons, hdelete]
      exact hdeleteAll
    · rw [List.mem_cons, not_or] at hq
      rw [hsame₂ q hq.2, hsame₁ q hq.1]

end Owns
end Heap
