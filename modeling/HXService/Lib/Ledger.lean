import HXService.Lib.Roster

/-! Members of a list numbered in the order they come in. Members go, are changed
in place, or are picked; a member that is picked is marked and stays so. Then an
unmarked member is one that has never been picked. -/

structure Ledger where
  serials : List Nat
  next : Nat
  picked : List Nat
  deriving DecidableEq

namespace Ledger

def empty : Ledger := ⟨[], 0, []⟩

def enter (l : Ledger) : Ledger := { l with serials := l.serials ++ [l.next], next := l.next + 1 }

def leave (l : Ledger) (i : Nat) : Ledger := { l with serials := l.serials.eraseIdx i }

def pick (l : Ledger) (i : Nat) : Ledger := { l with picked := l.picked ++ l.serials[i]?.toList }

/-- The members that have been picked are marked. -/
structure Marks {α : Type*} (marked : α → Prop) (l : Ledger) (xs : List α) : Prop where
  marks : List.Forall₂ (fun n x => n ∈ l.picked → marked x) l.serials xs
  order : l.serials.Pairwise (· < ·)
  below : ∀ n ∈ l.serials, n < l.next
  known : ∀ n ∈ l.picked, n < l.next

variable {α : Type*} {marked : α → Prop} {l : Ledger} {xs ys : List α} {x : α} {i : Nat}

theorem marks_empty : Marks marked empty [] := ⟨.nil, .nil, nofun, nofun⟩

theorem Marks.enter (h : Marks marked l xs) (x : α) : Marks marked l.enter (xs ++ [x]) := by
  have hnew : l.next ∉ l.picked := fun hmem => (h.known _ hmem).false
  constructor
  · have hlast : List.Forall₂ (fun n x => n ∈ l.picked → marked x) [l.next] [x] :=
      .cons (fun hmem => absurd hmem hnew) .nil
    exact List.rel_append h.marks hlast
  · apply List.pairwise_append.mpr
    refine ⟨h.order, List.pairwise_singleton _ _, ?_⟩
    intro n hn k hk
    rw [List.mem_singleton.mp hk]
    exact h.below n hn
  · intro n hn
    rcases List.mem_append.mp hn with hn | hn
    · exact (h.below n hn).trans (Nat.lt_succ_self _)
    · rw [List.mem_singleton.mp hn]
      exact Nat.lt_succ_self _
  · exact fun n hn => (h.known n hn).trans (Nat.lt_succ_self _)

theorem Marks.leave (h : Marks marked l xs) (i : Nat) : Marks marked (l.leave i) (xs.eraseIdx i) := by
  have hsub : (l.leave i).serials.Sublist l.serials := List.eraseIdx_sublist l.serials i
  constructor
  · exact Roster.forall₂_eraseIdx h.marks i
  · exact h.order.sublist hsub
  · exact fun n hn => h.below n (hsub.subset hn)
  · exact h.known

theorem Marks.change (h : Marks marked l xs)
    (hxs : List.Forall₂ (fun x y => marked x → marked y) xs ys) : Marks marked l ys := by
  refine ⟨?_, h.order, h.below, h.known⟩
  have hmarks := h.marks
  clear h
  generalize l.serials = ns at hmarks
  induction hmarks generalizing ys with
  | nil =>
    cases hxs
    exact .nil
  | cons hx _ ih =>
    cases hxs with
    | cons hy hrest => exact .cons (fun hn => hy (hx hn)) (ih hrest)

theorem serial_inj (h : l.serials.Pairwise (· < ·)) {j n : Nat} (hi : l.serials[i]? = some n)
    (hj : l.serials[j]? = some n) : i = j := by
  obtain ⟨hilt, rfl⟩ := List.getElem?_eq_some_iff.mp hi
  obtain ⟨hjlt, hsame⟩ := List.getElem?_eq_some_iff.mp hj
  have hnodup : l.serials.Nodup := h.imp Nat.ne_of_lt
  exact ((List.Nodup.getElem_inj_iff hnodup).mp hsame).symm

theorem Marks.pick (h : Marks marked l xs) (hi : ∀ x, xs[i]? = some x → marked x) :
    Marks marked (l.pick i) xs := by
  refine ⟨?_, h.order, h.below, ?_⟩
  · obtain ⟨hlength, hget⟩ := List.forall₂_iff_get.mp h.marks
    refine List.forall₂_iff_get.mpr ⟨hlength, fun j hj hj' hmem => ?_⟩
    rcases List.mem_append.mp hmem with hmem | hmem
    · exact hget j hj hj' hmem
    · have hserial : l.serials[i]? = some (l.serials.get ⟨j, hj⟩) := Option.mem_toList.mp hmem
      obtain rfl := serial_inj h.order hserial (List.getElem?_eq_getElem hj)
      exact hi _ (List.getElem?_eq_getElem hj')
  · intro n hn
    rcases List.mem_append.mp hn with hn | hn
    · exact h.known n hn
    · exact h.below n (List.mem_of_getElem? (Option.mem_toList.mp hn))

theorem Marks.fresh (h : Marks marked l xs) (hx : xs[i]? = some x) (hnot : ¬marked x) :
    ∃ n, l.serials[i]? = some n ∧ n ∉ l.picked := by
  obtain ⟨hlt, rfl⟩ := List.getElem?_eq_some_iff.mp hx
  obtain ⟨hlength, hget⟩ := List.forall₂_iff_get.mp h.marks
  refine ⟨_, List.getElem?_eq_getElem (hlength ▸ hlt), fun hmem => hnot ?_⟩
  exact hget i (hlength ▸ hlt) hlt hmem

end Ledger
