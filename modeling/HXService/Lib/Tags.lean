import HXService.Lib.Roster

/-! Members of a list that wear tags. The tag `0` stands for none; any other is valid and
worn by one member only. -/

namespace Tags
variable {α ν : Type*} [Zero ν] {Valid : ν → Prop} {ns ms : List ν} {n : ν}

structure Apart (Valid : ν → Prop) (ns : List ν) : Prop where
  valid : ∀ n ∈ ns, n ≠ 0 → Valid n
  distinct : ns.Pairwise fun a b => a = b → a = 0

theorem apart_nil : Apart Valid [] := ⟨nofun, .nil⟩

theorem Apart.perm (h : Apart Valid ns) (hperm : ns.Perm ms) : Apart Valid ms := by
  refine ⟨fun n hn => h.valid n (hperm.mem_iff.mpr hn), ?_⟩
  refine (hperm.pairwise_iff ?_).mp h.distinct
  intro a b hab hba
  exact hba.trans (hab hba.symm)

theorem Apart.sublist (h : Apart Valid ns) (hsub : ms.Sublist ns) : Apart Valid ms :=
  ⟨fun n hn => h.valid n (hsub.subset hn), h.distinct.sublist hsub⟩

theorem apart_cons : Apart Valid (n :: ns) ↔ (n ≠ 0 → Valid n ∧ n ∉ ns) ∧ Apart Valid ns := by
  constructor
  · intro h
    obtain ⟨hfirst, -⟩ := List.pairwise_cons.mp h.distinct
    refine ⟨fun hne => ⟨h.valid n List.mem_cons_self hne, ?_⟩, h.sublist (List.sublist_cons_self n ns)⟩
    exact fun hmem => hne (hfirst n hmem rfl)
  · rintro ⟨hfirst, hrest⟩
    refine ⟨?_, List.pairwise_cons.mpr ⟨?_, hrest.distinct⟩⟩
    · intro m hm hne
      rcases List.mem_cons.mp hm with rfl | hm
      · exact (hfirst hne).1
      · exact hrest.valid m hm hne
    · rintro m hm rfl
      by_contra hne
      exact (hfirst hne).2 hm

theorem Apart.concat_zero (h : Apart Valid ns) : Apart Valid (ns ++ [0]) :=
  (apart_cons.mpr ⟨fun hne => absurd rfl hne, h⟩).perm (List.perm_append_singleton 0 ns).symm

section Wearers
variable [DecidableEq ν]

theorem Apart.nodup (h : Apart Valid ns) : (ns.filter (· ≠ 0)).Nodup := by
  refine (h.distinct.filter _).imp_of_mem ?_
  intro a b ha _ hab hsame
  exact of_decide_eq_true (List.mem_filter.mp ha).2 (hab hsame)

theorem filter_tag {tag : α → ν} {xs : List α} {x : α} (h : Apart Valid (xs.map tag)) (hx : x ∈ xs)
    (hne : tag x ≠ 0) : xs.filter (tag · = tag x) = [x] := by
  have hnodup := h.nodup
  rw [List.filter_map] at hnodup
  have hworn : x ∈ xs.filter ((· ≠ 0) ∘ tag) := List.mem_filter.mpr ⟨hx, decide_eq_true hne⟩
  rw [← Roster.filter_key hnodup hworn, List.filter_filter]
  refine List.filter_congr fun y _ => ?_
  by_cases hsame : tag y = tag x
  · simp [hsame, hne]
  · simp [hsame]

end Wearers
end Tags
