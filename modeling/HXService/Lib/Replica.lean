import Mathlib.Tactic

/-! Replicas of one value. Updates are told to them one after the other; they agree on
the value as long as every change of it is told. -/

namespace Replica
variable {ρ α : Type*}

def Agree (rs : List ρ) (views : ρ → α) (d : α) : Prop := ∀ r ∈ rs, views r = d

section Agree
variable {rs qs : List ρ} {views : ρ → α} {d : α}

theorem agree_nil : Agree [] views d := nofun

theorem Agree.subset (h : Agree rs views d) (hsub : qs ⊆ rs) : Agree qs views d :=
  fun r hr => h r (hsub hr)

variable [DecidableEq ρ] {r : ρ}

theorem Agree.enter (h : Agree rs views d) (hfresh : r ∉ rs) :
    Agree (rs ++ [r]) (Function.update views r d) d := by
  intro q hq
  rcases List.mem_append.mp hq with hq | hq
  · have hne : q ≠ r := fun heq => hfresh (heq ▸ hq)
    rw [Function.update_of_ne hne]
    exact h q hq
  · rw [List.mem_singleton.mp hq]
    exact Function.update_self ..

end Agree

variable [DecidableEq ρ]

def tell (f : α → α) (rs : List ρ) (views : ρ → α) : ρ → α :=
  rs.foldl (fun views r => Function.update views r (f (views r))) views

section Tell
variable {f : α → α} {rs : List ρ} {views : ρ → α} {d d' : α} {q r : ρ}

theorem tell_cons : tell f (r :: rs) views = tell f rs (Function.update views r (f (views r))) := rfl

theorem tell_of_notMem (h : q ∉ rs) : tell f rs views q = views q := by
  induction rs generalizing views with
  | nil => rfl
  | cons r rs ih =>
    rw [List.mem_cons, not_or] at h
    rw [tell_cons, ih h.2, Function.update_of_ne h.1]

theorem tell_of_mem (h : ∀ r ∈ rs, views r = d ∨ views r = d') (hnew : f d = d') (hagain : f d' = d')
    (hq : q ∈ rs) : tell f rs views q = d' := by
  induction rs generalizing views with
  | nil => cases hq
  | cons r rs ih =>
    have htold : f (views r) = d' := by
      rcases h r List.mem_cons_self with hr | hr
      · rw [hr, hnew]
      · rw [hr, hagain]
    rw [tell_cons, htold]
    by_cases hmem : q ∈ rs
    · refine ih ?_ hmem
      intro p hp
      by_cases hsame : p = r
      · subst hsame
        exact Or.inr (Function.update_self ..)
      · rw [Function.update_of_ne hsame]
        exact h p (List.mem_cons_of_mem r hp)
    · obtain rfl := (List.mem_cons.mp hq).resolve_right hmem
      rw [tell_of_notMem hmem]
      exact Function.update_self ..

theorem Agree.tell (h : Agree rs views d) (hnew : f d = d') (hagain : f d' = d') :
    Agree rs (tell f rs views) d' :=
  fun _ hr => tell_of_mem (fun q hq => Or.inl (h q hq)) hnew hagain hr

end Tell
end Replica
