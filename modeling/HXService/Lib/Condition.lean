import Mathlib.Tactic

/-! A condition variable. Threads block on it until one is notified, or wake for no
reason; whoever has left the wait has still to take the lock and test again. -/

structure Condition (τ : Type*) where
  waiting : Multiset τ
  notified : Multiset τ
  woken : Multiset τ

namespace Condition
variable {τ : Type*}

def idle : Condition τ := ⟨0, 0, 0⟩

def Released (c : Condition τ) (t : τ) : Prop := t ∈ c.notified ∨ t ∈ c.woken

def Inside (c : Condition τ) (t : τ) : Prop := t ∈ c.waiting ∨ c.Released t

def wait (c : Condition τ) (t : τ) : Condition τ := { c with waiting := t ::ₘ c.waiting }

/-- Whom a notification may release: a waiter, and nobody only when none waits. -/
def Picks (c : Condition τ) : Option τ → Prop
  | some t => t ∈ c.waiting
  | none => c.waiting = 0

/-- Of `n` things that are waited for, each has a notified thread that is to come for
it, as long as anybody waits. Newcomers and threads that woke by themselves may be
faster; then there is one thing less. -/
def Attended (c : Condition τ) (n : Nat) : Prop := c.waiting ≠ 0 → n ≤ c.notified.card

section Attended
variable {c : Condition τ} {n m : Nat}

theorem attended_idle : (idle : Condition τ).Attended n := fun h => absurd rfl h

theorem attended_zero : c.Attended 0 := fun _ => Nat.zero_le _

theorem Attended.mono (h : c.Attended n) (hm : m ≤ n) : c.Attended m := fun hwait => hm.trans (h hwait)

theorem Attended.notified (h : c.Attended n) (hn : 0 < n) (hwait : c.waiting ≠ 0) : c.notified ≠ 0 :=
  Multiset.card_pos.mp (hn.trans_le (h hwait))

end Attended

/-! Who waits. A thread stands in one of the three sets while it is inside its wait, and
once. -/

section Waits
variable {c : Condition τ} {t t' : τ}

theorem not_inside_idle : ¬(idle : Condition τ).Inside t := by
  unfold Inside Released idle
  simp

theorem inside_wait : (c.wait t').Inside t ↔ t = t' ∨ c.Inside t := by
  unfold Inside Released wait
  rw [Multiset.mem_cons, or_assoc]

theorem inside_iff_mem : c.Inside t ↔ t ∈ c.waiting + c.notified + c.woken := by
  unfold Inside Released
  rw [Multiset.mem_add, Multiset.mem_add, or_assoc]

def Only (t : τ) (c : Condition τ) : Prop := c.waiting + c.notified + c.woken ≤ {t}

theorem only_idle : Only t (idle : Condition τ) := Multiset.zero_le _

theorem Only.eq_of_inside (h : Only t c) (hin : c.Inside t') : t' = t :=
  Multiset.mem_singleton.mp (Multiset.mem_of_le h (inside_iff_mem.mp hin))

theorem Only.wait (h : Only t c) (hout : ¬c.Inside t) : Only t (c.wait t) := by
  have hnone : c.waiting + c.notified + c.woken = 0 := by
    rcases Multiset.le_singleton.mp h with hnone | hone
    · exact hnone
    · refine absurd ?_ hout
      rw [inside_iff_mem, hone]
      exact Multiset.mem_singleton_self t
  unfold Only Condition.wait
  dsimp only
  rw [Multiset.cons_add, Multiset.cons_add, hnone]
  exact le_refl _

theorem Only.notified_eq_zero (h : Only t c) (ht : t ∈ c.waiting) : c.notified = 0 := by
  have hcard := Multiset.card_le_card h
  rw [Multiset.card_add, Multiset.card_add, Multiset.card_singleton] at hcard
  have hpos := Multiset.card_pos_iff_exists_mem.mpr ⟨t, ht⟩
  rw [← Multiset.card_eq_zero]
  omega

theorem exists_picks (c : Condition τ) : ∃ pick, c.Picks pick := by
  by_cases hnone : c.waiting = 0
  · exact ⟨none, hnone⟩
  · obtain ⟨t, ht⟩ := Multiset.exists_mem_of_ne_zero hnone
    exact ⟨some t, ht⟩

end Waits

variable [DecidableEq τ]

instance (c : Condition τ) (t : τ) : Decidable (c.Released t) := inferInstanceAs (Decidable (_ ∨ _))

instance (c : Condition τ) (t : τ) : Decidable (c.Inside t) := inferInstanceAs (Decidable (_ ∨ _))

instance (c : Condition τ) : (pick : Option τ) → Decidable (c.Picks pick)
  | some t => inferInstanceAs (Decidable (t ∈ c.waiting))
  | none => inferInstanceAs (Decidable (c.waiting = 0))

def notifyOne (c : Condition τ) : Option τ → Condition τ
  | some t => { c with waiting := c.waiting.erase t, notified := t ::ₘ c.notified }
  | none => c

def wake (c : Condition τ) (t : τ) : Condition τ :=
  { c with waiting := c.waiting.erase t, woken := t ::ₘ c.woken }

def leave (c : Condition τ) (t : τ) : Condition τ :=
  if t ∈ c.notified then { c with notified := c.notified.erase t }
  else { c with woken := c.woken.erase t }

variable {c : Condition τ} {n : Nat}

theorem Attended.notifyOne {pick : Option τ} (h : c.Attended n) (hpick : c.Picks pick) :
    (c.notifyOne pick).Attended (n + 1) := by
  cases pick with
  | none => exact fun hwait => absurd hpick hwait
  | some t =>
    intro _
    have hsome : c.waiting ≠ 0 := by
      intro hnone
      rw [Picks, hnone] at hpick
      exact Multiset.notMem_zero t hpick
    show n + 1 ≤ (t ::ₘ c.notified).card
    rw [Multiset.card_cons]
    exact Nat.succ_le_succ (h hsome)

theorem Attended.wake (h : c.Attended n) (t : τ) : (c.wake t).Attended n := by
  intro hwait
  apply h
  intro hnone
  apply hwait
  show c.waiting.erase t = 0
  rw [hnone]
  rfl

theorem Attended.leave (h : c.Attended n) (t : τ) : (c.leave t).Attended (n - 1) := by
  unfold Condition.leave
  split_ifs with hnotified
  · intro hwait
    show n - 1 ≤ (c.notified.erase t).card
    rw [Multiset.card_erase_of_mem hnotified]
    exact Nat.sub_le_sub_right (h hwait) 1
  · exact fun hwait => (Nat.sub_le n 1).trans (h hwait)

section Moves
variable {t t' : τ} {pick : Option τ}

theorem inside_notifyOne (hpick : c.Picks pick) : (c.notifyOne pick).Inside t ↔ c.Inside t := by
  cases pick with
  | none => exact Iff.rfl
  | some t' =>
    obtain ⟨others, hothers⟩ := Multiset.exists_cons_of_mem (show t' ∈ c.waiting from hpick)
    unfold Inside Released notifyOne
    dsimp only
    rw [hothers, Multiset.erase_cons_head, Multiset.mem_cons, Multiset.mem_cons]
    tauto

theorem inside_wake (ht' : t' ∈ c.waiting) : (c.wake t').Inside t ↔ c.Inside t := by
  obtain ⟨others, hothers⟩ := Multiset.exists_cons_of_mem ht'
  unfold Inside Released wake
  dsimp only
  rw [hothers, Multiset.erase_cons_head, Multiset.mem_cons, Multiset.mem_cons]
  tauto

theorem inside_of_leave (h : (c.leave t').Inside t) : c.Inside t := by
  unfold Inside Released leave at h
  unfold Inside Released
  split_ifs at h
  · exact h.imp_right (Or.imp_left Multiset.mem_of_mem_erase)
  · exact h.imp_right (Or.imp_right Multiset.mem_of_mem_erase)

theorem Only.notifyOne (h : Only t c) (hpick : c.Picks pick) : Only t (c.notifyOne pick) := by
  cases pick with
  | none => exact h
  | some t' =>
    obtain ⟨others, hothers⟩ := Multiset.exists_cons_of_mem (show t' ∈ c.waiting from hpick)
    unfold Only at h
    unfold Only Condition.notifyOne
    dsimp only
    rw [hothers, Multiset.cons_add, Multiset.cons_add] at h
    rw [hothers, Multiset.erase_cons_head, Multiset.add_cons, Multiset.cons_add]
    exact h

theorem Only.wake (h : Only t c) (ht' : t' ∈ c.waiting) : Only t (c.wake t') := by
  obtain ⟨others, hothers⟩ := Multiset.exists_cons_of_mem ht'
  unfold Only at h
  unfold Only Condition.wake
  dsimp only
  rw [hothers, Multiset.cons_add, Multiset.cons_add] at h
  rw [hothers, Multiset.erase_cons_head, Multiset.add_cons]
  exact h

theorem Only.leave (h : Only t c) (t' : τ) : Only t (c.leave t') := by
  refine le_trans ?_ h
  unfold Condition.leave
  split_ifs
  · exact add_le_add_left (add_le_add_right (Multiset.erase_le _ _) _) _
  · exact add_le_add_right (Multiset.erase_le _ _) _

theorem Only.not_inside_leave (h : Only t c) (ht : c.Released t) : ¬(c.leave t).Inside t := by
  have hone : c.waiting + c.notified + c.woken = {t} := by
    rcases Multiset.le_singleton.mp h with hnone | hone
    · refine absurd (inside_iff_mem.mp (Or.inr ht)) ?_
      rw [hnone]
      exact Multiset.notMem_zero t
    · exact hone
  have hall := congrArg (Multiset.count t) hone
  rw [Multiset.count_singleton_self, Multiset.count_add, Multiset.count_add] at hall
  intro hin
  have hcount := Multiset.one_le_count_iff_mem.mpr (inside_iff_mem.mp hin)
  unfold Condition.leave at hcount
  split_ifs at hcount with hnotified
  · have hpos := Multiset.one_le_count_iff_mem.mpr hnotified
    rw [Multiset.count_add, Multiset.count_add, Multiset.count_erase_self] at hcount
    dsimp only at hcount
    omega
  · have hpos := Multiset.one_le_count_iff_mem.mpr (ht.resolve_left hnotified)
    rw [Multiset.count_add, Multiset.count_add, Multiset.count_erase_self] at hcount
    dsimp only at hcount
    omega

/-- What happens to a condition variable at once; `enters` says who may come to wait. -/
inductive Move (enters : τ → Prop) : Condition τ → Condition τ → Prop
  | stay (c : Condition τ) : Move enters c c
  | wait (c : Condition τ) (t : τ) (ht : enters t) (hout : ¬c.Inside t) : Move enters c (c.wait t)
  | leave (c : Condition τ) (t : τ) (ht : c.Released t) : Move enters c (c.leave t)
  | again (c : Condition τ) (t : τ) (ht : c.Released t) : Move enters c ((c.leave t).wait t)
  | notifyOne (c : Condition τ) (pick : Option τ) (hpick : c.Picks pick) :
    Move enters c (c.notifyOne pick)
  | wake (c : Condition τ) (t : τ) (ht : t ∈ c.waiting) : Move enters c (c.wake t)

variable {enters : τ → Prop} {c' : Condition τ}

theorem Move.inside (h : Move enters c c') (hin : c'.Inside t) : c.Inside t ∨ enters t := by
  cases h with
  | stay => exact Or.inl hin
  | wait t' ht' hout =>
    rcases inside_wait.mp hin with rfl | hin
    · exact Or.inr ht'
    · exact Or.inl hin
  | leave t' ht' => exact Or.inl (inside_of_leave hin)
  | again t' ht' =>
    rcases inside_wait.mp hin with rfl | hin
    · exact Or.inl (Or.inr ht')
    · exact Or.inl (inside_of_leave hin)
  | notifyOne pick hpick => exact Or.inl ((inside_notifyOne hpick).mp hin)
  | wake t' ht' => exact Or.inl ((inside_wake ht').mp hin)

theorem Move.only (h : Move enters c c') (henters : ∀ t', enters t' → t' = t) (honly : Only t c) :
    Only t c' := by
  cases h with
  | stay => exact honly
  | wait t' ht' hout =>
    obtain rfl := henters t' ht'
    exact honly.wait hout
  | leave t' ht' => exact honly.leave t'
  | again t' ht' =>
    obtain rfl := honly.eq_of_inside (Or.inr ht')
    exact (honly.leave t').wait (honly.not_inside_leave ht')
  | notifyOne pick hpick => exact honly.notifyOne hpick
  | wake t' ht' => exact honly.wake ht'

end Moves
end Condition
