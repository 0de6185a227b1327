import Mathlib.Tactic

/-! Journals in which some entries open, close or carry something. -/

namespace Journals

structure Kinds (α : Type*) where
  opens : α → Prop
  closes : α → Prop
  carries : α → Prop

namespace Kinds
variable {α : Type*}

def Opened (k : Kinds α) (l : List α) : Prop := ∃ a ∈ l, k.opens a

def Closed (k : Kinds α) (l : List α) : Prop := ∃ a ∈ l, k.closes a

/-- The journal is closed at most once, after it has been opened, and carries nothing
after it has been closed. -/
structure ClosedOnce (k : Kinds α) (l : List α) : Prop where
  once : ∀ l₁ a l₂, l = l₁ ++ a :: l₂ → k.closes a → ¬k.Closed l₂
  opened : ∀ l₁ a l₂, l = l₁ ++ a :: l₂ → k.closes a → k.Opened l₁
  ends : ∀ l₁ a l₂, l = l₁ ++ a :: l₂ → k.closes a → ∀ b ∈ l₂, ¬k.carries b

variable {k : Kinds α} {l : List α} {a : α}

@[simp] theorem opened_append {l' : List α} : k.Opened (l ++ l') ↔ k.Opened l ∨ k.Opened l' := by
  simp [Opened, or_and_right, exists_or]

@[simp] theorem closed_append {l' : List α} : k.Closed (l ++ l') ↔ k.Closed l ∨ k.Closed l' := by
  simp [Closed, or_and_right, exists_or]

@[simp] theorem opened_singleton : k.Opened [a] ↔ k.opens a := by simp [Opened]

@[simp] theorem closed_singleton : k.Closed [a] ↔ k.closes a := by simp [Closed]

theorem closedOnce_nil (k : Kinds α) : k.ClosedOnce [] := by
  constructor <;> simp

theorem ClosedOnce.opened_of_closed (h : k.ClosedOnce l) (hclosed : k.Closed l) : k.Opened l := by
  obtain ⟨a, ha, hcloses⟩ := hclosed
  obtain ⟨l₁, l₂, rfl⟩ := List.append_of_mem ha
  obtain ⟨b, hb, hopens⟩ := h.opened l₁ a l₂ rfl hcloses
  exact ⟨b, List.mem_append_left _ hb, hopens⟩

theorem concat_eq_append_cons {b : α} {l₁ l₂ : List α} (h : l ++ [a] = l₁ ++ b :: l₂) :
    (l₁ = l ∧ b = a ∧ l₂ = []) ∨ ∃ l₃, l₂ = l₃ ++ [a] ∧ l = l₁ ++ b :: l₃ := by
  induction l₂ using List.reverseRecOn with
  | nil =>
    have hlast := List.append_inj' h rfl
    simp only [List.cons.injEq, and_true] at hlast
    exact Or.inl ⟨hlast.1.symm, hlast.2.symm, rfl⟩
  | append_singleton l₃ c ih =>
    rw [← List.cons_append, ← List.append_assoc] at h
    have hlast := List.append_inj' h rfl
    simp only [List.cons.injEq, and_true] at hlast
    exact Or.inr ⟨l₃, by rw [hlast.2], hlast.1⟩

theorem ClosedOnce.concat (h : k.ClosedOnce l) (hcloses : k.closes a → k.Opened l ∧ ¬k.Closed l)
    (hcarries : k.carries a → ¬k.Closed l) : k.ClosedOnce (l ++ [a]) := by
  constructor
  · intro l₁ b l₂ hl hb
    rcases concat_eq_append_cons hl with ⟨rfl, rfl, rfl⟩ | ⟨l₃, rfl, rfl⟩
    · simp [Closed]
    · have hclosed : k.Closed (l₁ ++ b :: l₃) := ⟨b, by simp, hb⟩
      simp only [closed_append, closed_singleton, not_or]
      exact ⟨h.once l₁ b l₃ rfl hb, fun ha => (hcloses ha).2 hclosed⟩
  · intro l₁ b l₂ hl hb
    rcases concat_eq_append_cons hl with ⟨rfl, rfl, rfl⟩ | ⟨l₃, rfl, rfl⟩
    · exact (hcloses hb).1
    · exact h.opened l₁ b l₃ rfl hb
  · intro l₁ b l₂ hl hb c hc
    rcases concat_eq_append_cons hl with ⟨rfl, rfl, rfl⟩ | ⟨l₃, rfl, rfl⟩
    · simp at hc
    · have hclosed : k.Closed (l₁ ++ b :: l₃) := ⟨b, by simp, hb⟩
      rcases List.mem_append.mp hc with hc | hc
      · exact h.ends l₁ b l₃ rfl hb c hc
      · obtain rfl := List.mem_singleton.mp hc
        exact fun hcarry => hcarries hcarry hclosed

theorem closedOnce_concat (h : k.ClosedOnce l) : k.ClosedOnce (l ++ [a]) ↔
    (k.closes a → k.Opened l ∧ ¬k.Closed l) ∧ (k.carries a → ¬k.Closed l) := by
  constructor
  · intro hl
    constructor
    · intro ha
      refine ⟨hl.opened l a [] rfl ha, ?_⟩
      rintro ⟨b, hb, hbcloses⟩
      obtain ⟨l₁, l₂, rfl⟩ := List.append_of_mem hb
      have honce := hl.once l₁ b (l₂ ++ [a]) (by simp) hbcloses
      exact honce (by simp [ha])
    · rintro ha ⟨b, hb, hbcloses⟩
      obtain ⟨l₁, l₂, rfl⟩ := List.append_of_mem hb
      exact hl.ends l₁ b (l₂ ++ [a]) (by simp) hbcloses a (by simp) ha
  · rintro ⟨hcloses, hcarries⟩
    exact h.concat hcloses hcarries

end Kinds
end Journals
