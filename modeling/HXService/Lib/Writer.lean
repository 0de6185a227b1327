import Mathlib.Tactic

/-! A queue with one writer at a time. Whoever finds the queue empty starts the
write of what it appends; the completion of a write removes the front and
chooses the next one, which is started later. -/

namespace Writer
variable {α : Type*}

/-- `outstanding` are the writes under way, `imminent` those that are chosen and
not started; `accepted` and `handed` is all that was ever appended and started. -/
structure State (α : Type*) where
  queue : List α
  outstanding : List α
  imminent : List α
  accepted : List α
  handed : List α
  failed : Bool

namespace State

def start : State α := ⟨[], [], [], [], [], false⟩

/-- Append `a`, and start its write if nothing else is in the queue. -/
def accept (s : State α) (a : α) : State α :=
  if s.queue = [] then { s with
    queue := [a]
    outstanding := s.outstanding ++ [a]
    accepted := s.accepted ++ [a]
    handed := s.handed ++ [a] }
  else { s with queue := s.queue ++ [a], accepted := s.accepted ++ [a] }

def complete (s : State α) (rest : List α) : State α :=
  { s with
    queue := s.queue.tail
    outstanding := rest
    imminent := s.imminent ++ s.queue.tail.head?.toList }

def begin (s : State α) (a : α) (rest : List α) : State α :=
  { s with imminent := rest, outstanding := s.outstanding ++ [a], handed := s.handed ++ [a] }

def fail (s : State α) (rest : List α) : State α := { s with outstanding := rest, failed := true }

inductive Step : State α → State α → Prop
  | accept (s : State α) (a : α) : Step s (s.accept a)
  | complete (s : State α) (l : List α) (a : α) (r : List α) (h : s.outstanding = l ++ a :: r) :
    Step s (s.complete (l ++ r))
  | begin (s : State α) (l : List α) (a : α) (r : List α) (h : s.imminent = l ++ a :: r) :
    Step s (s.begin a (l ++ r))
  | fail (s : State α) (l : List α) (a : α) (r : List α) (h : s.outstanding = l ++ a :: r) :
    Step s (s.fail (l ++ r))

/-- While nothing has failed, the front of the queue is the one write under way
or chosen; after a failure it stays where it is. -/
structure Ordered (s : State α) : Prop where
  balance : s.accepted = s.handed ++ s.imminent ++ s.queue.tail
  front : s.failed = false → s.outstanding ++ s.imminent = s.queue.head?.toList
  stopped : s.failed = true → s.outstanding = [] ∧ s.imminent = [] ∧ s.queue ≠ []

section Ordered
variable {s s' : State α} {l r : List α} {a : α}

theorem ordered_start : (start : State α).Ordered := by
  constructor <;> simp [start]

theorem Ordered.accept (h : s.Ordered) (a : α) : (s.accept a).Ordered := by
  unfold State.accept
  have hbalance := h.balance
  split_ifs with hempty
  · have hrunning : s.failed = false := by
      by_contra hfailed
      exact (h.stopped (by simpa using hfailed)).2.2 hempty
    have hfront := h.front hrunning
    simp only [hempty, List.head?_nil, Option.toList_none, List.append_eq_nil_iff] at hfront
    constructor
    · simp [hbalance, hfront.2, hempty]
    · simp [hfront.1, hfront.2]
    · simp [hrunning]
  · obtain ⟨b, rest, hqueue⟩ := List.exists_cons_of_ne_nil hempty
    constructor
    · simp [hbalance, hqueue]
    · intro hrunning
      simpa [hqueue] using h.front hrunning
    · intro hfailed
      simpa [hqueue] using h.stopped hfailed

theorem Ordered.outstanding_eq (h : s.Ordered) (ho : s.outstanding = l ++ a :: r) :
    s.failed = false ∧ l = [] ∧ r = [] ∧ s.imminent = [] ∧ ∃ rest, s.queue = a :: rest := by
  have hrunning : s.failed = false := by
    by_contra hfailed
    have hnone := (h.stopped (by simpa using hfailed)).1
    simp [ho] at hnone
  have hfront := h.front hrunning
  rw [ho] at hfront
  cases hqueue : s.queue with
  | nil => simp [hqueue] at hfront
  | cons b rest =>
    simp only [hqueue, List.head?_cons, Option.toList_some, List.append_assoc, List.cons_append,
      List.append_eq_singleton_iff, List.cons.injEq, List.append_eq_nil_iff, reduceCtorEq,
      and_false, or_false] at hfront
    obtain ⟨hl, rfl, hr, himminent⟩ := hfront
    exact ⟨hrunning, hl, hr, himminent, rest, rfl⟩

theorem Ordered.complete (h : s.Ordered) (ho : s.outstanding = l ++ a :: r) :
    (s.complete (l ++ r)).Ordered := by
  obtain ⟨hrunning, rfl, rfl, himminent, rest, hqueue⟩ := h.outstanding_eq ho
  have hbalance := h.balance
  unfold State.complete
  constructor
  · cases rest <;> simp [hbalance, himminent, hqueue]
  · simp [himminent, hqueue]
  · simp [hrunning]

theorem Ordered.imminent_eq (h : s.Ordered) (hi : s.imminent = l ++ a :: r) :
    s.failed = false ∧ l = [] ∧ r = [] ∧ s.outstanding = [] ∧ ∃ rest, s.queue = a :: rest := by
  have hrunning : s.failed = false := by
    by_contra hfailed
    have hnone := (h.stopped (by simpa using hfailed)).2.1
    simp [hi] at hnone
  have hfront := h.front hrunning
  rw [hi] at hfront
  cases hqueue : s.queue with
  | nil => simp [hqueue] at hfront
  | cons b rest =>
    simp only [hqueue, List.head?_cons, Option.toList_some, List.append_eq_singleton_iff,
      List.append_eq_nil_iff, List.cons.injEq, reduceCtorEq, and_false, or_false] at hfront
    obtain ⟨ho, hl, rfl, hr⟩ : s.outstanding = [] ∧ l = [] ∧ a = b ∧ r = [] := by tauto
    exact ⟨hrunning, hl, hr, ho, rest, rfl⟩

theorem Ordered.begin (h : s.Ordered) (hi : s.imminent = l ++ a :: r) : (s.begin a (l ++ r)).Ordered := by
  obtain ⟨hrunning, hl, hr, ho, rest, hqueue⟩ := h.imminent_eq hi
  have hbalance := h.balance
  unfold State.begin
  constructor
  · simp [hbalance, hi, hqueue, hl, hr]
  · simp [ho, hl, hr, hqueue]
  · simp [hrunning]

theorem Ordered.fail (h : s.Ordered) (ho : s.outstanding = l ++ a :: r) : (s.fail (l ++ r)).Ordered := by
  obtain ⟨-, rfl, rfl, himminent, rest, hqueue⟩ := h.outstanding_eq ho
  unfold State.fail
  constructor
  · exact h.balance
  · simp
  · simp [himminent, hqueue]

theorem Ordered.step (h : s.Ordered) (hstep : Step s s') : s'.Ordered := by
  cases hstep with
  | accept a => exact h.accept a
  | complete l a r ho => exact h.complete ho
  | begin l a r hi => exact h.begin hi
  | fail l a r ho => exact h.fail ho

/-- After a failure no write is started. -/
theorem Ordered.step_failed (h : s.Ordered) (hfailed : s.failed = true) (hstep : Step s s') :
    s'.failed = true ∧ s'.handed = s.handed := by
  obtain ⟨hnone, himminent, hqueue⟩ := h.stopped hfailed
  cases hstep with
  | accept a =>
    unfold State.accept
    rw [if_neg hqueue]
    exact ⟨hfailed, rfl⟩
  | complete l a r ho => simp [ho] at hnone
  | begin l a r hi => simp [hi] at himminent
  | fail l a r ho => simp [ho] at hnone

theorem Ordered.handed_accepted (h : s.Ordered) : ∃ rest, s.accepted = s.handed ++ rest := by
  refine ⟨s.imminent ++ s.queue.tail, ?_⟩
  rw [h.balance, List.append_assoc]

theorem Ordered.length_le_one (h : s.Ordered) (hrunning : s.failed = false) :
    (s.outstanding ++ s.imminent).length ≤ 1 := by
  rw [h.front hrunning]
  cases s.queue <;> simp

theorem Ordered.nonempty_iff (h : s.Ordered) (hrunning : s.failed = false) :
    s.outstanding ++ s.imminent ≠ [] ↔ s.queue ≠ [] := by
  rw [h.front hrunning]
  cases s.queue <;> simp

end Ordered
end State
end Writer
