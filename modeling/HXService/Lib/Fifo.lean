import Mathlib.Tactic

/-! A queue that is taken whole and that may drop its oldest entry. Entries are
numbered in the order they are appended; the numbers that were taken, batch by
batch, that are waiting, and that were dropped tell its whole history. -/

namespace Fifo
variable {α : Type*}

structure Ledger (α : Type*) where
  appended : List α
  taken : List (List Nat)
  waiting : List Nat
  dropped : List Nat

namespace Ledger

def start : Ledger α := ⟨[], [], [], []⟩

def append (l : Ledger α) (a : α) : Ledger α :=
  { l with appended := l.appended ++ [a], waiting := l.waiting ++ [l.appended.length] }

def dropOldest (l : Ledger α) : Ledger α :=
  { l with waiting := l.waiting.tail, dropped := l.dropped ++ l.waiting.head?.toList }

/-- An append that makes room when the queue has reached `max` entries. -/
def appendBounded (max : Nat) (l : Ledger α) (a : α) : Ledger α :=
  if max ≤ l.waiting.length + 1 then (l.append a).dropOldest else l.append a

def take (l : Ledger α) : Ledger α := { l with taken := l.taken ++ [l.waiting], waiting := [] }

def entries (l : Ledger α) (ns : List Nat) : List α := ns.filterMap (l.appended[·]?)

/-- Numbers leave in the order they came, and each is in one place. -/
structure Sound (l : Ledger α) : Prop where
  sorted : (l.taken.flatten ++ l.waiting).Pairwise (· < ·)
  perm : (l.taken.flatten ++ l.waiting ++ l.dropped).Perm (List.range l.appended.length)

section Sound
variable {l : Ledger α}

theorem sound_start : (start : Ledger α).Sound := by
  constructor <;> simp [start]

theorem Sound.lt_length {n : Nat} (h : l.Sound) (hn : n ∈ l.taken.flatten ++ l.waiting) :
    n < l.appended.length := by
  rw [← List.mem_range, ← h.perm.mem_iff]
  exact List.mem_append_left _ hn

theorem Sound.append (h : l.Sound) (a : α) : (l.append a).Sound := by
  constructor
  · unfold Ledger.append
    rw [← List.append_assoc, List.pairwise_append]
    refine ⟨h.sorted, List.pairwise_singleton _ _, ?_⟩
    intro n hn m hm
    rw [List.mem_singleton.mp hm]
    exact h.lt_length hn
  · unfold Ledger.append
    dsimp only
    rw [List.length_append, List.length_singleton, List.range_succ]
    have hmove : (l.taken.flatten ++ (l.waiting ++ [l.appended.length]) ++ l.dropped).Perm
        (l.taken.flatten ++ l.waiting ++ l.dropped ++ [l.appended.length]) := by
      rw [← List.append_assoc, List.append_assoc _ [_], List.append_assoc _ l.dropped]
      exact List.perm_append_comm.append_left _
    exact hmove.trans (h.perm.append_right _)

theorem Sound.dropOldest (h : l.Sound) : l.dropOldest.Sound := by
  unfold Ledger.dropOldest
  cases hwaiting : l.waiting with
  | nil =>
    refine ⟨?_, ?_⟩
    · simpa [hwaiting] using h.sorted
    · simpa [hwaiting] using h.perm
  | cons n ns =>
    have hsorted := h.sorted
    have hperm := h.perm
    rw [hwaiting] at hsorted hperm
    constructor
    · exact List.Pairwise.sublist ((List.sublist_cons_self n ns).append_left _) hsorted
    · apply List.Perm.trans _ hperm
      simp only [List.tail_cons, List.head?_cons, Option.toList_some, List.append_assoc]
      apply List.Perm.append_left
      rw [← List.append_assoc]
      exact List.perm_append_comm

theorem Sound.appendBounded (h : l.Sound) (max : Nat) (a : α) : (l.appendBounded max a).Sound := by
  unfold Ledger.appendBounded
  split_ifs
  · exact (h.append a).dropOldest
  · exact h.append a

theorem Sound.take (h : l.Sound) : l.take.Sound := by
  constructor
  · simpa [Ledger.take] using h.sorted
  · simpa [Ledger.take] using h.perm

end Sound

theorem appendBounded_dropped (max : Nat) (l : Ledger α) (a : α) :
    (l.appendBounded max a).dropped = l.dropped ∨ max ≤ l.waiting.length + 1 ∧
      ∃ n, l.waiting ++ [l.appended.length] = n :: (l.appendBounded max a).waiting ∧
        (l.appendBounded max a).dropped = l.dropped ++ [n] := by
  unfold Ledger.appendBounded
  split_ifs with hfull
  · right
    refine ⟨hfull, ?_⟩
    unfold Ledger.dropOldest Ledger.append
    cases l.waiting with
    | nil => exact ⟨_, rfl, rfl⟩
    | cons n ns => exact ⟨n, rfl, rfl⟩
  · exact Or.inl rfl

section Entries
variable {l : Ledger α}

@[simp] theorem entries_nil : l.entries [] = [] := rfl

theorem entries_append (ns ms : List Nat) : l.entries (ns ++ ms) = l.entries ns ++ l.entries ms := by
  simp [entries]

theorem entries_append_of_lt {ns : List Nat} (h : ∀ n ∈ ns, n < l.appended.length) (a : α) :
    (l.append a).entries ns = l.entries ns := by
  apply List.filterMap_congr
  intro n hn
  exact List.getElem?_append_left (h n hn)

theorem entries_last (a : α) : (l.append a).entries [l.appended.length] = [a] := by
  simp [entries, append]

theorem length_entries {ns : List Nat} (h : ∀ n ∈ ns, n < l.appended.length) :
    (l.entries ns).length = ns.length := by
  induction ns with
  | nil => simp
  | cons n ns ih =>
    have hn := h n List.mem_cons_self
    have hget : l.appended[n]? = some l.appended[n] := List.getElem?_eq_getElem hn
    rw [entries, List.filterMap_cons, hget]
    simp only [List.length_cons]
    rw [← ih fun m hm => h m (List.mem_cons_of_mem _ hm), entries]

theorem entries_tail {ns : List Nat} (h : ∀ n ∈ ns, n < l.appended.length) :
    l.entries ns.tail = (l.entries ns).tail := by
  cases ns with
  | nil => simp
  | cons n ns =>
    have hget : l.appended[n]? = some _ := List.getElem?_eq_getElem (h n List.mem_cons_self)
    simp [entries, hget]

end Entries

/-- What was taken so far, and the queue as it is, are what the ledger says. -/
structure Accounts (l : Ledger α) (taken : List (List α)) (queue : List α) : Prop where
  sound : l.Sound
  taken_eq : taken = l.taken.map l.entries
  queue_eq : queue = l.entries l.waiting

section Accounts
variable {l : Ledger α} {taken : List (List α)} {queue : List α}

theorem accounts_start : Accounts (start : Ledger α) [] [] := ⟨sound_start, rfl, rfl⟩

theorem Accounts.length_eq (h : Accounts l taken queue) : queue.length = l.waiting.length := by
  rw [h.queue_eq]
  apply length_entries
  intro n hn
  exact h.sound.lt_length (List.mem_append_right _ hn)

theorem Accounts.append (h : Accounts l taken queue) (a : α) :
    Accounts (l.append a) taken (queue ++ [a]) := by
  refine ⟨h.sound.append a, ?_, ?_⟩
  · rw [h.taken_eq]
    apply List.map_congr_left
    intro ns hns
    refine (entries_append_of_lt ?_ a).symm
    intro n hn
    exact h.sound.lt_length (List.mem_append_left _ (List.mem_flatten.mpr ⟨ns, hns, hn⟩))
  · show queue ++ [a] = (l.append a).entries (l.waiting ++ [l.appended.length])
    rw [entries_append, entries_last, h.queue_eq, entries_append_of_lt]
    intro n hn
    exact h.sound.lt_length (List.mem_append_right _ hn)

theorem Accounts.dropOldest (h : Accounts l taken queue) : Accounts l.dropOldest taken queue.tail := by
  refine ⟨h.sound.dropOldest, h.taken_eq, ?_⟩
  rw [h.queue_eq]
  refine (entries_tail ?_).symm
  intro n hn
  exact h.sound.lt_length (List.mem_append_right _ hn)

theorem Accounts.appendBounded (h : Accounts l taken queue) (max : Nat) (a : α) :
    Accounts (l.appendBounded max a) taken
      (if max ≤ (queue ++ [a]).length then (queue ++ [a]).tail else queue ++ [a]) := by
  have hlength : (queue ++ [a]).length = l.waiting.length + 1 := by simp [h.length_eq]
  unfold Ledger.appendBounded
  rw [hlength]
  split_ifs
  · exact (h.append a).dropOldest
  · exact h.append a

theorem Accounts.take (h : Accounts l taken queue) : Accounts l.take (taken ++ [queue]) [] := by
  refine ⟨h.sound.take, ?_, rfl⟩
  rw [h.taken_eq, h.queue_eq]
  show _ = (l.taken ++ [l.waiting]).map l.entries
  rw [List.map_append, List.map_singleton]

end Accounts
end Ledger
end Fifo
