import HXService.Lib.Runs
import HXService.Lib.Fifo
import HXService.MessageQueue

/-! The double queue over any order of `add` and `swap`: the two halves together
are one queue that is taken whole and drops its oldest entry when it is full. -/

namespace HXService
open Runs Fifo

namespace DoubleQueue
open HXMessageQueueAB

/-! ## Runs of add and swap

Each call holds `m_mutex`. Any receiver may stand behind `bigData`; a call whose
behaviour is undefined is refused. `returned` is what the swaps returned. -/

inductive Event
  | add (msg : HXMessagePackage)
  | addWith (msg : HXMessagePackage) (bigData : HXBigMessageQueue)
  | swap

structure State where
  queue : HXMessageQueueAB
  returned : List (List HXMessagePackage)

def start : State := ⟨HXMessageQueueAB.new, []⟩

def step (z : Zlib) (s : State) : Event → Option State
  | .add msg => some { s with queue := s.queue.add msg }
  | .addWith msg bigData => do
    let r ← (s.queue.addWith z msg bigData).toOption
    pure { s with queue := r.1 }
  | .swap => some ⟨s.queue.swap.1, s.returned ++ [s.queue.swap.2]⟩

/-- One event on the queue: a plain add makes room, a big message does not. -/
def record (z : Zlib) (l : Ledger HXMessagePackage) : Event → Ledger HXMessagePackage
  | .add msg => l.appendBounded queueMax msg
  | .addWith msg bigData =>
    match appended z msg bigData with
    | .ok (some entry, _) =>
      if isBigStream msg.header.id then l.append entry else l.appendBounded queueMax entry
    | _ => l
  | .swap => l.take

def ledger (z : Zlib) (es : List Event) : Ledger HXMessagePackage := es.foldl (record z) Ledger.start

/-- The halves hold what the ledger says, and the half that is not filled is the
one that was returned last. -/
structure Refines (l : Ledger HXMessagePackage) (s : State) : Prop where
  accounts : l.Accounts s.returned s.queue.current
  last : ∀ half, s.returned.getLast? = some half → s.queue.get = half

section Steps
variable {z : Zlib} {l : Ledger HXMessagePackage} {s s' : State} {q : HXMessageQueueAB} {e : Event}
variable {msg entry : HXMessagePackage} {half : List HXMessagePackage}

theorem get_setCurrent : (q.setCurrent half).get = q.get := by
  obtain ⟨halves, cur⟩ := q
  unfold setCurrent HXMessageQueueAB.get
  fin_cases cur <;> simp

theorem Refines.add (h : Refines l s) (msg : HXMessagePackage) :
    Refines (l.appendBounded queueMax msg) { s with queue := s.queue.add msg } := by
  constructor
  · show Ledger.Accounts _ s.returned (s.queue.add msg).current
    rw [HXMessageQueueAB.add, current_setCurrent]
    exact h.accounts.appendBounded queueMax msg
  · intro half hlast
    show (s.queue.add msg).get = half
    rw [HXMessageQueueAB.add, get_setCurrent]
    exact h.last half hlast

theorem Refines.addBig (h : Refines l s) (entry : HXMessagePackage) :
    Refines (l.append entry) { s with queue := s.queue.push true entry } := by
  constructor
  · show Ledger.Accounts _ s.returned (s.queue.setCurrent (s.queue.current ++ [entry])).current
    rw [current_setCurrent]
    exact h.accounts.append entry
  · intro half hlast
    show (s.queue.setCurrent _).get = half
    rw [get_setCurrent]
    exact h.last half hlast

theorem Refines.swap (h : Refines l s) :
    Refines l.take ⟨s.queue.swap.1, s.returned ++ [s.queue.swap.2]⟩ := by
  constructor
  · show Ledger.Accounts _ (s.returned ++ [s.queue.current]) s.queue.swap.1.current
    rw [current_swap]
    exact h.accounts.take
  · intro half hlast
    rw [List.getLast?_append, List.getLast?_singleton, Option.some_or] at hlast
    rw [get_swap]
    exact Option.some.inj hlast

theorem step_addWith {bigData : HXBigMessageQueue} (hstep : step z s (.addWith msg bigData) = some s') :
    ∃ entry bigData', appended z msg bigData = .ok (entry, bigData') ∧
      s' = { s with queue := s.queue.pushOption (isBigStream msg.header.id) entry } := by
  unfold step at hstep
  obtain ⟨r, hr, hs'⟩ := Option.bind_eq_some_iff.mp hstep
  have hadded := mem_toOption hr
  rw [addWith_eq] at hadded
  obtain ⟨entry, hentry, hadded⟩ := bind_eq_ok.mp hadded
  refine ⟨entry.1, entry.2, hentry, ?_⟩
  rw [← Option.some.inj hs', ← Except.ok.inj hadded]

theorem step_refines (h : Refines l s) (hstep : step z s e = some s') : Refines (record z l e) s' := by
  cases e with
  | add msg =>
    obtain rfl := Option.some.inj hstep
    exact h.add msg
  | addWith msg bigData =>
    obtain ⟨entry, bigData', hentry, rfl⟩ := step_addWith hstep
    cases entry with
    | none => simpa [record, hentry, pushOption] using h
    | some entry =>
      by_cases hbig : isBigStream msg.header.id
      · simpa [record, hentry, hbig, pushOption] using h.addBig entry
      · simpa [record, hentry, hbig, pushOption, push] using h.add entry
  | swap =>
    obtain rfl := Option.some.inj hstep
    exact h.swap

/-- Induction on the events, which the ledger records from any point on. -/
theorem run_refines {es : List Event} (h : Refines l s) (hrun : run (step z) s es = some s') :
    Refines (es.foldl (record z) l) s' := by
  induction es generalizing l s with
  | nil =>
    obtain rfl := Option.some.inj hrun
    exact h
  | cons e es ih =>
    obtain ⟨t, ht, hrun⟩ := run_cons.mp hrun
    exact ih (step_refines h ht) hrun

theorem refines_start : Refines Ledger.start start := by
  refine ⟨Ledger.accounts_start, ?_⟩
  intro half hlast
  simp [start] at hlast

end Steps

def PlainAdd (e : Event) (msg : HXMessagePackage) : Prop :=
  e = .add msg ∨ ∃ bigData, e = .addWith msg bigData ∧ ¬isBigStream msg.header.id

/-- `n` is the number of the oldest entry of the half `current`, which is full
when `msg` has been added to it. -/
def Drops (l l' : Ledger HXMessagePackage) (current : List HXMessagePackage) (msg : HXMessagePackage)
    (n : Nat) : Prop :=
  queueMax ≤ (current ++ [msg]).length ∧ l.waiting ++ [l.appended.length] = n :: l'.waiting ∧
    l'.dropped = l.dropped ++ [n]

section Dropping
variable {z : Zlib} {l : Ledger HXMessagePackage} {s s' : State} {e : Event} {msg : HXMessagePackage}

theorem Refines.drops (h : Refines l s) (msg : HXMessagePackage) :
    (l.appendBounded queueMax msg).dropped = l.dropped ∨
      ∃ n, Drops l (l.appendBounded queueMax msg) s.queue.current msg n := by
  apply (Ledger.appendBounded_dropped queueMax l msg).imp_right
  rintro ⟨hfull, n, hwaiting, hdropped⟩
  refine ⟨n, ?_, hwaiting, hdropped⟩
  simpa [h.accounts.length_eq] using hfull

/-- Nothing goes missing but the oldest entry of a full half, in a plain add. -/
theorem record_dropped (h : Refines l s) (hstep : step z s e = some s') :
    (record z l e).dropped = l.dropped ∨
      ∃ msg n, PlainAdd e msg ∧ Drops l (record z l e) s.queue.current msg n := by
  cases e with
  | add msg =>
    apply (h.drops msg).imp_right
    rintro ⟨n, hn⟩
    exact ⟨msg, n, Or.inl rfl, hn⟩
  | addWith msg bigData =>
    obtain ⟨entry, bigData', hentry, rfl⟩ := step_addWith hstep
    by_cases hbig : isBigStream msg.header.id
    · left
      cases entry <;> simp [record, hentry, hbig, Ledger.append]
    · rw [appended, if_neg hbig] at hentry
      have hrecord : record z l (.addWith msg bigData) = l.appendBounded queueMax msg := by
        simp [record, appended, hbig]
      rw [hrecord]
      apply (h.drops msg).imp_right
      rintro ⟨n, hn⟩
      exact ⟨msg, n, Or.inr ⟨bigData, rfl, hbig⟩, hn⟩
  | swap => exact Or.inl rfl

end Dropping

section Runs
variable {z : Zlib} {es : List Event} {s : State}

theorem ledger_refines (hrun : run (step z) start es = some s) : Refines (ledger z es) s :=
  run_refines refines_start hrun

/-- Every entry that was appended has been returned by one swap, waits in the
current half or was dropped; the entries returned and those that wait are in
the order of appending. What goes missing in a step is the oldest entry of a
full half, and the half that was returned last stays as it is. -/
theorem run_queue (hrun : run (step z) start es = some s) :
    (s.returned = (ledger z es).taken.map (ledger z es).entries ∧
      s.queue.current = (ledger z es).entries (ledger z es).waiting) ∧
    ((ledger z es).taken.flatten ++ (ledger z es).waiting).Pairwise (· < ·) ∧
    ((ledger z es).taken.flatten ++ (ledger z es).waiting ++ (ledger z es).dropped).Perm
      (List.range (ledger z es).appended.length) ∧
    (∀ es₁ e es₂ t, es = es₁ ++ e :: es₂ → run (step z) start es₁ = some t →
      (ledger z (es₁ ++ [e])).dropped = (ledger z es₁).dropped ∨
        ∃ msg n, PlainAdd e msg ∧
          Drops (ledger z es₁) (ledger z (es₁ ++ [e])) t.queue.current msg n) ∧
    (∀ half, s.returned.getLast? = some half → s.queue.get = half) := by
  have h := ledger_refines hrun
  refine ⟨⟨h.accounts.taken_eq, h.accounts.queue_eq⟩, h.accounts.sound.sorted, h.accounts.sound.perm,
    ?_, h.last⟩
  rintro es₁ e es₂ t rfl ht
  obtain ⟨t', ht', hrest⟩ := run_append.mp hrun
  obtain rfl := Option.some.inj (ht.symm.trans ht')
  obtain ⟨u, hu, -⟩ := run_cons.mp hrest
  have hledger : ledger z (es₁ ++ [e]) = record z (ledger z es₁) e := by simp [ledger]
  rw [hledger]
  exact record_dropped (ledger_refines ht) hu

def samplePackage (id : UInt16) : HXMessagePackage :=
  HXMessagePackage.filled LinkID.zero id 0 [] (Nat.zero_le _)

theorem run_queue_swapped : ∃ s, run (step .refusing) start
      [.add (samplePackage 1000), .swap, .add (samplePackage 1001)] = some s ∧
    s.queue.get = [samplePackage 1000] := by
  have hrun : ∃ s, run (step .refusing) start
      [.add (samplePackage 1000), .swap, .add (samplePackage 1001)] = some s ∧
      s.returned = [[samplePackage 1000]] := ⟨_, rfl, rfl⟩
  obtain ⟨s, hrun, hreturned⟩ := hrun
  refine ⟨s, hrun, (run_queue hrun).2.2.2.2 _ ?_⟩
  rw [hreturned]
  rfl

end Runs
end DoubleQueue
end HXService
