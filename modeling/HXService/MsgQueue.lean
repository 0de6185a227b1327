import HXService.Lib.Condition
import HXService.Lib.Runs
import HXService.Message

/-! The bounded queue between threads (`MsgQueue`): any number of them call `put` and
`get`. What a call does between taking the lock and waiting or returning is one step. -/

namespace HXService
open Runs

structure MsgQueue (α : Type*) where
  mQueue : List α
  mMaxSize : Int32

namespace MsgQueue
variable {α τ : Type*}

def new (maxSize : Int32) : MsgQueue α := ⟨[], maxSize⟩

-- `m_queue.size() == m_maxSize`, the `int` converted
def IsFull (q : MsgQueue α) : Prop := q.mQueue.length = sizeT q.mMaxSize

instance (q : MsgQueue α) : Decidable q.IsFull := inferInstanceAs (Decidable (_ = _))

/-! ## The threads

`argument` is what a thread that is inside `put` is to append. `inserted` and
`returned` are all items that have been appended and that `get` has returned. -/

structure State (τ α : Type*) where
  queue : MsgQueue α
  notEmpty : Condition τ
  notFull : Condition τ
  argument : τ → Option α
  inserted : List α
  returned : List α

def start (maxSize : Int32) : State τ α := ⟨new maxSize, .idle, .idle, fun _ => none, [], []⟩

/-- At most `maxSize` items; what `get` returned is what was appended first; nobody
waits for what is there unless a notified thread is on its way. -/
structure Sound (maxSize : Int32) (s : State τ α) : Prop where
  bounded : (s.queue.mQueue.length : Int) ≤ maxSize.toInt
  fifo : s.inserted = s.returned ++ s.queue.mQueue
  consumers : s.notEmpty.waiting ≠ 0 → s.queue.mQueue ≠ [] → s.notEmpty.notified ≠ 0
  producers : s.notFull.waiting ≠ 0 → (s.queue.mQueue.length : Int) ≠ maxSize.toInt →
    s.notFull.notified ≠ 0

/-! ## The invariant

`items` and `rooms` are how many items and free places the waiting threads can count
on: one less than there are while a released thread has the lock. -/

structure Holding (maxSize : Int32) (items rooms : Nat) (s : State τ α) : Prop where
  size : s.queue.mMaxSize = maxSize
  bounded : s.queue.mQueue.length ≤ sizeT maxSize
  fifo : s.inserted = s.returned ++ s.queue.mQueue
  consumers : s.notEmpty.Attended items
  producers : s.notFull.Attended rooms

def Inv (maxSize : Int32) (s : State τ α) : Prop :=
  Holding maxSize s.queue.mQueue.length (sizeT maxSize - s.queue.mQueue.length) s

variable {maxSize : Int32} {s s' : State τ α}

theorem inv_start : Inv maxSize (start maxSize : State τ α) :=
  ⟨rfl, Nat.zero_le _, rfl, Condition.attended_idle, Condition.attended_idle⟩

theorem Inv.sound (hmax : 1 ≤ maxSize.toInt) (h : Inv maxSize s) : Sound maxSize s := by
  have hsize : (sizeT maxSize : Int) = maxSize.toInt := sizeT_of_nonneg (zero_le_one.trans hmax)
  have hbounded : s.queue.mQueue.length ≤ sizeT maxSize := h.bounded
  refine ⟨?_, h.fifo, ?_, ?_⟩
  · rw [← hsize]
    exact_mod_cast hbounded
  · intro hwait hsome
    exact h.consumers.notified (List.length_pos_iff.mpr hsome) hwait
  · intro hwait hroom
    rw [← hsize] at hroom
    exact h.producers.notified (by omega) hwait

variable [DecidableEq τ]

/-- `put` with the lock held, from the test of its loop on: the thread waits, or it
appends, notifies `pick` and returns. -/
def State.put (s : State τ α) (t : τ) (x : α) (pick : Option τ) : Option (State τ α) :=
  if s.queue.IsFull then some { s with notFull := s.notFull.wait t }
  else if s.notEmpty.Picks pick then some { s with
    queue := { s.queue with mQueue := s.queue.mQueue ++ [x] }
    notEmpty := s.notEmpty.notifyOne pick
    inserted := s.inserted ++ [x] }
  else none

def State.get (s : State τ α) (t : τ) (pick : Option τ) : Option (State τ α) :=
  match s.queue.mQueue with
  | [] => some { s with notEmpty := s.notEmpty.wait t }
  | x :: rest =>
    if s.notFull.Picks pick then some { s with
      queue := { s.queue with mQueue := rest }
      notFull := s.notFull.notifyOne pick
      returned := s.returned ++ [x] }
    else none

inductive Event (τ α : Type*)
  | put (t : τ) (x : α) (pick : Option τ)
  | get (t : τ) (pick : Option τ)
  | putAgain (t : τ) (pick : Option τ)
  | getAgain (t : τ) (pick : Option τ)
  | wakeProducer (t : τ)
  | wakeConsumer (t : τ)

def State.Inside (s : State τ α) (t : τ) : Prop := s.notFull.Inside t ∨ s.notEmpty.Inside t

instance (s : State τ α) (t : τ) : Decidable (s.Inside t) := inferInstanceAs (Decidable (_ ∨ _))

def step (s : State τ α) : Event τ α → Option (State τ α)
  | .put t x pick =>
    if s.Inside t then none
    else State.put { s with argument := Function.update s.argument t (some x) } t x pick
  | .get t pick => if s.Inside t then none else s.get t pick
  | .putAgain t pick =>
    if s.notFull.Released t then
      (s.argument t).bind fun x => State.put { s with notFull := s.notFull.leave t } t x pick
    else none
  | .getAgain t pick =>
    if s.notEmpty.Released t then State.get { s with notEmpty := s.notEmpty.leave t } t pick else none
  | .wakeProducer t =>
    if t ∈ s.notFull.waiting then some { s with notFull := s.notFull.wake t } else none
  | .wakeConsumer t =>
    if t ∈ s.notEmpty.waiting then some { s with notEmpty := s.notEmpty.wake t } else none

variable {t : τ} {x : α} {pick : Option τ}

theorem Holding.put (h : Holding maxSize s.queue.mQueue.length
      (sizeT maxSize - s.queue.mQueue.length - 1) s) (hput : s.put t x pick = some s') :
    Inv maxSize s' := by
  unfold State.put at hput
  split_ifs at hput with hfull hpick
  · have hfull : s.queue.mQueue.length = sizeT maxSize := h.size ▸ hfull
    rw [← Option.some.inj hput]
    refine ⟨h.size, h.bounded, h.fifo, h.consumers, ?_⟩
    show (s.notFull.wait t).Attended (sizeT maxSize - s.queue.mQueue.length)
    rw [hfull, Nat.sub_self]
    exact Condition.attended_zero
  · have hroom : s.queue.mQueue.length ≠ sizeT maxSize := fun hequal =>
      hfull (hequal.trans (congrArg sizeT h.size.symm))
    rw [← Option.some.inj hput]
    have hlength : (s.queue.mQueue ++ [x]).length = s.queue.mQueue.length + 1 := List.length_append
    refine ⟨h.size, ?_, ?_, ?_, ?_⟩
    · show (s.queue.mQueue ++ [x]).length ≤ sizeT maxSize
      rw [hlength]
      exact lt_of_le_of_ne h.bounded hroom
    · show s.inserted ++ [x] = s.returned ++ (s.queue.mQueue ++ [x])
      rw [h.fifo, List.append_assoc]
    · show (s.notEmpty.notifyOne pick).Attended (s.queue.mQueue ++ [x]).length
      rw [hlength]
      exact h.consumers.notifyOne hpick
    · show s.notFull.Attended (sizeT maxSize - (s.queue.mQueue ++ [x]).length)
      rw [hlength, Nat.sub_add_eq]
      exact h.producers

theorem Holding.get (h : Holding maxSize (s.queue.mQueue.length - 1)
      (sizeT maxSize - s.queue.mQueue.length) s) (hget : s.get t pick = some s') : Inv maxSize s' := by
  have hbounded := h.bounded
  have hfifo := h.fifo
  have hconsumers := h.consumers
  have hproducers := h.producers
  unfold State.get at hget
  cases hqueue : s.queue.mQueue with
  | nil =>
    rw [hqueue] at hget
    rw [← Option.some.inj hget]
    refine ⟨h.size, hbounded, hfifo, ?_, hproducers⟩
    show (s.notEmpty.wait t).Attended s.queue.mQueue.length
    rw [hqueue]
    exact Condition.attended_zero
  | cons y rest =>
    rw [hqueue] at hget
    dsimp only at hget
    split_ifs at hget with hpick
    rw [← Option.some.inj hget]
    rw [hqueue, List.length_cons] at hbounded hproducers hconsumers
    refine ⟨h.size, Nat.le_of_succ_le hbounded, ?_, hconsumers, ?_⟩
    · show s.inserted = s.returned ++ [y] ++ rest
      rw [hfifo, hqueue, List.append_assoc, List.singleton_append]
    · show (s.notFull.notifyOne pick).Attended (sizeT maxSize - rest.length)
      have hroom : sizeT maxSize - rest.length = sizeT maxSize - (rest.length + 1) + 1 := by omega
      rw [hroom]
      exact hproducers.notifyOne hpick

theorem step_inv (s : State τ α) (e : Event τ α) (s' : State τ α) (h : Inv maxSize s)
    (hstep : step s e = some s') : Inv maxSize s' := by
  cases e with
  | put t x pick =>
    simp only [step] at hstep
    split_ifs at hstep
    refine Holding.put ?_ hstep
    exact ⟨h.size, h.bounded, h.fifo, h.consumers, h.producers.mono (Nat.sub_le _ _)⟩
  | get t pick =>
    simp only [step] at hstep
    split_ifs at hstep
    refine Holding.get ?_ hstep
    exact ⟨h.size, h.bounded, h.fifo, h.consumers.mono (Nat.sub_le _ _), h.producers⟩
  | putAgain t pick =>
    simp only [step] at hstep
    split_ifs at hstep
    obtain ⟨x, -, hput⟩ := Option.bind_eq_some_iff.mp hstep
    refine Holding.put ?_ hput
    exact ⟨h.size, h.bounded, h.fifo, h.consumers, h.producers.leave t⟩
  | getAgain t pick =>
    simp only [step] at hstep
    split_ifs at hstep
    refine Holding.get ?_ hstep
    exact ⟨h.size, h.bounded, h.fifo, h.consumers.leave t, h.producers⟩
  | wakeProducer t =>
    simp only [step] at hstep
    split_ifs at hstep
    rw [← Option.some.inj hstep]
    exact ⟨h.size, h.bounded, h.fifo, h.consumers, h.producers.wake t⟩
  | wakeConsumer t =>
    simp only [step] at hstep
    split_ifs at hstep
    rw [← Option.some.inj hstep]
    exact ⟨h.size, h.bounded, h.fifo, h.consumers.wake t, h.producers⟩

/-- In every state of every interleaving of the threads' calls, waits and wake-ups the
queue is sound. -/
theorem always_sound (hmax : 1 ≤ maxSize.toInt) (es : List (Event τ α)) :
    Always step (Sound maxSize) (start maxSize) es :=
  always_of_invariant (fun _ h => h.sound hmax) step_inv inv_start

def verifierSize : Int32 := 10000

/-- A consumer comes first, and is notified by the producer. -/
theorem always_sound_verifier : Always step (Sound verifierSize) (start verifierSize)
    [.get 0 none, .put 1 'a' (some 0), .getAgain 0 none] :=
  always_sound (by decide) _

end MsgQueue
end HXService
