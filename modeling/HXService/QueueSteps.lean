import HXService.MsgQueue

/-! What one step of the bounded queue does to the items and to the threads that wait, and
when a thread gets through. -/

namespace HXService.MsgQueue
open Runs

variable {τ α : Type*} {maxSize : Int32} {s s' : State τ α} {e : Event τ α} {t : τ}
variable {x : α} {pick : Option τ}

/-- What a thread has called `put` with when it gets the lock. -/
def Puts (s : State τ α) : Event τ α → Option α
  | .put _ x _ => some x
  | .putAgain t _ => s.argument t
  | _ => none

def Gets : Event τ α → Prop
  | .get _ _ => True
  | .getAgain _ _ => True
  | _ => False

/-! ## The items -/

structure Still (s s' : State τ α) : Prop where
  queue : s'.queue.mQueue = s.queue.mQueue
  inserted : s'.inserted = s.inserted
  returned : s'.returned = s.returned

structure Appended (s s' : State τ α) (x : α) : Prop where
  queue : s'.queue.mQueue = s.queue.mQueue ++ [x]
  inserted : s'.inserted = s.inserted ++ [x]
  returned : s'.returned = s.returned

structure Taken (s s' : State τ α) (x : α) : Prop where
  queue : s.queue.mQueue = x :: s'.queue.mQueue
  inserted : s'.inserted = s.inserted
  returned : s'.returned = s.returned ++ [x]

theorem Still.not_taken (h : Still s s') : ¬Taken s s' x := by
  intro htaken
  have hlength := congrArg List.length (h.returned.symm.trans htaken.returned)
  rw [List.length_append] at hlength
  exact absurd hlength (Nat.ne_of_lt (Nat.lt_succ_self _))

theorem Still.not_appended (h : Still s s') : ¬Appended s s' x := by
  intro happended
  have hlength := congrArg List.length (h.inserted.symm.trans happended.inserted)
  rw [List.length_append] at hlength
  exact absurd hlength (Nat.ne_of_lt (Nat.lt_succ_self _))

theorem Appended.not_taken {y : α} (h : Appended s s' x) : ¬Taken s s' y := by
  intro htaken
  have hlength := congrArg List.length (h.returned.symm.trans htaken.returned)
  rw [List.length_append] at hlength
  exact absurd hlength (Nat.ne_of_lt (Nat.lt_succ_self _))

variable [DecidableEq τ]

/-! `put` and `get` with the lock: the thread waits, or it gets through. -/

theorem put_cases (h : s.put t x pick = some s') : s' = { s with notFull := s.notFull.wait t } ∨
    s.notEmpty.Picks pick ∧ s' = { s with
      queue := { s.queue with mQueue := s.queue.mQueue ++ [x] }
      notEmpty := s.notEmpty.notifyOne pick
      inserted := s.inserted ++ [x] } := by
  unfold State.put at h
  split_ifs at h with hfull hpick
  · exact Or.inl (Option.some.inj h).symm
  · exact Or.inr ⟨hpick, (Option.some.inj h).symm⟩

theorem get_cases (h : s.get t pick = some s') : s' = { s with notEmpty := s.notEmpty.wait t } ∨
    ∃ x rest, s.queue.mQueue = x :: rest ∧ s.notFull.Picks pick ∧ s' = { s with
      queue := { s.queue with mQueue := rest }
      notFull := s.notFull.notifyOne pick
      returned := s.returned ++ [x] } := by
  unfold State.get at h
  cases hqueue : s.queue.mQueue with
  | nil =>
    rw [hqueue] at h
    exact Or.inl (Option.some.inj h).symm
  | cons x rest =>
    rw [hqueue] at h
    dsimp only at h
    split_ifs at h with hpick
    exact Or.inr ⟨x, rest, rfl, hpick, (Option.some.inj h).symm⟩

theorem step_items (h : step s e = some s') :
    Still s s' ∨ (∃ x, Puts s e = some x ∧ Appended s s' x) ∨ Gets e ∧ ∃ x, Taken s s' x := by
  cases e with
  | put t x pick =>
    simp only [step] at h
    split_ifs at h
    rcases put_cases h with rfl | ⟨-, rfl⟩
    · exact Or.inl ⟨rfl, rfl, rfl⟩
    · exact Or.inr (Or.inl ⟨x, rfl, rfl, rfl, rfl⟩)
  | get t pick =>
    simp only [step] at h
    split_ifs at h
    rcases get_cases h with rfl | ⟨x, rest, hqueue, -, rfl⟩
    · exact Or.inl ⟨rfl, rfl, rfl⟩
    · exact Or.inr (Or.inr ⟨trivial, x, hqueue, rfl, rfl⟩)
  | putAgain t pick =>
    simp only [step] at h
    split_ifs at h
    obtain ⟨x, hx, h⟩ := Option.bind_eq_some_iff.mp h
    rcases put_cases h with rfl | ⟨-, rfl⟩
    · exact Or.inl ⟨rfl, rfl, rfl⟩
    · exact Or.inr (Or.inl ⟨x, hx, rfl, rfl, rfl⟩)
  | getAgain t pick =>
    simp only [step] at h
    split_ifs at h
    rcases get_cases h with rfl | ⟨x, rest, hqueue, -, rfl⟩
    · exact Or.inl ⟨rfl, rfl, rfl⟩
    · exact Or.inr (Or.inr ⟨trivial, x, hqueue, rfl, rfl⟩)
  | wakeProducer t =>
    simp only [step] at h
    split_ifs at h
    rw [← Option.some.inj h]
    exact Or.inl ⟨rfl, rfl, rfl⟩
  | wakeConsumer t =>
    simp only [step] at h
    split_ifs at h
    rw [← Option.some.inj h]
    exact Or.inl ⟨rfl, rfl, rfl⟩

/-! ## The waits -/

theorem step_waits (h : step s e = some s') :
    Condition.Move (fun t => ∃ x pick, e = .put t x pick) s.notFull s'.notFull ∧
    Condition.Move (fun t => ∃ pick, e = .get t pick) s.notEmpty s'.notEmpty := by
  cases e with
  | put t x pick =>
    simp only [step] at h
    split_ifs at h with hinside
    rcases put_cases h with rfl | ⟨hpick, rfl⟩
    · exact ⟨.wait _ t ⟨x, pick, rfl⟩ fun hin => hinside (Or.inl hin), .stay _⟩
    · exact ⟨.stay _, .notifyOne _ pick hpick⟩
  | get t pick =>
    simp only [step] at h
    split_ifs at h with hinside
    rcases get_cases h with rfl | ⟨x, rest, -, hpick, rfl⟩
    · exact ⟨.stay _, .wait _ t ⟨pick, rfl⟩ fun hin => hinside (Or.inr hin)⟩
    · exact ⟨.notifyOne _ pick hpick, .stay _⟩
  | putAgain t pick =>
    simp only [step] at h
    split_ifs at h with hreleased
    obtain ⟨x, -, h⟩ := Option.bind_eq_some_iff.mp h
    rcases put_cases h with rfl | ⟨hpick, rfl⟩
    · exact ⟨.again _ t hreleased, .stay _⟩
    · exact ⟨.leave _ t hreleased, .notifyOne _ pick hpick⟩
  | getAgain t pick =>
    simp only [step] at h
    split_ifs at h with hreleased
    rcases get_cases h with rfl | ⟨x, rest, -, hpick, rfl⟩
    · exact ⟨.stay _, .again _ t hreleased⟩
    · exact ⟨.notifyOne _ pick hpick, .leave _ t hreleased⟩
  | wakeProducer t =>
    simp only [step] at h
    split_ifs at h with ht
    rw [← Option.some.inj h]
    exact ⟨.wake _ t ht, .stay _⟩
  | wakeConsumer t =>
    simp only [step] at h
    split_ifs at h with ht
    rw [← Option.some.inj h]
    exact ⟨.stay _, .wake _ t ht⟩

theorem step_argument (h : step s e = some s') :
    (∀ t, s'.argument t = s.argument t ∨ ∃ x pick, e = .put t x pick) ∧
      ∀ t x pick, e = .put t x pick → s'.argument t = some x := by
  have hsame (hargument : s'.argument = s.argument) (hput : ∀ t x pick, e ≠ .put t x pick) :
      (∀ t, s'.argument t = s.argument t ∨ ∃ x pick, e = .put t x pick) ∧
        ∀ t x pick, e = .put t x pick → s'.argument t = some x :=
    ⟨fun t => Or.inl (congrFun hargument t), fun t x pick he => absurd he (hput t x pick)⟩
  cases e with
  | put t x pick =>
    simp only [step] at h
    split_ifs at h
    have hargument : s'.argument = Function.update s.argument t (some x) := by
      rcases put_cases h with rfl | ⟨-, rfl⟩ <;> rfl
    rw [hargument]
    constructor
    · intro t'
      by_cases ht : t' = t
      · subst ht
        exact Or.inr ⟨x, pick, rfl⟩
      · exact Or.inl (Function.update_of_ne ht ..)
    · rintro t' x' pick' ⟨⟩
      exact Function.update_self ..
  | get t pick =>
    simp only [step] at h
    split_ifs at h
    refine hsame ?_ (by rintro t x pick ⟨⟩)
    rcases get_cases h with rfl | ⟨x, rest, -, -, rfl⟩ <;> rfl
  | putAgain t pick =>
    simp only [step] at h
    split_ifs at h
    obtain ⟨x, -, h⟩ := Option.bind_eq_some_iff.mp h
    refine hsame ?_ (by rintro t x pick ⟨⟩)
    rcases put_cases h with rfl | ⟨-, rfl⟩ <;> rfl
  | getAgain t pick =>
    simp only [step] at h
    split_ifs at h
    refine hsame ?_ (by rintro t x pick ⟨⟩)
    rcases get_cases h with rfl | ⟨x, rest, -, -, rfl⟩ <;> rfl
  | wakeProducer t =>
    simp only [step] at h
    split_ifs at h
    exact hsame (by rw [← Option.some.inj h]) (by rintro t x pick ⟨⟩)
  | wakeConsumer t =>
    simp only [step] at h
    split_ifs at h
    exact hsame (by rw [← Option.some.inj h]) (by rintro t x pick ⟨⟩)

theorem taker_out (honly : s.notEmpty.Only t) (hget : ∀ t' pick, e = .get t' pick → t' = t)
    (h : step s e = some s') (htaken : Taken s s' x) : ¬s'.notEmpty.Inside t := by
  rcases step_items h with hstill | ⟨y, -, happended⟩ | ⟨hgets, -⟩
  · exact absurd htaken hstill.not_taken
  · exact absurd htaken happended.not_taken
  cases e with
  | get t' pick =>
    obtain rfl := hget t' pick rfl
    simp only [step] at h
    split_ifs at h with hinside
    rcases get_cases h with rfl | ⟨y, rest, -, -, rfl⟩
    · exact absurd htaken (Still.not_taken ⟨rfl, rfl, rfl⟩)
    · exact fun hin => hinside (Or.inr hin)
  | getAgain t' pick =>
    simp only [step] at h
    split_ifs at h with hreleased
    obtain rfl := honly.eq_of_inside (Or.inr hreleased)
    rcases get_cases h with rfl | ⟨y, rest, -, -, rfl⟩
    · exact absurd htaken (Still.not_taken ⟨rfl, rfl, rfl⟩)
    · exact honly.not_inside_leave hreleased
  | put t' y pick => cases hgets
  | putAgain t' pick => cases hgets
  | wakeProducer t' => cases hgets
  | wakeConsumer t' => cases hgets

theorem putter_out (honly : s.notFull.Only t) (hput : ∀ t' x pick, e = .put t' x pick → t' = t)
    (h : step s e = some s') (happended : Appended s s' x) : ¬s'.notFull.Inside t := by
  rcases step_items h with hstill | ⟨y, hputs, -⟩ | ⟨-, y, htaken⟩
  · exact absurd happended hstill.not_appended
  rotate_left
  · exact absurd htaken happended.not_taken
  cases e with
  | put t' y pick =>
    obtain rfl := hput t' y pick rfl
    simp only [step] at h
    split_ifs at h with hinside
    rcases put_cases h with rfl | ⟨-, rfl⟩
    · exact absurd happended (Still.not_appended ⟨rfl, rfl, rfl⟩)
    · exact fun hin => hinside (Or.inl hin)
  | putAgain t' pick =>
    simp only [step] at h
    split_ifs at h with hreleased
    obtain rfl := honly.eq_of_inside (Or.inr hreleased)
    obtain ⟨y, -, h⟩ := Option.bind_eq_some_iff.mp h
    rcases put_cases h with rfl | ⟨-, rfl⟩
    · exact absurd happended (Still.not_appended ⟨rfl, rfl, rfl⟩)
    · exact honly.not_inside_leave hreleased
  | get t' pick => cases hputs
  | getAgain t' pick => cases hputs
  | wakeProducer t' => cases hputs
  | wakeConsumer t' => cases hputs

/-! ## Getting through

A thread that is alone at its end of the queue does not wait for what is there, or it has
been notified. -/

theorem get_cons {rest : List α} (hqueue : s.queue.mQueue = x :: rest) (hpick : s.notFull.Picks pick) :
    s.get t pick = some { s with
      queue := { s.queue with mQueue := rest }
      notFull := s.notFull.notifyOne pick
      returned := s.returned ++ [x] } := by
  unfold State.get
  rw [hqueue]
  exact if_pos hpick

theorem put_room (hroom : ¬s.queue.IsFull) (hpick : s.notEmpty.Picks pick) :
    s.put t x pick = some { s with
      queue := { s.queue with mQueue := s.queue.mQueue ++ [x] }
      notEmpty := s.notEmpty.notifyOne pick
      inserted := s.inserted ++ [x] } := by
  unfold State.put
  rw [if_neg hroom]
  exact if_pos hpick

theorem exists_get (h : Inv maxSize s) (hmax : 1 ≤ maxSize.toInt) (honly : s.notEmpty.Only t)
    (hout : ¬s.notFull.Inside t) (hsome : s.queue.mQueue ≠ []) :
    ∃ e s' x, (∃ pick, e = .get t pick ∨ e = .getAgain t pick) ∧ step s e = some s' ∧ Taken s s' x := by
  obtain ⟨x, rest, hqueue⟩ := List.exists_cons_of_ne_nil hsome
  obtain ⟨pick, hpick⟩ := s.notFull.exists_picks
  by_cases hinside : s.notEmpty.Inside t
  · have hreleased : s.notEmpty.Released t := by
      refine hinside.resolve_left fun hwait => ?_
      refine (h.sound hmax).consumers (fun hnone => ?_) hsome (honly.notified_eq_zero hwait)
      rw [hnone] at hwait
      exact Multiset.notMem_zero t hwait
    exact ⟨.getAgain t pick, _, x, ⟨pick, Or.inr rfl⟩, (if_pos hreleased).trans (get_cons hqueue hpick),
      hqueue, rfl, rfl⟩
  · have hnot : ¬s.Inside t := fun hin => hin.elim hout hinside
    exact ⟨.get t pick, _, x, ⟨pick, Or.inl rfl⟩, (if_neg hnot).trans (get_cons hqueue hpick),
      hqueue, rfl, rfl⟩

theorem exists_put (h : Inv maxSize s) (hmax : 1 ≤ maxSize.toInt) (honly : s.notFull.Only t)
    (hout : ¬s.notEmpty.Inside t) (hroom : ¬s.queue.IsFull)
    (hargument : s.notFull.Inside t → s.argument t = some x) :
    ∃ e s', (∃ pick, e = .put t x pick ∨ e = .putAgain t pick) ∧ step s e = some s' ∧
      Appended s s' x := by
  obtain ⟨pick, hpick⟩ := s.notEmpty.exists_picks
  by_cases hinside : s.notFull.Inside t
  · have hreleased : s.notFull.Released t := by
      refine hinside.resolve_left fun hwait => ?_
      refine (h.sound hmax).producers (fun hnone => ?_) (fun hfull => hroom ?_)
        (honly.notified_eq_zero hwait)
      · rw [hnone] at hwait
        exact Multiset.notMem_zero t hwait
      · have hsize : (sizeT maxSize : Int) = maxSize.toInt := sizeT_of_nonneg (zero_le_one.trans hmax)
        show s.queue.mQueue.length = sizeT s.queue.mMaxSize
        rw [h.size]
        exact_mod_cast hfull.trans hsize.symm
    have hput := @put_room τ α { s with notFull := s.notFull.leave t } t x pick _ hroom hpick
    refine ⟨.putAgain t pick, _, ⟨pick, Or.inr rfl⟩, (if_pos hreleased).trans (Eq.trans ?_ hput),
      ⟨rfl, rfl, rfl⟩⟩
    rw [hargument hinside]
    rfl
  · have hnot : ¬s.Inside t := fun hin => hin.elim hinside hout
    have hput := @put_room τ α { s with argument := Function.update s.argument t (some x) } t x pick _
      hroom hpick
    exact ⟨.put t x pick, _, ⟨pick, Or.inl rfl⟩, (if_neg hnot).trans hput, ⟨rfl, rfl, rfl⟩⟩

end HXService.MsgQueue
