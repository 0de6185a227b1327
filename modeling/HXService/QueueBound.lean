import HXService.DoubleQueue

/-! How long the halves of the double queue get when nobody swaps them. -/

namespace HXService
open Runs

namespace QueueBound
open HXMessageQueueAB DoubleQueue

/-- Each half holds fewer than `m_queueMax` entries. -/
def Bounded (q : HXMessageQueueAB) : Prop := ∀ i, (q.mQueue i).length < queueMax

def HasRoom (z : Zlib) (s : State) : Event → Prop
  | .addWith msg bigData => CompletesBig z msg bigData → s.queue.current.length + 1 < queueMax
  | _ => True

section Calls
variable {z : Zlib} {q : HXMessageQueueAB} {half : List HXMessagePackage}
variable {msg : HXMessagePackage} {bigData : HXBigMessageQueue}

theorem length_bounded (h : half.length < queueMax) : (bounded half msg).length < queueMax := by
  unfold bounded
  split_ifs with hfull
  · simpa using h
  · exact not_le.mp hfull

theorem Bounded.setCurrent (h : Bounded q) (hhalf : half.length < queueMax) :
    Bounded (q.setCurrent half) := by
  intro i
  unfold HXMessageQueueAB.setCurrent
  by_cases hi : i = q.mCurrent
  · subst hi
    simpa using hhalf
  · simpa [hi] using h i

theorem Bounded.add (h : Bounded q) (msg : HXMessagePackage) : Bounded (q.add msg) :=
  h.setCurrent (length_bounded (h q.mCurrent))

theorem Bounded.swap (h : Bounded q) : Bounded q.swap.1 := by
  intro i
  unfold HXMessageQueueAB.swap
  by_cases hi : i = q.mCurrent + 1
  · subst hi
    simp [queueMax]
  · simpa [hi] using h i

theorem bounded_new : Bounded HXMessageQueueAB.new := by
  intro i
  simp [HXMessageQueueAB.new, queueMax]

theorem step_completes {s s' : State} (hdone : CompletesBig z msg bigData)
    (hstep : step z s (.addWith msg bigData) = some s') :
    ∃ entry, s'.queue = s.queue.setCurrent (s.queue.current ++ [entry]) := by
  have hbig : isBigStream msg.header.id := isBigStream_of_recvPackage hdone.choose_spec.1
  obtain ⟨entry, b, hentry⟩ := (appended_iff hbig).mpr hdone
  obtain ⟨entry', b', hentry', rfl⟩ := step_addWith hstep
  obtain rfl : some entry = entry' := congrArg Prod.fst (Except.ok.inj (hentry.symm.trans hentry'))
  exact ⟨entry, by simp [pushOption, push, hbig]⟩

theorem step_others {s s' : State} (hdone : ¬CompletesBig z msg bigData)
    (hstep : step z s (.addWith msg bigData) = some s') :
    s'.queue = s.queue ∨ ∃ entry, s'.queue = s.queue.add entry := by
  obtain ⟨entry, b, hentry, rfl⟩ := step_addWith hstep
  cases entry with
  | none => exact Or.inl rfl
  | some entry =>
    have hplain : ¬isBigStream msg.header.id := fun hbig => hdone ((appended_iff hbig).mp ⟨_, _, hentry⟩)
    exact Or.inr ⟨entry, by simp [pushOption, push, hplain]⟩

end Calls

section Runs
variable {z : Zlib} {s s' : State} {e : Event}

theorem step_bounded (h : Bounded s.queue) (hroom : HasRoom z s e) (hstep : step z s e = some s') :
    Bounded s'.queue := by
  cases e with
  | add msg =>
    obtain rfl := Option.some.inj hstep
    exact h.add msg
  | addWith msg bigData =>
    by_cases hdone : CompletesBig z msg bigData
    · obtain ⟨entry, hqueue⟩ := step_completes hdone hstep
      rw [hqueue]
      apply h.setCurrent
      simpa using hroom hdone
    · rcases step_others hdone hstep with hqueue | ⟨entry, hqueue⟩
      · rwa [hqueue]
      · rw [hqueue]
        exact h.add entry
  | swap =>
    obtain rfl := Option.some.inj hstep
    exact h.swap

theorem exists_step_completes {msg : HXMessagePackage} {bigData : HXBigMessageQueue}
    (hdone : CompletesBig z msg bigData) : ∃ s', step z s (.addWith msg bigData) = some s' := by
  have hbig : isBigStream msg.header.id := isBigStream_of_recvPackage hdone.choose_spec.1
  obtain ⟨entry, b, hentry⟩ := (appended_iff hbig).mpr hdone
  show ∃ s', ((addWith z s.queue msg bigData).toOption.bind fun r =>
    some { s with queue := r.1 }) = some s'
  rw [addWith_eq, hentry]
  exact ⟨_, rfl⟩

/-- Both halves stay below `m_queueMax` in exactly the runs in which every package
that completes a big message finds room for one more entry. -/
theorem bounded_iff (z : Zlib) (es : List Event) :
    Always (step z) (fun s => Bounded s.queue) start es ↔ Along (step z) (HasRoom z) start es := by
  apply @always_iff_along _ _ _ _ _ _ _ fun s : State => Bounded s.queue
  · exact fun s h => h
  · intro s e s' h hroom hstep
    exact step_bounded h hroom hstep
  · intro s e h hnext
    cases e with
    | add msg => trivial
    | addWith msg bigData =>
      intro hdone
      obtain ⟨s', hstep⟩ := exists_step_completes hdone
      obtain ⟨entry, hqueue⟩ := step_completes hdone hstep
      have hshort := hnext s' hstep s'.queue.mCurrent
      have hcurrent : (s'.queue.mQueue s'.queue.mCurrent).length = s.queue.current.length + 1 := by
        show s'.queue.current.length = _
        rw [hqueue, current_setCurrent, List.length_append, List.length_singleton]
      rwa [hcurrent] at hshort
    | swap => trivial
  · exact bounded_new

end Runs

def emptyEnd : HXMessagePackage := HXMessagePackage.filled LinkID.zero idBigStreamEnd 0 [] (Nat.zero_le _)

def emptyReceiver : HXBigMessageQueue := HXBigMessageQueue.new ⟨0, 0, 0, 0, 0, 0, 0⟩

theorem completes_emptyEnd (z : Zlib) : CompletesBig z emptyEnd emptyReceiver := by
  refine ⟨emptyReceiver, ?_, Or.inl rfl⟩
  rw [HXBigMessageQueue.recvPackage_end rfl rfl]
  rfl

theorem run_unbounded (z : Zlib) (s : State) (n : Nat) :
    ∃ s', run (step z) s (List.replicate n (.addWith emptyEnd emptyReceiver)) = some s' ∧
      s'.queue.current.length = s.queue.current.length + n := by
  induction n generalizing s with
  | zero => exact ⟨s, rfl, rfl⟩
  | succ n ih =>
    obtain ⟨t, ht⟩ := @exists_step_completes z s _ _ (completes_emptyEnd z)
    obtain ⟨entry, hqueue⟩ := step_completes (completes_emptyEnd z) ht
    obtain ⟨s', hrun, hlength⟩ := ih t
    refine ⟨s', run_cons.mpr ⟨t, ht, hrun⟩, ?_⟩
    rw [hlength, hqueue, current_setCurrent, List.length_append, List.length_singleton]
    omega

/-- After `m_queueMax` big messages without a swap the half holds as many entries. -/
theorem not_bounded : ¬Always (step .refusing) (fun s => Bounded s.queue) start
    (List.replicate queueMax (.addWith emptyEnd emptyReceiver)) := by
  intro h
  obtain ⟨s, hrun, hlength⟩ := run_unbounded .refusing start queueMax
  have hshort := always_iff_reach.mp h _ [] s (List.append_nil _).symm hrun s.queue.mCurrent
  change s.queue.current.length < queueMax at hshort
  rw [hlength] at hshort
  exact absurd hshort (by simp)

end QueueBound
end HXService
