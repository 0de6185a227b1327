import HXService.Lib.Runs

/-! What the steps of a run put down, one after the other, and queues that some
steps fill and others empty. -/

namespace Runs
variable {σ ε α β : Type*} (step : σ → ε → Option σ)

/-- The records `f` of the steps of a run. -/
def collect (f : σ → ε → List α) : σ → List ε → List α
  | _, [] => []
  | s, e :: es =>
    match step s e with
    | none => []
    | some s' => f s e ++ collect f s' es

variable {step} {f g : σ → ε → List α} {s s' t : σ} {e : ε} {es : List ε}

theorem collect_cons (h : step s e = some s') :
    collect step f s (e :: es) = f s e ++ collect step f s' es := by
  rw [collect, h]

theorem collect_flatMap (k : α → List β) :
    (collect step f s es).flatMap k = collect step (fun s e => (f s e).flatMap k) s es := by
  induction es generalizing s with
  | nil => rfl
  | cons e es ih =>
    unfold collect
    cases step s e with
    | none => rfl
    | some s' =>
      show (f s e ++ collect step f s' es).flatMap k = _
      rw [List.flatMap_append, ih]

theorem collect_map (k : α → β) :
    (collect step f s es).map k = collect step (fun s e => (f s e).map k) s es := by
  simp only [List.map_eq_flatMap, collect_flatMap]

theorem collect_filterMap (k : α → Option β) :
    (collect step f s es).filterMap k = collect step (fun s e => (f s e).filterMap k) s es := by
  induction es generalizing s with
  | nil => rfl
  | cons e es ih =>
    unfold collect
    cases step s e with
    | none => rfl
    | some s' =>
      show (f s e ++ collect step f s' es).filterMap k = _
      rw [List.filterMap_append, ih]

section Along
variable {I : σ → Prop} {C : σ → ε → Prop}

theorem collect_congr (hI : ∀ s e s', I s → C s e → step s e = some s' → I s')
    (h : ∀ s e s', I s → C s e → step s e = some s' → f s e = g s e)
    (hs : I s) (hC : Along step C s es) : collect step f s es = collect step g s es := by
  induction es generalizing s with
  | nil => rfl
  | cons e es ih =>
    unfold collect
    cases hstep : step s e with
    | none => rfl
    | some s' =>
      show f s e ++ collect step f s' es = g s e ++ collect step g s' es
      rw [h s e s' hs hC.1 hstep, ih (hI s e s' hs hC.1 hstep) (hC.2 s' hstep)]

/-- A queue with what has been put in at one end is what has been taken out at the
other and the queue as it is now. -/
theorem collect_queue {q : σ → List α} (hI : ∀ s e s', I s → C s e → step s e = some s' → I s')
    (h : ∀ s e s', I s → C s e → step s e = some s' → q s ++ f s e = g s e ++ q s')
    (hs : I s) (hC : Along step C s es) (hrun : run step s es = some t) :
    q s ++ collect step f s es = collect step g s es ++ q t := by
  induction es generalizing s with
  | nil =>
    obtain rfl := Option.some.inj hrun
    exact List.append_nil _
  | cons e es ih =>
    obtain ⟨s', hstep, hrun⟩ := run_cons.mp hrun
    have hrest := ih (hI s e s' hs hC.1 hstep) (hC.2 s' hstep) hrun
    calc q s ++ collect step f s (e :: es)
        = q s ++ f s e ++ collect step f s' es := by rw [collect_cons hstep, List.append_assoc]
      _ = g s e ++ (q s' ++ collect step f s' es) := by
          rw [h s e s' hs hC.1 hstep, List.append_assoc]
      _ = collect step g s (e :: es) ++ q t := by
          rw [hrest, collect_cons hstep, List.append_assoc]

/-- A journal that the steps only append to. -/
theorem collect_journal {q : σ → List α} (hI : ∀ s e s', I s → C s e → step s e = some s' → I s')
    (h : ∀ s e s', I s → C s e → step s e = some s' → q s' = q s ++ f s e)
    (hs : I s) (hC : Along step C s es) (hrun : run step s es = some t) :
    q t = q s ++ collect step f s es := by
  induction es generalizing s with
  | nil =>
    obtain rfl := Option.some.inj hrun
    exact (List.append_nil _).symm
  | cons e es ih =>
    obtain ⟨s', hstep, hrun⟩ := run_cons.mp hrun
    rw [ih (hI s e s' hs hC.1 hstep) (hC.2 s' hstep) hrun, h s e s' hs hC.1 hstep,
      collect_cons hstep, List.append_assoc]

end Along
end Runs
