import Mathlib.Tactic

/-! Runs of a machine given by a step function that may refuse an event, and
the rules by which a fact about one step becomes a fact about every run. -/

namespace Runs
variable {σ ε : Type*} (step : σ → ε → Option σ)

/-- The state after the events `es`, when none of them is refused. -/
def run : σ → List ε → Option σ
  | s, [] => some s
  | s, e :: es => (step s e).bind (run · es)

/-- `P` holds of every step of the run of `es` from `s`: of the state before
the step and the event. The run ends where an event is refused. -/
def Along (P : σ → ε → Prop) : σ → List ε → Prop
  | _, [] => True
  | s, e :: es => P s e ∧ ∀ s', step s e = some s' → Along P s' es

instance decidableAlong {P : σ → ε → Prop} [∀ s e, Decidable (P s e)] :
    ∀ s es, Decidable (Along step P s es)
  | _, [] => isTrue trivial
  | s, e :: es =>
    match hstep : step s e with
    | none => decidable_of_iff (P s e) ⟨fun h => ⟨h, by simp [hstep]⟩, And.left⟩
    | some t =>
      have : Decidable (Along step P t es) := decidableAlong t es
      decidable_of_iff (P s e ∧ Along step P t es) (by simp [Along, hstep])

variable {step}

theorem run_cons {s s' : σ} {e : ε} {es : List ε} :
    run step s (e :: es) = some s' ↔ ∃ t, step s e = some t ∧ run step t es = some s' := by
  rw [run, Option.bind_eq_some_iff]

theorem run_append {s s' : σ} {es fs : List ε} :
    run step s (es ++ fs) = some s' ↔ ∃ t, run step s es = some t ∧ run step t fs = some s' := by
  induction es generalizing s with
  | nil => simp only [List.nil_append, run, Option.some.injEq, exists_eq_left']
  | cons e es ih =>
    simp only [List.cons_append, run_cons, ih]
    constructor
    · rintro ⟨t, ht, u, hu, hs⟩
      exact ⟨u, ⟨t, ht, hu⟩, hs⟩
    · rintro ⟨u, ⟨t, ht, hu⟩, hs⟩
      exact ⟨t, ht, u, hu, hs⟩

theorem run_invariant {I : σ → Prop} (hstep : ∀ s e s', I s → step s e = some s' → I s')
    {s s' : σ} {es : List ε} (hrun : run step s es = some s') (hs : I s) : I s' := by
  induction es generalizing s with
  | nil =>
    rw [run, Option.some.injEq] at hrun
    exact hrun ▸ hs
  | cons e es ih =>
    obtain ⟨t, ht, hrun⟩ := run_cons.mp hrun
    exact ih hrun (hstep s e t hs ht)

theorem along_of_forall {C : ε → Prop} {s : σ} {es : List ε} (h : ∀ e ∈ es, C e) :
    Along step (fun _ e => C e) s es := by
  induction es generalizing s with
  | nil => trivial
  | cons e es ih =>
    exact ⟨h e List.mem_cons_self, fun t _ => ih fun e' he' => h e' (List.mem_cons_of_mem _ he')⟩

theorem Along.append {P : σ → ε → Prop} {s t : σ} {es fs : List ε} (h : Along step P s (es ++ fs))
    (hrun : run step s es = some t) : Along step P t fs := by
  induction es generalizing s with
  | nil =>
    rw [run, Option.some.injEq] at hrun
    exact hrun ▸ h
  | cons e es ih =>
    obtain ⟨u, hu, hrun⟩ := run_cons.mp hrun
    exact ih (h.2 u hu) hrun

theorem along_and_iff {P Q : σ → ε → Prop} {s : σ} {es : List ε} :
    Along step (fun s e => P s e ∧ Q s e) s es ↔ Along step P s es ∧ Along step Q s es := by
  induction es generalizing s with
  | nil => exact (and_self_iff).symm
  | cons e es ih =>
    constructor
    · rintro ⟨⟨hP, hQ⟩, hrest⟩
      exact ⟨⟨hP, fun t ht => (ih.mp (hrest t ht)).1⟩, ⟨hQ, fun t ht => (ih.mp (hrest t ht)).2⟩⟩
    · rintro ⟨⟨hP, hPrest⟩, ⟨hQ, hQrest⟩⟩
      exact ⟨⟨hP, hQ⟩, fun t ht => ih.mpr ⟨hPrest t ht, hQrest t ht⟩⟩

theorem Along.and {P Q : σ → ε → Prop} {s : σ} {es : List ε} (hP : Along step P s es)
    (hQ : Along step Q s es) : Along step (fun s e => P s e ∧ Q s e) s es := along_and_iff.mpr ⟨hP, hQ⟩

/-- Steps that meet `C` in a state satisfying `I` satisfy `P` and lead to `I`
again: then a run whose steps all meet `C` satisfies `P` throughout. -/
theorem along_of_invariant {I : σ → Prop} {C P : σ → ε → Prop}
    (hP : ∀ s e, I s → C s e → P s e)
    (hI : ∀ s e s', I s → C s e → step s e = some s' → I s')
    {s : σ} {es : List ε} (hs : I s) (h : Along step C s es) : Along step P s es := by
  induction es generalizing s with
  | nil => trivial
  | cons e es ih =>
    exact ⟨hP s e hs h.1, fun t ht => ih (hI s e t hs h.1 ht) (h.2 t ht)⟩

theorem along_of_inv {I : σ → Prop} {P : σ → ε → Prop} (hP : ∀ s e, I s → P s e)
    (hI : ∀ s e s', I s → step s e = some s' → I s') {s : σ} {es : List ε} (hs : I s) :
    Along step P s es := by
  induction es generalizing s with
  | nil => trivial
  | cons e es ih => exact ⟨hP s e hs, fun t ht => ih (hI s e t hs ht)⟩

theorem run_invariant_along {I : σ → Prop} {C : σ → ε → Prop}
    (hI : ∀ s e s', I s → C s e → step s e = some s' → I s')
    {s s' : σ} {es : List ε} (h : Along step C s es) (hrun : run step s es = some s')
    (hs : I s) : I s' := by
  induction es generalizing s with
  | nil =>
    rw [run, Option.some.injEq] at hrun
    exact hrun ▸ hs
  | cons e es ih =>
    obtain ⟨t, ht, hrun⟩ := run_cons.mp hrun
    exact ih (h.2 t ht) hrun (hI s e t hs h.1 ht)

theorem run_establishes {I J : σ → Prop} {C : σ → ε → Prop} {e : ε}
    (hI : ∀ s e s', I s → C s e → step s e = some s' → I s')
    (hJ : ∀ s e s', I s → J s → C s e → step s e = some s' → J s')
    (he : ∀ s s', I s → C s e → step s e = some s' → J s')
    {s s' : σ} {es : List ε} (hmem : e ∈ es) (h : Along step C s es) (hrun : run step s es = some s')
    (hs : I s) : J s' := by
  induction es generalizing s with
  | nil => cases hmem
  | cons f es ih =>
    obtain ⟨t, ht, hrest⟩ := run_cons.mp hrun
    have hIt : I t := hI s f t hs h.1 ht
    rcases List.mem_cons.mp hmem with rfl | hmem
    · have hboth : ∀ s f s', I s ∧ J s → C s f → step s f = some s' → I s' ∧ J s' :=
        fun s f s' hs hC hstep => ⟨hI s f s' hs.1 hC hstep, hJ s f s' hs.1 hs.2 hC hstep⟩
      exact (run_invariant_along hboth (h.2 t ht) hrest ⟨hIt, he s t hs h.1 ht⟩).2
    · exact ih hmem (h.2 t ht) hrest hIt

/-- Where some steps can always be taken towards a goal, by a measure that falls,
a run reaches it. -/
theorem exists_run_of_measure {I G : σ → Prop} (μ : σ → Nat)
    (h : ∀ s, I s → ¬G s → ∃ es s', run step s es = some s' ∧ I s' ∧ μ s' < μ s) {s : σ} (hs : I s) :
    ∃ es s', run step s es = some s' ∧ I s' ∧ G s' := by
  induction hn : μ s using Nat.strong_induction_on generalizing s with
  | _ n ih =>
    by_cases hgoal : G s
    · exact ⟨[], s, rfl, hs, hgoal⟩
    · obtain ⟨es, t, hrun, ht, hless⟩ := h s hs hgoal
      obtain ⟨fs, u, hrun', hu, hgoal'⟩ := ih (μ t) (hn ▸ hless) ht rfl
      exact ⟨es ++ fs, u, run_append.mpr ⟨t, hrun, hrun'⟩, hu, hgoal'⟩

/-- Where `C` decides `P` step by step under an invariant of the steps that meet it,
it decides it over runs. -/
theorem along_iff_of_kept {I : σ → Prop} {C P : σ → ε → Prop} (h : ∀ s e, I s → (P s e ↔ C s e))
    (hI : ∀ s e s', I s → C s e → step s e = some s' → I s')
    {s : σ} {es : List ε} (hs : I s) : Along step P s es ↔ Along step C s es := by
  induction es generalizing s with
  | nil => exact Iff.rfl
  | cons e es ih =>
    constructor
    · rintro ⟨hP, hrest⟩
      have hmeets := (h s e hs).mp hP
      exact ⟨hmeets, fun t ht => (ih (hI s e t hs hmeets ht)).mp (hrest t ht)⟩
    · rintro ⟨hmeets, hrest⟩
      exact ⟨(h s e hs).mpr hmeets, fun t ht => (ih (hI s e t hs hmeets ht)).mpr (hrest t ht)⟩

theorem along_iff {I : σ → Prop} {C P : σ → ε → Prop} (h : ∀ s e, I s → (P s e ↔ C s e))
    (hI : ∀ s e s', I s → step s e = some s' → I s')
    {s : σ} {es : List ε} (hs : I s) : Along step P s es ↔ Along step C s es :=
  along_iff_of_kept h (fun s e s' hinv _ => hI s e s' hinv) hs

theorem rel_left {α β : Type*} {R : α → β → Prop} {a : α} {y : Option β}
    (h : Option.Rel R (some a) y) : ∃ b, y = some b ∧ R a b :=
  match h with
  | .some hab => ⟨_, rfl, hab⟩

theorem rel_right {α β : Type*} {R : α → β → Prop} {x : Option α} {b : β}
    (h : Option.Rel R x (some b)) : ∃ a, x = some a ∧ R a b :=
  match h with
  | .some hab => ⟨_, rfl, hab⟩

/-- Two machines whose related states accept the same events and stay related:
what the first satisfies step by step, the second satisfies in its own terms. -/
theorem Along.transfer {τ : Type*} {stepT : τ → ε → Option τ} {R : σ → τ → Prop}
    {P : σ → ε → Prop} {C : τ → ε → Prop} (hPC : ∀ s t e, R s t → P s e → C t e)
    (hR : ∀ s t e t', R s t → stepT t e = some t' → ∃ s', step s e = some s' ∧ R s' t')
    {s : σ} {t : τ} {es : List ε} (hst : R s t) (h : Along step P s es) : Along stepT C t es := by
  induction es generalizing s t with
  | nil => trivial
  | cons e es ih =>
    refine ⟨hPC s t e hst h.1, ?_⟩
    intro t' ht'
    obtain ⟨s', hs', hst'⟩ := hR s t e t' hst ht'
    exact ih hst' (h.2 s' hs')

/-- Two machines that accept or refuse each event together and stay related. -/
theorem run_rel {τ : Type*} {stepT : τ → ε → Option τ} {R : σ → τ → Prop} {C : σ → ε → Prop}
    (hR : ∀ s t e, R s t → C s e → Option.Rel R (step s e) (stepT t e))
    {s : σ} {t : τ} {es : List ε} (hst : R s t) (h : Along step C s es) :
    Option.Rel R (run step s es) (run stepT t es) := by
  induction es generalizing s t with
  | nil => exact .some hst
  | cons e es ih =>
    have hnext := hR s t e hst h.1
    unfold run
    cases hs : step s e with
    | none =>
      rw [hs] at hnext
      cases ht : stepT t e with
      | none => exact .none
      | some t' =>
        rw [ht] at hnext
        cases hnext
    | some s' =>
      rw [hs] at hnext
      obtain ⟨t', ht, hst'⟩ := rel_left hnext
      rw [ht]
      exact ih hst' (h.2 s' hs)

variable (step) in
/-- `P` holds in every state of the run of `es` from `s`. -/
def Always (P : σ → Prop) : σ → List ε → Prop
  | s, [] => P s
  | s, e :: es => P s ∧ ∀ s', step s e = some s' → Always P s' es

section Always
variable {P : σ → Prop} {C : σ → ε → Prop} {s t : σ} {es fs : List ε}

theorem Always.head (h : Always step P s es) : P s := by
  cases es with
  | nil => exact h
  | cons e es => exact h.1

theorem Always.reach (h : Always step P s (es ++ fs)) (hrun : run step s es = some t) : P t := by
  induction es generalizing s with
  | nil =>
    rw [run, Option.some.injEq] at hrun
    exact hrun ▸ h.head
  | cons e es ih =>
    obtain ⟨u, hu, hrun⟩ := run_cons.mp hrun
    exact ih (h.2 u hu) hrun

theorem always_iff_reach : Always step P s es ↔
    ∀ fs gs t, es = fs ++ gs → run step s fs = some t → P t := by
  constructor
  · rintro h fs gs t rfl hrun
    exact h.reach hrun
  · intro h
    induction es generalizing s with
    | nil => exact h [] [] s rfl rfl
    | cons e es ih =>
      refine ⟨h [] (e :: es) s rfl rfl, fun u hu => ih fun fs gs t hes hrun => ?_⟩
      exact h (e :: fs) gs t (by rw [hes, List.cons_append]) (run_cons.mpr ⟨u, hu, hrun⟩)

theorem always_iff_along_next :
    Always step P s es ↔ P s ∧ Along step (fun s e => ∀ s', step s e = some s' → P s') s es := by
  induction es generalizing s with
  | nil => exact (and_iff_left trivial).symm
  | cons e es ih =>
    refine and_congr_right fun _ => ?_
    show (∀ s', step s e = some s' → Always step P s' es) ↔ _
    simp only [ih]
    exact forall₂_and

theorem always_of_invariant {I : σ → Prop} (hP : ∀ s, I s → P s)
    (hI : ∀ s e s', I s → step s e = some s' → I s') (hs : I s) : Always step P s es :=
  always_iff_reach.mpr fun _ _ t _ hrun => hP t (run_invariant hI hrun hs)

theorem always_of_along {I : σ → Prop} (hP : ∀ s, I s → P s)
    (hI : ∀ s e s', I s → C s e → step s e = some s' → I s') (hs : I s) (h : Along step C s es) :
    Always step P s es := by
  induction es generalizing s with
  | nil => exact hP s hs
  | cons e es ih => exact ⟨hP s hs, fun t ht => ih (hI s e t hs h.1 ht) (h.2 t ht)⟩

/-- Steps that meet `C` keep `I`, and `I` gives `P`; a step that does not meet `C`
leaves `P`. Then a run stays in `P` exactly when all its steps meet `C`. -/
theorem always_iff_along {I : σ → Prop} (hP : ∀ s, I s → P s)
    (hI : ∀ s e s', I s → C s e → step s e = some s' → I s')
    (hC : ∀ s e, I s → (∀ s', step s e = some s' → P s') → C s e) (hs : I s) :
    Always step P s es ↔ Along step C s es := by
  refine ⟨fun h => ?_, always_of_along hP hI hs⟩
  induction es generalizing s with
  | nil => trivial
  | cons e es ih =>
    have hmeets := hC s e hs fun t ht => (h.2 t ht).head
    exact ⟨hmeets, fun t ht => ih (hI s e t hs hmeets ht) (h.2 t ht)⟩

end Always

end Runs
