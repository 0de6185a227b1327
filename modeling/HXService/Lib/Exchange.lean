import Mathlib.Tactic

/-! Parties that show each other, through a hub, what their members hold. A
party keeps quiet until it asks or is asked; from then on it offers what its
members hold whenever that changes. -/

namespace Exchange
variable {ι κ α : Type*}

/-- `asks` and `offers` are under way to the hub, `asked` and `offered` from it.
`handled` is what a party has been offered, `knows` what a member has been told. -/
structure State (ι κ α : Type*) where
  visible : ι → Prop
  holds : ι → κ → α → Prop
  asks : ι → Prop
  asked : ι → Prop
  offers : ι → α → Prop
  offered : ι → α → Prop
  handled : ι → α → Prop
  knows : ι → κ → α → Prop

/-! ## Steps

Each says what a step may change; the channels may hold several messages alike. -/

/-- Nothing that is under way is lost, and nothing is forgotten. -/
structure Grows (s s' : State ι κ α) : Prop where
  asks : ∀ a, s.asks a → s'.asks a
  offers : ∀ a x, s.offers a x → s'.offers a x
  offered : ∀ a x, s.offered a x → s'.offered a x
  handled : ∀ a x, s.handled a x → s'.handled a x
  knows : ∀ a p x, s.knows a p x → s'.knows a p x

/-- `a` offers everything its members hold from now on. -/
structure Publishes (a : ι) (s s' : State ι κ α) : Prop extends Grows s s' where
  visible : ∀ b, s'.visible b ↔ s.visible b ∨ b = a
  asked : ∀ b, b ≠ a → s.asked b → s'.asked b
  offering : ∀ p x, s'.holds a p x → s'.offers a x

/-- `a` publishes and asks the others; its members may have changed. -/
structure Announces (a : ι) (s s' : State ι κ α) : Prop extends Publishes a s s' where
  holds : ∀ b, b ≠ a → ∀ p x, s'.holds b p x → s.holds b p x
  asking : s'.asks a

/-- `a` publishes because it has been asked. -/
structure Answers (a : ι) (s s' : State ι κ α) : Prop extends Publishes a s s' where
  holds : ∀ b p x, s'.holds b p x → s.holds b p x
  was_asked : s.asked a

/-- `x` of `b` is on its way to the member `p` of `a`, is asked for, or is there. -/
def Owed (party : Set ι) (s : State ι κ α) (a b : ι) (p : κ) (x : α) : Prop :=
  (∃ c ∈ party, c ≠ b ∧ s.asks c) ∨ s.asked b ∨ s.offers b x ∨ s.offered a x ∨ s.knows a p x

/-- At a party that keeps quiet `p` holds something from now on. What the party has
been offered and others hold it has been told, or will be. -/
structure Enters (party : Set ι) (a : ι) (p : κ) (s s' : State ι κ α) : Prop extends Grows s s' where
  visible : ∀ b, s'.visible b ↔ s.visible b
  quiet : ¬s.visible a
  holds : ∀ b q x, s'.holds b q x → b = a ∧ q = p ∨ s.holds b q x
  asked : ∀ b, s.asked b → s'.asked b
  asks_of : ∀ b, s'.asks b → s.asks b
  asked_of : ∀ b, s'.asked b → s.asked b
  told : ∀ b ∈ party, b ≠ a → ∀ q x, s.holds b q x → s.handled a x → Owed party s a b p x

/-- What is under way goes on: a question to all others, an offer to all others
and from there to the members. -/
structure Moves (party : Set ι) (s s' : State ι κ α) : Prop where
  visible : ∀ b, s'.visible b ↔ s.visible b
  holds : ∀ b p x, s'.holds b p x → s.holds b p x
  asks : ∀ a, s.asks a → s'.asks a ∨ ∀ b ∈ party, b ≠ a → s'.asked b
  asked : ∀ b, s.asked b → s'.asked b
  offers : ∀ b x, s.offers b x → s'.offers b x ∨ ∀ a ∈ party, a ≠ b → s'.offered a x
  offered : ∀ a x, s.offered a x →
    s'.offered a x ∨ s'.handled a x ∧ ∀ p y, s.holds a p y → s'.knows a p x
  handled : ∀ a x, s.handled a x → s'.handled a x
  knows : ∀ a p x, s.knows a p x → s'.knows a p x
  asks_of : ∀ a, s'.asks a → s.asks a
  asked_of : ∀ b, s'.asked b → s.asked b ∨ ∃ a ∈ party, s.asks a

inductive Step (party : Set ι) (s s' : State ι κ α) : Prop
  | announces (a : ι) (ha : a ∈ party) (h : Announces a s s')
  | answers (a : ι) (ha : a ∈ party) (h : Answers a s s')
  | enters (a : ι) (ha : a ∈ party) (p : κ) (h : Enters party a p s s')
  | moves (h : Moves party s s')

/-! ## The invariant -/

/-- Who is visible has offered what its members hold to everyone; whose members
hold something without having been told the rest has asked, or is to be told. -/
structure Inv (party : Set ι) (s : State ι κ α) : Prop where
  heard : ∀ a ∈ party, s.asks a ∨ s.asked a → ∃ b ∈ party, s.visible b
  awake : (∃ a ∈ party, s.visible a) →
    ∀ b ∈ party, s.visible b ∨ s.asked b ∨ ∃ a ∈ party, a ≠ b ∧ s.asks a
  published : ∀ a ∈ party, ∀ b ∈ party, a ≠ b → s.visible b → ∀ q x, s.holds b q x →
    s.offers b x ∨ s.offered a x ∨ s.handled a x
  owed : ∀ a ∈ party, ∀ b ∈ party, a ≠ b → s.visible b → ∀ p y q x, s.holds a p y → s.holds b q x →
    Owed party s a b p x

section Steps
variable {party : Set ι} {s s' : State ι κ α} {a b : ι} {p : κ} {x : α}

theorem inv_quiet (hvisible : ∀ a, ¬s.visible a) (hasks : ∀ a, ¬s.asks a) (hasked : ∀ a, ¬s.asked a) :
    Inv party s := by
  refine ⟨?_, ?_, ?_, ?_⟩
  · rintro a - (ha | ha)
    · exact absurd ha (hasks a)
    · exact absurd ha (hasked a)
  · rintro ⟨a, -, ha⟩
    exact absurd ha (hvisible a)
  · intro a _ b _ _ hb
    exact absurd hb (hvisible b)
  · intro a _ b _ _ hb
    exact absurd hb (hvisible b)

theorem Owed.grows (h : Owed party s a b p x) (hgrows : Grows s s') (hasked : s.asked b → s'.asked b) :
    Owed party s' a b p x := by
  rcases h with ⟨c, hc, hne, h⟩ | h | h | h | h
  · exact Or.inl ⟨c, hc, hne, hgrows.asks c h⟩
  · exact Or.inr (Or.inl (hasked h))
  · exact Or.inr (Or.inr (Or.inl (hgrows.offers b x h)))
  · exact Or.inr (Or.inr (Or.inr (Or.inl (hgrows.offered a x h))))
  · exact Or.inr (Or.inr (Or.inr (Or.inr (hgrows.knows a p x h))))

theorem Publishes.published (hpublishes : Publishes a s s') (h : Inv party s)
    (hholds : ∀ b, b ≠ a → ∀ p x, s'.holds b p x → s.holds b p x) :
    ∀ c ∈ party, ∀ b ∈ party, c ≠ b → s'.visible b → ∀ q x, s'.holds b q x →
      s'.offers b x ∨ s'.offered c x ∨ s'.handled c x := by
  intro c hc b hb hne hvisible q x hx
  by_cases hba : b = a
  · subst hba
    exact Or.inl (hpublishes.offering q x hx)
  · have hold : s.visible b := ((hpublishes.visible b).mp hvisible).resolve_right hba
    rcases h.published c hc b hb hne hold q x (hholds b hba q x hx) with ho | ho | ho
    · exact Or.inl (hpublishes.offers b x ho)
    · exact Or.inr (Or.inl (hpublishes.offered c x ho))
    · exact Or.inr (Or.inr (hpublishes.handled c x ho))

theorem inv_announces (h : Inv party s) (ha : a ∈ party) (hstep : Announces a s s') : Inv party s' := by
  have hvisible : s'.visible a := (hstep.visible a).mpr (Or.inr rfl)
  refine ⟨fun _ _ _ => ⟨a, ha, hvisible⟩, ?_, hstep.published h hstep.holds, ?_⟩
  · intro _ b hb
    by_cases hba : b = a
    · exact Or.inl (hba ▸ hvisible)
    · exact Or.inr (Or.inr ⟨a, ha, Ne.symm hba, hstep.asking⟩)
  · intro c hc b hb hne hb' p y q x hp hq
    by_cases hca : c = a
    · exact Or.inl ⟨a, ha, hca ▸ hne, hstep.asking⟩
    by_cases hba : b = a
    · subst hba
      exact Or.inr (Or.inr (Or.inl (hstep.offering q x hq)))
    · have hold : s.visible b := ((hstep.visible b).mp hb').resolve_right hba
      have howed := h.owed c hc b hb hne hold p y q x (hstep.holds c hca p y hp)
        (hstep.holds b hba q x hq)
      exact howed.grows hstep.toGrows (hstep.asked b hba)

theorem inv_answers (h : Inv party s) (ha : a ∈ party) (hstep : Answers a s s') : Inv party s' := by
  have hvisible : s'.visible a := (hstep.visible a).mpr (Or.inr rfl)
  refine ⟨fun _ _ _ => ⟨a, ha, hvisible⟩, ?_, hstep.published h fun b _ => hstep.holds b, ?_⟩
  · intro _ b hb
    by_cases hba : b = a
    · exact Or.inl (hba ▸ hvisible)
    · rcases h.awake (h.heard a ha (Or.inr hstep.was_asked)) b hb
        with hawake | hawake | ⟨c, hc, hcb, hawake⟩
      · exact Or.inl ((hstep.visible b).mpr (Or.inl hawake))
      · exact Or.inr (Or.inl (hstep.asked b hba hawake))
      · exact Or.inr (Or.inr ⟨c, hc, hcb, hstep.asks c hawake⟩)
  · intro c hc b hb hne hb' p y q x hp hq
    by_cases hba : b = a
    · subst hba
      exact Or.inr (Or.inr (Or.inl (hstep.offering q x hq)))
    · have hold : s.visible b := ((hstep.visible b).mp hb').resolve_right hba
      have howed := h.owed c hc b hb hne hold p y q x (hstep.holds c p y hp) (hstep.holds b q x hq)
      exact howed.grows hstep.toGrows (hstep.asked b hba)

theorem inv_enters (h : Inv party s) (hstep : Enters party a p s s') : Inv party s' := by
  have hholds : ∀ b, s'.visible b → ∀ q x, s'.holds b q x → s.holds b q x := by
    intro b hb q x hx
    have hba : b ≠ a := by
      rintro rfl
      exact hstep.quiet ((hstep.visible b).mp hb)
    rcases hstep.holds b q x hx with ⟨heq, -⟩ | hx
    · exact absurd heq hba
    · exact hx
  refine ⟨?_, ?_, ?_, ?_⟩
  · intro b hb hasks
    obtain ⟨c, hc, hvisible⟩ := h.heard b hb (hasks.imp (hstep.asks_of b) (hstep.asked_of b))
    exact ⟨c, hc, (hstep.visible c).mpr hvisible⟩
  · rintro ⟨c, hc, hvisible⟩ b hb
    rcases h.awake ⟨c, hc, (hstep.visible c).mp hvisible⟩ b hb
      with hawake | hawake | ⟨d, hd, hdb, hawake⟩
    · exact Or.inl ((hstep.visible b).mpr hawake)
    · exact Or.inr (Or.inl (hstep.asked b hawake))
    · exact Or.inr (Or.inr ⟨d, hd, hdb, hstep.asks d hawake⟩)
  · intro c hc b hb hne hvisible q x hx
    rcases h.published c hc b hb hne ((hstep.visible b).mp hvisible) q x (hholds b hvisible q x hx)
      with ho | ho | ho
    · exact Or.inl (hstep.offers b x ho)
    · exact Or.inr (Or.inl (hstep.offered c x ho))
    · exact Or.inr (Or.inr (hstep.handled c x ho))
  · intro c hc b hb hne hvisible r y q x hr hq
    have hold := (hstep.visible b).mp hvisible
    have hq' := hholds b hvisible q x hq
    rcases hstep.holds c r y hr with ⟨rfl, rfl⟩ | hr
    · -- what `b` has published is under way, or has been handled and so is owed to `p`
      rcases h.published c hc b hb hne hold q x hq' with ho | ho | ho
      · exact Or.inr (Or.inr (Or.inl (hstep.offers b x ho)))
      · exact Or.inr (Or.inr (Or.inr (Or.inl (hstep.offered c x ho))))
      · exact (hstep.told b hb hne.symm q x hq' ho).grows hstep.toGrows (hstep.asked b)
    · exact (h.owed c hc b hb hne hold r y q x hr hq').grows hstep.toGrows (hstep.asked b)

theorem inv_moves (h : Inv party s) (hstep : Moves party s s') : Inv party s' := by
  refine ⟨?_, ?_, ?_, ?_⟩
  · intro b hb hasks
    have hheard : ∃ c ∈ party, s.asks c ∨ s.asked c := by
      rcases hasks with hasks | hasked
      · exact ⟨b, hb, Or.inl (hstep.asks_of b hasks)⟩
      · rcases hstep.asked_of b hasked with hasked | ⟨c, hc, hasks⟩
        · exact ⟨b, hb, Or.inr hasked⟩
        · exact ⟨c, hc, Or.inl hasks⟩
    obtain ⟨c, hc, hheard⟩ := hheard
    obtain ⟨d, hd, hvisible⟩ := h.heard c hc hheard
    exact ⟨d, hd, (hstep.visible d).mpr hvisible⟩
  · rintro ⟨c, hc, hvisible⟩ b hb
    rcases h.awake ⟨c, hc, (hstep.visible c).mp hvisible⟩ b hb
      with hawake | hawake | ⟨d, hd, hdb, hawake⟩
    · exact Or.inl ((hstep.visible b).mpr hawake)
    · exact Or.inr (Or.inl (hstep.asked b hawake))
    · rcases hstep.asks d hawake with hasks | hasked
      · exact Or.inr (Or.inr ⟨d, hd, hdb, hasks⟩)
      · exact Or.inr (Or.inl (hasked b hb hdb.symm))
  · intro c hc b hb hne hvisible q x hx
    rcases h.published c hc b hb hne ((hstep.visible b).mp hvisible) q x (hstep.holds b q x hx)
      with ho | ho | ho
    · rcases hstep.offers b x ho with ho | ho
      · exact Or.inl ho
      · exact Or.inr (Or.inl (ho c hc hne))
    · rcases hstep.offered c x ho with ho | ⟨ho, -⟩
      · exact Or.inr (Or.inl ho)
      · exact Or.inr (Or.inr ho)
    · exact Or.inr (Or.inr (hstep.handled c x ho))
  · intro c hc b hb hne hvisible p y q x hp hq
    have hp' := hstep.holds c p y hp
    rcases h.owed c hc b hb hne ((hstep.visible b).mp hvisible) p y q x hp' (hstep.holds b q x hq)
      with ⟨d, hd, hdb, ho⟩ | ho | ho | ho | ho
    · rcases hstep.asks d ho with ho | ho
      · exact Or.inl ⟨d, hd, hdb, ho⟩
      · exact Or.inr (Or.inl (ho b hb hdb.symm))
    · exact Or.inr (Or.inl (hstep.asked b ho))
    · rcases hstep.offers b x ho with ho | ho
      · exact Or.inr (Or.inr (Or.inl ho))
      · exact Or.inr (Or.inr (Or.inr (Or.inl (ho c hc hne))))
    · rcases hstep.offered c x ho with ho | ⟨-, ho⟩
      · exact Or.inr (Or.inr (Or.inr (Or.inl ho)))
      · exact Or.inr (Or.inr (Or.inr (Or.inr (ho p y hp'))))
    · exact Or.inr (Or.inr (Or.inr (Or.inr (hstep.knows c p x ho))))

theorem Step.inv (hstep : Step party s s') (h : Inv party s) : Inv party s' := by
  cases hstep with
  | announces a ha hstep => exact inv_announces h ha hstep
  | answers a ha hstep => exact inv_answers h ha hstep
  | enters a ha p hstep => exact inv_enters h hstep
  | moves hstep => exact inv_moves h hstep

theorem Step.visible (hstep : Step party s s') (h : s.visible b) : s'.visible b := by
  cases hstep with
  | announces a ha hstep => exact (hstep.visible b).mpr (Or.inl h)
  | answers a ha hstep => exact (hstep.visible b).mpr (Or.inl h)
  | enters a ha p hstep => exact (hstep.visible b).mpr h
  | moves hstep => exact (hstep.visible b).mpr h

/-! ## When nothing is under way -/

structure Settled (party : Set ι) (s : State ι κ α) : Prop where
  asks : ∀ a ∈ party, ¬s.asks a
  asked : ∀ a ∈ party, ¬s.asked a
  offers : ∀ a ∈ party, ∀ x, ¬s.offers a x
  offered : ∀ a ∈ party, ∀ x, ¬s.offered a x

/-- Then, if anyone is visible, every member knows what the members of every
other party hold. -/
theorem Inv.known (h : Inv party s) (hsettled : Settled party s) (hvisible : ∃ a ∈ party, s.visible a) :
    ∀ a ∈ party, ∀ p y, s.holds a p y → ∀ b ∈ party, b ≠ a → ∀ q x, s.holds b q x → s.knows a p x := by
  intro a ha p y hp b hb hne q x hq
  have hb' : s.visible b := by
    rcases h.awake hvisible b hb with hb' | hb' | ⟨c, hc, -, hc'⟩
    · exact hb'
    · exact absurd hb' (hsettled.asked b hb)
    · exact absurd hc' (hsettled.asks c hc)
  rcases h.owed a ha b hb hne.symm hb' p y q x hp hq
    with ⟨c, hc, -, ho⟩ | ho | ho | ho | ho
  · exact absurd ho (hsettled.asks c hc)
  · exact absurd ho (hsettled.asked b hb)
  · exact absurd ho (hsettled.offers b hb x)
  · exact absurd ho (hsettled.offered a ha x)
  · exact ho

end Steps
end Exchange
