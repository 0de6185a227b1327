import HXService.Lookups

/-! How long the identifier of a session that has left names nobody: until the
counter has come round, which takes as many calls of `Join` as it has values. -/

namespace HXService.ConnectionTable
open Runs HXLibAsioServer

def Event.isJoin : Event → Bool
  | .join .. => true
  | .leave .. => false

def joins (es : List Event) : Nat := es.countP Event.isJoin

theorem joins_cons (e : Event) (es : List Event) :
    joins (e :: es) = joins es + if e.isJoin then 1 else 0 := by
  simp [joins, List.countP_cons]

section Counter
variable {s : HXLibAsioServer} {p : SessionPtr} {ip : IpText} {m : Nat}

theorem nextId_of_counter (h : s.mId = m % maxShort + 1) : s.nextId = (m + 1) % maxShort + 1 := by
  have hmax : maxShort = 32767 := rfl
  rw [hmax] at h
  unfold nextId
  rw [h, hmax]
  split_ifs <;> omega

theorem ownId_accept : (s.accept p ip).ownId p = (s.join p ip).1 := by
  unfold accept ownId
  simp only [mSessions_modifySession_self]
  split_ifs <;> rfl

theorem sid_join :
    (s.join p ip).1 = LinkID.zero ∨ (s.join p ip).1.sid.toNat = s.nextId := by
  cases hslot : s.freeSlot with
  | some i =>
    rw [join_eq_some hslot]
    exact Or.inr sid_nextLink
  | none =>
    rw [join_eq_none hslot]
    exact Or.inl rfl

end Counter

structure Since (s₀ : HXLibAsioServer) (p : SessionPtr) (linkid : LinkID) (n : Nat) (s : State) :
    Prop where
  inv : Inv s₀ s
  joined : p ∈ s.joined
  counter : s.server.mId = (linkid.sid.toNat - 1 + n) % maxShort + 1
  others : ∀ q, q ≠ p → s.server.ownId q ≠ linkid

def Given (linkid : LinkID) : Prop :=
  linkid ≠ LinkID.zero ∧ 1 ≤ linkid.sid.toNat ∧ linkid.sid.toNat ≤ maxShort

section Since
variable {s₀ : HXLibAsioServer} {s s' : State} {p q : SessionPtr} {ip : IpText} {linkid : LinkID}
variable {n : Nat} {e : Event} {es : List Event}

theorem Since.join_ne (h : Since s₀ p linkid n s) (hgiven : Given linkid) (hn : n + 1 < maxShort) :
    (s.server.join q ip).1 ≠ linkid := by
  obtain ⟨hne, hpos, hle⟩ := hgiven
  have hnext := nextId_of_counter h.counter
  have hmax : maxShort = 32767 := rfl
  rcases sid_join with hzero | hsid
  · rw [hzero]
    exact hne.symm
  · intro heq
    rw [heq, hnext] at hsid
    simp only [hmax] at hsid hle hn
    omega

theorem since_step (h : Since s₀ p linkid n s) (hgiven : Given linkid)
    (hn : n + (if e.isJoin then 1 else 0) < maxShort) (hstep : step s e = some s') :
    Since s₀ p linkid (n + if e.isJoin then 1 else 0) s' := by
  have hinv := step_inv h.inv hstep
  cases e with
  | join q ip =>
    have hcounter := (@mId_accept _ q ip).trans (nextId_of_counter h.counter)
    rw [step] at hstep
    split_ifs at hstep with hq
    obtain rfl := Option.some.inj hstep
    refine ⟨hinv, List.mem_cons_of_mem _ h.joined, hcounter, ?_⟩
    intro r hr
    show (s.server.accept q ip).ownId r ≠ linkid
    by_cases hrq : r = q
    · subst hrq
      rw [ownId_accept]
      exact h.join_ne hgiven hn
    · rw [ownId_accept_of_ne ip hrq]
      exact h.others r hr
  | leave q st =>
    obtain rfl := Option.some.inj hstep
    refine ⟨hinv, h.joined, (mId_leave h.inv.table st).trans h.counter, ?_⟩
    intro r hr
    show (s.server.leave q st).ownId r ≠ linkid
    by_cases hrq : r = q
    · subst hrq
      rw [ownId_leave h.inv.table st]
      exact hgiven.1.symm
    · rw [ownId_leave_of_ne h.inv.table st hrq]
      exact h.others r hr

theorem since_run (h : Since s₀ p linkid n s) (hgiven : Given linkid) (hn : n + joins es < maxShort)
    (hrun : run step s es = some s') : Since s₀ p linkid (n + joins es) s' := by
  induction es generalizing s n with
  | nil =>
    obtain rfl := Option.some.inj hrun
    exact h
  | cons e es ih =>
    obtain ⟨t, ht, hrun⟩ := run_cons.mp hrun
    rw [joins_cons, Nat.add_comm (joins es), ← Nat.add_assoc] at hn ⊢
    exact ih (since_step h hgiven (Nat.lt_of_le_of_lt (Nat.le_add_right _ _) hn) ht) hn hrun

theorem since_join (h : Inv s₀ s) (hp : p ∉ s.joined) (hid : (s.server.join p ip).1.id ≠ 0) :
    Given (s.server.join p ip).1 ∧
      Since s₀ p (s.server.join p ip).1 0 ⟨s.server.accept p ip, p :: s.joined⟩ := by
  have hne : (s.server.join p ip).1 ≠ LinkID.zero := mt LinkID.id_eq_zero.mpr hid
  have hsid := sid_join.resolve_left hne
  have hnext := nextId_le s.server
  have hstep : step s (.join p ip) = some ⟨s.server.accept p ip, p :: s.joined⟩ := if_neg hp
  have hinv := step_inv h hstep
  refine ⟨⟨hne, hsid ▸ hnext.1, hsid ▸ hnext.2⟩, hinv, List.mem_cons_self, ?_, ?_⟩
  · have hmax : maxShort = 32767 := rfl
    show (s.server.accept p ip).mId = _
    rw [mId_accept, hsid, hmax]
    rw [hmax] at hnext
    omega
  · intro q hq hown
    have hown' : (s.server.accept p ip).ownId q ≠ LinkID.zero := hown ▸ hne
    have hp' : (s.server.accept p ip).ownId p ≠ LinkID.zero := by
      rw [ownId_accept]
      exact hne
    obtain ⟨i, -, hheld⟩ := hinv.table.session q hown'
    obtain ⟨j, -, hheld'⟩ := hinv.table.session p hp'
    exact hq (hheld.unique hheld' (hown.trans ownId_accept.symm)).2

theorem Since.doesNothing (h : Since s₀ p linkid n s) (hgiven : Given linkid)
    (hleft : s.server.ownId p = LinkID.zero) : s.server.DoesNothing linkid := by
  have hstray : ¬s.server.Stray linkid := by
    rintro ⟨hzero, -⟩
    have hpos := hgiven.2.1
    rw [hzero] at hpos
    exact absurd hpos (by decide)
  apply doesNothing_of_not_linked
  rw [linked_iff_holds h.inv.table hstray]
  rintro ⟨q, hown, hne⟩
  by_cases hq : q = p
  · subst hq
    exact hne (hown.symm.trans hleft)
  · exact h.others q hq hown

end Since

section Stale
variable {context : Nat → Nat} {readMsg : SessionPtr → HXMessagePackage}
variable {mHeader : SessionPtr → MBigHeader} {maxLinks : Int} {s₀ : HXLibAsioServer}

theorem joined_of_join {s s' : State} {p : SessionPtr} {ip : IpText}
    (hstep : step s (.join p ip) = some s') :
    p ∉ s.joined ∧ s' = ⟨s.server.accept p ip, p :: s.joined⟩ := by
  rw [step] at hstep
  split_ifs at hstep with hp
  exact ⟨hp, (Option.some.inj hstep).symm⟩

theorem not_join_of_joined {s s' : State} {p : SessionPtr} {ip : IpText} {es : List Event}
    (hp : p ∈ s.joined) (hrun : run step s es = some s') : .join p ip ∉ es := by
  induction es generalizing s with
  | nil => exact List.not_mem_nil
  | cons e es ih =>
    obtain ⟨t, ht, hrun⟩ := run_cons.mp hrun
    rw [List.mem_cons, not_or]
    constructor
    · rintro rfl
      exact (joined_of_join ht).1 hp
    · apply ih _ hrun
      cases e with
      | join q ip' =>
        rw [(joined_of_join ht).2]
        exact List.mem_cons_of_mem _ hp
      | leave q st =>
        obtain rfl := Option.some.inj ht
        exact hp

/-- A session was given `linkid` and has left. As long as `Join` has been called
fewer than 32767 times since, it has given `linkid` to nobody, and the
operations with `linkid` do nothing. -/
theorem stale_link (hstart : (new context readMsg mHeader).start maxLinks = (true, s₀))
    {es₁ es₂ : List Event} {p : SessionPtr} {ip : IpText} {linkid : LinkID} {s₁ s : State}
    (hbefore : run step ⟨s₀, []⟩ es₁ = some s₁) (hgiven : (s₁.server.join p ip).1 = linkid)
    (hid : linkid.id ≠ 0) (hrun : run step ⟨s₀, []⟩ (es₁ ++ .join p ip :: es₂) = some s)
    (hleft : ∃ st, .leave p st ∈ es₂) (hfew : joins es₂ < 32767) :
    (∀ es₃ q ip' es₄ t, es₂ = es₃ ++ .join q ip' :: es₄ →
      run step ⟨s₀, []⟩ (es₁ ++ .join p ip :: es₃) = some t → (t.server.join q ip').1 ≠ linkid) ∧
    s.server.DoesNothing linkid := by
  subst hgiven
  have hinv : Inv s₀ s₁ := run_invariant (fun _ _ _ => step_inv) hbefore (inv_start hstart)
  have hsplit : ∀ es t, run step ⟨s₀, []⟩ (es₁ ++ .join p ip :: es) = some t →
      p ∉ s₁.joined ∧ run step ⟨s₁.server.accept p ip, p :: s₁.joined⟩ es = some t := by
    intro es t ht
    obtain ⟨u, hu, ht⟩ := run_append.mp ht
    obtain rfl := Option.some.inj (hbefore.symm.trans hu)
    obtain ⟨v, hv, ht⟩ := run_cons.mp ht
    obtain ⟨hp, rfl⟩ := joined_of_join hv
    exact ⟨hp, ht⟩
  obtain ⟨hp, hrun'⟩ := hsplit es₂ s hrun
  obtain ⟨hgiven, hsince⟩ := since_join hinv hp hid
  constructor
  · rintro es₃ q ip' es₄ t rfl ht
    have hcount : joins (es₃ ++ .join q ip' :: es₄) = joins es₃ + (joins es₄ + 1) := by
      rw [joins, List.countP_append, ← joins, ← joins, joins_cons]
      rfl
    have hn : joins es₃ + 1 < maxShort := by
      have hmax : maxShort = 32767 := rfl
      omega
    have hthere := since_run hsince hgiven (by omega) (hsplit es₃ t ht).2
    exact hthere.join_ne hgiven (by omega)
  · obtain ⟨st, hst⟩ := hleft
    obtain ⟨es₃, es₄, rfl⟩ := List.append_of_mem hst
    have hthere := since_run hsince hgiven (by rw [Nat.zero_add]; exact hfew) hrun'
    apply hthere.doesNothing hgiven
    apply ownId_of_left hsince.inv hrun'
    intro ip' hmem
    apply @not_join_of_joined _ _ p ip' _ _ hrun'
    · exact List.mem_append_right _ (List.mem_cons_of_mem _ hmem)
    · exact List.mem_cons_self

/-- The one slot is taken again, under another id. -/
theorem stale_link_reused : ∃ s, run step ⟨(zeroed.start 1).2, []⟩
      [.join 0 IpText.empty, .leave 0 dissconnectReadError, .join 1 IpText.empty] = some s ∧
    s.server.Holds 1 ⟨2, 0⟩ ∧ s.server.DoesNothing ⟨1, 0⟩ := by
  have hstart : zeroed.start 1 = (true, (zeroed.start 1).2) := rfl
  have hrun : ∃ s, run step ⟨(zeroed.start 1).2, []⟩
      [.join 0 IpText.empty, .leave 0 dissconnectReadError, .join 1 IpText.empty] = some s ∧
      s.server.Holds 1 ⟨2, 0⟩ := ⟨_, rfl, rfl, by decide⟩
  obtain ⟨s, hrun, hheld⟩ := hrun
  refine ⟨s, hrun, hheld, ?_⟩
  exact (@stale_link _ _ _ _ _ hstart [] [.leave 0 dissconnectReadError, .join 1 IpText.empty] 0
    IpText.empty ⟨1, 0⟩ _ s rfl rfl (by decide) hrun ⟨_, List.mem_cons_self⟩ (by decide)).2

end Stale
end HXService.ConnectionTable
