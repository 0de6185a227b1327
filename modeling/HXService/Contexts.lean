import HXService.Lookups

/-! The contexts of the connections, over runs of `Join`, `Leave`, `SetContext` and
`GetContext`. They live in the slots, which other connections use again. -/

namespace HXService
open Runs

namespace HXLibAsioServer
variable {s : HXLibAsioServer} {p : SessionPtr} {linkid : LinkID} {i : Nat}

theorem context_accept (ip : IpText) :
    ((s.accept p ip).mLinks i).context = (s.mLinks i).context := by
  cases hslot : s.freeSlot with
  | none => rw [accept_eq_refuse hslot, refuse]
  | some j =>
    rw [accept_eq_occupy hslot, occupy]
    by_cases hij : i = j
    · subst hij
      simp
    · simp [hij]

theorem context_leave (h : s.TableInv) (st : UInt16) :
    ((s.leave p st).mLinks i).context = (s.mLinks i).context := by
  by_cases hown : s.ownId p = LinkID.zero
  · rw [leave_eq_self h hown]
  · obtain ⟨j, hj, hheld⟩ := h.session p hown
    rw [leave_eq_vacate hj hheld, vacate]
    by_cases hij : i = j
    · subst hij
      simp
    · simp [hij]

theorem context_setContext_self (hlinked : s.Linked linkid) (context : Nat) :
    ((s.setContext linkid context).mLinks linkid.sindex.toNat).context = context := by
  simp [setContext, hlinked]

/-- The context of another live connection stays: an identifier that reaches its slot
has its `sid`, too. -/
theorem context_setContext_of_ne (h : s.TableInv) (hp : s.Holds p linkid) {linkid' : LinkID}
    (hne : linkid' ≠ linkid) (context : Nat) :
    ((s.setContext linkid' context).mLinks linkid.sindex.toNat).context =
      (s.mLinks linkid.sindex.toNat).context := by
  unfold setContext
  by_cases hlinked : s.Linked linkid'
  · have hindex : linkid.sindex.toNat ≠ linkid'.sindex.toNat := by
      intro hindex
      apply hne
      obtain ⟨-, hsid⟩ := (hp.slot h).1
      rw [hindex, ← hlinked.2] at hsid
      obtain ⟨sid, sindex⟩ := linkid
      obtain ⟨sid', sindex'⟩ := linkid'
      simp only [UInt16.toNat_inj] at hindex hsid
      rw [hindex, hsid]
    simp [hlinked, hindex]
  · simp [hlinked]

end HXLibAsioServer

namespace Contexts
open HXLibAsioServer

inductive Event
  | join (link : SessionPtr) (ip : IpText)
  | leave (link : SessionPtr) (dissconnectState : UInt16)
  | setContext (linkid : LinkID) (context : Nat)
  | getContext (linkid : LinkID)

/-- `latest` is what was last set for a session since it joined, `found` the context of
its slot when it joined. -/
structure State where
  server : HXLibAsioServer
  joined : List SessionPtr
  latest : SessionPtr → Option Nat
  found : SessionPtr → Nat

def start (server : HXLibAsioServer) : State := ⟨server, [], fun _ => none, fun _ => 0⟩

def step (s : State) : Event → Option State
  | .join p ip =>
    if p ∈ s.joined then none
    else
      let server := s.server.accept p ip
      some ⟨server, p :: s.joined, Function.update s.latest p none,
        Function.update s.found p (s.server.mLinks (server.ownId p).sindex.toNat).context⟩
  | .leave p st => some { s with server := s.server.leave p st }
  | .setContext linkid context => some { s with
      server := s.server.setContext linkid context
      latest := fun p => if s.server.ownId p = linkid then some context else s.latest p }
  | .getContext _ => some s

/-- A `GetContext` that finds a live connection yields what was last set for it since it
joined, and null if nothing was. -/
def Yields (s : State) : Event → Prop
  | .getContext linkid => ∀ p context, s.server.Holds p linkid →
      s.server.getContext linkid = (true, context) → context = some ((s.latest p).getD 0)
  | _ => True

/-- The connection has had its context set, or has joined in a slot without one. -/
def Cleared (s : State) : Event → Prop
  | .getContext linkid => ∀ p, s.server.Holds p linkid → (s.latest p).isSome ∨ s.found p = 0
  | _ => True

structure Inv (s : State) : Prop where
  table : s.server.TableInv
  fresh : ∀ p, p ∉ s.joined → s.server.ownId p = LinkID.zero
  context : ∀ p linkid, s.server.Holds p linkid →
    (s.server.mLinks linkid.sindex.toNat).context = (s.latest p).getD (s.found p)

section Steps
variable {s s' : State} {p : SessionPtr} {ip : IpText} {st : UInt16} {linkid : LinkID} {context : Nat}
variable {e : Event}

theorem Inv.join (h : Inv s) (hp : p ∉ s.joined) (hstep : step s (.join p ip) = some s') : Inv s' := by
  rw [step, if_neg hp] at hstep
  obtain rfl := Option.some.inj hstep
  refine ⟨tableInv_accept h.table (h.fresh p hp) ip, ?_, ?_⟩
  · intro q hq
    rw [List.mem_cons, not_or] at hq
    show (s.server.accept p ip).ownId q = LinkID.zero
    rw [ownId_accept_of_ne ip hq.1]
    exact h.fresh q hq.2
  · intro q linkid hq
    show ((s.server.accept p ip).mLinks linkid.sindex.toNat).context = _
    rw [context_accept]
    by_cases hqp : q = p
    · subst hqp
      obtain ⟨rfl, -⟩ := hq
      simp
    · have hq' : s.server.Holds q linkid := ⟨(ownId_accept_of_ne ip hqp).symm.trans hq.1, hq.2⟩
      simpa [hqp] using h.context q linkid hq'

theorem Inv.leave (h : Inv s) (hstep : step s (.leave p st) = some s') : Inv s' := by
  obtain rfl := Option.some.inj hstep
  refine ⟨tableInv_leave h.table st, ?_, ?_⟩
  · intro q hq
    show (s.server.leave p st).ownId q = LinkID.zero
    by_cases hqp : q = p
    · subst hqp
      exact ownId_leave h.table st
    · rw [ownId_leave_of_ne h.table st hqp]
      exact h.fresh q hq
  · intro q linkid hq
    have hqp : q ≠ p := by
      rintro rfl
      exact hq.2 (hq.1.symm.trans (ownId_leave h.table st))
    have hq' : s.server.Holds q linkid := ⟨(ownId_leave_of_ne h.table st hqp).symm.trans hq.1, hq.2⟩
    show ((s.server.leave p st).mLinks linkid.sindex.toNat).context = _
    rw [context_leave h.table]
    exact h.context q linkid hq'

theorem Inv.setContext (h : Inv s) (hstep : step s (.setContext linkid context) = some s') : Inv s' := by
  obtain rfl := Option.some.inj hstep
  have hsame := (untouched_setContext s.server linkid context).toSameTable
  refine ⟨hsame.tableInv h.table, ?_, ?_⟩
  · intro q hq
    exact (hsame.own q).trans (h.fresh q hq)
  · intro q linkid' hq
    have hq' : s.server.Holds q linkid' := ⟨(hsame.own q).symm.trans hq.1, hq.2⟩
    show ((s.server.setContext linkid context).mLinks linkid'.sindex.toNat).context =
      (if s.server.ownId q = linkid then some context else s.latest q).getD (s.found q)
    by_cases hown : s.server.ownId q = linkid
    · obtain rfl : linkid = linkid' := hown.symm.trans hq'.1
      rw [if_pos hown, context_setContext_self (hq'.slot h.table).1]
      rfl
    · have hne : linkid ≠ linkid' := fun heq => hown (hq'.1.trans heq.symm)
      rw [if_neg hown, context_setContext_of_ne h.table hq' hne]
      exact h.context q linkid' hq'

theorem step_inv (h : Inv s) (hstep : step s e = some s') : Inv s' := by
  cases e with
  | join p ip =>
    by_cases hp : p ∈ s.joined
    · simp [step, hp] at hstep
    · exact h.join hp hstep
  | leave p st => exact h.leave hstep
  | setContext linkid context => exact h.setContext hstep
  | getContext linkid =>
    obtain rfl := Option.some.inj hstep
    exact h

/-- `GetContext` yields what was set last, or else what the slot held before. -/
theorem yields_iff (h : Inv s) : Yields s e ↔ Cleared s e := by
  cases e with
  | join => exact Iff.rfl
  | leave => exact Iff.rfl
  | setContext => exact Iff.rfl
  | getContext linkid =>
    apply forall_congr'
    intro p
    have hyields (hp : s.server.Holds p linkid) : s.server.getContext linkid =
        (true, some ((s.latest p).getD (s.found p))) := by
      rw [(actsOn_of_holds h.table hp).getContext, h.context p linkid hp]
    constructor
    · intro hright hp
      have hcontext := hright _ hp (hyields hp)
      cases hlatest : s.latest p with
      | none => simpa [hlatest] using hcontext
      | some context => exact Or.inl rfl
    · rintro hclear context hp hget
      rw [hyields hp] at hget
      obtain rfl := (Prod.mk.inj hget).2
      rcases hclear hp with hsome | hnull
      · obtain ⟨context, hlatest⟩ := Option.isSome_iff_exists.mp hsome
        rw [hlatest]
        rfl
      · rw [hnull]

end Steps

section Runs
variable {context : Nat → Nat} {readMsg : SessionPtr → HXMessagePackage}
variable {mHeader : SessionPtr → MBigHeader} {maxLinks : Int} {s₀ : HXLibAsioServer}

theorem inv_start (h : (new context readMsg mHeader).start maxLinks = (true, s₀)) : Inv (start s₀) := by
  refine ⟨tableInv_start h, fun p _ => ownId_start h p, ?_⟩
  intro p linkid hp
  exact absurd ((ownId_start h p).symm.trans hp.1).symm hp.2

/-- Whenever `GetContext` finds a live connection it yields that connection's own context,
in exactly the runs in which each of them has had its context set since it joined or has
joined in a slot whose context was null. -/
theorem contexts_iff (hstart : (new context readMsg mHeader).start maxLinks = (true, s₀))
    (es : List Event) : Along step Yields (start s₀) es ↔ Along step Cleared (start s₀) es := by
  apply @along_iff _ _ _ Inv
  · intro s e h
    exact yields_iff h
  · intro s e s' h hstep
    exact step_inv h hstep
  · exact inv_start hstart

theorem contexts_iff_zeroed : Along step Yields (start (zeroed.start 1).2)
    [.join 0 IpText.empty, .setContext ⟨1, 0⟩ 7, .getContext ⟨1, 0⟩] := by
  have hstart : zeroed.start 1 = (true, (zeroed.start 1).2) := rfl
  apply (contexts_iff hstart _).mpr
  refine ⟨trivial, fun t ht => ⟨trivial, fun u hu => ⟨?_, fun _ _ => trivial⟩⟩⟩
  obtain rfl := Option.some.inj hu
  intro p hp
  have hown : t.server.ownId p = ⟨1, 0⟩ :=
    ((untouched_setContext t.server ⟨1, 0⟩ 7).own p).symm.trans hp.1
  exact Or.inl (by simp [hown])

/-- The second connection in the slot gets what was set for the first. -/
theorem context_of_another : ¬Along step Yields (start (zeroed.start 1).2)
    [.join 0 IpText.empty, .setContext ⟨1, 0⟩ 7, .leave 0 dissconnectReadError,
      .join 1 IpText.empty, .getContext ⟨2, 0⟩] := by
  intro h
  have hyields := ((((h.2 _ rfl).2 _ rfl).2 _ rfl).2 _ rfl).1 1 (some 7) ⟨rfl, by decide⟩ rfl
  exact absurd hyields (by decide)

end Runs
end Contexts
end HXService
