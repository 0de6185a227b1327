import HXService.Lib.Runs
import HXService.Lib.Slots
import HXService.AsioServer

/-! The connection table over runs of `Join` and `Leave`: the slots, the counter
and every session's own id tell the same story. -/

namespace HXService
open Runs

namespace HXLibAsioServer

def slots (s : HXLibAsioServer) : Nat := s.mMaxLinks.toNat

def link (s : HXLibAsioServer) (i : Nat) : Option SessionPtr := (s.mLinks i).link

def ownId (s : HXLibAsioServer) (p : SessionPtr) : LinkID := (s.mSessions p).mLinkid

/-! ## The invariant -/

def Free (s : HXLibAsioServer) (i : Nat) : Prop := s.link i = none ∧ (s.mLinks i).id = LinkID.zero

structure HeldBy (s : HXLibAsioServer) (i : Nat) (p : SessionPtr) : Prop where
  link_eq : s.link i = some p
  own : s.ownId p = (s.mLinks i).id
  sindex_eq : (s.mLinks i).id.sindex.toNat = i
  sid_pos : 1 ≤ (s.mLinks i).id.sid.toNat
  sid_le : (s.mLinks i).id.sid.toNat ≤ maxShort

structure TableInv (s : HXLibAsioServer) : Prop where
  slots_lt : s.mMaxLinks < maxAcceptItem
  slot : ∀ i < s.slots, s.Free i ∨ ∃ p, s.HeldBy i p
  session : ∀ p, s.ownId p ≠ LinkID.zero → ∃ i < s.slots, s.HeldBy i p
  online : s.mOnlineLinks = (Slots.occupied s.slots s.link).card
  mId_le : s.mId ≤ maxShort

section Slot
variable {s : HXLibAsioServer} {i : Nat} {p : SessionPtr}

theorem slots_lt_size (h : s.TableInv) : s.slots < 10000 := by
  have hlt := h.slots_lt
  have hmax : maxAcceptItem = 10000 := rfl
  rw [slots]
  omega

theorem HeldBy.id_ne_zero (h : s.HeldBy i p) : (s.mLinks i).id ≠ LinkID.zero := by
  intro hzero
  have hpos := h.sid_pos
  rw [hzero] at hpos
  exact absurd hpos (by decide)

theorem HeldBy.own_ne_zero (h : s.HeldBy i p) : s.ownId p ≠ LinkID.zero := by
  rw [h.own]
  exact h.id_ne_zero

theorem id_eq_zero_iff (h : s.TableInv) (hi : i < s.slots) :
    (s.mLinks i).id = LinkID.zero ↔ s.link i = none := by
  rcases h.slot i hi with hfree | ⟨p, hheld⟩
  · exact iff_of_true hfree.2 hfree.1
  · refine iff_of_false hheld.id_ne_zero ?_
    rw [hheld.link_eq]
    exact Option.some_ne_none p

theorem linked_iff (s : HXLibAsioServer) (linkid : LinkID) :
    s.Linked linkid ↔
      linkid.sindex.toNat < s.slots ∧ linkid.sid = (s.mLinks linkid.sindex.toNat).id.sid := by
  rw [Linked, slots, Int.lt_toNat]

theorem freeSlot_eq_some (h : s.freeSlot = some i) : i < s.slots ∧ (s.mLinks i).id = LinkID.zero := by
  have hid := List.find?_some h
  have hmem := List.mem_of_find?_eq_some h
  exact ⟨List.mem_range.mp hmem, LinkID.id_eq_zero.mp (of_decide_eq_true hid)⟩

theorem freeSlot_eq_none : s.freeSlot = none ↔ ∀ i < s.slots, (s.mLinks i).id ≠ LinkID.zero := by
  rw [freeSlot, List.find?_eq_none]
  constructor
  · intro h i hi hzero
    exact h i (List.mem_range.mpr hi) (decide_eq_true (LinkID.id_eq_zero.mpr hzero))
  · intro h i hi hzero
    exact h i (List.mem_range.mp hi) (LinkID.id_eq_zero.mp (of_decide_eq_true hzero))

theorem nextId_le (s : HXLibAsioServer) : 1 ≤ s.nextId ∧ s.nextId ≤ maxShort := by
  rw [nextId]
  split_ifs with hwrap
  · exact ⟨le_rfl, by decide⟩
  · omega

end Slot

/-! ## What Join does -/

def nextLink (s : HXLibAsioServer) (i : Nat) : LinkID := ⟨UInt16.ofNat s.nextId, UInt16.ofNat i⟩

def occupy (s : HXLibAsioServer) (i : Nat) (p : SessionPtr) (ip : IpText) : HXLibAsioServer :=
  { s with
    mId := s.nextId
    mLinks := Function.update s.mLinks i { s.mLinks i with link := some p, id := s.nextLink i }
    mOnlineLinks := s.mOnlineLinks + 1
    mQueue := s.mQueue.add (connectMessage (s.nextLink i) ip)
    mSessions := Function.update s.mSessions p
      { s.mSessions p with mLinkid := s.nextLink i, reading := some .header } }

def refuse (s : HXLibAsioServer) (p : SessionPtr) : HXLibAsioServer :=
  { s with
    mId := s.nextId
    mSessions := Function.update s.mSessions p { s.mSessions p with
      mLinkid := LinkID.zero
      socketOpen := false } }

section Join
variable {s : HXLibAsioServer} {i : Nat} {p : SessionPtr} {ip : IpText}

theorem sid_nextLink : (s.nextLink i).sid.toNat = s.nextId := by
  have hid := nextId_le s
  have hshort : maxShort = 32767 := rfl
  refine UInt16.toNat_ofNat_of_lt ?_
  show s.nextId < 65536
  omega

theorem toNat_nextLink (h : s.TableInv) (hi : i < s.slots) :
    (s.nextLink i).sid.toNat = s.nextId ∧ (s.nextLink i).sindex.toNat = i := by
  have hlt := slots_lt_size h
  refine ⟨sid_nextLink, UInt16.toNat_ofNat_of_lt ?_⟩
  show i < 65536
  omega

theorem nextLink_ne_zero : s.nextLink i ≠ LinkID.zero := by
  intro hzero
  have hsid : (s.nextLink i).sid.toNat = s.nextId := sid_nextLink
  have hpos := (nextId_le s).1
  rw [hzero] at hsid
  exact absurd (hsid ▸ hpos) (by decide)

theorem join_eq_some (hslot : s.freeSlot = some i) :
    s.join p ip = (s.nextLink i, { s with
      mId := s.nextId
      mLinks := Function.update s.mLinks i { s.mLinks i with link := some p, id := s.nextLink i }
      mOnlineLinks := s.mOnlineLinks + 1
      mQueue := s.mQueue.add (connectMessage (s.nextLink i) ip) }) := by
  have hne : (s.nextLink i).id ≠ 0 := fun hzero =>
    nextLink_ne_zero (LinkID.id_eq_zero.mp hzero)
  have htable : s.joinTable p = (s.nextLink i, { s with
      mId := s.nextId
      mLinks := Function.update s.mLinks i { s.mLinks i with link := some p, id := s.nextLink i }
      mOnlineLinks := s.mOnlineLinks + 1 }) := by
    rw [joinTable, hslot]
    rfl
  rw [join, htable, if_pos hne]
  rfl

theorem join_eq_none (hslot : s.freeSlot = none) :
    s.join p ip = (LinkID.zero, { s with mId := s.nextId }) := by
  have htable : s.joinTable p = (LinkID.zero, { s with mId := s.nextId }) := by
    rw [joinTable, hslot]
  rw [join, htable]
  exact if_neg (not_not.mpr (LinkID.id_eq_zero.mpr rfl))

theorem accept_eq_occupy (hslot : s.freeSlot = some i) :
    s.accept p ip = s.occupy i p ip := by
  have hne : (s.nextLink i).id ≠ 0 := fun hzero =>
    nextLink_ne_zero (LinkID.id_eq_zero.mp hzero)
  rw [accept, join_eq_some hslot, modifySession, if_neg hne]
  rfl

theorem accept_eq_refuse (hslot : s.freeSlot = none) : s.accept p ip = s.refuse p := by
  rw [accept, join_eq_none hslot, modifySession, if_pos (LinkID.id_eq_zero.mpr rfl)]
  rfl

end Join

/-! ## What Leave does -/

def vacate (s : HXLibAsioServer) (i : Nat) (p : SessionPtr) (dissconnectState : UInt16) :
    HXLibAsioServer :=
  { s with
    mLinks := Function.update s.mLinks i { s.mLinks i with id := LinkID.zero, link := none }
    mOnlineLinks := s.mOnlineLinks - 1
    mQueue := s.mQueue.add (disconnectMessage (s.ownId p) dissconnectState)
    mSessions := Function.update s.mSessions p { s.mSessions p with mLinkid := LinkID.zero } }

section Leave
variable {s : HXLibAsioServer} {i : Nat} {p : SessionPtr} {dissconnectState : UInt16}

theorem leave_eq_vacate (hi : i < s.slots) (h : s.HeldBy i p) :
    s.leave p dissconnectState = s.vacate i p dissconnectState := by
  have hown : (s.mSessions p).mLinkid = (s.mLinks i).id := h.own
  have hlinked : s.Linked (s.mSessions p).mLinkid := by
    rw [linked_iff, hown, h.sindex_eq]
    exact ⟨hi, rfl⟩
  have hsome : (s.mLinks i).link.isSome := by
    have hlink : (s.mLinks i).link = some p := h.link_eq
    rw [hlink]
    rfl
  have hne : (s.mSessions p).mLinkid.id ≠ 0 := fun hzero => h.own_ne_zero (LinkID.id_eq_zero.mp hzero)
  have htable : s.leaveTable p = ((s.mSessions p).mLinkid, { s with
      mLinks := Function.update s.mLinks i { s.mLinks i with id := LinkID.zero, link := none }
      mOnlineLinks := s.mOnlineLinks - 1
      mSessions := Function.update s.mSessions p { s.mSessions p with mLinkid := LinkID.zero } }) := by
    rw [leaveTable, if_pos hlinked, hown, h.sindex_eq, if_pos hsome]
    rfl
  rw [leave, htable, if_pos hne]
  rfl

/-- A session that holds no id changes nothing by leaving: its zero id can only
match slot 0 when that slot is free already. -/
theorem leave_eq_self (h : s.TableInv) (hown : s.ownId p = LinkID.zero) :
    s.leave p dissconnectState = s := by
  have hzero : (s.mSessions p).mLinkid = LinkID.zero := hown
  have hreset : s.modifySession p HXLibAccept.resetLinkID = s := by
    rw [modifySession, HXLibAccept.resetLinkID, ← hzero, Function.update_eq_self]
  have htable : s.leaveTable p = (LinkID.zero, s) := by
    rw [leaveTable, hzero, hreset]
    by_cases hlinked : s.Linked LinkID.zero
    case neg => exact if_neg hlinked
    rw [if_pos hlinked]
    have hlt := ((linked_iff s LinkID.zero).mp hlinked).1
    have hsid : (s.mLinks 0).id.sid = 0 := ((linked_iff s LinkID.zero).mp hlinked).2.symm
    rcases h.slot 0 hlt with ⟨hnone, hid⟩ | ⟨q, hheld⟩
    · have hlink : (s.mLinks 0).link = none := hnone
      have hitem : { s.mLinks 0 with id := LinkID.zero, link := none } = s.mLinks 0 := by
        rw [← hid, ← hlink]
      show (LinkID.zero, { s with
        mOnlineLinks := if (s.mLinks 0).link.isSome then s.mOnlineLinks - 1 else s.mOnlineLinks
        mLinks := Function.update s.mLinks 0 { s.mLinks 0 with id := LinkID.zero, link := none } }) = _
      rw [hitem, Function.update_eq_self, hlink]
      rfl
    · have hpos := hheld.sid_pos
      rw [hsid] at hpos
      exact absurd hpos (by decide)
  rw [leave, htable]
  exact if_neg (not_not.mpr (LinkID.id_eq_zero.mpr rfl))

end Leave

section Kept
variable {s : HXLibAsioServer} {i : Nat} {p : SessionPtr}

theorem HeldBy.unique {q : SessionPtr} {j : Nat} (hp : s.HeldBy i p) (hq : s.HeldBy j q)
    (h : s.ownId p = s.ownId q) : i = j ∧ p = q := by
  have hid : (s.mLinks i).id = (s.mLinks j).id := by rw [← hp.own, ← hq.own, h]
  have hij : i = j := by rw [← hp.sindex_eq, ← hq.sindex_eq, hid]
  subst hij
  exact ⟨rfl, Option.some.inj (hp.link_eq.symm.trans hq.link_eq)⟩

theorem HeldBy.congr {s' : HXLibAsioServer} (h : s.HeldBy i p) (hitem : s'.mLinks i = s.mLinks i)
    (hown : s'.ownId p = s.ownId p) : s'.HeldBy i p := by
  refine ⟨?_, ?_, ?_, ?_, ?_⟩
  · rw [link, hitem]
    exact h.link_eq
  · rw [hown, hitem]
    exact h.own
  · rw [hitem]
    exact h.sindex_eq
  · rw [hitem]
    exact h.sid_pos
  · rw [hitem]
    exact h.sid_le

theorem Free.congr {s' : HXLibAsioServer} (h : s.Free i) (hitem : s'.mLinks i = s.mLinks i) :
    s'.Free i := by
  rw [Free, link, hitem]
  exact h

theorem ownId_update_self {s' : HXLibAsioServer} {a : HXLibAccept}
    (h : s'.mSessions = Function.update s.mSessions p a) : s'.ownId p = a.mLinkid := by
  rw [ownId, h, Function.update_self]

theorem ownId_update_of_ne {s' : HXLibAsioServer} {a : HXLibAccept} {q : SessionPtr}
    (h : s'.mSessions = Function.update s.mSessions p a) (hq : q ≠ p) : s'.ownId q = s.ownId q := by
  rw [ownId, h, Function.update_of_ne hq, ownId]

theorem link_of_update {s' : HXLibAsioServer} {item : AcceptItem} {q : Option SessionPtr}
    (h : s'.mLinks = Function.update s.mLinks i item) (hq : item.link = q) :
    s'.link = Function.update s.link i q := by
  funext j
  by_cases hji : j = i
  · subst hji
    rw [Function.update_self, link, h, Function.update_self, hq]
  · rw [Function.update_of_ne hji, link, h, Function.update_of_ne hji, link]

theorem heldBy_occupy {ip : IpText} (h : s.TableInv) (hi : i < s.slots) :
    (s.occupy i p ip).HeldBy i p := by
  have hself : (s.occupy i p ip).mLinks i = { s.mLinks i with link := some p, id := s.nextLink i } :=
    Function.update_self ..
  have hown : (s.occupy i p ip).ownId p = s.nextLink i :=
    (@ownId_update_self s p (s.occupy i p ip) _ rfl).trans rfl
  have hto := toNat_nextLink h hi
  have hle := nextId_le s
  refine ⟨?_, ?_, ?_, ?_, ?_⟩
  · rw [link, hself]
  · rw [hown, hself]
  · rw [hself]
    exact hto.2
  · rw [hself, hto.1]
    exact hle.1
  · rw [hself, hto.1]
    exact hle.2

theorem tableInv_occupy (h : s.TableInv) (hslot : s.freeSlot = some i) (hp : s.ownId p = LinkID.zero)
    (ip : IpText) : (s.occupy i p ip).TableInv := by
  obtain ⟨hi, hid⟩ := freeSlot_eq_some hslot
  have hnone : s.link i = none := (id_eq_zero_iff h hi).mp hid
  have hself : (s.occupy i p ip).mLinks i = { s.mLinks i with link := some p, id := s.nextLink i } :=
    Function.update_self ..
  have hother : ∀ j, j ≠ i → (s.occupy i p ip).mLinks j = s.mLinks j :=
    fun j hj => Function.update_of_ne hj ..
  have hown : ∀ q, q ≠ p → (s.occupy i p ip).ownId q = s.ownId q :=
    fun q hq => ownId_update_of_ne rfl hq
  have hnew := @heldBy_occupy s i p ip h hi
  have hold : ∀ j q, s.HeldBy j q → (s.occupy i p ip).HeldBy j q := by
    intro j q hheld
    have hji : j ≠ i := by
      rintro rfl
      exact hheld.id_ne_zero hid
    have hqp : q ≠ p := by
      rintro rfl
      exact hheld.own_ne_zero hp
    exact hheld.congr (hother j hji) (hown q hqp)
  refine ⟨h.slots_lt, ?_, ?_, ?_, (nextId_le s).2⟩
  · intro j hj
    by_cases hji : j = i
    · subst hji
      exact Or.inr ⟨p, hnew⟩
    · rcases h.slot j hj with hfree | ⟨q, hheld⟩
      · exact Or.inl (hfree.congr (hother j hji))
      · exact Or.inr ⟨q, hold j q hheld⟩
  · intro q hq
    by_cases hqp : q = p
    · subst hqp
      exact ⟨i, hi, hnew⟩
    · rw [hown q hqp] at hq
      obtain ⟨j, hj, hheld⟩ := h.session q hq
      exact ⟨j, hj, hold j q hheld⟩
  · have hlink : (s.occupy i p ip).link = Function.update s.link i (some p) :=
      link_of_update rfl rfl
    show s.mOnlineLinks + 1 = ((Slots.occupied s.slots (s.occupy i p ip).link).card : Int)
    rw [hlink, Slots.card_occupy p hi hnone, h.online]
    rfl

theorem ownId_refuse (hp : s.ownId p = LinkID.zero) (q : SessionPtr) :
    (s.refuse p).ownId q = s.ownId q := by
  by_cases hqp : q = p
  · subst hqp
    rw [hp]
    exact (@ownId_update_self s q (s.refuse q) _ rfl).trans rfl
  · exact ownId_update_of_ne rfl hqp

theorem tableInv_refuse (h : s.TableInv) (hp : s.ownId p = LinkID.zero) : (s.refuse p).TableInv := by
  have hown := ownId_refuse hp
  refine ⟨h.slots_lt, ?_, ?_, h.online, (nextId_le s).2⟩
  · intro j hj
    rcases h.slot j hj with hfree | ⟨q, hheld⟩
    · exact Or.inl hfree
    · exact Or.inr ⟨q, hheld.congr rfl (hown q)⟩
  · intro q hq
    rw [hown q] at hq
    obtain ⟨j, hj, hheld⟩ := h.session q hq
    exact ⟨j, hj, hheld.congr rfl (hown q)⟩

theorem mLinks_vacate_self {st : UInt16} :
    (s.vacate i p st).mLinks i = { s.mLinks i with id := LinkID.zero, link := none } :=
  Function.update_self ..

theorem tableInv_vacate (h : s.TableInv) (hi : i < s.slots) (hheld : s.HeldBy i p) (st : UInt16) :
    (s.vacate i p st).TableInv := by
  have hself := @mLinks_vacate_self s i p st
  have hother : ∀ j, j ≠ i → (s.vacate i p st).mLinks j = s.mLinks j :=
    fun j hj => Function.update_of_ne hj ..
  have howni : (s.vacate i p st).ownId p = LinkID.zero :=
    (@ownId_update_self s p (s.vacate i p st) _ rfl).trans rfl
  have hown : ∀ q, q ≠ p → (s.vacate i p st).ownId q = s.ownId q :=
    fun q hq => ownId_update_of_ne rfl hq
  have hold : ∀ j q, j ≠ i → s.HeldBy j q → (s.vacate i p st).HeldBy j q := by
    intro j q hji hq
    have hqp : q ≠ p := by
      rintro rfl
      exact hji (hq.unique hheld rfl).1
    exact hq.congr (hother j hji) (hown q hqp)
  refine ⟨h.slots_lt, ?_, ?_, ?_, h.mId_le⟩
  · intro j hj
    by_cases hji : j = i
    · subst hji
      refine Or.inl ⟨?_, ?_⟩
      · rw [link, hself]
      · rw [hself]
    · rcases h.slot j hj with hfree | ⟨q, hq⟩
      · exact Or.inl (hfree.congr (hother j hji))
      · exact Or.inr ⟨q, hold j q hji hq⟩
  · intro q hq
    have hqp : q ≠ p := by
      rintro rfl
      exact hq howni
    rw [hown q hqp] at hq
    obtain ⟨j, hj, hq⟩ := h.session q hq
    have hji : j ≠ i := by
      rintro rfl
      exact hqp (Option.some.inj (hq.link_eq.symm.trans hheld.link_eq))
    exact ⟨j, hj, hold j q hji hq⟩
  · have hlink : (s.vacate i p st).link = Function.update s.link i none := link_of_update rfl rfl
    have hsome : (s.link i).isSome := by
      rw [hheld.link_eq]
      rfl
    have hcard := Slots.card_vacate hi hsome
    show s.mOnlineLinks - 1 = ((Slots.occupied s.slots (s.vacate i p st).link).card : Int)
    rw [hlink, h.online]
    omega

theorem tableInv_accept (h : s.TableInv) (hp : s.ownId p = LinkID.zero) (ip : IpText) :
    (s.accept p ip).TableInv := by
  cases hslot : s.freeSlot with
  | some i =>
    rw [accept_eq_occupy hslot]
    exact tableInv_occupy h hslot hp ip
  | none =>
    rw [accept_eq_refuse hslot]
    exact tableInv_refuse h hp

theorem tableInv_leave (h : s.TableInv) (st : UInt16) : (s.leave p st).TableInv := by
  by_cases hown : s.ownId p = LinkID.zero
  · rw [leave_eq_self h hown]
    exact h
  · obtain ⟨i, hi, hheld⟩ := h.session p hown
    rw [leave_eq_vacate hi hheld]
    exact tableInv_vacate h hi hheld st

theorem ownId_leave (h : s.TableInv) (st : UInt16) : (s.leave p st).ownId p = LinkID.zero := by
  by_cases hown : s.ownId p = LinkID.zero
  · rw [leave_eq_self h hown]
    exact hown
  · obtain ⟨i, hi, hheld⟩ := h.session p hown
    rw [leave_eq_vacate hi hheld]
    exact (@ownId_update_self s p (s.vacate i p st) _ rfl).trans rfl

theorem ownId_leave_of_ne {q : SessionPtr} (h : s.TableInv) (st : UInt16) (hq : q ≠ p) :
    (s.leave p st).ownId q = s.ownId q := by
  by_cases hown : s.ownId p = LinkID.zero
  · rw [leave_eq_self h hown]
  · obtain ⟨i, hi, hheld⟩ := h.session p hown
    rw [leave_eq_vacate hi hheld]
    exact ownId_update_of_ne rfl hq

theorem ownId_accept_of_ne {q : SessionPtr} (ip : IpText) (hq : q ≠ p) :
    (s.accept p ip).ownId q = s.ownId q := by
  cases hslot : s.freeSlot with
  | some i =>
    rw [accept_eq_occupy hslot]
    exact ownId_update_of_ne rfl hq
  | none =>
    rw [accept_eq_refuse hslot]
    exact ownId_update_of_ne rfl hq

theorem mMaxLinks_accept (ip : IpText) : (s.accept p ip).mMaxLinks = s.mMaxLinks := by
  cases hslot : s.freeSlot with
  | some i => rw [accept_eq_occupy hslot, occupy]
  | none => rw [accept_eq_refuse hslot, refuse]

theorem mId_accept (ip : IpText) : (s.accept p ip).mId = s.nextId := by
  cases hslot : s.freeSlot with
  | some i => rw [accept_eq_occupy hslot, occupy]
  | none => rw [accept_eq_refuse hslot, refuse]

theorem mId_leave (h : s.TableInv) (st : UInt16) : (s.leave p st).mId = s.mId := by
  by_cases hown : s.ownId p = LinkID.zero
  · rw [leave_eq_self h hown]
  · obtain ⟨i, hi, hheld⟩ := h.session p hown
    rw [leave_eq_vacate hi hheld, vacate]

theorem mMaxLinks_leave (h : s.TableInv) (st : UInt16) : (s.leave p st).mMaxLinks = s.mMaxLinks := by
  by_cases hown : s.ownId p = LinkID.zero
  · rw [leave_eq_self h hown]
  · obtain ⟨i, hi, hheld⟩ := h.session p hown
    rw [leave_eq_vacate hi hheld, vacate]

theorem mLinks_accept_of_ge {j : Nat} (ip : IpText) (hj : s.slots ≤ j) :
    (s.accept p ip).mLinks j = s.mLinks j := by
  cases hslot : s.freeSlot with
  | some i =>
    have hi := (freeSlot_eq_some hslot).1
    rw [accept_eq_occupy hslot]
    exact Function.update_of_ne (by omega) ..
  | none => rw [accept_eq_refuse hslot, refuse]

theorem mLinks_leave_of_ge {j : Nat} (h : s.TableInv) (st : UInt16) (hj : s.slots ≤ j) :
    (s.leave p st).mLinks j = s.mLinks j := by
  by_cases hown : s.ownId p = LinkID.zero
  · rw [leave_eq_self h hown]
  · obtain ⟨i, hi, hheld⟩ := h.session p hown
    rw [leave_eq_vacate hi hheld]
    exact Function.update_of_ne (by omega) ..

end Kept

theorem start_eq_true {s s' : HXLibAsioServer} {maxLinks : Int} (h : s.start maxLinks = (true, s')) :
    0 ≤ maxLinks ∧ maxLinks < maxAcceptItem ∧
    s' = { s with mMaxLinks := maxLinks, mRunning := true } := by
  rw [start] at h
  split_ifs at h with hrun hrange
  · exact nomatch h
  · exact nomatch h
  · obtain ⟨-, rfl⟩ := Prod.mk.inj h
    exact ⟨by omega, by omega, rfl⟩

section Start
variable {context : Nat → Nat} {readMsg : SessionPtr → HXMessagePackage}
variable {mHeader : SessionPtr → MBigHeader} {maxLinks : Int} {s : HXLibAsioServer}

theorem ownId_start (h : (new context readMsg mHeader).start maxLinks = (true, s)) (p : SessionPtr) :
    s.ownId p = LinkID.zero := by
  obtain ⟨-, -, rfl⟩ := start_eq_true h
  rfl

theorem tableInv_start (h : (new context readMsg mHeader).start maxLinks = (true, s)) : s.TableInv := by
  obtain ⟨-, hlt, rfl⟩ := start_eq_true h
  refine ⟨hlt, ?_, ?_, ?_, Nat.zero_le _⟩
  · intro i _
    exact Or.inl ⟨rfl, rfl⟩
  · intro p hp
    exact absurd rfl hp
  · have hempty : Slots.occupied maxLinks.toNat (fun _ => (none : Option SessionPtr)) = ∅ :=
      Slots.occupied_eq_empty fun _ _ => rfl
    show (0 : Int) = (Slots.occupied maxLinks.toNat fun _ => (none : Option SessionPtr)).card
    rw [hempty]
    rfl

end Start
end HXLibAsioServer

/-! ## Runs of Join and Leave

A session joins when it is accepted, so no session joins twice; it may leave at
any time and any number of times. -/

namespace ConnectionTable
open HXLibAsioServer

inductive Event
  | join (link : SessionPtr) (ip : IpText)
  | leave (link : SessionPtr) (dissconnectState : UInt16)

structure State where
  server : HXLibAsioServer
  joined : List SessionPtr

def step (s : State) : Event → Option State
  | .join link ip => if link ∈ s.joined then none else some ⟨s.server.accept link ip, link :: s.joined⟩
  | .leave link dissconnectState => some { s with server := s.server.leave link dissconnectState }

structure Inv (s₀ : HXLibAsioServer) (s : State) : Prop where
  table : s.server.TableInv
  fresh : ∀ p, p ∉ s.joined → s.server.ownId p = LinkID.zero
  maxLinks : s.server.mMaxLinks = s₀.mMaxLinks
  beyond : ∀ i, s₀.slots ≤ i → s.server.mLinks i = s₀.mLinks i

variable {s₀ : HXLibAsioServer} {s s' : State} {e : Event}

theorem Inv.slots_eq (h : Inv s₀ s) : s.server.slots = s₀.slots := by
  rw [slots, slots, h.maxLinks]

theorem step_inv (h : Inv s₀ s) (hstep : step s e = some s') : Inv s₀ s' := by
  have hslots := h.slots_eq
  cases e with
  | join p ip =>
    rw [step] at hstep
    split_ifs at hstep with hp
    obtain rfl := Option.some.inj hstep
    refine ⟨tableInv_accept h.table (h.fresh p hp) ip, ?_, ?_, ?_⟩
    · intro q hq
      rw [List.mem_cons, not_or] at hq
      show (s.server.accept p ip).ownId q = LinkID.zero
      rw [ownId_accept_of_ne ip hq.1]
      exact h.fresh q hq.2
    · exact (mMaxLinks_accept ip).trans h.maxLinks
    · intro i hi
      exact (mLinks_accept_of_ge ip (hslots.trans_le hi)).trans (h.beyond i hi)
  | leave p st =>
    obtain rfl := Option.some.inj hstep
    refine ⟨tableInv_leave h.table st, ?_, ?_, ?_⟩
    · intro q hq
      show (s.server.leave p st).ownId q = LinkID.zero
      by_cases hqp : q = p
      · subst hqp
        exact ownId_leave h.table st
      · rw [ownId_leave_of_ne h.table st hqp]
        exact h.fresh q hq
    · exact (mMaxLinks_leave h.table st).trans h.maxLinks
    · intro i hi
      exact (mLinks_leave_of_ge h.table st (hslots.trans_le hi)).trans (h.beyond i hi)

theorem ownId_step {p : SessionPtr} (h : Inv s₀ s) (hzero : s.server.ownId p = LinkID.zero)
    (he : ∀ ip, e ≠ .join p ip) (hstep : step s e = some s') : s'.server.ownId p = LinkID.zero := by
  cases e with
  | join q ip =>
    have hpq : p ≠ q := by
      rintro rfl
      exact he ip rfl
    rw [step] at hstep
    split_ifs at hstep
    obtain rfl := Option.some.inj hstep
    exact (ownId_accept_of_ne ip hpq).trans hzero
  | leave q st =>
    obtain rfl := Option.some.inj hstep
    show (s.server.leave q st).ownId p = LinkID.zero
    by_cases hpq : p = q
    · subst hpq
      exact ownId_leave h.table st
    · rw [ownId_leave_of_ne h.table st hpq]
      exact hzero

/-- A session that has left holds no id again, unless it joins anew. -/
theorem ownId_of_left {p : SessionPtr} {st : UInt16} {es₁ es₂ : List Event} (h : Inv s₀ s)
    (hrun : run step s (es₁ ++ .leave p st :: es₂) = some s') (hes : ∀ ip, .join p ip ∉ es₂) :
    s'.server.ownId p = LinkID.zero := by
  obtain ⟨t, ht, hrun⟩ := run_append.mp hrun
  obtain ⟨u, hu, hrun⟩ := run_cons.mp hrun
  have htinv : Inv s₀ t := run_invariant (fun _ _ _ => step_inv) ht h
  have hleft : u.server.ownId p = LinkID.zero := by
    obtain rfl := Option.some.inj hu
    exact ownId_leave htinv.table st
  have halong : Along step (fun _ e => ∀ ip, e ≠ .join p ip) u es₂ := by
    apply along_of_forall
    rintro e he ip rfl
    exact hes ip he
  have hkept : Inv s₀ s' ∧ s'.server.ownId p = LinkID.zero := by
    refine @run_invariant_along _ _ _ (fun s => Inv s₀ s ∧ s.server.ownId p = LinkID.zero) _ ?_ _ _ _
      halong hrun ⟨step_inv htinv hu, hleft⟩
    intro s e s' hs he hstep
    exact ⟨step_inv hs.1 hstep, ownId_step hs.1 hs.2 he hstep⟩
  exact hkept.2

/-! ## The table after any run -/

variable {context : Nat → Nat} {readMsg : SessionPtr → HXMessagePackage}
variable {mHeader : SessionPtr → MBigHeader} {maxLinks : Int}

theorem inv_start (h : (new context readMsg mHeader).start maxLinks = (true, s₀)) : Inv s₀ ⟨s₀, []⟩ :=
  ⟨tableInv_start h, fun p _ => ownId_start h p, rfl, fun _ _ => rfl⟩

theorem slot_iff {s : HXLibAsioServer} (h : s.TableInv) {i : Nat} (hi : i < s.slots) :
    ((s.link i).isSome ↔ (s.mLinks i).id.id ≠ 0) ∧
    ((s.mLinks i).id.id ≠ 0 → (s.mLinks i).id.sindex.toNat = i ∧
      1 ≤ (s.mLinks i).id.sid.toNat ∧ (s.mLinks i).id.sid.toNat ≤ 32767 ∧
      ∃ p, s.link i = some p ∧ ∀ q, s.ownId q = (s.mLinks i).id ↔ q = p) := by
  have hid : (s.mLinks i).id.id ≠ 0 ↔ (s.mLinks i).id ≠ LinkID.zero := not_congr LinkID.id_eq_zero
  constructor
  · rw [hid, ne_eq, id_eq_zero_iff h hi, ← ne_eq, Option.isSome_iff_ne_none]
  · intro hne
    rcases h.slot i hi with hfree | ⟨p, hheld⟩
    · exact absurd hfree.2 (hid.mp hne)
    · refine ⟨hheld.sindex_eq, hheld.sid_pos, hheld.sid_le, p, hheld.link_eq, ?_⟩
      intro q
      constructor
      · intro hq
        have hqne : s.ownId q ≠ LinkID.zero := hq ▸ hheld.id_ne_zero
        obtain ⟨j, _, hqheld⟩ := h.session q hqne
        exact (hqheld.unique hheld (hq.trans hheld.own.symm)).2
      · rintro rfl
        exact hheld.own

theorem join_eq_zero_iff {s : HXLibAsioServer} (h : s.TableInv) (p : SessionPtr) (ip : IpText) :
    (s.join p ip).1.id = 0 ↔ ∀ i < s.slots, (s.link i).isSome := by
  cases hslot : s.freeSlot with
  | some i =>
    obtain ⟨hi, hzero⟩ := freeSlot_eq_some hslot
    rw [join_eq_some hslot]
    refine iff_of_false ?_ ?_
    · exact fun hid => nextLink_ne_zero (LinkID.id_eq_zero.mp hid)
    · exact fun hall => (slot_iff h hi).1.mp (hall i hi) (LinkID.id_eq_zero.mpr hzero)
  | none =>
    rw [join_eq_none hslot]
    refine iff_of_true (LinkID.id_eq_zero.mpr rfl) ?_
    intro i hi
    exact (slot_iff h hi).1.mpr fun hid => freeSlot_eq_none.mp hslot i hi (LinkID.id_eq_zero.mp hid)

/-- The connection table after any run: (a) the counter, (b) the occupied slots
and their sessions, (c) the slots behind `maxLinks`, (d) when `Join` refuses, and
(e) leaving again after having left. -/
theorem run_table (hstart : (new context readMsg mHeader).start maxLinks = (true, s₀))
    {es : List Event} (hrun : run step ⟨s₀, []⟩ es = some s) :
    (s.server.mOnlineLinks = (Slots.occupied maxLinks.toNat s.server.link).card ∧
      0 ≤ s.server.mOnlineLinks ∧ s.server.mOnlineLinks ≤ maxLinks) ∧
    (∀ i < maxLinks.toNat, ((s.server.link i).isSome ↔ (s.server.mLinks i).id.id ≠ 0) ∧
      ((s.server.mLinks i).id.id ≠ 0 → (s.server.mLinks i).id.sindex.toNat = i ∧
        1 ≤ (s.server.mLinks i).id.sid.toNat ∧ (s.server.mLinks i).id.sid.toNat ≤ 32767 ∧
        ∃ p, s.server.link i = some p ∧ ∀ q, s.server.ownId q = (s.server.mLinks i).id ↔ q = p)) ∧
    (∀ i, maxLinks.toNat ≤ i → s.server.mLinks i = s₀.mLinks i) ∧
    (∀ p ip, (s.server.join p ip).1.id = 0 ↔ ∀ i < maxLinks.toNat, (s.server.link i).isSome) ∧
    (∀ es₁ p st es₂, es = es₁ ++ .leave p st :: es₂ → (∀ ip, .join p ip ∉ es₂) →
      ∀ st', s.server.leave p st' = s.server) := by
  obtain ⟨hpos, hlt, hs₀⟩ := start_eq_true hstart
  have hinv : Inv s₀ s := run_invariant (fun _ _ _ => step_inv) hrun (inv_start hstart)
  have hslots₀ : s₀.slots = maxLinks.toNat := by rw [hs₀, slots]
  have hslots : s.server.slots = maxLinks.toNat := hinv.slots_eq.trans hslots₀
  refine ⟨?_, ?_, ?_, ?_, ?_⟩
  · have honline := hinv.table.online
    have hcard := Slots.card_occupied_le maxLinks.toNat s.server.link
    rw [hslots] at honline
    refine ⟨honline, ?_, ?_⟩ <;> omega
  · exact fun i hi => slot_iff hinv.table (hslots ▸ hi)
  · exact fun i hi => hinv.beyond i (hslots₀.trans_le hi)
  · intro p ip
    rw [← hslots]
    exact join_eq_zero_iff hinv.table p ip
  · rintro es₁ p st es₂ rfl hes st'
    exact leave_eq_self hinv.table (ownId_of_left (inv_start hstart) hrun hes)

/-- One slot, joined, left and left again. -/
theorem run_table_zeroed : ∃ s, run step ⟨(zeroed.start 1).2, []⟩
      [.join 0 IpText.empty, .leave 0 dissconnectReadError, .leave 0 dissconnectWriteError] = some s ∧
    s.server.mOnlineLinks = (Slots.occupied 1 s.server.link).card := by
  have hstart : zeroed.start 1 = (true, (zeroed.start 1).2) := rfl
  have hrun : ∃ s, run step ⟨(zeroed.start 1).2, []⟩
      [.join 0 IpText.empty, .leave 0 dissconnectReadError, .leave 0 dissconnectWriteError] = some s :=
    ⟨_, rfl⟩
  obtain ⟨s, hrun⟩ := hrun
  exact ⟨s, hrun, (run_table hstart hrun).1.1⟩

end ConnectionTable
end HXService
