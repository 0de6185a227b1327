import HXService.Service

/-! The life of a server: `Start` and `Stop` in any order with the calls that use the
connection table. The table is an array of `MAX_ACCEPT_ITEM` slots; here each access
to it is tested. -/

namespace HXService
open Runs

namespace HXLibAsioServer

/-! ## The accesses to the array -/

def item (s : HXLibAsioServer) (i : Nat) : Checked AcceptItem :=
  if (i : Int) < maxAcceptItem then .ok (s.mLinks i) else .error .outsideArray

def searchFree (s : HXLibAsioServer) : Checked (Option Nat) :=
  (List.range s.mMaxLinks.toNat).findM? fun i => do
    let item ← s.item i
    pure (decide (item.id.id = 0))

-- the test of all others; what they do to the table, they do at the index of the test
def testLinked (s : HXLibAsioServer) (linkid : LinkID) : Checked Bool :=
  if (linkid.sindex.toNat : Int) < s.mMaxLinks then do
    let item ← s.item linkid.sindex.toNat
    pure (decide (linkid.sid = item.id.sid))
  else pure false

/-- Every access is to a slot of the array, and finds what the slots hold. -/
structure InRange (s : HXLibAsioServer) : Prop where
  maxLinks : s.mMaxLinks ≤ maxAcceptItem
  join : s.searchFree = .ok s.freeSlot
  linked : ∀ linkid, s.testLinked linkid = .ok (decide (s.Linked linkid))

section Accesses
variable {s : HXLibAsioServer} {i : Nat}

theorem item_eq (h : s.mMaxLinks ≤ maxAcceptItem) (hi : (i : Int) < s.mMaxLinks) :
    s.item i = .ok (s.mLinks i) := if_pos (hi.trans_le h)

theorem findM_item (is : List Nat) (h : ∀ i ∈ is, s.item i = .ok (s.mLinks i)) :
    (is.findM? fun i => do
      let item ← s.item i
      pure (decide (item.id.id = 0))) = .ok (is.find? fun i => (s.mLinks i).id.id = 0) := by
  induction is with
  | nil => rfl
  | cons i is ih =>
    have hrest := ih fun j hj => h j (List.mem_cons_of_mem i hj)
    rw [List.findM?, h i List.mem_cons_self, List.find?]
    cases hfree : decide ((s.mLinks i).id.id = 0) with
    | true =>
      rw [ok_bind, hfree]
      rfl
    | false =>
      rw [ok_bind, hfree]
      exact hrest

theorem inRange_of_le (h : s.mMaxLinks ≤ maxAcceptItem) : s.InRange := by
  refine ⟨h, ?_, ?_⟩
  · refine findM_item _ fun i hi => item_eq h ?_
    exact Int.lt_toNat.mp (List.mem_range.mp hi)
  · intro linkid
    unfold testLinked
    split_ifs with hlt
    · rw [item_eq h hlt, ok_bind]
      exact congrArg Except.ok (decide_eq_decide.mpr (and_iff_right hlt).symm)
    · exact congrArg Except.ok (decide_eq_false fun hlinked => hlt hlinked.1).symm

end Accesses

/-! ## The slots and their counter

This much every call keeps, whatever identifier the session has. -/

structure Counted (s : HXLibAsioServer) : Prop where
  id : ∀ i : Nat, (i : Int) < maxAcceptItem → ((s.mLinks i).id = LinkID.zero ↔ s.link i = none)
  online : s.mOnlineLinks = (Slots.occupied maxAcceptItem.toNat s.link).card

def Clear (s : HXLibAsioServer) : Prop :=
  (∀ i : Nat, (i : Int) < maxAcceptItem → s.Free i) ∧ s.mOnlineLinks = 0

section Counted
variable {s t : HXLibAsioServer} {i : Nat} {p : SessionPtr}

theorem clear_iff (h : s.Counted) : s.Clear ↔ s.mOnlineLinks = 0 := by
  constructor
  · exact And.right
  · intro hzero
    have hnone : ∀ i : Nat, (i : Int) < maxAcceptItem → s.link i = none := by
      intro i hi
      by_contra hsome
      have hmem : i ∈ Slots.occupied maxAcceptItem.toNat s.link :=
        Slots.mem_occupied.mpr ⟨Int.lt_toNat.mpr hi, Option.ne_none_iff_isSome.mp hsome⟩
      have hcard := Finset.card_pos.mpr ⟨i, hmem⟩
      have honline := h.online
      omega
    exact ⟨fun i hi => ⟨hnone i hi, (h.id i hi).mpr (hnone i hi)⟩, hzero⟩

theorem Counted.sameTable (h : s.Counted) (hsame : SameTable s t) : t.Counted := by
  refine ⟨?_, ?_⟩
  · intro i hi
    rw [hsame.id i, hsame.link i]
    exact h.id i hi
  · have hlink : t.link = s.link := funext hsame.link
    rw [hsame.online, hlink]
    exact h.online

theorem counted_new (context : Nat → Nat) (readMsg : SessionPtr → HXMessagePackage)
    (mHeader : SessionPtr → MBigHeader) : (new context readMsg mHeader).Counted := by
  have hlink : (new context readMsg mHeader).link = fun _ => none := rfl
  refine ⟨fun _ _ => iff_of_true rfl rfl, ?_⟩
  rw [hlink, Slots.occupied_eq_empty fun _ _ => rfl]
  rfl

theorem counted_accept (h : s.Counted) (hmax : s.mMaxLinks ≤ maxAcceptItem) (ip : IpText) :
    (s.accept p ip).Counted := by
  cases hslot : s.freeSlot with
  | none =>
    rw [accept_eq_refuse hslot]
    exact ⟨h.id, h.online⟩
  | some i =>
    obtain ⟨hi, hid⟩ := freeSlot_eq_some hslot
    have hi : (i : Int) < maxAcceptItem := (Int.lt_toNat.mp hi).trans_le hmax
    have hnone : s.link i = none := (h.id i hi).mp hid
    have hlinks : (s.occupy i p ip).mLinks =
        Function.update s.mLinks i { s.mLinks i with link := some p, id := s.nextLink i } := rfl
    have hlink : (s.occupy i p ip).link = Function.update s.link i (some p) :=
      link_of_update hlinks rfl
    rw [accept_eq_occupy hslot]
    refine ⟨?_, ?_⟩
    · intro j hj
      rw [hlinks, hlink]
      by_cases hji : j = i
      · subst hji
        rw [Function.update_self, Function.update_self]
        exact iff_of_false nextLink_ne_zero (Option.some_ne_none p)
      · rw [Function.update_of_ne hji, Function.update_of_ne hji]
        exact h.id j hj
    · show s.mOnlineLinks + 1 = ((Slots.occupied _ (s.occupy i p ip).link).card : Int)
      rw [hlink, Slots.card_occupy p (Int.lt_toNat.mpr hi) hnone, h.online]
      rfl

/-- A session that leaves frees the slot its identifier reaches, or touches no slot. -/
theorem leave_cases (s : HXLibAsioServer) (p : SessionPtr) (st : UInt16) :
    (s.leave p st).mMaxLinks = s.mMaxLinks ∧
      ((s.leave p st).mLinks = s.mLinks ∧ (s.leave p st).mOnlineLinks = s.mOnlineLinks ∨
        ∃ i : Nat, (i : Int) < s.mMaxLinks ∧
          (s.leave p st).mLinks =
            Function.update s.mLinks i { s.mLinks i with id := LinkID.zero, link := none } ∧
          (s.leave p st).mOnlineLinks =
            if (s.link i).isSome then s.mOnlineLinks - 1 else s.mOnlineLinks) := by
  have htable : (s.leave p st).mMaxLinks = (s.leaveTable p).2.mMaxLinks ∧
      (s.leave p st).mLinks = (s.leaveTable p).2.mLinks ∧
      (s.leave p st).mOnlineLinks = (s.leaveTable p).2.mOnlineLinks := by
    unfold leave
    dsimp only
    split_ifs <;> exact ⟨rfl, rfl, rfl⟩
  rw [htable.1, htable.2.1, htable.2.2]
  unfold leaveTable
  dsimp only
  by_cases hlinked : s.Linked (s.mSessions p).mLinkid
  · rw [if_pos hlinked]
    exact ⟨rfl, Or.inr ⟨_, hlinked.1, rfl, rfl⟩⟩
  · rw [if_neg hlinked]
    exact ⟨rfl, Or.inl ⟨rfl, rfl⟩⟩

theorem counted_leave (h : s.Counted) (hmax : s.mMaxLinks ≤ maxAcceptItem) (st : UInt16) :
    (s.leave p st).Counted := by
  obtain ⟨-, ⟨hlinks, honline⟩ | ⟨i, hi, hlinks, honline⟩⟩ := leave_cases s p st
  · have hlink : (s.leave p st).link = s.link := by
      funext j
      rw [link, hlinks, link]
    refine ⟨?_, ?_⟩
    · rw [hlinks, hlink]
      exact h.id
    · rw [hlink, honline]
      exact h.online
  · have hi : i < maxAcceptItem.toNat := Int.lt_toNat.mpr (hi.trans_le hmax)
    have hlink : (s.leave p st).link = Function.update s.link i none := link_of_update hlinks rfl
    refine ⟨?_, ?_⟩
    · intro j hj
      rw [hlinks, hlink]
      by_cases hji : j = i
      · subst hji
        rw [Function.update_self, Function.update_self]
        exact iff_of_true rfl rfl
      · rw [Function.update_of_ne hji, Function.update_of_ne hji]
        exact h.id j hj
    · rw [hlink, honline]
      split_ifs with hsome
      · have hcard := Slots.card_vacate hi hsome
        have hbefore := h.online
        omega
      · have hnone : s.link i = none := Option.not_isSome_iff_eq_none.mp hsome
        rw [← hnone, Function.update_eq_self]
        exact h.online

theorem online_leave (h : s.Counted) (hmax : s.mMaxLinks ≤ maxAcceptItem) (hzero : s.mOnlineLinks = 0)
    (st : UInt16) : (s.leave p st).mOnlineLinks = 0 := by
  obtain ⟨-, ⟨-, honline⟩ | ⟨i, hi, -, honline⟩⟩ := leave_cases s p st
  · exact honline.trans hzero
  · have hnone := (((clear_iff h).mpr hzero).1 i (hi.trans_le hmax)).1
    rw [honline, hnone]
    exact hzero

end Counted

end HXLibAsioServer

namespace LifeCycle
open HXLibAsioServer

/-! ## The calls on the table -/

inductive Call
  | join (link : SessionPtr) (ip : IpText)
  | leave (link : SessionPtr) (dissconnectState : UInt16)
  | send (linkid : LinkID) (msg : HXMessagePackage)
  | sendBig (linkid : LinkID) (msg : HXBigMessageQueue)
  | sendData (linkid : LinkID) (id id2 : UInt16) (data : Option (List UInt8))
  | close (linkid : LinkID)
  | setContext (linkid : LinkID) (context : Nat)
  | getContext (linkid : LinkID)

def Call.isJoin : Call → Bool
  | .join .. => true
  | _ => false

def Call.perform (s : HXLibAsioServer) : Call → Checked HXLibAsioServer
  | .join link ip => do
    let _ ← s.searchFree
    pure (s.accept link ip)
  | .leave link dissconnectState => do
    let _ ← s.testLinked (s.mSessions link).mLinkid
    pure (s.leave link dissconnectState)
  | .send linkid msg => do
    let _ ← s.testLinked linkid
    let sent ← s.send linkid msg
    pure sent.2
  | .sendBig linkid msg => do
    let _ ← s.testLinked linkid
    let sent ← s.sendBig linkid msg
    pure sent.2
  | .sendData linkid id id2 data => do
    let _ ← s.testLinked linkid
    let sent ← s.sendData linkid id id2 data
    pure sent.2
  | .close linkid => do
    let _ ← s.testLinked linkid
    s.close linkid
  | .setContext linkid context => do
    let _ ← s.testLinked linkid
    pure (s.setContext linkid context)
  | .getContext linkid => do
    let _ ← s.testLinked linkid
    pure s

section Calls
variable {s t : HXLibAsioServer} {c : Call}

/-- `Join` and `Leave` apart, a call leaves the slots and the counter alone. -/
theorem perform_cases (h : c.perform s = .ok t) :
    (∃ p ip, c = .join p ip ∧ t = s.accept p ip) ∨ (∃ p st, c = .leave p st ∧ t = s.leave p st) ∨
      c.isJoin = false ∧ SameTable s t := by
  cases c with
  | join p ip =>
    obtain ⟨-, -, ht⟩ := bind_eq_ok.mp h
    exact Or.inl ⟨p, ip, rfl, (Except.ok.inj ht).symm⟩
  | leave p st =>
    obtain ⟨-, -, ht⟩ := bind_eq_ok.mp h
    exact Or.inr (Or.inl ⟨p, st, rfl, (Except.ok.inj ht).symm⟩)
  | send linkid msg =>
    obtain ⟨-, -, h⟩ := bind_eq_ok.mp h
    obtain ⟨sent, hsent, ht⟩ := bind_eq_ok.mp h
    obtain rfl := Except.ok.inj ht
    exact Or.inr (Or.inr ⟨rfl, (untouched_send hsent).toSameTable⟩)
  | sendBig linkid msg =>
    obtain ⟨-, -, h⟩ := bind_eq_ok.mp h
    obtain ⟨sent, hsent, ht⟩ := bind_eq_ok.mp h
    obtain rfl := Except.ok.inj ht
    exact Or.inr (Or.inr ⟨rfl, (untouched_sendBig hsent).toSameTable⟩)
  | sendData linkid id id2 data =>
    obtain ⟨-, -, h⟩ := bind_eq_ok.mp h
    obtain ⟨sent, hsent, ht⟩ := bind_eq_ok.mp h
    obtain rfl := Except.ok.inj ht
    exact Or.inr (Or.inr ⟨rfl, (untouched_sendData hsent).toSameTable⟩)
  | close linkid =>
    obtain ⟨-, -, h⟩ := bind_eq_ok.mp h
    exact Or.inr (Or.inr ⟨rfl, (untouched_close h).toSameTable⟩)
  | setContext linkid context =>
    obtain ⟨-, -, ht⟩ := bind_eq_ok.mp h
    obtain rfl := Except.ok.inj ht
    exact Or.inr (Or.inr ⟨rfl, (untouched_setContext s linkid context).toSameTable⟩)
  | getContext linkid =>
    obtain ⟨-, -, ht⟩ := bind_eq_ok.mp h
    obtain rfl := Except.ok.inj ht
    exact Or.inr (Or.inr ⟨rfl, SameTable.refl s⟩)

theorem mMaxLinks_perform (h : c.perform s = .ok t) : t.mMaxLinks = s.mMaxLinks := by
  rcases perform_cases h with ⟨p, ip, -, rfl⟩ | ⟨p, st, -, rfl⟩ | ⟨-, hsame⟩
  · exact mMaxLinks_accept ip
  · exact (leave_cases s p st).1
  · exact hsame.maxLinks

theorem counted_perform (hcounted : s.Counted) (hmax : s.mMaxLinks ≤ maxAcceptItem)
    (h : c.perform s = .ok t) : t.Counted := by
  rcases perform_cases h with ⟨p, ip, -, rfl⟩ | ⟨p, st, -, rfl⟩ | ⟨-, hsame⟩
  · exact counted_accept hcounted hmax ip
  · exact counted_leave hcounted hmax st
  · exact hcounted.sameTable hsame

theorem online_perform (hcounted : s.Counted) (hmax : s.mMaxLinks ≤ maxAcceptItem)
    (hzero : s.mOnlineLinks = 0) (hc : c.isJoin = false) (h : c.perform s = .ok t) :
    t.mOnlineLinks = 0 := by
  rcases perform_cases h with ⟨p, ip, rfl, -⟩ | ⟨p, st, -, rfl⟩ | ⟨-, hsame⟩
  · cases hc
  · exact online_leave hcounted hmax hzero st
  · exact hsame.online.trans hzero

end Calls

/-! ## Start and Stop

`services` are the threads `Start` has made whose `OnService` has not opened the port
yet; only then is `m_server` set. `stopped`: a `Stop` has come, and no `Join` since. -/

structure State where
  server : HXLibAsioServer
  mPort : Int32
  services : Nat
  stopped : Bool

def initial (server : HXLibAsioServer) : State := ⟨server, 12345, 0, false⟩

def State.start (s : State) (port maxLinks : Int32) : Bool × State :=
  if s.server.mRunning then (false, s)
  else
    let stored := { s with server := { s.server with mMaxLinks := maxLinks.toInt } }
    if maxLinks.toInt < 0 ∨ maxAcceptItem ≤ maxLinks.toInt then (false, stored)
    else (true, { stored with mPort := port, services := s.services + 1 })

/-- `opened` is false where opening the port throws, which is only logged. -/
def State.onService (s : State) (opened : Bool) : State :=
  { s with
    services := s.services - 1
    server := if opened then { s.server with mRunning := true } else s.server }

def State.stop (s : State) : State :=
  if s.server.mRunning then { s with server := { s.server with mRunning := false } } else s

inductive Event
  | start (port maxLinks : Int32)
  | onService (opened : Bool)
  | stop
  | call (c : Call)

def step (s : State) : Event → Option State
  | .start port maxLinks => some (s.start port maxLinks).2
  | .onService opened => if s.services = 0 then none else some (s.onService opened)
  | .stop => some { s.stop with stopped := true }
  | .call c => (c.perform s.server).toOption.map fun server =>
    { s with server, stopped := s.stopped && !c.isJoin }

/-- A `Start` that fails changes nothing; one that succeeds after a `Stop` finds all its
slots free; `Stop` leaves nobody. -/
def Proper (s : State) : Event → Prop
  | .start port maxLinks =>
    let started := s.start port maxLinks
    if started.1 then s.stopped → ∀ i : Nat, (i : Int) < maxLinks.toInt → started.2.server.Free i
    else started.2.server.mMaxLinks = s.server.mMaxLinks ∧ started.2.mPort = s.mPort ∧
      started.2.server.mLinks = s.server.mLinks
  | .stop => s.stop.server.Clear
  | _ => True

/-- A `Start` that is not refused for running has an admissible number of links, or the
one that is stored already; a `Stop` comes when nobody is on line. -/
def Orderly (s : State) : Event → Prop
  | .start _ maxLinks => s.server.mRunning = false →
    (0 ≤ maxLinks.toInt ∧ maxLinks.toInt < maxAcceptItem) ∨ maxLinks.toInt = s.server.mMaxLinks
  | .stop => s.server.mOnlineLinks = 0
  | _ => True

structure Inv (s : State) : Prop where
  maxLinks : s.server.mMaxLinks ≤ maxAcceptItem
  counted : s.server.Counted
  stopped : s.stopped → s.server.mOnlineLinks = 0

section Steps
variable {s s' : State} {e : Event} {port maxLinks : Int32} {opened : Bool}

/-- The `start` of the other modules is this one with the port opened at once. -/
theorem start_opened (s : State) (port maxLinks : Int32) :
    s.server.start maxLinks.toInt = ((s.start port maxLinks).1,
      if (s.start port maxLinks).1 then ((s.start port maxLinks).2.onService true).server
      else (s.start port maxLinks).2.server) := by
  unfold State.start HXLibAsioServer.start
  by_cases hrunning : s.server.mRunning
  · rw [if_pos hrunning, if_pos hrunning]
    rfl
  · rw [if_neg hrunning, if_neg hrunning]
    by_cases hrange : maxLinks.toInt < 0 ∨ maxAcceptItem ≤ maxLinks.toInt
    · simp only [if_pos hrange]
      rfl
    · simp only [if_neg hrange]
      rfl

/-- `Start` is refused for running, for its number of links, or not at all. -/
theorem start_cases (s : State) (port maxLinks : Int32) :
    (s.server.mRunning = true ∧ s.start port maxLinks = (false, s)) ∨
    (s.server.mRunning = false ∧ (maxLinks.toInt < 0 ∨ maxAcceptItem ≤ maxLinks.toInt) ∧
      s.start port maxLinks =
        (false, { s with server := { s.server with mMaxLinks := maxLinks.toInt } })) ∨
    (s.server.mRunning = false ∧ 0 ≤ maxLinks.toInt ∧ maxLinks.toInt < maxAcceptItem ∧
      s.start port maxLinks = (true, { s with
        server := { s.server with mMaxLinks := maxLinks.toInt }
        mPort := port
        services := s.services + 1 })) := by
  unfold State.start
  cases hrunning : s.server.mRunning with
  | true => exact Or.inl ⟨rfl, if_pos rfl⟩
  | false =>
    rw [if_neg Bool.false_ne_true]
    by_cases hrange : maxLinks.toInt < 0 ∨ maxAcceptItem ≤ maxLinks.toInt
    · exact Or.inr (Or.inl ⟨rfl, hrange, if_pos hrange⟩)
    · rw [not_or, not_lt, not_le] at hrange
      refine Or.inr (Or.inr ⟨rfl, hrange.1, hrange.2, if_neg ?_⟩)
      rw [not_or, not_lt, not_le]
      exact hrange

theorem counted_start (h : s.server.Counted) : (s.start port maxLinks).2.server.Counted := by
  rcases start_cases s port maxLinks with ⟨-, heq⟩ | ⟨-, -, heq⟩ | ⟨-, -, -, heq⟩
  · rw [heq]
    exact h
  · rw [heq]
    exact ⟨h.id, h.online⟩
  · rw [heq]
    exact ⟨h.id, h.online⟩

theorem stop_server (s : State) : s.stop.server = { s.server with mRunning := false } := by
  unfold State.stop
  cases hrunning : s.server.mRunning with
  | true => rfl
  | false =>
    rw [if_neg Bool.false_ne_true, ← hrunning]

theorem Inv.inRange (h : Inv s) : s.server.InRange := inRange_of_le h.maxLinks

theorem Inv.start (h : Inv s) (horderly : Orderly s (.start port maxLinks)) :
    Inv (s.start port maxLinks).2 := by
  have hcounted := @counted_start s port maxLinks h.counted
  rcases start_cases s port maxLinks with ⟨-, heq⟩ | ⟨hrunning, hrange, heq⟩ | ⟨-, -, hlt, heq⟩
  · rw [heq]
    exact h
  · rcases horderly hrunning with hlinks | hlinks
    · omega
    · rw [heq] at hcounted ⊢
      exact ⟨hlinks.le.trans h.maxLinks, hcounted, h.stopped⟩
  · rw [heq] at hcounted ⊢
    exact ⟨hlt.le, hcounted, h.stopped⟩

theorem step_inv (s : State) (e : Event) (s' : State) (h : Inv s) (horderly : Orderly s e)
    (hstep : step s e = some s') : Inv s' := by
  cases e with
  | start port maxLinks =>
    obtain rfl := Option.some.inj hstep
    exact h.start horderly
  | onService opened =>
    simp only [step] at hstep
    split_ifs at hstep
    obtain rfl := Option.some.inj hstep
    cases opened with
    | true => exact ⟨h.maxLinks, ⟨h.counted.id, h.counted.online⟩, h.stopped⟩
    | false => exact ⟨h.maxLinks, h.counted, h.stopped⟩
  | stop =>
    obtain rfl := Option.some.inj hstep
    have hserver := stop_server s
    refine ⟨?_, ?_, fun _ => ?_⟩
    · show s.stop.server.mMaxLinks ≤ maxAcceptItem
      rw [hserver]
      exact h.maxLinks
    · show s.stop.server.Counted
      rw [hserver]
      exact ⟨h.counted.id, h.counted.online⟩
    · show s.stop.server.mOnlineLinks = 0
      rw [hserver]
      exact horderly
  | call c =>
    obtain ⟨server, hserver, rfl⟩ := Option.map_eq_some_iff.mp hstep
    have hperform := mem_toOption hserver
    refine ⟨(mMaxLinks_perform hperform).le.trans h.maxLinks,
      counted_perform h.counted h.maxLinks hperform, fun hstopped => ?_⟩
    obtain ⟨hbefore, hjoin⟩ := Bool.and_eq_true_iff.mp hstopped
    exact online_perform h.counted h.maxLinks (h.stopped hbefore) (by simpa using hjoin) hperform

theorem proper_start_iff (h : Inv s) :
    Proper s (.start port maxLinks) ↔ Orderly s (.start port maxLinks) := by
  rcases start_cases s port maxLinks with ⟨hrunning, heq⟩ | ⟨hrunning, hrange, heq⟩ |
    ⟨hrunning, hnonneg, hlt, heq⟩
  · refine iff_of_true ?_ fun hstopped => absurd (hrunning.symm.trans hstopped) nofun
    rw [Proper, heq]
    exact ⟨rfl, rfl, rfl⟩
  · rw [Proper, heq]
    constructor
    · rintro ⟨hlinks, -, -⟩ -
      exact Or.inr hlinks
    · intro horderly
      exact ⟨(horderly hrunning).resolve_left (by omega), rfl, rfl⟩
  · refine iff_of_true ?_ fun _ => Or.inl ⟨hnonneg, hlt⟩
    rw [Proper, heq]
    intro hstopped i hi
    exact ((clear_iff h.counted).mpr (h.stopped hstopped)).1 i (hi.trans hlt)

theorem proper_iff (s : State) (e : Event) (h : Inv s) : Proper s e ↔ Orderly s e := by
  cases e with
  | start port maxLinks => exact proper_start_iff h
  | onService opened => exact Iff.rfl
  | stop =>
    have hcounted : s.stop.server.Counted := by
      rw [stop_server]
      exact ⟨h.counted.id, h.counted.online⟩
    refine (clear_iff hcounted).trans ?_
    rw [stop_server]
    exact Iff.rfl
  | call c => exact Iff.rfl

end Steps

variable {context : Nat → Nat} {readMsg : SessionPtr → HXMessagePackage}
variable {mHeader : SessionPtr → MBigHeader}

theorem inv_initial : Inv (initial (.new context readMsg mHeader)) :=
  ⟨le_rfl, counted_new context readMsg mHeader, fun hstopped => absurd hstopped Bool.false_ne_true⟩

/-- Every access stays in the array and every `Start` and `Stop` is as it should be,
exactly when each of them comes as `Orderly` says. -/
theorem lifeCycle_iff (context : Nat → Nat) (readMsg : SessionPtr → HXMessagePackage)
    (mHeader : SessionPtr → MBigHeader) (es : List Event) :
    (Always step (InRange ·.server) (initial (.new context readMsg mHeader)) es ∧
      Along step Proper (initial (.new context readMsg mHeader)) es) ↔
    Along step Orderly (initial (.new context readMsg mHeader)) es := by
  have hinv : Inv (initial (.new context readMsg mHeader)) := inv_initial
  constructor
  · rintro ⟨-, hproper⟩
    exact (along_iff_of_kept proper_iff step_inv hinv).mp hproper
  · intro horderly
    refine ⟨always_of_along (fun s h => h.inRange) step_inv hinv horderly, ?_⟩
    exact (along_iff_of_kept proper_iff step_inv hinv).mpr horderly

/-- A `Start` for too many links opens the table beyond its end; a `Stop` with somebody
on line leaves him there. -/
theorem not_lifeCycle :
    ¬Always step (InRange ·.server) (initial .zeroed) [.start 12345 20000] ∧
    ¬Along step Proper (initial .zeroed)
      [.start 12345 10, .onService true, .call (.join 0 .empty), .stop] := by
  constructor
  · intro h
    have hmax : (20000 : Int) ≤ maxAcceptItem := (h.2 _ rfl).maxLinks
    exact absurd hmax (by decide)
  · intro h
    have hclear := (((h.2 _ rfl).2 _ rfl).2 _ rfl).1
    have honline : (1 : Int) = 0 := hclear.2
    exact absurd honline (by decide)

end LifeCycle
end HXService
