import HXService.Service

/-! Operations on a `LinkID`: which connection they reach, over every reachable
state of the running server. -/

namespace HXService
open Runs

namespace HXLibAsioServer

/-! ## Which identifiers name a slot

`Stray` identifiers have a zero `sid` and the index of a free slot; the test
takes them for the slot's own zero id. -/

def Stray (s : HXLibAsioServer) (linkid : LinkID) : Prop :=
  linkid.sid = 0 ∧ linkid.sindex.toNat < s.slots ∧ s.link linkid.sindex.toNat = none

def Holds (s : HXLibAsioServer) (p : SessionPtr) (linkid : LinkID) : Prop :=
  s.ownId p = linkid ∧ linkid ≠ LinkID.zero

section Lookup
variable {s : HXLibAsioServer} {p : SessionPtr} {linkid : LinkID}

theorem Holds.slot (h : s.TableInv) (hp : s.Holds p linkid) :
    s.Linked linkid ∧ s.link linkid.sindex.toNat = some p := by
  obtain ⟨rfl, hne⟩ := hp
  obtain ⟨i, hi, hheld⟩ := h.session p hne
  have hindex : (s.ownId p).sindex.toNat = i := by
    rw [hheld.own]
    exact hheld.sindex_eq
  refine ⟨(linked_iff s _).mpr ⟨hindex ▸ hi, ?_⟩, ?_⟩
  · rw [hindex, hheld.own]
  · rw [hindex]
    exact hheld.link_eq

theorem linked_iff_holds (h : s.TableInv) (hstray : ¬s.Stray linkid) :
    s.Linked linkid ↔ ∃ p, s.Holds p linkid := by
  constructor
  · intro hlinked
    obtain ⟨hi, hsid⟩ := (linked_iff s linkid).mp hlinked
    rcases h.slot _ hi with ⟨hnone, hid⟩ | ⟨p, hheld⟩
    · rw [hid] at hsid
      exact absurd ⟨hsid, hi, hnone⟩ hstray
    · have hid : (s.mLinks linkid.sindex.toNat).id = linkid := by
        have hindex := UInt16.toNat_inj.mp hheld.sindex_eq
        generalize (s.mLinks linkid.sindex.toNat).id = l at hsid hindex
        obtain ⟨sid, sindex⟩ := l
        obtain ⟨sid', sindex'⟩ := linkid
        simp only at hsid hindex
        rw [hsid, hindex]
      exact ⟨p, hheld.own.trans hid, hid ▸ hheld.id_ne_zero⟩
  · rintro ⟨p, hp⟩
    exact (hp.slot h).1

theorem deref_of_holds (h : s.TableInv) (hp : s.Holds p linkid) : s.deref linkid = .ok p := by
  have hlink : (s.mLinks linkid.sindex.toNat).link = some p := (hp.slot h).2
  rw [deref, hlink]

theorem sendAll_eq {packs : List HXMessagePackage} (h : s.TableInv) (hp : s.Holds p linkid) :
    packs.foldlM (fun s pack => do
      let link ← deref s linkid
      pure (s.modifySession link (·.send pack))) s =
      Except.ok (s.modifySession p fun a => packs.foldl HXLibAccept.send a) := by
  induction packs generalizing s with
  | nil =>
    rw [modifySession]
    show Except.ok s = Except.ok { s with mSessions := Function.update s.mSessions p (s.mSessions p) }
    rw [Function.update_eq_self]
  | cons pack packs ih =>
    have hsame := (untouched_sendSession s p pack).toSameTable
    have hp' : (s.modifySession p (·.send pack)).Holds p linkid := ⟨(hsame.own p).trans hp.1, hp.2⟩
    rw [List.foldlM_cons, deref_of_holds h hp]
    show List.foldlM _ (s.modifySession p (·.send pack)) packs = _
    rw [ih (hsame.tableInv h) hp']
    simp only [modifySession, Function.update_self, Function.update_idem, List.foldl_cons]

end Lookup

def DropsBig (a : HXLibAccept) (msg : HXBigMessageQueue) : Prop :=
  msg.mBAllowLost = true ∧ msg.mMaxOfMemory.toNat ≤ allocMemory a

instance (a : HXLibAccept) (msg : HXBigMessageQueue) : Decidable (DropsBig a msg) :=
  inferInstanceAs (Decidable (_ ∧ _))

structure ActsOn (s : HXLibAsioServer) (p : SessionPtr) (linkid : LinkID) : Prop where
  send : ∀ msg, s.send linkid msg = .ok (true, s.modifySession p (·.send msg))
  sendBig : ∀ msg, ¬DropsBig (s.mSessions p) msg →
    s.sendBig linkid msg = .ok (true, s.modifySession p fun a => msg.mQueue.foldl HXLibAccept.send a)
  sendBig_drops : ∀ msg, DropsBig (s.mSessions p) msg → s.sendBig linkid msg = .ok (false, s)
  sendData : ∀ id id2 data, (h : (data.getD []).length ≤ maxBodyLength) →
    s.sendData linkid id id2 data =
      .ok (true, s.modifySession p
        (·.send (HXMessagePackage.filled LinkID.zero id id2 (data.getD []) h)))
  close : s.close linkid = .ok (s.modifySession p HXLibAccept.close)
  slot : s.link linkid.sindex.toNat = some p
  setContext : ∀ context, s.setContext linkid context = { s with
    mLinks := Function.update s.mLinks linkid.sindex.toNat
      { s.mLinks linkid.sindex.toNat with context } }
  getContext : s.getContext linkid = (true, some (s.mLinks linkid.sindex.toNat).context)

structure DoesNothing (s : HXLibAsioServer) (linkid : LinkID) : Prop where
  send : ∀ msg, s.send linkid msg = .ok (false, s)
  sendBig : ∀ msg, s.sendBig linkid msg = .ok (false, s)
  sendData : ∀ id id2 data, s.sendData linkid id id2 data = .ok (false, s)
  close : s.close linkid = .ok s
  setContext : ∀ context, s.setContext linkid context = s
  getContext : s.getContext linkid = (false, none)

section Operations
variable {s : HXLibAsioServer} {p : SessionPtr} {linkid : LinkID}

theorem dropsBig_of_holds (h : s.TableInv) (hp : s.Holds p linkid) (msg : HXBigMessageQueue) :
    s.dropsBig linkid msg = .ok (decide (DropsBig (s.mSessions p) msg)) := by
  rw [dropsBig, deref_of_holds h hp]
  cases hlost : msg.mBAllowLost with
  | true =>
    have hdrops : DropsBig (s.mSessions p) msg ↔ msg.mMaxOfMemory.toNat ≤ allocMemory (s.mSessions p) :=
      and_iff_right hlost
    rw [if_pos rfl, decide_eq_decide.mpr hdrops]
    rfl
  | false =>
    have hdrops : ¬DropsBig (s.mSessions p) msg := by
      rintro ⟨h, -⟩
      rw [hlost] at h
      exact nomatch h
    rw [if_neg (Bool.false_ne_true), decide_eq_false hdrops]
    rfl

theorem actsOn_of_holds (h : s.TableInv) (hp : s.Holds p linkid) : s.ActsOn p linkid := by
  obtain ⟨hlinked, hlink⟩ := hp.slot h
  have hderef := deref_of_holds h hp
  refine ⟨?_, ?_, ?_, ?_, ?_, hlink, ?_, ?_⟩
  · intro msg
    rw [send, if_pos hlinked, hderef]
    rfl
  · intro msg hdrops
    rw [sendBig, if_pos hlinked, dropsBig_of_holds h hp, decide_eq_false hdrops, ok_bind,
      if_neg Bool.false_ne_true, sendAll_eq h hp]
    rfl
  · intro msg hdrops
    rw [sendBig, if_pos hlinked, dropsBig_of_holds h hp, decide_eq_true hdrops]
    rfl
  · intro id id2 data hfit
    rw [sendData, if_pos hlinked, hderef]
    exact dif_pos hfit
  · rw [close, if_pos hlinked, hderef]
    rfl
  · intro context
    exact if_pos hlinked
  · exact if_pos hlinked

theorem doesNothing_of_not_linked (h : ¬s.Linked linkid) : s.DoesNothing linkid :=
  ⟨fun _ => if_neg h, fun _ => if_neg h, fun _ _ _ => if_neg h, if_neg h, fun _ => if_neg h, if_neg h⟩

end Operations
end HXLibAsioServer

namespace Service
open HXLibAsioServer

variable {context : Nat → Nat} {readMsg : SessionPtr → HXMessagePackage}
variable {mHeader : SessionPtr → MBigHeader} {maxLinks : Int} {s₀ : HXLibAsioServer}
variable {z : Zlib} {es : List Event} {s : State}

theorem inv_start (h : (new context readMsg mHeader).start maxLinks = (true, s₀)) : Inv ⟨s₀, []⟩ :=
  ⟨tableInv_start h, fun p _ => ownId_start h p⟩

theorem run_inv (hstart : (new context readMsg mHeader).start maxLinks = (true, s₀))
    (hrun : run (step z) ⟨s₀, []⟩ es = some s) : Inv s :=
  run_invariant (fun _ _ _ => step_inv) hrun (inv_start hstart)

/-- An identifier that is not stray finds a slot exactly when a session holds
it; the operations then act on that session, and otherwise do nothing. -/
theorem run_lookup (hstart : (new context readMsg mHeader).start maxLinks = (true, s₀))
    (hrun : run (step z) ⟨s₀, []⟩ es = some s) {linkid : LinkID} (hstray : ¬s.server.Stray linkid) :
    (s.server.Linked linkid ↔ ∃ p, s.server.Holds p linkid) ∧
    (∀ p, s.server.Holds p linkid → s.server.ActsOn p linkid) ∧
    ((¬∃ p, s.server.Holds p linkid) → s.server.DoesNothing linkid) := by
  have hinv := (run_inv hstart hrun).table
  have hiff := linked_iff_holds hinv hstray
  refine ⟨hiff, ?_, ?_⟩
  · exact fun p hp => actsOn_of_holds hinv hp
  · exact fun hnone => doesNothing_of_not_linked (mt hiff.mp hnone)

theorem accept_zeroed : ∃ s, run (step Zlib.refusing) ⟨(zeroed.start 1).2, []⟩
    [.accept 0 IpText.empty] = some s ∧ s.server.Holds 0 ⟨1, 0⟩ := ⟨_, rfl, rfl, by decide⟩

theorem run_lookup_zeroed : ∃ s, run (step Zlib.refusing) ⟨(zeroed.start 1).2, []⟩
    [.accept 0 IpText.empty] = some s ∧ s.server.ActsOn 0 ⟨1, 0⟩ := by
  have hstart : zeroed.start 1 = (true, (zeroed.start 1).2) := rfl
  obtain ⟨s, hrun, hp⟩ := accept_zeroed
  have hstray : ¬s.server.Stray ⟨1, 0⟩ := fun h => absurd h.1 (by decide)
  exact ⟨s, hrun, (run_lookup hstart hrun hstray).2.1 0 hp⟩

/-- A big message that may be lost is refused on a live connection, and on a
server nobody has joined the zero identifier is dereferenced. -/
theorem lookup_exceptions :
    (∃ s, run (step Zlib.refusing) ⟨(zeroed.start 1).2, []⟩ [.accept 0 IpText.empty] = some s ∧
      s.server.Holds 0 ⟨1, 0⟩ ∧
      s.server.sendBig ⟨1, 0⟩
        ((HXBigMessageQueue.new ⟨0, 0, 0, 0, 0, 0, 0⟩).setAllowLostPackage true 0) =
        .ok (false, s.server)) ∧
    (∀ msg, (zeroed.start 1).2.send LinkID.zero msg = .error .nullLink) ∧
    (zeroed.start 1).2.getContext LinkID.zero = (true, some 0) := by
  refine ⟨?_, fun _ => rfl, rfl⟩
  obtain ⟨s, hrun, hp⟩ := accept_zeroed
  have hstart : zeroed.start 1 = (true, (zeroed.start 1).2) := rfl
  refine ⟨s, hrun, hp, (actsOn_of_holds (run_inv hstart hrun).table hp).sendBig_drops _ ⟨rfl, ?_⟩⟩
  exact Nat.zero_le _

end Service
end HXService
