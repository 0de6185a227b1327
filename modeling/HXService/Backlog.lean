import HXService.WriteQueue
import HXService.Lookups

/-! Big messages that may be lost: `m_numofWrite`, by which they are admitted,
against the packages that wait in `write_msgs_`. -/

namespace HXService
open Runs

namespace Backlog
open HXLibAsioServer WriteQueue

def waiting (a : HXLibAccept) : Nat := a.writeMsgs.length * sizeofPackage

/-- Whatever server the session is live on admits a big message that may be lost
only if the waiting packages take less than the message allows. -/
def AdmitsBelow (a : HXLibAccept) : Prop :=
  ∀ (server server' : HXLibAsioServer) p linkid (msg : HXBigMessageQueue), server.TableInv →
    server.Holds p linkid → server.mSessions p = a → msg.mBAllowLost = true →
    server.sendBig linkid msg = .ok (true, server') → waiting a < msg.mMaxOfMemory.toNat

def lossy (maxOfMemory : UInt32) : HXBigMessageQueue :=
  (HXBigMessageQueue.new ⟨0, 0, 0, 0, 0, 0, 0⟩).setAllowLostPackage true maxOfMemory

structure TrueBacklog (a : HXLibAccept) : Prop where
  count : a.mNumofWrite = a.writeMsgs.length
  admits : AdmitsBelow a

section Admission
variable {s : HXLibAsioServer} {p : SessionPtr} {linkid : LinkID} {a : HXLibAccept}

theorem admits_iff (h : s.TableInv) (hp : s.Holds p linkid) {msg : HXBigMessageQueue}
    (hlost : msg.mBAllowLost = true) :
    (∃ s', s.sendBig linkid msg = .ok (true, s')) ↔
      allocMemory (s.mSessions p) < msg.mMaxOfMemory.toNat := by
  have hacts := actsOn_of_holds h hp
  constructor
  · rintro ⟨s', hs'⟩
    by_contra hge
    rw [hacts.sendBig_drops msg ⟨hlost, not_lt.mp hge⟩] at hs'
    simp at hs'
  · intro hlt
    refine ⟨_, hacts.sendBig msg ?_⟩
    rintro ⟨-, hge⟩
    exact absurd hlt (not_lt.mpr hge)

theorem allocMemory_lt (a : HXLibAccept) : allocMemory a < 2 ^ 32 - 1 := by
  unfold allocMemory sizeofPackage headerLength maxBodyLength
  omega

/-- The test is exact as long as the product it computes is not too small. -/
theorem admits_exact_iff (h : s.TableInv) (hp : s.Holds p linkid) :
    (∀ msg : HXBigMessageQueue, msg.mBAllowLost = true → (∃ s', s.sendBig linkid msg = .ok (true, s')) →
      waiting (s.mSessions p) < msg.mMaxOfMemory.toNat) ↔
    waiting (s.mSessions p) ≤ allocMemory (s.mSessions p) := by
  constructor
  · intro hexact
    -- the least bound that is admitted
    have hlt := allocMemory_lt (s.mSessions p)
    let least := lossy (UInt32.ofNat (allocMemory (s.mSessions p) + 1))
    have hmax : least.mMaxOfMemory.toNat = allocMemory (s.mSessions p) + 1 :=
      UInt32.toNat_ofNat_of_lt' (by show _ < 4294967296; omega)
    have hadmits := (@admits_iff s p linkid h hp least rfl).mpr (by omega)
    have := hexact least rfl hadmits
    omega
  · intro hle msg hlost hadmits
    exact lt_of_le_of_lt hle ((admits_iff h hp hlost).mp hadmits)

theorem le_allocMemory_iff (hcount : a.mNumofWrite = a.writeMsgs.length) :
    waiting a ≤ allocMemory a ↔ waiting a < 2 ^ 32 := by
  have halloc : allocMemory a = waiting a % 2 ^ 32 := by rw [allocMemory, hcount, waiting]
  rw [halloc]
  constructor
  · intro hle
    exact lt_of_le_of_lt hle (Nat.mod_lt _ (by decide))
  · intro hlt
    exact le_of_eq (Nat.mod_eq_of_lt hlt).symm

theorem admitsBelow_of_le (hle : waiting a ≤ allocMemory a) : AdmitsBelow a := by
  rintro server server' p linkid msg h hp rfl hlost hadmits
  exact (admits_exact_iff h hp).mpr hle msg hlost ⟨server', hadmits⟩

end Admission

/-- A `send` on an open socket finds `write_msgs_` empty. -/
def FindsEmpty (s : Server.State) : Server.Event → Prop
  | .send _ => s.session.socketOpen = true → s.session.writeMsgs = []
  | _ => True

instance (s : Server.State) (e : Server.Event) : Decidable (FindsEmpty s e) :=
  match e with
  | .send _ => inferInstanceAs (Decidable (_ → _))
  | .completed _ => isTrue trivial
  | .begin _ => isTrue trivial
  | .failed _ => isTrue trivial
  | .close => isTrue trivial

/-- The count is right, and at most one package waits. -/
structure Counted (a : HXLibAccept) : Prop where
  count : a.mNumofWrite = a.writeMsgs.length
  short : a.writeMsgs.length ≤ 1

section Steps
variable {s s' : Server.State} {e : Server.Event} {a : HXLibAccept}

theorem Counted.trueBacklog (h : Counted a) : TrueBacklog a := by
  refine ⟨h.count, admitsBelow_of_le ((le_allocMemory_iff h.count).mpr ?_)⟩
  have hsize : sizeofPackage = 32788 := rfl
  have hshort := h.short
  rw [waiting, hsize]
  omega

theorem Counted.popped (h : Counted a) : Counted a.popped.1 := by
  refine ⟨rfl, ?_⟩
  show a.writeMsgs.tail.length ≤ 1
  rw [List.length_tail]
  exact (Nat.sub_le _ _).trans h.short

theorem Counted.send (h : Counted a) (msg : HXMessagePackage)
    (hempty : a.socketOpen = true → a.writeMsgs = []) : Counted (a.send msg) := by
  unfold HXLibAccept.send
  split_ifs with hclosed hnone
  · exact h
  · exact ⟨rfl, le_rfl⟩
  · exact absurd (hempty (by simpa using hclosed)) hnone

theorem count_send_of_waiting (hcount : a.mNumofWrite = a.writeMsgs.length) (msg : HXMessagePackage)
    (hopen : a.socketOpen = true) (hne : a.writeMsgs ≠ []) :
    (a.send msg).mNumofWrite ≠ (a.send msg).writeMsgs.length := by
  simp only [HXLibAccept.send, hopen, hne, Bool.true_eq_false, if_false, List.length_append,
    List.length_singleton, hcount]
  omega

theorem step_counted (h : Counted s.session) (hempty : FindsEmpty s e)
    (hstep : Server.step s e = some s') : Counted s'.session := by
  cases e with
  | send msg =>
    obtain rfl := Option.some.inj hstep
    exact h.send msg hempty
  | completed i =>
    obtain ⟨front, -, rfl⟩ := Option.map_eq_some_iff.mp hstep
    exact h.popped
  | begin i =>
    obtain ⟨front, -, rfl⟩ := Option.map_eq_some_iff.mp hstep
    exact ⟨h.count, h.short⟩
  | failed i =>
    obtain ⟨front, -, rfl⟩ := Option.map_eq_some_iff.mp hstep
    exact ⟨h.count, h.short⟩
  | close =>
    obtain rfl := Option.some.inj hstep
    exact ⟨h.count, h.short⟩

end Steps

/-- The count is the size of the queue, and decides as the exact product would,
in every state of exactly the runs in which no `send` finds a package waiting. -/
theorem backlog_iff (readMsg : HXMessagePackage) (mHeader : MBigHeader) (linkid : LinkID)
    (es : List Server.Event) :
    Always Server.step (fun s => TrueBacklog s.session)
        (Server.start (HXLibAccept.joined readMsg mHeader linkid)) es ↔
      Along Server.step FindsEmpty (Server.start (HXLibAccept.joined readMsg mHeader linkid)) es := by
  apply @always_iff_along _ _ _ _ _ _ _ fun s : Server.State => Counted s.session
  · intro s h
    exact h.trueBacklog
  · intro s e s' h hempty hstep
    exact step_counted h hempty hstep
  · intro s e h hnext
    cases e with
    | send msg =>
      intro hopen
      by_contra hne
      exact count_send_of_waiting h.count msg hopen hne (hnext _ rfl).count
    | completed i => trivial
    | begin i => trivial
    | failed i => trivial
    | close => trivial
  · exact ⟨rfl, Nat.zero_le _⟩

/-- After two sends two packages wait and the count is one. A big message whose
bound is the size of both is admitted. -/
theorem backlog_behind :
    ¬Always Server.step (fun s => TrueBacklog s.session)
      (Server.start (HXLibAccept.joined ping ⟨0, 0, 0, 0, 0, 0, 0⟩ ⟨1, 0⟩)) [.send ping, .send ping] ∧
    ∃ s s', run (Service.step Zlib.refusing) ⟨(zeroed.start 1).2, []⟩
        [.accept 0 IpText.empty, .send ⟨1, 0⟩ ping, .send ⟨1, 0⟩ ping] = some s ∧
      s.server.Holds 0 ⟨1, 0⟩ ∧ (s.server.mSessions 0).mNumofWrite = 1 ∧
      waiting (s.server.mSessions 0) = 65576 ∧
      s.server.sendBig ⟨1, 0⟩ (lossy 65576) = .ok (true, s') := by
  constructor
  · rintro ⟨-, h⟩
    have hbehind := ((h _ rfl).2 _ rfl).head.count
    revert hbehind
    decide
  · exact ⟨_, _, rfl, ⟨rfl, by decide⟩, rfl, rfl, rfl⟩

end Backlog
end HXService
