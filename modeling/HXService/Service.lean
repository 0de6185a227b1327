import HXService.ConnectionTable

/-! The running server: accepts, completions, sends from the main thread and the
swaps of the queue, in any order. A step that faults ends the run. -/

namespace HXService
open Runs

namespace HXLibAsioServer

/-! ## Steps that leave the table alone -/

structure SameTable (s s' : HXLibAsioServer) : Prop where
  maxLinks : s'.mMaxLinks = s.mMaxLinks
  link : ∀ i, s'.link i = s.link i
  id : ∀ i, (s'.mLinks i).id = (s.mLinks i).id
  online : s'.mOnlineLinks = s.mOnlineLinks
  mId : s'.mId = s.mId
  own : ∀ p, s'.ownId p = s.ownId p

structure Untouched (s s' : HXLibAsioServer) : Prop extends SameTable s s' where
  queue : s'.mQueue = s.mQueue

section SameTable
variable {s t u : HXLibAsioServer}

theorem SameTable.refl (s : HXLibAsioServer) : SameTable s s :=
  ⟨rfl, fun _ => rfl, fun _ => rfl, rfl, rfl, fun _ => rfl⟩

theorem SameTable.trans (h : SameTable s t) (h' : SameTable t u) : SameTable s u where
  maxLinks := h'.maxLinks.trans h.maxLinks
  link i := (h'.link i).trans (h.link i)
  id i := (h'.id i).trans (h.id i)
  online := h'.online.trans h.online
  mId := h'.mId.trans h.mId
  own p := (h'.own p).trans (h.own p)

theorem Untouched.refl (s : HXLibAsioServer) : Untouched s s := ⟨SameTable.refl s, rfl⟩

theorem Untouched.trans (h : Untouched s t) (h' : Untouched t u) : Untouched s u :=
  ⟨h.toSameTable.trans h'.toSameTable, h'.queue.trans h.queue⟩

theorem SameTable.slots_eq (h : SameTable s t) : t.slots = s.slots := by
  rw [slots, slots, h.maxLinks]

theorem SameTable.heldBy (h : SameTable s t) {i : Nat} {p : SessionPtr} (hp : s.HeldBy i p) :
    t.HeldBy i p := by
  refine ⟨?_, ?_, ?_, ?_, ?_⟩
  · rw [h.link i]
    exact hp.link_eq
  · rw [h.own p, h.id i]
    exact hp.own
  · rw [h.id i]
    exact hp.sindex_eq
  · rw [h.id i]
    exact hp.sid_pos
  · rw [h.id i]
    exact hp.sid_le

theorem SameTable.tableInv (h : SameTable s t) (hs : s.TableInv) : t.TableInv := by
  refine ⟨?_, ?_, ?_, ?_, ?_⟩
  · rw [h.maxLinks]
    exact hs.slots_lt
  · intro i hi
    rcases hs.slot i (h.slots_eq ▸ hi) with hfree | ⟨p, hp⟩
    · exact Or.inl ⟨(h.link i).trans hfree.1, (h.id i).trans hfree.2⟩
    · exact Or.inr ⟨p, h.heldBy hp⟩
  · intro p hp
    rw [h.own p] at hp
    obtain ⟨i, hi, hheld⟩ := hs.session p hp
    exact ⟨i, h.slots_eq ▸ hi, h.heldBy hheld⟩
  · have hlink : t.link = s.link := funext h.link
    rw [h.online, h.slots_eq, hlink]
    exact hs.online
  · rw [h.mId]
    exact hs.mId_le

theorem untouched_modifySession (s : HXLibAsioServer) (p : SessionPtr) (f : HXLibAccept → HXLibAccept)
    (h : (f (s.mSessions p)).mLinkid = (s.mSessions p).mLinkid) :
    Untouched s (s.modifySession p f) := by
  refine ⟨⟨rfl, fun _ => rfl, fun _ => rfl, rfl, rfl, ?_⟩, rfl⟩
  intro q
  by_cases hq : q = p
  · subst hq
    exact (@ownId_update_self s q (s.modifySession q f) _ rfl).trans h
  · exact ownId_update_of_ne rfl hq

theorem mLinkid_send (a : HXLibAccept) (msg : HXMessagePackage) : (a.send msg).mLinkid = a.mLinkid := by
  rw [HXLibAccept.send]
  split_ifs <;> rfl

theorem untouched_sendSession (s : HXLibAsioServer) (p : SessionPtr) (msg : HXMessagePackage) :
    Untouched s (s.modifySession p (·.send msg)) :=
  untouched_modifySession s p (·.send msg) (mLinkid_send _ msg)

theorem untouched_send {linkid : LinkID} {msg : HXMessagePackage} {r : Bool × HXLibAsioServer}
    (h : s.send linkid msg = .ok r) : Untouched s r.2 := by
  rw [send] at h
  split_ifs at h with hlinked
  · obtain ⟨p, -, hr⟩ := bind_eq_ok.mp h
    obtain rfl := Except.ok.inj hr
    exact untouched_sendSession s p msg
  · obtain rfl := Except.ok.inj h
    exact Untouched.refl s

theorem untouched_sendAll {linkid : LinkID} {packs : List HXMessagePackage}
    (h : packs.foldlM (fun s pack => do
      let link ← deref s linkid
      pure (s.modifySession link (·.send pack))) s = Except.ok t) : Untouched s t := by
  induction packs generalizing s with
  | nil =>
    obtain rfl := Except.ok.inj h
    exact Untouched.refl s
  | cons pack packs ih =>
    rw [List.foldlM_cons] at h
    obtain ⟨u, hu, h⟩ := bind_eq_ok.mp h
    obtain ⟨p, -, hu⟩ := bind_eq_ok.mp hu
    obtain rfl := Except.ok.inj hu
    exact (untouched_sendSession s p pack).trans (ih h)

theorem untouched_sendBig {linkid : LinkID} {msg : HXBigMessageQueue} {r : Bool × HXLibAsioServer}
    (h : s.sendBig linkid msg = .ok r) : Untouched s r.2 := by
  rw [sendBig] at h
  split_ifs at h with hlinked
  · obtain ⟨lost, -, h⟩ := bind_eq_ok.mp h
    split_ifs at h
    · obtain rfl := Except.ok.inj h
      exact Untouched.refl s
    · obtain ⟨t, ht, h⟩ := bind_eq_ok.mp h
      obtain rfl := Except.ok.inj h
      exact untouched_sendAll ht
  · obtain rfl := Except.ok.inj h
    exact Untouched.refl s

theorem untouched_sendData {linkid : LinkID} {id id2 : UInt16} {data : Option (List UInt8)}
    {r : Bool × HXLibAsioServer} (h : s.sendData linkid id id2 data = .ok r) : Untouched s r.2 := by
  rw [sendData] at h
  split_ifs at h with hlinked
  · dsimp only at h
    split_ifs at h with hfit
    · obtain ⟨p, -, hr⟩ := bind_eq_ok.mp h
      obtain rfl := Except.ok.inj hr
      exact untouched_sendSession s p _
  · obtain rfl := Except.ok.inj h
    exact Untouched.refl s

theorem untouched_close {linkid : LinkID} (h : s.close linkid = .ok t) : Untouched s t := by
  rw [close] at h
  split_ifs at h with hlinked
  · obtain ⟨p, -, hr⟩ := bind_eq_ok.mp h
    obtain rfl := Except.ok.inj hr
    exact untouched_modifySession s p _ rfl
  · obtain rfl := Except.ok.inj h
    exact Untouched.refl s

theorem untouched_setContext (s : HXLibAsioServer) (linkid : LinkID) (context : Nat) :
    Untouched s (s.setContext linkid context) := by
  rw [setContext]
  split_ifs with hlinked
  · have hitem : ∀ i, (Function.update s.mLinks linkid.sindex.toNat
        { s.mLinks linkid.sindex.toNat with context } i).link = (s.mLinks i).link ∧
        (Function.update s.mLinks linkid.sindex.toNat
        { s.mLinks linkid.sindex.toNat with context } i).id = (s.mLinks i).id := by
      intro i
      by_cases hi : i = linkid.sindex.toNat
      · subst hi
        rw [Function.update_self]
        exact ⟨rfl, rfl⟩
      · rw [Function.update_of_ne hi]
        exact ⟨rfl, rfl⟩
    exact ⟨⟨rfl, fun i => (hitem i).1, fun i => (hitem i).2, rfl, rfl, fun _ => rfl⟩, rfl⟩
  · exact Untouched.refl s

end SameTable
end HXLibAsioServer

/-! ## Steps of the service -/

namespace Service
open HXLibAsioServer

inductive Event
  | accept (link : SessionPtr) (ip : IpText)
  | read (link : SessionPtr) (bytes : Option (List UInt8))
  | write (link : SessionPtr) (ok : Bool)
  | send (linkid : LinkID) (msg : HXMessagePackage)
  | sendBig (linkid : LinkID) (msg : HXBigMessageQueue)
  | sendData (linkid : LinkID) (id id2 : UInt16) (data : Option (List UInt8))
  | close (linkid : LinkID)
  | setContext (linkid : LinkID) (context : Nat)
  | swap

structure State where
  server : HXLibAsioServer
  joined : List SessionPtr

def Completes (bytes : Option (List UInt8)) (length : Nat) : Prop :=
  ∀ bs, bytes = some bs → bs.length = length

instance (bytes : Option (List UInt8)) (length : Nat) : Decidable (Completes bytes length) :=
  match bytes with
  | none => isTrue nofun
  | some bs =>
    decidable_of_iff (bs.length = length) ⟨fun h _ hb => Option.some.inj hb ▸ h, fun h => h bs rfl⟩

def readStep (z : Zlib) (s : HXLibAsioServer) (link : SessionPtr) (bytes : Option (List UInt8)) :
    Option HXLibAsioServer :=
  match (s.mSessions link).reading with
  | some .header =>
    if Completes bytes headerLength then some (s.handleReadHeader link bytes) else none
  | some .body =>
    if Completes bytes (s.mSessions link).readMsg.bodyLength then
      (s.handleReadBody z link bytes).toOption
    else none
  | none => none

def serverStep (z : Zlib) (s : HXLibAsioServer) : Event → Option HXLibAsioServer
  | .accept link ip => some (s.accept link ip)
  | .read link bytes => readStep z s link bytes
  | .write link ok => if (s.mSessions link).writing.isSome then some (s.handleWrite link ok) else none
  | .send linkid msg => (s.send linkid msg).toOption.map Prod.snd
  | .sendBig linkid msg => (s.sendBig linkid msg).toOption.map Prod.snd
  | .sendData linkid id id2 data => (s.sendData linkid id id2 data).toOption.map Prod.snd
  | .close linkid => (s.close linkid).toOption
  | .setContext linkid context => some (s.setContext linkid context)
  | .swap => some { s with mQueue := s.mQueue.swap.1 }

/-- A session is accepted once. -/
def step (z : Zlib) (s : State) (e : Event) : Option State :=
  match e with
  | .accept link _ =>
    if link ∈ s.joined then none
    else (serverStep z s.server e).map (⟨·, link :: s.joined⟩)
  | _ => (serverStep z s.server e).map ({ s with server := · })

/-! ## The table in every reachable state -/

structure Inv (s : State) : Prop where
  table : s.server.TableInv
  fresh : ∀ p, p ∉ s.joined → s.server.ownId p = LinkID.zero

variable {z : Zlib} {s s' : State} {t u : HXLibAsioServer} {e : Event}

theorem untouched_reading (t : HXLibAsioServer) (p : SessionPtr) (reading : Option ReadOp) :
    Untouched t (t.modifySession p ({ · with reading })) := untouched_modifySession t p _ rfl

theorem untouched_writing (t : HXLibAsioServer) (p : SessionPtr) (writing : Option WriteSource) :
    Untouched t (t.modifySession p ({ · with writing })) := untouched_modifySession t p _ rfl

theorem sameTable_mQueue (t : HXLibAsioServer) (mQueue : HXMessageQueueAB) :
    SameTable t { t with mQueue } := ⟨rfl, fun _ => rfl, fun _ => rfl, rfl, rfl, fun _ => rfl⟩

theorem sameTable_received {p : SessionPtr} {bytes : List UInt8}
    (h : t.handleReadBody z p (some bytes) = .ok u) : SameTable t u := by
  rw [handleReadBody] at h
  dsimp only at h
  split_ifs at h with hfit hid
  · obtain ⟨added, -, h⟩ := bind_eq_ok.mp h
    obtain rfl := Except.ok.inj h
    refine (sameTable_mQueue t added.1).trans (untouched_modifySession _ p _ ?_).toSameTable
    rfl
  · obtain rfl := Except.ok.inj h
    exact (untouched_modifySession t p _ (mLinkid_send _ _)).toSameTable

/-- What a step does: it joins a session, leaves one after a failed read or
write, hands on a package that has been read, swaps the queue, or touches
neither the table nor the queue. -/
theorem serverStep_cases (h : serverStep z t e = some u) :
    (∃ p ip, e = .accept p ip ∧ u = t.accept p ip) ∨
    (∃ p t' st, (e = .read p none ∧ st = dissconnectReadError ∨
      e = .write p false ∧ st = dissconnectWriteError) ∧ Untouched t t' ∧ u = t'.leave p st) ∨
    (∃ p bytes, e = .read p (some bytes) ∧ (t.mSessions p).reading = some .body ∧
      t.handleReadBody z p (some bytes) = .ok u) ∨
    (e = .swap ∧ u = { t with mQueue := t.mQueue.swap.1 }) ∨
    ((∀ p ip, e ≠ .accept p ip) ∧ (∀ p, e ≠ .read p none) ∧ (∀ p, e ≠ .write p false) ∧
      (∀ p bytes, e = .read p (some bytes) → (t.mSessions p).reading ≠ some .body) ∧ Untouched t u) := by
  cases e with
  | accept p ip => exact Or.inl ⟨p, ip, rfl, (Option.some.inj h).symm⟩
  | read p bytes =>
    right
    simp only [serverStep, readStep] at h
    cases hreading : (t.mSessions p).reading with
    | none =>
      rw [hreading] at h
      exact nomatch h
    | some op =>
      rw [hreading] at h
      cases op with
      | header =>
        dsimp only at h
        split_ifs at h
        obtain rfl := Option.some.inj h
        cases bytes with
        | none => exact Or.inl ⟨p, _, _, Or.inl ⟨rfl, rfl⟩, untouched_reading t p none, rfl⟩
        | some bytes =>
          refine Or.inr (Or.inr (Or.inr ⟨nofun, nofun, nofun, ?_, ?_⟩))
          · rintro q bs hq
            obtain ⟨rfl, -⟩ := Event.read.inj hq
            rw [hreading]
            exact nofun
          · exact untouched_modifySession t p (·.readHeader bytes) rfl
      | body =>
        dsimp only at h
        split_ifs at h
        have h := mem_toOption h
        cases bytes with
        | none =>
          obtain rfl := Except.ok.inj h
          exact Or.inl ⟨p, _, _, Or.inl ⟨rfl, rfl⟩, untouched_reading t p none, rfl⟩
        | some bytes => exact Or.inr (Or.inl ⟨p, bytes, rfl, hreading, h⟩)
  | write p ok =>
    rw [serverStep] at h
    split_ifs at h
    obtain rfl := Option.some.inj h
    cases ok with
    | true =>
      refine Or.inr (Or.inr (Or.inr (Or.inr ⟨nofun, nofun, nofun, nofun, ?_⟩)))
      exact untouched_modifySession t p HXLibAccept.written rfl
    | false => exact Or.inr (Or.inl ⟨p, _, _, Or.inr ⟨rfl, rfl⟩, untouched_writing t p none, rfl⟩)
  | send linkid msg =>
    obtain ⟨r, hr, rfl⟩ := Option.map_eq_some_iff.mp h
    exact Or.inr (Or.inr (Or.inr (Or.inr
      ⟨nofun, nofun, nofun, nofun, untouched_send (mem_toOption hr)⟩)))
  | sendBig linkid msg =>
    obtain ⟨r, hr, rfl⟩ := Option.map_eq_some_iff.mp h
    exact Or.inr (Or.inr (Or.inr (Or.inr
      ⟨nofun, nofun, nofun, nofun, untouched_sendBig (mem_toOption hr)⟩)))
  | sendData linkid id id2 data =>
    obtain ⟨r, hr, rfl⟩ := Option.map_eq_some_iff.mp h
    exact Or.inr (Or.inr (Or.inr (Or.inr
      ⟨nofun, nofun, nofun, nofun, untouched_sendData (mem_toOption hr)⟩)))
  | close linkid =>
    exact Or.inr (Or.inr (Or.inr (Or.inr
      ⟨nofun, nofun, nofun, nofun, untouched_close (mem_toOption h)⟩)))
  | setContext linkid context =>
    obtain rfl := Option.some.inj h
    exact Or.inr (Or.inr (Or.inr (Or.inr
      ⟨nofun, nofun, nofun, nofun, untouched_setContext t linkid context⟩)))
  | swap => exact Or.inr (Or.inr (Or.inr (Or.inl ⟨rfl, (Option.some.inj h).symm⟩)))

theorem serverStep_table (h : serverStep z t e = some u) :
    (∃ p ip, e = .accept p ip ∧ u = t.accept p ip) ∨
    (∃ p t' st, (e = .read p none ∨ e = .write p false) ∧ SameTable t t' ∧ u = t'.leave p st) ∨
    SameTable t u := by
  rcases serverStep_cases h with hacc | ⟨p, t', st, he, hsame, hu⟩ | ⟨p, bytes, -, -, hu⟩ | ⟨-, rfl⟩ |
    ⟨-, -, -, -, hsame⟩
  · exact Or.inl hacc
  · exact Or.inr (Or.inl ⟨p, t', st, he.imp And.left And.left, hsame.toSameTable, hu⟩)
  · exact Or.inr (Or.inr (sameTable_received hu))
  · exact Or.inr (Or.inr (sameTable_mQueue t _))
  · exact Or.inr (Or.inr hsame.toSameTable)

theorem step_server (h : step z s e = some s') :
    serverStep z s.server e = some s'.server ∧
    ((∀ p ip, e ≠ .accept p ip) ∧ s'.joined = s.joined ∨
      ∃ p ip, e = .accept p ip ∧ p ∉ s.joined ∧ s'.joined = p :: s.joined) := by
  cases e with
  | accept p ip =>
    rw [step] at h
    split_ifs at h with hp
    obtain ⟨t, ht, rfl⟩ := Option.map_eq_some_iff.mp h
    exact ⟨ht, Or.inr ⟨p, ip, rfl, hp, rfl⟩⟩
  | _ =>
    simp only [step] at h
    obtain ⟨t, ht, rfl⟩ := Option.map_eq_some_iff.mp h
    exact ⟨ht, Or.inl ⟨nofun, rfl⟩⟩

theorem step_inv (h : Inv s) (hstep : step z s e = some s') : Inv s' := by
  obtain ⟨hserver, hjoined⟩ := step_server hstep
  rcases serverStep_table hserver with ⟨p, ip, rfl, hacc⟩ | ⟨p, t, st, he, hsame, hleave⟩ | hsame
  · rcases hjoined with ⟨hne, -⟩ | ⟨q, ip', hqe, hq, hjoined⟩
    · exact absurd rfl (hne p ip)
    obtain ⟨rfl, rfl⟩ := Event.accept.inj hqe
    refine ⟨hacc ▸ tableInv_accept h.table (h.fresh p hq) ip, ?_⟩
    intro r hr
    rw [hjoined, List.mem_cons, not_or] at hr
    rw [hacc, ownId_accept_of_ne ip hr.1]
    exact h.fresh r hr.2
  · have hj : s'.joined = s.joined := by
      rcases hjoined with ⟨-, hj⟩ | ⟨q, ip, rfl, -⟩
      · exact hj
      · rcases he with he | he <;> exact nomatch he
    have htable := hsame.tableInv h.table
    refine ⟨hleave ▸ tableInv_leave htable st, ?_⟩
    intro q hq
    rw [hj] at hq
    rw [hleave]
    by_cases hqp : q = p
    · subst hqp
      exact ownId_leave htable st
    · rw [ownId_leave_of_ne htable st hqp, hsame.own q]
      exact h.fresh q hq
  · refine ⟨hsame.tableInv h.table, ?_⟩
    intro q hq
    rw [hsame.own q]
    apply h.fresh q
    rcases hjoined with ⟨-, hj⟩ | ⟨p, ip, -, -, hj⟩
    · exact hj ▸ hq
    · rw [hj, List.mem_cons, not_or] at hq
      exact hq.2

end Service
end HXService
