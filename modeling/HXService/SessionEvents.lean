import HXService.Lookups

/-! What is appended to the server's queue on behalf of one session, and in
which order. -/

namespace HXService.SessionEvents
open Bytes Runs HXLibAsioServer HXMessageQueueAB Service

/-! ## The log

`plain` and `big` entries are received messages; a big one is reassembled. -/

inductive Kind
  | connect
  | plain
  | big
  | disconnect
  deriving DecidableEq

structure Entry where
  session : SessionPtr
  kind : Kind
  pack : HXMessagePackage

def accepting (s : HXLibAsioServer) (p : SessionPtr) (ip : IpText) : List Entry :=
  if (s.join p ip).1.id ≠ 0 then [⟨p, .connect, connectMessage (s.join p ip).1 ip⟩] else []

def leaving (s : HXLibAsioServer) (p : SessionPtr) (dissconnectState : UInt16) : List Entry :=
  if (s.ownId p).id ≠ 0 then [⟨p, .disconnect, disconnectMessage (s.ownId p) dissconnectState⟩] else []

def receiving (z : Zlib) (s : HXLibAsioServer) (p : SessionPtr) (bytes : List UInt8) : List Entry :=
  if h : bytes.length ≤ maxBodyLength then
    let pack := (s.mSessions p).received bytes h
    if pack.header.id ≠ idHeartbeat then
      match appended z pack (s.mSessions p).mBigData with
      | .ok (some entry, _) => [⟨p, if isBigStream pack.header.id then .big else .plain, entry⟩]
      | _ => []
    else []
  else []

/-- The entries a step appends to the queue. -/
def logged (z : Zlib) (s : HXLibAsioServer) : Event → List Entry
  | .accept p ip => accepting s p ip
  | .read p none => leaving s p dissconnectReadError
  | .read p (some bytes) =>
    if (s.mSessions p).reading = some .body then receiving z s p bytes else []
  | .write p ok => if ok then [] else leaving s p dissconnectWriteError
  | _ => []

def Entry.addTo (q : HXMessageQueueAB) (e : Entry) : HXMessageQueueAB := q.push (e.kind = .big) e.pack

variable {z : Zlib} {s t u : HXLibAsioServer} {e : Event} {p : SessionPtr}

theorem accepting_some {i : Nat} {ip : IpText} (hslot : s.freeSlot = some i) :
    accepting s p ip = [⟨p, .connect, connectMessage (s.nextLink i) ip⟩] := by
  rw [accepting, join_eq_some hslot]
  exact if_pos fun hid => nextLink_ne_zero (LinkID.id_eq_zero.mp hid)

theorem accepting_none {ip : IpText} (hslot : s.freeSlot = none) : accepting s p ip = [] := by
  rw [accepting, join_eq_none hslot]
  exact if_neg (not_not.mpr (LinkID.id_eq_zero.mpr rfl))

theorem leaving_held {st : UInt16} (hid : s.ownId p ≠ LinkID.zero) :
    leaving s p st = [⟨p, .disconnect, disconnectMessage (s.ownId p) st⟩] :=
  if_pos fun hzero => hid (LinkID.id_eq_zero.mp hzero)

theorem leaving_zero {st : UInt16} (hid : s.ownId p = LinkID.zero) : leaving s p st = [] := by
  rw [leaving, hid]
  exact if_neg (not_not.mpr (LinkID.id_eq_zero.mpr rfl))

/-! ## The log is what reaches the queue -/

theorem id_leaveTable (s : HXLibAsioServer) (p : SessionPtr) : (s.leaveTable p).1 = s.ownId p := by
  rw [leaveTable]
  split_ifs <;> rfl

theorem mQueue_leaveTable (s : HXLibAsioServer) (p : SessionPtr) :
    (s.leaveTable p).2.mQueue = s.mQueue := by
  rw [leaveTable]
  split_ifs <;> rfl

theorem id_joinTable (s : HXLibAsioServer) (p : SessionPtr) (ip : IpText) :
    (s.joinTable p).1 = (s.join p ip).1 := by
  rw [join]
  split_ifs <;> rfl

theorem mQueue_joinTable (s : HXLibAsioServer) (p : SessionPtr) :
    (s.joinTable p).2.mQueue = s.mQueue := by
  rw [joinTable]
  split <;> rfl

theorem mQueue_leave (s : HXLibAsioServer) (p : SessionPtr) (st : UInt16) :
    (s.leave p st).mQueue = (leaving s p st).foldl Entry.addTo s.mQueue := by
  rw [leave, leaving, id_leaveTable]
  by_cases hid : (s.ownId p).id ≠ 0
  · rw [if_pos hid, if_pos hid, queueAdd, mQueue_leaveTable]
    rfl
  · rw [if_neg hid, if_neg hid, mQueue_leaveTable]
    rfl

theorem mQueue_accept (s : HXLibAsioServer) (p : SessionPtr) (ip : IpText) :
    (s.accept p ip).mQueue = (accepting s p ip).foldl Entry.addTo s.mQueue := by
  rw [accept, accepting, modifySession, ← id_joinTable, join]
  by_cases hne : (s.joinTable p).1.id ≠ 0
  · rw [if_pos hne, if_pos hne, queueAdd, mQueue_joinTable]
    rfl
  · rw [if_neg hne, if_neg hne, mQueue_joinTable]
    rfl

theorem mQueue_received {bytes : List UInt8} (h : s.handleReadBody z p (some bytes) = .ok u) :
    u.mQueue = (receiving z s p bytes).foldl Entry.addTo s.mQueue := by
  rw [handleReadBody] at h
  dsimp only at h
  split_ifs at h with hfit hid
  · obtain ⟨added, hadded, h⟩ := bind_eq_ok.mp h
    obtain rfl := Except.ok.inj h
    rw [addWith_eq] at hadded
    obtain ⟨⟨entry, b⟩, happ, hadded⟩ := bind_eq_ok.mp hadded
    obtain rfl := Except.ok.inj hadded
    rw [receiving, dif_pos hfit]
    dsimp only
    rw [if_pos hid, happ]
    cases entry with
    | none => rfl
    | some entry =>
      show s.mQueue.push _ entry = s.mQueue.push _ entry
      congr 1
      by_cases hbig : isBigStream ((s.mSessions p).received bytes hfit).header.id
      · rw [if_pos hbig, decide_eq_true hbig]
        rfl
      · rw [if_neg hbig, decide_eq_false hbig]
        rfl
  · obtain rfl := Except.ok.inj h
    rw [receiving, dif_pos hfit]
    dsimp only
    rw [if_neg hid]
    rfl

theorem logged_quiet (hacc : ∀ p ip, e ≠ .accept p ip) (hread : ∀ p, e ≠ .read p none)
    (hwrite : ∀ p, e ≠ .write p false)
    (hbody : ∀ p bytes, e = .read p (some bytes) → (s.mSessions p).reading ≠ some .body) :
    logged z s e = [] := by
  cases e with
  | accept p ip => exact absurd rfl (hacc p ip)
  | read p bytes =>
    cases bytes with
    | none => exact absurd rfl (hread p)
    | some bytes => exact if_neg (hbody p bytes rfl)
  | write p ok =>
    cases ok with
    | true => rfl
    | false => exact absurd rfl (hwrite p)
  | _ => rfl

/-- A step other than a swap appends to the queue what it logs, and no more. -/
theorem mQueue_step (h : serverStep z s e = some u) (hswap : e ≠ .swap) :
    u.mQueue = (logged z s e).foldl Entry.addTo s.mQueue := by
  rcases serverStep_cases h with ⟨p, ip, rfl, rfl⟩ | ⟨p, t, st, he, hsame, rfl⟩ |
    ⟨p, bytes, rfl, hreading, hu⟩ | ⟨rfl, -⟩ | ⟨hacc, hread, hwrite, hbody, hsame⟩
  · exact mQueue_accept s p ip
  · have hlog : logged z s e = leaving s p st := by
      rcases he with ⟨rfl, rfl⟩ | ⟨rfl, rfl⟩
      · rfl
      · rfl
    rw [mQueue_leave, hlog, leaving, leaving, hsame.own p, hsame.queue]
  · rw [logged, if_pos hreading]
    exact mQueue_received hu
  · exact absurd rfl hswap
  · rw [logged_quiet hacc hread hwrite hbody, hsame.queue]
    rfl

/-! ## The order of one session's entries -/

def own (p : SessionPtr) (log : List Entry) : List Entry := log.filter (·.session = p)

/-- One connect entry, then received messages, all under `linkid`. -/
def Opened (linkid : LinkID) (es : List Entry) : Prop :=
  ∃ c rs, es = c :: rs ∧ c.kind = .connect ∧ (∀ r ∈ rs, r.kind = .plain ∨ r.kind = .big) ∧
    ∀ e ∈ es, e.pack.mLinkid = linkid

/-- The same, ended by one disconnect entry. -/
def Closed (linkid : LinkID) (es : List Entry) : Prop :=
  ∃ es' d, es = es' ++ [d] ∧ Opened linkid es' ∧ d.kind = .disconnect ∧ d.pack.mLinkid = linkid

/-- Every session's entries are in order, and none carries the zero id. -/
def Ordered (log : List Entry) : Prop :=
  (∀ p, own p log = [] ∨
    ∃ linkid, linkid ≠ LinkID.zero ∧ (Opened linkid (own p log) ∨ Closed linkid (own p log))) ∧
  ∀ e ∈ log, e.pack.mLinkid ≠ LinkID.zero

structure Traced where
  state : State
  log : List Entry

def step (z : Zlib) (s : Traced) (e : Event) : Option Traced :=
  (Service.step z s.state e).map fun t => ⟨t, s.log ++ logged z s.state.server e⟩

/-- Neither a heartbeat nor part of a big message that is still incomplete. -/
def HandsOn (z : Zlib) (a : HXLibAccept) (bytes : List UInt8) : Prop :=
  a.readMsg.header.id ≠ idHeartbeat ∧ ∃ hfit : bytes.length ≤ maxBodyLength,
    isBigStream a.readMsg.header.id → CompletesBig z (a.received bytes hfit) a.mBigData

/-- A session that has left reads no body that hands on a message. -/
def Silent (z : Zlib) (s : Traced) (e : Event) : Prop :=
  ∀ p bytes, e = .read p (some bytes) → s.state.server.ownId p = LinkID.zero →
    (s.state.server.mSessions p).reading = some .body →
    bytes.length = (s.state.server.mSessions p).readMsg.bodyLength →
      ¬HandsOn z (s.state.server.mSessions p) bytes

section Entries
variable {linkid : LinkID} {es : List Entry} {log more : List Entry} {x : Entry}

theorem own_append (p : SessionPtr) (log more : List Entry) :
    own p (log ++ more) = own p log ++ own p more := List.filter_append ..

theorem own_singleton_self (x : Entry) : own x.session [x] = [x] := by
  rw [own, List.filter_singleton, decide_eq_true rfl]
  rfl

theorem own_singleton_of_ne (h : x.session ≠ p) : own p [x] = [] := by
  rw [own, List.filter_singleton, decide_eq_false h]
  rfl

theorem mem_own {log : List Entry} : x ∈ own p log ↔ x ∈ log ∧ x.session = p := by
  rw [own, List.mem_filter, decide_eq_true_eq]

theorem opened_singleton (hkind : x.kind = .connect) : Opened x.pack.mLinkid [x] := by
  refine ⟨x, [], rfl, hkind, nofun, ?_⟩
  intro e he
  rw [List.mem_singleton.mp he]

theorem Opened.append (h : Opened linkid es) (hkind : x.kind = .plain ∨ x.kind = .big)
    (hid : x.pack.mLinkid = linkid) : Opened linkid (es ++ [x]) := by
  obtain ⟨c, rs, rfl, hc, hrs, hall⟩ := h
  refine ⟨c, rs ++ [x], rfl, hc, ?_, ?_⟩
  · intro r hr
    rcases List.mem_append.mp hr with hr | hr
    · exact hrs r hr
    · rw [List.mem_singleton.mp hr]
      exact hkind
  · intro e he
    rcases List.mem_append.mp he with he | he
    · exact hall e he
    · rw [List.mem_singleton.mp he]
      exact hid

theorem Closed.mLinkid_eq (h : Closed linkid es) (hx : x ∈ es) : x.pack.mLinkid = linkid := by
  obtain ⟨es', d, rfl, ⟨_, _, _, _, _, hall⟩, -, hd⟩ := h
  rcases List.mem_append.mp hx with hx | hx
  · exact hall x hx
  · rw [List.mem_singleton.mp hx]
    exact hd

theorem Opened.mLinkid_eq (h : Opened linkid es) (hx : x ∈ es) : x.pack.mLinkid = linkid := by
  obtain ⟨_, _, _, _, _, hall⟩ := h
  exact hall x hx

end Entries

/-! ## The invariant -/

structure LogInv (s : Traced) : Prop where
  state : Inv s.state
  unjoined : ∀ p, p ∉ s.state.joined → own p s.log = []
  closed : ∀ p, s.state.server.ownId p = LinkID.zero →
    own p s.log = [] ∨ ∃ linkid, linkid ≠ LinkID.zero ∧ Closed linkid (own p s.log)
  opened : ∀ p, s.state.server.ownId p ≠ LinkID.zero → Opened (s.state.server.ownId p) (own p s.log)

theorem LogInv.ordered {s : Traced} (h : LogInv s) : Ordered s.log := by
  have hsession : ∀ p, own p s.log = [] ∨ ∃ linkid, linkid ≠ LinkID.zero ∧
      (Opened linkid (own p s.log) ∨ Closed linkid (own p s.log)) := by
    intro p
    by_cases hid : s.state.server.ownId p = LinkID.zero
    · rcases h.closed p hid with hnil | ⟨linkid, hne, hclosed⟩
      · exact Or.inl hnil
      · exact Or.inr ⟨linkid, hne, Or.inr hclosed⟩
    · exact Or.inr ⟨_, hid, Or.inl (h.opened p hid)⟩
  refine ⟨hsession, ?_⟩
  intro x hx
  have hown : x ∈ own x.session s.log := mem_own.mpr ⟨hx, rfl⟩
  rcases hsession x.session with hnil | ⟨linkid, hne, hopen | hclosed⟩
  · rw [hnil] at hown
    exact absurd hown List.not_mem_nil
  · rw [hopen.mLinkid_eq hown]
    exact hne
  · rw [hclosed.mLinkid_eq hown]
    exact hne

theorem LogInv.keep {s : Traced} {state : State} (h : LogInv s) (hstate : Inv state)
    (hjoined : ∀ p, p ∉ state.joined → p ∉ s.state.joined)
    (hown : ∀ p, state.server.ownId p = s.state.server.ownId p) : LogInv ⟨state, s.log⟩ := by
  refine ⟨hstate, ?_, ?_, ?_⟩
  · exact fun p hp => h.unjoined p (hjoined p hp)
  · intro p hp
    exact h.closed p ((hown p).symm.trans hp)
  · intro p hp
    show Opened (state.server.ownId p) _
    rw [hown p] at hp ⊢
    exact h.opened p hp

theorem LogInv.log {s : Traced} {state : State} {x : Entry} (h : LogInv s) (hstate : Inv state)
    (hjoined : ∀ q, q ≠ x.session → q ∉ state.joined → q ∉ s.state.joined)
    (hmem : x.session ∈ state.joined)
    (hother : ∀ q, q ≠ x.session → state.server.ownId q = s.state.server.ownId q)
    (hclosed : state.server.ownId x.session = LinkID.zero →
      ∃ linkid, linkid ≠ LinkID.zero ∧ Closed linkid (own x.session s.log ++ [x]))
    (hopened : state.server.ownId x.session ≠ LinkID.zero →
      Opened (state.server.ownId x.session) (own x.session s.log ++ [x])) :
    LogInv ⟨state, s.log ++ [x]⟩ := by
  have hself : own x.session (s.log ++ [x]) = own x.session s.log ++ [x] := by
    rw [own_append, own_singleton_self]
  have hkept : ∀ q, q ≠ x.session → own q (s.log ++ [x]) = own q s.log := by
    intro q hq
    rw [own_append, own_singleton_of_ne (Ne.symm hq), List.append_nil]
  refine ⟨hstate, ?_, ?_, ?_⟩
  · intro q hq
    have hne : q ≠ x.session := by
      rintro rfl
      exact hq hmem
    exact (hkept q hne).trans (h.unjoined q (hjoined q hne hq))
  · intro q hq
    by_cases hne : q = x.session
    · subst hne
      right
      show ∃ linkid, linkid ≠ LinkID.zero ∧ Closed linkid (own x.session (s.log ++ [x]))
      rw [hself]
      exact hclosed hq
    · show own q (s.log ++ [x]) = [] ∨ ∃ linkid, linkid ≠ LinkID.zero ∧
        Closed linkid (own q (s.log ++ [x]))
      rw [hkept q hne]
      exact h.closed q ((hother q hne).symm.trans hq)
  · intro q hq
    by_cases hne : q = x.session
    · subst hne
      show Opened _ (own x.session (s.log ++ [x]))
      rw [hself]
      exact hopened hq
    · show Opened (state.server.ownId q) (own q (s.log ++ [x]))
      have hq' : state.server.ownId q ≠ LinkID.zero := hq
      rw [hother q hne] at hq' ⊢
      rw [hkept q hne]
      exact h.opened q hq'

theorem receiving_cases (z : Zlib) (s : HXLibAsioServer) (p : SessionPtr) (bytes : List UInt8) :
    receiving z s p bytes = [] ∨ ∃ x, receiving z s p bytes = [x] ∧ x.session = p ∧
      (x.kind = .plain ∨ x.kind = .big) ∧ x.pack.mLinkid = s.ownId p := by
  rw [receiving]
  by_cases hfit : bytes.length ≤ maxBodyLength
  case neg => exact Or.inl (dif_neg hfit)
  rw [dif_pos hfit]
  dsimp only
  by_cases hid : ((s.mSessions p).received bytes hfit).header.id ≠ idHeartbeat
  case neg => exact Or.inl (if_neg hid)
  rw [if_pos hid]
  split
  · rename_i entry b happ
    refine Or.inr ⟨_, rfl, rfl, ?_, mLinkid_appended happ⟩
    by_cases hbig : isBigStream ((s.mSessions p).received bytes hfit).header.id
    · exact Or.inr (if_pos hbig)
    · exact Or.inl (if_neg hbig)
  · exact Or.inl rfl

theorem receiving_ne_nil_iff {bytes : List UInt8} :
    receiving z s p bytes ≠ [] ↔ HandsOn z (s.mSessions p) bytes := by
  rw [receiving, HandsOn]
  by_cases hfit : bytes.length ≤ maxBodyLength
  case neg =>
    rw [dif_neg hfit]
    apply iff_of_false (fun h => h rfl)
    rintro ⟨-, hle, -⟩
    exact hfit hle
  obtain ⟨pack, hpack⟩ : ∃ pack, pack = (s.mSessions p).received bytes hfit := ⟨_, rfl⟩
  have hheader : (s.mSessions p).readMsg.header.id = pack.header.id := by rw [hpack]; rfl
  rw [dif_pos hfit, ← hpack, hheader]
  dsimp only
  by_cases hid : pack.header.id ≠ idHeartbeat
  case neg => exact iff_of_false (fun h => h (if_neg hid)) fun h => hid h.1
  rw [if_pos hid, and_iff_right hid]
  rw [exists_prop_of_true hfit, ← hpack, ← appended_some_iff]
  split
  · rename_i entry b happ
    exact iff_of_true (List.cons_ne_nil _ _) ⟨entry, b, happ⟩
  · rename_i hnone
    apply iff_of_false (fun h => h rfl)
    rintro ⟨entry, b, happ⟩
    exact hnone entry b happ

theorem receiving_plain {bytes : List UInt8} (hfit : bytes.length ≤ maxBodyLength)
    (hid : (s.mSessions p).readMsg.header.id ≠ idHeartbeat)
    (hplain : ¬isBigStream (s.mSessions p).readMsg.header.id) :
    receiving z s p bytes = [⟨p, .plain, (s.mSessions p).received bytes hfit⟩] := by
  have hid' : ((s.mSessions p).received bytes hfit).header.id ≠ idHeartbeat := hid
  have hplain' : ¬isBigStream ((s.mSessions p).received bytes hfit).header.id := hplain
  rw [receiving, dif_pos hfit]
  dsimp only
  rw [if_pos hid', appended, if_neg hplain']
  dsimp only
  rw [if_neg hplain']

theorem logInv_accept {s : Traced} {state : State} {ip : IpText} (h : LogInv s) (hinv : Inv state)
    (hp : p ∉ s.state.joined) (hserver : state.server = s.state.server.accept p ip)
    (hjoined : state.joined = p :: s.state.joined) :
    LogInv ⟨state, s.log ++ accepting s.state.server p ip⟩ := by
  have htable := h.state.table
  have hzero := h.state.fresh p hp
  have hsub : ∀ q, q ∉ state.joined → q ∉ s.state.joined := by
    intro q hq hmem
    rw [hjoined] at hq
    exact hq (List.mem_cons_of_mem p hmem)
  cases hslot : s.state.server.freeSlot with
  | some i =>
    have hne : s.state.server.nextLink i ≠ LinkID.zero := nextLink_ne_zero
    have hown : state.server.ownId p = s.state.server.nextLink i := by
      rw [hserver, accept_eq_occupy hslot]
      exact (@ownId_update_self s.state.server p (s.state.server.occupy i p ip) _ rfl).trans rfl
    rw [accepting_some hslot]
    refine h.log hinv (fun q _ => hsub q) ?_ ?_ ?_ ?_
    · rw [hjoined]
      exact List.mem_cons_self
    · intro q hq
      rw [hserver]
      exact ownId_accept_of_ne ip hq
    · exact fun hid => absurd (hown.symm.trans hid) hne
    · intro _
      show Opened (state.server.ownId p) (own p s.log ++ _)
      rw [h.unjoined p hp, hown]
      exact opened_singleton rfl
  | none =>
    rw [accepting_none hslot, List.append_nil]
    refine h.keep hinv hsub ?_
    intro q
    rw [hserver]
    by_cases hq : q = p
    · subst hq
      rw [accept_eq_refuse hslot, hzero]
      exact (@ownId_update_self s.state.server q (s.state.server.refuse q) _ rfl).trans rfl
    · exact ownId_accept_of_ne ip hq

theorem logInv_leave {s : Traced} {state : State} {st : UInt16} (h : LogInv s) (hinv : Inv state)
    (hjoined : state.joined = s.state.joined) (hsame : SameTable s.state.server t)
    (hserver : state.server = t.leave p st) :
    LogInv ⟨state, s.log ++ leaving s.state.server p st⟩ := by
  have htable := hsame.tableInv h.state.table
  have hsub : ∀ q, q ∉ state.joined → q ∉ s.state.joined := fun q hq => hjoined ▸ hq
  by_cases hid : s.state.server.ownId p = LinkID.zero
  · rw [leaving_zero hid, List.append_nil]
    refine h.keep hinv hsub ?_
    intro q
    rw [hserver, leave_eq_self htable ((hsame.own p).trans hid), hsame.own q]
  · have hleft : state.server.ownId p = LinkID.zero := by
      rw [hserver]
      exact ownId_leave htable st
    rw [leaving_held hid]
    refine h.log hinv (fun q _ => hsub q) ?_ ?_ ?_ ?_
    · rw [hjoined]
      by_contra hmem
      exact hid (h.state.fresh p hmem)
    · intro q hq
      rw [hserver, ownId_leave_of_ne htable st hq]
      exact hsame.own q
    · intro _
      exact ⟨_, hid, own p s.log, _, rfl, h.opened p hid, rfl, rfl⟩
    · exact fun hne => absurd hleft hne

theorem logInv_received {s : Traced} {state : State} {bytes : List UInt8} (h : LogInv s)
    (hinv : Inv state) (hjoined : state.joined = s.state.joined)
    (hsame : SameTable s.state.server state.server)
    (hsilent : s.state.server.ownId p = LinkID.zero → receiving z s.state.server p bytes = []) :
    LogInv ⟨state, s.log ++ receiving z s.state.server p bytes⟩ := by
  have hsub : ∀ q, q ∉ state.joined → q ∉ s.state.joined := fun q hq => hjoined ▸ hq
  rcases receiving_cases z s.state.server p bytes with hnil | ⟨x, hx, rfl, hkind, hid⟩
  · rw [hnil, List.append_nil]
    exact h.keep hinv hsub hsame.own
  · have hne : s.state.server.ownId x.session ≠ LinkID.zero := by
      intro hzero
      rw [hsilent hzero] at hx
      exact nomatch hx
    rw [hx]
    refine h.log hinv (fun q _ => hsub q) ?_ (fun q _ => hsame.own q) ?_ ?_
    · rw [hjoined]
      by_contra hmem
      exact hne (h.state.fresh x.session hmem)
    · exact fun hzero => absurd ((hsame.own _).symm.trans hzero) hne
    · intro _
      rw [hsame.own x.session]
      exact (h.opened x.session hne).append hkind hid

theorem length_of_serverStep {bytes : List UInt8} (h : serverStep z s (.read p (some bytes)) = some u)
    (hreading : (s.mSessions p).reading = some .body) :
    bytes.length = (s.mSessions p).readMsg.bodyLength := by
  simp only [serverStep, readStep, hreading] at h
  by_contra hne
  rw [if_neg (fun hc => hne (hc bytes rfl))] at h
  cases h

theorem logInv_step {s s' : Traced} (h : LogInv s) (hsilent : Silent z s e)
    (hstep : step z s e = some s') : LogInv s' := by
  obtain ⟨state, hstate, rfl⟩ := Option.map_eq_some_iff.mp hstep
  have hinv := step_inv h.state hstate
  obtain ⟨hserver, hjoined⟩ := step_server hstate
  rcases serverStep_cases hserver with ⟨p, ip, rfl, hacc⟩ | ⟨p, t, st, he, hsame, hleave⟩ |
    ⟨p, bytes, rfl, hreading, hrecv⟩ | ⟨rfl, hswap⟩ | ⟨hacc, hread, hwrite, hbody, hsame⟩
  · rcases hjoined with ⟨hne, -⟩ | ⟨q, ip', hqe, hq, hjoined⟩
    · exact absurd rfl (hne p ip)
    · obtain ⟨rfl, rfl⟩ := Event.accept.inj hqe
      exact logInv_accept h hinv hq hacc hjoined
  · have hj : state.joined = s.state.joined := by
      rcases hjoined with ⟨-, hj⟩ | ⟨q, ip, rfl, -⟩
      · exact hj
      · rcases he with ⟨he, -⟩ | ⟨he, -⟩ <;> exact nomatch he
    have hlog : logged z s.state.server e = leaving s.state.server p st := by
      rcases he with ⟨rfl, rfl⟩ | ⟨rfl, rfl⟩ <;> rfl
    rw [hlog]
    exact logInv_leave h hinv hj hsame.toSameTable hleave
  · have hlog : logged z s.state.server (.read p (some bytes)) = receiving z s.state.server p bytes :=
      if_pos hreading
    have hj : state.joined = s.state.joined := by
      rcases hjoined with ⟨-, hj⟩ | ⟨q, ip, hne, -⟩
      · exact hj
      · exact nomatch hne
    rw [hlog]
    refine logInv_received h hinv hj (sameTable_received hrecv) ?_
    intro hzero
    by_contra hne
    exact hsilent p bytes rfl hzero hreading (length_of_serverStep hserver hreading)
      (receiving_ne_nil_iff.mp hne)
  · rcases hjoined with ⟨-, hj⟩ | ⟨q, ip, hne, -⟩
    · rw [show logged z s.state.server .swap = [] from rfl, List.append_nil]
      refine h.keep hinv (fun q hq => hj ▸ hq) ?_
      intro q
      rw [hswap]
      rfl
    · exact nomatch hne
  · rcases hjoined with ⟨-, hj⟩ | ⟨q, ip, rfl, -⟩
    · rw [logged_quiet hacc hread hwrite hbody, List.append_nil]
      exact h.keep hinv (fun q hq => hj ▸ hq) hsame.own
    · exact absurd rfl (hacc q ip)

def OrderedAfter (z : Zlib) (s : Traced) (e : Event) :
    Prop := ∀ s', step z s e = some s' → Ordered s'.log

theorem exists_step_of_receiving {s : Traced} {bytes : List UInt8}
    (hreading : (s.state.server.mSessions p).reading = some .body)
    (hlength : bytes.length = (s.state.server.mSessions p).readMsg.bodyLength)
    (hne : receiving z s.state.server p bytes ≠ []) :
    ∃ s', step z s (.read p (some bytes)) = some s' := by
  have hok : ∃ u, s.state.server.handleReadBody z p (some bytes) = .ok u := by
    rw [receiving] at hne
    split_ifs at hne with hfit
    · dsimp only at hne
      by_cases hid : ((s.state.server.mSessions p).received bytes hfit).header.id ≠ idHeartbeat
      case neg => exact absurd (if_neg hid) hne
      rw [if_pos hid] at hne
      split at hne
      · rename_i entry b happ
        rw [handleReadBody]
        dsimp only
        rw [dif_pos hfit, if_pos hid, addWith_eq, happ]
        exact ⟨_, rfl⟩
      · exact absurd rfl hne
    · exact absurd rfl hne
  obtain ⟨u, hu⟩ := hok
  have hserver : serverStep z s.state.server (.read p (some bytes)) = some u := by
    have hcompletes : Completes (some bytes) (s.state.server.mSessions p).readMsg.bodyLength := by
      intro bs hbs
      rw [← Option.some.inj hbs]
      exact hlength
    simp only [serverStep, readStep, hreading]
    rw [if_pos hcompletes, hu]
    rfl
  refine ⟨⟨{ s.state with server := u }, s.log ++ logged z s.state.server (.read p (some bytes))⟩, ?_⟩
  simp only [step, Service.step, hserver]
  rfl

theorem silent_of_orderedAfter {s : Traced} (h : OrderedAfter z s e) : Silent z s e := by
  rintro p bytes rfl hzero hreading hlength hhands
  have hlog : logged z s.state.server (.read p (some bytes)) = receiving z s.state.server p bytes :=
    if_pos hreading
  have hne := receiving_ne_nil_iff.mpr hhands
  rcases receiving_cases z s.state.server p bytes with hnil | ⟨x, hx, rfl, -, hid⟩
  · exact hne hnil
  · obtain ⟨s', hs'⟩ := exists_step_of_receiving hreading hlength hne
    have hmem : x ∈ s'.log := by
      obtain ⟨state, -, rfl⟩ := Option.map_eq_some_iff.mp hs'
      rw [hlog, hx]
      exact List.mem_append_right _ List.mem_cons_self
    exact (h s' hs').2 x hmem (hid.trans hzero)

section Run
variable {context : Nat → Nat} {readMsg : SessionPtr → HXMessagePackage}
variable {mHeader : SessionPtr → MBigHeader} {maxLinks : Int} {s₀ : HXLibAsioServer}

theorem logInv_start (h : (new context readMsg mHeader).start maxLinks = (true, s₀)) :
    LogInv ⟨⟨s₀, []⟩, []⟩ :=
  ⟨inv_start h, fun _ _ => rfl, fun _ _ => Or.inl rfl, fun p hp => absurd (ownId_start h p) hp⟩

/-- Every session's entries are in order throughout a run, exactly when no
session that has left hands on a message. -/
theorem run_ordered_iff (z : Zlib) (hstart : (new context readMsg mHeader).start maxLinks = (true, s₀))
    (es : List Event) :
    Along (step z) (OrderedAfter z) ⟨⟨s₀, []⟩, []⟩ es ↔
    Along (step z) (Silent z) ⟨⟨s₀, []⟩, []⟩ es := by
  constructor
  · intro h
    exact @along_of_invariant _ _ _ (fun _ => True) _ _ (fun s e _ => silent_of_orderedAfter)
      (fun _ _ _ _ _ _ => trivial) _ _ trivial h
  · intro h
    refine @along_of_invariant _ _ _ LogInv _ _ ?_ ?_ _ _ (logInv_start hstart) h
    · intro s e hs hsilent s' hs'
      exact (logInv_step hs hsilent hs').ordered
    · intro s e s' hs hsilent hs'
      exact logInv_step hs hsilent hs'

end Run

instance (z : Zlib) (s : Traced) : ∀ e, Decidable (Silent z s e)
  | .read p (some bytes) => decidable_of_iff (s.state.server.ownId p = LinkID.zero →
      (s.state.server.mSessions p).reading = some .body →
      bytes.length = (s.state.server.mSessions p).readMsg.bodyLength →
        (receiving z s.state.server p bytes).isEmpty = true) <| by
    have hnil : receiving z s.state.server p bytes = [] ↔ ¬HandsOn z (s.state.server.mSessions p) bytes := by
      rw [← receiving_ne_nil_iff, not_not]
    rw [List.isEmpty_iff, hnil]
    constructor
    · rintro h _ _ ⟨⟩
      exact h
    · exact fun h => h p bytes rfl
  | .read _ none => isTrue nofun
  | .accept _ _ => isTrue nofun
  | .write _ _ => isTrue nofun
  | .send _ _ => isTrue nofun
  | .sendBig _ _ => isTrue nofun
  | .sendData _ _ _ _ => isTrue nofun
  | .close _ => isTrue nofun
  | .setContext _ _ => isTrue nofun
  | .swap => isTrue nofun

def emptyHeader : Header := ⟨1000, 0, 0⟩

/-- A message is sent and one received, the session leaves, and a heartbeat comes after. -/
def quietLeave : List Event :=
  [.accept 0 IpText.empty, .sendData ⟨1, 0⟩ 1000 0 none, .read 0 (some emptyHeader.bytes),
    .read 0 (some []), .write 0 false, .read 0 (some (Header.bytes ⟨idHeartbeat, 0, 8⟩)),
    .read 0 (some (List.replicate 8 0))]

theorem run_ordered_quietLeave :
    (run (step Zlib.refusing) ⟨⟨(zeroed.start 1).2, []⟩, []⟩ quietLeave).map
      (fun s => s.log.map Entry.kind) = some [.connect, .plain, .disconnect] ∧
    Along (step Zlib.refusing) (OrderedAfter Zlib.refusing) ⟨⟨(zeroed.start 1).2, []⟩, []⟩ quietLeave :=
  ⟨by decide +kernel, (run_ordered_iff Zlib.refusing
    (show zeroed.start 1 = (true, (zeroed.start 1).2) from rfl) quietLeave).mpr (by decide +kernel)⟩

/-- A write fails, so the session leaves; the read that is still pending then
hands on a message under the zero id. -/
theorem write_error_disorders :
    ¬Along (step Zlib.refusing) (OrderedAfter Zlib.refusing) ⟨⟨(zeroed.start 1).2, []⟩, []⟩
      ([.accept 0 IpText.empty, .sendData ⟨1, 0⟩ 1000 0 none, .write 0 false,
        .read 0 (some emptyHeader.bytes)] ++ [.read 0 (some [])]) := by
  intro h
  have hrun : ∃ s, run (step Zlib.refusing) ⟨⟨(zeroed.start 1).2, []⟩, []⟩
      [.accept 0 IpText.empty, .sendData ⟨1, 0⟩ 1000 0 none, .write 0 false,
        .read 0 (some emptyHeader.bytes)] = some s ∧
      s.state.server.ownId 0 = LinkID.zero ∧
      (s.state.server.mSessions 0).reading = some .body ∧
      (s.state.server.mSessions 0).readMsg.header = Header.ofBytes emptyHeader.bytes :=
        ⟨_, rfl, rfl, rfl, rfl⟩
  obtain ⟨s, hrun, hown, hreading, hheader⟩ := hrun
  rw [Header.ofBytes_bytes_self] at hheader
  have hlength : ([] : List UInt8).length = (s.state.server.mSessions 0).readMsg.bodyLength := by
    rw [HXMessagePackage.bodyLength, hheader]
    rfl
  refine silent_of_orderedAfter (h.append hrun).1 0 [] rfl hown hreading hlength ⟨?_, Nat.zero_le _, ?_⟩
  · rw [hheader]
    decide
  · rw [hheader]
    exact fun hbig => absurd hbig (by decide)

end HXService.SessionEvents
