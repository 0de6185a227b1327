import HXService.Identity

/-! The connection table, the double queue and the entries of the managers, over
runs in which the main loop drains the queue while handlers fill it. -/

namespace HXService.Bookkeeping
open Runs Roster HXLibAsioServer HXMessageQueueAB SessionEvents

/-! ## Join and Leave under way

Between the part under `m_linkMutex` and the message in the queue the main loop
goes on; the one thread that runs the handlers does nothing else. -/

inductive Unfinished
  | join (link : SessionPtr) (linkid : LinkID) (ip : IpText)
  | leave (link : SessionPtr) (linkid : LinkID) (dissconnectState : UInt16)

namespace Unfinished

def entries : Unfinished → List Entry
  | .join link linkid ip => if linkid.id ≠ 0 then [⟨link, .connect, connectMessage linkid ip⟩] else []
  | .leave link linkid dissconnectState =>
    if linkid.id ≠ 0 then [⟨link, .disconnect, disconnectMessage linkid dissconnectState⟩] else []

/-- The rest of `Join` and of `start`, and the rest of `Leave`. -/
def finish (s : HXLibAsioServer) : Unfinished → HXLibAsioServer
  | .join link linkid ip =>
    (if linkid.id ≠ 0 then s.queueAdd (connectMessage linkid ip) else s).modifySession link fun a =>
      if linkid.id = 0 then { a with mLinkid := linkid }.close
      else { a with mLinkid := linkid, reading := some .header }
  | .leave _ linkid dissconnectState =>
    if linkid.id ≠ 0 then s.queueAdd (disconnectMessage linkid dissconnectState) else s

variable {s t : HXLibAsioServer} {p : SessionPtr}

theorem finish_joinTable (s : HXLibAsioServer) (p : SessionPtr) (ip : IpText) :
    (join p (s.joinTable p).1 ip).finish (s.joinTable p).2 = s.accept p ip := by
  rw [finish, accept, HXLibAsioServer.join]
  by_cases hid : (s.joinTable p).1.id ≠ 0
  · simp only [if_pos hid]
  · simp only [if_neg hid]

theorem finish_leaveTable (s : HXLibAsioServer) (p : SessionPtr) (st : UInt16) :
    (leave p (s.leaveTable p).1 st).finish (s.leaveTable p).2 = s.leave p st := rfl

theorem entries_joinTable (s : HXLibAsioServer) (p : SessionPtr) (ip : IpText) :
    (join p (s.joinTable p).1 ip).entries = accepting s p ip := by
  rw [entries, accepting, id_joinTable s p ip]

theorem entries_leaveTable (s : HXLibAsioServer) (p : SessionPtr) (st : UInt16) :
    (leave p (s.leaveTable p).1 st).entries = leaving s p st := by
  rw [entries, leaving, id_leaveTable]

theorem mQueue_finish (u : Unfinished) (s : HXLibAsioServer) :
    (u.finish s).mQueue = u.entries.foldl Entry.addTo s.mQueue := by
  cases u with
  | join p linkid ip =>
    rw [finish, entries, modifySession]
    by_cases hid : linkid.id ≠ 0
    · rw [if_pos hid, if_pos hid]
      rfl
    · rw [if_neg hid, if_neg hid]
      rfl
  | leave p linkid st =>
    rw [finish, entries]
    by_cases hid : linkid.id ≠ 0
    · rw [if_pos hid, if_pos hid]
      rfl
    · rw [if_neg hid, if_neg hid]
      rfl

theorem mId_finish (u : Unfinished) (s : HXLibAsioServer) : (u.finish s).mId = s.mId := by
  cases u <;> (rw [finish]; split_ifs <;> rfl)

theorem sameTable_finish (u : Unfinished) (h : SameTable s t) :
    SameTable (u.finish s) (u.finish t) := by
  cases u with
  | join p linkid ip =>
    have hown : ∀ (s : HXLibAsioServer) q, ((join p linkid ip).finish s).ownId q =
        if q = p then linkid else s.ownId q := by
      intro s q
      rw [finish]
      by_cases hq : q = p
      · subst hq
        rw [if_pos rfl]
        refine (ownId_update_self rfl).trans ?_
        split_ifs <;> rfl
      · rw [if_neg hq]
        refine (ownId_update_of_ne rfl hq).trans ?_
        split_ifs <;> rfl
    refine ⟨?_, ?_, ?_, ?_, ?_, ?_⟩
    · rw [finish, finish]
      split_ifs <;> exact h.maxLinks
    · intro i
      rw [finish, finish]
      split_ifs <;> exact h.link i
    · intro i
      rw [finish, finish]
      split_ifs <;> exact h.id i
    · rw [finish, finish]
      split_ifs <;> exact h.online
    · rw [mId_finish, mId_finish]
      exact h.mId
    · intro q
      rw [hown, hown, h.own q]
  | leave p linkid st =>
    rw [finish, finish]
    split_ifs
    · exact ⟨h.maxLinks, h.link, h.id, h.online, h.mId, h.own⟩
    · exact h

end Unfinished

/-! ## What the limit of the queue costs -/

def discarded (q : HXMessageQueueAB) (x : Entry) : List HXMessagePackage :=
  if x.kind = .big then []
  else if queueMax ≤ (q.current ++ [x.pack]).length then (q.current ++ [x.pack]).take 1 else []

def discards : HXMessageQueueAB → List Entry → List HXMessagePackage
  | _, [] => []
  | q, x :: xs => discarded q x ++ discards (x.addTo q) xs

theorem discarded_append (q : HXMessageQueueAB) (x : Entry) :
    discarded q x ++ (x.addTo q).current = q.current ++ [x.pack] := by
  rw [discarded]
  by_cases hbig : x.kind = .big
  · have hpush : x.addTo q = q.setCurrent (q.current ++ [x.pack]) := by
      rw [Entry.addTo, push, decide_eq_true hbig]
      rfl
    rw [if_pos hbig, hpush, current_setCurrent, List.nil_append]
  · have hpush : x.addTo q = q.setCurrent (bounded q.current x.pack) := by
      rw [Entry.addTo, push, decide_eq_false hbig]
      rfl
    rw [if_neg hbig, hpush, current_setCurrent, bounded]
    split_ifs
    · rw [← List.drop_one]
      exact List.take_append_drop 1 _
    · rfl

theorem discards_append (q : HXMessageQueueAB) (xs : List Entry) :
    discards q xs ++ (xs.foldl Entry.addTo q).current = q.current ++ xs.map Entry.pack := by
  induction xs generalizing q with
  | nil => exact (List.append_nil _).symm
  | cons x xs ih =>
    rw [discards, List.foldl_cons, List.append_assoc, ih, ← List.append_assoc, discarded_append,
      List.append_assoc]
    rfl

/-! ## Session messages -/

def IsSession (pack : HXMessagePackage) : Prop :=
  pack.header.id = idConnect ∨ pack.header.id = idDisconnect

instance (pack : HXMessagePackage) : Decidable (IsSession pack) := inferInstanceAs (Decidable (_ ∨ _))

def sessionMessages (packs : List HXMessagePackage) : List HXMessagePackage :=
  packs.filter (IsSession ·)

section SessionMessages
variable {packs more : List HXMessagePackage} {pack : HXMessagePackage}

theorem sessionMessages_append :
    sessionMessages (packs ++ more) = sessionMessages packs ++ sessionMessages more :=
  List.filter_append ..

theorem sessionMessages_cons (h : IsSession pack) :
    sessionMessages (pack :: packs) = pack :: sessionMessages packs :=
  @List.filter_cons_of_pos _ (fun pack => decide (IsSession pack)) _ _ (decide_eq_true h)

theorem sessionMessages_cons_of_not (h : ¬IsSession pack) :
    sessionMessages (pack :: packs) = sessionMessages packs := by
  refine @List.filter_cons_of_neg _ (fun pack => decide (IsSession pack)) _ _ ?_
  rw [decide_eq_true_eq]
  exact h

theorem sessionMessages_eq_nil (h : ∀ pack ∈ packs, ¬IsSession pack) : sessionMessages packs = [] := by
  rw [sessionMessages, List.filter_eq_nil_iff]
  intro pack hpack
  rw [decide_eq_true_eq]
  exact h pack hpack

theorem changesOf_eq_nil (h : ¬IsSession pack) : changesOf pack = [] := by
  rw [IsSession, not_or] at h
  rw [changesOf, if_neg h.1, if_neg h.2]

theorem changes_sessionMessages (packs : List HXMessagePackage) :
    (sessionMessages packs).flatMap changesOf = packs.flatMap changesOf := by
  induction packs with
  | nil => rfl
  | cons pack packs ih =>
    by_cases hpack : IsSession pack
    · rw [sessionMessages_cons hpack, List.flatMap_cons, List.flatMap_cons, ih]
    · rw [sessionMessages_cons_of_not hpack, List.flatMap_cons, changesOf_eq_nil hpack, ih]
      rfl

theorem sessionMessages_foldl {q : HXMessageQueueAB} {xs : List Entry}
    (h : ∀ pack ∈ discards q xs, ¬IsSession pack) :
    sessionMessages (xs.foldl Entry.addTo q).current =
      sessionMessages q.current ++ sessionMessages (xs.map Entry.pack) := by
  have hall := congrArg sessionMessages (discards_append q xs)
  rw [sessionMessages_append, sessionMessages_append, sessionMessages_eq_nil h, List.nil_append] at hall
  exact hall

theorem isSession_entries (u : Unfinished) : ∀ x ∈ u.entries, IsSession x.pack := by
  intro x hx
  cases u with
  | join p linkid ip =>
    rw [Unfinished.entries] at hx
    split_ifs at hx
    · rw [List.mem_singleton.mp hx]
      exact Or.inl rfl
    · exact absurd hx List.not_mem_nil
  | leave p linkid st =>
    rw [Unfinished.entries] at hx
    split_ifs at hx
    · rw [List.mem_singleton.mp hx]
      exact Or.inr rfl
    · exact absurd hx List.not_mem_nil

theorem sessionMessages_entries (u : Unfinished) :
    sessionMessages (u.entries.map Entry.pack) = u.entries.map Entry.pack := by
  rw [sessionMessages, List.filter_eq_self]
  intro pack hpack
  obtain ⟨x, hx, rfl⟩ := List.mem_map.mp hpack
  exact decide_eq_true (isSession_entries u x hx)

end SessionMessages

/-! ## Identifiers count up

Until the counter starts again, every `sid` in use is at most the counter. -/

section Counter
variable {s t : HXLibAsioServer} {p : SessionPtr}

def Below (s : HXLibAsioServer) : Prop := ∀ linkID, s.Alive linkID → linkID.sid.toNat ≤ s.mId

theorem nextId_eq (h : s.mId < maxShort) : s.nextId = s.mId + 1 := by
  rw [nextId, if_neg (not_le.mpr h)]

theorem freshSid_of_below (hbelow : Below s) (hlt : s.mId < maxShort) :
    s.FreshSid := by
  intro i hslot linkID halive hsid
  have hnext : (s.nextLink i).sid.toNat = s.nextId := sid_nextLink
  have hle := hbelow linkID halive
  rw [hsid, hnext, nextId_eq hlt] at hle
  omega

theorem below_accept (hzero : s.ownId p = LinkID.zero) (hbelow : Below s)
    (hlt : s.mId < maxShort) (ip : IpText) : Below (s.accept p ip) := by
  intro linkID halive
  have hnext := nextId_eq hlt
  rw [mId_accept ip]
  have hold : s.Alive linkID → linkID.sid.toNat ≤ s.nextId := by
    intro hmem
    have hle := hbelow linkID hmem
    omega
  cases hslot : s.freeSlot with
  | some i =>
    rw [accept_eq_occupy hslot] at halive
    rcases (alive_occupy hzero ip).mp halive with hmem | rfl
    · exact hold hmem
    · exact sid_nextLink.le
  | none =>
    rw [accept_eq_refuse hslot] at halive
    exact hold ((alive_refuse hzero).mp halive)

theorem below_leave (htable : s.TableInv) (hbelow : Below s) (st : UInt16) : Below (s.leave p st) := by
  intro linkID halive
  rw [mId_leave htable st]
  by_cases hown : s.ownId p = LinkID.zero
  · rw [leave_eq_self htable hown] at halive
    exact hbelow linkID halive
  · obtain ⟨i, hi, hheld⟩ := htable.session p hown
    rw [leave_eq_vacate hi hheld] at halive
    exact hbelow linkID ((alive_vacate htable hheld st).mp halive).1

theorem alive_congr (h : SameTable s t) (linkID : LinkID) : s.Alive linkID ↔ t.Alive linkID :=
  exists_congr fun p => and_congr_left' (by rw [h.own p])

theorem below_congr (h : SameTable s t) (hbelow : Below s) : Below t := by
  intro linkID halive
  rw [h.mId]
  exact hbelow linkID ((alive_congr h linkID).mpr halive)

theorem alive_iff_occupied (h : s.TableInv) (linkID : LinkID) :
    s.Alive linkID ↔ ∃ i < s.slots, (s.link i).isSome ∧ (s.mLinks i).id = linkID := by
  constructor
  · rintro ⟨p, rfl, hne⟩
    obtain ⟨i, hi, hheld⟩ := h.session p hne
    exact ⟨i, hi, Option.isSome_of_eq_some hheld.link_eq, hheld.own.symm⟩
  · rintro ⟨i, hi, hsome, rfl⟩
    rcases h.slot i hi with hfree | ⟨p, hheld⟩
    · rw [hfree.1] at hsome
      exact nomatch hsome
    · exact ⟨p, hheld.own, hheld.id_ne_zero⟩

end Counter

/-! ## The machine

`batch` is the rest of the half the main loop got from the last swap; it swaps
again when nothing is left of it. `made` and `handled` record what `Join` and
`Leave` have queued and what the main loop has handled. -/

structure State (μ : Type) where
  server : HXLibAsioServer
  joined : List SessionPtr
  unfinished : Option Unfinished
  batch : List HXMessagePackage
  main : μ
  made : List HXMessagePackage
  handled : List HXMessagePackage

inductive Event (γ : Type)
  | join (link : SessionPtr) (ip : IpText)
  | leave (link : SessionPtr) (dissconnectState : UInt16)
  | finish
  | serve (e : Service.Event)
  | swap
  | handle (given : γ)

/-- The steps of the service that stand here as they are: sends and the like at
any time, completions while no `Join` or `Leave` is under way. -/
def serves (idle : Bool) : Service.Event → Bool
  | .accept .. | .swap => false
  | .read _ bytes => idle && bytes.isSome
  | .write _ ok => idle && ok
  | _ => true

section Machine
variable {μ γ : Type} (z : Zlib) (loop : MainLoop μ γ)

def start (server : HXLibAsioServer) (main : μ) : State μ := ⟨server, [], none, [], main, [], []⟩

def step (s : State μ) : Event γ → Option (State μ)
  | .join link ip =>
    if link ∈ s.joined ∨ s.unfinished.isSome then none
    else some { s with
      server := (s.server.joinTable link).2
      joined := link :: s.joined
      unfinished := some (.join link (s.server.joinTable link).1 ip) }
  | .leave link dissconnectState =>
    if s.unfinished.isSome then none
    else some { s with
      server := (s.server.leaveTable link).2
      unfinished := some (.leave link (s.server.leaveTable link).1 dissconnectState) }
  | .finish => s.unfinished.map fun u => { s with
      server := u.finish s.server
      unfinished := none
      made := s.made ++ u.entries.map Entry.pack }
  | .serve e =>
    if serves s.unfinished.isNone e then (Service.serverStep z s.server e).map ({ s with server := · })
    else none
  | .swap =>
    if s.batch = [] then some { s with
      server := { s.server with mQueue := s.server.mQueue.swap.1 }
      batch := s.server.mQueue.swap.2 }
    else none
  | .handle given =>
    match s.batch with
    | [] => none
    | pack :: rest => (loop.handle s.main pack given).toOption.map fun main =>
      { s with main, batch := rest, handled := s.handled ++ [pack] }

def Event.isJoin : Event γ → Bool
  | .join .. => true
  | _ => false

def joins (es : List (Event γ)) : Nat := es.countP Event.isJoin

def Drained (s : State μ) : Prop :=
  s.unfinished = none ∧ s.batch = [] ∧ s.server.mQueue.current = []

/-- One entry for each link that occupies a slot, and no other. -/
structure Booked (links : List LinkID) (s : HXLibAsioServer) : Prop where
  nodup : links.Nodup
  occupied : ∀ linkID, linkID ∈ links ↔ ∃ i < s.slots, (s.link i).isSome ∧ (s.mLinks i).id = linkID

/-! ## What must not happen -/

def received (s : State μ) : Event γ → List Entry
  | .serve e => logged z s.server e
  | _ => []

def added (s : State μ) : Event γ → List Entry
  | .finish => (s.unfinished.map Unfinished.entries).getD []
  | e => received z s e

/-- No client sends a session message of its own, and none is discarded. -/
structure Kept (s : State μ) (e : Event γ) : Prop where
  genuine : ∀ x ∈ received z s e, ¬IsSession x.pack
  undiscarded : ∀ pack ∈ discards s.server.mQueue (added z s e), ¬IsSession pack

/-! ## The invariant -/

-- the table as it is when a `Join` or `Leave` under way is done
def completed (s : State μ) : HXLibAsioServer :=
  match s.unfinished with
  | none => s.server
  | some u => u.finish s.server

def awaited (s : State μ) : List HXMessagePackage :=
  match s.unfinished with
  | none => []
  | some u => u.entries.map Entry.pack

def pending (s : State μ) : List HXMessagePackage :=
  sessionMessages (s.batch ++ s.server.mQueue.current) ++ awaited s

structure Inv (s : State μ) : Prop where
  table : (completed s).TableInv
  fresh : ∀ p, p ∉ s.joined → (completed s).ownId p = LinkID.zero
  tracks : Tracks (loop.faces s.main) ((pending s).flatMap changesOf) (completed s).Alive
  below : Below (completed s)
  count : (completed s).mId ≤ s.joined.length
  conserved : sessionMessages (s.handled ++ s.batch ++ s.server.mQueue.current) = s.made

variable {z loop} {s s' : State μ} {e : Event γ}

theorem Inv.frame (h : Inv loop s) (hsame : SameTable (completed s) (completed s'))
    (hjoined : s'.joined = s.joined)
    (htracks : Tracks (loop.faces s'.main) ((pending s').flatMap changesOf) (completed s).Alive)
    (hconserved : sessionMessages (s'.handled ++ s'.batch ++ s'.server.mQueue.current) = s'.made) :
    Inv loop s' := by
  refine ⟨hsame.tableInv h.table, ?_, ?_, below_congr hsame h.below, ?_, hconserved⟩
  · intro p hp
    rw [hsame.own p]
    exact h.fresh p (hjoined ▸ hp)
  · exact htracks.congr (alive_congr hsame)
  · rw [hsame.mId, hjoined]
    exact h.count

theorem Inv.begun {server : HXLibAsioServer} {joined : List SessionPtr} {u : Unfinished}
    (h : Inv loop s) (hqueue : server.mQueue = s.server.mQueue) (htable : (u.finish server).TableInv)
    (hfresh : ∀ p, p ∉ joined → (u.finish server).ownId p = LinkID.zero)
    (htracks : Tracks (loop.faces s.main) ((sessionMessages (s.batch ++ s.server.mQueue.current) ++
      u.entries.map Entry.pack).flatMap changesOf) (u.finish server).Alive)
    (hbelow : Below (u.finish server)) (hcount : (u.finish server).mId ≤ joined.length) :
    Inv loop { s with server, joined, unfinished := some u } := by
  refine ⟨htable, hfresh, ?_, hbelow, hcount, ?_⟩
  · rw [← hqueue] at htracks
    exact htracks
  · have hconserved := h.conserved
    rw [← hqueue] at hconserved
    exact hconserved

theorem Inv.idle (h : Inv loop s) (hidle : s.unfinished = none) : s.server.TableInv ∧
    (∀ p, p ∉ s.joined → s.server.ownId p = LinkID.zero) ∧
    Tracks (loop.faces s.main)
      ((sessionMessages (s.batch ++ s.server.mQueue.current)).flatMap changesOf) s.server.Alive ∧
    Below s.server ∧ s.server.mId ≤ s.joined.length := by
  have hcompleted : completed s = s.server := by rw [completed, hidle]
  have hpending : pending s = sessionMessages (s.batch ++ s.server.mQueue.current) := by
    rw [pending, awaited, hidle, List.append_nil]
  obtain ⟨htable, hfresh, htracks, hbelow, hcount, -⟩ := h
  rw [hcompleted] at htable hfresh htracks hbelow hcount
  rw [hpending] at htracks
  exact ⟨htable, hfresh, htracks, hbelow, hcount⟩

theorem inv_join {p : SessionPtr} {ip : IpText} (h : Inv loop s) (hlt : s.joined.length < maxShort)
    (hstep : step z loop s (.join p ip) = some s') : Inv loop s' := by
  rw [step] at hstep
  split_ifs at hstep with hp
  rw [not_or, Option.not_isSome_iff_eq_none] at hp
  obtain ⟨hp, hidle⟩ := hp
  obtain rfl := Option.some.inj hstep
  obtain ⟨htable, hfresh, htracks, hbelow, hcount⟩ := h.idle hidle
  have hmId : s.server.mId < maxShort := by omega
  have hzero := hfresh p hp
  have haccept := Unfinished.finish_joinTable s.server p ip
  refine h.begun (mQueue_joinTable s.server p) ?_ ?_ ?_ ?_ ?_
  · rw [haccept]
    exact tableInv_accept htable hzero ip
  · intro q hq
    rw [List.mem_cons, not_or] at hq
    rw [haccept]
    exact (ownId_accept_of_ne ip hq.1).trans (hfresh q hq.2)
  · rw [haccept, Unfinished.entries_joinTable, List.flatMap_append]
    exact Identity.tracks_accept hzero (freshSid_of_below hbelow hmId) htracks ip
  · rw [haccept]
    exact below_accept hzero hbelow hmId ip
  · rw [haccept, mId_accept ip, nextId_eq hmId, List.length_cons]
    omega

theorem inv_leave {p : SessionPtr} {st : UInt16} (h : Inv loop s)
    (hstep : step z loop s (.leave p st) = some s') : Inv loop s' := by
  rw [step] at hstep
  split_ifs at hstep with hidle
  rw [Option.not_isSome_iff_eq_none] at hidle
  obtain rfl := Option.some.inj hstep
  obtain ⟨htable, hfresh, htracks, hbelow, hcount⟩ := h.idle hidle
  have hleave := Unfinished.finish_leaveTable s.server p st
  refine h.begun (mQueue_leaveTable s.server p) ?_ ?_ ?_ ?_ ?_
  · rw [hleave]
    exact tableInv_leave htable st
  · intro q hq
    rw [hleave]
    by_cases hqp : q = p
    · subst hqp
      exact ownId_leave htable st
    · exact (ownId_leave_of_ne htable st hqp).trans (hfresh q hq)
  · rw [hleave, Unfinished.entries_leaveTable, List.flatMap_append]
    exact Identity.tracks_leave htable htracks st
  · rw [hleave]
    exact below_leave htable hbelow st
  · rw [hleave, mId_leave htable st]
    exact hcount

theorem inv_finish (h : Inv loop s) (hkept : Kept z s (.finish : Event γ))
    (hstep : step z loop s .finish = some s') : Inv loop s' := by
  obtain ⟨u, hu, rfl⟩ := Option.map_eq_some_iff.mp hstep
  have hcompleted : completed s = u.finish s.server := by rw [completed, hu]
  have hdiscards : ∀ pack ∈ discards s.server.mQueue u.entries, ¬IsSession pack := by
    have hall := hkept.undiscarded
    rw [added, hu] at hall
    exact hall
  have hcurrent : sessionMessages (u.finish s.server).mQueue.current =
      sessionMessages s.server.mQueue.current ++ u.entries.map Entry.pack := by
    rw [Unfinished.mQueue_finish, sessionMessages_foldl hdiscards, sessionMessages_entries]
  refine h.frame ?_ rfl ?_ ?_
  · rw [hcompleted]
    exact SameTable.refl _
  · have htracks := h.tracks
    rw [pending, awaited, hu, sessionMessages_append, List.append_assoc] at htracks
    show Tracks (loop.faces s.main)
      ((sessionMessages (s.batch ++ (u.finish s.server).mQueue.current) ++ []).flatMap changesOf) _
    rw [List.append_nil, sessionMessages_append, hcurrent]
    exact htracks
  · show sessionMessages (s.handled ++ s.batch ++ (u.finish s.server).mQueue.current) =
      s.made ++ u.entries.map Entry.pack
    rw [sessionMessages_append, hcurrent, ← List.append_assoc, ← sessionMessages_append, h.conserved]

theorem completed_congr {t : HXLibAsioServer} (h : SameTable s.server t) :
    SameTable (completed s) (completed { s with server := t }) := by
  rw [completed, completed]
  cases s.unfinished with
  | none => exact h
  | some u => exact Unfinished.sameTable_finish u h

theorem inv_serve {e : Service.Event} (h : Inv loop s) (hkept : Kept z s (.serve e : Event γ))
    (hstep : step z loop s (.serve e) = some s') : Inv loop s' := by
  rw [step] at hstep
  split_ifs at hstep with hserves
  obtain ⟨t, ht, rfl⟩ := Option.map_eq_some_iff.mp hstep
  have hswap : e ≠ .swap := by
    rintro rfl
    exact nomatch hserves
  have hsame : SameTable s.server t := by
    rcases Service.serverStep_table ht with ⟨p, ip, rfl, -⟩ | ⟨p, t', st, he, -⟩ | hsame
    · exact nomatch hserves
    · rcases he with rfl | rfl
      · rw [serves, Option.isSome_none, Bool.and_false] at hserves
        exact nomatch hserves
      · rw [serves, Bool.and_false] at hserves
        exact nomatch hserves
    · exact hsame
  have hgenuine : sessionMessages ((logged z s.server e).map Entry.pack) = [] := by
    apply sessionMessages_eq_nil
    exact List.forall_mem_map.mpr hkept.genuine
  have hdiscards : ∀ pack ∈ discards s.server.mQueue (logged z s.server e), ¬IsSession pack :=
    hkept.undiscarded
  have hcurrent : sessionMessages t.mQueue.current = sessionMessages s.server.mQueue.current := by
    rw [mQueue_step ht hswap, sessionMessages_foldl hdiscards, hgenuine, List.append_nil]
  refine h.frame (completed_congr hsame) rfl ?_ ?_
  · have htracks := h.tracks
    rw [pending, sessionMessages_append] at htracks
    show Tracks (loop.faces s.main)
      ((sessionMessages (s.batch ++ t.mQueue.current) ++ awaited s).flatMap changesOf) _
    rw [sessionMessages_append, hcurrent]
    exact htracks
  · show sessionMessages (s.handled ++ s.batch ++ t.mQueue.current) = s.made
    rw [sessionMessages_append, hcurrent, ← sessionMessages_append]
    exact h.conserved

theorem inv_swap (h : Inv loop s) (hstep : step z loop s (.swap : Event γ) = some s') :
    Inv loop s' := by
  rw [step] at hstep
  split_ifs at hstep with hbatch
  obtain rfl := Option.some.inj hstep
  refine h.frame (completed_congr (Service.sameTable_mQueue _ _)) rfl ?_ ?_
  · have htracks := h.tracks
    rw [pending, hbatch, List.nil_append] at htracks
    show Tracks (loop.faces s.main) ((sessionMessages (s.server.mQueue.current ++
      s.server.mQueue.swap.1.current) ++ awaited s).flatMap changesOf) _
    rw [current_swap, List.append_nil]
    exact htracks
  · have hconserved := h.conserved
    rw [hbatch, List.append_nil] at hconserved
    show sessionMessages (s.handled ++ s.server.mQueue.current ++ s.server.mQueue.swap.1.current) =
      s.made
    rw [current_swap, List.append_nil]
    exact hconserved

theorem handle_eq_some {given : γ} (hstep : step z loop s (.handle given) = some s') :
    ∃ pack rest main, s.batch = pack :: rest ∧ loop.handle s.main pack given = .ok main ∧
      s' = { s with main, batch := rest, handled := s.handled ++ [pack] } := by
  simp only [step] at hstep
  cases hbatch : s.batch with
  | nil =>
    rw [hbatch] at hstep
    exact nomatch hstep
  | cons pack rest =>
    rw [hbatch] at hstep
    obtain ⟨main, hmain, rfl⟩ := Option.map_eq_some_iff.mp hstep
    exact ⟨pack, rest, main, rfl, mem_toOption hmain, rfl⟩

theorem inv_handle {given : γ} (h : Inv loop s) (hstep : step z loop s (.handle given) = some s') :
    Inv loop s' := by
  obtain ⟨pack, rest, main, hbatch, hmain, rfl⟩ := handle_eq_some hstep
  refine h.frame (SameTable.refl _) rfl ?_ ?_
  · have htracks := h.tracks
    rw [pending, hbatch, List.flatMap_append, changes_sessionMessages, List.cons_append,
      List.flatMap_cons, List.append_assoc] at htracks
    show Tracks (loop.faces main)
      ((sessionMessages (rest ++ s.server.mQueue.current) ++ awaited s).flatMap changesOf) _
    rw [loop.faces_handle hmain, List.flatMap_append, changes_sessionMessages]
    exact htracks.handled
  · have hconserved := h.conserved
    rw [hbatch] at hconserved
    show sessionMessages (s.handled ++ [pack] ++ rest ++ s.server.mQueue.current) = s.made
    rw [List.append_cons] at hconserved
    exact hconserved

theorem step_inv (h : Inv loop s) (hlt : s'.joined.length ≤ maxShort) (hkept : Kept z s e)
    (hstep : step z loop s e = some s') : Inv loop s' := by
  cases e with
  | join p ip =>
    refine inv_join h ?_ hstep
    rw [step] at hstep
    split_ifs at hstep
    obtain rfl := Option.some.inj hstep
    exact hlt
  | leave p st => exact inv_leave h hstep
  | finish => exact inv_finish h hkept hstep
  | serve e => exact inv_serve h hkept hstep
  | swap => exact inv_swap h hstep
  | handle given => exact inv_handle h hstep

/-! ## Runs from the start -/

theorem length_joined_step (hstep : step z loop s e = some s') :
    s'.joined.length = s.joined.length + joins [e] := by
  cases e with
  | join p ip =>
    rw [step] at hstep
    split_ifs at hstep
    obtain rfl := Option.some.inj hstep
    rfl
  | leave p st =>
    rw [step] at hstep
    split_ifs at hstep
    obtain rfl := Option.some.inj hstep
    rfl
  | finish =>
    obtain ⟨u, -, rfl⟩ := Option.map_eq_some_iff.mp hstep
    rfl
  | serve e =>
    rw [step] at hstep
    split_ifs at hstep
    obtain ⟨t, -, rfl⟩ := Option.map_eq_some_iff.mp hstep
    rfl
  | swap =>
    rw [step] at hstep
    split_ifs at hstep
    obtain rfl := Option.some.inj hstep
    rfl
  | handle given =>
    obtain ⟨pack, rest, main, -, -, rfl⟩ := handle_eq_some hstep
    rfl

theorem joins_append (es fs : List (Event γ)) :
    joins (es ++ fs) = joins es + joins fs :=
  List.countP_append ..

theorem length_joined {es : List (Event γ)} (hrun : run (step z loop) s es = some s') :
    s'.joined.length = s.joined.length + joins es := by
  induction es generalizing s with
  | nil =>
    rw [run, Option.some.injEq] at hrun
    rw [hrun]
    rfl
  | cons e es ih =>
    obtain ⟨t, ht, hrun⟩ := run_cons.mp hrun
    have hadd := joins_append [e] es
    rw [List.singleton_append] at hadd
    rw [ih hrun, length_joined_step ht, hadd, Nat.add_assoc]

section Start
variable {context : Nat → Nat} {readMsg : SessionPtr → HXMessagePackage}
variable {mHeader : SessionPtr → MBigHeader} {maxLinks : Int} {s₀ : HXLibAsioServer} {main₀ : μ}

theorem inv_start (hstart : (new context readMsg mHeader).start maxLinks = (true, s₀))
    (hempty : loop.faces main₀ = []) : Inv loop (start s₀ main₀) := by
  have hnobody : ∀ linkID, ¬s₀.Alive linkID := by
    rintro linkID ⟨p, hp, hne⟩
    exact hne (hp.symm.trans (ownId_start hstart p))
  have hs₀ := (start_eq_true hstart).2.2
  have hqueue : s₀.mQueue.current = [] := by
    rw [hs₀]
    rfl
  have hmId : s₀.mId = 0 := by rw [hs₀, HXLibAsioServer.new]
  refine ⟨tableInv_start hstart, fun p _ => ownId_start hstart p, ?_, ?_, ?_, ?_⟩
  · show Tracks (loop.faces main₀)
      ((sessionMessages ([] ++ s₀.mQueue.current) ++ []).flatMap changesOf) s₀.Alive
    rw [hempty, hqueue]
    exact Tracks.empty hnobody
  · exact fun linkID halive => absurd halive (hnobody linkID)
  · exact hmId.le
  · show sessionMessages ([] ++ [] ++ s₀.mQueue.current) = []
    rw [hqueue]
    rfl

theorem run_inv (hstart : (new context readMsg mHeader).start maxLinks = (true, s₀))
    (hempty : loop.faces main₀ = []) {es : List (Event γ)}
    (hrun : run (step z loop) (start s₀ main₀) es = some s) (hjoins : joins es < 32767)
    (hkept : Along (step z loop) (Kept z) (start s₀ main₀) es) : Inv loop s := by
  have hlength := length_joined hrun
  have hle : s.joined.length ≤ maxShort := by
    rw [hlength]
    show 0 + joins es ≤ 32767
    omega
  refine @run_invariant_along _ _ _ (fun s => s.joined.length ≤ maxShort → Inv loop s) _ ?_ _ _ _
    hkept hrun
    (fun _ => inv_start hstart hempty) hle
  intro s e s' hs hkept hstep hlt
  have hmono := length_joined_step hstep
  exact step_inv (hs (by omega)) hlt hkept hstep

end Start

theorem Inv.booked (h : Inv loop s) (hdrained : Drained s) :
    Booked ((loop.faces s.main).map Prod.snd) s.server := by
  obtain ⟨hidle, hbatch, hcurrent⟩ := hdrained
  obtain ⟨htable, -, htracks, -, -⟩ := h.idle hidle
  rw [hbatch, hcurrent] at htracks
  refine ⟨List.Nodup.of_map sidOf htracks.nodup, ?_⟩
  intro linkID
  rw [← alive_iff_occupied htable]
  exact htracks.settled linkID

theorem Inv.handled_eq_made (h : Inv loop s) (hdrained : Drained s) :
    sessionMessages s.handled = s.made := by
  have hconserved := h.conserved
  rw [hdrained.2.1, hdrained.2.2, List.append_nil, List.append_nil] at hconserved
  exact hconserved

end Machine

/-- In a run of fewer than 32767 joins in which no client sends a session message
and none is discarded, every one of them reaches the main loop, and the managers
of both servers list the occupied slots whenever all is handled. -/
theorem run_booked {σ : Type} {context : Nat → Nat} {readMsg : SessionPtr → HXMessagePackage}
    {mHeader : SessionPtr → MBigHeader} {maxLinks : Int} {s₀ : HXLibAsioServer} (net : Network σ)
    (z : Zlib) (hstart : (new context readMsg mHeader).start maxLinks = (true, s₀)) :
    (∀ es s t, run (step z (centerLoop net z)) (start s₀ (UserManager.new, t)) es = some s →
      joins es < 32767 →
      Along (step z (centerLoop net z)) (Kept z) (start s₀ (UserManager.new, t)) es →
      sessionMessages (s.handled ++ s.batch ++ s.server.mQueue.current) = s.made ∧
      (Drained s → Booked (s.main.1.users.map User.mLinkID) s.server ∧
        sessionMessages s.handled = s.made)) ∧
    (∀ es s t change id,
      run (step z (sceneLoop net)) (start s₀ (PlayerManager.new change id, t)) es = some s →
      joins es < 32767 →
      Along (step z (sceneLoop net)) (Kept z) (start s₀ (PlayerManager.new change id, t)) es →
      sessionMessages (s.handled ++ s.batch ++ s.server.mQueue.current) = s.made ∧
      (Drained s → Booked (s.main.1.players.map Player.mLinkID) s.server ∧
        sessionMessages s.handled = s.made)) := by
  constructor
  · intro es s t hrun hjoins hkept
    have hinv := run_inv hstart rfl hrun hjoins hkept
    refine ⟨hinv.conserved, ?_⟩
    intro hdrained
    have hbooked := hinv.booked hdrained
    rw [show (centerLoop net z).faces s.main = s.main.1.users.map UserManager.face from rfl,
      List.map_map] at hbooked
    exact ⟨hbooked, hinv.handled_eq_made hdrained⟩
  · intro es s t change id hrun hjoins hkept
    have hinv := run_inv hstart rfl hrun hjoins hkept
    refine ⟨hinv.conserved, ?_⟩
    intro hdrained
    have hbooked := hinv.booked hdrained
    rw [show (sceneLoop net).faces s.main = s.main.1.players.map PlayerManager.face from rfl,
      List.map_map] at hbooked
    exact ⟨hbooked, hinv.handled_eq_made hdrained⟩

instance {μ γ : Type} (z : Zlib) (s : State μ) (e : Event γ) : Decidable (Kept z s e) :=
  decidable_of_iff ((∀ x ∈ received z s e, ¬IsSession x.pack) ∧
    ∀ pack ∈ discards s.server.mQueue (added z s e), ¬IsSession pack)
    ⟨fun h => ⟨h.1, h.2⟩, fun h => ⟨h.genuine, h.undiscarded⟩⟩

/-- Two clients connect. Between two swaps the first one sends a message and goes. -/
def visit : List (Event CenterServer.Given) :=
  [.join 0 IpText.empty, .finish, .join 1 IpText.empty, .finish, .swap, .handle Identity.given,
    .serve (.read 0 (some (Header.bytes ⟨1000, 0, 0⟩))), .serve (.read 0 (some [])),
    .handle Identity.given, .leave 0 dissconnectReadError, .finish, .swap, .handle Identity.given,
    .handle Identity.given]

theorem run_booked_visit :
    ∃ s, run (step Zlib.refusing (centerLoop Identity.quiet Zlib.refusing))
      (start (zeroed.start 2).2 (UserManager.new, ())) visit = some s ∧
    s.main.1.users.map User.mLinkID = [⟨2, 1⟩] ∧ s.handled.length = 4 ∧
    Booked (s.main.1.users.map User.mLinkID) s.server ∧ sessionMessages s.handled = s.made := by
  have hstart : zeroed.start 2 = (true, (zeroed.start 2).2) := rfl
  have hrun : ∃ s, run (step Zlib.refusing (centerLoop Identity.quiet Zlib.refusing))
      (start (zeroed.start 2).2 (UserManager.new, ())) visit = some s ∧
      s.main.1.users.map User.mLinkID = [⟨2, 1⟩] ∧ s.handled.length = 4 ∧ Drained s :=
    ⟨_, rfl, rfl, rfl, rfl, rfl, rfl⟩
  obtain ⟨s, hrun, hlinks, hhandled, hdrained⟩ := hrun
  refine ⟨s, hrun, hlinks, hhandled, ?_⟩
  exact ((run_booked Identity.quiet Zlib.refusing hstart).1 _ s () hrun (by decide)
    (by decide +kernel)).2 hdrained

section Lost
variable {s : HXLibAsioServer} {p : SessionPtr} {h : Header}

theorem receive_plain (z : Zlib) (hreading : (s.mSessions p).reading = some .header)
    (hlength : h.length = 0) (hid : h.id ≠ idHeartbeat) (hplain : ¬isBigStream h.id) :
    ∃ t u pack, Service.serverStep z s (.read p (some h.bytes)) = some t ∧
      Service.serverStep z t (.read p (some [])) = some u ∧ pack.header = h ∧ pack.mLinkid = s.ownId p ∧
      u.mQueue = s.mQueue.add pack ∧ SameTable s u ∧ (u.mSessions p).reading = some .header := by
  have hheader := Header.ofBytes_bytes_self h
  have hread : Service.serverStep z s (.read p (some h.bytes)) =
      some (s.modifySession p (·.readHeader h.bytes)) := by
    have hcompletes : Service.Completes (some h.bytes) headerLength := by
      intro bs hbs
      rw [← Option.some.inj hbs, Header.length_bytes]
    simp only [Service.serverStep, Service.readStep, hreading]
    rw [if_pos hcompletes]
    rfl
  obtain ⟨t, ht⟩ : ∃ t, t = s.modifySession p (·.readHeader h.bytes) := ⟨_, rfl⟩
  have hsame : SameTable s t :=
    ht ▸ (untouched_modifySession s p (·.readHeader h.bytes) rfl).toSameTable
  have hqueue : t.mQueue = s.mQueue := by
    rw [ht]
    rfl
  have hsession : t.mSessions p = (s.mSessions p).readHeader h.bytes :=
    ht ▸ mSessions_modifySession_self ..
  have hpending : (t.mSessions p).reading = some .body := by
    rw [hsession]
    rfl
  have hreadMsg : (t.mSessions p).readMsg.header = h := by
    rw [hsession]
    exact hheader
  obtain ⟨pack, hpack⟩ : ∃ pack, pack = (t.mSessions p).received [] (Nat.zero_le _) := ⟨_, rfl⟩
  have hpackHeader : pack.header = h := by
    rw [hpack]
    exact hreadMsg
  have hpackLink : pack.mLinkid = s.ownId p := by
    rw [hpack]
    exact hsame.own p
  have hadded := @addWith_plain z t.mQueue pack (t.mSessions p).mBigData (hpackHeader ▸ hplain)
  have hfit : ([] : List UInt8).length ≤ maxBodyLength := Nat.zero_le _
  have hhandled : t.handleReadBody z p (some []) = .ok
      ({ t with mQueue := t.mQueue.add pack }.modifySession p fun a =>
        { a with readMsg := pack, mBigData := (t.mSessions p).mBigData, reading := some .header }) := by
    rw [handleReadBody]
    dsimp only
    rw [dif_pos hfit, ← hpack, if_pos (hpackHeader ▸ hid), hadded]
    rfl
  refine ⟨t, _, pack, hread.trans (congrArg some ht.symm), ?_, hpackHeader, hpackLink, ?_,
    hsame.trans (Service.sameTable_received hhandled), ?_⟩
  · have hcompletes : Service.Completes (some []) (t.mSessions p).readMsg.bodyLength := by
      intro bs hbs
      rw [← Option.some.inj hbs, HXMessagePackage.bodyLength, hreadMsg, hlength]
      rfl
    simp only [Service.serverStep, Service.readStep, hpending]
    rw [if_pos hcompletes, hhandled]
    rfl
  · rw [← hqueue]
    rfl
  · rw [mSessions_modifySession_self]

end Lost

section Burst
variable {z : Zlib}

abbrev Center := State (UserManager × Unit)

def centerStep (z : Zlib) : Center → Event CenterServer.Given → Option Center :=
  step z (centerLoop Identity.quiet z)

def message (h : Header) : List (Event CenterServer.Given) :=
  [.serve (.read 0 (some h.bytes)), .serve (.read 0 (some []))]

structure Connected (s : Center) : Prop where
  unfinished : s.unfinished = none
  batch : s.batch = []
  main : s.main = (UserManager.new, ())
  reading : (s.server.mSessions 0).reading = some .header
  slots : s.server.slots = 1
  occupied : (s.server.link 0).isSome
  own : s.server.ownId 0 = ⟨1, 0⟩

theorem connected_start : ∃ s, run (centerStep z) (start (zeroed.start 1).2 (UserManager.new, ()))
    [.join 0 IpText.empty, .finish] = some s ∧ Connected s ∧
    s.server.mQueue.current = [connectMessage ⟨1, 0⟩ IpText.empty] :=
  ⟨_, rfl, ⟨rfl, rfl, rfl, rfl, rfl, rfl, rfl⟩, rfl⟩

theorem Connected.message {s : Center} {h : Header} (hs : Connected s) (hlength : h.length = 0)
    (hid : h.id ≠ idHeartbeat) (hplain : ¬isBigStream h.id) :
    ∃ s' pack, run (centerStep z) s (message h) = some s' ∧ Connected s' ∧ pack.header = h ∧
      pack.mLinkid = ⟨1, 0⟩ ∧ s'.server.mQueue.current = bounded s.server.mQueue.current pack := by
  obtain ⟨t, u, pack, ht, hu, hheader, hlink, hqueue, hsame, hreading⟩ :=
    receive_plain z hs.reading hlength hid hplain
  have hfirst : centerStep z s (.serve (.read 0 (some h.bytes))) = some { s with server := t } := by
    rw [centerStep, step, hs.unfinished, ht]
    rfl
  have hsecond : centerStep z { s with server := t } (.serve (.read 0 (some []))) =
      some { s with server := u } := by
    rw [centerStep, step]
    dsimp only
    rw [hs.unfinished, hu]
    rfl
  refine ⟨{ s with server := u }, pack, run_cons.mpr ⟨_, hfirst, run_cons.mpr ⟨_, hsecond, rfl⟩⟩, ?_,
    hheader, hlink.trans hs.own, ?_⟩
  · refine ⟨hs.unfinished, hs.batch, hs.main, hreading, ?_, ?_, (hsame.own 0).trans hs.own⟩
    · exact hsame.slots_eq.trans hs.slots
    · rw [hsame.link 0]
      exact hs.occupied
  · show u.mQueue.current = _
    rw [hqueue, add, current_setCurrent]

theorem burst_run {n : Nat} (hn : n + 1 < queueMax) :
    ∃ s c rest, run (centerStep z) (start (zeroed.start 1).2 (UserManager.new, ()))
      ([.join 0 IpText.empty, .finish] ++ (List.replicate n (message emptyHeader)).flatten) = some s ∧
    Connected s ∧ s.server.mQueue.current = c :: rest ∧ rest.length = n ∧
    ∀ pack ∈ rest, pack.header = emptyHeader := by
  induction n with
  | zero =>
    obtain ⟨s, hrun, hs, hcurrent⟩ := @connected_start z
    exact ⟨s, _, [], hrun, hs, hcurrent, rfl, nofun⟩
  | succ n ih =>
    obtain ⟨s, c, rest, hrun, hs, hcurrent, hlength, hrest⟩ := ih (by omega)
    obtain ⟨s', pack, hrun', hs', hheader, -, hcurrent'⟩ :=
      @Connected.message z s emptyHeader hs rfl (by decide) (by decide)
    refine ⟨s', c, rest ++ [pack], ?_, hs', ?_, ?_, ?_⟩
    · rw [List.replicate_succ', List.flatten_append, ← List.append_assoc]
      refine run_append.mpr ⟨s, hrun, ?_⟩
      rw [List.flatten_singleton]
      exact hrun'
    · rw [hcurrent', bounded_of_lt, hcurrent, List.cons_append]
      rw [hcurrent, List.length_cons, hlength]
      exact hn
    · rw [List.length_append, hlength, List.length_singleton]
    · intro other hother
      rcases List.mem_append.mp hother with hother | hother
      · exact hrest other hother
      · rw [List.mem_singleton.mp hother]
        exact hheader

theorem handle_empty (m : UserManager) {pack : HXMessagePackage} (h : pack.header = emptyHeader) :
    CenterServer.handle Identity.quiet z m pack Identity.given () = .ok (m, ()) := by
  rw [CenterServer.handle, h]
  rfl

theorem step_handle {s : Center} {pack : HXMessagePackage} {rest : List HXMessagePackage}
    {main : UserManager × Unit} (hbatch : s.batch = pack :: rest)
    (h : CenterServer.handle Identity.quiet z s.main.1 pack Identity.given () = .ok main) :
    centerStep z s (.handle Identity.given) =
      some { s with main, batch := rest, handled := s.handled ++ [pack] } := by
  simp only [centerStep, step, hbatch]
  show (CenterServer.handle Identity.quiet z s.main.1 pack Identity.given ()).toOption.map _ = _
  rw [h]
  rfl

theorem handle_all {s : Center} (h : ∀ pack ∈ s.batch, pack.header = emptyHeader) :
    ∃ s', run (centerStep z) s (List.replicate s.batch.length (.handle Identity.given)) = some s' ∧
      s'.batch = [] ∧ s'.main = s.main ∧ s'.server = s.server ∧ s'.unfinished = s.unfinished := by
  obtain ⟨batch, hbatch⟩ : ∃ batch, batch = s.batch := ⟨_, rfl⟩
  induction batch generalizing s with
  | nil => exact ⟨s, by rw [← hbatch]; rfl, hbatch.symm, rfl, rfl, rfl⟩
  | cons pack rest ih =>
    have hpack := h pack (hbatch ▸ List.mem_cons_self)
    have hstep := step_handle hbatch.symm (@handle_empty z s.main.1 pack hpack)
    obtain ⟨s', hrun, hs'⟩ := @ih { s with batch := rest, handled := s.handled ++ [pack] }
      (fun other hother => h other (hbatch ▸ List.mem_cons_of_mem _ hother)) rfl
    refine ⟨s', ?_, hs'⟩
    rw [← hbatch, List.length_cons, List.replicate_succ]
    exact run_cons.mpr ⟨_, hstep, hrun⟩

theorem Connected.swap {s : Center} (hs : Connected s) : ∃ s', centerStep z s .swap = some s' ∧
    s'.batch = s.server.mQueue.current ∧ s'.main = s.main ∧ s'.unfinished = none ∧
    s'.server.mQueue.current = [] ∧ s'.server.slots = 1 ∧ (s'.server.link 0).isSome := by
  refine ⟨_, if_pos hs.batch, rfl, rfl, hs.unfinished, current_swap _, hs.slots, hs.occupied⟩

theorem not_booked_nil {t : HXLibAsioServer} (hslots : t.slots = 1) (hlink : (t.link 0).isSome) :
    ¬Booked [] t := by
  intro h
  have hmem := (h.occupied (t.mLinks 0).id).mpr ⟨0, by omega, hlink, rfl⟩
  exact absurd hmem List.not_mem_nil

def burst : List (Event CenterServer.Given) :=
  ([.join 0 IpText.empty, .finish] ++ (List.replicate 8160 (message emptyHeader)).flatten) ++
    (message emptyHeader ++ ([.swap] ++ List.replicate 8161 (.handle Identity.given)))

/-- 8161 messages before the main loop swaps, and the connect message is gone. -/
theorem connect_discarded :
    ∃ s, run (centerStep z) (start (zeroed.start 1).2 (UserManager.new, ())) burst = some s ∧
    Drained s ∧ ¬Booked (s.main.1.users.map User.mLinkID) s.server := by
  obtain ⟨s₁, c, rest, hrun₁, hs₁, hcurrent₁, hlength, hrest⟩ := @burst_run z 8160 (by decide)
  obtain ⟨s₂, pack, hrun₂, hs₂, hheader, -, hcurrent₂⟩ :=
    @Connected.message z s₁ emptyHeader hs₁ rfl (by decide) (by decide)
  obtain ⟨s₃, hswap, hbatch, hmain, hidle, hcurrent₃, hslots, hlink⟩ := @Connected.swap z s₂ hs₂
  have hkept : s₃.batch = rest ++ [pack] := by
    rw [hbatch, hcurrent₂, hcurrent₁, bounded, if_pos]
    · rfl
    · rw [List.length_append, List.length_cons, hlength]
      exact Nat.le_refl 8162
  have hplain : ∀ pack ∈ s₃.batch, pack.header = emptyHeader := by
    intro other hother
    rw [hkept] at hother
    rcases List.mem_append.mp hother with hother | hother
    · exact hrest other hother
    · rw [List.mem_singleton.mp hother]
      exact hheader
  obtain ⟨s, hrun, hdone, hmain', hserver, hidle'⟩ := @handle_all z s₃ hplain
  have hcount : s₃.batch.length = 8161 := by
    rw [hkept, List.length_append, hlength]
    rfl
  rw [hcount] at hrun
  refine ⟨s, ?_, ⟨hidle'.trans hidle, hdone, ?_⟩, ?_⟩
  · exact run_append.mpr ⟨s₁, hrun₁, run_append.mpr ⟨s₂, hrun₂, run_cons.mpr ⟨s₃, hswap, hrun⟩⟩⟩
  · rw [hserver]
    exact hcurrent₃
  · rw [hmain', hmain, hs₂.main, hserver]
    exact not_booked_nil hslots hlink

def forged : List (Event CenterServer.Given) :=
  [.join 0 IpText.empty, .finish] ++
    (message ⟨idDisconnect, 0, 0⟩ ++ [.swap, .handle Identity.given, .handle Identity.given])

/-- A client that sends a disconnect message of its own is no longer listed. -/
theorem disconnect_forged :
    ∃ s, run (centerStep z) (start (zeroed.start 1).2 (UserManager.new, ())) forged = some s ∧
    Drained s ∧ ¬Booked (s.main.1.users.map User.mLinkID) s.server := by
  obtain ⟨s₁, hrun₁, hs₁, hcurrent₁⟩ := @connected_start z
  obtain ⟨s₂, pack, hrun₂, hs₂, hheader, hlinkid, hcurrent₂⟩ :=
    @Connected.message z s₁ ⟨idDisconnect, 0, 0⟩ hs₁ rfl (by decide) (by decide)
  obtain ⟨s₃, hswap, hbatch, hmain, hidle, hcurrent₃, hslots, hlink⟩ := @Connected.swap z s₂ hs₂
  rw [hcurrent₂, hcurrent₁, bounded_of_lt (by decide)] at hbatch
  have hconnect := @Identity.handle_connect_center z _ Identity.quiet
    (connectMessage ⟨1, 0⟩ IpText.empty) () s₃.main.1 Identity.given rfl
  have hdisconnect := @Identity.handle_disconnect_center _ Identity.quiet z pack ()
    (s₃.main.1.addUser (User.new ⟨1, 0⟩ false)) Identity.given (congrArg Header.id hheader)
  have hnobody : ((s₃.main.1.addUser (User.new ⟨1, 0⟩ false)).deleteUser (sidOf pack.mLinkid)).2.users =
      [] := by
    rw [hmain, hs₂.main, hlinkid]
    rfl
  refine ⟨_, run_append.mpr ⟨s₁, hrun₁, run_append.mpr ⟨s₂, hrun₂, run_cons.mpr ⟨s₃, hswap, run_cons.mpr
    ⟨_, step_handle hbatch hconnect, run_cons.mpr ⟨_, step_handle rfl hdisconnect, rfl⟩⟩⟩⟩⟩, ?_, ?_⟩
  · exact ⟨hidle, rfl, hcurrent₃⟩
  · show ¬Booked (((s₃.main.1.addUser (User.new ⟨1, 0⟩ false)).deleteUser
      (sidOf pack.mLinkid)).2.users.map
      User.mLinkID) s₃.server
    rw [hnobody]
    exact not_booked_nil hslots hlink

theorem joins_flatten_replicate (n : Nat) :
    joins (List.replicate n (message emptyHeader)).flatten = 0 := by
  rw [joins, List.countP_flatten, List.map_replicate]
  exact List.sum_replicate_nat.trans (Nat.mul_zero n)

/-- The managers can be wrong when all is handled: a burst of messages discards a
connect message, and a client may send a disconnect message itself. -/
theorem bookkeeping_fails :
    (∃ s, run (centerStep Zlib.refusing) (start (zeroed.start 1).2 (UserManager.new, ())) burst =
      some s ∧ joins burst < 32767 ∧ Drained s ∧ ¬Booked (s.main.1.users.map User.mLinkID) s.server) ∧
    (∃ s, run (centerStep Zlib.refusing) (start (zeroed.start 1).2 (UserManager.new, ())) forged =
      some s ∧
      joins forged < 32767 ∧ Drained s ∧ ¬Booked (s.main.1.users.map User.mLinkID) s.server) := by
  obtain ⟨s, hrun, hs⟩ := @connect_discarded Zlib.refusing
  obtain ⟨t, hrun', ht⟩ := @disconnect_forged Zlib.refusing
  refine ⟨⟨s, hrun, ?_, hs⟩, ⟨t, hrun', by decide, ht⟩⟩
  have hhandles : joins (List.replicate 8161 (Event.handle Identity.given)) = 0 :=
    List.countP_eq_zero.mpr fun e he => by rw [List.eq_of_mem_replicate he]; exact Bool.false_ne_true
  have hfirst : joins [Event.join 0 IpText.empty, (Event.finish : Event CenterServer.Given)] = 1 := rfl
  have hmessage : joins (message emptyHeader) = 0 := rfl
  have hswap : joins [(Event.swap : Event CenterServer.Given)] = 0 := rfl
  rw [burst, joins_append, joins_append, joins_append, joins_append, joins_flatten_replicate, hhandles,
    hfirst, hmessage, hswap]
  decide

end Burst

end HXService.Bookkeeping
