import HXService.Lib.Runs
import HXService.MainLoop
import HXService.Sectioning

/-! Which sequence headers a receiver has been sent before a stream package, over
runs of a manager on a network that takes everything. -/

namespace HXService.SequenceHeaders
open Bytes Runs

/-! ## What has been sent -/

abbrev Log := List (LinkID × Outgoing)

-- every send succeeds and is recorded
def recorder : Network Log :=
  ⟨fun log linkID msg => (true, log ++ [(linkID, msg)]), fun log _ _ _ => (true, log)⟩

def sentTo (linkID : LinkID) (msgs : List Outgoing) : Log := msgs.map (linkID, ·)

def IsStream (msg : Outgoing) : Prop := ∃ q, msg = .big q ∧ q.mHeader.id = idFLVStream

/-- An `ID_FLV_Sequence_Header` package that carries `data`. -/
def Carries (z : Zlib) (data : List UInt8) (msg : Outgoing) : Prop :=
  ∃ q q' : HXBigMessageQueue, q.setBigPackage z idFLVSequenceHeader 0 data 0 = .ok q' ∧ msg = .big q'

/-- Since `since`, every entry of the map has been sent to the link. -/
def Has (z : Zlib) (log : Log) (since : Nat) (linkID : LinkID) (m : FlvSeqHeaderMap) : Prop :=
  ∀ data ∈ m.data, ∃ msg, (linkID, msg) ∈ log.drop since ∧ Carries z data msg

/-- When a receiver was added: how much had been sent, and how many streams. -/
structure Tenure where
  logged : Nat
  streams : Nat

section Sent
variable {z : Zlib} {log more : Log} {since : Nat} {linkID : LinkID} {m : FlvSeqHeaderMap}

theorem Has.append (h : Has z log since linkID m) (more : Log) :
    Has z (log ++ more) since linkID m := by
  intro data hdata
  obtain ⟨msg, hmsg, hcarries⟩ := h data hdata
  refine ⟨msg, ?_, hcarries⟩
  rw [List.drop_append]
  exact List.mem_append_left _ hmsg

theorem Has.later {after : Log} (h : Has z log since linkID m) (hle : log <+: after) :
    Has z after since linkID m := by
  obtain ⟨more, rfl⟩ := hle
  exact h.append more

theorem has_of_sent {pre : List Outgoing} (hsince : since ≤ log.length)
    (h : ∀ data ∈ m.data, ∃ msg ∈ pre, Carries z data msg) :
    Has z (log ++ sentTo linkID pre) since linkID m := by
  intro data hdata
  obtain ⟨msg, hmsg, hcarries⟩ := h data hdata
  refine ⟨msg, ?_, hcarries⟩
  rw [List.drop_append_of_le_length hsince]
  exact List.mem_append_right _ (List.mem_map_of_mem hmsg)

theorem has_empty : Has z log since linkID FlvSeqHeaderMap.empty := by
  intro data hdata
  have hnil : FlvSeqHeaderMap.empty.data = [] := List.filterMap_none _
  rw [hnil] at hdata
  exact absurd hdata List.not_mem_nil

theorem not_isStream_of_carries {data : List UInt8} {msg : Outgoing} (h : Carries z data msg) :
    ¬IsStream msg := by
  obtain ⟨q, q', hq, rfl⟩ := h
  rintro ⟨p, hp, hid⟩
  obtain rfl := Outgoing.big.inj hp
  rw [Sectioning.mHeader_setBigPackage hq] at hid
  exact absurd hid (show idFLVSequenceHeader ≠ idFLVStream by decide)

theorem foldl_recorder (msgs : List Outgoing) (log : Log) :
    msgs.foldl (fun s msg => (recorder.send s linkID msg).2) log = log ++ sentTo linkID msgs := by
  induction msgs generalizing log with
  | nil => exact (List.append_nil log).symm
  | cons msg msgs ih =>
    rw [List.foldl_cons, ih]
    exact List.append_assoc ..

end Sent

section Receiver
variable {z : Zlib} {α : Type} {r : Receiving α} {m : FlvSeqHeaderMap} {log : Log}

theorem sendFlvSeqHeaders_recorder {linkID : LinkID} {q : HXBigMessageQueue} {datas : List (List UInt8)}
    {out : Bool × Log} (h : sendFlvSeqHeaders recorder z linkID q log datas = .ok out) :
    out.1 = true ∧ ∃ pre, out.2 = log ++ sentTo linkID pre ∧ (∀ msg ∈ pre, ¬IsStream msg) ∧
      ∀ data ∈ datas, ∃ msg ∈ pre, Carries z data msg := by
  induction datas generalizing q log with
  | nil =>
    rw [sendFlvSeqHeaders] at h
    obtain rfl := Except.ok.inj h
    exact ⟨rfl, [], (List.append_nil log).symm, nofun, nofun⟩
  | cons data datas ih =>
    rw [sendFlvSeqHeaders] at h
    obtain ⟨q', hq', h⟩ := bind_eq_ok.mp h
    have hcarries : Carries z data (.big q') := ⟨q, q', hq', rfl⟩
    obtain ⟨hok, pre, hlog, hpre, hall⟩ := ih h
    refine ⟨hok, .big q' :: pre, ?_, ?_, ?_⟩
    · rw [hlog]
      exact List.append_assoc ..
    · intro msg hmsg
      rcases List.mem_cons.mp hmsg with rfl | hmsg
      · exact not_isStream_of_carries hcarries
      · exact hpre msg hmsg
    · intro d hd
      rcases List.mem_cons.mp hd with rfl | hd
      · exact ⟨_, List.mem_cons_self, hcarries⟩
      · obtain ⟨msg, hmsg, hc⟩ := hall d hd
        exact ⟨msg, List.mem_cons_of_mem _ hmsg, hc⟩

/-- After a receiver has been looked at, the change flag is down. It has been
sent the headers unless its own flag was set and the change flag was not. -/
theorem sendFlvHeadersTo_recorder {change : Bool} {user : α} {out : α × Bool × Log}
    (h : sendFlvHeadersTo recorder z r m change log user = .ok out) :
    out.2.1 = false ∧ ∃ pre, out.2.2 = log ++ sentTo (r.linkID user) pre ∧
      (∀ msg ∈ pre, ¬IsStream msg) ∧
      ((∀ data ∈ m.data, ∃ msg ∈ pre, Carries z data msg) ∨ r.flag user = true ∧ change = false) := by
  rw [sendFlvHeadersTo] at h
  split_ifs at h with hneeds
  · obtain ⟨sent, hsent, h⟩ := bind_eq_ok.mp h
    obtain ⟨-, pre, hlog, hpre, hall⟩ := sendFlvSeqHeaders_recorder hsent
    rw [← Except.ok.inj h]
    exact ⟨rfl, pre, hlog, hpre, Or.inl hall⟩
  · rw [Bool.or_eq_true, not_or, Bool.not_eq_true', Bool.not_eq_false, Bool.not_eq_true] at hneeds
    rw [← Except.ok.inj h]
    exact ⟨hneeds.2, [], (List.append_nil log).symm, List.forall_mem_nil _, Or.inr hneeds⟩

end Receiver

section Stream
variable {z : Zlib} {α : Type} {r : Receiving α} {m : FlvSeqHeaderMap}

/-- What a stream adds to the log, receiver by receiver: no other stream package
before its own, and by then the current headers have been sent to it. -/
def StreamsWell (z : Zlib) (r : Receiving α) (m : FlvSeqHeaderMap) (stream : Outgoing) :
    Log → List (α × Tenure) → Log → Prop
  | log, [], after => after = log
  | log, (user, tenure) :: rest, after =>
    if r.skipped user then StreamsWell z r m stream log rest after
    else ∃ pre, (∀ msg ∈ pre, ¬IsStream msg) ∧
      Has z (log ++ sentTo (r.linkID user) pre) tenure.logged (r.linkID user) m ∧
      StreamsWell z r m stream (log ++ sentTo (r.linkID user) (pre ++ [stream])) rest after

theorem StreamsWell.extends {stream : Outgoing} {seats : List (α × Tenure)} {log after : Log}
    (h : StreamsWell z r m stream log seats after) : log <+: after := by
  induction seats generalizing log with
  | nil => exact h ▸ List.prefix_rfl
  | cons seat rest ih =>
    rw [StreamsWell] at h
    split_ifs at h
    · exact ih h
    · obtain ⟨pre, -, -, h⟩ := h
      exact (List.prefix_append _ _).trans (ih h)

theorem StreamsWell.has {stream : Outgoing} {seats : List (α × Tenure)} {log after : Log}
    (h : StreamsWell z r m stream log seats after) {seat : α × Tenure} (hseat : seat ∈ seats)
    (hskip : ¬r.skipped seat.1) : Has z after seat.2.logged (r.linkID seat.1) m := by
  induction seats generalizing log with
  | nil => exact absurd hseat List.not_mem_nil
  | cons first rest ih =>
    rw [StreamsWell] at h
    rcases List.mem_cons.mp hseat with rfl | hseat
    · rw [if_neg hskip] at h
      obtain ⟨pre, -, hhas, h⟩ := h
      have hmsgs : sentTo (r.linkID seat.1) (pre ++ [stream]) =
          sentTo (r.linkID seat.1) pre ++ sentTo (r.linkID seat.1) [stream] := List.map_append
      rw [hmsgs, ← List.append_assoc] at h
      exact (hhas.append _).later h.extends
    · split_ifs at h
      · exact ih h hseat
      · obtain ⟨pre, -, -, h⟩ := h
        exact ih h hseat

/-- The loop over the receivers. A receiver whose flag is set gets no headers
unless the change flag is up and it is the first that is not skipped. -/
theorem streamsWell_of_send {before : Nat → α → List Outgoing} {pkt : HXBigMessageQueue} {i : Nat}
    {change : Bool} {seats : List (α × Tenure)} {log : Log} {out : List α × Bool × Log}
    (hbefore : ∀ i user, ∀ msg ∈ before i user, ¬IsStream msg)
    (h : sendFlvStreamTo recorder z r m before pkt i change log (seats.map Prod.fst) = .ok out)
    (hlogged : ∀ seat ∈ seats, seat.2.logged ≤ log.length)
    (hhas : ∀ pre seat post, seats = pre ++ seat :: post → ¬r.skipped seat.1 → r.flag seat.1 = true →
      (change = true → ∃ other ∈ pre, ¬r.skipped other.1) →
      Has z log seat.2.logged (r.linkID seat.1) m) :
    StreamsWell z r m (.big pkt) log seats out.2.2 := by
  induction seats generalizing i change log out with
  | nil =>
    rw [List.map_nil, sendFlvStreamTo] at h
    rw [← Except.ok.inj h]
    rfl
  | cons first rest ih =>
    rw [List.map_cons, sendFlvStreamTo] at h
    rw [StreamsWell]
    split_ifs at h ⊢ with hskip
    · obtain ⟨out', hout, h⟩ := bind_eq_ok.mp h
      rw [← Except.ok.inj h]
      have hrest : StreamsWell z r m (.big pkt) log rest out'.2.2 := by
        refine ih hout (fun seat hseat => hlogged seat (List.mem_cons_of_mem _ hseat)) ?_
        rintro pre seat post rfl hseat hflag hfirst
        refine hhas (first :: pre) seat post rfl hseat hflag fun hchange => ?_
        obtain ⟨other, hother, hns⟩ := hfirst hchange
        exact ⟨other, List.mem_cons_of_mem _ hother, hns⟩
      exact hrest
    · obtain ⟨headers, hheaders, h⟩ := bind_eq_ok.mp h
      obtain ⟨hdown, pre, hlog, hpre, hsent⟩ := sendFlvHeadersTo_recorder hheaders
      obtain ⟨out', hout, h⟩ := bind_eq_ok.mp h
      rw [← Except.ok.inj h]
      have hfirst :
          Has z (log ++ sentTo (r.linkID first.1) pre) first.2.logged (r.linkID first.1) m := by
        rcases hsent with hsent | ⟨hflag, hchange⟩
        · exact has_of_sent (hlogged first List.mem_cons_self) hsent
        · refine (hhas [] first rest rfl hskip hflag fun hup => ?_).append _
          exact absurd (hup.symm.trans hchange) Bool.noConfusion
      have hmsgs : headers.2.2 ++ sentTo (r.linkID first.1) (before i first.1 ++ [.big pkt]) =
          log ++ sentTo (r.linkID first.1) (pre ++ before i first.1 ++ [.big pkt]) := by
        rw [hlog, List.append_assoc log, List.append_assoc pre]
        exact congrArg (log ++ ·) List.map_append.symm
      rw [foldl_recorder, hdown, hmsgs] at hout
      have hrest : StreamsWell z r m (.big pkt)
          (log ++ sentTo (r.linkID first.1) (pre ++ before i first.1 ++ [.big pkt])) rest out'.2.2 := by
        refine ih hout ?_ ?_
        · intro seat hseat
          rw [List.length_append]
          exact (hlogged seat (List.mem_cons_of_mem _ hseat)).trans (Nat.le_add_right _ _)
        · rintro pre' seat post rfl hseat hflag -
          exact (hhas (first :: pre') seat post rfl hseat hflag
            fun _ => ⟨first, List.mem_cons_self, hskip⟩).append _
      refine ⟨pre ++ before i first.1, ?_, ?_, hrest⟩
      · intro msg hmsg
        rcases List.mem_append.mp hmsg with hmsg | hmsg
        · exact hpre msg hmsg
        · exact hbefore i first.1 msg hmsg
      · rw [sentTo, List.map_append, ← List.append_assoc]
        exact hfirst.append _

end Stream

/-! ## Runs of a manager

What both managers have in common; `args` are the arguments of `SendFlvStream`. -/

structure Streamer (z : Zlib) (μ α args : Type) where
  receiving : Receiving α
  key : α → Nat
  users : μ → List α
  map : μ → FlvSeqHeaderMap
  change : μ → Bool
  addUser : μ → α → μ
  deleteUser : μ → Nat → μ
  cache : μ → List UInt8 → μ
  sendFlvStream : μ → args → Log → Checked (μ × Log)
  seat_setFlag : ∀ user,
    (receiving.linkID (receiving.setFlag user), receiving.skipped (receiving.setFlag user)) =
    (receiving.linkID user, receiving.skipped user)
  users_addUser : ∀ m user, users (addUser m user) = users m ++ [user]
  users_deleteUser : ∀ m plyId, users (deleteUser m plyId) = Roster.remove key plyId (users m)
  users_cache : ∀ m data, users (cache m data) = users m
  sendFlvStream_loop : ∀ {m a log out}, sendFlvStream m a log = .ok out → ∃ before pkt res,
    pkt.mHeader.id = idFLVStream ∧ (∀ i user, ∀ msg ∈ before i user, ¬IsStream msg) ∧
    sendFlvStreamTo recorder z receiving (map m) before pkt 0 (change m) log (users m) = .ok res ∧
    users out.1 = res.1 ∧ out.2 = res.2.2

/-- `seats` are the users with their tenures; `lastMap` is the map at the latest stream. -/
structure State (μ α : Type) where
  manager : μ
  log : Log
  seats : List (α × Tenure)
  streams : Nat
  lastMap : FlvSeqHeaderMap

inductive Event (α args : Type)
  | addUser (user : α)
  | deleteUser (plyId : Nat)
  | cache (data : List UInt8)
  | sendFlvStream (a : args)

section Machine
variable {z : Zlib} {μ α args : Type} (M : Streamer z μ α args)

def step (s : State μ α) : Event α args → Option (State μ α)
  | .addUser user => some { s with
      manager := M.addUser s.manager user
      seats := s.seats ++ [(user, ⟨s.log.length, s.streams⟩)] }
  | .deleteUser plyId => some { s with
      manager := M.deleteUser s.manager plyId
      seats := Roster.remove (fun seat => M.key seat.1) plyId s.seats }
  | .cache data => some { s with manager := M.cache s.manager data }
  | .sendFlvStream a => (M.sendFlvStream s.manager a s.log).toOption.map fun out =>
      { manager := out.1, log := out.2, seats := (M.users out.1).zip (s.seats.map Prod.snd),
        streams := s.streams + 1, lastMap := M.map s.manager }

def StreamedWell (s : State μ α) (e : Event α args) : Prop :=
  ∀ a out, e = .sendFlvStream a → M.sendFlvStream s.manager a s.log = .ok out →
    ∃ stream, IsStream stream ∧
      StreamsWell z M.receiving (M.map s.manager) stream s.log s.seats out.2

/-- A receiver that a stream finds with its flag set, and that is not the first
while the change flag is up, needs no headers: there are none, or it was there at
the stream before, with the same headers. -/
def Covered (s : State μ α) (e : Event α args) : Prop :=
  ∀ a before seat after, e = .sendFlvStream a → s.seats = before ++ seat :: after →
    ¬M.receiving.skipped seat.1 → M.receiving.flag seat.1 = true →
    (M.change s.manager = true → ∃ other ∈ before, ¬M.receiving.skipped other.1) →
      M.map s.manager = FlvSeqHeaderMap.empty ∨
        seat.2.streams < s.streams ∧ M.map s.manager = s.lastMap

section Decide
variable {M} {s : State μ α}

theorem covered_iff_get {a : args} : Covered M s (.sendFlvStream a) ↔
    ∀ i : Fin s.seats.length, ¬M.receiving.skipped (s.seats.get i).1 →
      M.receiving.flag (s.seats.get i).1 = true →
      (M.change s.manager = true → ∃ other ∈ s.seats.take i, ¬M.receiving.skipped other.1) →
        M.map s.manager = FlvSeqHeaderMap.empty ∨
          (s.seats.get i).2.streams < s.streams ∧ M.map s.manager = s.lastMap := by
  constructor
  · intro h i
    refine h a (s.seats.take i) (s.seats.get i) (s.seats.drop (i + 1)) rfl ?_
    rw [List.get_eq_getElem, List.getElem_cons_drop, List.take_append_drop]
  · rintro h _ before seat after - heq
    have hlength : before.length < s.seats.length := by
      rw [heq, List.length_append, List.length_cons]
      omega
    have hget : s.seats.get ⟨before.length, hlength⟩ = seat := by
      simp only [List.get_eq_getElem, heq, List.getElem_append_right, le_refl, Nat.sub_self,
        List.getElem_cons_zero]
    have htake : s.seats.take before.length = before := by
      rw [heq, List.take_left]
    have hseat := h ⟨before.length, hlength⟩
    rwa [hget, htake] at hseat

instance decidableCovered (s : State μ α) : ∀ e, Decidable (Covered M s e)
  | .addUser _ => isTrue fun _ _ _ _ h => absurd h (by simp)
  | .deleteUser _ => isTrue fun _ _ _ _ h => absurd h (by simp)
  | .cache _ => isTrue fun _ _ _ _ h => absurd h (by simp)
  | .sendFlvStream _ => decidable_of_iff _ covered_iff_get.symm

end Decide

structure Inv (s : State μ α) : Prop where
  users : s.seats.map Prod.fst = M.users s.manager
  logged : ∀ seat ∈ s.seats, seat.2.logged ≤ s.log.length
  has : ∀ seat ∈ s.seats, ¬M.receiving.skipped seat.1 → seat.2.streams < s.streams →
    Has z s.log seat.2.logged (M.receiving.linkID seat.1) s.lastMap

variable {M} {s s' : State μ α} {e : Event α args}

theorem inv_addUser {user : α} (h : Inv M s) (hstep : step M s (.addUser user) = some s') :
    Inv M s' := by
  obtain rfl := Option.some.inj hstep
  refine ⟨?_, ?_, ?_⟩
  · rw [List.map_append, h.users, M.users_addUser]
    rfl
  · intro seat hseat
    rcases List.mem_append.mp hseat with hseat | hseat
    · exact h.logged seat hseat
    · rw [List.mem_singleton.mp hseat]
  · intro seat hseat hskip hstreams
    rcases List.mem_append.mp hseat with hseat | hseat
    · exact h.has seat hseat hskip hstreams
    · rw [List.mem_singleton.mp hseat] at hstreams
      exact absurd hstreams (lt_irrefl _)

theorem inv_deleteUser {plyId : Nat} (h : Inv M s) (hstep : step M s (.deleteUser plyId) = some s') :
    Inv M s' := by
  obtain rfl := Option.some.inj hstep
  refine ⟨?_, ?_, ?_⟩
  · rw [M.users_deleteUser, ← h.users]
    exact Roster.map_remove Prod.fst M.key fun _ _ => rfl
  · exact fun seat hseat => h.logged seat (List.mem_of_mem_eraseP hseat)
  · exact fun seat hseat => h.has seat (List.mem_of_mem_eraseP hseat)

theorem inv_cache {data : List UInt8} (h : Inv M s) (hstep : step M s (.cache data) = some s') :
    Inv M s' := by
  obtain rfl := Option.some.inj hstep
  exact ⟨h.users.trans (M.users_cache s.manager data).symm, h.logged, h.has⟩

theorem streamedWell_of_covered (h : Inv M s) (hcovered : Covered M s e) : StreamedWell M s e := by
  rintro a out rfl hsend
  obtain ⟨before, pkt, res, hid, hbefore, hloop, -, hlog⟩ := M.sendFlvStream_loop hsend
  refine ⟨.big pkt, ⟨pkt, rfl, hid⟩, ?_⟩
  rw [← h.users] at hloop
  rw [hlog]
  refine streamsWell_of_send hbefore hloop h.logged ?_
  intro pre seat post heq hskip hflag hfirst
  rcases hcovered a pre seat post rfl heq hskip hflag hfirst with hempty | ⟨hstreams, hsame⟩
  · rw [hempty]
    exact has_empty
  · rw [hsame]
    refine h.has seat ?_ hskip hstreams
    rw [heq]
    exact List.mem_append_right _ List.mem_cons_self

theorem inv_sendFlvStream {a : args} (h : Inv M s) (hcovered : Covered M s (.sendFlvStream a))
    (hstep : step M s (.sendFlvStream a) = some s') : Inv M s' := by
  obtain ⟨out, hout, rfl⟩ := Option.map_eq_some_iff.mp hstep
  have hsend : M.sendFlvStream s.manager a s.log = .ok out := mem_toOption hout
  obtain ⟨stream, -, hwell⟩ := streamedWell_of_covered h hcovered a out rfl hsend
  obtain ⟨before, pkt, res, -, -, hloop, husers, -⟩ := M.sendFlvStream_loop hsend
  -- the users after the stream sit where they sat before
  have hseats : (M.users out.1).map (fun user => (M.receiving.linkID user, M.receiving.skipped user)) =
      s.seats.map fun seat => (M.receiving.linkID seat.1, M.receiving.skipped seat.1) := by
    rw [husers, map_sendFlvStreamTo _ M.seat_setFlag hloop, ← h.users, List.map_map]
    rfl
  have hlength : (M.users out.1).length = s.seats.length := by
    have hl := congrArg List.length hseats
    rwa [List.length_map, List.length_map] at hl
  refine ⟨?_, ?_, ?_⟩
  · exact List.map_fst_zip (by rw [List.length_map, hlength])
  · intro seat hseat
    obtain ⟨old, hold, htenure, -⟩ := Roster.exists_of_mem_zip hseats hseat
    rw [← htenure]
    exact (h.logged old hold).trans hwell.extends.length_le
  · intro seat hseat hskip _
    obtain ⟨old, hold, htenure, hface⟩ := Roster.exists_of_mem_zip hseats hseat
    obtain ⟨hlink, hskipped⟩ := Prod.mk.inj hface
    rw [← htenure, ← hlink]
    rw [← hskipped] at hskip
    exact hwell.has hold hskip

theorem step_inv (h : Inv M s) (hcovered : Covered M s e) (hstep : step M s e = some s') :
    Inv M s' := by
  cases e with
  | addUser user => exact inv_addUser h hstep
  | deleteUser plyId => exact inv_deleteUser h hstep
  | cache data => exact inv_cache h hstep
  | sendFlvStream a => exact inv_sendFlvStream h hcovered hstep

theorem along_streamedWell {es : List (Event α args)} (h : Inv M s)
    (hcovered : Along (step M) (Covered M) s es) :
    Along (step M) (StreamedWell M) s es :=
  along_of_invariant (fun _ _ => streamedWell_of_covered) (fun _ _ _ => step_inv) h hcovered

end Machine

/-! ## The two managers -/

theorem isStream_of_setBigPackage {z : Zlib} {q pkt : HXBigMessageQueue} {data : List UInt8}
    (h : q.setBigPackage z idFLVStream 0 data 0 = .ok pkt) : pkt.mHeader.id = idFLVStream := by
  rw [Sectioning.mHeader_setBigPackage h]
  rfl

def userStreamer (z : Zlib) : Streamer z UserManager User (Memory × Nat × (Nat → UInt64)) where
  receiving := UserManager.receiving
  key := User.mUserID
  users := UserManager.users
  map := UserManager.flvSeqHeaderMap
  change := UserManager.flvSeqHeaderChange
  addUser := UserManager.addUser
  deleteUser m plyId := (m.deleteUser plyId).2
  cache := UserManager.cacheFlvSeqHeaderData
  sendFlvStream m a log := m.sendFlvStream recorder z a.1 a.2.1 a.2.2 log
  seat_setFlag _ := rfl
  users_addUser _ _ := rfl
  users_deleteUser _ _ := rfl
  users_cache _ _ := rfl
  sendFlvStream_loop {m a log out} h := by
    obtain ⟨pkt, hpkt, h⟩ := bind_eq_ok.mp h
    obtain ⟨res, hres, h⟩ := bind_eq_ok.mp h
    refine ⟨_, pkt, res, isStream_of_setBigPackage hpkt, ?_, hres, ?_, ?_⟩
    · intro i user msg hmsg
      rw [List.mem_singleton.mp hmsg]
      rintro ⟨q, hq, -⟩
      exact nomatch hq
    · rw [← Except.ok.inj h]
    · rw [← Except.ok.inj h]

def playerStreamer (z : Zlib) : Streamer z PlayerManager Player (List UInt8) where
  receiving := PlayerManager.receiving
  key := Player.mPlyID
  users := PlayerManager.players
  map := PlayerManager.flvSeqHeaderMap
  change := PlayerManager.flvSeqHeaderChange
  addUser := PlayerManager.addPlayer
  deleteUser := PlayerManager.deletePlayer
  cache := PlayerManager.cacheFlvSeqHeaderData
  sendFlvStream m a log := m.sendFlvStream recorder z a log
  seat_setFlag _ := rfl
  users_addUser _ _ := rfl
  users_deleteUser _ _ := rfl
  users_cache _ _ := rfl
  sendFlvStream_loop {m a log out} h := by
    obtain ⟨pkt, hpkt, h⟩ := bind_eq_ok.mp h
    obtain ⟨res, hres, h⟩ := bind_eq_ok.mp h
    refine ⟨_, pkt, res, isStream_of_setBigPackage hpkt, ?_, hres, ?_, ?_⟩
    · exact fun _ _ _ hmsg => absurd hmsg List.not_mem_nil
    · rw [← Except.ok.inj h]
    · rw [← Except.ok.inj h]

def start {μ α : Type} (manager : μ) : State μ α := ⟨manager, [], [], 0, FlvSeqHeaderMap.empty⟩

theorem inv_start {z : Zlib} {μ α args : Type} {M : Streamer z μ α args} {m : μ} (h : M.users m = []) :
    Inv M (start m) := ⟨h.symm, nofun, nofun⟩

/-- Both managers: in a run whose streams find no receiver short of headers, every
stream package is preceded by the current headers. -/
theorem run_streamedWell (z : Zlib) :
    (∀ es, Along (step (userStreamer z)) (Covered (userStreamer z)) (start UserManager.new) es →
      Along (step (userStreamer z)) (StreamedWell (userStreamer z)) (start UserManager.new) es) ∧
    (∀ change id es,
      Along (step (playerStreamer z)) (Covered (playerStreamer z))
        (start (PlayerManager.new change id)) es →
      Along (step (playerStreamer z)) (StreamedWell (playerStreamer z))
        (start (PlayerManager.new change id)) es) :=
  ⟨fun _ => along_streamedWell (inv_start rfl), fun _ _ _ => along_streamedWell (inv_start rfl)⟩

section Late
variable {z : Zlib}

def first : User := User.new ⟨1, 0⟩ false

def served : User := { first with mFlvSeqHeaderFlag := true }

def trailer : Memory × Nat × (Nat → UInt64) := (fun _ => 0, FlvStreamReback.size, fun _ => 0)

def second : User := User.new ⟨2, 0⟩ false

def replaced : List (Event User (Memory × Nat × (Nat → UInt64))) :=
  [.cache [9], .addUser first, .sendFlvStream trailer, .cache [9, 1], .addUser second,
    .sendFlvStream trailer, .sendFlvStream trailer]

theorem run_streamedWell_replaced :
    (run (step (userStreamer Zlib.refusing)) (start UserManager.new) replaced).isSome ∧
      Along (step (userStreamer Zlib.refusing)) (StreamedWell (userStreamer Zlib.refusing))
        (start UserManager.new) replaced :=
  ⟨by decide +kernel, (run_streamedWell Zlib.refusing).1 _ (by decide +kernel)⟩

theorem not_carries_of_isStream {msg : Outgoing} (h : IsStream msg) (data : List UInt8) :
    ¬Carries z data msg := fun hc => not_isStream_of_carries hc h

theorem sendFlvStream_bare {m : UserManager} {user user' : User} {log : Log} (husers : m.users = [user])
    (hskip : user.mIsOBSClient = false)
    (hheaders : sendFlvHeadersTo recorder z UserManager.receiving m.flvSeqHeaderMap m.flvSeqHeaderChange
      log user =
      .ok (user', false, log)) :
    ∃ out msgs, (userStreamer z).sendFlvStream m trailer log = .ok out ∧
      out.1.users = [user'] ∧ out.1.flvSeqHeaderChange = false ∧
      out.1.flvSeqHeaderMap = m.flvSeqHeaderMap ∧
      out.2 = log ++ sentTo user.mLinkID msgs ∧ ∀ msg ∈ msgs, ∀ data, ¬Carries z data msg := by
  have hdata : Sectioning.count (StreamTrailer.stamp trailer.1 trailer.2.1 (trailer.2.2 0)).2 < 65536 := by
    rw [Sectioning.count, StreamTrailer.stamp, Memory.length_load]
    decide
  have hreceives : ¬UserManager.receiving.skipped user = true := by
    show ¬user.mIsOBSClient = true
    rw [hskip]
    exact Bool.false_ne_true
  have heq : (userStreamer z).sendFlvStream m trailer log =
      m.sendFlvStream recorder z trailer.1 trailer.2.1 trailer.2.2 log := rfl
  rw [heq, UserManager.sendFlvStream]
  dsimp only
  rw [Sectioning.setBigPackage_plain z m.bigDataPkt hdata, ok_bind, husers, sendFlvStreamTo,
    if_neg hreceives, hheaders, ok_bind]
  dsimp only
  rw [foldl_recorder, sendFlvStreamTo]
  refine ⟨_, _, rfl, rfl, rfl, rfl, rfl, ?_⟩
  intro msg hmsg data
  rcases List.mem_append.mp hmsg with hmsg | hmsg
  · rw [List.mem_singleton.mp hmsg]
    rintro ⟨q, q', -, hq⟩
    cases hq
  · rw [List.mem_singleton.mp hmsg]
    exact not_carries_of_isStream ⟨_, rfl, rfl⟩ data

theorem mem_sentTo {linkID : LinkID} {msg : Outgoing} {msgs : List Outgoing}
    (h : (linkID, msg) ∈ sentTo linkID msgs) : msg ∈ msgs := by
  obtain ⟨msg', hmsg', heq⟩ := List.mem_map.mp h
  exact (Prod.mk.inj heq).2 ▸ hmsg'

theorem sentTo_injective {linkID : LinkID} {msgs msgs' : List Outgoing}
    (h : sentTo linkID msgs = sentTo linkID msgs') : msgs = msgs' :=
  List.map_injective_iff.mpr (fun _ _ heq => (Prod.mk.inj heq).2) h

theorem step_sendFlvStream {s : State UserManager User} {out : UserManager × Log}
    (h : (userStreamer z).sendFlvStream s.manager trailer s.log = .ok out) :
    step (userStreamer z) s (.sendFlvStream trailer) =
      some ⟨out.1, out.2, out.1.users.zip (s.seats.map Prod.snd), s.streams + 1,
        s.manager.flvSeqHeaderMap⟩ := by
  show ((userStreamer z).sendFlvStream s.manager trailer s.log).toOption.map _ = _
  rw [h]
  rfl

/-- A stream, then the first header, then a stream: nobody is sent the header. -/
theorem header_after_stream :
    ¬Along (step (userStreamer Zlib.refusing)) (StreamedWell (userStreamer Zlib.refusing))
      (start UserManager.new)
      [.addUser first, .sendFlvStream trailer, .cache [9], .sendFlvStream trailer] := by
  intro h
  have hfirst : sendFlvHeadersTo recorder Zlib.refusing UserManager.receiving FlvSeqHeaderMap.empty
    false [] first =
      .ok (served, false, []) := by
    have hnil : FlvSeqHeaderMap.empty.data = [] := List.filterMap_none _
    have hneeds : (!UserManager.receiving.flag first || false) = true := rfl
    rw [sendFlvHeadersTo, if_pos hneeds, sendFlvSeqHeaderData, hnil, sendFlvSeqHeaders]
    rfl
  obtain ⟨out, msgs, hsend, husers, hchange, hmap, hlog, hnone⟩ :=
    @sendFlvStream_bare Zlib.refusing (UserManager.new.addUser first) first _ [] rfl rfl hfirst
  have h := (((h.2 _ rfl).2 _ (step_sendFlvStream hsend)).2 _ rfl).1
  -- the header is cached by now, and the user's flag has been set without one
  have hcached : (out.1.cacheFlvSeqHeaderData [9]).flvSeqHeaderChange = false := by
    show (out.1.flvSeqHeaderChange || (out.1.flvSeqHeaderMap 9).isSome) = false
    rw [hchange, hmap]
    rfl
  have hsecond : sendFlvHeadersTo recorder Zlib.refusing UserManager.receiving
      (out.1.cacheFlvSeqHeaderData [9]).flvSeqHeaderMap
        (out.1.cacheFlvSeqHeaderData [9]).flvSeqHeaderChange out.2
      served = .ok (served, false, out.2) := by
    have hneeds : (!UserManager.receiving.flag served || false) = false := rfl
    rw [hcached, sendFlvHeadersTo, if_neg (by rw [hneeds]; exact Bool.false_ne_true)]
    rfl
  obtain ⟨out', msgs', hsend', -, -, -, hlog', hnone'⟩ :=
    @sendFlvStream_bare Zlib.refusing (out.1.cacheFlvSeqHeaderData [9]) served _
      out.2 husers rfl hsecond
  obtain ⟨stream, -, hwell⟩ := h trailer out' rfl hsend'
  have hseats : out.1.users.zip [(⟨0, 0⟩ : Tenure)] = [(served, ⟨0, 0⟩)] := by
    rw [husers]
    rfl
  have hwell : StreamsWell Zlib.refusing UserManager.receiving
    (out.1.cacheFlvSeqHeaderData [9]).flvSeqHeaderMap
      stream out.2 (out.1.users.zip [(⟨0, 0⟩ : Tenure)]) out'.2 := hwell
  rw [hseats, StreamsWell,
    if_neg (show ¬UserManager.receiving.skipped served = true from Bool.false_ne_true)] at hwell
  obtain ⟨pre, -, hhas, hafter⟩ := hwell
  have hafter : out'.2 = out.2 ++ sentTo first.mLinkID (pre ++ [stream]) := hafter
  have hmem : [9] ∈ (out.1.cacheFlvSeqHeaderData [9]).flvSeqHeaderMap.data := by
    have hentry : (out.1.cacheFlvSeqHeaderData [9]).flvSeqHeaderMap 9 = some [9] :=
      Function.update_self 9 _ out.1.flvSeqHeaderMap
    exact List.mem_filterMap.mpr ⟨9, List.mem_range.mpr (by decide), hentry⟩
  obtain ⟨msg, hmsg, hcarries⟩ := hhas [9] hmem
  rw [List.drop_zero, hlog, List.nil_append] at hmsg
  rcases List.mem_append.mp hmsg with hmsg | hmsg
  · exact hnone msg (mem_sentTo hmsg) [9] hcarries
  · have hmsgs : msgs' = pre ++ [stream] := by
      rw [hlog'] at hafter
      exact sentTo_injective (List.append_cancel_left hafter)
    refine hnone' msg ?_ [9] hcarries
    rw [hmsgs]
    exact List.mem_append_left _ (mem_sentTo hmsg)

end Late
end HXService.SequenceHeaders
