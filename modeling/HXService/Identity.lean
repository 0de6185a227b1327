import HXService.MainLoop
import HXService.Sends
import HXService.SessionEvents

/-! Runs of `Join`, `Leave` and the main loop: the managers tell the users apart
by `sid` as long as no `sid` is given to two sessions at a time. -/

namespace HXService
open Runs

namespace HXLibAsioServer

/-! ## Identifiers that are held -/

def Alive (s : HXLibAsioServer) (linkID : LinkID) : Prop := ∃ p, s.Holds p linkID

-- what the counter gives next to a session with a slot is nobody's `sid`
def FreshSid (s : HXLibAsioServer) : Prop :=
  ∀ i, s.freeSlot = some i → ∀ linkID, s.Alive linkID → linkID.sid ≠ (s.nextLink i).sid

section Alive
variable {s : HXLibAsioServer} {i : Nat} {p : SessionPtr} {linkID : LinkID}

theorem alive_occupy (hp : s.ownId p = LinkID.zero) (ip : IpText) :
    (s.occupy i p ip).Alive linkID ↔ s.Alive linkID ∨ linkID = s.nextLink i := by
  have hself : (s.occupy i p ip).ownId p = s.nextLink i :=
    (@ownId_update_self s p (s.occupy i p ip) _ rfl).trans rfl
  constructor
  · rintro ⟨q, hq, hne⟩
    by_cases hqp : q = p
    · subst hqp
      exact Or.inr (hq.symm.trans hself)
    · exact Or.inl ⟨q, (ownId_update_of_ne rfl hqp).symm.trans hq, hne⟩
  · rintro (⟨q, hq, hne⟩ | rfl)
    · have hqp : q ≠ p := by
        rintro rfl
        exact hne (hq.symm.trans hp)
      exact ⟨q, (ownId_update_of_ne rfl hqp).trans hq, hne⟩
    · exact ⟨p, hself, nextLink_ne_zero⟩

theorem alive_refuse (hp : s.ownId p = LinkID.zero) : (s.refuse p).Alive linkID ↔ s.Alive linkID := by
  have hown := ownId_refuse hp
  exact exists_congr fun q => and_congr_left' (by rw [hown q])

theorem alive_vacate (h : s.TableInv) (hheld : s.HeldBy i p) (st : UInt16) :
    (s.vacate i p st).Alive linkID ↔ s.Alive linkID ∧ linkID ≠ s.ownId p := by
  have hself : (s.vacate i p st).ownId p = LinkID.zero :=
    (@ownId_update_self s p (s.vacate i p st) _ rfl).trans rfl
  constructor
  · rintro ⟨q, hq, hne⟩
    have hqp : q ≠ p := by
      rintro rfl
      exact hne (hq.symm.trans hself)
    have hq : s.ownId q = linkID := (ownId_update_of_ne rfl hqp).symm.trans hq
    refine ⟨⟨q, hq, hne⟩, ?_⟩
    rintro rfl
    obtain ⟨j, -, hqheld⟩ := h.session q (hq ▸ hne)
    exact hqp (hqheld.unique hheld hq).2
  · rintro ⟨⟨q, hq, hne⟩, hlink⟩
    have hqp : q ≠ p := by
      rintro rfl
      exact hlink hq.symm
    exact ⟨q, (ownId_update_of_ne rfl hqp).trans hq, hne⟩

theorem alive_of_own (h : s.ownId p ≠ LinkID.zero) : s.Alive (s.ownId p) := ⟨p, rfl, h⟩

end Alive
end HXLibAsioServer

namespace Identity
open HXLibAsioServer SessionEvents

/-! ## Runs

`pending` are the messages of `Join` and `Leave` the main loop has not handled,
all of them, in order. Other messages, from whatever sender, are handled between
them. -/

structure State (μ : Type) where
  server : HXLibAsioServer
  joined : List SessionPtr
  pending : List HXMessagePackage
  main : μ

inductive Event (γ : Type)
  | join (link : SessionPtr) (ip : IpText)
  | leave (link : SessionPtr) (dissconnectState : UInt16)
  | handle (given : γ)
  | serve (pack : HXMessagePackage) (given : γ)

section Machine
variable {μ γ : Type} (loop : MainLoop μ γ)

def step (s : State μ) : Event γ → Option (State μ)
  | .join link ip =>
    if link ∈ s.joined then none
    else some { s with
      server := s.server.accept link ip
      joined := link :: s.joined
      pending := s.pending ++ (accepting s.server link ip).map Entry.pack }
  | .leave link dissconnectState => some { s with
      server := s.server.leave link dissconnectState
      pending := s.pending ++ (leaving s.server link dissconnectState).map Entry.pack }
  | .handle given =>
    match s.pending with
    | [] => none
    | pack :: rest =>
      (loop.handle s.main pack given).toOption.map fun main => { s with main, pending := rest }
  | .serve pack given =>
    if pack.header.id = idConnect ∨ pack.header.id = idDisconnect then none
    else (loop.handle s.main pack given).toOption.map fun main => { s with main }

def changes (s : State μ) : List (Roster.Change LinkID) := s.pending.flatMap changesOf

structure Inv (s : State μ) : Prop where
  table : s.server.TableInv
  fresh : ∀ p, p ∉ s.joined → s.server.ownId p = LinkID.zero
  tracks : Tracks (loop.faces s.main) (changes s) s.server.Alive

-- at a `Join` the next `sid` is nobody's
def JoinsFresh (s : State μ) (e : Event γ) : Prop := ∀ p ip, e = .join p ip → s.server.FreshSid

variable {loop} {s s' : State μ} {e : Event γ}

theorem changes_append (packs more : List HXMessagePackage) :
    (packs ++ more).flatMap changesOf = packs.flatMap changesOf ++ more.flatMap changesOf :=
  List.flatMap_append

theorem sidOf_ne {a b : LinkID} (h : a.sid ≠ b.sid) : sidOf a ≠ sidOf b :=
  fun heq => h (UInt16.toNat_inj.mp heq)

theorem tracks_accept {t : HXLibAsioServer} {p : SessionPtr} {faces : List Face}
    {cs : List (Roster.Change LinkID)} (hzero : t.ownId p = LinkID.zero)
    (hfresh : t.FreshSid) (h : Tracks faces cs t.Alive) (ip : IpText) :
    Tracks faces (cs ++ ((accepting t p ip).map Entry.pack).flatMap changesOf)
      (t.accept p ip).Alive := by
  cases hslot : t.freeSlot with
  | some i =>
    rw [accepting_some hslot, accept_eq_occupy hslot]
    refine (h.enter ?_).congr ?_
    · exact fun other hother => sidOf_ne (hfresh i hslot other hother)
    · exact fun _ => (alive_occupy hzero ip).symm
  | none =>
    rw [accepting_none hslot, accept_eq_refuse hslot, List.map_nil, List.flatMap_nil, List.append_nil]
    exact h.congr fun _ => (alive_refuse hzero).symm

theorem tracks_leave {t : HXLibAsioServer} {p : SessionPtr} {faces : List Face}
    {cs : List (Roster.Change LinkID)} (htable : t.TableInv) (h : Tracks faces cs t.Alive)
    (st : UInt16) :
    Tracks faces (cs ++ ((leaving t p st).map Entry.pack).flatMap changesOf) (t.leave p st).Alive := by
  by_cases hown : t.ownId p = LinkID.zero
  · rw [leaving_zero hown, leave_eq_self htable hown, List.map_nil, List.flatMap_nil, List.append_nil]
    exact h
  · obtain ⟨i, hi, hheld⟩ := htable.session p hown
    rw [leaving_held hown, leave_eq_vacate hi hheld]
    exact (h.leave (alive_of_own hown)).congr fun _ => (alive_vacate htable hheld st).symm

theorem inv_join {p : SessionPtr} {ip : IpText} (h : Inv loop s) (hfresh : s.server.FreshSid)
    (hstep : step loop s (.join p ip) = some s') : Inv loop s' := by
  rw [step] at hstep
  split_ifs at hstep with hp
  obtain rfl := Option.some.inj hstep
  have hzero := h.fresh p hp
  refine ⟨tableInv_accept h.table hzero ip, ?_, ?_⟩
  · intro q hq
    rw [List.mem_cons, not_or] at hq
    exact (ownId_accept_of_ne ip hq.1).trans (h.fresh q hq.2)
  · show Tracks (loop.faces s.main) ((s.pending ++ _).flatMap changesOf) (s.server.accept p ip).Alive
    rw [changes_append]
    exact tracks_accept hzero hfresh h.tracks ip

theorem inv_leave {p : SessionPtr} {st : UInt16} (h : Inv loop s)
    (hstep : step loop s (.leave p st) = some s') : Inv loop s' := by
  obtain rfl := Option.some.inj hstep
  refine ⟨tableInv_leave h.table st, ?_, ?_⟩
  · intro q hq
    show (s.server.leave p st).ownId q = LinkID.zero
    by_cases hqp : q = p
    · subst hqp
      exact ownId_leave h.table st
    · exact (ownId_leave_of_ne h.table st hqp).trans (h.fresh q hq)
  · show Tracks (loop.faces s.main) ((s.pending ++ _).flatMap changesOf) (s.server.leave p st).Alive
    rw [changes_append]
    exact tracks_leave h.table h.tracks st

theorem handle_eq_some {given : γ} (hstep : step loop s (.handle given) = some s') :
    ∃ pack rest main, s.pending = pack :: rest ∧ loop.handle s.main pack given = .ok main ∧
      s' = { s with main, pending := rest } := by
  simp only [step] at hstep
  cases hpending : s.pending with
  | nil =>
    rw [hpending] at hstep
    exact nomatch hstep
  | cons pack rest =>
    rw [hpending] at hstep
    obtain ⟨main, hmain, rfl⟩ := Option.map_eq_some_iff.mp hstep
    exact ⟨pack, rest, main, rfl, mem_toOption hmain, rfl⟩

theorem inv_handle {given : γ} (h : Inv loop s) (hstep : step loop s (.handle given) = some s') :
    Inv loop s' := by
  obtain ⟨pack, rest, main, hpending, hmain, rfl⟩ := handle_eq_some hstep
  refine ⟨h.table, h.fresh, ?_⟩
  show Tracks (loop.faces main) (rest.flatMap changesOf) s.server.Alive
  rw [loop.faces_handle hmain]
  apply Tracks.handled
  have htracks := h.tracks
  rw [changes, hpending, List.flatMap_cons] at htracks
  exact htracks

theorem inv_serve {pack : HXMessagePackage} {given : γ} (h : Inv loop s)
    (hstep : step loop s (.serve pack given) = some s') : Inv loop s' := by
  rw [step] at hstep
  split_ifs at hstep with hid
  rw [not_or] at hid
  obtain ⟨main, hmain, rfl⟩ := Option.map_eq_some_iff.mp hstep
  refine ⟨h.table, h.fresh, ?_⟩
  show Tracks (loop.faces main) (changes s) s.server.Alive
  rw [loop.faces_handle (mem_toOption hmain), enrol_other hid.1 hid.2]
  exact h.tracks

theorem step_inv (h : Inv loop s) (hfresh : JoinsFresh s e) (hstep : step loop s e = some s') :
    Inv loop s' := by
  cases e with
  | join p ip => exact inv_join h (hfresh p ip rfl) hstep
  | leave p st => exact inv_leave h hstep
  | handle given => exact inv_handle h hstep
  | serve pack given => exact inv_serve h hstep

/-! ## Runs from the start -/

variable {context : Nat → Nat} {readMsg : SessionPtr → HXMessagePackage}
variable {mHeader : SessionPtr → MBigHeader} {maxLinks : Int} {s₀ : HXLibAsioServer} {main₀ : μ}

theorem inv_start (hstart : (new context readMsg mHeader).start maxLinks = (true, s₀))
    (hempty : loop.faces main₀ = []) : Inv loop ⟨s₀, [], [], main₀⟩ := by
  refine ⟨tableInv_start hstart, fun p _ => ownId_start hstart p, ?_⟩
  rw [hempty]
  apply Tracks.empty
  rintro linkID ⟨p, hp, hne⟩
  exact hne (hp.symm.trans (ownId_start hstart p))

theorem run_inv (hstart : (new context readMsg mHeader).start maxLinks = (true, s₀))
    (hempty : loop.faces main₀ = []) {es : List (Event γ)}
    (hrun : run (step loop) ⟨s₀, [], [], main₀⟩ es = some s)
    (hfresh : Along (step loop) JoinsFresh ⟨s₀, [], [], main₀⟩ es) : Inv loop s :=
  run_invariant_along (fun _ _ _ => step_inv) hfresh hrun (inv_start hstart hempty)

theorem Inv.listed {pack : HXMessagePackage} {rest : List HXMessagePackage} (h : Inv loop s)
    (hpending : s.pending = pack :: rest) (hid : pack.header.id = idDisconnect) :
    ∃ face ∈ loop.faces s.main, face.2 = pack.mLinkid := by
  have hsound := h.tracks.sound
  have hchanges : changesOf pack = [.leave pack.mLinkid] := by
    rw [changesOf, hid]
    rfl
  rw [changes, hpending, List.flatMap_cons, hchanges] at hsound
  exact List.mem_map.mp hsound.1

end Machine

section Sends
variable {σ : Type} {net : Network σ} {z : Zlib} {pack : HXMessagePackage} {t : σ}

theorem forwardMsg_eq (m : UserManager) (source : LinkID) (pkt : HXMessagePackage) (t : σ) :
    m.forwardMsg net source pkt t =
      net.sendEach (.package pkt) ((m.users.map User.mLinkID).filter (source.sid ≠ ·.sid)) t := by
  rw [UserManager.forwardMsg, Network.sendEach, List.foldl_filter, List.foldl_map]
  congr 1
  funext t user
  by_cases hsid : source.sid ≠ user.mLinkID.sid
  · rw [if_pos hsid, if_pos (decide_eq_true hsid)]
  · rw [if_neg hsid, if_neg (by rw [decide_eq_true_eq]; exact hsid)]

theorem handle_disconnect_center (m : UserManager) (given : CenterServer.Given)
    (h : pack.header.id = idDisconnect) :
    CenterServer.handle net z m pack given t = .ok ((m.deleteUser (sidOf pack.mLinkid)).2, t) := by
  have hne : pack.header.id ≠ idConnect := by
    rw [h]
    decide
  rw [CenterServer.handle, if_neg hne, if_pos h]
  rfl

theorem handle_disconnect_scene (m : PlayerManager) (given : SceneServer.Given)
    (h : pack.header.id = idDisconnect) : ∃ out, SceneServer.handle net m pack given t = .ok out ∧
      out.1.players = (m.deletePlayer (sidOf pack.mLinkid)).players := by
  have hne : pack.header.id ≠ idConnect := by
    rw [h]
    decide
  rw [SceneServer.handle, if_neg hne, if_pos h, PlayerManager.sendPlayerLeaveMsg]
  cases hply : m.findPlayer pack.mLinkid.sid.toNat with
  | none => exact ⟨_, rfl, (Roster.remove_of_find_none hply).symm⟩
  | some ply =>
    dsimp only
    rw [PlayerManager.sendCmdTo_eq (PlayerManager.fits_int32 ply.mSeatNumber)]
    exact ⟨_, rfl, rfl⟩

end Sends

/-- The center server takes every listed user for itself. -/
structure CenterToldApart {σ : Type} (net : Network σ) (z : Zlib) (s : State (UserManager × σ)) :
    Prop where
  distinct : (s.main.1.users.map User.mUserID).Nodup
  connected : s.pending = [] →
    ∀ linkID, linkID ∈ s.main.1.users.map User.mLinkID ↔ s.server.Alive linkID
  disconnect : ∀ pack rest, s.pending = pack :: rest → pack.header.id = idDisconnect →
    (∃ user ∈ s.main.1.users, user.mLinkID = pack.mLinkid) ∧
    ∀ given, ∃ main, CenterServer.handle net z s.main.1 pack given s.main.2 = .ok main ∧
      main.1.users = s.main.1.users.filter (·.mLinkID ≠ pack.mLinkid)
  setOBSStreamClient : ∀ user ∈ s.main.1.users,
    (s.main.1.setOBSStreamClient user.mLinkID.sid.toNat).users =
      s.main.1.users.map fun u =>
        if u.mLinkID = user.mLinkID then { u with mIsOBSClient := true } else u
  forwardMsg : ∀ user ∈ s.main.1.users, ∀ pkt t, s.main.1.forwardMsg net user.mLinkID pkt t =
    net.sendEach (.package pkt) ((s.main.1.users.map User.mLinkID).filter (· ≠ user.mLinkID)) t

/-- A scene server takes every listed player for itself. -/
structure SceneToldApart {σ : Type} (net : Network σ) (s : State (PlayerManager × σ)) : Prop where
  distinct : (s.main.1.players.map Player.mPlyID).Nodup
  connected : s.pending = [] →
    ∀ linkID, linkID ∈ s.main.1.players.map Player.mLinkID ↔ s.server.Alive linkID
  disconnect : ∀ pack rest, s.pending = pack :: rest → pack.header.id = idDisconnect →
    (∃ ply ∈ s.main.1.players, ply.mLinkID = pack.mLinkid) ∧
    ∀ given, ∃ main, SceneServer.handle net s.main.1 pack given s.main.2 = .ok main ∧
      main.1.players = s.main.1.players.filter (·.mLinkID ≠ pack.mLinkid)
  updatePlayerTransform : ∀ ply ∈ s.main.1.players, ∀ info,
    (s.main.1.updatePlayerTransform ply.mLinkID.sid.toNat info).players =
      s.main.1.players.map fun p =>
        if p.mLinkID = ply.mLinkID then { p with transInfo := { info with update := true } } else p
  updatePlayerSeatNumber : ∀ ply ∈ s.main.1.players, ∀ seatNumber,
    (s.main.1.updatePlayerSeatNumber ply.mLinkID.sid.toNat seatNumber).2.players =
      s.main.1.players.map fun p => if p.mLinkID = ply.mLinkID then p.setSeatNumber seatNumber else p

section Managers
variable {σ : Type} {net : Network σ} {z : Zlib}

theorem Inv.connected {μ γ : Type} {loop : MainLoop μ γ} {s : State μ} (h : Inv loop s)
    (hpending : s.pending = []) (linkID : LinkID) :
    linkID ∈ (loop.faces s.main).map Prod.snd ↔ s.server.Alive linkID := by
  have hsettled := h.tracks.settled linkID
  rw [changes, hpending, List.flatMap_nil] at hsettled
  exact hsettled

theorem centerToldApart {s : State (UserManager × σ)} (h : Inv (centerLoop net z) s) :
    CenterToldApart net z s := by
  have hkeyed : ∀ user ∈ s.main.1.users, user.mUserID = sidOf user.mLinkID :=
    List.forall_mem_map.mp h.tracks.keyed
  have hnodup : (s.main.1.users.map User.mUserID).Nodup := by
    have hids := h.tracks.nodup_ids
    rwa [show (centerLoop net z).faces s.main = s.main.1.users.map UserManager.face from rfl,
      List.map_map] at hids
  refine ⟨hnodup, ?_, ?_, ?_, ?_⟩
  · intro hpending linkID
    rw [← h.connected hpending linkID]
    show _ ↔ linkID ∈ (s.main.1.users.map UserManager.face).map Prod.snd
    rw [List.map_map]
    rfl
  · intro pack rest hpending hid
    obtain ⟨face, hface, hlink⟩ := h.listed hpending hid
    obtain ⟨user, huser, rfl⟩ := List.mem_map.mp hface
    refine ⟨⟨user, huser, hlink⟩, ?_⟩
    intro given
    refine ⟨_, handle_disconnect_center s.main.1 given hid, ?_⟩
    rw [← hlink]
    exact remove_sender hkeyed hnodup huser
  · intro user huser
    exact modify_sender _ hkeyed hnodup huser
  · intro user huser pkt t
    rw [forwardMsg_eq]
    congr 1
    apply List.filter_congr
    intro linkID hlinkID
    obtain ⟨other, hother, rfl⟩ := List.mem_map.mp hlinkID
    have hiff := id_eq_sidOf_iff hkeyed hnodup huser hother
    rw [hkeyed other hother] at hiff
    rw [decide_eq_decide]
    exact not_congr ((eq_comm.trans UInt16.toNat_inj.symm).trans hiff)

theorem sceneToldApart {s : State (PlayerManager × σ)} (h : Inv (sceneLoop net) s) :
    SceneToldApart net s := by
  have hkeyed : ∀ ply ∈ s.main.1.players, ply.mPlyID = sidOf ply.mLinkID :=
    List.forall_mem_map.mp h.tracks.keyed
  have hnodup : (s.main.1.players.map Player.mPlyID).Nodup := by
    have hids := h.tracks.nodup_ids
    rwa [show (sceneLoop net).faces s.main = s.main.1.players.map PlayerManager.face from rfl,
      List.map_map] at hids
  refine ⟨hnodup, ?_, ?_, ?_, ?_⟩
  · intro hpending linkID
    rw [← h.connected hpending linkID]
    show _ ↔ linkID ∈ (s.main.1.players.map PlayerManager.face).map Prod.snd
    rw [List.map_map]
    rfl
  · intro pack rest hpending hid
    obtain ⟨face, hface, hlink⟩ := h.listed hpending hid
    obtain ⟨ply, hply, rfl⟩ := List.mem_map.mp hface
    refine ⟨⟨ply, hply, hlink⟩, ?_⟩
    intro given
    obtain ⟨out, hout, hplayers⟩ := @handle_disconnect_scene σ net pack s.main.2 s.main.1 given hid
    refine ⟨out, hout, hplayers.trans ?_⟩
    rw [← hlink]
    exact remove_sender hkeyed hnodup hply
  · intro ply hply info
    exact modify_sender _ hkeyed hnodup hply
  · intro ply hply seatNumber
    exact modify_sender _ hkeyed hnodup hply

/-- In a run in which every new `sid` is nobody's, both servers tell their users apart. -/
theorem run_identity {context : Nat → Nat} {readMsg : SessionPtr → HXMessagePackage}
    {mHeader : SessionPtr → MBigHeader} {maxLinks : Int} {s₀ : HXLibAsioServer} (net : Network σ)
    (z : Zlib) (hstart : (new context readMsg mHeader).start maxLinks = (true, s₀)) :
    (∀ es s t, run (step (centerLoop net z)) ⟨s₀, [], [], (UserManager.new, t)⟩ es = some s →
      Along (step (centerLoop net z)) JoinsFresh ⟨s₀, [], [], (UserManager.new, t)⟩ es →
      CenterToldApart net z s) ∧
    (∀ es s t change id,
      run (step (sceneLoop net)) ⟨s₀, [], [], (PlayerManager.new change id, t)⟩ es = some s →
      Along (step (sceneLoop net)) JoinsFresh ⟨s₀, [], [], (PlayerManager.new change id, t)⟩ es →
      SceneToldApart net s) := by
  constructor
  · intro es s t hrun hfresh
    exact centerToldApart (run_inv hstart rfl hrun hfresh)
  · intro es s t change id hrun hfresh
    exact sceneToldApart (run_inv hstart rfl hrun hfresh)

end Managers

def quiet : Network Unit := ⟨fun s _ _ => (true, s), fun s _ _ _ => (true, s)⟩

def given : CenterServer.Given := ⟨false, fun _ => 0⟩

theorem freshSid_start {maxLinks : Int} {s₀ : HXLibAsioServer}
    (hstart : zeroed.start maxLinks = (true, s₀)) : s₀.FreshSid := by
  rintro i - linkID ⟨q, hq, hne⟩
  exact absurd (hq.symm.trans (ownId_start hstart q)) hne

/-- Two clients are listed when the first one goes. -/
theorem run_identity_zeroed :
    ∃ s, run (step (centerLoop quiet Zlib.refusing)) ⟨(zeroed.start 2).2, [], [], (UserManager.new, ())⟩
      [.join 0 IpText.empty, .handle given, .join 1 IpText.empty, .handle given,
        .leave 0 dissconnectReadError] = some s ∧
    s.main.1.users.map User.mLinkID = [⟨1, 0⟩, ⟨2, 1⟩] ∧ CenterToldApart quiet Zlib.refusing s := by
  have hstart : zeroed.start 2 = (true, (zeroed.start 2).2) := rfl
  obtain ⟨s, hrun, hlinks⟩ : ∃ s, run (step (centerLoop quiet Zlib.refusing))
      ⟨(zeroed.start 2).2, [], [], (UserManager.new, ())⟩
      [.join 0 IpText.empty, .handle given, .join 1 IpText.empty, .handle given,
        .leave 0 dissconnectReadError] = some s ∧
      s.main.1.users.map User.mLinkID = [⟨1, 0⟩, ⟨2, 1⟩] := ⟨_, rfl, rfl⟩
  refine ⟨s, hrun, hlinks, (run_identity quiet Zlib.refusing hstart).1 _ s () hrun ⟨?_, ?_⟩⟩
  · exact fun _ _ _ => freshSid_start hstart
  · refine fun t ht => ⟨nofun, fun u hu => ⟨?_, fun _ _ => ⟨nofun, fun _ _ => ⟨nofun, fun _ _ => trivial⟩⟩⟩⟩
    obtain rfl := Option.some.inj ht
    obtain ⟨_, _, _, _, _, rfl⟩ := handle_eq_some hu
    rintro p ip - i - linkID halive
    have hslot : (zeroed.start 2).2.freeSlot = some 0 := rfl
    have hserver : (zeroed.start 2).2.accept 0 IpText.empty =
        (zeroed.start 2).2.occupy 0 0 IpText.empty := accept_eq_occupy hslot
    dsimp only at halive ⊢
    rw [hserver, alive_occupy (ownId_start hstart 0)] at halive
    -- the first client is the only one there
    rcases halive with ⟨q, hq, hne⟩ | rfl
    · exact absurd (hq.symm.trans (ownId_start hstart q)) hne
    · exact show ((zeroed.start 2).2.nextLink 0).sid ≠ 2 by decide

/-! ## A `sid` given twice

One client stays in slot 0 while others come and go in slot 1, until the
counter is back at the first one's `sid`. -/

def churn (p : SessionPtr) : List (Event CenterServer.Given) :=
  [.join p IpText.empty, .leave p dissconnectReadError, .handle given, .handle given]

def stays : LinkID := ⟨1, 0⟩

structure Churned (n : Nat) (s : State (UserManager × Unit)) : Prop where
  table : s.server.TableInv
  maxLinks : s.server.mMaxLinks = 2
  id_zero : (s.server.mLinks 0).id = stays
  free_one : (s.server.mLinks 1).id = LinkID.zero
  mId : s.server.mId = n + 1
  fresh : ∀ p, n < p → p ∉ s.joined ∧ s.server.ownId p = LinkID.zero
  pending : s.pending = []
  faces : s.main.1.faces = [(1, stays)]

section Churn
variable {z : Zlib} {n : Nat} {s : State (UserManager × Unit)}

theorem Churned.freeSlot_eq (h : Churned n s) : s.server.freeSlot = some 1 := by
  have hzero : ¬(s.server.mLinks 0).id.id = 0 := by
    rw [h.id_zero]
    decide
  have hone : (s.server.mLinks 1).id.id = 0 := LinkID.id_eq_zero.mpr h.free_one
  rw [freeSlot, h.maxLinks]
  show [0, 1].find? _ = some 1
  rw [List.find?_cons_of_neg (by rw [decide_eq_true_eq]; exact hzero),
    List.find?_cons_of_pos (by rw [decide_eq_true_eq]; exact hone)]

theorem Churned.one_lt (h : Churned n s) : 1 < s.server.slots := by
  rw [slots, h.maxLinks]
  decide

theorem handle_connect_center {σ : Type} {net : Network σ} {pack : HXMessagePackage} {t : σ}
    (m : UserManager) (given : CenterServer.Given) (h : pack.header.id = idConnect) :
    CenterServer.handle net z m pack given t =
      .ok (m.addUser (User.new pack.mLinkid given.mFlvSeqHeaderFlag), t) := by
  rw [CenterServer.handle, if_pos h]
  rfl

theorem step_handle_center {pack : HXMessagePackage} {rest : List HXMessagePackage}
    {main : UserManager × Unit} (hpending : s.pending = pack :: rest)
    (h : CenterServer.handle quiet z s.main.1 pack given s.main.2 = .ok main) :
    step (centerLoop quiet z) s (.handle given) = some { s with main, pending := rest } := by
  simp only [step, hpending]
  show (CenterServer.handle quiet z s.main.1 pack given s.main.2).toOption.map _ = _
  rw [h]
  rfl

theorem Churned.next (h : Churned n s) (hn : n + 1 < maxShort) :
    ∃ s', run (step (centerLoop quiet z)) s (churn (n + 1)) = some s' ∧ Churned (n + 1) s' := by
  obtain ⟨hnot, hown⟩ := h.fresh (n + 1) (Nat.lt_succ_self n)
  have hslot := h.freeSlot_eq
  have hnext : s.server.nextId = n + 2 := by
    rw [nextId, h.mId, if_neg (by omega)]
  have hheld : (s.server.occupy 1 (n + 1) IpText.empty).HeldBy 1 (n + 1) :=
    heldBy_occupy h.table h.one_lt
  have hsid : sidOf (s.server.nextLink 1) = n + 2 := sid_nextLink.trans hnext
  have hself : (s.server.occupy 1 (n + 1) IpText.empty).ownId (n + 1) = s.server.nextLink 1 :=
    (@ownId_update_self s.server (n + 1) (s.server.occupy 1 (n + 1) IpText.empty) _ rfl).trans rfl
  have hlt : 1 < (s.server.occupy 1 (n + 1) IpText.empty).slots := h.one_lt
  have hjoin : step (centerLoop quiet z) s (.join (n + 1) IpText.empty) =
      some ⟨s.server.occupy 1 (n + 1) IpText.empty, (n + 1) :: s.joined,
        [connectMessage (s.server.nextLink 1) IpText.empty], s.main⟩ := by
    rw [step, if_neg hnot, accept_eq_occupy hslot, accepting_some hslot, h.pending]
    rfl
  have hleave : step (centerLoop quiet z) ⟨s.server.occupy 1 (n + 1) IpText.empty, (n + 1) :: s.joined,
        [connectMessage (s.server.nextLink 1) IpText.empty], s.main⟩
          (.leave (n + 1) dissconnectReadError) =
      some ⟨(s.server.occupy 1 (n + 1) IpText.empty).vacate 1 (n + 1) dissconnectReadError,
        (n + 1) :: s.joined, [connectMessage (s.server.nextLink 1) IpText.empty,
          disconnectMessage (s.server.nextLink 1) dissconnectReadError], s.main⟩ := by
    rw [step]
    dsimp only
    rw [leave_eq_vacate hlt hheld, leaving_held hheld.own_ne_zero, hself]
    rfl
  have hconnect := @handle_connect_center z _ quiet
    (connectMessage (s.server.nextLink 1) IpText.empty) s.main.2 s.main.1 given rfl
  have hdisconnect := @handle_disconnect_center _ quiet z
    (disconnectMessage (s.server.nextLink 1) dissconnectReadError) s.main.2
    (s.main.1.addUser (User.new (s.server.nextLink 1) given.mFlvSeqHeaderFlag)) given rfl
  refine ⟨_, run_cons.mpr ⟨_, hjoin, run_cons.mpr ⟨_, hleave, run_cons.mpr
    ⟨_, step_handle_center rfl hconnect, run_cons.mpr ⟨_, step_handle_center rfl hdisconnect, rfl⟩⟩⟩⟩,
      ?_⟩
  refine ⟨?_, h.maxLinks, ?_, ?_, hnext, ?_, rfl, ?_⟩
  · refine tableInv_vacate ?_ hlt hheld _
    exact tableInv_occupy h.table hslot hown IpText.empty
  · exact h.id_zero
  · exact congrArg AcceptItem.id mLinks_vacate_self
  · intro q hq
    have hqp : q ≠ n + 1 := by omega
    have hq := h.fresh q (by omega)
    refine ⟨?_, ?_⟩
    · rw [List.mem_cons, not_or]
      exact ⟨hqp, hq.1⟩
    · have hoccupy : (s.server.occupy 1 (n + 1) IpText.empty).ownId q = s.server.ownId q :=
        ownId_update_of_ne rfl hqp
      exact (ownId_update_of_ne rfl hqp).trans (hoccupy.trans hq.2)
  · have hentered : (s.main.1.addUser (User.new (s.server.nextLink 1) given.mFlvSeqHeaderFlag)).faces =
        s.main.1.faces ++ [(sidOf (s.server.nextLink 1), s.server.nextLink 1)] :=
      (UserManager.faces_handle hconnect).trans (enrol_connect rfl)
    rw [UserManager.faces_handle hdisconnect, enrol_disconnect rfl, hentered, h.faces]
    show Roster.remove Prod.fst (sidOf (s.server.nextLink 1))
      [(1, stays), (sidOf (s.server.nextLink 1), s.server.nextLink 1)] = _
    have hne : (1, stays).1 ≠ n + 2 := by
      show 1 ≠ n + 2
      omega
    have hlast : Roster.remove Prod.fst (n + 2) [(n + 2, s.server.nextLink 1)] = [] :=
      Roster.remove_cons_self rfl
    rw [hsid, Roster.remove_cons_of_ne hne, hlast]

theorem churned_start :
    ∃ s, run (step (centerLoop quiet z)) ⟨(zeroed.start 2).2, [], [], (UserManager.new, ())⟩
    [.join 0 IpText.empty, .handle given] = some s ∧ Churned 0 s := by
  have hstart : zeroed.start 2 = (true, (zeroed.start 2).2) := rfl
  have hslot : (zeroed.start 2).2.freeSlot = some 0 := rfl
  refine ⟨_, rfl, ?_⟩
  refine ⟨?_, rfl, rfl, rfl, rfl, ?_, rfl, rfl⟩
  · exact tableInv_accept (tableInv_start hstart) (ownId_start hstart 0) IpText.empty
  · intro p hp
    have hne : p ≠ 0 := by omega
    refine ⟨?_, ?_⟩
    · rw [List.mem_singleton]
      exact hne
    · exact (ownId_accept_of_ne IpText.empty hne).trans (ownId_start hstart p)

theorem churned_run (hn : n < maxShort) :
    ∃ s, run (step (centerLoop quiet z)) ⟨(zeroed.start 2).2, [], [], (UserManager.new, ())⟩
      ([.join 0 IpText.empty, .handle given] ++ (List.range n).flatMap fun k => churn (k + 1)) =
        some s ∧
    Churned n s := by
  induction n with
  | zero => exact churned_start
  | succ n ih =>
    obtain ⟨s, hrun, hs⟩ := ih (by omega)
    obtain ⟨s', hrun', hs'⟩ := @Churned.next z n s hs hn
    refine ⟨s', ?_, hs'⟩
    rw [List.range_succ, List.flatMap_append, ← List.append_assoc]
    refine run_append.mpr ⟨s, hrun, ?_⟩
    show run _ s (churn (n + 1) ++ []) = some s'
    rw [List.append_nil]
    exact hrun'

end Churn

/-- The session after the 32766th in slot 1 gets the `sid` of the one in slot 0. -/
theorem sid_given_twice :
    ∃ s, run (step (centerLoop quiet Zlib.refusing)) ⟨(zeroed.start 2).2, [], [], (UserManager.new, ())⟩
      (([.join 0 IpText.empty, .handle given] ++ (List.range 32766).flatMap fun k => churn (k + 1)) ++
        [.join 32767 IpText.empty, .handle given]) = some s ∧
    ¬(s.main.1.users.map User.mUserID).Nodup ∧ ¬CenterToldApart quiet Zlib.refusing s := by
  obtain ⟨s, hrun, hs⟩ := @churned_run Zlib.refusing 32766 (by decide)
  have hslot := hs.freeSlot_eq
  have hnot := (hs.fresh 32767 (by omega)).1
  have hnext : s.server.nextLink 1 = ⟨1, 1⟩ := by
    rw [nextLink, nextId, hs.mId]
    rfl
  have hconnect := @handle_connect_center Zlib.refusing _ quiet
    (connectMessage ⟨1, 1⟩ IpText.empty) s.main.2 s.main.1 given rfl
  have hjoin : step (centerLoop quiet Zlib.refusing) s (.join 32767 IpText.empty) =
      some ⟨s.server.accept 32767 IpText.empty, 32767 :: s.joined,
        [connectMessage ⟨1, 1⟩ IpText.empty], s.main⟩ := by
    rw [step, if_neg hnot, accepting_some hslot, hs.pending, hnext]
    rfl
  have hids : ¬((s.main.1.addUser (User.new ⟨1, 1⟩ false)).users.map User.mUserID).Nodup := by
    have hfaces := UserManager.faces_handle hconnect
    rw [enrol_connect rfl, hs.faces] at hfaces
    have hmap : (s.main.1.addUser (User.new ⟨1, 1⟩ false)).users.map User.mUserID = [1, 1] := by
      have hfst := congrArg (List.map Prod.fst) hfaces
      rw [UserManager.faces, List.map_map] at hfst
      exact hfst
    rw [hmap]
    decide
  refine ⟨_, run_append.mpr ⟨s, hrun, run_cons.mpr ⟨_, hjoin, run_cons.mpr
    ⟨_, step_handle_center rfl hconnect, rfl⟩⟩⟩, hids, ?_⟩
  exact fun h => hids h.distinct

end Identity
end HXService
