import HXService.Lib.Ledger
import HXService.Lib.Runs
import HXService.Sends
import HXService.Upkeep

/-! Which player a `c2s_tell_user_profile` binds, over the runs of a scene server. -/

namespace HXService.Binding
open Bytes Runs PlayerManager SceneServer

def IsRequest (pack : HXMessagePackage) : Prop := IsProfile pack ∧ faceModelSize ≤ pack.body.length

instance (pack : HXMessagePackage) : Decidable (IsRequest pack) :=
  inferInstanceAs (Decidable ((_ ∧ _) ∧ _))

def Free (ply : Player) : Prop := ply.bBoundUser = false ∧ ply.mUserType = vip

instance (ply : Player) : Decidable (Free ply) := inferInstanceAs (Decidable (_ ∧ _))

/-! ## The server and who has been chosen

The ledger numbers the players in the order they connect, and keeps the numbers of
those that requests have chosen. -/

structure State (σ : Type) where
  server : PlayerManager × σ
  ledger : Ledger

variable {σ : Type} (net : Network σ) (z : Zlib)

def State.note (st : State σ) : Event → Ledger
  | .client pack _ =>
    let players := st.server.1.players
    if pack.header.id = idConnect then st.ledger.enter
    else if pack.header.id = idDisconnect then
      st.ledger.leave (players.findIdx (·.mPlyID = pack.mLinkid.sid.toNat))
    else if IsRequest pack then st.ledger.pick (players.findIdx (Free ·))
    else st.ledger
  | .center _ => st.ledger

def step (st : State σ) (e : Event) : Option (State σ) :=
  (SceneServer.step net z st.server e).map fun server => ⟨server, st.note e⟩

def start (flvSeqHeaderChange : Bool) (sceneServerID : Block 32) (s : σ) : State σ :=
  ⟨(PlayerManager.new flvSeqHeaderChange sceneServerID, s), Ledger.empty⟩

/-! ## What a request is to do -/

def rspSeatNum (seatNum : Int32) : LinkID → Sent :=
  command idUserLogin s2cRspSeatNum (int32Bytes seatNum) (fits_int32 seatNum)

def withBound (m : PlayerManager) (i : Nat) (ply : Player) (faceModel : Block faceModelSize) :
    PlayerManager :=
  { m with players := m.players.set i { ply with
    mProfileInfo := { ply.mProfileInfo with mFaceModel := faceModel }, bBoundUser := true } }

/-- The `i`-th player, the `n`-th that connected, gets the face model. -/
structure Chooses (st : State σ) (linkID : LinkID) (faceModel : Block faceModelSize)
    (out : Nat × PlayerManager × σ) (i n : Nat) (ply : Player) : Prop where
  listed : st.server.1.players[i]? = some ply
  serial : st.ledger.serials[i]? = some n
  fresh : n ∉ st.ledger.picked
  isVip : ply.mUserType = vip
  seated : 0 < ply.mSeatNumber
  other : ply.mPlyID ≠ linkID.sid.toNat
  answered : out.2.2 = net.performAll st.server.2 [rspSeatNum ply.mSeatNumber linkID]
  returned : out.1 = ply.mPlyID
  bound : out.2.1 = withBound st.server.1 i ply faceModel

/-- Every request that succeeds binds a seated VIP player, not the requester, that
none has chosen before. -/
def BindsWell (st : State σ) : Event → Prop
  | .client pack _ => IsRequest pack → ∀ plyId m' s',
    st.server.1.bindFaceModeWithSeatNumber net pack.mLinkid (bodyBlock pack faceModelSize) st.server.2 =
      .ok (some plyId, m', s') →
    ∃ faceModel i n ply, bodyBlock pack faceModelSize = .ok faceModel ∧
      Chooses net st pack.mLinkid faceModel (plyId, m', s') i n ply
  | .center _ => True

/-- The first free player of the list has told a positive seat, and is not the
requester. -/
def Ready (st : State σ) : Event → Prop
  | .client pack _ => IsRequest pack → ∀ before ply after,
    st.server.1.players = before ++ ply :: after → (∀ other ∈ before, ¬Free other) → Free ply →
      0 < ply.mSeatNumber ∧ ply.mPlyID ≠ pack.mLinkid.sid.toNat
  | .center _ => True

variable {net z} {st st' : State σ} {e : Event}

section Request
variable {m : PlayerManager} {linkID : LinkID} {ply : Player} {s : σ}

theorem free_iff : (!ply.bBoundUser && decide (ply.mUserType = vip)) = decide (Free ply) := by
  rw [Bool.eq_iff_iff, Bool.and_eq_true, Bool.not_eq_true', decide_eq_true_eq, decide_eq_true_eq]
  exact Iff.rfl

theorem getFreePlayer_eq : m.getFreePlayer = m.players.find? (Free ·) := by
  unfold getFreePlayer
  congr 1
  funext ply
  exact free_iff

theorem getFreePlayer_eq_some_iff : m.getFreePlayer = some ply ↔ Free ply ∧
    ∃ before after, m.players = before ++ ply :: after ∧ ∀ other ∈ before, ¬Free other := by
  rw [getFreePlayer_eq, List.find?_eq_some_iff_append, decide_eq_true_eq]
  simp only [Bool.not_eq_true', decide_eq_false_iff_not]

theorem bodyBlock_of_isRequest {pack : HXMessagePackage} (h : IsRequest pack) :
    ∃ faceModel, bodyBlock pack faceModelSize = .ok faceModel := by
  unfold bodyBlock
  rw [dif_pos h.2]
  exact ⟨_, rfl⟩

theorem bind_free {faceModel : Block faceModelSize} (hfree : m.getFreePlayer = some ply) :
    m.bindFaceModeWithSeatNumber net linkID (.ok faceModel) s = .ok (some ply.mPlyID,
      withBound m (m.players.findIdx (Free ·)) ply faceModel,
      net.performAll s [rspSeatNum ply.mSeatNumber linkID]) := by
  unfold bindFaceModeWithSeatNumber
  simp only [hfree]
  rw [sendCmd_eq (fits_int32 ply.mSeatNumber), ok_bind, ok_bind]
  simp only [free_iff]
  rfl

theorem bind_none {faceModel : Checked (Block faceModelSize)} (hfree : m.getFreePlayer = none) :
    m.bindFaceModeWithSeatNumber net linkID faceModel s =
      .ok (none, m, net.performAll s [command idError noAvailableSeatNumber [] fits_nil linkID]) := by
  unfold bindFaceModeWithSeatNumber
  simp only [hfree]
  rw [sendCmd_eq fits_nil]
  rfl

theorem findIdx_of_getFreePlayer (hfree : m.getFreePlayer = some ply) :
    m.players[m.players.findIdx (Free ·)]? = some ply := by
  rw [getFreePlayer_eq, List.find?_eq_getElem?_findIdx] at hfree
  exact hfree

theorem findIdx_of_none (hfree : m.getFreePlayer = none) :
    m.players[m.players.findIdx (Free ·)]? = none := by
  rw [getFreePlayer_eq, List.find?_eq_getElem?_findIdx] at hfree
  exact hfree

theorem handle_binds {pack : HXMessagePackage} {given : Given} {out : PlayerManager × σ}
    (hpack : IsRequest pack) (h : handle net m pack given s = .ok out) :
    ∀ ply, out.1.players[m.players.findIdx (Free ·)]? = some ply → ply.bBoundUser = true := by
  obtain ⟨faceModel, hface⟩ := bodyBlock_of_isRequest hpack
  rw [handle_profile hpack.1] at h
  obtain ⟨bound, hbound, h⟩ := bind_eq_ok.mp h
  obtain ⟨s', -, h⟩ := bind_eq_ok.mp h
  rw [← Except.ok.inj h]
  intro ply hply
  cases hfree : m.getFreePlayer with
  | none =>
    rw [bind_none hfree] at hbound
    rw [← Except.ok.inj hbound, findIdx_of_none hfree] at hply
    exact nomatch hply
  | some first =>
    rw [hface, bind_free hfree] at hbound
    have hlt : m.players.findIdx (Free ·) < m.players.length :=
      (List.getElem?_eq_some_iff.mp (findIdx_of_getFreePlayer hfree)).1
    rw [← Except.ok.inj hbound] at hply
    dsimp only [withBound] at hply
    rw [List.getElem?_set_self hlt] at hply
    rw [← Option.some.inj hply]

end Request

def Inv (st : State σ) : Prop :=
  Ledger.Marks (fun ply : Player => ply.bBoundUser = true) st.ledger st.server.1.players

theorem inv_start {flvSeqHeaderChange : Bool} {sceneServerID : Block 32} {s : σ} :
    Inv (start flvSeqHeaderChange sceneServerID s) := Ledger.marks_empty

theorem Inv.kept (h : Inv st) {m : PlayerManager} (hkept : Kept st.server.1 m) :
    Ledger.Marks (fun ply : Player => ply.bBoundUser = true) st.ledger m.players :=
  h.change (hkept.players.imp fun _ _ hsame => hsame.bBoundUser)

theorem inv_client {pack : HXMessagePackage} {given : Given} {server : PlayerManager × σ} (h : Inv st)
    (hhandle : handle net st.server.1 pack given st.server.2 = .ok server) :
    Ledger.Marks (fun ply : Player => ply.bBoundUser = true) (st.note (.client pack given))
      server.1.players := by
  unfold State.note
  dsimp only
  split_ifs with hconnect hdisconnect hrequest
  · rw [handle_connect hconnect hhandle]
    exact h.enter _
  · rw [handle_disconnect hdisconnect hhandle, deletePlayer, Roster.remove_eq_eraseIdx]
    exact h.leave _
  · exact (h.kept (handle_kept hconnect hdisconnect hhandle)).pick (handle_binds hrequest hhandle)
  · exact h.kept (handle_kept hconnect hdisconnect hhandle)

theorem inv_step (st : State σ) (e : Event) (st' : State σ) (h : Inv st)
    (hstep : step net z st e = some st') : Inv st' := by
  obtain ⟨server, hserver, rfl⟩ := Option.map_eq_some_iff.mp hstep
  cases e with
  | client pack given => exact inv_client h (mem_toOption hserver)
  | center pack => exact h.kept (handleCenter_kept (mem_toOption hserver))

section Choice
variable {ply chosen : Player} {linkID : LinkID} {faceModel : Block faceModelSize} {i n : Nat}

theorem chooses_free (h : Inv st) (hfree : st.server.1.getFreePlayer = some ply)
    (hseated : 0 < ply.mSeatNumber) (hother : ply.mPlyID ≠ linkID.sid.toNat) :
    ∃ n, Chooses net st linkID faceModel
      (ply.mPlyID, withBound st.server.1 (st.server.1.players.findIdx (Free ·)) ply faceModel,
        net.performAll st.server.2 [rspSeatNum ply.mSeatNumber linkID])
      (st.server.1.players.findIdx (Free ·)) n ply := by
  have hlisted := findIdx_of_getFreePlayer hfree
  have hply : Free ply := (getFreePlayer_eq_some_iff.mp hfree).1
  have hunbound : ¬ply.bBoundUser = true := by
    rw [hply.1]
    exact Bool.false_ne_true
  obtain ⟨n, hserial, hfresh⟩ := h.fresh hlisted hunbound
  exact ⟨n, hlisted, hserial, hfresh, hply.2, hseated, hother, rfl, rfl, rfl⟩

theorem eq_of_withBound {m : PlayerManager} {j : Nat} (hi : m.players[i]? = some chosen)
    (hj : m.players[j]? = some ply) (hunbound : ply.bBoundUser = false)
    (h : withBound m j ply faceModel = withBound m i chosen faceModel) : chosen = ply := by
  have hlt : j < m.players.length := (List.getElem?_eq_some_iff.mp hj).1
  have hat := congrArg (fun m : PlayerManager => (m.players[j]?).map Player.bBoundUser) h
  dsimp only [withBound] at hat
  rw [List.getElem?_set_self hlt] at hat
  by_cases hij : i = j
  · rw [hij, hj] at hi
    exact (Option.some.inj hi).symm
  · rw [List.getElem?_set_ne hij, hj, Option.map_some, Option.map_some, hunbound] at hat
    exact absurd (Option.some.inj hat).symm Bool.false_ne_true

theorem Chooses.free (h : Chooses net st linkID faceModel
      (ply.mPlyID, withBound st.server.1 (st.server.1.players.findIdx (Free ·)) ply faceModel,
        net.performAll st.server.2 [rspSeatNum ply.mSeatNumber linkID]) i n chosen)
    (hfree : st.server.1.getFreePlayer = some ply) : chosen = ply :=
  eq_of_withBound h.listed (findIdx_of_getFreePlayer hfree) (getFreePlayer_eq_some_iff.mp hfree).1.1
    h.bound

end Choice

theorem ready_of_bindsWell (st : State σ) (e : Event) (h : BindsWell net st e) : Ready st e := by
  cases e with
  | center pack => trivial
  | client pack given =>
    intro hrequest before ply after hplayers hbefore hply
    obtain ⟨faceModel, hface⟩ := bodyBlock_of_isRequest hrequest
    have hbinds := h hrequest
    have hfree := getFreePlayer_eq_some_iff.mpr ⟨hply, before, after, hplayers, hbefore⟩
    rw [hface] at hbinds
    obtain ⟨_, i, n, chosen, hsame, hchooses⟩ := hbinds _ _ _ (bind_free hfree)
    obtain rfl := Except.ok.inj hsame
    rw [← hchooses.free hfree]
    exact ⟨hchooses.seated, hchooses.other⟩

theorem bindsWell_of_ready (st : State σ) (e : Event) (hinv : Inv st) (h : Ready st e) :
    BindsWell net st e := by
  cases e with
  | center pack => trivial
  | client pack given =>
    intro hrequest plyId m' s' hbind
    obtain ⟨faceModel, hface⟩ := bodyBlock_of_isRequest hrequest
    rw [hface] at hbind
    cases hfree : st.server.1.getFreePlayer with
    | none =>
      rw [bind_none hfree] at hbind
      exact nomatch hbind
    | some ply =>
      obtain ⟨hply, before, after, hplayers, hbefore⟩ := getFreePlayer_eq_some_iff.mp hfree
      obtain ⟨hseated, hother⟩ := h hrequest before ply after hplayers hbefore hply
      obtain ⟨n, hchooses⟩ := @chooses_free _ net st ply pack.mLinkid faceModel hinv hfree hseated hother
      rw [bind_free hfree] at hbind
      obtain ⟨hid, hout⟩ := Prod.mk.inj (Except.ok.inj hbind)
      obtain ⟨rfl, rfl⟩ := Prod.mk.inj hout
      obtain rfl := Option.some.inj hid
      exact ⟨faceModel, _, n, ply, hface, hchooses⟩

/-- In a run every request binds well exactly when it finds the first free player
of the list seated, and somebody else than the requester. -/
theorem run_bindsWell_iff {flvSeqHeaderChange : Bool} {sceneServerID : Block 32} {s : σ}
    {es : List Event} : Along (step net z) (BindsWell net) (start flvSeqHeaderChange sceneServerID s) es ↔
      Along (step net z) Ready (start flvSeqHeaderChange sceneServerID s) es :=
  along_iff (fun st e hinv => ⟨ready_of_bindsWell st e, bindsWell_of_ready st e hinv⟩) inv_step inv_start

def profile (sid : UInt16) : HXMessagePackage :=
  HXMessagePackage.filled ⟨sid, 0⟩ idUserLogin c2sTellUserProfile [] fits_nil

def asking (sid : UInt16) : Event := .client (profile sid) ⟨false, TransformInfo.ofBytes [], 0⟩

theorem isRequest_profile (sid : UInt16) : IsRequest (profile sid) := by
  have hroom : faceModelSize ≤ maxBodyLength := by decide
  exact ⟨⟨rfl, rfl⟩, hroom.trans_eq (profile sid).data.size_eq.symm⟩

theorem unseated_bound : ¬Along (step Network.notebook Zlib.refusing) (BindsWell Network.notebook)
    (start false (Block.zeros 32) []) [entering 1, entering 2, asking 2] := by
  intro h
  obtain ⟨-, h⟩ := h
  obtain ⟨-, h⟩ := h _ rfl
  obtain ⟨hbinds, -⟩ := h _ rfl
  have hready := ready_of_bindsWell _ _ hbinds (isRequest_profile 2) [] _ _ rfl nofun ⟨rfl, rfl⟩
  exact absurd hready.1 (by decide)

end HXService.Binding
