import HXService.Identity
import HXService.SvcTimer

/-! No handler looks at its network. Where a map takes one network to another, it
takes the runs of the handlers along; so what a handler sends can be read off the
notebook. -/

namespace HXService
open Bytes

theorem map_bind {α β γ : Type} (x : Checked α) (f : α → Checked β) (g : β → γ) :
    (x >>= f).map g = x >>= fun a => (f a).map g := by
  cases x <;> rfl

theorem bind_map {α β γ : Type} (x : Checked α) (g : α → β) (f : β → Checked γ) :
    x.map g >>= f = x >>= fun a => f (g a) := by
  cases x <;> rfl

theorem ite_map {α β : Type} {P : Prop} [Decidable P] {g : α → β} {x y : Checked β} {x' y' : Checked α}
    (hx : x = x'.map g) (hy : y = y'.map g) : (if P then x else y) = (if P then x' else y').map g := by
  split_ifs
  · exact hx
  · exact hy

/-! ## Maps between networks -/

structure Network.Hom {τ σ : Type} (net : Network τ) (net' : Network σ) (φ : τ → σ) : Prop where
  send : ∀ t linkID msg, net'.send (φ t) linkID msg = Prod.map id φ (net.send t linkID msg)
  sendCenter : ∀ t id id2 bytes,
    (net'.sendCenter (φ t) id id2 bytes).2 = φ (net.sendCenter t id id2 bytes).2

namespace Network

/-- No send to a client is refused. -/
def TakesAll {σ : Type} (net : Network σ) : Prop :=
  ∀ s linkID msg, (net.send s linkID msg).1 = true

theorem hom_notebook {σ : Type} {net : Network σ} (h : net.TakesAll) (s : σ) :
    Hom notebook net (net.performAll s) where
  send sends linkID msg := by
    show _ = (true, net.performAll s (sends ++ [.client linkID msg]))
    rw [performAll_append]
    exact Prod.ext (h _ _ _) rfl
  sendCenter sends id id2 bytes := by
    show _ = net.performAll s (sends ++ [.center id id2 bytes])
    rw [performAll_append]
    rfl

namespace Hom
variable {τ σ : Type} {net : Network τ} {net' : Network σ} {φ : τ → σ} {t : τ}
variable (h : net.Hom net' φ)
include h

theorem send_snd (t : τ) (linkID : LinkID) (msg : Outgoing) :
    (net'.send (φ t) linkID msg).2 = φ (net.send t linkID msg).2 := by
  rw [h.send]
  rfl

theorem sendEach (msg : Outgoing) (links : List LinkID) (t : τ) :
    net'.sendEach msg links (φ t) = φ (net.sendEach msg links t) := by
  induction links generalizing t with
  | nil => rfl
  | cons linkID links ih =>
    unfold Network.sendEach at ih ⊢
    rw [List.foldl_cons, List.foldl_cons, h.send_snd, ih]

/-! ## The streams of both managers -/

theorem sendFlvSeqHeaders {z : Zlib} {linkID : LinkID} {pkt : HXBigMessageQueue}
    {datas : List (List UInt8)} :
    HXService.sendFlvSeqHeaders net' z linkID pkt (φ t) datas =
      (HXService.sendFlvSeqHeaders net z linkID pkt t datas).map (Prod.map id φ) := by
  induction datas generalizing pkt t with
  | nil => rfl
  | cons data rest ih =>
    unfold HXService.sendFlvSeqHeaders
    rw [map_bind]
    refine bind_congr fun pkt => ?_
    rw [h.send]
    cases hsent : (net.send t linkID (.big pkt)).1 with
    | true =>
      simp only [Prod.map, hsent, id_eq, if_true]
      exact ih
    | false =>
      simp only [Prod.map, hsent, id_eq, Bool.false_eq_true, if_false]
      rfl

theorem sendFlvHeadersTo {z : Zlib} {α : Type} {r : Receiving α} {m : FlvSeqHeaderMap} {change : Bool}
    {user : α} : HXService.sendFlvHeadersTo net' z r m change (φ t) user =
      (HXService.sendFlvHeadersTo net z r m change t user).map (Prod.map id (Prod.map id φ)) := by
  unfold HXService.sendFlvHeadersTo sendFlvSeqHeaderData
  split_ifs with hneeds
  · rw [h.sendFlvSeqHeaders, bind_map, map_bind]
    rfl
  · rfl

theorem sendFlvStreamTo {z : Zlib} {α : Type} {r : Receiving α} {m : FlvSeqHeaderMap}
    {before : Nat → α → List Outgoing} {pkt : HXBigMessageQueue} {i : Nat} {change : Bool}
    {users : List α} : HXService.sendFlvStreamTo net' z r m before pkt i change (φ t) users =
      (HXService.sendFlvStreamTo net z r m before pkt i change t users).map
        (Prod.map id (Prod.map id φ)) := by
  induction users generalizing i change t with
  | nil => rfl
  | cons user rest ih =>
    have hmsgs : ∀ (linkID : LinkID) (msgs : List Outgoing) (t : τ),
        msgs.foldl (fun s msg => (net'.send s linkID msg).2) (φ t) =
          φ (msgs.foldl (fun s msg => (net.send s linkID msg).2) t) := by
      intro linkID msgs
      induction msgs with
      | nil => exact fun _ => rfl
      | cons msg msgs ih =>
        intro t
        rw [List.foldl_cons, List.foldl_cons, h.send_snd, ih]
    unfold HXService.sendFlvStreamTo
    split_ifs with hskip
    · rw [ih, bind_map, map_bind]
      rfl
    · rw [h.sendFlvHeadersTo, bind_map, map_bind]
      refine bind_congr fun headers => ?_
      dsimp only [Prod.map, id_eq]
      rw [hmsgs, ih, bind_map, map_bind]
      rfl

/-! ## The center server -/

theorem userStream {z : Zlib} {m : UserManager} {mem : Memory} {len : Nat} {now : Nat → UInt64} :
    m.sendFlvStream net' z mem len now (φ t) =
      (m.sendFlvStream net z mem len now t).map (Prod.map id φ) := by
  unfold UserManager.sendFlvStream
  rw [map_bind]
  refine bind_congr fun pkt => ?_
  dsimp only
  rw [h.sendFlvStreamTo, bind_map, map_bind]
  rfl

open CenterServer in
theorem centerHandle {z : Zlib} {m : UserManager} {pack : HXMessagePackage} {given : Given} :
    handle net' z m pack given (φ t) = (handle net z m pack given t).map (Prod.map id φ) := by
  have hforwardMsg : m.forwardMsg net' pack.mLinkid pack (φ t) =
      φ (m.forwardMsg net pack.mLinkid pack t) := by
    rw [Identity.forwardMsg_eq, Identity.forwardMsg_eq, h.sendEach]
  have hnotify : handleGlobalNotify net' m pack (φ t) = φ (handleGlobalNotify net m pack t) := by
    unfold handleGlobalNotify
    split_ifs
    · exact h.sendEach _ _ t
    · exact hforwardMsg
    · rfl
  unfold handle handleFlvStream
  dsimp only
  rw [hforwardMsg, hnotify]
  refine ite_map rfl (ite_map rfl (ite_map ?_ (ite_map rfl (ite_map rfl (ite_map ?_ (ite_map ?_
    (ite_map ?_ (ite_map ?_ rfl))))))))
  · split_ifs <;> rfl
  · rw [map_bind]
    rfl
  · rw [map_bind]
    rfl
  · rw [map_bind]
    rfl
  · rw [map_bind]
    refine bind_congr fun body => ?_
    refine ite_map rfl ?_
    rw [h.send_snd]
    exact h.userStream

/-! ## The scene servers -/

theorem sendCmd {linkID : LinkID} {msgID cmdID : UInt16} {data : List UInt8} :
    PlayerManager.sendCmd net' linkID msgID cmdID data (φ t) =
      (PlayerManager.sendCmd net linkID msgID cmdID data t).map (Prod.map id φ) := by
  unfold PlayerManager.sendCmd
  rw [map_bind]
  refine bind_congr fun pack => ?_
  rw [h.send]
  rfl

theorem sendCmdTo {players : List Player} {msgID cmdID : UInt16} {data : List UInt8} :
    PlayerManager.sendCmdTo net' players msgID cmdID data (φ t) =
      (PlayerManager.sendCmdTo net players msgID cmdID data t).map φ := by
  unfold PlayerManager.sendCmdTo
  induction players generalizing t with
  | nil => rfl
  | cons ply players ih =>
    rw [List.foldlM_cons, List.foldlM_cons, h.sendCmd, bind_map, bind_assoc, map_bind, bind_assoc]
    refine bind_congr fun sent => ?_
    rw [pure_bind, pure_bind]
    exact ih

theorem sendClientListToCenterServer {m : PlayerManager} :
    m.sendClientListToCenterServer net' (φ t) = φ (m.sendClientListToCenterServer net t) := by
  unfold PlayerManager.sendClientListToCenterServer
  dsimp only
  split_ifs
  · rfl
  · exact h.sendCenter t _ _ _

theorem broadcastUserState {m : PlayerManager} {plyId : Nat} {msgID : UInt16} {userState : Int32} :
    m.broadcastUserState net' plyId msgID userState (φ t) =
      (m.broadcastUserState net plyId msgID userState t).map φ := by
  unfold PlayerManager.broadcastUserState
  cases m.findPlayer plyId with
  | none => rfl
  | some ply =>
    dsimp only
    split_ifs
    · rfl
    · rw [h.sendCmdTo, bind_map, map_bind]
      refine bind_congr fun t => ?_
      rw [h.sendCenter]
      rfl
    · rw [h.sendCmdTo, bind_map, map_bind]
      rfl

theorem asks {m : PlayerManager} :
    (net'.sendCenter (m.sendClientListToCenterServer net' (φ t)) idGlobalNotify s2sReqUsrList []).2 =
      φ (net.sendCenter (m.sendClientListToCenterServer net t) idGlobalNotify s2sReqUsrList []).2 := by
  rw [h.sendClientListToCenterServer, h.sendCenter]

open SceneServer in
theorem sceneNotify {m : PlayerManager} {pack : HXMessagePackage} :
    handleGlobalNotify net' m pack (φ t) = (handleGlobalNotify net m pack t).map (Prod.map id φ) := by
  unfold handleGlobalNotify
  dsimp only
  split_ifs
  · rw [h.sendCenter]
    rfl
  · rw [h.sendCenter]
    rfl
  · rw [h.sendCenter]
    rfl
  · rw [h.sendCenter]
    rfl
  · rw [h.broadcastUserState, bind_map, map_bind]
    rfl
  · rw [h.broadcastUserState, bind_map, map_bind]
    rfl
  · rw [h.asks]
    rfl
  · rfl

open SceneServer in
theorem tellSeatNum {m : PlayerManager} {pack : HXMessagePackage} :
    handleTellSeatNum net' m pack (φ t) = (handleTellSeatNum net m pack t).map (Prod.map id φ) := by
  unfold handleTellSeatNum
  rw [map_bind]
  refine bind_congr fun seatNum => ?_
  dsimp only
  split_ifs
  · rw [h.broadcastUserState, bind_map, map_bind]
    refine bind_congr fun t => ?_
    rw [h.asks]
    rfl
  · rw [h.broadcastUserState, bind_map, map_bind]
    rfl
  · rw [pure_bind, pure_bind, h.asks]
    rfl
  · rfl

open SceneServer in
theorem userProfile {m : PlayerManager} {pack : HXMessagePackage} {given : Given} :
    handleTellUserProfile net' m pack given (φ t) =
      (handleTellUserProfile net m pack given t).map (Prod.map id φ) := by
  have hbind : ∀ linkID faceModel, m.bindFaceModeWithSeatNumber net' linkID faceModel (φ t) =
      (m.bindFaceModeWithSeatNumber net linkID faceModel t).map
        (Prod.map id (Prod.map id φ)) := by
    intro linkID faceModel
    unfold PlayerManager.bindFaceModeWithSeatNumber
    cases m.getFreePlayer with
    | none =>
      dsimp only
      rw [h.sendCmd, bind_map, map_bind]
      rfl
    | some ply =>
      dsimp only
      rw [h.sendCmd, bind_map, map_bind]
      refine bind_congr fun sent => ?_
      rw [map_bind]
      rfl
  unfold handleTellUserProfile
  rw [hbind, bind_map, map_bind]
  refine bind_congr fun bound => ?_
  dsimp only [Prod.map, id_eq]
  rw [h.broadcastUserState, bind_map, map_bind]
  rfl

open SceneServer in
theorem sceneHandle {m : PlayerManager} {pack : HXMessagePackage} {given : Given} :
    handle net' m pack given (φ t) = (handle net m pack given t).map (Prod.map id φ) := by
  unfold handle
  dsimp only
  split_ifs
  · unfold handleConnect PlayerManager.sendClientList
    dsimp only
    split_ifs
    · rfl
    · rw [h.sendCmd, bind_map, bind_assoc, bind_assoc, map_bind]
      rfl
  · unfold PlayerManager.sendPlayerLeaveMsg
    cases m.findPlayer pack.mLinkid.sid.toNat with
    | none => rfl
    | some ply =>
      dsimp only
      rw [h.sendCmdTo, bind_map, bind_assoc, bind_assoc, map_bind]
      refine bind_congr fun t => ?_
      split_ifs
      · rw [h.sendCenter]
        rfl
      · rfl
  · exact h.sceneNotify
  · unfold handleUserLogin
    dsimp only
    split_ifs
    · exact h.tellSeatNum
    · rw [map_bind]
      rfl
    · exact h.userProfile
    · rw [map_bind]
      refine bind_congr fun seatNum => ?_
      unfold PlayerManager.sendUserReadyMsg
      cases m.findPlayerBySeatNumber (int32OfBytes seatNum.bytes) with
      | none => rfl
      | some ply =>
        dsimp only
        split_ifs
        · rfl
        · rw [h.sendCmdTo, bind_map, map_bind]
          rfl
    · rfl
  · rw [map_bind]
    rfl
  · rfl

theorem playerStream {z : Zlib} {m : PlayerManager} {pkt : HXBigMessageQueue} :
    m.sendFlvPackage net' z pkt (φ t) = (m.sendFlvPackage net z pkt t).map (Prod.map id φ) := by
  unfold PlayerManager.sendFlvPackage
  rw [h.sendFlvStreamTo, bind_map, map_bind]
  rfl

open SceneServer in
theorem sceneHandleCenter {z : Zlib} {m : PlayerManager} {pack : HXMessagePackage} :
    handleCenter net' z m pack (φ t) = (handleCenter net z m pack t).map (Prod.map id φ) := by
  have hsendMsg : (m.sendMsg net' pack (φ t)).2 = φ (m.sendMsg net pack t).2 := h.sendEach _ _ t
  unfold handleCenter handleCenterNotify PlayerManager.broadcastExternalUserState
  dsimp only
  rw [hsendMsg]
  split_ifs
  · unfold PlayerManager.broadcastControlCmd
    rw [h.sendCmdTo, bind_map, map_bind]
    rfl
  · rfl
  · rw [h.sendClientListToCenterServer]
    rfl
  · rfl
  · rfl
  · rfl
  · rfl
  · rw [map_bind]
    rfl
  · unfold PlayerManager.sendFlvStreamBelow
    rw [map_bind]
    exact bind_congr fun pkt => h.playerStream
  · rw [map_bind]
    refine bind_congr fun data => ?_
    unfold PlayerManager.sendFlvStream
    rw [map_bind]
    exact bind_congr fun pkt => h.playerStream
  · rfl

open SvcTimer in
theorem tick {m : PlayerManager} :
    handler net' m (φ t) = (handler net m t).map (Prod.map id φ) := by
  unfold handler
  rw [map_bind]
  refine bind_congr fun gathered => ?_
  dsimp only
  split_ifs
  · rw [h.sendCmdTo, bind_map, map_bind]
    refine bind_congr fun t => ?_
    rw [h.sendCenter]
    rfl
  · rw [h.sendCmdTo, bind_map, map_bind]
    rfl
  · rfl

end Hom

/-- Every handler of both servers computes what it sends without a look at the network:
on any network that refuses no client, it does what it writes down and sends that. -/
theorem handlers_recorded {σ : Type} {net : Network σ} (h : net.TakesAll) (s : σ) :
    (∀ z m pack given, CenterServer.handle net z m pack given s =
      (CenterServer.handle notebook z m pack given []).map (Prod.map id (net.performAll s))) ∧
    (∀ m pack given, SceneServer.handle net m pack given s =
      (SceneServer.handle notebook m pack given []).map (Prod.map id (net.performAll s))) ∧
    (∀ z m pack, SceneServer.handleCenter net z m pack s =
      (SceneServer.handleCenter notebook z m pack []).map (Prod.map id (net.performAll s))) ∧
    ∀ m, SvcTimer.handler net m s =
      (SvcTimer.handler notebook m []).map (Prod.map id (net.performAll s)) := by
  have hhom : Hom notebook net (net.performAll s) := hom_notebook h s
  have hs : net.performAll s [] = s := rfl
  refine ⟨fun z m pack given => ?_, fun m pack given => ?_, fun z m pack => ?_, fun m => ?_⟩
  · rw [← hhom.centerHandle, hs]
  · rw [← hhom.sceneHandle, hs]
  · rw [← hhom.sceneHandleCenter, hs]
  · rw [← hhom.tick, hs]

end Network
end HXService
