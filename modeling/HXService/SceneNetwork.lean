import HXService.Faults
import HXService.Lib.Runs

/-! The scene servers of one center server, and what they tell their players of
the players of the others: client lists and requests for them, in any order of
the steps of all the servers. -/

namespace HXService.ExternalLists
open Bytes Runs PlayerManager

/-! ## The servers

A scene server is named by its `LinkID` at the center server. Its `outbox` and
`inbox` are the messages to and from there that have not been handled, `sent` is
what its players have been sent, `received` what it has handled of the center
server's. -/

structure Wires where
  outbox : List HXMessagePackage
  sent : List (LinkID × Outgoing)

structure Scene where
  manager : PlayerManager
  wires : Wires
  received : List HXMessagePackage

structure State where
  center : UserManager
  inbox : LinkID → List HXMessagePackage
  scenes : LinkID → Scene

def arriving (linkID : LinkID) (pack : HXMessagePackage) : HXMessagePackage :=
  { pack with mLinkid := linkID, bigDataPointer := none }

def downlink : Network Wires where
  send w linkID msg := (true, { w with sent := w.sent ++ [(linkID, msg)] })
  sendCenter w id id2 bytes :=
    if h : bytes.length ≤ maxBodyLength then
      (true, { w with outbox := w.outbox ++ [HXMessagePackage.filled LinkID.zero id id2 bytes h] })
    else (false, w)

def uplink : Network (LinkID → List HXMessagePackage) where
  send inbox linkID
    | .package msg => (true, Function.update inbox linkID (inbox linkID ++ [arriving LinkID.zero msg]))
    | .big _ => (false, inbox)
    | .data _ _ _ => (false, inbox)
  sendCenter inbox _ _ _ := (false, inbox)

def start (center : UserManager) (flvSeqHeaderChange : LinkID → Bool)
    (sceneServerID : LinkID → Block 32) : State where
  center
  inbox _ := []
  scenes a := ⟨PlayerManager.new (flvSeqHeaderChange a) (sceneServerID a), ⟨[], []⟩, []⟩

/-- `client` is a message of a client at its scene server, `center` the next message
of a scene server at the center server, `external` the next one from there. -/
inductive Event
  | client (a : LinkID) (pack : HXMessagePackage) (given : SceneServer.Given)
  | center (a : LinkID) (given : CenterServer.Given)
  | external (a : LinkID)

def step (z : Zlib) (s : State) : Event → Option State
  | .client a pack given =>
    let scene := s.scenes a
    (SceneServer.handle downlink scene.manager pack given scene.wires).toOption.map fun out =>
      { s with scenes := Function.update s.scenes a { scene with manager := out.1, wires := out.2 } }
  | .center a given =>
    let scene := s.scenes a
    match scene.wires.outbox with
    | [] => none
    | pack :: outbox =>
      (CenterServer.handle uplink z s.center (arriving a pack) given s.inbox).toOption.map fun out =>
        { center := out.1
          inbox := out.2
          scenes := Function.update s.scenes a { scene with wires := { scene.wires with outbox } } }
  | .external a =>
    let scene := s.scenes a
    match s.inbox a with
    | [] => none
    | pack :: rest =>
      (SceneServer.handleCenter downlink z scene.manager pack scene.wires).toOption.map fun out =>
        { s with
          inbox := Function.update s.inbox a rest
          scenes := Function.update s.scenes a ⟨out.1, out.2, scene.received ++ [pack]⟩ }

def State.servers (s : State) : List LinkID := s.center.users.map User.mLinkID

def State.players (s : State) (a : LinkID) : List Player := (s.scenes a).manager.players

def IsList (pack : HXMessagePackage) : Prop :=
  pack.header.id = idGlobalNotify ∧ pack.header.id2 = s2cClientListExternal

def IsRequest (pack : HXMessagePackage) : Prop :=
  pack.header.id = idGlobalNotify ∧ pack.header.id2 = s2sReqUsrList

def IsState (pack : HXMessagePackage) : Prop :=
  pack.header.id = idUserLogin ∧ pack.header.id2 = s2cUpdUserState

instance (pack : HXMessagePackage) : Decidable (IsList pack) := inferInstanceAs (Decidable (_ ∧ _))

def Spoken (pack : HXMessagePackage) : Prop := IsList pack ∨ IsRequest pack ∨ IsState pack

/-- What is transmitted of the package is a list of profiles that contains `info`. -/
def Lists (pack : HXMessagePackage) (info : ProfileInfo) : Prop :=
  IsList pack ∧ ∃ infos : List ProfileInfo,
    pack.data.load pack.bodyLength = infos.flatMap ProfileInfo.bytes ∧ info ∈ infos

def Seated (ply : Player) : Prop := 0 < ply.mSeatNumber

instance (ply : Player) : Decidable (Seated ply) := inferInstanceAs (Decidable (_ < _))

/-! ## What the runs are about -/

/-- The messages of the clients: it connects under an id no other has, it tells a
positive seat, or it has seen the external players. At most 250 are seated. -/
def Allowed (s : State) : Event → Prop
  | .client a pack _ => a ∈ s.servers ∧ (
      (pack.header.id = idConnect ∧ pack.mLinkid.sid ∉ (s.players a).map fun ply => ply.mLinkID.sid) ∨
      (pack.header.id = idUserLogin ∧ pack.header.id2 = c2sTellSeatNum ∧
        pack.mLinkid ∈ (s.players a).map Player.mLinkID ∧
        (∃ seatNum ∈ (bodyBlock pack 4).toOption, 0 < int32OfBytes seatNum.bytes) ∧
        ((s.players a).filter fun ply => Seated ply ∨ ply.mLinkID = pack.mLinkid).length ≤ 250) ∨
      (pack.header.id = idGlobalNotify ∧ pack.header.id2 = c2sSeenExternal))
  | .center a _ => a ∈ s.servers
  | .external a => a ∈ s.servers

/-- A list of `b` with `info` is on its way to `a`, or a request for one to `b`. -/
def Coming (s : State) (a b : LinkID) (info : ProfileInfo) : Prop :=
  (∃ c ∈ s.servers, c ≠ b ∧ ∃ pack ∈ (s.scenes c).wires.outbox, IsRequest pack) ∨
  (∃ pack ∈ s.inbox b, IsRequest pack) ∨
  (∃ pack ∈ (s.scenes b).wires.outbox, Lists pack info) ∨
  ∃ pack ∈ s.inbox a, Lists pack info

/-- A player that tells its seat at a server that is not visible yet has been sent,
or will be, the seated players of the others that are in a list the server has
handled. -/
def Told (s : State) : Event → Prop
  | .client a pack _ =>
    pack.header.id = idUserLogin → (s.scenes a).manager.userVisibleFlag = false →
      ∀ b ∈ s.servers, b ≠ a → ∀ q ∈ s.players b, Seated q →
        (∃ list ∈ (s.scenes a).received, Lists list q.mProfileInfo) →
        Coming s a b q.mProfileInfo ∨
          ∃ list, (pack.mLinkid, Outgoing.package list) ∈ (s.scenes a).wires.sent ∧
            Lists list q.mProfileInfo
  | _ => True

def Settled (s : State) : Prop :=
  ∀ a ∈ s.servers, (s.scenes a).wires.outbox = [] ∧ s.inbox a = []

/-- Every player that has told its seat has been sent a list with each seated
player of each other server. -/
def AllListed (s : State) : Prop :=
  ∀ a ∈ s.servers, ∀ p ∈ s.players a, Seated p → ∀ b ∈ s.servers, b ≠ a →
    ∀ q ∈ s.players b, Seated q →
      ∃ pack, (p.mLinkID, Outgoing.package pack) ∈ (s.scenes a).wires.sent ∧ Lists pack q.mProfileInfo

/-! ## What the handlers do

`Adds` says what a call adds to the outbox; to the players it only adds. -/

structure Adds (w w' : Wires) (more : List HXMessagePackage) : Prop where
  outbox : w'.outbox = w.outbox ++ more
  sent : w.sent ⊆ w'.sent

section Sends
variable {w w' w₁ : Wires} {more rest : List HXMessagePackage} {m : PlayerManager}

theorem Adds.refl (w : Wires) : Adds w w [] := ⟨(List.append_nil _).symm, fun _ h => h⟩

theorem Adds.trans (h : Adds w w₁ more) (h' : Adds w₁ w' rest) : Adds w w' (more ++ rest) := by
  constructor
  · rw [h'.outbox, h.outbox, List.append_assoc]
  · exact fun x hx => h'.sent (h.sent hx)

theorem adds_send (w : Wires) (linkID : LinkID) (msg : Outgoing) :
    Adds w (downlink.send w linkID msg).2 [] :=
  ⟨(List.append_nil _).symm, List.subset_append_left _ _⟩

theorem adds_sendCenter (w : Wires) (id id2 : UInt16) {bytes : List UInt8}
    (h : bytes.length ≤ maxBodyLength) :
    Adds w (downlink.sendCenter w id id2 bytes).2
      [HXMessagePackage.filled LinkID.zero id id2 bytes h] := by
  unfold downlink
  dsimp only
  rw [dif_pos h]
  exact ⟨rfl, fun _ h => h⟩

theorem adds_sendCmd {linkID : LinkID} {msgID cmdID : UInt16} {data : List UInt8} {out : Bool × Wires}
    (h : sendCmd downlink linkID msgID cmdID data w = .ok out) : Adds w out.2 [] := by
  unfold sendCmd at h
  obtain ⟨pack, -, h⟩ := bind_eq_ok.mp h
  obtain rfl := Except.ok.inj h
  exact adds_send w linkID _

theorem adds_sendCmdTo {players : List Player} {msgID cmdID : UInt16} {data : List UInt8}
    (h : sendCmdTo downlink players msgID cmdID data w = .ok w') : Adds w w' [] := by
  induction players generalizing w with
  | nil =>
    obtain rfl := Except.ok.inj h
    exact Adds.refl w
  | cons ply players ih =>
    rw [sendCmdTo, List.foldlM_cons] at h
    obtain ⟨w₁, hfirst, h⟩ := bind_eq_ok.mp h
    obtain ⟨sent, hsent, hfirst⟩ := bind_eq_ok.mp hfirst
    obtain rfl := Except.ok.inj hfirst
    exact (adds_sendCmd hsent).trans (ih h)

theorem adds_sendClientList {linkID : LinkID} (h : m.sendClientList downlink linkID w = .ok w') :
    Adds w w' [] := by
  unfold sendClientList at h
  dsimp only at h
  split_ifs at h
  · obtain rfl := Except.ok.inj h
    exact Adds.refl w
  · obtain ⟨sent, hsent, h⟩ := bind_eq_ok.mp h
    obtain rfl := Except.ok.inj h
    exact adds_sendCmd hsent

/-- The state of a player goes to the center server only from a visible server. -/
theorem adds_broadcastUserState {plyId : Nat} {userState : Int32}
    (h : m.broadcastUserState downlink plyId idUserLogin userState w = .ok w') :
    ∃ more, Adds w w' more ∧ (∀ pack ∈ more, IsState pack) ∧ (m.userVisibleFlag = false → more = []) := by
  unfold broadcastUserState at h
  cases hply : m.findPlayer plyId with
  | none =>
    rw [hply] at h
    obtain rfl := Except.ok.inj h
    exact ⟨[], Adds.refl w, by simp, fun _ => rfl⟩
  | some ply =>
    simp only [hply] at h
    split_ifs at h with hvip hvisible
    · obtain rfl := Except.ok.inj h
      exact ⟨[], Adds.refl w, by simp, fun _ => rfl⟩
    · obtain ⟨w₁, hsent, h⟩ := bind_eq_ok.mp h
      obtain rfl := Except.ok.inj h
      have hfit := fits_state m.mSceneServerID ply.mSeatNumber userState
      refine ⟨_, (adds_sendCmdTo hsent).trans (adds_sendCenter w₁ idUserLogin s2cUpdUserState hfit),
        ?_, ?_⟩
      · simp [IsState, HXMessagePackage.filled]
      · simp [hvisible]
    · obtain ⟨w₁, hsent, h⟩ := bind_eq_ok.mp h
      obtain rfl := Except.ok.inj h
      exact ⟨[], adds_sendCmdTo hsent, by simp, fun _ => rfl⟩

end Sends

/-! ## The lists

250 profiles fit in the buffer. -/

section Lists
variable {players : List Player} {count : Nat} {w w' : Wires} {m : PlayerManager}

structure Roll (players : List Player) : Prop where
  ids : ∀ ply ∈ players, ply.mPlyID = ply.mLinkID.sid.toNat
  vips : ∀ ply ∈ players, ply.mUserType = vip
  nodup : (players.map fun ply => ply.mLinkID.sid).Nodup
  seats : (players.filter Seated).length ≤ 250

theorem clientList_eq (hvips : ∀ ply ∈ players, ply.mUserType = vip)
    (hseats : count + (players.filter Seated).length ≤ 250) : clientList count players =
      ((players.filter Seated).map Player.mProfileInfo).flatMap ProfileInfo.bytes := by
  induction players generalizing count with
  | nil => simp [clientList]
  | cons ply players ih =>
    have hvip := hvips ply List.mem_cons_self
    have hrest : ∀ ply ∈ players, ply.mUserType = vip := fun q hq => hvips q (List.mem_cons_of_mem _ hq)
    have hsize : ProfileInfo.size = 131 := rfl
    have hmax : maxBodyLength = 32768 := rfl
    unfold clientList
    by_cases hseated : Seated ply
    · simp only [List.filter_cons, hseated, decide_true, if_true, List.length_cons] at hseats ⊢
      have hroom : ¬maxBodyLength - count * ProfileInfo.size < ProfileInfo.size := by
        rw [hmax, hsize]
        omega
      rw [if_neg hroom, if_pos ⟨hvip, hseated⟩, ih hrest (by omega)]
      simp
    · simp only [List.filter_cons, hseated, decide_false, Bool.false_eq_true, if_false] at hseats ⊢
      by_cases hfull : maxBodyLength - count * ProfileInfo.size < ProfileInfo.size
      · have hnone : (players.filter Seated).length = 0 := by
          rw [hmax, hsize] at hfull
          omega
        rw [if_pos hfull, List.length_eq_zero_iff.mp hnone]
        rfl
      · rw [if_neg hfull, if_neg fun h => hseated h.2, ih hrest hseats]

def Listing (players : List Player) (more : List HXMessagePackage) : Prop :=
  ∀ q ∈ players, Seated q → ∃ pack ∈ more, Lists pack q.mProfileInfo

theorem Listing.append (h : Listing players more) (rest : List HXMessagePackage) :
    Listing players (more ++ rest) := by
  intro q hq hseated
  obtain ⟨pack, hpack, hlists⟩ := h q hq hseated
  exact ⟨pack, List.mem_append_left _ hpack, hlists⟩

theorem adds_sendClientListToCenterServer (hroll : Roll m.players) (w : Wires) :
    ∃ more, Adds w (m.sendClientListToCenterServer downlink w) more ∧ (∀ pack ∈ more, IsList pack) ∧
      Listing m.players more := by
  have hlist := @clientList_eq m.players 0 hroll.vips (by simpa using hroll.seats)
  have hfit : (clientList 0 m.players).length ≤ maxBodyLength := by
    simpa using length_clientList m.players 0
  have hmem : ∀ q ∈ m.players, Seated q →
      q.mProfileInfo ∈ (m.players.filter Seated).map Player.mProfileInfo := by
    intro q hq hseated
    exact List.mem_map_of_mem (List.mem_filter.mpr ⟨hq, by simpa using hseated⟩)
  unfold sendClientListToCenterServer
  dsimp only
  split_ifs with hempty
  · refine ⟨[], Adds.refl w, by simp, ?_⟩
    intro q hq hseated
    rw [hempty] at hlist
    have hnil := List.flatMap_eq_nil_iff.mp hlist.symm _ (hmem q hq hseated)
    have hlength := congrArg List.length hnil
    simp [ProfileInfo.size] at hlength
  · refine ⟨_, adds_sendCenter w idGlobalNotify s2cClientListExternal hfit, ?_, ?_⟩
    · simp [IsList, HXMessagePackage.filled]
    · intro q hq hseated
      refine ⟨_, List.mem_singleton_self _, ⟨rfl, rfl⟩, _, ?_, hmem q hq hseated⟩
      rw [← HXMessagePackage.bodyBytes_of_none rfl, HXMessagePackage.bodyBytes_filled]
      exact hlist

end Lists

section Client
variable {m m' : PlayerManager} {w w' : Wires} {pack : HXMessagePackage} {given : SceneServer.Given}

structure Asks (players : List Player) (more : List HXMessagePackage) : Prop where
  request : ∃ pack ∈ more, IsRequest pack
  listing : Listing players more

theorem adds_ask (hroll : Roll m.players) (w : Wires) :
    ∃ more, Adds w (downlink.sendCenter (m.sendClientListToCenterServer downlink w) idGlobalNotify
        s2sReqUsrList []).2 more ∧ (∀ pack ∈ more, Spoken pack) ∧ Asks m.players more := by
  obtain ⟨more, hadds, hlists, hlisting⟩ := adds_sendClientListToCenterServer hroll w
  have hrequest := @adds_sendCenter (m.sendClientListToCenterServer downlink w) idGlobalNotify
    s2sReqUsrList [] (Nat.zero_le _)
  refine ⟨_, hadds.trans hrequest, ?_,
    ⟨⟨_, List.mem_append_right _ (List.mem_singleton_self _), rfl, rfl⟩, hlisting.append _⟩⟩
  intro pack hpack
  rcases List.mem_append.mp hpack with hpack | hpack
  · exact Or.inl (hlists pack hpack)
  · rw [List.mem_singleton.mp hpack]
    exact Or.inr (Or.inl ⟨rfl, rfl⟩)

theorem handle_connect (hid : pack.header.id = idConnect)
    (h : SceneServer.handle downlink m pack given w = .ok (m', w')) :
    Adds w w' [] ∧ m'.userVisibleFlag = m.userVisibleFlag ∧ ∃ ply, m'.players = m.players ++ [ply] ∧
      ply.mLinkID = pack.mLinkid ∧ ply.mPlyID = pack.mLinkid.sid.toNat ∧ ply.mUserType = vip ∧
      ¬Seated ply := by
  rw [SceneServer.handle, if_pos hid, SceneServer.handleConnect] at h
  obtain ⟨w₁, hsent, h⟩ := bind_eq_ok.mp h
  obtain ⟨rfl, rfl⟩ := Prod.mk.inj (Except.ok.inj h)
  exact ⟨adds_sendClientList hsent, rfl, _, rfl, rfl, rfl, rfl, Int32.lt_irrefl⟩

theorem handle_tells (hid : pack.header.id = idUserLogin) (hcmd : pack.header.id2 = c2sTellSeatNum) :
    SceneServer.handle downlink m pack given w = SceneServer.handleTellSeatNum downlink m pack w := by
  rw [handle_userLogin hid]
  unfold SceneServer.handleUserLogin
  rw [if_pos hcmd]

theorem handle_seen (hid : pack.header.id = idGlobalNotify) (hcmd : pack.header.id2 = c2sSeenExternal)
    (hroll : Roll m.players) (h : SceneServer.handle downlink m pack given w = .ok (m', w')) :
    m' = { m with userVisibleFlag := true } ∧
    ∃ more, Adds w w' more ∧ (∀ pack ∈ more, Spoken pack) ∧ Asks m.players more := by
  rw [handle_globalNotify hid, SceneServer.handleGlobalNotify] at h
  simp only [hcmd] at h
  obtain ⟨rfl, rfl⟩ := Prod.mk.inj (Except.ok.inj h)
  exact ⟨rfl, @adds_ask { m with userVisibleFlag := true } hroll w⟩

/-- A server that is not visible says nothing when a seat is told; a visible one
sends its list and asks for the others. -/
theorem handle_tellSeatNum (hid : pack.header.id = idUserLogin) (hcmd : pack.header.id2 = c2sTellSeatNum)
    {seatNum : Block 4} (hseat : bodyBlock pack 4 = .ok seatNum)
    (hroll : Roll (m.updatePlayerSeatNumber pack.mLinkid.sid.toNat (int32OfBytes seatNum.bytes)).2.players)
    (h : SceneServer.handle downlink m pack given w = .ok (m', w')) :
    m' = (m.updatePlayerSeatNumber pack.mLinkid.sid.toNat (int32OfBytes seatNum.bytes)).2 ∧
    ∃ more, Adds w w' more ∧ (∀ pack ∈ more, Spoken pack) ∧
      if m.userVisibleFlag then Asks m'.players more else more = [] := by
  rw [handle_tells hid hcmd, SceneServer.handleTellSeatNum, hseat, ok_bind] at h
  generalize hupdated :
    m.updatePlayerSeatNumber pack.mLinkid.sid.toNat (int32OfBytes seatNum.bytes) = updated at h hroll ⊢
  have hflag : updated.2.userVisibleFlag = m.userVisibleFlag := by
    rw [← hupdated]
    rfl
  obtain ⟨w₁, htold, h⟩ := bind_eq_ok.mp h
  obtain ⟨rfl, rfl⟩ := Prod.mk.inj (Except.ok.inj h)
  refine ⟨rfl, ?_⟩
  obtain ⟨more, hadds, hstates, hquiet⟩ : ∃ more, Adds w w₁ more ∧ (∀ pack ∈ more, IsState pack) ∧
      (updated.2.userVisibleFlag = false → more = []) := by
    split_ifs at htold
    · exact adds_broadcastUserState htold
    · obtain rfl := Except.ok.inj htold
      exact ⟨[], Adds.refl _, by simp, fun _ => rfl⟩
  rw [← hflag]
  split_ifs with hvisible
  · obtain ⟨rest, hrest, hspoken, hasks⟩ := adds_ask hroll w₁
    refine ⟨more ++ rest, hadds.trans hrest, ?_, ?_, ?_⟩
    · intro p hp
      rcases List.mem_append.mp hp with hp | hp
      · exact Or.inr (Or.inr (hstates p hp))
      · exact hspoken p hp
    · obtain ⟨p, hp, hrequest⟩ := hasks.request
      exact ⟨p, List.mem_append_right _ hp, hrequest⟩
    · intro q hq hseated
      obtain ⟨p, hp, hlists⟩ := hasks.listing q hq hseated
      exact ⟨p, List.mem_append_right _ hp, hlists⟩
  · rw [hquiet (by simpa using hvisible)] at hadds
    exact ⟨[], hadds, by simp, rfl⟩

end Client

section Center
variable {z : Zlib} {pack y : HXMessagePackage} {a b : LinkID}

theorem mem_sendEach_uplink {links : List LinkID} {inbox : LinkID → List HXMessagePackage} :
    y ∈ uplink.sendEach (.package pack) links inbox b ↔
      y ∈ inbox b ∨ b ∈ links ∧ y = arriving LinkID.zero pack := by
  induction links generalizing inbox with
  | nil => simp [Network.sendEach]
  | cons l links ih =>
    have hsend : (uplink.send inbox l (.package pack)).2 b =
        if b = l then inbox l ++ [arriving LinkID.zero pack] else inbox b := by
      show Function.update inbox l _ b = _
      rw [Function.update_apply]
    unfold Network.sendEach at ih ⊢
    rw [List.foldl_cons, ih, hsend]
    by_cases hb : b = l
    · subst hb
      simp
      tauto
    · simp [hb]

theorem center_forwards {center : UserManager} {given : CenterServer.Given}
    {inbox : LinkID → List HXMessagePackage} (hspoken : Spoken pack) :
    CenterServer.handle uplink z center (arriving a pack) given inbox =
      .ok (center, center.forwardMsg uplink a (arriving a pack) inbox) := by
  have hheader : (arriving a pack).header = pack.header := rfl
  have hlink : (arriving a pack).mLinkid = a := rfl
  unfold CenterServer.handle CenterServer.handleGlobalNotify
  rcases hspoken with ⟨hid, hcmd⟩ | ⟨hid, hcmd⟩ | ⟨hid, hcmd⟩ <;>
    simp only [hheader, hlink, hid, hcmd] <;> rfl

theorem handle_center {center center' : UserManager} {given : CenterServer.Given}
    {inbox inbox' : LinkID → List HXMessagePackage} (hspoken : Spoken pack)
    (h : CenterServer.handle uplink z center (arriving a pack) given inbox = .ok (center', inbox')) :
    center' = center ∧ ∀ b y, y ∈ inbox' b ↔ y ∈ inbox b ∨
      (b ∈ center.users.map User.mLinkID ∧ a.sid ≠ b.sid) ∧
        y = arriving LinkID.zero (arriving a pack) := by
  rw [center_forwards hspoken] at h
  obtain ⟨rfl, rfl⟩ := Prod.mk.inj (Except.ok.inj h)
  refine ⟨rfl, ?_⟩
  intro b y
  rw [Identity.forwardMsg_eq, mem_sendEach_uplink, List.mem_filter, decide_eq_true_eq]

theorem sendEach_downlink {links : List LinkID} {w : Wires} :
    downlink.sendEach (.package pack) links w =
      { w with sent := w.sent ++ links.map fun l => (l, Outgoing.package pack) } := by
  induction links generalizing w with
  | nil => simp [Network.sendEach]
  | cons l links ih =>
    unfold Network.sendEach at ih ⊢
    rw [List.foldl_cons, ih]
    simp [downlink]

variable {m m' : PlayerManager} {w w' : Wires}

theorem handleCenter_answers (hrequest : IsRequest pack) :
    SceneServer.handleCenter downlink z m pack w =
      .ok ({ m with userVisibleFlag := true },
        { m with userVisibleFlag := true }.sendClientListToCenterServer downlink w) := by
  obtain ⟨hid, hcmd⟩ := hrequest
  rw [SceneServer.handleCenter, if_pos hid, SceneServer.handleCenterNotify]
  simp only [hcmd]
  rfl

theorem handleCenter_request (hrequest : IsRequest pack) (hroll : Roll m.players)
    (h : SceneServer.handleCenter downlink z m pack w = .ok (m', w')) :
    m' = { m with userVisibleFlag := true } ∧
    ∃ more, Adds w w' more ∧ (∀ p ∈ more, IsList p) ∧ Listing m.players more := by
  rw [handleCenter_answers hrequest] at h
  obtain ⟨rfl, rfl⟩ := Prod.mk.inj (Except.ok.inj h)
  exact ⟨rfl, @adds_sendClientListToCenterServer { m with userVisibleFlag := true } hroll w⟩

/-- Anything else is passed on to every player. -/
theorem handleCenter_broadcasts (hspoken : IsList pack ∨ IsState pack) :
    SceneServer.handleCenter downlink z m pack w =
      .ok (m, downlink.sendEach (.package pack) (m.players.map Player.mLinkID) w) := by
  unfold SceneServer.handleCenter SceneServer.handleCenterNotify
  rcases hspoken with ⟨hid, hcmd⟩ | ⟨hid, hcmd⟩ <;> simp only [hid, hcmd] <;> rfl

theorem handleCenter_passes (hspoken : IsList pack ∨ IsState pack)
    (h : SceneServer.handleCenter downlink z m pack w = .ok (m', w')) :
    m' = m ∧ Adds w w' [] ∧ ∀ ply ∈ m.players, (ply.mLinkID, Outgoing.package pack) ∈ w'.sent := by
  rw [handleCenter_broadcasts hspoken] at h
  obtain ⟨rfl, rfl⟩ := Prod.mk.inj (Except.ok.inj h)
  rw [sendEach_downlink]
  refine ⟨rfl, ⟨(List.append_nil _).symm, List.subset_append_left _ _⟩, ?_⟩
  intro ply hply
  exact List.mem_append_right _ (List.mem_map.mpr ⟨_, List.mem_map_of_mem hply, rfl⟩)

end Center

section Tell
variable {players : List Player} {linkID : LinkID} {seat : Int32} {ply : Player}

def told (linkID : LinkID) (seat : Int32) (ply : Player) : Player :=
  if ply.mLinkID = linkID then ply.setSeatNumber seat else ply

theorem Roll.eq_of_sid (h : Roll players) {q : Player} (hply : ply ∈ players) (hq : q ∈ players)
    (hsid : ply.mLinkID.sid = q.mLinkID.sid) : ply = q :=
  List.inj_on_of_nodup_map h.nodup hply hq hsid

theorem Roll.modify_eq (h : Roll players) (hlink : linkID ∈ players.map Player.mLinkID) :
    Roster.modify Player.mPlyID linkID.sid.toNat (·.setSeatNumber seat) players =
      players.map (told linkID seat) := by
  have hids : players.map Player.mPlyID = (players.map fun ply => ply.mLinkID.sid).map UInt16.toNat := by
    rw [List.map_map]
    exact List.map_congr_left h.ids
  have hnodup : (players.map Player.mPlyID).Nodup := by
    rw [hids]
    exact h.nodup.map fun _ _ hsids => UInt16.toNat_inj.mp hsids
  obtain ⟨q, hq, rfl⟩ := List.mem_map.mp hlink
  rw [Roster.modify_eq_map _ hnodup]
  apply List.map_congr_left
  intro ply hply
  unfold told
  by_cases hlink : ply.mLinkID = q.mLinkID
  · rw [if_pos hlink, if_pos (by rw [h.ids ply hply, hlink])]
  · rw [if_neg hlink, if_neg]
    intro hid
    apply hlink
    rw [h.ids ply hply] at hid
    rw [h.eq_of_sid hply hq (UInt16.toNat_inj.mp hid)]

theorem mLinkID_told : (told linkID seat ply).mLinkID = ply.mLinkID := by
  unfold told
  split_ifs <;> rfl

theorem Roll.told (h : Roll players)
    (hseats : (players.filter fun ply => Seated ply ∨ ply.mLinkID = linkID).length ≤ 250) :
    Roll (players.map (told linkID seat)) := by
  refine ⟨?_, ?_, ?_, ?_⟩
  · simp only [List.forall_mem_map]
    intro ply hply
    rw [mLinkID_told, ← h.ids ply hply]
    unfold ExternalLists.told
    split_ifs <;> rfl
  · simp only [List.forall_mem_map]
    intro ply hply
    rw [← h.vips ply hply]
    unfold ExternalLists.told
    split_ifs <;> rfl
  · rw [List.map_map]
    have hsame : (fun ply => ply.mLinkID.sid) ∘ ExternalLists.told linkID seat =
        fun ply : Player => ply.mLinkID.sid := by
      funext ply
      exact congrArg LinkID.sid mLinkID_told
    rw [hsame]
    exact h.nodup
  · refine le_trans ?_ hseats
    rw [← List.countP_eq_length_filter, ← List.countP_eq_length_filter, List.countP_map]
    apply List.countP_mono_left
    intro ply _ hseated
    simp only [Function.comp_apply, decide_eq_true_eq] at hseated ⊢
    by_cases hlink : ply.mLinkID = linkID
    · exact Or.inr hlink
    · unfold ExternalLists.told at hseated
      rw [if_neg hlink] at hseated
      exact Or.inl hseated

end Tell

end HXService.ExternalLists
