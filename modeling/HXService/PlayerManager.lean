import HXService.Lib.Roster
import HXService.FlvStream

/-! The players of a scene server (`Player`, `PlayerManager`). -/

namespace HXService
open Bytes

structure Player where
  mPlyID : Nat
  bBoundUser : Bool
  mUserState : Int32
  mProfileInfo : ProfileInfo
  transInfo : TransformInfo
  mSeatNumber : Int32
  mLinkID : LinkID
  mFlvSeqHeaderFlag : Bool
  mUserType : Int32
  deriving DecidableEq

namespace Player

-- `mFlvSeqHeaderFlag` and the members of `transInfo` but `update` are indeterminate
def new (linkID : LinkID) (mFlvSeqHeaderFlag : Bool) (transInfo : TransformInfo) : Player where
  mPlyID := linkID.sid.toNat
  bBoundUser := false
  mUserState := stateInitial
  mProfileInfo := ⟨Block.zeros 33, 0, Block.zeros faceModelSize⟩
  transInfo := { transInfo with update := false }
  mSeatNumber := 0
  mLinkID := linkID
  mFlvSeqHeaderFlag
  mUserType := vip

-- a `memcpy` of 32 of the 33 bytes
def setSceneServerID (ply : Player) (pSceneSvrID : Block 32) : Player :=
  { ply with mProfileInfo := { ply.mProfileInfo with
    sceneServerID := ply.mProfileInfo.sceneServerID.store pSceneSvrID.bytes
      (by rw [pSceneSvrID.size_eq]; omega) } }

def setSeatNumber (ply : Player) (seatNum : Int32) : Player :=
  { ply with mSeatNumber := seatNum, mProfileInfo := { ply.mProfileInfo with mSeatNumber := seatNum } }

end Player

structure PlayerManager where
  players : List Player
  bigDataPkt : HXBigMessageQueue
  flvSeqHeaderMap : FlvSeqHeaderMap
  flvSeqHeaderChange : Bool
  userVisibleFlag : Bool
  mSceneServerID : Block 32

namespace PlayerManager

-- the constructor leaves `flvSeqHeaderChange` indeterminate
def new (flvSeqHeaderChange : Bool) (mSceneServerID : Block 32) : PlayerManager where
  players := []
  bigDataPkt := createBigPackage
  flvSeqHeaderMap := FlvSeqHeaderMap.empty
  flvSeqHeaderChange
  userVisibleFlag := false
  mSceneServerID

def addPlayer (m : PlayerManager) (ply : Player) : PlayerManager :=
  { m with players := m.players ++ [ply] }

def findPlayer (m : PlayerManager) (plyId : Nat) : Option Player :=
  Roster.find Player.mPlyID plyId m.players

def findPlayerBySeatNumber (m : PlayerManager) (seatNum : Int32) : Option Player :=
  Roster.find Player.mSeatNumber seatNum m.players

def getFreePlayer (m : PlayerManager) : Option Player :=
  m.players.find? fun ply => !ply.bBoundUser && ply.mUserType = vip

def deletePlayer (m : PlayerManager) (plyId : Nat) : PlayerManager :=
  { m with players := Roster.remove Player.mPlyID plyId m.players }

/-! ## Updates

Each changes the first player with the id and reports whether there is one. -/

def modifyPlayer (m : PlayerManager) (plyId : Nat) (f : Player → Player) : Bool × PlayerManager :=
  ((m.findPlayer plyId).isSome, { m with players := Roster.modify Player.mPlyID plyId f m.players })

-- `operator=` leaves `update` alone; the next line sets it
def updatePlayerTransform (m : PlayerManager) (plyId : Nat) (transInfo : TransformInfo) :
    PlayerManager :=
  (m.modifyPlayer plyId ({ · with transInfo := { transInfo with update := true } })).2

def updatePlayerSeatNumber (m : PlayerManager) (plyId : Nat) (seatNumber : Int32) :
    Bool × PlayerManager :=
  m.modifyPlayer plyId (·.setSeatNumber seatNumber)

def updateUserType (m : PlayerManager) (plyId : Nat) (userType : Int32) : Bool × PlayerManager :=
  m.modifyPlayer plyId ({ · with mUserType := userType })

def cacheFlvSeqHeaderData (m : PlayerManager) (data : List UInt8) : PlayerManager :=
  let cached := cacheFlvSeqHeader m.flvSeqHeaderMap m.flvSeqHeaderChange data
  { m with flvSeqHeaderMap := cached.1, flvSeqHeaderChange := cached.2 }

section Send
variable {σ : Type} (net : Network σ)

def sendCmd (linkID : LinkID) (msgID cmdID : UInt16) (data : List UInt8) (s : σ) :
    Checked (Bool × σ) := do
  let msgPackage ← Network.cmdPackage msgID cmdID data
  pure (net.send s linkID (.package msgPackage))

def sendMsg (m : PlayerManager) (msgPackage : HXMessagePackage) (s : σ) : Bool × σ :=
  (true, net.sendEach (.package msgPackage) (m.players.map Player.mLinkID) s)

def sendCmdTo (players : List Player) (msgID cmdID : UInt16) (data : List UInt8) (s : σ) : Checked σ :=
  players.foldlM (fun s ply => do
    let sent ← sendCmd net ply.mLinkID msgID cmdID data s
    pure sent.2) s

/-- The profiles of the seated VIP players, as far as the buffer has room. -/
def clientList : Nat → List Player → List UInt8
  | _, [] => []
  | count, ply :: rest =>
    if maxBodyLength - count * ProfileInfo.size < ProfileInfo.size then []
    else if ply.mUserType = vip ∧ 0 < ply.mSeatNumber then
      ply.mProfileInfo.bytes ++ clientList (count + 1) rest
    else clientList count rest

def sendClientList (m : PlayerManager) (linkID : LinkID) (s : σ) : Checked σ :=
  let list := clientList 0 m.players
  if list = [] then pure s
  else do
    let sent ← sendCmd net linkID idUserNotify s2cClientList list s
    pure sent.2

def sendClientListToCenterServer (m : PlayerManager) (s : σ) : σ :=
  let list := clientList 0 m.players
  if list = [] then s else (net.sendCenter s idGlobalNotify s2cClientListExternal list).2

-- a scene server id, its terminating zero, and what follows
def externalInfo (sceneServerID : Block 32) (rest : List UInt8) : List UInt8 :=
  sceneServerID.bytes ++ [0] ++ rest

/-- `SendPlayerLeaveMsg`. After the loop `ply` is the last player, whose scene
server id goes to the center server. -/
def sendPlayerLeaveMsg (m : PlayerManager) (plyId : Nat) (s : σ) : Checked (Bool × PlayerManager × σ) :=
  match m.findPlayer plyId with
  | none => pure (false, m, s)
  | some ply => do
    let seatNum := int32Bytes ply.mSeatNumber
    let s ← sendCmdTo net m.players idUserNotify s2cPlyLeave seatNum s
    let last := m.players.getLastD ply
    let s := if m.userVisibleFlag then
      (net.sendCenter s idGlobalNotify s2cUserLeaveExternal
        (last.mProfileInfo.sceneServerID.load 32 ++ [0] ++ seatNum)).2 else s
    pure (true, m.deletePlayer plyId, s)

/-- `BindFaceModeWithSeatNumber`; the id is what is stored through `plyId`. `faceModel`
is read only when there is a player to store it in. -/
def bindFaceModeWithSeatNumber (m : PlayerManager) (linkID : LinkID)
    (faceModel : Checked (Block faceModelSize)) (s : σ) : Checked (Option Nat × PlayerManager × σ) :=
  match m.getFreePlayer with
  | none => do
    let sent ← sendCmd net linkID idError noAvailableSeatNumber [] s
    pure (none, m, sent.2)
  | some ply => do
    let sent ← sendCmd net linkID idUserLogin s2cRspSeatNum (int32Bytes ply.mSeatNumber) s
    let faceModel ← faceModel
    let i := m.players.findIdx fun ply => !ply.bBoundUser && ply.mUserType = vip
    let bound := { ply with
      mProfileInfo := { ply.mProfileInfo with mFaceModel := faceModel }, bBoundUser := true }
    pure (some ply.mPlyID, { m with players := m.players.set i bound }, sent.2)

def sendUserReadyMsg (m : PlayerManager) (seatNumber : Int32) (s : σ) : Checked σ :=
  match m.findPlayerBySeatNumber seatNumber with
  | none => pure s
  | some ply =>
    if ply.mUserType ≠ vip then pure s
    else sendCmdTo net m.players idUserLogin s2cPlyReady ply.mProfileInfo.bytes s

def broadcastUserState (m : PlayerManager) (plyId : Nat) (msgID : UInt16) (userState : Int32) (s : σ) :
    Checked σ :=
  match m.findPlayer plyId with
  | none => pure s
  | some ply =>
    if ply.mUserType ≠ vip then pure s
    else do
      let info := externalInfo m.mSceneServerID (int32Bytes ply.mSeatNumber ++ int32Bytes userState)
      let s ← sendCmdTo net m.players msgID s2cUpdUserState info s
      pure (if m.userVisibleFlag then (net.sendCenter s msgID s2cUpdUserState info).2 else s)

def broadcastExternalUserState (m : PlayerManager) (pack : HXMessagePackage) (s : σ) : σ :=
  (m.sendMsg net pack s).2

def broadcastControlCmd (m : PlayerManager) (msgID cmdID : UInt16) (s : σ) : Checked σ :=
  sendCmdTo net (m.players.filter (·.mUserType ≠ capsule)) msgID cmdID [] s

def receiving : Receiving Player where
  linkID := Player.mLinkID
  skipped _ := false
  flag := Player.mFlvSeqHeaderFlag
  setFlag ply := { ply with mFlvSeqHeaderFlag := true }

def sendFlvPackage (z : Zlib) (m : PlayerManager) (bigDataPkt : HXBigMessageQueue) (s : σ) :
    Checked (PlayerManager × σ) := do
  let out ← sendFlvStreamTo net z receiving m.flvSeqHeaderMap (fun _ _ => []) bigDataPkt 0
    m.flvSeqHeaderChange s m.players
  pure ({ m with players := out.1, flvSeqHeaderChange := out.2.1, bigDataPkt }, out.2.2)

def sendFlvStream (z : Zlib) (m : PlayerManager) (data : List UInt8) (s : σ) :
    Checked (PlayerManager × σ) := do
  let bigDataPkt ← m.bigDataPkt.setBigPackage z idFLVStream 0 data 0
  m.sendFlvPackage net z bigDataPkt s

/-- `SendFlvStream(data, len)` with `len < 0`. -/
def sendFlvStreamBelow (z : Zlib) (m : PlayerManager) (len : Int32) (s : σ) :
    Checked (PlayerManager × σ) := do
  let bigDataPkt ← m.bigDataPkt.setBigPackageBelow idFLVStream 0 len
  m.sendFlvPackage net z bigDataPkt s

end Send
end PlayerManager
end HXService
