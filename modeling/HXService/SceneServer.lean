import HXService.PlayerManager

/-! The main loop of a scene server: what it does with one message of its local
clients, and with one of the center server. -/

namespace HXService.SceneServer
open Bytes PlayerManager

/-- What a message comes with from outside: the indeterminate members of a
player it creates, and of the local `retPlyId`. -/
structure Given where
  mFlvSeqHeaderFlag : Bool
  transInfo : TransformInfo
  retPlyId : Int32

variable {σ : Type} (net : Network σ)

def handleConnect (m : PlayerManager) (linkID : LinkID) (given : Given) (s : σ) :
    Checked (PlayerManager × σ) := do
  let ply := (Player.new linkID given.mFlvSeqHeaderFlag given.transInfo).setSceneServerID
    m.mSceneServerID
  let m := m.addPlayer ply
  let s ← m.sendClientList net linkID s
  pure (m, s)

def handleGlobalNotify (m : PlayerManager) (pack : HXMessagePackage) (s : σ) :
    Checked (PlayerManager × σ) :=
  let plyId := pack.mLinkid.sid.toNat
  let cmdID := pack.header.id2
  let toCenter (cmd : UInt16) : PlayerManager × σ := (m, (net.sendCenter s idGlobalNotify cmd []).2)
  if cmdID = c2sBeginFlying then pure (toCenter s2cBeginFlying)
  else if cmdID = c2sPlayVideo then pure (toCenter s2cPlayVideo)
  else if cmdID = c2sStandUp then pure (toCenter s2cStandUp)
  else if cmdID = c2sWalk then pure (toCenter s2cWalk)
  else if cmdID = c2sPresentFlowers then do
    let s ← m.broadcastUserState net plyId idUserLogin statePresentFlowers s
    pure (m, s)
  else if cmdID = c2sStopPresentFlowers then do
    let s ← m.broadcastUserState net plyId idUserLogin stateStopPresentFlowers s
    pure (m, s)
  else if cmdID = c2sSeenExternal then
    let m := { m with userVisibleFlag := true }
    pure (m, (net.sendCenter (m.sendClientListToCenterServer net s) idGlobalNotify s2sReqUsrList []).2)
  else pure (m, s)

def handleTellSeatNum (m : PlayerManager) (pack : HXMessagePackage) (s : σ) :
    Checked (PlayerManager × σ) := do
  let plyId := pack.mLinkid.sid.toNat
  let seatNum ← bodyBlock pack 4
  let updated := m.updatePlayerSeatNumber plyId (int32OfBytes seatNum.bytes)
  let told : Checked σ :=
    if updated.1 then updated.2.broadcastUserState net plyId idUserLogin stateInitial s else pure s
  let s ← told
  pure (updated.2, if updated.2.userVisibleFlag then
    (net.sendCenter (updated.2.sendClientListToCenterServer net s) idGlobalNotify s2sReqUsrList []).2
    else s)

def handleTellUserProfile (m : PlayerManager) (pack : HXMessagePackage) (given : Given) (s : σ) :
    Checked (PlayerManager × σ) := do
  let bound ← m.bindFaceModeWithSeatNumber net pack.mLinkid (bodyBlock pack faceModelSize) s
  -- an id is the bit pattern of its `int`
  let retPlyId := bound.1.getD given.retPlyId.toUInt32.toNat
  let s ← bound.2.1.broadcastUserState net retPlyId idUserLogin stateEntering bound.2.2
  pure (bound.2.1, s)

def handleUserLogin (m : PlayerManager) (pack : HXMessagePackage) (given : Given) (s : σ) :
    Checked (PlayerManager × σ) :=
  let plyId := pack.mLinkid.sid.toNat
  let cmdID := pack.header.id2
  if cmdID = c2sTellSeatNum then handleTellSeatNum net m pack s
  else if cmdID = c2sTellUserType then do
    let userType ← bodyBlock pack 4
    pure ((m.updateUserType plyId (int32OfBytes userType.bytes)).2, s)
  else if cmdID = c2sTellUserProfile then handleTellUserProfile net m pack given s
  else if cmdID = c2sTellReady then do
    let seatNum ← bodyBlock pack 4
    let s ← m.sendUserReadyMsg net (int32OfBytes seatNum.bytes) s
    pure (m, s)
  else pure (m, s)

def handle (m : PlayerManager) (pack : HXMessagePackage) (given : Given) (s : σ) :
    Checked (PlayerManager × σ) :=
  let plyId := pack.mLinkid.sid.toNat
  if pack.header.id = idConnect then handleConnect net m pack.mLinkid given s
  else if pack.header.id = idDisconnect then do
    let left ← m.sendPlayerLeaveMsg net plyId s
    pure left.2
  else if pack.header.id = idGlobalNotify then handleGlobalNotify net m pack s
  else if pack.header.id = idUserLogin then handleUserLogin net m pack given s
  else if pack.header.id = idUserTransform then do
    -- `update`, the last byte, is not read
    let transInfo ← bodyBlock pack (TransformInfo.size - 1)
    pure (m.updatePlayerTransform plyId { TransformInfo.ofBytes transInfo.bytes with
      plyId := Int32.ofNat plyId }, s)
  else pure (m, s)

def handleCenterNotify (m : PlayerManager) (pack : HXMessagePackage) (s : σ) :
    Checked (PlayerManager × σ) :=
  let cmdID := pack.header.id2
  if cmdID ∈ [s2cBeginFlying, s2cPlayVideo, s2cStandUp, s2cWalk] then do
    let s ← m.broadcastControlCmd net idUserControl cmdID s
    pure (m, s)
  else if cmdID ∈ [s2cClientListExternal, s2cUserLeaveExternal] then pure (m, (m.sendMsg net pack s).2)
  else if cmdID = s2sReqUsrList then
    let m := { m with userVisibleFlag := true }
    pure (m, m.sendClientListToCenterServer net s)
  else pure (m, s)

def handleCenter (z : Zlib) (m : PlayerManager) (pack : HXMessagePackage) (s : σ) :
    Checked (PlayerManager × σ) :=
  if pack.header.id = idGlobalNotify then handleCenterNotify net m pack s
  else if pack.header.id = idUserLogin then
    pure (m, if pack.header.id2 = s2cUpdUserState then m.broadcastExternalUserState net pack s else s)
  else if pack.header.id = idGlobalTransform then pure (m, (m.sendMsg net pack s).2)
  else if pack.header.id = idFLVSequenceHeader then do
    let data ← bodyData pack
    pure (m.cacheFlvSeqHeaderData data, s)
  else if pack.header.id = idFLVStream then
    if pack.header.length.toInt < 0 then m.sendFlvStreamBelow net z pack.header.length s
    else do
      let data ← bodyBlock pack pack.bodyLength
      m.sendFlvStream net z data.bytes s
  else pure (m, s)

end HXService.SceneServer
