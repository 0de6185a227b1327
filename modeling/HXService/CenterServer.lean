import HXService.UserManager

/-! The main loop of the center server: what it does with one message of the
queue. -/

namespace HXService.CenterServer
open Bytes UserManager StreamTrailer

/-- What a message comes with from outside: the flag of a user it creates, and
the readings of the timer while it is handled. -/
structure Given where
  mFlvSeqHeaderFlag : Bool
  now : Nat → UInt64

variable {σ : Type} (net : Network σ) (z : Zlib)

def handleGlobalNotify (m : UserManager) (pack : HXMessagePackage) (s : σ) : σ :=
  if pack.header.id2 ∈ [s2cBeginFlying, s2cPlayVideo, s2cStandUp, s2cWalk] then
    m.forwardCommand net pack s
  else if pack.header.id2 ∈ [s2cClientListExternal, s2cUserLeaveExternal, s2sReqUsrList] then
    m.forwardMsg net pack.mLinkid pack s
  else s

/-- `ID_FLV_Stream`: the sender is marked, gets its time back, and the stream goes out.
A short body is read from in front of it on. -/
def handleFlvStream (m : UserManager) (pack : HXMessagePackage) (given : Given) (s : σ) :
    Checked (UserManager × σ) := do
  let _ ← bodyBlock pack pack.bodyLength
  if trailerAt pack.bodyLength < lowest pack then throw .outsideArray
  else do
    let mem := memoryOf pack
    let reback := trailer mem pack.bodyLength
    let m := m.setOBSStreamClient pack.mLinkid.sid.toNat
    let sent := net.send s pack.mLinkid (.data idFLVStreamReback 0 (leBytes 8 reback.dTimer.toNat))
    m.sendFlvStream net z mem pack.bodyLength given.now sent.2

def handle (m : UserManager) (pack : HXMessagePackage) (given : Given) (s : σ) :
    Checked (UserManager × σ) :=
  let userId := pack.mLinkid.sid.toNat
  if pack.header.id = idConnect then pure (m.addUser (User.new pack.mLinkid given.mFlvSeqHeaderFlag), s)
  else if pack.header.id = idDisconnect then pure ((m.deleteUser userId).2, s)
  else if pack.header.id = idUserLogin then
    pure (m, if pack.header.id2 = s2cUpdUserState then m.forwardMsg net pack.mLinkid pack s else s)
  else if pack.header.id = idGlobalNotify then pure (m, handleGlobalNotify net m pack s)
  else if pack.header.id = idGlobalTransform then pure (m, m.forwardMsg net pack.mLinkid pack s)
  else if pack.header.id = idUserTransform then do
    -- transInfo->plyId = userId, and nothing is done with it
    let _ ← bodyBlock pack 4
    pure (m, s)
  else if pack.header.id = idFLVStreamReback then do
    -- of the record only `dTimer` is read
    let data ← bodyBlock pack 8
    pure (m.onStreamReback userId data.bytes (given.now 0), s)
  else if pack.header.id = idFLVSequenceHeader then do
    let data ← bodyData pack
    pure (m.cacheFlvSeqHeaderData data, s)
  else if pack.header.id = idFLVStream then handleFlvStream net z m pack given s
  else pure (m, s)

end HXService.CenterServer
