import HXService.Lib.Roster
import HXService.FlvStream
import HXService.PackageMemory

/-! The users of the center server (`User`, `UserManager`). Its mutex makes each
call atomic. -/

namespace HXService
open Bytes

structure User where
  mUserID : Nat
  mUserType : Int32
  mDelayTimer : UInt64
  mIsOBSClient : Bool
  mLinkID : LinkID
  mFlvSeqHeaderFlag : Bool
  deriving DecidableEq

-- the constructor leaves `mFlvSeqHeaderFlag` indeterminate
def User.new (linkID : LinkID) (mFlvSeqHeaderFlag : Bool) : User where
  mUserID := linkID.sid.toNat
  mUserType := sceneServer
  mDelayTimer := 0
  mIsOBSClient := false
  mLinkID := linkID
  mFlvSeqHeaderFlag

structure UserManager where
  users : List User
  flvSeqHeaderMap : FlvSeqHeaderMap
  bigDataPkt : HXBigMessageQueue
  flvSeqHeaderChange : Bool

namespace UserManager

def new : UserManager where
  users := []
  flvSeqHeaderMap := FlvSeqHeaderMap.empty
  bigDataPkt := createBigPackage.setAllowLostPackage true (1024 * 1024 * 100)
  flvSeqHeaderChange := false

def addUser (m : UserManager) (ply : User) : UserManager := { m with users := m.users ++ [ply] }

def deleteUser (m : UserManager) (plyId : Nat) : Bool × UserManager :=
  ((Roster.find User.mUserID plyId m.users).isSome,
    { m with users := Roster.remove User.mUserID plyId m.users })

def setOBSStreamClient (m : UserManager) (plyId : Nat) : UserManager :=
  { m with users := Roster.modify User.mUserID plyId ({ · with mIsOBSClient := true }) m.users }

/-! Doubles are computed on with `Float`; `now` is the reading of the timer. -/

def onStreamReback (m : UserManager) (plyId : Nat) (data : List UInt8) (now : UInt64) : UserManager :=
  let delay := (Float.ofBits now - Float.ofBits (FlvStreamReback.ofBytes data).dTimer).toBits
  { m with users := Roster.modify User.mUserID plyId ({ · with mDelayTimer := delay }) m.users }

def cacheFlvSeqHeaderData (m : UserManager) (data : List UInt8) : UserManager :=
  let cached := cacheFlvSeqHeader m.flvSeqHeaderMap m.flvSeqHeaderChange data
  { m with flvSeqHeaderMap := cached.1, flvSeqHeaderChange := cached.2 }

section Send
variable {σ : Type} (net : Network σ)

def forwardCommand (m : UserManager) (pkt : HXMessagePackage) (s : σ) : σ :=
  net.sendEach (.package pkt) (m.users.map User.mLinkID) s

-- to everybody whose `sid` is not the source's
def forwardMsg (m : UserManager) (sourceLinkID : LinkID) (pkt : HXMessagePackage) (s : σ) : σ :=
  m.users.foldl (fun s user =>
    if sourceLinkID.sid ≠ user.mLinkID.sid then (net.send s user.mLinkID (.package pkt)).2 else s) s

def receiving : Receiving User where
  linkID := User.mLinkID
  skipped := User.mIsOBSClient
  flag := User.mFlvSeqHeaderFlag
  setFlag user := { user with mFlvSeqHeaderFlag := true }

/-- `SendFlvStream(data, len)`; the addresses of `mem` count from `data`. `now 0` is the
time put into the trailer of the stream, `now (i + 1)` the time in the message before
it to the `i`-th user. -/
def sendFlvStream (z : Zlib) (m : UserManager) (mem : Memory) (len : Nat) (now : Nat → UInt64) (s : σ) :
    Checked (UserManager × σ) := do
  let reback := StreamTrailer.trailer mem len
  let bigDataPkt ← m.bigDataPkt.setBigPackage z idFLVStream 0 (StreamTrailer.stamp mem len (now 0)).2 0
  let before (i : Nat) (user : User) : List Outgoing :=
    [.data idFLVStreamReback 0 { reback with
      dCenterToClient := (Float.ofBits user.mDelayTimer * 0.5).toBits
      dTimer := now (i + 1) }.bytes]
  let out ← sendFlvStreamTo net z receiving m.flvSeqHeaderMap before bigDataPkt 0
    m.flvSeqHeaderChange s m.users
  pure ({ m with users := out.1, flvSeqHeaderChange := out.2.1, bigDataPkt }, out.2.2)

variable {net}

theorem sendFlvStream_congr {z : Zlib} {m : UserManager} {mem mem' : Memory} {len : Nat} {low : Int}
    {now : Nat → UInt64} {s : σ} (h : ∀ a, low ≤ a → a < len → mem' a = mem a)
    (hlow : low ≤ StreamTrailer.trailerAt len) (hbody : low ≤ 0) :
    m.sendFlvStream net z mem' len now s = m.sendFlvStream net z mem len now s := by
  rw [sendFlvStream, sendFlvStream, StreamTrailer.trailer_congr h hlow,
    StreamTrailer.payload_congr h hlow hbody]

end Send
end UserManager
end HXService
