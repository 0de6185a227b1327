import HXService.BigMessage

/-! Message and command ids, the records messages carry (`protocol.h`,
`consts.h`), and the network services the managers send through. -/

namespace HXService
open Bytes

def idUserLogin : UInt16 := 1001
def idUserNotify : UInt16 := 1002
def idUserTransform : UInt16 := 1003
def idUserControl : UInt16 := 1005
def idFLVSequenceHeader : UInt16 := 1007
def idFLVStream : UInt16 := 1008
def idGlobalNotify : UInt16 := 1009
def idGlobalTransform : UInt16 := 1010
def idError : UInt16 := 1011
def idFLVStreamReback : UInt16 := 1012

def c2sTellSeatNum : UInt16 := 1
def c2sTellUserType : UInt16 := 2
def c2sTellReady : UInt16 := 3
def c2sTellUserProfile : UInt16 := 5
def c2sBeginFlying : UInt16 := 6
def c2sSeenExternal : UInt16 := 7
def c2sPlayVideo : UInt16 := 8
def c2sStandUp : UInt16 := 9
def c2sWalk : UInt16 := 10
def c2sPresentFlowers : UInt16 := 11
def c2sStopPresentFlowers : UInt16 := 12

def s2cPlyReady : UInt16 := 101
def s2cPlyLeave : UInt16 := 102
def s2cBeginFlying : UInt16 := 103
def s2cRspSeatNum : UInt16 := 104
def s2cUpdUserState : UInt16 := 106
def s2cClientList : UInt16 := 107
def s2cClientListExternal : UInt16 := 108
def s2cUserLeaveExternal : UInt16 := 109
def s2cPlayVideo : UInt16 := 110
def s2cStandUp : UInt16 := 111
def s2cWalk : UInt16 := 112
def s2sReqUsrList : UInt16 := 200

def noAvailableSeatNumber : UInt16 := 1

/-! `UserType` and `UserState` values arrive as plain `int`s. -/

def vip : Int32 := 1
def capsule : Int32 := 2
def sceneServer : Int32 := 4

def stateInitial : Int32 := 0
def stateEntering : Int32 := 1
def statePresentFlowers : Int32 := 4
def stateStopPresentFlowers : Int32 := 5

/-! ## Records

A `double` and a `float` are their bit patterns. -/

def int32Bytes (x : Int32) : List UInt8 := leBytes 4 x.toUInt32.toNat

def int32OfBytes (bs : List UInt8) : Int32 := (UInt32.ofNat (ofLE (bs.take 4))).toInt32

theorem int32OfBytes_int32Bytes (x : Int32) (rest : List UInt8) :
    int32OfBytes (int32Bytes x ++ rest) = x := by
  have hlength : (leBytes 4 x.toUInt32.toNat).length = 4 := length_leBytes 4 _
  have hlt := x.toUInt32.toNat_lt
  unfold int32OfBytes int32Bytes
  rw [List.take_left' hlength, ofLE_leBytes, Nat.mod_eq_of_lt (by omega), UInt32.ofNat_toNat,
    Int32.toInt32_toUInt32]

structure FlvStreamReback where
  dTimer : UInt64
  dEncodeTimer : UInt64
  dOBStoCenter : UInt64
  dCenterToClient : UInt64
  dShowTime : UInt64
  deriving DecidableEq

namespace FlvStreamReback

def size : Nat := 40

def bytes (r : FlvStreamReback) : List UInt8 :=
  leBytes 8 r.dTimer.toNat ++ leBytes 8 r.dEncodeTimer.toNat ++ leBytes 8 r.dOBStoCenter.toNat ++
    leBytes 8 r.dCenterToClient.toNat ++ leBytes 8 r.dShowTime.toNat

def ofBytes (bs : List UInt8) : FlvStreamReback :=
  let field (i : Nat) := UInt64.ofNat (ofLE ((bs.drop (8 * i)).take 8))
  ⟨field 0, field 1, field 2, field 3, field 4⟩

@[simp] theorem length_bytes (r : FlvStreamReback) : r.bytes.length = size := by
  simp only [bytes, List.length_append, length_leBytes, size]

end FlvStreamReback

structure Vec3 where
  x : UInt32
  y : UInt32
  z : UInt32
  deriving DecidableEq

def Vec3.bytes (v : Vec3) : List UInt8 :=
  leBytes 4 v.x.toNat ++ leBytes 4 v.y.toNat ++ leBytes 4 v.z.toNat

def Vec3.ofBytes (bs : List UInt8) : Vec3 :=
  let field (i : Nat) := UInt32.ofNat (ofLE ((bs.drop (4 * i)).take 4))
  ⟨field 0, field 1, field 2⟩

structure TransformInfo where
  plyId : Int32
  seatNumber : Int32
  pos : Vec3
  head : Vec3
  lhand : Vec3
  rhand : Vec3
  dir : Vec3
  update : Bool
  deriving DecidableEq

namespace TransformInfo

def size : Nat := 69

def ofBytes (bs : List UInt8) : TransformInfo :=
  ⟨int32OfBytes bs, int32OfBytes (bs.drop 4), Vec3.ofBytes (bs.drop 8), Vec3.ofBytes (bs.drop 20),
    Vec3.ofBytes (bs.drop 32), Vec3.ofBytes (bs.drop 44), Vec3.ofBytes (bs.drop 56),
    (bs.drop 68).head? ≠ some 0⟩

def bytes (t : TransformInfo) : List UInt8 :=
  int32Bytes t.plyId ++ int32Bytes t.seatNumber ++ t.pos.bytes ++ t.head.bytes ++ t.lhand.bytes ++
    t.rhand.bytes ++ t.dir.bytes ++ [if t.update then 1 else 0]

@[simp] theorem length_bytes (t : TransformInfo) : t.bytes.length = size := by
  simp only [bytes, Vec3.bytes, int32Bytes, List.length_append, length_leBytes, List.length_singleton,
    size]

end TransformInfo

-- `FaceModel`: a user id and a file name, 33 and 61 bytes
def faceModelSize : Nat := 94

structure ProfileInfo where
  sceneServerID : Block 33
  mSeatNumber : Int32
  mFaceModel : Block faceModelSize
  deriving DecidableEq

namespace ProfileInfo

def size : Nat := 131

def bytes (p : ProfileInfo) : List UInt8 :=
  p.sceneServerID.bytes ++ int32Bytes p.mSeatNumber ++ p.mFaceModel.bytes

@[simp] theorem length_bytes (p : ProfileInfo) : p.bytes.length = size := by
  simp only [bytes, List.length_append, int32Bytes, length_leBytes, p.sceneServerID.size_eq,
    p.mFaceModel.size_eq, size, faceModelSize]

end ProfileInfo

/-- The `n` bytes behind `body()`. -/
def bodyBlock (pack : HXMessagePackage) (n : Nat) : Checked (Block n) :=
  if h : n ≤ pack.body.length then .ok ⟨pack.body.take n, by rw [List.length_take, Nat.min_eq_left h]⟩
  else .error .outsideArray

/-- The body for a function that returns on `len <= 0`. -/
def bodyData (pack : HXMessagePackage) : Checked (List UInt8) :=
  if pack.header.length.toInt ≤ 0 then pure []
  else do
    let data ← bodyBlock pack pack.bodyLength
    pure data.bytes

/-! ## Services

What a manager hands to `HXLibService::Send` in its three forms, and to the
client that is connected to the center server. Either may refuse a send. -/

inductive Outgoing
  | package (msg : HXMessagePackage)
  | big (msg : HXBigMessageQueue)
  | data (id id2 : UInt16) (bytes : List UInt8)

structure Network (σ : Type) where
  send : σ → LinkID → Outgoing → Bool × σ
  sendCenter : σ → UInt16 → UInt16 → List UInt8 → Bool × σ

namespace Network
variable {σ : Type} (net : Network σ)

-- one message to several links, results ignored
def sendEach (msg : Outgoing) (links : List LinkID) (s : σ) : σ :=
  links.foldl (fun s linkID => (net.send s linkID msg).2) s

/-- `SendCmd(linkID, msgID, cmdID, data, len)`, the same in both managers. -/
def cmdPackage (msgID cmdID : UInt16) (data : List UInt8) : Checked HXMessagePackage :=
  if h : data.length ≤ maxBodyLength then .ok (HXMessagePackage.filled LinkID.zero msgID cmdID data h)
  else .error .outsideArray

end Network
end HXService
