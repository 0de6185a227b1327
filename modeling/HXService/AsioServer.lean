import HXService.MessageQueue

/-! The accepted connections (`HXLibAccept`) and the connection table of the
server (`HXLibAsioServer`). A `boost::shared_ptr` to a session is its number;
`mSessions` is the heap the pointers point into. -/

namespace HXService
open Bytes

def maxAcceptItem : Int := 10000
def maxShort : Nat := 32767

abbrev SessionPtr := Nat

/-- An address as `to_string` writes it, at most `INET6_ADDRSTRLEN` with its NUL. -/
structure IpText where
  chars : List UInt8
  short : chars.length < 46

def IpText.empty : IpText := ⟨[], by decide⟩

/-! ## Sessions

`reading` and `writing` are the pending `async_read` and `async_write`. A write
refers to the package at the front of `write_msgs_` or to a local copy of it. -/

inductive ReadOp
  | header
  | body
  deriving DecidableEq

inductive WriteSource
  | queueFront
  | localCopy
  deriving DecidableEq

structure HXLibAccept where
  mLinkid : LinkID
  socketOpen : Bool
  readMsg : HXMessagePackage
  mBigData : HXBigMessageQueue
  writeMsgs : List HXMessagePackage
  mNumofWrite : Nat
  reading : Option ReadOp
  writing : Option WriteSource

namespace HXLibAccept

-- an accepted socket; `read_msg_` and the header in `m_bigData` are indeterminate
def new (readMsg : HXMessagePackage) (mHeader : MBigHeader) : HXLibAccept where
  mLinkid := LinkID.zero
  socketOpen := true
  readMsg := { readMsg with bigDataPointer := none }
  mBigData := HXBigMessageQueue.new mHeader
  writeMsgs := []
  mNumofWrite := 0
  reading := none
  writing := none

def joined (readMsg : HXMessagePackage) (mHeader : MBigHeader) (linkid : LinkID) : HXLibAccept :=
  { new readMsg mHeader with mLinkid := linkid, reading := some .header }

def close (a : HXLibAccept) : HXLibAccept := { a with socketOpen := false }

def resetLinkID (a : HXLibAccept) : HXLibAccept := { a with mLinkid := LinkID.zero }

def send (a : HXLibAccept) (msg : HXMessagePackage) : HXLibAccept :=
  if a.socketOpen = false then a
  else if a.writeMsgs = [] then
    { a with writeMsgs := [msg], mNumofWrite := 1, writing := some .queueFront }
  else { a with writeMsgs := a.writeMsgs ++ [msg] }

/-- `handle_write` without an error. -/
def written (a : HXLibAccept) : HXLibAccept :=
  { a with
    writeMsgs := a.writeMsgs.tail
    mNumofWrite := a.writeMsgs.tail.length
    writing := if a.writeMsgs.tail = [] then none else some .localCopy }

def readHeader (a : HXLibAccept) (bytes : List UInt8) : HXLibAccept :=
  { a with readMsg := { a.readMsg with header := Header.ofBytes bytes }, reading := some .body }

/-- The package as it stands after its body has been read, under the session's id. -/
def received (a : HXLibAccept) (body : List UInt8) (h : body.length ≤ maxBodyLength) :
    HXMessagePackage :=
  { a.readMsg with mLinkid := a.mLinkid, data := a.readMsg.data.store body h }

/-- The answer to a heartbeat: its first eight body bytes, a `double`. -/
def heartbeatReply (pack : HXMessagePackage) : HXMessagePackage :=
  HXMessagePackage.filled LinkID.zero idHeartbeat 0 (pack.data.load 8)
    (by rw [Block.length_load (by decide)]; decide)

end HXLibAccept

structure AcceptItem where
  link : Option SessionPtr
  id : LinkID
  context : Nat
  deriving DecidableEq

structure HXLibAsioServer where
  mRunning : Bool
  mLinks : Nat → AcceptItem
  mOnlineLinks : Int
  mMaxLinks : Int
  mId : Nat
  mQueue : HXMessageQueueAB
  mSessions : SessionPtr → HXLibAccept

namespace HXLibAsioServer

-- nobody has joined; what the constructors leave indeterminate is an argument
def new (context : Nat → Nat) (readMsg : SessionPtr → HXMessagePackage)
    (mHeader : SessionPtr → MBigHeader) : HXLibAsioServer where
  mRunning := false
  mLinks i := ⟨none, LinkID.zero, context i⟩
  mOnlineLinks := 0
  mMaxLinks := maxAcceptItem
  mId := 0
  mQueue := HXMessageQueueAB.new
  mSessions link := HXLibAccept.new (readMsg link) (mHeader link)

def zeroed : HXLibAsioServer :=
  new (fun _ => 0) (fun _ => HXMessagePackage.filled LinkID.zero 0 0 [] (Nat.zero_le _))
    (fun _ => ⟨0, 0, 0, 0, 0, 0, 0⟩)

def start (s : HXLibAsioServer) (maxLinks : Int) : Bool × HXLibAsioServer :=
  if s.mRunning then (false, s)
  else if maxLinks < 0 ∨ maxAcceptItem ≤ maxLinks then (false, { s with mMaxLinks := maxLinks })
  else (true, { s with mMaxLinks := maxLinks, mRunning := true })

def modifySession (s : HXLibAsioServer) (link : SessionPtr) (f : HXLibAccept → HXLibAccept) :
    HXLibAsioServer :=
  { s with mSessions := Function.update s.mSessions link (f (s.mSessions link)) }

@[simp] theorem mSessions_modifySession_self (s : HXLibAsioServer) (link : SessionPtr)
    (f : HXLibAccept → HXLibAccept) : (s.modifySession link f).mSessions link = f (s.mSessions link) :=
  Function.update_self ..

def queueAdd (s : HXLibAsioServer) (msg : HXMessagePackage) : HXLibAsioServer :=
  { s with mQueue := s.mQueue.add msg }

/-! ## Join and Leave

`joinTable` and `leaveTable` are the parts under `m_linkMutex`. -/

def connectMessage (linkid : LinkID) (ip : IpText) : HXMessagePackage :=
  HXMessagePackage.filled linkid idConnect 0 (ip.chars ++ [0]) (by
    have hshort := ip.short
    have hmax : maxBodyLength = 32768 := rfl
    rw [List.length_append, List.length_singleton]
    omega)

def disconnectMessage (linkid : LinkID) (dissconnectState : UInt16) : HXMessagePackage :=
  HXMessagePackage.filled linkid idDisconnect dissconnectState [] (Nat.zero_le _)

def freeSlot (s : HXLibAsioServer) : Option Nat :=
  (List.range s.mMaxLinks.toNat).find? fun i => (s.mLinks i).id.id = 0

def nextId (s : HXLibAsioServer) : Nat := (if maxShort ≤ s.mId then 0 else s.mId) + 1

def joinTable (s : HXLibAsioServer) (link : SessionPtr) : LinkID × HXLibAsioServer :=
  match s.freeSlot with
  | some i =>
    let linkid : LinkID := ⟨UInt16.ofNat s.nextId, UInt16.ofNat i⟩
    (linkid, { s with
      mId := s.nextId
      mLinks := Function.update s.mLinks i { s.mLinks i with link := some link, id := linkid }
      mOnlineLinks := s.mOnlineLinks + 1 })
  | none => (LinkID.zero, { s with mId := s.nextId })

def join (s : HXLibAsioServer) (link : SessionPtr) (ip : IpText) : LinkID × HXLibAsioServer :=
  let joined := s.joinTable link
  if joined.1.id ≠ 0 then (joined.1, joined.2.queueAdd (connectMessage joined.1 ip)) else joined

/-- `HXLibAccept::start`: the session keeps the id `Join` gave it, and is closed
when there was none. -/
def accept (s : HXLibAsioServer) (link : SessionPtr) (ip : IpText) : HXLibAsioServer :=
  let joined := s.join link ip
  joined.2.modifySession link fun a =>
    if joined.1.id = 0 then { a with mLinkid := joined.1 }.close
    else { a with mLinkid := joined.1, reading := some .header }

/-- The test every operation on a `LinkID` begins with. -/
def Linked (s : HXLibAsioServer) (linkid : LinkID) : Prop :=
  (linkid.sindex.toNat : Int) < s.mMaxLinks ∧ linkid.sid = (s.mLinks linkid.sindex.toNat).id.sid

instance (s : HXLibAsioServer) (linkid : LinkID) : Decidable (s.Linked linkid) :=
  inferInstanceAs (Decidable (_ ∧ _))

def leaveTable (s : HXLibAsioServer) (link : SessionPtr) : LinkID × HXLibAsioServer :=
  let linkid := (s.mSessions link).mLinkid
  let i := linkid.sindex.toNat
  let reset := s.modifySession link HXLibAccept.resetLinkID
  if s.Linked linkid then
    (linkid, { reset with
      mOnlineLinks := if (s.mLinks i).link.isSome then s.mOnlineLinks - 1 else s.mOnlineLinks
      mLinks := Function.update s.mLinks i { s.mLinks i with id := LinkID.zero, link := none } })
  else (linkid, reset)

def leave (s : HXLibAsioServer) (link : SessionPtr) (dissconnectState : UInt16) : HXLibAsioServer :=
  let left := s.leaveTable link
  if left.1.id ≠ 0 then left.2.queueAdd (disconnectMessage left.1 dissconnectState) else left.2

/-! ## Operations on a `LinkID`

`deref` is the member call through `m_links[linkid.sindex].link`. -/

-- sizeof(HXMessagePackage), packed, with an eight-byte pointer
def sizeofPackage : Nat := 4 + (headerLength + maxBodyLength) + 8

def deref (s : HXLibAsioServer) (linkid : LinkID) : Checked SessionPtr :=
  match (s.mLinks linkid.sindex.toNat).link with
  | some link => .ok link
  | none => .error .nullLink

def send (s : HXLibAsioServer) (linkid : LinkID) (msg : HXMessagePackage) :
    Checked (Bool × HXLibAsioServer) :=
  if s.Linked linkid then do
    let link ← s.deref linkid
    pure (true, s.modifySession link (·.send msg))
  else pure (false, s)

-- unsigned int allocMemory = m_numofWrite * sizeof(HXMessagePackage)
def allocMemory (a : HXLibAccept) : Nat := a.mNumofWrite * sizeofPackage % 2 ^ 32

def dropsBig (s : HXLibAsioServer) (linkid : LinkID) (msg : HXBigMessageQueue) : Checked Bool :=
  if msg.mBAllowLost then do
    let link ← s.deref linkid
    pure (msg.mMaxOfMemory.toNat ≤ allocMemory (s.mSessions link))
  else pure false

def sendBig (s : HXLibAsioServer) (linkid : LinkID) (msg : HXBigMessageQueue) :
    Checked (Bool × HXLibAsioServer) :=
  if s.Linked linkid then do
    if ← s.dropsBig linkid msg then pure (false, s)
    else do
      let s ← msg.mQueue.foldlM (fun s pack => do
        let link ← s.deref linkid
        pure (s.modifySession link (·.send pack))) s
      pure (true, s)
  else pure (false, s)

/-- `Send(linkid, id, id2, data, datalength)`; `data` is null or the
`datalength` bytes behind the pointer. -/
def sendData (s : HXLibAsioServer) (linkid : LinkID) (id id2 : UInt16) (data : Option (List UInt8)) :
    Checked (Bool × HXLibAsioServer) :=
  if s.Linked linkid then
    let body := data.getD []
    if h : body.length ≤ maxBodyLength then do
      let link ← s.deref linkid
      pure (true, s.modifySession link (·.send (HXMessagePackage.filled LinkID.zero id id2 body h)))
    else throw .outsideArray
  else pure (false, s)

def close (s : HXLibAsioServer) (linkid : LinkID) : Checked HXLibAsioServer :=
  if s.Linked linkid then do
    let link ← s.deref linkid
    pure (s.modifySession link HXLibAccept.close)
  else pure s

def setContext (s : HXLibAsioServer) (linkid : LinkID) (context : Nat) : HXLibAsioServer :=
  let i := linkid.sindex.toNat
  if s.Linked linkid then
    { s with mLinks := Function.update s.mLinks i { s.mLinks i with context } }
  else s

def getContext (s : HXLibAsioServer) (linkid : LinkID) : Bool × Option Nat :=
  if s.Linked linkid then (true, some (s.mLinks linkid.sindex.toNat).context) else (false, none)

/-! ## Completion handlers

`none` is an error; a completed read carries the bytes it was asked for. -/

def handleReadHeader (s : HXLibAsioServer) (link : SessionPtr) (bytes : Option (List UInt8)) :
    HXLibAsioServer :=
  match bytes with
  | some bytes => s.modifySession link (·.readHeader bytes)
  | none => (s.modifySession link ({ · with reading := none })).leave link dissconnectReadError

def handleReadBody (z : Zlib) (s : HXLibAsioServer) (link : SessionPtr) (bytes : Option (List UInt8)) :
    Checked HXLibAsioServer :=
  match bytes with
  | some bytes =>
    if h : bytes.length ≤ maxBodyLength then
      let pack := (s.mSessions link).received bytes h
      if pack.header.id ≠ idHeartbeat then do
        let added ← s.mQueue.addWith z pack (s.mSessions link).mBigData
        pure ({ s with mQueue := added.1 }.modifySession link fun a =>
          { a with readMsg := pack, mBigData := added.2, reading := some .header })
      else pure (s.modifySession link fun a =>
        { a.send (HXLibAccept.heartbeatReply pack) with readMsg := pack, reading := some .header })
    else throw .outsideArray
  | none => pure ((s.modifySession link ({ · with reading := none })).leave link dissconnectReadError)

def handleWrite (s : HXLibAsioServer) (link : SessionPtr) (ok : Bool) : HXLibAsioServer :=
  if ok then s.modifySession link HXLibAccept.written
  else (s.modifySession link ({ · with writing := none })).leave link dissconnectWriteError

end HXLibAsioServer
end HXService
