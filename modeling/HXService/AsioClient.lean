import HXService.MessageQueue

/-! The client's connection (`HXLibClientAccept`): first what it has for reading,
where `heartbeats` are the times handed to `OnRecvHeartbeat`, then the writing. -/

namespace HXService
open Bytes

def idConnectFailure : UInt16 := 103
def dissconnectClosedByMain : UInt16 := 3

/-- `error.message()`, which `strcpy` copies into a body with its NUL. -/
structure ErrorText where
  chars : List UInt8
  short : chars.length < maxBodyLength

structure HXLibClientAccept where
  mRecv : HXMessageQueueAB
  readMsg : HXMessagePackage
  mBigData : HXBigMessageQueue
  mBConnected : Bool
  heartbeats : List (List UInt8)

namespace HXLibClientAccept

-- connected; `read_msg_` and the header in `m_bigData` are indeterminate
def new (readMsg : HXMessagePackage) (mHeader : MBigHeader) : HXLibClientAccept where
  mRecv := HXMessageQueueAB.new.add (HXMessagePackage.filled LinkID.zero idConnect 0 [] (Nat.zero_le _))
  readMsg := { readMsg with bigDataPointer := none }
  mBigData := HXBigMessageQueue.new mHeader
  mBConnected := true
  heartbeats := []

def connecting (readMsg : HXMessagePackage) (mHeader : MBigHeader) : HXLibClientAccept :=
  { new readMsg mHeader with mRecv := HXMessageQueueAB.new, mBConnected := false }

def zeroed : HXLibClientAccept :=
  new (HXMessagePackage.filled LinkID.zero 0 0 [] (Nat.zero_le _)) ⟨0, 0, 0, 0, 0, 0, 0⟩

def doClose (c : HXLibClientAccept) : HXLibClientAccept := { c with mBConnected := false }

def closemsg (c : HXLibClientAccept) (state : UInt16) : HXLibClientAccept :=
  { c with
    mRecv := c.mRecv.add (HXMessagePackage.filled LinkID.zero idDisconnect state [] (Nat.zero_le _)) }

def connectMessage : HXMessagePackage :=
  HXMessagePackage.filled LinkID.zero idConnect 0 [] (Nat.zero_le _)

def connectFailureMessage (error : ErrorText) : HXMessagePackage :=
  HXMessagePackage.filled LinkID.zero idConnectFailure 0 error.chars error.short.le

def handleConnect (c : HXLibClientAccept) (error : Option ErrorText) : HXLibClientAccept :=
  match error with
  | none => { c with mRecv := c.mRecv.add connectMessage, mBConnected := true }
  | some error => { c with mRecv := c.mRecv.add (connectFailureMessage error) }

def received (c : HXLibClientAccept) (body : List UInt8) (h : body.length ≤ maxBodyLength) :
    HXMessagePackage :=
  { c.readMsg with mLinkid := LinkID.zero, data := c.readMsg.data.store body h }

/-! ## Completion handlers

`none` is an error; a completed read carries the bytes it was asked for. -/

def handleReadHeader (c : HXLibClientAccept) (bytes : Option (List UInt8)) : HXLibClientAccept :=
  match bytes with
  | some bytes => { c with readMsg := { c.readMsg with header := Header.ofBytes bytes } }
  | none => c.doClose.closemsg dissconnectReadError

def handleReadBody (z : Zlib) (c : HXLibClientAccept) (bytes : Option (List UInt8)) :
    Checked HXLibClientAccept :=
  match bytes with
  | some bytes =>
    if h : bytes.length ≤ maxBodyLength then
      let pack := c.received bytes h
      if pack.header.id ≠ idHeartbeat then do
        let added ← c.mRecv.addWith z pack c.mBigData
        pure { c with mRecv := added.1, readMsg := pack, mBigData := added.2 }
      else pure { c with readMsg := pack, heartbeats := c.heartbeats ++ [pack.data.load 8] }
    else throw .outsideArray
  | none => pure (c.doClose.closemsg dissconnectReadError)

end HXLibClientAccept

/-! ## Writing

The handlers run one at a time on the client's `io_service`. A handler returns
the package it calls `async_write` for, if it does. -/

structure HXLibClientSession extends HXLibClientAccept where
  writeMsgs : List HXMessagePackage
  mNumofWrite : Nat

namespace HXLibClientSession

def new (readMsg : HXMessagePackage) (mHeader : MBigHeader) : HXLibClientSession :=
  { HXLibClientAccept.new readMsg mHeader with writeMsgs := [], mNumofWrite := 0 }

def doWrite (c : HXLibClientSession) (msg : HXMessagePackage) :
    HXLibClientSession × Option HXMessagePackage :=
  let writeMsgs := c.writeMsgs ++ [msg]
  ({ c with writeMsgs, mNumofWrite := writeMsgs.length },
    if c.writeMsgs = [] then writeMsgs.head? else none)

def handleWrite (c : HXLibClientSession) (ok : Bool) : HXLibClientSession × Option HXMessagePackage :=
  if ok then
    let writeMsgs := c.writeMsgs.tail
    ({ c with writeMsgs, mNumofWrite := writeMsgs.length }, writeMsgs.head?)
  else ({ c with toHXLibClientAccept := c.doClose.closemsg dissconnectWriteError }, none)

end HXLibClientSession
end HXService
