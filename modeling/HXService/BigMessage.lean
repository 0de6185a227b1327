import HXService.Message

/-! The big-message sender and receiver (`HXBigMessageQueue`). zlib is not part
of the sources: `Zlib` holds the two calls the code makes, with the documented
promise that neither writes past the destination it is given. -/

namespace HXService
open Bytes

structure Zlib where
  compress2 : List UInt8 → Nat → Nat → Option (List UInt8)
  uncompress2 : List UInt8 → Nat → Bool × List UInt8
  compress2_fits : ∀ src destLen level out, compress2 src destLen level = some out →
    out.length ≤ destLen
  uncompress2_fits : ∀ src destLen, (uncompress2 src destLen).2.length ≤ destLen

namespace Zlib

-- refuses everything, and takes anything for compressed data
def refusing : Zlib where
  compress2 _ _ _ := none
  uncompress2 _ _ := (false, [])
  compress2_fits _ _ _ _ h := nomatch h
  uncompress2_fits _ _ := Nat.zero_le _

def accepting : Zlib where
  compress2 _ _ _ := none
  uncompress2 _ destLen := (true, List.replicate destLen 0)
  compress2_fits _ _ _ _ h := nomatch h
  uncompress2_fits _ _ := List.length_replicate.le

end Zlib

structure MBigHeader where
  zipLevel : UInt8
  sectionLength : UInt16
  id : UInt16
  id2 : UInt16
  dataLength : UInt32
  originalLength : UInt32
  sectionCount : UInt16
  deriving DecidableEq

namespace MBigHeader

def size : Nat := 17

def bytes (h : MBigHeader) : List UInt8 :=
  leBytes 1 h.zipLevel.toNat ++ leBytes 2 h.sectionLength.toNat ++ leBytes 2 h.id.toNat ++
    leBytes 2 h.id2.toNat ++ leBytes 4 h.dataLength.toNat ++ leBytes 4 h.originalLength.toNat ++
    leBytes 2 h.sectionCount.toNat

def ofBytes (bs : List UInt8) : MBigHeader :=
  let zipLevel := readLE 1 bs
  let sectionLength := readLE 2 zipLevel.2
  let id := readLE 2 sectionLength.2
  let id2 := readLE 2 id.2
  let dataLength := readLE 4 id2.2
  let originalLength := readLE 4 dataLength.2
  let sectionCount := readLE 2 originalLength.2
  ⟨UInt8.ofNat zipLevel.1, UInt16.ofNat sectionLength.1, UInt16.ofNat id.1, UInt16.ofNat id2.1,
    UInt32.ofNat dataLength.1, UInt32.ofNat originalLength.1, UInt16.ofNat sectionCount.1⟩

@[simp] theorem length_bytes (h : MBigHeader) : h.bytes.length = size := by
  simp only [bytes, List.length_append, length_leBytes, size]

theorem length_bytes_le (h : MBigHeader) : h.bytes.length ≤ maxBodyLength := by
  rw [length_bytes]
  decide

theorem ofBytes_bytes (h : MBigHeader) (rest : List UInt8) : ofBytes (h.bytes ++ rest) = h := by
  obtain ⟨zipLevel, sectionLength, id, id2, dataLength, originalLength, sectionCount⟩ := h
  have h1 : zipLevel.toNat % 256 ^ 1 = zipLevel.toNat := Nat.mod_eq_of_lt zipLevel.toNat_lt
  have h2 (n : UInt16) : n.toNat % 256 ^ 2 = n.toNat := Nat.mod_eq_of_lt n.toNat_lt
  have h4 (n : UInt32) : n.toNat % 256 ^ 4 = n.toNat := Nat.mod_eq_of_lt n.toNat_lt
  simp only [bytes, ofBytes, List.append_assoc, readLE_append, h1, h2, h4, UInt8.ofNat_toNat,
    UInt16.ofNat_toNat, UInt32.ofNat_toNat]

/-- `*pack.body<MBigHeader>()`. -/
def load (bs : List UInt8) : Checked MBigHeader :=
  if bs.length < size then .error .outsideArray else .ok (ofBytes bs)

theorem load_body {p : HXMessagePackage} (h : p.bigDataPointer = none) :
    load p.body = .ok (ofBytes p.data.bytes) := by
  have hmax : maxBodyLength = 32768 := rfl
  have hsize : size = 17 := rfl
  rw [HXMessagePackage.body, h, Option.getD_none, load, if_neg (by rw [p.data.size_eq]; omega)]

theorem ofBytes_store (h : MBigHeader) (b : Block maxBodyLength) (hl : h.bytes.length ≤ maxBodyLength) :
    ofBytes (b.store h.bytes hl).bytes = h := by
  have ht := Block.load_store b h.bytes hl
  rw [Block.load] at ht
  rw [← List.take_append_drop h.bytes.length (b.store h.bytes hl).bytes, ht, ofBytes_bytes]

end MBigHeader

structure HXBigMessageQueue where
  mBAllowLost : Bool
  mMaxOfMemory : UInt32
  mQueue : List HXMessagePackage
  mHeader : MBigHeader
  mRecvData : List UInt8
  deriving DecidableEq

namespace HXBigMessageQueue

-- the constructor leaves `m_header` indeterminate
def new (mHeader : MBigHeader) : HXBigMessageQueue :=
  { mBAllowLost := false, mMaxOfMemory := 0, mQueue := [], mHeader, mRecvData := [] }

def setAllowLostPackage (q : HXBigMessageQueue) (bAllowLost : Bool) (maxOfMemory : UInt32) :
    HXBigMessageQueue :=
  { q with mBAllowLost := bAllowLost, mMaxOfMemory := maxOfMemory }

/-! ## Sending -/

-- memcpy(temp.body(), (char*)ptr + begin, len)
def copyBody (data : Block maxBodyLength) (ptr : List UInt8) (begin len : Int) :
    Checked (Block maxBodyLength) :=
  if h : 0 ≤ begin ∧ 0 ≤ len ∧ begin + len ≤ ptr.length ∧ len ≤ maxBodyLength then
    .ok (data.store ((ptr.drop begin.toNat).take len.toNat)
      (by simp only [List.length_take, List.length_drop]; omega))
  else .error .outsideArray

/-- One round of the section loop: the local `temp` and the packages added so far. -/
def addSection (ptr : List UInt8) (mHeader : MBigHeader)
    (acc : HXMessagePackage × List HXMessagePackage) (i : Nat) :
    Checked (HXMessagePackage × List HXMessagePackage) := do
  let begin ← checkInt (i * mHeader.sectionLength.toNat)
  let count ← checkInt (begin + mHeader.sectionLength.toNat)
  let count := if count > ptr.length then (ptr.length : Int) else count
  let data ← copyBody acc.1.data ptr begin (count - begin)
  let temp := { acc.1 with
    header := ⟨idBigStreamData, UInt16.ofNat i, Int32.ofInt (count - begin)⟩, data }
  pure (temp, acc.2 ++ [temp])

def bigHeader (id id2 : UInt16) (zipLevel : Int) (dataLength originalLength : Nat) : MBigHeader where
  zipLevel := UInt8.ofInt zipLevel
  sectionLength := UInt16.ofNat maxBodyLength
  id := id
  id2 := id2
  dataLength := UInt32.ofNat dataLength
  originalLength := UInt32.ofNat originalLength
  sectionCount := UInt16.ofNat (dataLength / maxBodyLength + 1)

def markPackage (id : UInt16) (mHeader : MBigHeader) (temp : HXMessagePackage) : HXMessagePackage :=
  { temp with
    header := ⟨id, 0, Int32.ofNat MBigHeader.size⟩
    data := temp.data.store mHeader.bytes mHeader.length_bytes_le }

/-- `SetBigPackage(id, id2, ptr, dataLength, zipLevel)`; `ptr` is the payload,
so `dataLength` is its length. -/
def setBigPackage (z : Zlib) (q : HXBigMessageQueue) (id id2 : UInt16) (ptr : List UInt8)
    (zipLevel : Int) : Checked HXBigMessageQueue := do
  let comp ← checkInt (ptr.length + 2048)
  let sent := if 0 < zipLevel then (z.compress2 ptr comp.toNat zipLevel.toNat).getD ptr else ptr
  let mHeader := bigHeader id id2 zipLevel sent.length ptr.length
  let begin := markPackage idBigStreamBegin mHeader
    ⟨LinkID.zero, ⟨0, 0, 0⟩, Block.zeros maxBodyLength, none⟩
  let acc ← (List.range mHeader.sectionCount.toNat).foldlM (addSection sent mHeader) (begin, [begin])
  pure { q with mHeader, mQueue := acc.2 ++ [markPackage idBigStreamEnd mHeader acc.1] }

/-- `SetBigPackage` with `dataLength < 0`, without compression: no section is made, as
their number is 0 in 16 bits (`sectionCount_below`). -/
def setBigPackageBelow (q : HXBigMessageQueue) (id id2 : UInt16) (dataLength : Int32) :
    Checked HXBigMessageQueue :=
  if dataLength.toInt + 2048 < 0 then throw .badLength
  else
    let mHeader := bigHeader id id2 0 dataLength.toUInt32.toNat dataLength.toUInt32.toNat
    let begin := markPackage idBigStreamBegin mHeader
      ⟨LinkID.zero, ⟨0, 0, 0⟩, Block.zeros maxBodyLength, none⟩
    pure { q with mHeader, mQueue := [begin, markPackage idBigStreamEnd mHeader begin] }

theorem sectionCount_below {id id2 : UInt16} {dataLength : Int32} (hneg : dataLength.toInt < 0)
    (hfits : ¬dataLength.toInt + 2048 < 0) :
    (bigHeader id id2 0 dataLength.toUInt32.toNat dataLength.toUInt32.toNat).sectionCount = 0 := by
  have hbits : dataLength.toInt = if 2 * dataLength.toUInt32.toNat < 2 ^ 32 then
      (dataLength.toUInt32.toNat : Int) else (dataLength.toUInt32.toNat : Int) - 2 ^ 32 :=
    BitVec.toInt_eq_toNat_cond dataLength.toBitVec
  have hvalue : (dataLength.toUInt32.toNat : Int) = dataLength.toInt + 2 ^ 32 := by
    split_ifs at hbits
    · omega
    · omega
  show UInt16.ofNat (dataLength.toUInt32.toNat / maxBodyLength + 1) = 0
  have hmax : maxBodyLength = 32768 := rfl
  have hsections : dataLength.toUInt32.toNat / maxBodyLength + 1 = 131072 := by
    rw [hmax]
    omega
  rw [hsections]
  rfl

/-! ## Receiving -/

def sectionOffset (mHeader : MBigHeader) (pack : HXMessagePackage) : Nat :=
  pack.header.id2.toNat * mHeader.sectionLength.toNat

-- `uncompress2` of the received data into `m_recvData`, resized to `originalLength`
def inflate (z : Zlib) (q : HXBigMessageQueue) : Bool × HXBigMessageQueue :=
  let dest := resize q.mRecvData q.mHeader.originalLength.toNat 0
  let out := z.uncompress2 q.mRecvData dest.length
  (out.1 && out.2.length == q.mHeader.originalLength.toNat, { q with mRecvData := patch dest 0 out.2 })

/-- `RecvPackage`: the result and the receiver afterwards. -/
def recvPackage (z : Zlib) (q : HXBigMessageQueue) (pack : HXMessagePackage) :
    Checked (Bool × HXBigMessageQueue) :=
  if pack.header.id = idBigStreamBegin then do
    let mHeader ← MBigHeader.load pack.body
    pure (false,
      { q with mQueue := [], mHeader, mRecvData := resize q.mRecvData mHeader.dataLength.toNat 0 })
  else if pack.header.id = idBigStreamData then
    if q.mRecvData.length ≠ q.mHeader.dataLength.toNat ∨ q.mRecvData.length = 0 then pure (false, q)
    else if q.mHeader.sectionCount ≤ pack.header.id2 then pure (false, q)
    else do
      let offset ← checkInt (sectionOffset q.mHeader pack)
      let recvDataLength ← checkInt (pack.header.length.toInt + offset)
      if toUnsigned recvDataLength > q.mHeader.dataLength.toNat then pure (false, q)
      else match copyInto q.mRecvData offset.toNat pack.body pack.bodyLength with
        | some mRecvData => pure (false, { q with mRecvData })
        | none => throw .outsideArray
  else if pack.header.id = idBigStreamEnd then do
    let endHeader ← MBigHeader.load pack.body
    if endHeader.dataLength = q.mHeader.dataLength ∧
      endHeader.sectionCount = q.mHeader.sectionCount then
      if 0 < q.mHeader.zipLevel then
        -- &m_recvData.at(0), resized by now, and &comp.at(0)
        if q.mHeader.originalLength.toNat = 0 ∨ q.mRecvData.length = 0 then throw .emptyVector
        else pure (inflate z q)
      else pure (true, q)
    else pure (false, q)
  else pure (false, q)

theorem id_data_ne_begin : idBigStreamData ≠ idBigStreamBegin := by decide
theorem id_end_ne_begin : idBigStreamEnd ≠ idBigStreamBegin := by decide
theorem id_end_ne_data : idBigStreamEnd ≠ idBigStreamData := by decide

section Received
variable {z : Zlib} {q : HXBigMessageQueue} {pack : HXMessagePackage}

theorem recvPackage_begin (hid : pack.header.id = idBigStreamBegin) (hp : pack.bigDataPointer = none) :
    recvPackage z q pack = .ok (false, { q with
      mQueue := []
      mHeader := MBigHeader.ofBytes pack.data.bytes
      mRecvData := resize q.mRecvData (MBigHeader.ofBytes pack.data.bytes).dataLength.toNat 0 }) := by
  rw [recvPackage, if_pos hid, MBigHeader.load_body hp]
  rfl

theorem recvPackage_data (hid : pack.header.id = idBigStreamData) (hp : pack.bigDataPointer = none)
    (hr : pack.header.InRange) :
    recvPackage z q pack =
      if q.mRecvData.length ≠ q.mHeader.dataLength.toNat ∨ q.mRecvData.length = 0 ∨
          q.mHeader.sectionCount ≤ pack.header.id2 then .ok (false, q)
      else if 2 ^ 31 ≤ sectionOffset q.mHeader pack + pack.bodyLength then .error .intOverflow
      else if q.mHeader.dataLength.toNat < sectionOffset q.mHeader pack + pack.bodyLength then
        .ok (false, q)
      else .ok (false, { q with
        mRecvData := patch q.mRecvData (sectionOffset q.mHeader pack) pack.bodyBytes }) := by
  have hlen := HXMessagePackage.bodyLength_of_inRange hr
  have hle := HXMessagePackage.bodyLength_le hr
  have hbody : pack.body.length = maxBodyLength := by
    rw [HXMessagePackage.body, hp, Option.getD_none, pack.data.size_eq]
  rw [recvPackage, if_neg (hid ▸ id_data_ne_begin), if_pos hid]
  by_cases hsized : q.mRecvData.length ≠ q.mHeader.dataLength.toNat ∨ q.mRecvData.length = 0
  · rw [if_pos hsized, if_pos (hsized.imp_right Or.inl)]
    rfl
  by_cases hcount : q.mHeader.sectionCount ≤ pack.header.id2
  · rw [if_neg hsized, if_pos hcount, if_pos (Or.inr (Or.inr hcount))]
    rfl
  rw [if_neg hsized, if_neg hcount,
    if_neg (fun h => (or_assoc.mpr h).elim hsized hcount), ← hlen]
  by_cases hover : 2 ^ 31 ≤ sectionOffset q.mHeader pack + pack.bodyLength
  · rw [if_pos hover]
    by_cases hoff : 2 ^ 31 ≤ sectionOffset q.mHeader pack
    · rw [checkInt_of_ge (by exact_mod_cast hoff), error_bind]
    · rw [checkInt_of_range (by omega) (by omega), ok_bind, checkInt_of_ge (by omega), error_bind]
  · rw [if_neg hover, checkInt_of_range (by omega) (by omega), ok_bind,
      checkInt_of_range (by omega) (by omega), ok_bind]
    have hu : (toUnsigned (pack.bodyLength + sectionOffset q.mHeader pack) : Int) =
        pack.bodyLength + sectionOffset q.mHeader pack := toUnsigned_of_range (by omega) (by omega)
    simp only [Int.toNat_natCast]
    by_cases hfit : q.mHeader.dataLength.toNat < sectionOffset q.mHeader pack + pack.bodyLength
    · rw [if_pos (by omega), if_pos hfit]
      rfl
    · rw [if_neg (by omega), if_neg hfit]
      have hcopy : copyInto q.mRecvData (sectionOffset q.mHeader pack) pack.body pack.bodyLength =
          some (patch q.mRecvData (sectionOffset q.mHeader pack) pack.bodyBytes) :=
        copyInto_eq_some_iff.mpr ⟨by omega, by omega, rfl⟩
      rw [hcopy]
      rfl

theorem recvPackage_end (hid : pack.header.id = idBigStreamEnd) (hp : pack.bigDataPointer = none) :
    recvPackage z q pack =
      if (MBigHeader.ofBytes pack.data.bytes).dataLength = q.mHeader.dataLength ∧
          (MBigHeader.ofBytes pack.data.bytes).sectionCount = q.mHeader.sectionCount then
        if 0 < q.mHeader.zipLevel then
          if q.mHeader.originalLength.toNat = 0 ∨ q.mRecvData.length = 0 then .error .emptyVector
          else .ok (inflate z q)
        else .ok (true, q)
      else .ok (false, q) := by
  rw [recvPackage, if_neg (hid ▸ id_end_ne_begin), if_neg (hid ▸ id_end_ne_data), if_pos hid,
    MBigHeader.load_body hp]
  rfl

theorem recvPackage_other (h1 : pack.header.id ≠ idBigStreamBegin)
    (h2 : pack.header.id ≠ idBigStreamData)
    (h3 : pack.header.id ≠ idBigStreamEnd) : recvPackage z q pack = .ok (false, q) := by
  rw [recvPackage, if_neg h1, if_neg h2, if_neg h3]
  rfl

end Received
end HXBigMessageQueue
end HXService
