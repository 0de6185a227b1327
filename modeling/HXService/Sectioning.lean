import HXService.BigMessage

/-! What `SetBigPackage` makes of a payload that is not compressed: a begin
package, the payload in sections, and an end package. -/

namespace HXService.Sectioning
open Bytes HXBigMessageQueue

def chunk (data : List UInt8) (i : Nat) : List UInt8 :=
  (data.drop (i * maxBodyLength)).take maxBodyLength

-- `sectionCount` before it is stored in an unsigned short
def count (data : List UInt8) : Nat := data.length / maxBodyLength + 1

def plainHeader (id id2 : UInt16) (data : List UInt8) : MBigHeader :=
  bigHeader id id2 0 data.length data.length

section Chunks
variable {data : List UInt8} {i : Nat}

theorem length_chunk_le (data : List UInt8) (i : Nat) : (chunk data i).length ≤ maxBodyLength := by
  rw [chunk, List.length_take]
  exact Nat.min_le_left _ _

theorem length_chunk (data : List UInt8) (i : Nat) :
    (chunk data i).length = min maxBodyLength (data.length - i * maxBodyLength) := by
  rw [chunk, List.length_take, List.length_drop]

theorem chunk_start_le (hi : i < count data) : i * maxBodyLength ≤ data.length := by
  have hle : i ≤ data.length / maxBodyLength := Nat.lt_succ_iff.mp hi
  exact (Nat.mul_le_mul_right _ hle).trans (Nat.div_mul_le_self _ _)

theorem chunk_end_le (hi : i < count data) :
    i * maxBodyLength + (chunk data i).length ≤ data.length := by
  have hstart := chunk_start_le hi
  rw [length_chunk]
  omega

end Chunks

def sectionPack (data : List UInt8) (temp : HXMessagePackage) (i : Nat) : HXMessagePackage :=
  { temp with
    header := ⟨idBigStreamData, UInt16.ofNat i, Int32.ofNat (chunk data i).length⟩
    data := temp.data.store (chunk data i) (length_chunk_le data i) }

def temps (data : List UInt8) (begin : HXMessagePackage) : Nat → HXMessagePackage
  | 0 => begin
  | n + 1 => sectionPack data (temps data begin n) n

def beginPack (mHeader : MBigHeader) : HXMessagePackage :=
  markPackage idBigStreamBegin mHeader ⟨LinkID.zero, ⟨0, 0, 0⟩, Block.zeros maxBodyLength, none⟩

def sections (data : List UInt8) (begin : HXMessagePackage) (n : Nat) : List HXMessagePackage :=
  (List.range n).map fun i => temps data begin (i + 1)

def packages (mHeader : MBigHeader) (data : List UInt8) : List HXMessagePackage :=
  beginPack mHeader :: sections data (beginPack mHeader) (count data) ++
    [markPackage idBigStreamEnd mHeader (temps data (beginPack mHeader) (count data))]

section Loop
variable {data : List UInt8} {mHeader : MBigHeader} {temp : HXMessagePackage} {i : Nat}

theorem copyBody_chunk (block : Block maxBodyLength) (hi : i < count data) :
    copyBody block data (i * maxBodyLength : Nat) (chunk data i).length =
      .ok (block.store (chunk data i) (length_chunk_le data i)) := by
  have hend := chunk_end_le hi
  have hle := length_chunk_le data i
  have hbytes : (data.drop (i * maxBodyLength)).take (chunk data i).length = chunk data i := by
    rw [chunk, List.length_take]
    exact List.take_eq_take_min.symm
  rw [copyBody, dif_pos ⟨by omega, by omega, by exact_mod_cast hend, by exact_mod_cast hle⟩]
  simp only [Int.toNat_natCast, hbytes]

theorem addSection_eq (hi : i < count data) (hfits : data.length + maxBodyLength < 2 ^ 31)
    (hsection : mHeader.sectionLength.toNat = maxBodyLength) (packs : List HXMessagePackage) :
    addSection data mHeader (temp, packs) i =
      .ok (sectionPack data temp i, packs ++ [sectionPack data temp i]) := by
  have hstart := chunk_start_le hi
  have hmax : maxBodyLength = 32768 := rfl
  have hlength : ((if (i * maxBodyLength : Nat) + (maxBodyLength : Int) > data.length then
      (data.length : Int) else (i * maxBodyLength : Nat) + maxBodyLength) - (i * maxBodyLength : Nat)) =
        (chunk data i).length := by
    rw [length_chunk]
    split_ifs <;> omega
  have hbegin : checkInt (i * mHeader.sectionLength.toNat) = .ok ((i * maxBodyLength : Nat) : Int) := by
    rw [hsection, ← Nat.cast_mul]
    exact checkInt_of_range (by omega) (by omega)
  have hcount : checkInt ((i * maxBodyLength : Nat) + mHeader.sectionLength.toNat) =
      .ok ((i * maxBodyLength : Nat) + (maxBodyLength : Int)) := by
    rw [hsection]
    exact checkInt_of_range (by omega) (by omega)
  rw [addSection, hbegin, ok_bind, hcount, ok_bind]
  dsimp only
  rw [hlength, copyBody_chunk temp.data hi]
  rfl

theorem foldlM_addSection {begin : HXMessagePackage} {n : Nat} (hn : n ≤ count data)
    (hfits : data.length + maxBodyLength < 2 ^ 31)
    (hsection : mHeader.sectionLength.toNat = maxBodyLength) :
    (List.range n).foldlM (addSection data mHeader) (begin, [begin]) =
      .ok (temps data begin n, begin :: sections data begin n) := by
  induction n with
  | zero => rfl
  | succ n ih =>
    rw [List.range_succ, List.foldlM_append, ih (by omega), ok_bind, List.foldlM_cons,
      addSection_eq (by omega) hfits hsection]
    show Except.ok _ = Except.ok _
    rw [sections, sections, List.range_succ, List.map_append]
    rfl

end Loop

section Set
variable {id id2 : UInt16} {data : List UInt8}

theorem toNat_sectionCount (h : count data < 65536) :
    (plainHeader id id2 data).sectionCount.toNat = count data := UInt16.toNat_ofNat_of_lt h

theorem length_lt_of_count (h : count data < 65536) : data.length + maxBodyLength < 2 ^ 31 := by
  have hmax : maxBodyLength = 32768 := rfl
  rw [count, hmax] at h
  omega

theorem toNat_dataLength (h : count data < 65536) :
    (plainHeader id id2 data).dataLength.toNat = data.length := by
  have hlt := length_lt_of_count h
  exact UInt32.toNat_ofNat_of_lt (show data.length < 4294967296 by omega)

theorem toNat_originalLength (h : count data < 65536) :
    (plainHeader id id2 data).originalLength.toNat = data.length := @toNat_dataLength id id2 data h

def deflated (z : Zlib) (data : List UInt8) (zipLevel : Int) : Option (List UInt8) :=
  if 0 < zipLevel then z.compress2 data (data.length + 2048) zipLevel.toNat else none

theorem setBigPackage_loop {z : Zlib} {q : HXBigMessageQueue} {zipLevel : Int} {sent : List UInt8}
    {mHeader : MBigHeader} {n : Nat} (hlt : data.length + 2048 < 2 ^ 31)
    (hsent : (deflated z data zipLevel).getD data = sent)
    (hheader : bigHeader id id2 zipLevel sent.length data.length = mHeader)
    (hcount : mHeader.sectionCount.toNat = n)
    (hloop : (List.range n).foldlM (addSection sent mHeader) (beginPack mHeader, [beginPack mHeader]) =
      .ok (temps sent (beginPack mHeader) n,
        beginPack mHeader :: sections sent (beginPack mHeader) n)) :
    q.setBigPackage z id id2 data zipLevel = .ok { q with
      mHeader := mHeader
      mQueue := beginPack mHeader :: sections sent (beginPack mHeader) n ++
        [markPackage idBigStreamEnd mHeader (temps sent (beginPack mHeader) n)] } := by
  have hcomp : checkInt (data.length + 2048) = .ok ((data.length : Int) + 2048) :=
    checkInt_of_range (by omega) (by omega)
  have hchosen : (if 0 < zipLevel then (z.compress2 data ((data.length : Int) + 2048).toNat
      zipLevel.toNat).getD data else data) = sent := by
    rw [← hsent, deflated]
    split_ifs <;> rfl
  unfold setBigPackage
  rw [hcomp, ok_bind, hchosen]
  dsimp only
  rw [hheader, hcount]
  show ((List.range n).foldlM (addSection sent mHeader) (beginPack _, [beginPack _]) >>= _) = _
  rw [hloop]
  rfl

theorem setBigPackage_sent {z : Zlib} {q : HXBigMessageQueue} {zipLevel : Int} {sent : List UInt8}
    (hlt : data.length + 2048 < 2 ^ 31) (hsent : (deflated z data zipLevel).getD data = sent)
    (hfits : count sent < 65536) :
    q.setBigPackage z id id2 data zipLevel = .ok { q with
      mHeader := bigHeader id id2 zipLevel sent.length data.length
      mQueue := packages (bigHeader id id2 zipLevel sent.length data.length) sent } :=
  setBigPackage_loop hlt hsent rfl (UInt16.toNat_ofNat_of_lt hfits)
    (foldlM_addSection le_rfl (length_lt_of_count hfits) rfl)

/-- `SetBigPackage` with `ZipLevel_None`, as long as the section count fits. -/
theorem setBigPackage_plain (z : Zlib) (q : HXBigMessageQueue) (h : count data < 65536) :
    q.setBigPackage z id id2 data 0 = .ok { q with
      mHeader := plainHeader id id2 data
      mQueue := packages (plainHeader id id2 data) data } := by
  have hmax : maxBodyLength = 32768 := rfl
  have hlt := length_lt_of_count h
  exact setBigPackage_sent (by omega) rfl h

theorem mHeader_setBigPackage {z : Zlib} {q q' : HXBigMessageQueue}
    (h : q.setBigPackage z id id2 data 0 = .ok q') : q'.mHeader = plainHeader id id2 data := by
  rw [setBigPackage] at h
  obtain ⟨comp, -, h⟩ := bind_eq_ok.mp h
  obtain ⟨acc, -, h⟩ := bind_eq_ok.mp h
  rw [← Except.ok.inj h]
  rfl

end Set
end HXService.Sectioning
