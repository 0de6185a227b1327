import HXService.Sectioning

/-! How a receiver collects a big message, whatever header announces it: the
packages it gets are copies of those that were sent. -/

namespace HXService
open Bytes Sectioning HXBigMessageQueue

/-! ## A package and its copy

The receiver's package has the header and the body of the sender's, behind which
stands what was in `read_msg_` before. -/

structure Copies (pack p : HXMessagePackage) : Prop where
  pointer_eq : pack.bigDataPointer = none
  header_eq : pack.header = p.header
  body_eq : pack.data.load p.bodyLength = p.data.load p.bodyLength

section Copies
variable {pack p : HXMessagePackage}

theorem Copies.refl (h : p.bigDataPointer = none) : Copies p p := ⟨h, rfl, rfl⟩

theorem Copies.bodyLength_eq (h : Copies pack p) : pack.bodyLength = p.bodyLength := by
  rw [HXMessagePackage.bodyLength, h.header_eq, HXMessagePackage.bodyLength]

theorem Copies.bodyBytes_eq (h : Copies pack p) : pack.bodyBytes = p.data.load p.bodyLength := by
  rw [HXMessagePackage.bodyBytes_of_none h.pointer_eq, h.bodyLength_eq, h.body_eq]

end Copies

section Packages
variable {id : UInt16} {h : MBigHeader} {temp : HXMessagePackage} {data : List UInt8} {i : Nat}

theorem inRange_markPackage : (markPackage id h temp).header.InRange := by
  show (0 : Int) ≤ 17 ∧ (17 : Int) ≤ maxBodyLength
  decide

theorem load_markPackage : (markPackage id h temp).data.load MBigHeader.size = h.bytes := by
  have hle : h.bytes.length ≤ maxBodyLength := by
    rw [MBigHeader.length_bytes]
    decide
  exact @Block.load_store_of_length _ temp.data h.bytes hle _ (MBigHeader.length_bytes h).symm

theorem toInt_length_chunk (data : List UInt8) (i : Nat) :
    (Int32.ofNat (chunk data i).length).toInt = (chunk data i).length := by
  have hle := length_chunk_le data i
  have hmax : maxBodyLength = 32768 := rfl
  exact Int32.toInt_ofNat_of_lt (by omega)

theorem inRange_sectionPack : (sectionPack data temp i).header.InRange := by
  have hle := length_chunk_le data i
  show 0 ≤ (Int32.ofNat (chunk data i).length).toInt ∧
    (Int32.ofNat (chunk data i).length).toInt ≤ maxBodyLength
  rw [toInt_length_chunk]
  omega

theorem bodyLength_sectionPack : (sectionPack data temp i).bodyLength = (chunk data i).length := by
  have hlength := HXMessagePackage.bodyLength_of_inRange (@inRange_sectionPack temp data i)
  rw [show (sectionPack data temp i).header.length = Int32.ofNat (chunk data i).length from rfl,
    toInt_length_chunk] at hlength
  exact_mod_cast hlength

theorem load_sectionPack :
    (sectionPack data temp i).data.load (sectionPack data temp i).bodyLength = chunk data i := by
  rw [bodyLength_sectionPack]
  exact Block.load_store temp.data _ (length_chunk_le data i)

theorem ofBytes_of_load {b : Block maxBodyLength} (hb : b.load MBigHeader.size = h.bytes) :
    MBigHeader.ofBytes b.bytes = h := by
  rw [Block.load] at hb
  rw [← List.take_append_drop MBigHeader.size b.bytes, hb, MBigHeader.ofBytes_bytes]

end Packages

/-- A header under which `data` is sent in sections. -/
structure Announces (h : MBigHeader) (data : List UInt8) : Prop where
  sectionLength_eq : h.sectionLength.toNat = maxBodyLength
  dataLength_eq : h.dataLength.toNat = data.length
  sectionCount_eq : h.sectionCount.toNat = count data

/-- The receiver after the begin package and `k` sections. -/
structure Gathered (h : MBigHeader) (data : List UInt8) (k : Nat) (b : HXBigMessageQueue) : Prop where
  mHeader_eq : b.mHeader = h
  length_eq : b.mRecvData.length = data.length
  take_eq : b.mRecvData.take (k * maxBodyLength) = data.take (k * maxBodyLength)

section Gathering
variable {z : Zlib} {h : MBigHeader} {data : List UInt8} {k : Nat} {b : HXBigMessageQueue}
variable {pack temp : HXMessagePackage}

theorem Announces.fits (ha : Announces h data) : count data < 65536 := by
  have hlt := h.sectionCount.toNat_lt
  rwa [ha.sectionCount_eq] at hlt

theorem gathered_begin (ha : Announces h data)
    (hcopy : Copies pack (markPackage idBigStreamBegin h temp)) :
    recvPackage z b pack = .ok (false, { b with
      mQueue := [], mHeader := h, mRecvData := resize b.mRecvData data.length 0 }) ∧
    Gathered h data 0 { b with
      mQueue := [], mHeader := h, mRecvData := resize b.mRecvData data.length 0 } := by
  have hheader : MBigHeader.ofBytes pack.data.bytes = h :=
    ofBytes_of_load (hcopy.body_eq.trans load_markPackage)
  constructor
  · rw [recvPackage_begin (congrArg Header.id hcopy.header_eq) hcopy.pointer_eq, hheader,
      ha.dataLength_eq]
  · exact ⟨rfl, length_resize _ _ _, by simp⟩

theorem take_section (hk : k < count data) (hlength : b.mRecvData.length = data.length)
    (htake : b.mRecvData.take (k * maxBodyLength) = data.take (k * maxBodyLength)) :
    (patch b.mRecvData (k * maxBodyLength) (chunk data k)).take ((k + 1) * maxBodyLength) =
      data.take ((k + 1) * maxBodyLength) := by
  have hend := chunk_end_le hk
  have hfits : k * maxBodyLength + (chunk data k).length ≤ b.mRecvData.length := hlength ▸ hend
  have hpatch := length_patch hfits
  have hdata : data.take ((k + 1) * maxBodyLength) = data.take (k * maxBodyLength) ++ chunk data k := by
    rw [Nat.succ_mul, List.take_add, chunk]
  have hwhole : (patch b.mRecvData (k * maxBodyLength) (chunk data k)).take ((k + 1) * maxBodyLength) =
      (patch b.mRecvData (k * maxBodyLength) (chunk data k)).take
        (k * maxBodyLength + (chunk data k).length) := by
    rw [Nat.succ_mul]
    by_cases hfull : (chunk data k).length = maxBodyLength
    · rw [hfull]
    · have hchunk := length_chunk data k
      rw [List.take_of_length_le (by omega), List.take_of_length_le (by omega)]
  rw [hwhole, take_patch hfits, htake, hdata]

theorem gathered_section (ha : Announces h data) (hk : k < count data) (hb : Gathered h data k b)
    (hcopy : Copies pack (sectionPack data temp k)) :
    ∃ b', recvPackage z b pack = .ok (false, b') ∧ Gathered h data (k + 1) b' := by
  have hrange : pack.header.InRange := by
    rw [hcopy.header_eq]
    exact inRange_sectionPack
  have hbody : pack.bodyBytes = chunk data k := hcopy.bodyBytes_eq.trans load_sectionPack
  have hlength : pack.bodyLength = (chunk data k).length :=
    hcopy.bodyLength_eq.trans bodyLength_sectionPack
  have hfits := ha.fits
  have hid2 : pack.header.id2 = UInt16.ofNat k := congrArg Header.id2 hcopy.header_eq
  have hindex : (UInt16.ofNat k).toNat = k := UInt16.toNat_ofNat_of_lt (show k < 65536 by omega)
  have hoffset : sectionOffset b.mHeader pack = k * maxBodyLength := by
    rw [sectionOffset, hid2, hindex, hb.mHeader_eq, ha.sectionLength_eq]
  have hend := chunk_end_le hk
  have hlt := length_lt_of_count hfits
  have hstep := @recvPackage_data z b pack (congrArg Header.id hcopy.header_eq) hcopy.pointer_eq hrange
  by_cases hempty : data.length = 0
  · refine ⟨b, ?_, hb.mHeader_eq, hb.length_eq, ?_⟩
    · rw [hstep, if_pos (Or.inr (Or.inl (hb.length_eq.trans hempty)))]
    · rw [List.take_of_length_le (by rw [hb.length_eq]; omega), List.take_of_length_le (by omega),
        List.length_eq_zero_iff.mp hempty, List.length_eq_zero_iff.mp (hb.length_eq.trans hempty)]
  · have hcount : ¬b.mHeader.sectionCount ≤ pack.header.id2 := by
      rw [hb.mHeader_eq, hid2, UInt16.le_iff_toNat_le, ha.sectionCount_eq, hindex]
      exact not_le.mpr hk
    have haccept : ¬(b.mRecvData.length ≠ b.mHeader.dataLength.toNat ∨ b.mRecvData.length = 0 ∨
        b.mHeader.sectionCount ≤ pack.header.id2) := by
      rw [not_or, not_or, not_not, hb.length_eq, hb.mHeader_eq]
      exact ⟨ha.dataLength_eq.symm, hempty, hb.mHeader_eq ▸ hcount⟩
    rw [if_neg haccept, hoffset, hlength, hbody, if_neg (by omega),
      if_neg (by rw [hb.mHeader_eq, ha.dataLength_eq]; omega)] at hstep
    refine ⟨_, hstep, hb.mHeader_eq, ?_, take_section hk hb.length_eq hb.take_eq⟩
    exact (length_patch (hb.length_eq ▸ hend)).trans hb.length_eq

theorem Gathered.mRecvData_eq (hb : Gathered h data (count data) b) : b.mRecvData = data := by
  have hlt : data.length < count data * maxBodyLength := by
    rw [count, Nat.succ_mul]
    have hmod := Nat.mod_lt data.length (show 0 < maxBodyLength by decide)
    have hdiv := Nat.div_add_mod' data.length maxBodyLength
    omega
  have htake := hb.take_eq
  rwa [List.take_of_length_le (by rw [hb.length_eq]; omega), List.take_of_length_le (by omega)] at htake

theorem recvPackage_marked (hheader : b.mHeader = h)
    (hcopy : Copies pack (markPackage idBigStreamEnd h temp)) :
    recvPackage z b pack =
      if 0 < h.zipLevel then
        if h.originalLength.toNat = 0 ∨ b.mRecvData.length = 0 then .error .emptyVector
        else .ok (inflate z b)
      else .ok (true, b) := by
  have hend : MBigHeader.ofBytes pack.data.bytes = h :=
    ofBytes_of_load (hcopy.body_eq.trans load_markPackage)
  rw [recvPackage_end (congrArg Header.id hcopy.header_eq) hcopy.pointer_eq, hend, hheader,
    if_pos ⟨rfl, rfl⟩]

end Gathering
end HXService
