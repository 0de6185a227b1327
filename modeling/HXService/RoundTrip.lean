import HXService.Collection

/-! A receiver that is fed with all packages of a big message: what it has at
the end, and for which lengths the sections of a payload are numbered truly. -/

namespace HXService.HXBigMessageQueue
open Bytes Sectioning

/-- `RecvPackage` on one package after the other: the answers and the receiver afterwards. -/
def recvPackages (z : Zlib) (b : HXBigMessageQueue) :
    List HXMessagePackage → Checked (List Bool × HXBigMessageQueue)
  | [] => pure ([], b)
  | p :: packs => do
    let r ← b.recvPackage z p
    let rest ← recvPackages z r.2 packs
    pure (r.1 :: rest.1, rest.2)

section Feeding
variable {z : Zlib} {b b' : HXBigMessageQueue} {p : HXMessagePackage} {packs : List HXMessagePackage}

theorem recvPackages_cons {answer : Bool} (h : b.recvPackage z p = .ok (answer, b')) :
    recvPackages z b (p :: packs) =
      recvPackages z b' packs >>= fun rest => .ok (answer :: rest.1, rest.2) := by
  rw [recvPackages, h]
  rfl

theorem recvPackages_append {answers : List Bool} (h : recvPackages z b packs = .ok (answers, b'))
    (rest : List HXMessagePackage) :
    recvPackages z b (packs ++ rest) =
      recvPackages z b' rest >>= fun r => .ok (answers ++ r.1, r.2) := by
  induction packs generalizing b answers with
  | nil =>
    obtain ⟨rfl, rfl⟩ := Prod.mk.inj (Except.ok.inj h)
    rw [List.nil_append]
    cases recvPackages z b rest <;> rfl
  | cons p packs ih =>
    unfold recvPackages at h
    obtain ⟨r, hr, h⟩ := bind_eq_ok.mp h
    obtain ⟨s, hs, h⟩ := bind_eq_ok.mp h
    obtain ⟨rfl, rfl⟩ := Prod.mk.inj (Except.ok.inj h)
    rw [List.cons_append, recvPackages_cons hr, ih hs]
    cases recvPackages z s.2 rest <;> rfl

theorem recvPackages_snoc {answers : List Bool} {answer : Bool} {b'' : HXBigMessageQueue}
    (h : recvPackages z b packs = .ok (answers, b')) (hp : b'.recvPackage z p = .ok (answer, b'')) :
    recvPackages z b (packs ++ [p]) = .ok (answers ++ [answer], b'') := by
  rw [recvPackages_append h, recvPackages_cons hp]
  rfl

/-- Where nothing is complete before the last package, the last decides. -/
theorem recvPackages_last {front : List HXMessagePackage} {b'' : HXBigMessageQueue}
    (h : recvPackages z b front = .ok (List.replicate front.length false, b')) :
    recvPackages z b (front ++ [p]) =
        .ok (List.replicate ((front ++ [p]).length - 1) false ++ [true], b'') ↔
      b'.recvPackage z p = .ok (true, b'') := by
  have hlength : (front ++ [p]).length - 1 = front.length := by simp
  rw [recvPackages_append h, hlength]
  unfold recvPackages
  cases b'.recvPackage z p with
  | error e => simp [error_bind]
  | ok r =>
    simp [ok_bind, recvPackages, pure, Except.pure, Prod.ext_iff]

end Feeding

section Packages
variable {h : MBigHeader} {data : List UInt8} {n : Nat}

theorem pointer_temps : (temps data (beginPack h) n).bigDataPointer = none := by
  induction n with
  | zero => rfl
  | succ n ih => exact ih

theorem sections_succ : sections data (beginPack h) (n + 1) =
    sections data (beginPack h) n ++ [sectionPack data (temps data (beginPack h) n) n] := by
  simp [sections, List.range_succ, temps]

theorem inRange_sections {p : HXMessagePackage} (hp : p ∈ sections data (beginPack h) n) :
    p.header.InRange := by
  obtain ⟨i, -, rfl⟩ := List.mem_map.mp hp
  apply inRange_sectionPack

theorem inRange_packages {p : HXMessagePackage} (hp : p ∈ packages h data) : p.header.InRange := by
  unfold packages at hp
  simp only [List.cons_append, List.mem_cons, List.mem_append, List.not_mem_nil, or_false] at hp
  rcases hp with rfl | hp | rfl
  · apply inRange_markPackage
  · exact inRange_sections hp
  · apply inRange_markPackage

theorem length_sections : (sections data (beginPack h) n).length = n := by simp [sections]

theorem length_packages : (packages h data).length = count data + 2 := by
  simp [packages, length_sections]

end Packages

section Gathering
variable {z : Zlib} {h : MBigHeader} {data : List UInt8} {n : Nat} {b : HXBigMessageQueue}

theorem gathered_sections (ha : Announces h data) (hb : Gathered h data 0 b) (hn : n ≤ count data) :
    ∃ b', recvPackages z b (sections data (beginPack h) n) = .ok (List.replicate n false, b') ∧
      Gathered h data n b' := by
  induction n with
  | zero => exact ⟨b, rfl, hb⟩
  | succ n ih =>
    obtain ⟨c, hrun, hc⟩ := ih (Nat.le_of_succ_le hn)
    have hcopy : Copies (sectionPack data (temps data (beginPack h) n) n)
      (sectionPack data (temps data (beginPack h) n) n) := .refl pointer_temps
    obtain ⟨b', hrecv, hb'⟩ := @gathered_section z h data n c _ _ ha hn hc hcopy
    refine ⟨b', ?_, hb'⟩
    rw [sections_succ, recvPackages_snoc hrun hrecv, List.replicate_succ']

theorem gathered_packages (z : Zlib) (b : HXBigMessageQueue) (ha : Announces h data) :
    ∃ b', recvPackages z b (beginPack h :: sections data (beginPack h) (count data)) =
        .ok (List.replicate (count data + 1) false, b') ∧ Gathered h data (count data) b' := by
  have hcopy : Copies (beginPack h) (beginPack h) := .refl rfl
  obtain ⟨hrecv, hbegin⟩ := @gathered_begin z h data b _ _ ha hcopy
  obtain ⟨b', hrun, hb'⟩ := @gathered_sections z h data _ _ ha hbegin le_rfl
  refine ⟨b', ?_, hb'⟩
  rw [recvPackages_cons hrecv, hrun]
  rfl

end Gathering

/-- Fed with the packages of a message, the receiver `b` takes all but the last
for a part of it, and has the message complete with the last. -/
def Restores (z : Zlib) (b q : HXBigMessageQueue) (id id2 : UInt16) (data : List UInt8)
    (zipLevel : Int) : Prop :=
  ∃ r b', q.setBigPackage z id id2 data zipLevel = .ok r ∧
    recvPackages z b r.mQueue = .ok (List.replicate (r.mQueue.length - 1) false ++ [true], b') ∧
    b'.mRecvData = data ∧ b'.mHeader.id = id ∧ b'.mHeader.id2 = id2 ∧
    b'.mHeader.originalLength.toNat = data.length

section RoundTrip
variable {id id2 : UInt16} {data : List UInt8}

theorem restores_plain (z : Zlib) (b q : HXBigMessageQueue) (hfits : count data < 65536) :
    Restores z b q id id2 data 0 := by
  have ha : Announces (plainHeader id id2 data) data :=
    ⟨rfl, toNat_dataLength hfits, toNat_sectionCount hfits⟩
  obtain ⟨b', hrun, hb'⟩ := gathered_packages z b ha
  have hend : b'.recvPackage z (markPackage idBigStreamEnd (plainHeader id id2 data)
      (temps data (beginPack (plainHeader id id2 data)) (count data))) = .ok (true, b') := by
    rw [recvPackage_marked hb'.mHeader_eq (.refl pointer_temps)]
    exact if_neg (UInt8.lt_irrefl 0)
  refine ⟨_, b', setBigPackage_plain z q hfits, ?_, hb'.mRecvData_eq, ?_, ?_, ?_⟩
  · rw [length_packages]
    exact recvPackages_snoc hrun hend
  · rw [hb'.mHeader_eq]
    rfl
  · rw [hb'.mHeader_eq]
    rfl
  · rw [hb'.mHeader_eq]
    exact toNat_originalLength hfits

/-- Whatever the receiver has been through, a message that is sent without
compression arrives, in packages of allowed lengths. -/
theorem bigMessage_restored (z : Zlib) (b q : HXBigMessageQueue) (id id2 : UInt16) (data : List UInt8)
    (hlength : data.length / 32768 + 1 ≤ 65535) :
    Restores z b q id id2 data 0 ∧
      ∀ r, q.setBigPackage z id id2 data 0 = .ok r → ∀ p ∈ r.mQueue, p.header.InRange := by
  have hfits : count data < 65536 := Nat.lt_succ_of_le hlength
  refine ⟨restores_plain z b q hfits, ?_⟩
  intro r hr p hp
  rw [setBigPackage_plain z q hfits] at hr
  rw [← Except.ok.inj hr] at hp
  exact inRange_packages hp

theorem bigMessage_restored_small :
    Restores .refusing (new (plainHeader 7 0 [1, 2, 3])) (new (plainHeader 0 0 [])) 1000 3 [] 0 ∧
      Restores .refusing (new (plainHeader 7 0 [1, 2, 3])) (new (plainHeader 0 0 [])) 1000 3
        (List.replicate 32768 5) 0 :=
  ⟨(bigMessage_restored .refusing _ _ 1000 3 [] (by decide)).1,
    (bigMessage_restored .refusing _ _ 1000 3 (List.replicate 32768 5)
      (by rw [List.length_replicate]; decide)).1⟩

end RoundTrip

def dataSections (packs : List HXMessagePackage) : List HXMessagePackage :=
  packs.filter fun p => p.header.id = idBigStreamData

/-- A payload in sections: `sectionCount` and every `id2` are the true count and
index, and each byte stands in exactly one section. -/
structure Sectioned (data : List UInt8) (r : HXBigMessageQueue) : Prop where
  sectionCount_eq : r.mHeader.sectionCount.toNat = data.length / maxBodyLength + 1
  length_eq : (dataSections r.mQueue).length = data.length / maxBodyLength + 1
  id2_eq : ∀ i (p : HXMessagePackage), (dataSections r.mQueue)[i]? = some p → p.header.id2.toNat = i
  placed : ∀ j < data.length, ∃! i, ∃ p : HXMessagePackage, (dataSections r.mQueue)[i]? = some p ∧
    i * maxBodyLength ≤ j ∧ p.bodyBytes[j - i * maxBodyLength]? = data[j]?

section Arithmetic
variable {h : MBigHeader} {data : List UInt8} {i n : Nat}

theorem dataSections_sections :
    dataSections (sections data (beginPack h) n) = sections data (beginPack h) n := by
  apply List.filter_eq_self.mpr
  intro p hp
  obtain ⟨i, -, rfl⟩ := List.mem_map.mp hp
  rfl

theorem dataSections_packages :
    dataSections (packages h data) = sections data (beginPack h) (count data) := by
  have hsections : dataSections (sections data (beginPack h) (count data)) = _ := dataSections_sections
  unfold packages dataSections at *
  have hbegin : (beginPack h).header.id = idBigStreamBegin := rfl
  have hend : ∀ temp, (markPackage idBigStreamEnd h temp).header.id = idBigStreamEnd := fun _ => rfl
  simp [hsections, hbegin, hend, id_data_ne_begin.symm, id_end_ne_data]

theorem getElem?_sections {p : HXMessagePackage} (hp : (sections data (beginPack h) n)[i]? = some p) :
    i < n ∧ p = sectionPack data (temps data (beginPack h) i) i := by
  obtain ⟨hi, rfl⟩ := List.getElem?_eq_some_iff.mp hp
  rw [length_sections] at hi
  simp [sections, temps, hi]

theorem getElem?_sections_of_lt (hi : i < n) :
    (sections data (beginPack h) n)[i]? = some (sectionPack data (temps data (beginPack h) i) i) := by
  simp [sections, temps, hi]

theorem bodyBytes_section :
    (sectionPack data (temps data (beginPack h) i) i).bodyBytes = chunk data i := by
  have hpointer : (sectionPack data (temps data (beginPack h) i) i).bigDataPointer = none :=
    @pointer_temps h data (i + 1)
  rw [HXMessagePackage.bodyBytes_of_none hpointer, load_sectionPack]

theorem getElem?_chunk {j : Nat} (hj : j < maxBodyLength) :
    (chunk data i)[j]? = data[i * maxBodyLength + j]? := by
  rw [chunk, List.getElem?_take_of_lt hj, List.getElem?_drop]

theorem placed_section {j : Nat} (hj : j < data.length) :
    ∃! i, ∃ p : HXMessagePackage, (sections data (beginPack h) (count data))[i]? = some p ∧
      i * maxBodyLength ≤ j ∧ p.bodyBytes[j - i * maxBodyLength]? = data[j]? := by
  have hpos : 0 < maxBodyLength := by decide
  have hdiv := Nat.div_add_mod' j maxBodyLength
  have hmod := Nat.mod_lt j hpos
  refine ⟨j / maxBodyLength, ⟨_, getElem?_sections_of_lt ?_, Nat.div_mul_le_self _ _, ?_⟩, ?_⟩
  · exact Nat.lt_succ_of_le (Nat.div_le_div_right hj.le)
  · rw [bodyBytes_section, getElem?_chunk (by omega)]
    congr 1
    omega
  · rintro i ⟨p, hp, hle, hbyte⟩
    obtain ⟨-, rfl⟩ := getElem?_sections hp
    rw [bodyBytes_section, List.getElem?_eq_getElem hj] at hbyte
    obtain ⟨hlt, -⟩ := List.getElem?_eq_some_iff.mp hbyte
    have hshort := length_chunk_le data i
    apply Nat.le_antisymm
    · exact (Nat.le_div_iff_mul_le hpos).mpr hle
    · apply Nat.le_of_lt_succ
      rw [Nat.div_lt_iff_lt_mul hpos, Nat.succ_mul]
      omega

/-- No computation of `SetBigPackage` leaves its type, and no byte is left out,
exactly as long as the section count fits into an unsigned short. -/
theorem sectioned_iff (z : Zlib) (q : HXBigMessageQueue) (id id2 : UInt16) (data : List UInt8) :
    (∃ r, q.setBigPackage z id id2 data 0 = .ok r ∧ Sectioned data r) ↔
      data.length / 32768 + 1 ≤ 65535 := by
  constructor
  · rintro ⟨r, hr, hsectioned⟩
    have hlt := r.mHeader.sectionCount.toNat_lt
    rw [hsectioned.sectionCount_eq] at hlt
    exact Nat.le_of_lt_succ hlt
  · intro hlength
    have hfits : count data < 65536 := Nat.lt_succ_of_le hlength
    refine ⟨_, setBigPackage_plain z q hfits, toNat_sectionCount hfits, ?_, ?_, ?_⟩
    all_goals rw [dataSections_packages]
    · exact length_sections
    · intro i p hp
      obtain ⟨hi, rfl⟩ := getElem?_sections hp
      exact UInt16.toNat_ofNat_of_lt (hi.trans hfits)
    · intro j hj
      exact placed_section hj

theorem sectionCount_wraps : ¬∃ r, (new (plainHeader 0 0 [])).setBigPackage .refusing 1000 3
    (List.replicate (65535 * 32768) 0) 0 = .ok r ∧
      Sectioned (List.replicate (65535 * 32768) 0) r := by
  rintro ⟨r, -, hsectioned⟩
  have hlt := r.mHeader.sectionCount.toNat_lt
  have hmax : maxBodyLength = 32768 := rfl
  rw [hsectioned.sectionCount_eq, List.length_replicate, hmax] at hlt
  omega

end Arithmetic
end HXService.HXBigMessageQueue
