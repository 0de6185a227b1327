import HXService.Collection
import HXService.MessageQueue

/-! What the receiver makes of the packages of a message, one after the other:
an ordinary message is an entry, a big one is collected and becomes an entry. -/

namespace HXService
open Bytes Sectioning HXBigMessageQueue

/-- What a message says to its reader. -/
structure Content where
  id : UInt16
  id2 : UInt16
  length : Int
  body : List UInt8
  deriving DecidableEq

def contentOf (pack : HXMessagePackage) : Content :=
  ⟨pack.header.id, pack.header.id2, pack.header.length.toInt, pack.bodyBytes⟩

theorem Copies.contentOf_eq {pack p : HXMessagePackage} (h : Copies pack p)
    (hp : p.bigDataPointer = none) : contentOf pack = contentOf p := by
  rw [contentOf, contentOf, h.header_eq, h.bodyBytes_eq, HXMessagePackage.bodyBytes_of_none hp]

structure Ordinary where
  pack : HXMessagePackage
  pointer_eq : pack.bigDataPointer = none
  inRange : pack.header.InRange
  plain : ¬isBigStream pack.header.id
  not_heartbeat : pack.header.id ≠ idHeartbeat

/-- A big message as `SetBigPackage` leaves it; what it allows to be lost may have
been set before or after. -/
structure Prepared (z : Zlib) where
  id : UInt16
  id2 : UInt16
  data : List UInt8
  fits : count data < 65536
  msg : HXBigMessageQueue
  prepared : ∃ q r, setBigPackage z q id id2 data 0 = .ok r ∧ msg.mQueue = r.mQueue

namespace Prepared
variable {z : Zlib} (m : Prepared z)

def header : MBigHeader := plainHeader m.id m.id2 m.data

def content : Content := ⟨m.id, m.id2, m.data.length, m.data⟩

theorem mQueue_eq : m.msg.mQueue = packages m.header m.data := by
  obtain ⟨q, r, hr, hqueue⟩ := m.prepared
  rw [setBigPackage_plain z q m.fits] at hr
  rw [hqueue, ← Except.ok.inj hr, header]

end Prepared

section Collecting
variable {z : Zlib} {id id2 : UInt16} {data : List UInt8} {b : HXBigMessageQueue}
variable {pack temp : HXMessagePackage}

theorem Prepared.announces (m : Prepared z) : Announces m.header m.data :=
  ⟨rfl, toNat_dataLength m.fits, toNat_sectionCount m.fits⟩

theorem gathered_end (hb : Gathered (plainHeader id id2 data) data (count data) b)
    (h : Copies pack (markPackage idBigStreamEnd (plainHeader id id2 data) temp)) :
    recvPackage z b pack = .ok (true, b) := by
  rw [recvPackage_marked hb.mHeader_eq h]
  exact if_neg (UInt8.lt_irrefl 0)

theorem deliver_collected (pack : HXMessagePackage) (hfits : count data < 65536)
    (hb : Gathered (plainHeader id id2 data) data (count data) b) :
    ∃ e, HXMessageQueueAB.deliver b pack = .ok e ∧ contentOf e = ⟨id, id2, data.length, data⟩ := by
  have hdata := hb.mRecvData_eq
  have hlt := length_lt_of_count hfits
  have hsize : b.mHeader.originalLength.toNat = data.length := by
    rw [hb.mHeader_eq]
    exact toNat_originalLength hfits
  have hint : b.mHeader.originalLength.toInt32.toInt = data.length := by
    rw [HXMessageQueueAB.toInt_toInt32 (by omega), hsize]
  have hid : b.mHeader.id = id := by
    rw [hb.mHeader_eq]
    rfl
  have hid2 : b.mHeader.id2 = id2 := by
    rw [hb.mHeader_eq]
    rfl
  have hbodyLength : sizeT b.mHeader.originalLength.toInt32 = data.length := by
    have hnonneg := @sizeT_of_nonneg b.mHeader.originalLength.toInt32 (by rw [hint]; omega)
    rw [hint] at hnonneg
    exact_mod_cast hnonneg
  by_cases hempty : b.mRecvData.length = 0
  · refine ⟨_, HXMessageQueueAB.deliver_empty hempty, ?_⟩
    have hnil : data = [] := by
      rw [← hdata]
      exact List.length_eq_zero_iff.mp hempty
    have hbytes : ({ pack with header :=
      ⟨b.mHeader.id, b.mHeader.id2, b.mHeader.originalLength.toInt32⟩ } :
        HXMessagePackage).bodyBytes = data := by
      rw [HXMessagePackage.bodyBytes, HXMessagePackage.bodyLength]
      dsimp only
      rw [hbodyLength, hnil]
      rfl
    rw [contentOf, hbytes]
    dsimp only
    rw [hid, hid2, hint]
  · refine ⟨_, HXMessageQueueAB.deliver_fits hempty (by rw [hsize, hdata]), ?_⟩
    have hcopy : patch (List.replicate b.mRecvData.length 0) 0
        (b.mRecvData.take b.mHeader.originalLength.toNat) = data := by
      rw [hsize, hdata, List.take_length, patch_full List.length_replicate.symm]
    rw [hcopy, contentOf, HXMessagePackage.bodyBytes, HXMessagePackage.bodyLength,
      HXMessagePackage.body]
    dsimp only
    rw [hbodyLength, hid, hid2, hint, Option.getD_some, List.take_length]

end Collecting

/-- A call of `Send` that gets through, and the packages it sends. -/
inductive Call (z : Zlib)
  | small (m : Ordinary)
  | big (m : Prepared z)

namespace Call
variable {z : Zlib}

def packages : Call z → List HXMessagePackage
  | small m => [m.pack]
  | big m => m.msg.mQueue

def content : Call z → Content
  | small m => contentOf m.pack
  | big m => m.content

end Call

namespace Prepared
variable {z : Zlib} (m : Prepared z)

def sectionAt (k : Nat) : HXMessagePackage := sectionPack m.data (temps m.data (beginPack m.header) k) k

def endPack : HXMessagePackage :=
  markPackage idBigStreamEnd m.header (temps m.data (beginPack m.header) (count m.data))

-- what is left to receive after the begin package and `k` sections
def rest (k : Nat) : List HXMessagePackage :=
  (sections m.data (beginPack m.header) (count m.data)).drop k ++ [m.endPack]

theorem mQueue_eq_cons : m.msg.mQueue = beginPack m.header :: m.rest 0 := m.mQueue_eq

theorem rest_of_lt {k : Nat} (hk : k < count m.data) : m.rest k = m.sectionAt k :: m.rest (k + 1) := by
  have hlength : k < (sections m.data (beginPack m.header) (count m.data)).length := by
    rw [sections, List.length_map, List.length_range]
    exact hk
  have hget : (sections m.data (beginPack m.header) (count m.data))[k] = m.sectionAt k := by
    simp only [sections, List.getElem_map, List.getElem_range]
    rfl
  rw [rest, List.drop_eq_getElem_cons hlength, hget, List.cons_append, rest]

theorem rest_count : m.rest (count m.data) = [m.endPack] := by
  rw [rest, List.drop_of_length_le, List.nil_append]
  rw [sections, List.length_map, List.length_range]

end Prepared

/-- The receiver `b` has `packs` still to receive, which make entries of `contents`. -/
inductive Awaits (z : Zlib) : HXBigMessageQueue → List HXMessagePackage → List Content → Prop
  | between (b : HXBigMessageQueue) (calls : List (Call z)) :
    Awaits z b (calls.flatMap Call.packages) (calls.map Call.content)
  | inside (b : HXBigMessageQueue) (m : Prepared z) (k : Nat) (hk : k ≤ count m.data)
    (hb : Gathered m.header m.data k b) (calls : List (Call z)) :
    Awaits z b (m.rest k ++ calls.flatMap Call.packages) (m.content :: calls.map Call.content)

section Awaits
variable {z : Zlib} {b : HXBigMessageQueue} {packs : List HXMessagePackage} {contents : List Content}
variable {pack p : HXMessagePackage}

theorem Awaits.append (h : Awaits z b packs contents) (call : Call z) :
    Awaits z b (packs ++ call.packages) (contents ++ [call.content]) := by
  have hpackages : ∀ calls : List (Call z), calls.flatMap Call.packages ++ call.packages =
      (calls ++ [call]).flatMap Call.packages := by
    intro calls
    rw [List.flatMap_append, List.flatMap_singleton]
  have hcontents : ∀ calls : List (Call z), calls.map Call.content ++ [call.content] =
      (calls ++ [call]).map Call.content := by
    intro calls
    rw [List.map_append, List.map_singleton]
  cases h with
  | between calls =>
    rw [hpackages, hcontents]
    exact .between b _
  | inside m k hk hb calls =>
    rw [List.append_assoc, hpackages, List.cons_append, hcontents]
    exact .inside b m k hk hb _

theorem Call.packages_ne_nil (call : Call z) : call.packages ≠ [] := by
  cases call with
  | small m => exact List.cons_ne_nil _ _
  | big m =>
    rw [Call.packages, m.mQueue_eq_cons]
    exact List.cons_ne_nil _ _

theorem Awaits.nothing (h : Awaits z b [] contents) : contents = [] := by
  generalize hpacks : ([] : List HXMessagePackage) = packs at h
  cases h with
  | between calls =>
    cases calls with
    | nil => rfl
    | cons call calls =>
      rw [List.flatMap_cons] at hpacks
      exact absurd (List.append_eq_nil_iff.mp hpacks.symm).1 call.packages_ne_nil
  | inside m k hk hb calls =>
    rw [Prepared.rest, List.append_assoc] at hpacks
    exact absurd (List.append_eq_nil_iff.mp (List.append_eq_nil_iff.mp hpacks.symm).2).1
      (List.cons_ne_nil _ _)

open HXMessageQueueAB

theorem appended_plain (h : ¬isBigStream pack.header.id) :
    appended z pack b = .ok (some pack, b) := if_neg h

theorem appended_none {b' : HXBigMessageQueue} (hbig : isBigStream pack.header.id)
    (h : recvPackage z b pack = .ok (false, b')) : appended z pack b = .ok (none, b') := by
  rw [appended, if_pos hbig, h, ok_bind]
  exact if_neg Bool.false_ne_true

theorem appended_some {b' : HXBigMessageQueue} {e : HXMessagePackage}
    (hbig : isBigStream pack.header.id)
    (h : recvPackage z b pack = .ok (true, b')) (he : deliver b' pack = .ok e) :
    appended z pack b = .ok (some e, b') := by
  rw [appended, if_pos hbig, h, ok_bind, if_pos rfl, he]
  rfl

theorem Awaits.next (h : Awaits z b (p :: packs) contents) (hcopy : Copies pack p) :
    ∃ e b' contents', appended z pack b = .ok (e, b') ∧ contents = e.toList.map contentOf ++ contents' ∧
      Awaits z b' packs contents' := by
  generalize hpacks : p :: packs = all at h
  cases h with
  | between calls =>
    cases calls with
    | nil => exact nomatch hpacks
    | cons call calls =>
      rw [List.flatMap_cons] at hpacks
      cases call with
      | small m =>
        obtain ⟨rfl, rfl⟩ := List.cons.inj hpacks
        have hplain : ¬isBigStream pack.header.id := by
          rw [hcopy.header_eq]
          exact m.plain
        refine ⟨some pack, b, calls.map Call.content, appended_plain hplain, ?_, .between b calls⟩
        exact congrArg (· :: _) (hcopy.contentOf_eq m.pointer_eq).symm
      | big m =>
        rw [Call.packages, m.mQueue_eq_cons] at hpacks
        obtain ⟨rfl, rfl⟩ := List.cons.inj hpacks
        obtain ⟨hrecv, hb'⟩ := @gathered_begin z m.header m.data b pack _ m.announces hcopy
        have hbig : isBigStream pack.header.id := Or.inl (congrArg Header.id hcopy.header_eq)
        exact ⟨none, _, _, appended_none hbig hrecv, rfl, .inside _ m 0 (Nat.zero_le _) hb' calls⟩
  | inside m k hk hb calls =>
    rcases Nat.lt_or_eq_of_le hk with hlt | rfl
    · rw [m.rest_of_lt hlt] at hpacks
      obtain ⟨rfl, rfl⟩ := List.cons.inj hpacks
      obtain ⟨b', hrecv, hb'⟩ := @gathered_section z m.header m.data k b pack _ m.announces hlt hb hcopy
      have hbig : isBigStream pack.header.id := Or.inr (Or.inl (congrArg Header.id hcopy.header_eq))
      exact ⟨none, b', _, appended_none hbig hrecv, rfl, .inside b' m (k + 1) hlt hb' calls⟩
    · rw [m.rest_count] at hpacks
      obtain ⟨rfl, rfl⟩ := List.cons.inj hpacks
      have hrecv := @gathered_end z m.id m.id2 m.data b pack _ hb hcopy
      obtain ⟨e, he, hcontent⟩ := @deliver_collected m.id m.id2 m.data b pack m.fits hb
      have hbig : isBigStream pack.header.id := Or.inr (Or.inr (congrArg Header.id hcopy.header_eq))
      refine ⟨some e, b, calls.map Call.content, appended_some hbig hrecv he, ?_, .between b calls⟩
      exact congrArg (· :: _) hcontent.symm

end Awaits
end HXService
