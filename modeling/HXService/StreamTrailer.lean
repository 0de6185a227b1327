import HXService.DeclaredBody

/-! Where the trailer of a stream message is read and written. -/

namespace HXService.StreamTrailer
open Bytes DeclaredBody

/-- An `ID_FLV_Stream` message whose length is an `int`. -/
structure IsStream (p : HXMessagePackage) : Prop where
  received : Received p
  id : p.header.id = idFLVStream
  length : 0 ≤ p.header.length.toInt

/-- The body, and in front of one in the package itself the header and the link. -/
structure Holds (mem : Memory) (p : HXMessagePackage) : Prop where
  body : mem.load 0 p.bodyLength = p.bodyBytes
  header : p.bigDataPointer = none → mem.load (-8) 8 = p.header.bytes
  link : p.bigDataPointer = none → mem.load (-12) 4 = linkBytes p.mLinkid

def InBody (p : HXMessagePackage) (a : Int) : Prop := 0 ≤ a ∧ a < p.bodyLength

/-- Only the body is read and written, and in it only the time of a trailer. -/
structure Confines (mem : Memory) (p : HXMessagePackage) (now : UInt64) : Prop where
  writes : ∀ a, ¬InBody p a → (handleStream mem p.bodyLength now).mem a = mem a
  reads : ∀ mem' : Memory, (∀ a, InBody p a → mem' a = mem a) →
    (handleStream mem' p.bodyLength now).dTimer = (handleStream mem p.bodyLength now).dTimer ∧
      (handleStream mem' p.bodyLength now).payload = (handleStream mem p.bodyLength now).payload
  payload : (handleStream mem p.bodyLength now).payload =
    if FlvStreamReback.size ≤ p.bodyLength then
      patch p.bodyBytes (p.bodyLength - FlvStreamReback.size) (leBytes 8 now.toNat)
    else p.bodyBytes
  short : p.bodyLength < FlvStreamReback.size → (handleStream mem p.bodyLength now).mem = mem

def Confined (p : HXMessagePackage) : Prop := ∀ mem, Holds mem p → ∀ now, Confines mem p now

section Record
variable {bs word : List UInt8} {now : UInt64}

theorem leBytes_word (h : word.length = 8) : leBytes 8 (UInt64.ofNat (ofLE word)).toNat = word := by
  have hlt := ofLE_lt word
  have hmod : ofLE word % 2 ^ 64 = ofLE word := by
    rw [h] at hlt
    exact Nat.mod_eq_of_lt hlt
  have hword := leBytes_ofLE word
  rw [h] at hword
  rw [UInt64.toNat_ofNat', hmod, hword]

theorem bytes_stamped (h : bs.length = FlvStreamReback.size) :
    { FlvStreamReback.ofBytes bs with dTimer := now }.bytes = leBytes 8 now.toNat ++ bs.drop 8 := by
  have hsize : FlvStreamReback.size = 40 := rfl
  have hword : ∀ i, i < 5 → leBytes 8 (UInt64.ofNat (ofLE ((bs.drop (8 * i)).take 8))).toNat =
      (bs.drop (8 * i)).take 8 := by
    intro i hi
    apply leBytes_word
    rw [List.length_take, List.length_drop]
    omega
  have hrest : ∀ i, bs.drop i = (bs.drop i).take 8 ++ bs.drop (i + 8) := by
    intro i
    rw [← List.drop_drop, List.take_append_drop]
  have hlast : bs.drop 32 = (bs.drop 32).take 8 := by
    have hend : bs.drop (32 + 8) = [] := List.drop_eq_nil_of_le (by omega)
    have h32 := hrest 32
    rwa [hend, List.append_nil] at h32
  have htail : bs.drop 8 = (bs.drop 8).take 8 ++ ((bs.drop 16).take 8 ++ ((bs.drop 24).take 8 ++
      (bs.drop 32).take 8)) :=
    calc bs.drop 8 = (bs.drop 8).take 8 ++ bs.drop 16 := hrest 8
    _ = (bs.drop 8).take 8 ++ ((bs.drop 16).take 8 ++ bs.drop 24) := congrArg _ (hrest 16)
    _ = (bs.drop 8).take 8 ++ ((bs.drop 16).take 8 ++ ((bs.drop 24).take 8 ++ bs.drop 32)) :=
      congrArg _ (congrArg _ (hrest 24))
    _ = _ := congrArg _ (congrArg _ (congrArg _ hlast))
  unfold FlvStreamReback.bytes FlvStreamReback.ofBytes
  dsimp only
  rw [hword 1 (by decide), hword 2 (by decide), hword 3 (by decide), hword 4 (by decide)]
  simp only [List.append_assoc]
  exact congrArg _ htail.symm

end Record

section Long
variable {p : HXMessagePackage} {mem : Memory} {now : UInt64}

theorem trailerAt_of_le (h : FlvStreamReback.size ≤ p.bodyLength) :
    trailerAt p.bodyLength = 0 + ((p.bodyLength - FlvStreamReback.size : Nat) : Int) := by
  unfold trailerAt
  omega

theorem load_trailer (hbody : mem.load 0 p.bodyLength = p.bodyBytes)
    (h : FlvStreamReback.size ≤ p.bodyLength) :
    mem.load (trailerAt p.bodyLength) FlvStreamReback.size =
      p.bodyBytes.drop (p.bodyLength - FlvStreamReback.size) := by
  have hlength : p.bodyBytes.length = p.bodyLength := by
    rw [← hbody, Memory.length_load]
  rw [trailerAt_of_le h, Memory.load_part (Nat.sub_add_cancel h).le, hbody]
  apply List.take_of_length_le
  rw [List.length_drop, hlength]
  omega

theorem payload_eq (hbody : mem.load 0 p.bodyLength = p.bodyBytes)
    (h : FlvStreamReback.size ≤ p.bodyLength) :
    (handleStream mem p.bodyLength now).payload =
      patch p.bodyBytes (p.bodyLength - FlvStreamReback.size) { FlvStreamReback.ofBytes
        (p.bodyBytes.drop (p.bodyLength - FlvStreamReback.size)) with dTimer := now }.bytes := by
  unfold handleStream stamp trailer
  dsimp only
  rw [load_trailer hbody h, trailerAt_of_le h, Memory.load_store, hbody]
  rw [FlvStreamReback.length_bytes, Nat.sub_add_cancel h]

theorem payload_patched (hbody : mem.load 0 p.bodyLength = p.bodyBytes)
    (h : FlvStreamReback.size ≤ p.bodyLength) :
    (handleStream mem p.bodyLength now).payload =
      patch p.bodyBytes (p.bodyLength - FlvStreamReback.size) (leBytes 8 now.toNat) := by
  have hlength : p.bodyBytes.length = p.bodyLength := by
    rw [← hbody, Memory.length_load]
  have htrailer : (p.bodyBytes.drop (p.bodyLength - FlvStreamReback.size)).length =
      FlvStreamReback.size := by
    rw [List.length_drop, hlength]
    omega
  have height : (leBytes 8 now.toNat).length = 8 := length_leBytes 8 _
  have hrest := patch_append_drop p.bodyBytes (leBytes 8 now.toNat)
    (p.bodyLength - FlvStreamReback.size)
  rw [height, ← List.drop_drop] at hrest
  rw [payload_eq hbody h, bytes_stamped htrailer, hrest]

theorem dTimer_eq (hbody : mem.load 0 p.bodyLength = p.bodyBytes)
    (h : FlvStreamReback.size ≤ p.bodyLength) :
    (handleStream mem p.bodyLength now).dTimer =
      (FlvStreamReback.ofBytes (p.bodyBytes.drop (p.bodyLength - FlvStreamReback.size))).dTimer := by
  unfold handleStream trailer
  dsimp only
  rw [load_trailer hbody h]

theorem load_body_congr {mem' : Memory} (h : ∀ a, InBody p a → mem' a = mem a) :
    mem'.load 0 p.bodyLength = mem.load 0 p.bodyLength := by
  apply Memory.load_congr
  intro a hlow hhigh
  exact h a ⟨hlow, by omega⟩

theorem confines_of_long (hmem : Holds mem p)
    (h : FlvStreamReback.size ≤ p.bodyLength) :
    Confines mem p now := by
  have hsize : FlvStreamReback.size = 40 := rfl
  constructor
  · intro a hout
    apply Memory.store_outside
    rw [FlvStreamReback.length_bytes]
    unfold trailerAt InBody at *
    omega
  · intro mem' hagree
    have hbody : mem'.load 0 p.bodyLength = p.bodyBytes := (load_body_congr hagree).trans hmem.body
    constructor
    · rw [dTimer_eq hbody h, dTimer_eq hmem.body h]
    · rw [payload_patched hbody h, payload_patched hmem.body h]
  · rw [if_pos h, payload_patched hmem.body h]
  · intro hshort
    omega

end Long

/-! ## Short bodies

The time is stored in front of the body, whatever is there. -/

section Short
variable {p : HXMessagePackage} {mem : Memory} {now : UInt64}

theorem time_stored (len : Nat) :
    (handleStream mem len now).mem (trailerAt len) = UInt8.ofNat now.toNat := Memory.store_first

theorem length_linkBytes (linkID : LinkID) : (linkBytes linkID).length = 4 := by
  unfold linkBytes
  rw [List.length_append, length_leBytes, length_leBytes]

theorem holds_memoryOf (h : Received p) : Holds (memoryOf p) p := by
  have hheader : p.header.bytes.length = 8 := Header.length_bytes p.header
  have hlink := length_linkBytes p.mLinkid
  constructor
  · have hpart := @Memory.load_part (memoryOf p) 0 p.body.length 0 p.bodyLength (by rwa [Nat.zero_add])
    rw [Nat.cast_zero, Int.add_zero, List.drop_zero] at hpart
    rw [hpart, memoryOf, Memory.load_store_self]
    rfl
  · intro _
    have hself := @Memory.load_store_self ((Memory.store (fun _ => 0) (-12) (linkBytes p.mLinkid)))
      (-8) p.header.bytes
    rw [hheader] at hself
    rw [memoryOf, Memory.load_store_apart (by omega), hself]
  · intro _
    have hself := @Memory.load_store_self (fun _ => 0) (-12) (linkBytes p.mLinkid)
    rw [hlink] at hself
    rw [memoryOf, Memory.load_store_apart (by omega), Memory.load_store_apart (by omega), hself]

theorem not_confined_of_short (h : Received p) (hshort : p.bodyLength < FlvStreamReback.size) :
    ¬Confined p := by
  intro hconfined
  have hout : ¬InBody p (trailerAt p.bodyLength) := by
    unfold InBody trailerAt
    omega
  have hbyte (now : UInt64) : UInt8.ofNat now.toNat = memoryOf p (trailerAt p.bodyLength) := by
    rw [← time_stored]
    exact (hconfined _ (holds_memoryOf h) now).writes _ hout
  exact absurd ((hbyte 0).trans (hbyte 1).symm) (by decide)

end Short

/-- The handler stays within the body exactly when a trailer fits in it. -/
theorem confined_iff {p : HXMessagePackage} (h : IsStream p) :
    Confined p ↔ FlvStreamReback.size ≤ p.bodyLength := by
  constructor
  · intro hconfined
    by_contra hshort
    exact not_confined_of_short h.received (not_le.mp hshort) hconfined
  · intro hlong mem hmem now
    exact confines_of_long hmem hlong

def streamOf (length : Int32) : HXMessagePackage :=
  ⟨⟨1, 0⟩, ⟨idFLVStream, 0, length⟩, Block.zeros maxBodyLength, none⟩

theorem isStream_streamOf {length : Int32} (h : (streamOf length).header.InRange) :
    IsStream (streamOf length) := by
  refine ⟨?_, rfl, h.1⟩
  exact (HXMessagePackage.bodyLength_le h).trans_eq (streamOf length).data.size_eq.symm

theorem confined_iff_forty : Confined (streamOf 40) ↔ FlvStreamReback.size ≤ (streamOf 40).bodyLength :=
  confined_iff (isStream_streamOf (by decide))

-- the time is written over `sindex` and six bytes of the header
theorem thirty_not_confined : ¬∀ p, IsStream p → Confined p := by
  intro h
  have hstream : IsStream (streamOf 30) := isStream_streamOf (by decide)
  exact not_confined_of_short hstream.received (by decide) (h _ hstream)

/-! ## The center server

Its handler, in every memory that holds the message. -/

section Center
variable {σ : Type} {net : Network σ} {z : Zlib} {m : UserManager} {p : HXMessagePackage} {mem : Memory}
variable {given : CenterServer.Given} {s : σ}

theorem Holds.agree {mem' : Memory} (h : Holds mem p) (h' : Holds mem' p) {a : Int} (hlow : lowest p ≤ a)
    (hhigh : a < p.bodyLength) : mem' a = mem a := by
  by_cases hbody : 0 ≤ a
  · exact Memory.eq_of_load (h'.body.trans h.body.symm) hbody (by omega)
  · cases hp : p.bigDataPointer with
    | some d =>
      rw [lowest, hp, Option.isSome_some, if_pos rfl] at hlow
      omega
    | none =>
      rw [lowest, hp, Option.isSome_none, if_neg Bool.false_ne_true] at hlow
      rcases lt_or_ge a (-8) with hlink | hheader
      · exact Memory.eq_of_load ((h'.link hp).trans (h.link hp).symm) hlow (by omega)
      · exact Memory.eq_of_load ((h'.header hp).trans (h.header hp).symm) hheader (by omega)

theorem handleFlvStream_outside (h : Received p) (hlow : trailerAt p.bodyLength < lowest p) :
    CenterServer.handleFlvStream net z m p given s = .error .outsideArray := by
  obtain ⟨b, hb, -⟩ := bodyBlock_eq h (le_refl p.bodyLength)
  unfold CenterServer.handleFlvStream
  rw [hb, ok_bind, if_pos hlow]
  rfl

theorem handleFlvStream_eq (h : Received p) (hmem : Holds mem p)
    (hlow : lowest p ≤ trailerAt p.bodyLength) :
    CenterServer.handleFlvStream net z m p given s =
      (m.setOBSStreamClient p.mLinkid.sid.toNat).sendFlvStream net z mem p.bodyLength given.now
        (net.send s p.mLinkid (.data idFLVStreamReback 0
          (leBytes 8 (handleStream mem p.bodyLength (given.now 0)).dTimer.toNat))).2 := by
  obtain ⟨b, hb, -⟩ := bodyBlock_eq h (le_refl p.bodyLength)
  have hagree (a : Int) (hfrom : lowest p ≤ a) (hto : a < p.bodyLength) : memoryOf p a = mem a :=
    hmem.agree (holds_memoryOf h) hfrom hto
  unfold CenterServer.handleFlvStream
  rw [hb, ok_bind, if_neg (not_lt.mpr hlow)]
  dsimp only
  rw [trailer_congr hagree hlow, UserManager.sendFlvStream_congr hagree hlow (lowest_nonpos p)]
  rfl

theorem handleFlvStream_packs (h : Received p) (hmem : Holds mem p) {out : UserManager × σ}
    (hout : CenterServer.handleFlvStream net z m p given s = .ok out) :
    m.bigDataPkt.setBigPackage z idFLVStream 0 (handleStream mem p.bodyLength (given.now 0)).payload 0 =
      .ok out.1.bigDataPkt := by
  rcases lt_or_ge (trailerAt p.bodyLength) (lowest p) with hlow | hlow
  · rw [handleFlvStream_outside h hlow] at hout
    cases hout
  · rw [handleFlvStream_eq h hmem hlow, UserManager.sendFlvStream] at hout
    obtain ⟨pkt, hpkt, hout⟩ := bind_eq_ok.mp hout
    obtain ⟨sent, -, hout⟩ := bind_eq_ok.mp hout
    rw [← Except.ok.inj hout]
    exact hpkt

end Center

end HXService.StreamTrailer
