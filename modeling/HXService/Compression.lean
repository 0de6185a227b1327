import HXService.RoundTrip

/-! Big messages with a compression level. The receiver goes by the level in the
header, which the sender sets to what it was asked for, whether `compress2` has
succeeded or not. -/

namespace HXService
open Bytes Sectioning HXBigMessageQueue

/-- What zlib documents of its two calls, beside the bounds `Zlib` has. -/
def Zlib.Faithful (z : Zlib) : Prop :=
  ∀ src destLen level out, z.compress2 src destLen level = some out →
    z.uncompress2 out src.length = (true, src)

namespace Compression

def sentBytes (z : Zlib) (data : List UInt8) (zipLevel : Int) : List UInt8 :=
  (deflated z data zipLevel).getD data

-- 65536 sections are announced as none, and the receive buffer stays as it is resized
def arrived (b : HXBigMessageQueue) (sent : List UInt8) : List UInt8 :=
  if count sent < 65536 then sent else resize b.mRecvData sent.length 0

section Sending
variable {z : Zlib} {b q : HXBigMessageQueue} {id id2 : UInt16} {data sent : List UInt8} {zipLevel : Int}

theorem length_arrived : (arrived b sent).length = sent.length := by
  unfold arrived
  split_ifs
  · rfl
  · apply length_resize

theorem length_sentBytes_le : (sentBytes z data zipLevel).length ≤ data.length + 2048 := by
  unfold sentBytes deflated
  split_ifs
  · cases hout : z.compress2 data (data.length + 2048) zipLevel.toNat with
    | none => simp
    | some out =>
      have hfits := z.compress2_fits _ _ _ _ hout
      simpa using hfits
  · simp

theorem count_sentBytes (hdata : count data < 65536)
    (hsent : ¬count (sentBytes z data zipLevel) < 65536) :
    count (sentBytes z data zipLevel) = 65536 := by
  have hle := @length_sentBytes_le z data zipLevel
  have hmax : maxBodyLength = 32768 := rfl
  simp only [count, hmax] at *
  omega

theorem arrived_eq_iff (hdata : count data < 65536) : arrived b sent = data ↔ sent = data := by
  constructor
  · intro h
    have hlength : sent.length = data.length := by rw [← length_arrived, h]
    have hcount : count sent < 65536 := by rwa [count, hlength]
    rwa [arrived, if_pos hcount] at h
  · rintro rfl
    exact if_pos hdata

/-- What the sender leaves in its queue and the receiver has behind all packages but the last. -/
theorem sent_and_gathered (z : Zlib) (b q : HXBigMessageQueue) (id id2 : UInt16) (zipLevel : Int)
    (hdata : count data < 65536) :
    ∃ r front temp b', q.setBigPackage z id id2 data zipLevel = .ok r ∧
      r.mQueue = front ++ [markPackage idBigStreamEnd r.mHeader temp] ∧
      temp.bigDataPointer = none ∧
      recvPackages z b front = .ok (List.replicate front.length false, b') ∧
      b'.mHeader = r.mHeader ∧
      r.mHeader = bigHeader id id2 zipLevel (sentBytes z data zipLevel).length data.length ∧
      b'.mRecvData = arrived b (sentBytes z data zipLevel) := by
  have hmax : maxBodyLength = 32768 := rfl
  have hlt := length_lt_of_count hdata
  have hle := @length_sentBytes_le z data zipLevel
  generalize hsent : sentBytes z data zipLevel = sent at *
  generalize hheader : bigHeader id id2 zipLevel sent.length data.length = mHeader
  have hdataLength : mHeader.dataLength.toNat = sent.length := by
    rw [← hheader]
    exact UInt32.toNat_ofNat_of_lt (show sent.length < 4294967296 by omega)
  by_cases hfits : count sent < 65536
  · have ha : Announces mHeader sent := by
      refine ⟨?_, hdataLength, ?_⟩
      · rw [← hheader]
        rfl
      · rw [← hheader]
        exact UInt16.toNat_ofNat_of_lt hfits
    obtain ⟨b', hrun, hb'⟩ := gathered_packages z b ha
    have hset := @setBigPackage_sent id id2 data z q zipLevel sent (by omega) hsent hfits
    rw [hheader] at hset
    refine ⟨_, beginPack mHeader :: sections sent (beginPack mHeader) (count sent),
      temps sent (beginPack mHeader) (count sent), b', hset, rfl, pointer_temps, ?_,
      hb'.mHeader_eq, rfl, ?_⟩
    · rw [List.length_cons, length_sections]
      exact hrun
    · rw [arrived, if_pos hfits, hb'.mRecvData_eq]
  · have hwraps : count sent = 65536 := by
      rw [← hsent] at hfits ⊢
      exact count_sentBytes hdata hfits
    have hcount : mHeader.sectionCount.toNat = 0 := by
      rw [← hheader]
      show (UInt16.ofNat (count sent)).toNat = 0
      rw [hwraps]
      rfl
    have hset := @setBigPackage_loop id id2 data z q zipLevel sent mHeader 0 (by omega) hsent hheader
      hcount rfl
    have hrecv := @recvPackage_begin z b (beginPack mHeader) rfl rfl
    have hload : MBigHeader.ofBytes (beginPack mHeader).data.bytes = mHeader :=
      MBigHeader.ofBytes_store mHeader _ mHeader.length_bytes_le
    rw [hload, hdataLength] at hrecv
    refine ⟨_, [beginPack mHeader], beginPack mHeader, _, hset, rfl, rfl,
      recvPackages_cons hrecv, rfl, rfl, ?_⟩
    rw [arrived, if_neg hfits]

theorem restores_iff_last {r b' : HXBigMessageQueue} {front : List HXMessagePackage}
    {p : HXMessagePackage} (hset : q.setBigPackage z id id2 data zipLevel = .ok r)
    (hqueue : r.mQueue = front ++ [p])
    (hfront : recvPackages z b front = .ok (List.replicate front.length false, b')) :
    Restores z b q id id2 data zipLevel ↔
      ∃ b'', b'.recvPackage z p = .ok (true, b'') ∧ b''.mRecvData = data ∧ b''.mHeader.id = id ∧
        b''.mHeader.id2 = id2 ∧ b''.mHeader.originalLength.toNat = data.length := by
  unfold Restores
  constructor
  · rintro ⟨r', b'', hr', hrecv, hrest⟩
    rw [hset] at hr'
    cases hr'
    rw [hqueue, recvPackages_last hfront] at hrecv
    exact ⟨b'', hrecv, hrest⟩
  · rintro ⟨b'', hrecv, hrest⟩
    refine ⟨r, b'', hset, ?_, hrest⟩
    rw [hqueue, recvPackages_last hfront]
    exact hrecv

theorem inflate_eq_iff {b' : HXBigMessageQueue}
    (horiginal : b'.mHeader.originalLength.toNat = data.length) :
    (∃ b'', inflate z b' = (true, b'') ∧ b''.mRecvData = data ∧ b''.mHeader = b'.mHeader) ↔
      z.uncompress2 b'.mRecvData data.length = (true, data) := by
  have hdest : (resize b'.mRecvData data.length 0).length = data.length := length_resize _ _ _
  unfold inflate
  dsimp only
  rw [horiginal, hdest]
  generalize z.uncompress2 b'.mRecvData data.length = out
  obtain ⟨ok, bytes⟩ := out
  constructor
  · rintro ⟨b'', hout, hbytes, -⟩
    obtain ⟨hok, rfl⟩ := Prod.mk.inj hout
    rw [Bool.and_eq_true, beq_iff_eq] at hok
    dsimp only at hok hbytes
    rw [patch_full (hok.2.trans hdest.symm)] at hbytes
    rw [hok.1, hbytes]
  · intro hout
    obtain ⟨rfl, rfl⟩ := Prod.mk.inj hout
    have hpatch := patch_full hdest.symm
    rw [hpatch]
    exact ⟨{ b' with mRecvData := bytes }, by simp, rfl, rfl⟩

/-- Nothing but the end package decides whether the message arrives. -/
theorem restores_iff (hdata : count data < 65536) :
    Restores z b q id id2 data zipLevel ↔
      if UInt8.ofInt zipLevel = 0 then sentBytes z data zipLevel = data
      else data ≠ [] ∧ sentBytes z data zipLevel ≠ [] ∧
        z.uncompress2 (arrived b (sentBytes z data zipLevel)) data.length = (true, data) := by
  obtain ⟨r, front, temp, b', hset, hqueue, htemp, hfront, hheader, hsent, harrived⟩ :=
    @sent_and_gathered data z b q id id2 zipLevel hdata
  have horiginal : r.mHeader.originalLength.toNat = data.length := by
    rw [hsent]
    exact @toNat_originalLength id id2 data hdata
  have hlevel : r.mHeader.zipLevel = UInt8.ofInt zipLevel := congrArg MBigHeader.zipLevel hsent
  have hid : r.mHeader.id = id := congrArg MBigHeader.id hsent
  have hid2 : r.mHeader.id2 = id2 := congrArg MBigHeader.id2 hsent
  have hend := @recvPackage_marked z _ b' _ temp hheader (.refl htemp)
  rw [restores_iff_last hset hqueue hfront, hend, hlevel, horiginal, harrived, length_arrived]
  by_cases hzero : UInt8.ofInt zipLevel = 0
  · rw [if_pos hzero, hzero, if_neg (UInt8.lt_irrefl 0), ← arrived_eq_iff hdata, ← harrived]
    constructor
    · rintro ⟨b'', hb'', hbytes, -⟩
      cases hb''
      exact hbytes
    · intro hbytes
      rw [← hheader] at hid hid2 horiginal
      exact ⟨b', rfl, hbytes, hid, hid2, horiginal⟩
  · have hpos : 0 < UInt8.ofInt zipLevel := UInt8.pos_iff_ne_zero.mpr hzero
    rw [if_neg hzero, if_pos hpos, ne_eq, ne_eq, ← List.length_eq_zero_iff,
      ← List.length_eq_zero_iff]
    by_cases hempty : data.length = 0 ∨ (sentBytes z data zipLevel).length = 0
    · rw [if_pos hempty]
      constructor
      · rintro ⟨b'', hb'', -⟩
        cases hb''
      · rintro ⟨hdata', hsent', -⟩
        exact absurd hempty (not_or.mpr ⟨hdata', hsent'⟩)
    · obtain ⟨hdata', hsent'⟩ := not_or.mp hempty
      rw [← hheader] at hid hid2 horiginal
      rw [if_neg hempty, ← harrived, ← inflate_eq_iff horiginal]
      constructor
      · rintro ⟨b'', hb'', hbytes, -⟩
        refine ⟨hdata', hsent', b'', Except.ok.inj hb'', hbytes, ?_⟩
        exact congrArg (HXBigMessageQueue.mHeader ∘ Prod.snd) (Except.ok.inj hb'').symm
      · rintro ⟨-, -, b'', hb'', hbytes, hsame⟩
        exact ⟨b'', congrArg Except.ok hb'', hbytes, hsame ▸ hid, hsame ▸ hid2, hsame ▸ horiginal⟩

end Sending

/-! ## When a compressed message arrives -/

/-- Either the level in the header is 0, which is taken for `ZipLevel_None`, and
the payload was sent as it is; or the receiver inflates, which is right for the
output of `compress2` as long as its sections can be counted. It is right for
other bytes only if they happen to inflate to the payload. -/
def Inflates (z : Zlib) (b : HXBigMessageQueue) (data : List UInt8) (zipLevel : Int) : Prop :=
  if UInt8.ofInt zipLevel = 0 then sentBytes z data zipLevel = data
  else data ≠ [] ∧ sentBytes z data zipLevel ≠ [] ∧
    ((deflated z data zipLevel).isSome ∧ count (sentBytes z data zipLevel) < 65536 ∨
      z.uncompress2 (arrived b (sentBytes z data zipLevel)) data.length = (true, data))

section Transparency
variable {z : Zlib} {b : HXBigMessageQueue} {data : List UInt8} {zipLevel : Int}

theorem uncompress_deflated (hz : z.Faithful) (hsome : (deflated z data zipLevel).isSome)
    (hfits : count (sentBytes z data zipLevel) < 65536) :
    z.uncompress2 (arrived b (sentBytes z data zipLevel)) data.length = (true, data) := by
  obtain ⟨out, hout⟩ := Option.isSome_iff_exists.mp hsome
  rw [arrived, if_pos hfits, sentBytes, hout, Option.getD_some]
  unfold deflated at hout
  split_ifs at hout
  exact hz _ _ _ _ hout

theorem compressed_restored_iff (z : Zlib) (hz : z.Faithful) (b q : HXBigMessageQueue)
    (id id2 : UInt16) (data : List UInt8) (zipLevel : Int)
    (hlength : data.length / 32768 + 1 ≤ 65535) :
    Restores z b q id id2 data zipLevel ↔ Inflates z b data zipLevel := by
  rw [restores_iff (Nat.lt_succ_of_le hlength)]
  unfold Inflates
  by_cases hzero : UInt8.ofInt zipLevel = 0
  · simp [hzero]
  · rw [if_neg hzero, if_neg hzero]
    constructor
    · rintro ⟨hdata, hsent, hinflated⟩
      exact ⟨hdata, hsent, Or.inr hinflated⟩
    · rintro ⟨hdata, hsent, ⟨hsome, hfits⟩ | hinflated⟩
      · exact ⟨hdata, hsent, uncompress_deflated hz hsome hfits⟩
      · exact ⟨hdata, hsent, hinflated⟩

/-! The streams zlib makes of the payload `a` and of the empty one at level 6.
`compress2` refuses a level that is not between -1 and 9. -/

def streamOfA : List UInt8 := [0x78, 0x9c, 0x4b, 0x04, 0x00, 0x00, 0x62, 0x00, 0x62]
def streamOfNone : List UInt8 := [0x78, 0x9c, 0x03, 0x00, 0x00, 0x00, 0x00, 0x01]

def compressSix (src : List UInt8) (destLen level : Nat) : Option (List UInt8) :=
  if src = [0x61] ∧ level = 6 ∧ 9 ≤ destLen then some streamOfA
  else if src = [] ∧ level = 6 ∧ 8 ≤ destLen then some streamOfNone
  else none

def uncompressSix (src : List UInt8) (destLen : Nat) : Bool × List UInt8 :=
  if src = streamOfA ∧ 1 ≤ destLen then (true, [0x61]) else (decide (src = streamOfNone), [])

theorem compressSix_fits (src : List UInt8) (destLen level : Nat) (out : List UInt8)
    (h : compressSix src destLen level = some out) : out.length ≤ destLen := by
  unfold compressSix at h
  split_ifs at h with h1 h2
  · rw [← Option.some.inj h]
    exact h1.2.2
  · rw [← Option.some.inj h]
    exact h2.2.2

theorem uncompressSix_fits (src : List UInt8) (destLen : Nat) :
    (uncompressSix src destLen).2.length ≤ destLen := by
  unfold uncompressSix
  split_ifs with h
  · exact h.2
  · exact Nat.zero_le _

def levelSix : Zlib := ⟨compressSix, uncompressSix, compressSix_fits, uncompressSix_fits⟩

theorem faithful_levelSix : levelSix.Faithful := by
  intro src destLen level out h
  unfold levelSix at *
  dsimp only at *
  unfold compressSix at h
  split_ifs at h with h1 h2
  · rw [← Option.some.inj h, h1.1]
    rfl
  · rw [← Option.some.inj h, h2.1]
    rfl

theorem compressed_restored_a : Restores levelSix (new (plainHeader 0 0 [])) (new (plainHeader 0 0 []))
    1000 3 [0x61] 6 :=
  (compressed_restored_iff levelSix faithful_levelSix _ _ 1000 3 [0x61] 6 (by decide)).mpr
    ⟨by decide, by decide, Or.inl (by decide)⟩

/-- The empty payload is compressed, and the receiver reaches for the first byte
of the payload; a level that `compress2` refuses is announced all the same. -/
theorem compressed_lost : levelSix.Faithful ∧
    ¬Restores levelSix (new (plainHeader 0 0 [])) (new (plainHeader 0 0 [])) 1000 3 [] 6 ∧
    ¬Restores levelSix (new (plainHeader 0 0 [])) (new (plainHeader 0 0 [])) 1000 3 [0x61] 10 := by
  refine ⟨faithful_levelSix, ?_, ?_⟩
  · rw [restores_iff (by decide)]
    exact fun h => h.1 rfl
  · rw [restores_iff (by decide)]
    rintro ⟨-, -, hinflated⟩
    exact absurd hinflated (by decide)

end Transparency
end Compression
end HXService
