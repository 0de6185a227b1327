import HXService.Lib.Runs
import HXService.MessageQueue

/-! Reassembly of a hostile package sequence: when no step of the receiver
leaves its arrays or the range of `int`, and what a delivered entry points to. -/

namespace HXService.Reassembly
open Bytes Runs HXBigMessageQueue HXMessageQueueAB

/-- A package as it is read off a connection: its body fits and it points to no
big data. -/
structure Received where
  pack : HXMessagePackage
  pointer_eq : pack.bigDataPointer = none
  inRange : pack.header.InRange

namespace Received

def ofBody (id id2 : UInt16) (body : List UInt8) (h : body.length ≤ maxBodyLength) : Received :=
  ⟨HXMessagePackage.filled LinkID.zero id id2 body h, rfl,
    HXMessagePackage.filled_inRange LinkID.zero id id2 h⟩

def bigHeader (p : Received) : MBigHeader := MBigHeader.ofBytes p.pack.data.bytes

def ofBigHeader (id : UInt16) (h : MBigHeader) : Received :=
  ofBody id 0 h.bytes h.length_bytes_le

theorem bigHeader_ofBigHeader (id : UInt16) (h : MBigHeader) : (ofBigHeader id h).bigHeader = h :=
  MBigHeader.ofBytes_store h (Block.zeros maxBodyLength) h.length_bytes_le

@[simp] theorem id_ofBigHeader (id : UInt16) (h : MBigHeader) :
    (ofBigHeader id h).pack.header.id = id := rfl

end Received

/-! `Names h p`: the end package `p` agrees with `h` in the two fields the
receiver compares. `pointedSize` is the size of the array an entry points to. -/

def Names (h : MBigHeader) (p : Received) : Prop :=
  p.bigHeader.dataLength = h.dataLength ∧ p.bigHeader.sectionCount = h.sectionCount

instance (h : MBigHeader) (p : Received) : Decidable (Names h p) := inferInstanceAs (Decidable (_ ∧ _))

def pointedSize (e : HXMessagePackage) : Nat := (e.bigDataPointer.getD []).length

variable (z : Zlib)

abbrev Receiver := HXMessageQueueAB × HXBigMessageQueue

def feed (s : Receiver) (p : Received) : Option Receiver := (addWith z s.1 p.pack s.2).toOption

/-- No fault, and what a big-message package appends has a length equal to the
size of the data it points to. -/
def SafeStep (s : Receiver) (p : Received) : Prop :=
  ∃ s', addWith z s.1 p.pack s.2 = .ok s' ∧
    (isBigStream p.pack.header.id → ∀ e, s'.1.current = s.1.current ++ [e] →
      e.header.length.toInt = pointedSize e)

def Inflates (b : HXBigMessageQueue) : Prop :=
  (z.uncompress2 b.mRecvData b.mHeader.originalLength.toNat).1 = true ∧
  (z.uncompress2 b.mRecvData b.mHeader.originalLength.toNat).2.length = b.mHeader.originalLength.toNat

/-- The header the peer announced is honest where this package relies on it. -/
def HonestStep (s : Receiver) (p : Received) : Prop :=
  (p.pack.header.id = idBigStreamData → s.2.mRecvData.length = s.2.mHeader.dataLength.toNat →
    0 < s.2.mRecvData.length → p.pack.header.id2 < s.2.mHeader.sectionCount →
    sectionOffset s.2.mHeader p.pack + p.pack.bodyLength < 2 ^ 31) ∧
  (p.pack.header.id = idBigStreamEnd → Names s.2.mHeader p → 0 < s.2.mHeader.zipLevel →
    0 < s.2.mHeader.originalLength.toNat ∧ 0 < s.2.mRecvData.length ∧
    (Inflates z s.2 → s.2.mHeader.originalLength.toNat < 2 ^ 31)) ∧
  (p.pack.header.id = idBigStreamEnd → Names s.2.mHeader p → s.2.mHeader.zipLevel = 0 →
    s.2.mHeader.originalLength.toNat = s.2.mRecvData.length ∧
    s.2.mHeader.originalLength.toNat < 2 ^ 31)

/-- A delivered entry has the announced length and points to a copy of the
received data; the copy is in range when the announced length does not exceed it. -/
theorem deliver_spec {b : HXBigMessageQueue} {msg e : HXMessagePackage}
    (hmsg : msg.bigDataPointer = none) (he : deliver b msg = .ok e) :
    e.header.length = b.mHeader.originalLength.toInt32 ∧ pointedSize e = b.mRecvData.length := by
  by_cases hempty : b.mRecvData.length = 0
  · rw [deliver_empty hempty] at he
    obtain rfl := Except.ok.inj he
    refine ⟨rfl, ?_⟩
    rw [pointedSize, hmsg, hempty]
    rfl
  by_cases hfit : b.mHeader.originalLength.toNat ≤ b.mRecvData.length
  · rw [deliver_fits hempty hfit] at he
    obtain rfl := Except.ok.inj he
    refine ⟨rfl, ?_⟩
    rw [pointedSize, Option.getD_some, length_patch, List.length_replicate]
    rw [List.length_take, List.length_replicate]
    omega
  · rw [deliver_overruns hempty (not_le.mp hfit)] at he
    exact nomatch he

theorem deliver_sound_iff {b : HXBigMessageQueue} {msg : HXMessagePackage}
    (hmsg : msg.bigDataPointer = none) :
    (∃ e, deliver b msg = .ok e ∧ e.header.length.toInt = pointedSize e) ↔
      b.mHeader.originalLength.toNat = b.mRecvData.length ∧
      b.mHeader.originalLength.toNat < 2 ^ 31 := by
  constructor
  · rintro ⟨e, he, hlen⟩
    obtain ⟨hheader, hsize⟩ := deliver_spec hmsg he
    rw [hheader, hsize] at hlen
    have hlt := lt_of_toInt_toInt32 hlen
    rw [toInt_toInt32 hlt] at hlen
    exact ⟨by exact_mod_cast hlen, hlt⟩
  · rintro ⟨ho, hlt⟩
    have hok : ∃ e, deliver b msg = .ok e := by
      by_cases hempty : b.mRecvData.length = 0
      · exact ⟨_, deliver_empty hempty⟩
      · exact ⟨_, deliver_fits hempty ho.le⟩
    obtain ⟨e, he⟩ := hok
    obtain ⟨hheader, hsize⟩ := deliver_spec hmsg he
    exact ⟨e, he, by rw [hheader, hsize, toInt_toInt32 hlt, ho]⟩

theorem inflate_fst_iff (b : HXBigMessageQueue) : (inflate z b).1 = true ↔ Inflates z b := by
  simp only [inflate, length_resize, Bool.and_eq_true, beq_iff_eq, Inflates]

theorem append_singleton_inj {α : Type*} {xs : List α} {a b : α} (h : xs ++ [a] = xs ++ [b]) : a = b :=
  List.singleton_injective (List.append_cancel_left h)

theorem safeStep_big_iff {s : Receiver} {p : Received} (hb : isBigStream p.pack.header.id) :
    SafeStep z s p ↔ ∃ done b, recvPackage z s.2 p.pack = .ok (done, b) ∧
      (done = true → b.mHeader.originalLength.toNat = b.mRecvData.length ∧
        b.mHeader.originalLength.toNat < 2 ^ 31) := by
  rw [SafeStep, addWith_big hb]
  constructor
  · rintro ⟨s', hs', hsound⟩
    obtain ⟨⟨done, b⟩, hrecv, hs'⟩ := bind_eq_ok.mp hs'
    refine ⟨done, b, hrecv, ?_⟩
    rintro rfl
    rw [if_pos rfl] at hs'
    obtain ⟨e, he, hs'⟩ := bind_eq_ok.mp hs'
    obtain rfl := Except.ok.inj hs'
    exact (deliver_sound_iff p.pointer_eq).mp ⟨e, he, hsound hb e (current_setCurrent ..)⟩
  · rintro ⟨done, b, hrecv, hsound⟩
    rw [hrecv, ok_bind]
    cases done with
    | false =>
      refine ⟨_, rfl, ?_⟩
      intro _ e he
      exact absurd (congrArg List.length he) (by simp)
    | true =>
      obtain ⟨e, he, hlen⟩ := (deliver_sound_iff p.pointer_eq).mpr (hsound rfl)
      rw [if_pos rfl, he, ok_bind]
      refine ⟨_, rfl, ?_⟩
      intro _ e' he'
      rw [current_setCurrent] at he'
      rw [← append_singleton_inj he']
      exact hlen

theorem safeStep_data_iff {s : Receiver} {p : Received} (hid : p.pack.header.id = idBigStreamData) :
    SafeStep z s p ↔ (s.2.mRecvData.length = s.2.mHeader.dataLength.toNat → 0 < s.2.mRecvData.length →
      p.pack.header.id2 < s.2.mHeader.sectionCount →
      sectionOffset s.2.mHeader p.pack + p.pack.bodyLength < 2 ^ 31) := by
  rw [safeStep_big_iff z (Or.inr (Or.inl hid)), recvPackage_data hid p.pointer_eq p.inRange]
  constructor
  · rintro ⟨done, b, hrecv, -⟩ hsized hpos hcount
    by_contra hover
    rw [if_neg, if_pos (not_lt.mp hover)] at hrecv
    · exact nomatch hrecv
    · rintro (h | h | h)
      · exact h hsized
      · omega
      · exact absurd hcount (UInt16.not_lt.mpr h)
  · intro h
    split_ifs with h1 h2 h3
    · exact ⟨false, s.2, rfl, nofun⟩
    · obtain ⟨hsized, hne, hcount⟩ : s.2.mRecvData.length = s.2.mHeader.dataLength.toNat ∧
          s.2.mRecvData.length ≠ 0 ∧ p.pack.header.id2 < s.2.mHeader.sectionCount := by
        simpa only [not_or, not_not, UInt16.not_le] using h1
      have hlt := h hsized (Nat.pos_of_ne_zero hne) hcount
      omega
    · exact ⟨false, s.2, rfl, nofun⟩
    · exact ⟨false, _, rfl, nofun⟩

theorem safeStep_end_iff {s : Receiver} {p : Received} (hid : p.pack.header.id = idBigStreamEnd) :
    SafeStep z s p ↔
      (Names s.2.mHeader p → 0 < s.2.mHeader.zipLevel →
        0 < s.2.mHeader.originalLength.toNat ∧ 0 < s.2.mRecvData.length ∧
        (Inflates z s.2 → s.2.mHeader.originalLength.toNat < 2 ^ 31)) ∧
      (Names s.2.mHeader p → s.2.mHeader.zipLevel = 0 →
        s.2.mHeader.originalLength.toNat = s.2.mRecvData.length ∧
        s.2.mHeader.originalLength.toNat < 2 ^ 31) := by
  rw [safeStep_big_iff z (Or.inr (Or.inr hid)), recvPackage_end hid p.pointer_eq]
  change (∃ done b, (if Names s.2.mHeader p then _ else _) = _ ∧ _) ↔ _
  by_cases hnames : Names s.2.mHeader p
  case neg =>
    rw [if_neg hnames]
    exact ⟨fun _ => ⟨fun h => absurd h hnames, fun h => absurd h hnames⟩,
      fun _ => ⟨false, s.2, rfl, nofun⟩⟩
  rw [if_pos hnames]
  by_cases hzip : 0 < s.2.mHeader.zipLevel
  · have hne : s.2.mHeader.zipLevel ≠ 0 := fun h => absurd (h ▸ hzip) (by decide)
    rw [if_pos hzip]
    constructor
    · rintro ⟨done, b, hrecv, hsound⟩
      refine ⟨fun _ _ => ?_, fun _ h => absurd h hne⟩
      split_ifs at hrecv with hempty
      obtain ⟨rfl, rfl⟩ := Prod.mk.inj (Except.ok.inj hrecv)
      rw [not_or] at hempty
      exact ⟨Nat.pos_of_ne_zero hempty.1, Nat.pos_of_ne_zero hempty.2,
        fun h => (hsound ((inflate_fst_iff z s.2).mpr h)).2⟩
    · rintro ⟨h, -⟩
      obtain ⟨ho, hd, hlt⟩ := h hnames hzip
      rw [if_neg (by omega)]
      refine ⟨_, _, rfl, fun hdone => ⟨?_, hlt ((inflate_fst_iff z s.2).mp hdone)⟩⟩
      have hfit := z.uncompress2_fits s.2.mRecvData s.2.mHeader.originalLength.toNat
      simp only [length_resize]
      rw [length_patch (by rw [length_resize]; omega), length_resize]
  · have hzero : s.2.mHeader.zipLevel = 0 := by
      rw [UInt8.lt_iff_toNat_lt, UInt8.toNat_zero] at hzip
      rw [← UInt8.toNat_inj, UInt8.toNat_zero]
      omega
    rw [if_neg hzip]
    constructor
    · rintro ⟨done, b, hrecv, hsound⟩
      obtain ⟨rfl, rfl⟩ := Prod.mk.inj (Except.ok.inj hrecv)
      exact ⟨fun _ h => absurd h hzip, fun _ _ => hsound rfl⟩
    · rintro ⟨-, h⟩
      exact ⟨true, s.2, rfl, fun _ => h hnames hzero⟩

theorem safeStep_iff (s : Receiver) (p : Received) : SafeStep z s p ↔ HonestStep z s p := by
  by_cases hdata : p.pack.header.id = idBigStreamData
  · have hend : p.pack.header.id ≠ idBigStreamEnd := hdata ▸ id_end_ne_data.symm
    rw [safeStep_data_iff z hdata]
    constructor
    · exact fun h => ⟨fun _ => h, fun he => absurd he hend, fun he => absurd he hend⟩
    · exact fun h => h.1 hdata
  by_cases hend : p.pack.header.id = idBigStreamEnd
  · rw [safeStep_end_iff z hend]
    constructor
    · exact fun h => ⟨fun hd => absurd hd hdata, fun _ => h.1, fun _ => h.2⟩
    · exact fun h => ⟨h.2.1 hend, h.2.2 hend⟩
  refine iff_of_true ?_ ⟨fun h => absurd h hdata, fun h => absurd h hend, fun h => absurd h hend⟩
  by_cases hbegin : p.pack.header.id = idBigStreamBegin
  · rw [safeStep_big_iff z (Or.inl hbegin), recvPackage_begin hbegin p.pointer_eq]
    exact ⟨false, _, rfl, nofun⟩
  · have hplain : ¬isBigStream p.pack.header.id := by
      rintro (h | h | h)
      · exact hbegin h
      · exact hdata h
      · exact hend h
    exact ⟨_, addWith_plain hplain, fun h => absurd h hplain⟩

/-- A fresh receiver stays inside its arrays and delivers true lengths exactly
as long as the announced headers are honest. -/
theorem add_safe_iff (z : Zlib) (h : MBigHeader) (q : HXMessageQueueAB) (ps : List Received) :
    Along (feed z) (SafeStep z) (q, new h) ps ↔ Along (feed z) (HonestStep z) (q, new h) ps :=
  along_iff (I := fun _ => True) (fun s p _ => safeStep_iff z s p) (fun _ _ _ _ _ => trivial) trivial

def plainHeader (dataLength originalLength : UInt32) : MBigHeader :=
  ⟨0, UInt16.ofNat maxBodyLength, 1000, 0, dataLength, originalLength, 1⟩

theorem feed_begin (z : Zlib) (q : HXMessageQueueAB) (b : HXBigMessageQueue) (h : MBigHeader) :
    feed z (q, b) (Received.ofBigHeader idBigStreamBegin h) = some (q, { b with
      mQueue := []
      mHeader := h
      mRecvData := resize b.mRecvData h.dataLength.toNat 0 }) := by
  have hbig : isBigStream (Received.ofBigHeader idBigStreamBegin h).pack.header.id := Or.inl rfl
  have hload := Received.bigHeader_ofBigHeader idBigStreamBegin h
  rw [Received.bigHeader] at hload
  rw [feed, addWith_big hbig, recvPackage_begin rfl rfl, ok_bind, hload]
  rfl

theorem names_ofBigHeader (h : MBigHeader) : Names h (Received.ofBigHeader idBigStreamEnd h) := by
  rw [Names, Received.bigHeader_ofBigHeader]
  exact ⟨rfl, rfl⟩

/-- Two bytes announced, one received: the copy leaves the receive buffer. -/
theorem add_overruns : ¬Along (feed Zlib.refusing) (SafeStep Zlib.refusing)
    (HXMessageQueueAB.new, new (plainHeader 0 0))
    [Received.ofBigHeader idBigStreamBegin (plainHeader 1 2),
      Received.ofBigHeader idBigStreamEnd (plainHeader 1 2)] := by
  intro h
  obtain ⟨hsafe, -⟩ := h.2 _ (feed_begin ..)
  have hhonest := (safeStep_iff ..).mp hsafe
  obtain ⟨hlen, -⟩ := hhonest.2.2 rfl (names_ofBigHeader _) rfl
  rw [length_resize] at hlen
  exact absurd hlen (by decide)

end HXService.Reassembly
