import HXService.Reassembly

/-! When an end package may be answered `true`: after a begin, once, and with
every byte of the message written since that begin. -/

namespace HXService.Completion
open Bytes Runs Reassembly HXBigMessageQueue

/-! ## The receiver with its history

`begun` is the header of the latest begin package, `sections` are the data
sections copied into the buffer since then, and `ended` says that an end package
has been answered `true` since then. -/

structure Traced where
  queue : HXBigMessageQueue
  begun : Option MBigHeader
  sections : List (Nat × List UInt8)
  ended : Bool

def Fits (h : MBigHeader) (size : Nat) (p : Received) : Prop :=
  size = h.dataLength.toNat ∧ size ≠ 0 ∧ p.pack.header.id2 < h.sectionCount ∧
  sectionOffset h p.pack + p.pack.bodyLength ≤ h.dataLength.toNat

instance (h : MBigHeader) (size : Nat) (p : Received) : Decidable (Fits h size p) :=
  inferInstanceAs (Decidable (_ ∧ _))

def sectionOf (h : MBigHeader) (p : Received) : Nat × List UInt8 :=
  (sectionOffset h p.pack, p.pack.bodyBytes)

namespace Traced

def start (h : MBigHeader) : Traced := ⟨new h, none, [], false⟩

def after (s : Traced) (p : Received) (done : Bool) (queue : HXBigMessageQueue) : Traced :=
  if p.pack.header.id = idBigStreamBegin then ⟨queue, some p.bigHeader, [], false⟩
  else if p.pack.header.id = idBigStreamData ∧ Fits s.queue.mHeader s.queue.mRecvData.length p then
    { s with queue, sections := s.sections ++ [sectionOf s.queue.mHeader p] }
  else { s with queue, ended := s.ended || done }

def step (z : Zlib) (s : Traced) (p : Received) : Option Traced :=
  match recvPackage z s.queue p.pack with
  | .ok (done, queue) => some (s.after p done queue)
  | .error _ => none

end Traced

def message (z : Zlib) (h : MBigHeader) (data : List UInt8) : List UInt8 :=
  if h.zipLevel = 0 then data else (z.uncompress2 data h.originalLength.toNat).2

/-- A package answered `true` ends the message that was begun last, all of it
was written since, it ends it for the first time, and what is delivered does not
depend on what was in the buffer before. -/
def Complete (z : Zlib) (s : Traced) (p : Received) : Prop :=
  ∀ queue, recvPackage z s.queue p.pack = .ok (true, queue) →
    p.pack.header.id = idBigStreamEnd ∧ ∃ h, s.begun = some h ∧ Names h p ∧ s.ended = false ∧
      Covers s.sections h.dataLength.toNat ∧
      ∀ base, base.length = h.dataLength.toNat →
        queue.mRecvData = message z h (overlay base s.sections)

/-! ## The sender's side

What a peer can know: the header it announced last, the size of the buffer the
receiver has for it, the sections that fit, and whether an end package for it
has been sent. `none` is a package at which the receiver faults. -/

structure Peer where
  header : MBigHeader
  size : Nat
  begun : Bool
  sections : List (Nat × List UInt8)
  named : Bool

namespace Peer

def start (h : MBigHeader) : Peer := ⟨h, 0, false, [], false⟩

def Overflows (h : MBigHeader) (size : Nat) (p : Received) : Prop :=
  size = h.dataLength.toNat ∧ size ≠ 0 ∧ p.pack.header.id2 < h.sectionCount ∧
  2 ^ 31 ≤ sectionOffset h p.pack + p.pack.bodyLength

instance (h : MBigHeader) (size : Nat) (p : Received) : Decidable (Overflows h size p) :=
  inferInstanceAs (Decidable (_ ∧ _))

def step (t : Peer) (p : Received) : Option Peer :=
  if p.pack.header.id = idBigStreamBegin then
    some ⟨p.bigHeader, p.bigHeader.dataLength.toNat, true, [], false⟩
  else if p.pack.header.id = idBigStreamData then
    if Overflows t.header t.size p then none
    else if Fits t.header t.size p then
      some { t with sections := t.sections ++ [sectionOf t.header p] }
    else some t
  else if p.pack.header.id = idBigStreamEnd ∧ Names t.header p then
    if t.header.zipLevel = 0 then some { t with named := true }
    else if t.header.originalLength.toNat = 0 ∨ t.size = 0 then none
    else some { t with size := t.header.originalLength.toNat, named := true }
  else some t

end Peer

/-- An end package for the latest header, unless the receiver faults at it, is
the first one after the begin package and after sections that cover the message. -/
def WellSent (t : Peer) (p : Received) : Prop :=
  p.pack.header.id = idBigStreamEnd → Names t.header p →
  (t.header.zipLevel = 0 ∨ t.header.originalLength.toNat ≠ 0 ∧ t.size ≠ 0) →
    t.begun = true ∧ Covers t.sections t.header.dataLength.toNat ∧ t.named = false

/-! ## The receiver follows the peer -/

structure Agrees (s : Traced) (t : Peer) : Prop where
  header : s.queue.mHeader = t.header
  size : s.queue.mRecvData.length = t.size
  begun : s.begun = if t.begun then some t.header else none
  sections : s.sections = t.sections
  ended : s.ended = true → t.named = true
  fresh : t.begun = true → t.named = false →
    ∃ base : List UInt8, base.length = t.header.dataLength.toNat ∧
      s.queue.mRecvData = overlay base t.sections
  within : ∀ piece ∈ t.sections, Within t.header.dataLength.toNat piece

theorem start_agrees (h : MBigHeader) : Agrees (Traced.start h) (Peer.start h) :=
  ⟨rfl, rfl, rfl, rfl, nofun, nofun, nofun⟩

variable {z : Zlib} {s : Traced} {t : Peer} {p : Received}

theorem length_sectionOf (h : MBigHeader) (p : Received) :
    (sectionOf h p).2.length = p.pack.bodyLength := by
  rw [sectionOf, HXMessagePackage.bodyBytes_of_none p.pointer_eq,
    Block.length_load (HXMessagePackage.bodyLength_le p.inRange)]

theorem zip_pos_iff {n : UInt8} : 0 < n ↔ n ≠ 0 := by
  rw [UInt8.lt_iff_toNat_lt, ne_eq, ← UInt8.toNat_inj, UInt8.toNat_zero]
  omega

theorem recvPackage_overflows (hid : p.pack.header.id = idBigStreamData)
    (h : Peer.Overflows s.queue.mHeader s.queue.mRecvData.length p) :
    recvPackage z s.queue p.pack = .error .intOverflow := by
  obtain ⟨hsized, hne, hcount, hover⟩ := h
  rw [recvPackage_data hid p.pointer_eq p.inRange, if_neg, if_pos hover]
  rintro (h | h | h)
  · exact h hsized
  · exact hne h
  · exact absurd hcount (UInt16.not_lt.mpr h)

theorem recvPackage_fits (hid : p.pack.header.id = idBigStreamData)
    (ho : ¬Peer.Overflows s.queue.mHeader s.queue.mRecvData.length p)
    (h : Fits s.queue.mHeader s.queue.mRecvData.length p) :
    recvPackage z s.queue p.pack = .ok (false, { s.queue with
      mRecvData :=
        patch s.queue.mRecvData (sectionOffset s.queue.mHeader p.pack) p.pack.bodyBytes }) := by
  obtain ⟨hsized, hne, hcount, hfit⟩ := h
  rw [recvPackage_data hid p.pointer_eq p.inRange, if_neg, if_neg, if_neg (not_lt.mpr hfit)]
  · exact fun hover => ho ⟨hsized, hne, hcount, hover⟩
  · rintro (h | h | h)
    · exact h hsized
    · exact hne h
    · exact absurd hcount (UInt16.not_lt.mpr h)

theorem recvPackage_ignored (hid : p.pack.header.id = idBigStreamData)
    (ho : ¬Peer.Overflows s.queue.mHeader s.queue.mRecvData.length p)
    (h : ¬Fits s.queue.mHeader s.queue.mRecvData.length p) :
    recvPackage z s.queue p.pack = .ok (false, s.queue) := by
  rw [recvPackage_data hid p.pointer_eq p.inRange]
  split_ifs with h1 h2 h3
  · rfl
  · simp only [not_or, not_not, UInt16.not_le] at h1
    exact absurd ⟨h1.1, h1.2.1, h1.2.2, h2⟩ ho
  · rfl
  · simp only [not_or, not_not, UInt16.not_le] at h1
    exact absurd ⟨h1.1, h1.2.1, h1.2.2, not_lt.mp h3⟩ h

theorem mRecvData_inflate (b : HXBigMessageQueue) :
    (inflate z b).2.mRecvData.length = b.mHeader.originalLength.toNat := by
  have hfit := z.uncompress2_fits b.mRecvData b.mHeader.originalLength.toNat
  simp only [inflate, length_resize]
  rw [length_patch (by rw [length_resize]; omega), length_resize]

theorem inflate_eq_message {b : HXBigMessageQueue} (hzip : b.mHeader.zipLevel ≠ 0)
    (hdone : (inflate z b).1 = true) :
    (inflate z b).2.mRecvData = message z b.mHeader b.mRecvData := by
  obtain ⟨-, hlen⟩ := (inflate_fst_iff z b).mp hdone
  rw [message, if_neg hzip]
  simp only [inflate, length_resize]
  exact patch_full (by rw [hlen, length_resize])

theorem recvPackage_not_named (hid : p.pack.header.id = idBigStreamEnd)
    (h : ¬Names s.queue.mHeader p) : recvPackage z s.queue p.pack = .ok (false, s.queue) := by
  rw [recvPackage_end hid p.pointer_eq]
  exact if_neg h

theorem recvPackage_named_plain (hid : p.pack.header.id = idBigStreamEnd) (h : Names s.queue.mHeader p)
    (hzip : s.queue.mHeader.zipLevel = 0) : recvPackage z s.queue p.pack = .ok (true, s.queue) := by
  rw [recvPackage_end hid p.pointer_eq, if_neg (fun hpos => zip_pos_iff.mp hpos hzip)]
  exact if_pos h

theorem recvPackage_named_zip (hid : p.pack.header.id = idBigStreamEnd) (h : Names s.queue.mHeader p)
    (hzip : s.queue.mHeader.zipLevel ≠ 0) :
    recvPackage z s.queue p.pack =
      if s.queue.mHeader.originalLength.toNat = 0 ∨ s.queue.mRecvData.length = 0 then
        .error .emptyVector
      else .ok (inflate z s.queue) := by
  rw [recvPackage_end hid p.pointer_eq, if_pos (zip_pos_iff.mpr hzip)]
  exact if_pos h

theorem step_of_ok {done : Bool} {queue : HXBigMessageQueue}
    (h : recvPackage z s.queue p.pack = .ok (done, queue)) :
    s.step z p = some (s.after p done queue) := by
  rw [Traced.step, h]

theorem step_of_error {e : Fault} (h : recvPackage z s.queue p.pack = .error e) :
    s.step z p = none := by
  rw [Traced.step, h]

theorem after_unchanged (hbegin : p.pack.header.id ≠ idBigStreamBegin)
    (hdata : ¬(p.pack.header.id = idBigStreamData ∧
      Fits s.queue.mHeader s.queue.mRecvData.length p)) : s.after p false s.queue = s := by
  rw [Traced.after, if_neg hbegin, if_neg hdata, Bool.or_false]

theorem step_begin_agrees (hid : p.pack.header.id = idBigStreamBegin) :
    Option.Rel Agrees (s.step z p) (t.step p) := by
  rw [step_of_ok (recvPackage_begin hid p.pointer_eq), Peer.step, if_pos hid, Traced.after, if_pos hid]
  refine Option.Rel.some ⟨rfl, ?_, rfl, rfl, nofun, ?_, nofun⟩
  · exact length_resize ..
  · intro _ _
    exact ⟨_, length_resize .., rfl⟩

theorem step_data_agrees (h : Agrees s t) (hid : p.pack.header.id = idBigStreamData) :
    Option.Rel Agrees (s.step z p) (t.step p) := by
  have hbegin : p.pack.header.id ≠ idBigStreamBegin := hid ▸ id_data_ne_begin
  rcases t with ⟨header, size, begun, sections, named⟩
  rcases id h with ⟨rfl, rfl, hbegun, rfl, hended, hfresh, hwithin⟩
  rw [Peer.step, if_neg hbegin, if_pos hid]
  by_cases hover : Peer.Overflows s.queue.mHeader s.queue.mRecvData.length p
  · rw [step_of_error (recvPackage_overflows hid hover), if_pos hover]
    exact Option.Rel.none
  rw [if_neg hover]
  by_cases hfits : Fits s.queue.mHeader s.queue.mRecvData.length p
  · rw [step_of_ok (recvPackage_fits hid hover hfits), if_pos hfits, Traced.after, if_neg hbegin,
      if_pos ⟨hid, hfits⟩]
    have hlen := length_sectionOf s.queue.mHeader p
    have hin : Within s.queue.mHeader.dataLength.toNat (sectionOf s.queue.mHeader p) := by
      rw [Within, hlen]
      exact hfits.2.2.2
    refine Option.Rel.some ⟨rfl, ?_, hbegun, rfl, hended, ?_, ?_⟩
    · exact length_patch (hfits.1 ▸ hin)
    · intro hb hn
      rcases hfresh hb hn with ⟨base, hbase, hdata⟩
      refine ⟨base, hbase, ?_⟩
      rw [overlay_append_singleton, ← hdata]
      rfl
    · intro piece hpiece
      rcases List.mem_append.mp hpiece with hpiece | hpiece
      · exact hwithin piece hpiece
      · rw [List.mem_singleton.mp hpiece]
        exact hin
  · rw [step_of_ok (recvPackage_ignored hid hover hfits), if_neg hfits,
      after_unchanged hbegin (fun hd => hfits hd.2)]
    exact Option.Rel.some h

theorem after_end (hid : p.pack.header.id = idBigStreamEnd) (done : Bool) (queue : HXBigMessageQueue) :
    s.after p done queue = { s with queue, ended := s.ended || done } := by
  rw [Traced.after, if_neg (hid ▸ id_end_ne_begin), if_neg (fun h => id_end_ne_data (hid ▸ h.1))]

theorem step_end_agrees (h : Agrees s t) (hid : p.pack.header.id = idBigStreamEnd) :
    Option.Rel Agrees (s.step z p) (t.step p) := by
  rcases t with ⟨header, size, begun, sections, named⟩
  rcases id h with ⟨rfl, rfl, hbegun, rfl, hended, hfresh, hwithin⟩
  rw [Peer.step, if_neg (hid ▸ id_end_ne_begin), if_neg (hid ▸ id_end_ne_data)]
  by_cases hnames : Names s.queue.mHeader p
  case neg =>
    rw [step_of_ok (recvPackage_not_named hid hnames), if_neg (fun hn => hnames hn.2), after_end hid,
      Bool.or_false]
    exact Option.Rel.some h
  rw [if_pos ⟨hid, hnames⟩]
  by_cases hzip : s.queue.mHeader.zipLevel = 0
  · rw [step_of_ok (recvPackage_named_plain hid hnames hzip), if_pos hzip, after_end hid]
    exact Option.Rel.some ⟨rfl, rfl, hbegun, rfl, fun _ => rfl, nofun, hwithin⟩
  rw [if_neg hzip]
  have hrecv := @recvPackage_named_zip z _ _ hid hnames hzip
  by_cases hempty : s.queue.mHeader.originalLength.toNat = 0 ∨ s.queue.mRecvData.length = 0
  · rw [if_pos hempty] at hrecv
    rw [step_of_error hrecv, if_pos hempty]
    exact Option.Rel.none
  · rw [if_neg hempty] at hrecv
    rw [step_of_ok hrecv, if_neg hempty, after_end hid]
    exact Option.Rel.some ⟨rfl, mRecvData_inflate _, hbegun, rfl, fun _ => rfl, nofun, hwithin⟩

theorem step_agrees (h : Agrees s t) : Option.Rel Agrees (s.step z p) (t.step p) := by
  by_cases hbegin : p.pack.header.id = idBigStreamBegin
  · exact step_begin_agrees hbegin
  by_cases hdata : p.pack.header.id = idBigStreamData
  · exact step_data_agrees h hdata
  by_cases hend : p.pack.header.id = idBigStreamEnd
  · exact step_end_agrees h hend
  rw [step_of_ok (recvPackage_other hbegin hdata hend), after_unchanged hbegin (fun hd => hdata hd.1),
    Peer.step, if_neg hbegin, if_neg hdata, if_neg (fun he => hend he.1)]
  exact Option.Rel.some h

/-! ## When `true` is right -/

theorem recvPackage_true {queue : HXBigMessageQueue}
    (h : recvPackage z s.queue p.pack = .ok (true, queue)) :
    p.pack.header.id = idBigStreamEnd ∧ Names s.queue.mHeader p ∧
      (s.queue.mHeader.zipLevel = 0 ∨
        s.queue.mHeader.originalLength.toNat ≠ 0 ∧ s.queue.mRecvData.length ≠ 0) ∧
      queue.mRecvData = message z s.queue.mHeader s.queue.mRecvData := by
  by_cases hbegin : p.pack.header.id = idBigStreamBegin
  · rw [recvPackage_begin hbegin p.pointer_eq] at h
    exact nomatch h
  by_cases hdata : p.pack.header.id = idBigStreamData
  · rw [recvPackage_data hdata p.pointer_eq p.inRange] at h
    split_ifs at h <;> exact nomatch h
  by_cases hend : p.pack.header.id = idBigStreamEnd
  case neg =>
    rw [recvPackage_other hbegin hdata hend] at h
    exact nomatch h
  by_cases hnames : Names s.queue.mHeader p
  case neg =>
    rw [recvPackage_not_named hend hnames] at h
    exact nomatch h
  refine ⟨hend, hnames, ?_⟩
  by_cases hzip : s.queue.mHeader.zipLevel = 0
  · rw [recvPackage_named_plain hend hnames hzip] at h
    obtain ⟨-, rfl⟩ := Prod.mk.inj (Except.ok.inj h)
    exact ⟨Or.inl hzip, by rw [message, if_pos hzip]⟩
  · rw [recvPackage_named_zip hend hnames hzip] at h
    split_ifs at h with hempty
    have hinfl := Except.ok.inj h
    refine ⟨Or.inr (not_or.mp hempty), ?_⟩
    have hmsg := inflate_eq_message hzip (congrArg Prod.fst hinfl)
    rwa [hinfl] at hmsg

theorem complete_of_wellSent (h : Agrees s t) (hw : WellSent t p) : Complete z s p := by
  intro queue hrecv
  obtain ⟨hend, hnames, hguard, hmsg⟩ := recvPackage_true hrecv
  rcases t with ⟨header, size, begun, sections, named⟩
  rcases h with ⟨rfl, rfl, hbegun, rfl, hended, hfresh, hwithin⟩
  obtain ⟨hb, hcov, hn⟩ := hw hend hnames hguard
  obtain ⟨base, hbase, hdata⟩ := hfresh hb hn
  have hnot : s.ended = false := by
    by_contra hne
    rw [hended (Bool.not_eq_false _ ▸ hne)] at hn
    exact nomatch hn
  refine ⟨hend, s.queue.mHeader, ?_, hnames, hnot, hcov, ?_⟩
  · rw [hbegun]
    exact if_pos hb
  · intro base' hbase'
    rw [hmsg, hdata, overlay_eq_of_covers (hbase.trans hbase'.symm) (hbase ▸ hwithin) (hbase ▸ hcov)]

/-- With a zlib that takes anything for compressed data, every end package for
the latest header at which the receiver does not fault is answered `true`. -/
theorem recvPackage_accepting (hend : p.pack.header.id = idBigStreamEnd)
    (hnames : Names s.queue.mHeader p)
    (hguard : s.queue.mHeader.zipLevel = 0 ∨
      s.queue.mHeader.originalLength.toNat ≠ 0 ∧ s.queue.mRecvData.length ≠ 0) :
    ∃ queue, recvPackage Zlib.accepting s.queue p.pack = .ok (true, queue) := by
  by_cases hzip : s.queue.mHeader.zipLevel = 0
  · exact ⟨_, recvPackage_named_plain hend hnames hzip⟩
  have hdone : (inflate Zlib.accepting s.queue).1 = true :=
    (inflate_fst_iff _ _).mpr ⟨rfl, List.length_replicate⟩
  refine ⟨(inflate Zlib.accepting s.queue).2, ?_⟩
  rw [recvPackage_named_zip hend hnames hzip, if_neg (not_or.mpr (hguard.resolve_left hzip)), ← hdone]

theorem wellSent_of_complete (h : Agrees s t) (hn : t.named = true → s.ended = true)
    (hc : Complete Zlib.accepting s p) : WellSent t p := by
  rcases t with ⟨header, size, begun, sections, named⟩
  rcases h with ⟨rfl, rfl, hbegun, rfl, -, -, -⟩
  intro hend hnames hguard
  obtain ⟨queue, hrecv⟩ := recvPackage_accepting hend hnames hguard
  obtain ⟨-, header, hsome, -, hended, hcov, -⟩ := hc queue hrecv
  rw [hbegun] at hsome
  cases begun with
  | false => exact nomatch hsome
  | true =>
    obtain rfl := Option.some.inj hsome
    refine ⟨rfl, hcov, ?_⟩
    by_contra hne
    rw [hn (Bool.not_eq_false _ ▸ hne)] at hended
    exact nomatch hended

theorem ended_mono {s' : Traced} (hbegin : p.pack.header.id ≠ idBigStreamBegin)
    (hs : s.step z p = some s') (h : s.ended = true) : s'.ended = true := by
  rw [Traced.step] at hs
  split at hs
  · obtain rfl := Option.some.inj hs
    rw [Traced.after, if_neg hbegin]
    split_ifs
    · exact h
    · rw [h, Bool.true_or]
  · exact nomatch hs

theorem named_step {t' : Peer} (hbegin : p.pack.header.id ≠ idBigStreamBegin)
    (ht : t.step p = some t') (h : t'.named = true) :
    t.named = true ∨ p.pack.header.id = idBigStreamEnd ∧ Names t.header p ∧
      (t.header.zipLevel = 0 ∨ t.header.originalLength.toNat ≠ 0 ∧ t.size ≠ 0) := by
  rw [Peer.step, if_neg hbegin] at ht
  split_ifs at ht with hdata hover hfits hend hzip hempty
  · obtain rfl := Option.some.inj ht
    exact Or.inl h
  · obtain rfl := Option.some.inj ht
    exact Or.inl h
  · exact Or.inr ⟨hend.1, hend.2, Or.inl hzip⟩
  · exact Or.inr ⟨hend.1, hend.2, Or.inr (not_or.mp hempty)⟩
  · obtain rfl := Option.some.inj ht
    exact Or.inl h

theorem named_begin {t' : Peer} (hbegin : p.pack.header.id = idBigStreamBegin)
    (ht : t.step p = some t') : t'.named = false := by
  rw [Peer.step, if_pos hbegin] at ht
  obtain rfl := Option.some.inj ht
  rfl

theorem ended_of_named {s' : Traced} {t' : Peer} (h : Agrees s t)
    (hn : t.named = true → s.ended = true) (hs : s.step Zlib.accepting p = some s')
    (ht : t.step p = some t') (hnamed : t'.named = true) : s'.ended = true := by
  by_cases hbegin : p.pack.header.id = idBigStreamBegin
  · rw [named_begin hbegin ht] at hnamed
    exact nomatch hnamed
  rcases named_step hbegin ht hnamed with hold | ⟨hend, hnames, hguard⟩
  · exact ended_mono hbegin hs (hn hold)
  · rw [← h.header] at hnames hguard
    rw [← h.size] at hguard
    obtain ⟨queue, hrecv⟩ := recvPackage_accepting hend hnames hguard
    rw [step_of_ok hrecv, after_end hend] at hs
    obtain rfl := Option.some.inj hs
    exact Bool.or_true _

/-- For every zlib the receiver's answer is right, exactly when the peer ends
every message it began once and complete. -/
theorem recvPackage_complete_iff (h : MBigHeader) (ps : List Received) :
    (∀ z, Along (Traced.step z) (Complete z) (Traced.start h) ps) ↔
      Along Peer.step WellSent (Peer.start h) ps := by
  constructor
  · intro hall
    refine @Along.transfer _ _ _ _ _ (fun s t => Agrees s t ∧ (t.named = true → s.ended = true)) _ _
      ?_ ?_ _ _ _ ⟨start_agrees h, nofun⟩ (hall Zlib.accepting)
    · intro s t p hst hc
      exact wellSent_of_complete hst.1 hst.2 hc
    · intro s t p t' hst ht
      have hrel := @step_agrees Zlib.accepting s t p hst.1
      rw [ht] at hrel
      obtain ⟨s', hs, hst'⟩ := rel_right hrel
      exact ⟨s', hs, hst', ended_of_named hst.1 hst.2 hs ht⟩
  · intro hw z
    refine @Along.transfer _ _ _ _ _ (fun t s => Agrees s t) _ _ ?_ ?_ _ _ _ (start_agrees h) hw
    · intro t s p hst hwp
      exact complete_of_wellSent hst hwp
    · intro t s p s' hst hs
      have hrel := @step_agrees z s t p hst
      rw [hs] at hrel
      obtain ⟨t', ht, hst'⟩ := rel_left hrel
      exact ⟨t', ht, hst'⟩

theorem step_ofBigHeader_begin (z : Zlib) (s : Traced) (h : MBigHeader) :
    s.step z (Received.ofBigHeader idBigStreamBegin h) = some ⟨{ s.queue with
      mQueue := []
      mHeader := h
      mRecvData := resize s.queue.mRecvData h.dataLength.toNat 0 }, some h, [], false⟩ := by
  have hload := Received.bigHeader_ofBigHeader idBigStreamBegin h
  rw [step_of_ok (recvPackage_begin rfl rfl), Traced.after, if_pos (Received.id_ofBigHeader ..), hload]
  rw [Received.bigHeader] at hload
  rw [hload]

/-- A begin package for one byte and its end package, with no section between. -/
theorem recvPackage_incomplete :
    ¬∀ z, Along (Traced.step z) (Complete z) (Traced.start (plainHeader 0 0))
    [Received.ofBigHeader idBigStreamBegin (plainHeader 1 1),
      Received.ofBigHeader idBigStreamEnd (plainHeader 1 1)] := by
  intro hall
  obtain ⟨-, hnext⟩ := hall Zlib.refusing
  obtain ⟨hcomplete, -⟩ := hnext _ (step_ofBigHeader_begin ..)
  obtain ⟨-, h, hbegun, -, -, hcov, -⟩ :=
    hcomplete _ (recvPackage_named_plain rfl (names_ofBigHeader _) rfl)
  obtain rfl := Option.some.inj hbegun
  obtain ⟨_, hmem, -⟩ := hcov 0 (by decide)
  exact absurd hmem List.not_mem_nil

end HXService.Completion
