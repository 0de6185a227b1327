import HXService.Lib.Codec
import HXService.StreamCursors

/-! Items that have all been written, read back in order. -/

namespace HXService.StreamRoundTrip
open Bytes Runs Codec StreamCursors

/-! ## Strings in arrays -/

/-- The string at the start of an array: its characters before the first NUL, if there
is one in the array. -/
def cString : List UInt8 → Option (List UInt8)
  | [] => none
  | c :: cs => if c = 0 then some [] else (cString cs).map (c :: ·)

theorem cString_append {chars rest : List UInt8} (h : 0 ∉ chars) :
    cString (chars ++ rest) = (cString rest).map (chars ++ ·) := by
  induction chars with
  | nil => simp
  | cons c chars ih =>
    rw [List.mem_cons, not_or] at h
    rw [List.cons_append, cString, if_neg (Ne.symm h.1), ih h.2, Option.map_map]
    rfl

theorem length_of_cString {array chars : List UInt8} (h : cString array = some chars) :
    chars.length < array.length := by
  induction array generalizing chars with
  | nil => exact nomatch h
  | cons c cs ih =>
    rw [cString] at h
    split_ifs at h
    · rw [← Option.some.inj h]
      exact Nat.zero_lt_succ _
    · obtain ⟨chars', hchars', rfl⟩ := Option.map_eq_some_iff.mp h
      exact Nat.succ_lt_succ (ih hchars')

/-! ## Writing and reading without a failure -/

def accept (w : StreamWriter) (item : Item) : Option StreamWriter :=
  match w.insert item with
  | .ok (true, w') => some w'
  | _ => none

def deliver (r : StreamReader) (target : Target) : Option (Target × StreamReader) :=
  match r.extract target with
  | .ok (true, target', r') => some (target', r')
  | _ => none

/-- `streamReader(buffer, length)`. -/
def reader (w : StreamWriter) (h : InBuffer w) : StreamReader :=
  StreamReader.new w.length (w.buffer.front w.length.toNat h)

-- the same types: an object of the same size, or a `ResultText`
inductive Matches : Item → Target → Prop
  | plain (value result : List UInt8) (h : result.length = value.length) :
    Matches (.plain value) (.plain result)
  | text (string : CString) (text : Option (List UInt8)) (fresh : (n : Nat) → Block n) :
    Matches (.text string) (.text text fresh)

inductive Yields : Item → Target → Prop
  | plain (value : List UInt8) : Yields (.plain value) (.plain value)
  | text (string : CString) (array : List UInt8) (fresh : (n : Nat) → Block n)
    (h : cString array = some string.chars) : Yields (.text string) (.text (some array) fresh)

/-- Reading back succeeds, yields what was written, and comes to the end. -/
def RoundTrips (items : List Item) (targets : List Target) (w : StreamWriter) : Prop :=
  ∃ h results r, takeAll deliver (reader w h) targets = some (results, r) ∧
    List.Forall₂ Yields items results ∧ r.length = w.length

/-- The length of the text fits its prefix, and what `new char` holds ends with a NUL. -/
def Terminated : Item → Target → Prop
  | .text string, .text _ fresh => string.chars.length < 65536 ∧
      (fresh (string.chars.length + 1)).bytes[string.chars.length]? = some 0
  | _, _ => True

section Written
variable {w w' : StreamWriter} {item : Item}

theorem accept_eq (h : w.length.toNat + item.bytes.length ≤ maxBodyLength) :
    ∃ w', accept w item = some w' ∧ w.Extends w' item.bytes := by
  cases item with
  | plain value =>
    rw [Item.bytes] at h ⊢
    obtain ⟨w', hinsert, hext⟩ := StreamWriter.insertPlain_fits h
    refine ⟨w', ?_, hext⟩
    rw [accept, StreamWriter.insert, hinsert]
  | text string =>
    rw [Item.bytes, List.length_append, length_leBytes, List.length_take_of_le string.len_le,
      ← Nat.add_assoc] at h
    obtain ⟨w', hinsert, hext⟩ := StreamWriter.insertText_fits h
    refine ⟨w', ?_, hext⟩
    rw [accept, StreamWriter.insert, hinsert]

theorem accept_eq_none (h : maxBodyLength < w.length.toNat + item.bytes.length) :
    accept w item = none := by
  cases item with
  | plain value =>
    rw [Item.bytes] at h
    rw [accept, StreamWriter.insert, StreamWriter.insertPlain_full h]
  | text string =>
    rw [Item.bytes, List.length_append, length_leBytes, List.length_take_of_le string.len_le,
      ← Nat.add_assoc] at h
    rcases le_or_gt (w.length.toNat + 2) maxBodyLength with hhead | hfull
    · obtain ⟨w', hinsert, -⟩ := StreamWriter.insertText_cut hhead h
      rw [accept, StreamWriter.insert, hinsert]
    · rw [accept, StreamWriter.insert, StreamWriter.insertText_full hfull]

theorem extends_of_accept (h : accept w item = some w') :
    w.Extends w' item.bytes ∧ w.length.toNat + item.bytes.length ≤ maxBodyLength := by
  rcases le_or_gt (w.length.toNat + item.bytes.length) maxBodyLength with hfit | hfull
  · obtain ⟨w₁, hw₁, hext⟩ := accept_eq hfit
    rw [h] at hw₁
    rw [Option.some.inj hw₁]
    exact ⟨hext, hfit⟩
  · rw [accept_eq_none hfull] at h
    exact nomatch h

theorem appends : Appends StreamWriter.written Item.bytes accept :=
  fun _ _ _ h => (extends_of_accept h).1.written

theorem inBuffer_accept (w : StreamWriter) (item : Item) (w' : StreamWriter) (_ : InBuffer w)
    (h : accept w item = some w') : InBuffer w' := by
  obtain ⟨hext, hfit⟩ := extends_of_accept h
  rw [InBuffer, hext.length]
  exact hfit

theorem run_accept {items : List Item}
    (h : w.length.toNat + (items.flatMap Item.bytes).length ≤ maxBodyLength) :
    ∃ w', run accept w items = some w' := by
  induction items generalizing w with
  | nil => exact ⟨w, rfl⟩
  | cons item items ih =>
    rw [List.flatMap_cons, List.length_append] at h
    obtain ⟨w₁, hfirst, hext⟩ := @accept_eq w item (by omega)
    obtain ⟨w₂, hrest⟩ := @ih w₁ (by rw [hext.length]; omega)
    exact ⟨w₂, run_cons.mpr ⟨w₁, hfirst, hrest⟩⟩

end Written

/-! ## What is read -/

def filled : Item → Target → Target
  | .plain value, _ => .plain value
  | .text string, .text _ fresh => .text (some (string.chars.take string.len.toNat ++
      (fresh (string.len.toNat + 1)).bytes.drop string.len.toNat)) fresh
  | .text _, target => target

def Good (n : UInt16) (r : StreamReader) : Prop := InData r ∧ r.dataLength = n

section Read
variable {n : UInt16} {item : Item} {target : Target}

theorem takes_of_matches (h : Matches item target) :
    Takes (Good n) StreamReader.rest Item.bytes filled deliver item target := by
  rintro r tail ⟨hin, hn⟩ hrest
  have hlength := @StreamReader.length_rest r
  rw [hrest, List.length_append] at hlength
  unfold InData at hin
  cases h with
  | plain value result hsize =>
    rw [Item.bytes] at hrest hlength
    have hfit : r.length.toNat + result.length ≤ r.dataLength.toNat := by omega
    refine ⟨r.advance result.length, ?_, ⟨?_, hn⟩, ?_⟩
    · rw [deliver, StreamReader.extract_plain_fits hfit, hrest, List.take_left' hsize.symm]
      rfl
    · exact (StreamReader.length_advance hfit).trans_le hfit
    · rw [StreamReader.rest_advance hfit, hrest, List.drop_left' hsize.symm]
  | text string text fresh =>
    have htake : (string.chars.take string.len.toNat).length = string.len.toNat :=
      List.length_take_of_le string.len_le
    have htwo : (leBytes 2 string.len.toNat).length = 2 := length_leBytes _ _
    rw [Item.bytes, List.append_assoc] at hrest
    rw [Item.bytes, List.length_append, htwo, htake] at hlength
    have htext : r.textLength = string.len.toNat := by
      rw [StreamReader.textLength, hrest, List.take_left' htwo, ofLE_leBytes]
      exact Nat.mod_eq_of_lt string.len.toNat_lt
    have hhead : r.length.toNat + 2 ≤ r.dataLength.toNat := by omega
    have hfit : r.length.toNat + 2 + r.textLength ≤ r.dataLength.toNat := by omega
    have hfit' : (r.advance 2).length.toNat + r.textLength ≤ (r.advance 2).dataLength.toNat := by
      rw [StreamReader.length_advance hhead]
      exact hfit
    refine ⟨(r.advance 2).advance r.textLength, ?_, ⟨?_, hn⟩, ?_⟩
    · rw [deliver, StreamReader.extract_text_fits hfit, hrest, List.drop_left' htwo, htext,
        List.take_left' htake]
      rfl
    · exact (StreamReader.length_advance hfit').trans_le hfit'
    · rw [StreamReader.rest_advance hfit', StreamReader.rest_advance hhead, hrest,
        List.drop_left' htwo, htext, List.drop_left' htake]

theorem yields_iff (h : Matches item target) : Yields item (filled item target) ↔ Terminated item target := by
  cases h with
  | plain value result hsize => exact iff_of_true (.plain value) trivial
  | text string text fresh =>
    have hyields : Yields (.text string) (filled (.text string) (.text text fresh)) ↔
        cString (string.chars.take string.len.toNat ++
          (fresh (string.len.toNat + 1)).bytes.drop string.len.toNat) = some string.chars := by
      constructor
      · rintro ⟨⟩
        assumption
      · exact .text string _ fresh
    rw [hyields, Terminated]
    have hsize := (fresh (string.len.toNat + 1)).size_eq
    rcases lt_or_ge string.chars.length 65536 with hshort | hlong
    · have hlen : string.len.toNat = string.chars.length := UInt16.toNat_ofNat_of_lt hshort
      rw [hlen] at hsize ⊢
      have hlast : string.chars.length < (fresh (string.chars.length + 1)).bytes.length := by omega
      rw [List.take_length, cString_append string.noNul, List.drop_eq_getElem_cons hlast,
        List.drop_eq_nil_of_le (by omega), List.getElem?_eq_getElem hlast, Option.some.injEq, cString]
      split_ifs with hzero
      · simp [hshort, hzero]
      · simp [hzero, cString]
    · refine iff_of_false ?_ (fun h => hlong.not_gt h.1)
      intro hstring
      have hlt := length_of_cString hstring
      have hbound := string.len.toNat_lt
      rw [List.length_append, List.length_drop, hsize, List.length_take_of_le string.len_le] at hlt
      omega

theorem forall₂_yields_iff {items : List Item} {targets : List Target}
    (h : List.Forall₂ Matches items targets) :
    List.Forall₂ Yields items (List.zipWith filled items targets) ↔
      List.Forall₂ Terminated items targets := by
  induction h with
  | nil => exact iff_of_true .nil .nil
  | cons hfirst _ ih =>
    rw [List.zipWith_cons_cons, List.forall₂_cons, List.forall₂_cons, yields_iff hfirst, ih]

end Read

section RoundTrip
variable {buffer : Block maxBodyLength} {w : StreamWriter} {items : List Item} {targets : List Target}

/-- Reading back always succeeds and comes to the end. -/
theorem takeAll_reader (hwrite : run accept (StreamWriter.new buffer) items = some w)
    (hmatch : List.Forall₂ Matches items targets) : ∃ h r,
      takeAll deliver (reader w h) targets = some (List.zipWith filled items targets, r) ∧
        r.length = w.length := by
  have hin : InBuffer w := run_invariant inBuffer_accept hwrite (Nat.zero_le _)
  have hnone : (StreamWriter.new buffer).written = [] := rfl
  have hwritten : w.written = items.flatMap Item.bytes := by
    rw [appends.run hwrite, hnone, List.nil_append]
  have htakes : List.Forall₂ (Takes (Good w.length) StreamReader.rest Item.bytes filled deliver)
      items targets := hmatch.imp fun _ _ => takes_of_matches
  have hrest : (reader w hin).rest = items.flatMap Item.bytes ++ [] := by
    rw [List.append_nil, ← hwritten]
    rfl
  obtain ⟨r, htake, ⟨hinside, hdata⟩, hend⟩ := takeAll_flatMap htakes ⟨Nat.zero_le _, rfl⟩ hrest
  refine ⟨hin, r, htake, ?_⟩
  have hlength := @StreamReader.length_rest r
  unfold InData at hinside
  rw [hend, List.length_nil, hdata] at hlength
  rw [hdata] at hinside
  rw [← UInt16.toNat_inj]
  omega

/-- What has all been written is read back as it was exactly when the length of every
text fits its prefix, and every array for a text happens to end with a NUL. -/
theorem roundTrips_iff (hwrite : run accept (StreamWriter.new buffer) items = some w)
    (hmatch : List.Forall₂ Matches items targets) :
    RoundTrips items targets w ↔ List.Forall₂ Terminated items targets := by
  obtain ⟨hin, r, htake, hend⟩ := takeAll_reader hwrite hmatch
  rw [← forall₂_yields_iff hmatch]
  constructor
  · rintro ⟨_, results, r', htake', hyields, -⟩
    rw [htake] at htake'
    rwa [(Prod.mk.inj (Option.some.inj htake')).1]
  · exact fun hyields => ⟨hin, _, r, htake, hyields, hend⟩

end RoundTrip

def letter : CString := ⟨[97], by decide⟩

def sample : List Item := [.plain [7, 0], .text letter]

def sampleTargets (fill : UInt8) : List Target :=
  [.plain [0, 0], .text none fun n => ⟨List.replicate n fill, List.length_replicate⟩]

theorem matches_sample (fill : UInt8) : List.Forall₂ Matches sample (sampleTargets fill) :=
  .cons (.plain _ _ rfl) (.cons (.text _ _ _) .nil)

theorem sample_written : ∃ w, run accept (StreamWriter.new (Block.zeros maxBodyLength)) sample = some w := by
  apply run_accept
  decide

theorem roundTrips_iff_sample : ∃ w,
    run accept (StreamWriter.new (Block.zeros maxBodyLength)) sample = some w ∧
      RoundTrips sample (sampleTargets 0) w := by
  obtain ⟨w, hwrite⟩ := sample_written
  refine ⟨w, hwrite, (roundTrips_iff hwrite (matches_sample 0)).mpr ?_⟩
  exact .cons trivial (.cons ⟨by decide, rfl⟩ .nil)

/-- Nothing ends the text when the memory holds something else. -/
theorem not_roundTrips : ¬∀ (buffer : Block maxBodyLength) (w : StreamWriter) (items : List Item)
    (targets : List Target), run accept (StreamWriter.new buffer) items = some w →
      List.Forall₂ Matches items targets → RoundTrips items targets w := by
  intro h
  obtain ⟨w, hwrite⟩ := sample_written
  obtain ⟨_, results, r, htake, hyields, -⟩ := h _ w _ _ hwrite (matches_sample 1)
  obtain ⟨_, r', htake', -⟩ := takeAll_reader hwrite (matches_sample 1)
  rw [htake'] at htake
  rw [← (Prod.mk.inj (Option.some.inj htake)).1, forall₂_yields_iff (matches_sample 1)] at hyields
  obtain ⟨-, hyields⟩ := List.forall₂_cons.mp hyields
  exact absurd (List.forall₂_cons.mp hyields).1.2 (by decide)

end HXService.StreamRoundTrip
