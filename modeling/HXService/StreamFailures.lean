import HXService.Streams

/-! What a `<<` or `>>` that returns false leaves behind. -/

namespace HXService.StreamFailures
open Bytes

/-- When `<<` returns false, the length and what has been written stay. -/
def WriterStays (w : StreamWriter) (item : Item) : Prop :=
  ∀ w', w.insert item = .ok (false, w') →
    w'.length = w.length ∧ w'.buffer.load w.length.toNat = w.buffer.load w.length.toNat

/-- When `>>` returns false, the cursor and the result stay. -/
def ReaderStays (r : StreamReader) (target : Target) : Prop :=
  ∀ target' r', r.extract target = .ok (false, target', r') → r'.length = r.length ∧ target' = target

def WriterFits (w : StreamWriter) : Item → Prop
  | .plain _ => True
  | .text string => w.length.toNat + 2 ≤ maxBodyLength →
      w.length.toNat + 2 + string.len.toNat ≤ maxBodyLength

def ReaderFits (r : StreamReader) : Target → Prop
  | .plain _ => True
  | .text _ _ => r.length.toNat + 2 ≤ r.dataLength.toNat →
      r.length.toNat + 2 + r.textLength ≤ r.dataLength.toNat

section Writer
variable {w : StreamWriter} {item : Item} {string : CString}

theorem writerStays_of_full (h : w.insert item = .ok (false, w)) : WriterStays w item := by
  intro w' hinsert
  rw [h] at hinsert
  obtain rfl := (Prod.mk.inj (Except.ok.inj hinsert)).2
  exact ⟨rfl, rfl⟩

theorem writerStays_of_fits {w₁ : StreamWriter} (h : w.insert item = .ok (true, w₁)) :
    WriterStays w item := by
  intro w' hinsert
  rw [h] at hinsert
  exact nomatch (Prod.mk.inj (Except.ok.inj hinsert)).1

theorem not_writerStays (hhead : w.length.toNat + 2 ≤ maxBodyLength)
    (hcut : maxBodyLength < w.length.toNat + 2 + string.len.toNat) : ¬WriterStays w (.text string) := by
  intro h
  obtain ⟨w', hinsert, hext⟩ := StreamWriter.insertText_cut hhead hcut
  have hlength := hext.length
  rw [(h w' hinsert).1, length_leBytes] at hlength
  omega

theorem writerStays_iff : WriterStays w item ↔ WriterFits w item := by
  cases item with
  | plain value =>
    refine iff_of_true ?_ trivial
    rcases le_or_gt (w.length.toNat + value.length) maxBodyLength with hfit | hfull
    · obtain ⟨w', hinsert, -⟩ := StreamWriter.insertPlain_fits hfit
      exact writerStays_of_fits hinsert
    · exact writerStays_of_full (StreamWriter.insertPlain_full hfull)
  | text string =>
    constructor
    · intro h hhead
      by_contra hcut
      exact not_writerStays hhead (not_le.mp hcut) h
    · intro h
      rcases le_or_gt (w.length.toNat + 2) maxBodyLength with hhead | hfull
      · obtain ⟨w', hinsert, -⟩ := StreamWriter.insertText_fits (h hhead)
        exact writerStays_of_fits hinsert
      · exact writerStays_of_full (StreamWriter.insertText_full hfull)

end Writer

section Reader
variable {r : StreamReader} {target : Target}

theorem readerStays_of_short (h : r.extract target = .ok (false, target, r)) : ReaderStays r target := by
  intro target' r' hextract
  rw [h] at hextract
  obtain ⟨rfl, rfl⟩ := Prod.mk.inj (Prod.mk.inj (Except.ok.inj hextract)).2
  exact ⟨rfl, rfl⟩

theorem readerStays_of_fits {target₁ : Target} {r₁ : StreamReader}
    (h : r.extract target = .ok (true, target₁, r₁)) : ReaderStays r target := by
  intro target' r' hextract
  rw [h] at hextract
  exact nomatch (Prod.mk.inj (Except.ok.inj hextract)).1

theorem not_readerStays {text : Option (List UInt8)} {fresh : (n : Nat) → Block n}
    (hhead : r.length.toNat + 2 ≤ r.dataLength.toNat)
    (hcut : r.dataLength.toNat < r.length.toNat + 2 + r.textLength) :
    ¬ReaderStays r (.text text fresh) := by
  intro h
  have hlength := StreamReader.length_advance hhead
  rw [(h _ _ (StreamReader.extract_text_cut hhead hcut)).1] at hlength
  omega

theorem readerStays_iff : ReaderStays r target ↔ ReaderFits r target := by
  cases target with
  | plain result =>
    refine iff_of_true ?_ trivial
    rcases le_or_gt (r.length.toNat + result.length) r.dataLength.toNat with hfit | hshort
    · exact readerStays_of_fits (StreamReader.extract_plain_fits hfit)
    · exact readerStays_of_short (StreamReader.extract_plain_short hshort)
  | text text fresh =>
    constructor
    · intro h hhead
      by_contra hcut
      exact not_readerStays hhead (not_le.mp hcut) h
    · intro h
      rcases le_or_gt (r.length.toNat + 2) r.dataLength.toNat with hhead | hshort
      · exact readerStays_of_fits (StreamReader.extract_text_fits (h hhead))
      · exact readerStays_of_short (StreamReader.extract_text_short hshort)

end Reader

/-- In any state of the streams, an operation that returns false leaves the stream as it
was exactly when it is not cut between the length of a text and the text. -/
theorem failures_iff (w : StreamWriter) (item : Item) (r : StreamReader) (target : Target) :
    (WriterStays w item ↔ WriterFits w item) ∧ (ReaderStays r target ↔ ReaderFits r target) :=
  ⟨writerStays_iff, readerStays_iff⟩

def longText : CString where
  chars := List.replicate 32767 97
  noNul := by
    intro h
    exact absurd (List.eq_of_mem_replicate h) (by decide)

theorem not_writerStays_longText :
    ¬WriterStays (StreamWriter.new (Block.zeros maxBodyLength)) (.text longText) := by
  have hlen : longText.len.toNat = 32767 := by
    rw [CString.len, longText, List.length_replicate]
    rfl
  have hmax : maxBodyLength = 32768 := rfl
  have hstart : (StreamWriter.new (Block.zeros maxBodyLength)).length.toNat = 0 := rfl
  exact not_writerStays (by omega) (by omega)

end HXService.StreamFailures
