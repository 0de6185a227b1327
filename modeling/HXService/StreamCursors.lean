import HXService.Lib.Runs
import HXService.Streams

/-! The cursors of a writer and a reader over any sequence of `<<` and `>>`. -/

namespace HXService.StreamCursors
open Bytes Runs

def write (w : StreamWriter) (item : Item) : Option StreamWriter :=
  (w.insert item).toOption.map Prod.snd

def read (r : StreamReader) (target : Target) : Option StreamReader :=
  (r.extract target).toOption.map fun out => out.2.2

/-- The operation copies within its arrays, and the cursor stays in the buffer. -/
def WritesInside (w : StreamWriter) (item : Item) : Prop :=
  ∃ done w', w.insert item = .ok (done, w') ∧ w.length.toNat ≤ w'.length.toNat ∧
    w'.length.toNat ≤ maxBodyLength

def updates (r : StreamReader) : Target → List Nat
  | .plain result =>
    if r.length.toNat + result.length ≤ r.dataLength.toNat then [result.length] else []
  | .text _ _ =>
    if r.length.toNat + 2 + r.textLength ≤ r.dataLength.toNat then [2, r.textLength]
    else if r.length.toNat + 2 ≤ r.dataLength.toNat then [2]
    else []

/-- The operation copies within its arrays, no update of the cursor wraps, and the
cursor stays in the data. -/
def ReadsInside (r : StreamReader) (target : Target) : Prop :=
  ∃ done target' r', r.extract target = .ok (done, target', r') ∧ r'.dataLength = r.dataLength ∧
    r'.length.toNat = r.length.toNat + (updates r target).sum ∧ r'.length.toNat ≤ r.dataLength.toNat

def InBuffer (w : StreamWriter) : Prop := w.length.toNat ≤ maxBodyLength

def InData (r : StreamReader) : Prop := r.length.toNat ≤ r.dataLength.toNat

theorem writesInside (w : StreamWriter) (item : Item) (h : InBuffer w) : WritesInside w item := by
  have hstay : ∀ w' bs, w.Extends w' bs → w.length.toNat + bs.length ≤ maxBodyLength →
      w.length.toNat ≤ w'.length.toNat ∧ w'.length.toNat ≤ maxBodyLength := by
    intro w' bs hext hfit
    rw [hext.length]
    exact ⟨Nat.le_add_right _ _, hfit⟩
  unfold WritesInside StreamWriter.insert
  cases item with
  | plain value =>
    dsimp only
    rcases le_or_gt (w.length.toNat + value.length) maxBodyLength with hfit | hfull
    · obtain ⟨w', hinsert, hext⟩ := StreamWriter.insertPlain_fits hfit
      exact ⟨true, w', hinsert, hstay w' value hext hfit⟩
    · exact ⟨false, w, StreamWriter.insertPlain_full hfull, le_rfl, h⟩
  | text string =>
    dsimp only
    rcases le_or_gt (w.length.toNat + 2) maxBodyLength with hhead | hfull
    · rcases le_or_gt (w.length.toNat + 2 + string.len.toNat) maxBodyLength with hfit | hcut
      · obtain ⟨w', hinsert, hext⟩ := StreamWriter.insertText_fits hfit
        refine ⟨true, w', hinsert, hstay w' _ hext ?_⟩
        rwa [Item.bytes, List.length_append, length_leBytes, List.length_take_of_le string.len_le,
          ← Nat.add_assoc]
      · obtain ⟨w', hinsert, hext⟩ := StreamWriter.insertText_cut hhead hcut
        refine ⟨false, w', hinsert, hstay w' _ hext ?_⟩
        rwa [length_leBytes]
    · exact ⟨false, w, StreamWriter.insertText_full hfull, le_rfl, h⟩

theorem readsInside (r : StreamReader) (target : Target) (h : InData r) : ReadsInside r target := by
  unfold ReadsInside updates
  cases target with
  | plain result =>
    dsimp only
    rcases le_or_gt (r.length.toNat + result.length) r.dataLength.toNat with hfit | hshort
    · rw [if_pos hfit, StreamReader.extract_plain_fits hfit, List.sum_singleton]
      have hlength := StreamReader.length_advance hfit
      exact ⟨true, _, _, rfl, rfl, hlength, hlength.trans_le hfit⟩
    · rw [if_neg hshort.not_ge, StreamReader.extract_plain_short hshort]
      exact ⟨false, _, _, rfl, rfl, rfl, h⟩
  | text text fresh =>
    dsimp only
    rcases le_or_gt (r.length.toNat + 2) r.dataLength.toNat with hhead | hshort
    · have hlength := StreamReader.length_advance hhead
      rcases le_or_gt (r.length.toNat + 2 + r.textLength) r.dataLength.toNat with hfit | hcut
      · have hmore : ((r.advance 2).advance r.textLength).length.toNat =
            r.length.toNat + 2 + r.textLength := by
          rw [StreamReader.length_advance, hlength]
          rw [hlength]
          exact hfit
        rw [if_pos hfit, StreamReader.extract_text_fits hfit]
        refine ⟨true, _, _, rfl, rfl, ?_, hmore.trans_le hfit⟩
        rw [hmore, List.sum_pair, Nat.add_assoc]
      · rw [if_neg hcut.not_ge, if_pos hhead, StreamReader.extract_text_cut hhead hcut]
        exact ⟨false, _, _, rfl, rfl, hlength, hlength.trans_le hhead⟩
    · rw [if_neg (by omega), if_neg hshort.not_ge, StreamReader.extract_text_short hshort]
      exact ⟨false, _, _, rfl, rfl, rfl, h⟩

theorem write_inside (w : StreamWriter) (item : Item) (w' : StreamWriter) (h : InBuffer w)
    (hstep : write w item = some w') : InBuffer w' := by
  obtain ⟨done, w₁, hinsert, -, hle⟩ := writesInside w item h
  rw [write, hinsert] at hstep
  rwa [← Option.some.inj hstep]

theorem read_inside (r : StreamReader) (target : Target) (r' : StreamReader) (h : InData r)
    (hstep : read r target = some r') : InData r' := by
  obtain ⟨done, target', r₁, hextract, hdata, -, hle⟩ := readsInside r target h
  rw [read, hextract] at hstep
  rw [← Option.some.inj hstep]
  exact hle.trans_eq (congrArg UInt16.toNat hdata.symm)

/-- Every `<<` and every `>>` of any sequence copies within its arrays and leaves the
cursor in range, whatever the items, and whatever the data says about lengths. -/
theorem cursors_in_range :
    (∀ (buffer : Block maxBodyLength) (items : List Item),
      Along write WritesInside (StreamWriter.new buffer) items) ∧
    ∀ (dataLength : UInt16) (data : Block dataLength.toNat) (targets : List Target),
      Along read ReadsInside (StreamReader.new dataLength data) targets := by
  constructor
  · intro buffer items
    exact along_of_inv writesInside write_inside (Nat.zero_le _)
  · intro dataLength data targets
    exact along_of_inv readsInside read_inside (Nat.zero_le _)

end HXService.StreamCursors
