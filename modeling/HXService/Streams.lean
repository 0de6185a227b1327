import HXService.Message

/-! Values and texts in a buffer of one message (`streamWriter`, `streamReader`). The
cursors are `unsigned short`s; the tests are made in wider integers. -/

namespace HXService
open Bytes

structure CString where
  chars : List UInt8
  noNul : 0 ∉ chars
  deriving DecidableEq

namespace CString

def bytes (text : CString) : List UInt8 := text.chars ++ [0]

-- `(unsigned short)strlen(text)`
def len (text : CString) : UInt16 := UInt16.ofNat text.chars.length

end CString

/-! ## Writing

What is written: the bytes of a value of fixed size, or a string. -/

inductive Item
  | plain (value : List UInt8)
  | text (string : CString)
  deriving DecidableEq

structure StreamWriter where
  buffer : Block maxBodyLength
  length : UInt16

namespace StreamWriter

-- the buffer is indeterminate
def new (buffer : Block maxBodyLength) : StreamWriter := ⟨buffer, 0⟩

def written (w : StreamWriter) : List UInt8 := w.buffer.load w.length.toNat

-- `memcpy(buffer + length, src, n)` and `length += n`
def copy (w : StreamWriter) (src : List UInt8) (n : Nat) : Checked StreamWriter :=
  match w.buffer.copyIn w.length.toNat src n with
  | none => .error .outsideArray
  | some buffer => .ok ⟨buffer, w.length + UInt16.ofNat n⟩

def insertPlain (w : StreamWriter) (value : List UInt8) : Checked (Bool × StreamWriter) :=
  if maxBodyLength < w.length.toNat + value.length then pure (false, w)
  else do
    let w ← w.copy value value.length
    pure (true, w)

def insertText (w : StreamWriter) (text : CString) : Checked (Bool × StreamWriter) := do
  let prefixed ← w.insertPlain (leBytes 2 text.len.toNat)
  if prefixed.1 = false then pure (false, prefixed.2)
  else if maxBodyLength < prefixed.2.length.toNat + text.len.toNat then pure (false, prefixed.2)
  else do
    let w ← prefixed.2.copy text.bytes text.len.toNat
    pure (true, w)

/-- `operator <<`. -/
def insert (w : StreamWriter) : Item → Checked (Bool × StreamWriter)
  | .plain value => w.insertPlain value
  | .text text => w.insertText text

end StreamWriter

/-! ## Reading

What is read into: an object of fixed size, or the pointer of a `ResultText`. `fresh n`
is what `new char[n]` holds. -/

inductive Target
  | plain (result : List UInt8)
  | text (result : Option (List UInt8)) (fresh : (n : Nat) → Block n)

structure StreamReader where
  dataLength : UInt16
  data : Block dataLength.toNat
  length : UInt16

namespace StreamReader

def new (dataLength : UInt16) (data : Block dataLength.toNat) : StreamReader := ⟨dataLength, data, 0⟩

def rest (r : StreamReader) : List UInt8 := r.data.bytes.drop r.length.toNat

def advance (r : StreamReader) (n : Nat) : StreamReader :=
  { r with length := r.length + UInt16.ofNat n }

-- `memcpy(dst, data + length, n)` and `length += n`
def copy (r : StreamReader) (dst : List UInt8) (n : Nat) : Checked (List UInt8 × StreamReader) :=
  match copyInto dst 0 r.rest n with
  | none => .error .outsideArray
  | some dst => .ok (dst, r.advance n)

def extractPlain (r : StreamReader) (result : List UInt8) : Checked (Bool × List UInt8 × StreamReader) :=
  if r.dataLength.toNat < r.length.toNat + result.length then pure (false, result, r)
  else do
    let out ← r.copy result result.length
    pure (true, out)

/-- The array for the text is there before the test of its length, and nothing is
stored behind the text. -/
def extractText (r : StreamReader) (result : Option (List UInt8)) (fresh : (n : Nat) → Block n) :
    Checked (Bool × Option (List UInt8) × StreamReader) := do
  let prefixed ← r.extractPlain [0, 0]
  let len := ofLE prefixed.2.1
  if prefixed.1 = false then pure (false, result, prefixed.2.2)
  else
    let text := (fresh (len + 1)).bytes
    if prefixed.2.2.dataLength.toNat < prefixed.2.2.length.toNat + len then
      pure (false, some text, prefixed.2.2)
    else do
      let out ← prefixed.2.2.copy text len
      pure (true, some out.1, out.2)

/-- `operator >>`. -/
def extract (r : StreamReader) : Target → Checked (Bool × Target × StreamReader)
  | .plain result => do
    let out ← r.extractPlain result
    pure (out.1, .plain out.2.1, out.2.2)
  | .text result fresh => do
    let out ← r.extractText result fresh
    pure (out.1, .text out.2.1 fresh, out.2.2)

end StreamReader

/-! ## What `<<` does -/

theorem toNat_add_ofNat {length : UInt16} {n : Nat} (h : length.toNat + n < 65536) :
    (length + UInt16.ofNat n).toNat = length.toNat + n := by
  rw [UInt16.toNat_add, UInt16.toNat_ofNat']
  omega

theorem CString.len_le (text : CString) : text.len.toNat ≤ text.chars.length := by
  rw [len, UInt16.toNat_ofNat']
  exact Nat.mod_le _ _

theorem CString.take_bytes (text : CString) :
    text.bytes.take text.len.toNat = text.chars.take text.len.toNat :=
  List.take_append_of_le_length text.len_le

/-- What an item is in the buffer. -/
def Item.bytes : Item → List UInt8
  | .plain value => value
  | .text string => leBytes 2 string.len.toNat ++ string.chars.take string.len.toNat

namespace StreamWriter
variable {w w' : StreamWriter} {value : List UInt8} {text : CString}

/-- The writer with `bs` behind what has been written. -/
structure Extends (w w' : StreamWriter) (bs : List UInt8) : Prop where
  length : w'.length.toNat = w.length.toNat + bs.length
  written : w'.written = w.written ++ bs

theorem Extends.trans {w'' : StreamWriter} {bs cs : List UInt8} (h : Extends w w' bs)
    (h' : Extends w' w'' cs) : Extends w w'' (bs ++ cs) := by
  constructor
  · rw [h'.length, h.length, List.length_append, Nat.add_assoc]
  · rw [h'.written, h.written, List.append_assoc]

theorem copy_fits {src : List UInt8} {n : Nat} (hsrc : n ≤ src.length)
    (hfit : w.length.toNat + n ≤ maxBodyLength) :
    ∃ w', w.copy src n = .ok w' ∧ Extends w w' (src.take n) := by
  have hmax : maxBodyLength = 32768 := rfl
  obtain ⟨buffer, hcopy, hload⟩ := @Block.exists_copyIn _ w.buffer _ src n hsrc hfit
  have hlength := @toNat_add_ofNat w.length n (by omega)
  refine ⟨⟨buffer, w.length + UInt16.ofNat n⟩, ?_, ?_, ?_⟩
  · rw [copy, hcopy]
  · rw [hlength, List.length_take_of_le hsrc]
  · show buffer.load (w.length + UInt16.ofNat n).toNat = w.written ++ src.take n
    rw [hlength, hload, written]

theorem insertPlain_fits (h : w.length.toNat + value.length ≤ maxBodyLength) :
    ∃ w', w.insertPlain value = .ok (true, w') ∧ Extends w w' value := by
  obtain ⟨w', hcopy, hext⟩ := @copy_fits w value value.length le_rfl h
  rw [List.take_length] at hext
  refine ⟨w', ?_, hext⟩
  rw [insertPlain, if_neg h.not_gt, hcopy]
  rfl

theorem insertPlain_full (h : maxBodyLength < w.length.toNat + value.length) :
    w.insertPlain value = .ok (false, w) := by
  rw [insertPlain, if_pos h]
  rfl

theorem insertText_full (h : maxBodyLength < w.length.toNat + 2) :
    w.insertText text = .ok (false, w) := by
  rw [insertText, insertPlain_full (by rwa [length_leBytes])]
  rfl

/-- The length of the text is written before the test of the text itself. -/
theorem insertText_cut (hhead : w.length.toNat + 2 ≤ maxBodyLength)
    (h : maxBodyLength < w.length.toNat + 2 + text.len.toNat) :
    ∃ w', w.insertText text = .ok (false, w') ∧ Extends w w' (leBytes 2 text.len.toNat) := by
  obtain ⟨w', hlen, hext⟩ :=
    @insertPlain_fits w (leBytes 2 text.len.toNat) (by rwa [length_leBytes])
  have hlength := hext.length
  rw [length_leBytes] at hlength
  refine ⟨w', ?_, hext⟩
  rw [insertText, hlen, ok_bind, if_neg (by simp), if_pos (by rwa [hlength])]
  rfl

theorem insertText_fits (h : w.length.toNat + 2 + text.len.toNat ≤ maxBodyLength) :
    ∃ w', w.insertText text = .ok (true, w') ∧ Extends w w' (Item.text text).bytes := by
  obtain ⟨w₁, hlen, hext⟩ :=
    @insertPlain_fits w (leBytes 2 text.len.toNat) (by rw [length_leBytes]; omega)
  have hlength := hext.length
  rw [length_leBytes] at hlength
  have hroom : text.len.toNat ≤ text.bytes.length :=
    text.len_le.trans (by rw [CString.bytes, List.length_append]; exact Nat.le_add_right _ _)
  obtain ⟨w₂, hcopy, hext'⟩ := @copy_fits w₁ text.bytes text.len.toNat hroom (by rwa [hlength])
  rw [text.take_bytes] at hext'
  refine ⟨w₂, ?_, hext.trans hext'⟩
  rw [insertText, hlen, ok_bind, if_neg (by simp), if_neg (by rw [hlength]; exact h.not_gt), hcopy]
  rfl

end StreamWriter

/-! ## What `>>` does -/

namespace StreamReader
variable {r : StreamReader} {n : Nat} {result : List UInt8} {text : Option (List UInt8)}
variable {fresh : (n : Nat) → Block n}

theorem length_advance (h : r.length.toNat + n ≤ r.dataLength.toNat) :
    (r.advance n).length.toNat = r.length.toNat + n :=
  toNat_add_ofNat (h.trans_lt r.dataLength.toNat_lt)

theorem rest_advance (h : r.length.toNat + n ≤ r.dataLength.toNat) :
    (r.advance n).rest = r.rest.drop n := by
  rw [rest, length_advance h, rest, List.drop_drop]
  rfl

theorem length_rest : r.rest.length = r.dataLength.toNat - r.length.toNat := by
  rw [rest, List.length_drop, r.data.size_eq]

theorem copy_fits {dst : List UInt8} (hdst : n ≤ dst.length)
    (hfit : r.length.toNat + n ≤ r.dataLength.toNat) :
    r.copy dst n = .ok (patch dst 0 (r.rest.take n), r.advance n) := by
  have hsrc : n ≤ r.rest.length := by
    rw [length_rest]
    omega
  have hcopy : copyInto dst 0 r.rest n = some (patch dst 0 (r.rest.take n)) :=
    copyInto_eq_some_iff.mpr ⟨hsrc, by rwa [Nat.zero_add], rfl⟩
  rw [copy, hcopy]

theorem extractPlain_fits (h : r.length.toNat + result.length ≤ r.dataLength.toNat) :
    r.extractPlain result = .ok (true, r.rest.take result.length, r.advance result.length) := by
  have htake : (r.rest.take result.length).length = result.length := by
    rw [List.length_take, length_rest]
    omega
  rw [extractPlain, if_neg h.not_gt, copy_fits le_rfl h, patch_full htake]
  rfl

theorem extractPlain_short (h : r.dataLength.toNat < r.length.toNat + result.length) :
    r.extractPlain result = .ok (false, result, r) := by
  rw [extractPlain, if_pos h]
  rfl

theorem extract_plain_fits (h : r.length.toNat + result.length ≤ r.dataLength.toNat) :
    r.extract (.plain result) =
      .ok (true, .plain (r.rest.take result.length), r.advance result.length) := by
  rw [extract, extractPlain_fits h]
  rfl

theorem extract_plain_short (h : r.dataLength.toNat < r.length.toNat + result.length) :
    r.extract (.plain result) = .ok (false, .plain result, r) := by
  rw [extract, extractPlain_short h]
  rfl

def textLength (r : StreamReader) : Nat := ofLE (r.rest.take 2)

theorem extract_text_short (h : r.dataLength.toNat < r.length.toNat + 2) :
    r.extract (.text text fresh) = .ok (false, .text text fresh, r) := by
  have hhead : r.extractPlain [0, 0] = .ok (false, [0, 0], r) := extractPlain_short h
  rw [extract, extractText, hhead]
  rfl

/-- The length is taken, and the pointer set, before the test of the text itself. -/
theorem extract_text_cut (hhead : r.length.toNat + 2 ≤ r.dataLength.toNat)
    (h : r.dataLength.toNat < r.length.toNat + 2 + r.textLength) :
    r.extract (.text text fresh) =
      .ok (false, .text (some (fresh (r.textLength + 1)).bytes) fresh, r.advance 2) := by
  have hlen : r.extractPlain [0, 0] = .ok (true, r.rest.take 2, r.advance 2) :=
    extractPlain_fits hhead
  have hcut : (r.advance 2).dataLength.toNat < (r.advance 2).length.toNat + r.textLength := by
    rw [length_advance hhead]
    exact h
  rw [extract, extractText, hlen, ok_bind]
  dsimp only
  rw [if_neg (by simp), ← textLength, if_pos hcut]
  rfl

theorem extract_text_fits (h : r.length.toNat + 2 + r.textLength ≤ r.dataLength.toNat) :
    r.extract (.text text fresh) = .ok (true,
      .text (some ((r.rest.drop 2).take r.textLength ++
        (fresh (r.textLength + 1)).bytes.drop r.textLength)) fresh,
      (r.advance 2).advance r.textLength) := by
  have hhead : r.length.toNat + 2 ≤ r.dataLength.toNat := by omega
  have hlen : r.extractPlain [0, 0] = .ok (true, r.rest.take 2, r.advance 2) :=
    extractPlain_fits hhead
  have hsize := (fresh (r.textLength + 1)).size_eq
  have hfit : (r.advance 2).length.toNat + r.textLength ≤ (r.advance 2).dataLength.toNat := by
    rw [length_advance hhead]
    exact h
  have hcopy := @copy_fits (r.advance 2) r.textLength (fresh (r.textLength + 1)).bytes
    (by omega) hfit
  have htake : ((r.rest.drop 2).take r.textLength).length = r.textLength := by
    rw [List.length_take, List.length_drop, length_rest]
    omega
  rw [rest_advance hhead, patch, List.take_zero, List.nil_append, Nat.zero_add, htake] at hcopy
  rw [extract, extractText, hlen, ok_bind]
  dsimp only
  rw [if_neg (by simp), ← textLength, if_neg hfit.not_gt, hcopy]
  rfl

end StreamReader
end HXService
