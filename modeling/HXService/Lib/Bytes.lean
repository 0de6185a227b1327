import Mathlib.Tactic

/-! Little-endian integers, copies into byte sequences, and fixed-size blocks
of bytes. Everything is total; a copy that would leave its target is refused
with `none`. -/

namespace Bytes

def leBytes : Nat → Nat → List UInt8
  | 0, _ => []
  | w + 1, n => UInt8.ofNat n :: leBytes w (n / 256)

def ofLE : List UInt8 → Nat
  | [] => 0
  | b :: bs => b.toNat + 256 * ofLE bs

@[simp] theorem length_leBytes (w n : Nat) : (leBytes w n).length = w := by
  induction w generalizing n with
  | zero => rfl
  | succ w ih => simp only [leBytes, List.length_cons, ih]

theorem ofLE_leBytes (w n : Nat) : ofLE (leBytes w n) = n % 256 ^ w := by
  induction w generalizing n with
  | zero => simp only [leBytes, ofLE, pow_zero, Nat.mod_one]
  | succ w ih =>
    simp only [leBytes, ofLE, ih, UInt8.toNat_ofNat', pow_succ' 256 w, Nat.mod_mul]

theorem ofLE_append (xs ys : List UInt8) : ofLE (xs ++ ys) = ofLE xs + 256 ^ xs.length * ofLE ys := by
  induction xs with
  | nil => simp [ofLE]
  | cons x xs ih =>
    simp only [List.cons_append, ofLE, ih, List.length_cons, pow_succ']
    ring

theorem ofLE_lt (xs : List UInt8) : ofLE xs < 256 ^ xs.length := by
  induction xs with
  | nil => simp [ofLE]
  | cons x xs ih =>
    have hlt := x.toNat_lt
    rw [ofLE, List.length_cons, pow_succ']
    omega

theorem leBytes_ofLE (xs : List UInt8) : leBytes xs.length (ofLE xs) = xs := by
  induction xs with
  | nil => rfl
  | cons x xs ih =>
    have hlt := x.toNat_lt
    have hdiv : (x.toNat + 256 * ofLE xs) / 256 = ofLE xs := by omega
    have hbyte : UInt8.ofNat (x.toNat + 256 * ofLE xs) = x := by
      rw [← UInt8.toNat_inj, UInt8.toNat_ofNat']
      omega
    rw [List.length_cons, ofLE, leBytes, hdiv, hbyte, ih]

def readLE (w : Nat) (bs : List UInt8) : Nat × List UInt8 := (ofLE (bs.take w), bs.drop w)

theorem readLE_append (w n : Nat) (rest : List UInt8) :
    readLE w (leBytes w n ++ rest) = (n % 256 ^ w, rest) := by
  have hl : (leBytes w n).length = w := length_leBytes w n
  rw [readLE, List.take_append_of_le_length hl.ge, List.take_of_length_le hl.le,
    List.drop_append_of_le_length hl.ge, List.drop_of_length_le hl.le, List.nil_append, ofLE_leBytes]

/-! ## Copying into a sequence

`patch xs off ys` is `xs` with `ys` copied over it from offset `off` on;
`resize` keeps old contents and fills new places with a given value. -/

section Patch
variable {α : Type*}

def patch (xs : List α) (off : Nat) (ys : List α) : List α :=
  xs.take off ++ ys ++ xs.drop (off + ys.length)

theorem length_patch {xs ys : List α} {off : Nat} (h : off + ys.length ≤ xs.length) :
    (patch xs off ys).length = xs.length := by
  simp only [patch, List.length_append, List.length_take, List.length_drop]
  omega

theorem getElem?_patch_of_mem {xs ys : List α} {off i : Nat} (hi : off ≤ i)
    (hlt : i < off + ys.length) (h : off + ys.length ≤ xs.length) :
    (patch xs off ys)[i]? = ys[i - off]? := by
  have ht : (xs.take off).length = off := by simp only [List.length_take]; omega
  rw [patch, List.append_assoc, List.getElem?_append_right (by omega), ht,
    List.getElem?_append_left (by omega)]

theorem getElem?_patch_of_not_mem {xs ys : List α} {off i : Nat}
    (hi : i < off ∨ off + ys.length ≤ i) (h : off + ys.length ≤ xs.length) :
    (patch xs off ys)[i]? = xs[i]? := by
  have ht : (xs.take off).length = off := by simp only [List.length_take]; omega
  rw [patch, List.append_assoc]
  rcases hi with hi | hi
  · rw [List.getElem?_append_left (by omega), List.getElem?_take_of_lt hi]
  · rw [List.getElem?_append_right (by omega), ht, List.getElem?_append_right (by omega),
      List.getElem?_drop]
    congr 1
    omega

theorem patch_full {xs ys : List α} (h : ys.length = xs.length) : patch xs 0 ys = ys := by
  rw [patch, List.take_zero, List.nil_append, Nat.zero_add, h, List.drop_length, List.append_nil]

theorem take_patch {xs ys : List α} {off : Nat} (h : off + ys.length ≤ xs.length) :
    (patch xs off ys).take (off + ys.length) = xs.take off ++ ys := by
  have hl : (xs.take off ++ ys).length = off + ys.length := by
    simp only [List.length_append, List.length_take]
    omega
  rw [patch, ← hl, List.take_left']
  rfl

theorem patch_append_drop (xs ys : List α) (off : Nat) :
    patch xs off (ys ++ xs.drop (off + ys.length)) = patch xs off ys := by
  have hend : xs.drop (off + (ys.length + (xs.length - (off + ys.length)))) = [] :=
    List.drop_eq_nil_of_le (by omega)
  rw [patch, patch, List.length_append, List.length_drop, hend, List.append_nil, List.append_assoc]

/-- `memcpy` of `len` bytes of `src` to offset `off`, refused when it would
read past `src` or write past `dst`. -/
def copyInto (dst : List α) (off : Nat) (src : List α) (len : Nat) : Option (List α) :=
  if len ≤ src.length ∧ off + len ≤ dst.length then some (patch dst off (src.take len)) else none

theorem copyInto_eq_some_iff {dst src out : List α} {off len : Nat} :
    copyInto dst off src len = some out ↔
      len ≤ src.length ∧ off + len ≤ dst.length ∧ out = patch dst off (src.take len) := by
  unfold copyInto
  split_ifs with h
  · simp only [Option.some.injEq, h, true_and, eq_comm]
  · simp only [false_iff]
    rintro ⟨h1, h2, -⟩
    exact h ⟨h1, h2⟩

theorem copyInto_eq_none_iff {dst src : List α} {off len : Nat} :
    copyInto dst off src len = none ↔ src.length < len ∨ dst.length < off + len := by
  unfold copyInto
  split_ifs with h
  · simp only [false_iff]
    omega
  · simp only [true_iff]
    omega

def resize (xs : List α) (n : Nat) (a : α) : List α := xs.take n ++ List.replicate (n - xs.length) a

@[simp] theorem length_resize (xs : List α) (n : Nat) (a : α) : (resize xs n a).length = n := by
  simp only [resize, List.length_append, List.length_take, List.length_replicate]
  omega

end Patch

/-! ## Overlays

A sequence assembled from pieces copied to their offsets one after the other.
Once the pieces cover it, nothing of the sequence they were copied over shows. -/

section Overlay
variable {α : Type*}

def overlay (base : List α) (pieces : List (Nat × List α)) : List α :=
  pieces.foldl (fun xs piece => patch xs piece.1 piece.2) base

def Within (n : Nat) (piece : Nat × List α) : Prop := piece.1 + piece.2.length ≤ n

def Covers (pieces : List (Nat × List α)) (n : Nat) : Prop :=
  ∀ i < n, ∃ piece ∈ pieces, piece.1 ≤ i ∧ i < piece.1 + piece.2.length

theorem overlay_cons (base : List α) (piece : Nat × List α) (pieces : List (Nat × List α)) :
    overlay base (piece :: pieces) = overlay (patch base piece.1 piece.2) pieces := rfl

theorem overlay_append_singleton (base : List α) (pieces : List (Nat × List α)) (piece : Nat × List α) :
    overlay base (pieces ++ [piece]) = patch (overlay base pieces) piece.1 piece.2 := by
  rw [overlay, List.foldl_append]
  rfl

theorem length_overlay {base : List α} {pieces : List (Nat × List α)}
    (h : ∀ piece ∈ pieces, Within base.length piece) : (overlay base pieces).length = base.length := by
  induction pieces generalizing base with
  | nil => rfl
  | cons piece pieces ih =>
    have hlen : (patch base piece.1 piece.2).length = base.length :=
      length_patch (h piece List.mem_cons_self)
    rw [overlay_cons, ih, hlen]
    intro p hp
    rw [hlen]
    exact h p (List.mem_cons_of_mem _ hp)

theorem getElem?_overlay_congr {base base' : List α} {pieces : List (Nat × List α)} {i : Nat}
    (hlen : base.length = base'.length) (hin : ∀ piece ∈ pieces, Within base.length piece)
    (h : (∃ piece ∈ pieces, piece.1 ≤ i ∧ i < piece.1 + piece.2.length) ∨ base[i]? = base'[i]?) :
    (overlay base pieces)[i]? = (overlay base' pieces)[i]? := by
  induction pieces generalizing base base' with
  | nil =>
    rcases h with ⟨piece, hp, -⟩ | h
    · exact absurd hp List.not_mem_nil
    · exact h
  | cons piece pieces ih =>
    have hfit : piece.1 + piece.2.length ≤ base.length := hin piece List.mem_cons_self
    have hfit' : piece.1 + piece.2.length ≤ base'.length := hlen ▸ hfit
    have hl := length_patch hfit
    rw [overlay_cons, overlay_cons]
    apply ih
    · rw [hl, length_patch hfit', hlen]
    · intro p hp
      rw [hl]
      exact hin p (List.mem_cons_of_mem _ hp)
    by_cases hi : piece.1 ≤ i ∧ i < piece.1 + piece.2.length
    · right
      rw [getElem?_patch_of_mem hi.1 hi.2 hfit, getElem?_patch_of_mem hi.1 hi.2 hfit']
    · have hout : i < piece.1 ∨ piece.1 + piece.2.length ≤ i := by omega
      rcases h with ⟨p, hp, hpi⟩ | h
      · rcases List.mem_cons.mp hp with rfl | hp
        · exact absurd hpi hi
        · exact Or.inl ⟨p, hp, hpi⟩
      · right
        rw [getElem?_patch_of_not_mem hout hfit, getElem?_patch_of_not_mem hout hfit', h]

theorem overlay_eq_of_covers {base base' : List α} {pieces : List (Nat × List α)}
    (hlen : base.length = base'.length) (hin : ∀ piece ∈ pieces, Within base.length piece)
    (h : Covers pieces base.length) : overlay base pieces = overlay base' pieces := by
  have hin' : ∀ piece ∈ pieces, Within base'.length piece := hlen ▸ hin
  apply List.ext_getElem?
  intro i
  by_cases hi : i < base.length
  · exact getElem?_overlay_congr hlen hin (Or.inl (h i hi))
  · rw [List.getElem?_eq_none (by rw [length_overlay hin]; omega),
      List.getElem?_eq_none (by rw [length_overlay hin']; omega)]

end Overlay

/-- An array object of exactly `n` bytes. -/
structure Block (n : Nat) where
  bytes : List UInt8
  size_eq : bytes.length = n
  deriving DecidableEq

namespace Block
variable {n : Nat}

def zeros (n : Nat) : Block n := ⟨List.replicate n 0, List.length_replicate⟩

def load (b : Block n) (len : Nat) : List UInt8 := b.bytes.take len

def store (b : Block n) (src : List UInt8) (h : src.length ≤ n) : Block n :=
  ⟨patch b.bytes 0 src, by rw [length_patch (by rw [b.size_eq]; omega), b.size_eq]⟩

theorem length_load {b : Block n} {len : Nat} (h : len ≤ n) : (b.load len).length = len := by
  simp only [load, List.length_take, b.size_eq]
  omega

@[simp] theorem load_store (b : Block n) (src : List UInt8) (h : src.length ≤ n) :
    (b.store src h).load src.length = src := by
  have ht := @take_patch _ b.bytes src 0 (by rw [b.size_eq]; omega)
  simpa only [load, store, Nat.zero_add, List.take_zero, List.nil_append] using ht

theorem store_load {b : Block n} {len : Nat} (h : len ≤ n) (hfit : (b.load len).length ≤ n) :
    b.store (b.load len) hfit = b := by
  have hlength := @length_load n b len h
  cases b with
  | mk bytes size_eq =>
    simp only [store, patch, load, mk.injEq] at hlength ⊢
    rw [hlength]
    simp

theorem load_store_of_length {b : Block n} {src : List UInt8} {h : src.length ≤ n} {len : Nat}
    (hl : len = src.length) : (b.store src h).load len = src := by
  subst hl
  exact load_store b src h

def copyIn (b : Block n) (off : Nat) (src : List UInt8) (len : Nat) : Option (Block n) :=
  if h : len ≤ src.length ∧ off + len ≤ n then
    some ⟨patch b.bytes off (src.take len), by
      rw [length_patch (by rw [List.length_take_of_le h.1, b.size_eq]; exact h.2), b.size_eq]⟩
  else none

theorem exists_copyIn {b : Block n} {off : Nat} {src : List UInt8} {len : Nat} (hsrc : len ≤ src.length)
    (hfit : off + len ≤ n) : ∃ b', b.copyIn off src len = some b' ∧
      b'.load (off + len) = b.load off ++ src.take len := by
  refine ⟨_, dif_pos ⟨hsrc, hfit⟩, ?_⟩
  have hlen : (src.take len).length = len := List.length_take_of_le hsrc
  have htake := @take_patch _ b.bytes (src.take len) off (by rw [hlen, b.size_eq]; exact hfit)
  rwa [hlen] at htake

def front (b : Block n) (len : Nat) (h : len ≤ n) : Block len := ⟨b.load len, length_load h⟩

end Block
end Bytes
