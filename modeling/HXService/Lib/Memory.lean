import HXService.Lib.Bytes

/-! Memory as a byte for every address, addresses counted from some fixed place. -/

abbrev Memory := Int → UInt8

namespace Memory
open Bytes

def load (mem : Memory) (base : Int) (n : Nat) : List UInt8 :=
  (List.range n).map fun i : Nat => mem (base + i)

def store (mem : Memory) (base : Int) (bs : List UInt8) : Memory :=
  fun a => if base ≤ a ∧ a < base + bs.length then bs.getD (a - base).toNat 0 else mem a

variable {mem mem' : Memory} {base a : Int} {n : Nat} {bs : List UInt8}

@[simp] theorem length_load : (mem.load base n).length = n := by
  simp only [load, List.length_map, List.length_range]

theorem getElem?_load {i : Nat} (hi : i < n) : (mem.load base n)[i]? = some (mem (base + i)) := by
  simp only [load, List.getElem?_map, List.getElem?_range hi, Option.map_some]

theorem load_congr (h : ∀ a, base ≤ a → a < base + n → mem' a = mem a) :
    mem'.load base n = mem.load base n := by
  apply List.map_congr_left
  intro i hi
  rw [List.mem_range] at hi
  apply h
  · omega
  · omega

theorem eq_of_load (h : mem'.load base n = mem.load base n) (hlow : base ≤ a) (hhigh : a < base + n) :
    mem' a = mem a := by
  have hi : (a - base).toNat < n := by omega
  have hbyte := congrArg (fun bs => bs[(a - base).toNat]?) h
  have haddress : base + ((a - base).toNat : Int) = a := by omega
  simp only [getElem?_load hi, haddress] at hbyte
  exact Option.some.inj hbyte

theorem store_outside (h : ¬(base ≤ a ∧ a < base + bs.length)) : mem.store base bs a = mem a := if_neg h

theorem store_congr (h : mem' a = mem a) : mem'.store base bs a = mem.store base bs a := by
  rw [store, store, h]

theorem store_first {b : UInt8} : mem.store base (b :: bs) base = b := by
  have hin : base ≤ base ∧ base < base + (b :: bs).length := by
    simp only [List.length_cons]
    omega
  rw [store, if_pos hin, Int.sub_self]
  rfl

theorem load_part {off len : Nat} (h : off + len ≤ n) :
    mem.load (base + off) len = ((mem.load base n).drop off).take len := by
  apply List.ext_getElem?
  intro i
  by_cases hi : i < len
  · rw [getElem?_load hi, List.getElem?_take_of_lt hi, List.getElem?_drop,
      getElem?_load (by omega), Nat.cast_add, Int.add_assoc]
  · rw [List.getElem?_eq_none (by rw [length_load]; omega), List.getElem?_eq_none]
    rw [List.length_take]
    omega

theorem load_store {off : Nat} (h : off + bs.length ≤ n) :
    (mem.store (base + off) bs).load base n = patch (mem.load base n) off bs := by
  have hfit : off + bs.length ≤ (mem.load base n).length := by rwa [length_load]
  apply List.ext_getElem?
  intro i
  by_cases hi : i < n
  · rw [getElem?_load hi]
    by_cases hin : off ≤ i ∧ i < off + bs.length
    · rw [getElem?_patch_of_mem hin.1 hin.2 hfit, store, if_pos (by omega),
        List.getD_eq_getElem?_getD, List.getElem?_eq_getElem (by omega)]
      have hoffset : (base + i - (base + off)).toNat = i - off := by omega
      simp only [hoffset, Option.getD_some]
      rw [List.getElem?_eq_getElem (by omega)]
    · rw [getElem?_patch_of_not_mem (by omega) hfit, getElem?_load hi, store_outside (by omega)]
  · rw [List.getElem?_eq_none (by rw [length_load]; omega),
      List.getElem?_eq_none (by rw [length_patch hfit, length_load]; omega)]

theorem load_store_self : (mem.store base bs).load base bs.length = bs := by
  have hload := @load_store mem base bs.length bs 0 (Nat.zero_add _).le
  rw [Nat.cast_zero, Int.add_zero] at hload
  rw [hload, patch_full length_load.symm]

theorem load_store_apart {base' : Int} (h : base' + bs.length ≤ base ∨ base + n ≤ base') :
    (mem.store base' bs).load base n = mem.load base n := by
  apply load_congr
  intro a hlow hhigh
  apply store_outside
  omega

end Memory
