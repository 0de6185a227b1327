import HXService.Lib.Bytes

/-! Link identifiers and message packages (`HXLibMessage.h`), and the faults
at which undefined behaviour or an exception ends a run. -/

namespace HXService
open Bytes

/-- A signed computation out of range, a copy outside its array, `at(0)` of an
empty vector, a vector resized to a negative length, a member call through a null
`HXLibAcceptPtr`. -/
inductive Fault
  | intOverflow
  | outsideArray
  | emptyVector
  | badLength
  | nullLink
  deriving DecidableEq, Repr

abbrev Checked (α : Type) := Except Fault α

theorem ok_bind {α β : Type} (a : α) (f : α → Checked β) : (Except.ok a >>= f) = f a := rfl

theorem error_bind {α β : Type} (e : Fault) (f : α → Checked β) :
    ((.error e : Checked α) >>= f) = .error e := rfl

theorem bind_eq_ok {α β : Type} {x : Checked α} {f : α → Checked β} {b : β} :
    (x >>= f) = .ok b ↔ ∃ a, x = .ok a ∧ f a = .ok b := by
  cases x with
  | error e =>
    constructor
    · exact fun h => nomatch h
    · rintro ⟨_, h, _⟩
      exact nomatch h
  | ok a =>
    constructor
    · exact fun h => ⟨a, rfl, h⟩
    · rintro ⟨_, ⟨⟩, h⟩
      exact h

theorem mem_toOption {α : Type} {x : Checked α} {a : α} (h : x.toOption = some a) : x = .ok a := by
  cases x with
  | ok b => rw [Option.some.inj h]
  | error => exact nomatch h

/-! `checkInt` is the value of a signed `int` expression, `toUnsigned` and
`sizeT` are the conversions of an `int` to `unsigned int` and to `size_t`. -/

def checkInt (x : Int) : Checked Int :=
  if -2 ^ 31 ≤ x ∧ x < 2 ^ 31 then .ok x else .error .intOverflow

theorem checkInt_of_range {x : Int} (h : 0 ≤ x) (h' : x < 2 ^ 31) : checkInt x = .ok x := by
  rw [checkInt, if_pos ⟨by omega, h'⟩]

theorem checkInt_of_ge {x : Int} (h : 2 ^ 31 ≤ x) : checkInt x = .error .intOverflow := by
  rw [checkInt, if_neg (by omega)]

def toUnsigned (x : Int) : Nat := (x % 2 ^ 32).toNat

def sizeT (x : Int32) : Nat := (x.toInt % 2 ^ 64).toNat

theorem toUnsigned_of_range {x : Int} (h : 0 ≤ x) (h' : x < 2 ^ 31) : (toUnsigned x : Int) = x := by
  rw [toUnsigned]
  omega

theorem sizeT_of_nonneg {x : Int32} (h : 0 ≤ x.toInt) : (sizeT x : Int) = x.toInt := by
  have hlt := x.toInt_lt
  rw [sizeT]
  omega

theorem sizeT_of_neg {x : Int32} (h : x.toInt < 0) : 2 ^ 31 ≤ sizeT x := by
  have hle := x.le_toInt
  rw [sizeT]
  omega

/-- The union of `int id` with `unsigned short sid, sindex`; `zero` is `LinkID()`. -/
structure LinkID where
  sid : UInt16
  sindex : UInt16
  deriving DecidableEq, Repr

namespace LinkID

def zero : LinkID := ⟨0, 0⟩

def id (l : LinkID) : Nat := l.sid.toNat + 65536 * l.sindex.toNat

theorem id_eq_zero {l : LinkID} : l.id = 0 ↔ l = zero := by
  obtain ⟨sid, sindex⟩ := l
  simp only [id, zero, mk.injEq, ← UInt16.toNat_inj, UInt16.toNat_zero]
  omega

end LinkID

/-! ## Packages

The ids below `ID_UserIDBase` are reserved for the library. -/

def maxBodyLength : Nat := 32 * 1024
def headerLength : Nat := 8

def idConnect : UInt16 := 101
def idDisconnect : UInt16 := 102
def idBigStreamBegin : UInt16 := 104
def idBigStreamData : UInt16 := 105
def idBigStreamEnd : UInt16 := 106
def idHeartbeat : UInt16 := 107

def dissconnectReadError : UInt16 := 1
def dissconnectWriteError : UInt16 := 2

structure Header where
  id : UInt16
  id2 : UInt16
  length : Int32
  deriving DecidableEq

namespace Header

def bytes (h : Header) : List UInt8 :=
  leBytes 2 h.id.toNat ++ leBytes 2 h.id2.toNat ++ leBytes 4 h.length.toUInt32.toNat

def ofBytes (bs : List UInt8) : Header :=
  let id := readLE 2 bs
  let id2 := readLE 2 id.2
  let length := readLE 4 id2.2
  ⟨UInt16.ofNat id.1, UInt16.ofNat id2.1, (UInt32.ofNat length.1).toInt32⟩

@[simp] theorem length_bytes (h : Header) : h.bytes.length = headerLength := by
  simp only [bytes, List.length_append, length_leBytes, headerLength]

theorem ofBytes_bytes (h : Header) (rest : List UInt8) : ofBytes (h.bytes ++ rest) = h := by
  obtain ⟨id, id2, length⟩ := h
  have hid : id.toNat % 256 ^ 2 = id.toNat := Nat.mod_eq_of_lt id.toNat_lt
  have hid2 : id2.toNat % 256 ^ 2 = id2.toNat := Nat.mod_eq_of_lt id2.toNat_lt
  have hlen : length.toUInt32.toNat % 256 ^ 4 = length.toUInt32.toNat :=
    Nat.mod_eq_of_lt length.toUInt32.toNat_lt
  simp only [bytes, ofBytes, List.append_assoc, readLE_append, hid, hid2, hlen,
    UInt16.ofNat_toNat, UInt32.ofNat_toNat, Int32.toInt32_toUInt32]

theorem ofBytes_bytes_self (h : Header) : ofBytes h.bytes = h := by
  have hbytes := ofBytes_bytes h []
  rwa [List.append_nil] at hbytes

def InRange (h : Header) : Prop := 0 ≤ h.length.toInt ∧ h.length.toInt ≤ maxBodyLength

instance (h : Header) : Decidable h.InRange := inferInstanceAs (Decidable (_ ∧ _))

theorem sizeT_le_iff (h : Header) : sizeT h.length ≤ maxBodyLength ↔ h.InRange := by
  unfold InRange
  have hmax : maxBodyLength = 32768 := rfl
  by_cases hn : 0 ≤ h.length.toInt
  · have hs := sizeT_of_nonneg hn
    omega
  · have hs := sizeT_of_neg (not_le.mp hn)
    omega

end Header

/-- A package: `data` is the part of `data_` behind the header. -/
structure HXMessagePackage where
  mLinkid : LinkID
  header : Header
  data : Block maxBodyLength
  bigDataPointer : Option (List UInt8)
  deriving DecidableEq

namespace HXMessagePackage

def bodyLength (p : HXMessagePackage) : Nat := sizeT p.header.length

def body (p : HXMessagePackage) : List UInt8 := p.bigDataPointer.getD p.data.bytes

def bodyBytes (p : HXMessagePackage) : List UInt8 := p.body.take p.bodyLength

/-- The `length()` bytes at `data()`, as long as they lie in `data_`. -/
def frame (p : HXMessagePackage) : List UInt8 := p.header.bytes ++ p.data.load p.bodyLength

/-- A package a sender fills on its stack. What the source leaves
indeterminate behind the body is zero here; it is never sent. -/
def filled (linkid : LinkID) (id id2 : UInt16) (body : List UInt8)
    (h : body.length ≤ maxBodyLength) : HXMessagePackage where
  mLinkid := linkid
  header := ⟨id, id2, Int32.ofNat body.length⟩
  data := (Block.zeros maxBodyLength).store body h
  bigDataPointer := none

section Received
variable {p : HXMessagePackage}

theorem bodyLength_of_inRange (h : p.header.InRange) : (p.bodyLength : Int) = p.header.length.toInt :=
  sizeT_of_nonneg h.1

theorem bodyLength_le (h : p.header.InRange) : p.bodyLength ≤ maxBodyLength :=
  (Header.sizeT_le_iff p.header).mpr h

theorem bodyLength_of_header {q : HXMessagePackage} (h : p.header.InRange) (hheader : q.header = p.header) :
    q.bodyLength = (p.data.load p.bodyLength).length := by
  rw [bodyLength, hheader, Block.length_load (bodyLength_le h)]
  rfl

theorem bodyBytes_of_none (h : p.bigDataPointer = none) : p.bodyBytes = p.data.load p.bodyLength := by
  rw [bodyBytes, body, h, Option.getD_none, Block.load]

end Received

section Framed
variable (p : HXMessagePackage) (rest : List UInt8)

theorem headerLength_le_frame : headerLength ≤ (p.frame ++ rest).length := by
  rw [frame, List.append_assoc, List.length_append, Header.length_bytes]
  exact Nat.le_add_right _ _

theorem take_frame : (p.frame ++ rest).take headerLength = p.header.bytes := by
  rw [frame, List.append_assoc, ← Header.length_bytes p.header, List.take_left]

theorem drop_frame : (p.frame ++ rest).drop headerLength = p.data.load p.bodyLength ++ rest := by
  rw [frame, List.append_assoc, ← Header.length_bytes p.header, List.drop_left]

end Framed

section Filled
variable (linkid : LinkID) (id id2 : UInt16) {bs : List UInt8} (h : bs.length ≤ maxBodyLength)

theorem filled_length : (filled linkid id id2 bs h).header.length.toInt = bs.length := by
  have hmax : maxBodyLength = 32768 := rfl
  exact Int32.toInt_ofNat_of_lt (by omega)

theorem filled_inRange : (filled linkid id id2 bs h).header.InRange := by
  rw [Header.InRange, filled_length]
  exact ⟨by omega, by exact_mod_cast h⟩

theorem bodyLength_filled : (filled linkid id id2 bs h).bodyLength = bs.length := by
  have hl := bodyLength_of_inRange (filled_inRange linkid id id2 h)
  rw [filled_length] at hl
  exact_mod_cast hl

theorem bodyBytes_filled : (filled linkid id id2 bs h).bodyBytes = bs := by
  rw [bodyBytes_of_none rfl, bodyLength_filled]
  exact Block.load_store _ _ h

end Filled
end HXMessagePackage
end HXService
