import HXService.Lib.Memory
import HXService.Protocol

/-! A message in memory, and the trailer that is looked for backwards from the end of a
stream. Addresses count from the body. -/

namespace HXService.StreamTrailer
open Bytes

def linkBytes (linkID : LinkID) : List UInt8 := leBytes 2 linkID.sid.toNat ++ leBytes 2 linkID.sindex.toNat

/-- In front of a body in the package itself stand the link and the header. A
reassembled body has a place of its own. -/
def lowest (p : HXMessagePackage) : Int := if p.bigDataPointer.isSome then 0 else -12

def memoryOf (p : HXMessagePackage) : Memory :=
  ((Memory.store (fun _ => 0) (-12) (linkBytes p.mLinkid)).store (-8) p.header.bytes).store 0 p.body

-- `data + len - sizeof(FlvStreamReback)`
def trailerAt (len : Nat) : Int := len - FlvStreamReback.size

def trailer (mem : Memory) (len : Nat) : FlvStreamReback :=
  FlvStreamReback.ofBytes (mem.load (trailerAt len) FlvStreamReback.size)

structure Outcome where
  mem : Memory
  dTimer : UInt64
  payload : List UInt8

/-- `SendFlvStream(data, len)` as far as `SetBigPackage`: `now` is read from the timer. -/
def stamp (mem : Memory) (len : Nat) (now : UInt64) : Memory × List UInt8 :=
  let mem := mem.store (trailerAt len) { trailer mem len with dTimer := now }.bytes
  (mem, mem.load 0 len)

/-- The message in the main loop: `dTimer` of the trailer goes back to the sender. -/
def handleStream (mem : Memory) (len : Nat) (now : UInt64) : Outcome :=
  let stamped := stamp mem len now
  ⟨stamped.1, (trailer mem len).dTimer, stamped.2⟩

/-! Of the memory only what lies from the trailer on to the end of the body tells. -/

section Congr
variable {mem mem' : Memory} {len : Nat} {low : Int}

theorem trailer_congr (h : ∀ a, low ≤ a → a < len → mem' a = mem a) (hlow : low ≤ trailerAt len) :
    trailer mem' len = trailer mem len := by
  have hsize : FlvStreamReback.size = 40 := rfl
  rw [trailer, trailer, Memory.load_congr]
  intro a hfrom hto
  unfold trailerAt at *
  exact h a (by omega) (by omega)

theorem payload_congr (h : ∀ a, low ≤ a → a < len → mem' a = mem a) (hlow : low ≤ trailerAt len)
    (hbody : low ≤ 0) {now : UInt64} : (stamp mem' len now).2 = (stamp mem len now).2 := by
  unfold stamp
  rw [trailer_congr h hlow]
  apply Memory.load_congr
  intro a hfrom hto
  exact Memory.store_congr (h a (by omega) (by omega))

theorem lowest_nonpos (p : HXMessagePackage) : lowest p ≤ 0 := by
  unfold lowest
  split_ifs <;> decide

end Congr

end HXService.StreamTrailer
