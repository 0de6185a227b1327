import HXService.Lib.Runs

/-! Items appended to a sequence one after the other, and taken off its front in the
same order. The writer is a machine that may refuse an item; so is the reader, which
is told what to take and hands it out. -/

namespace Codec
open Runs
variable {σ τ ι κ α β : Type*}

/-- What the writer accepts stands in its bytes, behind what was there. -/
def Appends (written : σ → List β) (encode : ι → List β) (put : σ → ι → Option σ) : Prop :=
  ∀ s x s', put s x = some s' → written s' = written s ++ encode x

theorem Appends.run {written : σ → List β} {encode : ι → List β} {put : σ → ι → Option σ}
    (h : Appends written encode put) {s s' : σ} {xs : List ι} (hrun : Runs.run put s xs = some s') :
    written s' = written s ++ xs.flatMap encode := by
  induction xs generalizing s with
  | nil =>
    rw [Runs.run, Option.some.injEq] at hrun
    rw [hrun, List.flatMap_nil, List.append_nil]
  | cons x xs ih =>
    obtain ⟨t, hput, hrest⟩ := run_cons.mp hrun
    rw [ih hrest, h s x t hput, List.flatMap_cons, List.append_assoc]

/-- One item for each demand. -/
def takeAll (take : τ → κ → Option (α × τ)) : τ → List κ → Option (List α × τ)
  | r, [] => some ([], r)
  | r, k :: ks => (take r k).bind fun first =>
    (takeAll take first.2 ks).map fun rest => (first.1 :: rest.1, rest.2)

/-- In a good state, a demand that matches an item takes just that item, whatever
follows it. -/
def Takes (good : τ → Prop) (rest : τ → List β) (encode : ι → List β) (value : ι → κ → α)
    (take : τ → κ → Option (α × τ)) (x : ι) (k : κ) : Prop :=
  ∀ r tail, good r → rest r = encode x ++ tail →
    ∃ r', take r k = some (value x k, r') ∧ good r' ∧ rest r' = tail

theorem takeAll_flatMap {good : τ → Prop} {rest : τ → List β} {encode : ι → List β}
    {value : ι → κ → α} {take : τ → κ → Option (α × τ)} {xs : List ι} {ks : List κ}
    (h : List.Forall₂ (Takes good rest encode value take) xs ks) {r : τ} {tail : List β}
    (hgood : good r) (hr : rest r = xs.flatMap encode ++ tail) :
    ∃ r', takeAll take r ks = some (List.zipWith value xs ks, r') ∧ good r' ∧ rest r' = tail := by
  induction h generalizing r with
  | nil => exact ⟨r, rfl, hgood, hr⟩
  | cons hx _ ih =>
    rw [List.flatMap_cons, List.append_assoc] at hr
    obtain ⟨r₁, hfirst, hgood₁, hr₁⟩ := hx r _ hgood hr
    obtain ⟨r₂, hall, hgood₂, hr₂⟩ := ih hgood₁ hr₁
    refine ⟨r₂, ?_, hgood₂, hr₂⟩
    rw [takeAll, hfirst, Option.bind_some, hall]
    rfl

end Codec
