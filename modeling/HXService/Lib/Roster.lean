import Mathlib.Tactic

/-! Lists of entries found by a key: removing or changing the first match, and
what entering and leaving does to a list whose keys are distinct. -/

namespace Roster

section Keyed
variable {α β κ : Type*} [DecidableEq κ] (key : α → κ)

def find (k : κ) (xs : List α) : Option α := xs.find? (key · = k)

def remove (k : κ) (xs : List α) : List α := xs.eraseP (key · = k)

def modify (k : κ) (f : α → α) : List α → List α
  | [] => []
  | x :: xs => if key x = k then f x :: xs else x :: modify k f xs

variable {key} {k : κ} {xs : List α}

theorem find_cons_self {x : α} (h : key x = k) : find key k (x :: xs) = some x :=
  List.find?_cons_of_pos (decide_eq_true h)

theorem find_cons_of_ne {x : α} (h : key x ≠ k) : find key k (x :: xs) = find key k xs :=
  List.find?_cons_of_neg (by rwa [decide_eq_true_eq])

theorem remove_cons_self {x : α} (h : key x = k) : remove key k (x :: xs) = xs :=
  List.eraseP_cons_of_pos (decide_eq_true h)

theorem remove_cons_of_ne {x : α} (h : key x ≠ k) : remove key k (x :: xs) = x :: remove key k xs :=
  List.eraseP_cons_of_neg (by rw [decide_eq_false h]; exact Bool.false_ne_true)

theorem remove_of_find_none (h : find key k xs = none) : remove key k xs = xs :=
  List.eraseP_of_forall_not (List.find?_eq_none.mp h)

theorem remove_eq_eraseIdx : remove key k xs = xs.eraseIdx (xs.findIdx (key · = k)) := by
  induction xs with
  | nil => rfl
  | cons x xs ih =>
    rw [List.findIdx_cons]
    by_cases hx : key x = k
    · rw [remove_cons_self hx, decide_eq_true hx]
      rfl
    · rw [remove_cons_of_ne hx, decide_eq_false hx, ih]
      rfl

theorem filter_ne_of_notMem (h : k ∉ xs.map key) : xs.filter (key · ≠ k) = xs := by
  rw [List.filter_eq_self]
  intro x hx
  rw [decide_eq_true_eq]
  rintro rfl
  exact h (List.mem_map_of_mem hx)

omit [DecidableEq κ] in
theorem key_ne_of_nodup {ys : List α} {x y : α} (h : ((xs ++ x :: ys).map key).Nodup) (hy : y ∈ xs) :
    key y ≠ key x := by
  rw [List.map_append, List.map_cons] at h
  intro hsame
  exact List.disjoint_of_nodup_append h (hsame ▸ List.mem_map_of_mem hy) List.mem_cons_self

theorem find_between {ys : List α} {x : α} (h : ((xs ++ x :: ys).map key).Nodup) :
    find key (key x) (xs ++ x :: ys) = some x := by
  rw [find, List.find?_eq_some_iff_append]
  refine ⟨decide_eq_true rfl, xs, ys, rfl, ?_⟩
  intro y hy
  rw [decide_eq_false (key_ne_of_nodup h hy)]
  rfl

theorem remove_between {ys : List α} {x : α} (h : ((xs ++ x :: ys).map key).Nodup) :
    remove key (key x) (xs ++ x :: ys) = xs ++ ys := by
  induction xs with
  | nil => exact remove_cons_self rfl
  | cons y xs ih =>
    have hne : key y ≠ key x := key_ne_of_nodup h List.mem_cons_self
    rw [List.cons_append, remove_cons_of_ne hne, ih (List.nodup_cons.mp h).2, List.cons_append]

theorem find_eq_none_of_notMem (h : k ∉ xs.map key) : find key k xs = none := by
  rw [find, List.find?_eq_none]
  intro x hx hsame
  exact h (of_decide_eq_true hsame ▸ List.mem_map_of_mem hx)

theorem remove_eq_filter (h : (xs.map key).Nodup) : remove key k xs = xs.filter (key · ≠ k) := by
  induction xs with
  | nil => rfl
  | cons x xs ih =>
    rw [List.map_cons, List.nodup_cons] at h
    by_cases hx : key x = k
    · subst hx
      rw [remove_cons_self rfl,
        List.filter_cons_of_neg (by rw [decide_eq_true_eq]; exact not_not.mpr rfl),
        filter_ne_of_notMem h.1]
    · have hkeep : decide (key x ≠ k) = true := decide_eq_true hx
      rw [remove_cons_of_ne hx, ih h.2]
      exact (@List.filter_cons_of_pos _ (fun x => decide (key x ≠ k)) x xs hkeep).symm

omit [DecidableEq κ] in
theorem eq_of_key {x y : α} (h : (xs.map key).Nodup) (hx : x ∈ xs) (hy : y ∈ xs) (hkey : key x = key y) :
    x = y := List.inj_on_of_nodup_map h hx hy hkey

theorem filter_key {x : α} (h : (xs.map key).Nodup) (hx : x ∈ xs) : xs.filter (key · = key x) = [x] := by
  induction xs with
  | nil => cases hx
  | cons y xs ih =>
    rw [List.map_cons, List.nodup_cons] at h
    rcases List.mem_cons.mp hx with rfl | hmem
    · have hrest : xs.filter (key · = key x) = [] := by
        rw [List.filter_eq_nil_iff]
        intro y hy hsame
        exact h.1 (of_decide_eq_true hsame ▸ List.mem_map_of_mem hy)
      have hself : decide (key x = key x) = true := decide_eq_true rfl
      rw [@List.filter_cons_of_pos _ (fun y => decide (key y = key x)) x xs hself, hrest]
    · have hne : key y ≠ key x := fun hsame => h.1 (hsame ▸ List.mem_map_of_mem hmem)
      rw [List.filter_cons_of_neg (by rw [decide_eq_true_eq]; exact hne), ih h.2 hmem]

theorem modify_eq_map (f : α → α) (h : (xs.map key).Nodup) :
    modify key k f xs = xs.map fun x => if key x = k then f x else x := by
  induction xs with
  | nil => rfl
  | cons x xs ih =>
    rw [List.map_cons, List.nodup_cons] at h
    rw [List.map_cons, modify]
    by_cases hx : key x = k
    · subst hx
      have hrest : ∀ y ∈ xs, (if key y = key x then f y else y) = id y := by
        intro y hy
        apply if_neg
        intro heq
        exact h.1 (heq ▸ List.mem_map_of_mem hy)
      rw [if_pos rfl, if_pos rfl, List.map_congr_left hrest, List.map_id]
    · rw [if_neg hx, if_neg hx, ih h.2]

theorem map_modify (g : α → β) {f : α → α} (h : ∀ x, g (f x) = g x) :
    (modify key k f xs).map g = xs.map g := by
  induction xs with
  | nil => rfl
  | cons x xs ih =>
    rw [modify]
    split_ifs with hx
    · rw [List.map_cons, List.map_cons, h]
    · rw [List.map_cons, List.map_cons, ih]

theorem forall₂_modify {R : α → α → Prop} {f : α → α} (hrefl : ∀ x, R x x) (hf : ∀ x, R x (f x)) :
    List.Forall₂ R xs (modify key k f xs) := by
  induction xs with
  | nil => exact .nil
  | cons x xs ih =>
    rw [modify]
    split_ifs with hx
    · exact .cons (hf x) (List.forall₂_same.mpr fun y _ => hrefl y)
    · exact .cons (hrefl x) ih

theorem filter_modify {p : α → Bool} {f : α → α} (hne : ∀ x ∈ xs, p x = true → key x ≠ k)
    (hf : ∀ x, p (f x) = p x) : (modify key k f xs).filter p = xs.filter p := by
  induction xs with
  | nil => rfl
  | cons x xs ih =>
    unfold modify
    split_ifs with hk
    · have hx : ¬p x = true := fun hp => hne x List.mem_cons_self hp hk
      have hfx : ¬p (f x) = true := by
        rw [hf]
        exact hx
      rw [List.filter_cons_of_neg hfx, List.filter_cons_of_neg hx]
    · rw [List.filter_cons, List.filter_cons, ih fun y hy => hne y (List.mem_cons_of_mem _ hy)]

theorem modify_of_find_none {f : α → α} (h : find key k xs = none) : modify key k f xs = xs := by
  induction xs with
  | nil => rfl
  | cons x xs ih =>
    have hnone := List.find?_eq_none.mp h
    have hx : key x ≠ k := fun heq => hnone x List.mem_cons_self (decide_eq_true heq)
    have hrest : find key k xs = none :=
      List.find?_eq_none.mpr fun y hy => hnone y (List.mem_cons_of_mem x hy)
    rw [modify, if_neg hx, ih hrest]

theorem find_modify {f : α → α} (hf : ∀ x, key (f x) = key x) :
    find key k (modify key k f xs) = (find key k xs).map f := by
  induction xs with
  | nil => rfl
  | cons x xs ih =>
    rw [modify]
    by_cases hx : key x = k
    · rw [if_pos hx, find_cons_self hx, find_cons_self ((hf x).trans hx)]
      rfl
    · rw [if_neg hx, find_cons_of_ne hx, find_cons_of_ne hx, ih]

theorem perm_remove {x : α} (h : find key k xs = some x) : xs.Perm (x :: remove key k xs) := by
  induction xs with
  | nil => exact nomatch h
  | cons y xs ih =>
    by_cases hy : key y = k
    · rw [find_cons_self hy] at h
      rw [remove_cons_self hy, Option.some.inj h]
    · rw [find_cons_of_ne hy] at h
      rw [remove_cons_of_ne hy]
      exact ((ih h).cons y).trans (List.Perm.swap x y _)

theorem perm_modify {x : α} {f : α → α} (h : find key k xs = some x) :
    (modify key k f xs).Perm (f x :: remove key k xs) := by
  induction xs with
  | nil => exact nomatch h
  | cons y xs ih =>
    by_cases hy : key y = k
    · rw [find_cons_self hy] at h
      rw [modify, if_pos hy, remove_cons_self hy, Option.some.inj h]
    · rw [find_cons_of_ne hy] at h
      rw [modify, if_neg hy, remove_cons_of_ne hy]
      exact ((ih h).cons y).trans (List.Perm.swap (f x) y _)

theorem forall₂_modify_set {R : α → β → Prop} {ys : List β} {f : α → α} {b : β}
    (h : List.Forall₂ R xs ys) (hf : ∀ x, R (f x) b) :
    List.Forall₂ R (modify key k f xs) (ys.set (xs.findIdx (key · = k)) b) := by
  induction h with
  | nil => exact .nil
  | @cons x y xs ys hx hrest ih =>
    rw [modify, List.findIdx_cons]
    by_cases hk : key x = k
    · rw [if_pos hk, decide_eq_true hk]
      exact .cons (hf x) hrest
    · rw [if_neg hk, decide_eq_false hk]
      exact .cons hx ih

theorem map_remove (g : α → β) (key' : β → κ) (h : ∀ x ∈ xs, key' (g x) = key x) :
    (remove key k xs).map g = remove key' k (xs.map g) := by
  induction xs with
  | nil => rfl
  | cons x xs ih =>
    have hx := h x List.mem_cons_self
    have ih := ih fun y hy => h y (List.mem_cons_of_mem x hy)
    rw [List.map_cons]
    by_cases hk : key x = k
    · rw [remove_cons_self hk, remove_cons_self (hx.trans hk)]
    · rw [remove_cons_of_ne hk, remove_cons_of_ne (hx ▸ hk), List.map_cons, ih]

end Keyed

theorem forall₂_eraseIdx {α β : Type*} {R : α → β → Prop} {xs : List α} {ys : List β}
    (h : List.Forall₂ R xs ys) (i : Nat) : List.Forall₂ R (xs.eraseIdx i) (ys.eraseIdx i) := by
  rw [List.eraseIdx_eq_take_drop_succ, List.eraseIdx_eq_take_drop_succ]
  exact List.rel_append (List.forall₂_take i h) (List.forall₂_drop (i + 1) h)

theorem forall₂_change {α β γ : Type*} {R : α → β → Prop} {S : α → γ → Prop} {R' : γ → β → Prop}
    {xs : List α} {ys : List β} {zs : List γ} (h : List.Forall₂ R xs ys) (hxs : List.Forall₂ S xs zs)
    (hR : ∀ x y z, S x z → R x y → R' z y) : List.Forall₂ R' zs ys := by
  induction h generalizing zs with
  | nil =>
    cases hxs
    exact .nil
  | cons hx _ ih =>
    cases hxs with
    | cons hz hrest => exact .cons (hR _ _ _ hz hx) (ih hrest)

theorem forall₂_set {α : Type*} {R : α → α → Prop} (hrefl : ∀ x, R x x) {xs : List α} {i : Nat}
    {x y : α} (hx : xs[i]? = some x) (hxy : R x y) : List.Forall₂ R xs (xs.set i y) := by
  induction xs generalizing i with
  | nil => exact .nil
  | cons a xs ih =>
    cases i with
    | zero =>
      obtain rfl := Option.some.inj hx
      exact .cons hxy (List.forall₂_same.mpr fun b _ => hrefl b)
    | succ i => exact .cons (hrefl a) (ih hx)

theorem exists_of_mem_zip {α β γ : Type*} {f : α → γ} {xs : List α} {seats : List (α × β)}
    (h : xs.map f = seats.map fun seat => f seat.1) {seat : α × β}
    (hseat : seat ∈ xs.zip (seats.map Prod.snd)) :
    ∃ old ∈ seats, old.2 = seat.2 ∧ f old.1 = f seat.1 := by
  induction seats generalizing xs with
  | nil =>
    rw [List.map_nil, List.zip_nil_right] at hseat
    exact absurd hseat List.not_mem_nil
  | cons first rest ih =>
    cases xs with
    | nil => exact nomatch h
    | cons x xs =>
      obtain ⟨hx, hxs⟩ := List.cons.inj h
      rcases List.mem_cons.mp hseat with rfl | hseat
      · exact ⟨first, List.mem_cons_self, rfl, hx.symm⟩
      · obtain ⟨old, hold, hseat⟩ := ih hxs hseat
        exact ⟨old, List.mem_cons_of_mem _ hold, hseat⟩

/-! ## Changes

`leave` names the entry that is meant; the list only compares keys. A change is
sound when the list is in the state it expects. -/

inductive Change (α : Type*)
  | enter (a : α)
  | leave (a : α)

section Changes
variable {α κ : Type*} [DecidableEq κ] (key : α → κ)

def apply (xs : List α) : Change α → List α
  | .enter a => xs ++ [a]
  | .leave a => remove key (key a) xs

def settle (xs : List α) (cs : List (Change α)) : List α := cs.foldl (apply key) xs

def Sound (xs : List α) : Change α → Prop
  | .enter a => key a ∉ xs.map key
  | .leave a => a ∈ xs

def SoundAll : List α → List (Change α) → Prop
  | _, [] => True
  | xs, c :: cs => Sound key xs c ∧ SoundAll (apply key xs c) cs

variable {key} {xs : List α} {c : Change α} {cs ds : List (Change α)}

theorem settle_append : settle key xs (cs ++ ds) = settle key (settle key xs cs) ds := by
  rw [settle, List.foldl_append]
  rfl

theorem soundAll_append : SoundAll key xs (cs ++ ds) ↔
    SoundAll key xs cs ∧ SoundAll key (settle key xs cs) ds := by
  induction cs generalizing xs with
  | nil => exact (and_iff_right trivial).symm
  | cons c cs ih =>
    show Sound key xs c ∧ SoundAll key (apply key xs c) (cs ++ ds) ↔ _
    rw [ih]
    exact and_assoc.symm

theorem nodup_apply (h : (xs.map key).Nodup) (hc : Sound key xs c) :
    ((apply key xs c).map key).Nodup := by
  cases c with
  | enter a =>
    rw [apply, List.map_append, List.map_singleton]
    exact (List.nodup_append_comm).mp (List.nodup_cons.mpr ⟨hc, h⟩)
  | leave a =>
    rw [apply, remove]
    exact h.sublist ((List.eraseP_sublist).map key)

theorem nodup_settle (h : (xs.map key).Nodup) (hcs : SoundAll key xs cs) :
    ((settle key xs cs).map key).Nodup := by
  induction cs generalizing xs with
  | nil => exact h
  | cons c cs ih => exact ih (nodup_apply h hcs.1) hcs.2

theorem mem_apply_enter {a b : α} : b ∈ apply key xs (.enter a) ↔ b ∈ xs ∨ b = a := by
  rw [apply, List.mem_append, List.mem_singleton]

theorem mem_apply_leave {a b : α} (h : (xs.map key).Nodup) (ha : a ∈ xs) :
    b ∈ apply key xs (.leave a) ↔ b ∈ xs ∧ b ≠ a := by
  rw [apply, remove_eq_filter h, List.mem_filter, decide_eq_true_eq]
  refine and_congr_right fun hb => not_congr ?_
  constructor
  · intro hkey
    exact List.inj_on_of_nodup_map h hb ha hkey
  · rintro rfl
    rfl

end Changes
end Roster
