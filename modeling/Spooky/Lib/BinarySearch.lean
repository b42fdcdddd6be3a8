/-
Rust's `slice::binary_search_by`, in the branch-free form of the standard library since 1.82: the loop halves a
window `[base, base + size)` with no early exit, then compares once more at `base`. On a slice whose comparisons
run less, then equal, then greater (`Sorted`), it returns `Ok` of an index that compares equal, or `Err` of the
insertion point: everything before it compares less and everything from it on compares greater
(`binarySearchBy_ok`, `binarySearchBy_error`). When the comparison is that of a key against a fixed value and the
keys increase strictly, either answer is the index of the first element whose key is at least the value
(`binarySearchBy_compare_ok`, `binarySearchBy_compare_error`).

`Ok i` is `.ok i` and `Err i` is `.error i`.

The successor of a point on a circle laid out as a sorted list (`Cyclic.firstOrHead`): the first element that passes
a test, or else the first element of all, which is what the search gives once its insertion point past the end wraps
to zero. Dropping elements other than the answer leaves the answer where it was (`firstOrHead_filter`), which is why
removing one member of a consistent-hash ring only moves the keys that member owned.
-/
import Mathlib.Tactic

namespace BinarySearch

variable {α : Type} (f : α → Ordering)

/-- the order less < equal < greater, as a number -/
def rank : Ordering → ℕ
  | .lt => 0
  | .eq => 1
  | .gt => 2

/-- the comparisons along the list never go down -/
def Sorted (l : List α) : Prop := l.Pairwise fun a b => rank (f a) ≤ rank (f b)

/-- the comparison at an index inside the slice (`get_unchecked`; the loop reads no other) -/
def cmpAt (l : List α) (i : ℕ) : Ordering := (l[i]?.map f).getD .gt

/-- the `while size > 1` loop, returning `base`; the window shrinks at every iteration, so `size` iterations of
`fuel` suffice and the `0` case is never reached (`loop_inv`) -/
def loop (l : List α) : ℕ → ℕ → ℕ → ℕ
  | 0, base, _ => base
  | fuel + 1, base, size =>
    if size ≤ 1 then base
    else
      let half := size / 2
      let mid := base + half
      loop l fuel (if cmpAt f l mid = .gt then base else mid) (size - half)

def binarySearchBy (l : List α) : Except ℕ ℕ :=
  if l.length = 0 then .error 0
  else
    let base := loop f l l.length 0 l.length
    match cmpAt f l base with
    | .eq => .ok base
    | .lt => .error (base + 1)
    | .gt => .error base

/-! ## The loop invariant -/

/-- the window holds the answer: nothing before it compares greater, everything after it does, and `base` moved
only onto an index that does not compare greater -/
structure LoopInv (l : List α) (base size : ℕ) : Prop where
  size_pos : 1 ≤ size
  le_length : base + size ≤ l.length
  before : ∀ j, j < base → cmpAt f l j ≠ .gt
  after : ∀ j, base + size ≤ j → j < l.length → cmpAt f l j = .gt
  start : base = 0 ∨ cmpAt f l base ≠ .gt

variable {f} {l : List α}

theorem cmpAt_eq {i : ℕ} (h : i < l.length) : cmpAt f l i = f l[i] := by
  simp [cmpAt, List.getElem?_eq_getElem h]

/-- along a sorted list, a greater comparison stays greater and a less one was less before -/
theorem rank_le (hs : Sorted f l) {i j : ℕ} (hij : i ≤ j) (hj : j < l.length) :
    rank (cmpAt f l i) ≤ rank (cmpAt f l j) := by
  rcases Nat.lt_or_eq_of_le hij with hlt | rfl
  · rw [cmpAt_eq (hlt.trans hj), cmpAt_eq hj]
    exact List.pairwise_iff_getElem.1 hs i j (hlt.trans hj) hj hlt
  · exact le_rfl

theorem eq_gt_of_rank {o : Ordering} (h : 2 ≤ rank o) : o = .gt := by
  cases o <;> simp_all [rank]

theorem eq_lt_of_rank {o : Ordering} (h : rank o ≤ 0) : o = .lt := by
  cases o <;> simp_all [rank]

theorem loop_inv (hs : Sorted f l) (fuel : ℕ) {base size : ℕ} (h : LoopInv f l base size) (hfuel : size ≤ fuel) :
    LoopInv f l (loop f l fuel base size) 1 := by
  induction fuel generalizing base size with
  | zero => have := h.size_pos; omega
  | succ fuel ih =>
    unfold loop
    split
    · rename_i hle
      obtain rfl : size = 1 := le_antisymm hle h.size_pos
      exact h
    · rename_i hgt
      have hmid : base + size / 2 < l.length := by have := h.le_length; omega
      -- one halving: `base` moves to `mid` unless `mid` compares greater
      apply ih _ (by omega)
      split
      · rename_i hmidgt
        refine ⟨by omega, by have := h.le_length; omega, h.before, fun j hj hjl => ?_, h.start⟩
        have := rank_le hs (show base + size / 2 ≤ j by omega) hjl
        rw [hmidgt] at this
        exact eq_gt_of_rank this
      · rename_i hmidgt
        refine ⟨by omega, by have := h.le_length; omega, fun j hj => ?_, fun j hj hjl => h.after j (by omega) hjl,
          .inr hmidgt⟩
        intro hjgt
        have := rank_le hs (le_of_lt hj) hmid
        rw [hjgt] at this
        exact hmidgt (eq_gt_of_rank this)

/-! ## What the search returns -/

theorem loop_final (hs : Sorted f l) (hl : l.length ≠ 0) : LoopInv f l (loop f l l.length 0 l.length) 1 :=
  loop_inv hs _ ⟨Nat.one_le_iff_ne_zero.2 hl, (Nat.zero_add _).le, fun j hj => absurd hj (Nat.not_lt_zero j),
    fun j hj hjl => absurd hjl (by omega), .inl rfl⟩ le_rfl

/-- `Ok` is an index that compares equal -/
theorem binarySearchBy_ok (hs : Sorted f l) {i : ℕ} (h : binarySearchBy f l = .ok i) :
    ∃ hi : i < l.length, f l[i] = .eq := by
  unfold binarySearchBy at h
  split at h
  · simp at h
  · rename_i hl
    have hinv := loop_final hs hl
    dsimp only at h
    split at h
    · rename_i heq
      obtain rfl := (Except.ok.inj h)
      have hi : loop f l l.length 0 l.length < l.length := by have := hinv.le_length; omega
      exact ⟨hi, (cmpAt_eq hi).symm.trans heq⟩
    · simp at h
    · simp at h

/-- `Err` is the insertion point: everything before it compares less, everything from it on compares greater -/
theorem binarySearchBy_error (hs : Sorted f l) {i : ℕ} (h : binarySearchBy f l = .error i) :
    i ≤ l.length ∧ (∀ j, j < i → cmpAt f l j = .lt) ∧ ∀ j, i ≤ j → j < l.length → cmpAt f l j = .gt := by
  unfold binarySearchBy at h
  split at h
  · rename_i hl
    obtain rfl := Except.error.inj h
    exact ⟨Nat.zero_le _, fun j hj => absurd hj (Nat.not_lt_zero j), fun j _ hj => absurd hj (by omega)⟩
  · rename_i hl
    have hinv := loop_final hs hl
    have hb : loop f l l.length 0 l.length < l.length := by have := hinv.le_length; omega
    dsimp only at h
    split at h
    · simp at h
    · -- `base` compares less: so does everything before it
      rename_i hlt
      obtain rfl := Except.error.inj h
      refine ⟨hb, fun j hj => ?_, fun j hj hjl => hinv.after j (by omega) hjl⟩
      have := rank_le hs (Nat.lt_succ_iff.1 hj) hb
      rw [hlt] at this
      exact eq_lt_of_rank this
    · -- `base` compares greater, so it never moved from 0
      rename_i hgt
      obtain rfl := Except.error.inj h
      have h0 : loop f l l.length 0 l.length = 0 := hinv.start.resolve_right fun h => h hgt
      refine ⟨hb.le, fun j hj => absurd hj (by omega), fun j hj hjl => ?_⟩
      rcases Nat.lt_or_eq_of_le hj with hj | rfl
      · exact hinv.after j (by omega) hjl
      · exact hgt

/-! ## Comparing a key against a fixed value -/

section Key

variable {β : Type} [LinearOrder β] (g : α → β) (k : β)

theorem rank_compare_le {x y : β} (hxy : x ≤ y) : rank (compare x k) ≤ rank (compare y k) := by
  rcases lt_trichotomy x k with hx | rfl | hx
  · simp [compare_lt_iff_lt.2 hx, rank]
  · rcases hxy.lt_or_eq with hy | rfl
    · simp [compare_gt_iff_gt.2 hy, rank]
    · simp [rank]
  · simp [compare_gt_iff_gt.2 hx, compare_gt_iff_gt.2 (hx.trans_le hxy), rank]

/-- nondecreasing keys compare in order against any value -/
theorem sorted_compare (hs : l.Pairwise fun a b => g a ≤ g b) : Sorted (fun a => compare (g a) k) l :=
  hs.imp (rank_compare_le k)

variable {g k}

/-- `Ok` is the first index whose key is at least the value, when the keys increase strictly -/
theorem binarySearchBy_compare_ok (hs : l.Pairwise fun a b => g a < g b) {i : ℕ}
    (h : binarySearchBy (fun a => compare (g a) k) l = .ok i) : l.findIdx (fun a => decide (k ≤ g a)) = i := by
  obtain ⟨hi, heq⟩ := binarySearchBy_ok (sorted_compare g k (hs.imp le_of_lt)) h
  have hgi : g l[i] = k := compare_eq_iff_eq.1 heq
  rw [List.findIdx_eq hi]
  refine ⟨by simp [hgi], fun j hj => ?_⟩
  -- an earlier key is smaller than the one found, which is the value itself
  have hlt : g l[j] < g l[i] := List.pairwise_iff_getElem.1 hs j i (hj.trans hi) hi hj
  simpa [← hgi] using hlt

/-- `Err` is the first index whose key is at least the value, or the length when there is none -/
theorem binarySearchBy_compare_error (hs : l.Pairwise fun a b => g a ≤ g b) {i : ℕ}
    (h : binarySearchBy (fun a => compare (g a) k) l = .error i) :
    l.findIdx (fun a => decide (k ≤ g a)) = i := by
  obtain ⟨hle, hbefore, hafter⟩ := binarySearchBy_error (sorted_compare g k hs) h
  have hless : ∀ j (hj : j < l.length), j < i → g l[j] < k := fun j hj hji => by
    have := hbefore j hji
    rwa [cmpAt_eq hj, compare_lt_iff_lt] at this
  rcases hle.lt_or_eq with hi | rfl
  · rw [List.findIdx_eq hi]
    have hgt := hafter i le_rfl hi
    rw [cmpAt_eq hi, compare_gt_iff_gt] at hgt
    exact ⟨by simp [hgt.le], fun j hj => by simp [hless j (hj.trans hi) hj]⟩
  · rw [List.findIdx_eq_length]
    intro a ha
    obtain ⟨j, hj, rfl⟩ := List.getElem_of_mem ha
    simp [hless j hj hj]

end Key

end BinarySearch

namespace Cyclic

variable {α : Type}

/-- the first element that passes `p`, wrapping to the head -/
def firstOrHead (p : α → Bool) (l : List α) : Option α := (l.find? p).or l.head?

/-- only the empty list has no answer -/
theorem firstOrHead_eq_none {p : α → Bool} {l : List α} : firstOrHead p l = none ↔ l = [] := by
  cases l with
  | nil => exact ⟨fun _ => rfl, fun _ => rfl⟩
  | cons x t => simp [firstOrHead]

/-- an answer that the filter keeps is still the answer after the filter -/
theorem firstOrHead_filter {p q : α → Bool} {l : List α} {a : α} (h : firstOrHead p l = some a)
    (hq : q a = true) : firstOrHead p (l.filter q) = some a := by
  unfold firstOrHead at h ⊢
  rw [List.find?_filter, List.head?_filter]
  cases hf : l.find? p with
  | some b =>
    rw [hf, Option.some_or, Option.some.injEq] at h
    subst h
    -- everything before `b` fails `p`, and `b` passes both tests
    obtain ⟨-, as, bs, rfl, hbefore⟩ := List.find?_eq_some_iff_append.1 hf
    have hfind : (as ++ b :: bs).find? (fun x => q x ∧ p x) = some b := by
      have hnone : as.find? (fun x => q x ∧ p x) = none := List.find?_eq_none.2 fun x hx => by
        have hp : p x = false := by simpa using hbefore x hx
        simp [hp]
      rw [List.find?_append, hnone]
      simp [hq, List.find?_some hf]
    rw [hfind, Option.some_or]
  | none =>
    rw [hf, Option.none_or] at h
    -- nothing passes `p`, and the head passes `q`
    have hnone : l.find? (fun x => q x ∧ p x) = none :=
      List.find?_eq_none.2 fun x hx => by simp [List.find?_eq_none.1 hf x hx]
    obtain ⟨t, rfl⟩ : ∃ t, l = a :: t := by
      cases l with
      | nil => cases h
      | cons x t => exact ⟨t, by simpa using h⟩
    rw [hnone, Option.none_or, List.find?_cons_of_pos hq]

end Cyclic
