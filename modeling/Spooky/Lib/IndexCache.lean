/-
A duplicate-free list of numbers below `n` with its inverse position map: `pos[i] = some q` exactly when the list holds
`i` at `q`. Pushing a number that is not there, and removing one by moving the last element into its place
(`Vec::swap_remove`) and relinking the moved element, both keep the map the inverse of the list.
-/
import Mathlib.Tactic

namespace IndexCache

/-- `pos` is the inverse of the list `l` of numbers below `n` -/
structure Inverse (l : List ℕ) (pos : List (Option ℕ)) (n : ℕ) : Prop where
  lt : ∀ i ∈ l, i < n
  length : pos.length = n
  pos_iff : ∀ i q : ℕ, pos[i]? = some (some q) ↔ l[q]? = some i

variable {l : List ℕ} {pos : List (Option ℕ)} {n : ℕ}

/-- a list with an inverse holds no number twice -/
theorem nodup_of_pos_iff (h : ∀ i q : ℕ, pos[i]? = some (some q) ↔ l[q]? = some i) : l.Nodup := by
  rw [List.nodup_iff_getElem?_ne_getElem?]
  intro q r hqr hr heq
  obtain ⟨x, hx⟩ : ∃ x, l[r]? = some x := ⟨l[r], List.getElem?_eq_getElem hr⟩
  have hq := (h x q).2 (heq.trans hx)
  have hr' := (h x r).2 hx
  rw [hq, Option.some.injEq, Option.some.injEq] at hr'
  omega

namespace Inverse

theorem nodup (h : Inverse l pos n) : l.Nodup := nodup_of_pos_iff h.pos_iff

theorem mem_iff (h : Inverse l pos n) (i : ℕ) : i ∈ l ↔ ∃ q, pos[i]? = some (some q) := by
  rw [List.mem_iff_getElem?]
  exact exists_congr fun q => (h.pos_iff i q).symm

/-- a number below `n` that the list does not hold has no position -/
theorem pos_none (h : Inverse l pos n) {i : ℕ} (hi : i < n) (hni : i ∉ l) : pos[i]? = some none := by
  have hlt : i < pos.length := h.length ▸ hi
  have hget : pos[i]? = some pos[i] := List.getElem?_eq_getElem hlt
  rw [hget]
  cases hp : pos[i] with
  | none => rfl
  | some q => exact absurd ((h.mem_iff i).2 ⟨q, hget.trans (by rw [hp])⟩) hni

theorem push (h : Inverse l pos n) {i : ℕ} (hi : i < n) (hni : i ∉ l) :
    Inverse (l ++ [i]) (pos.set i (some l.length)) n := by
  refine ⟨fun j hj => ?_, by rw [List.length_set, h.length], fun j q => ?_⟩
  · rcases List.mem_append.1 hj with hj | hj
    · exact h.lt j hj
    · rw [List.mem_singleton.1 hj]
      exact hi
  · rw [List.getElem?_set, List.getElem?_append]
    by_cases hji : i = j
    · -- the pushed number sits at the old length, and nowhere before it
      subst hji
      rw [if_pos rfl, if_pos (h.length ▸ hi)]
      constructor
      · intro hq
        simp only [Option.some.injEq] at hq
        subst hq
        simp
      · intro hq
        split at hq
        · exact absurd (List.mem_iff_getElem?.2 ⟨q, hq⟩) hni
        · rename_i hlt
          have hq' : q - l.length = 0 := by
            by_contra hne
            simp [List.getElem?_eq_none (by simp; omega : [i].length ≤ q - l.length)] at hq
          simp only [Option.some.injEq]
          omega
    · -- any other number keeps its position
      rw [if_neg hji, h.pos_iff j q]
      split
      · rfl
      · rename_i hge
        rw [List.getElem?_eq_none (by omega)]
        constructor
        · intro hq
          cases hq
        · intro hq
          have hq0 : q - l.length = 0 := by
            by_contra hne
            simp [List.getElem?_eq_none (by simp; omega : [i].length ≤ q - l.length)] at hq
          rw [hq0, List.getElem?_singleton, if_pos rfl, Option.some.injEq] at hq
          exact absurd hq hji

theorem index_eq (h : Inverse l pos n) {i q r : ℕ} (hq : l[q]? = some i) (hr : l[r]? = some i) : q = r := by
  have h1 := (h.pos_iff i q).2 hq
  rw [(h.pos_iff i r).2 hr, Option.some.injEq, Option.some.injEq] at h1
  exact h1.symm

end Inverse

/-! ## Removing by swapping with the last element -/

/-- the entries after `Vec::swap_remove` at `q`: the last one moves to `q`, and the list is one shorter -/
theorem getElem?_swapRemove {q : ℕ} (hq : q < l.length) (r : ℕ) :
    ((l.set q (l.getLastD 0)).dropLast)[r]? =
      if r < l.length - 1 then (if r = q then l[l.length - 1]? else l[r]?) else none := by
  rw [List.getElem?_dropLast, List.length_set]
  split
  · rename_i hr
    rw [List.getElem?_set]
    by_cases hrq : r = q
    · subst hrq
      rw [if_pos rfl, if_pos hq, if_pos rfl, List.getElem?_eq_getElem (by omega), List.getLastD_eq_getLast?,
        List.getLast?_eq_getElem?, List.getElem?_eq_getElem (by omega)]
      rfl
    · rw [if_neg (Ne.symm hrq), if_neg hrq]
  · rfl

/-- the position map after the swap: the element moved into `q`, if any, now sits at `q` -/
def relink (l' : List ℕ) (pos : List (Option ℕ)) (q : ℕ) : List (Option ℕ) :=
  match l'[q]? with
  | some moved => pos.set moved (some q)
  | none => pos

namespace Inverse

theorem swapRemove (h : Inverse l pos n) {i q : ℕ} (hq : pos[i]? = some (some q)) :
    Inverse ((l.set q (l.getLastD 0)).dropLast)
      ((relink ((l.set q (l.getLastD 0)).dropLast) pos q).set i none) n := by
  have hqi : l[q]? = some i := (h.pos_iff i q).1 hq
  have hqL : q < l.length := (List.getElem?_eq_some_iff.1 hqi).1
  have hin : i < n := h.lt i (List.mem_iff_getElem?.2 ⟨q, hqi⟩)
  have hpos : pos.length = n := h.length
  refine ⟨fun j hj => ?_, by unfold relink; split <;> simp [hpos], fun j r => ?_⟩
  · obtain ⟨r, hr⟩ := List.mem_iff_getElem?.1 hj
    rw [getElem?_swapRemove hqL] at hr
    split at hr
    · split at hr
      · exact h.lt j (List.mem_iff_getElem?.2 ⟨_, hr⟩)
      · exact h.lt j (List.mem_iff_getElem?.2 ⟨_, hr⟩)
    · cases hr
  · rw [getElem?_swapRemove hqL]
    by_cases hlast : q = l.length - 1
    · -- the removed element was the last one: nothing moves
      have hrel : relink ((l.set q (l.getLastD 0)).dropLast) pos q = pos := by
        unfold relink
        rw [getElem?_swapRemove hqL, if_neg (by omega)]
      rw [hrel, List.getElem?_set]
      by_cases hji : i = j
      · subst hji
        rw [if_pos rfl, if_pos (by omega)]
        refine ⟨fun hc => (by cases hc), fun hr => ?_⟩
        split at hr
        · rw [if_neg (by omega)] at hr
          exact absurd (h.index_eq hqi hr) (by omega)
        · cases hr
      · rw [if_neg hji, h.pos_iff j r]
        constructor
        · intro hr
          have hrL : r < l.length := (List.getElem?_eq_some_iff.1 hr).1
          have hrq : r ≠ q := fun hrq => hji (Option.some.inj ((hrq ▸ hqi).symm.trans hr))
          rw [if_pos (by omega), if_neg hrq]
          exact hr
        · intro hr
          split at hr
          · rw [if_neg (by omega)] at hr
            exact hr
          · cases hr
    · -- the last element moves into the hole
      have hL : q < l.length - 1 := by omega
      obtain ⟨m, hm⟩ : ∃ m, l[l.length - 1]? = some m := ⟨_, List.getElem?_eq_getElem (by omega)⟩
      have hmi : m ≠ i := fun hmi => hlast (h.index_eq hqi (hmi ▸ hm))
      have hmn : m < n := h.lt m (List.mem_iff_getElem?.2 ⟨_, hm⟩)
      have hrel : relink ((l.set q (l.getLastD 0)).dropLast) pos q = pos.set m (some q) := by
        unfold relink
        rw [getElem?_swapRemove hqL, if_pos hL, if_pos rfl, hm]
      rw [hrel, List.getElem?_set, List.getElem?_set, List.length_set]
      by_cases hji : i = j
      · subst hji
        rw [if_pos rfl, if_pos (by omega)]
        refine ⟨fun hc => (by cases hc), fun hr => ?_⟩
        split at hr
        · split at hr
          · exact absurd (Option.some.inj (hm.symm.trans hr)) hmi
          · rename_i _ hrq
            exact absurd (h.index_eq hr hqi) hrq
        · cases hr
      · rw [if_neg hji]
        by_cases hjm : m = j
        · -- the moved element is found at `q`, and only there
          subst hjm
          rw [if_pos rfl, if_pos (by omega), Option.some.injEq, Option.some.injEq]
          constructor
          · intro hqr
            subst hqr
            rw [if_pos hL, if_pos rfl]
            exact hm
          · intro hr
            split at hr
            · split at hr
              · rename_i _ hrq
                exact hrq.symm
              · exact absurd (h.index_eq hr hm) (by omega)
            · cases hr
        · rw [if_neg hjm, h.pos_iff j r]
          constructor
          · intro hr
            have hrq : r ≠ q := fun hrq => hji (Option.some.inj ((hrq ▸ hqi).symm.trans hr))
            have hrm : r ≠ l.length - 1 := fun hrm => hjm (Option.some.inj ((hrm ▸ hm).symm.trans hr))
            have hrL : r < l.length := (List.getElem?_eq_some_iff.1 hr).1
            rw [if_pos (by omega), if_neg hrq]
            exact hr
          · intro hr
            split at hr
            · split at hr
              · exact absurd (Option.some.inj (hm.symm.trans hr)) hjm
              · exact hr
            · cases hr

/-- the swap removes exactly the element at `q` -/
theorem mem_swapRemove (h : Inverse l pos n) {i q : ℕ} (hq : pos[i]? = some (some q)) (j : ℕ) :
    j ∈ (l.set q (l.getLastD 0)).dropLast ↔ j ∈ l ∧ j ≠ i := by
  have hqi : l[q]? = some i := (h.pos_iff i q).1 hq
  have hqL : q < l.length := (List.getElem?_eq_some_iff.1 hqi).1
  simp only [List.mem_iff_getElem?, getElem?_swapRemove hqL]
  constructor
  · rintro ⟨r, hr⟩
    split at hr
    · split at hr
      · -- the last element, now at `q`
        rename_i hrL hrq
        refine ⟨⟨_, hr⟩, fun hji => ?_⟩
        subst hji
        exact absurd (h.index_eq hr hqi) (by omega)
      · rename_i _ hrq
        exact ⟨⟨r, hr⟩, fun hji => hrq (h.index_eq (hji ▸ hr) hqi)⟩
    · cases hr
  · rintro ⟨⟨r, hr⟩, hji⟩
    have hrq : r ≠ q := fun hrq => hji (Option.some.inj ((hrq ▸ hr).symm.trans hqi))
    have hrL : r < l.length := (List.getElem?_eq_some_iff.1 hr).1
    by_cases hlast : r = l.length - 1
    · -- the last element is found where the removed one was
      subst hlast
      exact ⟨q, by rw [if_pos (by omega), if_pos rfl, hr]⟩
    · exact ⟨r, by rw [if_pos (by omega), if_neg hrq, hr]⟩

end Inverse

end IndexCache
