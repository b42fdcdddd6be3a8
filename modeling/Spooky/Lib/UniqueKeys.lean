/-
Keys inserted one by one into a map that refuses a key it already holds: the loop walks a list, computes each item's
key (which may fail), and stops at the first item whose key an earlier item holds, naming both. With every key
computed it succeeds exactly when no two items share a key (`insertKeys_ok_iff`, `insertKeys_clash`), so whether it
succeeds does not depend on the order of the list.
-/
import Spooky.Lib.KeyedList

namespace UniqueKeys

variable {ε κ ν α : Type} [DecidableEq κ]

/-- insert the key of each item, with the item's `name` as value, failing at the first key already present -/
def insertKeys (key : α → Except ε κ) (clash : α → ν → κ → ε) (name : α → ν) :
    List (κ × ν) → List α → Except ε (List (κ × ν))
  | seen, [] => .ok seen
  | seen, x :: xs =>
    match key x with
    | .error e => .error e
    | .ok k =>
      match KeyedList.get k seen with
      | some existing => .error (clash x existing k)
      | none => insertKeys key clash name ((k, name x) :: seen) xs

section Total

variable {key : α → Except ε κ} {clash : α → ν → κ → ε} {name : α → ν} {f : α → κ}

/-- one step of the loop on an item whose key is computed -/
theorem insertKeys_cons {x : α} (hx : key x = .ok (f x)) (seen : List (κ × ν)) (xs : List α) :
    insertKeys key clash name seen (x :: xs) =
      match KeyedList.get (f x) seen with
      | some existing => .error (clash x existing (f x))
      | none => insertKeys key clash name ((f x, name x) :: seen) xs := by
  rw [insertKeys, hx]

/-- with every key computed, the loop succeeds exactly when the keys are new and pairwise distinct -/
theorem insertKeys_ok_iff {xs : List α} (hkey : ∀ x ∈ xs, key x = .ok (f x)) (seen : List (κ × ν)) :
    (∃ r, insertKeys key clash name seen xs = .ok r) ↔
      (xs.map f).Nodup ∧ ∀ x ∈ xs, f x ∉ seen.map Prod.fst := by
  induction xs generalizing seen with
  | nil => simp [insertKeys]
  | cons x xs ih =>
    have hx := hkey x List.mem_cons_self
    have ih' := ih (fun y hy => hkey y (List.mem_cons_of_mem x hy)) ((f x, name x) :: seen)
    rw [insertKeys_cons hx]
    cases hget : KeyedList.get (f x) seen with
    | some existing =>
      -- the key of `x` is already held
      have hmem : f x ∈ seen.map Prod.fst := List.mem_map_of_mem (f := Prod.fst) (KeyedList.mem_of_get hget)
      simp only [reduceCtorEq, exists_false, false_iff, not_and, List.map_cons, List.nodup_cons]
      intro _ hnew
      exact hnew x List.mem_cons_self hmem
    | none =>
      rw [KeyedList.get_eq_none_iff] at hget
      rw [ih']
      simp only [List.map_cons, List.nodup_cons, List.mem_cons, not_or, forall_eq_or_imp]
      constructor
      · rintro ⟨hnodup, hrest⟩
        refine ⟨⟨fun hmem => ?_, hnodup⟩, hget, fun y hy => (hrest y hy).2⟩
        obtain ⟨y, hy, hyx⟩ := List.mem_map.1 hmem
        exact (hrest y hy).1 hyx
      · rintro ⟨⟨hfresh, hnodup⟩, -, hrest⟩
        exact ⟨hnodup, fun y hy => ⟨fun hyx => hfresh (List.mem_map.2 ⟨y, hy, hyx⟩), hrest y hy⟩⟩

/-- with every key computed and two items sharing one, the loop fails at a clash -/
theorem insertKeys_clash {xs : List α} (hkey : ∀ x ∈ xs, key x = .ok (f x)) (seen : List (κ × ν))
    (hdup : ¬((xs.map f).Nodup ∧ ∀ x ∈ xs, f x ∉ seen.map Prod.fst)) :
    ∃ x ∈ xs, ∃ existing, insertKeys key clash name seen xs = .error (clash x existing (f x)) := by
  induction xs generalizing seen with
  | nil => simp at hdup
  | cons x xs ih =>
    have hx := hkey x List.mem_cons_self
    rw [insertKeys_cons hx]
    cases hget : KeyedList.get (f x) seen with
    | some existing => exact ⟨x, List.mem_cons_self, existing, rfl⟩
    | none =>
      rw [KeyedList.get_eq_none_iff] at hget
      -- the clash lies in the rest, against the keys seen so far or the key of `x`
      have hdup' : ¬((xs.map f).Nodup ∧ ∀ y ∈ xs, f y ∉ ((f x, name x) :: seen).map Prod.fst) := by
        rintro ⟨hnodup, hrest⟩
        apply hdup
        simp only [List.map_cons, List.mem_cons, not_or] at hrest
        refine ⟨List.nodup_cons.2 ⟨fun hmem => ?_, hnodup⟩, ?_⟩
        · obtain ⟨y, hy, hyx⟩ := List.mem_map.1 hmem
          exact (hrest y hy).1 hyx
        · intro y hy
          rcases List.mem_cons.1 hy with rfl | hy
          · exact hget
          · exact (hrest y hy).2
      obtain ⟨y, hy, existing, herr⟩ := ih (fun y hy => hkey y (List.mem_cons_of_mem x hy)) _ hdup'
      exact ⟨y, List.mem_cons_of_mem x hy, existing, herr⟩

end Total

end UniqueKeys
