/-
Association lists as finite maps: the `HashMap` operations the models use (`get`, a write through `get_mut`, a
write through `entry(k).or_default()`, `remove`) over a list of key-value pairs, and how they compose. `get` reads
the first entry of a key and the writes touch that entry, so the lemmas hold whether or not keys repeat; `erase`
drops every entry of its key, as `HashMap::remove` leaves none behind.

The same lists are also multimaps, where a key may repeat and a write appends (`HeaderMap::append`): `getAll` reads
every value of a key in the order they were written.
-/
import Mathlib.Tactic

namespace KeyedList

variable {κ ν : Type} [DecidableEq κ]

def get (k : κ) : List (κ × ν) → Option ν
  | [] => none
  | (k', v) :: rest => if k' = k then some v else get k rest

/-- overwrite the value of `k`, if present -/
def set (k : κ) (v : ν) : List (κ × ν) → List (κ × ν)
  | [] => []
  | (k', v') :: rest => if k' = k then (k', v) :: rest else (k', v') :: set k v rest

/-- overwrite the value of `k`, or add it -/
def upsert (k : κ) (v : ν) (l : List (κ × ν)) : List (κ × ν) :=
  match get k l with
  | some _ => set k v l
  | none => (k, v) :: l

def erase (k : κ) (l : List (κ × ν)) : List (κ × ν) := l.filter fun e => decide (e.1 ≠ k)

variable {k k' : κ} {v : ν} {l : List (κ × ν)}

@[simp] theorem get_nil : get k ([] : List (κ × ν)) = none := rfl

@[simp] theorem get_set_self : get k (set k v l) = (get k l).map fun _ => v := by
  induction l with
  | nil => rfl
  | cons e rest ih =>
    obtain ⟨k₀, v₀⟩ := e
    by_cases h : k₀ = k <;> simp [set, get, h, ih]

theorem get_set_ne (h : k' ≠ k) : get k' (set k v l) = get k' l := by
  induction l with
  | nil => rfl
  | cons e rest ih =>
    obtain ⟨k₀, v₀⟩ := e
    by_cases h₀ : k₀ = k
    · subst h₀
      simp [set, get, Ne.symm h]
    · by_cases h₁ : k₀ = k'
      · subst h₁
        simp [set, get, h₀]
      · simp [set, get, h₀, h₁, ih]

@[simp] theorem get_upsert_self : get k (upsert k v l) = some v := by
  unfold upsert
  split
  · rename_i w hw
    simp [hw]
  · simp [get]

theorem get_upsert_ne (h : k' ≠ k) : get k' (upsert k v l) = get k' l := by
  unfold upsert
  split
  · exact get_set_ne h
  · simp [get, Ne.symm h]

@[simp] theorem get_erase_self : get k (erase k l) = none := by
  induction l with
  | nil => rfl
  | cons e rest ih =>
    obtain ⟨k₀, v₀⟩ := e
    by_cases h : k₀ = k <;> simp_all [erase, get]

theorem get_erase_ne (h : k' ≠ k) : get k' (erase k l) = get k' l := by
  induction l with
  | nil => rfl
  | cons e rest ih =>
    obtain ⟨k₀, v₀⟩ := e
    by_cases h₀ : k₀ = k
    · subst h₀
      simp_all [erase, get, Ne.symm h]
    · by_cases h₁ : k₀ = k' <;> simp_all [erase, get]

/-- mapping the values maps what `get` reads -/
theorem get_map_snd {μ : Type} (f : ν → μ) : get k (l.map fun e => (e.1, f e.2)) = (get k l).map f := by
  induction l with
  | nil => rfl
  | cons e rest ih =>
    obtain ⟨k₀, v₀⟩ := e
    by_cases h : k₀ = k <;> simp [get, h, ih]

theorem erase_cons (k₀ : κ) (v₀ : ν) :
    erase k ((k₀, v₀) :: l) = if k₀ = k then erase k l else (k₀, v₀) :: erase k l := by
  by_cases h : k₀ = k <;> simp [erase, h]

/-- writing back the value a key already has changes nothing -/
theorem set_of_get (h : get k l = some v) : set k v l = l := by
  induction l with
  | nil => rfl
  | cons e rest ih =>
    obtain ⟨k₀, v₀⟩ := e
    by_cases h₀ : k₀ = k
    · subst h₀
      simp only [get, if_pos, Option.some.injEq] at h
      simp [set, h]
    · simp only [get, h₀, if_false] at h
      simp [set, h₀, ih h]

/-- writing back through `upsert` the value a key already has changes nothing -/
theorem upsert_of_get (h : get k l = some v) : upsert k v l = l := by
  unfold upsert
  rw [h]
  exact set_of_get h

theorem set_set (v' : ν) : set k v (set k v' l) = set k v l := by
  induction l with
  | nil => rfl
  | cons e rest ih =>
    obtain ⟨k₀, v₀⟩ := e
    by_cases h₀ : k₀ = k <;> simp [set, h₀, ih]

/-- erasing an absent key changes nothing -/
theorem erase_of_get_none (h : get k l = none) : erase k l = l := by
  induction l with
  | nil => rfl
  | cons e rest ih =>
    obtain ⟨k₀, v₀⟩ := e
    by_cases h₀ : k₀ = k
    · simp [get, h₀] at h
    · simp only [get, h₀, if_false] at h
      rw [erase_cons, if_neg h₀, ih h]

theorem set_eq_nil : set k v l = [] ↔ l = [] := by
  cases l with
  | nil => simp [set]
  | cons e rest =>
    obtain ⟨k₀, v₀⟩ := e
    by_cases h : k₀ = k <;> simp [set, h]

theorem upsert_ne_nil : upsert k v l ≠ [] := by
  unfold upsert
  split
  · rename_i w hw
    intro h
    rw [set_eq_nil] at h
    simp [h] at hw
  · simp

theorem mem_of_get (h : get k l = some v) : (k, v) ∈ l := by
  induction l with
  | nil => simp at h
  | cons e rest ih =>
    obtain ⟨k₀, v₀⟩ := e
    by_cases h₀ : k₀ = k
    · subst h₀
      simp only [get, if_pos, Option.some.injEq] at h
      simp [h]
    · simp only [get, h₀, if_false] at h
      exact List.mem_cons_of_mem _ (ih h)

/-- a key reads as nothing exactly when no entry has it -/
theorem get_eq_none_iff : get k l = none ↔ k ∉ l.map Prod.fst := by
  induction l with
  | nil => simp
  | cons e rest ih =>
    obtain ⟨k₀, v₀⟩ := e
    by_cases h₀ : k₀ = k
    · subst h₀
      simp [get]
    · simp only [get, h₀, if_false, ih, List.map_cons, List.mem_cons, not_or]
      exact ⟨fun h => ⟨Ne.symm h₀, h⟩, fun h => h.2⟩

/-! ## Distinct keys

A `HashMap` holds one entry per key. `upsert` keeps the keys distinct, and so does `retain`, which on such a map
keeps exactly the keys whose value passes.
-/

/-- `set` keeps the keys in place -/
theorem keys_set : (set k v l).map Prod.fst = l.map Prod.fst := by
  induction l with
  | nil => rfl
  | cons e rest ih =>
    obtain ⟨k₀, v₀⟩ := e
    by_cases h₀ : k₀ = k <;> simp [set, h₀, ih]

/-- on distinct keys, an entry is what `get` reads of its key -/
theorem get_of_mem (hnd : (l.map Prod.fst).Nodup) (h : (k, v) ∈ l) : get k l = some v := by
  induction l with
  | nil => simp at h
  | cons e rest ih =>
    obtain ⟨k₀, v₀⟩ := e
    obtain ⟨hk₀, hrest⟩ := List.nodup_cons.1 hnd
    rcases List.mem_cons.1 h with he | he
    · obtain ⟨rfl, rfl⟩ := Prod.mk.inj he
      simp [get]
    · -- the key is in the rest, so it is not the head's
      have hne : k₀ ≠ k := by
        rintro rfl
        exact hk₀ (List.mem_map.2 ⟨_, he, rfl⟩)
      simp only [get, hne, if_false]
      exact ih hrest he

theorem nodup_upsert (h : (l.map Prod.fst).Nodup) : ((upsert k v l).map Prod.fst).Nodup := by
  unfold upsert
  split
  · rwa [keys_set]
  · rename_i hw
    exact List.nodup_cons.2 ⟨get_eq_none_iff.1 hw, h⟩

theorem mem_set {e : κ × ν} (h : e ∈ set k v l) : e = (k, v) ∨ e ∈ l := by
  induction l with
  | nil => simp [set] at h
  | cons e₀ rest ih =>
    obtain ⟨k₀, v₀⟩ := e₀
    by_cases h₀ : k₀ = k
    · subst h₀
      simp only [set, if_true, List.mem_cons] at h
      rcases h with rfl | h
      · exact .inl rfl
      · exact .inr (List.mem_cons_of_mem _ h)
    · simp only [set, h₀, if_false, List.mem_cons] at h
      rcases h with rfl | h
      · exact .inr List.mem_cons_self
      · exact (ih h).imp id (List.mem_cons_of_mem _)

/-- an entry after `upsert` is the new one or one that was there -/
theorem mem_upsert {e : κ × ν} (h : e ∈ upsert k v l) : e = (k, v) ∨ e ∈ l := by
  unfold upsert at h
  split at h
  · exact mem_set h
  · exact List.mem_cons.1 h

/-- `HashMap::retain` on the values -/
def retain (p : ν → Bool) (l : List (κ × ν)) : List (κ × ν) := l.filter fun e => p e.2

omit [DecidableEq κ] in
theorem nodup_retain (p : ν → Bool) (h : (l.map Prod.fst).Nodup) : ((retain p l).map Prod.fst).Nodup :=
  h.sublist (List.filter_sublist.map Prod.fst)

/-- on distinct keys, a key keeps its value through `retain` exactly when the value passes -/
theorem get_retain (p : ν → Bool) (h : (l.map Prod.fst).Nodup) : get k (retain p l) = (get k l).filter p := by
  induction l with
  | nil => rfl
  | cons e rest ih =>
    obtain ⟨k₀, v₀⟩ := e
    obtain ⟨hk₀, hrest⟩ := List.nodup_cons.1 h
    by_cases h₀ : k₀ = k
    · subst h₀
      -- the key's only entry is the head, so the rest reads as nothing
      have hnone : get k₀ (retain p rest) = none := by
        rw [ih hrest, get_eq_none_iff.2 hk₀, Option.filter_none]
      by_cases hp : p v₀
      · simp [retain, get, hp, Option.filter_some]
      · simpa [retain, get, hp, Option.filter_some] using hnone
    · have := ih hrest
      by_cases hp : p v₀ <;> simp_all [retain, get]

/-! ## Totals over the values -/

/-- the sum of a measure of the values -/
def total (f : ν → ℕ) (l : List (κ × ν)) : ℕ := (l.map fun e => f e.2).sum

omit [DecidableEq κ] in
@[simp] theorem total_nil (f : ν → ℕ) : total f ([] : List (κ × ν)) = 0 := rfl

omit [DecidableEq κ] in
theorem total_cons (f : ν → ℕ) (e : κ × ν) : total f (e :: l) = f e.2 + total f l := by
  simp [total]

/-- overwriting the entry `get` reads moves the total by the change of that value -/
theorem total_set (f : ν → ℕ) {v' : ν} (h : get k l = some v') : total f (set k v l) + f v' = total f l + f v := by
  induction l with
  | nil => simp at h
  | cons e rest ih =>
    obtain ⟨k₀, v₀⟩ := e
    by_cases h₀ : k₀ = k
    · simp only [get, h₀, if_true, Option.some.injEq] at h
      subst h
      simp only [set, h₀, if_true, total_cons]
      omega
    · simp only [get, h₀, if_false] at h
      have := ih h
      simp only [set, h₀, if_false, total_cons]
      omega

/-- the same for a write that may add the key, reading a missing key as `d`, which the measure counts as nothing -/
theorem total_upsert (f : ν → ℕ) {d : ν} (hd : f d = 0) :
    total f (upsert k v l) + f ((get k l).getD d) = total f l + f v := by
  unfold upsert
  split
  · rename_i w hw
    rw [hw, Option.getD_some]
    exact total_set f hw
  · rename_i hw
    rw [hw, Option.getD_none, hd, total_cons]
    dsimp only
    omega

/-! ## Multimaps -/

/-- every value of `k`, in the order written (`get_all`) -/
def getAll (k : κ) (l : List (κ × ν)) : List ν := (l.filter fun e => decide (e.1 = k)).map Prod.snd

/-- `contains_key` -/
def containsKey (k : κ) (l : List (κ × ν)) : Bool := l.any fun e => decide (e.1 = k)

@[simp] theorem getAll_nil : getAll k ([] : List (κ × ν)) = [] := rfl

@[simp] theorem getAll_append (l₁ l₂ : List (κ × ν)) : getAll k (l₁ ++ l₂) = getAll k l₁ ++ getAll k l₂ := by
  simp [getAll]

/-- a key that no entry has reads as nothing -/
theorem getAll_eq_nil (h : ∀ e ∈ l, e.1 ≠ k) : getAll k l = [] := by
  simpa [getAll, List.filter_eq_nil_iff] using h

/-- a list whose entries all have the key reads as all its values -/
theorem getAll_eq_map_snd (h : ∀ e ∈ l, e.1 = k) : getAll k l = l.map Prod.snd := by
  rw [getAll, List.filter_eq_self.2 fun e he => decide_eq_true (h e he)]

end KeyedList
