/-
Computations that can fail, as `Except`, and the rules that take a successful run apart: Rust's `?` is a bind, and
a loop that can fail is a monadic fold, over which an invariant of each successful step holds of the whole run.

A search loop with `?` on the parse of each element gives up on the whole search at the first element that does not
parse: it is the plain search over the elements before that one (`searchFirst_eq`).

Runs of a machine whose step may refuse an action (`Runs`): a schedule is a list of actions, and a run is the state
after taking them in turn, or nothing once one of them cannot be taken. The rules are how runs compose
(`run_append`) and the invariant rule (`run_induction`): what every step keeps holds after every run.
-/
import Mathlib.Tactic

namespace Fallible

variable {ε α β : Type}

theorem bind_eq_ok {x : Except ε α} {f : α → Except ε β} {b : β} (h : x >>= f = .ok b) :
    ∃ a, x = .ok a ∧ f a = .ok b := by
  cases x with
  | error e => cases h
  | ok a => exact ⟨a, rfl, h⟩

theorem map_eq_ok {x : Except ε α} {f : α → β} {b : β} (h : x.map f = .ok b) : ∃ a, x = .ok a ∧ f a = b := by
  cases x with
  | error e => cases h
  | ok a => exact ⟨a, rfl, by simpa [Except.map] using h⟩

/-- a computation whose value is dropped succeeds exactly when it does -/
theorem map_unit_eq_ok_iff {x : Except ε α} : x.map (fun _ => ()) = .ok () ↔ ∃ a, x = .ok a := by
  cases x with
  | error e => simp [Except.map]
  | ok a => simp [Except.map]

/-- a loop of checks succeeds exactly when every check does -/
theorem forM_eq_ok_iff {f : α → Except ε Unit} (xs : List α) : xs.forM f = .ok () ↔ ∀ x ∈ xs, f x = .ok () := by
  induction xs with
  | nil => exact ⟨fun _ x hx => absurd hx List.not_mem_nil, fun _ => rfl⟩
  | cons x xs ih =>
    rw [List.forM, List.forall_mem_cons, ← ih]
    cases f x with
    | error e =>
      constructor
      · intro h
        cases h
      · intro h
        cases h.1
    | ok u => exact ⟨fun h => ⟨rfl, h⟩, fun h => h.2⟩

/-- the invariant rule of a fold that can fail: a property of the start and of the prefix processed, kept by every
successful step, holds of the result over the whole list -/
theorem foldlM_induction {f : β → α → Except ε β} {P : β → List α → Prop} {init r : β} {xs : List α}
    (h0 : P init []) (hstep : ∀ b ys x b', P b ys → f b x = .ok b' → P b' (ys ++ [x]))
    (h : xs.foldlM f init = .ok r) : P r xs := by
  -- the fold from any state that holds of a prefix `ys` ends in one that holds of `ys ++ xs`
  suffices key : ∀ ys b, P b ys → xs.foldlM f b = .ok r → P r (ys ++ xs) by simpa using key [] init h0 h
  clear h
  induction xs with
  | nil =>
    intro ys b hb hrun
    cases hrun
    simpa using hb
  | cons x xs ih =>
    intro ys b hb hrun
    rw [List.foldlM_cons] at hrun
    obtain ⟨b', hx, hrest⟩ := bind_eq_ok hrun
    simpa using ih (ys ++ [x]) b' (hstep b ys x b' hb hx) hrest

/-- the invariant rule of a loop that can panic: a property of the start, kept by every step that does not panic,
holds of the result -/
theorem foldlM_option_induction {f : β → α → Option β} {P : β → Prop} {init r : β} {xs : List α} (h0 : P init)
    (hstep : ∀ b x b', P b → f b x = some b' → P b') (h : xs.foldlM f init = some r) : P r := by
  induction xs generalizing init with
  | nil =>
    cases h
    exact h0
  | cons x xs ih =>
    rw [List.foldlM_cons] at h
    cases hx : f init x with
    | none =>
      rw [hx] at h
      cases h
    | some b' =>
      rw [hx] at h
      exact ih (hstep init x b' h0 hx) h

/-- the existence rule of a loop over `0..n` that can panic: when every step from a state where the invariant holds
of the indices before it succeeds and keeps it, the loop succeeds and the invariant holds of all `n` indices -/
theorem foldlM_range_exists {f : β → ℕ → Option β} {P : ℕ → β → Prop} {init : β} {n : ℕ} (h0 : P 0 init)
    (hstep : ∀ k b, k < n → P k b → ∃ b', f b k = some b' ∧ P (k + 1) b') :
    ∃ r, (List.range n).foldlM f init = some r ∧ P n r := by
  suffices key : ∀ k ≤ n, ∃ r, (List.range k).foldlM f init = some r ∧ P k r from key n le_rfl
  intro k
  induction k with
  | zero => exact fun _ => ⟨init, rfl, h0⟩
  | succ k ih =>
    intro hk
    obtain ⟨b, hb, hP⟩ := ih (by omega)
    obtain ⟨b', hb', hP'⟩ := hstep k b (by omega) hP
    refine ⟨b', ?_, hP'⟩
    rw [List.range_succ, List.foldlM_append, hb]
    simpa using hb'

section Lookup

variable {γ : Type} {g : α → Option γ} {f : β → γ → α → β}

/-- a loop whose only failure is a lookup fails exactly when one of its lookups does -/
theorem foldlM_lookup_eq_none (l : List α) (init : β) :
    l.foldlM (fun acc x => (g x).map fun c => f acc c x) init = none ↔ ∃ x ∈ l, g x = none := by
  induction l generalizing init with
  | nil => simp
  | cons x xs ih =>
    rw [List.foldlM_cons]
    cases hx : g x with
    | none => simp [hx]
    | some c =>
      rw [Option.map_some, Option.bind_eq_bind, Option.bind_some, ih]
      simp [hx]

/-- when every lookup succeeds, the loop is the plain loop over the looked-up values -/
theorem foldlM_lookup_of_eq (k : α → γ) {l : List α} (hk : ∀ x ∈ l, g x = some (k x)) (init : β) :
    l.foldlM (fun acc x => (g x).map fun c => f acc c x) init = some (l.foldl (fun acc x => f acc (k x) x) init) := by
  induction l generalizing init with
  | nil => rfl
  | cons x xs ih =>
    rw [List.foldlM_cons, hk x List.mem_cons_self, Option.map_some, Option.bind_eq_bind, Option.bind_some,
      ih (fun y hy => hk y (List.mem_cons_of_mem x hy)), List.foldl_cons]

end Lookup

/-! ### A search that gives up -/

section Search

variable {γ : Type} (skip : α → Bool) (parse : α → Option β) (hit : β → Bool) (out : β → Option γ)

/-- a loop looking for a wanted item: it skips the elements `skip` holds of, gives up on the whole search at the first
other element that `parse` finds no item in, and otherwise answers `out` of the first item `hit` holds of -/
def searchFirst : List α → Option γ
  | [] => none
  | x :: xs =>
    if skip x then searchFirst xs
    else
      match parse x with
      | none => none
      | some b => if hit b then out b else searchFirst xs

/-- the elements the search gets past: those it skips and those with an item -/
def passes (x : α) : Bool := skip x || (parse x).isSome

variable {skip parse hit out}

/-- the search is the plain search for the first wanted item among the elements before the first one it cannot get
past, for a `skip` that only passes over elements without an item -/
theorem searchFirst_eq (hskip : ∀ x, skip x = true → parse x = none) (xs : List α) :
    searchFirst skip parse hit out xs = (((xs.takeWhile (passes skip parse)).filterMap parse).find? hit).bind out := by
  induction xs with
  | nil => rfl
  | cons x xs ih =>
    by_cases hs : skip x = true
    · -- a skipped element has no item either, so it drops out of the items
      simp [searchFirst, passes, hs, hskip x hs, ih]
    · cases hx : parse x with
      | none => simp [searchFirst, passes, hs, hx]
      | some b =>
        by_cases hb : hit b = true
        · simp [searchFirst, passes, hs, hx, hb]
        · simp [searchFirst, passes, hs, hx, hb, ih]

end Search

end Fallible

namespace Runs

variable {σ α : Type} (step : σ → α → Option σ)

/-- the state after the schedule `as` from `s`, or `none` if one of its actions cannot be taken -/
def run (s : σ) : List α → Option σ
  | [] => some s
  | a :: as => (step s a).bind fun s' => run s' as

variable {step}

@[simp] theorem run_nil (s : σ) : run step s [] = some s := rfl

theorem run_cons (s : σ) (a : α) (as : List α) : run step s (a :: as) = (step s a).bind fun s' => run step s' as :=
  rfl

theorem run_cons_of_step {s s' : σ} {a : α} (h : step s a = some s') (as : List α) :
    run step s (a :: as) = run step s' as := by
  rw [run_cons, h, Option.bind_some]

theorem run_append (s : σ) (as bs : List α) :
    run step s (as ++ bs) = (run step s as).bind fun s' => run step s' bs := by
  induction as generalizing s with
  | nil => rfl
  | cons a as ih =>
    rw [List.cons_append, run_cons, run_cons, Option.bind_assoc]
    congr 1
    funext s'
    exact ih s'

/-- the invariant rule: a property every step keeps holds after every run -/
theorem run_induction {P : σ → Prop} (hstep : ∀ s a s', P s → step s a = some s' → P s') :
    ∀ (as : List α) (s s' : σ), P s → run step s as = some s' → P s'
  | [], s, s', hs, hrun => by
    cases hrun
    exact hs
  | a :: as, s, s', hs, hrun => by
    rw [run_cons] at hrun
    obtain ⟨s₁, h₁, hrest⟩ := Option.bind_eq_some_iff.1 hrun
    exact run_induction hstep as s₁ s' (hstep s a s₁ hs h₁) hrest

end Runs
