/-
The retry budget of the edge (`crates/edge/src/resilience/retry_budget.rs`): `mark_primary` counts a primary
request, globally and for its route, and `allow_retry` grants a retry while the retries stay within `ratio` percent
of the primaries, plus one, both globally and for the route.

The two counters are atomics used with relaxed ordering and the route entries sit behind a mutex, so a call is not
atomic. The model has two levels:
- `RetryBudget.markPrimary` and `RetryBudget.allowRetry`: each call as one step, as the code reads when no other call
  runs;
- `BudgetWorld`: tasks that make calls concurrently, one access to the shared budget per step: the `fetch_add` of
  `global_primary`, the load of `global_primary`, the load of `global_retries` with the global check, each critical
  section on `route_stats`, and the `fetch_add` of `global_retries`. Relaxed atomics are taken as sequentially
  consistent, so a load reads the last value stored.
`enabled` and the ratios never change after `new`. The results are over natural numbers; `BudgetWorld.stepU64` takes
each access at the source's widths (wrapping atomics, saturating route entries, `u8` ratios), and `runU64_new` shows
that a run of at most `u64::MAX / 255` accesses from a new budget is the same at both. A poisoned mutex is left out
(nothing inside either critical section panics).

Results:
- `route_retries_within_limit_interleaved`: over every interleaving of calls, each route's retries stay within the
  limit of its primaries, and the global counters are the sums over the routes once the calls in flight are counted.
- `solo_calls_refine`: calls that one task makes one after another take the budget exactly as the atomic calls do.
- `global_limit_needs_serial_calls`: calls made one at a time keep `global_retries` within the global limit; two
  `allow_retry`s on two routes that overlap when one global retry is left both pass the global check, and both are
  granted.
-/
import Spooky.Errors.Retry
import Spooky.Lib.KeyedList
import Spooky.Lib.Counters
import Spooky.Lib.Fallible

namespace Spooky.Edge

open KeyedList Errors

/-! ## The budget -/

structure RetryBudget where
  enabled : Bool
  globalRatioPercent : ℕ
  perRouteRatioPercent : List (String × ℕ)
  globalPrimary : ℕ
  globalRetries : ℕ
  routeStats : List (String × ℕ × ℕ)
deriving DecidableEq, Repr

namespace RetryBudget

def new (enabled : Bool) (globalRatioPercent : ℕ) (perRouteRatioPercent : List (String × ℕ)) : RetryBudget :=
  ⟨enabled, globalRatioPercent, perRouteRatioPercent, 0, 0, []⟩

/-- `((count * ratio as u64) / 100).saturating_add(1)`, the limit of both checks -/
def limit (count ratio : ℕ) : ℕ := count * ratio / 100 + 1

/-- `per_route_ratio_percent.get(route).copied().unwrap_or(global_ratio_percent)` -/
def ratioFor (b : RetryBudget) (route : String) : ℕ := (get route b.perRouteRatioPercent).getD b.globalRatioPercent

/-- the route's `(primary, retries)` entry, `(0, 0)` until `or_insert` makes it -/
def statsOf (b : RetryBudget) (route : String) : ℕ × ℕ := (get route b.routeStats).getD (0, 0)

/-- a write through `stats.entry(route).or_insert((0, 0))` -/
def setStats (b : RetryBudget) (route : String) (entry : ℕ × ℕ) : RetryBudget :=
  { b with routeStats := upsert route entry b.routeStats }

/-- `global_primary.fetch_add(1)` -/
def addPrimary (b : RetryBudget) : RetryBudget := { b with globalPrimary := b.globalPrimary + 1 }

/-- `global_retries.fetch_add(1)` -/
def addRetry (b : RetryBudget) : RetryBudget := { b with globalRetries := b.globalRetries + 1 }

/-- the critical section of `mark_primary` -/
def countPrimary (b : RetryBudget) (route : String) : RetryBudget :=
  b.setStats route ((b.statsOf route).1 + 1, (b.statsOf route).2)

/-- the critical section of `allow_retry`, with `route_allowed` -/
def routeSection (b : RetryBudget) (route : String) (ratio : ℕ) : RetryBudget × Bool :=
  let entry := b.statsOf route
  if limit entry.1 ratio ≤ entry.2 then (b.setStats route entry, false)
  else (b.setStats route (entry.1, entry.2 + 1), true)

def markPrimary (b : RetryBudget) (route : String) : RetryBudget := b.addPrimary.countPrimary route

def allowRetry (b : RetryBudget) (route : String) : RetryBudget × Except RetryPolicyDenialReason Unit :=
  if !b.enabled then (b, .ok ())
  else
    let ratio := b.ratioFor route
    let primary := b.globalPrimary
    let retries := b.globalRetries
    if limit primary ratio ≤ retries then (b, .error .budgetDenied)
    else
      let r := b.routeSection route ratio
      if !r.2 then (r.1, .error .budgetDenied) else (r.1.addRetry, .ok ())

/-- a call on the budget -/
inductive BudgetCall where
  | markPrimary (route : String)
  | allowRetry (route : String)
deriving DecidableEq, Repr

def call (b : RetryBudget) : BudgetCall → RetryBudget
  | .markPrimary route => b.markPrimary route
  | .allowRetry route => (b.allowRetry route).1

/-- calls made one after another -/
def calls (b : RetryBudget) (cs : List BudgetCall) : RetryBudget := cs.foldl call b

/-! ### What each access changes -/

variable {b : RetryBudget} {route route' : String} {entry : ℕ × ℕ}

@[simp] theorem setStats_enabled : (b.setStats route entry).enabled = b.enabled := rfl
@[simp] theorem setStats_globalPrimary : (b.setStats route entry).globalPrimary = b.globalPrimary := rfl
@[simp] theorem setStats_globalRetries : (b.setStats route entry).globalRetries = b.globalRetries := rfl
@[simp] theorem ratioFor_setStats : (b.setStats route entry).ratioFor = b.ratioFor := rfl
@[simp] theorem addPrimary_enabled : b.addPrimary.enabled = b.enabled := rfl
@[simp] theorem addPrimary_globalPrimary : b.addPrimary.globalPrimary = b.globalPrimary + 1 := rfl
@[simp] theorem addPrimary_globalRetries : b.addPrimary.globalRetries = b.globalRetries := rfl
@[simp] theorem addPrimary_routeStats : b.addPrimary.routeStats = b.routeStats := rfl
@[simp] theorem ratioFor_addPrimary : b.addPrimary.ratioFor = b.ratioFor := rfl
@[simp] theorem statsOf_addPrimary : b.addPrimary.statsOf = b.statsOf := rfl
@[simp] theorem addRetry_enabled : b.addRetry.enabled = b.enabled := rfl
@[simp] theorem addRetry_globalPrimary : b.addRetry.globalPrimary = b.globalPrimary := rfl
@[simp] theorem addRetry_globalRetries : b.addRetry.globalRetries = b.globalRetries + 1 := rfl
@[simp] theorem addRetry_routeStats : b.addRetry.routeStats = b.routeStats := rfl
@[simp] theorem ratioFor_addRetry : b.addRetry.ratioFor = b.ratioFor := rfl
@[simp] theorem statsOf_addRetry : b.addRetry.statsOf = b.statsOf := rfl

@[simp] theorem statsOf_setStats_self : (b.setStats route entry).statsOf route = entry := by
  simp [statsOf, setStats]

theorem statsOf_setStats_ne (h : route' ≠ route) : (b.setStats route entry).statsOf route' = b.statsOf route' := by
  simp [statsOf, setStats, get_upsert_ne h]

/-- a write to one entry moves a total over the entries by the change of that entry -/
theorem total_setStats (b : RetryBudget) (route : String) (entry : ℕ × ℕ) (f : ℕ × ℕ → ℕ) (hf : f (0, 0) = 0) :
    total f (b.setStats route entry).routeStats + f (b.statsOf route) = total f b.routeStats + f entry :=
  total_upsert f hf

theorem limit_mono_left {count count' : ℕ} (h : count ≤ count') (ratio : ℕ) : limit count ratio ≤ limit count' ratio := by
  have := Nat.div_le_div_right (c := 100) (Nat.mul_le_mul_right ratio h)
  unfold limit
  omega

theorem limit_mono_right (count : ℕ) {ratio ratio' : ℕ} (h : ratio ≤ ratio') : limit count ratio ≤ limit count ratio' := by
  have := Nat.div_le_div_right (c := 100) (Nat.mul_le_mul_left count h)
  unfold limit
  omega

/-- the route section reads and writes only the route's entry: the counters and the configuration stay -/
@[simp] theorem routeSection_enabled (ratio : ℕ) : (b.routeSection route ratio).1.enabled = b.enabled := by
  unfold routeSection; dsimp only; split <;> rfl

@[simp] theorem routeSection_globalPrimary (ratio : ℕ) :
    (b.routeSection route ratio).1.globalPrimary = b.globalPrimary := by
  unfold routeSection; dsimp only; split <;> rfl

@[simp] theorem routeSection_globalRetries (ratio : ℕ) :
    (b.routeSection route ratio).1.globalRetries = b.globalRetries := by
  unfold routeSection; dsimp only; split <;> rfl

@[simp] theorem ratioFor_routeSection (ratio : ℕ) : (b.routeSection route ratio).1.ratioFor = b.ratioFor := by
  unfold routeSection; dsimp only; split <;> rfl

theorem total_fst_countPrimary (b : RetryBudget) (route : String) : total Prod.fst (b.countPrimary route).routeStats = total Prod.fst b.routeStats + 1 := by
  have := total_setStats b route ((b.statsOf route).1 + 1, (b.statsOf route).2) Prod.fst rfl
  unfold countPrimary
  dsimp only at this ⊢
  omega

theorem total_snd_countPrimary (b : RetryBudget) (route : String) : total Prod.snd (b.countPrimary route).routeStats = total Prod.snd b.routeStats := by
  have := total_setStats b route ((b.statsOf route).1 + 1, (b.statsOf route).2) Prod.snd rfl
  unfold countPrimary
  dsimp only at this ⊢
  omega

theorem total_fst_routeSection (b : RetryBudget) (route : String) (ratio : ℕ) :
    total Prod.fst (b.routeSection route ratio).1.routeStats = total Prod.fst b.routeStats := by
  unfold routeSection
  dsimp only
  split
  · have := total_setStats b route (b.statsOf route) Prod.fst rfl
    dsimp only
    omega
  · have := total_setStats b route ((b.statsOf route).1, (b.statsOf route).2 + 1) Prod.fst rfl
    dsimp only at this ⊢
    omega

theorem total_snd_routeSection (b : RetryBudget) (route : String) (ratio : ℕ) :
    total Prod.snd (b.routeSection route ratio).1.routeStats =
      total Prod.snd b.routeStats + if (b.routeSection route ratio).2 then 1 else 0 := by
  unfold routeSection
  dsimp only
  split
  · have := total_setStats b route (b.statsOf route) Prod.snd rfl
    simp only [Bool.false_eq_true, if_false]
    omega
  · have := total_setStats b route ((b.statsOf route).1, (b.statsOf route).2 + 1) Prod.snd rfl
    dsimp only at this ⊢
    simp only [if_true]
    omega

theorem routeSection_of_lt {ratio : ℕ} (h : (b.statsOf route).2 < limit (b.statsOf route).1 ratio) :
    b.routeSection route ratio = (b.setStats route ((b.statsOf route).1, (b.statsOf route).2 + 1), true) := by
  simp [routeSection, Nat.not_le.2 h]

/-- the four ways `allow_retry` ends: disabled, denied by the global check, denied by the route's, or granted -/
theorem allowRetry_cases (b : RetryBudget) (route : String) :
    (b.enabled = false ∧ b.allowRetry route = (b, .ok ())) ∨
    (b.enabled = true ∧ limit b.globalPrimary (b.ratioFor route) ≤ b.globalRetries ∧
      b.allowRetry route = (b, .error .budgetDenied)) ∨
    (b.enabled = true ∧ b.globalRetries < limit b.globalPrimary (b.ratioFor route) ∧
      (b.routeSection route (b.ratioFor route)).2 = false ∧
      b.allowRetry route = ((b.routeSection route (b.ratioFor route)).1, .error .budgetDenied)) ∨
    (b.enabled = true ∧ b.globalRetries < limit b.globalPrimary (b.ratioFor route) ∧
      (b.routeSection route (b.ratioFor route)).2 = true ∧
      b.allowRetry route = ((b.routeSection route (b.ratioFor route)).1.addRetry, .ok ())) := by
  cases hen : b.enabled
  · exact .inl ⟨rfl, by simp [allowRetry, hen]⟩
  by_cases hg : limit b.globalPrimary (b.ratioFor route) ≤ b.globalRetries
  · exact .inr (.inl ⟨rfl, hg, by simp [allowRetry, hen, hg]⟩)
  have hlt := Nat.lt_of_not_le hg
  cases hr : (b.routeSection route (b.ratioFor route)).2
  · exact .inr (.inr (.inl ⟨rfl, hlt, rfl, by simp [allowRetry, hen, hg, hr]⟩))
  · exact .inr (.inr (.inr ⟨rfl, hlt, rfl, by simp [allowRetry, hen, hg, hr]⟩))

@[simp] theorem ratioFor_call (c : BudgetCall) : (b.call c).ratioFor = b.ratioFor := by
  cases c with
  | markPrimary route => rfl
  | allowRetry route =>
    rcases allowRetry_cases b route with ⟨-, h⟩ | ⟨-, -, h⟩ | ⟨-, -, -, h⟩ | ⟨-, -, -, h⟩ <;> simp [call, h]

/-! ### The limits -/

/-- every route's retries within the limit of its primaries, at its ratio -/
def RouteBound (b : RetryBudget) : Prop := ∀ route, (b.statsOf route).2 ≤ limit (b.statsOf route).1 (b.ratioFor route)

theorem routeBound_new (enabled : Bool) (globalRatioPercent : ℕ) (perRouteRatioPercent : List (String × ℕ)) :
    (new enabled globalRatioPercent perRouteRatioPercent).RouteBound := fun _ => Nat.zero_le _

theorem RouteBound.setStats (h : b.RouteBound) (hentry : entry.2 ≤ limit entry.1 (b.ratioFor route)) :
    (b.setStats route entry).RouteBound := by
  intro route'
  by_cases hr : route' = route
  · subst hr
    simpa using hentry
  · rw [statsOf_setStats_ne hr, ratioFor_setStats]
    exact h route'

theorem RouteBound.countPrimary (h : b.RouteBound) : (b.countPrimary route).RouteBound :=
  h.setStats (le_trans (h route) (limit_mono_left (Nat.le_succ _) _))

/-- the route section grants only below the route's limit -/
theorem RouteBound.routeSection (h : b.RouteBound) : (b.routeSection route (b.ratioFor route)).1.RouteBound := by
  unfold RetryBudget.routeSection
  dsimp only
  split
  · exact h.setStats (h route)
  · rename_i hlt
    exact h.setStats (by dsimp only; omega)

/-- a call made alone keeps the global limit at a ratio no route exceeds -/
theorem globalRetries_call_le {m : ℕ} (hm : ∀ route, b.ratioFor route ≤ m)
    (h : b.globalRetries ≤ limit b.globalPrimary m) (c : BudgetCall) :
    (b.call c).globalRetries ≤ limit (b.call c).globalPrimary m := by
  cases c with
  | markPrimary route =>
    simp only [call, markPrimary, countPrimary, setStats_globalRetries, setStats_globalPrimary,
      addPrimary_globalRetries, addPrimary_globalPrimary]
    exact le_trans h (limit_mono_left (Nat.le_succ _) m)
  | allowRetry route =>
    simp only [call]
    rcases allowRetry_cases b route with ⟨-, hb⟩ | ⟨-, -, hb⟩ | ⟨-, -, -, hb⟩ | ⟨-, hlt, -, hb⟩
    · rw [hb]; exact h
    · rw [hb]; exact h
    · rw [hb]; simpa using h
    · -- the grant came from the global check at the route's own ratio, which is at most `m`
      rw [hb]
      have := limit_mono_right b.globalPrimary (hm route)
      simp only [addRetry_globalRetries, routeSection_globalRetries, addRetry_globalPrimary,
        routeSection_globalPrimary]
      omega

theorem globalRetries_calls_le {m : ℕ} (cs : List BudgetCall) (hm : ∀ route, b.ratioFor route ≤ m)
    (h : b.globalRetries ≤ limit b.globalPrimary m) :
    (b.calls cs).globalRetries ≤ limit (b.calls cs).globalPrimary m := by
  induction cs generalizing b with
  | nil => exact h
  | cons c cs ih =>
    exact ih (fun route => by rw [ratioFor_call]; exact hm route) (globalRetries_call_le hm h c)

end RetryBudget

/-! ## Concurrent calls -/

open RetryBudget (limit)

/-- where a task stands: between calls, or inside one after its last access to the shared budget -/
inductive BudgetPc where
  | idle
  /-- in `mark_primary`, after `global_primary.fetch_add` -/
  | primaryAdded (route : String)
  /-- in `allow_retry`, after `global_primary.load` read `primary` -/
  | primaryLoaded (route : String) (primary : ℕ)
  /-- in `allow_retry`, after `global_retries.load` passed the global check -/
  | globalPassed (route : String)
  /-- in `allow_retry`, after the route's critical section granted the retry -/
  | routeGranted
deriving DecidableEq, Repr

namespace BudgetPc

/-- a primary in `global_primary` and not yet in its route's entry -/
def pendingPrimary : BudgetPc → ℕ
  | .idle => 0
  | .primaryAdded _ => 1
  | .primaryLoaded _ _ => 0
  | .globalPassed _ => 0
  | .routeGranted => 0

/-- a retry in its route's entry and not yet in `global_retries` -/
def pendingRetry : BudgetPc → ℕ
  | .idle => 0
  | .primaryAdded _ => 0
  | .primaryLoaded _ _ => 0
  | .globalPassed _ => 0
  | .routeGranted => 1

/-- the next access of a task inside a call: the budget after it, where the task stands then, and the answer of
`allow_retry` when the call returns; an idle task does nothing -/
def advance (b : RetryBudget) : BudgetPc → RetryBudget × BudgetPc × Option (Except RetryPolicyDenialReason Unit)
  | .idle => (b, .idle, none)
  | .primaryAdded route => (b.countPrimary route, .idle, none)
  | .primaryLoaded route primary =>
    if limit primary (b.ratioFor route) ≤ b.globalRetries then (b, .idle, some (.error .budgetDenied))
    else (b, .globalPassed route, none)
  | .globalPassed route =>
    let r := b.routeSection route (b.ratioFor route)
    if r.2 then (r.1, .routeGranted, none) else (r.1, .idle, some (.error .budgetDenied))
  | .routeGranted => (b.addRetry, .idle, some (.ok ()))

end BudgetPc

structure BudgetWorld where
  budget : RetryBudget
  tasks : List BudgetPc
  /-- the answers of `allow_retry`, latest first, each with its task -/
  answers : List (ℕ × Except RetryPolicyDenialReason Unit)

inductive BudgetAction where
  /-- the task calls `mark_primary`: its `fetch_add` -/
  | markPrimary (task : ℕ) (route : String)
  /-- the task calls `allow_retry`: the `enabled` check and the load of `global_primary` -/
  | allowRetry (task : ℕ) (route : String)
  /-- the task's next access inside its call -/
  | advance (task : ℕ)
deriving DecidableEq, Repr

namespace BudgetWorld

/-- the answers after a task's access, with the call's answer if it returned -/
def logAnswer (task : ℕ) : Option (Except RetryPolicyDenialReason Unit) → List (ℕ × Except RetryPolicyDenialReason Unit) →
    List (ℕ × Except RetryPolicyDenialReason Unit)
  | some answer, answers => (task, answer) :: answers
  | none, answers => answers

/-- one access by one task; `none` when the task is inside a call and cannot start another -/
def step (w : BudgetWorld) : BudgetAction → Option BudgetWorld
  | .markPrimary task route =>
    match w.tasks[task]? with
    | some .idle => some { w with budget := w.budget.addPrimary, tasks := w.tasks.set task (.primaryAdded route) }
    | _ => none
  | .allowRetry task route =>
    match w.tasks[task]? with
    | some .idle =>
      -- a disabled budget answers at once, before any access
      if !w.budget.enabled then some { w with answers := (task, .ok ()) :: w.answers }
      else some { w with tasks := w.tasks.set task (.primaryLoaded route w.budget.globalPrimary) }
    | _ => none
  | .advance task =>
    w.tasks[task]?.map fun pc =>
      let r := pc.advance w.budget
      ⟨r.1, w.tasks.set task r.2.1, logAnswer task r.2.2 w.answers⟩

def run (w : BudgetWorld) (actions : List BudgetAction) : Option BudgetWorld := Runs.run step w actions

/-- a budget and `n` idle tasks -/
def init (b : RetryBudget) (n : ℕ) : BudgetWorld := ⟨b, List.replicate n .idle, []⟩

/-- the schedule of one whole call by one task, run alone -/
def solo (task : ℕ) : RetryBudget.BudgetCall → List BudgetAction
  | .markPrimary route => [.markPrimary task route, .advance task]
  | .allowRetry route => [.allowRetry task route, .advance task, .advance task, .advance task]

variable {w w' : BudgetWorld} {task : ℕ} {pc : BudgetPc}

/-! ### The invariant -/

/-- the per-route bound, and each global counter equal to the sum over the routes, with the calls in flight that
have written one and not yet the other -/
structure BudgetInv (w : BudgetWorld) : Prop where
  route_bound : w.budget.RouteBound
  retries_eq : w.budget.globalRetries + (w.tasks.map BudgetPc.pendingRetry).sum = total Prod.snd w.budget.routeStats
  primary_eq : total Prod.fst w.budget.routeStats + (w.tasks.map BudgetPc.pendingPrimary).sum = w.budget.globalPrimary

/-- what one task's step from `pc` to `pc'`, taking the budget from `b` to `b'`, must do for the invariant -/
structure TaskStepOk (b : RetryBudget) (pc : BudgetPc) (b' : RetryBudget) (pc' : BudgetPc) : Prop where
  route_bound : b.RouteBound → b'.RouteBound
  retries : b'.globalRetries + pc'.pendingRetry + total Prod.snd b.routeStats =
    b.globalRetries + pc.pendingRetry + total Prod.snd b'.routeStats
  primary : total Prod.fst b'.routeStats + pc'.pendingPrimary + b.globalPrimary =
    total Prod.fst b.routeStats + pc.pendingPrimary + b'.globalPrimary

theorem BudgetInv.task_step (h : BudgetInv w) {pc' : BudgetPc} {b' : RetryBudget} (hk : w.tasks[task]? = some pc)
    (hok : TaskStepOk w.budget pc b' pc') (answers : List (ℕ × Except RetryPolicyDenialReason Unit)) :
    BudgetInv ⟨b', w.tasks.set task pc', answers⟩ where
  route_bound := hok.route_bound h.route_bound
  retries_eq := by
    have hsum := Shares.sum_map_set_add BudgetPc.pendingRetry hk pc'
    have := h.retries_eq
    have := hok.retries
    dsimp only
    omega
  primary_eq := by
    have hsum := Shares.sum_map_set_add BudgetPc.pendingPrimary hk pc'
    have := h.primary_eq
    have := hok.primary
    dsimp only
    omega

theorem taskStepOk_markPrimary (b : RetryBudget) (route : String) :
    TaskStepOk b .idle b.addPrimary (.primaryAdded route) where
  route_bound h := h
  retries := by simp [BudgetPc.pendingRetry]
  primary := by simp [BudgetPc.pendingPrimary]; omega

theorem taskStepOk_allowRetry (b : RetryBudget) (route : String) (primary : ℕ) :
    TaskStepOk b .idle b (.primaryLoaded route primary) where
  route_bound h := h
  retries := by simp [BudgetPc.pendingRetry]
  primary := by simp [BudgetPc.pendingPrimary]

/-- every access inside a call keeps the invariant's accounts -/
theorem taskStepOk_advance (b : RetryBudget) (pc : BudgetPc) : TaskStepOk b pc (pc.advance b).1 (pc.advance b).2.1 := by
  cases pc with
  | idle => exact ⟨id, rfl, rfl⟩
  | primaryAdded route =>
    have := RetryBudget.total_fst_countPrimary b route
    have := RetryBudget.total_snd_countPrimary b route
    refine ⟨RetryBudget.RouteBound.countPrimary, ?_, ?_⟩ <;>
      simp only [BudgetPc.advance, RetryBudget.countPrimary, RetryBudget.setStats_globalRetries,
        RetryBudget.setStats_globalPrimary, BudgetPc.pendingRetry, BudgetPc.pendingPrimary] at * <;> omega
  | primaryLoaded route primary =>
    simp only [BudgetPc.advance]
    split <;> exact ⟨id, rfl, rfl⟩
  | globalPassed route =>
    have hfst := RetryBudget.total_fst_routeSection b route (b.ratioFor route)
    have hsnd := RetryBudget.total_snd_routeSection b route (b.ratioFor route)
    simp only [BudgetPc.advance]
    -- the section granted exactly when the route's retries grew by one
    split
    · rename_i hr
      rw [hr, if_pos rfl] at hsnd
      refine ⟨RetryBudget.RouteBound.routeSection, ?_, ?_⟩ <;>
        simp only [RetryBudget.routeSection_globalRetries, RetryBudget.routeSection_globalPrimary,
          BudgetPc.pendingRetry, BudgetPc.pendingPrimary] <;> omega
    · rename_i hr
      rw [Bool.not_eq_true] at hr
      rw [hr] at hsnd
      refine ⟨RetryBudget.RouteBound.routeSection, ?_, ?_⟩ <;>
        simp only [RetryBudget.routeSection_globalRetries, RetryBudget.routeSection_globalPrimary,
          BudgetPc.pendingRetry, BudgetPc.pendingPrimary, Bool.false_eq_true, if_false] at * <;> omega
  | routeGranted =>
    refine ⟨fun h => h, ?_, ?_⟩ <;>
      simp [BudgetPc.advance, BudgetPc.pendingRetry, BudgetPc.pendingPrimary]

theorem BudgetInv.of_step (h : BudgetInv w) {a : BudgetAction} (hs : w.step a = some w') : BudgetInv w' := by
  cases a with
  | markPrimary task route =>
    simp only [step] at hs
    split at hs
    · rename_i hk
      cases hs
      exact h.task_step hk (taskStepOk_markPrimary _ _) _
    · cases hs
  | allowRetry task route =>
    simp only [step] at hs
    split at hs
    · rename_i hk
      split at hs
      · -- disabled: only the answers change
        cases hs
        exact ⟨h.route_bound, h.retries_eq, h.primary_eq⟩
      · cases hs
        exact h.task_step hk (taskStepOk_allowRetry _ _ _) _
    · cases hs
  | advance task =>
    obtain ⟨pc, hk, rfl⟩ := Option.map_eq_some_iff.1 hs
    exact h.task_step hk (taskStepOk_advance _ _) _

theorem budgetInv_init (enabled : Bool) (globalRatioPercent : ℕ) (perRouteRatioPercent : List (String × ℕ)) (n : ℕ) :
    BudgetInv (init (RetryBudget.new enabled globalRatioPercent perRouteRatioPercent) n) where
  route_bound := RetryBudget.routeBound_new _ _ _
  retries_eq := by simp [init, RetryBudget.new, BudgetPc.pendingRetry]
  primary_eq := by simp [init, RetryBudget.new, BudgetPc.pendingPrimary]

theorem reachable_budgetInv {enabled : Bool} {globalRatioPercent n : ℕ} {perRouteRatioPercent : List (String × ℕ)}
    {actions : List BudgetAction}
    (hrun : (init (RetryBudget.new enabled globalRatioPercent perRouteRatioPercent) n).run actions = some w) :
    BudgetInv w :=
  Runs.run_induction (fun _ _ _ h hs => h.of_step hs) actions _ _ (budgetInv_init _ _ _ n) hrun

theorem route_retries_within_limit_interleaved {enabled : Bool} {globalRatioPercent n : ℕ}
    {perRouteRatioPercent : List (String × ℕ)} {actions : List BudgetAction} {w : BudgetWorld}
    (hrun : (init (RetryBudget.new enabled globalRatioPercent perRouteRatioPercent) n).run actions = some w) :
    (∀ route, (w.budget.statsOf route).2 ≤ limit (w.budget.statsOf route).1 (w.budget.ratioFor route)) ∧
      w.budget.globalRetries + (w.tasks.map BudgetPc.pendingRetry).sum = total Prod.snd w.budget.routeStats ∧
      total Prod.fst w.budget.routeStats + (w.tasks.map BudgetPc.pendingPrimary).sum = w.budget.globalPrimary := by
  have h := reachable_budgetInv hrun
  exact ⟨h.route_bound, h.retries_eq, h.primary_eq⟩

/-- a `mark_primary` and an `allow_retry` on one route, their accesses interleaved -/
theorem interleaved_calls_within_route_limits :
    ∃ w, (init (RetryBudget.new true 20 []) 2).run
        [.markPrimary 0 "checkout", .allowRetry 1 "checkout", .advance 1, .advance 0, .advance 1, .advance 1] = some w ∧
      (∀ route, (w.budget.statsOf route).2 ≤ limit (w.budget.statsOf route).1 (w.budget.ratioFor route)) ∧
      w.budget.globalRetries + (w.tasks.map BudgetPc.pendingRetry).sum = total Prod.snd w.budget.routeStats ∧
      total Prod.fst w.budget.routeStats + (w.tasks.map BudgetPc.pendingPrimary).sum = w.budget.globalPrimary :=
  ⟨_, rfl, @route_retries_within_limit_interleaved true 20 2 []
    [.markPrimary 0 "checkout", .allowRetry 1 "checkout", .advance 1, .advance 0, .advance 1, .advance 1] _ rfl⟩

/-! ### Calls made alone -/

theorem tasks_set_self (hk : w.tasks[task]? = some pc) : w.tasks.set task pc = w.tasks := by
  obtain ⟨hlt, rfl⟩ := List.getElem?_eq_some_iff.1 hk
  exact List.set_getElem_self hlt

theorem solo_markPrimary (hk : w.tasks[task]? = some .idle) (route : String) :
    w.run (solo task (.markPrimary route)) = some { w with budget := w.budget.markPrimary route } := by
  have hlt : task < w.tasks.length := (List.getElem?_eq_some_iff.1 hk).1
  simp [run, solo, Runs.run_cons, step, hk, List.getElem?_set_self hlt, BudgetPc.advance, logAnswer,
    RetryBudget.markPrimary, tasks_set_self hk]

theorem solo_allowRetry (hk : w.tasks[task]? = some .idle) (route : String) :
    w.run (solo task (.allowRetry route)) =
      some ⟨(w.budget.allowRetry route).1, w.tasks, (task, (w.budget.allowRetry route).2) :: w.answers⟩ := by
  have hlt : task < w.tasks.length := (List.getElem?_eq_some_iff.1 hk).1
  -- the task's accesses, one per way the call ends; the ones after it returns find the task idle
  rcases RetryBudget.allowRetry_cases w.budget route with ⟨hen, hb⟩ | ⟨hen, hg, hb⟩ | ⟨hen, hg, hr, hb⟩ | ⟨hen, hg, hr, hb⟩
  · simp [run, solo, Runs.run_cons, step, hk, hen, hb, BudgetPc.advance, logAnswer, tasks_set_self hk]
  · simp [run, solo, Runs.run_cons, step, hk, hen, hb, List.getElem?_set_self hlt, BudgetPc.advance, logAnswer,
      tasks_set_self hk, hg]
  · simp [run, solo, Runs.run_cons, step, hk, hen, hb, List.getElem?_set_self hlt, BudgetPc.advance, logAnswer,
      tasks_set_self hk, Nat.not_le.2 hg, hr]
  · simp [run, solo, Runs.run_cons, step, hk, hen, hb, List.getElem?_set_self hlt, BudgetPc.advance, logAnswer,
      tasks_set_self hk, Nat.not_le.2 hg, hr]

theorem solo_call (hk : w.tasks[task]? = some .idle) (c : RetryBudget.BudgetCall) :
    ∃ answers, w.run (solo task c) = some ⟨w.budget.call c, w.tasks, answers⟩ := by
  cases c with
  | markPrimary route => exact ⟨w.answers, solo_markPrimary hk route⟩
  | allowRetry route => exact ⟨_, solo_allowRetry hk route⟩

/-- the concurrent model refines the atomic one: calls that one task makes one after another, with no other task
running, take the budget exactly as the atomic calls do -/
theorem solo_calls_refine (hk : w.tasks[task]? = some .idle) (cs : List RetryBudget.BudgetCall) :
    ∃ answers, w.run (cs.flatMap (solo task)) = some ⟨w.budget.calls cs, w.tasks, answers⟩ := by
  induction cs generalizing w with
  | nil => exact ⟨w.answers, rfl⟩
  | cons c cs ih =>
    obtain ⟨answers, hc⟩ := solo_call hk c
    obtain ⟨answers', hrest⟩ := ih (w := ⟨w.budget.call c, w.tasks, answers⟩) hk
    refine ⟨answers', ?_⟩
    rw [List.flatMap_cons, run, Runs.run_append, ← run, hc, Option.bind_some]
    exact hrest

/-- a primary and a retry on one route, made alone by the one task of a fresh budget -/
theorem solo_calls_on_fresh_budget :
    ∃ answers, (init (RetryBudget.new true 20 []) 1).run
        ([.markPrimary "checkout", .allowRetry "checkout"].flatMap (solo 0)) =
      some ⟨(RetryBudget.new true 20 []).calls [.markPrimary "checkout", .allowRetry "checkout"],
        (init (RetryBudget.new true 20 []) 1).tasks, answers⟩ :=
  @solo_calls_refine (init (RetryBudget.new true 20 []) 1) 0 rfl [.markPrimary "checkout", .allowRetry "checkout"]

/-! ### Overlapping calls -/

/-- two `allow_retry`s on two routes, each task taking its access right after the other's -/
def overlapping (i j : ℕ) (route₁ route₂ : String) : List BudgetAction :=
  [.allowRetry i route₁, .allowRetry j route₂, .advance i, .advance j, .advance i, .advance j, .advance i, .advance j]

/-- both calls load the counters before either adds its retry, so both pass the global check -/
theorem overlapping_both_granted {i j : ℕ} {route₁ route₂ : String} (hen : w.budget.enabled = true)
    (hi : w.tasks[i]? = some .idle) (hj : w.tasks[j]? = some .idle) (hij : i ≠ j) (hr : route₁ ≠ route₂)
    (hg₁ : w.budget.globalRetries < limit w.budget.globalPrimary (w.budget.ratioFor route₁))
    (hg₂ : w.budget.globalRetries < limit w.budget.globalPrimary (w.budget.ratioFor route₂))
    (hs₁ : (w.budget.statsOf route₁).2 < limit (w.budget.statsOf route₁).1 (w.budget.ratioFor route₁))
    (hs₂ : (w.budget.statsOf route₂).2 < limit (w.budget.statsOf route₂).1 (w.budget.ratioFor route₂)) :
    ∃ w', w.run (overlapping i j route₁ route₂) = some w' ∧
      w'.budget.globalRetries = w.budget.globalRetries + 2 ∧ w'.budget.globalPrimary = w.budget.globalPrimary ∧
      w'.answers = (j, .ok ()) :: (i, .ok ()) :: w.answers := by
  obtain ⟨hli, hi'⟩ := List.getElem?_eq_some_iff.1 hi
  obtain ⟨hlj, hj'⟩ := List.getElem?_eq_some_iff.1 hj
  -- the second route section sees the second route's entry as it was: the first wrote another entry
  have hs₂' : ((w.budget.setStats route₁ ((w.budget.statsOf route₁).1, (w.budget.statsOf route₁).2 + 1)).statsOf
      route₂) = w.budget.statsOf route₂ := RetryBudget.statsOf_setStats_ne (Ne.symm hr)
  have hs₂'' : ((w.budget.setStats route₁ ((w.budget.statsOf route₁).1, (w.budget.statsOf route₁).2 + 1)).statsOf
      route₂).2 < limit ((w.budget.setStats route₁ ((w.budget.statsOf route₁).1, (w.budget.statsOf route₁).2 + 1)).statsOf
      route₂).1 (w.budget.ratioFor route₂) := by
    rw [hs₂']
    exact hs₂
  simp [run, overlapping, Runs.run_cons, step, hli, hlj, hi', hj', hen, hij, Ne.symm hij,
    BudgetPc.advance, logAnswer, Nat.not_le.2 hg₁, Nat.not_le.2 hg₂, RetryBudget.routeSection_of_lt hs₁,
    RetryBudget.routeSection_of_lt hs₂'']

/-- the global limit holds for calls made one at a time and not for overlapping ones: serial calls keep
`global_retries` within the limit at any ratio no route exceeds, while two overlapping `allow_retry`s made when one
global retry is left are both granted and take `global_retries` past the limit -/
theorem global_limit_needs_serial_calls :
    (∀ (w : BudgetWorld) (task m : ℕ) (cs : List RetryBudget.BudgetCall), w.tasks[task]? = some .idle →
      (∀ route, w.budget.ratioFor route ≤ m) → w.budget.globalRetries ≤ limit w.budget.globalPrimary m →
      ∃ w', w.run (cs.flatMap (solo task)) = some w' ∧ w'.budget.globalRetries ≤ limit w'.budget.globalPrimary m) ∧
    (∀ (w : BudgetWorld) (i j : ℕ) (route₁ route₂ : String), w.budget.enabled = true →
      w.tasks[i]? = some .idle → w.tasks[j]? = some .idle → i ≠ j → route₁ ≠ route₂ →
      w.budget.globalRetries + 1 = limit w.budget.globalPrimary (w.budget.ratioFor route₁) →
      w.budget.globalRetries < limit w.budget.globalPrimary (w.budget.ratioFor route₂) →
      (w.budget.statsOf route₁).2 < limit (w.budget.statsOf route₁).1 (w.budget.ratioFor route₁) →
      (w.budget.statsOf route₂).2 < limit (w.budget.statsOf route₂).1 (w.budget.ratioFor route₂) →
      ∃ w', w.run (overlapping i j route₁ route₂) = some w' ∧
        w'.answers = (j, .ok ()) :: (i, .ok ()) :: w.answers ∧
        limit w'.budget.globalPrimary (w.budget.ratioFor route₁) < w'.budget.globalRetries) := by
  refine ⟨fun w task m cs hk hm h => ?_, fun w i j route₁ route₂ hen hi hj hij hr hone hg₂ hs₁ hs₂ => ?_⟩
  · obtain ⟨answers, hrun⟩ := solo_calls_refine hk cs
    exact ⟨_, hrun, RetryBudget.globalRetries_calls_le cs hm h⟩
  · obtain ⟨w', hrun, hretries, hprimary, hanswers⟩ :=
      overlapping_both_granted hen hi hj hij hr (by omega) hg₂ hs₁ hs₂
    refine ⟨w', hrun, hanswers, ?_⟩
    rw [hretries, hprimary]
    omega

/-- on a fresh budget, where one global retry is allowed, two overlapping `allow_retry`s are both granted -/
theorem fresh_budget_overlap_exceeds_global_limit :
    ∃ w', (init (RetryBudget.new true 20 []) 2).run (overlapping 0 1 "checkout" "search") = some w' ∧
      w'.answers = [(1, .ok ()), (0, .ok ())] ∧ limit w'.budget.globalPrimary 20 < w'.budget.globalRetries :=
  global_limit_needs_serial_calls.2 (init (RetryBudget.new true 20 []) 2) 0 1 "checkout" "search" rfl rfl rfl
    (by decide) (by decide) rfl (by decide) (by decide) (by decide)

end BudgetWorld

/-! ## The source's widths

`global_primary` and `global_retries` are `AtomicU64`s whose `fetch_add` wraps, the route entries are `u64`s that
saturate, the ratios are `u8`s, and `primary * ratio as u64` wraps in the release profile (the debug profile panics on
it instead). An access at these widths is the access over natural numbers while its counters stay below `u64::MAX`,
and every access raises at most one counter by one: a run of `k` accesses from a new budget, with
`k * 255 ≤ u64::MAX`, is the run over natural numbers (`runU64_new`), and the results above hold of it. -/

namespace RetryBudget

open Counters

/-- `((count * ratio as u64) / 100).saturating_add(1)` at 64 bits, the product wrapping -/
def limitU64 (count ratio : ℕ) : ℕ := saturatingSucc u64Max (count * ratio % (u64Max + 1) / 100)

/-- `global_primary.fetch_add(1)` on the `AtomicU64` -/
def addPrimaryU64 (b : RetryBudget) : RetryBudget := { b with globalPrimary := wrappingSucc u64Max b.globalPrimary }

/-- `global_retries.fetch_add(1)` on the `AtomicU64` -/
def addRetryU64 (b : RetryBudget) : RetryBudget := { b with globalRetries := wrappingSucc u64Max b.globalRetries }

/-- the critical section of `mark_primary`, with `entry.0.saturating_add(1)` -/
def countPrimaryU64 (b : RetryBudget) (route : String) : RetryBudget :=
  b.setStats route (saturatingSucc u64Max (b.statsOf route).1, (b.statsOf route).2)

/-- the critical section of `allow_retry`, with `entry.1.saturating_add(1)` -/
def routeSectionU64 (b : RetryBudget) (route : String) (ratio : ℕ) : RetryBudget × Bool :=
  let entry := b.statsOf route
  if limitU64 entry.1 ratio ≤ entry.2 then (b.setStats route entry, false)
  else (b.setStats route (entry.1, saturatingSucc u64Max entry.2), true)

/-- every counter of the budget is at most `k` -/
structure Within (k : ℕ) (b : RetryBudget) : Prop where
  primary_le : b.globalPrimary ≤ k
  retries_le : b.globalRetries ≤ k
  route_le : ∀ route, (b.statsOf route).1 ≤ k ∧ (b.statsOf route).2 ≤ k

variable {k : ℕ} {b : RetryBudget} {route : String} {ratio : ℕ}

theorem limitU64_of_le {count : ℕ} (h : count * ratio ≤ u64Max) : limitU64 count ratio = limit count ratio := by
  have hlt : count * ratio < u64Max + 1 := Nat.lt_succ_of_le h
  have hdiv : count * ratio / 100 < u64Max := by
    unfold u64Max at h ⊢
    omega
  rw [limitU64, Nat.mod_eq_of_lt hlt, saturatingSucc_of_lt hdiv, limit]

/-- a count of at most `k` times a `u8` ratio does not wrap -/
theorem mul_ratio_le {n : ℕ} (hn : n ≤ k) (hr : ratio ≤ 255) (hk : k * 255 ≤ u64Max) : n * ratio ≤ u64Max :=
  (Nat.mul_le_mul hn hr).trans hk

theorem addPrimaryU64_eq (h : b.globalPrimary < u64Max) : b.addPrimaryU64 = b.addPrimary := by
  rw [addPrimaryU64, wrappingSucc_of_lt h]
  rfl

theorem addRetryU64_eq (h : b.globalRetries < u64Max) : b.addRetryU64 = b.addRetry := by
  rw [addRetryU64, wrappingSucc_of_lt h]
  rfl

theorem countPrimaryU64_eq (h : (b.statsOf route).1 < u64Max) : b.countPrimaryU64 route = b.countPrimary route := by
  rw [countPrimaryU64, saturatingSucc_of_lt h]
  rfl

theorem routeSectionU64_eq (h₁ : (b.statsOf route).1 * ratio ≤ u64Max) (h₂ : (b.statsOf route).2 < u64Max) :
    b.routeSectionU64 route ratio = b.routeSection route ratio := by
  simp only [routeSectionU64, routeSection, limitU64_of_le h₁, saturatingSucc_of_lt h₂]

theorem within_new (enabled : Bool) (globalRatioPercent : ℕ) (perRouteRatioPercent : List (String × ℕ)) :
    Within 0 (new enabled globalRatioPercent perRouteRatioPercent) :=
  ⟨le_rfl, le_rfl, fun _ => by simp [statsOf, new, get_nil]⟩

theorem Within.mono (h : Within k b) {k' : ℕ} (hk : k ≤ k') : Within k' b :=
  ⟨h.primary_le.trans hk, h.retries_le.trans hk, fun route => ⟨(h.route_le route).1.trans hk, (h.route_le route).2.trans hk⟩⟩

theorem Within.setStats (h : Within k b) {entry : ℕ × ℕ} (he : entry.1 ≤ k ∧ entry.2 ≤ k) :
    Within k (b.setStats route entry) := by
  refine ⟨h.primary_le, h.retries_le, fun route' => ?_⟩
  by_cases hr : route' = route
  · subst hr
    rw [statsOf_setStats_self]
    exact he
  · rw [statsOf_setStats_ne hr]
    exact h.route_le route'

theorem Within.addPrimary (h : Within k b) : Within (k + 1) b.addPrimary :=
  ⟨by simpa using h.primary_le, by simpa using h.retries_le.trans k.le_succ, (h.mono k.le_succ).route_le⟩

theorem Within.addRetry (h : Within k b) : Within (k + 1) b.addRetry :=
  ⟨by simpa using h.primary_le.trans k.le_succ, by simpa using h.retries_le, (h.mono k.le_succ).route_le⟩

theorem Within.countPrimary (h : Within k b) : Within (k + 1) (b.countPrimary route) :=
  (h.mono k.le_succ).setStats ⟨by simpa using (h.route_le route).1, (h.route_le route).2.trans k.le_succ⟩

theorem Within.routeSection (h : Within k b) : Within (k + 1) (b.routeSection route ratio).1 := by
  have hr := h.route_le route
  unfold RetryBudget.routeSection
  dsimp only
  split
  · exact (h.mono k.le_succ).setStats ⟨hr.1.trans k.le_succ, hr.2.trans k.le_succ⟩
  · exact (h.mono k.le_succ).setStats ⟨hr.1.trans k.le_succ, by simpa using hr.2⟩

/-- the ratios of a budget built from `u8` ratios fit in a `u8` -/
theorem ratioFor_le_of_u8 {globalRatioPercent : ℕ} {perRouteRatioPercent : List (String × ℕ)} {enabled : Bool}
    (hratio : globalRatioPercent ≤ 255) (hper : ∀ r ∈ perRouteRatioPercent, r.2 ≤ 255) (route : String) :
    (new enabled globalRatioPercent perRouteRatioPercent).ratioFor route ≤ 255 := by
  unfold ratioFor
  cases hget : get route (new enabled globalRatioPercent perRouteRatioPercent).perRouteRatioPercent with
  | none => exact hratio
  | some v => exact hper _ (mem_of_get hget)

end RetryBudget

namespace BudgetPc

open Counters RetryBudget

/-- the primary count a task loaded and has yet to compare -/
def loaded : BudgetPc → ℕ
  | .primaryLoaded _ primary => primary
  | _ => 0

/-- `advance` at the source's widths -/
def advanceU64 (b : RetryBudget) : BudgetPc → RetryBudget × BudgetPc × Option (Except RetryPolicyDenialReason Unit)
  | .idle => (b, .idle, none)
  | .primaryAdded route => (b.countPrimaryU64 route, .idle, none)
  | .primaryLoaded route primary =>
    if limitU64 primary (b.ratioFor route) ≤ b.globalRetries then (b, .idle, some (.error .budgetDenied))
    else (b, .globalPassed route, none)
  | .globalPassed route =>
    let r := b.routeSectionU64 route (b.ratioFor route)
    if r.2 then (r.1, .routeGranted, none) else (r.1, .idle, some (.error .budgetDenied))
  | .routeGranted => (b.addRetryU64, .idle, some (.ok ()))

variable {k : ℕ} {b : RetryBudget} {pc : BudgetPc}

theorem advanceU64_eq (hb : b.Within k) (hpc : pc.loaded ≤ k) (hr : ∀ route, b.ratioFor route ≤ 255)
    (hk : k * 255 ≤ u64Max) : pc.advanceU64 b = pc.advance b := by
  cases pc with
  | idle => rfl
  | primaryAdded route =>
    simp only [advanceU64, advance, countPrimaryU64_eq (lt_u64Max_of_mul_le (hb.route_le route).1 hk)]
  | primaryLoaded route primary =>
    have hp : primary ≤ k := hpc
    simp only [advanceU64, advance, limitU64_of_le (mul_ratio_le hp (hr route) hk)]
  | globalPassed route =>
    simp only [advanceU64, advance, routeSectionU64_eq (mul_ratio_le (hb.route_le route).1 (hr route) hk)
      (lt_u64Max_of_mul_le (hb.route_le route).2 hk)]
  | routeGranted => simp only [advanceU64, advance, addRetryU64_eq (lt_u64Max_of_mul_le hb.retries_le hk)]

/-- an access raises the counters by at most one, and leaves the ratios -/
theorem within_advance (hb : b.Within k) (hpc : pc.loaded ≤ k) :
    (pc.advance b).1.Within (k + 1) ∧ (pc.advance b).2.1.loaded ≤ k + 1 ∧ (pc.advance b).1.ratioFor = b.ratioFor := by
  cases pc with
  | idle => exact ⟨hb.mono k.le_succ, Nat.zero_le _, rfl⟩
  | primaryAdded route => exact ⟨hb.countPrimary, Nat.zero_le _, rfl⟩
  | primaryLoaded route primary =>
    simp only [advance]
    split
    · exact ⟨hb.mono k.le_succ, Nat.zero_le _, rfl⟩
    · exact ⟨hb.mono k.le_succ, Nat.zero_le _, rfl⟩
  | globalPassed route =>
    simp only [advance]
    split
    · exact ⟨hb.routeSection, Nat.zero_le _, ratioFor_routeSection _⟩
    · exact ⟨hb.routeSection, Nat.zero_le _, ratioFor_routeSection _⟩
  | routeGranted => exact ⟨hb.addRetry, Nat.zero_le _, rfl⟩

end BudgetPc

namespace BudgetWorld

open Counters RetryBudget

/-- `step` at the source's widths -/
def stepU64 (w : BudgetWorld) : BudgetAction → Option BudgetWorld
  | .markPrimary task route =>
    match w.tasks[task]? with
    | some .idle => some { w with budget := w.budget.addPrimaryU64, tasks := w.tasks.set task (.primaryAdded route) }
    | _ => none
  | .allowRetry task route =>
    match w.tasks[task]? with
    | some .idle =>
      if !w.budget.enabled then some { w with answers := (task, .ok ()) :: w.answers }
      else some { w with tasks := w.tasks.set task (.primaryLoaded route w.budget.globalPrimary) }
    | _ => none
  | .advance task =>
    w.tasks[task]?.map fun pc =>
      let r := pc.advanceU64 w.budget
      ⟨r.1, w.tasks.set task r.2.1, logAnswer task r.2.2 w.answers⟩

def runU64 (w : BudgetWorld) (actions : List BudgetAction) : Option BudgetWorld := Runs.run stepU64 w actions

/-- the counters of the budget and the primaries the tasks loaded are at most `k`, and the ratios fit in a `u8` -/
structure WithinU64 (k : ℕ) (w : BudgetWorld) : Prop where
  budget : w.budget.Within k
  loaded : ∀ pc ∈ w.tasks, pc.loaded ≤ k
  ratios : ∀ route, w.budget.ratioFor route ≤ 255

variable {k : ℕ} {w w' : BudgetWorld}

theorem WithinU64.set (h : WithinU64 k w) {b : RetryBudget} (hb : b.Within (k + 1)) (hr : b.ratioFor = w.budget.ratioFor)
    {task : ℕ} {pc : BudgetPc} (hpc : pc.loaded ≤ k + 1) (answers : List (ℕ × Except RetryPolicyDenialReason Unit)) :
    WithinU64 (k + 1) ⟨b, w.tasks.set task pc, answers⟩ := by
  refine ⟨hb, fun pc' hmem => ?_, by rw [hr]; exact h.ratios⟩
  rcases List.mem_or_eq_of_mem_set hmem with hmem | rfl
  · exact (h.loaded pc' hmem).trans k.le_succ
  · exact hpc

/-- one access keeps the bound, one higher -/
theorem WithinU64.step (h : WithinU64 k w) {a : BudgetAction} (hs : w.step a = some w') : WithinU64 (k + 1) w' := by
  cases a with
  | markPrimary task route =>
    simp only [BudgetWorld.step] at hs
    split at hs
    · cases hs
      exact h.set h.budget.addPrimary rfl (Nat.zero_le _) _
    · cases hs
  | allowRetry task route =>
    simp only [BudgetWorld.step] at hs
    split at hs
    · split at hs
      · cases hs
        exact ⟨h.budget.mono k.le_succ, fun pc hpc => (h.loaded pc hpc).trans k.le_succ, h.ratios⟩
      · cases hs
        exact h.set (h.budget.mono k.le_succ) rfl
          (show BudgetPc.loaded (.primaryLoaded route w.budget.globalPrimary) ≤ k + 1 from
            h.budget.primary_le.trans k.le_succ) _
    · cases hs
  | advance task =>
    obtain ⟨pc, hk, rfl⟩ := Option.map_eq_some_iff.1 hs
    obtain ⟨hb, hpc, hr⟩ := BudgetPc.within_advance h.budget (h.loaded pc (List.mem_of_getElem? hk))
    exact h.set hb hr hpc _

theorem stepU64_eq (h : WithinU64 k w) (hk : k * 255 ≤ u64Max) (a : BudgetAction) : w.stepU64 a = w.step a := by
  cases a with
  | markPrimary task route =>
    simp only [stepU64, BudgetWorld.step, addPrimaryU64_eq (lt_u64Max_of_mul_le h.budget.primary_le hk)]
  | allowRetry task route => rfl
  | advance task =>
    cases hk' : w.tasks[task]? with
    | none => simp [stepU64, BudgetWorld.step, hk']
    | some pc =>
      have hpc := h.loaded pc (List.mem_of_getElem? hk')
      simp [stepU64, BudgetWorld.step, hk', BudgetPc.advanceU64_eq h.budget hpc h.ratios hk]

/-- a run whose accesses keep the counters within `u64::MAX` is the run over natural numbers; induction on the
schedule, the bound one higher after each access -/
theorem runU64_eq_run (h : WithinU64 k w) (actions : List BudgetAction) (hk : (k + actions.length) * 255 ≤ u64Max) :
    w.runU64 actions = w.run actions := by
  induction actions generalizing k w with
  | nil => rfl
  | cons a as ih =>
    have hk₀ : k * 255 ≤ u64Max := le_trans (Nat.mul_le_mul_right _ (Nat.le_add_right _ _)) hk
    rw [runU64, run, Runs.run_cons, Runs.run_cons, stepU64_eq h hk₀]
    cases hs : w.step a with
    | none => rfl
    | some w' =>
      have hk' : (k + 1 + as.length) * 255 ≤ u64Max := by
        simpa [Nat.add_assoc, Nat.add_comm 1] using hk
      exact ih (h.step hs) hk'

/-- from a new budget with `u8` ratios, every interleaving of at most `u64::MAX / 255` accesses runs at the source's
widths exactly as over natural numbers -/
theorem runU64_new {enabled : Bool} {globalRatioPercent : ℕ} {perRouteRatioPercent : List (String × ℕ)}
    (hratio : globalRatioPercent ≤ 255) (hper : ∀ r ∈ perRouteRatioPercent, r.2 ≤ 255) (n : ℕ)
    (actions : List BudgetAction) (hlen : actions.length * 255 ≤ u64Max) :
    (init (RetryBudget.new enabled globalRatioPercent perRouteRatioPercent) n).runU64 actions =
      (init (RetryBudget.new enabled globalRatioPercent perRouteRatioPercent) n).run actions := by
  have h : WithinU64 0 (init (RetryBudget.new enabled globalRatioPercent perRouteRatioPercent) n) :=
    ⟨within_new _ _ _, fun pc hpc => by simp [List.eq_of_mem_replicate hpc, BudgetPc.loaded],
      ratioFor_le_of_u8 hratio hper⟩
  exact runU64_eq_run h actions (by simpa using hlen)

end BudgetWorld

end Spooky.Edge
