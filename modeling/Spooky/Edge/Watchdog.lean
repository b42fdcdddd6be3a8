/-
The watchdog's restart cycle (`crates/edge/src/watchdog/coordinator.rs`), run concurrently by the watchdog service
thread (`crates/edge/src/watchdog/service.rs`) and the listener threads (`poll_preamble` and `finish_watchdog_drain`,
`crates/edge/src/quic_listener/shutdown.rs`).

A step is one operation on the shared state that another thread can observe: the compare-exchange and the stores of
`restart_requested`, the stores and the `fetch_add` of `drained_workers`, and each load of `restart_requested` by a
listener. The operations next to a step that touch only what the service thread alone reads (the cooldown check, the
request time and instant, the reason, `degraded`) belong to it. The clock is the environment's, and so is whether the
connections of a draining listener have drained. The service loop completes a cycle only while `restart_requested`
holds, and only the service thread writes it, so `completeRestartCycle` needs it.

Results:
- `cycleLog_run`: over every run, the grants of `request_restart` and the completed cycles alternate, starting with a
  grant, and a grant comes at least the cooldown after the completion before it.
- `watchdog_drain_lost`: a listener that drains between the compare-exchange of `request_restart` and its reset of
  `drained_workers` is erased, and as its flag is set it never drains again in that cycle: `workers_drained` stays
  false until the cycle is completed, which the service loop then does only once the drain grace has elapsed.

Left out: `last_poll_progress_ms` (stored by every poll, read by the stall detector only) and the restart hook.
Two ghost fields record what the results speak of: the history of grants and completions, and the `fetch_add`s since
the last successful compare-exchange.
-/
import Mathlib.Tactic

namespace Spooky.Edge.Watchdog

/-! ## The coordinator -/

/-- the shared state of `WatchdogCoordinator` that the restart cycle reads and writes; instants are milliseconds -/
structure WatchdogCoordinator where
  enabled : Bool
  restartCooldownMs : ℕ
  degraded : Bool
  restartRequested : Bool
  restartRequestedAtMs : ℕ
  restartRequestedAtInstant : Option ℕ
  lastRestartAtInstant : Option ℕ
  expectedWorkers : ℕ
  drainedWorkers : ℕ
  restartReason : List Char
deriving DecidableEq, Repr

namespace WatchdogCoordinator

def fromRuntimeConfig (enabled : Bool) (restartCooldownMs : ℕ) : WatchdogCoordinator where
  enabled := enabled
  restartCooldownMs := max restartCooldownMs 1
  degraded := false
  restartRequested := false
  restartRequestedAtMs := 0
  restartRequestedAtInstant := none
  lastRestartAtInstant := none
  expectedWorkers := 1
  drainedWorkers := 0
  restartReason := []

def setExpectedWorkers (c : WatchdogCoordinator) (workers : ℕ) : WatchdogCoordinator :=
  { c with expectedWorkers := max workers 1 }

def workersDrained (c : WatchdogCoordinator) : Bool :=
  decide (max c.expectedWorkers 1 ≤ c.drainedWorkers)

/-- the checks of `request_restart` before its compare-exchange: enabled, and past the cooldown of the last restart -/
def restartAllowed (c : WatchdogCoordinator) (now : ℕ) : Bool :=
  c.enabled && !(c.lastRestartAtInstant.any fun last => decide (now - last < c.restartCooldownMs))

end WatchdogCoordinator

open WatchdogCoordinator

/-! ## Threads -/

/-- the service thread: between calls, inside `request_restart` after its compare-exchange, or inside
`complete_restart_cycle` after it cleared `restart_requested` -/
inductive ServicePc where
  | idle
  | requesting (reason : List Char)
  | completing
deriving DecidableEq, Repr

/-- the next operation of a listener in `poll_preamble` -/
inductive ListenerPc where
  /-- the load of `restart_requested` in `watchdog_restart_cleared` -/
  | clearedCheck
  /-- the load of `restart_requested` in `should_enter_draining` -/
  | enterCheck
  /-- `self.draining && self.drain_complete()` -/
  | drainCheck
  /-- the load of `restart_requested` in `finish_watchdog_drain` -/
  | finish
  /-- the load of `restart_requested` in `mark_worker_drained` -/
  | mark
  /-- the `fetch_add` of `drained_workers` in `mark_worker_drained` -/
  | add
deriving DecidableEq, Repr

structure Listener where
  draining : Bool
  watchdogWorkerDrained : Bool
  pc : ListenerPc
deriving DecidableEq, Repr

namespace Listener

/-- one operation of a listener that reads `restart_requested` as `requested`, with whether it was the `fetch_add`;
`drainComplete` is what `drain_complete` answers -/
def step (l : Listener) (requested drainComplete : Bool) : Listener × Bool :=
  match l.pc with
  | .clearedCheck =>
    ({ l with watchdogWorkerDrained := if !requested then false else l.watchdogWorkerDrained, pc := .enterCheck },
      false)
  | .enterCheck => ({ l with draining := if requested && !l.draining then true else l.draining, pc := .drainCheck },
      false)
  | .drainCheck => ({ l with pc := if l.draining && drainComplete then .finish else .clearedCheck }, false)
  | .finish => ({ l with pc := if requested && !l.watchdogWorkerDrained then .mark else .clearedCheck }, false)
  -- `finish_watchdog_drain` sets its flag once `mark_worker_drained` returns, whether or not it counted
  | .mark =>
    if requested then ({ l with pc := .add }, false)
    else ({ l with watchdogWorkerDrained := true, pc := .clearedCheck }, false)
  | .add => ({ l with watchdogWorkerDrained := true, pc := .clearedCheck }, true)

end Listener

/-- a grant of `request_restart` (its compare-exchange succeeded) or a `complete_restart_cycle`, with its time -/
inductive Event where
  | granted (time : ℕ)
  | completed (time : ℕ)
deriving DecidableEq, Repr

structure World where
  coordinator : WatchdogCoordinator
  service : ServicePc
  listeners : List Listener
  clock : ℕ
  /-- ghost: the grants and completions so far, the latest first -/
  log : List Event
  /-- ghost: the `fetch_add`s since the last successful compare-exchange -/
  drainsSinceCas : ℕ
deriving DecidableEq, Repr

inductive Action where
  | requestRestart (reason : List Char)
  | serviceStep
  | completeRestartCycle
  | listener (index : ℕ) (drainComplete : Bool)
  | tick
deriving DecidableEq, Repr

namespace World

/-- one step of one thread, or of the clock; `none` when that thread cannot take it -/
def step (w : World) : Action → Option World
  | .requestRestart reason =>
    match w.service with
    | .idle =>
      let c := w.coordinator
      -- the cooldown check and the compare-exchange: both read only what the service thread writes
      if c.restartAllowed w.clock && !c.restartRequested then
        some { w with
          coordinator := { c with restartRequested := true, restartRequestedAtMs := w.clock,
                                  restartRequestedAtInstant := some w.clock }
          service := .requesting reason, log := .granted w.clock :: w.log, drainsSinceCas := 0 }
      else some w
    | _ => none
  | .serviceStep =>
    match w.service with
    | .idle => none
    | .requesting reason =>
      some { w with coordinator := { w.coordinator with drainedWorkers := 0, restartReason := reason }, service := .idle }
    | .completing =>
      some { w with
        coordinator := { w.coordinator with restartRequestedAtMs := 0, drainedWorkers := 0, degraded := false }
        service := .idle }
  | .completeRestartCycle =>
    match w.service with
    | .idle =>
      if w.coordinator.restartRequested then
        some { w with
          coordinator := { w.coordinator with lastRestartAtInstant := some w.clock, restartRequestedAtInstant := none,
                                              restartRequested := false }
          service := .completing, log := .completed w.clock :: w.log }
      else none
    | _ => none
  | .listener index drainComplete =>
    w.listeners[index]?.map fun l =>
      let next := l.step w.coordinator.restartRequested drainComplete
      { w with
        listeners := w.listeners.set index next.1
        coordinator := if next.2 then { w.coordinator with drainedWorkers := w.coordinator.drainedWorkers + 1 }
          else w.coordinator
        drainsSinceCas := if next.2 then w.drainsSinceCas + 1 else w.drainsSinceCas }
  | .tick => some { w with clock := w.clock + 1 }

def run (w : World) : List Action → Option World
  | [] => some w
  | a :: actions => (w.step a).bind fun w' => run w' actions

/-- a coordinator from `from_runtime_config` with `set_expected_workers(workers)`, and `n` fresh listeners -/
def initial (enabled : Bool) (restartCooldownMs workers n : ℕ) : World where
  coordinator := (fromRuntimeConfig enabled restartCooldownMs).setExpectedWorkers workers
  service := .idle
  listeners := List.replicate n ⟨false, false, .clearedCheck⟩
  clock := 0
  log := []
  drainsSinceCas := 0

@[simp] theorem run_nil (w : World) : w.run [] = some w := rfl

theorem run_cons (w : World) (a : Action) (actions : List Action) :
    w.run (a :: actions) = (w.step a).bind fun w' => w'.run actions := rfl

/-- a listener's step changes its own state, and with its `fetch_add` `drained_workers` and the ghost count -/
theorem step_listener_eq {w w' : World} {index : ℕ} {drainComplete : Bool}
    (h : w.step (.listener index drainComplete) = some w') :
    ∃ l, w.listeners[index]? = some l ∧
      w'.listeners = w.listeners.set index (l.step w.coordinator.restartRequested drainComplete).1 ∧
      w'.service = w.service ∧ w'.log = w.log ∧
      w'.coordinator = (if (l.step w.coordinator.restartRequested drainComplete).2 then
        { w.coordinator with drainedWorkers := w.coordinator.drainedWorkers + 1 } else w.coordinator) ∧
      w'.drainsSinceCas = if (l.step w.coordinator.restartRequested drainComplete).2 then w.drainsSinceCas + 1
        else w.drainsSinceCas := by
  obtain ⟨l, hl, rfl⟩ := Option.map_eq_some_iff.1 h
  exact ⟨l, hl, rfl, rfl, rfl, rfl, rfl⟩

/-- the invariant rule of runs: what every step keeps holds after a run -/
theorem run_induction {P : World → Prop} (hstep : ∀ w a w', P w → w.step a = some w' → P w') :
    ∀ (actions : List Action) (w w' : World), P w → w.run actions = some w' → P w'
  | [], w, w', hw, hrun => by
    cases hrun
    exact hw
  | a :: actions, w, w', hw, hrun => by
    rw [run_cons] at hrun
    obtain ⟨w₁, h₁, hrest⟩ := Option.bind_eq_some_iff.1 hrun
    exact run_induction hstep actions w₁ w' (hstep w a w₁ hw h₁) hrest

end World

/-! ## Grants and completions -/

/-- the history the claim asks for, the latest first: grants and completions alternate from a grant, and a grant
comes at least `cooldown` after the completion before it -/
inductive CycleLog (cooldown : ℕ) : List Event → Prop where
  | nil : CycleLog cooldown []
  | first (t : ℕ) : CycleLog cooldown [.granted t]
  | complete {T t : ℕ} {log : List Event} : CycleLog cooldown (.granted t :: log) →
      CycleLog cooldown (.completed T :: .granted t :: log)
  | grant {t T : ℕ} {log : List Event} : CycleLog cooldown (.completed T :: log) → T + cooldown ≤ t →
      CycleLog cooldown (.granted t :: .completed T :: log)

/-- the time of the latest completion -/
def lastCompletion : List Event → Option ℕ
  | [] => none
  | .completed T :: _ => some T
  | .granted _ :: log => lastCompletion log

/-- a cycle is open when the latest event is a grant -/
def cycleOpen : List Event → Bool
  | .granted _ :: _ => true
  | _ => false

/-- a grant out of an open cycle and past the cooldown of the latest completion extends the history -/
theorem CycleLog.grant_of_allowed {cooldown now : ℕ} {log : List Event} (h : CycleLog cooldown log)
    (hclosed : cycleOpen log = false)
    (hcool : ((lastCompletion log).any fun last => decide (now - last < cooldown)) = false) (hpos : 1 ≤ cooldown) :
    CycleLog cooldown (.granted now :: log) := by
  cases log with
  | nil => exact .first now
  | cons e rest =>
    cases e with
    | granted t => cases hclosed
    | completed T =>
      simp only [lastCompletion, Option.any_some, decide_eq_false_iff_not, not_lt] at hcool
      exact .grant h (by omega)

/-- a completion of an open cycle extends the history -/
theorem CycleLog.complete_of_open {cooldown T : ℕ} {log : List Event} (h : CycleLog cooldown log)
    (hopen : cycleOpen log = true) : CycleLog cooldown (.completed T :: log) := by
  cases log with
  | nil => cases hopen
  | cons e rest =>
    cases e with
    | granted t => exact .complete h
    | completed T' => cases hopen

/-- what the coordinator holds of the history: `restart_requested` says a cycle is open, `last_restart_at_instant`
is the latest completion, and the cooldown is fixed and positive -/
structure CycleInv (cooldown : ℕ) (w : World) : Prop where
  log : CycleLog cooldown w.log
  requested : w.coordinator.restartRequested = cycleOpen w.log
  lastRestart : w.coordinator.lastRestartAtInstant = lastCompletion w.log
  cooldownEq : w.coordinator.restartCooldownMs = cooldown
  cooldownPos : 1 ≤ cooldown

theorem cycleInv_initial (enabled : Bool) (restartCooldownMs workers n : ℕ) :
    CycleInv (max restartCooldownMs 1) (World.initial enabled restartCooldownMs workers n) :=
  ⟨.nil, rfl, rfl, rfl, le_max_right _ _⟩

/-- a step keeps the invariant: only a grant and a completion touch the history, and they extend it -/
theorem cycleInv_step {cooldown : ℕ} {w w' : World} {a : Action} (h : CycleInv cooldown w)
    (hstep : w.step a = some w') : CycleInv cooldown w' := by
  cases a with
  | requestRestart reason =>
    cases hs : w.service <;> simp only [World.step, hs, reduceCtorEq] at hstep
    split at hstep
    · rename_i hgo
      cases hstep
      simp only [restartAllowed, Bool.and_eq_true, Bool.not_eq_true', h.lastRestart, h.requested,
        h.cooldownEq] at hgo
      exact ⟨h.log.grant_of_allowed hgo.2 hgo.1.2 h.cooldownPos, rfl, h.lastRestart, h.cooldownEq, h.cooldownPos⟩
    · cases hstep
      exact h
  | serviceStep =>
    cases hs : w.service <;> simp only [World.step, hs, reduceCtorEq, Option.some.injEq] at hstep <;>
      · subst hstep
        exact ⟨h.log, h.requested, h.lastRestart, h.cooldownEq, h.cooldownPos⟩
  | completeRestartCycle =>
    cases hs : w.service <;> simp only [World.step, hs, reduceCtorEq] at hstep
    split at hstep
    · rename_i hreq
      cases hstep
      rw [h.requested] at hreq
      exact ⟨h.log.complete_of_open hreq, rfl, rfl, h.cooldownEq, h.cooldownPos⟩
    · cases hstep
  | listener index drainComplete =>
    obtain ⟨l, -, -, -, hlog, hcoord, -⟩ := World.step_listener_eq hstep
    -- a listener's `fetch_add` touches `drained_workers` only
    have hrequested : w'.coordinator.restartRequested = w.coordinator.restartRequested := by
      rw [hcoord]
      split <;> rfl
    have hlast : w'.coordinator.lastRestartAtInstant = w.coordinator.lastRestartAtInstant := by
      rw [hcoord]
      split <;> rfl
    have hcool : w'.coordinator.restartCooldownMs = w.coordinator.restartCooldownMs := by
      rw [hcoord]
      split <;> rfl
    refine ⟨hlog ▸ h.log, ?_, ?_, hcool.trans h.cooldownEq, h.cooldownPos⟩
    · rw [hrequested, hlog]
      exact h.requested
    · rw [hlast, hlog]
      exact h.lastRestart
  | tick =>
    cases hstep
    exact ⟨h.log, h.requested, h.lastRestart, h.cooldownEq, h.cooldownPos⟩

/-- over every run, `request_restart` grants at most one cycle at a time and none within the cooldown of the last
completion: the history of grants and completions is a `CycleLog` -/
theorem cycleLog_run {enabled : Bool} {restartCooldownMs workers n : ℕ} {actions : List Action} {w : World}
    (hrun : (World.initial enabled restartCooldownMs workers n).run actions = some w) :
    CycleLog (max restartCooldownMs 1) w.log :=
  (World.run_induction (fun _ _ _ h hstep => cycleInv_step h hstep) actions _ w
    (cycleInv_initial enabled restartCooldownMs workers n) hrun).log

/-- one restart cycle, granted and completed -/
def oneCycle : List Action :=
  [.requestRestart "poll_stall".toList, .serviceStep, .tick, .completeRestartCycle, .serviceStep]

theorem one_cycle_log :
    ∃ w, (World.initial true 1000 1 1).run oneCycle = some w ∧ CycleLog (max 1000 1) w.log := by
  obtain ⟨w, hw⟩ : ∃ w, (World.initial true 1000 1 1).run oneCycle = some w := ⟨_, rfl⟩
  exact ⟨w, hw, cycleLog_run hw⟩

/-! ## A drain erased -/

namespace Listener

/-- a listener that has set its flag and is past `mark_worker_drained` never reaches it again while
`restart_requested` holds -/
theorem step_of_drained {l : Listener} (hflag : l.watchdogWorkerDrained = true) (hmark : l.pc ≠ .mark)
    (hadd : l.pc ≠ .add) (drainComplete : Bool) :
    (l.step true drainComplete).2 = false ∧ (l.step true drainComplete).1.watchdogWorkerDrained = true ∧
      (l.step true drainComplete).1.pc ≠ .mark ∧ (l.step true drainComplete).1.pc ≠ .add := by
  unfold step
  cases hpc : l.pc with
  | clearedCheck => simp [hflag]
  | enterCheck => simp [hflag]
  | drainCheck => cases l.draining && drainComplete <;> simp [hflag]
  | finish => simp [hflag]
  | mark => exact absurd hpc hmark
  | add => exact absurd hpc hadd

end Listener

/-- an open cycle with the service thread idle, `drained_workers` at zero and `k` drains counted since the
compare-exchange, in which every listener has set its flag and is at neither of the last two operations of
`mark_worker_drained` -/
structure Stuck (k : ℕ) (w : World) : Prop where
  requested : w.coordinator.restartRequested = true
  idle : w.service = .idle
  drained : w.coordinator.drainedWorkers = 0
  ghost : w.drainsSinceCas = k
  flags : ∀ l ∈ w.listeners, l.watchdogWorkerDrained = true ∧ l.pc ≠ .mark ∧ l.pc ≠ .add

/-- every step but a completion keeps a stuck cycle stuck: a request finds `restart_requested` set, and no listener
gets to its `fetch_add` -/
theorem stuck_step {k : ℕ} {w w' : World} {a : Action} (h : Stuck k w) (ha : a ≠ .completeRestartCycle)
    (hstep : w.step a = some w') : Stuck k w' := by
  cases a with
  | requestRestart reason =>
    simp only [World.step, h.idle, h.requested, Bool.not_true, Bool.and_false, Bool.false_eq_true, if_false,
      Option.some.injEq] at hstep
    subst hstep
    exact h
  | serviceStep => simp [World.step, h.idle] at hstep
  | completeRestartCycle => exact absurd rfl ha
  | listener index drainComplete =>
    obtain ⟨l, hl, hlisteners, hservice, -, hcoord, hghost⟩ := World.step_listener_eq hstep
    obtain ⟨hflag, hmark, hadd⟩ := h.flags l (List.mem_of_getElem? hl)
    rw [h.requested] at hlisteners hcoord hghost
    obtain ⟨hno, hflag', hmark', hadd'⟩ := Listener.step_of_drained hflag hmark hadd drainComplete
    simp only [hno, Bool.false_eq_true, if_false] at hcoord hghost
    refine ⟨by rw [hcoord]; exact h.requested, hservice.trans h.idle, by rw [hcoord]; exact h.drained,
      hghost.trans h.ghost, ?_⟩
    intro l' hmem
    rw [hlisteners] at hmem
    rcases List.mem_or_eq_of_mem_set hmem with hmem | rfl
    · exact h.flags l' hmem
    · exact ⟨hflag', hmark', hadd'⟩
  | tick =>
    cases hstep
    exact ⟨h.requested, h.idle, h.drained, h.ghost, h.flags⟩

theorem stuck_run {k : ℕ} : ∀ {actions : List Action} {w w' : World}, Stuck k w →
    .completeRestartCycle ∉ actions → w.run actions = some w' → Stuck k w'
  | [], w, w', h, _, hrun => by
    cases hrun
    exact h
  | a :: actions, w, w', h, hcomplete, hrun => by
    rw [List.mem_cons, not_or] at hcomplete
    rw [World.run_cons] at hrun
    obtain ⟨w₁, h₁, hrest⟩ := Option.bind_eq_some_iff.1 hrun
    exact stuck_run (stuck_step h (Ne.symm hcomplete.1) h₁) hcomplete.2 hrest

/-- the interleaving that loses a drain: the service thread's compare-exchange, a whole drain of the one listener
down to its `fetch_add`, then the service thread's reset of `drained_workers` -/
def lostDrainTrace : List Action :=
  [.requestRestart "poll_stall".toList, .listener 0 true, .listener 0 true, .listener 0 true, .listener 0 true,
    .listener 0 true, .listener 0 true, .serviceStep]

/-- with one worker, the drain of the only listener is erased by `request_restart`'s own reset: `drained_workers`
stays zero while one drain was made in the cycle, and stays so, with `workers_drained` false, whatever runs until
the cycle is completed -/
theorem watchdog_drain_lost :
    ∃ w, (World.initial true 1000 1 1).run lostDrainTrace = some w ∧ w.coordinator.restartRequested = true ∧
      ∀ actions, .completeRestartCycle ∉ actions → ∀ w', w.run actions = some w' →
        w'.drainsSinceCas = 1 ∧ w'.coordinator.drainedWorkers = 0 ∧ w'.coordinator.workersDrained = false := by
  refine ⟨_, rfl, rfl, fun actions hcomplete w' hrun => ?_⟩
  have hstuck := stuck_run ⟨rfl, rfl, rfl, rfl, by decide⟩ hcomplete hrun
  refine ⟨hstuck.ghost, hstuck.drained, ?_⟩
  simp [workersDrained, hstuck.drained]

end Spooky.Edge.Watchdog
