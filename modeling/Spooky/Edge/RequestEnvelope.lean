/-
The per-request state machine of the QUIC listener (`runtime/connection/request.rs`, `runtime/connection/stream.rs`)
and what a request holds of what all requests share: the `active_requests` of the backend it was routed to, which
`begin_request_for_accounting` raises before dispatch (`quic_listener/forwarding/mod.rs`) and
`transition_to_terminal_with_cleanup` lowers through `finish_request`, and the listener's count of buffered request
body bytes, which the chunk operations of `quic_listener/forwarding/stream_progress.rs` reserve and release
(`Metrics::try_reserve_request_buffer`, `Metrics::release_request_buffer`).

A request's execution state is `RequestExecutionState`, with the fields the operations here read: the body state,
the body runtime (the buffered chunks, by their lengths, and the byte counts), whether the dispatch holds a body
sender, and the backend accounting. Each operation returns its effects on the shared counters (`Effect`); a panic of
the code is `none`. The outcome of each `try_send` on the body channel is an input, as are the reason and the elapsed
time of a terminal transition. `Listener` holds every request the listener has created, the upstream pools by
identity, and the buffered-bytes count; its `step` runs one operation of one request and applies the effects.
Each request also keeps two ghosts: the calls it made on its pool and the phase after each of its operations.

Results:
* `RequestExecutionState.pushRequestChunk_spec`, `enqueueRequestChunk_spec`, `flushRequestBuffer_spec`: the chunk
  operations leave the stage of the request alone and move the shared count by exactly the change of the request's
  buffered bytes (`ChunkSpec`), so that no release takes more than the request holds.
* `RequestEnvelope.apply_cases`: an operation of a request moves its stage quietly, or dispatches it with one
  `begin_request` on its backend, or ends it with one `finish_request` there exactly when its backend accounting is
  unfinalized, which it is from the dispatch on since nothing sets `finalized`.
* `Listener.Inv.run`: over every run, every request keeps `Stream.Accounted` (its pool calls in step with its stage
  and its phases), every backend counter is its initial value plus the requests begun and not finished on it, and the
  buffered-bytes count is its initial value plus the bytes the requests hold.
* `request_accounting_exactly_once`: hence a request calls `finish_request` at most once, on the backend it began on,
  and once terminal exactly when it reached `AwaitingUpstream` before its first terminal transition; when every
  request is terminal every counter is back at its initial value.
* `request_buffer_conserved`: the buffered-bytes count is its initial value plus what the requests hold, and back at
  its initial value when every request is terminal.
-/
import Mathlib.Data.List.TakeWhile
import Spooky.Lib.Counters
import Spooky.Lb.Picks

namespace Spooky.Edge

open Spooky.Lb

/-! ## The request body -/

/-- `RequestBodyState` -/
inductive RequestBodyState where
  | open_
  | buffered
  | finReceived
  | closedToUpstream
deriving DecidableEq, Repr

namespace RequestBodyState

/-- `RequestBodyState::from_runtime` -/
def fromRuntime (requestFinReceived hasBufferedBody forwardOpen : Bool) : RequestBodyState :=
  if forwardOpen then
    if hasBufferedBody then .buffered else if requestFinReceived then .finReceived else .open_
  else if requestFinReceived then .closedToUpstream
  else if hasBufferedBody then .buffered
  else .open_

/-- `on_buffered` -/
def onBuffered : RequestBodyState → RequestBodyState
  | .closedToUpstream => .closedToUpstream
  | _ => .buffered

/-- `request_fin_received` -/
def requestFinReceived : RequestBodyState → Bool
  | .finReceived | .closedToUpstream => true
  | _ => false

/-- `can_accept_downstream_body` -/
def canAcceptDownstreamBody : RequestBodyState → Bool
  | .open_ | .buffered => true
  | _ => false

end RequestBodyState

/-- `RequestBodyRuntime`; a chunk of `body_buf` is its length, all that is read of it here -/
structure RequestBodyRuntime where
  bodyBuf : List ℕ
  bodyBufBytes : ℕ
  bodyBytesReceived : ℕ
  requestFinReceived : Bool
deriving DecidableEq, Repr

/-- the runtime `build_dispatch_ready_candidate` gives a routed request: nothing buffered or received yet -/
def RequestBodyRuntime.candidate (requestBody : RequestBodyState) : RequestBodyRuntime :=
  ⟨[], 0, 0, requestBody.requestFinReceived⟩

/-- `BodyLimitKind` -/
inductive BodyLimitKind where
  | bodySize
  | bufferedBody
  | unknownLengthPrebuffer
deriving DecidableEq, Repr

/-- `BodyTimeoutKind` -/
inductive BodyTimeoutKind where
  | idle
  | total
deriving DecidableEq, Repr

/-- `RequestBodyGuardrailDecision` -/
inductive RequestBodyGuardrailDecision where
  | continue
  | timeout (kind : BodyTimeoutKind)
  | reject (kind : BodyLimitKind)
deriving DecidableEq, Repr

/-- `evaluate_request_body_ingress`, with the fields of its config and input that it reads -/
def evaluateRequestBodyIngress (maxBodyBytes maxBufferedBytes bytesReceived bufferedBytes nextChunkBytes : ℕ)
    (declaredContentLength : Option ℕ) (exemptFromBodySizeCap : Bool) : RequestBodyGuardrailDecision :=
  if declaredContentLength.any fun length => !exemptFromBodySizeCap && maxBodyBytes < length then .reject .bodySize
  else if !exemptFromBodySizeCap && maxBodyBytes < bytesReceived + nextChunkBytes then .reject .bodySize
  else if maxBufferedBytes < bufferedBytes + nextChunkBytes then
    .reject (if declaredContentLength.isSome then .bufferedBody else .unknownLengthPrebuffer)
  else .continue

/-- `RequestBodyIngressState` -/
structure RequestBodyIngressState where
  bytesReceived : ℕ
  bufferedBytes : ℕ
deriving DecidableEq, Repr

/-- `checked_request_body_ingress` -/
def checkedRequestBodyIngress (maxBodyBytes maxBufferedBytes bytesReceived bufferedBytes nextChunkBytes : ℕ)
    (declaredContentLength : Option ℕ) (exemptFromBodySizeCap : Bool) :
    Except RequestBodyGuardrailDecision RequestBodyIngressState :=
  match evaluateRequestBodyIngress maxBodyBytes maxBufferedBytes bytesReceived bufferedBytes nextChunkBytes
      declaredContentLength exemptFromBodySizeCap with
  | .continue => .ok ⟨bytesReceived + nextChunkBytes, bufferedBytes + nextChunkBytes⟩
  | decision => .error decision

/-! ## The execution state -/

/-- `StreamPhase` -/
inductive StreamPhase where
  | receivingRequest
  | awaitingUpstream
  | sendingResponse
  | completed
  | terminal
deriving DecidableEq, Repr

/-- the phases a request reaches by a terminal transition -/
def StreamPhase.isEnded : StreamPhase → Bool
  | .completed | .terminal => true
  | _ => false

/-- `TerminalReason`, without the reason each kind carries, which nothing here reads -/
inductive TerminalReason where
  | completed
  | cancelled
  | timedOut
  | rejected
  | backendFailed
deriving DecidableEq, Repr

/-- `BackendAccountingState`, without the response status nothing reads -/
structure BackendAccountingState where
  finalized : Bool
deriving DecidableEq, Repr

/-- `BackendAccountingState::should_finalize` -/
def BackendAccountingState.shouldFinalize (a : BackendAccountingState) : Bool := !a.finalized

/-- `TerminalSnapshot`, with the fields the cleanup reads -/
structure TerminalSnapshot where
  responseStatus : Option ℕ
  backendAccounting : Option BackendAccountingState
deriving DecidableEq, Repr

/-- `TerminalState`: each of its variants is a reason of one kind with a snapshot -/
structure TerminalState where
  reason : TerminalReason
  snapshot : TerminalSnapshot
deriving DecidableEq, Repr

/-- `TerminalState::should_finalize_backend_accounting` -/
def TerminalState.shouldFinalizeBackendAccounting (t : TerminalState) : Bool :=
  t.snapshot.backendAccounting.any BackendAccountingState.shouldFinalize

/-- `TerminalReason::terminal_status` -/
def TerminalReason.terminalStatus (_ : TerminalReason) (snapshot : TerminalSnapshot) : Option ℕ :=
  snapshot.responseStatus

/-- `RequestExecutionState`, with the fields of each state that the operations here read -/
inductive RequestExecutionState where
  | intake (requestBody : RequestBodyState)
  | awaitingAuth (requestBody : RequestBodyState) (runtime : RequestBodyRuntime)
  | dispatchReady (requestBody : RequestBodyState) (runtime : RequestBodyRuntime)
  | admitted (requestBody : RequestBodyState) (runtime : RequestBodyRuntime)
  | awaitingUpstream (requestBody : RequestBodyState) (runtime : RequestBodyRuntime) (bodyTx : Bool)
      (backendAccounting : BackendAccountingState)
  | streamingResponse (runtime : RequestBodyRuntime) (backendAccounting : BackendAccountingState)
  | terminal (state : TerminalState)
deriving DecidableEq, Repr

/-- an effect of a request's operation on what the listener's requests share -/
inductive Effect (F : Type) where
  /-- `begin_request_for_accounting(index)` on the upstream pool `pool` -/
  | beginRequest (pool index : ℕ)
  /-- `finish_request(index, latency, status)` on the upstream pool `pool` -/
  | finishRequest (pool index : ℕ) (latency : F) (status : Option ℕ)
  /-- a `try_reserve_request_buffer` that succeeded -/
  | reserveRequestBuffer (bytes : ℕ)
  /-- `release_request_buffer` -/
  | releaseRequestBuffer (bytes : ℕ)
  /-- `observe_terminal_request_outcome` -/
  | observeTerminalRequestOutcome

/-- the outcome of a `try_send` on the request body channel -/
inductive SendOutcome where
  | ok
  | full
  | closed
deriving DecidableEq, Repr

/-- `RequestBufferError` -/
inductive RequestBufferError where
  | global
  | bodySize
  | stream
deriving DecidableEq, Repr

variable {F : Type}

namespace Effect

/-- what an effect does to the listener's count of buffered request body bytes; a release saturates at zero -/
def onCount (count : ℕ) : Effect F → ℕ
  | .reserveRequestBuffer bytes => count + bytes
  | .releaseRequestBuffer bytes => count - bytes
  | _ => count

/-- the calls on an upstream pool -/
def isPoolCall : Effect F → Bool
  | .beginRequest .. | .finishRequest .. => true
  | _ => false

end Effect

namespace RequestExecutionState

/-- `is_terminal` -/
def isTerminal : RequestExecutionState → Bool
  | .terminal _ => true
  | _ => false

/-- `phase` -/
def phase : RequestExecutionState → StreamPhase
  | .intake _ | .awaitingAuth .. | .dispatchReady .. | .admitted .. => .receivingRequest
  | .awaitingUpstream .. => .awaitingUpstream
  | .streamingResponse .. => .sendingResponse
  | .terminal t => if t.reason = .completed then .completed else .terminal

/-- `should_finalize_backend_accounting` -/
def shouldFinalizeBackendAccounting : RequestExecutionState → Bool
  | .awaitingUpstream _ _ _ a => a.shouldFinalize
  | .streamingResponse _ a => a.shouldFinalize
  | .terminal t => t.shouldFinalizeBackendAccounting
  | .intake _ | .awaitingAuth .. | .dispatchReady .. | .admitted .. => false

/-- `can_accept_request_body` -/
def canAcceptRequestBody : RequestExecutionState → Bool
  | .intake b | .awaitingAuth b _ | .dispatchReady b _ | .admitted b _ | .awaitingUpstream b _ _ _ =>
    b.canAcceptDownstreamBody
  | .streamingResponse .. | .terminal _ => false

/-- `buffered_request_body_bytes` -/
def bufferedRequestBodyBytes : RequestExecutionState → ℕ
  | .awaitingAuth _ rt | .dispatchReady _ rt | .admitted _ rt | .awaitingUpstream _ rt _ _ | .streamingResponse rt _ =>
    rt.bodyBufBytes
  | .intake _ | .terminal _ => 0

/-- `request_body_runtime`; `none` is its panic in the intake and terminal states -/
def requestBodyRuntime : RequestExecutionState → Option RequestBodyRuntime
  | .awaitingAuth _ rt | .dispatchReady _ rt | .admitted _ rt | .awaitingUpstream _ rt _ _ | .streamingResponse rt _ =>
    some rt
  | .intake _ | .terminal _ => none

/-- a change `f` made through `request_body_runtime_mut`; `none` is its panic -/
def modifyRequestBodyRuntime (f : RequestBodyRuntime → RequestBodyRuntime) :
    RequestExecutionState → Option RequestExecutionState
  | .awaitingAuth b rt => some (.awaitingAuth b (f rt))
  | .dispatchReady b rt => some (.dispatchReady b (f rt))
  | .admitted b rt => some (.admitted b (f rt))
  | .awaitingUpstream b rt tx a => some (.awaitingUpstream b (f rt) tx a)
  | .streamingResponse rt a => some (.streamingResponse (f rt) a)
  | .intake _ | .terminal _ => none

/-- `body_tx().is_some()` -/
def bodyTx : RequestExecutionState → Bool
  | .awaitingUpstream _ _ tx _ => tx
  | _ => false

/-- `request_body_state`; a terminal request's mode makes its body state `ClosedToUpstream` -/
def requestBodyState : RequestExecutionState → RequestBodyState
  | .intake b | .awaitingAuth b _ | .dispatchReady b _ | .admitted b _ | .awaitingUpstream b _ _ _ => b
  | .streamingResponse rt _ => .fromRuntime rt.requestFinReceived (!rt.bodyBuf.isEmpty) false
  | .terminal _ => .closedToUpstream

/-- the `match` of `set_request_body_state`, which stores the state where the variant has one -/
def withRequestBody (next : RequestBodyState) : RequestExecutionState → RequestExecutionState
  | .intake _ => .intake next
  | .awaitingAuth _ rt => .awaitingAuth next rt
  | .dispatchReady _ rt => .dispatchReady next rt
  | .admitted _ rt => .admitted next rt
  | .awaitingUpstream _ rt tx a => .awaitingUpstream next rt tx a
  | e => e

/-- `set_request_body_state` -/
def setRequestBodyState (next : RequestBodyState) (e : RequestExecutionState) : Option RequestExecutionState :=
  (e.modifyRequestBodyRuntime fun rt => { rt with requestFinReceived := next.requestFinReceived }).map
    (withRequestBody next)

/-- `refresh_request_body_state` -/
def refreshRequestBodyState (e : RequestExecutionState) : Option (RequestExecutionState × RequestBodyState) := do
  let rt ← e.requestBodyRuntime
  let next := RequestBodyState.fromRuntime rt.requestFinReceived (!rt.bodyBuf.isEmpty) e.bodyTx
  let e ← e.setRequestBodyState next
  pure (e, next)

/-- `transition_request_body_buffered` -/
def transitionRequestBodyBuffered (e : RequestExecutionState) :
    Option (RequestExecutionState × RequestBodyState) := do
  let next := e.requestBodyState.onBuffered
  let e ← e.setRequestBodyState next
  pure (e, next)

/-- the `match` of `clear_body_tx`, which drops the dispatch's body sender -/
def dropBodyTx : RequestExecutionState → RequestExecutionState
  | .awaitingUpstream b rt _ a => .awaitingUpstream b rt false a
  | e => e

/-- `clear_body_tx` -/
def clearBodyTx (e : RequestExecutionState) : Option RequestExecutionState :=
  e.dropBodyTx.refreshRequestBodyState.map Prod.fst

/-- `transition_request_body_forward_closed` -/
def transitionRequestBodyForwardClosed (e : RequestExecutionState) :
    Option (RequestExecutionState × RequestBodyState) := do
  let e ← e.clearBodyTx
  e.refreshRequestBodyState

/-- `should_close_request_body_forwarding`, whose `&&` reads the buffer only once the body state is `FinReceived` -/
def shouldCloseRequestBodyForwarding (e : RequestExecutionState) : Option Bool :=
  if e.requestBodyState = .finReceived then e.requestBodyRuntime.map fun rt => rt.bodyBuf.isEmpty && e.bodyTx
  else some false

/-! ### The chunk operations of `stream_progress.rs` -/

/-- `push_request_chunk` against the shared count `requestBufferedBytes`: its effects, and its result -/
def pushRequestChunk (maxRequestBodyBytes capBytes requestBufferedBytes chunk : ℕ) (e : RequestExecutionState) :
    Option (RequestExecutionState × List (Effect F) × Except RequestBufferError Unit) :=
  -- `try_reserve_request_buffer` fails when the count would pass the cap
  if capBytes < requestBufferedBytes + chunk then some (e, [], .error .global)
  else do
    let rt ← e.requestBodyRuntime
    match checkedRequestBodyIngress maxRequestBodyBytes maxRequestBodyBytes (rt.bodyBytesReceived - chunk)
        rt.bodyBufBytes chunk none false with
    | .error (.reject .bodySize) => some (e, [.reserveRequestBuffer chunk, .releaseRequestBuffer chunk], .error .bodySize)
    | .error (.reject _) => some (e, [.reserveRequestBuffer chunk, .releaseRequestBuffer chunk], .error .stream)
    -- the two `unreachable!` arms
    | .error _ => none
    | .ok next => do
      let e ← e.modifyRequestBodyRuntime fun rt => { rt with bodyBufBytes := next.bufferedBytes }
      let e ← e.modifyRequestBodyRuntime fun rt => { rt with bodyBuf := rt.bodyBuf ++ [chunk] }
      let (e, _) ← e.transitionRequestBodyBuffered
      pure (e, [.reserveRequestBuffer chunk], .ok ())

/-- the release of everything buffered when the body channel is found closed -/
def releaseAll (bytes : ℕ) : List (Effect F) := if 0 < bytes then [.releaseRequestBuffer bytes] else []

/-- releasing everything a request counted takes its bytes off the count -/
theorem releaseAll_onCount (rest bytes : ℕ) : (releaseAll (F := F) bytes).foldl Effect.onCount (rest + bytes) = rest := by
  unfold releaseAll
  split
  · simp [Effect.onCount]
  · simp_all

theorem releaseAll_noPoolCall (bytes : ℕ) : ∀ x ∈ releaseAll (F := F) bytes, x.isPoolCall = false := by
  unfold releaseAll
  split <;> simp [Effect.isPoolCall]

/-- `enqueue_request_chunk`, its `try_send` answered by `sent` -/
def enqueueRequestChunk (maxRequestBodyBytes capBytes requestBufferedBytes chunk : ℕ) (sent : SendOutcome)
    (e : RequestExecutionState) : Option (RequestExecutionState × List (Effect F) × Except RequestBufferError Unit) :=
  if !e.canAcceptRequestBody then some (e, [], .ok ())
  else if e.bodyTx then
    match sent with
    | .ok => some (e, [], .ok ())
    | .full => pushRequestChunk maxRequestBodyBytes capBytes requestBufferedBytes chunk e
    | .closed => do
      let rt ← e.requestBodyRuntime
      let e ← e.modifyRequestBodyRuntime fun rt => { rt with bodyBuf := [] }
      let e ← e.modifyRequestBodyRuntime fun rt => { rt with bodyBufBytes := 0 }
      let (e, _) ← e.transitionRequestBodyForwardClosed
      pure (e, releaseAll rt.bodyBufBytes, .ok ())
  else pushRequestChunk maxRequestBodyBytes capBytes requestBufferedBytes chunk e

/-- the loop of `flush_request_buffer` from its `attempt`-th `try_send`, answered by `sent attempt`, over the chunks
left with `bytes` counted: the chunks then left, `body_buf_bytes`, whether the channel was found closed, and the
releases -/
def flushLoop (sent : ℕ → SendOutcome) (attempt bytes : ℕ) : List ℕ → List ℕ × ℕ × Bool × List (Effect F)
  | [] => ([], bytes, false, [])
  | len :: rest =>
    match sent attempt with
    | .ok =>
      let r := flushLoop sent (attempt + 1) (bytes - len) rest
      (r.1, r.2.1, r.2.2.1, .releaseRequestBuffer len :: r.2.2.2)
    | .full => (len :: rest, bytes, false, [])
    -- the popped chunk is dropped and `body_buf_bytes` still counts it
    | .closed => ([], 0, true, releaseAll bytes)

/-- the end of `flush_request_buffer`, after its loop -/
def flushTail (e : RequestExecutionState) : Option (RequestExecutionState × RequestBodyState) := do
  if ← e.shouldCloseRequestBodyForwarding then e.transitionRequestBodyForwardClosed
  else
    let (e, next) ← e.refreshRequestBodyState
    if next = .finReceived && e.bodyTx then e.transitionRequestBodyForwardClosed
    else pure (e, next)

/-- `flush_request_buffer`, its `try_send`s answered by `sent` -/
def flushRequestBuffer (sent : ℕ → SendOutcome) (e : RequestExecutionState) :
    Option (RequestExecutionState × List (Effect F) × RequestBodyState) :=
  if !e.bodyTx then e.refreshRequestBodyState.map fun (e, next) => (e, [], next)
  else do
    let rt ← e.requestBodyRuntime
    let r := flushLoop (F := F) sent 0 rt.bodyBufBytes rt.bodyBuf
    let e ← e.modifyRequestBodyRuntime fun rt => { rt with bodyBuf := r.1, bodyBufBytes := r.2.1 }
    let e ← if r.2.2.1 then e.transitionRequestBodyForwardClosed.map Prod.fst else some e
    let (e, next) ← flushTail e
    pure (e, r.2.2.2, next)

/-! ### The lifecycle transitions of `RequestEnvelope` -/

/-- `transition_awaiting_auth_to_dispatch_ready`, whose header mutations nothing here reads -/
def transitionAwaitingAuthToDispatchReady : RequestExecutionState → Option RequestExecutionState
  | .awaitingAuth b rt => some (.dispatchReady b rt)
  | _ => none

/-- `transition_to_admitted` -/
def transitionToAdmitted : RequestExecutionState → Option RequestExecutionState
  | .dispatchReady b rt => some (.admitted b rt)
  | _ => none

/-- `transition_admitted_to_awaiting_upstream`, handed a body sender when `bodyTx` -/
def transitionAdmittedToAwaitingUpstream (bodyTx : Bool) : RequestExecutionState → Option RequestExecutionState
  | .admitted _ rt =>
    let tx := if rt.requestFinReceived && rt.bodyBuf.isEmpty then false else bodyTx
    some (.awaitingUpstream (.fromRuntime rt.requestFinReceived (!rt.bodyBuf.isEmpty) tx) rt tx ⟨false⟩)
  | _ => none

/-- `transition_to_streaming_response` -/
def transitionToStreamingResponse : RequestExecutionState → Option RequestExecutionState
  | .awaitingUpstream _ rt _ a => some (.streamingResponse rt a)
  | _ => none

/-! ### What the chunk operations leave alone -/

/-- the stage of a request: its variant, with the backend accounting and the terminal state, which the chunk
operations never change -/
inductive Stage where
  | intake
  | awaitingAuth
  | dispatchReady
  | admitted
  | awaitingUpstream (backendAccounting : BackendAccountingState)
  | streamingResponse (backendAccounting : BackendAccountingState)
  | terminal (state : TerminalState)
deriving DecidableEq, Repr

/-- the stage of an execution state -/
def stage : RequestExecutionState → Stage
  | .intake _ => .intake
  | .awaitingAuth .. => .awaitingAuth
  | .dispatchReady .. => .dispatchReady
  | .admitted .. => .admitted
  | .awaitingUpstream _ _ _ a => .awaitingUpstream a
  | .streamingResponse _ a => .streamingResponse a
  | .terminal t => .terminal t

/-- the buffered chunks and `body_buf_bytes`, where the state has a body runtime -/
def buffer (e : RequestExecutionState) : Option (List ℕ × ℕ) :=
  e.requestBodyRuntime.map fun rt => (rt.bodyBuf, rt.bodyBufBytes)

theorem buffer_eq_of_runtime {e : RequestExecutionState} {rt : RequestBodyRuntime}
    (h : e.requestBodyRuntime = some rt) : e.buffer = some (rt.bodyBuf, rt.bodyBufBytes) := by
  simp [buffer, h]

/-- `body_buf_bytes` counts the bytes of the chunks in `body_buf` -/
def BufferConsistent (e : RequestExecutionState) : Prop :=
  ∀ chunks bytes, e.buffer = some (chunks, bytes) → bytes = chunks.sum

/-- `e'` is `e` up to the body state, the request's `request_fin_received` and its body sender -/
structure Keeps (e e' : RequestExecutionState) : Prop where
  stage : e'.stage = e.stage
  buffer : e'.buffer = e.buffer

theorem Keeps.refl (e : RequestExecutionState) : Keeps e e := ⟨rfl, rfl⟩

theorem Keeps.trans {e₁ e₂ e₃ : RequestExecutionState} (h₁ : Keeps e₁ e₂) (h₂ : Keeps e₂ e₃) : Keeps e₁ e₃ :=
  ⟨h₂.stage.trans h₁.stage, h₂.buffer.trans h₁.buffer⟩

theorem bufferedRequestBodyBytes_eq (e : RequestExecutionState) :
    e.bufferedRequestBodyBytes = (e.buffer.map Prod.snd).getD 0 := by
  cases e <;> rfl

theorem Keeps.bufferedRequestBodyBytes {e e' : RequestExecutionState} (h : Keeps e e') :
    e'.bufferedRequestBodyBytes = e.bufferedRequestBodyBytes := by
  rw [bufferedRequestBodyBytes_eq, bufferedRequestBodyBytes_eq, h.buffer]

theorem Keeps.bufferConsistent {e e' : RequestExecutionState} (h : Keeps e e') (hc : e.BufferConsistent) :
    e'.BufferConsistent := by
  intro chunks bytes hb
  exact hc chunks bytes (h.buffer ▸ hb)

/-- a change through `request_body_runtime_mut` keeps the stage and the sender, and changes the runtime by `f` -/
theorem modifyRequestBodyRuntime_eq_some {f : RequestBodyRuntime → RequestBodyRuntime}
    {e e' : RequestExecutionState} (h : e.modifyRequestBodyRuntime f = some e') :
    ∃ rt, e.requestBodyRuntime = some rt ∧ e'.requestBodyRuntime = some (f rt) ∧ e'.stage = e.stage ∧
      e'.bodyTx = e.bodyTx := by
  cases e <;> simp only [modifyRequestBodyRuntime, Option.some.injEq, reduceCtorEq] at h <;> subst h <;>
    exact ⟨_, rfl, rfl, rfl, rfl⟩

@[simp] theorem stage_withRequestBody (next : RequestBodyState) (e : RequestExecutionState) :
    (e.withRequestBody next).stage = e.stage := by
  cases e <;> rfl

@[simp] theorem requestBodyRuntime_withRequestBody (next : RequestBodyState) (e : RequestExecutionState) :
    (e.withRequestBody next).requestBodyRuntime = e.requestBodyRuntime := by
  cases e <;> rfl

@[simp] theorem bodyTx_withRequestBody (next : RequestBodyState) (e : RequestExecutionState) :
    (e.withRequestBody next).bodyTx = e.bodyTx := by
  cases e <;> rfl

@[simp] theorem stage_dropBodyTx (e : RequestExecutionState) : e.dropBodyTx.stage = e.stage := by
  cases e <;> rfl

@[simp] theorem requestBodyRuntime_dropBodyTx (e : RequestExecutionState) :
    e.dropBodyTx.requestBodyRuntime = e.requestBodyRuntime := by
  cases e <;> rfl

theorem setRequestBodyState_keeps {next : RequestBodyState} {e e' : RequestExecutionState}
    (h : e.setRequestBodyState next = some e') : Keeps e e' := by
  obtain ⟨e₁, h₁, rfl⟩ := Option.map_eq_some_iff.1 h
  obtain ⟨rt, hrt, hrt₁, hstage, -⟩ := modifyRequestBodyRuntime_eq_some h₁
  exact ⟨by simp [hstage], by simp [buffer, hrt, hrt₁]⟩

theorem refreshRequestBodyState_keeps {e : RequestExecutionState} {r : RequestExecutionState × RequestBodyState}
    (h : e.refreshRequestBodyState = some r) : Keeps e r.1 := by
  simp only [refreshRequestBodyState, Option.bind_eq_bind, Option.bind_eq_some_iff, Option.pure_def,
    Option.some.injEq] at h
  obtain ⟨rt, -, e₁, h₁, rfl⟩ := h
  exact setRequestBodyState_keeps h₁

theorem transitionRequestBodyBuffered_keeps {e : RequestExecutionState} {r : RequestExecutionState × RequestBodyState}
    (h : e.transitionRequestBodyBuffered = some r) : Keeps e r.1 := by
  simp only [transitionRequestBodyBuffered, Option.bind_eq_bind, Option.bind_eq_some_iff, Option.pure_def,
    Option.some.injEq] at h
  obtain ⟨e₁, h₁, rfl⟩ := h
  exact setRequestBodyState_keeps h₁

theorem clearBodyTx_keeps {e e' : RequestExecutionState} (h : e.clearBodyTx = some e') : Keeps e e' := by
  obtain ⟨r, hr, rfl⟩ := Option.map_eq_some_iff.1 h
  have hdrop : Keeps e e.dropBodyTx := ⟨by simp, by simp [buffer]⟩
  exact hdrop.trans (refreshRequestBodyState_keeps hr)

theorem transitionRequestBodyForwardClosed_keeps {e : RequestExecutionState}
    {r : RequestExecutionState × RequestBodyState} (h : e.transitionRequestBodyForwardClosed = some r) :
    Keeps e r.1 := by
  simp only [transitionRequestBodyForwardClosed, Option.bind_eq_bind, Option.bind_eq_some_iff] at h
  obtain ⟨e₁, h₁, h₂⟩ := h
  exact (clearBodyTx_keeps h₁).trans (refreshRequestBodyState_keeps h₂)

theorem flushTail_keeps {e : RequestExecutionState} {r : RequestExecutionState × RequestBodyState}
    (h : flushTail e = some r) : Keeps e r.1 := by
  simp only [flushTail, Option.bind_eq_bind, Option.bind_eq_some_iff] at h
  obtain ⟨close, -, h⟩ := h
  cases close with
  | true => exact transitionRequestBodyForwardClosed_keeps h
  | false =>
    simp only [Bool.false_eq_true, if_false, Option.bind_eq_some_iff] at h
    obtain ⟨⟨e₁, next⟩, h₁, h₂⟩ := h
    have hk := refreshRequestBodyState_keeps h₁
    split at h₂
    · exact hk.trans (transitionRequestBodyForwardClosed_keeps h₂)
    · cases h₂
      exact hk

/-- what the chunk operations guarantee: the stage stays, `body_buf_bytes` keeps counting the chunks, the effects are
reservations and releases only, and they take a count of `rest` plus the request's bytes to `rest` plus its new bytes,
so that no release takes more than the request holds -/
structure ChunkSpec (e e' : RequestExecutionState) (fx : List (Effect F)) : Prop where
  stage : e'.stage = e.stage
  consistent : e.BufferConsistent → e'.BufferConsistent
  noPoolCall : ∀ x ∈ fx, x.isPoolCall = false
  count : ∀ rest, e.BufferConsistent →
    fx.foldl Effect.onCount (rest + e.bufferedRequestBodyBytes) = rest + e'.bufferedRequestBodyBytes

theorem Keeps.chunkSpec {e e' : RequestExecutionState} (h : Keeps e e') : ChunkSpec (F := F) e e' [] where
  stage := h.stage
  consistent := h.bufferConsistent
  noPoolCall := by simp
  count := by simp [h.bufferedRequestBodyBytes]

theorem checkedRequestBodyIngress_eq_ok {maxBody maxBuffered received buffered next : ℕ} {declared : Option ℕ}
    {exempt : Bool} {r : RequestBodyIngressState}
    (h : checkedRequestBodyIngress maxBody maxBuffered received buffered next declared exempt = .ok r) :
    r = ⟨received + next, buffered + next⟩ := by
  unfold checkedRequestBodyIngress at h
  split at h
  · cases h
    rfl
  · cases h

/-- the loop of `flush_request_buffer` only releases -/
theorem flushLoop_noPoolCall (sent : ℕ → SendOutcome) (attempt bytes : ℕ) (chunks : List ℕ) :
    ∀ x ∈ (flushLoop (F := F) sent attempt bytes chunks).2.2.2, x.isPoolCall = false := by
  induction chunks generalizing attempt bytes with
  | nil => simp [flushLoop]
  | cons len chunks ih =>
    unfold flushLoop
    cases sent attempt with
    | ok => simpa [Effect.isPoolCall] using ih (attempt + 1) (bytes - len)
    | full => simp
    | closed => exact releaseAll_noPoolCall bytes

/-- the loop of `flush_request_buffer` releases exactly what leaves the buffer: the chunks it sends, or on a closed
channel everything counted -/
theorem flushLoop_spec {sent : ℕ → SendOutcome} {attempt : ℕ} {chunks left : List ℕ} {bytes : ℕ} {closed : Bool}
    {fx : List (Effect F)} (h : flushLoop sent attempt chunks.sum chunks = (left, bytes, closed, fx)) (rest : ℕ) :
    bytes = left.sum ∧ fx.foldl Effect.onCount (rest + chunks.sum) = rest + bytes := by
  induction chunks generalizing attempt left bytes closed fx with
  | nil =>
    simp only [flushLoop, List.sum_nil, Prod.mk.injEq] at h
    obtain ⟨rfl, rfl, -, rfl⟩ := h
    simp
  | cons len chunks ih =>
    rw [List.sum_cons] at h ⊢
    unfold flushLoop at h
    cases hs : sent attempt with
    | ok =>
      rw [hs] at h
      simp only [Nat.add_sub_cancel_left, Prod.mk.injEq] at h
      obtain ⟨rfl, rfl, -, rfl⟩ := h
      obtain ⟨hbytes, hcount⟩ := @ih (attempt + 1) _ _ _ _ rfl
      refine ⟨hbytes, ?_⟩
      rw [List.foldl_cons, Effect.onCount, ← Nat.add_assoc, Nat.add_right_comm, Nat.add_sub_cancel, hcount]
    | full =>
      rw [hs] at h
      simp only [Prod.mk.injEq] at h
      obtain ⟨rfl, rfl, -, rfl⟩ := h
      simp
    | closed =>
      rw [hs] at h
      simp only [Prod.mk.injEq] at h
      obtain ⟨rfl, rfl, -, rfl⟩ := h
      exact ⟨rfl, releaseAll_onCount rest _⟩

/-- a chunk reserved and then released again changes nothing -/
theorem reserveRelease_chunkSpec (e : RequestExecutionState) (chunk : ℕ) :
    ChunkSpec (F := F) e e [.reserveRequestBuffer chunk, .releaseRequestBuffer chunk] where
  stage := rfl
  consistent := id
  noPoolCall := by simp [Effect.isPoolCall]
  count := by simp [Effect.onCount]

theorem pushRequestChunk_spec {maxBody cap count chunk : ℕ} {e e' : RequestExecutionState} {fx : List (Effect F)}
    {r : Except RequestBufferError Unit} (h : e.pushRequestChunk maxBody cap count chunk = some (e', fx, r)) :
    ChunkSpec e e' fx := by
  unfold pushRequestChunk at h
  split at h
  · -- the reservation fails
    cases h
    exact (Keeps.refl e).chunkSpec
  simp only [Option.bind_eq_bind, Option.bind_eq_some_iff] at h
  obtain ⟨rt, hrt, h⟩ := h
  split at h
  · cases h
    exact reserveRelease_chunkSpec e chunk
  · cases h
    exact reserveRelease_chunkSpec e chunk
  · cases h
  -- the chunk is taken: counted, then buffered
  rename_i next hnext
  simp only [Option.bind_eq_some_iff] at h
  obtain ⟨e₁, h₁, e₂, h₂, ⟨e₃, b₃⟩, h₃, h⟩ := h
  simp only [Option.pure_def, Option.some.injEq, Prod.mk.injEq] at h
  obtain ⟨rfl, rfl, -⟩ := h
  obtain ⟨rt₁, hrt₁, hrt₁', hstage₁, -⟩ := modifyRequestBodyRuntime_eq_some h₁
  obtain ⟨rt₂, hrt₂, hrt₂', hstage₂, -⟩ := modifyRequestBodyRuntime_eq_some h₂
  have hk := transitionRequestBodyBuffered_keeps h₃
  rw [hrt, Option.some.injEq] at hrt₁
  rw [hrt₁', Option.some.injEq] at hrt₂
  subst hrt₁ hrt₂
  have hbuf : e₃.buffer = some (rt.bodyBuf ++ [chunk], rt.bodyBufBytes + chunk) := by
    rw [hk.buffer, buffer_eq_of_runtime hrt₂', checkedRequestBodyIngress_eq_ok hnext]
  refine ⟨?_, ?_, ?_, ?_⟩
  · rw [hk.stage, hstage₂, hstage₁]
  · intro hc chunks bytes hb
    rw [hbuf, Option.some.injEq, Prod.mk.injEq] at hb
    rw [← hb.1, ← hb.2, List.sum_append, ← hc _ _ (buffer_eq_of_runtime hrt), List.sum_singleton]
  · simp [Effect.isPoolCall]
  · intro rest _
    rw [bufferedRequestBodyBytes_eq, bufferedRequestBodyBytes_eq, hbuf, buffer_eq_of_runtime hrt]
    simp [Effect.onCount, Nat.add_assoc]

/-- dropping the whole buffer and releasing what it counted -/
theorem cleared_chunkSpec {e e' : RequestExecutionState} {chunks : List ℕ} {bytes : ℕ}
    (hb : e.buffer = some (chunks, bytes)) (hstage : e'.stage = e.stage) (hb' : e'.buffer = some ([], 0)) :
    ChunkSpec (F := F) e e' (releaseAll bytes) where
  stage := hstage
  consistent := by
    intro _ chunks' bytes' hb''
    rw [hb', Option.some.injEq, Prod.mk.injEq] at hb''
    rw [← hb''.1, ← hb''.2, List.sum_nil]
  noPoolCall := releaseAll_noPoolCall bytes
  count := by
    intro rest _
    rw [bufferedRequestBodyBytes_eq, bufferedRequestBodyBytes_eq, hb, hb']
    simpa using releaseAll_onCount rest bytes

theorem enqueueRequestChunk_spec {maxBody cap count chunk : ℕ} {sent : SendOutcome} {e e' : RequestExecutionState}
    {fx : List (Effect F)} {r : Except RequestBufferError Unit}
    (h : e.enqueueRequestChunk maxBody cap count chunk sent = some (e', fx, r)) : ChunkSpec e e' fx := by
  unfold enqueueRequestChunk at h
  split at h
  · cases h
    exact (Keeps.refl e).chunkSpec
  split at h
  · cases sent with
    | ok =>
      cases h
      exact (Keeps.refl e).chunkSpec
    | full => exact pushRequestChunk_spec h
    | closed =>
      -- the channel is closed: everything buffered is dropped and released
      simp only [Option.bind_eq_bind, Option.bind_eq_some_iff] at h
      obtain ⟨rt, hrt, e₁, h₁, e₂, h₂, ⟨e₃, b₃⟩, h₃, h⟩ := h
      simp only [Option.pure_def, Option.some.injEq, Prod.mk.injEq] at h
      obtain ⟨rfl, rfl, -⟩ := h
      obtain ⟨rt₁, hrt₁, hrt₁', hstage₁, -⟩ := modifyRequestBodyRuntime_eq_some h₁
      obtain ⟨rt₂, hrt₂, hrt₂', hstage₂, -⟩ := modifyRequestBodyRuntime_eq_some h₂
      have hk := transitionRequestBodyForwardClosed_keeps h₃
      rw [hrt, Option.some.injEq] at hrt₁
      rw [hrt₁', Option.some.injEq] at hrt₂
      subst hrt₁ hrt₂
      refine cleared_chunkSpec (buffer_eq_of_runtime hrt) ?_ ?_
      · rw [hk.stage, hstage₂, hstage₁]
      · rw [hk.buffer, buffer_eq_of_runtime hrt₂']
  · exact pushRequestChunk_spec h

theorem flushRequestBuffer_spec {sent : ℕ → SendOutcome} {e e' : RequestExecutionState} {fx : List (Effect F)}
    {next : RequestBodyState} (h : e.flushRequestBuffer sent = some (e', fx, next)) : ChunkSpec e e' fx := by
  unfold flushRequestBuffer at h
  split at h
  · -- no body sender: only the body state is refreshed
    obtain ⟨⟨e₁, n₁⟩, h₁, h⟩ := Option.map_eq_some_iff.1 h
    simp only [Prod.mk.injEq] at h
    obtain ⟨rfl, rfl, -⟩ := h
    exact (refreshRequestBodyState_keeps h₁).chunkSpec
  simp only [Option.bind_eq_bind, Option.bind_eq_some_iff] at h
  obtain ⟨rt, hrt, h⟩ := h
  rcases hloop : flushLoop (F := F) sent 0 rt.bodyBufBytes rt.bodyBuf with ⟨left, bytes, closed, fx'⟩
  simp only [hloop] at h
  obtain ⟨e₁, h₁, h⟩ := h
  obtain ⟨rt₁, hrt₁, hrt₁', hstage₁, -⟩ := modifyRequestBodyRuntime_eq_some h₁
  rw [hrt, Option.some.injEq] at hrt₁
  subst hrt₁
  -- closing the forward on a closed channel, and the tail, keep the stage and the buffer the loop left
  obtain ⟨e₂, hk, h⟩ : ∃ e₂, Keeps e₁ e₂ ∧
      (e₂.flushTail.bind fun a => pure (a.1, fx', a.2)) = some (e', fx, next) := by
    cases closed with
    | true =>
      simp only [if_true, Option.bind_eq_some_iff] at h
      obtain ⟨e₂, h₂, h⟩ := h
      obtain ⟨r, hr, rfl⟩ := Option.map_eq_some_iff.1 h₂
      exact ⟨r.1, transitionRequestBodyForwardClosed_keeps hr, Option.bind_eq_some_iff.2 h⟩
    | false =>
      simp only [Bool.false_eq_true, if_false, Option.bind_some] at h
      exact ⟨e₁, Keeps.refl _, h⟩
  simp only [Option.bind_eq_some_iff, Option.pure_def, Option.some.injEq, Prod.mk.injEq] at h
  obtain ⟨⟨e₃, n₃⟩, h₃, rfl, rfl, -⟩ := h
  have hk' := hk.trans (flushTail_keeps h₃)
  have hbuf : e₃.buffer = some (left, bytes) := by
    rw [hk'.buffer, buffer_eq_of_runtime hrt₁']
  have hb₀ := buffer_eq_of_runtime hrt
  refine ⟨?_, ?_, ?_, ?_⟩
  · rw [hk'.stage, hstage₁]
  · intro hc chunks bytes' hb
    rw [hc _ _ hb₀] at hloop
    rw [hbuf, Option.some.injEq, Prod.mk.injEq] at hb
    rw [← hb.1, ← hb.2]
    exact (flushLoop_spec hloop 0).1
  · have hpool := flushLoop_noPoolCall (F := F) sent 0 rt.bodyBufBytes rt.bodyBuf
    rwa [hloop] at hpool
  · intro rest hc
    have hsum := hc _ _ hb₀
    rw [hsum] at hloop
    simp only [bufferedRequestBodyBytes_eq, hbuf, hb₀, Option.map_some, Option.getD_some, hsum]
    exact (flushLoop_spec hloop rest).2

/-! ### The moves of the stage -/

/-- the phase of a request at a stage -/
def Stage.phase : Stage → StreamPhase
  | .intake | .awaitingAuth | .dispatchReady | .admitted => .receivingRequest
  | .awaitingUpstream _ => .awaitingUpstream
  | .streamingResponse _ => .sendingResponse
  | .terminal t => if t.reason = .completed then .completed else .terminal

theorem phase_eq_stage_phase (e : RequestExecutionState) : e.phase = e.stage.phase := by
  cases e <;> rfl

theorem isEnded_terminal_phase (t : TerminalState) : (Stage.terminal t).phase.isEnded = true := by
  by_cases h : t.reason = .completed <;> simp [Stage.phase, h, StreamPhase.isEnded]

/-- whether a request at a stage would finalize its backend accounting -/
def Stage.shouldFinalize : Stage → Bool
  | .awaitingUpstream a | .streamingResponse a => a.shouldFinalize
  | .terminal t => t.shouldFinalizeBackendAccounting
  | .intake | .awaitingAuth | .dispatchReady | .admitted => false

theorem shouldFinalizeBackendAccounting_eq (e : RequestExecutionState) :
    e.shouldFinalizeBackendAccounting = e.stage.shouldFinalize := by
  cases e <;> rfl

theorem stage_ne_terminal {e : RequestExecutionState} (h : e.isTerminal = false) (t : TerminalState) :
    e.stage ≠ .terminal t := by
  cases e <;> simp_all [isTerminal, stage]

theorem stage_of_isTerminal {e : RequestExecutionState} (h : e.isTerminal = true) : ∃ t, e.stage = .terminal t := by
  cases e <;> simp_all [isTerminal, stage]

theorem bufferedRequestBodyBytes_of_isTerminal {e : RequestExecutionState} (h : e.isTerminal = true) :
    e.bufferedRequestBodyBytes = 0 := by
  cases e <;> simp_all [isTerminal, bufferedRequestBodyBytes]

/-- the moves of the stage that call no pool: staying, and the lifecycle transitions other than the dispatch -/
inductive QuietMove : Stage → Stage → Prop where
  | stay (st : Stage) : QuietMove st st
  | authorized : QuietMove .awaitingAuth .dispatchReady
  | admitted : QuietMove .dispatchReady .admitted
  | streaming (a : BackendAccountingState) : QuietMove (.awaitingUpstream a) (.streamingResponse a)

theorem transitionAwaitingAuthToDispatchReady_eq_some {e e' : RequestExecutionState}
    (h : e.transitionAwaitingAuthToDispatchReady = some e') : QuietMove e.stage e'.stage ∧ e'.buffer = e.buffer := by
  cases e <;> simp only [transitionAwaitingAuthToDispatchReady, Option.some.injEq, reduceCtorEq] at h
  subst h
  exact ⟨.authorized, rfl⟩

theorem transitionToAdmitted_eq_some {e e' : RequestExecutionState} (h : e.transitionToAdmitted = some e') :
    QuietMove e.stage e'.stage ∧ e'.buffer = e.buffer := by
  cases e <;> simp only [transitionToAdmitted, Option.some.injEq, reduceCtorEq] at h
  subst h
  exact ⟨.admitted, rfl⟩

theorem transitionToStreamingResponse_eq_some {e e' : RequestExecutionState}
    (h : e.transitionToStreamingResponse = some e') : QuietMove e.stage e'.stage ∧ e'.buffer = e.buffer := by
  cases e <;> simp only [transitionToStreamingResponse, Option.some.injEq, reduceCtorEq] at h
  subst h
  exact ⟨.streaming _, rfl⟩

/-- the dispatch starts the backend accounting unfinalized -/
theorem transitionAdmittedToAwaitingUpstream_eq_some {bodyTx : Bool} {e e' : RequestExecutionState}
    (h : e.transitionAdmittedToAwaitingUpstream bodyTx = some e') :
    e.stage = .admitted ∧ e'.stage = .awaitingUpstream ⟨false⟩ ∧ e'.buffer = e.buffer := by
  cases e <;> simp only [transitionAdmittedToAwaitingUpstream, Option.some.injEq, reduceCtorEq] at h
  subst h
  exact ⟨rfl, rfl, rfl⟩

end RequestExecutionState

/-! ## The envelope -/

/-- `RequestEnvelope`, with the fields the operations here read; the pool is named by its identity -/
structure RequestEnvelope where
  backendIndex : Option ℕ
  /-- `pending_forward.backend_index`, what post-auth admission falls back to without a `backend_index` -/
  pendingBackendIndex : ℕ
  upstreamPool : Option ℕ
  responseStatus : Option ℕ
  terminalOutcomeRecorded : Bool
  execution : RequestExecutionState
deriving DecidableEq, Repr

/-- `http::StatusCode::from_u16(status).ok()` -/
def statusCodeFromU16 (status : ℕ) : Option ℕ := if 100 ≤ status ∧ status < 1000 then some status else none

/-- an operation of a request: one of its lifecycle transitions or chunk operations -/
inductive RequestOp (F : Type) where
  | transitionAwaitingAuthToDispatchReady
  | transitionToAdmitted
  | beginAndDispatch (bodyTx : Bool)
  | transitionToStreamingResponse
  | pushRequestChunk (chunk : ℕ)
  | enqueueRequestChunk (chunk : ℕ) (sent : SendOutcome)
  | flushRequestBuffer (sent : ℕ → SendOutcome)
  | transitionToTerminalWithCleanup (reason : TerminalReason) (elapsed : F)

/-- the listener's limits on request bodies, `max_request_body_bytes` and `request_buffer_global_cap_bytes` -/
structure BufferLimits where
  maxRequestBodyBytes : ℕ
  requestBufferGlobalCapBytes : ℕ

namespace RequestEnvelope

/-- `from_dispatch_ready_state` -/
def fromDispatchReadyState (requestBody : RequestBodyState) (runtime : RequestBodyRuntime)
    (routingBackendIndex pendingBackendIndex upstreamPool : ℕ) : RequestEnvelope :=
  ⟨some routingBackendIndex, pendingBackendIndex, some upstreamPool, none, false, .dispatchReady requestBody runtime⟩

/-- `from_awaiting_auth_state` -/
def fromAwaitingAuthState (requestBody : RequestBodyState) (runtime : RequestBodyRuntime)
    (routingBackendIndex pendingBackendIndex upstreamPool : ℕ) : RequestEnvelope :=
  ⟨some routingBackendIndex, pendingBackendIndex, some upstreamPool, none, false, .awaitingAuth requestBody runtime⟩

/-- `terminal_snapshot` -/
def terminalSnapshot (env : RequestEnvelope) : TerminalSnapshot where
  responseStatus := env.responseStatus.bind statusCodeFromU16
  backendAccounting :=
    match env.execution with
    | .awaitingUpstream _ _ _ a | .streamingResponse _ a => some a
    | _ => none

/-- `transition_to_terminal_with_cleanup`, at `elapsed` seconds from the request's start -/
def transitionToTerminalWithCleanup (reason : TerminalReason) (elapsed : F) (env : RequestEnvelope) :
    RequestEnvelope × List (Effect F) :=
  if env.execution.isTerminal then (env, [])
  else
    let snapshot := env.terminalSnapshot
    let observed : List (Effect F) := if !env.terminalOutcomeRecorded then [.observeTerminalRequestOutcome] else []
    let finalizeStatus := ((reason.terminalStatus snapshot).or snapshot.responseStatus).getD 503
    -- `finalize_backend_request_cleanup`, which calls the pool only with both a pool and an index
    let finished : List (Effect F) :=
      if env.execution.shouldFinalizeBackendAccounting then
        match env.upstreamPool, env.backendIndex with
        | some pool, some index => [.finishRequest pool index elapsed (some finalizeStatus)]
        | _, _ => []
      else []
    let buffered := env.execution.bufferedRequestBodyBytes
    ({ env with terminalOutcomeRecorded := true, execution := .terminal ⟨reason, snapshot⟩ },
      observed ++ finished ++ RequestExecutionState.releaseAll buffered)

/-- `begin_request_for_accounting` on the pool and index post-auth admission returns, then
`transition_admitted_to_awaiting_upstream` -/
def beginAndDispatch (bodyTx : Bool) (env : RequestEnvelope) : Option (RequestEnvelope × List (Effect F)) :=
  let begun : List (Effect F) :=
    match env.upstreamPool with
    | some pool => [.beginRequest pool (env.backendIndex.getD env.pendingBackendIndex)]
    | none => []
  (env.execution.transitionAdmittedToAwaitingUpstream bodyTx).map fun x => ({ env with execution := x }, begun)

/-- one operation of the request, with the shared count at `requestBufferedBytes` -/
def apply (limits : BufferLimits) (requestBufferedBytes : ℕ) (env : RequestEnvelope) :
    RequestOp F → Option (RequestEnvelope × List (Effect F))
  | .transitionAwaitingAuthToDispatchReady =>
    env.execution.transitionAwaitingAuthToDispatchReady.map fun x => ({ env with execution := x }, [])
  | .transitionToAdmitted => env.execution.transitionToAdmitted.map fun x => ({ env with execution := x }, [])
  | .beginAndDispatch bodyTx => env.beginAndDispatch bodyTx
  | .transitionToStreamingResponse =>
    env.execution.transitionToStreamingResponse.map fun x => ({ env with execution := x }, [])
  | .pushRequestChunk chunk =>
    (env.execution.pushRequestChunk limits.maxRequestBodyBytes limits.requestBufferGlobalCapBytes
      requestBufferedBytes chunk).map fun r => ({ env with execution := r.1 }, r.2.1)
  | .enqueueRequestChunk chunk sent =>
    (env.execution.enqueueRequestChunk limits.maxRequestBodyBytes limits.requestBufferGlobalCapBytes
      requestBufferedBytes chunk sent).map fun r => ({ env with execution := r.1 }, r.2.1)
  | .flushRequestBuffer sent => (env.execution.flushRequestBuffer sent).map fun r => ({ env with execution := r.1 }, r.2.1)
  | .transitionToTerminalWithCleanup reason elapsed => some (env.transitionToTerminalWithCleanup reason elapsed)

/-- an operation that only replaces the execution state, with the effects `out` of what it computed -/
theorem map_execution_eq_some {α : Type} {o : Option α} {g : α → RequestExecutionState} {out : α → List (Effect F)}
    {env env' : RequestEnvelope} {fx : List (Effect F)}
    (h : o.map (fun a => ({ env with execution := g a }, out a)) = some (env', fx)) :
    ∃ a, o = some a ∧ env' = { env with execution := g a } ∧ fx = out a := by
  obtain ⟨a, ha, h⟩ := Option.map_eq_some_iff.1 h
  simp only [Prod.mk.injEq] at h
  exact ⟨a, ha, h.1.symm, h.2.symm⟩

open RequestExecutionState in
/-- a chunk operation calls no pool and stays at its stage -/
theorem quiet_of_chunkSpec {e e' : RequestExecutionState} {fx : List (Effect F)} (h : ChunkSpec e e' fx) :
    QuietMove e.stage e'.stage ∧ fx.filter Effect.isPoolCall = [] := by
  refine ⟨h.stage ▸ QuietMove.stay _, List.filter_eq_nil_iff.2 fun x hx => ?_⟩
  simp [h.noPoolCall x hx]

open RequestExecutionState in
/-- what one operation of a request can do to its stage and its pool: a quiet move, the dispatch with its begin, or
the first terminal transition with its finish where the backend accounting asks for one -/
theorem apply_cases {limits : BufferLimits} {count : ℕ} {op : RequestOp F} {env env' : RequestEnvelope}
    {fx : List (Effect F)} {pool index : ℕ} (hpool : env.upstreamPool = some pool)
    (hindex : env.backendIndex = some index) (h : env.apply limits count op = some (env', fx)) :
    (QuietMove env.execution.stage env'.execution.stage ∧ fx.filter Effect.isPoolCall = []) ∨
      (env.execution.stage = .admitted ∧ env'.execution.stage = .awaitingUpstream ⟨false⟩ ∧
        fx.filter Effect.isPoolCall = [.beginRequest pool index]) ∨
      (env.execution.isTerminal = false ∧ (∃ t, env'.execution.stage = .terminal t) ∧
        ∃ latency status, fx.filter Effect.isPoolCall =
          if env.execution.shouldFinalizeBackendAccounting then [.finishRequest pool index latency status] else []) := by
  cases op with
  | transitionAwaitingAuthToDispatchReady =>
    obtain ⟨x, hx, rfl, rfl⟩ := map_execution_eq_some h
    exact .inl ⟨(transitionAwaitingAuthToDispatchReady_eq_some hx).1, rfl⟩
  | transitionToAdmitted =>
    obtain ⟨x, hx, rfl, rfl⟩ := map_execution_eq_some h
    exact .inl ⟨(transitionToAdmitted_eq_some hx).1, rfl⟩
  | beginAndDispatch bodyTx =>
    obtain ⟨x, hx, rfl, rfl⟩ := map_execution_eq_some h
    obtain ⟨hadm, hup, -⟩ := transitionAdmittedToAwaitingUpstream_eq_some hx
    exact .inr (.inl ⟨hadm, hup, by simp [hpool, hindex, Effect.isPoolCall]⟩)
  | transitionToStreamingResponse =>
    obtain ⟨x, hx, rfl, rfl⟩ := map_execution_eq_some h
    exact .inl ⟨(transitionToStreamingResponse_eq_some hx).1, rfl⟩
  | pushRequestChunk chunk =>
    obtain ⟨⟨x, fx', r⟩, hx, rfl, rfl⟩ := map_execution_eq_some h
    exact .inl (quiet_of_chunkSpec (pushRequestChunk_spec hx))
  | enqueueRequestChunk chunk sent =>
    obtain ⟨⟨x, fx', r⟩, hx, rfl, rfl⟩ := map_execution_eq_some h
    exact .inl (quiet_of_chunkSpec (enqueueRequestChunk_spec hx))
  | flushRequestBuffer sent =>
    obtain ⟨⟨x, fx', r⟩, hx, rfl, rfl⟩ := map_execution_eq_some h
    exact .inl (quiet_of_chunkSpec (flushRequestBuffer_spec hx))
  | transitionToTerminalWithCleanup reason elapsed =>
    simp only [apply, Option.some.injEq] at h
    unfold transitionToTerminalWithCleanup at h
    split at h
    · -- already terminal: nothing happens
      simp only [Prod.mk.injEq] at h
      obtain ⟨rfl, rfl⟩ := h
      exact .inl ⟨.stay _, rfl⟩
    · rename_i hnt
      simp only [Prod.mk.injEq] at h
      obtain ⟨rfl, rfl⟩ := h
      refine .inr (.inr ⟨by simpa using hnt, ⟨_, rfl⟩, elapsed,
        some (((reason.terminalStatus env.terminalSnapshot).or env.terminalSnapshot.responseStatus).getD 503), ?_⟩)
      simp only [hpool, hindex, releaseAll, List.filter_append]
      -- the outcome observation and the release are no pool calls
      split <;> split <;> split <;> simp [Effect.isPoolCall]

/-- an operation changes neither the request's pool nor its backend index -/
theorem apply_frame {limits : BufferLimits} {count : ℕ} {op : RequestOp F} {env env' : RequestEnvelope}
    {fx : List (Effect F)} (h : env.apply limits count op = some (env', fx)) :
    env'.upstreamPool = env.upstreamPool ∧ env'.backendIndex = env.backendIndex := by
  cases op <;> simp only [apply, beginAndDispatch, Option.map_eq_some_iff, Option.some.injEq] at h
  case transitionToTerminalWithCleanup reason elapsed =>
    unfold transitionToTerminalWithCleanup at h
    split at h <;> simp only [Prod.mk.injEq] at h <;> obtain ⟨rfl, -⟩ := h <;> exact ⟨rfl, rfl⟩
  all_goals
    obtain ⟨x, -, h⟩ := h
    simp only [Prod.mk.injEq] at h
    obtain ⟨rfl, -⟩ := h
    exact ⟨rfl, rfl⟩

open RequestExecutionState in
/-- what keeps the buffer keeps its consistency and its bytes -/
theorem count_of_buffer_eq {e e' : RequestExecutionState} (h : e'.buffer = e.buffer) (hc : e.BufferConsistent) :
    e'.BufferConsistent ∧ e'.bufferedRequestBodyBytes = e.bufferedRequestBodyBytes :=
  ⟨fun c b hb => hc c b (h ▸ hb), by rw [bufferedRequestBodyBytes_eq, bufferedRequestBodyBytes_eq, h]⟩

open RequestExecutionState in
/-- an operation moves the shared count by exactly the change of the request's buffered bytes -/
theorem apply_count {limits : BufferLimits} {count : ℕ} {op : RequestOp F} {env env' : RequestEnvelope}
    {fx : List (Effect F)} (h : env.apply limits count op = some (env', fx)) (hc : env.execution.BufferConsistent) :
    env'.execution.BufferConsistent ∧ ∀ rest,
      fx.foldl Effect.onCount (rest + env.execution.bufferedRequestBodyBytes) =
        rest + env'.execution.bufferedRequestBodyBytes := by
  cases op with
  | transitionAwaitingAuthToDispatchReady =>
    obtain ⟨x, hx, rfl, rfl⟩ := map_execution_eq_some h
    obtain ⟨hcx, hbx⟩ := count_of_buffer_eq (transitionAwaitingAuthToDispatchReady_eq_some hx).2 hc
    exact ⟨hcx, by simp [hbx]⟩
  | transitionToAdmitted =>
    obtain ⟨x, hx, rfl, rfl⟩ := map_execution_eq_some h
    obtain ⟨hcx, hbx⟩ := count_of_buffer_eq (transitionToAdmitted_eq_some hx).2 hc
    exact ⟨hcx, by simp [hbx]⟩
  | beginAndDispatch bodyTx =>
    obtain ⟨x, hx, rfl, rfl⟩ := map_execution_eq_some h
    obtain ⟨hcx, hbx⟩ := count_of_buffer_eq (transitionAdmittedToAwaitingUpstream_eq_some hx).2.2 hc
    refine ⟨hcx, fun rest => ?_⟩
    cases env.upstreamPool <;> simp [hbx, Effect.onCount]
  | transitionToStreamingResponse =>
    obtain ⟨x, hx, rfl, rfl⟩ := map_execution_eq_some h
    obtain ⟨hcx, hbx⟩ := count_of_buffer_eq (transitionToStreamingResponse_eq_some hx).2 hc
    exact ⟨hcx, by simp [hbx]⟩
  | pushRequestChunk chunk =>
    obtain ⟨⟨x, fx', r⟩, hx, rfl, rfl⟩ := map_execution_eq_some h
    have hs := pushRequestChunk_spec hx
    exact ⟨hs.consistent hc, fun rest => hs.count rest hc⟩
  | enqueueRequestChunk chunk sent =>
    obtain ⟨⟨x, fx', r⟩, hx, rfl, rfl⟩ := map_execution_eq_some h
    have hs := enqueueRequestChunk_spec hx
    exact ⟨hs.consistent hc, fun rest => hs.count rest hc⟩
  | flushRequestBuffer sent =>
    obtain ⟨⟨x, fx', r⟩, hx, rfl, rfl⟩ := map_execution_eq_some h
    have hs := flushRequestBuffer_spec hx
    exact ⟨hs.consistent hc, fun rest => hs.count rest hc⟩
  | transitionToTerminalWithCleanup reason elapsed =>
    simp only [apply, Option.some.injEq] at h
    unfold transitionToTerminalWithCleanup at h
    split at h
    · simp only [Prod.mk.injEq] at h
      obtain ⟨rfl, rfl⟩ := h
      exact ⟨hc, fun rest => rfl⟩
    · -- the terminal state holds no buffer: all it counted is released
      simp only [Prod.mk.injEq] at h
      obtain ⟨rfl, rfl⟩ := h
      refine ⟨fun _ _ hb => by simp [buffer, requestBodyRuntime] at hb, fun rest => ?_⟩
      generalize env.execution.bufferedRequestBodyBytes = bytes
      rw [List.foldl_append, List.foldl_append]
      -- the outcome observation and the finish leave the count alone
      split <;> split <;> (try split) <;> simp [Effect.onCount, releaseAll_onCount, bufferedRequestBodyBytes]

end RequestEnvelope

/-! ## The listener -/

/-- a request the listener created, with two ghosts: the calls it made on its upstream pool, and its phase after each
of its operations, from its creation on -/
structure Stream (F : Type) where
  envelope : RequestEnvelope
  poolCalls : List (Effect F)
  phases : List StreamPhase

/-- the stream after its request ran an operation into `env` with the effects `fx` -/
def Stream.advance (s : Stream F) (env : RequestEnvelope) (fx : List (Effect F)) : Stream F :=
  ⟨env, s.poolCalls ++ fx.filter Effect.isPoolCall, s.phases ++ [env.execution.phase]⟩

/-- the listener: the requests it created, the backend counters of each upstream pool, and
`request_buffered_bytes` -/
structure Listener (F : Type) where
  streams : List (Stream F)
  pools : List (List (BackendLoad F))
  requestBufferedBytes : ℕ

/-- what the listener's requests do -/
inductive ListenerAction (F : Type) where
  /-- a routed request is created, through external auth or straight to dispatch -/
  | accept (viaAuth : Bool) (requestBody : RequestBodyState) (routingBackendIndex pendingBackendIndex upstreamPool : ℕ)
  /-- the `k`-th request runs an operation -/
  | request (k : ℕ) (op : RequestOp F)
  /-- `release_connection_streams` on a connection whose requests are `ks`, `elapsed k` seconds after each start -/
  | releaseConnectionStreams (ks : List ℕ) (elapsed : ℕ → F)

section Shared

variable [Add F] [Mul F] [Sub F] [OfScientific F]

/-- what an effect does to the counters of the upstream pools -/
def Effect.onPools (pools : List (List (BackendLoad F))) : Effect F → List (List (BackendLoad F))
  | .beginRequest pool index => pools.modify pool (Lb.beginRequest index)
  | .finishRequest pool index latency status => pools.modify pool (Lb.finishRequest index latency status)
  | _ => pools

namespace Listener

/-- the effects of an operation, on the pools and on the count, which they touch apart -/
def applyEffects (l : Listener F) (fx : List (Effect F)) : Listener F :=
  { l with pools := fx.foldl Effect.onPools l.pools, requestBufferedBytes := fx.foldl Effect.onCount l.requestBufferedBytes }

/-- the `k`-th request runs `op`; its ghosts record its pool calls and its new phase -/
def runRequest (limits : BufferLimits) (l : Listener F) (k : ℕ) (op : RequestOp F) : Option (Listener F) := do
  let s ← l.streams[k]?
  let (env, fx) ← s.envelope.apply limits l.requestBufferedBytes op
  pure ({ l with streams := l.streams.set k (s.advance env fx) }.applyEffects fx)

/-- one action of the listener -/
def step (limits : BufferLimits) (l : Listener F) : ListenerAction F → Option (Listener F)
  | .accept viaAuth requestBody routingBackendIndex pendingBackendIndex upstreamPool =>
    let runtime := RequestBodyRuntime.candidate requestBody
    let env :=
      if viaAuth then
        RequestEnvelope.fromAwaitingAuthState requestBody runtime routingBackendIndex pendingBackendIndex upstreamPool
      else RequestEnvelope.fromDispatchReadyState requestBody runtime routingBackendIndex pendingBackendIndex upstreamPool
    some { l with streams := l.streams ++ [⟨env, [], [env.execution.phase]⟩] }
  | .request k op => l.runRequest limits k op
  | .releaseConnectionStreams ks elapsed =>
    ks.foldlM (fun l k => l.runRequest limits k (.transitionToTerminalWithCleanup .cancelled (elapsed k))) l

/-- a run of actions; `none` when one of them panics -/
def run (limits : BufferLimits) : Listener F → List (ListenerAction F) → Option (Listener F)
  | l, [] => some l
  | l, a :: actions => (l.step limits a).bind fun l' => l'.run limits actions

end Listener

end Shared

/-! ## What every request holds -/

namespace Stream

open RequestExecutionState

/-- the phases of a request before its first terminal transition -/
def upToEnd (phases : List StreamPhase) : List StreamPhase := phases.takeWhile fun ph => !ph.isEnded

/-- once a request has ended, the phases after do not change what came before its end -/
theorem upToEnd_append_of_ended {phases : List StreamPhase} (h : ∃ ph ∈ phases, ph.isEnded = true)
    (more : List StreamPhase) : upToEnd (phases ++ more) = upToEnd phases := by
  unfold upToEnd
  rw [List.takeWhile_append, if_neg]
  intro hlen
  obtain ⟨ph, hph, hend⟩ := h
  have hall := List.takeWhile_eq_self_iff.1 ((List.takeWhile_prefix _).eq_of_length hlen)
  simpa [hend] using hall ph hph

/-- the phases of a request that ends now are all it went through before -/
theorem upToEnd_append_ended {phases : List StreamPhase} (h : ∀ ph ∈ phases, ph.isEnded = false)
    {last : StreamPhase} (hlast : last.isEnded = true) : upToEnd (phases ++ [last]) = phases := by
  unfold upToEnd
  rw [List.takeWhile_append_of_pos (by simpa using h)]
  simp [hlast]

/-- what a request has called on the backend `index` of its upstream pool `pool`, in step with its stage and with
the phases it went through -/
def Accounted (pool index : ℕ) (poolCalls : List (Effect F)) (phases : List StreamPhase) : Stage → Prop
  | .intake => False
  | .awaitingAuth | .dispatchReady | .admitted => poolCalls = [] ∧ ∀ ph ∈ phases, ph = .receivingRequest
  | .awaitingUpstream a | .streamingResponse a =>
    a.finalized = false ∧ poolCalls = [.beginRequest pool index] ∧ StreamPhase.awaitingUpstream ∈ phases ∧
      ∀ ph ∈ phases, ph.isEnded = false
  | .terminal _ =>
    (∃ ph ∈ phases, ph.isEnded = true) ∧
      (poolCalls = [] ∧ StreamPhase.awaitingUpstream ∉ upToEnd phases ∨
        ∃ latency status, poolCalls = [.beginRequest pool index, .finishRequest pool index latency status] ∧
          StreamPhase.awaitingUpstream ∈ upToEnd phases)

section Accounted

variable {pool index : ℕ} {calls : List (Effect F)} {phases : List StreamPhase}

theorem Accounted.quiet {st st' : Stage} (hm : QuietMove st st') (h : Accounted pool index calls phases st) :
    Accounted pool index calls (phases ++ [st'.phase]) st' := by
  cases hm with
  | stay st =>
    cases st with
    | intake => exact h.elim
    | awaitingAuth | dispatchReady | admitted =>
      exact ⟨h.1, List.forall_mem_append.2 ⟨h.2, List.forall_mem_singleton.2 rfl⟩⟩
    | awaitingUpstream a | streamingResponse a =>
      obtain ⟨ha, hcalls, hmem, hall⟩ := h
      exact ⟨ha, hcalls, List.mem_append_left _ hmem, List.forall_mem_append.2 ⟨hall, List.forall_mem_singleton.2 rfl⟩⟩
    | terminal t =>
      obtain ⟨hend, hcalls⟩ := h
      obtain ⟨ph, hph, hph'⟩ := hend
      refine ⟨⟨ph, List.mem_append_left _ hph, hph'⟩, ?_⟩
      rw [upToEnd_append_of_ended ⟨ph, hph, hph'⟩]
      exact hcalls
  | authorized | admitted => exact ⟨h.1, List.forall_mem_append.2 ⟨h.2, List.forall_mem_singleton.2 rfl⟩⟩
  | streaming a =>
    obtain ⟨ha, hcalls, hmem, hall⟩ := h
    exact ⟨ha, hcalls, List.mem_append_left _ hmem, List.forall_mem_append.2 ⟨hall, List.forall_mem_singleton.2 rfl⟩⟩

theorem Accounted.dispatch (h : Accounted pool index calls phases .admitted) :
    Accounted pool index (calls ++ [.beginRequest pool index]) (phases ++ [StreamPhase.awaitingUpstream])
      (.awaitingUpstream ⟨false⟩) := by
  obtain ⟨hcalls, hall⟩ := h
  refine ⟨rfl, by rw [hcalls, List.nil_append], List.mem_append_right _ (List.mem_singleton_self _), ?_⟩
  refine List.forall_mem_append.2 ⟨fun ph hph => ?_, List.forall_mem_singleton.2 rfl⟩
  rw [hall ph hph]
  rfl

/-- the first terminal transition finishes the request on its pool exactly when it had begun there -/
theorem Accounted.terminal {st : Stage} (h : Accounted pool index calls phases st) (hnt : ∀ t, st ≠ .terminal t)
    (t : TerminalState) (latency : F) (status : Option ℕ) :
    Accounted pool index (calls ++ if st.shouldFinalize then [.finishRequest pool index latency status] else [])
      (phases ++ [(Stage.terminal t).phase]) (.terminal t) := by
  have hlast := isEnded_terminal_phase t
  refine ⟨⟨_, List.mem_append_right _ (List.mem_singleton_self _), hlast⟩, ?_⟩
  cases st with
  | intake => exact h.elim
  | awaitingAuth | dispatchReady | admitted =>
    -- it never reached the dispatch: no call before, and no finish now
    obtain ⟨hcalls, hall⟩ := h
    have hnot : ∀ ph ∈ phases, ph.isEnded = false := fun ph hph => by rw [hall ph hph]; rfl
    refine .inl ⟨by simp [hcalls, Stage.shouldFinalize], ?_⟩
    rw [upToEnd_append_ended hnot hlast]
    intro hmem
    cases hall _ hmem
  | awaitingUpstream a | streamingResponse a =>
    -- it began: the unfinalized accounting finishes it
    obtain ⟨ha, hcalls, hmem, hall⟩ := h
    refine .inr ⟨latency, status, by simp [hcalls, Stage.shouldFinalize, BackendAccountingState.shouldFinalize, ha], ?_⟩
    rw [upToEnd_append_ended hall hlast]
    exact hmem
  | terminal t' => exact absurd rfl (hnt t')

end Accounted

/-- what holds of every request the listener created -/
structure Inv (s : Stream F) : Prop where
  routed : ∃ pool index, s.envelope.upstreamPool = some pool ∧ s.envelope.backendIndex = some index ∧
    Accounted pool index s.poolCalls s.phases s.envelope.execution.stage
  consistent : s.envelope.execution.BufferConsistent

/-- one operation of a request keeps what holds of it -/
theorem Inv.advance {s : Stream F} (hs : s.Inv) {limits : BufferLimits} {count : ℕ} {op : RequestOp F}
    {env' : RequestEnvelope} {fx : List (Effect F)} (h : s.envelope.apply limits count op = some (env', fx)) :
    (s.advance env' fx).Inv := by
  obtain ⟨pool, index, hpool, hindex, hacc⟩ := hs.routed
  obtain ⟨hpool', hindex'⟩ := RequestEnvelope.apply_frame h
  refine ⟨⟨pool, index, hpool'.trans hpool, hindex'.trans hindex, ?_⟩, (RequestEnvelope.apply_count h hs.consistent).1⟩
  show Accounted pool index (s.poolCalls ++ fx.filter Effect.isPoolCall) (s.phases ++ [env'.execution.phase])
    env'.execution.stage
  rw [phase_eq_stage_phase]
  rcases RequestEnvelope.apply_cases hpool hindex h with ⟨hm, hfx⟩ | ⟨hadm, hup, hfx⟩ | ⟨hnt, ⟨t, ht⟩, latency, status, hfx⟩
  · rw [hfx, List.append_nil]
    exact hacc.quiet hm
  · rw [hfx, hup]
    rw [hadm] at hacc
    exact hacc.dispatch
  · rw [hfx, ht, shouldFinalizeBackendAccounting_eq]
    exact hacc.terminal (stage_ne_terminal hnt) t latency status

/-- the pool and backend a request has begun on and not finished -/
def holding : List (Effect F) → Option (ℕ × ℕ)
  | [.beginRequest pool index] => some (pool, index)
  | _ => none

/-- one when the request holds an active request on backend `index` of pool `pool` -/
def holds (pool index : ℕ) (s : Stream F) : ℕ := if holding s.poolCalls = some (pool, index) then 1 else 0

/-- the bytes the request holds of the shared count -/
def bufferedBytes (s : Stream F) : ℕ := s.envelope.execution.bufferedRequestBodyBytes

/-- a request that has called nothing holds nothing -/
theorem holds_of_poolCalls_nil {s : Stream F} (h : s.poolCalls = []) (pool index : ℕ) : s.holds pool index = 0 := by
  simp [holds, h, holding]

theorem Accounted.poolCalls_of_shouldFinalize {pool index : ℕ} {calls : List (Effect F)}
    {phases : List StreamPhase} {st : Stage} (h : Accounted pool index calls phases st) (hnt : ∀ t, st ≠ .terminal t)
    (hf : st.shouldFinalize = true) : calls = [.beginRequest pool index] := by
  cases st with
  | intake => exact h.elim
  | awaitingAuth | dispatchReady | admitted => cases hf
  | awaitingUpstream a | streamingResponse a => exact h.2.1
  | terminal t => exact absurd rfl (hnt t)

/-- a request has called nothing, one begin on its backend, or that begin and a finish on the same backend -/
theorem Accounted.shape {pool index : ℕ} {calls : List (Effect F)} {phases : List StreamPhase} {st : Stage}
    (h : Accounted pool index calls phases st) :
    calls = [] ∨ calls = [.beginRequest pool index] ∨
      ∃ latency status, calls = [.beginRequest pool index, .finishRequest pool index latency status] := by
  cases st with
  | intake => exact h.elim
  | awaitingAuth | dispatchReady | admitted => exact .inl h.1
  | awaitingUpstream a | streamingResponse a => exact .inr (.inl h.2.1)
  | terminal t =>
    rcases h.2 with ⟨hnil, -⟩ | hfin
    · exact .inl hnil
    · obtain ⟨latency, status, hcalls, -⟩ := hfin
      exact .inr (.inr ⟨latency, status, hcalls⟩)

/-- a terminal request has finished exactly when it reached `AwaitingUpstream` before it ended -/
theorem Accounted.finished_iff {pool index : ℕ} {calls : List (Effect F)} {phases : List StreamPhase}
    {t : TerminalState} (h : Accounted pool index calls phases (.terminal t)) :
    (∃ latency status, calls = [.beginRequest pool index, .finishRequest pool index latency status]) ↔
      StreamPhase.awaitingUpstream ∈ upToEnd phases := by
  rcases h.2 with ⟨hnil, hnot⟩ | ⟨latency, status, hcalls, hmem⟩
  · constructor
    · rintro ⟨latency, status, hcalls⟩
      rw [hnil] at hcalls
      cases hcalls
    · intro hmem
      exact absurd hmem hnot
  · exact ⟨fun _ => hmem, fun _ => ⟨latency, status, hcalls⟩⟩

/-- a terminal request holds no backend -/
theorem holds_of_isTerminal {s : Stream F} (hs : s.Inv) (ht : s.envelope.execution.isTerminal = true)
    (pool index : ℕ) : s.holds pool index = 0 := by
  obtain ⟨p, i, -, -, hacc⟩ := hs.routed
  obtain ⟨t, hstage⟩ := stage_of_isTerminal ht
  rw [hstage] at hacc
  rcases hacc.2 with ⟨hnil, -⟩ | ⟨latency, status, hcalls, -⟩
  · exact holds_of_poolCalls_nil hnil pool index
  · simp [holds, holding, hcalls]

end Stream

namespace Listener

/-- the active requests of backend `index` of pool `pool`, where there is such a backend -/
def activeOf (pools : List (List (BackendLoad F))) (pool index : ℕ) : Option ℕ :=
  ((pools[pool]?).bind (·[index]?)).map BackendLoad.activeRequests

/-- how many of the listener's requests hold an active request on backend `index` of pool `pool` -/
def holders (l : Listener F) (pool index : ℕ) : ℕ := (l.streams.map (Stream.holds pool index)).sum

theorem activeOf_beginRequest (pools : List (List (BackendLoad F))) (p i q j : ℕ) :
    activeOf (pools.modify p (beginRequest i)) q j =
      (activeOf pools q j).map (· + if (p, i) = (q, j) then 1 else 0) := by
  unfold activeOf
  rw [List.getElem?_modify]
  cases pools[q]? with
  | none => rfl
  | some load =>
    by_cases hpq : p = q
    · subst hpq
      simpa [Option.map_map, Function.comp_def] using activeRequests_beginRequest i j load
    · simp [hpq, Function.comp_def]

/-- what holds of the listener over every run: each request keeps its own accounting, every backend counter is its
initial value in `pools₀` plus the requests that hold it, and the buffered-bytes count is its initial value `count₀`
plus the bytes the requests hold -/
structure Inv (pools₀ : List (List (BackendLoad F))) (count₀ : ℕ) (l : Listener F) : Prop where
  streams : ∀ s ∈ l.streams, s.Inv
  active : ∀ pool index, activeOf l.pools pool index = (activeOf pools₀ pool index).map (· + l.holders pool index)
  count : l.requestBufferedBytes = count₀ + (l.streams.map Stream.bufferedBytes).sum

theorem inv_initial (pools : List (List (BackendLoad F))) (count : ℕ) :
    (⟨[], pools, count⟩ : Listener F).Inv pools count where
  streams := by simp
  active := by simp [holders]
  count := by simp

/-- a request the listener creates has called nothing and holds nothing -/
theorem inv_accept (viaAuth : Bool) (requestBody : RequestBodyState)
    (routingBackendIndex pendingBackendIndex upstreamPool : ℕ) :
    let runtime := RequestBodyRuntime.candidate requestBody
    let env :=
      if viaAuth then
        RequestEnvelope.fromAwaitingAuthState requestBody runtime routingBackendIndex pendingBackendIndex upstreamPool
      else RequestEnvelope.fromDispatchReadyState requestBody runtime routingBackendIndex pendingBackendIndex upstreamPool
    (⟨env, [], [env.execution.phase]⟩ : Stream F).Inv ∧
      ∀ pool index, (⟨env, [], [env.execution.phase]⟩ : Stream F).holds pool index = 0 := by
  refine ⟨⟨⟨upstreamPool, routingBackendIndex, ?_, ?_, ?_⟩, ?_⟩, fun pool index => rfl⟩ <;>
    cases viaAuth <;> simp [RequestEnvelope.fromAwaitingAuthState, RequestEnvelope.fromDispatchReadyState,
      RequestExecutionState.stage, Stream.Accounted, RequestExecutionState.phase, RequestExecutionState.BufferConsistent,
      RequestExecutionState.buffer, RequestExecutionState.requestBodyRuntime, RequestBodyRuntime.candidate]

section Counters

variable [Add F] [Mul F] [Sub F] [OfScientific F]

theorem activeOf_finishRequest (pools : List (List (BackendLoad F))) (p i q j : ℕ) (latency : F)
    (status : Option ℕ) :
    activeOf (pools.modify p (finishRequest i latency status)) q j =
      (activeOf pools q j).map (· - if (p, i) = (q, j) then 1 else 0) := by
  unfold activeOf
  rw [List.getElem?_modify]
  cases pools[q]? with
  | none => rfl
  | some load =>
    by_cases hpq : p = q
    · subst hpq
      simpa [Option.map_map, Function.comp_def] using activeRequests_finishRequest i j latency status load
    · simp [hpq, Function.comp_def]

/-- only the pool calls among the effects touch the pools -/
theorem foldl_onPools_filter (fx : List (Effect F)) (pools : List (List (BackendLoad F))) :
    fx.foldl Effect.onPools pools = (fx.filter Effect.isPoolCall).foldl Effect.onPools pools := by
  induction fx generalizing pools with
  | nil => rfl
  | cons x fx ih => cases x <;> simp [Effect.onPools, Effect.isPoolCall, List.filter_cons, ih]

/-- the effects of one operation of a request move every backend counter from the request's old hold to its new
one, whatever the other requests hold -/
theorem activeOf_advance {s : Stream F} (hs : s.Inv) {limits : BufferLimits} {count : ℕ} {op : RequestOp F}
    {env' : RequestEnvelope} {fx : List (Effect F)} (h : s.envelope.apply limits count op = some (env', fx))
    (pools : List (List (BackendLoad F))) (q j : ℕ) :
    (activeOf pools q j = none → activeOf (fx.foldl Effect.onPools pools) q j = none) ∧
      ∀ rest, activeOf pools q j = some (rest + s.holds q j) →
        activeOf (fx.foldl Effect.onPools pools) q j = some (rest + (s.advance env' fx).holds q j) := by
  obtain ⟨pool, index, hpool, hindex, hacc⟩ := hs.routed
  have hcalls : (s.advance env' fx).poolCalls = s.poolCalls ++ fx.filter Effect.isPoolCall := rfl
  rw [foldl_onPools_filter]
  rcases RequestEnvelope.apply_cases hpool hindex h with ⟨-, hfx⟩ | ⟨hadm, -, hfx⟩ | ⟨hnt, -, latency, status, hfx⟩
  · -- no pool call: nothing moves
    rw [hfx]
    simp [Stream.holds, hcalls, hfx]
  · -- the dispatch begins on `(pool, index)`
    rw [hadm] at hacc
    have hnil : s.poolCalls = [] := hacc.1
    rw [hfx]
    refine ⟨fun hn => by simp [Effect.onPools, activeOf_beginRequest, hn], fun rest hr => ?_⟩
    rw [Stream.holds_of_poolCalls_nil hnil, Nat.add_zero] at hr
    simp [Effect.onPools, activeOf_beginRequest, hr, Stream.holds, Stream.holding, hcalls, hnil, hfx]
  · rw [RequestExecutionState.shouldFinalizeBackendAccounting_eq] at hfx
    cases hf : s.envelope.execution.stage.shouldFinalize with
    | false =>
      -- nothing to finalize: nothing moves
      rw [hf] at hfx
      rw [hfx]
      simp [Stream.holds, hcalls, hfx]
    | true =>
      -- the first terminal transition finishes the begun request on `(pool, index)`
      rw [hf, if_pos rfl] at hfx
      have hbegun := hacc.poolCalls_of_shouldFinalize (RequestExecutionState.stage_ne_terminal hnt) hf
      rw [hfx]
      refine ⟨fun hn => by simp [Effect.onPools, activeOf_finishRequest, hn], fun rest hr => ?_⟩
      have hheld : s.holds q j = if (pool, index) = (q, j) then 1 else 0 := by
        simp [Stream.holds, Stream.holding, hbegun]
      rw [hheld] at hr
      simp [Effect.onPools, activeOf_finishRequest, hr, Stream.holds, Stream.holding, hcalls, hbegun, hfx]

variable {pools₀ : List (List (BackendLoad F))} {count₀ : ℕ} {limits : BufferLimits} {l l' : Listener F}

/-- one operation of one request keeps the invariant -/
theorem Inv.runRequest (hl : l.Inv pools₀ count₀) {k : ℕ} {op : RequestOp F} (h : l.runRequest limits k op = some l') :
    l'.Inv pools₀ count₀ := by
  simp only [Listener.runRequest, Option.bind_eq_bind, Option.bind_eq_some_iff, Option.pure_def, Option.some.injEq] at h
  obtain ⟨s, hs, ⟨env', fx⟩, happ, rfl⟩ := h
  have hsInv := hl.streams s (List.mem_of_getElem? hs)
  refine ⟨?_, ?_, ?_⟩
  · -- the request that ran keeps its invariant, the others are as they were
    intro s' hs'
    rcases List.mem_or_eq_of_mem_set hs' with hs' | rfl
    · exact hl.streams s' hs'
    · exact hsInv.advance happ
  · -- each counter moves with the hold of the request that ran
    intro q j
    obtain ⟨hnone, hmove⟩ := activeOf_advance hsInv happ l.pools q j
    have hcur := hl.active q j
    show activeOf (fx.foldl Effect.onPools l.pools) q j =
      (activeOf pools₀ q j).map (· + ((l.streams.set k (s.advance env' fx)).map (Stream.holds q j)).sum)
    cases h₀ : activeOf pools₀ q j with
    | none =>
      rw [h₀, Option.map_none] at hcur
      exact hnone hcur
    | some a₀ =>
      rw [h₀, Option.map_some] at hcur
      unfold holders at hcur
      have hsum := Shares.sum_map_set_add (Stream.holds q j) hs (s.advance env' fx)
      have hle := Shares.le_sum_map (Stream.holds q j) hs
      rw [hmove (a₀ + ((l.streams.map (Stream.holds q j)).sum - s.holds q j)) (by rw [hcur]; congr 1; omega),
        Option.map_some]
      congr 1
      omega
  · -- the count moves with the bytes of the request that ran
    exact Shares.conserved_set hs _ hl.count fun rest hrest => by
      rw [hrest]
      exact (RequestEnvelope.apply_count happ hsInv.consistent).2 rest

/-- every action of the listener keeps the invariant -/
theorem Inv.step (hl : l.Inv pools₀ count₀) {a : ListenerAction F} (h : l.step limits a = some l') :
    l'.Inv pools₀ count₀ := by
  cases a with
  | accept viaAuth requestBody routingBackendIndex pendingBackendIndex upstreamPool =>
    simp only [Listener.step, Option.some.injEq] at h
    subst h
    obtain ⟨hnew, hheld⟩ := inv_accept (F := F) viaAuth requestBody routingBackendIndex pendingBackendIndex upstreamPool
    refine ⟨?_, fun q j => ?_, ?_⟩
    · intro s hs
      rcases List.mem_append.1 hs with hs | hs
      · exact hl.streams s hs
      · rw [List.mem_singleton.1 hs]
        exact hnew
    · rw [hl.active q j]
      simp [holders, hheld]
    · -- a new request holds no bytes
      refine Shares.conserved_append ?_ hl.count
      cases viaAuth <;> rfl
  | request k op => exact hl.runRequest h
  | releaseConnectionStreams ks elapsed =>
    -- `release_connection_streams` terminalizes the connection's requests one after another
    induction ks generalizing l with
    | nil =>
      cases h
      exact hl
    | cons k ks ih =>
      simp only [Listener.step, List.foldlM_cons, Option.bind_eq_bind, Option.bind_eq_some_iff] at h
      obtain ⟨l₁, h₁, h₂⟩ := h
      exact ih (hl.runRequest h₁) h₂

/-- every run keeps the invariant -/
theorem Inv.run (hl : l.Inv pools₀ count₀) {actions : List (ListenerAction F)} (h : l.run limits actions = some l') :
    l'.Inv pools₀ count₀ := by
  induction actions generalizing l with
  | nil =>
    cases h
    exact hl
  | cons a actions ih =>
    simp only [Listener.run, Option.bind_eq_some_iff] at h
    obtain ⟨l₁, h₁, h₂⟩ := h
    exact ih (hl.step h₁) h₂

end Counters

end Listener

/-! ## Results -/

section Results

variable [Add F] [Mul F] [Sub F] [OfScientific F]

/-- Over every run of the listener from no requests, each request has called its upstream pool nothing, one
`begin_request` on its backend, or that begin and then one `finish_request` on the same backend; once it is terminal it
has finished exactly when it reached `AwaitingUpstream` before its first terminal transition; and every backend
counter is its initial value plus the requests begun and not finished on it, so that once every request is terminal
each counter is back at its initial value. -/
theorem request_accounting_exactly_once {limits : BufferLimits} {pools : List (List (BackendLoad F))} {count : ℕ}
    {actions : List (ListenerAction F)} {l : Listener F}
    (h : (⟨[], pools, count⟩ : Listener F).run limits actions = some l) :
    (∀ s ∈ l.streams, ∃ pool index, s.envelope.upstreamPool = some pool ∧ s.envelope.backendIndex = some index ∧
      (s.poolCalls = [] ∨ s.poolCalls = [.beginRequest pool index] ∨
        ∃ latency status, s.poolCalls = [.beginRequest pool index, .finishRequest pool index latency status]) ∧
      (s.envelope.execution.isTerminal = true →
        ((∃ latency status, s.poolCalls = [.beginRequest pool index, .finishRequest pool index latency status]) ↔
          StreamPhase.awaitingUpstream ∈ Stream.upToEnd s.phases))) ∧
    (∀ pool index, Listener.activeOf l.pools pool index =
      (Listener.activeOf pools pool index).map (· + l.holders pool index)) ∧
    ((∀ s ∈ l.streams, s.envelope.execution.isTerminal = true) →
      ∀ pool index, Listener.activeOf l.pools pool index = Listener.activeOf pools pool index) := by
  have hl := (Listener.inv_initial pools count).run h
  refine ⟨fun s hs => ?_, hl.active, fun hterm pool index => ?_⟩
  · obtain ⟨pool, index, hpool, hindex, hacc⟩ := (hl.streams s hs).routed
    refine ⟨pool, index, hpool, hindex, hacc.shape, fun ht => ?_⟩
    obtain ⟨t, hstage⟩ := RequestExecutionState.stage_of_isTerminal ht
    rw [hstage] at hacc
    exact hacc.finished_iff
  · -- no terminal request holds a backend
    have hnone : l.holders pool index = 0 := by
      refine List.sum_eq_zero fun n hn => ?_
      obtain ⟨s, hs, rfl⟩ := List.mem_map.1 hn
      exact Stream.holds_of_isTerminal (hl.streams s hs) (hterm s hs) pool index
    rw [hl.active, hnone]
    simp

/-- one request dispatched to backend 0 of pool 0: admitted, dispatched with a body sender, a 5-byte chunk buffered
while the body channel is full, a response, and completion 50 ms after its start -/
def oneRequest : List (ListenerAction ℚ) :=
  [.accept false .open_ 0 0 0, .request 0 .transitionToAdmitted, .request 0 (.beginAndDispatch true),
    .request 0 (.enqueueRequestChunk 5 .full), .request 0 .transitionToStreamingResponse,
    .request 0 (.transitionToTerminalWithCleanup .completed 0.05)]

/-- the listener `oneRequest` runs on: one pool of one idle backend, nothing buffered, bodies up to 1 KiB and 4 KiB
buffered in all -/
def oneBackend : Listener ℚ := ⟨[], [[⟨0, none⟩]], 0⟩

/-- every request of `oneRequest` ends terminal -/
theorem oneRequest_terminal {l : Listener ℚ} (hl : oneBackend.run ⟨1024, 4096⟩ oneRequest = some l) :
    ∀ s ∈ l.streams, s.envelope.execution.isTerminal = true := by
  have hdone : (oneBackend.run ⟨1024, 4096⟩ oneRequest).map
      (fun l => l.streams.all fun s => s.envelope.execution.isTerminal) = some true := rfl
  rwa [hl, Option.map_some, Option.some.injEq, List.all_eq_true] at hdone

theorem one_request_back_to_idle :
    ∃ l, oneBackend.run ⟨1024, 4096⟩ oneRequest = some l ∧ Listener.activeOf l.pools 0 0 = some 0 := by
  obtain ⟨l, hl⟩ : ∃ l, oneBackend.run ⟨1024, 4096⟩ oneRequest = some l := ⟨_, rfl⟩
  refine ⟨l, hl, ?_⟩
  rw [(request_accounting_exactly_once hl).2.2 (oneRequest_terminal hl) 0 0]
  rfl

example : (oneBackend.run ⟨1024, 4096⟩ oneRequest).map (fun l => l.streams.map fun s => s.poolCalls.length) =
    some [2] := by
  rfl

/-- Over every run of the listener from no requests, the listener's count of buffered request body bytes is its
initial value plus the bytes its requests hold, every request counts in `body_buf_bytes` exactly the chunks it
buffers, and once every request is terminal the count is back at its initial value: no request releases more than it
reserved or keeps any of it past its end. -/
theorem request_buffer_conserved {limits : BufferLimits} {pools : List (List (BackendLoad F))} {count : ℕ}
    {actions : List (ListenerAction F)} {l : Listener F}
    (h : (⟨[], pools, count⟩ : Listener F).run limits actions = some l) :
    l.requestBufferedBytes = count + (l.streams.map Stream.bufferedBytes).sum ∧
      (∀ s ∈ l.streams, s.envelope.execution.BufferConsistent) ∧
      ((∀ s ∈ l.streams, s.envelope.execution.isTerminal = true) → l.requestBufferedBytes = count) := by
  have hl := (Listener.inv_initial pools count).run h
  refine ⟨hl.count, fun s hs => (hl.streams s hs).consistent, fun hterm => ?_⟩
  -- a terminal request holds no bytes
  have hnone : (l.streams.map Stream.bufferedBytes).sum = 0 := by
    refine List.sum_eq_zero fun n hn => ?_
    obtain ⟨s, hs, rfl⟩ := List.mem_map.1 hn
    exact RequestExecutionState.bufferedRequestBodyBytes_of_isTerminal (hterm s hs)
  rw [hl.count, hnone, Nat.add_zero]

theorem one_request_releases_its_chunk :
    ∃ l, oneBackend.run ⟨1024, 4096⟩ oneRequest = some l ∧ l.requestBufferedBytes = 0 := by
  obtain ⟨l, hl⟩ : ∃ l, oneBackend.run ⟨1024, 4096⟩ oneRequest = some l := ⟨_, rfl⟩
  exact ⟨l, hl, (request_buffer_conserved hl).2.2 (oneRequest_terminal hl)⟩

end Results

end Spooky.Edge
