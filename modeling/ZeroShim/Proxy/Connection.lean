import ZeroShim.Intercept.Replay
import ZeroShim.Library.FiniteMap
import ZeroShim.Library.Purge
import ZeroShim.Proxy.Handle
import ZeroShim.Proxy.Pool

/-!
# One connection of a wallet

{lit}`serve_connection` as a state machine: the requests that are multiplexed on one inbound
connection are handled side by side, and share the one pool of connections to the operator's
indexer.  Each performs the actions of {lit}`handle` in order, at its own pace; what its
environment answers is fixed as it arrives, and its call to the pool goes on only as that
environment says.  The wallet may reset any of them at any moment.

Main results:

- Theorem {lit}`operated_handle`: which actions of a handler reach the indexer.
- Theorem {lit}`WalletConnection.diverted_unseen`: a request that does not go out leaves no mark
  on the others, nor on anything the indexer sees.
- Theorem {lit}`WalletConnection.forwarded_exact`: what goes out, and over what.
-/

namespace ZeroShim

open Library

/-! ## What goes out -/

section Egress

variable (codecs : Codecs) (diversion : Option HubTransport) (caution : CautionRelay)
variable (status : MixnetStatus)

/-- The request that is handed to {lit}`forward`, if any is. -/
def egress (req : Request) : Option Request :=
  match routeFor req.uri.path with
  | .cautionHealth => if caution.enabled then none else some req
  | .cautionAttestation => if caution.enabled then none else some req
  | .shimHealth => none
  | .shimNymStatus => none
  | .shimNymDiag => if status.diagEnabled then none else some req
  | .passThrough => some req
  | .getTransaction => if diversion.isSome then none else some req
  | .interceptNearMiss => replayed req
  | .intercept => replayed req
where
  replayed (req : Request) : Option Request :=
    match req.body.collect maxSendTxBytes with
    | .error _ => none
    | .ok collected =>
      if (inspect codecs req.headers collected.data).1.treatAsMigration ∧ diversion.isSome then none
      else some { req with body := replayBody collected.data collected.trailers }

/-- The actions that reach the operator's indexer. -/
def operated (trace : List Action) : List Action := trace.filter Action.reachesOperator

/-- Those of a request that goes out: it has the pool called, and is sent if that gives a
connection. -/
def goesOut (world : World) : Option Request → List Action
  | none => []
  | some outbound =>
    .poolGet :: match world.poolGet with
      | .ok upstream => [.sendRequest (retarget upstream outbound)]
      | .error _ => []

variable {codecs diversion caution status} {world : World}

theorem operated_append (front back : List Action) :
    operated (front ++ back) = operated front ++ operated back :=
  List.filter_append ..

theorem operated_of_spares {α : Type} {t : Task α} (h : Spares t) : operated t.trace = [] := by
  apply List.filter_eq_nil_iff.mpr
  intro action hmem
  rw [h action hmem]
  exact Bool.false_ne_true

theorem operated_passThrough (req : Request) :
    operated (passThrough world req).trace = goesOut world (some req) := by
  unfold passThrough orErr goesOut
  cases hpool : world.poolGet with
  | error err => rfl
  | ok upstream =>
    simp only
    rw [Traced.bind_of_ok (a := upstream) rfl, forward_eq]
    cases hsend : world.sendRequest (retarget upstream req) <;> rfl

theorem operated_replay (req : Request) (collected : Collected) :
    operated (replay world req collected).trace =
      goesOut world (some { req with body := replayBody collected.data collected.trailers }) := by
  unfold replay orErr goesOut
  cases hpool : world.poolGet with
  | error err => rfl
  | ok upstream =>
    simp only
    rw [Traced.bind_of_ok (a := upstream) rfl, forward_eq]
    rfl

theorem operated_sendTransaction (req : Request) :
    operated (sendTransaction codecs world diversion req).trace =
      goesOut world (egress.replayed codecs diversion req) := by
  unfold sendTransaction egress.replayed
  cases req.body.collect maxSendTxBytes with
  | error failure => exact operated_of_spares (emits_bodyReadFailed sparesOperator_log failure)
  | ok collected =>
    simp only
    rw [Traced.bind_of_ok (result_logVerdict _ _), Traced.bind_of_ok (result_reportBranch _ _)]
    rw [operated_append, operated_append,
      operated_of_spares (emits_logVerdict sparesOperator_log _ _),
      operated_of_spares (emits_reportBranch sparesOperator_log rfl _ _)]
    cases hverdict : (inspect codecs req.headers collected.data).1.treatAsMigration with
    | false =>
      simp only [Bool.false_eq_true, false_and, if_false]
      exact operated_replay req collected
    | true =>
      cases diversion with
      | none => exact operated_replay req collected
      | some hub => exact operated_of_spares (spares_divert codecs world hub _)

/-- Which actions of a route's arm reach the operator's indexer. -/
theorem operated_dispatch (req : Request) :
    operated (dispatch codecs world diversion caution status req).trace =
      goesOut world (egress codecs diversion caution status req) := by
  unfold dispatch egress
  cases routeFor req.uri.path with
  | passThrough => exact operated_passThrough req
  | cautionHealth =>
    cases caution.enabled with
    | true => rfl
    | false => exact operated_passThrough req
  | cautionAttestation =>
    cases caution.enabled with
    | true => exact operated_of_spares (spares_forwardToBootproofd world _ req)
    | false => exact operated_passThrough req
  | shimHealth => rfl
  | shimNymStatus => rfl
  | shimNymDiag =>
    cases status.diagEnabled with
    | true => rfl
    | false => exact operated_passThrough req
  | getTransaction =>
    cases diversion with
    | none => exact operated_passThrough req
    | some hub => exact operated_of_spares (getTransaction_spares codecs world hub req)
  | interceptNearMiss =>
    simp only
    rw [Traced.bind_of_ok (a := ()) rfl]
    exact operated_sendTransaction req
  | intercept => exact operated_sendTransaction req

/-- With a hub, what goes out may. -/
theorem mayReachOperator_of_egress {hub : HubTransport} {req outbound : Request}
    (h : egress codecs (some hub) caution status req = some outbound) :
    MayReachOperator codecs caution status req := by
  have hoperated :
      operated (dispatch codecs (hubAnswering []) (some hub) caution status req).trace =
        goesOut (hubAnswering []) (egress codecs (some hub) caution status req) :=
    operated_dispatch req
  rw [h] at hoperated
  have hcall : Action.poolGet ∈
      operated (dispatch codecs (hubAnswering []) (some hub) caution status req).trace := by
    rw [hoperated]
    exact List.mem_cons_self
  exact dispatch_isolates codecs caution status _ hub req _ (List.mem_filter.mp hcall).1 rfl

/-- Which actions of a handler reach the operator's indexer, failures included. -/
theorem operated_handle (req : Request) :
    operated (handle codecs world diversion caution status req).trace =
      goesOut world (egress codecs diversion caution status req) := by
  rw [← operated_dispatch]
  unfold handle
  simp only [Traced.handle]
  rw [operated_append, operated_of_spares (spares_answerFailure req _), List.append_nil]

end Egress

namespace WalletConnection

/-- An HTTP/2 stream, by its id. -/
abbrev StreamId := Nat

/-- A request that is being handled. -/
structure Stream where
  /-- What its environment answers. -/
  world : World
  /-- What its handler has still to do. -/
  todo : List Action
  /-- How its handler ends. -/
  result : Except Failure Response
  /-- The connection that the pool gave it. -/
  upstream : Option UpstreamPool.Connection

end WalletConnection

/-- The pool of the connection, the stream that holds its lock in a dial, and all streams. -/
structure WalletConnection where
  pool : UpstreamPool
  holder : Option WalletConnection.StreamId
  streams : FiniteMap WalletConnection.StreamId WalletConnection.Stream

namespace WalletConnection

/-- What a stream shows. -/
inductive Deed where
  | arrived (req : Request) (status : MixnetStatus)
  | pool (o : UpstreamPool.Observed)
  | did (upstream : Option UpstreamPool.Connection) (action : Action)
  | answered (result : Except Failure Response)

structure Observed where
  stream : StreamId
  what : Deed

/-- What can happen to a stream. -/
inductive StreamEvent where
  /-- Its handler performs an action other than a call to the pool. -/
  | act
  /-- A step of its call to the pool. -/
  | call (e : UpstreamPool.Event)
  /-- Its handler has nothing left to do. -/
  | finish
  /-- The wallet gives up on it. -/
  | reset

/-- What can happen next. -/
inductive Event where
  | tick (d : Nat)
  | close (upstream : UpstreamPool.Connection)
  | request (id : StreamId) (req : Request) (status : MixnetStatus) (world : World)
  | stream (id : StreamId) (e : StreamEvent)

def initial : WalletConnection := ⟨.initial, none, ∅⟩

/-- What a call to the pool returned. -/
def returned? (o : List UpstreamPool.Observed) : Option (Except String UpstreamPool.Connection) :=
  o.findSome? fun x =>
    match x with
    | .returned result => some result
    | _ => none

/-- The pool answered as the environment says. -/
def agrees (authority : String) (world : World) :
    Except String UpstreamPool.Connection → Bool
  | .ok _ =>
    match world.poolGet with
    | .ok upstream => upstream = ⟨authority⟩
    | .error _ => false
  | .error err =>
    match world.poolGet with
    | .ok _ => false
    | .error err' => err = err'

/-- The stream that a step of the pool is for has its lock, or can take it. -/
def mayCall (s : WalletConnection) (id : StreamId) : UpstreamPool.Event → Bool
  | .get => s.holder = none
  | .connected _ => s.holder = some id
  | .refused _ => s.holder = some id
  | .timedOut => s.holder = some id
  | _ => false

/-- A step of the pool on behalf of a stream, which goes on once its call has returned. -/
def settle (authority : String) (s : WalletConnection) (id : StreamId) (stream : Stream)
    (later : List Action) (e : UpstreamPool.Event) : Option (WalletConnection × List Observed) :=
  match s.pool.step e with
  | none => none
  | some (pool, o) =>
    match returned? o with
    | none => some ({ s with pool, holder := some id }, o.map fun x => ⟨id, .pool x⟩)
    | some result =>
      if agrees authority stream.world result then
        some ({ s with
            pool
            holder := none
            streams := s.streams.insert id
              { stream with todo := later, upstream := result.toOption } },
          o.map fun x => ⟨id, .pool x⟩)
      else none

/-- One step of a stream. -/
def advance (authority : String) (s : WalletConnection) (id : StreamId) (stream : Stream) :
    StreamEvent → Option (WalletConnection × List Observed)
  | .act =>
    match stream.todo with
    | [] => none
    | .poolGet :: _ => none
    | action :: later =>
      some ({ s with streams := s.streams.insert id { stream with todo := later } },
        [⟨id, .did stream.upstream action⟩])
  | .call e =>
    match stream.todo with
    | .poolGet :: later =>
      if s.mayCall id e then s.settle authority id stream later e else none
    | _ => none
  | .finish =>
    match stream.todo with
    | [] => some ({ s with streams := s.streams.erase id }, [⟨id, .answered stream.result⟩])
    | _ :: _ => none
  | .reset =>
    if s.holder = some id then
      -- the dial is dropped, and the lock with it
      (s.pool.step .cancel).map fun next =>
        ({ pool := next.1, holder := none, streams := s.streams.erase id },
          next.2.map fun x => ⟨id, .pool x⟩)
    else some ({ s with streams := s.streams.erase id }, [])

section Step

variable (codecs : Codecs) (diversion : Option HubTransport) (caution : CautionRelay)
variable (authority : String)

/-- One step. -/
def step (s : WalletConnection) : Event → Option (WalletConnection × List Observed)
  | .tick d => (s.pool.step (.tick d)).map fun next => ({ s with pool := next.1 }, [])
  | .close upstream =>
    (s.pool.step (.close upstream)).map fun next => ({ s with pool := next.1 }, [])
  | .request id req status world =>
    match s.streams.lookup id with
    | some _ => none
    | none =>
      let handled := handle codecs world diversion caution status req
      some ({ s with
          streams := s.streams.insert id ⟨world, handled.trace, handled.result, none⟩ },
        [⟨id, .arrived req status⟩])
  | .stream id e =>
    match s.streams.lookup id with
    | some stream => s.advance authority id stream e
    | none => none

end Step

/-! ## What the operator sees -/

/-- What an indexer sees of a connection. -/
inductive Seen where
  | dialled (now : Nat)
  | sent (upstream : Option UpstreamPool.Connection) (req : Request)
deriving DecidableEq

def Observed.operator? (x : Observed) : Option Seen :=
  match x.what with
  | .pool (.dialled now) => some (.dialled now)
  | .did upstream (.sendRequest req) => some (.sent upstream req)
  | _ => none

/-- The stream that an event is for. -/
def Event.stream? : Event → Option StreamId
  | .tick _ => none
  | .close _ => none
  | .request id _ _ _ => some id
  | .stream id _ => some id

/-- The events that are left when some streams are taken out. -/
def keeps (hidden : StreamId → Bool) (e : Event) : Bool :=
  match e.stream? with
  | some id => !hidden id
  | none => true

/-- What is left of what was shown. -/
def shows (hidden : StreamId → Bool) (x : Observed) : Bool := !hidden x.stream

/-! ## Two connections abreast -/

/-- A connection without the hidden streams of another, none of which can turn to the pool. -/
structure Abreast (hidden : StreamId → Bool) (s s₀ : WalletConnection) : Prop where
  pool : s₀.pool = s.pool
  holder : s₀.holder = s.holder
  streams : ∀ id, hidden id = false → s₀.streams.lookup id = s.streams.lookup id
  spares : ∀ id stream, hidden id = true → s.streams.lookup id = some stream →
    ∀ action ∈ stream.todo, action.reachesOperator = false
  seen : ∀ id, s.holder = some id → hidden id = false

namespace Abreast

variable {hidden : StreamId → Bool} {s s₀ : WalletConnection} {id : StreamId}

theorem initial : Abreast hidden initial initial where
  pool := rfl
  holder := rfl
  streams _ _ := rfl
  spares _ _ _ hlookup := by
    rw [WalletConnection.initial, Finmap.lookup_empty] at hlookup
    cases hlookup
  seen _ hholder := by cases hholder

/-- The same happens to the pool of both. -/
theorem repool (h : Abreast hidden s s₀) (pool : UpstreamPool) :
    Abreast hidden { s with pool } { s₀ with pool } where
  pool := rfl
  holder := h.holder
  streams := h.streams
  spares := h.spares
  seen := h.seen

/-- The same happens to the lock of both, for a stream that is not hidden. -/
theorem rehold (h : Abreast hidden s s₀) {holder : Option StreamId}
    (hseen : ∀ id, holder = some id → hidden id = false) :
    Abreast hidden { s with holder } { s₀ with holder } where
  pool := h.pool
  holder := rfl
  streams := h.streams
  spares := h.spares
  seen := hseen

/-- A stream that is not hidden goes on in both. -/
theorem insert (h : Abreast hidden s s₀) (hid : hidden id = false) (stream : Stream) :
    Abreast hidden { s with streams := s.streams.insert id stream }
      { s₀ with streams := s₀.streams.insert id stream } where
  pool := h.pool
  holder := h.holder
  streams other hother := by
    by_cases heq : other = id
    · rw [heq, Finmap.lookup_insert, Finmap.lookup_insert]
    · rw [Finmap.lookup_insert_of_ne _ heq, Finmap.lookup_insert_of_ne _ heq]
      exact h.streams other hother
  spares other stream' hother hlookup := by
    by_cases heq : other = id
    · rw [heq, hid] at hother
      cases hother
    · rw [Finmap.lookup_insert_of_ne _ heq] at hlookup
      exact h.spares other stream' hother hlookup
  seen := h.seen

/-- A stream that is not hidden ends in both. -/
theorem erase (h : Abreast hidden s s₀) (id : StreamId) :
    Abreast hidden { s with streams := s.streams.erase id }
      { s₀ with streams := s₀.streams.erase id } where
  pool := h.pool
  holder := h.holder
  streams other hother := by
    by_cases heq : other = id
    · rw [heq, Finmap.lookup_erase, Finmap.lookup_erase]
    · rw [Finmap.lookup_erase_ne heq, Finmap.lookup_erase_ne heq]
      exact h.streams other hother
  spares other stream hother hlookup := by
    by_cases heq : other = id
    · rw [heq, Finmap.lookup_erase] at hlookup
      cases hlookup
    · rw [Finmap.lookup_erase_ne heq] at hlookup
      exact h.spares other stream hother hlookup
  seen := h.seen

/-- A hidden stream goes on in one alone. -/
theorem insert_hidden (h : Abreast hidden s s₀) (hid : hidden id = true) {stream : Stream}
    (hspares : ∀ action ∈ stream.todo, action.reachesOperator = false) :
    Abreast hidden { s with streams := s.streams.insert id stream } s₀ where
  pool := h.pool
  holder := h.holder
  streams other hother := by
    have hne : other ≠ id := by
      intro heq
      rw [heq, hid] at hother
      cases hother
    rw [Finmap.lookup_insert_of_ne _ hne]
    exact h.streams other hother
  spares other stream' hother hlookup := by
    by_cases heq : other = id
    · rw [heq, Finmap.lookup_insert] at hlookup
      cases hlookup
      exact hspares
    · rw [Finmap.lookup_insert_of_ne _ heq] at hlookup
      exact h.spares other stream' hother hlookup
  seen := h.seen

/-- A hidden stream ends in one alone. -/
theorem erase_hidden (h : Abreast hidden s s₀) (hid : hidden id = true) :
    Abreast hidden { s with streams := s.streams.erase id } s₀ where
  pool := h.pool
  holder := h.holder
  streams other hother := by
    have hne : other ≠ id := by
      intro heq
      rw [heq, hid] at hother
      cases hother
    rw [Finmap.lookup_erase_ne hne]
    exact h.streams other hother
  spares other stream hother hlookup := by
    by_cases heq : other = id
    · rw [heq, Finmap.lookup_erase] at hlookup
      cases hlookup
    · rw [Finmap.lookup_erase_ne heq] at hlookup
      exact h.spares other stream hother hlookup
  seen := h.seen

end Abreast

/-! ## What a step of a stream can do -/

/-- The effects of a step of a stream. -/
inductive Advanced (authority : String) (s : WalletConnection) (id : StreamId) (stream : Stream) :
    StreamEvent → WalletConnection → List Observed → Prop where
  | act {action later} : action ≠ .poolGet → stream.todo = action :: later →
      Advanced authority s id stream .act
        { s with streams := s.streams.insert id { stream with todo := later } }
        [⟨id, .did stream.upstream action⟩]
  | waits {e later pool o} : stream.todo = .poolGet :: later → s.mayCall id e = true →
      s.pool.step e = some (pool, o) → returned? o = none →
      Advanced authority s id stream (.call e) { s with pool, holder := some id }
        (o.map fun x => ⟨id, .pool x⟩)
  | settles {e later pool o result} : stream.todo = .poolGet :: later → s.mayCall id e = true →
      s.pool.step e = some (pool, o) → returned? o = some result →
      agrees authority stream.world result = true →
      Advanced authority s id stream (.call e)
        { s with
          pool
          holder := none
          streams := s.streams.insert id
            { stream with todo := later, upstream := result.toOption } }
        (o.map fun x => ⟨id, .pool x⟩)
  | finish : stream.todo = [] →
      Advanced authority s id stream .finish { s with streams := s.streams.erase id }
        [⟨id, .answered stream.result⟩]
  | cancel {pool o} : s.holder = some id → s.pool.step .cancel = some (pool, o) →
      Advanced authority s id stream .reset
        { pool, holder := none, streams := s.streams.erase id } (o.map fun x => ⟨id, .pool x⟩)
  | reset : s.holder ≠ some id →
      Advanced authority s id stream .reset { s with streams := s.streams.erase id } []

theorem advanced_iff {authority : String} {s s' : WalletConnection} {id : StreamId}
    {stream : Stream} {e : StreamEvent} {o : List Observed} :
    s.advance authority id stream e = some (s', o) ↔ Advanced authority s id stream e s' o := by
  constructor
  · intro h
    cases e with
    | act =>
      unfold advance at h
      dsimp only at h
      split at h
      · cases h
      · cases h
      · next action later hne htodo =>
        cases h
        exact .act hne htodo
    | call e =>
      unfold advance settle at h
      dsimp only at h
      split at h
      · next later htodo =>
        split at h
        · next hmay =>
          split at h
          · cases h
          · next pool o' hpool =>
            split at h
            · next hreturned =>
              cases h
              exact .waits htodo hmay hpool hreturned
            · next result hreturned =>
              split at h
              · next hagrees =>
                cases h
                exact .settles htodo hmay hpool hreturned hagrees
              · cases h
        · cases h
      · cases h
    | finish =>
      unfold advance at h
      dsimp only at h
      split at h
      · next htodo =>
        cases h
        exact .finish htodo
      · cases h
    | reset =>
      unfold advance at h
      dsimp only at h
      split at h
      · next hholder =>
        rcases Option.map_eq_some_iff.mp h with ⟨next, hpool, heq⟩
        cases heq
        exact .cancel hholder hpool
      · next hholder =>
        cases h
        exact .reset hholder
  · intro h
    cases h with
    | @act action later hne htodo =>
      unfold advance
      rw [htodo]
      cases action <;> first | rfl | exact absurd rfl hne
    | waits htodo hmay hpool hreturned => simp [advance, settle, htodo, hmay, hpool, hreturned]
    | settles htodo hmay hpool hreturned hagrees =>
      simp [advance, settle, htodo, hmay, hpool, hreturned, hagrees]
    | finish htodo => simp [advance, htodo]
    | cancel hholder hpool => simp [advance, hholder, hpool]
    | reset hholder => simp [advance, hholder]

theorem Advanced.stream {authority : String} {s s' : WalletConnection} {id : StreamId}
    {stream : Stream} {e : StreamEvent} {o : List Observed}
    (h : Advanced authority s id stream e s' o) : ∀ x ∈ o, x.stream = id := by
  have hmap {o : List UpstreamPool.Observed} :
      ∀ x ∈ o.map (fun x => (⟨id, .pool x⟩ : Observed)), x.stream = id := by
    intro x hx
    rcases List.mem_map.mp hx with ⟨_, -, rfl⟩
    rfl
  cases h with
  | act => simp
  | waits => exact hmap
  | settles => exact hmap
  | finish => simp
  | cancel => exact hmap
  | reset => simp

section Abreast

variable {hidden : StreamId → Bool} {authority : String} {s s₀ s' : WalletConnection}
variable {id : StreamId} {stream : Stream} {e : StreamEvent} {o : List Observed}

/-- A stream that is not hidden takes the step in both. -/
theorem Advanced.kept (hadvanced : Advanced authority s id stream e s' o)
    (h : Abreast hidden s s₀) (hid : hidden id = false) :
    ∃ s₀', Advanced authority s₀ id stream e s₀' o ∧ Abreast hidden s' s₀' := by
  rcases s₀ with ⟨pool₀, holder₀, streams₀⟩
  obtain rfl : pool₀ = s.pool := h.pool
  obtain rfl : holder₀ = s.holder := h.holder
  cases hadvanced with
  | act hne htodo => exact ⟨_, .act hne htodo, h.insert hid _⟩
  | waits htodo hmay hpool hreturned =>
    refine ⟨_, .waits htodo hmay hpool hreturned, (h.repool _).rehold ?_⟩
    intro other hother
    cases hother
    exact hid
  | settles htodo hmay hpool hreturned hagrees =>
    refine ⟨_, .settles htodo hmay hpool hreturned hagrees, ?_⟩
    refine Abreast.insert ((h.repool _).rehold ?_) hid _
    intro other hother
    cases hother
  | finish htodo => exact ⟨_, .finish htodo, h.erase id⟩
  | cancel hholder hpool =>
    refine ⟨_, .cancel hholder hpool, ?_⟩
    refine Abreast.erase ((h.repool _).rehold ?_) id
    intro other hother
    cases hother
  | reset hholder => exact ⟨_, .reset hholder, h.erase id⟩

/-- A hidden stream takes the step alone: it never calls the pool, nor sends. -/
theorem Advanced.alone (hadvanced : Advanced authority s id stream e s' o)
    (h : Abreast hidden s s₀) (hid : hidden id = true)
    (hlookup : s.streams.lookup id = some stream) :
    Abreast hidden s' s₀ ∧ ∀ x ∈ o, x.operator? = none := by
  have hspares := h.spares id stream hid hlookup
  have hidle : ∀ {later}, stream.todo ≠ .poolGet :: later := by
    intro later htodo
    have hreaches := hspares .poolGet (by simp [htodo])
    cases hreaches
  cases hadvanced with
  | @act action later hne htodo =>
    rw [htodo] at hspares
    refine ⟨h.insert_hidden hid fun _ hmem => hspares _ (List.mem_cons_of_mem _ hmem), ?_⟩
    intro x hx
    obtain rfl := List.mem_singleton.mp hx
    have hreaches := hspares action List.mem_cons_self
    cases action with
    | sendRequest req => cases hreaches
    | _ => rfl
  | waits htodo => exact absurd htodo hidle
  | settles htodo => exact absurd htodo hidle
  | finish => exact ⟨h.erase_hidden hid, by simp [Observed.operator?]⟩
  | cancel hholder =>
    rw [h.seen id hholder] at hid
    cases hid
  | reset => exact ⟨h.erase_hidden hid, by simp⟩

end Abreast

/-! ## Taking the diverted streams out -/

section Step

variable (codecs : Codecs) (diversion : Option HubTransport) (caution : CautionRelay)
variable (authority : String)

/-- A request that does not go out performs no action that reaches the indexer. -/
theorem spares_handle {status : MixnetStatus} {req : Request} (world : World)
    (h : egress codecs diversion caution status req = none) :
    ∀ action ∈ (handle codecs world diversion caution status req).trace,
      action.reachesOperator = false := by
  have hnone : operated (handle codecs world diversion caution status req).trace = [] := by
    rw [operated_handle, h]
    rfl
  intro action hmem
  exact (Bool.not_eq_true _).mp (List.filter_eq_nil_iff.mp hnone action hmem)

/-- The requests of hidden streams do not go out. -/
def Diverts (hidden : StreamId → Bool) (e : Event) : Prop :=
  ∀ id req status world, e = .request id req status world → hidden id = true →
    egress codecs diversion caution status req = none

/-- What is left without the hidden streams, and shows nothing of theirs. -/
theorem purge (hidden : StreamId → Bool) :
    Purge (step codecs diversion caution authority)
      (Diverts codecs diversion caution hidden) (keeps hidden) (shows hidden)
      Observed.operator? (Abreast hidden) where
  kept := by
    intro s s₀ e s' o h _ hkeeps hstep
    cases e with
    | tick d =>
      simp only [step, Option.map_eq_some_iff] at hstep
      rcases hstep with ⟨next, hpool, heq⟩
      cases heq
      refine ⟨{ s₀ with pool := next.1 }, ?_, h.repool _, by simp⟩
      simp [step, h.pool, hpool]
    | close upstream =>
      simp only [step, Option.map_eq_some_iff] at hstep
      rcases hstep with ⟨next, hpool, heq⟩
      cases heq
      refine ⟨{ s₀ with pool := next.1 }, ?_, h.repool _, by simp⟩
      simp [step, h.pool, hpool]
    | request id req status world =>
      have hid : hidden id = false := by simpa [keeps, Event.stream?] using hkeeps
      have hlookup := h.streams id hid
      unfold step at hstep
      cases hstream : s.streams.lookup id with
      | some stream => simp [hstream] at hstep
      | none =>
        simp only [hstream, Option.some.injEq, Prod.mk.injEq] at hstep
        rcases hstep with ⟨rfl, rfl⟩
        refine ⟨_, ?_, h.insert hid _, by simp [shows, hid]⟩
        simp only [step, hlookup, hstream]
    | stream id e =>
      have hid : hidden id = false := by simpa [keeps, Event.stream?] using hkeeps
      have hlookup := h.streams id hid
      unfold step at hstep
      cases hstream : s.streams.lookup id with
      | none => simp [hstream] at hstep
      | some stream =>
        simp only [hstream] at hstep
        have hadvanced := advanced_iff.mp hstep
        rcases hadvanced.kept h hid with ⟨s₀', hadvanced₀, habreast⟩
        refine ⟨s₀', ?_, habreast, ?_⟩
        · simp only [step, hlookup, hstream]
          exact advanced_iff.mpr hadvanced₀
        · intro x hx
          simp [shows, hadvanced.stream x hx, hid]
  purged := by
    intro s s₀ e s' o h hdiverts hkeeps hstep
    cases e with
    | tick d => simp [keeps, Event.stream?] at hkeeps
    | close upstream => simp [keeps, Event.stream?] at hkeeps
    | request id req status world =>
      have hid : hidden id = true := by simpa [keeps, Event.stream?] using hkeeps
      have hspares := spares_handle codecs diversion caution world
        (hdiverts id req status world rfl hid)
      unfold step at hstep
      cases hstream : s.streams.lookup id with
      | some stream => simp [hstream] at hstep
      | none =>
        simp only [hstream, Option.some.injEq, Prod.mk.injEq] at hstep
        rcases hstep with ⟨rfl, rfl⟩
        exact ⟨h.insert_hidden hid hspares, by simp [shows, hid, Observed.operator?]⟩
    | stream id e =>
      have hid : hidden id = true := by simpa [keeps, Event.stream?] using hkeeps
      unfold step at hstep
      cases hstream : s.streams.lookup id with
      | none => simp [hstream] at hstep
      | some stream =>
        simp only [hstream] at hstep
        have hadvanced := advanced_iff.mp hstep
        rcases hadvanced.alone h hid hstream with ⟨habreast, hunseen⟩
        refine ⟨habreast, ?_⟩
        intro x hx
        exact ⟨by simp [shows, hadvanced.stream x hx, hid], hunseen x hx⟩

/-- However the streams of a connection are interleaved, and whatever the hub and the indexer
answer: without those whose requests do not go out, the others do, show and answer at every
moment what they did with them, and the indexer sees what it saw. -/
theorem diverted_unseen {hidden : StreamId → Bool} {es : List Event} {s : WalletConnection}
    {t : List Observed}
    (h : execute (step codecs diversion caution authority) initial es = some (s, t))
    (hdiverts : ∀ e ∈ es, Diverts codecs diversion caution hidden e) :
    (∃ s', execute (step codecs diversion caution authority) initial (es.filter (keeps hidden)) =
      some (s', t.filter (shows hidden))) ∧
    (t.filter (shows hidden)).filterMap Observed.operator? = t.filterMap Observed.operator? := by
  have hpurge := purge codecs diversion caution authority hidden
  rcases (hpurge.execute_filter .initial hdiverts h).1 with ⟨s', hrun, -⟩
  exact ⟨⟨s', hrun⟩, hpurge.sameView .initial hdiverts h⟩

end Step

/-- A method that is passed through. -/
def latestBlock : Request where
  method := "POST"
  uri := ⟨none, none, some ⟨"/cash.z.wallet.sdk.rpc.CompactTxStreamer/GetLatestBlock", none⟩⟩
  headers := ⟨[]⟩
  body := .empty

/-- Two streams of a connection, by turns. -/
def twoStreams : List Event :=
  [.request 1 latestBlock .initial indexerUp, .stream 1 (.call .get),
    .request 3 lookupEmptyV1 .initial indexerUp, .stream 3 .act, .tick 20,
    .stream 1 (.call (.connected false)), .stream 3 .act, .stream 3 .finish, .stream 1 .act,
    .stream 1 .act, .stream 1 .finish]

/-- A lookup that is answered while the indexer is dialled for another request. -/
theorem diverted_unseen_lookup :
    ∃ s t s', execute (step protoCodecs (some (.http ⟨"127.0.0.1:8090"⟩)) ⟨false, ""⟩ "127.0.0.1:9067")
        initial twoStreams = some (s, t) ∧
      execute (step protoCodecs (some (.http ⟨"127.0.0.1:8090"⟩)) ⟨false, ""⟩ "127.0.0.1:9067")
        initial (twoStreams.filter (keeps (· = 3))) = some (s', t.filter (shows (· = 3))) ∧
      (t.filter (shows (· = 3))).filterMap Observed.operator? = t.filterMap Observed.operator? ∧
      t.filterMap Observed.operator? =
        [.dialled 0, .sent (some 0) (retarget ⟨"127.0.0.1:9067"⟩ latestBlock)] := by
  have hrun : execute (step protoCodecs (some (.http ⟨"127.0.0.1:8090"⟩)) ⟨false, ""⟩
      "127.0.0.1:9067") initial twoStreams = some (_, _) := rfl
  have hdiverts : ∀ e ∈ twoStreams,
      Diverts protoCodecs (some (.http ⟨"127.0.0.1:8090"⟩)) ⟨false, ""⟩ (· = 3) e := by
    intro e he id req status world heq hid
    obtain rfl : id = 3 := of_decide_eq_true hid
    obtain rfl : req = lookupEmptyV1 := by
      rw [heq] at he
      simp [twoStreams] at he
      exact he.1
    unfold egress
    rw [show routeFor lookupEmptyV1.uri.path = .getTransaction by decide]
    rfl
  rcases diverted_unseen _ _ _ _ hrun hdiverts with ⟨⟨s', hkept⟩, hseen⟩
  exact ⟨_, _, s', hrun, hkept, hseen, rfl⟩

/-! ## What goes out, and over what -/

/-- The stream shows that a request arrived, or was sent. -/
def Deed.counts : Deed → Bool
  | .arrived _ _ => true
  | .did _ (.sendRequest _) => true
  | _ => false

/-- Nothing arrived on a stream since, nor was sent. -/
def Quiet (id : StreamId) (back : List Observed) : Prop :=
  ∀ x ∈ back, x.stream = id → x.what.counts = false

theorem Quiet.append {id : StreamId} {back o : List Observed} (h : Quiet id back)
    (ho : Quiet id o) : Quiet id (back ++ o) := by
  intro x hx hid
  rcases List.mem_append.mp hx with hx | hx
  · exact h x hx hid
  · exact ho x hx hid

theorem quiet_of_ne {id other : StreamId} {o : List Observed} (ho : ∀ x ∈ o, x.stream = id)
    (hne : other ≠ id) : Quiet other o := by
  intro x hx hother
  exact absurd (hother.symm.trans (ho x hx)) hne

theorem quiet_pool (id owner : StreamId) (o : List UpstreamPool.Observed) :
    Quiet id (o.map fun x => ⟨owner, .pool x⟩) := by
  intro x hx _
  rcases List.mem_map.mp hx with ⟨_, -, rfl⟩
  rfl

section Step

variable (codecs : Codecs) (diversion : Option HubTransport) (caution : CautionRelay)
variable (authority : String)

/-- The last request of a stream goes out as {lit}`outbound`, and has not been sent. -/
def Awaits (t : List Observed) (id : StreamId) (outbound : Request) (back : List Observed) : Prop :=
  ∃ front req status, t = front ++ ⟨id, .arrived req status⟩ :: back ∧ Quiet id back ∧
    egress codecs diversion caution status req = some outbound

/-- What a stream has still to do about the indexer. -/
inductive Due (t : List Observed) (id : StreamId) (stream : Stream) : Prop where
  | nothing : operated stream.todo = [] → Due t id stream
  | calls {outbound back} : Awaits codecs diversion caution t id outbound back →
      operated stream.todo = goesOut stream.world (some outbound) → Due t id stream
  | sends {outbound back upstream} : Awaits codecs diversion caution t id outbound back →
      operated stream.todo = [.sendRequest (retarget ⟨authority⟩ outbound)] →
      stream.upstream = some upstream → ⟨id, .pool (.returned (.ok upstream))⟩ ∈ back →
      Due t id stream

/-- Every request that is sent is the last that arrived on its stream, as it goes out, for the
first time, and over the connection that the pool gave it. -/
def Forwarded (t : List Observed) : Prop :=
  ∀ pre id upstream r post, t = pre ++ ⟨id, .did upstream (.sendRequest r)⟩ :: post →
    ∃ outbound back connection, Awaits codecs diversion caution pre id outbound back ∧
      r = retarget ⟨authority⟩ outbound ∧ upstream = some connection ∧
      ⟨id, .pool (.returned (.ok connection))⟩ ∈ back

/-- What every step keeps. -/
structure Kept (t : List Observed) (s : WalletConnection) : Prop where
  due : ∀ id stream, s.streams.lookup id = some stream →
    Due codecs diversion caution authority t id stream
  forwarded : Forwarded codecs diversion caution authority t

variable {codecs diversion caution authority} {t o : List Observed} {s s' : WalletConnection}
variable {id : StreamId} {stream : Stream}

theorem Awaits.append {outbound : Request} {back : List Observed}
    (h : Awaits codecs diversion caution t id outbound back) (ho : Quiet id o) :
    Awaits codecs diversion caution (t ++ o) id outbound (back ++ o) := by
  rcases h with ⟨front, req, status, rfl, hquiet, hegress⟩
  exact ⟨front, req, status, by simp, hquiet.append ho, hegress⟩

theorem Due.append (h : Due codecs diversion caution authority t id stream) (ho : Quiet id o) :
    Due codecs diversion caution authority (t ++ o) id stream := by
  cases h with
  | nothing hnone => exact .nothing hnone
  | calls hawaits htodo => exact .calls (hawaits.append ho) htodo
  | sends hawaits htodo hupstream hgiven =>
    exact .sends (hawaits.append ho) htodo hupstream (List.mem_append_left _ hgiven)

/-- What does not send leaves the sent requests as they were. -/
theorem Forwarded.append (h : Forwarded codecs diversion caution authority t)
    (ho : ∀ x ∈ o, ∀ upstream r, x.what ≠ .did upstream (.sendRequest r)) :
    Forwarded codecs diversion caution authority (t ++ o) := by
  intro pre id upstream r post hsplit
  rcases split_of_append hsplit with ⟨rest, ht, -⟩ | ⟨front, -, ho'⟩
  · exact h pre id upstream r rest ht
  · refine absurd rfl (ho ⟨id, .did upstream (.sendRequest r)⟩ ?_ upstream r)
    rw [ho']
    simp

theorem Forwarded.append_pool (h : Forwarded codecs diversion caution authority t)
    (owner : StreamId) (o : List UpstreamPool.Observed) :
    Forwarded codecs diversion caution authority (t ++ o.map fun x => ⟨owner, .pool x⟩) := by
  apply h.append
  intro x hx upstream r heq
  rcases List.mem_map.mp hx with ⟨_, -, rfl⟩
  cases heq

/-- The other streams have still to do what they had. -/
theorem Kept.others (h : Kept codecs diversion caution authority t s)
    (ho : ∀ x ∈ o, x.stream = id) {other : StreamId} (hne : other ≠ id) {stream : Stream}
    (hlookup : s.streams.lookup other = some stream) :
    Due codecs diversion caution authority (t ++ o) other stream :=
  (h.due other stream hlookup).append (quiet_of_ne ho hne)

/-- The agreed answer of the pool. -/
theorem poolGet_of_agrees {world : World} {result : Except String UpstreamPool.Connection}
    (h : agrees authority world result = true) :
    (∃ connection, result = .ok connection ∧ world.poolGet = .ok ⟨authority⟩) ∨
      ∃ err, result = .error err ∧ world.poolGet = .error err := by
  unfold agrees at h
  split at h
  · next connection =>
    split at h
    · next upstream hpool => exact .inl ⟨connection, rfl, by rw [hpool, of_decide_eq_true h]⟩
    · cases h
  · next err =>
    split at h
    · cases h
    · next err' hpool => exact .inr ⟨err, rfl, by rw [hpool, of_decide_eq_true h]⟩

theorem mem_of_returned {o : List UpstreamPool.Observed}
    {result : Except String UpstreamPool.Connection} (h : returned? o = some result) :
    .returned result ∈ o := by
  unfold returned? at h
  rcases List.exists_of_findSome?_eq_some h with ⟨x, hx, hshown⟩
  split at hshown
  · cases hshown
    exact hx
  · cases hshown

/-- A stream that performs an action. -/
theorem Due.act {action : Action} {later : List Action}
    (h : Due codecs diversion caution authority t id stream) (hne : action ≠ .poolGet)
    (htodo : stream.todo = action :: later) :
    Due codecs diversion caution authority (t ++ [⟨id, .did stream.upstream action⟩]) id
        { stream with todo := later } ∧
      ∀ r, action = .sendRequest r → ∃ outbound back connection,
        Awaits codecs diversion caution t id outbound back ∧ r = retarget ⟨authority⟩ outbound ∧
          stream.upstream = some connection ∧
          ⟨id, .pool (.returned (.ok connection))⟩ ∈ back := by
  cases hreaches : action.reachesOperator with
  | false =>
    have hquiet : Quiet id [⟨id, .did stream.upstream action⟩] := by
      intro x hx _
      obtain rfl := List.mem_singleton.mp hx
      cases action with
      | sendRequest r => cases hreaches
      | _ => rfl
    have hoperated : operated stream.todo = operated later := by
      rw [htodo, operated, List.filter_cons_of_neg (by simp [hreaches])]
      rfl
    constructor
    · cases h with
      | nothing hnone => exact .nothing (hoperated ▸ hnone)
      | calls hawaits hcalls => exact .calls (hawaits.append hquiet) (hoperated ▸ hcalls)
      | sends hawaits hsends hupstream hgiven =>
        exact .sends (hawaits.append hquiet) (hoperated ▸ hsends) hupstream
          (List.mem_append_left _ hgiven)
    · intro r heq
      rw [heq] at hreaches
      cases hreaches
  | true =>
    have hoperated : operated stream.todo = action :: operated later := by
      rw [htodo, operated, List.filter_cons_of_pos hreaches]
      rfl
    cases h with
    | nothing hnone =>
      rw [hnone] at hoperated
      cases hoperated
    | calls hawaits hcalls =>
      rw [hcalls] at hoperated
      exact absurd (List.cons.inj hoperated).1.symm hne
    | sends hawaits hsends hupstream hgiven =>
      rw [hsends] at hoperated
      rcases List.cons.inj hoperated with ⟨rfl, hlater⟩
      refine ⟨.nothing hlater.symm, ?_⟩
      intro r heq
      cases heq
      exact ⟨_, _, _, hawaits, rfl, hupstream, hgiven⟩

/-- A stream whose call to the pool returns. -/
theorem Due.settles {later : List Action} {o : List UpstreamPool.Observed}
    {result : Except String UpstreamPool.Connection}
    (h : Due codecs diversion caution authority t id stream)
    (htodo : stream.todo = .poolGet :: later) (hreturned : returned? o = some result)
    (hagrees : agrees authority stream.world result = true) :
    Due codecs diversion caution authority (t ++ o.map fun x => ⟨id, .pool x⟩) id
      { stream with todo := later, upstream := result.toOption } := by
  have hoperated : operated stream.todo = .poolGet :: operated later := by
    rw [htodo]
    rfl
  cases h with
  | nothing hnone =>
    rw [hnone] at hoperated
    cases hoperated
  | sends hawaits hsends =>
    rw [hsends] at hoperated
    cases hoperated
  | @calls outbound back hawaits hcalls =>
    rw [hcalls] at hoperated
    have hlater := (List.cons.inj hoperated).2
    rcases poolGet_of_agrees hagrees with ⟨connection, rfl, hpool⟩ | ⟨err, rfl, hpool⟩
    · rw [hpool] at hlater
      refine .sends (hawaits.append (quiet_pool id id o)) hlater.symm rfl ?_
      apply List.mem_append_right
      exact List.mem_map.mpr ⟨_, mem_of_returned hreturned, rfl⟩
    · rw [hpool] at hlater
      exact .nothing hlater.symm

/-- A step of a stream. -/
theorem Kept.advance {e : StreamEvent} (h : Kept codecs diversion caution authority t s)
    (hlookup : s.streams.lookup id = some stream)
    (hadvanced : Advanced authority s id stream e s' o) :
    Kept codecs diversion caution authority (t ++ o) s' := by
  have hdue := h.due id stream hlookup
  have hothers {other stream'} (hne : other ≠ id)
      (hother : s.streams.lookup other = some stream') :
      Due codecs diversion caution authority (t ++ o) other stream' :=
    h.others hadvanced.stream hne hother
  have hinsert {stream' : Stream} (hid : Due codecs diversion caution authority (t ++ o) id stream')
      (other : StreamId) (found : Stream)
      (hfound : (s.streams.insert id stream').lookup other = some found) :
      Due codecs diversion caution authority (t ++ o) other found := by
    by_cases heq : other = id
    · rw [heq, Finmap.lookup_insert] at hfound
      cases hfound
      exact heq ▸ hid
    · rw [Finmap.lookup_insert_of_ne _ heq] at hfound
      exact hothers heq hfound
  have herase (other : StreamId) (found : Stream)
      (hfound : (s.streams.erase id).lookup other = some found) :
      Due codecs diversion caution authority (t ++ o) other found := by
    by_cases heq : other = id
    · rw [heq, Finmap.lookup_erase] at hfound
      cases hfound
    · rw [Finmap.lookup_erase_ne heq] at hfound
      exact hothers heq hfound
  cases hadvanced with
  | @act action later hne htodo =>
    rcases hdue.act hne htodo with ⟨hdue', hsends⟩
    refine ⟨hinsert hdue', ?_⟩
    intro pre owner upstream r post hsplit
    rcases split_of_append hsplit with ⟨rest, ht, -⟩ | ⟨front, hpre, ho⟩
    · exact h.forwarded pre owner upstream r rest ht
    · cases front with
      | nil =>
        cases ho
        rw [hpre, List.append_nil]
        exact hsends r rfl
      | cons y front => simp at ho
  | waits htodo hmay hpool hreturned =>
    refine ⟨?_, h.forwarded.append_pool _ _⟩
    intro other found hfound
    by_cases heq : other = id
    · subst heq
      rw [hlookup] at hfound
      cases hfound
      exact hdue.append (quiet_pool _ _ _)
    · exact hothers heq hfound
  | settles htodo hmay hpool hreturned hagrees =>
    exact ⟨hinsert (hdue.settles htodo hreturned hagrees), h.forwarded.append_pool _ _⟩
  | finish htodo =>
    refine ⟨herase, h.forwarded.append ?_⟩
    intro x hx upstream r heq
    obtain rfl := List.mem_singleton.mp hx
    cases heq
  | cancel hholder hpool => exact ⟨herase, h.forwarded.append_pool _ _⟩
  | reset hholder => exact ⟨herase, h.forwarded.append (by simp)⟩

theorem Kept.step {e : Event} (h : Kept codecs diversion caution authority t s)
    (hstep : step codecs diversion caution authority s e = some (s', o)) :
    Kept codecs diversion caution authority (t ++ o) s' := by
  cases e with
  | tick d =>
    simp only [WalletConnection.step, Option.map_eq_some_iff] at hstep
    rcases hstep with ⟨next, hpool, heq⟩
    cases heq
    rw [List.append_nil]
    exact ⟨h.due, h.forwarded⟩
  | close upstream =>
    simp only [WalletConnection.step, Option.map_eq_some_iff] at hstep
    rcases hstep with ⟨next, hpool, heq⟩
    cases heq
    rw [List.append_nil]
    exact ⟨h.due, h.forwarded⟩
  | request id req status world =>
    unfold WalletConnection.step at hstep
    cases hstream : s.streams.lookup id with
    | some stream => simp [hstream] at hstep
    | none =>
      simp only [hstream, Option.some.injEq, Prod.mk.injEq] at hstep
      rcases hstep with ⟨rfl, rfl⟩
      constructor
      · intro other found hfound
        by_cases heq : other = id
        · subst heq
          rw [Finmap.lookup_insert] at hfound
          cases hfound
          have hoperated : operated (handle codecs world diversion caution status req).trace =
              goesOut world (egress codecs diversion caution status req) := operated_handle req
          cases hegress : egress codecs diversion caution status req with
          | none =>
            rw [hegress] at hoperated
            exact .nothing hoperated
          | some outbound =>
            rw [hegress] at hoperated
            have hquiet : Quiet other [] := fun _ hx => by cases hx
            exact .calls ⟨t, req, status, rfl, hquiet, hegress⟩ hoperated
        · rw [Finmap.lookup_insert_of_ne _ heq] at hfound
          exact h.others (by simp) heq hfound
      · apply h.forwarded.append
        intro x hx upstream r heq
        obtain rfl := List.mem_singleton.mp hx
        cases heq
  | stream id e =>
    unfold WalletConnection.step at hstep
    cases hstream : s.streams.lookup id with
    | none => simp [hstream] at hstep
    | some stream =>
      simp only [hstream] at hstep
      exact h.advance hstream (advanced_iff.mp hstep)

theorem kept_of_runs (h : Runs (step codecs diversion caution authority) initial t s) :
    Kept codecs diversion caution authority t s := by
  refine h.invariant ?_ fun _ hkept hstep => hkept.step hstep
  constructor
  · intro id stream hlookup
    rw [initial, Finmap.lookup_empty] at hlookup
    cases hlookup
  · intro pre id upstream r post hsplit
    simp at hsplit

/-- However the streams of a connection are interleaved, reset and answered, every request that
the indexer is sent is the last that arrived on its stream, as {lit}`egress` has it go out and
retargeted, sent once, and over the connection that the pool returned to that stream. -/
theorem forwarded_exact (h : Runs (step codecs diversion caution authority) initial t s) :
    Forwarded codecs diversion caution authority t :=
  (kept_of_runs h).forwarded

end Step

/-- On two streams, of which one sends. -/
theorem forwarded_exact_lookup :
    ∃ t s, Runs (step protoCodecs (some (.http ⟨"127.0.0.1:8090"⟩)) ⟨false, ""⟩ "127.0.0.1:9067")
        initial t s ∧
      t.filterMap Observed.operator? =
        [.dialled 0, .sent (some 0) (retarget ⟨"127.0.0.1:9067"⟩ latestBlock)] ∧
      Forwarded protoCodecs (some (.http ⟨"127.0.0.1:8090"⟩)) ⟨false, ""⟩ "127.0.0.1:9067" t := by
  have hrun := Runs.of_execute (show execute (step protoCodecs (some (.http ⟨"127.0.0.1:8090"⟩))
    ⟨false, ""⟩ "127.0.0.1:9067") initial twoStreams = some (_, _) from rfl)
  exact ⟨_, _, hrun, rfl, forwarded_exact hrun⟩

end WalletConnection

end ZeroShim
