import Mathlib.Logic.Function.Basic
import ZeroShim.Nym.Carriage
import ZeroShim.Proxy.Connection
import ZeroShim.Proxy.Errand

/-!
# From the wallets to the mixnet

The whole shim where the hub is reached over the mixnet: any number of connections of wallets,
and the one outbound path that they share.  A handler that comes to ask something of the hub
starts a call on the handle, waits for it, and goes on with what it returned; a wallet that
gives up on a request drops its call.

Main results:

- Theorem {lit}`seated_of_runs`: where each request is, and what became of its call.
-/

namespace ZeroShim

open Library

/-- A stream of some wallet. -/
structure Seat where
  connection : Nat
  stream : WalletConnection.StreamId
deriving DecidableEq, Repr

/-- A call on the handle. -/
inductive CallId where
  | submit (i : Nat)
  | lookup (i : Nat)
deriving DecidableEq, Repr

/-- The outbound path, the connections, and the call that each stream waits for.  A connection
that was not opened is one on which nothing has happened. -/
structure Relay where
  outbound : Nym.Outbound
  connections : Nat → WalletConnection
  calling : Seat → Option CallId

namespace WalletConnection

/-! ## What happens to one stream -/

/-- The stream shows that a request arrived, or was answered. -/
def Deed.bounds : Deed → Bool
  | .arrived _ _ => true
  | .answered _ => true
  | _ => false

/-- No request arrives on a stream, nor is answered. -/
def Within (id : StreamId) (o : List Observed) : Prop :=
  ∀ x ∈ o, x.stream = id → x.what.bounds = false

theorem within_pool (id owner : StreamId) (o : List UpstreamPool.Observed) :
    Within id (o.map fun x => ⟨owner, .pool x⟩) := by
  intro x hx _
  rcases List.mem_map.mp hx with ⟨_, -, rfl⟩
  rfl

section Happened

variable (codecs : Codecs) (diversion : Option HubTransport) (caution : CautionRelay)

/-- What a step of a connection does to one of its streams. -/
inductive Happened (s : WalletConnection) (e : Event) (s' : WalletConnection)
    (o : List Observed) (id : StreamId) : Prop where
  | stays : s'.streams.lookup id = s.streams.lookup id → Within id o →
      e ≠ .stream id .act → e ≠ .stream id .reset → Happened s e s' o id
  | arrives {req status world} : e = .request id req status world →
      s.streams.lookup id = none → s'.streams.lookup id =
        some ⟨world, (handle codecs world diversion caution status req).trace,
          (handle codecs world diversion caution status req).result, none⟩ →
      o = [⟨id, .arrived req status⟩] → Happened s e s' o id
  | acts {stream action later upstream} : s.streams.lookup id = some stream →
      stream.todo = action :: later →
      s'.streams.lookup id = some { stream with todo := later, upstream := upstream } →
      e = .stream id .act ∨ (action = .poolGet ∧ ∃ ce, e = .stream id (.call ce)) →
      Within id o → Happened s e s' o id
  | answers {stream} : e = .stream id .finish → s.streams.lookup id = some stream →
      stream.todo = [] →
      s'.streams.lookup id = none → o = [⟨id, .answered stream.result⟩] → Happened s e s' o id
  | resets : e = .stream id .reset → s'.streams.lookup id = none → Within id o →
      Happened s e s' o id

variable {codecs diversion caution} {authority : String} {s s' : WalletConnection} {e : Event}
variable {o : List Observed}

theorem happened_of_advanced {id : StreamId} {stream : Stream} {se : StreamEvent}
    (hstream : s.streams.lookup id = some stream) (h : Advanced authority s id stream se s' o)
    (other : StreamId) :
    Happened codecs diversion caution s (.stream id se) s' o other := by
  by_cases hother : other = id
  · subst hother
    cases h with
    | act hne htodo =>
      exact .acts hstream htodo (Finmap.lookup_insert _) (.inl rfl)
        (by simp [Within, Deed.bounds])
    | waits htodo hmay hpool hreturned =>
      exact .stays rfl (within_pool _ _ _) nofun nofun
    | settles htodo hmay hpool hreturned hagrees =>
      exact .acts hstream htodo (Finmap.lookup_insert _) (.inr ⟨rfl, _, rfl⟩)
        (within_pool _ _ _)
    | finish htodo => exact .answers rfl hstream htodo (Finmap.lookup_erase _ _) rfl
    | cancel hholder hpool => exact .resets rfl (Finmap.lookup_erase _ _) (within_pool _ _ _)
    | reset hholder => exact .resets rfl (Finmap.lookup_erase _ _) (by simp [Within])
  · have hwithin : Within other o := by
      intro x hx hstream
      exact absurd (hstream.symm.trans (h.stream x hx)) hother
    have hevent {se' : StreamEvent} : Event.stream id se ≠ .stream other se' := by
      intro heq
      cases heq
      exact hother rfl
    refine .stays ?_ hwithin hevent hevent
    cases h with
    | act | settles => exact Finmap.lookup_insert_of_ne _ hother
    | waits => rfl
    | finish | cancel | reset => exact Finmap.lookup_erase_ne hother

theorem happened_of_step
    (h : s.step codecs diversion caution authority e = some (s', o)) (id : StreamId) :
    Happened codecs diversion caution s e s' o id := by
  cases e with
  | tick d | close upstream =>
    simp only [step, Option.map_eq_some_iff] at h
    rcases h with ⟨next, -, heq⟩
    cases heq
    exact .stays rfl (by simp [Within]) (by simp) (by simp)
  | request other req status world =>
    unfold step at h
    cases hstream : s.streams.lookup other with
    | some stream => simp [hstream] at h
    | none =>
      simp only [hstream, Option.some.injEq, Prod.mk.injEq] at h
      rcases h with ⟨rfl, rfl⟩
      by_cases hid : id = other
      · subst hid
        exact .arrives rfl hstream (Finmap.lookup_insert _) rfl
      · refine .stays (Finmap.lookup_insert_of_ne _ hid) ?_ (by simp) (by simp)
        intro x hx hstream
        obtain rfl := List.mem_singleton.mp hx
        exact absurd hstream.symm hid
  | stream other se =>
    unfold step at h
    cases hstream : s.streams.lookup other with
    | none => simp [hstream] at h
    | some stream =>
      simp only [hstream] at h
      exact happened_of_advanced hstream (advanced_iff.mp h) id

/-- What happens to one stream leaves the others alone. -/
theorem others_stay {id other : StreamId} {se : StreamEvent} (hne : id ≠ other)
    (h : s.step codecs diversion caution authority (.stream other se) = some (s', o)) :
    s'.streams.lookup id = s.streams.lookup id ∧ Within id o := by
  have hnot {se' : StreamEvent} : Event.stream other se ≠ .stream id se' := by
    intro heq
    cases heq
    exact hne rfl
  cases happened_of_step h id with
  | stays hsame hwithin => exact ⟨hsame, hwithin⟩
  | arrives hevent => cases hevent
  | answers hevent | resets hevent => exact absurd hevent hnot
  | acts hsome htodo hnew hevent =>
    rcases hevent with hevent | ⟨-, ce, hevent⟩ <;> exact absurd hevent hnot

end Happened

end WalletConnection

namespace Relay

/-! ## Calls for an errand -/

/-- How a call for an errand starts. -/
def startOf : Errand → Nym.Calls.Event
  | .submit tx => .startSubmit tx
  | .lookup hash => .startLookup hash

/-- How a call is dropped. -/
def cancelOf : CallId → Nym.Calls.Event
  | .submit i => .submit i .cancel
  | .lookup i => .lookup i .cancel

/-- The call that would start next. -/
def nextCall (calls : Nym.Calls) : Errand → CallId
  | .submit _ => .submit calls.submits.length
  | .lookup _ => .lookup calls.lookups.length

/-- The call returned what an environment says. -/
def agrees (calls : Nym.Calls) (world : World) : CallId → Bool
  | .submit i =>
    match calls.submits[i]? with
    | some call =>
      match call.phase with
      | .returned result => result = world.nymSubmit call.tx
      | _ => false
    | none => false
  | .lookup i =>
    match calls.lookups[i]? with
    | some call =>
      match call.phase with
      | .returned result => result = world.nymLookup call.hash
      | _ => false
    | none => false

/-- What a call was started for. -/
def errandOf (calls : Nym.Calls) : CallId → Option Errand
  | .submit i => calls.submits[i]?.map fun call => .submit call.tx
  | .lookup i => calls.lookups[i]?.map fun call => .lookup call.hash

/-- What the calls were started for. -/
def errands (calls : Nym.Calls) : List Errand :=
  (calls.submits.map Nym.SubmitCall.tx).map .submit ++
    (calls.lookups.map Nym.LookupCall.hash).map .lookup

/-- What a step starts a call for. -/
def startedBy : Nym.Calls.Event → Option Errand
  | .startSubmit tx => some (.submit tx)
  | .startLookup hash => some (.lookup hash)
  | _ => none

/-! ## State and step -/

/-- What a run shows. -/
inductive Observed where
  | outbound (o : Nym.Outbound.Observed)
  | wallet (connection : Nat) (o : WalletConnection.Observed)
  | began (seat : Seat) (errand : Errand) (call : CallId)

/-- What can happen next. -/
inductive Event where
  | outbound (e : Nym.Outbound.Event)
  | wallet (connection : Nat) (e : WalletConnection.Event)
  /-- A handler comes to ask something of the hub. -/
  | begins (seat : Seat)
  /-- It goes on with what its call returned. -/
  | returns (seat : Seat)

def initial (policy : Nym.RotationPolicy) (hubAddresses : List Nym.Recipient)
    (gateways : List String) (timeout dispatchTimeout : Nat) : Relay where
  outbound := .initial policy hubAddresses gateways timeout dispatchTimeout
  connections _ := .initial
  calling _ := none

/-- What happens to a call only by the doing of the stream that waits for it. -/
def isOwned : Nym.Outbound.Event → Bool
  | .calls (.startSubmit _) => true
  | .calls (.startLookup _) => true
  | .calls (.submit _ .cancel) => true
  | .calls (.lookup _ .cancel) => true
  | _ => false

/-- What is handled on a stream. -/
def stream? (s : Relay) (seat : Seat) : Option WalletConnection.Stream :=
  (s.connections seat.connection).streams.lookup seat.stream

/-- What its handler asks of the hub next. -/
def next? (s : Relay) (seat : Seat) : Option Errand :=
  match s.stream? seat with
  | some stream => stream.todo.head?.bind Action.errand?
  | none => none

section Step

variable (codecs : Codecs) (caution : CautionRelay) (authority : String)

/-- A step of one connection alone. -/
def viaWallet (s : Relay) (connection : Nat) (e : WalletConnection.Event) :
    Option (Relay × List Observed) :=
  (WalletConnection.step codecs (some .nym) caution authority (s.connections connection) e).map
    fun out =>
      ({ s with connections := Function.update s.connections connection out.1 },
        out.2.map (.wallet connection))

/-- A stream stops to wait, and a call that has not returned is dropped. -/
def dropCall (s : Relay) (seat : Seat) : Relay × List Observed :=
  match s.calling seat with
  | none => (s, [])
  | some call =>
    match s.outbound.step (.calls (cancelOf call)) with
    | some out =>
      ({ s with
          outbound := out.1
          calling := Function.update s.calling seat none },
        out.2.map .outbound)
    | none => ({ s with calling := Function.update s.calling seat none }, [])

/-- One step. -/
def step (s : Relay) : Event → Option (Relay × List Observed)
  | .outbound e =>
    if isOwned e then none
    else (s.outbound.step e).map fun out => ({ s with outbound := out.1 }, out.2.map .outbound)
  | .wallet connection (.stream id .act) =>
    match s.next? ⟨connection, id⟩ with
    | some _ => none
    | none => s.viaWallet codecs caution authority connection (.stream id .act)
  | .wallet connection (.stream id .reset) =>
    let dropped := s.dropCall ⟨connection, id⟩
    (dropped.1.viaWallet codecs caution authority connection (.stream id .reset)).map fun out =>
      (out.1, dropped.2 ++ out.2)
  | .wallet connection e => s.viaWallet codecs caution authority connection e
  | .begins seat =>
    match s.calling seat, s.next? seat with
    | none, some errand =>
      (s.outbound.step (.calls (startOf errand))).map fun out =>
        ({ s with
            outbound := out.1
            calling := Function.update s.calling seat (nextCall s.outbound.calls errand) },
          .began seat errand (nextCall s.outbound.calls errand) :: out.2.map .outbound)
    | _, _ => none
  | .returns seat =>
    match s.calling seat, s.stream? seat with
    | some call, some stream =>
      if agrees s.outbound.calls stream.world call then
        { s with calling := Function.update s.calling seat none }.viaWallet codecs caution
          authority seat.connection (.stream seat.stream .act)
      else none
    | _, _ => none

end Step

/-! ## What becomes of a call -/

theorem tx_of_submit {transport transport' : Nym.Transport} {now : Nat}
    {call call' : Nym.SubmitCall} {o : List Nym.SubmitObserved}
    (h : Nym.SubmitCall.Stepped transport now call transport' call' o) : call'.tx = call.tx := by
  cases h with
  | dispatch hphase haccept =>
    unfold Nym.SubmitCall.handed Nym.SubmitCall.advance
    dsimp only
    split_ifs <;> rfl
  | frame | refuse | closed | elapsed | cancel => rfl

theorem hash_of_lookup {handle : Nym.NymHandle} {transport transport' : Nym.Transport} {now : Nat}
    {call call' : Nym.LookupCall} {o : List Nym.LookupObserved}
    (h : Nym.LookupCall.Stepped handle transport now call transport' call' o) :
    call'.hash = call.hash := by
  cases h with
  | full | silent =>
    unfold Nym.LookupCall.expire
    dsimp only
    split_ifs <;> rfl
  | build | refuse | dispatch | closed | reply | gone | cancel | cancelAwaiting => rfl

/-- A call that returned takes no step. -/
theorem step_of_returned_submit {transport : Nym.Transport} {now : Nat} {call : Nym.SubmitCall}
    {result : Except NymError Unit} (h : call.phase = .returned result) (e : Nym.SubmitEvent) :
    call.step transport now e = none := by
  cases e <;> simp [Nym.SubmitCall.step, h]

theorem step_of_returned_lookup {handle : Nym.NymHandle} {transport : Nym.Transport} {now : Nat}
    {call : Nym.LookupCall} {result : Except NymError Wire.LookupReply}
    (h : call.phase = .returned result) (e : Nym.LookupEvent) :
    call.step handle transport now e = none := by
  cases e <;> simp [Nym.LookupCall.step, h]

section Calls

variable {calls calls' : Nym.Calls} {e : Nym.Calls.Event} {o : List Nym.Calls.Observed}

theorem map_set_of_eq {α β : Type} {f : α → β} {l : List α} {i : Nat} {a a' : α}
    (h : l[i]? = some a) (hf : f a' = f a) : (l.set i a').map f = l.map f := by
  rcases List.getElem?_eq_some_iff.mp h with ⟨hlt, rfl⟩
  have hlt' : i < (l.map f).length := by simpa using hlt
  have hsame := List.set_getElem_self hlt'
  rw [List.getElem_map] at hsame
  rw [List.map_set, hf, hsame]

theorem tx_start (handle : Nym.NymHandle) (now : Nat) (tx : Bytes) :
    (Nym.SubmitCall.start handle now tx).1.tx = tx := by
  unfold Nym.SubmitCall.start
  split_ifs <;> rfl

theorem hash_begin (handle : Nym.NymHandle) (hash : Bytes) :
    (Nym.LookupCall.begin handle hash).2.1.hash = hash := by
  unfold Nym.LookupCall.begin
  split_ifs <;> rfl

/-- What a step does to the calls, as they were started. -/
theorem started_of_calls (h : calls.step e = some (calls', o)) :
    (calls'.submits.map Nym.SubmitCall.tx = calls.submits.map Nym.SubmitCall.tx ∧
        calls'.lookups.map Nym.LookupCall.hash = calls.lookups.map Nym.LookupCall.hash ∧
        startedBy e = none) ∨
      (∃ tx, e = .startSubmit tx ∧
        calls'.submits.map Nym.SubmitCall.tx = calls.submits.map Nym.SubmitCall.tx ++ [tx] ∧
        calls'.lookups = calls.lookups) ∨
      ∃ hash, e = .startLookup hash ∧ calls'.submits = calls.submits ∧
        calls'.lookups.map Nym.LookupCall.hash =
          calls.lookups.map Nym.LookupCall.hash ++ [hash] := by
  cases Nym.Calls.stepped_of_step h with
  | startSubmit tx =>
    refine .inr (.inl ⟨tx, rfl, ?_, rfl⟩)
    rw [List.map_append, List.map_singleton, tx_start]
  | startLookup hash =>
    refine .inr (.inr ⟨hash, rfl, rfl, ?_⟩)
    rw [List.map_append, List.map_singleton, hash_begin]
  | submit hcall hsubmit =>
    exact .inl ⟨map_set_of_eq hcall (tx_of_submit hsubmit), rfl, rfl⟩
  | lookup hcall hlookup =>
    exact .inl ⟨rfl, map_set_of_eq hcall (hash_of_lookup hlookup), rfl⟩
  | tick | setTargets | turn | takeFrame | inbound | loseDriver => exact .inl ⟨rfl, rfl, rfl⟩

/-- A call is told by what it was started for. -/
theorem errandOf_eq_iff {call : CallId} {errand : Errand} :
    errandOf calls call = some errand ↔
      (∃ i tx, call = .submit i ∧ errand = .submit tx ∧
        (calls.submits.map Nym.SubmitCall.tx)[i]? = some tx) ∨
      ∃ i hash, call = .lookup i ∧ errand = .lookup hash ∧
        (calls.lookups.map Nym.LookupCall.hash)[i]? = some hash := by
  cases call with
  | submit i =>
    cases hcall : calls.submits[i]? with
    | none => simp [errandOf, hcall]
    | some submit => cases errand <;> simp [errandOf, hcall]
  | lookup i =>
    cases hcall : calls.lookups[i]? with
    | none => simp [errandOf, hcall]
    | some lookup => cases errand <;> simp [errandOf, hcall]

/-- A call stays what it was started for. -/
theorem errandOf_stays (h : calls.step e = some (calls', o)) {call : CallId} {errand : Errand}
    (hcall : errandOf calls call = some errand) : errandOf calls' call = some errand := by
  rw [errandOf_eq_iff] at hcall ⊢
  have grows {l l' : List Bytes} {new : Bytes} {i : Nat} {x : Bytes} (hl : l' = l ++ [new])
      (hx : l[i]? = some x) : l'[i]? = some x := by
    rw [hl, List.getElem?_append_left (List.getElem?_eq_some_iff.mp hx).1, hx]
  rcases hcall with ⟨i, tx, hid, herrand, htx⟩ | ⟨i, hash, hid, herrand, hhash⟩
  · refine .inl ⟨i, tx, hid, herrand, ?_⟩
    rcases started_of_calls h with ⟨hsame, -, -⟩ | ⟨_, -, hgrew, -⟩ | ⟨_, -, hsame, -⟩
    · rw [hsame, htx]
    · exact grows hgrew htx
    · rw [hsame, htx]
  · refine .inr ⟨i, hash, hid, herrand, ?_⟩
    rcases started_of_calls h with ⟨-, hsame, -⟩ | ⟨_, -, -, hsame⟩ | ⟨_, -, -, hgrew⟩
    · rw [hsame, hhash]
    · rw [hsame, hhash]
    · exact grows hgrew hhash

theorem submit_stays (h : calls.step e = some (calls', o)) {i : Nat} {call : Nym.SubmitCall}
    {result : Except NymError Unit} (hcall : calls.submits[i]? = some call)
    (hreturned : call.phase = .returned result) : calls'.submits[i]? = some call := by
  cases e with
  | submit j se =>
    by_cases hji : j = i
    · subst hji
      simp [Nym.Calls.step, hcall, step_of_returned_submit hreturned] at h
    · cases Nym.Calls.stepped_of_step h with
      | submit hother hsubmit => exact (List.getElem?_set_ne hji).trans hcall
  | startSubmit tx =>
    cases h
    exact (List.getElem?_append_left (List.getElem?_eq_some_iff.mp hcall).1).trans hcall
  | tick d | setTargets n | turn a | takeFrame | inbound message | loseDriver | startLookup hash
  | lookup j le =>
    cases Nym.Calls.stepped_of_step h
    exact hcall

theorem lookup_stays (h : calls.step e = some (calls', o)) {i : Nat} {call : Nym.LookupCall}
    {result : Except NymError Wire.LookupReply} (hcall : calls.lookups[i]? = some call)
    (hreturned : call.phase = .returned result) : calls'.lookups[i]? = some call := by
  cases e with
  | lookup j le =>
    by_cases hji : j = i
    · subst hji
      simp [Nym.Calls.step, hcall, step_of_returned_lookup hreturned] at h
    · cases Nym.Calls.stepped_of_step h with
      | lookup hother hlookup => exact (List.getElem?_set_ne hji).trans hcall
  | startLookup hash =>
    cases h
    exact (List.getElem?_append_left (List.getElem?_eq_some_iff.mp hcall).1).trans hcall
  | tick d | setTargets n | turn a | takeFrame | inbound message | loseDriver | startSubmit tx
  | submit j se =>
    cases Nym.Calls.stepped_of_step h
    exact hcall

theorem agrees_submit_iff {world : World} {i : Nat} :
    agrees calls world (.submit i) = true ↔ ∃ call, calls.submits[i]? = some call ∧
      call.phase = .returned (world.nymSubmit call.tx) := by
  cases hcall : calls.submits[i]? with
  | none => simp [agrees, hcall]
  | some call => cases hphase : call.phase <;> simp [agrees, hcall, hphase]

theorem agrees_lookup_iff {world : World} {i : Nat} :
    agrees calls world (.lookup i) = true ↔ ∃ call, calls.lookups[i]? = some call ∧
      call.phase = .returned (world.nymLookup call.hash) := by
  cases hcall : calls.lookups[i]? with
  | none => simp [agrees, hcall]
  | some call => cases hphase : call.phase <;> simp [agrees, hcall, hphase]

/-- What a call returned stays. -/
theorem agrees_stays (h : calls.step e = some (calls', o)) {call : CallId} {world : World}
    (hagrees : agrees calls world call = true) : agrees calls' world call = true := by
  cases call with
  | submit i =>
    rcases agrees_submit_iff.mp hagrees with ⟨call, hcall, hreturned⟩
    exact agrees_submit_iff.mpr ⟨call, submit_stays h hcall hreturned, hreturned⟩
  | lookup i =>
    rcases agrees_lookup_iff.mp hagrees with ⟨call, hcall, hreturned⟩
    exact agrees_lookup_iff.mpr ⟨call, lookup_stays h hcall hreturned, hreturned⟩

end Calls

/-- Calls are only added, and stay what they are once they returned. -/
structure Onward (calls calls' : Nym.Calls) : Prop where
  errandOf : ∀ {call errand}, errandOf calls call = some errand →
    Relay.errandOf calls' call = some errand
  agrees : ∀ {world call}, agrees calls world call = true → Relay.agrees calls' world call = true

theorem Onward.refl (calls : Nym.Calls) : Onward calls calls := ⟨id, id⟩

section Outbound

variable {outbound outbound' : Nym.Outbound} {e : Nym.Outbound.Event}
variable {o : List Nym.Outbound.Observed}

/-- The driver and the supervisor leave the calls alone. -/
theorem calls_of_outbound (h : outbound.step e = some (outbound', o)) :
    (outbound'.calls.submits = outbound.calls.submits ∧
        outbound'.calls.lookups = outbound.calls.lookups ∧ ∀ ce, e ≠ .calls ce) ∨
      ∃ ce co, e = .calls ce ∧ outbound.calls.step ce = some (outbound'.calls, co) := by
  cases Nym.Outbound.stepped_of_step h with
  | @calls ce calls co hdriven hcalls => exact .inr ⟨ce, co, rfl, hcalls⟩
  | driver hdriver => exact .inl ⟨rfl, rfl, nofun⟩
  | store => exact .inl ⟨rfl, rfl, nofun⟩
  | supervisor hsupervisor => exact .inl ⟨rfl, rfl, nofun⟩

theorem onward_of_outbound (h : outbound.step e = some (outbound', o)) :
    Onward outbound.calls outbound'.calls := by
  rcases calls_of_outbound h with ⟨hsubmits, hlookups, -⟩ | ⟨ce, co, -, hcalls⟩
  · constructor
    · intro call errand hcall
      cases call <;> simpa [errandOf, hsubmits, hlookups] using hcall
    · intro world call hagrees
      cases call <;> simpa [agrees, hsubmits, hlookups] using hagrees
  · exact ⟨errandOf_stays hcalls, agrees_stays hcalls⟩

/-- What starts no call leaves what the calls were started for. -/
theorem errands_of_outbound (h : outbound.step e = some (outbound', o))
    (hnone : ∀ ce, e = .calls ce → startedBy ce = none) :
    errands outbound'.calls = errands outbound.calls := by
  rcases calls_of_outbound h with ⟨hsubmits, hlookups, -⟩ | ⟨ce, co, rfl, hcalls⟩
  · unfold errands
    rw [hsubmits, hlookups]
  · unfold errands
    rcases started_of_calls hcalls with ⟨hsubmits, hlookups, -⟩ | ⟨tx, rfl, -⟩ | ⟨hash, rfl, -⟩
    · rw [hsubmits, hlookups]
    · cases hnone _ rfl
    · cases hnone _ rfl

/-- What starts a call adds its errand. -/
theorem errands_of_start {errand : Errand}
    (h : outbound.step (.calls (startOf errand)) = some (outbound', o)) :
    (errands outbound'.calls).Perm (errand :: errands outbound.calls) ∧
      errandOf outbound'.calls (nextCall outbound.calls errand) = some errand := by
  rcases calls_of_outbound h with ⟨-, -, hnone⟩ | ⟨ce, co, heq, hcalls⟩
  · exact absurd rfl (hnone _)
  · cases heq
    rw [errandOf_eq_iff]
    unfold errands
    rcases started_of_calls hcalls with ⟨-, -, hnone⟩ | ⟨tx, hstart, hsubmits, hlookups⟩ |
      ⟨hash, hstart, hsubmits, hlookups⟩
    · cases errand <;> cases hnone
    · cases errand with
      | submit tx' =>
        cases hstart
        refine ⟨?_, .inl ⟨_, _, rfl, rfl, ?_⟩⟩
        · rw [hsubmits, hlookups, List.map_append, List.append_assoc]
          exact List.perm_middle
        · rw [hsubmits]
          simp
      | lookup hash => cases hstart
    · cases errand with
      | submit tx => cases hstart
      | lookup hash' =>
        cases hstart
        refine ⟨?_, .inr ⟨_, _, rfl, rfl, ?_⟩⟩
        · rw [hsubmits, hlookups, List.map_append, ← List.append_assoc]
          exact List.perm_append_singleton _ _
        · rw [hlookups]
          simp

end Outbound

/-! ## What a step can do -/

section Step

variable (codecs : Codecs) (caution : CautionRelay) (authority : String)

/-- The effects of a step. -/
inductive Stepped (s : Relay) : Relay → List Observed → Prop where
  | outbound {e outbound o} : isOwned e = false → s.outbound.step e = some (outbound, o) →
      Stepped s { s with outbound } (o.map .outbound)
  | wallet {connection e wallet o} :
      (s.connections connection).step codecs (some .nym) caution authority e =
        some (wallet, o) →
      (∀ id, e = .stream id .act → s.next? ⟨connection, id⟩ = none) →
      (∀ id, e = .stream id .reset → s.calling ⟨connection, id⟩ = none) →
      Stepped s { s with connections := Function.update s.connections connection wallet }
        (o.map (.wallet connection))
  | drops {connection id call wallet o outbound o'} : s.calling ⟨connection, id⟩ = some call →
      (s.connections connection).step codecs (some .nym) caution authority (.stream id .reset) =
        some (wallet, o) →
      s.outbound.step (.calls (cancelOf call)) = some (outbound, o') ∨
        outbound = s.outbound ∧ o' = [] →
      Stepped s
        { outbound
          connections := Function.update s.connections connection wallet
          calling := Function.update s.calling ⟨connection, id⟩ none }
        (o'.map .outbound ++ o.map (.wallet connection))
  | begins {seat errand outbound o} : s.calling seat = none → s.next? seat = some errand →
      s.outbound.step (.calls (startOf errand)) = some (outbound, o) →
      Stepped s
        { s with
          outbound
          calling := Function.update s.calling seat (nextCall s.outbound.calls errand) }
        (.began seat errand (nextCall s.outbound.calls errand) :: o.map .outbound)
  | returns {seat call stream wallet o} : s.calling seat = some call →
      s.stream? seat = some stream → agrees s.outbound.calls stream.world call = true →
      (s.connections seat.connection).step codecs (some .nym) caution authority
        (.stream seat.stream .act) = some (wallet, o) →
      Stepped s
        { s with
          connections := Function.update s.connections seat.connection wallet
          calling := Function.update s.calling seat none }
        (o.map (.wallet seat.connection))

variable {codecs caution authority} {s s' : Relay} {e : Event} {o : List Observed}

theorem of_viaWallet {connection : Nat} {we : WalletConnection.Event}
    (h : s.viaWallet codecs caution authority connection we = some (s', o)) :
    ∃ wallet o', (s.connections connection).step codecs (some .nym) caution authority we =
        some (wallet, o') ∧
      s' = { s with connections := Function.update s.connections connection wallet } ∧
      o = o'.map (.wallet connection) := by
  rcases Option.map_eq_some_iff.mp h with ⟨⟨wallet, o'⟩, hstep, heq⟩
  cases heq
  exact ⟨wallet, o', hstep, rfl, rfl⟩

theorem stepped_of_step (h : s.step codecs caution authority e = some (s', o)) :
    Stepped codecs caution authority s s' o := by
  unfold step at h
  split at h
  · next e =>
    split_ifs at h with howned
    rcases Option.map_eq_some_iff.mp h with ⟨⟨outbound, o'⟩, hstep, heq⟩
    cases heq
    exact .outbound (by simpa using howned) hstep
  · next connection id =>
    split at h
    · cases h
    · next hnext =>
      rcases of_viaWallet h with ⟨wallet, o', hstep, rfl, rfl⟩
      refine .wallet hstep ?_ nofun
      intro other heq
      cases heq
      exact hnext
  · next connection id =>
    rcases Option.map_eq_some_iff.mp h with ⟨⟨s₁, o₁⟩, hwallet, heq⟩
    cases heq
    unfold dropCall at hwallet ⊢
    split at hwallet
    · next hcalling =>
      rcases of_viaWallet hwallet with ⟨wallet, o', hstep, rfl, rfl⟩
      refine .wallet hstep nofun ?_
      intro other heq
      cases heq
      exact hcalling
    · next call hcalling =>
      split at hwallet
      · next out hcancel =>
        rcases of_viaWallet hwallet with ⟨wallet, o', hstep, rfl, rfl⟩
        exact .drops hcalling hstep (.inl hcancel)
      · next hcancel =>
        rcases of_viaWallet hwallet with ⟨wallet, o', hstep, rfl, rfl⟩
        exact .drops hcalling hstep (.inr ⟨rfl, rfl⟩)
  · next connection we hact hreset =>
    rcases of_viaWallet h with ⟨wallet, o', hstep, rfl, rfl⟩
    exact .wallet hstep (fun id heq => absurd heq (hact id)) fun id heq => absurd heq (hreset id)
  · next seat =>
    split at h
    · next errand hcalling hnext =>
      rcases Option.map_eq_some_iff.mp h with ⟨⟨outbound, o'⟩, hstep, heq⟩
      cases heq
      exact .begins hcalling hnext hstep
    · cases h
  · next seat =>
    split at h
    · next call stream hcalling hstream =>
      split_ifs at h with hagrees
      rcases of_viaWallet h with ⟨wallet, o', hstep, rfl, rfl⟩
      exact .returns hcalling hstream hagrees hstep
    · cases h

theorem onward_of_stepped (h : Stepped codecs caution authority s s' o) :
    Onward s.outbound.calls s'.outbound.calls := by
  cases h with
  | outbound howned hstep => exact onward_of_outbound hstep
  | wallet | returns => exact Onward.refl _
  | drops hcalling hwallet hcancel =>
    rcases hcancel with hcancel | ⟨rfl, -⟩
    · exact onward_of_outbound hcancel
    · exact Onward.refl _
  | begins hcalling hnext hstep => exact onward_of_outbound hstep

end Step

/-! ## What a step does at one seat -/

/-- What is shown bounds a request at a seat, or a call for it. -/
def Observed.marks (seat : Seat) : Observed → Bool
  | .outbound _ => false
  | .wallet connection x => decide (⟨connection, x.stream⟩ = seat) && x.what.bounds
  | .began other _ _ => other = seat

/-- Nothing of what is shown does. -/
def Unmarked (seat : Seat) (o : List Observed) : Prop := ∀ x ∈ o, x.marks seat = false

theorem unmarked_outbound (seat : Seat) (o : List Nym.Outbound.Observed) :
    Unmarked seat (o.map .outbound) := by
  intro x hx
  rcases List.mem_map.mp hx with ⟨_, -, rfl⟩
  rfl

theorem unmarked_wallet {seat : Seat} {o : List WalletConnection.Observed}
    (h : WalletConnection.Within seat.stream o) (connection : Nat) :
    Unmarked seat (o.map (.wallet connection)) := by
  intro x hx
  rcases List.mem_map.mp hx with ⟨y, hy, rfl⟩
  unfold Observed.marks
  by_cases hseat : (⟨connection, y.stream⟩ : Seat) = seat
  · simp [h y hy (congrArg Seat.stream hseat)]
  · simp [hseat]

theorem unmarked_other {seat : Seat} {connection : Nat} (hne : seat.connection ≠ connection)
    (o : List WalletConnection.Observed) : Unmarked seat (o.map (.wallet connection)) := by
  intro x hx
  rcases List.mem_map.mp hx with ⟨y, -, rfl⟩
  have hseat : (⟨connection, y.stream⟩ : Seat) ≠ seat := by
    rintro rfl
    exact hne rfl
  simp [Observed.marks, hseat]

theorem Unmarked.append {seat : Seat} {o o' : List Observed} (h : Unmarked seat o)
    (h' : Unmarked seat o') : Unmarked seat (o ++ o') := by
  intro x hx
  rcases List.mem_append.mp hx with hx | hx
  · exact h x hx
  · exact h' x hx

section Fared

variable (codecs : Codecs) (caution : CautionRelay)

/-- What a step does at one seat. -/
inductive Fared (s s' : Relay) (o : List Observed) (seat : Seat) : Prop where
  | stays : s'.stream? seat = s.stream? seat → s'.calling seat = s.calling seat →
      Unmarked seat o → Fared s s' o seat
  | arrives {req status world} : s.stream? seat = none →
      s'.stream? seat = some ⟨world, (handle codecs world (some .nym) caution status req).trace,
        (handle codecs world (some .nym) caution status req).result, none⟩ →
      s'.calling seat = s.calling seat →
      o = [.wallet seat.connection ⟨seat.stream, .arrived req status⟩] → Fared s s' o seat
  | acts {stream action later upstream} : s.stream? seat = some stream →
      stream.todo = action :: later → action.errand? = none →
      s'.stream? seat = some { stream with todo := later, upstream := upstream } →
      s'.calling seat = s.calling seat → Unmarked seat o → Fared s s' o seat
  | begins {stream action later errand o'} : s.stream? seat = some stream →
      stream.todo = action :: later → action.errand? = some errand → s.calling seat = none →
      s'.stream? seat = s.stream? seat →
      s'.calling seat = some (nextCall s.outbound.calls errand) →
      errandOf s'.outbound.calls (nextCall s.outbound.calls errand) = some errand →
      o = .began seat errand (nextCall s.outbound.calls errand) :: o' → Unmarked seat o' →
      Fared s s' o seat
  | returns {stream action later call upstream} : s.stream? seat = some stream →
      stream.todo = action :: later → s.calling seat = some call →
      agrees s.outbound.calls stream.world call = true →
      s'.stream? seat = some { stream with todo := later, upstream := upstream } →
      s'.calling seat = none → Unmarked seat o → Fared s s' o seat
  | answers {stream} : s.stream? seat = some stream → stream.todo = [] →
      s'.stream? seat = none → s'.calling seat = s.calling seat →
      o = [.wallet seat.connection ⟨seat.stream, .answered stream.result⟩] → Fared s s' o seat
  | leaves : s'.stream? seat = none → s'.calling seat = none → Unmarked seat o →
      Fared s s' o seat

variable {codecs caution} {authority : String} {s s' : Relay} {o : List Observed}

@[simp] theorem stream?_update_self (outbound : Nym.Outbound)
    (connections : Nat → WalletConnection) (calling : Seat → Option CallId) (seat : Seat)
    (wallet : WalletConnection) :
    stream? ⟨outbound, Function.update connections seat.connection wallet, calling⟩ seat =
      wallet.streams.lookup seat.stream := by
  simp [stream?]

theorem stream?_update_of_ne (outbound : Nym.Outbound) (connections : Nat → WalletConnection)
    (calling : Seat → Option CallId) {seat : Seat} {connection : Nat}
    (hne : seat.connection ≠ connection) (wallet : WalletConnection) :
    stream? ⟨outbound, Function.update connections connection wallet, calling⟩ seat =
      (connections seat.connection).streams.lookup seat.stream := by
  simp [stream?, hne]

theorem fared_of_stepped (h : Stepped codecs caution authority s s' o) (seat : Seat) :
    Fared codecs caution s s' o seat := by
  cases h with
  | outbound howned hstep => exact .stays rfl rfl (unmarked_outbound _ _)
  | @wallet connection e wallet o hwallet hact hreset =>
    by_cases hconnection : seat.connection = connection
    · subst hconnection
      cases WalletConnection.happened_of_step hwallet seat.stream with
      | stays hsame hwithin =>
        exact .stays (by rw [stream?_update_self, hsame, stream?]) rfl (unmarked_wallet hwithin _)
      | arrives hevent hnone hnew ho =>
        rw [ho]
        exact .arrives hnone (by rw [stream?_update_self, hnew]) rfl rfl
      | @acts stream action later upstream hsome htodo hnew hevent hwithin =>
        refine .acts hsome htodo ?_ (by rw [stream?_update_self, hnew]) rfl
          (unmarked_wallet hwithin _)
        rcases hevent with hevent | ⟨rfl, -⟩
        · have hnext := hact _ hevent
          have hseat : s.stream? seat = some stream := hsome
          simpa [next?, hseat, htodo] using hnext
        · rfl
      | answers hevent hsome htodo hnone ho =>
        rw [ho]
        exact .answers hsome htodo (by rw [stream?_update_self, hnone]) rfl rfl
      | resets hevent hnone hwithin =>
        exact .leaves (by rw [stream?_update_self, hnone]) (hreset _ hevent)
          (unmarked_wallet hwithin _)
    · exact .stays (stream?_update_of_ne _ _ _ hconnection _) rfl (unmarked_other hconnection _)
  | @drops connection id call wallet o outbound o' hcalling hwallet hcancel =>
    have houtbound := unmarked_outbound seat o'
    by_cases hseat : seat = ⟨connection, id⟩
    · subst hseat
      have hcleared : Function.update s.calling ⟨connection, id⟩ none ⟨connection, id⟩ = none :=
        Function.update_self _ _ _
      cases WalletConnection.happened_of_step hwallet id with
      | stays hsame hwithin hact hreset => exact absurd rfl hreset
      | arrives hevent | answers hevent => cases hevent
      | acts hsome htodo hnew hevent =>
        rcases hevent with hevent | ⟨-, ce, hevent⟩ <;> cases hevent
      | resets hevent hnone hwithin =>
        exact .leaves (by simp [stream?, hnone]) hcleared
          (houtbound.append (unmarked_wallet hwithin _))
    · have hkept : Function.update s.calling ⟨connection, id⟩ none seat = s.calling seat :=
        Function.update_of_ne hseat _ _
      by_cases hconnection : seat.connection = connection
      · subst hconnection
        have hid : seat.stream ≠ id := by
          rintro rfl
          exact hseat rfl
        rcases WalletConnection.others_stay hid hwallet with ⟨hsame, hwithin⟩
        exact .stays (by rw [stream?_update_self, hsame, stream?]) hkept
          (houtbound.append (unmarked_wallet hwithin _))
      · exact .stays (stream?_update_of_ne _ _ _ hconnection _) hkept
          (houtbound.append (unmarked_other hconnection _))
  | @begins seat' errand outbound o hcalling hnext hstep =>
    by_cases hseat : seat = seat'
    · subst hseat
      cases hstream : s.stream? seat with
      | none => simp [next?, hstream] at hnext
      | some stream =>
        cases htodo : stream.todo with
        | nil => simp [next?, hstream, htodo] at hnext
        | cons action later =>
          have herrand : action.errand? = some errand := by
            simpa [next?, hstream, htodo] using hnext
          exact .begins hstream htodo herrand hcalling rfl (Function.update_self _ _ _)
            (errands_of_start hstep).2 rfl (unmarked_outbound _ _)
    · refine .stays rfl (Function.update_of_ne hseat _ _) ?_
      intro x hx
      rcases List.mem_cons.mp hx with rfl | hx
      · simp [Observed.marks, Ne.symm hseat]
      · exact unmarked_outbound seat o x hx
  | @returns seat' call stream wallet o hcalling hstream hagrees hwallet =>
    by_cases hseat : seat = seat'
    · subst hseat
      cases WalletConnection.happened_of_step hwallet seat.stream with
      | stays hsame hwithin hact => exact absurd rfl hact
      | arrives hevent | answers hevent | resets hevent => cases hevent
      | @acts stream' action later upstream hsome htodo hnew hevent hwithin =>
        obtain rfl : stream' = stream := Option.some.inj (hsome.symm.trans hstream)
        exact .returns hstream htodo hcalling hagrees (by rw [stream?_update_self, hnew])
          (Function.update_self _ _ _) (unmarked_wallet hwithin _)
    · have hkept : Function.update s.calling seat' none seat = s.calling seat :=
        Function.update_of_ne hseat _ _
      by_cases hconnection : seat.connection = seat'.connection
      · have hid : seat.stream ≠ seat'.stream := by
          intro hid
          apply hseat
          cases seat
          cases seat'
          simp_all
        rcases WalletConnection.others_stay hid hwallet with ⟨hsame, hwithin⟩
        rw [← hconnection]
        refine .stays ?_ hkept (unmarked_wallet hwithin _)
        rw [stream?_update_self, hsame, ← hconnection, stream?]
      · exact .stays (stream?_update_of_ne _ _ _ hconnection _) hkept
          (unmarked_other hconnection _)

end Fared

/-! ## Where a request is -/

/-- A request, and the calls that were begun for it. -/
structure Occasion where
  req : Request
  status : MixnetStatus
  calls : List CallId

/-- What is shown, as it goes with what was last at a seat. -/
def Observed.onto (seat : Seat) (before : Option Occasion) : Observed → Option Occasion
  | .outbound _ => before
  | .wallet connection x =>
    match x.what with
    | .arrived req status =>
      if (⟨connection, x.stream⟩ : Seat) = seat then some ⟨req, status, []⟩ else before
    | _ => before
  | .began other _ call =>
    if other = seat then before.map fun now => { now with calls := now.calls ++ [call] }
    else before

/-- The last request that arrived at a seat. -/
def occasion (seat : Seat) (t : List Observed) : Option Occasion :=
  t.foldl (Observed.onto seat) none

theorem onto_of_unmarked {seat : Seat} {o : List Observed} (h : Unmarked seat o)
    (before : Option Occasion) : o.foldl (Observed.onto seat) before = before := by
  induction o generalizing before with
  | nil => rfl
  | cons x o ih =>
    have hx := h x List.mem_cons_self
    have honto : x.onto seat before = before := by
      cases x with
      | outbound => rfl
      | wallet connection x =>
        rcases x with ⟨stream, what⟩
        cases what <;> simp_all [Observed.marks, Observed.onto, WalletConnection.Deed.bounds]
      | began other errand call => simp_all [Observed.marks, Observed.onto]
    rw [List.foldl_cons, honto]
    exact ih (fun y hy => h y (List.mem_cons_of_mem _ hy)) before

theorem occasion_append (seat : Seat) (t o : List Observed) :
    occasion seat (t ++ o) = o.foldl (Observed.onto seat) (occasion seat t) :=
  List.foldl_append

theorem occasion_unmarked {seat : Seat} {o : List Observed} (h : Unmarked seat o)
    (t : List Observed) : occasion seat (t ++ o) = occasion seat t := by
  rw [occasion_append, onto_of_unmarked h]

section Seated

variable (codecs : Codecs) (caution : CautionRelay)

/-- How far a request has come with what it asks of the hub. -/
inductive Stage (s : Relay) (seat : Seat) (stream : WalletConnection.Stream)
    (now : Occasion) : Prop where
  /-- Whatever it asks, it has still to ask. -/
  | due : now.calls = [] → s.calling seat = none →
      asked stream.todo = (errand codecs now.req).toList → Stage s seat stream now
  /-- It waits for the one call it began. -/
  | waits {action later asks call} : errand codecs now.req = some asks → now.calls = [call] →
      s.calling seat = some call → stream.todo = action :: later →
      action.errand? = some asks → asked later = [] →
      errandOf s.outbound.calls call = some asks → Stage s seat stream now
  /-- The call returned what its environment says. -/
  | done {asks call} : errand codecs now.req = some asks → now.calls = [call] →
      s.calling seat = none → asked stream.todo = [] →
      errandOf s.outbound.calls call = some asks →
      agrees s.outbound.calls stream.world call = true → Stage s seat stream now

/-- A seat is free, or holds the last request that arrived there. -/
inductive Seated (t : List Observed) (s : Relay) (seat : Seat) : Prop where
  | free : s.stream? seat = none → s.calling seat = none → Seated t s seat
  | held {stream now} : s.stream? seat = some stream → occasion seat t = some now →
      stream.result =
        (handle codecs stream.world (some .nym) caution now.status now.req).result →
      Stage codecs s seat stream now → Seated t s seat

variable {codecs caution} {s s' : Relay} {seat : Seat} {stream : WalletConnection.Stream}
variable {now : Occasion} {t o : List Observed}

/-- A request that does nothing about its call is as far as it was. -/
theorem Stage.onward (h : Stage codecs s seat stream now) {stream' : WalletConnection.Stream}
    (honward : Onward s.outbound.calls s'.outbound.calls)
    (hcalling : s'.calling seat = s.calling seat) (hworld : stream'.world = stream.world)
    (hasked : asked stream'.todo = asked stream.todo)
    (hwaits : ∀ call, s.calling seat = some call → stream'.todo = stream.todo) :
    Stage codecs s' seat stream' now := by
  cases h with
  | due hnone hidle htodo =>
    exact .due hnone (hcalling.trans hidle) (hasked.trans htodo)
  | waits herrand hcalls hbusy htodo hasks hlater hcall =>
    exact .waits herrand hcalls (hcalling.trans hbusy) ((hwaits _ hbusy).trans htodo) hasks hlater
      (honward.errandOf hcall)
  | done herrand hcalls hidle htodo hcall hagrees =>
    exact .done herrand hcalls (hcalling.trans hidle) (hasked.trans htodo)
      (honward.errandOf hcall) (hworld ▸ honward.agrees hagrees)

theorem asked_cons (action : Action) (later : List Action) :
    asked (action :: later) = action.errand?.toList ++ asked later := by
  unfold asked
  rw [List.filterMap_cons]
  cases action.errand? <;> rfl

/-- What waits has its question before it. -/
theorem Stage.asks_of_calling {call : CallId} (h : Stage codecs s seat stream now)
    (hcalling : s.calling seat = some call) :
    ∃ action later asks, stream.todo = action :: later ∧ action.errand? = some asks := by
  cases h with
  | due hnone hidle htodo => cases hidle.symm.trans hcalling
  | waits herrand hcalls hbusy htodo hasks hlater hcall => exact ⟨_, _, _, htodo, hasks⟩
  | done herrand hcalls hidle htodo hcall hagrees => cases hidle.symm.trans hcalling

/-- A request that performs another action is as far as it was. -/
theorem Stage.act {action : Action} {later : List Action}
    {upstream : Option UpstreamPool.Connection} (h : Stage codecs s seat stream now)
    (honward : Onward s.outbound.calls s'.outbound.calls)
    (hcalling : s'.calling seat = s.calling seat) (htodo : stream.todo = action :: later)
    (hother : action.errand? = none) :
    Stage codecs s' seat { stream with todo := later, upstream := upstream } now := by
  refine h.onward honward hcalling rfl ?_ ?_
  · rw [htodo, asked_cons, hother]
    rfl
  · intro call hbusy
    rcases h.asks_of_calling hbusy with ⟨first, rest, asks, htodo', hasks⟩
    cases htodo.symm.trans htodo'
    cases hother.symm.trans hasks

/-- What comes to ask has not asked, and asks nothing more. -/
theorem Stage.first_ask {action : Action} {later : List Action} {asks : Errand}
    (h : Stage codecs s seat stream now) (hidle : s.calling seat = none)
    (htodo : stream.todo = action :: later) (hasks : action.errand? = some asks) :
    errand codecs now.req = some asks ∧ now.calls = [] ∧ asked later = [] := by
  have hasked : asked stream.todo = asks :: asked later := by
    rw [htodo, asked_cons, hasks]
    rfl
  cases h with
  | due hnone hidle' htodo' =>
    rw [hasked] at htodo'
    cases herrand : errand codecs now.req with
    | none =>
      rw [herrand] at htodo'
      cases htodo'
    | some asks' =>
      rw [herrand] at htodo'
      rcases List.cons.inj htodo' with ⟨rfl, hlater⟩
      exact ⟨rfl, hnone, hlater⟩
  | waits herrand hcalls hbusy => cases hidle.symm.trans hbusy
  | done herrand hcalls hidle' hnothing => cases hasked.symm.trans hnothing

/-- A request begins its call. -/
theorem Stage.begin {action : Action} {later : List Action} {asks : Errand} {call : CallId}
    (h : Stage codecs s seat stream now) (hidle : s.calling seat = none)
    (htodo : stream.todo = action :: later) (hasks : action.errand? = some asks)
    (hcalling : s'.calling seat = some call)
    (hcall : errandOf s'.outbound.calls call = some asks) :
    Stage codecs s' seat stream { now with calls := now.calls ++ [call] } := by
  rcases h.first_ask hidle htodo hasks with ⟨herrand, hnone, hlater⟩
  exact .waits herrand (by simp [hnone]) hcalling htodo hasks hlater hcall

/-- A request goes on with what its call returned. -/
theorem Stage.return {action : Action} {later : List Action} {call : CallId}
    {upstream : Option UpstreamPool.Connection} (h : Stage codecs s seat stream now)
    (honward : Onward s.outbound.calls s'.outbound.calls)
    (hbusy : s.calling seat = some call) (htodo : stream.todo = action :: later)
    (hagrees : agrees s.outbound.calls stream.world call = true)
    (hcalling : s'.calling seat = none) :
    Stage codecs s' seat { stream with todo := later, upstream := upstream } now := by
  cases h with
  | due hnone hidle => cases hidle.symm.trans hbusy
  | waits herrand hcalls hbusy' htodo' hasks hlater hcall =>
    cases hbusy.symm.trans hbusy'
    cases htodo.symm.trans htodo'
    exact .done herrand hcalls hcalling hlater (honward.errandOf hcall) (honward.agrees hagrees)
  | done herrand hcalls hidle => cases hidle.symm.trans hbusy

/-- A request with nothing left to do waits for nothing. -/
theorem Stage.idle (h : Stage codecs s seat stream now) (htodo : stream.todo = []) :
    s.calling seat = none := by
  cases hcalling : s.calling seat with
  | none => rfl
  | some call =>
    rcases h.asks_of_calling hcalling with ⟨action, later, asks, hsome, -⟩
    cases htodo.symm.trans hsome

/-- What is held at a seat. -/
theorem Seated.of_some (h : Seated codecs caution t s seat)
    (hstream : s.stream? seat = some stream) :
    ∃ now, occasion seat t = some now ∧
      stream.result =
        (handle codecs stream.world (some .nym) caution now.status now.req).result ∧
      Stage codecs s seat stream now := by
  cases h with
  | free hnone => cases hnone.symm.trans hstream
  | @held stream' now hsome hnow hresult hstage =>
    obtain rfl : stream' = stream := Option.some.inj (hsome.symm.trans hstream)
    exact ⟨now, hnow, hresult, hstage⟩

/-- Where a seat is after a step. -/
theorem Seated.step (h : Seated codecs caution t s seat)
    (honward : Onward s.outbound.calls s'.outbound.calls)
    (hfared : Fared codecs caution s s' o seat) : Seated codecs caution (t ++ o) s' seat := by
  cases hfared with
  | stays hsame hcalling hunmarked =>
    cases h with
    | free hnone hidle => exact .free (hsame.trans hnone) (hcalling.trans hidle)
    | held hsome hnow hresult hstage =>
      exact .held (hsame.trans hsome) (by rw [occasion_unmarked hunmarked, hnow]) hresult
        (hstage.onward honward hcalling rfl rfl fun _ _ => rfl)
  | @arrives req status world hnone hnew hcalling ho =>
    cases h with
    | held hsome => cases hnone.symm.trans hsome
    | free _ hidle =>
      have hnow : occasion seat (t ++ o) = some ⟨req, status, []⟩ := by
        rw [occasion_append, ho]
        simp [Observed.onto]
      exact .held hnew hnow rfl (.due rfl (hcalling.trans hidle) (asked_handle req))
  | acts hsome htodo hother hnew hcalling hunmarked =>
    rcases h.of_some hsome with ⟨now, hnow, hresult, hstage⟩
    exact .held hnew (by rw [occasion_unmarked hunmarked, hnow]) hresult
      (hstage.act honward hcalling htodo hother)
  | @begins stream action later errand o' hsome htodo hasks hidle hsame hcalling hcall ho
      hunmarked =>
    rcases h.of_some hsome with ⟨now, hnow, hresult, hstage⟩
    have hnow' : occasion seat (t ++ o) =
        some { now with calls := now.calls ++ [nextCall s.outbound.calls errand] } := by
      rw [occasion_append, ho, List.foldl_cons, onto_of_unmarked hunmarked, hnow]
      simp [Observed.onto]
    exact .held (hsame.trans hsome) hnow' hresult (hstage.begin hidle htodo hasks hcalling hcall)
  | returns hsome htodo hbusy hagrees hnew hcalling hunmarked =>
    rcases h.of_some hsome with ⟨now, hnow, hresult, hstage⟩
    exact .held hnew (by rw [occasion_unmarked hunmarked, hnow]) hresult
      (hstage.return honward hbusy htodo hagrees hcalling)
  | answers hsome htodo hnone hcalling ho =>
    rcases h.of_some hsome with ⟨now, hnow, hresult, hstage⟩
    exact .free hnone (hcalling.trans (hstage.idle htodo))
  | leaves hnone hidle hunmarked => exact .free hnone hidle

/-- On every run each seat is free or holds its last request, which is as far with its call as
its handler is. -/
theorem seated_of_runs {policy : Nym.RotationPolicy} {hubAddresses : List Nym.Recipient}
    {gateways : List String} {timeout dispatchTimeout : Nat} {authority : String}
    (h : Runs (Relay.step codecs caution authority)
      (initial policy hubAddresses gateways timeout dispatchTimeout) t s) (seat : Seat) :
    Seated codecs caution t s seat := by
  refine h.invariant (P := fun t s => Seated codecs caution t s seat) (.free rfl rfl) ?_
  intro t s e o s' _ ih hstep
  have hstepped := stepped_of_step hstep
  exact ih.step (onward_of_stepped hstepped) (fared_of_stepped hstepped seat)

end Seated

end Relay
end ZeroShim
