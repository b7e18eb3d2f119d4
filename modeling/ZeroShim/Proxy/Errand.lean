import ZeroShim.Proxy.Lookups

/-!
# What is asked of the hub

The one thing that handling a request asks of a hub on the mixnet, if anything: to be sent the
transaction of a migration, or to look one up.  It is decided by the request alone, and what
the wallet hears by what the hub's side returned.

Main results:

- Theorem {lit}`asked_handle`: what a handler asks of the hub.
- Theorems {lit}`result_of_submit` and {lit}`result_of_lookup`: what it answers then.
-/

namespace ZeroShim

open Library

/-- What a hub on the mixnet is asked. -/
inductive Errand where
  | submit (tx : Bytes)
  | lookup (hash : Bytes)
deriving DecidableEq, Repr

def Action.errand? : Action → Option Errand
  | .nymSubmit tx => some (.submit tx)
  | .nymLookup hash => some (.lookup hash)
  | _ => none

/-- What some actions ask of the hub. -/
def asked (trace : List Action) : List Errand := trace.filterMap Action.errand?

theorem asked_append (front back : List Action) :
    asked (front ++ back) = asked front ++ asked back :=
  List.filterMap_append

theorem asked_of_leavesHub {trace : List Action} (h : LeavesHub trace) : asked trace = [] := by
  apply List.filterMap_eq_nil_iff.mpr
  intro action hmem
  have hleaves := h action hmem
  cases action with
  | nymSubmit tx => cases hleaves
  | nymLookup hash => cases hleaves
  | _ => rfl

section Errand

variable (codecs : Codecs)

/-- What a request has the hub asked. -/
def errand (req : Request) : Option Errand :=
  match routeFor req.uri.path with
  | .getTransaction =>
    match readFilter codecs req with
    | .error _ => none
    | .ok filter => some (.lookup filter.hash)
  | .intercept => migration req
  | .interceptNearMiss => migration req
  | _ => none
where
  migration (req : Request) : Option Errand :=
    match req.body.collect maxSendTxBytes with
    | .error _ => none
    | .ok collected =>
      if (inspect codecs req.headers collected.data).1.treatAsMigration then
        diverted (inspect codecs req.headers collected.data).2
      else none
  diverted (txData : Option Bytes) : Option Errand :=
    match txData with
    | none => none
    | some tx => if tx.isEmpty then none else some (.submit tx)

variable {codecs} {world : World} {caution : CautionRelay} {status : MixnetStatus}

/-- What is sent to the indexer asks nothing of the hub. -/
theorem leavesHub_forward (upstream : Upstream) (req : Request) :
    (forward world upstream req).Emits fun action => action.contactsHub = false :=
  .bind (.act _ _ rfl) fun _ _ => .pure _

theorem leavesHub_passThrough (req : Request) : LeavesHub (passThrough world req).trace :=
  Traced.Emits.bind (.act _ _ rfl) fun _ _ =>
    .bind (leavesHub_forward _ _) fun _ _ =>
      .bind (emits_logEvent contactsHub_log _ _ _ _) fun _ _ => .pure _

theorem leavesHub_replay (req : Request) (collected : Collected) :
    LeavesHub (replay world req collected).trace :=
  Traced.Emits.bind (.act _ _ rfl) fun _ _ => leavesHub_forward _ _

theorem leavesHub_answerFailure (req : Request) (result : Except Failure Response) :
    LeavesHub (answerFailure req result).trace := by
  unfold answerFailure
  split
  · exact Traced.Emits.pure (P := fun action => Action.contactsHub action = false) _
  · exact Traced.Emits.bind (emits_logEvent contactsHub_log _ _ _ _) fun _ _ => .pure _
  · exact Traced.Emits.fail (P := fun action => Action.contactsHub action = false) _

theorem trace_submit_nym (tx : Bytes) :
    (HubTransport.nym.submit codecs world tx).trace = [.nymSubmit tx] := by
  unfold HubTransport.submit
  simp only
  rw [Traced.bind_of_ok (Traced.result_act _ _)]
  cases world.nymSubmit tx with
  | ok u => cases hid : localTxid codecs.libs tx <;> simp [Traced.ofExcept, bind, Traced.bind]
  | error err =>
    cases err with
    | encode wire => cases wire <;> rfl
    | timeout => rfl
    | transportGone => rfl

theorem asked_divert (txData : Option Bytes) :
    asked (divert codecs world .nym txData).trace = (errand.diverted txData).toList := by
  cases txData with
  | none =>
    exact asked_of_leavesHub
      (Traced.Emits.bind (emits_logEvent contactsHub_log _ _ _ _) fun _ _ => .pure _)
  | some tx =>
    unfold divert errand.diverted
    by_cases hempty : tx.isEmpty = true
    · simp only [hempty, if_true]
      exact asked_of_leavesHub
        (Traced.Emits.bind (emits_logEvent contactsHub_log _ _ _ _) fun _ _ => .pure _)
    · simp only [hempty, Bool.false_eq_true, if_false, Traced.handle]
      rw [asked_append, trace_submit_nym, asked_of_leavesHub
        (emits_answerSubmit contactsHub_log codecs _)]
      rfl

theorem asked_sendTransaction (req : Request) :
    asked (sendTransaction codecs world (some .nym) req).trace =
      (errand.migration codecs req).toList := by
  unfold sendTransaction errand.migration
  cases req.body.collect maxSendTxBytes with
  | error failure => exact asked_of_leavesHub (emits_bodyReadFailed contactsHub_log failure)
  | ok collected =>
    simp only
    rw [Traced.bind_of_ok (result_logVerdict _ _), Traced.bind_of_ok (result_reportBranch _ _)]
    rw [asked_append, asked_append, asked_of_leavesHub (emits_logVerdict contactsHub_log _ _),
      asked_of_leavesHub (emits_reportBranch (P := fun action => action.contactsHub = false)
        contactsHub_log rfl _ _)]
    cases hverdict : (inspect codecs req.headers collected.data).1.treatAsMigration with
    | false =>
      simp only [Bool.false_eq_true, if_false]
      exact asked_of_leavesHub (leavesHub_replay req collected)
    | true =>
      simp only [if_true]
      exact asked_divert _

theorem asked_getTransaction (req : Request) :
    asked (getTransaction codecs world (some .nym) req).trace =
      (match readFilter codecs req with
        | .error _ => none
        | .ok filter => some (Errand.lookup filter.hash)).toList := by
  unfold getTransaction
  cases readFilter codecs req with
  | error resp => rfl
  | ok filter =>
    simp only [Traced.handle]
    rw [asked_append, trace_hubLookup, asked_of_leavesHub
      (emits_answerLookup contactsHub_log codecs _ _)]
    rfl

theorem asked_dispatch (req : Request) :
    asked (dispatch codecs world (some .nym) caution status req).trace =
      (errand codecs req).toList := by
  unfold dispatch errand
  cases routeFor req.uri.path with
  | passThrough => exact asked_of_leavesHub (leavesHub_passThrough req)
  | cautionHealth =>
    cases caution.enabled with
    | true => rfl
    | false => exact asked_of_leavesHub (leavesHub_passThrough req)
  | cautionAttestation =>
    cases caution.enabled with
    | true => rfl
    | false => exact asked_of_leavesHub (leavesHub_passThrough req)
  | shimHealth => rfl
  | shimNymStatus => rfl
  | shimNymDiag =>
    cases status.diagEnabled with
    | true => rfl
    | false => exact asked_of_leavesHub (leavesHub_passThrough req)
  | getTransaction => exact asked_getTransaction req
  | interceptNearMiss =>
    simp only
    rw [Traced.bind_of_ok (a := ()) rfl]
    exact asked_sendTransaction req
  | intercept => exact asked_sendTransaction req

/-- What a handler asks of the hub, failures included. -/
theorem asked_handle (req : Request) :
    asked (handle codecs world (some .nym) caution status req).trace =
      (errand codecs req).toList := by
  unfold handle
  simp only [Traced.handle]
  rw [asked_append, asked_dispatch, asked_of_leavesHub (leavesHub_answerFailure req _),
    List.append_nil]

/-! ## What the wallet hears -/

theorem migration_of_errand {req : Request} {tx : Bytes}
    (h : errand codecs req = some (.submit tx)) :
    (routeFor req.uri.path = .intercept ∨ routeFor req.uri.path = .interceptNearMiss) ∧
      ∃ collected, req.body.collect maxSendTxBytes = .ok collected ∧
        (inspect codecs req.headers collected.data).1.treatAsMigration = true ∧
        (inspect codecs req.headers collected.data).2 = some tx ∧ tx ≠ [] := by
  have hmigration (hm : errand.migration codecs req = some (.submit tx)) :
      ∃ collected, req.body.collect maxSendTxBytes = .ok collected ∧
        (inspect codecs req.headers collected.data).1.treatAsMigration = true ∧
        (inspect codecs req.headers collected.data).2 = some tx ∧ tx ≠ [] := by
    unfold errand.migration errand.diverted at hm
    split at hm
    · cases hm
    · next collected hread =>
      split_ifs at hm with hverdict
      split at hm
      · cases hm
      · next tx' htx =>
        split_ifs at hm with hempty
        cases hm
        exact ⟨collected, hread, hverdict, htx, by simpa using hempty⟩
  unfold errand at h
  split at h
  · split at h <;> cases h
  · next hroute => exact ⟨.inl hroute, hmigration h⟩
  · next hroute => exact ⟨.inr hroute, hmigration h⟩
  · cases h

/-- The answer to a submission is what the hub's side returned of it. -/
theorem result_of_submit {req : Request} {tx : Bytes}
    (h : errand codecs req = some (.submit tx)) :
    (handle codecs world (some .nym) caution status req).result =
      (answerSubmit codecs (HubTransport.nym.submit codecs world tx).result).result := by
  rcases migration_of_errand h with ⟨hroute, collected, hread, hmigration, htx, hsome⟩
  rcases handle_of_migration world .nym caution status hroute hread hmigration with
    ⟨front, -, hhandle⟩
  rw [hhandle, htx, divert_some hsome]
  rfl

/-- Success is told only of a call that succeeded. -/
theorem sent_of_told {req : Request} {tx : Bytes} {message : String}
    (h : errand codecs req = some (.submit tx))
    (htold : (handle codecs world (some .nym) caution status req).result =
      .ok (grpcSendResponse codecs 0 message)) :
    world.nymSubmit tx = .ok () := by
  rw [result_of_submit h] at htold
  cases hreturned : world.nymSubmit tx with
  | ok u => rfl
  | error err =>
    exfalso
    by_cases hlarge : ∃ len budget, err = .encode (.txTooLarge len budget)
    · rcases hlarge with ⟨len, budget, rfl⟩
      rw [nymSubmit_tooLarge hreturned] at htold
      exact grpcSendResponse_ne_grpcError _ _ _ _ (Except.ok.inj htold)
    · rw [nymSubmit_error hreturned fun len budget heq => hlarge ⟨len, budget, heq⟩] at htold
      exact grpcSendResponse_ne_grpcError _ _ _ _ (Except.ok.inj htold)

/-- The answer to a lookup is what the hub's side returned of it. -/
theorem result_of_lookup {req : Request} {hash : Bytes}
    (h : errand codecs req = some (.lookup hash)) :
    (handle codecs world (some .nym) caution status req).result =
      (answerLookup codecs hash (HubTransport.nym.getTransaction world hash).result).result := by
  have hnot : errand.migration codecs req ≠ some (.lookup hash) := by
    unfold errand.migration errand.diverted
    intro hm
    split at hm
    · cases hm
    · split_ifs at hm
      split at hm
      · cases hm
      · split_ifs at hm
        cases hm
  unfold errand at h
  split at h
  · next hroute =>
    split at h
    · cases h
    · next filter hread =>
      cases h
      rw [handle_getTransaction hroute]
      unfold getTransaction
      rw [hread]
      rfl
  · exact absurd h hnot
  · exact absurd h hnot
  · cases h

/-- What the mixnet's answer to a lookup is made of. -/
theorem nymLookup_of_result {hash : Bytes} {verdict : Lookup}
    (h : (HubTransport.nym.getTransaction world hash).result = .ok verdict) :
    (∃ data height, verdict = .found data height ∧
        world.nymLookup hash = .ok (.found height data)) ∨
      (verdict = .notFound ∧ world.nymLookup hash = .ok .notFound) := by
  unfold HubTransport.getTransaction at h
  simp only at h
  rw [Traced.bind_of_ok (Traced.result_act _ _)] at h
  cases hreturned : world.nymLookup hash with
  | error err =>
    rw [hreturned] at h
    cases h
  | ok reply =>
    rw [hreturned] at h
    cases reply with
    | found height data =>
      cases h
      exact .inl ⟨data, height, rfl, rfl⟩
    | notFound =>
      cases h
      exact .inr ⟨rfl, rfl⟩
    | error => cases h

/-- A transaction is shown only where the hub's side returned it, and it is the query. -/
theorem found_of_shown {req : Request} {hash body : Bytes}
    (h : errand codecs req = some (.lookup hash))
    (hshown : (handle codecs world (some .nym) caution status req).result =
      .ok (grpcUnary body)) :
    ∃ data height, world.nymLookup hash = .ok (.found height data) ∧
      body = codecs.encodeRawTransaction ⟨data, height⟩ ∧
      lookupIsForQuery codecs.libs data hash = .ok true := by
  rw [result_of_lookup h] at hshown
  rcases answerLookup_served hshown with ⟨data, height, hlookup, hserved⟩
  rcases nymLookup_of_result hlookup with ⟨data', height', heq, hreturned⟩ | ⟨heq, -⟩
  · cases heq
    exact ⟨data, height, hreturned, hserved⟩
  · cases heq

/-- It is said to be unknown only where the hub's side said so, or returned another. -/
theorem notFound_of_shown {req : Request} {hash : Bytes}
    (h : errand codecs req = some (.lookup hash))
    (hrefused : Refuses grpcNotFound
      (handle codecs world (some .nym) caution status req).result) :
    world.nymLookup hash = .ok .notFound ∨
      ∃ data height, world.nymLookup hash = .ok (.found height data) ∧
        lookupIsForQuery codecs.libs data hash = .ok false := by
  rw [result_of_lookup h] at hrefused
  rcases answerLookup_notFound hrefused with hlookup | ⟨data, height, hlookup, hcheck⟩
  · rcases nymLookup_of_result hlookup with ⟨_, _, heq, -⟩ | ⟨-, hreturned⟩
    · cases heq
    · exact .inl hreturned
  · rcases nymLookup_of_result hlookup with ⟨data', height', heq, hreturned⟩ | ⟨heq, -⟩
    · cases heq
      exact .inr ⟨data, height, hreturned, hcheck⟩
    · cases heq

/-- Only a panic keeps an id from being shown. -/
theorem panicked_of_localTxid {tx : Bytes} {failure : Failure}
    (h : localTxid codecs.libs tx = .error failure) : failure = .panicked := by
  unfold localTxid at h
  split at h
  · unfold displayTxid at h
    split at h <;> cases h
    rfl
  · cases h

/-- A refusal is told only of a call that failed. -/
theorem unsent_of_refused {req : Request} {tx : Bytes} {code : Nat}
    (h : errand codecs req = some (.submit tx))
    (hrefused : Refuses code (handle codecs world (some .nym) caution status req).result) :
    ∃ err, world.nymSubmit tx = .error err := by
  rw [result_of_submit h] at hrefused
  cases hreturned : world.nymSubmit tx with
  | error err => exact ⟨err, rfl⟩
  | ok u =>
    exfalso
    rcases hrefused with ⟨message, heq⟩
    unfold HubTransport.submit at heq
    simp only at heq
    rw [Traced.bind_of_ok (Traced.result_act _ _), hreturned] at heq
    cases hid : localTxid codecs.libs tx with
    | error failure =>
      obtain rfl := panicked_of_localTxid hid
      rw [hid] at heq
      cases heq
    | ok txid =>
      rw [hid] at heq
      exact grpcSendResponse_ne_grpcError _ _ _ _ (Except.ok.inj heq).symm

end Errand

end ZeroShim
