import ZeroShim.Relay.Seats

/-!
# The two sides of the shim

Where the hub is reached over the mixnet, each request goes out on one side at most: to the
operator's indexer, or to the hub.  What a connection does is read off the runs of the whole
shim, so that what was proved of one connection holds under any others.

Main results:

- Theorem {lit}`wallet_runs`: each connection makes one of its own runs.
- Theorem {lit}`sides_parted`: what the indexer is sent asks nothing of the hub, and what the
  hub is asked does not go to the indexer.
-/

namespace ZeroShim

open Library

/-! ## One request -/

section Errand

variable {codecs : Codecs} {caution : CautionRelay} {status : MixnetStatus}
variable {req outbound : Request}

/-- What is replayed is no migration. -/
theorem migration_of_replayed (h : egress.replayed codecs (some .nym) req = some outbound) :
    errand.migration codecs req = none := by
  unfold egress.replayed at h
  unfold errand.migration
  cases hread : req.body.collect maxSendTxBytes with
  | error failure => rfl
  | ok collected =>
    simp only [hread] at h
    cases hverdict : (inspect codecs req.headers collected.data).1.treatAsMigration with
    | false => simp [hverdict]
    | true => simp [hverdict] at h

/-- A request that goes out asks nothing of the hub. -/
theorem errand_of_egress (h : egress codecs (some .nym) caution status req = some outbound) :
    errand codecs req = none := by
  unfold egress at h
  unfold errand
  cases hroute : routeFor req.uri.path with
  | getTransaction =>
    simp only [hroute] at h
    cases h
  | intercept =>
    simp only [hroute] at h
    exact migration_of_replayed h
  | interceptNearMiss =>
    simp only [hroute] at h
    exact migration_of_replayed h
  | _ => rfl

/-- A request that asks something of the hub does not go out. -/
theorem egress_of_errand {asks : Errand} (h : errand codecs req = some asks) :
    egress codecs (some .nym) caution status req = none := by
  cases hegress : egress codecs (some .nym) caution status req with
  | none => rfl
  | some outbound => cases (errand_of_egress hegress).symm.trans h

end Errand

namespace Relay

/-! ## One connection -/

/-- What one connection shows. -/
def Observed.wallet? (connection : Nat) : Observed → Option WalletConnection.Observed
  | .wallet other x => if other = connection then some x else none
  | _ => none

def walletTrace (connection : Nat) (t : List Observed) : List WalletConnection.Observed :=
  t.filterMap (Observed.wallet? connection)

section Parts

variable (connection : Nat) (t t' : List Observed)

@[simp] theorem walletTrace_append :
    walletTrace connection (t ++ t') = walletTrace connection t ++ walletTrace connection t' :=
  List.filterMap_append

@[simp] theorem walletTrace_outbound (o : List Nym.Outbound.Observed) :
    walletTrace connection (o.map .outbound) = [] := by
  induction o with
  | nil => rfl
  | cons x o ih => exact ih

theorem walletTrace_wallet (o : List WalletConnection.Observed) :
    walletTrace connection (o.map (.wallet connection)) = o := by
  induction o with
  | nil => rfl
  | cons x o ih => simpa [walletTrace, Observed.wallet?] using ih

theorem walletTrace_other {connection other : Nat} (hne : other ≠ connection)
    (o : List WalletConnection.Observed) :
    walletTrace connection (o.map (.wallet other)) = [] := by
  apply List.filterMap_eq_nil_iff.mpr
  intro x hx
  rcases List.mem_map.mp hx with ⟨_, -, rfl⟩
  exact if_neg hne

end Parts

section Runs

variable {codecs : Codecs} {caution : CautionRelay} {authority : String}
variable {policy : Nym.RotationPolicy} {hubAddresses : List Nym.Recipient}
variable {gateways : List String} {timeout dispatchTimeout : Nat}
variable {s s' : Relay} {t o : List Observed} {e : Event}

/-- A step of one connection is one of its own, and the others stay. -/
theorem wallet_step {connection other : Nat} {we : WalletConnection.Event}
    {wallet : WalletConnection} {o : List WalletConnection.Observed}
    {t : List WalletConnection.Observed}
    (h : Runs (WalletConnection.step codecs (some .nym) caution authority) .initial t
      (s.connections connection))
    (hstep : (s.connections other).step codecs (some .nym) caution authority we =
      some (wallet, o)) :
    Runs (WalletConnection.step codecs (some .nym) caution authority) .initial
      (t ++ walletTrace connection (o.map (.wallet other)))
      (Function.update s.connections other wallet connection) := by
  by_cases hother : other = connection
  · subst hother
    rw [walletTrace_wallet, Function.update_self]
    exact h.snoc hstep
  · rw [walletTrace_other hother, List.append_nil, Function.update_of_ne (Ne.symm hother)]
    exact h

/-- Under any others each connection makes one of its own runs. -/
theorem wallet_runs (h : Runs (step codecs caution authority)
      (initial policy hubAddresses gateways timeout dispatchTimeout) t s) (connection : Nat) :
    Runs (WalletConnection.step codecs (some .nym) caution authority) .initial
      (walletTrace connection t) (s.connections connection) := by
  refine h.invariant (P := fun t s => Runs
    (WalletConnection.step codecs (some .nym) caution authority) .initial
    (walletTrace connection t) (s.connections connection)) .refl ?_
  intro t s e o s' _ ih hstep
  rw [walletTrace_append]
  cases stepped_of_step hstep with
  | outbound =>
    rw [walletTrace_outbound, List.append_nil]
    exact ih
  | wallet hwallet => exact wallet_step ih hwallet
  | drops hcalling hwallet hcancel =>
    rw [walletTrace_append, walletTrace_outbound, List.nil_append]
    exact wallet_step ih hwallet
  | @begins seat asks outbound o =>
    have hnone : walletTrace connection (.began seat asks (nextCall s.outbound.calls asks) ::
        o.map .outbound) = [] := walletTrace_outbound connection o
    rw [hnone, List.append_nil]
    exact ih
  | returns hcalling hstream hagrees hwallet => exact wallet_step ih hwallet

/-! ## The last request at a seat -/

/-- What shows no arrival at a seat leaves the request that was last there. -/
theorem onto_of_quiet {seat : Seat} {o : List Observed}
    (h : ∀ x ∈ walletTrace seat.connection o, x.stream = seat.stream → x.what.counts = false)
    (now : Occasion) : ∃ calls,
      o.foldl (Observed.onto seat) (some now) = some { now with calls } := by
  induction o generalizing now with
  | nil => exact ⟨now.calls, rfl⟩
  | cons x o ih =>
    have hlater : ∀ y ∈ walletTrace seat.connection o, y.stream = seat.stream →
        y.what.counts = false := by
      intro y hy
      refine h y ?_
      rw [← List.singleton_append, walletTrace_append]
      exact List.mem_append_right _ hy
    have honto : ∃ calls, x.onto seat (some now) = some { now with calls } := by
      cases x with
      | outbound => exact ⟨now.calls, rfl⟩
      | wallet connection x =>
        rcases x with ⟨stream, what⟩
        cases what with
        | arrived req status =>
          refine ⟨now.calls, if_neg ?_⟩
          rintro rfl
          have hcounts := h ⟨stream, .arrived req status⟩
            (List.mem_filterMap.mpr ⟨_, List.mem_cons_self, if_pos rfl⟩) rfl
          cases hcounts
        | pool | did | answered => exact ⟨now.calls, rfl⟩
      | began other asks call =>
        by_cases hother : other = seat
        · exact ⟨now.calls ++ [call], if_pos hother⟩
        · exact ⟨now.calls, if_neg hother⟩
    rcases honto with ⟨calls, honto⟩
    rw [List.foldl_cons, honto]
    exact ih hlater _

/-- The last request of a stream is the one at its seat. -/
theorem occasion_of_awaits {seat : Seat} {outbound : Request}
    {back : List WalletConnection.Observed}
    (h : WalletConnection.Awaits codecs (some .nym) caution (walletTrace seat.connection t)
      seat.stream outbound back) :
    ∃ now, occasion seat t = some now ∧
      egress codecs (some .nym) caution now.status now.req = some outbound := by
  rcases h with ⟨front, req, status, hsplit, hquiet, hegress⟩
  rcases List.filterMap_eq_append_iff.mp hsplit with ⟨t₁, t₂, rfl, -, hback⟩
  rcases List.filterMap_eq_cons_iff.mp hback with ⟨t₃, x, t₄, rfl, -, hx, hlater⟩
  obtain rfl : x = .wallet seat.connection ⟨seat.stream, .arrived req status⟩ := by
    cases x with
    | outbound | began => cases hx
    | wallet connection x =>
      simp only [Observed.wallet?, Option.ite_none_right_eq_some, Option.some.injEq] at hx
      rcases hx with ⟨rfl, rfl⟩
      rfl
  have hnew : ∀ before, Observed.onto seat before
      (.wallet seat.connection ⟨seat.stream, .arrived req status⟩) = some ⟨req, status, []⟩ :=
    fun before => if_pos rfl
  have hlast : ∃ calls, t₄.foldl (Observed.onto seat) (some ⟨req, status, []⟩) =
      some ⟨req, status, calls⟩ :=
    onto_of_quiet (fun y hy => hquiet y (hlater ▸ hy)) ⟨req, status, []⟩
  rcases hlast with ⟨calls, hcalls⟩
  refine ⟨⟨req, status, calls⟩, ?_, hegress⟩
  rw [occasion_append, List.foldl_append, List.foldl_cons, hnew, hcalls]

/-! ## The two sides -/

/-- Every request goes out on one side at most. -/
structure Parted (codecs : Codecs) (caution : CautionRelay) (authority : String)
    (t : List Observed) : Prop where
  /-- What the indexer is sent is the last request at its seat, and asks nothing of the hub. -/
  sent : ∀ front seat upstream r back,
    t = front ++
      .wallet seat.connection ⟨seat.stream, .did upstream (.sendRequest r)⟩ :: back →
    ∃ now outbound, occasion seat front = some now ∧
      egress codecs (some .nym) caution now.status now.req = some outbound ∧
      r = retarget ⟨authority⟩ outbound ∧ errand codecs now.req = none
  /-- The hub is asked for the last request at its seat, once, and that one does not go to the
  indexer. -/
  began : ∀ front seat asks call back, t = front ++ .began seat asks call :: back →
    ∃ now, occasion seat front = some now ∧ now.calls = [] ∧
      errand codecs now.req = some asks ∧
      egress codecs (some .nym) caution now.status now.req = none

/-- What a call is begun for. -/
theorem began_of_runs (h : Runs (step codecs caution authority)
      (initial policy hubAddresses gateways timeout dispatchTimeout) t s) :
    ∀ front seat asks call back, t = front ++ .began seat asks call :: back →
      ∃ now, occasion seat front = some now ∧ now.calls = [] ∧
        errand codecs now.req = some asks := by
  refine h.invariant (P := fun t _ => ∀ front seat asks call back,
    t = front ++ .began seat asks call :: back → ∃ now, occasion seat front = some now ∧
      now.calls = [] ∧ errand codecs now.req = some asks) ?_ ?_
  · intro front seat asks call back hsplit
    simp at hsplit
  intro t s e o s' hrun ih hstep front seat asks call back hsplit
  rcases split_of_append hsplit with ⟨rest, ht, -⟩ | ⟨pre, rfl, ho⟩
  · exact ih front seat asks call rest ht
  have hmem : .began seat asks call ∈ o := by
    rw [ho]
    simp
  cases stepped_of_step hstep with
  | outbound | wallet | returns | drops => simp at hmem
  | @begins other asks' outbound o' hidle hnext houtbound =>
    cases pre with
    | cons x pre =>
      rcases List.cons.inj ho with ⟨-, hlater⟩
      have hmem : .began seat asks call ∈ o'.map Observed.outbound := by
        rw [hlater]
        simp
      simp at hmem
    | nil =>
      obtain ⟨rfl, rfl, -⟩ := Observed.began.inj (List.cons.inj ho).1
      rw [List.append_nil]
      unfold next? at hnext
      cases hstream : s.stream? other with
      | none => simp [hstream] at hnext
      | some stream =>
        simp only [hstream, Option.bind_eq_some_iff, List.head?_eq_some_iff] at hnext
        rcases hnext with ⟨action, ⟨later, htodo⟩, hasks⟩
        rcases (seated_of_runs hrun other).of_some hstream with ⟨now, hnow, -, hstage⟩
        rcases hstage.first_ask hidle htodo hasks with ⟨herrand, hnone, -⟩
        exact ⟨now, hnow, hnone, herrand⟩

/-- On every run of the whole shim, each request goes out on one side at most: what the
operator's indexer is sent is the last request at its seat, retargeted, and asks nothing of the
hub; and a call is begun for the last request at its seat, the first time, which the indexer
is never sent. -/
theorem sides_parted (h : Runs (step codecs caution authority)
      (initial policy hubAddresses gateways timeout dispatchTimeout) t s) :
    Parted codecs caution authority t := by
  constructor
  · intro front seat upstream r back hsplit
    have hwallet : walletTrace seat.connection t = walletTrace seat.connection front ++
        ⟨seat.stream, .did upstream (.sendRequest r)⟩ :: walletTrace seat.connection back := by
      rw [hsplit, walletTrace_append]
      congr 1
      exact List.filterMap_cons_some (if_pos rfl)
    rcases (WalletConnection.kept_of_runs (wallet_runs h seat.connection)).forwarded _ _ _ _ _
      hwallet with ⟨outbound, before, connection, hawaits, hr, -, -⟩
    rcases occasion_of_awaits hawaits with ⟨now, hnow, hegress⟩
    exact ⟨now, outbound, hnow, hegress, hr, errand_of_egress hegress⟩
  · intro front seat asks call back hsplit
    rcases began_of_runs h front seat asks call back hsplit with ⟨now, hnow, hcalls, herrand⟩
    exact ⟨now, hnow, hcalls, herrand, egress_of_errand herrand⟩

/-- A lookup of one wallet goes to the hub, and the latest block that another asks for to the
indexer. -/
theorem sides_parted_both : ∃ t, Parted protoCodecs ⟨false, ""⟩ "127.0.0.1:9067" t ∧
    .began ⟨0, 1⟩ (.lookup emptyV1Id.toList) (.lookup 0) ∈ t ∧
    .wallet 1 ⟨1, .did (some 0) (.sendRequest (retarget ⟨"127.0.0.1:9067"⟩
      WalletConnection.latestBlock))⟩ ∈ t := by
  have hrun := Runs.of_execute (show execute (step protoCodecs ⟨false, ""⟩ "127.0.0.1:9067")
      (initial .never ["hub"] [] 90000 5000)
      [.outbound (.driver (.start 0)), .outbound (.driver (.built (some "self"))),
        .wallet 0 (.request 1 lookupEmptyV1 .initial (hubAnswering [])),
        .wallet 1 (.request 1 WalletConnection.latestBlock .initial indexerUp),
        .begins ⟨0, 1⟩, .wallet 1 (.stream 1 (.call .get)), .wallet 1 (.tick 20),
        .wallet 1 (.stream 1 (.call (.connected false))), .wallet 1 (.stream 1 .act)] =
        some (_, _) from rfl)
  exact ⟨_, sides_parted hrun, List.mem_of_getElem? (i := 5) rfl,
    List.mem_of_getElem? (i := 9) rfl⟩

end Runs

end Relay
end ZeroShim
