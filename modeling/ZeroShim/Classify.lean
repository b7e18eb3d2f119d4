import Mathlib.Data.List.Infix
import ZeroShim.Zcash.Transaction

/-!
# The turnstile classifier

A pure function from raw transaction bytes to a verdict.  It detects Orchard
activity: a transaction that carries any Orchard action at all.

Main results:

- Theorem {lit}`classifyWithEvidence_migration_iff`: the verdict agrees with the
  action count on all bytes.
- Theorem {lit}`classify_exact`: a serialized transaction is classified by its own
  Orchard actions, and no proper prefix or extension of it is parseable.
-/

namespace ZeroShim

open Library Zcash

/-! ## Verdicts -/

/-- The verdict for one {lit}`SendTransaction` body. -/
inductive Class where
  | migration
  | passThrough
  | unparseable
deriving DecidableEq, Repr

/-- The routing decision, with the fail-safe folded in exactly once. -/
def Class.treatAsMigration : Class → Bool
  | .migration => true
  | .passThrough => false
  | .unparseable => true

/-- The displayed label of a verdict. -/
def Class.label : Class → String
  | .migration => "MIGRATION"
  | .passThrough => "PASS-THROUGH"
  | .unparseable => "UNPARSEABLE"

@[simp] theorem Class.treatAsMigration_eq_false_iff {c : Class} :
    c.treatAsMigration = false ↔ c = .passThrough := by
  cases c <;> simp [treatAsMigration]

/-- A verdict with the parsed facts it rests on. -/
structure Evidence where
  version : String
  orchardActions : Nat
  orchardVb : Int
  ironwoodVb : Int
  saplingVb : Int
  expiryHeight : Option UInt32
  inputs : Nat
  outputs : Nat
  len : Nat
  error : Option String
  /-- {lit}`class` -/
  verdict : Class
deriving DecidableEq, Repr

/-- Evidence for bytes that never parsed. -/
def Evidence.unparseable (len : Nat) (error : String) : Evidence where
  version := "unparseable"
  orchardActions := 0
  orchardVb := 0
  ironwoodVb := 0
  saplingVb := 0
  expiryHeight := none
  inputs := 0
  outputs := 0
  len := len
  error := some error
  verdict := .unparseable

/-- The text of an unknown consensus branch. -/
def unrecognisedBranchText : String := "invalid consensus branch id"

/-- Whether the parse failed on a consensus branch this build does not know. -/
def Evidence.isUnrecognisedBranch (ev : Evidence) : Bool :=
  match ev.error with
  | some err => decide (unrecognisedBranchText.toList <:+: err.toList)
  | none => false

/-! ## The predicate -/

/-- A transaction touches Orchard when it has an Orchard bundle. -/
def isOrchardTouching (tx : Transaction) : Bool := tx.orchardShieldedData.isSome

/-- How many Orchard actions a transaction carries. -/
def orchardActionCount (tx : Transaction) : Nat := tx.orchardActions.length

/-- A bundle has at least one action. -/
theorem isOrchardTouching_iff (tx : Transaction) :
    isOrchardTouching tx = true ↔ 0 < orchardActionCount tx := by
  unfold isOrchardTouching orchardActionCount Transaction.orchardActions
  cases tx.orchardShieldedData with
  | none => simp
  | some data =>
    have hactions : 0 < data.actions.val.length :=
      List.length_pos_iff.mpr data.actions.property
    simpa using hactions

/-- The evidence of a parsed transaction of {lit}`len` bytes. -/
def Evidence.ofTransaction (tx : Transaction) (len : Nat) : Evidence where
  version := "V" ++ toString tx.version
  orchardActions := orchardActionCount tx
  orchardVb := tx.orchardValueBalance
  ironwoodVb := tx.ironwoodValueBalance
  saplingVb := tx.saplingValueBalance
  expiryHeight := tx.expiryHeight
  inputs := tx.inputs.length
  outputs := tx.outputs.length
  len := len
  error := none
  verdict := if isOrchardTouching tx then .migration else .passThrough

section Classify

variable (libs : Libraries)

/-- {lit}`classify`, with the facts the verdict rests on. -/
def classifyWithEvidence (raw : Bytes) : Evidence :=
  match Transaction.zcashDeserialize libs raw with
  | .error err => .unparseable raw.length err.text
  | .ok (tx, position) =>
    if position ≠ raw.length then
      -- the deserializer ignores what follows a transaction
      .unparseable raw.length ("trailing bytes: parsed " ++ toString position ++ " of " ++
        toString raw.length ++ " bytes")
    else
      .ofTransaction tx raw.length

/-- The turnstile predicate. -/
def classify (raw : Bytes) : Class := (classifyWithEvidence libs raw).verdict

/-! ## Verdicts on arbitrary bytes -/

variable {libs}

theorem classifyWithEvidence_complete {raw : Bytes} {tx : Transaction}
    (h : Transaction.zcashDeserialize libs raw = .ok (tx, raw.length)) :
    classifyWithEvidence libs raw = .ofTransaction tx raw.length := by
  simp [classifyWithEvidence, h]

/-- Bytes are one whole transaction, or the evidence says that they are not. -/
theorem classifyWithEvidence_cases (libs : Libraries) (raw : Bytes) :
    (∃ tx, Transaction.zcashDeserialize libs raw = .ok (tx, raw.length) ∧
        classifyWithEvidence libs raw = .ofTransaction tx raw.length) ∨
      (∀ tx, Transaction.zcashDeserialize libs raw ≠ .ok (tx, raw.length)) ∧
        ∃ err, classifyWithEvidence libs raw = .unparseable raw.length err := by
  unfold classifyWithEvidence
  cases hparse : Transaction.zcashDeserialize libs raw with
  | error err => exact .inr ⟨by simp, _, rfl⟩
  | ok parsed =>
    rcases parsed with ⟨tx, position⟩
    by_cases hposition : position = raw.length
    · subst hposition
      exact .inl ⟨tx, rfl, by simp⟩
    · refine .inr ⟨?_, _, if_pos hposition⟩
      intro other heq
      exact hposition (Prod.mk.inj (Except.ok.inj heq)).2

/-- Only a transaction that ends where the bytes end is classified by its content. -/
theorem classify_eq_unparseable_iff {raw : Bytes} :
    classify libs raw = .unparseable ↔
      ∀ tx, Transaction.zcashDeserialize libs raw ≠ .ok (tx, raw.length) := by
  unfold classify
  rcases classifyWithEvidence_cases libs raw with ⟨tx, hparse, hevidence⟩ | ⟨hnone, err, hevidence⟩
  · refine iff_of_false ?_ fun hne => hne tx hparse
    rw [hevidence, Evidence.ofTransaction]
    split_ifs <;> simp
  · exact iff_of_true (by rw [hevidence]; rfl) hnone

/-- Pass-through bytes are one whole transaction without an Orchard bundle. -/
theorem classify_eq_passThrough_iff {raw : Bytes} :
    classify libs raw = .passThrough ↔
      ∃ tx, Transaction.zcashDeserialize libs raw = .ok (tx, raw.length) ∧
        tx.orchardShieldedData = none := by
  unfold classify
  rcases classifyWithEvidence_cases libs raw with ⟨tx, hparse, hevidence⟩ | ⟨hnone, err, hevidence⟩
  · have hbundle : isOrchardTouching tx = false ↔ tx.orchardShieldedData = none := by
      simp [isOrchardTouching]
    simp [hevidence, hparse, Evidence.ofTransaction, hbundle]
  · apply iff_of_false (by rw [hevidence]; simp [Evidence.unparseable])
    rintro ⟨tx, hparse, -⟩
    exact hnone tx hparse

/-- The verdict and the action count agree on all bytes, which is what the debug
assertion checks. -/
theorem classifyWithEvidence_migration_iff (raw : Bytes) :
    (classifyWithEvidence libs raw).verdict = .migration ↔
      0 < (classifyWithEvidence libs raw).orchardActions := by
  rcases classifyWithEvidence_cases libs raw with ⟨tx, hparse, hevidence⟩ | ⟨hnone, err, hevidence⟩
  · rw [hevidence]
    simp only [Evidence.ofTransaction]
    rw [← isOrchardTouching_iff]
    cases isOrchardTouching tx <;> simp
  · simp [hevidence, Evidence.unparseable]

/-! ## Serialized transactions -/

/-- A transaction that reads as another has the same evidence. -/
theorem Evidence.ofTransaction_readsAs {tx read : Transaction}
    (h : Transaction.ReadsAs tx read) (len : Nat) :
    Evidence.ofTransaction read len = Evidence.ofTransaction tx len := by
  unfold Evidence.ofTransaction isOrchardTouching orchardActionCount
    Transaction.orchardActions Transaction.orchardValueBalance
    Transaction.ironwoodValueBalance
  rw [h.version, h.inputs, h.outputs, h.expiryHeight, h.saplingValueBalance,
    h.orchardShieldedData, h.ironwoodShieldedData]

/-- A proper prefix of one whole transaction is unparseable. -/
theorem classify_prefix {front cut : Bytes} {tx : Transaction}
    (h : Transaction.zcashDeserialize libs (front ++ cut) = .ok (tx, (front ++ cut).length))
    (hcut : cut ≠ []) : classify libs front = .unparseable := by
  rw [classify_eq_unparseable_iff]
  intro tx'
  exact Transaction.zcashDeserialize_prefix h hcut

/-- A proper extension of one whole transaction is unparseable. -/
theorem classify_extension {raw extension : Bytes} {tx : Transaction}
    (h : Transaction.zcashDeserialize libs raw = .ok (tx, raw.length))
    (hextension : extension ≠ []) : classify libs (raw ++ extension) = .unparseable := by
  rw [classify_eq_unparseable_iff]
  intro tx' hwhole
  rw [Transaction.zcashDeserialize_append h, Except.ok.injEq, Prod.mk.injEq,
    List.length_append] at hwhole
  have hpos : 0 < extension.length := List.length_pos_iff.mpr hextension
  omega

/-- Whatever transaction was serialized, its bytes are classified by its own
Orchard actions, and only these bytes are: no proper prefix and no proper extension
of them is parseable. -/
theorem classify_exact (tx : Transaction) (raw : Bytes)
    (hraw : (Transaction.serialize libs tx).output = some raw)
    (hlen : raw.length ≤ maxBlockBytes)
    (haccept : (Transaction.zcashDeserialize libs raw).isOk) :
    classify libs raw = (if tx.orchardActions ≠ [] then .migration else .passThrough) ∧
    classifyWithEvidence libs raw = .ofTransaction tx raw.length ∧
    (classifyWithEvidence libs raw).orchardActions = tx.orchardActions.length ∧
    (classify libs raw = .migration ↔ 0 < (classifyWithEvidence libs raw).orchardActions) ∧
    (∀ front cut, raw = front ++ cut → cut ≠ [] →
      classify libs front = .unparseable ∧ (classify libs front).treatAsMigration) ∧
    ∀ extension, extension ≠ [] →
      classify libs (raw ++ extension) = .unparseable ∧
        (classify libs (raw ++ extension)).treatAsMigration := by
  cases hread : Transaction.zcashDeserialize libs raw with
  | error err =>
    rw [hread] at haccept
    cases haccept
  | ok parsed =>
    rcases parsed with ⟨read, position⟩
    rcases Transaction.zcashDeserialize_serialize hraw hlen hread with ⟨rfl, hreads⟩
    have hevidence : classifyWithEvidence libs raw = .ofTransaction tx raw.length := by
      rw [classifyWithEvidence_complete hread, Evidence.ofTransaction_readsAs hreads]
    refine ⟨?_, hevidence, by rw [hevidence]; rfl, classifyWithEvidence_migration_iff raw,
      ?_, ?_⟩
    · have htouching := isOrchardTouching_iff tx
      rw [orchardActionCount, List.length_pos_iff] at htouching
      rw [classify, hevidence, Evidence.ofTransaction]
      exact if_congr htouching rfl rfl
    · rintro front cut rfl hcut
      have hpre := classify_prefix hread hcut
      exact ⟨hpre, by rw [hpre]; rfl⟩
    · intro extension hextension
      have hextended := classify_extension hread hextension
      exact ⟨hextended, by rw [hextended]; rfl⟩

end Classify

/-- The least version 1 transaction. -/
def emptyV1 : Transaction := .v1 [] [] (.height 0)

def emptyV1Bytes : Bytes := [1, 0, 0, 0, 0, 0, 0, 0, 0, 0]

/-- Its transaction id, in wire order. -/
def emptyV1Id : Hash :=
  ⟨[67, 236, 122, 87, 159, 85, 97, 164, 42, 126, 150, 55, 173, 65, 86, 103, 39, 53, 166, 88,
    190, 39, 82, 24, 24, 1, 247, 35, 186, 51, 22, 210], rfl⟩

/-- Libraries that accept every encoding and know the id of one transaction. -/
def plainLibraries : Libraries where
  pushNum _ := []
  curves :=
    { saplingValueCommitment := fun _ => true
      extractedNoteCommitment := fun _ => true
      jubjubBase := fun _ => true
      jubjubPoint := fun _ => true
      jubjubSmallOrder := fun _ => false
      redjubjubKey := fun _ => true
      pallasPoint := fun _ => true
      pallasIdentity := fun _ => false
      pallasBase := fun _ => true }
  toLibrustzcash _ _ := .error (.parse "invalid consensus branch id")
  sha256d _ := emptyV1Id

theorem emptyV1_deserialize :
    Transaction.zcashDeserialize plainLibraries emptyV1Bytes = .ok (emptyV1, 10) := by
  rfl

/-- Libraries that accept every version 5 and 6 transaction as well. -/
def bundleLibraries : Libraries :=
  { plainLibraries with toLibrustzcash := fun _ _ => .ok emptyV1Id }

/-- A bundle of one action. -/
def oneAction : Orchard.ShieldedData where
  flags := ⟨3⟩
  valueBalance := ⟨0, by decide⟩
  sharedAnchor := .replicate 32 0
  proof := []
  actions :=
    ⟨[{ action :=
          { cv := .replicate 32 0
            nullifier := .replicate 32 0
            rk := ⟨1 :: zeros 31, by simp [length_zeros]⟩
            cmX := .replicate 32 0
            ephemeralKey := .replicate 32 0
            encCiphertext := .replicate 580 0
            outCiphertext := .replicate 80 0 }
        spendAuthSig := .replicate 64 0 }], List.cons_ne_nil _ _⟩
  bindingSig := .replicate 64 0

/-- The least migration. -/
def orchardV5 : Transaction := .v5 .nu5 (.height 0) 0 [] [] none (some oneAction)

/-- The same bundle as Ironwood, and without Orchard. -/
def ironwoodV6 : Transaction := .v6 .nu6_3 (.height 0) 0 [] [] none none (some oneAction)

/-- One bundle is a migration in the Orchard pool and passes in the Ironwood pool; neither a
byte less nor a byte more is a transaction. -/
theorem classify_exact_bundles :
    ∃ orchard ironwood,
      (Transaction.serialize bundleLibraries orchardV5).output = some orchard ∧
      (Transaction.serialize bundleLibraries ironwoodV6).output = some ironwood ∧
      classify bundleLibraries orchard = .migration ∧
      (classifyWithEvidence bundleLibraries orchard).orchardActions = 1 ∧
      classify bundleLibraries orchard.dropLast = .unparseable ∧
      classify bundleLibraries (orchard ++ [7]) = .unparseable ∧
      classify bundleLibraries ironwood = .passThrough ∧
      (classifyWithEvidence bundleLibraries ironwood).orchardActions = 0 := by
  have horchard : ∃ raw, (Transaction.serialize bundleLibraries orchardV5).output = some raw ∧
      raw ≠ [] ∧ raw.length ≤ maxBlockBytes ∧
      (Transaction.zcashDeserialize bundleLibraries raw).isOk :=
    ⟨_, rfl, by decide +kernel, by decide +kernel, by decide +kernel⟩
  have hironwood : ∃ raw, (Transaction.serialize bundleLibraries ironwoodV6).output = some raw ∧
      raw.length ≤ maxBlockBytes ∧ (Transaction.zcashDeserialize bundleLibraries raw).isOk :=
    ⟨_, rfl, by decide +kernel, by decide +kernel⟩
  rcases horchard with ⟨orchard, hraw, hne, hlen, haccept⟩
  rcases hironwood with ⟨ironwood, hraw', hlen', haccept'⟩
  rcases classify_exact orchardV5 orchard hraw hlen haccept with
    ⟨hmigration, -, hcount, -, hpre, hextension⟩
  rcases classify_exact ironwoodV6 ironwood hraw' hlen' haccept' with ⟨hpass, -, hnone, -⟩
  refine ⟨orchard, ironwood, hraw, hraw', hmigration, hcount, ?_,
    (hextension [7] (by decide)).1, hpass, hnone⟩
  exact (hpre orchard.dropLast [orchard.getLast hne] (List.dropLast_append_getLast hne).symm
    (by simp)).1

end ZeroShim
