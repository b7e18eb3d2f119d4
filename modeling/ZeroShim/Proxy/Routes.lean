import ZeroShim.Library.Segment
import ZeroShim.Proxy.Handle

/-!
# The interception language

The near misses that {lit}`route_for` classifies, as a language of paths.

Main results:

- Theorem {lit}`intercepts_iff`: the paths that are classified are those whose final segment
  spells the method.
- Theorem {lit}`routeFor_exact`: the whole predicate, and what a slash or a change of case
  does to it.
-/

namespace ZeroShim

open Library

/-! ## The language -/

/-- The request is decoded and classified. -/
def Route.Intercepts (route : Route) : Prop := route = .intercept ∨ route = .interceptNearMiss

/-- The paths of the arms that are matched before a near miss is looked for. -/
def otherPaths : List String :=
  [getTransactionPath, cautionHealthPath, cautionAttestationPath, shimHealthPath,
    shimNymStatusPath, shimNymDiagPath]

/-- The method in lower case. -/
def methodLetters : List Char := "sendtransaction".toList

/-- A segment spells the method, ASCII case aside. -/
def Spells (segment : List Char) : Prop := segment.map Char.toLower = methodLetters

/-- The segment that is left behind the last slash once the trailing ones are removed. -/
structure FinalSegment (path : String) (front segment : List Char) (slashes : Nat) : Prop where
  toList : path.toList = front ++ segment ++ List.replicate slashes '/'
  endsAt : EndsAt '/' front
  not_mem : '/' ∉ segment
  /-- Every trailing slash is removed. -/
  trimmed : segment = [] → front = []

/-- The final segment spells the method. -/
def SpellsMethod (path : String) : Prop :=
  ∃ front segment slashes, FinalSegment path front segment slashes ∧ Spells segment

/-- Slashes appended to a path. -/
def appendSlashes (path : String) (n : Nat) : String :=
  String.ofList (path.toList ++ List.replicate n '/')

/-- Two paths that differ in the case of their final segment alone. -/
def Recased (path other : String) : Prop :=
  ∃ front segment segment' slashes, FinalSegment path front segment slashes ∧
    other.toList = front ++ segment' ++ List.replicate slashes '/' ∧
      segment'.map Char.toLower = segment.map Char.toLower

/-! ## Its paths are classified -/

/-- A spelling of the method has no slash, and is not empty. -/
theorem Spells.not_mem {segment : List Char} (h : Spells segment) : '/' ∉ segment := by
  intro hmem
  have hlower : Char.toLower '/' ∈ segment.map Char.toLower := List.mem_map_of_mem hmem
  rw [h] at hlower
  exact absurd hlower (by decide)

theorem Spells.ne_nil {segment : List Char} (h : Spells segment) : segment ≠ [] := by
  rintro rfl
  have hne : ([] : List Char).map Char.toLower ≠ methodLetters := by decide
  exact hne h

/-- The final segment is the one that the code compares. -/
theorem FinalSegment.lastSegment_eq {path : String} {front segment : List Char} {slashes : Nat}
    (h : FinalSegment path front segment slashes) : lastSegment path = segment := by
  by_cases hnil : segment = []
  · rw [lastSegment, h.toList, hnil, h.trimmed hnil]
    simp
  · exact (finalSegment_eq_iff hnil).mpr ⟨front, slashes, h.toList, h.not_mem, h.endsAt⟩

/-- What the code compares with the method is the final segment. -/
theorem spellsMethod_iff (path : String) : SpellsMethod path ↔ Spells (lastSegment path) := by
  constructor
  · rintro ⟨front, segment, slashes, hpath, hspells⟩
    rw [hpath.lastSegment_eq]
    exact hspells
  · intro hspells
    obtain ⟨front, slashes, hpath, hnot, hfront⟩ :=
      (finalSegment_eq_iff (l := path.toList) hspells.ne_nil).mp rfl
    exact ⟨front, _, slashes,
      ⟨hpath, hfront, hnot, fun hnil => absurd hnil hspells.ne_nil⟩, hspells⟩

theorem spellsMethod_sendTransactionPath : SpellsMethod sendTransactionPath :=
  (spellsMethod_iff _).mpr (by unfold Spells; decide)

/-- No other arm comes before a spelling of the method. -/
theorem SpellsMethod.not_mem {path : String} (h : SpellsMethod path) : path ∉ otherPaths := by
  have hothers : ∀ other ∈ otherPaths, ¬ Spells (lastSegment other) := by
    unfold Spells
    decide
  intro hmem
  exact hothers path hmem ((spellsMethod_iff path).mp h)

/-- The paths that are classified are those whose final segment spells the method. -/
theorem intercepts_iff (path : String) :
    (routeFor path).Intercepts ↔ SpellsMethod path := by
  unfold Route.Intercepts
  rw [routeFor_intercept_iff]
  constructor
  · rintro (rfl | ⟨hspells, -⟩)
    · exact spellsMethod_sendTransactionPath
    · exact (spellsMethod_iff path).mpr hspells
  · intro h
    exact .inr ⟨(spellsMethod_iff path).mp h, h.not_mem⟩

theorem routeFor_eq_intercept_iff (path : String) :
    routeFor path = .intercept ↔ path = sendTransactionPath := by
  unfold routeFor
  split_ifs <;> simp_all

/-! ## Slashes and case -/

/-- Slashes behind a path change neither its final segment nor what stands before it. -/
theorem FinalSegment.append {path : String} {front segment : List Char} {slashes : Nat}
    (h : FinalSegment path front segment slashes) (n : Nat) :
    FinalSegment (appendSlashes path n) front segment (slashes + n) where
  toList := by
    rw [appendSlashes, String.toList_ofList, h.toList, List.append_assoc,
      List.replicate_append_replicate]
  endsAt := h.endsAt
  not_mem := h.not_mem
  trimmed := h.trimmed

theorem SpellsMethod.append {path : String} (h : SpellsMethod path) (n : Nat) :
    SpellsMethod (appendSlashes path n) := by
  rcases h with ⟨front, segment, slashes, hpath, hspells⟩
  exact ⟨front, segment, slashes + n, hpath.append n, hspells⟩

/-- A path that spells the method does so in any other case. -/
theorem SpellsMethod.recased {path other : String} (h : SpellsMethod path)
    (hrecased : Recased path other) : SpellsMethod other := by
  rcases hrecased with ⟨front, segment, segment', slashes, hpath, hother, hcase⟩
  have hspells : Spells segment' := by
    rw [Spells, hcase, ← hpath.lastSegment_eq]
    exact (spellsMethod_iff path).mp h
  exact ⟨front, segment', slashes,
    ⟨hother, hpath.endsAt, hspells.not_mem, fun hnil => absurd hnil hspells.ne_nil⟩, hspells⟩

/-- The routing predicate, for every path: a path is classified exactly when its final segment
spells the method, and with certainty when it is the method's path; no other arm gets such a
path; and neither slashes behind it nor another case of its final segment let it through. -/
theorem routeFor_exact (path : String) :
    ((routeFor path).Intercepts ↔ SpellsMethod path) ∧
    (routeFor path = .intercept ↔ path = sendTransactionPath) ∧
    (SpellsMethod path → path ∉ otherPaths) ∧
    (∀ n, (routeFor path).Intercepts → (routeFor (appendSlashes path n)).Intercepts) ∧
    ∀ other, (routeFor path).Intercepts → Recased path other → (routeFor other).Intercepts := by
  refine ⟨intercepts_iff path, routeFor_eq_intercept_iff path, SpellsMethod.not_mem, ?_, ?_⟩
  · intro n h
    rw [intercepts_iff] at h ⊢
    exact h.append n
  · intro other h hrecased
    rw [intercepts_iff] at h ⊢
    exact h.recased hrecased

/-- A near miss of two slashes, and one in capital letters. -/
theorem routeFor_exact_nearMiss :
    (routeFor (appendSlashes sendTransactionPath 2)).Intercepts ∧
      (routeFor "/some.other.Service/SENDTRANSACTION").Intercepts := by
  have hexact := routeFor_exact "/some.other.Service/SendTransaction"
  have hnear : (routeFor "/some.other.Service/SendTransaction").Intercepts := .inr (by decide)
  refine ⟨(routeFor_exact sendTransactionPath).2.2.2.1 2 (.inl (by decide)), ?_⟩
  refine hexact.2.2.2.2 _ hnear ⟨"/some.other.Service/".toList, "SendTransaction".toList,
    "SENDTRANSACTION".toList, 0, ⟨?_, .inr ?_, ?_, ?_⟩, ?_, ?_⟩ <;> decide

end ZeroShim
