import Mathlib.Data.List.Nodup
import Mathlib.Logic.Basic
import ZeroShim.Library.Trim

/-!
# Configuration

Which transport carries diversions, decided once at startup.  What an operator set is
first cleaned of blanks; what is left either selects one transport or names the entry at
fault.

Main results:

- Theorem {lit}`isNymAddress_iff`: the structural check accepts exactly the addresses of
  the form {lit}`identity.encryption@gateway`.
- Theorem {lit}`hubSelection_eq_iff`: the selection is the one its specification gives.
- Theorem {lit}`hubSelection_exact`: neither blanks nor padding change it, and it gives
  back the list it selected.
-/

namespace ZeroShim

open Library

/-! ## Strings -/

/-- {lit}`char::is_whitespace`. -/
def isWhitespace (c : Char) : Bool :=
  (0x9 ≤ c.toNat && c.toNat ≤ 0xd) || c.toNat == 0x20 || c.toNat == 0x85 || c.toNat == 0xa0 ||
    c.toNat == 0x1680 || (0x2000 ≤ c.toNat && c.toNat ≤ 0x200a) || c.toNat == 0x2028 ||
    c.toNat == 0x2029 || c.toNat == 0x202f || c.toNat == 0x205f || c.toNat == 0x3000

/-- {lit}`str::trim`. -/
def trimmed (s : String) : String := String.ofList (trim isWhitespace s.toList)

/-- Nothing but whitespace. -/
def isBlank (s : String) : Bool := s.toList.all isWhitespace

@[simp] theorem toList_trimmed (s : String) :
    (trimmed s).toList = trim isWhitespace s.toList := String.toList_ofList

/-- A string is trimmed to nothing when it is blank. -/
theorem trimmed_eq_empty_iff (s : String) : trimmed s = "" ↔ isBlank s = true := by
  rw [← String.toList_inj, toList_trimmed, isBlank, List.all_eq_true]
  exact trim_eq_nil_iff

theorem trimmed_trimmed (s : String) : trimmed (trimmed s) = trimmed s := by
  rw [← String.toList_inj, toList_trimmed, toList_trimmed, trim_trim]

/-- Whitespace around a string is trimmed off. -/
theorem trimmed_pad {left right : String} (hleft : isBlank left = true)
    (hright : isBlank right = true) (s : String) : trimmed (left ++ s ++ right) = trimmed s := by
  rw [isBlank, List.all_eq_true] at hleft hright
  rw [← String.toList_inj, toList_trimmed, toList_trimmed, String.toList_append,
    String.toList_append, trim_pad hleft hright]

theorem isBlank_trimmed (s : String) : isBlank (trimmed s) = isBlank s := by
  rw [Bool.eq_iff_iff, ← trimmed_eq_empty_iff, ← trimmed_eq_empty_iff, trimmed_trimmed]

/-! ## Settings -/

inductive SocketAddr where
  | v4 (ip : BitVec 32) (port : UInt16)
  | v6 (ip : BitVec 128) (port : UInt16) (flowinfo scopeId : UInt32)
deriving DecidableEq, Repr

/-- The settings of the hub's transports. -/
structure Config where
  hub : Option SocketAddr
  hubNym : List String
  requireDiversion : Bool
  nymRotationSecs : Option UInt64
  nymGateway : List String
  lookupTimeoutSecs : Option UInt64
deriving DecidableEq, Repr

inductive HubSelection where
  /-- No hub: everything is forwarded. -/
  | forwardOnly
  /-- The clearnet path. -/
  | http (addr : SocketAddr)
  /-- The mixnet path. -/
  | nym (addresses : List String)
deriving DecidableEq, Repr

/-- Why a hub selection is unusable. -/
inductive ConfigError where
  | bothTransports
  | malformedNymAddress (addr : String)
  | duplicateNymAddress (addr : String)
  | diversionRequired
deriving DecidableEq, Repr

def ConfigError.text : ConfigError → String
  | .bothTransports =>
    "--hub and --hub-nym are mutually exclusive: set exactly one transport"
  | .malformedNymAddress addr =>
    "--hub-nym entry is not a Nym address of the form identity.encryption@gateway: " ++ addr
  | .duplicateNymAddress addr => "--hub-nym lists the same address twice: " ++ addr
  | .diversionRequired =>
    "--require-diversion is set but no hub transport is configured: this shim " ++
      "would forward every migration to the operator's indexer while appearing " ++
      "healthy. Set --hub (clearnet) or --hub-nym (mixnet), or drop " ++
      "--require-diversion to run deliberately in forward-only mode."

/-! ## Nym addresses -/

/-- A structural check for {lit}`identity.encryption@gateway`. -/
def isNymAddress (addr : String) : Bool :=
  match splitOnce '@' addr.toList with
  | none => false
  | some (keys, gateway) =>
    match splitOnce '.' keys with
    | none => false
    | some (identity, encryption) =>
      !gateway.isEmpty && !identity.isEmpty && !encryption.isEmpty && !gateway.contains '@' &&
        !encryption.contains '.'

/-- One {lit}`@`, one {lit}`.` before it, and nothing empty between them. -/
def HasNymForm (addr : String) : Prop :=
  ∃ identity encryption gateway : List Char,
    addr.toList = identity ++ '.' :: encryption ++ '@' :: gateway ∧
    addr.toList.count '@' = 1 ∧ (identity ++ '.' :: encryption).count '.' = 1 ∧
    identity ≠ [] ∧ encryption ≠ [] ∧ gateway ≠ []

/-- The structural check accepts exactly the addresses of that form. -/
theorem isNymAddress_iff (addr : String) : isNymAddress addr = true ↔ HasNymForm addr := by
  constructor
  · intro h
    unfold isNymAddress at h
    split at h
    · contradiction
    next keys gateway hkeys =>
    split at h
    · contradiction
    next identity encryption hidentity =>
    rcases splitOnce_eq_some_iff.mp hkeys with ⟨htext, hat⟩
    rcases splitOnce_eq_some_iff.mp hidentity with ⟨rfl, hdot⟩
    simp only [Bool.and_eq_true, Bool.not_eq_true', List.isEmpty_eq_false_iff,
      List.contains_eq_mem, decide_eq_false_iff_not] at h
    rcases h with ⟨⟨⟨⟨hgateway, hid⟩, henc⟩, hgatewayAt⟩, hencDot⟩
    refine ⟨identity, encryption, gateway, htext, ?_, ?_, hid, henc, hgateway⟩
    · rw [htext, List.count_append, List.count_cons_self, List.count_eq_zero.mpr hat,
        List.count_eq_zero.mpr hgatewayAt]
    · rw [List.count_append, List.count_cons_self, List.count_eq_zero.mpr hdot,
        List.count_eq_zero.mpr hencDot]
  · intro h
    rcases h with ⟨identity, encryption, gateway, htext, hat, hdot, hid, henc, hgateway⟩
    -- the counts leave no separator inside a part
    rw [htext, List.count_append, List.count_cons_self] at hat
    rw [List.count_append, List.count_cons_self] at hdot
    have hkeysAt : '@' ∉ identity ++ '.' :: encryption := List.count_eq_zero.mp (by omega)
    have hgatewayAt : '@' ∉ gateway := List.count_eq_zero.mp (by omega)
    have hidDot : '.' ∉ identity := List.count_eq_zero.mp (by omega)
    have hencDot : '.' ∉ encryption := List.count_eq_zero.mp (by omega)
    unfold isNymAddress
    rw [htext, splitOnce_append hkeysAt]
    dsimp only
    rw [splitOnce_append hidDot]
    simp [hid, henc, hgateway, hgatewayAt, hencDot]

/-! ## Selecting a transport -/

/-- The entries of {lit}`--hub-nym`, trimmed, without the empty ones. -/
def Config.addresses (config : Config) : List String :=
  (config.hubNym.map trimmed).filter (· ≠ "")

/-- Go through the entries, with those seen so far. -/
def checkAddresses (seen : List String) : List String → Except ConfigError Unit
  | [] => .ok ()
  | addr :: rest =>
    if isNymAddress addr = false then .error (.malformedNymAddress addr)
    else if addr ∈ seen then .error (.duplicateNymAddress addr)
    else checkAddresses (seen ++ [addr]) rest

/-- The configured transport. -/
def Config.hubSelection (config : Config) : Except ConfigError HubSelection :=
  match config.hub, config.addresses.isEmpty with
  | some _, false => .error .bothTransports
  | some addr, true => .ok (.http addr)
  | none, true =>
    if config.requireDiversion then .error .diversionRequired else .ok .forwardOnly
  | none, false => (checkAddresses [] config.addresses).map fun _ => .nym config.addresses

/-! ## What is selected -/

/-- The entries that are not blank, in order, each trimmed. -/
def entries (l : List String) : List String := (l.filter fun s => !isBlank s).map trimmed

theorem addresses_eq_entries (config : Config) : config.addresses = entries config.hubNym := by
  unfold Config.addresses entries
  rw [List.filter_map]
  congr 2
  funext s
  have hempty := trimmed_eq_empty_iff s
  by_cases hblank : isBlank s = true
  · simp [hblank, hempty.mpr hblank]
  · simp [hblank, mt hempty.mp hblank]

/-- Well-formed addresses, each of them once. -/
structure Usable (addrs : List String) : Prop where
  formed : ∀ addr ∈ addrs, HasNymForm addr
  distinct : addrs.Nodup

/-- What a hub option, the entries of a list and the demand for a diversion select. -/
inductive Selects (hub : Option SocketAddr) (addrs : List String) (required : Bool) :
    Except ConfigError HubSelection → Prop where
  | both {addr} : hub = some addr → addrs ≠ [] →
      Selects hub addrs required (.error .bothTransports)
  | http {addr} : hub = some addr → addrs = [] → Selects hub addrs required (.ok (.http addr))
  | forwardOnly : hub = none → addrs = [] → required = false →
      Selects hub addrs required (.ok .forwardOnly)
  | diversionRequired : hub = none → addrs = [] → required = true →
      Selects hub addrs required (.error .diversionRequired)
  | nym : hub = none → addrs ≠ [] → Usable addrs → Selects hub addrs required (.ok (.nym addrs))
  /-- All is well before the entry, which is malformed. -/
  | malformed {front addr rest} : hub = none → addrs = front ++ addr :: rest → Usable front →
      ¬ HasNymForm addr → Selects hub addrs required (.error (.malformedNymAddress addr))
  /-- All is well before the entry, which repeats one of those before. -/
  | duplicate {front addr rest} : hub = none → addrs = front ++ addr :: rest → Usable front →
      addr ∈ front → Selects hub addrs required (.error (.duplicateNymAddress addr))

theorem Usable.snoc {front : List String} {addr : String} (h : Usable front)
    (hformed : HasNymForm addr) (hnew : addr ∉ front) : Usable (front ++ [addr]) := by
  constructor
  · intro a ha
    rcases List.mem_append.mp ha with ha | ha
    · exact h.formed a ha
    · rw [List.mem_singleton.mp ha]
      exact hformed
  · rw [List.nodup_append]
    refine ⟨h.distinct, List.nodup_singleton addr, ?_⟩
    intro a ha b hb
    rw [List.mem_singleton.mp hb]
    exact fun heq => hnew (heq ▸ ha)

/-- Either all is well, or there is a first entry at fault. -/
theorem usable_or_first (addrs : List String) :
    Usable addrs ∨ ∃ front addr rest, addrs = front ++ addr :: rest ∧ Usable front ∧
      (¬ HasNymForm addr ∨ addr ∈ front) := by
  induction addrs using List.reverseRecOn with
  | nil => exact .inl ⟨by simp, List.nodup_nil⟩
  | append_singleton front addr ih =>
    rcases ih with husable | ⟨front', addr', rest, rfl, husable, hfault⟩
    · by_cases hfault : ¬ HasNymForm addr ∨ addr ∈ front
      · exact .inr ⟨front, addr, [], rfl, husable, hfault⟩
      · rw [not_or, not_not] at hfault
        exact .inl (husable.snoc hfault.1 hfault.2)
    · right
      refine ⟨front', addr', rest ++ [addr], ?_, husable, hfault⟩
      rw [List.append_assoc, List.cons_append]

/-- A usable beginning is passed. -/
theorem checkAddresses_append (seen front rest : List String) (h : Usable (seen ++ front)) :
    checkAddresses seen (front ++ rest) = checkAddresses (seen ++ front) rest := by
  induction front generalizing seen with
  | nil => rw [List.nil_append, List.append_nil]
  | cons addr front ih =>
    have hformed := (isNymAddress_iff addr).mpr (h.formed addr (by simp))
    have hnew : addr ∉ seen := by
      intro hmem
      have hdisjoint := (List.nodup_append.mp h.distinct).2.2
      exact hdisjoint addr hmem addr List.mem_cons_self rfl
    rw [List.append_cons] at h
    rw [List.cons_append, checkAddresses, if_neg (by simp [hformed]), if_neg hnew, ih _ h,
      ← List.append_cons]

/-- Without a hub, the entries decide. -/
theorem hubSelection_of_entries {config : Config} (hhub : config.hub = none)
    (hne : config.addresses ≠ []) :
    config.hubSelection =
      (checkAddresses [] config.addresses).map fun _ => .nym config.addresses := by
  unfold Config.hubSelection
  rw [hhub, List.isEmpty_eq_false_iff.mpr hne]

/-- The entry after a usable beginning is checked against it. -/
theorem checkAddresses_split {front rest : List String} {addr : String} (h : Usable front) :
    checkAddresses [] (front ++ addr :: rest) =
      if isNymAddress addr = false then .error (.malformedNymAddress addr)
      else if addr ∈ front then .error (.duplicateNymAddress addr)
      else checkAddresses (front ++ [addr]) rest := by
  rw [checkAddresses_append [] front _ h, List.nil_append, checkAddresses]

/-- What the specification gives is what is selected. -/
theorem hubSelection_of_selects {config : Config} {r : Except ConfigError HubSelection}
    (h : Selects config.hub config.addresses config.requireDiversion r) :
    config.hubSelection = r := by
  cases h with
  | both hhub hne =>
    unfold Config.hubSelection
    rw [hhub, List.isEmpty_eq_false_iff.mpr hne]
  | http hhub hnil =>
    unfold Config.hubSelection
    rw [hhub, List.isEmpty_iff.mpr hnil]
  | forwardOnly hhub hnil hrequired =>
    unfold Config.hubSelection
    rw [hhub, List.isEmpty_iff.mpr hnil, hrequired]
    rfl
  | diversionRequired hhub hnil hrequired =>
    unfold Config.hubSelection
    rw [hhub, List.isEmpty_iff.mpr hnil, hrequired]
    rfl
  | nym hhub hne husable =>
    have hcheck := checkAddresses_append [] config.addresses [] husable
    rw [List.append_nil] at hcheck
    rw [hubSelection_of_entries hhub hne, hcheck]
    rfl
  | @malformed front addr rest hhub hsplit husable hfault =>
    have hbad : isNymAddress addr = false := by
      rw [Bool.eq_false_iff]
      exact mt (isNymAddress_iff addr).mp hfault
    rw [hubSelection_of_entries hhub (by simp [hsplit]), hsplit, checkAddresses_split husable,
      if_pos hbad]
    rfl
  | @duplicate front addr rest hhub hsplit husable hrepeated =>
    have hformed := (isNymAddress_iff addr).mpr (husable.formed addr hrepeated)
    rw [hubSelection_of_entries hhub (by simp [hsplit]), hsplit, checkAddresses_split husable,
      if_neg (by simp [hformed]), if_pos hrepeated]
    rfl

/-- The specification always gives something. -/
theorem exists_selects (hub : Option SocketAddr) (addrs : List String) (required : Bool) :
    ∃ r, Selects hub addrs required r := by
  cases hhub : hub with
  | some addr =>
    by_cases hnil : addrs = []
    · exact ⟨_, .http rfl hnil⟩
    · exact ⟨_, .both rfl hnil⟩
  | none =>
    by_cases hnil : addrs = []
    · cases hrequired : required with
      | true => exact ⟨_, .diversionRequired rfl hnil rfl⟩
      | false => exact ⟨_, .forwardOnly rfl hnil rfl⟩
    · rcases usable_or_first addrs with husable | ⟨front, addr, rest, hsplit, husable, hfault⟩
      · exact ⟨_, .nym rfl hnil husable⟩
      · rcases hfault with hmalformed | hrepeated
        · exact ⟨_, .malformed rfl hsplit husable hmalformed⟩
        · exact ⟨_, .duplicate rfl hsplit husable hrepeated⟩

/-- The selection is the one its specification gives. -/
theorem hubSelection_eq_iff (config : Config) (r : Except ConfigError HubSelection) :
    config.hubSelection = r ↔
      Selects config.hub (entries config.hubNym) config.requireDiversion r := by
  rw [← addresses_eq_entries]
  constructor
  · intro h
    rcases exists_selects config.hub config.addresses config.requireDiversion with ⟨r', hr'⟩
    rw [← h, hubSelection_of_selects hr']
    exact hr'
  · exact hubSelection_of_selects

/-! ## Blanks and padding -/

/-- A list with blank entries put in, and whitespace around its own. -/
inductive Respaced : List String → List String → Prop where
  | nil : Respaced [] []
  | blank {l l' blank} : isBlank blank = true → Respaced l l' → Respaced l (blank :: l')
  | entry {l l' left right} (s : String) : isBlank left = true → isBlank right = true →
      Respaced l l' → Respaced (s :: l) ((left ++ s ++ right) :: l')

theorem entries_cons (s : String) (l : List String) :
    entries (s :: l) = if isBlank s then entries l else trimmed s :: entries l := by
  unfold entries
  by_cases hblank : isBlank s = true
  · simp [hblank]
  · simp [hblank]

theorem entries_of_respaced {l l' : List String} (h : Respaced l l') :
    entries l' = entries l := by
  induction h with
  | nil => rfl
  | blank hblank _ ih => rw [entries_cons, if_pos hblank, ih]
  | entry s hleft hright _ ih =>
    have htrimmed := trimmed_pad hleft hright s
    rw [entries_cons, entries_cons, ← isBlank_trimmed, htrimmed, isBlank_trimmed, ih]

theorem entries_entries (l : List String) : entries (entries l) = entries l := by
  induction l with
  | nil => rfl
  | cons s l ih =>
    rw [entries_cons]
    split_ifs with hblank
    · exact ih
    · rw [entries_cons, isBlank_trimmed, if_neg hblank, trimmed_trimmed, ih]

/-- The selection is the one its specification gives; neither blank entries nor whitespace
around an entry change it; and the list selected selects itself. -/
theorem hubSelection_exact (config : Config) :
    (∀ r, config.hubSelection = r ↔
      Selects config.hub (entries config.hubNym) config.requireDiversion r) ∧
    (∀ hubNym, Respaced config.hubNym hubNym →
      Config.hubSelection { config with hubNym := hubNym } = config.hubSelection) ∧
    ∀ addrs, config.hubSelection = .ok (.nym addrs) →
      Config.hubSelection { config with hubNym := addrs } = .ok (.nym addrs) := by
  refine ⟨hubSelection_eq_iff config, ?_, ?_⟩
  · intro hubNym hrespaced
    rw [hubSelection_eq_iff]
    dsimp only
    rw [entries_of_respaced hrespaced, ← hubSelection_eq_iff]
  · intro addrs hselected
    rw [hubSelection_eq_iff] at hselected ⊢
    have haddrs : addrs = entries config.hubNym := by
      cases hselected
      rfl
    dsimp only
    rw [haddrs, entries_entries]
    rw [haddrs] at hselected
    exact hselected

end ZeroShim
