/-
AgentPlatform/Draft/Repository.lean

The PostgreSQL repository of draft invocations
(`PostgresDraftAssistanceRepository`): five tables with their unique
constraints and checks (migration 0023), and the operations as transactions
over them. A table is the list of its rows in the order of insertion.

The stored versions of an invocation are its `history`. **Main results:** in
`Valid` tables a history is numbered from one (`Valid.numbered`), `latest` is
its last version (`Valid.latest_eq`), and `claim` and `compareAndSet` extend one
history by one version or change nothing (`claim_spec`, `compareAndSet_spec`).
-/
import AgentPlatform.Draft.Codec
import AgentPlatform.Py.Hash
import AgentPlatform.Py.Table

namespace AgentPlatform

open Py

namespace Draft

/-! ### Rows -/

structure ContextRow where
  scope : DraftScope
  contextId : String
  initiatingPrincipalId : String
  deriving DecidableEq

structure TurnRow where
  scope : DraftScope
  contextId : String
  turnId : String
  ordinal : Int
  version : Int
  parentTurnId : Option String
  deriving DecidableEq

structure InvocationRow where
  scope : DraftScope
  invocationId : String
  contextId : String
  turnId : String
  initiatingPrincipalId : String
  deriving DecidableEq

structure ClaimRow where
  scope : DraftScope
  initiatingPrincipalId : String
  scopedIdempotencyKey : String
  invocationId : String
  deriving DecidableEq

structure VersionRow where
  scope : DraftScope
  invocationId : String
  aggregateVersion : Nat
  record : Json

structure Tables where
  contexts : List ContextRow := []
  turns : List TurnRow := []
  invocations : List InvocationRow := []
  claims : List ClaimRow := []
  versions : List VersionRow := []

/-- `DRAFT_STORAGE_UNAVAILABLE`, what a database error is reported as. -/
def storageUnavailable : Fault := draftError "DRAFT_STORAGE_UNAVAILABLE"

def TurnRow.of (r : DraftInvocation) : TurnRow :=
  ⟨r.scope, r.contextId, r.turnId, r.turnOrdinal, r.turnVersion, r.parentTurnId⟩

def InvocationRow.of (r : DraftInvocation) : InvocationRow :=
  ⟨r.scope, r.invocationId, r.contextId, r.turnId, r.initiatingPrincipalId⟩

def ClaimRow.of (r : DraftInvocation) : ClaimRow :=
  ⟨r.scope, r.initiatingPrincipalId, r.scopedIdempotencyKey, r.invocationId⟩

namespace VersionRow

def key (row : VersionRow) : InvocationKey := (row.scope, row.invocationId)

/-- The row that stores a version. -/
def of (r : DraftInvocation) : VersionRow :=
  ⟨r.scope, r.invocationId, r.aggregateVersion, Draft.record r⟩

@[simp] theorem of_key (r : DraftInvocation) : (of r).key = r.key := rfl

end VersionRow

/-! ### Checks of the database -/

/-- A text parameter: PostgreSQL takes no U+0000. -/
def plain (s : String) : Bool := !s.toList.contains '\x00'

/-- A `bigint` with the check that it is positive. -/
def positiveBigint (n : Int) : Bool := 0 < n && n < 2 ^ 63

/-- The row of `idempotency_claims` passes its checks. -/
def claimStorable (r : DraftInvocation) : Bool :=
  [r.scope.namespace_, r.scope.securityDomain, r.initiatingPrincipalId, r.scopedIdempotencyKey,
    r.invocationId, r.canonicalizationVersion, r.pepperReference, r.pepperVersion].all plain
  && isHex64 r.commitment && r.commitmentAlgorithm = "HMAC-SHA-256"

/-- The row of `turns` passes its checks. -/
def turnStorable (r : DraftInvocation) : Bool :=
  plain r.contextId && plain r.turnId && (r.parentTurnId.all plain)
    && positiveBigint r.turnOrdinal && positiveBigint r.turnVersion

/-- The row of `invocation_versions` passes its checks. -/
def versionStorable (r : DraftInvocation) : Bool :=
  (Draft.record r).nulFree && positiveBigint r.aggregateVersion

/-! ### Operations -/

namespace Tables

def rows (t : Tables) (key : InvocationKey) : List VersionRow := t.versions.filter (·.key = key)

/-- `ORDER BY aggregate_version DESC LIMIT 1`. -/
def greatest : List VersionRow → Option VersionRow
  | [] => none
  | row :: rows =>
    match greatest rows with
    | none => some row
    | some best => if best.aggregateVersion < row.aggregateVersion then some row else some best

/-- `_invocation(row["record"])`. -/
def decode (row : VersionRow) : Except Fault DraftInvocation :=
  match invocation row.record with
  | some r => .ok r
  | none => .error otherError

def latest (t : Tables) (key : InvocationKey) : Except Fault (Option DraftInvocation) :=
  match greatest (t.rows key) with
  | none => .ok none
  | some row => (decode row).map some

/-- The invocation that a key stands for. -/
def claimed (t : Tables) (scope : DraftScope) (principalId key : String) : Option String :=
  (t.claims.find? fun c => c.scope = scope ∧ c.initiatingPrincipalId = principalId
    ∧ c.scopedIdempotencyKey = key).map (·.invocationId)

def get (t : Tables) (scope : DraftScope) (invocationId : String) :
    Except Fault (Option DraftInvocation) :=
  if plain scope.namespace_ && plain scope.securityDomain && plain invocationId then
    t.latest (scope, invocationId)
  else .error storageUnavailable

def getByKey (t : Tables) (scope : DraftScope) (principalId key : String) :
    Except Fault (Option DraftInvocation) :=
  if plain scope.namespace_ && plain scope.securityDomain && plain principalId && plain key then
    match t.claimed scope principalId key with
    | none => .ok none
    | some invocationId => t.latest (scope, invocationId)
  else .error storageUnavailable

/-- The join of `invocations` and `turns` for a context, with the ordinals. -/
def contextTurns (t : Tables) (scope : DraftScope) (contextId : String) : List (Int × String) :=
  (t.invocations.filter fun i => i.scope = scope ∧ i.contextId = contextId).flatMap fun i =>
    (t.turns.filter fun u => u.scope = scope ∧ u.contextId = contextId ∧ u.turnId = i.turnId).map
      fun u => (u.ordinal, i.invocationId)

/-- `ORDER BY t.ordinal DESC LIMIT 1`. -/
def lastTurn : List (Int × String) → Option (Int × String)
  | [] => none
  | turn :: turns =>
    match lastTurn turns with
    | none => some turn
    | some best => if best.1 < turn.1 then some turn else some best

def getContextHead (t : Tables) (scope : DraftScope) (contextId : String) :
    Except Fault (Option DraftInvocation) :=
  if plain scope.namespace_ && plain scope.securityDomain && plain contextId then
    match lastTurn (t.contextTurns scope contextId) with
    | none => .ok none
    | some (_, invocationId) => t.latest (scope, invocationId)
  else .error storageUnavailable

/-- The invocation is known by the target. -/
def targets (target : String) (r : DraftInvocation) : Bool :=
  target = r.requestTarget || target = r.modelTarget
    || target = "draft-assistance:invocation:" ++ r.invocationId

/-- `SELECT DISTINCT ON (v.invocation_id) ...`: the invocations of a principal
in the order of their identifiers, which `collate` compares. -/
def identifiers (collate : String → String → Bool) (t : Tables) (scope : DraftScope)
    (principalId : String) : List String :=
  ((t.invocations.filter fun i => i.scope = scope ∧ i.initiatingPrincipalId = principalId).map
    (·.invocationId)).mergeSort collate

/-- The first of the invocations whose latest version is known by the target. -/
def firstTargeted (t : Tables) (scope : DraftScope) (target : String) :
    List String → Except Fault (Option DraftInvocation)
  | [] => .ok none
  | invocationId :: rest =>
    match t.latest (scope, invocationId) with
    | .error e => .error e
    | .ok none => t.firstTargeted scope target rest
    | .ok (some r) => if targets target r then .ok (some r) else t.firstTargeted scope target rest

def findByTarget (collate : String → String → Bool) (t : Tables) (scope : DraftScope)
    (principalId target : String) : Except Fault (Option DraftInvocation) :=
  if plain scope.namespace_ && plain scope.securityDomain && plain principalId then
    t.firstTargeted scope target (t.identifiers collate scope principalId)
  else .error storageUnavailable

/-- The insertions of a new claim, all or none. -/
def insertClaim (t : Tables) (c : DraftInvocation) : Except Fault Tables :=
  if turnStorable c = false then .error storageUnavailable
  else if t.turns.any (fun u => u.scope = c.scope && u.turnId = c.turnId)
      || t.turns.any (fun u => u.scope = c.scope && u.contextId = c.contextId
        && u.ordinal = c.turnOrdinal) then .error storageUnavailable
  else if t.invocations.any (fun i => i.scope = c.scope && i.invocationId = c.invocationId) then
    .error storageUnavailable
  else if versionStorable c = false || t.versions.any (fun v => v.key = c.key
      && v.aggregateVersion = c.aggregateVersion) then .error storageUnavailable
  else
    .ok {
      contexts :=
        if t.contexts.any (fun x => x.scope = c.scope && x.contextId = c.contextId) then t.contexts
        else t.contexts ++ [⟨c.scope, c.contextId, c.initiatingPrincipalId⟩]
      turns := t.turns ++ [TurnRow.of c]
      invocations := t.invocations ++ [InvocationRow.of c]
      claims := t.claims ++ [ClaimRow.of c]
      versions := t.versions ++ [VersionRow.of c] }

def claim (t : Tables) (c : DraftInvocation) : Except Fault ((DraftInvocation × Bool) × Tables) :=
  if claimStorable c = false then .error storageUnavailable
  else
    match t.claimed c.scope c.initiatingPrincipalId c.scopedIdempotencyKey with
    | some invocationId =>
      match t.latest (c.scope, invocationId) with
      | .error e => .error e
      | .ok none => .error storageUnavailable
      | .ok (some current) => .ok ((current, false), t)
    | none =>
      -- the claim of another key holds this invocation: nothing is inserted or found
      if t.claims.any (fun x => x.scope = c.scope && x.invocationId = c.invocationId) then
        .error otherError
      else (t.insertClaim c).map fun t' => ((c, true), t')

def compareAndSet (t : Tables) (expectedVersion : Nat) (r : DraftInvocation) :
    Except Fault (Option DraftInvocation × Tables) :=
  if (plain r.scope.namespace_ && plain r.scope.securityDomain && plain r.invocationId) = false then
    .error storageUnavailable
  else if t.invocations.any (fun i => i.scope = r.scope && i.invocationId = r.invocationId) = false then
    .ok (none, t)
  else
    match t.latest r.key with
    | .error e => .error e
    | .ok none => .ok (none, t)
    | .ok (some current) =>
      if current.aggregateVersion ≠ expectedVersion then .ok (none, t)
      else if versionStorable r = false || t.versions.any (fun v => v.key = r.key
          && v.aggregateVersion = r.aggregateVersion) then .error storageUnavailable
      else .ok (some r, { t with versions := t.versions ++ [VersionRow.of r] })

/-! ### Histories -/

/-- The stored versions of an invocation, oldest first. -/
def history (t : Tables) (key : InvocationKey) : List DraftInvocation :=
  (t.rows key).filterMap fun row => invocation row.record

theorem history_append {t t' : Tables} {r : DraftInvocation}
    (h : t'.versions = t.versions ++ [VersionRow.of r]) (key : InvocationKey) :
    t'.history key = t.history key ++ if r.key = key then [r] else [] := by
  simp only [history, rows, h, List.filter_append, List.filterMap_append]
  congr 1
  by_cases hk : r.key = key
  · simp [VersionRow.of, invocation_record, VersionRow.key, ← hk, DraftInvocation.key]
  · have hk' : ¬ (VersionRow.of r).key = key := hk
    simp [hk]

theorem history_append_self {t t' : Tables} {r : DraftInvocation}
    (h : t'.versions = t.versions ++ [VersionRow.of r]) :
    t'.history r.key = t.history r.key ++ [r] := by
  simp [history_append h]

theorem history_append_ne {t t' : Tables} {r : DraftInvocation} {key : InvocationKey}
    (h : t'.versions = t.versions ++ [VersionRow.of r]) (hk : r.key ≠ key) :
    t'.history key = t.history key := by
  simp [history_append h, hk]

/-- The first version of every invocation, in the order of their claims. -/
def firsts (t : Tables) : List DraftInvocation :=
  (t.versions.filterMap fun row => invocation row.record).filter fun r => r.aggregateVersion = 1

theorem firsts_append {t t' : Tables} {r : DraftInvocation}
    (h : t'.versions = t.versions ++ [VersionRow.of r]) :
    t'.firsts = t.firsts ++ if r.aggregateVersion = 1 then [r] else [] := by
  simp only [firsts, h, List.filterMap_append, List.filter_append]
  refine congrArg _ ?_
  by_cases hn : r.aggregateVersion = 1 <;> simp [VersionRow.of, invocation_record, hn]

/-- What the writes of the service keep: every version row stores a version,
the versions of an invocation are numbered from one and have one origin, an
invocation has a row of its own, a claim stands for a stored invocation that
carries its key, and the rows of the other tables are those of the first
versions. -/
structure Valid (t : Tables) : Prop where
  stored : ∀ row ∈ t.versions, ∃ r, row = VersionRow.of r
  numbered : ∀ key, ∀ n, ∀ h : n < (t.history key).length,
    ((t.history key).get ⟨n, h⟩).aggregateVersion = n + 1
  present : ∀ key, t.history key ≠ [] →
    t.invocations.any (fun i => i.scope = key.1 && i.invocationId = key.2) = true
  claimed : ∀ scope principalId key invocationId, t.claimed scope principalId key = some invocationId →
    ∃ r ∈ t.history (scope, invocationId), r.initiatingPrincipalId = principalId
      ∧ r.scopedIdempotencyKey = key
  origin : ∀ key, ∀ r ∈ t.history key, ∀ r' ∈ t.history key, r.origin = r'.origin
  turnRows : t.turns = t.firsts.map TurnRow.of
  invocationRows : t.invocations = t.firsts.map InvocationRow.of
  claimRows : t.claims = t.firsts.map ClaimRow.of
  distinct : (t.firsts.map DraftInvocation.key).Nodup
  turnKeys : (t.turns.map fun u => (u.scope, u.turnId)).Nodup
  ordinals : (t.turns.map fun u => (u.scope, u.contextId, u.ordinal)).Nodup

variable {t t' : Tables} {key : InvocationKey} {r : DraftInvocation}

theorem valid_empty : ({} : Tables).Valid where
  stored := by simp
  numbered := by
    intro key n h
    exact absurd h (by simp [history, rows])
  present := by
    intro key h
    exact absurd (by simp [history, rows]) h
  claimed := by
    intro scope principalId key invocationId h
    simp [Tables.claimed] at h
  origin := by
    intro key r h
    simp [history, rows] at h
  turnRows := rfl
  invocationRows := rfl
  claimRows := rfl
  distinct := List.nodup_nil
  turnKeys := List.nodup_nil
  ordinals := List.nodup_nil

/-- A first version is stored, with the number one. -/
theorem Valid.mem_firsts (hv : t.Valid) :
    r ∈ t.firsts ↔ r ∈ t.history r.key ∧ r.aggregateVersion = 1 := by
  simp only [firsts, history, rows, List.mem_filter, List.mem_filterMap, decide_eq_true_eq]
  constructor
  · rintro ⟨⟨row, hrow, hr⟩, hn⟩
    obtain ⟨r', rfl⟩ := hv.stored row hrow
    have hr' : invocation (VersionRow.of r').record = some r' := invocation_record r'
    rw [hr'] at hr
    cases hr
    exact ⟨⟨VersionRow.of r, ⟨hrow, rfl⟩, hr'⟩, hn⟩
  · rintro ⟨⟨row, ⟨hrow, -⟩, hr⟩, hn⟩
    exact ⟨⟨row, hrow, hr⟩, hn⟩

theorem Valid.key_eq (hv : t.Valid) (h : r ∈ t.history key) : r.key = key := by
  obtain ⟨row, hrow, hr⟩ := List.mem_filterMap.mp h
  obtain ⟨hmem, hkey⟩ := List.mem_filter.mp hrow
  obtain ⟨r', rfl⟩ := hv.stored row hmem
  rw [VersionRow.of, invocation_record] at hr
  cases hr
  exact of_decide_eq_true hkey

theorem Valid.rows_eq (hv : t.Valid) (key : InvocationKey) :
    t.rows key = (t.history key).map VersionRow.of := by
  have hmap : ∀ l : List VersionRow, (∀ row ∈ l, ∃ r, row = VersionRow.of r) →
      l = (l.filterMap fun row => invocation row.record).map VersionRow.of := by
    intro l hl
    induction l with
    | nil => rfl
    | cons row l ih =>
      obtain ⟨r, rfl⟩ := hl row List.mem_cons_self
      have hrest := ih fun row hrow => hl row (List.mem_cons_of_mem _ hrow)
      simp only [List.filterMap_cons, VersionRow.of, invocation_record, List.map_cons]
      exact congrArg _ hrest
  exact hmap _ fun row hrow => hv.stored row (List.mem_of_mem_filter hrow)

/-- The greatest of rows that are numbered upwards is the last one. -/
theorem greatest_eq_last (l : List DraftInvocation)
    (h : l.Pairwise fun a b => a.aggregateVersion < b.aggregateVersion) :
    greatest (l.map VersionRow.of) = l.getLast?.map VersionRow.of := by
  induction l with
  | nil => rfl
  | cons r l ih =>
    obtain ⟨hr, hl⟩ := List.pairwise_cons.mp h
    simp only [List.map_cons, greatest, ih hl]
    cases hlast : l.getLast? with
    | none =>
      rw [List.getLast?_eq_none_iff] at hlast
      subst hlast
      rfl
    | some best =>
      have hlt := hr best (List.mem_of_getLast? hlast)
      have hcons : (r :: l).getLast? = some best := by
        rw [List.getLast?_cons, hlast]
        rfl
      rw [hcons]
      exact if_neg (show ¬ best.aggregateVersion < r.aggregateVersion by omega)

theorem Valid.ascending (hv : t.Valid) (key : InvocationKey) :
    (t.history key).Pairwise fun a b => a.aggregateVersion < b.aggregateVersion := by
  rw [List.pairwise_iff_getElem]
  intro m n hm hn hmn
  have hm' := hv.numbered key m hm
  have hn' := hv.numbered key n hn
  simp only [List.get_eq_getElem] at hm' hn'
  omega

/-- **The latest version** is the last of the history. -/
theorem Valid.latest_eq (hv : t.Valid) (key : InvocationKey) :
    t.latest key = .ok (t.history key).getLast? := by
  rw [latest, hv.rows_eq, greatest_eq_last _ (hv.ascending key)]
  cases (t.history key).getLast? with
  | none => rfl
  | some r =>
    simp only [Option.map_some, decode, VersionRow.of, invocation_record]
    rfl

theorem Valid.last_version (hv : t.Valid) (h : (t.history key).getLast? = some r) :
    r.aggregateVersion = (t.history key).length := by
  obtain ⟨l, hl⟩ := List.getLast?_eq_some_iff.mp h
  have hn := hv.numbered key l.length (by simp [hl])
  simp only [List.get_eq_getElem, hl, List.getElem_concat_length] at hn
  simp [hl, hn]

/-- The version with a number is the one at its place. -/
theorem Valid.eq_of_version (hv : t.Valid) {r' : DraftInvocation} (h : r ∈ t.history key)
    (h' : r' ∈ t.history key) (hn : r.aggregateVersion = r'.aggregateVersion) : r = r' := by
  obtain ⟨m, hm, rfl⟩ := List.getElem_of_mem h
  obtain ⟨n, hn', rfl⟩ := List.getElem_of_mem h'
  have hm' := hv.numbered key m hm
  have hn'' := hv.numbered key n hn'
  simp only [List.get_eq_getElem] at hm' hn''
  have hmn : m = n := by omega
  subst hmn
  rfl

/-! ### What the writes do -/

/-- A new version of the next number keeps the tables valid. -/
theorem Valid.append (hv : t.Valid) (hversions : t'.versions = t.versions ++ [VersionRow.of r])
    (hnumber : r.aggregateVersion = (t.history r.key).length + 1)
    (hpresent : t'.invocations.any (fun i => i.scope = r.scope && i.invocationId = r.invocationId)
      = true)
    (hinvocations : ∀ i ∈ t.invocations, i ∈ t'.invocations)
    (hclaimed : ∀ scope principalId key invocationId,
      t'.claimed scope principalId key = some invocationId →
      t.claimed scope principalId key = some invocationId
      ∨ ((scope, invocationId) = r.key ∧ r.initiatingPrincipalId = principalId
        ∧ r.scopedIdempotencyKey = key))
    (horigin : ∀ q ∈ t.history r.key, r.origin = q.origin)
    (hturns : t'.turns = t'.firsts.map TurnRow.of)
    (hrows : t'.invocations = t'.firsts.map InvocationRow.of)
    (hclaims : t'.claims = t'.firsts.map ClaimRow.of)
    (hturnKeys : (t'.turns.map fun u => (u.scope, u.turnId)).Nodup)
    (hordinals : (t'.turns.map fun u => (u.scope, u.contextId, u.ordinal)).Nodup) : t'.Valid where
  stored := by
    intro row hrow
    rw [hversions, List.mem_append] at hrow
    rcases hrow with hrow | hrow
    · exact hv.stored row hrow
    · exact ⟨r, List.mem_singleton.mp hrow⟩
  numbered := by
    intro key n h
    by_cases hk : r.key = key
    · subst hk
      simp only [history_append_self hversions, List.length_append, List.length_singleton] at h
      simp only [List.get_eq_getElem, history_append_self hversions]
      by_cases hn : n < (t.history r.key).length
      · rw [List.getElem_append_left hn]
        exact hv.numbered r.key n hn
      · have hlast : n = (t.history r.key).length := by omega
        subst hlast
        simpa using hnumber
    · have heq := history_append_ne hversions hk
      simp only [heq] at h
      simp only [List.get_eq_getElem, heq]
      exact hv.numbered key n h
  present := by
    intro key hne
    by_cases hk : r.key = key
    · subst hk
      exact hpresent
    · rw [history_append_ne hversions hk] at hne
      obtain ⟨i, hi, hkey⟩ := List.any_eq_true.mp (hv.present key hne)
      exact List.any_eq_true.mpr ⟨i, hinvocations i hi, hkey⟩
  claimed := by
    intro scope principalId key invocationId h
    rcases hclaimed _ _ _ _ h with h | ⟨hkey, hprincipal, hidempotency⟩
    · obtain ⟨r', hr', hrest⟩ := hv.claimed _ _ _ _ h
      refine ⟨r', ?_, hrest⟩
      rw [history_append hversions]
      exact List.mem_append_left _ hr'
    · refine ⟨r, ?_, hprincipal, hidempotency⟩
      rw [hkey, history_append_self hversions]
      simp
  origin := by
    intro key q hq q' hq'
    rw [history_append hversions, List.mem_append] at hq hq'
    have hnew : ∀ {u}, u ∈ (if r.key = key then [r] else []) → r.key = key ∧ u = r := by
      intro u hu
      split at hu
      · next hk => exact ⟨hk, List.mem_singleton.mp hu⟩
      · cases hu
    rcases hq with hq | hq <;> rcases hq' with hq' | hq'
    · exact hv.origin key q hq q' hq'
    · obtain ⟨rfl, rfl⟩ := hnew hq'
      exact (horigin q hq).symm
    · obtain ⟨rfl, rfl⟩ := hnew hq
      exact horigin q' hq'
    · rw [(hnew hq).2, (hnew hq').2]
  turnRows := hturns
  invocationRows := hrows
  claimRows := hclaims
  distinct := by
    rw [firsts_append hversions, List.map_append]
    refine List.Nodup.append hv.distinct ?_ ?_
    · split <;> simp
    · split
      · next hn =>
        have hnil : t.history r.key = [] := List.eq_nil_of_length_eq_zero (by omega)
        intro k hk hk'
        obtain ⟨f, hf, rfl⟩ := List.mem_map.mp hk
        have hfk : f.key = r.key := by simpa using hk'
        have hstored := (hv.mem_firsts.mp hf).1
        rw [hfk, hnil] at hstored
        cases hstored
      · simp
  turnKeys := hturnKeys
  ordinals := hordinals

/-- **`compare_and_set`** loses and changes nothing, or adds the replacement
after the version that it expects. -/
theorem compareAndSet_spec (hv : t.Valid) {expected : Nat} {answer : Option DraftInvocation}
    (h : t.compareAndSet expected r = .ok (answer, t')) :
    (answer = none ∧ t' = t
      ∧ ∀ current, (t.history r.key).getLast? = some current → current.aggregateVersion ≠ expected)
    ∨ (answer = some r ∧ (∃ current, (t.history r.key).getLast? = some current
        ∧ current.aggregateVersion = expected)
      ∧ t' = { t with versions := t.versions ++ [VersionRow.of r] }) := by
  simp only [compareAndSet, hv.latest_eq] at h
  split at h
  · cases h
  split at h
  · next hnone =>
    cases h
    refine .inl ⟨rfl, rfl, fun current hlast => ?_⟩
    have hne : t.history r.key ≠ [] := by
      rintro hnil
      rw [hnil] at hlast
      cases hlast
    exact absurd (hv.present r.key hne) (ne_true_of_eq_false hnone)
  cases hlast : (t.history r.key).getLast? with
  | none =>
    rw [hlast] at h
    cases h
    exact .inl ⟨rfl, rfl, fun current hc => by cases hc⟩
  | some current =>
    rw [hlast] at h
    simp only at h
    split at h
    · next hne =>
      cases h
      refine .inl ⟨rfl, rfl, fun current' hc => ?_⟩
      cases hc
      exact hne
    · next heq =>
      split at h
      · cases h
      · cases h
        exact .inr ⟨rfl, ⟨current, rfl, not_not.mp heq⟩, rfl⟩

/-- A replacement with the next number keeps the tables valid. -/
theorem Valid.compareAndSet (hv : t.Valid) {expected : Nat} {answer : Option DraftInvocation}
    (hnumber : r.aggregateVersion = expected + 1)
    (horigin : ∀ q ∈ t.history r.key, r.origin = q.origin)
    (h : t.compareAndSet expected r = .ok (answer, t')) : t'.Valid := by
  rcases compareAndSet_spec hv h with ⟨-, rfl, -⟩ | ⟨-, ⟨current, hlast, hexpected⟩, rfl⟩
  · exact hv
  · have hne : t.history r.key ≠ [] := by
      rintro hnil
      rw [hnil] at hlast
      cases hlast
    have hfirsts : ({ t with versions := t.versions ++ [VersionRow.of r] } : Tables).firsts
        = t.firsts := by
      have hpos : 0 < (t.history r.key).length := List.length_pos_of_ne_nil hne
      have hlast' := hv.last_version hlast
      rw [firsts_append rfl, if_neg (by omega), List.append_nil]
    refine hv.append rfl ?_ (hv.present r.key hne) (fun i hi => hi) (fun _ _ _ _ hc => .inl hc)
      horigin (hfirsts ▸ hv.turnRows) (hfirsts ▸ hv.invocationRows) (hfirsts ▸ hv.claimRows)
      hv.turnKeys hv.ordinals
    rw [hnumber, ← hexpected, hv.last_version hlast]

theorem claimed_append (scope : DraftScope) (principalId key : String) (row : ClaimRow)
    (hclaims : t'.claims = t.claims ++ [row]) :
    t'.claimed scope principalId key = (t.claimed scope principalId key).or
      (if row.scope = scope ∧ row.initiatingPrincipalId = principalId
        ∧ row.scopedIdempotencyKey = key then some row.invocationId else none) := by
  simp only [claimed, hclaims, List.find?_append, Option.map_or]
  congr 1
  by_cases h : row.scope = scope ∧ row.initiatingPrincipalId = principalId
    ∧ row.scopedIdempotencyKey = key
  · simp [h]
  · simp [h]

/-- **`claim`** answers with the stored invocation of the key and changes
nothing, or adds the candidate as the first version of a new invocation. -/
theorem claim_spec (hv : t.Valid) {answer : DraftInvocation} {won : Bool}
    (h : t.claim r = .ok ((answer, won), t')) :
    (won = false ∧ t' = t ∧ ∃ invocationId,
      t.claimed r.scope r.initiatingPrincipalId r.scopedIdempotencyKey = some invocationId
      ∧ (t.history (r.scope, invocationId)).getLast? = some answer)
    ∨ (won = true ∧ answer = r
      ∧ t.claimed r.scope r.initiatingPrincipalId r.scopedIdempotencyKey = none
      ∧ t.history r.key = [] ∧ t'.versions = t.versions ++ [VersionRow.of r]
      ∧ t'.turns = t.turns ++ [TurnRow.of r] ∧ t'.invocations = t.invocations ++ [InvocationRow.of r]
      ∧ t'.claims = t.claims ++ [ClaimRow.of r]
      ∧ (∀ u ∈ t.turns, u.scope = r.scope → u.turnId ≠ r.turnId)
      ∧ ∀ u ∈ t.turns, u.scope = r.scope → u.contextId = r.contextId → u.ordinal ≠ r.turnOrdinal) := by
  simp only [claim] at h
  split at h
  · cases h
  split at h
  · next invocationId hc =>
    rw [hv.latest_eq] at h
    cases hlast : (t.history (r.scope, invocationId)).getLast? with
    | none =>
      rw [hlast] at h
      cases h
    | some current =>
      rw [hlast] at h
      cases h
      exact .inl ⟨rfl, rfl, invocationId, hc, hlast⟩
  · next hc =>
    split at h
    · cases h
    · simp only [insertClaim] at h
      split at h
      · cases h
      split at h
      · cases h
      · next hturns =>
        split at h
        · cases h
        · next hnone =>
          split at h
          · cases h
          · cases h
            simp only [Bool.or_eq_true, List.any_eq_true, Bool.and_eq_true, decide_eq_true_eq,
              not_or, not_exists, not_and] at hturns
            refine .inr ⟨rfl, rfl, hc, ?_, rfl, rfl, rfl, rfl, hturns.1, fun u hu hs hctx =>
              hturns.2 u hu ⟨hs, hctx⟩⟩
            by_contra hne
            exact hnone (hv.present r.key hne)

/-- A first version keeps the tables valid. -/
theorem Valid.claim (hv : t.Valid) {answer : DraftInvocation} {won : Bool}
    (hnumber : r.aggregateVersion = 1) (h : t.claim r = .ok ((answer, won), t')) : t'.Valid := by
  rcases claim_spec hv h with ⟨-, rfl, -⟩ | ⟨-, -, -, hnil, hversions, hturns, hinvocations, hclaims,
    hturnId, hordinal⟩
  · exact hv
  · have hfirsts := firsts_append hversions
    rw [if_pos hnumber] at hfirsts
    refine hv.append hversions (by simp [hnil, hnumber]) (by simp [hinvocations, InvocationRow.of])
      (fun i hi => by simp [hinvocations, hi]) (fun scope principalId key invocationId hc => ?_)
      (fun q hq => by rw [hnil] at hq; cases hq)
      (by rw [hturns, hfirsts, List.map_append, hv.turnRows]; rfl)
      (by rw [hinvocations, hfirsts, List.map_append, hv.invocationRows]; rfl)
      (by rw [hclaims, hfirsts, List.map_append, hv.claimRows]; rfl) ?_ ?_
    rotate_left
    · rw [hturns]
      refine nodup_map_concat hv.turnKeys fun hu => ?_
      obtain ⟨u, hu, heq⟩ := List.mem_map.mp hu
      exact hturnId u hu (congrArg Prod.fst heq) (congrArg Prod.snd heq)
    · rw [hturns]
      refine nodup_map_concat hv.ordinals fun hu => ?_
      obtain ⟨u, hu, heq⟩ := List.mem_map.mp hu
      exact hordinal u hu (congrArg Prod.fst heq) (congrArg (·.2.1) heq) (congrArg (·.2.2) heq)
    rw [claimed_append scope principalId key _ hclaims] at hc
    cases hold : t.claimed scope principalId key with
    | some old =>
      rw [hold] at hc
      exact .inl hc
    | none =>
      rw [hold, Option.none_or] at hc
      split at hc
      · next heq =>
        obtain ⟨rfl, rfl, rfl⟩ := heq
        cases hc
        exact .inr ⟨rfl, rfl, rfl⟩
      · cases hc

end Tables

end Draft

end AgentPlatform
