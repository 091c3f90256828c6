/-
AgentPlatform/Draft/Memory.lean

The in-memory repository of draft invocations
(`InMemoryDraftAssistanceRepository`): two dictionaries under a lock, here lists
in the order of insertion.

`Tables.memory` is the memory that holds what the tables hold. An operation of the
memory answers as the one of the tables does, and leaves the memory of the new
tables, where the tables accept what is written (`claim_memory`,
`compareAndSet_memory`) and where the invocation with a target that was claimed
first is the first one by its identifier (`findByTarget_memory`). The memory takes
what the constraints of the database refuse: a second turn of the same ordinal, a
second invocation of the same identifier, and a text with U+0000.
-/
import AgentPlatform.Draft.Repository

namespace AgentPlatform

open Py

namespace Draft

/-- `InMemoryDraftAssistanceRepository`. -/
structure Memory where
  records : List DraftInvocation := []
  claims : List ClaimRow := []

namespace Memory

/-- `_records.get(_identity_parts(...))`. -/
def find (m : Memory) (key : InvocationKey) : Option DraftInvocation :=
  m.records.find? fun r => r.key = key

/-- `_records[identity] = r`: a key that is there keeps its place. -/
def store (m : Memory) (r : DraftInvocation) : Memory :=
  if m.records.any fun v => v.key = r.key then
    { m with records := m.records.map fun v => if v.key = r.key then r else v }
  else { m with records := m.records ++ [r] }

/-- `_claims.get(_claim_parts(...))`. -/
def claimed (m : Memory) (scope : DraftScope) (principalId key : String) : Option String :=
  (m.claims.find? fun c => c.scope = scope ∧ c.initiatingPrincipalId = principalId
    ∧ c.scopedIdempotencyKey = key).map (·.invocationId)

def get (m : Memory) (scope : DraftScope) (invocationId : String) : Option DraftInvocation :=
  m.find (scope, invocationId)

def getByKey (m : Memory) (scope : DraftScope) (principalId key : String) :
    Option DraftInvocation :=
  match m.claimed scope principalId key with
  | none => none
  | some invocationId => m.get scope invocationId

def findByTarget (m : Memory) (scope : DraftScope) (principalId target : String) :
    Option DraftInvocation :=
  m.records.find? fun r => r.scope = scope ∧ r.initiatingPrincipalId = principalId
    ∧ Tables.targets target r = true

/-- `max(values, key=...)`: the first of the greatest. -/
def greatest : List DraftInvocation → Option DraftInvocation
  | [] => none
  | r :: rest =>
    match greatest rest with
    | none => some r
    | some best => if r.turnOrdinal < best.turnOrdinal then some best else some r

def getContextHead (m : Memory) (scope : DraftScope) (contextId : String) :
    Option DraftInvocation :=
  greatest (m.records.filter fun r => r.scope = scope ∧ r.contextId = contextId)

def claim (m : Memory) (c : DraftInvocation) : Except Fault ((DraftInvocation × Bool) × Memory) :=
  match m.claimed c.scope c.initiatingPrincipalId c.scopedIdempotencyKey with
  | some invocationId =>
    match m.find (c.scope, invocationId) with
    | none => .error otherError
    | some existing => .ok ((existing, false), m)
  | none => .ok ((c, true), { m.store c with claims := m.claims ++ [ClaimRow.of c] })

def compareAndSet (m : Memory) (expectedVersion : Nat) (r : DraftInvocation) :
    Except Fault (Option DraftInvocation × Memory) :=
  match m.find r.key with
  | none => .ok (none, m)
  | some current =>
    if current.aggregateVersion ≠ expectedVersion then .ok (none, m)
    else if r.aggregateVersion ≠ expectedVersion + 1 then .error (draftError "DRAFT_VERSION_INVALID")
    else .ok (some r, m.store r)

end Memory

/-! ### The memory of tables -/

namespace Tables

variable {t t' : Tables} {key : InvocationKey} {r f : DraftInvocation}

/-- The latest version of an invocation, by its first one. -/
def current (t : Tables) (f : DraftInvocation) : DraftInvocation :=
  (t.history f.key).getLast?.getD f

/-- The memory that holds what the tables hold. -/
def memory (t : Tables) : Memory := ⟨t.firsts.map t.current, t.claims⟩

theorem memory_claimed (t : Tables) (scope : DraftScope) (principalId key : String) :
    t.memory.claimed scope principalId key = t.claimed scope principalId key := rfl

/-- The current version of an invocation is its last one. -/
theorem Valid.current_spec (hv : t.Valid) (hf : f ∈ t.firsts) :
    (t.history f.key).getLast? = some (t.current f) := by
  have hmem := (hv.mem_firsts.mp hf).1
  cases hlast : (t.history f.key).getLast? with
  | none =>
    rw [List.getLast?_eq_none_iff.mp hlast] at hmem
    cases hmem
  | some r => rw [current, hlast, Option.getD_some]

theorem Valid.current_mem (hv : t.Valid) (hf : f ∈ t.firsts) : t.current f ∈ t.history f.key :=
  List.mem_of_getLast? (hv.current_spec hf)

theorem Valid.current_key (hv : t.Valid) (hf : f ∈ t.firsts) : (t.current f).key = f.key :=
  hv.key_eq (hv.current_mem hf)

theorem Valid.current_origin (hv : t.Valid) (hf : f ∈ t.firsts) :
    (t.current f).origin = f.origin :=
  hv.origin f.key _ (hv.current_mem hf) f (hv.mem_firsts.mp hf).1

/-- A history that is not empty starts with a first version. -/
theorem Valid.exists_first (hv : t.Valid) (h : t.history key ≠ []) :
    ∃ f ∈ t.firsts, f.key = key := by
  have hpos : 0 < (t.history key).length := List.length_pos_of_ne_nil h
  have hmem : (t.history key).get ⟨0, hpos⟩ ∈ t.history key := List.get_mem _ _
  have hkey := hv.key_eq hmem
  refine ⟨_, hv.mem_firsts.mpr ⟨?_, hv.numbered key 0 hpos⟩, hkey⟩
  rw [hkey]
  exact hmem

/-- **A lookup in the memory** finds the latest version. -/
theorem Valid.find_memory (hv : t.Valid) (key : InvocationKey) :
    t.memory.find key = (t.history key).getLast? := by
  cases hfind : t.memory.find key with
  | none =>
    symm
    rw [List.getLast?_eq_none_iff]
    by_contra hne
    obtain ⟨f, hf, rfl⟩ := hv.exists_first hne
    have hnone := List.find?_eq_none.mp hfind (t.current f) (List.mem_map_of_mem hf)
    exact hnone (decide_eq_true (hv.current_key hf))
  | some r =>
    obtain ⟨f, hf, rfl⟩ := List.mem_map.mp (List.mem_of_find?_eq_some hfind)
    have hkey : (t.current f).key = key := by
      rw [Memory.find] at hfind
      simpa using List.find?_some hfind
    rw [← hkey, hv.current_key hf, hv.current_spec hf]

/-- Every text that a lookup is given is plain. -/
theorem Valid.get_memory (hv : t.Valid) {scope : DraftScope} {invocationId : String}
    (hplain : (plain scope.namespace_ && plain scope.securityDomain && plain invocationId) = true) :
    t.get scope invocationId = .ok (t.memory.get scope invocationId) := by
  rw [get, if_pos hplain, hv.latest_eq, Memory.get, hv.find_memory]

theorem Valid.getByKey_memory (hv : t.Valid) {scope : DraftScope} {principalId key : String}
    (hplain : (plain scope.namespace_ && plain scope.securityDomain && plain principalId
      && plain key) = true) :
    t.getByKey scope principalId key = .ok (t.memory.getByKey scope principalId key) := by
  rw [getByKey, if_pos hplain, Memory.getByKey, memory_claimed]
  cases t.claimed scope principalId key with
  | none => rfl
  | some invocationId =>
    dsimp only [Memory.get]
    rw [hv.find_memory, hv.latest_eq]

/-! ### Heads -/

/-- The turns of a context, by the first versions of their invocations. -/
theorem Valid.contextTurns_eq (hv : t.Valid) (scope : DraftScope) (contextId : String) :
    t.contextTurns scope contextId
      = (t.firsts.filter fun f => f.scope = scope ∧ f.contextId = contextId).map
          fun f => (f.turnOrdinal, f.invocationId) := by
  have hturns : ∀ f ∈ t.firsts, f.scope = scope ∧ f.contextId = contextId →
      (t.turns.filter fun u => u.scope = scope ∧ u.contextId = contextId ∧ u.turnId = f.turnId)
        = [TurnRow.of f] := by
    rintro f hf ⟨rfl, rfl⟩
    refine filter_eq_singleton hv.turnKeys ?_ (by simp [TurnRow.of]) fun u _ hu => ?_
    · rw [hv.turnRows]
      exact List.mem_map_of_mem hf
    · obtain ⟨hs, -, ht⟩ := of_decide_eq_true hu
      exact Prod.ext hs ht
  have hrows : ∀ fs : List DraftInvocation, (∀ f ∈ fs, f ∈ t.firsts) →
      ((fs.map InvocationRow.of).filter fun i => i.scope = scope ∧ i.contextId = contextId).flatMap
        (fun i => (t.turns.filter fun u => u.scope = scope ∧ u.contextId = contextId
          ∧ u.turnId = i.turnId).map fun u => (u.ordinal, i.invocationId))
      = (fs.filter fun f => f.scope = scope ∧ f.contextId = contextId).map
          fun f => (f.turnOrdinal, f.invocationId) := by
    intro fs hfs
    induction fs with
    | nil => rfl
    | cons f fs ih =>
      have ih := ih fun g hg => hfs g (List.mem_cons_of_mem _ hg)
      simp only [List.map_cons, List.filter_cons]
      by_cases hf : f.scope = scope ∧ f.contextId = contextId
      · have hrow := hturns f (hfs f List.mem_cons_self) hf
        have hi : decide ((InvocationRow.of f).scope = scope
            ∧ (InvocationRow.of f).contextId = contextId) = true := decide_eq_true hf
        rw [if_pos hi, if_pos (decide_eq_true hf), List.flatMap_cons, ih, List.map_cons]
        change List.map _ (t.turns.filter fun u => u.scope = scope ∧ u.contextId = contextId
          ∧ u.turnId = f.turnId) ++ _ = _
        rw [hrow]
        rfl
      · have hi : ¬ decide ((InvocationRow.of f).scope = scope
            ∧ (InvocationRow.of f).contextId = contextId) = true := fun h => hf (of_decide_eq_true h)
        rw [if_neg hi, if_neg (fun h => hf (of_decide_eq_true h)), ih]
  rw [contextTurns, hv.invocationRows]
  exact hrows _ fun f hf => hf

theorem greatest_mem {rs : List DraftInvocation} (h : Memory.greatest rs = some r) : r ∈ rs := by
  induction rs generalizing r with
  | nil => cases h
  | cons r' rs ih =>
    rw [Memory.greatest] at h
    split at h
    · cases h
      exact List.mem_cons_self
    · next best hbest =>
      split at h
      · cases h
        exact List.mem_cons_of_mem _ (ih hbest)
      · cases h
        exact List.mem_cons_self

/-- The last turn is the greatest record, where no ordinal is repeated. -/
theorem lastTurn_eq (current : DraftInvocation → DraftInvocation) (fs : List DraftInvocation)
    (hcurrent : ∀ f ∈ fs, (current f).origin = f.origin)
    (hordinals : (fs.map fun f => f.turnOrdinal).Nodup) :
    lastTurn (fs.map fun f => (f.turnOrdinal, f.invocationId))
      = (Memory.greatest (fs.map current)).map fun r => (r.turnOrdinal, r.invocationId) := by
  induction fs with
  | nil => rfl
  | cons f fs ih =>
    obtain ⟨hnew, hfs⟩ := List.nodup_cons.mp hordinals
    have ih := ih (fun g hg => hcurrent g (List.mem_cons_of_mem _ hg)) hfs
    have hf := hcurrent f List.mem_cons_self
    have hordinal : (current f).turnOrdinal = f.turnOrdinal := congrArg Origin.turnOrdinal hf
    have hid : (current f).invocationId = f.invocationId := congrArg Origin.invocationId hf
    simp only [List.map_cons, lastTurn, Memory.greatest, ih]
    cases hbest : Memory.greatest (fs.map current) with
    | none => simp [hordinal, hid]
    | some best =>
      have hne : best.turnOrdinal ≠ f.turnOrdinal := by
        obtain ⟨g, hg, rfl⟩ := List.mem_map.mp (greatest_mem hbest)
        have hgo := congrArg Origin.turnOrdinal (hcurrent g (List.mem_cons_of_mem _ hg))
        exact fun heq => hnew (List.mem_map.mpr ⟨g, hg, hgo.symm.trans heq⟩)
      simp only [Option.map_some, hordinal]
      by_cases hlt : best.turnOrdinal < f.turnOrdinal
      · rw [if_pos hlt, if_neg (by omega), Option.map_some, hordinal, hid]
      · rw [if_neg hlt, if_pos (by omega), Option.map_some]

/-- **The head of a context** is the greatest record. -/
theorem Valid.getContextHead_memory (hv : t.Valid) {scope : DraftScope} {contextId : String}
    (hplain : (plain scope.namespace_ && plain scope.securityDomain && plain contextId) = true) :
    t.getContextHead scope contextId = .ok (t.memory.getContextHead scope contextId) := by
  let fs := t.firsts.filter fun f => f.scope = scope ∧ f.contextId = contextId
  have hfs : ∀ f ∈ fs, f ∈ t.firsts ∧ f.scope = scope ∧ f.contextId = contextId := fun f hf =>
    ⟨List.mem_of_mem_filter hf, of_decide_eq_true (List.mem_filter.mp hf).2⟩
  have hrecords : (t.memory.records.filter fun r => r.scope = scope ∧ r.contextId = contextId)
      = fs.map t.current := by
    rw [memory, List.filter_map]
    refine congrArg _ (List.filter_congr fun f hf => ?_)
    have ho := hv.current_origin hf
    have hscope : (t.current f).scope = f.scope := congrArg Origin.scope ho
    have hcontext : (t.current f).contextId = f.contextId := congrArg Origin.contextId ho
    simp only [Function.comp_apply, hscope, hcontext]
  have hordinals : (fs.map fun f => f.turnOrdinal).Nodup := by
    have hsub : (fs.map fun f => (f.scope, f.contextId, f.turnOrdinal)).Nodup := by
      have hall := hv.ordinals
      rw [hv.turnRows, List.map_map] at hall
      exact hall.sublist (List.filter_sublist.map _)
    have heq : (fs.map fun f => (f.scope, f.contextId, f.turnOrdinal))
        = (fs.map fun f => f.turnOrdinal).map fun n => (scope, contextId, n) := by
      rw [List.map_map]
      refine List.map_congr_left fun f hf => ?_
      obtain ⟨-, rfl, rfl⟩ := hfs f hf
      rfl
    rw [heq] at hsub
    exact hsub.of_map _
  have hlast := lastTurn_eq t.current fs (fun f hf => hv.current_origin (hfs f hf).1) hordinals
  rw [getContextHead, if_pos hplain, hv.contextTurns_eq, Memory.getContextHead, hrecords, hlast]
  cases hbest : Memory.greatest (fs.map t.current) with
  | none => rfl
  | some best =>
    obtain ⟨f, hf, rfl⟩ := List.mem_map.mp (greatest_mem hbest)
    obtain ⟨hmem, rfl, -⟩ := hfs f hf
    have hid : (t.current f).invocationId = f.invocationId :=
      congrArg Origin.invocationId (hv.current_origin hmem)
    have hkey : (f.scope, (t.current f).invocationId) = f.key := Prod.ext rfl hid
    simp only [Option.map_some, hkey]
    rw [hv.latest_eq, hv.current_spec hmem]

/-! ### Targets -/

/-- The order of texts of the database. -/
structure Collation where
  le : String → String → Bool
  trans : ∀ a b c, le a b → le b c → le a c
  total : ∀ a b, le a b || le b a
  antisymm : ∀ {a b}, le a b = true → le b a = true → a = b

/-- The record is one of the invocations that the target may mean. -/
def Meant (scope : DraftScope) (principalId target : String) (r : DraftInvocation) : Prop :=
  r.scope = scope ∧ r.initiatingPrincipalId = principalId ∧ targets target r = true

instance (scope : DraftScope) (principalId target : String) (r : DraftInvocation) :
    Decidable (Meant scope principalId target r) :=
  inferInstanceAs (Decidable (_ ∧ _ ∧ _))

theorem Valid.firstTargeted_eq (hv : t.Valid) (scope : DraftScope) (target : String)
    (ids : List String) :
    t.firstTargeted scope target ids
      = .ok ((ids.filterMap fun id => t.memory.find (scope, id)).find? (targets target)) := by
  induction ids with
  | nil => rfl
  | cons id ids ih =>
    rw [firstTargeted, hv.latest_eq, ← hv.find_memory, List.filterMap_cons]
    cases t.memory.find (scope, id) with
    | none => exact ih
    | some r =>
      dsimp only
      cases htarget : targets target r with
      | false => rw [if_neg Bool.false_ne_true, ih, List.find?_cons_of_neg (by rw [htarget]; exact nofun)]
      | true => rw [if_pos rfl, List.find?_cons_of_pos htarget]

/-- In a sorted list the first match is the least. -/
theorem find_sorted {collation : Collation} {m : Memory} {scope : DraftScope} {p : DraftInvocation → Bool}
    {ids : List String} (hsorted : ids.Pairwise fun a b => collation.le a b = true)
    (h : (ids.filterMap fun id => m.find (scope, id)).find? p = some r) {v : DraftInvocation}
    (hid : v.invocationId ∈ ids) (hfind : m.find (scope, v.invocationId) = some v) (hv : p v = true) :
    collation.le r.invocationId v.invocationId = true := by
  have hself : ∀ a, collation.le a a = true := fun a => by simpa using collation.total a a
  induction ids with
  | nil => cases hid
  | cons id ids ih =>
    obtain ⟨hhead, hrest⟩ := List.pairwise_cons.mp hsorted
    rw [List.filterMap_cons] at h
    cases hfound : m.find (scope, id) with
    | none =>
      rw [hfound] at h
      rcases List.mem_cons.mp hid with heq | hid
      · rw [heq, hfound] at hfind
        cases hfind
      · exact ih hrest h hid
    | some u =>
      rw [hfound] at h
      have hu : u.invocationId = id := by
        have := List.find?_some hfound
        exact congrArg Prod.snd (of_decide_eq_true this)
      cases hpu : p u with
      | true =>
        rw [List.find?_cons_of_pos hpu] at h
        cases h
        rcases List.mem_cons.mp hid with heq | hid
        · rw [heq, hu]
          exact hself id
        · rw [hu]
          exact hhead _ hid
      | false =>
        rw [List.find?_cons_of_neg (by rw [hpu]; exact nofun)] at h
        rcases List.mem_cons.mp hid with heq | hid
        · rw [heq, hfound] at hfind
          cases hfind
          rw [hpu] at hv
          cases hv
        · exact ih hrest h hid

/-- The records that a target may mean are looked up by the identifiers of the
principal. -/
theorem Valid.meant_iff (hv : t.Valid) (collation : Collation) {scope : DraftScope}
    {principalId target : String} :
    (r ∈ t.memory.records ∧ Meant scope principalId target r)
      ↔ r.invocationId ∈ t.identifiers collation.le scope principalId
        ∧ t.memory.find (scope, r.invocationId) = some r ∧ targets target r = true := by
  have hids : ∀ id, id ∈ t.identifiers collation.le scope principalId
      ↔ ∃ f ∈ t.firsts, (f.scope = scope ∧ f.initiatingPrincipalId = principalId)
        ∧ f.invocationId = id := by
    intro id
    simp only [identifiers, List.mem_mergeSort, List.mem_map, List.mem_filter, hv.invocationRows,
      decide_eq_true_eq]
    constructor
    · rintro ⟨_, ⟨⟨f, hf, rfl⟩, hsame⟩, rfl⟩
      exact ⟨f, hf, hsame, rfl⟩
    · rintro ⟨f, hf, hsame, rfl⟩
      exact ⟨InvocationRow.of f, ⟨⟨f, hf, rfl⟩, hsame⟩, rfl⟩
  have hfind : ∀ f ∈ t.firsts, t.memory.find f.key = some (t.current f) := fun f hf => by
    rw [hv.find_memory, hv.current_spec hf]
  rw [hids]
  constructor
  · rintro ⟨hr, hscope, hprincipal, htarget⟩
    obtain ⟨f, hf, rfl⟩ := List.mem_map.mp hr
    have ho := hv.current_origin hf
    have hfs : f.scope = scope := (congrArg Origin.scope ho).symm.trans hscope
    have hfid : (t.current f).invocationId = f.invocationId := congrArg Origin.invocationId ho
    refine ⟨⟨f, hf, ⟨hfs, ?_⟩, hfid.symm⟩, ?_, htarget⟩
    · exact (congrArg Origin.initiatingPrincipalId ho).symm.trans hprincipal
    · rw [hfid, ← hfs]
      exact hfind f hf
  · rintro ⟨⟨f, hf, ⟨hfs, hprincipal⟩, hfid⟩, hr, htarget⟩
    have hkey : (scope, r.invocationId) = f.key := Prod.ext hfs.symm hfid.symm
    rw [hkey, hfind f hf] at hr
    cases hr
    have ho := hv.current_origin hf
    exact ⟨List.mem_map_of_mem hf, (congrArg Origin.scope ho).trans hfs,
      (congrArg Origin.initiatingPrincipalId ho).trans hprincipal, htarget⟩

/-- **A lookup by target** finds the same invocation in both, exactly if the one
that was claimed first is the first by its identifier. -/
theorem Valid.findByTarget_memory (hv : t.Valid) (collation : Collation) {scope : DraftScope}
    {principalId target : String}
    (hplain : (plain scope.namespace_ && plain scope.securityDomain && plain principalId) = true) :
    t.findByTarget collation.le scope principalId target
        = .ok (t.memory.findByTarget scope principalId target)
      ↔ ∀ r, t.memory.findByTarget scope principalId target = some r →
        ∀ v ∈ t.memory.records, Meant scope principalId target v →
          collation.le r.invocationId v.invocationId = true := by
  have hsorted : (t.identifiers collation.le scope principalId).Pairwise
      fun a b => collation.le a b = true :=
    List.pairwise_mergeSort collation.trans collation.total _
  -- what the tables find is meant, and is the least of those that are meant
  have hleast : ∀ r, ((t.identifiers collation.le scope principalId).filterMap
      fun id => t.memory.find (scope, id)).find? (targets target) = some r →
      (r ∈ t.memory.records ∧ Meant scope principalId target r)
        ∧ ∀ v ∈ t.memory.records, Meant scope principalId target v →
          collation.le r.invocationId v.invocationId = true := by
    intro r hr
    refine ⟨?_, fun v hv' hmeant => ?_⟩
    · obtain ⟨id, hid, hfind⟩ := List.mem_filterMap.mp (List.mem_of_find?_eq_some hr)
      have hkey := List.find?_some hfind
      have hrid : r.invocationId = id := congrArg Prod.snd (of_decide_eq_true hkey)
      subst hrid
      exact (hv.meant_iff _).mpr ⟨hid, hfind, List.find?_some hr⟩
    · obtain ⟨hid, hfind, htarget⟩ := (hv.meant_iff _).mp ⟨hv', hmeant⟩
      exact find_sorted hsorted hr hid hfind htarget
  have hmem : ∀ r, t.memory.findByTarget scope principalId target = some r →
      r ∈ t.memory.records ∧ Meant scope principalId target r := by
    intro r hr
    have hmeant := List.find?_some hr
    exact ⟨List.mem_of_find?_eq_some hr, of_decide_eq_true hmeant⟩
  rw [findByTarget, if_pos hplain, hv.firstTargeted_eq]
  constructor
  · intro heq r hr v hv' hmeant
    rw [hr] at heq
    exact (hleast r (Except.ok.inj heq)).2 v hv' hmeant
  · intro hfirst
    refine congrArg _ ?_
    cases hfound : ((t.identifiers collation.le scope principalId).filterMap
        fun id => t.memory.find (scope, id)).find? (targets target) with
    | none =>
      cases hr : t.memory.findByTarget scope principalId target with
      | none => rfl
      | some r =>
        obtain ⟨hid, hfind, htarget⟩ := (hv.meant_iff collation).mp (hmem r hr)
        have hnone := List.find?_eq_none.mp hfound r (List.mem_filterMap.mpr ⟨_, hid, hfind⟩)
        exact absurd htarget hnone
    | some found =>
      obtain ⟨⟨hfoundMem, hfoundMeant⟩, hfoundLeast⟩ := hleast found hfound
      cases hr : t.memory.findByTarget scope principalId target with
      | none =>
        have hnone := List.find?_eq_none.mp hr found hfoundMem
        exact absurd (decide_eq_true hfoundMeant) hnone
      | some r =>
        obtain ⟨hrMem, hrMeant⟩ := hmem r hr
        have hid := collation.antisymm (hfoundLeast r hrMem hrMeant)
          (hfirst r hr found hfoundMem hfoundMeant)
        have h₁ := ((hv.meant_iff collation).mp ⟨hfoundMem, hfoundMeant⟩).2.1
        have h₂ := ((hv.meant_iff collation).mp ⟨hrMem, hrMeant⟩).2.1
        rw [hid] at h₁
        exact h₁.symm.trans h₂

/-! ### Writes -/

theorem current_append (hversions : t'.versions = t.versions ++ [VersionRow.of r])
    (f : DraftInvocation) : t'.current f = if f.key = r.key then r else t.current f := by
  simp only [current, history_append hversions]
  by_cases hk : r.key = f.key
  · rw [if_pos hk, if_pos hk.symm, List.getLast?_concat, Option.getD_some]
  · rw [if_neg hk, if_neg (fun h => hk h.symm), List.append_nil]

/-- No version row is of an invocation without a first version. -/
theorem Valid.not_any_version (hv : t.Valid) (hnew : ∀ f ∈ t.firsts, f.key ≠ r.key) (n : Nat) :
    (t.versions.any fun v => v.key = r.key && v.aggregateVersion = n) = false := by
  rw [List.any_eq_false]
  intro row hrow
  obtain ⟨v, rfl⟩ := hv.stored row hrow
  have hmem : v ∈ t.history v.key := by
    refine List.mem_filterMap.mpr ⟨VersionRow.of v, ?_, invocation_record v⟩
    exact List.mem_filter.mpr ⟨hrow, decide_eq_true rfl⟩
  obtain ⟨f, hf, hkey⟩ := hv.exists_first (List.ne_nil_of_mem hmem)
  rw [Bool.and_eq_true, decide_eq_true_eq]
  exact fun h => hnew f hf (hkey.trans h.1)

/-- The tables accept the claim of a new invocation. -/
structure Acceptable (t : Tables) (c : DraftInvocation) : Prop where
  turn : turnStorable c = true
  version : versionStorable c = true
  invocationId : ∀ f ∈ t.firsts, f.key ≠ c.key
  turnId : ∀ u ∈ t.turns, u.scope = c.scope → u.turnId ≠ c.turnId
  ordinal : ∀ u ∈ t.turns, u.scope = c.scope → u.contextId = c.contextId → u.ordinal ≠ c.turnOrdinal

theorem Valid.insertClaim_eq (hv : t.Valid) (h : t.Acceptable r) :
    ∃ t', t.insertClaim r = .ok t' ∧ t'.versions = t.versions ++ [VersionRow.of r]
      ∧ t'.claims = t.claims ++ [ClaimRow.of r] := by
  have hturns : (t.turns.any (fun u => u.scope = r.scope && u.turnId = r.turnId)
      || t.turns.any (fun u => u.scope = r.scope && u.contextId = r.contextId
        && u.ordinal = r.turnOrdinal)) = false := by
    simp only [Bool.or_eq_false_iff, List.any_eq_false, Bool.and_eq_true, decide_eq_true_eq]
    exact ⟨fun u hu hk => h.turnId u hu hk.1 hk.2, fun u hu hk => h.ordinal u hu hk.1.1 hk.1.2 hk.2⟩
  have hrows : (t.invocations.any fun i => i.scope = r.scope && i.invocationId = r.invocationId)
      = false := by
    rw [hv.invocationRows, List.any_map, List.any_eq_false]
    intro f hf
    simp only [Function.comp_apply, InvocationRow.of, Bool.and_eq_true]
    exact fun hk => h.invocationId f hf (Prod.ext (of_decide_eq_true hk.1) (of_decide_eq_true hk.2))
  rw [insertClaim, if_neg (by rw [h.turn]; decide), hturns, hrows, h.version,
    hv.not_any_version h.invocationId]
  exact ⟨_, rfl, rfl, rfl⟩

/-- **A claim** that the tables accept is answered by the memory in the same way. -/
theorem Valid.claim_memory (hv : t.Valid) (hn : r.aggregateVersion = 1)
    (hclaim : claimStorable r = true)
    (h : t.claimed r.scope r.initiatingPrincipalId r.scopedIdempotencyKey = none → t.Acceptable r) :
    ∃ a t', t.claim r = .ok (a, t') ∧ t.memory.claim r = .ok (a, t'.memory) := by
  rw [Tables.claim, if_neg (by rw [hclaim]; decide), Memory.claim, memory_claimed]
  cases hc : t.claimed r.scope r.initiatingPrincipalId r.scopedIdempotencyKey with
  | some invocationId =>
    obtain ⟨v, hv', -⟩ := hv.claimed _ _ _ _ hc
    dsimp only
    rw [hv.latest_eq, hv.find_memory]
    cases hlast : (t.history (r.scope, invocationId)).getLast? with
    | none =>
      rw [List.getLast?_eq_none_iff.mp hlast] at hv'
      cases hv'
    | some current => exact ⟨_, _, rfl, rfl⟩
  | none =>
    have hacc := h hc
    obtain ⟨t', ht', hversions, hclaims⟩ := hv.insertClaim_eq hacc
    have hrows : (t.claims.any fun x => x.scope = r.scope && x.invocationId = r.invocationId)
        = false := by
      rw [hv.claimRows, List.any_map, List.any_eq_false]
      intro f hf
      simp only [Function.comp_apply, ClaimRow.of, Bool.and_eq_true]
      exact fun hk => hacc.invocationId f hf
        (Prod.ext (of_decide_eq_true hk.1) (of_decide_eq_true hk.2))
    have hrecords : (t.memory.records.any fun v => v.key = r.key) = false := by
      rw [memory, List.any_map, List.any_eq_false]
      intro f hf
      simp only [Function.comp_apply, decide_eq_true_eq, hv.current_key hf]
      exact hacc.invocationId f hf
    refine ⟨(r, true), t', ?_, ?_⟩
    · dsimp only
      rw [if_neg (by rw [hrows]; exact Bool.false_ne_true), ht']
      rfl
    · dsimp only
      rw [Memory.store, if_neg (by rw [hrecords]; exact Bool.false_ne_true)]
      have hfirsts := firsts_append hversions
      rw [if_pos hn] at hfirsts
      have hcurrent : ∀ f ∈ t.firsts, t'.current f = t.current f := fun f hf => by
        rw [current_append hversions, if_neg (hacc.invocationId f hf)]
      have hself : t'.current r = r := by rw [current_append hversions, if_pos rfl]
      simp only [memory, hfirsts, List.map_append, List.map_cons, List.map_nil, hself, hclaims,
        List.map_congr_left hcurrent]

/-- **A compare-and-set** that the tables accept is answered by the memory in
the same way. -/
theorem Valid.compareAndSet_memory (hv : t.Valid) {expected : Nat}
    (hn : r.aggregateVersion = expected + 1)
    (hplain : (plain r.scope.namespace_ && plain r.scope.securityDomain && plain r.invocationId)
      = true)
    (hs : ∀ v, (t.history r.key).getLast? = some v → v.aggregateVersion = expected →
      versionStorable r = true) :
    ∃ a t', t.compareAndSet expected r = .ok (a, t')
      ∧ t.memory.compareAndSet expected r = .ok (a, t'.memory) := by
  rw [Tables.compareAndSet, if_neg (by rw [hplain]; decide), Memory.compareAndSet,
    hv.find_memory, hv.latest_eq]
  cases hlast : (t.history r.key).getLast? with
  | none =>
    refine ⟨none, t, ?_, rfl⟩
    split <;> rfl
  | some current =>
    have hmem := List.mem_of_getLast? hlast
    have hpresent : (t.invocations.any fun i => i.scope = r.scope && i.invocationId = r.invocationId)
        = true := hv.present r.key (List.ne_nil_of_mem hmem)
    rw [if_neg (by rw [hpresent]; decide)]
    dsimp only
    by_cases hcur : current.aggregateVersion = expected
    swap
    · exact ⟨none, t, by rw [if_pos hcur], by rw [if_pos hcur]⟩
    have hlength := hv.last_version hlast
    have hversion : (t.versions.any fun v => v.key = r.key
        && v.aggregateVersion = r.aggregateVersion) = false := by
      rw [List.any_eq_false]
      intro row hrow
      obtain ⟨v, rfl⟩ := hv.stored row hrow
      rw [Bool.and_eq_true, decide_eq_true_eq, decide_eq_true_eq]
      rintro ⟨hk, hnum⟩
      have hk : v.key = r.key := hk
      have hnum : v.aggregateVersion = r.aggregateVersion := hnum
      have hv' : v ∈ t.history r.key := by
        rw [← hk]
        exact List.mem_filterMap.mpr ⟨VersionRow.of v,
          List.mem_filter.mpr ⟨hrow, decide_eq_true rfl⟩, invocation_record v⟩
      obtain ⟨m, hm, rfl⟩ := List.getElem_of_mem hv'
      have := hv.numbered r.key m hm
      simp only [List.get_eq_getElem] at this
      omega
    refine ⟨some r, { t with versions := t.versions ++ [VersionRow.of r] }, ?_, ?_⟩
    · rw [if_neg (not_not.mpr hcur), hs current hlast hcur, hversion]
      rfl
    · have hpos := List.length_pos_of_mem hmem
      have hfirsts : ({ t with versions := t.versions ++ [VersionRow.of r] } : Tables).firsts
          = t.firsts := by
        rw [firsts_append rfl, if_neg (by omega), List.append_nil]
      obtain ⟨f, hf, hkey⟩ := hv.exists_first (List.ne_nil_of_mem hmem)
      have hrecords : (t.memory.records.any fun v => v.key = r.key) = true := by
        rw [List.any_eq_true]
        exact ⟨t.current f, List.mem_map_of_mem hf, decide_eq_true ((hv.current_key hf).trans hkey)⟩
      rw [if_neg (not_not.mpr hcur), if_neg (not_not.mpr hn), Memory.store, if_pos hrecords]
      have hcurrent : ∀ g ∈ t.firsts,
          ({ t with versions := t.versions ++ [VersionRow.of r] } : Tables).current g
            = if (t.current g).key = r.key then r else t.current g := fun g hg => by
        rw [current_append rfl, hv.current_key hg]
      simp only [memory, hfirsts, List.map_map, List.map_congr_left hcurrent]
      rfl

end Tables

end Draft

end AgentPlatform
