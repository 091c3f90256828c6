/-
AgentPlatform/Control/Retries.lean

The attempts of a task run.

Two services add attempts: `save`, which `start` and `retry` of the execution
application call, and `RETRY_ATTEMPT`. Both add the attempt behind a failed one
with the next ordinal (`Targets.Extends`), so the attempts of a task run are a
chain, and both bind it as its predecessor is bound.

`RETRY_ATTEMPT` inserts the attempt under the successor id as it was given, and
its binding under the normal form of that id. Where the normal form is that of
another attempt which the same decision authorised, the new attempt stays
without a binding (`aliased_retry_unbound`). In runs without such a command the
chains are complete (`retry_chains_of_run`).
-/
import AgentPlatform.Control.Targets

namespace AgentPlatform

open Py

namespace Control

section Retries

variable [Unicodedata]

/-! ### Chains -/

/-- The key of another row in the same scope. -/
def RowKey.at (k : RowKey) (id : String) : RowKey := { k with id := id }

def Targets.AttemptOf (t : Targets) (task : RowKey) (id : String) (row : AttemptTargetRow) : Prop :=
  t.attempts.lookup (RowKey.at task id) = some row ∧ row.columns.taskRunId = task.id

/-- The attempts of a task run in the order of their ordinals. -/
structure Targets.RetryChain (t : Targets) (task : RowKey) (chain : List String) : Prop where
  nodup : chain.Nodup
  attempts : ∀ id, id ∈ chain ↔ ∃ row, t.AttemptOf task id row
  ordinal : ∀ {i id row}, chain[i]? = some id → t.AttemptOf task id row →
    row.columns.attemptOrdinal = some (i + 1)
  first : ∀ {id row}, chain[0]? = some id → t.AttemptOf task id row →
    row.columns.predecessorAttemptId = none
  next : ∀ {i id row}, chain[i + 1]? = some id → t.AttemptOf task id row →
    row.columns.predecessorAttemptId = chain[i]?
  bound : ∃ lineage, ∀ id ∈ chain, ∃ b, t.bindings.lookup (RowKey.at task id) = some b ∧
    b.lineage = lineage

/-- Every task run has its chain, an attempt's record is about the attempt, and
no binding stands without its attempt. -/
structure Targets.Sound (t : Targets) : Prop where
  chains : ∀ task, ∃ chain, t.RetryChain task chain
  recorded : ∀ {k row a}, t.attempts.lookup k = some row → row.columns.record = some a →
    a.attemptId.value = k.id ∧ a.taskRunId.value = row.columns.taskRunId
  known : ∀ {k b}, t.bindings.lookup k = some b → (t.attempts.lookup k).isSome

variable {s s' : Authority} {t t' : Targets} {k : RowKey} {row : AttemptTargetRow}
  {b : ExecutionBinding}

theorem Targets.sound_empty (ha : t.attempts = ∅) (hb : t.bindings = ∅) : t.Sound where
  chains task := by
    refine ⟨[], List.nodup_nil, ?_, ?_, ?_, ?_, ⟨("", "", "", "", "", ""), by simp⟩⟩
    · intro id
      constructor
      · intro h
        cases h
      · rintro ⟨row, h, -⟩
        rw [ha] at h
        cases h
    all_goals
      intros
      simp_all
  recorded h := by
    rw [ha] at h
    cases h
  known h := by
    rw [hb] at h
    cases h

theorem Targets.Sound.chain_of (ht : t.Sound) (h : t.attempts.lookup k = some row) :
    ∃ chain, t.RetryChain (RowKey.at k row.columns.taskRunId) chain ∧ k.id ∈ chain := by
  obtain ⟨chain, hc⟩ := ht.chains (RowKey.at k row.columns.taskRunId)
  exact ⟨chain, hc, (hc.attempts k.id).mpr ⟨row, h, rfl⟩⟩

/-- A stored attempt has a binding. -/
theorem Targets.Sound.bound (ht : t.Sound) (h : t.attempts.lookup k = some row) :
    ∃ b, t.bindings.lookup k = some b := by
  obtain ⟨chain, hc, hm⟩ := ht.chain_of h
  obtain ⟨lineage, hb⟩ := hc.bound
  obtain ⟨b, hb, -⟩ := hb k.id hm
  exact ⟨b, hb⟩

/-! ### Moves -/

/-- No attempt is added and no binding is written. -/
def Targets.SameAttempts (t t' : Targets) : Prop :=
  (∀ k, (t'.attempts.lookup k).map (·.columns) = (t.attempts.lookup k).map (·.columns)) ∧
    t'.bindings = t.bindings

/-- The attempt before `row` failed, and has the binding and the ordinal that
`row` continues. -/
structure Targets.Follows (t : Targets) (k : RowKey) (row : AttemptTargetRow)
    (b : ExecutionBinding) (id : String) : Prop where
  predecessor : row.columns.predecessorAttemptId = some id
  stored : ∃ previous n, t.attempts.lookup (RowKey.at k id) = some previous ∧
    previous.columns.taskRunId = row.columns.taskRunId ∧ previous.controlState = .failed ∧
    previous.columns.attemptOrdinal = some n ∧ row.columns.attemptOrdinal = some (n + 1)
  bound : ∃ b', t.bindings.lookup (RowKey.at k id) = some b' ∧ b.lineage = b'.lineage

/-- A new attempt can be put behind those of its task run. -/
structure Targets.Extends (t : Targets) (k : RowKey) (row : AttemptTargetRow)
    (b : ExecutionBinding) : Prop where
  new : t.attempts.lookup k = none
  recorded : ∀ a, row.columns.record = some a →
    a.attemptId.value = k.id ∧ a.taskRunId.value = row.columns.taskRunId
  behind : (row.columns.attemptOrdinal = some 1 ∧ row.columns.predecessorAttemptId = none) ∨
    ∃ id, t.Follows k row b id
  free : ∀ id r, t.AttemptOf (RowKey.at k row.columns.taskRunId) id r →
    r.columns.attemptOrdinal ≠ row.columns.attemptOrdinal

/-- What a transaction can do to the attempts. -/
inductive Targets.Move (t : Targets) : Targets → Prop
  | same {t' : Targets} (h : t.SameAttempts t') : Move t t'
  | extend {t' : Targets} {k : RowKey} {row : AttemptTargetRow} {b : ExecutionBinding}
      (h : t.Extends k row b) (attempts : t'.attempts = t.attempts.insert k row)
      (bindings : t'.bindings = t.bindings.insert k b) : Move t t'

/-! ### Moves keep the chains -/

theorem Targets.SameAttempts.symm (h : t.SameAttempts t') : t'.SameAttempts t :=
  ⟨fun k => (h.1 k).symm, h.2.symm⟩

theorem Targets.SameAttempts.lookup (h : t.SameAttempts t')
    (hk : t'.attempts.lookup k = some row) :
    ∃ r, t.attempts.lookup k = some r ∧ r.columns = row.columns := by
  have hc := h.1 k
  rw [hk, Option.map_some] at hc
  obtain ⟨r, hr, he⟩ := Option.map_eq_some_iff.mp hc.symm
  exact ⟨r, hr, he⟩

theorem Targets.SameAttempts.attemptOf {task : RowKey} {id : String} (h : t.SameAttempts t')
    (ha : t'.AttemptOf task id row) : ∃ r, t.AttemptOf task id r ∧ r.columns = row.columns := by
  obtain ⟨r, hr, he⟩ := h.lookup ha.1
  exact ⟨r, ⟨hr, he ▸ ha.2⟩, he⟩

theorem Targets.RetryChain.same {task : RowKey} {chain : List String} (hc : t.RetryChain task chain)
    (h : t.SameAttempts t') : t'.RetryChain task chain where
  nodup := hc.nodup
  attempts id := by
    rw [hc.attempts]
    constructor
    · rintro ⟨row, hr⟩
      obtain ⟨r, hr, -⟩ := h.symm.attemptOf hr
      exact ⟨r, hr⟩
    · rintro ⟨row, hr⟩
      obtain ⟨r, hr, -⟩ := h.attemptOf hr
      exact ⟨r, hr⟩
  ordinal hi hr := by
    obtain ⟨r, hr, he⟩ := h.attemptOf hr
    rw [← he]
    exact hc.ordinal hi hr
  first hi hr := by
    obtain ⟨r, hr, he⟩ := h.attemptOf hr
    rw [← he]
    exact hc.first hi hr
  next hi hr := by
    obtain ⟨r, hr, he⟩ := h.attemptOf hr
    rw [← he]
    exact hc.next hi hr
  bound := by
    rw [h.2]
    exact hc.bound

theorem Targets.Sound.same (ht : t.Sound) (h : t.SameAttempts t') : t'.Sound where
  chains task := by
    obtain ⟨chain, hc⟩ := ht.chains task
    exact ⟨chain, hc.same h⟩
  recorded hk ha := by
    obtain ⟨r, hr, he⟩ := h.lookup hk
    rw [← he] at ha ⊢
    exact ht.recorded hr ha
  known hb := by
    rw [h.2] at hb
    obtain ⟨r, hr⟩ := Option.isSome_iff_exists.mp (ht.known hb)
    obtain ⟨r', hr', -⟩ := h.symm.lookup hr
    rw [hr']
    rfl

/-- The place of a new attempt: it gets the next ordinal, its predecessor is the
last attempt, and it is bound as the others are. -/
theorem Targets.Extends.place {chain : List String} (h : t.Extends k row b)
    (hc : t.RetryChain (RowKey.at k row.columns.taskRunId) chain) :
    row.columns.attemptOrdinal = some (chain.length + 1) ∧
    row.columns.predecessorAttemptId = chain[chain.length - 1]? ∧
    (∃ lineage, b.lineage = lineage ∧ ∀ id ∈ chain, ∃ b',
      t.bindings.lookup (RowKey.at k id) = some b' ∧ b'.lineage = lineage) := by
  -- no attempt of the chain has the ordinal of the new one
  have hfree : ∀ i, row.columns.attemptOrdinal = some (i + 1) → chain[i]? = none := by
    intro i ho
    by_contra hne
    obtain ⟨id, hid⟩ := Option.ne_none_iff_exists'.mp hne
    obtain ⟨r, hr⟩ := (hc.attempts id).mp (List.mem_of_getElem? hid)
    exact h.free id r hr (by rw [hc.ordinal hid hr, ho])
  obtain ⟨lineage, hl⟩ := hc.bound
  rcases h.behind with ⟨ho, hp⟩ | ⟨id, hp, ⟨previous, n, hs, htask, -, hn, ho⟩, b', hb', he⟩
  · have hnil : chain = [] := by simpa using hfree 0 ho
    subst hnil
    exact ⟨ho, hp, b.lineage, rfl, by simp⟩
  · have hprev : t.AttemptOf (RowKey.at k row.columns.taskRunId) id previous := ⟨hs, htask⟩
    have hm : id ∈ chain := (hc.attempts id).mpr ⟨previous, hprev⟩
    obtain ⟨i, hi⟩ := List.mem_iff_getElem?.mp hm
    obtain rfl : n = i + 1 := Option.some.inj (hn.symm.trans (hc.ordinal hi hprev))
    have hlen : chain.length = i + 1 := by
      have h₁ := List.getElem?_eq_none_iff.mp (hfree (i + 1) ho)
      have h₂ := (List.getElem?_eq_some_iff.mp hi).1
      omega
    refine ⟨by rw [ho, hlen], by rw [hp, hlen, Nat.add_sub_cancel, hi], lineage, ?_, hl⟩
    obtain ⟨b'', hb'', hl''⟩ := hl id hm
    cases hb'.symm.trans hb''
    rw [he, hl'']

omit [Unicodedata] in
theorem getElem?_concat_cases {α : Type*} {xs : List α} {x y : α} {i : Nat}
    (h : (xs ++ [x])[i]? = some y) : xs[i]? = some y ∨ (i = xs.length ∧ y = x) := by
  rw [List.getElem?_append] at h
  split at h
  · exact .inl h
  · rw [List.getElem?_singleton] at h
    split at h
    · exact .inr ⟨by omega, by simpa [eq_comm] using h⟩
    · cases h

section Extend

variable (h : t.Extends k row b) (ha : t'.attempts = t.attempts.insert k row)
  (hb : t'.bindings = t.bindings.insert k b)

include h ha

theorem Targets.Extends.attemptOf_iff {task : RowKey} {id : String} {r : AttemptTargetRow} :
    t'.AttemptOf task id r ↔ t.AttemptOf task id r ∨
      (RowKey.at task id = k ∧ task = RowKey.at k row.columns.taskRunId ∧ r = row) := by
  unfold Targets.AttemptOf
  rw [ha]
  constructor
  · rintro ⟨hr, htask⟩
    rcases Table.lookup_insert_cases hr with ⟨rfl, rfl⟩ | ⟨-, hr⟩
    · exact .inr ⟨rfl, by rw [htask]; rfl, rfl⟩
    · exact .inl ⟨hr, htask⟩
  · rintro (⟨hr, htask⟩ | ⟨rfl, htask, rfl⟩)
    · exact ⟨Table.lookup_insert_new h.new hr, htask⟩
    · exact ⟨AList.lookup_insert _, by rw [htask]; rfl⟩

include hb

/-- The chain of the task run gets longer. -/
theorem Targets.RetryChain.extended {chain : List String}
    (hc : t.RetryChain (RowKey.at k row.columns.taskRunId) chain) :
    t'.RetryChain (RowKey.at k row.columns.taskRunId) (chain ++ [k.id]) := by
  obtain ⟨ho, hp, lineage, hl, hbound⟩ := h.place hc
  have hnew : k.id ∉ chain := by
    intro hm
    obtain ⟨r, hr, -⟩ := (hc.attempts k.id).mp hm
    rw [show RowKey.at (RowKey.at k row.columns.taskRunId) k.id = k from rfl, h.new] at hr
    cases hr
  -- an attempt of the longer chain stands in the old one, or is the new row
  have hcase : ∀ {i id r}, (chain ++ [k.id])[i]? = some id →
      t'.AttemptOf (RowKey.at k row.columns.taskRunId) id r →
      (chain[i]? = some id ∧ t.AttemptOf (RowKey.at k row.columns.taskRunId) id r) ∨
      (i = chain.length ∧ r = row) := by
    intro i id r hi hr
    rcases getElem?_concat_cases hi with hi | ⟨rfl, rfl⟩
    · rcases (h.attemptOf_iff ha).mp hr with hr | ⟨hk, -, -⟩
      · exact .inl ⟨hi, hr⟩
      · exact absurd (List.mem_of_getElem? hi) (by rwa [show id = k.id by rw [← hk]; rfl])
    · rcases (h.attemptOf_iff ha).mp hr with ⟨hr, -⟩ | ⟨-, -, rfl⟩
      · rw [show RowKey.at (RowKey.at k row.columns.taskRunId) k.id = k from rfl, h.new] at hr
        cases hr
      · exact .inr ⟨rfl, rfl⟩
  refine ⟨?_, ?_, ?_, ?_, ?_, lineage, ?_⟩
  · exact List.nodup_append.mpr ⟨hc.nodup, List.nodup_singleton _, by
      rintro x hx y hy rfl
      exact hnew (List.mem_singleton.mp hy ▸ hx)⟩
  · intro id
    rw [List.mem_append, List.mem_singleton, hc.attempts]
    constructor
    · rintro (⟨r, hr⟩ | rfl)
      · exact ⟨r, (h.attemptOf_iff ha).mpr (.inl hr)⟩
      · exact ⟨row, (h.attemptOf_iff ha).mpr (.inr ⟨rfl, rfl, rfl⟩)⟩
    · rintro ⟨r, hr⟩
      rcases (h.attemptOf_iff ha).mp hr with hr | ⟨hk, -, -⟩
      · exact .inl ⟨r, hr⟩
      · exact .inr (by rw [← hk]; rfl)
  · intro i id r hi hr
    rcases hcase hi hr with ⟨hi, hr⟩ | ⟨rfl, rfl⟩
    · exact hc.ordinal hi hr
    · exact ho
  · intro id r hi hr
    rcases hcase hi hr with ⟨hi, hr⟩ | ⟨hlen, rfl⟩
    · exact hc.first hi hr
    · rw [hp, ← hlen, List.getElem?_eq_none_iff, ← hlen]
  · intro i id r hi hr
    rcases hcase hi hr with ⟨hi', hr⟩ | ⟨hlen, rfl⟩
    · rw [hc.next hi' hr, List.getElem?_append_left]
      exact Nat.lt_of_succ_lt (List.getElem?_eq_some_iff.mp hi').1
    · rw [hp, ← hlen, Nat.add_sub_cancel, List.getElem?_append_left (by omega)]
  · intro id hm
    rw [hb]
    rcases List.mem_append.mp hm with hm | hm
    · have hne : RowKey.at (RowKey.at k row.columns.taskRunId) id ≠ k := by
        rintro hk
        exact hnew (by rwa [show k.id = id by rw [← hk]; rfl])
      rw [AList.lookup_insert_ne hne]
      exact hbound id hm
    · rw [List.mem_singleton.mp hm]
      exact ⟨b, AList.lookup_insert _, hl⟩

/-- The chains of other task runs stay. -/
theorem Targets.RetryChain.beside {task : RowKey} {chain : List String}
    (hne : task ≠ RowKey.at k row.columns.taskRunId) (hc : t.RetryChain task chain) :
    t'.RetryChain task chain := by
  have hiff : ∀ {id r}, t'.AttemptOf task id r ↔ t.AttemptOf task id r := by
    intro id r
    rw [h.attemptOf_iff ha]
    exact or_iff_left fun hr => hne hr.2.1
  refine ⟨hc.nodup, ?_, ?_, ?_, ?_, ?_⟩
  · intro id
    simp only [hiff, hc.attempts]
  · exact fun hi hr => hc.ordinal hi (hiff.mp hr)
  · exact fun hi hr => hc.first hi (hiff.mp hr)
  · exact fun hi hr => hc.next hi (hiff.mp hr)
  · obtain ⟨lineage, hl⟩ := hc.bound
    refine ⟨lineage, fun id hm => ?_⟩
    rw [hb, AList.lookup_insert_ne]
    · exact hl id hm
    · rintro rfl
      obtain ⟨r, hr, -⟩ := (hc.attempts id).mp hm
      rw [h.new] at hr
      cases hr

theorem Targets.Sound.extended (ht : t.Sound) : t'.Sound where
  chains task := by
    obtain ⟨chain, hc⟩ := ht.chains task
    by_cases he : task = RowKey.at k row.columns.taskRunId
    · subst he
      exact ⟨_, hc.extended h ha hb⟩
    · exact ⟨chain, hc.beside h ha hb he⟩
  recorded hk hr := by
    rw [ha] at hk
    rcases Table.lookup_insert_cases hk with ⟨rfl, rfl⟩ | ⟨-, hk⟩
    · exact h.recorded _ hr
    · exact ht.recorded hk hr
  known hk := by
    rw [hb] at hk
    rw [ha]
    rcases Table.lookup_insert_cases hk with ⟨rfl, rfl⟩ | ⟨-, hk⟩
    · rw [AList.lookup_insert]
      rfl
    · obtain ⟨r, hr⟩ := Option.isSome_iff_exists.mp (ht.known hk)
      rw [Table.lookup_insert_new h.new hr]
      rfl

end Extend

theorem Targets.Sound.move (ht : t.Sound) (h : t.Move t') : t'.Sound := by
  cases h with
  | same h => exact ht.same h
  | extend h ha hb => exact ht.extended h ha hb

/-! ### Commands as moves -/

omit [Unicodedata] in
theorem advanceRow_columns {σ Columns : Type} {choose : σ → Except ControlFailure σ}
    {expected version : Nat} {k k' : RowKey} {rows rows' : Table RowKey (TargetRow σ Columns)}
    (h : advanceRow choose expected k rows = .ok (version, rows')) :
    (rows'.lookup k').map (·.columns) = (rows.lookup k').map (·.columns) := by
  obtain ⟨row, y, hrow, -, -, rfl⟩ := advanceRow_spec h
  by_cases hk : k' = k
  · subst hk
    rw [AList.lookup_insert, hrow]
    rfl
  · rw [AList.lookup_insert_ne hk]

/-- Moving rows and adding runs leaves the attempts. -/
theorem Targets.Controlled.sameAttempts (h : t.Controlled t') : t.SameAttempts t' := by
  induction h with
  | unchanged => exact ⟨fun _ => rfl, rfl⟩
  | advanced _ _ h ih =>
    obtain ⟨_, _, -, -, rfl⟩ | ⟨_, _, -, -, rfl⟩ | ⟨_, _, -, hr, rfl⟩ := advance_cases h
    · exact ih
    · exact ih
    · exact ⟨fun k => (advanceRow_columns hr).trans (ih.1 k), ih.2⟩
  | resumed _ _ ih => exact ih
  | rerun _ h ih =>
    obtain ⟨_, -, -, rfl⟩ := insertSuccessorRun_spec h
    exact ih

/-- An attempt free of the unique keys of others has an ordinal of its own. -/
theorem free_of_attemptTaken {scope : ScopeIdentity} {taskRunId id : String} {n : Nat}
    {predecessor : Option String} (h : t.attemptTaken scope taskRunId n predecessor = false) :
    ∀ id' r, t.AttemptOf (RowKey.at (scope.key id) taskRunId) id' r →
      r.columns.attemptOrdinal ≠ some n := by
  intro id' r hr ho
  have hfree := Table.anyRow_eq_false.mp h _ r hr.1
  rw [decide_eq_false_iff_not] at hfree
  exact hfree ⟨rfl, .inl ⟨hr.2, ho⟩⟩

/-- `save` adds nothing, or one attempt. -/
theorem save_moves (ht : s.targets.Sound) {x : LineageAnswers} {scope : ScopeIdentity}
    {a : ExecutionIdentityAggregate} {arguments : SaveArguments}
    (h : save x scope a arguments s = .ok (a, s')) : s.targets.Move s'.targets := by
  obtain ⟨-, lineage, targets, _, hl, hi, hb, -⟩ := save_spec h
  obtain ⟨-, -, hattempt, hbindings⟩ := insertIdentities_spec hi
  rcases hattempt with ⟨hsome, hsame⟩ | ⟨hnone, hfree, hins⟩
  · obtain ⟨row, hrow⟩ := Option.isSome_iff_exists.mp hsome
    rcases appendLineage_cases hb with ⟨-, he⟩ | ⟨hunbound, -, -⟩
    · exact .same (by rw [he]; exact ⟨fun k => by rw [hsame], hbindings⟩)
    · obtain ⟨b, hb⟩ := ht.bound hrow
      rw [hbindings, hb] at hunbound
      cases hunbound
  · rcases appendLineage_cases hb with ⟨hbound, -⟩ | ⟨-, -, he⟩
    · rw [hbindings] at hbound
      have := ht.known hbound
      rw [hnone] at this
      cases this
    · suffices hext : s.targets.Extends (a.scope.key a.attemptId.value)
          ⟨.pending, 1, a.attempt lineage.ordinal⟩
          (lineage.binding a arguments.authorizationDecisionId) from
        .extend hext (by rw [he, hins]) (by rw [he, hbindings])
      refine ⟨hnone, ?_, ?_, free_of_attemptTaken hfree⟩
      · rintro _ ⟨⟩
        exact ⟨rfl, rfl⟩
      · rcases hp : a.predecessorAttemptId with _ | predecessor
        · refine .inl ⟨congrArg some (validateLineage_first hl hp), ?_⟩
          show a.predecessorAttemptId.map _ = none
          rw [hp]
          rfl
        · obtain ⟨previous, b, n, hprev, hbp, htask, hf, hn, ho, hline⟩ :=
            validateLineage_retry hl hp
          refine .inr ⟨predecessor.value, ?_, ⟨previous, n, hprev, htask, hf, hn, ?_⟩, b, hbp,
            hline _⟩
          · show a.predecessorAttemptId.map _ = _
            rw [hp]
            rfl
          · exact congrArg some ho

/-- The successor id is no spelling of an attempt bound by the same command. -/
def Command.Unaliased (c : Command) (t : Targets) : Prop :=
  ∀ x op authorized, c = .persistOperation x op authorized → op.commandType = .retryAttempt →
    ∀ successorId id b, op.successorId = some successorId → opaqueId successorId = .ok id →
      id.value ≠ successorId → t.bindings.lookup (op.scope.key id.value) = some b →
      b.authorizationDecisionId ≠ op.controlCommandId

/-- A retry by a control command adds one attempt. -/
theorem retryAttempt_moves (ht : t.Sound) {x : LineageAnswers} {op : WorkflowControlOperation}
    {refs : References} {plans : PlanTables} {successor : String}
    (h : op.retryAttempt x refs plans t = .ok (t', successor))
    (hal : ∀ id b, opaqueId successor = .ok id → id.value ≠ successor →
      t.bindings.lookup (op.scope.key id.value) = some b →
      b.authorizationDecisionId ≠ op.controlCommandId) : t.Move t' := by
  obtain ⟨id, previous, n, retry, t₁, -, hsucc, hprev, hf, hn, hretry, hord, hins, -, hline⟩ :=
    retryAttempt_spec h
  obtain ⟨b₀, hb₀⟩ := ht.bound hprev
  obtain ⟨hnone, -⟩ | ⟨record, newId, r, rfl, hrec, hid, hscope, hsid, hspred, hstask, hval⟩ :=
    prepareControlRetry_cases hretry
  · rw [hb₀] at hnone
    cases hnone
  obtain ⟨hrid, hrtask⟩ := ht.recorded hprev hrec
  obtain ⟨hnew, hfree, rfl⟩ := insertAttempt_spec rfl hins
  have hlin := hline r rfl
  have hkey : r.successor.scope.key r.successor.attemptId.value = op.scope.key newId.value := by
    rw [hscope, hsid]
  -- the binding goes to the attempt, since otherwise it would be there already
  have hname : newId.value = successor := by
    by_contra hne
    have hk : op.scope.key newId.value ≠ op.scope.key successor := fun he =>
      hne (congrArg RowKey.id he)
    rcases appendLineage_cases hlin with ⟨hb, -⟩ | ⟨hb, ha, -⟩
    · rw [hkey] at hb
      exact hal newId _ hid hne hb rfl
    · rw [hkey] at hb ha
      rw [AList.lookup_insert_ne hk] at ha
      obtain ⟨row, hrow⟩ := Option.isSome_iff_exists.mp ha
      obtain ⟨b, hb'⟩ := ht.bound hrow
      rw [show _ = _ from hb] at hb'
      cases hb'
  rw [hname] at hkey
  rcases appendLineage_cases hlin with ⟨hb, -⟩ | ⟨-, -, rfl⟩
  · rw [hkey] at hb
    have hknown := ht.known hb
    rw [hnew] at hknown
    cases hknown
  obtain ⟨previous', b', n', hprev', hb', -, -, hn', -, hagree⟩ := validateLineage_retry hval hspred
  rw [hscope, hrid] at hprev' hb'
  cases hprev.symm.trans hprev'
  suffices hext : t.Extends (op.scope.key successor)
      (op.successorAttempt id previous (n + 2) (some r))
      (r.lineage.binding r.successor op.controlCommandId) from .extend hext rfl (by rw [hkey])
  refine ⟨hnew, ?_, ?_, free_of_attemptTaken hfree⟩
  · rintro _ ⟨⟩
    refine ⟨?_, ?_⟩
    · rw [hsid, hname]
      rfl
    · rw [hstask, hrtask]
      rfl
  · exact .inr ⟨id, rfl, ⟨previous, n + 1, hprev, rfl, hf, hn, rfl⟩, b', hb', hagree _⟩

theorem body_attempts {c : Command} (ht : s.targets.Sound) (hc : c.Unaliased s.targets)
    (h : c.body s = .ok ((), s')) : s.targets.Move s'.targets := by
  obtain h | ⟨x, op, authorized, successor, rfl, hk, h⟩ | ⟨x, scope, a, arguments, -, h⟩ :=
    body_targets h
  · exact .same h.sameAttempts
  · obtain ⟨_, _, _, _, _, -, hs, -⟩ := retryAttempt_spec h
    exact retryAttempt_moves ht h fun id b => hc x op authorized rfl hk successor id b hs
  · exact save_moves ht h

/-! ### Runs -/

/-- One step of the system: a command that names its successor as it is stored,
or a transaction of another component, which may move attempts and does not add
them. -/
inductive AttemptStep (s : Authority) : Authority → Prop
  | command (c : Command) (h : c.Unaliased s.targets) : AttemptStep s (c.call s).2
  | other {s' : Authority} (h : s.targets.SameAttempts s'.targets) : AttemptStep s s'

theorem attemptStep_moves (ht : s.targets.Sound) (h : AttemptStep s s') :
    s.targets.Move s'.targets := by
  cases h with
  | command c hc =>
    rcases transaction_cases c.body s with ⟨a, s', hb, he⟩ | ⟨e, -, he⟩
    · rw [Command.call, he]
      exact body_attempts ht hc hb
    · rw [Command.call, he]
      exact .same ⟨fun _ => rfl, rfl⟩
  | other h => exact .same h

theorem sound_of_run (ht : s.targets.Sound) (h : Relation.ReflTransGen AttemptStep s s') :
    s'.targets.Sound := by
  induction h with
  | refl => exact ht
  | tail _ hstep ih => exact ih.move (attemptStep_moves ih hstep)

/-- An attempt that was just added follows a failed one. -/
theorem Targets.Move.successor_of_failed (h : t.Move t') {id : String}
    (hold : t.attempts.lookup k = none) (hnew : t'.attempts.lookup k = some row)
    (hp : row.columns.predecessorAttemptId = some id) :
    ∃ previous, t.attempts.lookup (RowKey.at k id) = some previous ∧
      previous.controlState = .failed := by
  cases h with
  | same h =>
    obtain ⟨r, hr, -⟩ := h.lookup hnew
    rw [hold] at hr
    cases hr
  | extend h ha hb =>
    rw [ha] at hnew
    rcases Table.lookup_insert_cases hnew with ⟨rfl, rfl⟩ | ⟨-, hnew⟩
    · rcases h.behind with ⟨-, hnone⟩ | ⟨id', hp', ⟨previous, n, hs, -, hf, -⟩, -⟩
      · rw [hp] at hnone
        cases hnone
      · cases hp.symm.trans hp'
        exact ⟨previous, hs, hf⟩
    · rw [hold] at hnew
      cases hnew

/-- **The attempts of a task run are one retry chain.** In every run from a
store without attempts, in which no retry names its successor by another
spelling of an attempt bound by the same command, the attempts of each task run
have the ordinals 1 to n, each names the one before it, all are bound to the
same employee, definition, plan and approval, and an attempt that gets a
successor is `FAILED` then. -/
theorem retry_chains_of_run (s₀ s : Authority) (hattempts : s₀.targets.attempts = ∅)
    (hbindings : s₀.targets.bindings = ∅) (hrun : Relation.ReflTransGen AttemptStep s₀ s) :
    (∀ task, ∃ chain, s.targets.RetryChain task chain) ∧
    ∀ s', AttemptStep s s' → ∀ k row id, s.targets.attempts.lookup k = none →
      s'.targets.attempts.lookup k = some row → row.columns.predecessorAttemptId = some id →
      ∃ previous, s.targets.attempts.lookup (RowKey.at k id) = some previous ∧
        previous.controlState = .failed := by
  have hs : s.targets.Sound := sound_of_run (Targets.sound_empty hattempts hbindings) hrun
  refine ⟨hs.chains, ?_⟩
  intro s' hstep k row id hold hnew hp
  exact (attemptStep_moves hs hstep).successor_of_failed hold hnew hp

end Retries

section Samples

open AgentPlatform.Sample Sample

/-- Two tasks are started; the decision for the first has the id of a later
command. -/
def starts : List Command :=
  [started (text "run-1") (text "task-1") (text "attempt-1") "a" "command-2",
    started (text "run-2") (text "task-2") (text "attempt-2") "b" "decision-1"]

def firstTargets : Targets :=
  addStarted (text "run-1") (text "task-1") (text "attempt-1") "a" "command-2" ⟨∅, ∅, ∅, ∅⟩

def startedTargets : Targets :=
  addStarted (text "run-2") (text "task-2") (text "attempt-2") "b" "decision-1" firstTargets

theorem run_starts : run starts plannedStore = { plannedStore with targets := startedTargets } := by
  have h₁ : (started (text "run-1") (text "task-1") (text "attempt-1") "a" "command-2").call
      plannedStore = (.ok (), { plannedStore with targets := firstTargets }) :=
    started_call (by decide) (by decide) rfl rfl rfl
  have h₂ : (started (text "run-2") (text "task-2") (text "attempt-2") "b" "decision-1").call
      { plannedStore with targets := firstTargets }
      = (.ok (), { plannedStore with targets := startedTargets }) :=
    started_call (s := { plannedStore with targets := firstTargets }) (by decide) (by decide)
      rfl rfl rfl
  rw [starts, run_cons, h₁, run_cons, h₂, run_nil]

/-- The attempt of the second task fails. -/
def failing : AtomicControlCommand where
  scope := scope
  commandType := "FAIL"
  idempotencyKey := "1"
  payloadDigest := (digest 'a').1
  request := { request "intervention-1" "POLICY" with target := .attempt "attempt-2" }
  transition :=
    { transitionId := "transition-1"
      interventionId := "intervention-1"
      ordinal := 2
      fromState := some .requested
      toState := .rejected
      actorId := "actor-1"
      authorityBasis := "owner"
      reasonCategory := "POLICY"
      transitionedAt := instant 0 }
  controlCommandId := "command-1"
  targetState := "FAILED"
  commandRecord := []
  retainUntil := instant 0

def failedAttempt : AttemptTargetRow :=
  ⟨.failed, 2, (aggregate (text "run-2") (text "task-2") (text "attempt-2")).attempt 1⟩

def failedStore : Authority :=
  { plannedStore with
    targets := { startedTargets with
      attempts := startedTargets.attempts.insert (scope.key "attempt-2") failedAttempt }
    ledger :=
      { interventions := AList.singleton (scope.key "intervention-1")
          ⟨.attempt "attempt-2", .rejected, 2⟩
        transitions :=
          [⟨scope.key "intervention-1:requested", scope.key "intervention-1", 1, none, .requested⟩,
            ⟨scope.key "transition-1", scope.key "intervention-1", 2, some .requested, .rejected⟩]
        reviews := []
        decisions := [] }
    journal :=
      { plannedStore.journal with
        claims := AList.singleton failing.claimKey (failing.completed 2)
        commands := [scope.key "command-1"] } }

set_option maxRecDepth 10000 in
theorem failing_call : (Command.persist failing true).call
    { plannedStore with targets := startedTargets } = (.ok (), failedStore) := rfl

/-- Its retry, under the id of the first attempt with a blank before it. -/
def aliasedRetry : WorkflowControlOperation :=
  { operation .retryAttempt "2" with
    target := .attempt "attempt-2"
    targetExpectedVersion := 2
    interventionId := some "intervention-1"
    successorId := some " attempt-1" }

def retriedAggregate : ExecutionIdentityAggregate :=
  { aggregate (text "run-2") (text "task-2") (text "attempt-2") with
    attemptId := text "attempt-1"
    predecessorAttemptId := some (text "attempt-2")
    retriesAnother := by decide +kernel }

theorem retriedAggregate_lineage :
    validateLineage answers references plannedStore.plans failedStore.targets retriedAggregate
      none "command-2" none none = .ok (lineage "b" 2) := by
  have hprevious : checkPredecessor failedStore.targets retriedAggregate
      ⟨true, ("definition-1", "revision-1", "d"), ("definition-1", "revision-1", "d"), true⟩
      "attempt-2" = .ok (2, "approval-0", workflowPlanDigest) := rfl
  have hplan : checkPlan plannedStore.plans scope "approval-0" (some workflowPlanDigest)
      = .ok workflowPlan := rfl
  refine (if_neg (by decide)).trans (bind_eq_ok.mpr ⟨_, rfl, bind_eq_ok.mpr ⟨(), rfl, ?_⟩⟩)
  refine bind_eq_ok.mpr ⟨_, hprevious, bind_eq_ok.mpr ⟨workflowPlan, hplan, ?_⟩⟩
  exact bind_eq_ok.mpr ⟨_, checkContent_workflow rfl, bind_eq_ok.mpr ⟨some "b", rfl, rfl⟩⟩

theorem prepareControlRetry_aliased :
    prepareControlRetry answers references plannedStore.plans failedStore.targets scope "attempt-2"
      " attempt-1" "command-2" failedAttempt = .ok (some ⟨retriedAggregate, lineage "b" 2⟩) := by
  refine bind_eq_ok.mpr ⟨text "attempt-1", rfl, bind_eq_ok.mpr ⟨retriedAggregate, ?_, ?_⟩⟩
  · exact dif_neg (by decide +kernel)
  · exact bind_eq_ok.mpr ⟨_, retriedAggregate_lineage, rfl⟩

/-- The targets after the retry: the new attempt, and the old bindings. -/
def retriedTargets : Targets :=
  { failedStore.targets with
    attempts := failedStore.targets.attempts.insert (scope.key " attempt-1")
      (aliasedRetry.successorAttempt "attempt-2" failedAttempt 2
        (some ⟨retriedAggregate, lineage "b" 2⟩)) }

theorem retryAttempt_aliased :
    aliasedRetry.retryAttempt answers references plannedStore.plans failedStore.targets
      = .ok (retriedTargets, " attempt-1") := by
  refine bind_eq_ok.mpr ⟨_, lifted_eq_ok.mpr prepareControlRetry_aliased, ?_⟩
  refine (if_neg (by decide)).trans (bind_eq_ok.mpr ⟨retriedTargets, rfl, ?_⟩)
  exact bind_eq_ok.mpr ⟨retriedTargets, lifted_eq_ok.mpr rfl, rfl⟩

/-- What the branch of the command leaves. -/
def retriedEffect : WorkflowControlOperation.Effect where
  plans := failedStore.plans
  ledger := failedStore.ledger
  targets := retriedTargets
  targetVersion := 2
  ordinal := 2
  transitionId := none
  successorAttemptId := some " attempt-1"

theorem aliasedRetry_commits :
    ∃ r s, persistOperation answers aliasedRetry true failedStore = .ok (r, s) ∧
      s.targets = retriedTargets := by
  have hfacts : (aliasedRetry.createOperationFacts retriedTargets failedStore.evidence
      failedStore.outcomes).toOption.any (fun p => aliasedRetry.journalable failedStore.references
        "intervention-1" 2 retriedEffect p.1 p.2 failedStore.journal) = true := by decide +kernel
  obtain ⟨⟨evidence, outcomes⟩, hp, hj⟩ := (Option.any_eq_true _ _).mp hfacts
  have hcreated : aliasedRetry.createOperationFacts retriedTargets failedStore.evidence
      failedStore.outcomes = .ok (evidence, outcomes) := by
    revert hp
    rcases aliasedRetry.createOperationFacts retriedTargets failedStore.evidence
      failedStore.outcomes with e | p
    · intro hp
      cases hp
    · intro hp
      cases hp
      rfl
  have hcarried : Carried answers aliasedRetry failedStore "intervention-1" ⟨.rejected, 2, 2, none⟩
      failedStore.ledger retriedEffect "transition-1" 2 evidence outcomes :=
    { intervention := rfl
      recorded := rfl
      version := rfl
      carried := bind_eq_ok.mpr ⟨_, retryAttempt_aliased, rfl⟩
      cited := rfl
      facts := hcreated
      journalable := hj }
  exact ⟨_, _, runOperation_of_carried hcarried, rfl⟩

theorem started_run (s : Authority) : Relation.ReflTransGen AttemptStep s (run starts s) := by
  refine .tail (.tail .refl (.command _ ?_)) (.command _ ?_)
  · intro x op authorized h
    cases h
  · intro x op authorized h
    cases h

/-- Hypotheses of the law are met by two starts, and their attempts are stored. -/
theorem retry_chains_of_starts :
    let s := run starts plannedStore
    (s.targets.attempts.lookup (scope.key "attempt-2")).isSome ∧
      ∀ task, ∃ chain, s.targets.RetryChain task chain := by
  refine ⟨?_, (retry_chains_of_run plannedStore _ rfl rfl (started_run plannedStore)).1⟩
  rw [run_starts]
  rfl

/-- **A retry under an aliased id stays unbound.** The command commits, and the
chain of the task run has an attempt without binding. -/
theorem aliased_retry_unbound :
    ¬ ∀ task, ∃ chain, (run (starts ++ [.persist failing true,
      .persistOperation answers aliasedRetry true]) plannedStore).targets.RetryChain task chain := by
  obtain ⟨r, s, hs, ht⟩ := aliasedRetry_commits
  have hcall : (Command.persistOperation answers aliasedRetry true).call failedStore = (.ok (), s) :=
    transaction_ok (ignoring_eq_ok.mpr ⟨r, hs⟩)
  rw [run_append, run_starts, run_cons, failing_call, run_cons, hcall, run_nil]
  intro h
  obtain ⟨chain, hc⟩ := h (scope.key "task-2")
  rw [show ((Except.ok () : Except ControlFailure Unit), s).2.targets = retriedTargets from ht] at hc
  have hm : " attempt-1" ∈ chain := (hc.attempts _).mpr ⟨_, AList.lookup_insert _, rfl⟩
  obtain ⟨lineage, hb⟩ := hc.bound
  obtain ⟨b, hb, -⟩ := hb _ hm
  have hnone : retriedTargets.bindings.lookup (scope.key " attempt-1") = none := rfl
  cases hnone.symm.trans hb
end Samples

end Control

end AgentPlatform
