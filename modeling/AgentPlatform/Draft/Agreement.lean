/-
AgentPlatform/Draft/Agreement.lean

The two repositories of draft invocations, side by side.

The service runs over the tables, and the in-memory repository is given the
same calls (`bothSystem`). **Main result:** `repositories_agree`, in every run
whose steps suit the constraints of the database, each call of the repository
is answered alike by both, exactly if it suits them too; and the turns of a
context are a chain.

Two calls of `begin` that name one parent turn come to a claim that does not
suit (`racing_turns_differ`).
-/
import AgentPlatform.Draft.Dispatch
import AgentPlatform.Order.History

namespace AgentPlatform

open Py

namespace Draft

/-! ### The turns of a context -/

def Tables.turnsOf (t : Tables) (scope : DraftScope) (contextId : String) : List TurnRow :=
  t.turns.filter fun u => u.scope = scope ∧ u.contextId = contextId

/-- The turns have the ordinals 1 to n, and each names the one before it as its
parent. -/
structure Chained (turns : List TurnRow) : Prop where
  ordinals : (turns.map TurnRow.ordinal).Perm
    ((List.range turns.length).map fun k : Nat => (k : Int) + 1)
  parents : ∀ u ∈ turns, (u.ordinal = 1 ∧ u.parentTurnId = none)
    ∨ ∃ v ∈ turns, u.ordinal = v.ordinal + 1 ∧ u.parentTurnId = some v.turnId

section Turns

variable {ι : Type} {c : Care} {s : State ι}

/-- **The turns of a context are a chain.** -/
theorem Inv.chained (hi : Inv c s) (hc : c.named = true) (scope : DraftScope) (contextId : String) :
    Chained (s.tables.turnsOf scope contextId) := by
  have hv := hi.valid
  have hrow : ∀ r, s.Stored r → TurnRow.of r ∈ s.tables.turns := by
    intro r hr
    obtain ⟨f, hf, hkey⟩ := hv.exists_first (List.ne_nil_of_mem hr)
    have ho : f.origin = r.origin :=
      hv.origin r.key f (hkey ▸ (hv.mem_firsts.mp hf).1) r hr
    have heq : TurnRow.of r = TurnRow.of f := by
      have := congrArg (fun o : Origin => TurnRow.mk o.scope o.contextId o.turnId o.turnOrdinal
        o.turnVersion o.parentTurnId) ho
      exact this.symm
    rw [hv.turnRows, heq]
    exact List.mem_map_of_mem hf
  have hparents : ∀ u ∈ s.tables.turnsOf scope contextId,
      (u.ordinal = 1 ∧ u.parentTurnId = none)
        ∨ ∃ v ∈ s.tables.turnsOf scope contextId,
          u.ordinal = v.ordinal + 1 ∧ u.parentTurnId = some v.turnId := by
    intro u hu
    obtain ⟨hu, hsame⟩ := List.mem_filter.mp hu
    obtain ⟨hscope, hcontext⟩ := of_decide_eq_true hsame
    rw [hv.turnRows] at hu
    obtain ⟨f, hf, rfl⟩ := List.mem_map.mp hu
    have hcont := hi.turns hc f.key f (hv.mem_firsts.mp hf).1
    rcases hcont.parent with ⟨hnone, hone⟩ | ⟨v, hstored, hvs, hvc, hparent, hversion⟩
    · exact .inl ⟨hcont.ordinal.trans hone, hnone⟩
    · have hvcont := hi.turns hc v.key v hstored
      refine .inr ⟨TurnRow.of v, List.mem_filter.mpr ⟨hrow v hstored, ?_⟩, ?_, hparent⟩
      · exact decide_eq_true ⟨hvs.trans hscope, hvc.trans hcontext⟩
      · change f.turnOrdinal = v.turnOrdinal + 1
        rw [hcont.ordinal, hvcont.ordinal, hversion]
  refine ⟨?_, hparents⟩
  have hnodup : ((s.tables.turnsOf scope contextId).map TurnRow.ordinal).Nodup := by
    have hsub : ((s.tables.turnsOf scope contextId).map fun u =>
        (u.scope, u.contextId, u.ordinal)).Nodup :=
      hv.ordinals.sublist (List.filter_sublist.map _)
    have heq : ((s.tables.turnsOf scope contextId).map fun u => (u.scope, u.contextId, u.ordinal))
        = ((s.tables.turnsOf scope contextId).map TurnRow.ordinal).map fun n =>
          (scope, contextId, n) := by
      rw [List.map_map]
      refine List.map_congr_left fun u hu => ?_
      obtain ⟨rfl, rfl⟩ := of_decide_eq_true (List.mem_filter.mp hu).2
      rfl
    rw [heq] at hsub
    exact hsub.of_map _
  have := History.perm_range_of_predecessors hnodup fun x hx => by
    obtain ⟨u, hu, rfl⟩ := List.mem_map.mp hx
    rcases hparents u hu with ⟨hone, -⟩ | ⟨v, hv, hnext, -⟩
    · exact .inl hone
    · exact .inr (List.mem_map.mpr ⟨v, hv, by omega⟩)
  rwa [List.length_map] at this

end Turns

/-! ### Side by side -/

section Both

variable {ι : Type} {c : Care} {s s' : State ι} {m m' : Memory} {i : ι} {op : Op} {a : Answer op}

/-- How the in-memory repository follows a step over the tables: it is given the
same operation, unless the operation failed before it came to the repository. -/
def Follow (op : Op) (s : State ι) (a : Answer op) (s' : State ι) (m m' : Memory) : Prop :=
  (s'.tables = s.tables.after op ∧ m' = m.after op)
    ∨ ((∃ e, a = .error e) ∧ s'.tables = s.tables ∧ m' = m)

/-- The service over the tables, and the in-memory repository beside them. -/
def bothSystem (ι : Type) (c : Care) : System ι (State ι × Memory) Answer :=
  (system ι c).alongside Follow fun op s => Suits s.tables op

theorem Guard.numbered (h : Guard c i op s) : Numbered op := by
  cases op with
  | claim candidate => exact h.1.version
  | compareAndSet site expected replacement =>
    obtain ⟨r, -, rfl, hf⟩ := h
    exact hf.version
  | _ => exact trivial

/-- **The memory keeps holding what the tables hold.** -/
theorem Follow.memory (hi : Inv c s) (hg : Guard c i op s) (hs : Suits s.tables op)
    (h : Follow op s a s' m m') (hm : m = s.tables.memory) : m' = s'.tables.memory := by
  subst hm
  rcases h with ⟨ht, rfl⟩ | ⟨-, ht, rfl⟩
  · rw [ht, hi.valid.after_memory hg.numbered hs]
  · rw [ht]

/-- Every step over the tables can be followed. -/
theorem Performs.follow (h : Performs i op s a s') (m : Memory) : ∃ m', Follow op s a s' m m' := by
  have hsame : s' = s → s.tables.after op = s.tables → ∃ m', Follow op s a s' m m' := by
    rintro rfl hafter
    exact ⟨_, .inl ⟨hafter.symm, rfl⟩⟩
  cases op with
  | claim candidate =>
    rcases h with ⟨answer, won, t, ht, rfl, -⟩ | ⟨hfailed, rfl⟩
    · refine ⟨_, .inl ⟨?_, rfl⟩⟩
      simp only [Tables.after, ht]
      cases won with
      | true => rfl
      | false => exact (Tables.claim_lost ht).symm
    · exact ⟨m, .inr ⟨hfailed, rfl, rfl⟩⟩
  | compareAndSet site expected replacement =>
    rcases h with ⟨answer, t, ht, rfl, -⟩ | ⟨hfailed, rfl⟩
    · refine ⟨_, .inl ⟨?_, rfl⟩⟩
      simp only [Tables.after, ht]
      cases answer with
      | some r => rfl
      | none => exact (Tables.compareAndSet_lost ht).symm
    · exact ⟨m, .inr ⟨hfailed, rfl, rfl⟩⟩
  | dispatch recorded request credential =>
    cases h
    cases a <;> exact ⟨m, .inl ⟨rfl, rfl⟩⟩
  | observe value correlation =>
    cases h
    cases a <;> exact ⟨m, .inl ⟨rfl, rfl⟩⟩
  | cancel value correlation =>
    cases h
    cases a <;> exact ⟨m, .inl ⟨rfl, rfl⟩⟩
  | getByKey => exact hsame h.1 rfl
  | getContextHead => exact hsame h.1 rfl
  | get => exact hsame h.1 rfl
  | reread => exact hsame h.1 rfl
  | _ => exact hsame h rfl

end Both

/-! ### Runs -/

section Runs

variable {ι : Type} [DecidableEq ι] {c : Care}

/-- A world with the in-memory repository. -/
abbrev BothWorld (ι : Type) := Service.World ι (State ι × Memory) Answer Fault Reply

/-- The runs whose steps suit the constraints of the database. -/
abbrev BothRun (c : Care) : BothWorld ι → BothWorld ι → Prop :=
  Relation.ReflTransGen (Service.Step (bothSystem ι c) (IsCall c))

/-- Both repositories are empty and no call is under way. -/
def bothStart (ι : Type) : BothWorld ι := ⟨({}, {}), fun _ => none, []⟩

/-- What is to hold of the two repositories: each call of the repository is
answered alike exactly if it suits the constraints of the database, and so is a
lookup by target, if its texts do and the invocation that was claimed first is
the first by its identifier; the turns of a context are a chain; and every
stored version is read back from its record. -/
structure RepositoriesAgree (w : BothWorld ι) : Prop where
  calls : ∀ i op k, w.calls i = some (.call op k) →
    (Agrees w.state.1.tables w.state.2 op ↔ Suits w.state.1.tables op)
  byTarget : ∀ (collation : Tables.Collation) scope principalId target,
    w.state.1.tables.findByTarget collation.le scope principalId target
        = .ok (w.state.2.findByTarget scope principalId target)
      ↔ (plain scope.namespace_ && plain scope.securityDomain && plain principalId) = true
        ∧ ∀ r, w.state.2.findByTarget scope principalId target = some r →
          ∀ v ∈ w.state.2.records, Tables.Meant scope principalId target v →
            collation.le r.invocationId v.invocationId = true
  turns : ∀ scope contextId, Chained (w.state.1.tables.turnsOf scope contextId)
  records : ∀ r, w.state.1.Stored r → invocation (record r) = some r

/-- A run of both is a run over the tables, and the memory holds what they
hold. -/
theorem memory_of_bothRun {w : BothWorld ι} (h : BothRun c (bothStart ι) w) :
    Run c (start ι) w.left ∧ w.state.2 = w.state.1.tables.memory :=
  Service.alongside_run (R := fun (s : State ι) m => m = s.tables.memory)
    (fun hrun hcall _ hs hf hm =>
      hf.memory (holds_run hrun).inv ((holds_run hrun).asked hcall) hs hm) rfl h

/-- **The repositories agree** in every run whose steps suit the constraints of
the database, if the identity factory gives no empty text. -/
theorem repositories_agree {w : BothWorld ι} (h : BothRun { named := true } (bothStart ι) w) :
    RepositoriesAgree w := by
  obtain ⟨hrun, hm⟩ := memory_of_bothRun h
  have hholds := holds_run hrun
  have hi : Inv { named := true } w.state.1 := hholds.inv
  refine ⟨fun i op k hcall => ?_, fun collation scope principalId target => ?_,
    fun scope contextId => hi.chained rfl scope contextId, fun r _ => invocation_record r⟩
  · have hg : Guard _ i op w.state.1 := hholds.asked (w := w.left) hcall
    rw [hm]
    exact hi.valid.agrees_iff hg.numbered
  · rw [hm]
    constructor
    · intro heq
      have hplain : (plain scope.namespace_ && plain scope.securityDomain && plain principalId)
          = true := by
        by_contra hplain
        rw [Tables.findByTarget, if_neg hplain] at heq
        cases heq
      exact ⟨hplain, (hi.valid.findByTarget_memory collation hplain).mp heq⟩
    · rintro ⟨hplain, hfirst⟩
      exact (hi.valid.findByTarget_memory collation hplain).mpr hfirst

theorem bothRun_of_script (moves : Moves ι) {p : MirrorWorld ι → Bool} (hcalls : Calls c moves)
    (h : (playScript c moves).any p = true) :
    ∃ w m, BothRun c (bothStart ι) w
      ∧ Service.Mirrors (fun m (s : State ι × Memory) => Mirror.Reflects m s.1) m w
      ∧ p m = true := by
  obtain ⟨m, hm, hp⟩ := (Option.any_eq_true _ _).mp h
  obtain ⟨w, hrun, hmirrors⟩ := Service.play_simulates (S := bothSystem ι c)
    (R := fun m (s : State ι × Memory) => Mirror.Reflects m s.1) (w := bothStart ι)
    (fun {w s reply i op r k} hrun hcall hR hr => by
      obtain ⟨hleft, -⟩ := memory_of_bothRun hrun
      have hi := (holds_run hleft).inv
      have hg := (holds_run hleft).asked (w := w.left) hcall
      obtain ⟨s', hp, hw, hR'⟩ := Mirror.respond_sound hi hg hR hr
      obtain ⟨m', hf⟩ := Performs.follow hp w.state.2
      exact ⟨(s', m'), ⟨hp, hf⟩, ⟨hw, Mirror.respond_suits hi hg hR hr⟩, hR'⟩)
    hcalls .refl ⟨Mirror.reflects_initial, rfl, rfl⟩ hm
  exact ⟨w, m, hrun, hmirrors, hp⟩

end Runs

/-! ### A race -/

namespace Sample

/-- The ports, with identifiers that end in `suffix`. -/
def numbered (suffix : String) : (op : Op) → Answer op
  | .identity kind => .ok (kind ++ suffix)
  | op => .ok (portValue op)

/-- A request for the turn after the first one. -/
def secondTurn (key : String) : DraftAssistanceService.BeginRequest :=
  { key, content := "a draft", parentContextId := some "draft-context:1"
    parentTurnId := some "draft-turn:1", expectedParentVersion := 1
    predecessorInvocationId := some "draft-invocation:1" }

/-- Two calls find the first turn as the head, and the one of `true` claims the
second turn. -/
def race : Moves Bool :=
  .start true begin_ :: (steps true 8 (numbered ":1") ++ .stop true ::
    .start true (service.begin_ context (secondTurn "key-2")) ::
    .start false (service.begin_ context (secondTurn "key-3")) ::
    (steps true 7 (numbered ":2") ++ (steps false 7 (numbered ":3") ++
      (steps true 1 (numbered ":2") ++ []))))

/-- The call of `false` is to claim a turn whose ordinal is taken. -/
def Refused (m : MirrorWorld Bool) : Bool :=
  match m.calls false with
  | some (.call (.claim c) _) =>
    (m.state.memory.claimed c.scope c.initiatingPrincipalId c.scopedIdempotencyKey).isNone
      && m.state.memory.records.any fun v => v.scope = c.scope && v.contextId = c.contextId
        && v.turnOrdinal = c.turnOrdinal
  | _ => false

theorem race_of_script : ∃ w m, BothRun { named := true } (bothStart Bool) w
    ∧ Service.Mirrors (fun m (s : State Bool × Memory) => Mirror.Reflects m s.1) m w
    ∧ Refused m = true := by
  refine bothRun_of_script race ?_ (by decide +kernel)
  refine Calls.start (Calls.steps (Calls.stop (Calls.start (Calls.start ?_ ?_) ?_))) isCall_begin
  · exact calls_nil.steps.steps.steps
  · exact .begin_ service context (secondTurn "key-3")
  · exact .begin_ service context (secondTurn "key-2")

/-- `repositories_agree` in a run with three claims. -/
theorem repositories_agree_of_race : ∃ w, BothRun { named := true } (bothStart Bool) w
    ∧ w.calls false ≠ none ∧ RepositoriesAgree w := by
  obtain ⟨w, m, hrun, hm, hrefused⟩ := race_of_script
  refine ⟨w, hrun, fun hnone => ?_, repositories_agree hrun⟩
  rw [Refused, hm.calls, hnone] at hrefused
  cases hrefused

/-- **Two calls that race for one turn**: the claim of the second is refused by
the database and taken by the memory. -/
theorem racing_turns_differ : ∃ w, BothRun { named := true } (bothStart Bool) w
    ∧ ∃ op k, w.calls false = some (.call op k) ∧ ¬ Agrees w.state.1.tables w.state.2 op := by
  obtain ⟨w, m, hrun, hm, hrefused⟩ := race_of_script
  obtain ⟨hleft, hmemory⟩ := memory_of_bothRun hrun
  have hholds := holds_run hleft
  have hv : w.state.1.tables.Valid := hholds.inv.valid
  rw [Refused, hm.calls] at hrefused
  split at hrefused
  · next c k hcall =>
    refine ⟨w, hrun, _, _, hcall, fun hagrees => ?_⟩
    have hg : Guard _ false (.claim c) w.state.1 := hholds.asked (w := w.left) hcall
    rw [hmemory, hv.agrees_iff hg.numbered] at hagrees
    rw [Bool.and_eq_true, hm.state.memory, Tables.memory_claimed, Option.isNone_iff_eq_none,
      List.any_eq_true] at hrefused
    obtain ⟨hnone, v, hmem, hsame⟩ := hrefused
    obtain ⟨f, hf, rfl⟩ := List.mem_map.mp hmem
    have ho := hv.current_origin hf
    simp only [Bool.and_eq_true, decide_eq_true_eq] at hsame
    obtain ⟨⟨hscope, hcontext⟩, hordinal⟩ := hsame
    refine (hagrees.2 hnone).ordinal (TurnRow.of f) ?_ ?_ ?_ ?_
    · rw [hv.turnRows]
      exact List.mem_map_of_mem hf
    · exact (congrArg Origin.scope ho).symm.trans hscope
    · exact (congrArg Origin.contextId ho).symm.trans hcontext
    · exact (congrArg Origin.turnOrdinal ho).symm.trans hordinal
  · cases hrefused

end Sample

end Draft

end AgentPlatform
