/-
AgentPlatform/Draft/Safety.lean

Every call of the draft assistance service meets the guards of its operations.

The rules come first: for operations that change nothing, for a write
(`safe_replace`), for `try` (`safe_tryExcept`). The lemmas about the parts of
the service follow its own structure, and `safe_call` puts them together.

What is carried along a call is only what stays true whatever happens next:
that a version is stored, and that an observation was heard. The exception is
the way from the recorded dispatch to `transport.dispatch`, where the process
relies on the others to leave what is waiting alone.
-/
import AgentPlatform.Draft.Memory
import AgentPlatform.Draft.Runs

namespace AgentPlatform

open Py

namespace Draft

variable {ι : Type} {c : Care} {i : ι} {s s' : State ι} {α β : Type} {key : InvocationKey}
  {r r' v : DraftInvocation} {site : Site} {site? : Option Site}

/-- Every operation of the call meets its guard, and the call returns where `Q`
holds. -/
abbrev Safe (c : Care) (i : ι) (x : Call α) (Q : α → State ι → Prop) (s : State ι) : Prop :=
  (draftLogic ι c).Safe i x Q s

/-! ### Operations that change nothing -/

/-- The operations without an effect on the state. -/
def Op.Quiet : Op → Prop
  | .claim _ | .compareAndSet .. | .dispatch .. | .observe .. | .cancel .. => False
  | _ => True

theorem Op.Quiet.guard {op : Op} (h : op.Quiet) : Guard c i op s := by
  cases op <;> first | exact h.elim | trivial

theorem Op.Quiet.performs {op : Op} {a : Answer op} (h : op.Quiet) (hp : Performs i op s a s') :
    s' = s := by
  cases op <;> first | exact h.elim | exact hp | exact hp.1

/-- A call that changes nothing. -/
theorem safe_quiet {x : Call α} {Q : α → State ι → Prop} (hx : x.OnlyAsks Op.Quiet)
    (h : ∀ a s', Relies c i s s' → Inv c s' → Q a s') : Safe c i x Q s :=
  Logic.Safe.of_onlyAsks (fun _ _ hq _ => hq.guard) (fun hq hp => hq.performs hp) hx fun a _ => h a _

/-- A call, and how it goes on. -/
theorem safe_bind {x : Call α} {f : α → Call β} {Q : β → State ι → Prop} (hi : Inv c s)
    (h : Safe c i x (fun a s => Safe c i (f a) Q s) s) : Safe c i (x >>= f) Q s :=
  Logic.Safe.bind h hi

/-- A call whose end is known, and how it goes on. -/
theorem safe_then {x : Call α} {f : α → Call β} {R : α → State ι → Prop} {Q : β → State ι → Prop}
    (hi : Inv c s) (h : Safe c i x R s)
    (hf : ∀ a s', Grows s s' → Inv c s' → R a s' → Safe c i (f a) Q s') :
    Safe c i (x >>= f) Q s :=
  safe_bind hi (Logic.Safe.imp (draftLogic_keeps ι c) h hf)

theorem safe_quiet_bind {x : Call α} {f : α → Call β} {Q : β → State ι → Prop} (hi : Inv c s)
    (hx : x.OnlyAsks Op.Quiet) (h : ∀ a s', Relies c i s s' → Inv c s' → Safe c i (f a) Q s') :
    Safe c i (x >>= f) Q s :=
  safe_bind hi (safe_quiet hx h)

theorem safe_pure {a : α} {Q : α → State ι → Prop} (h : ∀ s', Relies c i s s' → Inv c s' → Q a s') :
    Safe c i (pure a) Q s := fun s' => h s'

theorem safe_raise {e : Fault} {Q : α → State ι → Prop} : Safe c i (raise e) Q s := trivial

theorem safe_require {p : Bool} {reasonCode : String} {f : Unit → Call β} {Q : β → State ι → Prop}
    (h : p = true → Safe c i (f ()) Q s) : Safe c i (require p reasonCode >>= f) Q s := by
  cases p with
  | false => exact trivial
  | true => exact h rfl

/-- `try: value = op(...)`, for an operation that changes nothing. -/
theorem safe_askOr {op : Op} {handler : Fault → Call α} {k : Value op → Call α}
    {Q : α → State ι → Prop} (hq : op.Quiet)
    (he : ∀ e s', Relies c i s s' → Inv c s' → Safe c i (handler e) Q s')
    (hk : ∀ v s', Relies c i s s' → Inv c s' → Safe c i (k v) Q s') :
    Safe c i (askOr op handler k) Q s := by
  intro s₁ hr hi
  refine ⟨hq.guard, fun a s₂ hp _ => ?_⟩
  cases hq.performs hp
  rcases a with e | v
  · exact he e s₁ hr hi
  · exact hk v s₁ hr hi

/-- `try: body except Exception: ...`. -/
theorem safe_tryExcept {body : Call α} {handler : Fault → Call α} {Q : α → State ι → Prop}
    (hi : Inv c s) (h : Safe c i body Q s)
    (he : ∀ e s', Grows s s' → Inv c s' → Safe c i (handler e) Q s') :
    Safe c i (tryExcept body handler) Q s := by
  refine safe_bind hi (Logic.Safe.attempt_of (draftLogic_keeps ι c) ?_ ?_)
  · exact Logic.Safe.stable h
  · exact he

/-! ### Reading -/

/-- What a read of the repository finds is stored. -/
theorem stored_of_get (hi : Inv c s) {scope : DraftScope} {invocationId : String}
    (h : s.tables.get scope invocationId = .ok (some v)) : s.Stored v ∧ v.key = (scope, invocationId) := by
  simp only [Tables.get] at h
  split at h
  · rw [hi.valid.latest_eq] at h
    cases hlast : (s.tables.history (scope, invocationId)).getLast? with
    | none =>
      rw [hlast] at h
      cases h
    | some current =>
      rw [hlast] at h
      cases h
      have hmem : v ∈ s.history (scope, invocationId) := List.mem_of_getLast? hlast
      exact ⟨hi.stored hmem, hi.key_eq hmem⟩
  · cases h

theorem stored_of_getContextHead (hi : Inv c s) {scope : DraftScope} {contextId : String}
    (h : s.tables.getContextHead scope contextId = .ok (some v)) :
    s.Stored v ∧ v.scope = scope ∧ v.contextId = contextId := by
  by_cases hplain : (plain scope.namespace_ && plain scope.securityDomain && plain contextId) = true
  · rw [hi.valid.getContextHead_memory hplain] at h
    have hmem := Tables.greatest_mem (Except.ok.inj h)
    obtain ⟨hrecord, hcond⟩ := List.mem_filter.mp hmem
    obtain ⟨f, hf, rfl⟩ := List.mem_map.mp hrecord
    exact ⟨hi.stored (hi.valid.current_mem hf), of_decide_eq_true hcond⟩
  · rw [Tables.getContextHead, if_neg hplain] at h
    cases h

theorem stored_of_getByKey (hi : Inv c s) {scope : DraftScope} {principalId key : String}
    (h : s.tables.getByKey scope principalId key = .ok (some v)) : s.Stored v := by
  simp only [Tables.getByKey] at h
  split at h
  · split at h
    · cases h
    · next invocationId hc =>
      rw [hi.valid.latest_eq] at h
      cases hlast : (s.tables.history (scope, invocationId)).getLast? with
      | none =>
        rw [hlast] at h
        cases h
      | some current =>
        rw [hlast] at h
        cases h
        exact hi.stored (List.mem_of_getLast? hlast)
  · cases h

/-- `get`, and how the call goes on. -/
theorem safe_get {scope : DraftScope} {invocationId : String}
    {f : Option DraftInvocation → Call β} {Q : β → State ι → Prop}
    (hnone : ∀ s', Relies c i s s' → Inv c s' → Safe c i (f none) Q s')
    (hsome : ∀ v s', Relies c i s s' → Inv c s' → s'.Stored v → v.key = (scope, invocationId) →
      Safe c i (f (some v)) Q s') : Safe c i (ask (.get scope invocationId) >>= f) Q s := by
  intro s₁ hr hi
  refine ⟨trivial, fun a s₂ hp _ => ?_⟩
  obtain ⟨rfl, ha⟩ := hp
  rcases a with e | _ | v
  · exact trivial
  · exact hnone s₂ hr hi
  · rcases ha with ha | ⟨e, ha⟩
    · obtain ⟨hv, hkey⟩ := stored_of_get hi ha.symm
      exact hsome v s₂ hr hi hv hkey
    · cases ha

/-- `get_by_key`, and how the call goes on. -/
theorem safe_getByKey {scope : DraftScope} {principalId key : String}
    {f : Option DraftInvocation → Call β} {Q : β → State ι → Prop}
    (hnone : ∀ s', Relies c i s s' → Inv c s' → Safe c i (f none) Q s')
    (hsome : ∀ v s', Relies c i s s' → Inv c s' → s'.Stored v → Safe c i (f (some v)) Q s') :
    Safe c i (ask (.getByKey scope principalId key) >>= f) Q s := by
  intro s₁ hr hi
  refine ⟨trivial, fun a s₂ hp _ => ?_⟩
  obtain ⟨rfl, ha⟩ := hp
  rcases a with e | _ | v
  · exact trivial
  · exact hnone s₂ hr hi
  · rcases ha with ha | ⟨e, ha⟩
    · exact hsome v s₂ hr hi (stored_of_getByKey hi ha.symm)
    · cases ha

/-- `get_context_head`, and how the call goes on. -/
theorem safe_getContextHead {scope : DraftScope} {contextId : String}
    {f : Option DraftInvocation → Call β} {Q : β → State ι → Prop}
    (hnone : ∀ s', Relies c i s s' → Inv c s' → Safe c i (f none) Q s')
    (hsome : ∀ v s', Relies c i s s' → Inv c s' → s'.Stored v → v.scope = scope →
      v.contextId = contextId → Safe c i (f (some v)) Q s') :
    Safe c i (ask (.getContextHead scope contextId) >>= f) Q s := by
  intro s₁ hr hi
  refine ⟨trivial, fun a s₂ hp _ => ?_⟩
  obtain ⟨rfl, ha⟩ := hp
  rcases a with e | _ | v
  · exact trivial
  · exact hnone s₂ hr hi
  · rcases ha with ha | ⟨e, ha⟩
    · obtain ⟨hv, hscope, hcontext⟩ := stored_of_getContextHead hi ha.symm
      exact hsome v s₂ hr hi hv hscope hcontext
    · cases ha

/-! ### Writing -/

theorem Follows.mono {heard heard' : ProviderObservation → Prop} {own own' : Prop}
    (hheard : ∀ o, heard o → heard' o) (hown : own → own') (h : Follows c heard own site r r') :
    Follows c heard' own' site r r' :=
  ⟨h.origin, h.version, h.edge.mono hheard hown, h.problem⟩

theorem Follows.grows (hs : Grows s s') (hr : s.Stored r)
    (h : Follows c (s.Heard r.key) (s.WrittenBy i r) site r r') :
    Follows c (s'.Heard r.key) (s'.WrittenBy i r) site r r' :=
  h.mono (fun o => hs.heard r.key o) (hs.writer i r hr)

/-- A compare-and-set whose replacement follows the version it expects. -/
theorem safe_compareAndSet {k : Answer (.compareAndSet site r.aggregateVersion r') → Call α}
    {Q : α → State ι → Prop} (hr : s.Stored r)
    (hf : Follows c (s.Heard r.key) (s.WrittenBy i r) site r r')
    (hraise : ∀ e, k (.error e) = raise e)
    (hlost : ∀ s', Grows s s' → Inv c s' → Safe c i (k (.ok none)) Q s')
    (hwon : ∀ s₁ t, Relies c i s s₁ → Inv c s₁ → (s₁.history r'.key).getLast? = some r →
      t.versions = s₁.tables.versions ++ [VersionRow.of r'] →
      Kept c i s₁ (s₁.write i (some site) r' t) →
      Safe c i (k (.ok (some r'))) Q (s₁.write i (some site) r' t)) :
    Safe c i (.call (.compareAndSet site r.aggregateVersion r') k) Q s := by
  intro s₁ hrel hi
  have hr₁ := hrel.grows.stored hr
  have hf₁ := hf.grows hrel.grows hr
  refine ⟨⟨r, hr₁, rfl, hf₁⟩, fun a s₂ hp _ => ?_⟩
  rcases a with e | answer
  · rw [hraise]
    exact trivial
  rcases hp with ⟨answer', t, h, rfl, ha⟩ | ⟨⟨e, ha⟩, -⟩
  · rcases ha with ha | ⟨e, ha⟩
    · cases ha
      have hk := Kept.compareAndSet hi hr₁ hf₁ h
      rcases Tables.compareAndSet_spec hi.valid h with ⟨rfl, -, -⟩ | ⟨rfl, ⟨q, hlast, hq⟩, ht⟩
      · exact hlost s₁ hrel.grows hi
      · have heq : q = r := by
          refine hi.valid.eq_of_version (List.mem_of_getLast? hlast) ?_ hq
          rw [hf.key]
          exact hr₁
        subst heq
        exact hwon s₁ t hrel hi hlast (by rw [ht]) hk
    · cases ha
  · cases ha

theorem Care.Rereads.grows {site : Site} (hs : Grows s s') (h : c.Rereads s site v) :
    c.Rereads s' site v := by
  have hknows : ∀ {o}, s.Knows v.key o → s'.Knows v.key o := fun ⟨r, hr, hlast⟩ =>
    ⟨r, (hs.history _).subset hr, hlast⟩
  cases site with
  | conflict o => exact fun hc => (h hc).imp_left hknows
  | observation o => exact fun hc => ⟨hknows (h hc).1, (h hc).2⟩
  | _ => exact h

/-- **`_replace`**: it returns the replacement, or a version that is reread. -/
theorem safe_replace {site : Site} {changes : DraftInvocation → DraftInvocation}
    {Q : DraftInvocation → State ι → Prop} (hr : s.Stored r)
    (hf : Follows c (s.Heard r.key) (s.WrittenBy i r) site r (changes r.next))
    (hQ : ∀ v s', Grows s s' → Inv c s' → s'.Stored v → v.key = r.key →
      v = changes r.next ∨ c.Rereads s' site v → Q v s') :
    Safe c i (replace_ site r changes) Q s := by
  refine safe_compareAndSet hr hf (fun e => rfl) (fun s₁ hs hi => ?_) fun s₁ t hrel hi hlast ht hk => ?_
  · intro s₂ hrel hi₂
    refine ⟨trivial, fun a s₃ hp hw => ?_⟩
    obtain ⟨rfl, ha⟩ := hp
    rcases a with e | _ | v
    · exact trivial
    · exact trivial
    · rcases ha with ha | ⟨e, ha⟩
      · obtain ⟨hv, hkey⟩ := stored_of_get hi₂ ha.symm
        intro s₄ hrel₄ hi₄
        refine hQ v s₄ ((hs.trans hrel.grows).trans hrel₄.grows) hi₄ (hrel₄.grows.stored hv) ?_
          (.inr (Care.Rereads.grows hrel₄.grows hw))
        exact hkey.trans hf.key
      · cases ha
  · intro s₂ hrel₂ hi₂
    have hstored : (s₁.write i (some site) (changes r.next) t).Stored (changes r.next) := by
      rw [State.Stored, history_write ht]
      simp
    exact hQ _ s₂ ((hrel.grows.trans hk.grows).trans hrel₂.grows) hi₂
      (hrel₂.grows.stored hstored) hf.key (.inl rfl)

/-! ### Owner references -/

/-- A property of an invocation that the writes of the owner references of an
observation keep, whether they win or not. -/
structure Carried (c : Care) (site : Site) (P : DraftInvocation → Prop) : Prop where
  same : ∀ {r r'}, r'.state = r.state → r'.lastObservationId = r.lastObservationId → P r → P r'
  reread : ∀ {s : State ι} {v}, c.Rereads s site v → P v

theorem Carried.trivial (site : Site) : Carried (ι := ι) c site fun _ => True :=
  ⟨fun _ _ _ => True.intro, fun _ => True.intro⟩

/-- An invocation that the content of an observation may be returned with. -/
def Content (c : Care) (o : ProviderObservation) (v : DraftInvocation) : Prop :=
  c.recorded = true → o.state = .succeeded → o.SucceededIn v

theorem Carried.content (o : ProviderObservation) : Carried (ι := ι) c (.answer o) (Content c o) where
  same hstate hlast h hc ho := ⟨hstate.trans (h hc ho).1, hlast.trans (h hc ho).2⟩
  reread h := h

/-- What the owner references of an observation are written to, and end with. -/
structure Referred (P : DraftInvocation → Prop) (key : InvocationKey) (v : DraftInvocation)
    (s : State ι) : Prop where
  stored : s.Stored v
  key_eq : v.key = key
  heard : ∃ o, s.Heard key o
  carried : P v

variable {P : DraftInvocation → Prop}

theorem Referred.grows (h : Referred P key v s) (hs : Grows s s') : Referred P key v s' :=
  ⟨hs.stored h.stored, h.key_eq, h.heard.imp fun _ ho => hs.heard _ _ ho, h.carried⟩

/-- A write of owner references leaves the state of the invocation. -/
theorem safe_touch {changes : DraftInvocation → DraftInvocation} (hP : Carried (ι := ι) c site P)
    (h : Referred P key r s) (horigin : (changes r.next).origin = r.origin)
    (hversion : (changes r.next).aggregateVersion = r.aggregateVersion + 1)
    (hstate : (changes r.next).state = r.state) (hsame : SameObservation r (changes r.next))
    (hproblem : SameProblem r (changes r.next)) :
    Safe c i (replace_ site r changes) (fun v s => Referred P key v s) s := by
  obtain ⟨o', ho'⟩ := h.heard
  refine safe_replace h.stored
    ⟨horigin, hversion, .touched o' (h.key_eq ▸ ho') hstate hsame, .inl hproblem⟩
    fun v s' hs _ hv hvk hcase => ⟨hv, hvk.trans h.key_eq, ⟨o', hs.heard _ _ ho'⟩, ?_⟩
  rcases hcase with rfl | hreread
  · exact hP.same hstate hsame.lastObservationId h.carried
  · exact hP.reread hreread

namespace DraftAssistanceService

variable {svc : DraftAssistanceService} {invocation updated : DraftInvocation}
  {observation : ProviderObservation}

theorem checkPrice_quiet : (svc.checkPrice invocation).OnlyAsks Op.Quiet := by
  rw [checkPrice]
  cases invocation.pricing with
  | none => trivial
  | some price =>
    refine Service.OnlyAsks.bind ?_ fun current => ?_
    · rw [pricing]
      split
      · exact ⟨trivial, fun a => by cases a <;> trivial⟩
      · trivial
    · rw [require]
      split <;> trivial

theorem ask_quiet {op : Op} (h : op.Quiet) : (ask op).OnlyAsks Op.Quiet :=
  ⟨h, fun a => by cases a <;> trivial⟩

theorem recordUsage_quiet {reservationId : String} :
    (recordUsage invocation observation reservationId).OnlyAsks Op.Quiet := by
  rw [recordUsage]
  split
  · exact ask_quiet trivial
  · trivial

theorem attachEvidence_quiet {evidenceId : String} :
    (attachEvidence invocation evidenceId).OnlyAsks Op.Quiet := by
  rw [attachEvidence]
  split
  · trivial
  · split
    · exact ask_quiet trivial
    · trivial

theorem safe_updateSettlement (hi : Inv c s) (hP : Carried (ι := ι) c site P) (h : Referred P key invocation s)
    {reservationId : String} :
    Safe c i (svc.updateSettlement site invocation reservationId)
      (fun v s => Referred P key v s) s := by
  rw [updateSettlement]
  split
  · refine safe_quiet_bind hi (ask_quiet trivial) fun status s' hr _ => ?_
    have h' := h.grows hr.grows
    split
    · exact safe_touch hP h' rfl rfl rfl ⟨rfl, rfl, rfl, rfl⟩ ⟨rfl, rfl, rfl⟩
    · exact safe_pure fun s'' hr' _ => h'.grows hr'.grows
  · exact safe_pure fun s' hr _ => h.grows hr.grows

theorem safe_completeBudget (hi : Inv c s) (hP : Carried (ι := ι) c site P) (h : Referred P key invocation s) :
    Safe c i (svc.completeBudget site invocation observation)
      (fun v s => Referred P key v.1 s) s := by
  rw [completeBudget]
  split
  · exact safe_pure fun s' hr _ => h.grows hr.grows
  · next reservationId =>
    refine safe_tryExcept hi ?_ fun e s' hs hi' => ?_
    · refine safe_bind hi (safe_quiet_bind hi checkPrice_quiet fun _ s₁ hr₁ hi₁ => ?_)
      refine safe_quiet_bind hi₁ recordUsage_quiet fun _ s₂ hr₂ hi₂ => ?_
      exact Logic.Safe.imp (draftLogic_keeps ι c)
        (safe_updateSettlement hi₂ hP ((h.grows hr₁.grows).grows hr₂.grows))
        fun v s₃ _ _ hv => safe_pure fun s₄ hr₄ _ => hv.grows hr₄.grows
    · have h' := h.grows hs
      split
      · exact safe_then hi' (safe_touch hP h' rfl rfl rfl ⟨rfl, rfl, rfl, rfl⟩ ⟨rfl, rfl, rfl⟩)
          fun v s₁ _ _ hv => safe_pure fun s₂ hr₂ _ => hv.grows hr₂.grows
      · exact safe_pure fun s₁ hr₁ _ => h'.grows hr₁.grows

theorem completeResourceUse_quiet {pending : Option String} :
    (completeResourceUse invocation observation pending).OnlyAsks Op.Quiet :=
  ⟨trivial, fun a => by cases a <;> trivial⟩

theorem safe_completeEvidence (hi : Inv c s) (hP : Carried (ι := ι) c site P) (h : Referred P key updated s)
    {pending : Option String} :
    Safe c i (completeEvidence site invocation updated observation pending)
      (fun v s => Referred P key v s) s := by
  refine safe_tryExcept hi ?_ fun e s' hs hi' => ?_
  · refine safe_quiet_bind hi (ask_quiet trivial) fun evidenceId s₁ hr₁ hi₁ => ?_
    refine safe_quiet_bind hi₁ attachEvidence_quiet fun _ s₂ hr₂ hi₂ => ?_
    have h' := (h.grows hr₁.grows).grows hr₂.grows
    split
    · exact safe_touch hP h' rfl rfl rfl ⟨rfl, rfl, rfl, rfl⟩ ⟨rfl, rfl, rfl⟩
    · exact safe_pure fun s₃ hr₃ _ => h'.grows hr₃.grows
  · have h' := h.grows hs
    split
    · exact safe_touch hP h' rfl rfl rfl ⟨rfl, rfl, rfl, rfl⟩ ⟨rfl, rfl, rfl⟩
    · exact safe_pure fun s₁ hr₁ _ => h'.grows hr₁.grows

/-- **`_complete_observation_refs`** ends with a stored version of the invocation. -/
theorem safe_completeObservationRefs (hi : Inv c s) (hP : Carried (ι := ι) c site P) (h : Referred P key invocation s) :
    Safe c i (svc.completeObservationRefs site invocation observation)
      (fun v s => Referred P key v s) s := by
  refine safe_then hi (safe_completeBudget hi hP h) fun p s₁ _ hi₁ h₁ => ?_
  obtain ⟨updated, pending⟩ := p
  refine safe_quiet_bind hi₁ completeResourceUse_quiet fun pending s₂ hr₂ hi₂ => ?_
  refine safe_then hi₂ (safe_completeEvidence hi₂ hP (h₁.grows hr₂.grows))
    fun updated s₃ _ hi₃ h₃ => ?_
  split
  · exact safe_touch hP h₃ rfl rfl rfl ⟨rfl, rfl, rfl, rfl⟩ ⟨rfl, rfl, rfl⟩
  · exact safe_pure fun s₄ hr₄ _ => h₃.grows hr₄.grows

/-! ### Observations -/

/-- A call has received the observation `o` of the stored version `value`. -/
structure Received (c : Care) (s : State ι) (value : DraftInvocation) (o : ProviderObservation) :
    Prop where
  stored : s.Stored value
  heard : s.Heard value.key o
  identifier : c.settled = true → o.observationId ≠ ""
  bare : c.recorded = true → o.state ≠ .succeeded → o.Bare
  unsettled : c.settled = true → ¬ value.state.Settled

/-- What an adopted observation has of the one that was received. -/
structure Adopted (c : Care) (received observation : ProviderObservation) : Prop where
  identifier : observation.observationId = received.observationId
  correlation : observation.correlation = received.correlation
  measurement : observation.measurement = received.measurement
  bare : c.recorded = true → observation.state ≠ .succeeded → observation.Bare

/-- Whatever version `_record_observation` goes on with, it has received the
observation of it. -/
theorem adopt_spec {received : ProviderObservation} {current : Option DraftInvocation}
    (h : Received c s invocation received)
    (hcurrent : ∀ v, current = some v → s.Stored v ∧ v.key = invocation.key) :
    Received c s (adopt invocation received current).1 received
      ∧ (adopt invocation received current).1.key = invocation.key
      ∧ Adopted c received (adopt invocation received current).2 := by
  have hself : Adopted c received received := ⟨rfl, rfl, rfl, h.bare⟩
  cases current with
  | none => exact ⟨h, rfl, hself⟩
  | some v =>
    obtain ⟨hv, hkey⟩ := hcurrent v rfl
    simp only [adopt]
    split
    · next hcase =>
      have hunsettled : ¬ v.state.Settled := by
        rw [hcase.2]
        rintro (h | h | h | h) <;> cases h
      refine ⟨⟨hv, hkey ▸ h.heard, h.identifier, h.bare, fun _ => hunsettled⟩, hkey, ?_⟩
      dsimp only
      split
      · exact ⟨rfl, rfl, rfl, fun _ _ => ⟨rfl, rfl, rfl, rfl⟩⟩
      · exact hself
    · exact ⟨h, rfl, hself⟩

theorem projectedState_succeeded (h : observation.state = .succeeded) :
    projectedState invocation observation = .succeeded := by
  simp [projectedState, h, stateMap]

theorem projectedState_phase : (projectedState invocation observation).phase = 2 := by
  rw [projectedState]
  split
  · rfl
  · cases observation.state <;> rfl

theorem terminal_of_projectedState
    (h : projectedState invocation observation = .succeeded
      ∨ projectedState invocation observation = .failed
      ∨ projectedState invocation observation = .cancellationConfirmed) :
    terminal observation.state = true := by
  rw [projectedState] at h
  split at h
  · rcases h with h | h | h <;> cases h
  · cases hs : observation.state <;> rw [hs] at h <;>
      first | rfl | (rcases h with h | h | h <;> cases h)

/-- A response without content. -/
def DraftResponse.Bare (response : DraftResponse) : Prop :=
  response.clarificationQuestion = none ∧ response.title = none ∧ response.description = none
    ∧ response.understanding = none

/-- What holds where a call returns. -/
structure Ended (c : Care) (reply : Reply) (s : State ι) : Prop where
  stored : s.Stored reply.response.invocation
  recorded : c.recorded = true → ∀ o, reply.received = some o →
    (∃ r ∈ s.history reply.response.invocation.key, Records r o)
      ∨ reply.response.invocation.state = .conflictReviewRequired
  content : c.recorded = true → ¬ DraftResponse.Bare reply.response → ∃ o,
    reply.received = some o ∧ reply.response.invocation.state = .succeeded
      ∧ reply.response.invocation.lastObservationId = some o.observationId

theorem Ended.reply (h : s.Stored v) : Ended c (svc.reply v) s :=
  ⟨h, fun _ _ ho => absurd ho (by simp [DraftAssistanceService.reply]),
    fun _ hb => absurd ⟨rfl, rfl, rfl, rfl⟩ hb⟩

theorem safe_reply (h : s.Stored v) : Safe c i (pure (svc.reply v)) (Ended c) s :=
  safe_pure fun _ hr _ => Ended.reply (hr.grows.stored h)

/-- A version that was told the identifier of a received observation records it. -/
theorem records_of_told (hi : Inv c s) (hc : c.recorded = true) (hr : s.Stored r)
    {received : ProviderObservation} (ho : s.Heard r.key received)
    (hid : r.lastObservationId = some received.observationId) : Records r received := by
  obtain ⟨o, ho', hoid, hrec⟩ := hi.told r.key r hr _ hid
  obtain ⟨hcorr, hmeas⟩ := hi.agree hc r.key o received ho' ho hoid
  exact ⟨hid, hrec.correlation.trans hcorr, fun m hm => hrec.measurement m (hmeas.trans hm)⟩

/-- An observation whose identifier a stored version has is recorded by it. -/
theorem records_of_known (hi : Inv c s) (hc : c.recorded = true) {received : ProviderObservation}
    (hknows : s.Knows key received) (ho : s.Heard key received) :
    ∃ r ∈ s.history key, Records r received := by
  obtain ⟨r, hr, hlast⟩ := hknows
  have hkey := hi.key_eq hr
  exact ⟨r, hr, records_of_told hi hc (hi.stored hr) (hkey ▸ ho) hlast⟩

theorem safe_replaceConflict {received : ProviderObservation} {reasonCode : String}
    (hi : Inv c s) (h : Received c s invocation received) :
    Safe c i (svc.replaceConflict invocation received reasonCode) (Ended c) s := by
  refine safe_bind hi (safe_replace h.stored
    ⟨rfl, rfl, .conflicted received h.heard h.unsettled rfl ⟨rfl, rfl, rfl, rfl⟩,
      .inl ⟨rfl, rfl, rfl⟩⟩ fun v s₁ hs₁ _ hv hkey hcase => ?_)
  refine safe_pure fun s₂ hr₂ hi₂ => ⟨hr₂.grows.stored hv, fun hc o ho => ?_,
    fun _ hb => absurd ⟨rfl, rfl, rfl, rfl⟩ hb⟩
  cases ho
  rcases hcase with rfl | hreread
  · exact .inr rfl
  · refine (Care.Rereads.grows hr₂.grows hreread hc).imp_left fun hknows => ?_
    exact records_of_known hi₂ hc hknows (hr₂.grows.heard _ _ (hs₁.heard _ _ (hkey ▸ h.heard)))

theorem safe_observed (hi : Inv c s) {received : ProviderObservation}
    (h : Received c s invocation received) (ha : Adopted c received observation)
    (hopen : truthy invocation.terminalObservationId = false)
    {f : DraftInvocation → Call Reply}
    (hf : ∀ v s', Grows s s' → Inv c s' → s'.Stored v → v.key = invocation.key →
      (c.recorded = true → (∃ r ∈ s'.history v.key, Records r received) ∧ Content c observation v) →
      Safe c i (f v) (Ended c) s') :
    Safe c i (replace_ (.observation observation) invocation (observed invocation observation) >>= f)
      (Ended c) s := by
  refine safe_bind hi (safe_replace h.stored
    ⟨rfl, rfl, .observed received h.heard h.unsettled hopen (fun hc hstate => ?_)
      projectedState_phase (congrArg some ha.identifier) ha.correlation
      (by rw [← ha.measurement]; rfl), .inl ⟨rfl, rfl, rfl⟩⟩ fun v s₁ hs₁ hi₁ hv hkey hcase => ?_)
  · have hterminal := terminal_of_projectedState hstate
    simp only [observed, hterminal, if_true, truthy_some]
    exact ha.identifier ▸ h.identifier hc
  · refine hf v s₁ hs₁ hi₁ hv hkey fun hc => ?_
    rcases hcase with rfl | hreread
    · refine ⟨⟨_, hv, congrArg some ha.identifier, ha.correlation, fun m hm hne => ?_⟩,
        fun _ hstate => ⟨projectedState_succeeded hstate, rfl⟩⟩
      simp only [observed, ha.measurement, hm, Document.orElse, if_neg hne]
    · obtain ⟨⟨r, hr, hlast⟩, hcontent⟩ := hreread hc
      exact ⟨records_of_known hi₁ hc ⟨r, hr, hlast.trans (congrArg some ha.identifier)⟩
        (hs₁.heard _ _ (hkey ▸ h.heard)), fun _ => hcontent⟩

theorem safe_recordAdopted (hi : Inv c s) {received : ProviderObservation}
    (h : Received c s invocation received) (ha : Adopted c received observation) :
    Safe c i (svc.recordAdopted invocation observation received) (Ended c) s := by
  rw [recordAdopted]
  split
  · next hlast =>
    split
    · -- the observation is the stored one: only its owner references are completed
      have hrecords : c.recorded = true → Records invocation received := fun hc =>
        records_of_told hi hc h.stored h.heard (hlast.trans (congrArg some ha.identifier))
      refine safe_then hi (safe_completeObservationRefs hi (Carried.trivial .references)
        ⟨h.stored, rfl, ⟨received, h.heard⟩, True.intro⟩) fun v s₁ hs₁ _ hv => ?_
      refine safe_pure fun s₂ hr₂ _ => ⟨hr₂.grows.stored hv.stored, fun hc o ho => .inl ?_,
        fun _ hb => absurd ⟨rfl, rfl, rfl, rfl⟩ hb⟩
      cases ho
      refine ⟨invocation, ?_, hrecords hc⟩
      have hkey : v.key = invocation.key := hv.key_eq
      dsimp only [reply]
      rw [hkey]
      exact (hs₁.trans hr₂.grows).stored h.stored
    · exact safe_replaceConflict hi h
  · split
    · exact safe_replaceConflict hi h
    · next hopen =>
      refine safe_observed hi h ha (Bool.eq_false_iff.mpr hopen)
        fun v s₁ hs₁ hi₁ hv hkey hrec => ?_
      refine safe_then hi₁ (safe_completeObservationRefs hi₁ (Carried.content observation)
        ⟨hv, rfl, ⟨received, hs₁.heard _ _ (hkey ▸ h.heard)⟩, fun hc => (hrec hc).2 hc⟩)
        fun u s₂ hs₂ _ hu => ?_
      refine safe_pure fun s₃ hr₃ _ => ⟨hr₃.grows.stored hu.stored, fun hc o ho => .inl ?_,
        fun hc hb => ⟨received, rfl, ?_⟩⟩
      · cases ho
        obtain ⟨r, hr, hrecords⟩ := (hrec hc).1
        refine ⟨r, ?_, hrecords⟩
        have hkey : u.key = v.key := hu.key_eq
        dsimp only
        rw [hkey]
        exact ((hs₂.trans hr₃.grows).history _).subset hr
      · have hsucceeded : observation.state = .succeeded := by
          by_contra hne
          obtain ⟨h1, h2, h3, h4⟩ := ha.bare hc hne
          exact hb ⟨h1, h2, h3, h4⟩
        have hcontent := hu.carried hc hsucceeded
        exact ⟨hcontent.1, hcontent.2.trans (congrArg some ha.identifier)⟩

/-- **`_record_observation`.** -/
theorem safe_recordObservation {received : ProviderObservation}
    (h : Received c s invocation received) :
    Safe c i (svc.recordObservation invocation received) (Ended c) s := by
  have hlater : ∀ {s₁}, Relies c i s s₁ → Received c s₁ invocation received := fun hr =>
    ⟨hr.grows.stored h.stored, hr.grows.heard _ _ h.heard, h.identifier, h.bare, h.unsettled⟩
  refine safe_get (fun s₁ hr₁ hi₁ => ?_) fun v s₁ hr₁ hi₁ hv hkey => ?_
  · have hcurrent : ∀ v, none = some v → s₁.Stored v ∧ v.key = invocation.key := fun v hv => by
      cases hv
    obtain ⟨h₁, -, ha⟩ := adopt_spec (hlater hr₁) hcurrent
    exact safe_recordAdopted hi₁ h₁ ha
  · have hcurrent : ∀ v', some v = some v' → s₁.Stored v' ∧ v'.key = invocation.key := by
      rintro v' ⟨⟩
      exact ⟨hv, hkey⟩
    obtain ⟨h₁, -, ha⟩ := adopt_spec (hlater hr₁) hcurrent
    exact safe_recordAdopted hi₁ h₁ ha

/-- A stored version whose owner writes are not complete was told something. -/
theorem heard_of_pending (hi : Inv c s) (hr : s.Stored r) (ho : r.ownerWriteReasonCode ≠ none) :
    ∃ o, s.Heard r.key o := by
  by_contra hno
  exact ho (hi.silent r.key (fun o h => hno ⟨o, h⟩) r hr).2

theorem safe_repairOwnerWrites (hi : Inv c s) (hr : s.Stored invocation)
    (ho : invocation.ownerWriteReasonCode ≠ none) :
    Safe c i (svc.repairOwnerWrites invocation) (fun v s => s.Stored v) s := by
  rw [repairOwnerWrites]
  cases persistedObservation invocation with
  | error e => exact trivial
  | ok observation =>
    exact Logic.Safe.imp (draftLogic_keeps ι c)
      (safe_completeObservationRefs hi (Carried.trivial .references)
        ⟨hr, rfl, heard_of_pending hi hr ho, True.intro⟩) fun v s₁ _ _ hv => hv.stored

/-! ### Dispatch -/

/-- Changes that leave alone what an edge speaks about, the state apart. -/
structure Plain (r r' : DraftInvocation) : Prop where
  origin : r'.origin = r.origin
  version : r'.aggregateVersion = r.aggregateVersion + 1
  same : SameObservation r r'
  owner : r'.ownerWriteReasonCode = r.ownerWriteReasonCode
  problem : SameProblem r r'

theorem safe_failPreDispatch {changes : DraftInvocation → DraftInvocation} {reasonCode : String}
    {error : Fault} (hi : Inv c s) (hr : s.Stored invocation)
    (hready : c.requested = true → invocation.state.Ready)
    (hplain : Plain invocation (changes invocation.next)) :
    Safe c i (failPreDispatch invocation changes reasonCode error) (Ended c) s := by
  obtain ⟨horigin, hversion, ⟨h1, h2, h3, h4⟩, howner, hproblem⟩ := hplain
  exact safe_bind hi (safe_replace hr
    ⟨horigin, hversion, .ended hready rfl ⟨h1, h2, h3, h4⟩ howner, .inl hproblem⟩
    fun _ _ _ _ _ _ _ => safe_raise)

/-- Process `i` has recorded the dispatch of `r`, and may send it. -/
structure Held (c : Care) (i : ι) (r : DraftInvocation) (s : State ι) : Prop where
  stored : s.Stored r
  state : r.state = .dispatchRecorded
  writer : s.WrittenBy i r
  waiting : c.requested = true → Waiting s i r

theorem Held.later (h : Held c i r s) (hr : Relies c i s s') : Held c i r s' :=
  ⟨hr.grows.stored h.stored, h.state, hr.grows.writer i r h.stored h.writer,
    fun hc => hr.waits hc r (h.waiting hc)⟩

/-- What is left of it once it is sent. -/
theorem follows_undispatched (hs : s.WrittenBy i r) (hstate : r.state = .dispatchRecorded)
    (hplain : Plain r r') (hstop : r'.state = .failedPreDispatch ∨ r'.state = .outcomeUnknown) :
    Follows c (s.Heard r.key) (s.WrittenBy i r) site r r' :=
  ⟨hplain.origin, hplain.version, .undispatched hstate hs hstop hplain.same hplain.owner,
    .inl hplain.problem⟩

variable {recorded : DraftInvocation}

theorem safe_failUndispatched {reasonCode : String} (hi : Inv c s) (hr : s.Stored recorded)
    (hstate : recorded.state = .dispatchRecorded) (hw : s.WrittenBy i recorded) :
    Safe c i (failUndispatched recorded reasonCode) (Ended c) s :=
  safe_bind hi (safe_replace hr
    (follows_undispatched hw hstate ⟨rfl, rfl, ⟨rfl, rfl, rfl, rfl⟩, rfl, ⟨rfl, rfl, rfl⟩⟩ (.inl rfl))
    fun _ _ _ _ _ _ _ => safe_raise)

theorem safe_handleDispatchFault {entered : Bool} {e : Fault} (hi : Inv c s)
    (hr : s.Stored recorded) (hstate : recorded.state = .dispatchRecorded)
    (hw : s.WrittenBy i recorded) :
    Safe c i (handleDispatchFault recorded entered e) (Ended c) s := by
  rw [handleDispatchFault]
  split
  · exact safe_failUndispatched hi hr hstate hw
  · exact safe_bind hi (safe_replace hr
      (follows_undispatched hw hstate ⟨rfl, rfl, ⟨rfl, rfl, rfl, rfl⟩, rfl, ⟨rfl, rfl, rfl⟩⟩
        (.inr rfl))
      fun _ _ _ _ _ _ _ => safe_raise)

/-- `transport.dispatch` of what is held. -/
theorem safe_askDispatch {prepared : PreparedProviderRequest} {credential : String}
    {handler : Fault → Call Reply} {k : ProviderObservation → Call Reply} (h : Held c i recorded s)
    (he : ∀ e s', Grows s s' → Inv c s' → Safe c i (handler e) (Ended c) s')
    (hk : ∀ o s', Grows s s' → Inv c s' → Received c s' recorded o → Safe c i (k o) (Ended c) s') :
    Safe c i (askOr (.dispatch recorded prepared credential) handler k) (Ended c) s := by
  intro s₁ hr hi
  have h₁ := h.later hr
  refine ⟨h₁.waiting, fun a s₂ hp hw => ?_⟩
  cases hp
  have hkept := Kept.send (i := i) hi h₁.waiting hw
  rcases a with e | o
  · exact he e _ (hr.grows.trans hkept.grows) hkept.inv
  · refine hk o _ (hr.grows.trans hkept.grows) hkept.inv
      ⟨hkept.grows.stored h₁.stored, List.mem_append_right _ (List.mem_singleton_self _), hw.1,
        fun hc => (hw.2 hc).bare, fun _ => ?_⟩
    rw [h₁.state]
    rintro (h | h | h | h) <;> cases h

theorem safe_dispatchGuarded {prepared : PreparedProviderRequest} {credential : String}
    (h : Held c i recorded s) :
    Safe c i (svc.dispatchGuarded invocation recorded prepared credential) (Ended c) s := by
  have hfault : ∀ {entered e s'}, Grows s s' → Inv c s' →
      Safe c i (handleDispatchFault recorded entered e) (Ended c) s' := fun hs hi =>
    safe_handleDispatchFault hi (hs.stored h.stored) h.state (hs.writer i recorded h.stored h.writer)
  rw [dispatchGuarded]
  split
  · refine safe_askOr trivial (fun e s₁ hr₁ hi₁ => hfault hr₁.grows hi₁) fun _ s₁ hr₁ hi₁ => ?_
    refine safe_askDispatch (h.later hr₁) (fun e s₂ hs₂ hi₂ => ?_) fun o s₂ hs₂ hi₂ ho => ?_
    · have hs := hr₁.grows.trans hs₂
      exact safe_askOr trivial (fun e' s₃ hr₃ hi₃ => hfault (hs.trans hr₃.grows) hi₃)
        fun _ s₃ hr₃ hi₃ => hfault (hs.trans hr₃.grows) hi₃
    · have hs := hr₁.grows.trans hs₂
      refine safe_askOr trivial (fun e' s₃ hr₃ hi₃ => hfault (hs.trans hr₃.grows) hi₃)
        fun _ s₃ hr₃ _ => safe_recordObservation ?_
      exact ⟨hr₃.grows.stored ho.stored, hr₃.grows.heard _ _ ho.heard, ho.identifier, ho.bare,
        ho.unsettled⟩
  · exact safe_askDispatch h (fun e s₁ hs₁ hi₁ => hfault hs₁ hi₁)
      fun o _ _ _ ho => safe_recordObservation ho

theorem safe_dispatchRecorded {prepared : PreparedProviderRequest} (h : Held c i recorded s) :
    Safe c i (svc.dispatchRecorded invocation recorded prepared) (Ended c) s :=
  safe_askOr trivial
    (fun _ _ hr₁ hi₁ => safe_failUndispatched hi₁ (hr₁.grows.stored h.stored) h.state
      (hr₁.grows.writer i recorded h.stored h.writer))
    fun _ _ hr₁ _ => safe_dispatchGuarded (h.later hr₁)

/-- **A won move to `DISPATCH_RECORDED`** is held by the process that made it. -/
theorem held_of_recorded {t : Tables} (hi : Inv c s) (hr : s.Stored r)
    (hready : c.requested = true → r.state.Ready) (hkey : r'.key = r.key)
    (hversion : r'.aggregateVersion = r.aggregateVersion + 1) (hstate : r'.state = .dispatchRecorded)
    (hlast : (s.history r'.key).getLast? = some r)
    (ht : t.versions = s.tables.versions ++ [VersionRow.of r']) (hk : Kept c i s (s.write i site? r' t)) :
    Held c i r' (s.write i site? r' t) := by
  have hstored : (s.write i site? r' t).Stored r' := (mem_history_write ht).mpr (.inr ⟨rfl, rfl⟩)
  have hwriter : (s.write i site? r' t).WrittenBy i r' := Function.update_self ..
  refine ⟨hstored, hstate, hwriter, fun hc => ⟨hstored, hstate, hwriter, ?_, ?_, ?_⟩⟩
  · exact ⟨r, (mem_history_write ht).mpr (.inl (hkey ▸ hr)), hversion, hready hc⟩
  · intro v hv hlt
    have hle := (hk.inv.version_bounds hv).2
    rw [history_write ht] at hle
    have hlen : r.aggregateVersion = (s.history r'.key).length := hi.valid.last_version hlast
    simp only [if_true, List.length_append, List.length_singleton] at hle
    omega
  · rintro ⟨d, hd, hdk⟩
    -- what was sent of this invocation was recorded before, beyond a dispatchable version
    obtain ⟨hdstored, hdstate, -, -⟩ := hi.sent hc d hd
    have hdkey : d.recorded.key = r'.key := hdk
    rw [State.Stored, hdkey] at hdstored
    have hlen : r.aggregateVersion = (s.history r'.key).length := hi.valid.last_version hlast
    have hle := hi.phase_le hdstored (List.mem_of_getLast? hlast)
      (hlen ▸ (hi.version_bounds hdstored).2)
    rw [hdstate, DraftInvocationState.phase_ready.mpr (hready hc)] at hle
    exact absurd hle (by decide)

theorem currentAdmission_quiet {context : RequestContext} {snapshot : BindingSnapshot} :
    (currentAdmission context invocation snapshot).OnlyAsks Op.Quiet := by
  refine Service.OnlyAsks.bind (ask_quiet trivial) fun admitted => ?_
  cases admitted with
  | none => trivial
  | some admission => exact Service.OnlyAsks.bind (ask_quiet trivial) fun _ => trivial

theorem dispatchPrice_quiet : svc.dispatchPrice.OnlyAsks Op.Quiet := by
  rw [dispatchPrice]
  split
  · exact Service.OnlyAsks.bind (ask_quiet trivial) fun _ => trivial
  · trivial

variable {context : RequestContext} {content : String}

theorem safe_recordDispatch {snapshot : BindingSnapshot} {prepared : PreparedProviderRequest}
    {resourceUseId reservationId : String} (hi : Inv c s) (hr : s.Stored invocation)
    (hready : c.requested = true → invocation.state.Ready) :
    Safe c i (svc.recordDispatch context invocation snapshot prepared resourceUseId reservationId)
      (Ended c) s := by
  refine safe_quiet_bind hi currentAdmission_quiet fun admitted s₁ hr₁ hi₁ => ?_
  have hr' := hr₁.grows.stored hr
  cases admitted with
  | none =>
    exact safe_failPreDispatch hi₁ hr' hready ⟨rfl, rfl, ⟨rfl, rfl, rfl, rfl⟩, rfl, ⟨rfl, rfl, rfl⟩⟩
  | some admission =>
    refine safe_quiet_bind hi₁ dispatchPrice_quiet fun price s₂ hr₂ hi₂ => ?_
    have hr'' := hr₂.grows.stored hr'
    refine safe_compareAndSet hr''
      ⟨rfl, rfl, .recorded hready rfl ⟨rfl, rfl, rfl, rfl⟩ rfl, .inl ⟨rfl, rfl, rfl⟩⟩ (fun _ => rfl)
      (fun s₃ hs₃ hi₃ => ?_) fun s₃ t hr₃ hi₃ hlast ht hk => ?_
    · refine safe_get (fun _ _ _ => safe_raise) fun v s₄ hr₄ hi₄ hv _ => safe_reply hv
    · exact safe_dispatchRecorded (held_of_recorded hi₃ (hr₃.grows.stored hr'') hready rfl rfl rfl
        hlast ht hk)

/-- **`_dispatch`** of a version that may be dispatched, or has no binding. -/
theorem safe_dispatch (hr : s.Stored invocation)
    (hready : c.requested = true → invocation.state.Ready ∨ invocation.snapshot = none) :
    Safe c i (svc.dispatch context invocation content) (Ended c) s := by
  rw [dispatch]
  split
  · exact safe_raise
  · next snapshot hsnapshot =>
    have hready' : c.requested = true → invocation.state.Ready := fun hc =>
      (hready hc).resolve_right (by rw [hsnapshot]; exact Option.some_ne_none _)
    have hfail : ∀ {changes reasonCode error s'}, Grows s s' → Inv c s' →
        Plain invocation (changes invocation.next) →
        Safe c i (failPreDispatch invocation changes reasonCode error) (Ended c) s' :=
      fun hs hi hplain => safe_failPreDispatch hi (hs.stored hr) hready' hplain
    have hsame : ∀ {r : DraftInvocation}, SameObservation r r.next := ⟨rfl, rfl, rfl, rfl⟩
    refine safe_askOr trivial
      (fun _ s₁ hr₁ hi₁ => hfail hr₁.grows hi₁ ⟨rfl, rfl, hsame, rfl, ⟨rfl, rfl, rfl⟩⟩)
      fun prepared s₁ hr₁ hi₁ => ?_
    refine safe_askOr trivial
      (fun _ s₂ hr₂ hi₂ => hfail (hr₁.grows.trans hr₂.grows) hi₂
        ⟨rfl, rfl, hsame, rfl, ⟨rfl, rfl, rfl⟩⟩)
      fun resourceUseId s₂ hr₂ hi₂ => ?_
    have hs₂ := hr₁.grows.trans hr₂.grows
    refine safe_askOr trivial
      (fun _ s₃ hr₃ hi₃ => hfail (hs₂.trans hr₃.grows) hi₃
        ⟨rfl, rfl, ⟨rfl, rfl, rfl, rfl⟩, rfl, ⟨rfl, rfl, rfl⟩⟩)
      fun reservationId s₃ hr₃ hi₃ => ?_
    exact safe_recordDispatch hi₃ ((hs₂.trans hr₃.grows).stored hr) hready'

end DraftAssistanceService

end Draft

end AgentPlatform
