/-
AgentPlatform/Draft/Calls.lean

The public operations of the draft assistance service meet the guards of their
operations, whatever the other processes do. **Main results:** `safe_call`, and
from it `holds_run`: the invariant holds in every state that a run reaches, and
`Ended` where a call returns.
-/
import AgentPlatform.Draft.Safety

namespace AgentPlatform

open Py

namespace Draft

variable {ι : Type} {c : Care} {i : ι} {s s' : State ι}

namespace DraftAssistanceService

variable {svc : DraftAssistanceService} {invocation value : DraftInvocation}
  {context : RequestContext} {content : String}

/-! ### Authorization -/

theorem safe_failBinding {decision : DraftAuthorization} {reasonCode : String} (hi : Inv c s)
    (hr : s.Stored invocation) (hstate : invocation.state = .authorizationPending) :
    Safe c i (failBinding invocation decision reasonCode) (Ended c) s :=
  safe_bind hi (safe_replace hr
    ⟨rfl, rfl, .authorized hstate (.inr (.inr (.inl rfl))) ⟨rfl, rfl, rfl, rfl⟩ rfl,
      .inl ⟨rfl, rfl, rfl⟩⟩
    fun _ _ _ _ _ _ _ => safe_raise)

/-- **`_authorize_and_dispatch`.** -/
theorem safe_authorizeAndDispatch (hi : Inv c s) (hr : s.Stored invocation)
    (hstate : invocation.state = .authorizationPending) :
    Safe c i (svc.authorizeAndDispatch context invocation content) (Ended c) s := by
  refine safe_quiet_bind hi (ask_quiet trivial) fun decision s₁ hr₁ hi₁ => ?_
  have hr' := hr₁.grows.stored hr
  cases decision.state with
  | pending =>
    exact safe_bind hi₁ (safe_replace hr'
      ⟨rfl, rfl, .authorized hstate (.inl rfl) ⟨rfl, rfl, rfl, rfl⟩ rfl, .inl ⟨rfl, rfl, rfl⟩⟩
      fun v s₂ _ _ hv _ _ => safe_reply hv)
  | denied =>
    exact safe_bind hi₁ (safe_replace hr'
      ⟨rfl, rfl, .authorized hstate (.inr (.inl rfl)) ⟨rfl, rfl, rfl, rfl⟩ rfl,
        .inl ⟨rfl, rfl, rfl⟩⟩
      fun v s₂ _ _ hv _ _ => safe_reply hv)
  | allowed =>
    dsimp only
    split
    · exact safe_raise
    · refine safe_askOr trivial
        (fun _ s₂ hr₂ hi₂ => safe_failBinding hi₂ (hr₂.grows.stored hr') hstate)
        fun resolved s₂ hr₂ hi₂ => ?_
      have hr'' := hr₂.grows.stored hr'
      split
      · refine safe_bind hi₂ (safe_replace hr''
          ⟨rfl, rfl, .authorized hstate (.inr (.inr (.inr rfl))) ⟨rfl, rfl, rfl, rfl⟩ rfl,
            .inl ⟨rfl, rfl, rfl⟩⟩ fun v s₃ _ _ hv _ hcase => safe_dispatch hv fun hc => ?_)
        rcases hcase with rfl | hreread
        · exact .inl (.inl rfl)
        · exact hreread hc
      · exact safe_failBinding hi₂ hr'' hstate

/-- **`_resume`.** -/
theorem safe_resume (hi : Inv c s) (hr : s.Stored invocation) :
    Safe c i (svc.resume context invocation content) (Ended c) s := by
  rw [resume]
  split
  · next hstate => exact safe_authorizeAndDispatch hi hr hstate
  · split
    · next hready => exact safe_dispatch hr fun _ => .inl hready
    · split
      · next howner =>
        exact safe_bind hi (Logic.Safe.imp (draftLogic_keeps ι c)
          (safe_repairOwnerWrites hi hr howner) fun v _ _ _ hv => safe_reply hv)
      · exact safe_reply hr

/-! ### The first call -/

theorem require_quiet {p : Bool} {reasonCode : String} :
    (require p reasonCode).OnlyAsks Op.Quiet := by
  rw [require]
  split <;> trivial

theorem ofExcept_quiet {α : Type} {x : Except Fault α} : (ofExcept x).OnlyAsks Op.Quiet := by
  cases x <;> trivial

theorem validateContent_quiet {key : String} :
    (svc.validateContent key content).OnlyAsks Op.Quiet :=
  require_quiet.bind fun _ => require_quiet

theorem verifyReplay_quiet : (verifyReplay context invocation content).OnlyAsks Op.Quiet := by
  refine Service.OnlyAsks.bind (ask_quiet trivial) fun now => require_quiet.bind fun _ => ?_
  refine Service.OnlyAsks.bind (ask_quiet trivial) fun pepper => ?_
  cases pepper with
  | none => trivial
  | some pepper => exact ofExcept_quiet.bind fun _ => require_quiet

theorem admitReplay_quiet : (admitReplay context invocation content).OnlyAsks Op.Quiet :=
  Service.OnlyAsks.bind (ask_quiet trivial) fun _ =>
    require_quiet.bind fun _ => verifyReplay_quiet

theorem safe_replay (hi : Inv c s) (hr : s.Stored invocation) :
    Safe c i (svc.replay context invocation content) (Ended c) s :=
  safe_quiet_bind hi admitReplay_quiet fun _ _ hr₁ hi₁ => safe_resume hi₁ (hr₁.grows.stored hr)

/-- The parent that a request names is a stored turn of its context, or the
request names none. -/
structure Parented (s : State ι) (scope : DraftScope) (request : BeginRequest) : Prop where
  parent : (request.parentTurnId = none ∧ request.parentContextId = none
      ∧ request.expectedParentVersion = 0)
    ∨ ∃ v, s.Stored v ∧ v.scope = scope ∧ request.parentContextId = some v.contextId
      ∧ request.parentTurnId = some v.turnId ∧ request.expectedParentVersion = v.turnVersion

theorem Parented.grows {scope : DraftScope} {request : BeginRequest}
    (h : Parented s scope request) (hs : Grows s s') : Parented s' scope request :=
  ⟨h.parent.imp_right fun ⟨v, hv, hrest⟩ => ⟨v, hs.stored hv, hrest⟩⟩

/-- A check that holds afterwards, whatever the others do. -/
theorem safe_requireEnd {p : Bool} {reasonCode : String} {Q : Unit → State ι → Prop}
    (h : p = true → ∀ s', Relies c i s s' → Inv c s' → Q () s') :
    Safe c i (require p reasonCode) Q s := by
  cases p with
  | false => exact trivial
  | true => exact h rfl

theorem safe_checkParent {request : BeginRequest} :
    Safe c i (checkParent context request) (fun _ s => Parented s context.draftScope request) s := by
  rw [checkParent]
  split
  · next hturn =>
    refine safe_requireEnd fun hcond s₁ _ _ => ?_
    simp only [Bool.and_eq_true, decide_eq_true_eq] at hcond
    exact ⟨.inl ⟨hturn, hcond.1.1, hcond.2⟩⟩
  · next parentTurnId hturn =>
    split
    · next parentContextId predecessor hcontext _ =>
      refine safe_getContextHead (fun _ _ _ => safe_raise)
        fun v s₁ hr₁ hi₁ hv hscope hcontextId => ?_
      refine safe_requireEnd fun hcond s₂ hr₂ _ => ?_
      simp only [Bool.and_eq_true, decide_eq_true_eq] at hcond
      obtain ⟨⟨⟨-, hparent⟩, hversion⟩, -⟩ := hcond
      exact ⟨.inr ⟨v, hr₂.grows.stored hv, hscope, hcontextId ▸ hcontext, hparent ▸ hturn,
        hversion.symm⟩⟩
    · exact safe_raise

/-- A context has a name, and the one that was given if it has one. -/
theorem safe_contextFor {parentContextId : Option String} :
    Safe c i (contextFor parentContextId) (fun contextId _ => (c.named = true → contextId ≠ "")
      ∧ ∀ given, parentContextId = some given → given ≠ "" → contextId = given) s := by
  have hidentity : ∀ {Q : String → State ι → Prop},
      (∀ contextId s', (c.named = true → contextId ≠ "") → Q contextId s') →
      Safe c i (ask (.identity "draft-context")) Q s := by
    intro Q hQ s₁ hr hi
    refine ⟨trivial, fun a s₂ hp hw => ?_⟩
    rcases a with e | contextId
    · exact trivial
    · exact fun s₃ _ _ => hQ contextId s₃ hw
  cases parentContextId with
  | none => exact hidentity fun contextId _ h => ⟨h, fun given hg => by cases hg⟩
  | some given =>
    dsimp only [contextFor]
    split
    · next hne =>
      refine safe_pure fun _ _ _ => ⟨fun _ => hne, ?_⟩
      rintro given' ⟨⟩ -
      rfl
    · next hempty =>
      refine hidentity fun contextId _ h => ⟨h, ?_⟩
      rintro given' ⟨⟩ hne
      exact absurd hne hempty

/-- `claim` of a fresh candidate, and how the call goes on. -/
theorem safe_claim {candidate : DraftInvocation} {f : DraftInvocation × Bool → Call Reply}
    (hfresh : candidate.Fresh)
    (hcontinues : ∀ s', Relies c i s s' → Inv c s' → c.named = true → Continues s' candidate)
    (h : ∀ answer won s', Inv c s' → s'.Stored answer →
      (won = true → answer.state = .authorizationPending) → Safe c i (f (answer, won)) (Ended c) s') :
    Safe c i (ask (.claim candidate) >>= f) (Ended c) s := by
  intro s₁ hr hi
  refine ⟨⟨hfresh, hcontinues s₁ hr hi⟩, fun a s₂ hp _ => ?_⟩
  rcases a with e | ⟨answer, won⟩
  · exact trivial
  rcases hp with ⟨answer', won', t, hclaim, rfl, ha⟩ | ⟨⟨e, ha⟩, -⟩
  · rcases ha with ha | ⟨e, ha⟩
    · cases ha
      have hk := Kept.claim (i := i) hi hfresh (hcontinues s₁ hr hi) hclaim
      refine h answer won _ hk.inv ?_ fun hwon => ?_
      · rcases Tables.claim_spec hi.valid hclaim with ⟨rfl, -, id, -, hlast⟩ | ⟨rfl, rfl, -, -, ht, -, -, -, -, -⟩
        · exact hi.stored (List.mem_of_getLast? hlast)
        · exact (mem_history_write ht).mpr (.inr ⟨rfl, rfl⟩)
      · rcases Tables.claim_spec hi.valid hclaim with ⟨rfl, -⟩ | ⟨-, rfl, -⟩
        · cases hwon
        · exact hfresh.state
    · cases ha
  · cases ha

theorem candidate_fresh (svc : DraftAssistanceService) {context : RequestContext}
    {request : BeginRequest} (contextId turnId invocationId snapshotId : String) {value : String}
    (pepperReference pepperVersion : String) {pepper : List UInt8} (now notAfter : Datetime)
    (hvalue : commitment context request.key request.content request.parentTurnId
      request.expectedParentVersion pepper = .ok value) :
    (svc.candidate context request contextId turnId invocationId snapshotId value
      pepperReference pepperVersion now notAfter).Fresh :=
  ⟨rfl, rfl, rfl, rfl, rfl, rfl, rfl, ⟨context, request, pepper, rfl, rfl, rfl, rfl, rfl, hvalue⟩, rfl⟩

/-- The turn of a candidate whose parent was checked. -/
theorem continues_candidate {request : BeginRequest} {contextId turnId invocationId snapshotId value
    pepperReference pepperVersion : String} {now notAfter : Datetime} (hi : Inv c s)
    (hc : c.named = true) (hparent : Parented s context.draftScope request) (hname : contextId ≠ "")
    (hgiven : ∀ given, request.parentContextId = some given → given ≠ "" → contextId = given) :
    Continues s (svc.candidate context request contextId turnId invocationId snapshotId value
      pepperReference pepperVersion now notAfter) := by
  refine ⟨hname, rfl, ?_⟩
  rcases hparent.parent with ⟨hnone, -, hzero⟩ | ⟨v, hv, hscope, hcontext, hturn, hversion⟩
  · exact .inl ⟨hnone, show request.expectedParentVersion + 1 = 1 by rw [hzero]; rfl⟩
  · have hsame := hgiven v.contextId hcontext (hi.turns hc v.key v hv).contextId
    exact .inr ⟨v, hv, hscope, hsame.symm, hturn, congrArg (· + 1) hversion⟩

theorem safe_beginFirst {request : BeginRequest} (hi : Inv c s) :
    Safe c i (svc.beginFirst context request) (Ended c) s := by
  refine safe_then hi safe_checkParent fun _ s₁ _ hi₁ hparent => ?_
  refine safe_quiet_bind hi₁ (ask_quiet trivial) fun pepper s₂ hr₂ hi₂ => ?_
  obtain ⟨pepperReference, pepperVersion, pepper⟩ := pepper
  refine safe_quiet_bind hi₂ (ask_quiet trivial) fun now s₃ hr₃ hi₃ => ?_
  refine safe_then hi₃ safe_contextFor fun contextId s₄ hs₄ hi₄ hcontext => ?_
  refine safe_quiet_bind hi₄ (ask_quiet trivial) fun turnId s₅ hr₅ hi₅ => ?_
  refine safe_quiet_bind hi₅ (ask_quiet trivial) fun invocationId s₆ hr₆ hi₆ => ?_
  refine safe_quiet_bind hi₆ (ask_quiet trivial) fun snapshotId s₇ hr₇ hi₇ => ?_
  have hparent₇ : Parented s₇ context.draftScope request :=
    (((((hparent.grows hr₂.grows).grows hr₃.grows).grows hs₄).grows hr₅.grows).grows
      hr₆.grows).grows hr₇.grows
  cases hvalue : commitment context request.key request.content request.parentTurnId
    request.expectedParentVersion pepper with
  | error e => exact safe_raise
  | ok value =>
    cases Datetime.addMicros now svc.replayWindow with
    | none => exact safe_raise
    | some notAfter =>
      refine safe_claim (candidate_fresh svc contextId turnId invocationId snapshotId
        pepperReference pepperVersion now notAfter hvalue)
        (fun s₈ hr₈ hi₈ hc => ?_) fun answer won s₉ hi₉ hanswer hstate => ?_
      · exact continues_candidate hi₈ hc (hparent₇.grows hr₈.grows) (hcontext.1 hc) hcontext.2
      · cases won with
        | true => exact safe_authorizeAndDispatch hi₉ hanswer (hstate rfl)
        | false =>
          exact safe_replay hi₉ hanswer

/-! ### Public operations -/

/-- **`begin`.** -/
theorem safe_begin {request : BeginRequest} (hi : Inv c s) :
    Safe c i (svc.begin_ context request) (Ended c) s := by
  refine safe_quiet_bind hi validateContent_quiet fun _ s₁ _ hi₁ => safe_require fun _ => ?_
  refine safe_getByKey (fun s₂ _ hi₂ => safe_beginFirst hi₂) fun existing s₂ _ hi₂ hexisting => ?_
  exact safe_replay hi₂ hexisting

/-- `read`, and how the call goes on with the stored version. -/
theorem safe_read {invocationId : String} {f : DraftInvocation → Call Reply} (hi : Inv c s)
    (h : ∀ v s', Inv c s' → s'.Stored v → Safe c i (f v) (Ended c) s') :
    Safe c i (read context invocationId >>= f) (Ended c) s := by
  refine safe_bind hi (safe_get (fun _ _ _ => safe_raise) fun v s₁ _ hi₁ hv _ => ?_)
  refine safe_quiet_bind hi₁ (ask_quiet trivial) fun readable s₂ hr₂ hi₂ => ?_
  exact safe_require fun _ => safe_pure fun s₃ hr₃ hi₃ =>
    h v s₃ hi₃ (hr₃.grows.stored (hr₂.grows.stored hv))

/-- What an answer of the provider about a stored version says. -/
theorem received_of_answer (i : ι) {o : ProviderObservation} (hi : Inv c s) (hv : s.Stored value)
    (htruthy : truthy value.providerCorrelation = true) (hunsettled : c.settled = true →
      ¬ value.state.Settled) (ho : c.Receives s value.key (.ok o)) :
    Inv c (s.hear value.key (.ok o)) ∧ Received c (s.hear value.key (.ok o)) value o :=
  ⟨(Kept.hear (i := i) hi hv htruthy ho).inv,
    (Grows.hear s value.key (.ok o)).stored hv,
    List.mem_append_right _ (List.mem_singleton_self _), ho.1, fun hc => (ho.2 hc).bare, hunsettled⟩

/-- **`observe`.** -/
theorem safe_observe {invocationId : String} (hi : Inv c s) :
    Safe c i (svc.observe context invocationId) (Ended c) s := by
  refine safe_read hi fun value s₁ hi₁ hv => ?_
  split
  · next howner =>
    exact safe_bind hi₁ (Logic.Safe.imp (draftLogic_keeps ι c)
      (safe_repairOwnerWrites hi₁ hv howner) fun v _ _ _ hv => safe_reply hv)
  · split
    · next correlation hcorrelation =>
      split
      · exact safe_reply hv
      · next hask =>
        have htruthy : truthy value.providerCorrelation = true := by
          rw [hcorrelation, truthy_some]
          exact fun h => hask (.inr h)
        intro s₂ hr₂ hi₂
        have hv₂ := hr₂.grows.stored hv
        refine ⟨⟨hv₂, htruthy⟩, fun a s₃ hp hw => ?_⟩
        cases hp
        rcases a with e | o
        · exact trivial
        · exact safe_recordObservation (received_of_answer i hi₂ hv₂ htruthy hw.1 hw.2).2
    · exact safe_reply hv

/-- **`cancel`.** -/
theorem safe_cancel {invocationId : String} (hi : Inv c s) :
    Safe c i (svc.cancel context invocationId) (Ended c) s := by
  refine safe_read hi fun value s₁ hi₁ hv => ?_
  refine safe_quiet_bind hi₁ (ask_quiet trivial) fun allowed s₂ hr₂ hi₂ => safe_require fun _ => ?_
  have hv₂ := hr₂.grows.stored hv
  split
  · next hstate =>
    have hstart : value.state = .authorizationPending ∨ value.state.Ready := by
      simp only [List.mem_cons, List.not_mem_nil, or_false] at hstate
      rcases hstate with h | h | h
      · exact .inl h
      · exact .inr (.inr h)
      · exact .inr (.inl h)
    exact safe_bind hi₂ (safe_replace hv₂
      ⟨rfl, rfl, .withdrawn hstart rfl ⟨rfl, rfl, rfl, rfl⟩ rfl, .inl ⟨rfl, rfl, rfl⟩⟩
      fun v _ _ _ hv _ _ => safe_reply hv)
  · split
    · next hstate =>
      simp only [List.mem_cons, List.not_mem_nil, or_false] at hstate
      refine safe_bind hi₂ (safe_replace hv₂
        ⟨rfl, rfl, .cancelled hstate rfl ⟨rfl, rfl, rfl, rfl⟩ rfl, .inl ⟨rfl, rfl, rfl⟩⟩
        fun requested s₃ _ hi₃ hrequested _ _ => ?_)
      split
      · next correlation hcorrelation =>
        split
        · exact safe_reply hrequested
        · next hask =>
          have htruthy : truthy requested.providerCorrelation = true := by
            rw [hcorrelation, truthy_some]
            exact hask
          intro s₄ hr₄ hi₄
          have hv₄ := hr₄.grows.stored hrequested
          refine ⟨⟨hv₄, htruthy⟩, fun a s₅ hp hw => ?_⟩
          cases hp
          rcases a with e | o
          · exact trivial
          · exact safe_recordObservation (received_of_answer i hi₄ hv₄ htruthy hw.1 hw.2).2
      · exact safe_reply hrequested
    · exact safe_raise

/-- **`reject`.** -/
theorem safe_reject {invocationId : String} (hi : Inv c s) :
    Safe c i (svc.reject context invocationId) (Ended c) s := by
  refine safe_read hi fun value s₁ hi₁ hv => safe_require fun hstate => ?_
  have hstart : value.state = .succeeded ∨ value.state = .failed ∨ value.state = .outcomeUnknown := by
    simpa using hstate
  exact safe_bind hi₁ (safe_replace hv
    ⟨rfl, rfl, .rejected hstart rfl rfl ⟨rfl, rfl, rfl, rfl⟩ rfl, .inl ⟨rfl, rfl, rfl⟩⟩
    fun v _ _ _ hv _ _ => safe_reply hv)

/-- **`link_problem`.** -/
theorem safe_linkProblem {invocationId problemId problemRevisionId problemDigest : String}
    (hproblem : c.settled = true → problemId ≠ "") (hi : Inv c s) :
    Safe c i (svc.linkProblem context invocationId problemId problemRevisionId problemDigest)
      (Ended c) s := by
  refine safe_read hi fun value s₁ hi₁ hv => ?_
  split
  · exact safe_require fun _ => safe_reply hv
  · next hunlinked =>
    refine safe_require fun hstate => ?_
    have hsucceeded : value.state = .succeeded := of_decide_eq_true hstate
    have hfalse := Bool.eq_false_iff.mpr hunlinked
    exact safe_bind hi₁ (safe_replace hv
      ⟨rfl, rfl, .linked hsucceeded hfalse hsucceeded ⟨rfl, rfl, rfl, rfl⟩ rfl,
        .inr ⟨hsucceeded, hsucceeded, hfalse, fun hc => truthy_some.mpr (hproblem hc)⟩⟩
      fun v _ _ _ hv _ _ => safe_reply hv)

end DraftAssistanceService

/-! ### Runs -/

/-- The calls of the service. -/
inductive IsCall (c : Care) : Call Reply → Prop
  | begin_ (svc : DraftAssistanceService) (context : RequestContext)
      (request : DraftAssistanceService.BeginRequest) : IsCall c (svc.begin_ context request)
  | observe (svc : DraftAssistanceService) (context : RequestContext) (invocationId : String) :
      IsCall c (svc.observe context invocationId)
  | cancel (svc : DraftAssistanceService) (context : RequestContext) (invocationId : String) :
      IsCall c (svc.cancel context invocationId)
  | reject (svc : DraftAssistanceService) (context : RequestContext) (invocationId : String) :
      IsCall c (svc.reject context invocationId)
  | linkProblem (svc : DraftAssistanceService) (context : RequestContext)
      (invocationId problemId problemRevisionId problemDigest : String)
      (h : c.settled = true → problemId ≠ "") :
      IsCall c (svc.linkProblem context invocationId problemId problemRevisionId problemDigest)

/-- **Every call meets the guards** of its operations. -/
theorem safe_call {x : Call Reply} (hx : IsCall c x) (hi : Inv c s) :
    Safe c i x (DraftAssistanceService.Ended c) s := by
  cases hx with
  | begin_ => exact DraftAssistanceService.safe_begin hi
  | observe => exact DraftAssistanceService.safe_observe hi
  | cancel => exact DraftAssistanceService.safe_cancel hi
  | reject => exact DraftAssistanceService.safe_reject hi
  | linkProblem _ _ _ _ _ _ h => exact DraftAssistanceService.safe_linkProblem h hi

variable [DecidableEq ι]

/-- The processes, their calls and the state they share. -/
abbrev DraftWorld (ι : Type) := Service.World ι (State ι) Answer Fault Reply

/-- No call has been made yet. -/
def start (ι : Type) : DraftWorld ι := ⟨{}, fun _ => none, []⟩

/-- A run of the service under the conditions of `c`. -/
abbrev Run (c : Care) (w w' : DraftWorld ι) : Prop :=
  Relation.ReflTransGen (Service.Step (system ι c) (IsCall c)) w w'

/-- **Along every run** the invariant holds, and calls end as they should. -/
theorem holds_run {w : DraftWorld ι} (h : Run c (start ι) w) :
    (draftLogic ι c).Holds (fun _ => DraftAssistanceService.Ended c) w :=
  (Logic.holds_of_quiet (fun _ => rfl) (inv_initial c)).run
    (fun _ _ _ hx hi => safe_call hx hi) h

end Draft

end AgentPlatform
