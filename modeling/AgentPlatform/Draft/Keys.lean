/-
AgentPlatform/Draft/Keys.lean

What a second call of `begin` with a key that is taken may do.

The commitment of an invocation is over all that a request says. The check of
a repeated call, however, takes the content from the call, and the parent turn
and its version from the stored invocation. So a call with the same content is
answered whatever parent it names. **Main result:** `one_request_iff`, a key
stands for one request exactly where the second call does not differ from the
first one in its parent alone.
-/
import AgentPlatform.Draft.Dispatch
import AgentPlatform.Py.Transaction

namespace AgentPlatform

open Py

namespace Draft

/-! ### The encoding -/

theorem UInt8.ofNat_inj {m n : Nat} (h : UInt8.ofNat m = UInt8.ofNat n) : m % 256 = n % 256 := by
  have := congrArg UInt8.toNat h
  simpa [UInt8.toNat_ofNat] using this

/-- A length is read back from its four bytes. -/
theorem packLength_injective {m n : Nat} {bytes : List UInt8} (hm : packLength m = .ok bytes)
    (hn : packLength n = .ok bytes) : m = n := by
  simp only [packLength] at hm hn
  split at hm
  · split at hn
    · cases hm
      have h := Except.ok.inj hn
      simp only [List.cons.injEq, and_true] at h
      obtain ⟨h3, h2, h1, h0⟩ := h
      have := UInt8.ofNat_inj h3
      have := UInt8.ofNat_inj h2
      have := UInt8.ofNat_inj h1
      have := UInt8.ofNat_inj h0
      omega
    · cases hn
  · cases hm

theorem packLength_length {n : Nat} {bytes : List UInt8} (h : packLength n = .ok bytes) :
    bytes.length = 4 := by
  simp only [packLength] at h
  split at h
  · cases h
    rfl
  · cases h

/-- A field ends where its length says. -/
theorem field_append_injective {value value' : String} {bytes bytes' rest rest' : List UInt8}
    (h : field value = .ok bytes) (h' : field value' = .ok bytes')
    (heq : bytes ++ rest = bytes' ++ rest') : value = value' ∧ rest = rest' := by
  obtain ⟨length, hlength, h⟩ := bind_eq_ok.mp h
  obtain ⟨length', hlength', h'⟩ := bind_eq_ok.mp h'
  cases h
  cases h'
  rw [List.append_assoc, List.append_assoc] at heq
  obtain ⟨hl, hr⟩ := List.append_inj heq
    ((packLength_length hlength).trans (packLength_length hlength').symm)
  subst hl
  obtain ⟨hv, hrest⟩ := List.append_inj hr (packLength_injective hlength hlength')
  refine ⟨?_, hrest⟩
  have := congrArg decodeUtf8 hv
  rw [decodeUtf8_utf8, decodeUtf8_utf8] at this
  exact Option.some.inj this

/-- **The encoding of as many fields is injective.** -/
theorem joinFields_injective {values values' : List String} {bytes : List UInt8}
    (h : joinFields values = .ok bytes) (h' : joinFields values' = .ok bytes)
    (hlength : values.length = values'.length) : values = values' := by
  induction values generalizing values' bytes with
  | nil => exact (List.length_eq_zero_iff.mp hlength.symm).symm
  | cons value values ih =>
    cases values' with
    | nil => cases hlength
    | cons value' values' =>
      obtain ⟨first, hfirst, h⟩ := bind_eq_ok.mp h
      obtain ⟨rest, hrest, h⟩ := bind_eq_ok.mp h
      obtain ⟨first', hfirst', h'⟩ := bind_eq_ok.mp h'
      obtain ⟨rest', hrest', h'⟩ := bind_eq_ok.mp h'
      have heq : first ++ rest = first' ++ rest' := by
        rw [Except.ok.inj h, Except.ok.inj h']
      obtain ⟨hvalue, hrests⟩ := field_append_injective hfirst hfirst' heq
      subst hrests
      rw [hvalue, ih hrest hrest' (Nat.succ.inj hlength)]

/-- Equal messages of two requests that differ at most in their content are
about one content. -/
theorem content_eq_of_canonical {context : RequestContext} {key content content' : String}
    {parentTurnId : Option String} {version : Int} {message : List UInt8}
    (h : canonical context key content parentTurnId version = .ok message)
    (h' : canonical context key content' parentTurnId version = .ok message) :
    content = content' := by
  have heq := joinFields_injective h h' rfl
  simpa using heq

namespace DraftAssistanceService

/-! ### Two calls of one key -/

/-- The requests say the same. -/
structure SameRequest (first second : BeginRequest) : Prop where
  content : second.content = first.content
  parentTurnId : second.parentTurnId = first.parentTurnId
  expectedParentVersion : second.expectedParentVersion = first.expectedParentVersion

/-- What a second call may be answered, where its key is taken by `existing`
before it claims it, and the pepper of `existing` is resolved. -/
def Possible (pepper : List UInt8) (existing : DraftInvocation) : (op : Op) → Answer op → Prop
  | .getByKey .., a => (∃ e, a = .error e) ∨ a = .ok none ∨ a = .ok (some existing)
  | .claim _, a => (∃ e, a = .error e) ∨ a = .ok (existing, false)
  | .resolvePepper reference version, a =>
    reference = existing.pepperReference → version = existing.pepperVersion → a = .ok (some pepper)
  | _, _ => True

/-- The operation leaves every state as it is in which the key of `existing` is
taken. -/
def Leaves (existing : DraftInvocation) (op : Op) (a : Answer op) : Prop :=
  ∀ (ι : Type) (i : ι) (s s' : State ι),
    (s.tables.claimed existing.scope existing.initiatingPrincipalId
      existing.scopedIdempotencyKey).isSome →
    Performs i op s a s' → s' = s

/-- The key of `existing` stands for one request: the second request says the
same as the first one, or its call raises and changes nothing. -/
def OneRequest (svc : DraftAssistanceService) (context : RequestContext)
    (first second : BeginRequest) (pepper : List UInt8) (existing : DraftInvocation) : Prop :=
  SameRequest first second
    ∨ (svc.begin_ context second).Refuses (Possible pepper existing) (Leaves existing)

/-- The call passes the checks that come before any operation. -/
def Accepts (svc : DraftAssistanceService) (context : RequestContext) (request : BeginRequest) :
    Prop :=
  (request.key ≠ "" ∧ request.key.length ≤ 128 ∧ strip request.key = request.key)
    ∧ (strip request.content ≠ "" ∧ (utf8 request.content).length ≤ svc.profile.maximumInputBytes)
    ∧ context.draftScope = svc.profile.scope

/-- No call goes on from the version: it is to be dispatched and has no binding,
or it has owner writes left and its observation cannot be read back. -/
def Stuck (r : DraftInvocation) : Prop :=
  (r.state.Ready ∧ r.snapshot = none)
    ∨ (r.state ≠ .authorizationPending ∧ ¬ r.state.Ready ∧ r.ownerWriteReasonCode ≠ none
      ∧ ∀ o, persistedObservation r ≠ .ok o)

variable {svc : DraftAssistanceService} {context : RequestContext} {first second : BeginRequest}
  {pepper : List UInt8} {existing : DraftInvocation}

/-! ### Refusals -/

theorem leads_ask {op : Op} {possible keeps : (op : Op) → Answer op → Prop} {Q : Value op → Prop}
    (h : ∀ a, possible op a → keeps op a) (hq : ∀ v, possible op (.ok v) → Q v) :
    (ask op).Leads possible keeps Q := by
  intro a ha
  refine ⟨h a ha, ?_⟩
  cases a with
  | error e => exact trivial
  | ok v => exact hq v ha

theorem leads_require {possible keeps : (op : Op) → Answer op → Prop} {p : Bool}
    {reasonCode : String} {Q : Unit → Prop} (h : p = true → Q ()) :
    (require p reasonCode).Leads possible keeps Q := by
  cases p with
  | false => exact trivial
  | true => exact h rfl

theorem leads_ofExcept {α : Type} {possible keeps : (op : Op) → Answer op → Prop}
    {x : Except Fault α} {Q : α → Prop} (h : ∀ v, x = .ok v → Q v) :
    (ofExcept x).Leads possible keeps Q := by
  cases x with
  | error e => exact trivial
  | ok v => exact h v rfl

theorem leaves_of_quiet {op : Op} {a : Answer op} (h : op.Quiet) : Leaves existing op a :=
  fun _ _ _ _ _ hp => h.performs hp

/-- A claim of a key that is taken changes nothing. -/
theorem leaves_claim {c : DraftInvocation} (hscope : c.scope = existing.scope)
    (hprincipal : c.initiatingPrincipalId = existing.initiatingPrincipalId)
    (hkey : c.scopedIdempotencyKey = existing.scopedIdempotencyKey) {a : Answer (.claim c)} :
    Leaves existing (.claim c) a := by
  intro ι i s s' htaken hp
  rcases hp with ⟨answer, won, t, h, rfl, -⟩ | ⟨-, hs⟩
  · obtain ⟨invocationId, hc⟩ := Option.isSome_iff_exists.mp htaken
    simp only [Tables.claim, hscope, hprincipal, hkey, hc] at h
    split at h
    · cases h
    · split at h
      · cases h
      · cases h
      · cases h
        rfl
  · exact hs

/-- What the check of a repeated call has found where it goes on. -/
structure Verified (context : RequestContext) (content : String) (pepper : List UInt8)
    (existing : DraftInvocation) : Prop where
  open_ : ∃ now, now < existing.replayNotAfter
  commitment : commitment context existing.scopedIdempotencyKey content existing.parentTurnId
    (existing.turnVersion - 1) pepper = .ok existing.commitment

/-- **The check of a repeated call.** -/
theorem leads_admitReplay {content : String} :
    (admitReplay context existing content).Leads (Possible pepper existing) (Leaves existing)
      fun _ => Verified context content pepper existing := by
  refine Service.Leads.bind (leads_ask (fun _ _ => leaves_of_quiet trivial) fun readable _ => ?_)
  refine Service.Leads.bind (leads_require fun _ => ?_)
  refine Service.Leads.bind (leads_ask (fun _ _ => leaves_of_quiet trivial) fun now _ => ?_)
  refine Service.Leads.bind (leads_require fun hnow => ?_)
  refine Service.Leads.bind (leads_ask (fun _ _ => leaves_of_quiet trivial) fun found hfound => ?_)
  cases Except.ok.inj (hfound rfl rfl)
  refine Service.Leads.bind (leads_ofExcept fun value hvalue => leads_require fun heq => ?_)
  exact ⟨⟨now, of_decide_eq_true hnow⟩, of_decide_eq_true heq ▸ hvalue⟩

/-- Nothing goes on from a version that is stuck. -/
theorem refuses_resume {content : String} {possible keeps : (op : Op) → Answer op → Prop}
    (h : Stuck existing) : (svc.resume context existing content).Refuses possible keeps := by
  rw [resume]
  rcases h with ⟨hready, hnone⟩ | ⟨hpending, hready, howner, hread⟩
  · have hpending : existing.state ≠ .authorizationPending := by
      rcases hready with h | h <;> (rw [h]; decide)
    rw [DraftInvocationState.Ready] at hready
    rw [if_neg hpending, if_pos hready, dispatch, hnone]
    exact trivial
  · rw [DraftInvocationState.Ready] at hready
    rw [if_neg hpending, if_neg hready, if_pos howner]
    refine Service.Leads.bind (Service.Leads.bind (leads_ofExcept fun o ho => ?_))
    exact absurd ho (hread o)

theorem refuses_replay {content : String}
    (h : Verified context content pepper existing → Stuck existing) :
    (svc.replay context existing content).Refuses (Possible pepper existing) (Leaves existing) :=
  Service.Leads.bind (leads_admitReplay.imp fun _ hv => refuses_resume (h hv))

theorem leads_validateContent {key content : String} {possible keeps : (op : Op) → Answer op → Prop} :
    (svc.validateContent key content).Leads possible keeps fun _ =>
      (key ≠ "" ∧ key.length ≤ 128 ∧ strip key = key)
        ∧ strip content ≠ "" ∧ (utf8 content).length ≤ svc.profile.maximumInputBytes := by
  refine Service.Leads.bind (leads_require fun hkey => leads_require fun hcontent => ?_)
  simp only [Bool.and_eq_true, decide_eq_true_eq] at hkey hcontent
  exact ⟨⟨hkey.1.1, hkey.1.2, hkey.2⟩, hcontent⟩

theorem checkParent_quiet {request : BeginRequest} :
    (checkParent context request).OnlyAsks Op.Quiet := by
  rw [checkParent]
  split
  · exact require_quiet
  · split
    · refine Service.OnlyAsks.bind (ask_quiet trivial) fun head => ?_
      split
      · trivial
      · exact require_quiet
    · trivial

theorem contextFor_quiet {parentContextId : Option String} :
    (contextFor parentContextId).OnlyAsks Op.Quiet := by
  cases parentContextId with
  | none => exact ask_quiet trivial
  | some contextId =>
    dsimp only [contextFor]
    split
    · trivial
    · exact ask_quiet trivial

/-- The rule for a part of a call that changes nothing. -/
theorem refuses_quiet_bind {α β : Type} {x : Call α} {f : α → Call β} (hx : x.OnlyAsks Op.Quiet)
    (h : ∀ a, (f a).Refuses (Possible pepper existing) (Leaves existing)) :
    (x >>= f).Refuses (Possible pepper existing) (Leaves existing) :=
  Service.Leads.bind (Service.Leads.of_onlyAsks (fun _ _ => leaves_of_quiet) hx h)

/-- **A call that finds its key taken** and does not pass the check. -/
theorem refuses_beginFirst (hclaimed : ClaimedBy context first pepper existing)
    (hkey : second.key = first.key)
    (h : Verified context second.content pepper existing → Stuck existing) :
    (svc.beginFirst context second).Refuses (Possible pepper existing) (Leaves existing) := by
  refine refuses_quiet_bind checkParent_quiet fun _ => ?_
  refine refuses_quiet_bind (ask_quiet trivial) fun active => ?_
  refine refuses_quiet_bind (ask_quiet trivial) fun now => ?_
  refine refuses_quiet_bind contextFor_quiet fun contextId => ?_
  refine refuses_quiet_bind (ask_quiet trivial) fun turnId => ?_
  refine refuses_quiet_bind (ask_quiet trivial) fun invocationId => ?_
  refine refuses_quiet_bind (ask_quiet trivial) fun snapshotId => ?_
  refine refuses_quiet_bind ofExcept_quiet fun value => ?_
  split
  · exact trivial
  · refine Service.Leads.bind (leads_ask (fun _ _ => leaves_claim ?_ ?_ ?_) fun answer hanswer => ?_)
    · exact hclaimed.scope.symm
    · exact hclaimed.principal.symm
    · exact hkey.trans hclaimed.key.symm
    · rcases hanswer with ⟨e, ⟨⟩⟩ | hanswer
      cases hanswer
      exact refuses_replay h

/-- **A call that is refused**: it is not accepted, it fails the check, or it
finds the invocation stuck. -/
theorem refuses_begin (hclaimed : ClaimedBy context first pepper existing)
    (hkey : second.key = first.key)
    (h : svc.Accepts context second → Verified context second.content pepper existing →
      Stuck existing) :
    (svc.begin_ context second).Refuses (Possible pepper existing) (Leaves existing) := by
  refine Service.Leads.bind (leads_validateContent.imp fun _ hvalid => ?_)
  refine Service.Leads.bind (leads_require fun hscope => ?_)
  have hrest := h ⟨hvalid.1, hvalid.2, of_decide_eq_true hscope⟩
  refine Service.Leads.bind (leads_ask (fun _ _ => leaves_of_quiet trivial) fun found hfound => ?_)
  rcases hfound with ⟨e, ⟨⟩⟩ | hfound | hfound
  · cases hfound
    exact refuses_beginFirst hclaimed hkey hrest
  · cases hfound
    exact refuses_replay hrest

/-! ### Answers -/

/-- Answers with which a call goes on: every port does its part, a request is
not authorized at once, and a recorded dispatch finds that another call has
written. -/
def obliging (pepper : List UInt8) (existing : DraftInvocation) (now : Datetime) :
    (op : Op) → Answer op
  | .getByKey .. | .get .. => .ok (some existing)
  | .claim _ => .ok (existing, false)
  | .compareAndSet .dispatchRecord .. => .ok none
  | .compareAndSet _ _ r => .ok (some r)
  | .clock => .ok now
  | .resolvePepper .. => .ok (some pepper)
  | .authorize .. => .ok ⟨.pending, "request", none, "decision", none, 1, 1⟩
  | .admission .. => .ok (some ⟨"admission", 1, existing.replayNotAfter⟩)
  | op => .ok (Sample.portValue op)

theorem possible_obliging {now : Datetime} (op : Op) :
    Possible pepper existing op (obliging pepper existing now op) := by
  cases op with
  | getByKey => exact .inr (.inr rfl)
  | claim => exact .inr rfl
  | resolvePepper => exact fun _ _ => rfl
  | _ => exact trivial

theorem outcome_ask (answers : (op : Op) → Answer op) (op : Op) :
    (ask op).outcome answers = answers op := by
  change (ofExcept (answers op)).outcome answers = answers op
  cases answers op <;> rfl

theorem outcome_tryExcept {α : Type} (answers : (op : Op) → Answer op) {body : Call α}
    {handler : Fault → Call α} (h : ∀ e, ∃ v, (handler e).outcome answers = .ok v) :
    ∃ v, (tryExcept body handler).outcome answers = .ok v := by
  rw [tryExcept, Service.outcome_bind, Service.outcome_attempt]
  cases hbody : body.outcome answers with
  | ok v => exact ⟨v, rfl⟩
  | error e => exact h e

section Obliging

variable {now : Datetime} {invocation : DraftInvocation} {observation : ProviderObservation}
  {site : Site}

theorem outcome_replace (hsite : site ≠ .dispatchRecord) (changes : DraftInvocation → DraftInvocation) :
    (replace_ site invocation changes).outcome (obliging pepper existing now)
      = .ok (changes invocation.next) := by
  rw [replace_, Service.outcome_bind, outcome_ask]
  cases site <;> first | exact absurd rfl hsite | rfl

variable (svc pepper existing now invocation observation) in
theorem outcome_completeBudget (hsite : site ≠ .dispatchRecord) :
    ∃ v, (svc.completeBudget site invocation observation).outcome (obliging pepper existing now)
      = .ok v := by
  rw [completeBudget]
  split
  · exact ⟨_, rfl⟩
  · refine outcome_tryExcept _ fun e => ?_
    split
    · rw [Service.outcome_bind, outcome_replace hsite]
      exact ⟨_, rfl⟩
    · exact ⟨_, rfl⟩

variable (pepper existing now invocation observation) in
theorem outcome_completeEvidence (hsite : site ≠ .dispatchRecord) (updated : DraftInvocation)
    (pending : Option String) :
    ∃ v, (completeEvidence site invocation updated observation pending).outcome
      (obliging pepper existing now) = .ok v := by
  refine outcome_tryExcept _ fun e => ?_
  split
  · rw [outcome_replace hsite]
    exact ⟨_, rfl⟩
  · exact ⟨_, rfl⟩

variable (svc pepper existing now invocation observation) in
/-- The owner references can be completed. -/
theorem outcome_completeObservationRefs (hsite : site ≠ .dispatchRecord) :
    ∃ v, (svc.completeObservationRefs site invocation observation).outcome
      (obliging pepper existing now) = .ok v := by
  obtain ⟨⟨updated, pending⟩, hbudget⟩ := outcome_completeBudget svc pepper existing now
    invocation observation hsite
  have huse : (completeResourceUse invocation observation pending).outcome
      (obliging pepper existing now) = .ok pending := rfl
  obtain ⟨updated', hevidence⟩ := outcome_completeEvidence pepper existing now invocation observation
    hsite updated pending
  rw [completeObservationRefs, Service.outcome_bind, hbudget]
  simp only [Except.bind, Service.outcome_bind, huse, hevidence]
  split
  · exact ⟨_, outcome_replace hsite _⟩
  · exact ⟨_, rfl⟩

/-- An invocation with a binding is dispatched, or found written by another
call. -/
theorem outcome_dispatch {content : String} {snapshot : BindingSnapshot}
    (hsnapshot : invocation.snapshot = some snapshot) (hnow : now < existing.replayNotAfter) :
    (svc.dispatch context invocation content).outcome (obliging pepper existing now)
      = .ok (svc.reply existing) := by
  have hadmission : (currentAdmission context invocation snapshot).outcome
      (obliging pepper existing now) = .ok (some ⟨"admission", 1, existing.replayNotAfter⟩) := by
    rw [currentAdmission, Service.outcome_bind, outcome_ask]
    change (Service.outcome _ (ask .clock >>= fun _ => _)) = _
    rw [Service.outcome_bind, outcome_ask]
    change Except.ok (if existing.replayNotAfter ≤ now then none else _) = _
    rw [if_neg (not_le_of_gt hnow)]
  have hprice : ∃ price, svc.dispatchPrice.outcome (obliging pepper existing now) = .ok price := by
    rw [dispatchPrice]
    split <;> exact ⟨_, rfl⟩
  obtain ⟨price, hprice⟩ := hprice
  rw [dispatch, hsnapshot]
  change (svc.recordDispatch context invocation snapshot _ "reference" "reference").outcome _ = _
  rw [recordDispatch, Service.outcome_bind, hadmission]
  change (Service.outcome _ (svc.dispatchPrice >>= fun _ => _)) = _
  rw [Service.outcome_bind, hprice]
  rfl

variable (svc context pepper) in
/-- **A version that is not stuck is gone on from.** -/
theorem outcome_resume (content : String) (hstuck : ¬ Stuck invocation)
    (hnow : now < existing.replayNotAfter) :
    ∃ reply, (svc.resume context invocation content).outcome (obliging pepper existing now)
      = .ok reply := by
  rw [resume]
  split
  · rw [authorizeAndDispatch, Service.outcome_bind, outcome_ask]
    exact ⟨_, rfl⟩
  · next hpending =>
    split
    · next hready =>
      cases hsnapshot : invocation.snapshot with
      | none => exact absurd (.inl ⟨hready, hsnapshot⟩) hstuck
      | some snapshot => exact ⟨_, outcome_dispatch hsnapshot hnow⟩
    · next hready =>
      split
      · next howner =>
        cases hread : persistedObservation invocation with
        | error e =>
          refine absurd (.inr ⟨hpending, hready, howner, fun o ho => ?_⟩) hstuck
          rw [hread] at ho
          cases ho
        | ok o =>
          obtain ⟨v, hv⟩ := outcome_completeObservationRefs svc pepper existing now
            invocation o (show Site.references ≠ .dispatchRecord from fun h => by cases h)
          refine ⟨svc.reply v, ?_⟩
          rw [Service.outcome_bind, repairOwnerWrites, hread, Service.outcome_bind]
          simp only [ofExcept, Service.outcome, Except.bind, hv]
          rfl
      · exact ⟨_, rfl⟩

/-- **A call that passes the check is answered**, if the invocation is not
stuck. -/
theorem outcome_begin (haccepts : svc.Accepts context second)
    (hverified : Verified context second.content pepper existing) (hstuck : ¬ Stuck existing) :
    ∃ now reply, (svc.begin_ context second).outcome (obliging pepper existing now) = .ok reply := by
  obtain ⟨now, hnow⟩ := hverified.open_
  obtain ⟨reply, hreply⟩ := outcome_resume svc context pepper second.content hstuck hnow
  refine ⟨now, reply, ?_⟩
  obtain ⟨⟨hk1, hk2, hk3⟩, ⟨hc1, hc2⟩, hscope⟩ := haccepts
  have hvalid : svc.validateContent second.key second.content = pure () := by
    simp [validateContent, require, hk1, hk2, hk3, hc1, hc2]
    rfl
  have hadmit : (admitReplay context existing second.content).outcome
      (obliging pepper existing now) = .ok () := by
    rw [admitReplay, Service.outcome_bind, outcome_ask]
    change (verifyReplay context existing second.content).outcome _ = _
    rw [verifyReplay, Service.outcome_bind, outcome_ask]
    change (Service.outcome _ (require (decide (now < existing.replayNotAfter)) _ >>= fun _ => _)) = _
    rw [decide_eq_true hnow]
    change (Service.outcome _ (ask (.resolvePepper _ _) >>= fun _ => _)) = _
    rw [Service.outcome_bind, outcome_ask]
    change (Service.outcome _ (ofExcept _ >>= fun _ => _)) = _
    rw [hverified.commitment]
    change (require (decide (existing.commitment = existing.commitment)) _).outcome _ = _
    rw [decide_eq_true rfl]
    rfl
  rw [begin_, hvalid]
  change (Service.outcome _ (require (decide (context.draftScope = svc.profile.scope)) _
    >>= fun _ => _)) = _
  rw [decide_eq_true hscope]
  change (svc.replay context existing second.content).outcome _ = _
  rw [replay, Service.outcome_bind, hadmit]
  exact hreply

end Obliging

/-! ### One request -/

/-- HMAC tells the messages of the first request and of the same request with
this content apart. -/
def Distinguishes (pepper : List UInt8) (context : RequestContext) (first : BeginRequest)
    (content : String) : Prop :=
  ∀ message message',
    canonical context first.key first.content first.parentTurnId first.expectedParentVersion
      = .ok message →
    canonical context first.key content first.parentTurnId first.expectedParentVersion
      = .ok message' →
    hmacSha256 pepper message = hmacSha256 pepper message' → message = message'

/-- The check of a repeated call is a check of its content. -/
theorem verified_iff {content : String} (hclaimed : ClaimedBy context first pepper existing)
    (hdistinct : Distinguishes pepper context first content) :
    Verified context content pepper existing
      ↔ (∃ now, now < existing.replayNotAfter) ∧ content = first.content := by
  have hversion : existing.turnVersion - 1 = first.expectedParentVersion := by
    rw [hclaimed.version]
    omega
  constructor
  · rintro ⟨hopen, hvalue⟩
    refine ⟨hopen, ?_⟩
    rw [hclaimed.key, hclaimed.parent, hversion] at hvalue
    obtain ⟨message', hmessage', hvalue'⟩ := bind_eq_ok.mp hvalue
    obtain ⟨message, hmessage, hfirst⟩ := bind_eq_ok.mp hclaimed.commitment
    have heq := hdistinct message message' hmessage hmessage'
      (Except.ok.inj (hfirst.trans hvalue'.symm))
    subst heq
    exact content_eq_of_canonical hmessage' hmessage
  · rintro ⟨hopen, rfl⟩
    refine ⟨hopen, ?_⟩
    rw [hclaimed.key, hclaimed.parent, hversion]
    exact hclaimed.commitment

/-- **When a key stands for one request.** Let `existing` be an invocation that
was claimed for the first request. A second call of the key is the same request
or is refused exactly if it is not accepted at all, its content differs, it
names the same parent, the replay window is empty, or the invocation is stuck. -/
theorem one_request_iff (svc : DraftAssistanceService) {context : RequestContext}
    {first second : BeginRequest} {pepper : List UInt8} {existing : DraftInvocation}
    (hclaimed : ClaimedBy context first pepper existing) (hkey : second.key = first.key)
    (hdistinct : Distinguishes pepper context first second.content) :
    OneRequest svc context first second pepper existing ↔
      ¬ svc.Accepts context second ∨ second.content ≠ first.content
        ∨ (second.parentTurnId = first.parentTurnId
          ∧ second.expectedParentVersion = first.expectedParentVersion)
        ∨ (∀ now, ¬ now < existing.replayNotAfter) ∨ Stuck existing := by
  have hverified := verified_iff hclaimed hdistinct
  constructor
  · intro hone
    by_contra hnot
    simp only [not_or, not_not, not_forall] at hnot
    obtain ⟨haccepts, hcontent, hparent, hopen, hstuck⟩ := hnot
    rcases hone with hsame | hrefuses
    · exact hparent ⟨hsame.parentTurnId, hsame.expectedParentVersion⟩
    · obtain ⟨now, reply, hreply⟩ :=
        outcome_begin haccepts (hverified.mpr ⟨hopen, hcontent⟩) hstuck
      exact hrefuses.of_outcome possible_obliging hreply
  · intro hcases
    by_cases hsame : SameRequest first second
    · exact .inl hsame
    · refine .inr (refuses_begin hclaimed hkey fun haccepts hv => ?_)
      obtain ⟨⟨now, hnow⟩, hcontent⟩ := hverified.mp hv
      rcases hcases with h | h | ⟨hturn, hversion⟩ | h | h
      · exact absurd haccepts h
      · exact absurd hcontent h
      · exact absurd ⟨hcontent, hturn, hversion⟩ hsame
      · exact absurd hnow (h now)
      · exact h

end DraftAssistanceService

variable {ι : Type} [DecidableEq ι] {c : Care} {w : DraftWorld ι}

namespace Sample

open DraftAssistanceService

def pepper : List UInt8 := List.replicate 32 7

theorem exists_claimed : ∃ r, ClaimedBy context request pepper r ∧ r.state = .authorizationPending
    ∧ now < r.replayNotAfter := by
  obtain ⟨message, hmessage⟩ : ∃ message, canonical context request.key request.content
      request.parentTurnId request.expectedParentVersion = .ok message := ⟨_, rfl⟩
  refine ⟨service.candidate context request "context" "turn" invocationId "snapshot"
    (hmacSha256 pepper message) "pepper" "1" now ⟨1, one_lt_maxMicros⟩,
    ⟨rfl, rfl, rfl, rfl, rfl, ?_⟩, rfl, Nat.zero_lt_one⟩
  rw [commitment, hmessage]
  rfl

theorem distinguishes_self : Distinguishes pepper context request request.content :=
  fun _ _ h h' _ => Except.ok.inj (h.symm.trans h')

/-- `one_request_iff` for a call that is made twice. -/
theorem one_request_of_repeated : ∃ r, ClaimedBy context request pepper r
    ∧ OneRequest service context request request pepper r := by
  obtain ⟨r, hclaimed, -⟩ := exists_claimed
  exact ⟨r, hclaimed, (one_request_iff service hclaimed rfl distinguishes_self).mpr
    (.inr (.inr (.inl ⟨rfl, rfl⟩)))⟩

/-- The request of a turn that follows another one. -/
def following : BeginRequest :=
  { request with
    parentContextId := some "context", parentTurnId := some "turn", expectedParentVersion := 1
    predecessorInvocationId := some "invocation" }

theorem answered_with_first_turn : ∃ r, ClaimedBy context request pepper r
    ∧ Distinguishes pepper context request following.content
    ∧ ¬ OneRequest service context request following pepper r := by
  obtain ⟨r, hclaimed, hpending, hnow⟩ := exists_claimed
  refine ⟨r, hclaimed, distinguishes_self, ?_⟩
  have hstuck : ¬ Stuck r := by
    rintro (⟨hready, -⟩ | ⟨hstate, -⟩)
    · rw [hpending] at hready
      rcases hready with h | h <;> cases h
    · exact hstate hpending
  have haccepts : service.Accepts context following := by
    refine ⟨⟨?_, ?_, ?_⟩, ⟨?_, ?_⟩, ?_⟩ <;> decide +kernel
  obtain ⟨now, reply, hreply⟩ := outcome_begin haccepts
    ((verified_iff hclaimed distinguishes_self).mpr ⟨⟨now, hnow⟩, rfl⟩) hstuck
  rintro (hsame | hrefuses)
  · exact absurd hsame.parentTurnId (by decide)
  · exact hrefuses.of_outcome possible_obliging hreply

end Sample

end Draft

end AgentPlatform
