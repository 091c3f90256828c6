/-
AgentPlatform/Draft/Scripts.lean

Runs of the draft assistance service by script.

A script is played over the memory of the repository (`Mirror`): the service
takes its steps, the repository answers as the in-memory one does, and the
script says what the ports answer. A step is refused where the database would
not accept what is written, and where it does not meet the conditions of the
run. **Main result:** `run_of_script`, a script that plays through is a run
over the tables.
-/
import AgentPlatform.Draft.Adapters
import AgentPlatform.Draft.Calls

namespace AgentPlatform

open Py

namespace Draft

/-! ### Texts -/

theorem plain_of_zeroFreeText {s : String} (h : Json.zeroFreeText s = true) : plain s = true := by
  rw [plain, Bool.not_eq_true', List.contains_eq_mem, decide_eq_false_iff_not]
  exact Json.not_mem_of_zeroFreeText h

/-- A hexadecimal text is plain. -/
theorem not_mem_of_isHex64 {s : String} (h : isHex64 s = true) : '\x00' ∉ s.toList := by
  intro hm
  rw [isHex64_eq, Bool.and_eq_true, List.all_eq_true] at h
  exact absurd (h.2 _ hm) (by decide)

def jsonFields : Json → List (String × Json)
  | .obj fields => fields
  | _ => []

theorem DraftAssistanceService.ClaimedBy.isHex64 {context : RequestContext}
    {request : DraftAssistanceService.BeginRequest} {pepper : List UInt8} {r : DraftInvocation}
    (h : DraftAssistanceService.ClaimedBy context request pepper r) : isHex64 r.commitment = true := by
  have hvalue := h.commitment
  rw [Draft.commitment] at hvalue
  cases hmessage : canonical context request.key request.content request.parentTurnId
    request.expectedParentVersion with
  | error e =>
    rw [hmessage] at hvalue
    cases hvalue
  | ok message =>
    rw [hmessage] at hvalue
    rw [← Except.ok.inj hvalue]
    exact hmacSha256_isHex64 pepper message

theorem DraftInvocation.Fresh.commitment {r : DraftInvocation} (h : r.Fresh) :
    Py.isHex64 r.commitment = true := by
  obtain ⟨context, request, pepper, hclaimed⟩ := h.committed
  exact hclaimed.isHex64

/-- No key of a record holds U+0000. -/
theorem recordKeys_zeroFree (r : DraftInvocation) :
    ((jsonFields (record r)).map Prod.fst).all Json.zeroFreeText = true := by
  rfl

/-- The values of the record can be stored. The commitment is left out: it is a
digest. -/
def recordStorable (r : DraftInvocation) : Bool :=
  ((jsonFields (record { r with commitment := "" })).all fun p => p.2.zeroFree)
    && positiveBigint r.aggregateVersion

theorem versionStorable_of_recordStorable {r : DraftInvocation} (hc : isHex64 r.commitment = true)
    (h : recordStorable r = true) : versionStorable r = true := by
  rw [recordStorable, Bool.and_eq_true, List.all_eq_true] at h
  rw [versionStorable, h.2, Bool.and_true]
  refine Json.nulFree_obj.mpr fun p hp => ⟨?_, ?_⟩
  · have hkeys := recordKeys_zeroFree r
    rw [List.all_eq_true] at hkeys
    exact Json.not_mem_of_zeroFreeText (hkeys p.1 (List.mem_map_of_mem hp))
  · -- the records differ in the tenth field only
    have hsplit : ∀ q : DraftInvocation, jsonFields (record q)
        = (jsonFields (record q)).take 9 ++ ("commitment", .str q.commitment)
          :: (jsonFields (record q)).drop 10 := fun _ => rfl
    have hp' : p ∈ jsonFields (record r) := hp
    rw [hsplit r] at hp'
    rw [hsplit] at h
    rcases List.mem_append.mp hp' with hp' | hp'
    · exact Json.nulFree_of_zeroFree _ (h.1 p (List.mem_append_left _ hp'))
    · rcases List.mem_cons.mp hp' with rfl | hp'
      · exact Json.nulFree_str.mpr (not_mem_of_isHex64 hc)
      · exact Json.nulFree_of_zeroFree _
          (h.1 p (List.mem_append_right _ (List.mem_cons_of_mem _ hp')))

/-! ### The mirror of a state -/

/-- What a script is played over: the memory of the repository, all versions
that were stored, and what was sent to and heard from the provider. -/
structure Mirror (ι : Type) where
  memory : Memory := {}
  log : List DraftInvocation := []
  sent : List (Sent ι) := []
  heard : List (InvocationKey × ProviderObservation) := []

variable {ι : Type} {c : Care} {i : ι}

namespace Mirror

/-- `r` is stored. -/
def write (m : Mirror ι) (r : DraftInvocation) (memory : Memory) : Mirror ι :=
  { m with memory, log := m.log ++ [r] }

/-- The mirror of a state of the tables. -/
structure Reflects (m : Mirror ι) (s : State ι) : Prop where
  memory : m.memory = s.tables.memory
  log : ∀ key, (m.log.filter fun r => r.key = key) = s.history key
  sent : m.sent = s.sent
  heard : m.heard = s.heard

theorem reflects_initial : Reflects ({} : Mirror ι) ({} : State ι) :=
  ⟨rfl, fun _ => rfl, rfl, rfl⟩

/-- An answer of the provider. -/
def hear (m : Mirror ι) (key : InvocationKey) : Except Fault ProviderObservation → Mirror ι
  | .ok o => { m with heard := m.heard ++ [(key, o)] }
  | .error _ => m

/-- Process `i` has called `transport.dispatch`. -/
def send (m : Mirror ι) (i : ι) (r : DraftInvocation) : Mirror ι :=
  { m with sent := m.sent ++ [⟨i, r⟩] }

variable {m : Mirror ι} {s : State ι}

theorem Reflects.send (h : Reflects m s) (i : ι) (r : DraftInvocation) :
    Reflects (m.send i r) (s.send i r) :=
  ⟨h.memory, h.log, by simp only [Mirror.send, State.send, h.sent], h.heard⟩

theorem Reflects.hear (h : Reflects m s) (key : InvocationKey)
    (a : Except Fault ProviderObservation) : Reflects (m.hear key a) (s.hear key a) := by
  rcases a with e | o
  · exact h
  · exact ⟨h.memory, h.log, h.sent, congrArg (· ++ [(key, o)]) h.heard⟩

theorem Reflects.write {r : DraftInvocation} {t : Tables} {site? : Option Site}
    (h : Reflects m s)
    (ht : t.versions = s.tables.versions ++ [VersionRow.of r]) :
    Reflects (m.write r t.memory) (s.write i site? r t) := by
  refine ⟨rfl, fun key => ?_, h.sent, h.heard⟩
  rw [history_write ht, ← h.log key, Mirror.write, List.filter_append]
  refine congrArg _ ?_
  by_cases hk : r.key = key <;> simp [hk]

/-! ### The conditions of a run -/

/-- What is received meets the conditions. -/
def receives (m : Mirror ι) (c : Care) (key : InvocationKey) :
    Except Fault ProviderObservation → Bool
  | .ok o => (!c.settled || o.observationId ≠ "")
      && (!c.recorded || (m.heard.all (fun p => !(p.1 = key && p.2.observationId = o.observationId)
          || (p.2.correlation = o.correlation && p.2.measurement = o.measurement))
        && (o.state = .succeeded || (o.clarificationQuestion = none && o.title = none
          && o.description = none && o.understanding = none))))
  | .error _ => true

theorem receives_sound {key : InvocationKey} {a : Except Fault ProviderObservation}
    (hm : Reflects m s) (h : m.receives c key a = true) : c.Receives s key a := by
  rcases a with e | o
  · exact trivial
  simp only [receives, Bool.and_eq_true, Bool.or_eq_true, Bool.not_eq_true', List.all_eq_true,
    decide_eq_true_eq] at h
  refine ⟨fun hc => h.1.resolve_left (by rw [hc]; exact nofun), fun hc => ?_⟩
  obtain ⟨hall, hbare⟩ := h.2.resolve_left (by rw [hc]; exact nofun)
  refine ⟨fun o' ho' hid => ?_, fun hne => ?_⟩
  · have hmem : (key, o') ∈ m.heard := hm.heard ▸ ho'
    rcases hall _ hmem with hno | hsame
    · exact absurd hid (by simpa using hno)
    · exact hsame
  · obtain ⟨⟨⟨h1, h2⟩, h3⟩, h4⟩ := hbare.resolve_left hne
    exact ⟨h1, h2, h3, h4⟩

/-- A stored version has this observation as its last one. -/
def knows (m : Mirror ι) (key : InvocationKey) (o : ProviderObservation) : Bool :=
  m.log.any fun r => r.key = key && r.lastObservationId = some o.observationId

theorem knows_sound {key : InvocationKey} {o : ProviderObservation} (hm : Reflects m s)
    (h : m.knows key o = true) : s.Knows key o := by
  simp only [knows, List.any_eq_true, Bool.and_eq_true, decide_eq_true_eq] at h
  obtain ⟨r, hr, hkey, hlast⟩ := h
  refine ⟨r, ?_, hlast⟩
  rw [← hm.log key]
  exact List.mem_filter.mpr ⟨hr, decide_eq_true hkey⟩

/-- The version that is reread meets the conditions. -/
def rereads (m : Mirror ι) (c : Care) : Site → DraftInvocation → Bool
  | .requested, v => !c.requested || v.state = .requested || v.state = .requestedAwaitingContent
      || v.snapshot.isNone
  | .conflict o, v => !c.recorded || m.knows v.key o || v.state = .conflictReviewRequired
  | .observation o, v => !c.recorded
      || (m.knows v.key o && (!decide (o.state = .succeeded) || decide (o.SucceededIn v)))
  | .answer o, v => !c.recorded || !decide (o.state = .succeeded) || decide (o.SucceededIn v)
  | _, _ => true

theorem rereads_sound {site : Site} {v : DraftInvocation} (hm : Reflects m s)
    (h : m.rereads c site v = true) : c.Rereads s site v := by
  cases site with
  | requested =>
    intro hc
    simp only [rereads, hc, Bool.not_true, Bool.false_or, Bool.or_eq_true, decide_eq_true_eq,
      Option.isNone_iff_eq_none] at h
    exact h
  | conflict o =>
    intro hc
    simp only [rereads, hc, Bool.not_true, Bool.false_or, Bool.or_eq_true, decide_eq_true_eq] at h
    exact h.imp_left (knows_sound hm)
  | observation o =>
    intro hc
    simp only [rereads, hc, Bool.not_true, Bool.false_or, Bool.and_eq_true, Bool.or_eq_true,
      Bool.not_eq_true', decide_eq_true_eq, decide_eq_false_iff_not] at h
    exact ⟨knows_sound hm h.1, fun ho => h.2.resolve_left (not_not.mpr ho)⟩
  | answer o =>
    intro hc ho
    simp only [rereads, hc, ho, Bool.not_true, Bool.false_or, decide_true, decide_eq_true_eq] at h
    exact h
  | _ => exact trivial

/-! ### Steps -/

/-- The database accepts the claim of a new invocation. -/
def accepts (m : Memory) (c : DraftInvocation) : Bool :=
  [c.scope.namespace_, c.scope.securityDomain, c.initiatingPrincipalId, c.scopedIdempotencyKey,
      c.invocationId, c.canonicalizationVersion, c.pepperReference, c.pepperVersion, c.contextId,
      c.turnId].all Json.zeroFreeText
    && c.parentTurnId.all Json.zeroFreeText
    && positiveBigint c.turnOrdinal && positiveBigint c.turnVersion && recordStorable c
    && m.records.all fun v => !(v.scope = c.scope && (v.invocationId = c.invocationId
      || v.turnId = c.turnId || (v.contextId = c.contextId && v.turnOrdinal = c.turnOrdinal)))

/-- Answer a lookup, if its texts are plain. -/
def lookup {α : Type} (m : Mirror ι) (texts : List String) (a : α) :
    Option (Except Fault α × Mirror ι) :=
  if texts.all Json.zeroFreeText then some (.ok a, m) else none

/-- How a step of a script is answered, where the ports give `answers`. -/
def respond (c : Care) (answers : (op : Op) → Answer op) (i : ι) :
    (op : Op) → Mirror ι → Option (Answer op × Mirror ι)
  | .getByKey scope principalId key, m =>
    m.lookup [scope.namespace_, scope.securityDomain, principalId, key]
      (m.memory.getByKey scope principalId key)
  | .getContextHead scope contextId, m =>
    m.lookup [scope.namespace_, scope.securityDomain, contextId]
      (m.memory.getContextHead scope contextId)
  | .get scope invocationId, m =>
    m.lookup [scope.namespace_, scope.securityDomain, invocationId] (m.memory.get scope invocationId)
  | .reread site lost, m =>
    if (m.memory.get lost.scope lost.invocationId).all (m.rereads c site) then
      m.lookup [lost.scope.namespace_, lost.scope.securityDomain, lost.invocationId]
        (m.memory.get lost.scope lost.invocationId)
    else none
  | .claim candidate, m =>
    if accepts m.memory candidate then
      match m.memory.claim candidate with
      | .ok ((answer, won), memory) =>
        some (.ok (answer, won), if won then m.write candidate memory else m)
      | .error _ => none
    else none
  | .compareAndSet _ expected replacement, m =>
    if [replacement.scope.namespace_, replacement.scope.securityDomain,
        replacement.invocationId].all Json.zeroFreeText && recordStorable replacement then
      match m.memory.compareAndSet expected replacement with
      | .ok (answer, memory) =>
        some (.ok answer, if answer.isSome then m.write replacement memory else m)
      | .error _ => none
    else none
  | .dispatch recorded request credential, m =>
    let a := answers (.dispatch recorded request credential)
    if m.receives c recorded.key a then some (a, (m.send i recorded).hear recorded.key a) else none
  | .observe value correlation, m =>
    let a := answers (.observe value correlation)
    if (!c.settled || !decide value.state.Settled) && m.receives c value.key a then
      some (a, m.hear value.key a)
    else none
  | .cancel value correlation, m =>
    let a := answers (.cancel value correlation)
    if (!c.settled || !decide value.state.Settled) && m.receives c value.key a then
      some (a, m.hear value.key a)
    else none
  | .identity kind, m =>
    if c.named then
      match answers (.identity kind) with
      | .ok id => if id ≠ "" then some (.ok id, m) else none
      | .error e => some (.error e, m)
    else some (answers (.identity kind), m)
  | op, m => some (answers op, m)

variable {answers : (op : Op) → Answer op} {op : Op}

/-- What is checked of a claim is what the database checks. -/
theorem accepts_sound {t : Tables} {r : DraftInvocation} (hv : t.Valid) (hf : r.Fresh)
    (h : accepts t.memory r = true) : claimStorable r = true ∧ t.Acceptable r := by
  simp only [accepts, Bool.and_eq_true, List.all_cons, List.all_nil] at h
  obtain ⟨⟨⟨⟨⟨htexts, hparent⟩, hordinal⟩, hversion⟩, hrecord⟩, hnew⟩ := h
  obtain ⟨h1, h2, h3, h4, h5, h6, h7, h8, h9, h10, -⟩ := htexts
  have hnew' : ∀ f ∈ t.firsts, ¬ (f.scope = r.scope ∧ (f.invocationId = r.invocationId
      ∨ f.turnId = r.turnId ∨ (f.contextId = r.contextId ∧ f.turnOrdinal = r.turnOrdinal))) := by
    intro f hf
    have ho := hv.current_origin hf
    have hall := List.all_eq_true.mp hnew (t.current f) (List.mem_map_of_mem hf)
    simp only [show (t.current f).scope = f.scope from congrArg Origin.scope ho,
      show (t.current f).invocationId = f.invocationId from congrArg Origin.invocationId ho,
      show (t.current f).turnId = f.turnId from congrArg Origin.turnId ho,
      show (t.current f).contextId = f.contextId from congrArg Origin.contextId ho,
      show (t.current f).turnOrdinal = f.turnOrdinal from congrArg Origin.turnOrdinal ho,
      Bool.not_eq_true', Bool.and_eq_false_iff, Bool.or_eq_false_iff, decide_eq_false_iff_not]
      at hall
    tauto
  have hturns : ∀ u ∈ t.turns, ∃ f ∈ t.firsts, u = TurnRow.of f := by
    intro u hu
    rw [hv.turnRows] at hu
    obtain ⟨f, hf, rfl⟩ := List.mem_map.mp hu
    exact ⟨f, hf, rfl⟩
  have hplain : r.parentTurnId.all plain = true := by
    cases hp : r.parentTurnId with
    | none => rfl
    | some turnId =>
      rw [hp] at hparent
      exact plain_of_zeroFreeText hparent
  refine ⟨?_, ?_, versionStorable_of_recordStorable hf.commitment hrecord, ?_, ?_, ?_⟩
  · simp only [claimStorable, List.all_cons, List.all_nil, hf.commitment, hf.algorithm,
      plain_of_zeroFreeText h1, plain_of_zeroFreeText h2, plain_of_zeroFreeText h3,
      plain_of_zeroFreeText h4, plain_of_zeroFreeText h5, plain_of_zeroFreeText h6,
      plain_of_zeroFreeText h7, plain_of_zeroFreeText h8, decide_true, Bool.and_self]
  · simp only [turnStorable, hordinal, hversion, hplain, plain_of_zeroFreeText h9,
      plain_of_zeroFreeText h10, Bool.and_self]
  · intro f hf hkey
    exact hnew' f hf ⟨congrArg Prod.fst hkey, .inl (congrArg Prod.snd hkey)⟩
  · intro u hu hs ht
    obtain ⟨f, hf, rfl⟩ := hturns u hu
    exact hnew' f hf ⟨hs, .inr (.inl ht)⟩
  · intro u hu hs hctx ho
    obtain ⟨f, hf, rfl⟩ := hturns u hu
    exact hnew' f hf ⟨hs, .inr (.inr ⟨hctx, ho⟩)⟩

/-- A lookup answers where its texts are plain, and changes nothing. -/
theorem lookup_eq_some {α : Type} {texts : List String} {v : α} {a : Except Fault α} {m' : Mirror ι}
    (h : m.lookup texts v = some (a, m')) : (∀ s ∈ texts, plain s = true) ∧ a = .ok v ∧ m = m' := by
  rw [lookup] at h
  split at h
  · next hplain =>
    cases h
    exact ⟨fun s hs => plain_of_zeroFreeText (List.all_eq_true.mp hplain s hs), rfl, rfl⟩
  · cases h

/-- What is checked of a replacement is what the database checks. -/
theorem storable_sound {expected : Nat} {replacement : DraftInvocation} {site : Site}
    (hi : Inv c s) (hg : Guard c i (.compareAndSet site expected replacement) s)
    (h : recordStorable replacement = true) : versionStorable replacement = true := by
  obtain ⟨r, hr, -, hf⟩ := hg
  refine versionStorable_of_recordStorable ?_ h
  obtain ⟨f, hf', hkey⟩ := hi.valid.exists_first (List.ne_nil_of_mem hr)
  obtain ⟨hfm, hone⟩ := hi.valid.mem_firsts.mp hf'
  have ho : replacement.origin = f.origin :=
    hf.origin.trans (hi.valid.origin _ r hr f (hkey ▸ hfm))
  rw [show replacement.commitment = f.commitment from congrArg Origin.commitment ho]
  exact (hi.first _ f hfm hone).commitment

/-- **A step of a script suits** the constraints of the database. -/
theorem respond_suits {m' : Mirror ι} {a : Answer op} (hi : Inv c s) (hg : Guard c i op s)
    (hm : Reflects m s) (h : m.respond c answers i op = some (a, m')) : Suits s.tables op := by
  cases op with
  | getByKey scope principalId key =>
    have hplain := (lookup_eq_some h).1
    simp_all [Suits]
  | getContextHead scope contextId =>
    have hplain := (lookup_eq_some h).1
    simp_all [Suits]
  | get scope invocationId =>
    have hplain := (lookup_eq_some h).1
    simp_all [Suits]
  | reread site lost =>
    rw [respond] at h
    split at h
    · have hplain := (lookup_eq_some h).1
      simp_all [Suits]
    · cases h
  | claim candidate =>
    rw [respond] at h
    split at h
    · next hacc =>
      rw [hm.memory] at hacc
      obtain ⟨hclaim, hacceptable⟩ := accepts_sound hi.valid hg.1 hacc
      exact ⟨hclaim, fun _ => hacceptable⟩
    · cases h
  | compareAndSet site expected replacement =>
    rw [respond] at h
    split at h
    · next hcond =>
      rw [Bool.and_eq_true, List.all_eq_true] at hcond
      refine ⟨?_, fun _ _ _ => storable_sound hi hg hcond.2⟩
      rw [plain_of_zeroFreeText (hcond.1 _ (by simp)), plain_of_zeroFreeText (hcond.1 _ (by simp)),
        plain_of_zeroFreeText (hcond.1 _ (by simp))]
      rfl
    · cases h
  | _ => exact trivial

/-- A step of a script is a step over the tables. -/
theorem respond_sound {m' : Mirror ι} {a : Answer op} (hi : Inv c s) (hg : Guard c i op s)
    (hm : Reflects m s) (h : m.respond c answers i op = some (a, m')) :
    ∃ s', Performs i op s a s' ∧ c.Within i op a s ∧ Reflects m' s' := by
  have hsuits := respond_suits hi hg hm h
  cases op with
  | getByKey scope principalId key =>
    obtain ⟨-, rfl, rfl⟩ := lookup_eq_some h
    refine ⟨s, ⟨rfl, .inl ?_⟩, trivial, hm⟩
    rw [hi.valid.getByKey_memory hsuits, hm.memory]
  | getContextHead scope contextId =>
    obtain ⟨-, rfl, rfl⟩ := lookup_eq_some h
    refine ⟨s, ⟨rfl, .inl ?_⟩, trivial, hm⟩
    rw [hi.valid.getContextHead_memory hsuits, hm.memory]
  | get scope invocationId =>
    obtain ⟨-, rfl, rfl⟩ := lookup_eq_some h
    refine ⟨s, ⟨rfl, .inl ?_⟩, trivial, hm⟩
    rw [hi.valid.get_memory hsuits, hm.memory]
  | reread site lost =>
    rw [respond] at h
    split at h
    · next hre =>
      obtain ⟨-, rfl, rfl⟩ := lookup_eq_some h
      refine ⟨s, ⟨rfl, .inl ?_⟩, ?_, hm⟩
      · rw [hi.valid.get_memory hsuits, hm.memory]
      · cases hv : m.memory.get lost.scope lost.invocationId with
        | none => exact trivial
        | some v =>
          rw [hv, Option.all_some] at hre
          exact rereads_sound hm hre
    · cases h
  | claim candidate =>
    obtain ⟨⟨answer, won⟩, t, ht, hmem⟩ :=
      hi.valid.claim_memory hg.1.version hsuits.1 hsuits.2
    rw [respond] at h
    split at h
    · rw [hm.memory, hmem] at h
      cases h
      refine ⟨_, .inl ⟨answer, won, t, ht, rfl, .inl rfl⟩, trivial, ?_⟩
      cases won with
      | false => exact hm
      | true =>
        rcases Tables.claim_spec hi.valid ht with ⟨⟨⟩, -⟩ | ⟨-, -, -, -, hversions, -⟩
        exact hm.write hversions
    · cases h
  | compareAndSet site expected replacement =>
    obtain ⟨r, hr, rfl, hf⟩ := hg
    obtain ⟨answer, t, ht, hmem⟩ :=
      hi.valid.compareAndSet_memory hf.version hsuits.1 hsuits.2
    rw [respond] at h
    split at h
    · rw [hm.memory, hmem] at h
      cases h
      refine ⟨_, .inl ⟨answer, t, ht, rfl, .inl rfl⟩, trivial, ?_⟩
      rcases Tables.compareAndSet_spec hi.valid ht with ⟨rfl, -⟩ | ⟨rfl, -, rfl⟩
      · exact hm
      · exact hm.write rfl
    · cases h
  | dispatch recorded request credential =>
    simp only [respond] at h
    split at h
    · next hrec =>
      cases h
      exact ⟨_, rfl, receives_sound hm hrec, (hm.send i recorded).hear _ _⟩
    · cases h
  | observe value correlation =>
    simp only [respond] at h
    split at h
    · next hcond =>
      rw [Bool.and_eq_true, Bool.or_eq_true, Bool.not_eq_true', Bool.not_eq_true',
        decide_eq_false_iff_not] at hcond
      cases h
      refine ⟨_, rfl, ⟨fun hc => hcond.1.resolve_left (by rw [hc]; exact nofun), ?_⟩, hm.hear _ _⟩
      exact receives_sound hm hcond.2
    · cases h
  | cancel value correlation =>
    simp only [respond] at h
    split at h
    · next hcond =>
      rw [Bool.and_eq_true, Bool.or_eq_true, Bool.not_eq_true', Bool.not_eq_true',
        decide_eq_false_iff_not] at hcond
      cases h
      refine ⟨_, rfl, ⟨fun hc => hcond.1.resolve_left (by rw [hc]; exact nofun), ?_⟩, hm.hear _ _⟩
      exact receives_sound hm hcond.2
    · cases h
  | identity kind =>
    simp only [respond] at h
    split at h
    · split at h
      · split at h
        · next hne =>
          cases h
          exact ⟨s, rfl, fun _ => hne, hm⟩
        · cases h
      · cases h
        exact ⟨s, rfl, trivial, hm⟩
    · next hc =>
      cases h
      refine ⟨s, rfl, ?_, hm⟩
      cases answers (.identity kind) with
      | error e => exact trivial
      | ok id => exact fun hn => absurd hn hc
  | _ =>
    cases h
    exact ⟨s, rfl, trivial, hm⟩

end Mirror

/-! ### Scripts -/

variable [DecidableEq ι]

abbrev Moves (ι : Type) := List (Service.Move ι ((op : Op) → Answer op) Answer Fault Reply)

abbrev MirrorWorld (ι : Type) := Service.World ι (Mirror ι) Answer Fault Reply

/-- `n` steps of process `i`, where the ports give `answers`. -/
def steps (i : ι) (n : Nat) (answers : (op : Op) → Answer op) : Moves ι :=
  List.replicate n (.next i answers)

/-- Every call that a script starts is one of the service. -/
def Calls (c : Care) (moves : Moves ι) : Prop := ∀ i x, .start i x ∈ moves → IsCall c x

omit [DecidableEq ι] in
theorem calls_nil : Calls c ([] : Moves ι) := fun _ _ h => by cases h

variable {moves : Moves ι}

omit [DecidableEq ι] in
theorem Calls.start {x : Call Reply} (h : Calls c moves) (hx : IsCall c x) :
    Calls c (.start i x :: moves) := by
  intro j y hy
  rcases List.mem_cons.mp hy with heq | hy
  · cases heq
    exact hx
  · exact h j y hy

omit [DecidableEq ι] in
theorem Calls.return_ (h : Calls c moves) : Calls c (.return_ i :: moves) := by
  intro j y hy
  rcases List.mem_cons.mp hy with heq | hy
  · cases heq
  · exact h j y hy

omit [DecidableEq ι] in
theorem Calls.stop (h : Calls c moves) : Calls c (.stop i :: moves) := by
  intro j y hy
  rcases List.mem_cons.mp hy with heq | hy
  · cases heq
  · exact h j y hy

omit [DecidableEq ι] in
theorem Calls.steps {n : Nat} {answers : (op : Op) → Answer op} (h : Calls c moves) :
    Calls c (Draft.steps i n answers ++ moves) := by
  intro j y hy
  rcases List.mem_append.mp hy with hy | hy
  · cases List.eq_of_mem_replicate hy
  · exact h j y hy

/-- Play a script from the start. -/
def playScript (c : Care) (moves : Moves ι) : Option (MirrorWorld ι) :=
  Service.World.play (Mirror.respond c) ⟨{}, fun _ => none, []⟩ moves

variable (c moves) in
/-- **A script that plays through is a run.** -/
theorem run_of_script {p : MirrorWorld ι → Bool} (hcalls : Calls c moves) (h : (playScript c moves).any p = true) :
    ∃ w m, Run c (start ι) w ∧ Service.Mirrors Mirror.Reflects m w ∧ p m = true := by
  obtain ⟨m, hm, hp⟩ := (Option.any_eq_true _ _).mp h
  obtain ⟨w, hrun, hmirrors⟩ := Service.play_simulates (S := system ι c) (R := Mirror.Reflects)
    (w := start ι)
    (fun hrun hcall hR hr => Mirror.respond_sound (holds_run hrun).inv
      ((holds_run hrun).asked hcall) hR hr)
    hcalls .refl ⟨Mirror.reflects_initial, rfl, rfl⟩ hm
  exact ⟨w, m, hrun, hmirrors, hp⟩

end Draft

end AgentPlatform
