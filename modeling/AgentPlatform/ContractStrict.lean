/-
AgentPlatform/ContractStrict.lean

How strict the decoder of the execution-authority contract is: which mappings it answers
with `ExecutionContractError`, and what it makes of the fields that hold tuples.

Two inputs get past it. A timestamp whose instant in UTC is no date of the calendar
raises an `OverflowError`, which is no `ValueError`; and `tuple(value)` takes a string or
a mapping for the list of its characters or of its keys. **`fromMapping_strict_iff`**
says of each class that there is no third.
-/
import AgentPlatform.ContractRoundTrip

namespace AgentPlatform

open Py

/-! ### Exceptions -/

/-- Nothing but `ExecutionContractError` is raised. -/
def FailsClosed {α : Type} (x : Except Failure α) : Prop :=
  ∀ e, x = .error e → ∃ code, e = .executionContract code

/-- Nothing is raised. -/
def Passes {α : Type} (x : Except Failure α) : Prop := ∃ a, x = .ok a

@[simp] theorem failsClosed_ok {α : Type} (a : α) : FailsClosed (.ok a) := by
  intro e h
  cases h

@[simp] theorem failsClosed_error {α : Type} (code : String) :
    FailsClosed (.error (.executionContract code) : Except Failure α) := by
  intro e h
  cases h
  exact ⟨code, rfl⟩

theorem failsClosed_overflow {α : Type} : ¬ FailsClosed (.error .overflowError : Except Failure α) := by
  intro h
  obtain ⟨code, hcode⟩ := h _ rfl
  cases hcode

theorem failsClosed_bind {α β : Type} {x : Except Failure α} {f : α → Except Failure β} :
    FailsClosed (x >>= f) ↔ FailsClosed x ∧ ∀ a, x = .ok a → FailsClosed (f a) := by
  cases x with
  | error e =>
    constructor
    · intro h
      refine ⟨fun e' he => ?_, fun a ha => by cases ha⟩
      cases he
      exact h e rfl
    · rintro ⟨h, -⟩ e' he
      cases he
      exact h e rfl
  | ok a =>
    constructor
    · intro h
      refine ⟨failsClosed_ok a, fun b hb => ?_⟩
      cases hb
      exact h
    · rintro ⟨-, h⟩
      exact h a rfl

theorem passes_bind {α β : Type} {x : Except Failure α} {f : α → Except Failure β} :
    Passes (x >>= f) ↔ ∃ a, x = .ok a ∧ Passes (f a) := by
  simp only [Passes, bind_eq_ok]
  exact ⟨fun ⟨b, a, ha, hb⟩ => ⟨a, ha, b, hb⟩, fun ⟨a, ha, b, hb⟩ => ⟨b, a, ha, hb⟩⟩

theorem failsClosed_dite {α : Type} {c : Prop} [Decidable c] {f : c → Except Failure α}
    {g : ¬ c → Except Failure α} :
    FailsClosed (dite c f g) ↔ (∀ h, FailsClosed (f h)) ∧ ∀ h, FailsClosed (g h) := by
  by_cases h : c
  · simp [h]
  · simp [h]

theorem passes_dite {α : Type} {c : Prop} [Decidable c] {f : c → Except Failure α}
    {g : ¬ c → Except Failure α} :
    Passes (dite c f g) ↔ (∃ h, Passes (f h)) ∨ ∃ h, Passes (g h) := by
  by_cases h : c
  · simp [h]
  · simp [h]

@[simp] theorem passes_error {α : Type} (e : Failure) : ¬ Passes (.error e : Except Failure α) := by
  rintro ⟨a, h⟩
  cases h

@[simp] theorem passes_ok {α : Type} (a : α) : Passes (.ok a) := ⟨a, rfl⟩

theorem failsClosed_map {α β : Type} {x : Except Failure α} {f : α → β} :
    FailsClosed (x.map f) ↔ FailsClosed x := by
  cases x with
  | error e =>
    constructor
    · intro h e' he
      cases he
      exact h e rfl
    · intro h e' he
      cases he
      exact h e rfl
  | ok a => exact iff_of_true (failsClosed_ok _) (failsClosed_ok _)

theorem failsClosed_mapM {α β : Type} {f : α → Except Failure β} (hf : ∀ a, FailsClosed (f a))
    (l : List α) : FailsClosed (l.mapM f) := by
  induction l with
  | nil => exact failsClosed_ok _
  | cons a l ih =>
    rw [List.mapM_cons]
    exact failsClosed_bind.mpr ⟨hf a, fun b _ => failsClosed_bind.mpr ⟨ih, fun bs _ => failsClosed_ok _⟩⟩

section Strict

variable [Unicodedata]

/-! ### Fields -/

theorem jsonText_closed (maximum : Nat) (code : String) (v : Json) :
    FailsClosed (jsonText maximum code v) := by
  unfold jsonText normalizedText
  split
  · split <;> simp
  · simp

omit [Unicodedata] in
theorem jsonGeneration_closed (v : Json) : FailsClosed (jsonGeneration v) := by
  unfold jsonGeneration
  split
  · split <;> simp
  · simp

omit [Unicodedata] in
theorem member_closed {α : Type} (all : List α) (value : α → String) (v : Json) :
    FailsClosed (member all value v) := by
  unfold member invalidValue
  split
  · split <;> simp
  · simp

theorem jsonScope_closed (v : Json) : FailsClosed (jsonScope v) := by
  unfold jsonScope invalidValue
  split
  · simp only [failsClosed_bind, jsonText_closed, failsClosed_ok, implies_true, and_self]
  · simp

theorem jsonCorrelation_closed (v : Json) : FailsClosed (jsonCorrelation v) := by
  unfold jsonCorrelation invalidValue
  split
  · simp only [failsClosed_bind, jsonText_closed, failsClosed_ok, implies_true, and_self]
  · simp

omit [Unicodedata] in
theorem jsonTuple_closed (v : Json) : FailsClosed (jsonTuple v) := by
  unfold jsonTuple invalidValue
  split <;> simp

omit [Unicodedata] in
theorem jsonDatetime_closed (v : Json) : FailsClosed (jsonDatetime v) := by
  unfold jsonDatetime invalidValue
  split
  · split <;> simp
  · simp

/-- Only the converter of a nested command can raise anything else. -/
theorem Converter.convert_closed {nested : Json → Except Failure NativeDispatchCommand} {v : Json}
    {c : Converter} (h : c = .command → FailsClosed (nested v)) : FailsClosed (c.convert nested v) := by
  cases c with
  | opaqueId cls => exact failsClosed_map.mpr (jsonText_closed _ _ _)
  | optionalRuntimeInstanceId =>
    have hv : v = .null ∨ Converter.convert nested v .optionalRuntimeInstanceId =
        (jsonText maxIdBytes "INVALID_PRODUCT_ID" v).map (.opaqueId .runtimeInstance) := by
      cases v <;> first | exact .inl rfl | exact .inr rfl
    rcases hv with rfl | hv
    · exact failsClosed_ok _
    · rw [hv]
      exact failsClosed_map.mpr (jsonText_closed _ _ _)
  | scope => exact failsClosed_map.mpr (jsonScope_closed _)
  | generation => exact failsClosed_map.mpr (jsonGeneration_closed _)
  | decision => exact failsClosed_map.mpr (member_closed _ _ _)
  | desiredState => exact failsClosed_map.mpr (member_closed _ _ _)
  | observedState => exact failsClosed_map.mpr (member_closed _ _ _)
  | health => exact failsClosed_map.mpr (member_closed _ _ _)
  | readiness => exact failsClosed_map.mpr (member_closed _ _ _)
  | terminalKind => exact failsClosed_map.mpr (member_closed _ _ _)
  | command => exact failsClosed_map.mpr (h rfl)
  | correlation =>
    have hv : v = .null ∨ Converter.convert nested v .correlation =
        (jsonCorrelation v).map .correlation := by
      cases v <;> first | exact .inl rfl | exact .inr rfl
    rcases hv with rfl | hv
    · exact failsClosed_ok _
    · rw [hv]
      exact failsClosed_map.mpr (jsonCorrelation_closed _)
  | tuple => exact failsClosed_map.mpr (jsonTuple_closed _)
  | datetime => exact failsClosed_map.mpr (jsonDatetime_closed _)

/-! ### The loops of the decoder -/

variable {nested : Json → Except Failure NativeDispatchCommand} {names : List String} {m : Json}

/-- `v` holds what the converters make of the fields. -/
def Converted (nested : Json → Except Failure NativeDispatchCommand) (names : List String) (m : Json)
    (v : String → Value) : Prop :=
  ∀ name, if name ∈ names then Converts nested name (fieldOf m name) (v name)
    else v name = .json (fieldOf m name)

/-- One round of the loops. -/
def convertField (nested : Json → Except Failure NativeDispatchCommand) (names : List String) (m : Json)
    (values : String → Value) (entry : String × Converter) : Except Failure (String → Value) :=
  if entry.1 ∈ names then
    (entry.2.convert nested (fieldOf m entry.1)).map (Function.update values entry.1)
  else .ok values

theorem convertFields_eq (nested : Json → Except Failure NativeDispatchCommand) (names : List String)
    (m : Json) : convertFields nested names m =
      conversions.foldlM (convertField nested names m) fun name => .json (fieldOf m name) := rfl

/-- Every field that a loop passes is converted. -/
theorem foldlM_convertField {table : List (String × Converter)} {values out : String → Value}
    (h : table.foldlM (convertField nested names m) values = .ok out) :
    ∀ entry ∈ table, entry.1 ∈ names →
      ∃ value, entry.2.convert nested (fieldOf m entry.1) = .ok value := by
  induction table generalizing values with
  | nil =>
    intro entry hentry
    cases hentry
  | cons entry table ih =>
    rw [List.foldlM_cons] at h
    obtain ⟨next, hnext, hrest⟩ := bind_eq_ok.mp h
    intro entry' hentry' hname
    rcases List.mem_cons.mp hentry' with rfl | hentry'
    · rw [convertField, if_pos hname] at hnext
      obtain ⟨value, hvalue, -⟩ := map_eq_ok.mp hnext
      exact ⟨value, hvalue⟩
    · exact ih hrest entry' hentry' hname

/-- The loops make `v` of the fields if the converters do. -/
theorem Converted.convertFields {v : String → Value} (h : Converted nested names m v) :
    convertFields nested names m = .ok v := by
  have hconvert : ∀ entry ∈ conversions, entry.1 ∈ names →
      entry.2.convert nested (fieldOf m entry.1) = .ok (v entry.1) := by
    intro entry hentry hname
    have hv := h entry.1
    rw [if_pos hname, Converts, lookup_conversions entry hentry] at hv
    exact hv
  rw [AgentPlatform.convertFields, foldlM_convert v hconvert]
  congr 1
  funext name
  have hv := h name
  by_cases hin : name ∈ names
  · rw [if_pos hin] at hv
    by_cases htable : name ∈ conversions.map Prod.fst
    · rw [if_pos ⟨hin, htable⟩]
    · rw [if_neg fun hc => htable hc.2]
      have hnone : conversions.lookup name = none := by
        rw [List.lookup_eq_none_iff]
        intro p hp
        simp only [bne_iff_ne, ne_eq]
        rintro heq
        exact htable (heq ▸ List.mem_map_of_mem hp)
      rw [Converts, hnone] at hv
      exact hv.symm
  · rw [if_neg hin] at hv
    rw [if_neg fun hc => hin hc.1, hv]

/-- **What the loops make of the fields.** -/
theorem convertFields_eq_ok {v : String → Value} :
    convertFields nested names m = .ok v ↔ Converted nested names m v := by
  refine ⟨fun h => ?_, Converted.convertFields⟩
  have hpassed := foldlM_convertField (show conversions.foldlM (convertField nested names m) _ = .ok v from h)
  have hall : ∀ name, ∃ value, if name ∈ names then Converts nested name (fieldOf m name) value
      else value = .json (fieldOf m name) := by
    intro name
    by_cases hin : name ∈ names
    · simp only [if_pos hin]
      rcases hlookup : conversions.lookup name with _ | c
      · exact ⟨.json (fieldOf m name), by rw [Converts, hlookup]⟩
      · obtain ⟨before, after, htable, -⟩ := List.lookup_eq_some_iff.mp hlookup
        have hmem : (name, c) ∈ conversions := by simp [htable]
        obtain ⟨value, hvalue⟩ := hpassed (name, c) hmem hin
        exact ⟨value, by rw [Converts, hlookup]; exact hvalue⟩
    · simp only [if_neg hin]
      exact ⟨_, rfl⟩
  choose target htarget using hall
  have htarget : Converted nested names m target := htarget
  rw [htarget.convertFields] at h
  cases h
  exact htarget

/-- Rounds for fields the record lacks do nothing. -/
theorem foldlM_convertField_filter (table : List (String × Converter)) (values : String → Value) :
    table.foldlM (convertField nested names m) values =
      (table.filter (·.1 ∈ names)).foldlM (convertField nested names m) values := by
  induction table generalizing values with
  | nil => rfl
  | cons entry table ih =>
    rw [List.foldlM_cons]
    by_cases hname : entry.1 ∈ names
    · rw [List.filter_cons_of_pos (by simpa using hname), List.foldlM_cons]
      exact congrArg _ (funext fun values => ih values)
    · rw [List.filter_cons_of_neg (by simpa using hname), convertField, if_neg hname]
      exact ih values

theorem foldlM_convertField_closed {table : List (String × Converter)} {values : String → Value}
    (h : ∀ entry ∈ table, entry.1 ∈ names → entry.2 ≠ .command) :
    FailsClosed (table.foldlM (convertField nested names m) values) := by
  induction table generalizing values with
  | nil => exact failsClosed_ok _
  | cons entry table ih =>
    have hstep : FailsClosed (convertField nested names m values entry) := by
      unfold convertField
      split
      · next hname =>
        refine failsClosed_map.mpr (Converter.convert_closed fun hcommand => ?_)
        exact absurd hcommand (h entry List.mem_cons_self hname)
      · exact failsClosed_ok _
    rw [List.foldlM_cons]
    refine failsClosed_bind.mpr ⟨hstep, fun next _ => ih fun entry he => ?_⟩
    exact h entry (List.mem_cons_of_mem _ he)

/-- A record without a nested command is converted or refused. -/
theorem convertFields_closed (h : "command" ∉ names) : FailsClosed (convertFields nested names m) := by
  refine foldlM_convertField_closed fun entry hentry hname hcommand => h ?_
  have hcommands : ∀ entry ∈ conversions, entry.2 = .command → entry.1 = "command" := by
    decide +kernel
  rw [← hcommands entry hentry hcommand]
  exact hname

/-- A record without a nested command does not need the decoder of commands. -/
theorem convertFields_nested (h : "command" ∉ names)
    (nested' : Json → Except Failure NativeDispatchCommand) :
    convertFields nested names m = convertFields nested' names m := by
  have hcommands : ∀ entry ∈ conversions, entry.2 = .command → entry.1 = "command" := by
    decide +kernel
  have hstep : ∀ entry ∈ conversions, ∀ values,
      convertField nested names m values entry = convertField nested' names m values entry := by
    intro entry hentry values
    unfold convertField
    split
    · next hname =>
      have hne : entry.2 ≠ .command := fun hcommand => h (hcommands entry hentry hcommand ▸ hname)
      have hconvert : entry.2.convert nested (fieldOf m entry.1) =
          entry.2.convert nested' (fieldOf m entry.1) := by
        cases hc : entry.2 with
        | command => exact absurd hc hne
        | _ => rfl
      rw [hconvert]
    · rfl
  rw [convertFields_eq, convertFields_eq]
  generalize (fun name => Value.json (fieldOf m name)) = values
  revert values hstep
  generalize conversions = table
  intro hstep
  induction table with
  | nil => exact fun _ => rfl
  | cons entry table ih =>
    intro values
    rw [List.foldlM_cons, List.foldlM_cons, hstep entry List.mem_cons_self]
    exact congrArg _ (funext (ih fun entry hentry => hstep entry (List.mem_cons_of_mem _ hentry)))

/-- The loops over the fields of a claim: its generation, the command, the lease. -/
theorem convertFields_claim {v : Json} :
    FailsClosed (convertFields nested NativeDispatchClaim.fieldNames v) ↔
      (Passes (jsonGeneration (fieldOf v "claim_generation")) →
        FailsClosed (nested (fieldOf v "command"))) := by
  have htable : conversions.filter (·.1 ∈ NativeDispatchClaim.fieldNames) =
      [("claim_generation", .generation), ("command", .command), ("lease_expires_at", .datetime)] := by
    decide +kernel
  have hgeneration : ∀ values, convertField nested NativeDispatchClaim.fieldNames v values
      ("claim_generation", .generation) = ((jsonGeneration (fieldOf v "claim_generation")).map
        Value.generation).map (Function.update values "claim_generation") :=
    fun values => if_pos (by decide)
  have hcommand : ∀ values, FailsClosed (convertField nested NativeDispatchClaim.fieldNames v values
      ("command", .command)) ↔ FailsClosed (nested (fieldOf v "command")) := by
    intro values
    rw [convertField, if_pos (by decide), failsClosed_map]
    exact failsClosed_map
  have hlease : ∀ values, FailsClosed (convertField nested NativeDispatchClaim.fieldNames v values
      ("lease_expires_at", .datetime)) := by
    intro values
    rw [convertField, if_pos (by decide), failsClosed_map]
    exact Converter.convert_closed fun h => by cases h
  rw [convertFields_eq, foldlM_convertField_filter, htable]
  simp only [List.foldlM_cons, List.foldlM_nil, failsClosed_bind, hgeneration, hcommand, hlease,
    failsClosed_map, jsonGeneration_closed, true_and, pure, Except.pure, failsClosed_ok, implies_true,
    and_true, map_eq_ok, Passes]
  constructor
  · rintro h ⟨generation, hgeneration⟩
    exact h _ ⟨_, ⟨generation, hgeneration, rfl⟩, rfl⟩
  · rintro h _ ⟨_, ⟨generation, hgeneration, rfl⟩, rfl⟩
    exact h ⟨generation, hgeneration⟩

/-! ### The checks of the constructors -/

theorem requireId_closed (cls : IdClass) (code : String) (v : Value) :
    FailsClosed (requireId cls code v) := by
  unfold requireId
  split
  · split <;> simp
  · simp

theorem requireScope_closed (code : String) (v : Value) : FailsClosed (requireScope code v) := by
  unfold requireScope
  split <;> simp

theorem requireGeneration_closed (code : String) (v : Value) :
    FailsClosed (requireGeneration code v) := by
  unfold requireGeneration
  split <;> simp

theorem textField_closed (maximum : Nat) (code : String) (v : Value) :
    FailsClosed (textField maximum code v) := by
  unfold textField
  split
  · exact jsonText_closed _ _ _
  · simp

theorem optionalTextField_closed (maximum : Nat) (code : String) (v : Value) :
    FailsClosed (optionalTextField maximum code v) := by
  unfold optionalTextField
  split
  · simp
  · exact failsClosed_map.mpr (textField_closed _ _ _)

theorem codesField_closed (code : String) (v : Value) : FailsClosed (codesField code v) := by
  unfold codesField
  split
  · refine failsClosed_bind.mpr ⟨failsClosed_mapM (jsonText_closed _ _) _, fun references _ => ?_⟩
    unfold codesOf
    split
    · split <;> simp
    · simp
  · simp

theorem digestField_closed (v : Value) : FailsClosed (digestField v) := by
  unfold digestField
  split
  · split <;> simp
  · simp

theorem timeoutField_closed (v : Value) : FailsClosed (timeoutField v) := by
  unfold timeoutField
  split
  · split <;> simp
  · simp

theorem authenticationSourceOf_closed (t : Reference) : FailsClosed (authenticationSourceOf t) := by
  unfold authenticationSourceOf
  split
  · simp
  · split <;> simp

theorem requireDesiredState_closed (v : Value) : FailsClosed (requireDesiredState v) := by
  unfold requireDesiredState
  split <;> simp

theorem requireObservedState_closed (v : Value) : FailsClosed (requireObservedState v) := by
  unfold requireObservedState
  split <;> simp

theorem requireHealth_closed (v : Value) : FailsClosed (requireHealth v) := by
  unfold requireHealth
  split <;> simp

theorem requireReadiness_closed (v : Value) : FailsClosed (requireReadiness v) := by
  unfold requireReadiness
  split <;> simp

theorem optionalCorrelation_closed (v : Value) : FailsClosed (optionalCorrelation v) := by
  unfold optionalCorrelation
  split <;> simp

theorem requireCommand_closed (v : Value) : FailsClosed (requireCommand v) := by
  unfold requireCommand
  split <;> simp

theorem requireTerminalKind_closed (v : Value) : FailsClosed (requireTerminalKind v) := by
  unfold requireTerminalKind
  split <;> simp

/-- The instant of a timestamp, if it has one, lies in the calendar. -/
def Representable : Value → Prop
  | .datetime d => ∀ offset, d.offset = some offset →
      0 ≤ d.micros - offset ∧ (d.micros - offset).toNat < maxMicros
  | _ => True

/-- **A timestamp** is accepted or refused exactly if its instant lies in the calendar. -/
theorem timestampField_closed {code : String} {v : Value} :
    FailsClosed (timestampField code v) ↔ Representable v := by
  cases v with
  | datetime d =>
    unfold timestampField Representable
    rcases d with ⟨micros, _ | offset⟩
    · simp
    · by_cases h : 0 ≤ (micros : Int) - offset ∧ ((micros : Int) - offset).toNat < maxMicros
      · simp only [dif_pos h, Option.some.injEq, forall_eq']
        exact iff_of_true (failsClosed_ok _) h
      · simp only [dif_neg h, Option.some.injEq, forall_eq']
        exact iff_of_false failsClosed_overflow h
  | _ => exact iff_of_true (failsClosed_error _) trivial

/-! ### Requests -/

/-- What a request asks of its fields before it looks at `requested_at`. -/
def PlacementRequest.ReachesTimestamp (v : String → Value) : Prop :=
  Passes (requireId .placementRequest "INVALID_REQUEST_ID" (v "request_id")) ∧
    Passes (requireScope "INVALID_SCOPE" (v "scope")) ∧
    Passes (requireId .workflowRun "INVALID_WORKFLOW_RUN_ID" (v "workflow_run_id")) ∧
    Passes (requireId .taskRun "INVALID_TASK_RUN_ID" (v "task_run_id")) ∧
    Passes (requireId .attempt "INVALID_ATTEMPT_ID" (v "attempt_id")) ∧
    Passes (requireId .agentInstance "INVALID_AGENT_INSTANCE_ID" (v "agent_instance_id")) ∧
    Passes (textField maxValueBytes "INVALID_REVISION" (v "agent_revision_id")) ∧
    Passes (textField maxValueBytes "INVALID_REVISION" (v "runtime_profile_revision_id")) ∧
    Passes (codesField "INVALID_REQUIREMENTS" (v "capability_requirements")) ∧
    Passes (codesField "INVALID_REQUIREMENTS" (v "resource_requirements")) ∧
    Passes (codesField "INVALID_REQUIREMENTS" (v "isolation_requirements")) ∧
    Passes (codesField "INVALID_REQUIREMENTS" (v "state_requirements"))

theorem PlacementRequest.construct_closed {v : String → Value} :
    FailsClosed (construct v) ↔ (ReachesTimestamp v → Representable (v "requested_at")) := by
  simp only [construct, ReachesTimestamp, Passes, failsClosed_bind, requireId_closed,
    requireScope_closed, textField_closed, codesField_closed, timestampField_closed, failsClosed_ok,
    true_and, implies_true, and_true, and_imp, forall_exists_index]

theorem PlacementRequest.construct_accepted {v : String → Value} :
    Passes (construct v) ↔
      ReachesTimestamp v ∧ Passes (timestampField "INVALID_REQUESTED_AT" (v "requested_at")) := by
  simp only [construct, ReachesTimestamp, passes_bind, passes_ok, and_true, exists_and_right,
    and_assoc]
  rfl

/-! ### Desired and observed states -/

/-- What a desired state asks of its fields before it looks at `requested_at`. -/
def RuntimeDesiredState.ReachesTimestamp (v : String → Value) : Prop :=
  Passes (requireId .runtimeInstance "INVALID_RUNTIME_INSTANCE_ID" (v "runtime_instance_id")) ∧
    Passes (requireGeneration "INVALID_DESIRED_GENERATION" (v "desired_generation")) ∧
    Passes (requireDesiredState (v "desired_state")) ∧
    Passes (requireId .command "INVALID_COMMAND_ID" (v "command_id")) ∧
    Passes (textField maxValueBytes "INVALID_REQUESTED_BY" (v "requested_by")) ∧
    Passes (textField maxValueBytes "INVALID_REASON_CLASSIFICATION" (v "reason_classification"))

theorem RuntimeDesiredState.construct_closed {v : String → Value} :
    FailsClosed (construct v) ↔ (ReachesTimestamp v → Representable (v "requested_at") ∧
      (Passes (timestampField "INVALID_REQUESTED_AT" (v "requested_at")) →
        Representable (v "deadline"))) := by
  simp only [construct, ReachesTimestamp, Passes, failsClosed_bind, failsClosed_dite, requireId_closed,
    requireGeneration_closed, requireDesiredState_closed, textField_closed, timestampField_closed,
    failsClosed_ok, failsClosed_error, true_and, implies_true, and_true, and_imp, forall_exists_index]

/-- What an observation asks of its fields before it looks at `observed_at`. -/
def RuntimeObservation.ReachesTimestamp (v : String → Value) : Prop :=
  Passes (requireId .observation "INVALID_OBSERVATION_ID" (v "observation_id")) ∧
    Passes (requireId .runtimeInstance "INVALID_RUNTIME_INSTANCE_ID" (v "runtime_instance_id")) ∧
    Passes (requireGeneration "INVALID_OBSERVED_GENERATION" (v "observed_generation")) ∧
    Passes (requireObservedState (v "observed_state")) ∧
    Passes (requireHealth (v "health")) ∧
    Passes (requireReadiness (v "readiness")) ∧
    Passes (optionalCorrelation (v "provider_correlation")) ∧
    Passes (optionalCorrelation (v "kubernetes_correlation"))

/-- The rest of what an observation asks of its fields. -/
def RuntimeObservation.Fresh (v : String → Value) : Prop :=
  ∃ observedAt freshnessDeadline,
    timestampField "INVALID_OBSERVED_AT" (v "observed_at") = .ok observedAt ∧
    timestampField "INVALID_FRESHNESS_DEADLINE" (v "freshness_deadline") = .ok freshnessDeadline ∧
    observedAt < freshnessDeadline ∧
    Passes (codesField "INVALID_LIMITATION_CODES" (v "limitation_codes"))

theorem RuntimeObservation.construct_closed {v : String → Value} :
    FailsClosed (construct v) ↔ (ReachesTimestamp v → Representable (v "observed_at") ∧
      (Passes (timestampField "INVALID_OBSERVED_AT" (v "observed_at")) →
        Representable (v "freshness_deadline"))) := by
  simp only [construct, ReachesTimestamp, Passes, failsClosed_bind, failsClosed_dite, requireId_closed,
    requireGeneration_closed, requireObservedState_closed, requireHealth_closed, requireReadiness_closed,
    optionalCorrelation_closed, codesField_closed, timestampField_closed, failsClosed_ok,
    failsClosed_error, true_and, implies_true, and_true, and_imp, forall_exists_index]

theorem RuntimeObservation.construct_accepted {v : String → Value} :
    Passes (construct v) ↔ ReachesTimestamp v ∧ Fresh v := by
  simp only [construct, ReachesTimestamp, Fresh, passes_bind, passes_dite, passes_ok, passes_error,
    and_true, exists_and_right, exists_and_left, and_assoc, exists_false, or_false, exists_prop]
  rfl

/-! ### Commands, claims and terminal observations -/

/-- What a command asks of its fields before it looks at `queued_at`. -/
def NativeDispatchCommand.ReachesTimestamp (v : String → Value) : Prop :=
  let identity := fun name => Passes (textField maxValueBytes "INVALID_DISPATCH_IDENTITY" (v name))
  Passes (requireId .command "INVALID_COMMAND_ID" (v "command_id")) ∧
    Passes (requireScope "INVALID_SCOPE_IDENTITY" (v "scope")) ∧
    Passes (requireId .attempt "INVALID_ATTEMPT_ID" (v "attempt_id")) ∧
    Passes (requireId .assignment "INVALID_ASSIGNMENT_ID" (v "assignment_id")) ∧
    Passes (requireId .placement "INVALID_PLACEMENT_ID" (v "placement_id")) ∧
    Passes (requireId .runtimeInstance "INVALID_RUNTIME_INSTANCE_ID" (v "runtime_instance_id")) ∧
    Passes (requireGeneration "INVALID_RUNTIME_GENERATION" (v "runtime_generation")) ∧
    Passes (requireId .agentInstance "INVALID_AGENT_INSTANCE_ID" (v "agent_instance_id")) ∧
    Passes (requireGeneration "INVALID_AUTHORITY_GENERATION" (v "authority_generation")) ∧
    Passes (requireGeneration "INVALID_RECOVERY_EPOCH" (v "recovery_epoch")) ∧
    identity "principal_id" ∧ identity "credential_id" ∧
    ∃ source, textField maxValueBytes "INVALID_DISPATCH_IDENTITY" (v "authentication_source") = .ok source ∧
      identity "approved_plan_revision_id" ∧ identity "authorization_owner" ∧
      identity "authorization_action" ∧ identity "authorization_resource" ∧ identity "agent_name" ∧
      Passes (authenticationSourceOf source) ∧
      Passes (digestField (v "approved_plan_digest")) ∧ Passes (digestField (v "placement_digest")) ∧
      Passes (textField maxContentBytes "INVALID_DISPATCH_INPUT" (v "input_text")) ∧
      Passes (timeoutField (v "timeout_seconds"))

theorem NativeDispatchCommand.construct_closed {v : String → Value} :
    FailsClosed (construct v) ↔ (ReachesTimestamp v → Representable (v "queued_at")) := by
  simp only [construct, ReachesTimestamp, Passes, failsClosed_bind, requireId_closed,
    requireScope_closed, requireGeneration_closed, textField_closed, authenticationSourceOf_closed,
    digestField_closed, timeoutField_closed, timestampField_closed, failsClosed_ok,
    true_and, implies_true, and_true, and_imp, forall_exists_index]

/-- What a claim asks of its fields before it looks at `lease_expires_at`. -/
def NativeDispatchClaim.ReachesTimestamp (v : String → Value) : Prop :=
  Passes (requireCommand (v "command")) ∧
    Passes (requireGeneration "INVALID_CLAIM_GENERATION" (v "claim_generation")) ∧
    Passes (textField maxValueBytes "INVALID_DISPATCH_CLAIM" (v "fencing_token")) ∧
    Passes (textField maxValueBytes "INVALID_DISPATCH_CLAIM" (v "worker_id"))

theorem NativeDispatchClaim.construct_closed {v : String → Value} :
    FailsClosed (construct v) ↔ (ReachesTimestamp v → Representable (v "lease_expires_at")) := by
  simp only [construct, ReachesTimestamp, Passes, failsClosed_bind, requireCommand_closed,
    requireGeneration_closed, textField_closed, timestampField_closed, failsClosed_ok,
    true_and, implies_true, and_true, and_imp, forall_exists_index]

/-- What a terminal observation asks of its fields before it looks at `observed_at`. -/
def NativeTerminalObservation.ReachesTimestamp (v : String → Value) : Prop :=
  Passes (requireId .command "INVALID_COMMAND_ID" (v "command_id")) ∧
    ∃ kind, requireTerminalKind (v "kind") = .ok kind ∧
      Passes (textField maxValueBytes "INVALID_TASK_CORRELATION" (v "kubernetes_task_name")) ∧
      ∃ uid, optionalTextField maxValueBytes "INVALID_TASK_CORRELATION" (v "kubernetes_task_uid") = .ok uid ∧
      ∃ output, optionalTextField maxContentBytes "INVALID_TERMINAL_OBSERVATION" (v "output") = .ok output ∧
      ∃ reason, optionalTextField maxContentBytes "INVALID_TERMINAL_OBSERVATION" (v "reason") = .ok reason ∧
      (kind = .succeeded → output.isSome ∧ uid.isSome) ∧ (kind ≠ .succeeded → reason.isSome)

theorem NativeTerminalObservation.construct_closed {v : String → Value} :
    FailsClosed (construct v) ↔ (ReachesTimestamp v → Representable (v "observed_at")) := by
  simp only [construct, ReachesTimestamp, Passes, failsClosed_bind, failsClosed_dite, requireId_closed,
    requireTerminalKind_closed, textField_closed, optionalTextField_closed, timestampField_closed,
    failsClosed_ok, failsClosed_error, true_and, implies_true, and_true, and_imp, forall_exists_index]

/-! ### Placement decisions -/

section Decision

variable [CharacterTables]

/-- What a decision reads of its fields before it looks at `decided_at`. -/
structure PlacementDecision.Reads (v : String → Value) (placementId requestId : OpaqueId)
    (decision : PlacementDecisionKind) (runtimeInstanceId : Option RuntimeInstanceId)
    (policyVersion : Reference) (compatibilityFacts limitationCodes : Codes) : Prop where
  placement : requireId .placement "INVALID_PLACEMENT_ID" (v "placement_id") = .ok placementId
  request : requireId .placementRequest "INVALID_REQUEST_ID" (v "request_id") = .ok requestId
  kind : requireDecision (v "decision") = .ok decision
  runtime : decisionRuntime decision (v "runtime_instance_id") = .ok runtimeInstanceId
  policy : textField maxValueBytes "INVALID_POLICY_VERSION" (v "policy_version") =
    .ok policyVersion
  facts : codesField "INVALID_COMPATIBILITY_FACTS" (v "compatibility_facts") =
    .ok compatibilityFacts
  limitations : codesField "INVALID_LIMITATION_CODES" (v "limitation_codes") = .ok limitationCodes

def PlacementDecision.ReachesTimestamp (v : String → Value) : Prop :=
  ∃ placementId requestId decision runtimeInstanceId policyVersion compatibilityFacts limitationCodes,
    Reads v placementId requestId decision runtimeInstanceId policyVersion compatibilityFacts
      limitationCodes

/-- The digest among the fields is that of the other ones. -/
def PlacementDecision.Verifies (v : String → Value) : Prop :=
  ∃ placementId requestId decision runtimeInstanceId policyVersion compatibilityFacts limitationCodes
    decidedAt,
    Reads v placementId requestId decision runtimeInstanceId policyVersion compatibilityFacts
      limitationCodes ∧
    timestampField "INVALID_DECIDED_AT" (v "decided_at") = .ok decidedAt ∧
    v "digest" = .json (.str (canonicalDigest (.obj (decisionFields placementId requestId decision
      runtimeInstanceId policyVersion compatibilityFacts limitationCodes decidedAt))))

omit [CharacterTables] in
theorem requireDecision_closed (v : Value) : FailsClosed (requireDecision v) := by
  unfold requireDecision
  split <;> simp

omit [CharacterTables] in
theorem decisionRuntime_closed (decision : PlacementDecisionKind) (v : Value) :
    FailsClosed (decisionRuntime decision v) := by
  unfold decisionRuntime
  split
  · exact failsClosed_map.mpr (requireId_closed _ _ _)
  · simp
  · simp

theorem decisionDigestField_closed (v : Value) : FailsClosed (decisionDigestField v) := by
  unfold decisionDigestField
  split
  · split <;> simp
  · simp

theorem PlacementDecision.construct_closed {v : String → Value} :
    FailsClosed (construct v) ↔ (ReachesTimestamp v → Representable (v "decided_at")) := by
  simp only [construct, failsClosed_bind, requireId_closed, requireDecision_closed, true_and]
  constructor
  · rintro h ⟨placementId, requestId, decision, runtime, policy, facts, limits, hreads⟩
    have h := h _ hreads.placement _ hreads.request _ hreads.kind
    split at h
    · next e he =>
      rw [hreads.runtime] at he
      cases he
    · simp only [failsClosed_bind, textField_closed, codesField_closed, timestampField_closed, true_and] at h
      exact (h _ hreads.policy _ hreads.facts _ hreads.limitations).1
  · intro h placementId hplacement requestId hrequest decision hdecision
    split
    · next e he =>
      intro e' he'
      cases he'
      exact decisionRuntime_closed _ _ _ he
    · next runtime hruntime =>
      simp only [failsClosed_bind, textField_closed, codesField_closed, timestampField_closed,
        decisionDigestField_closed, failsClosed_ok, implies_true, and_true, true_and]
      intro policy hpolicy facts hfacts limits hlimits
      exact h ⟨placementId, requestId, decision, runtime, policy, facts, limits,
        ⟨hplacement, hrequest, hdecision, hruntime, hpolicy, hfacts, hlimits⟩⟩

theorem decisionDigestField_eq_ok {v : Value} {digest : { s : String // isDecisionDigest s = true }} :
    decisionDigestField v = .ok digest ↔ v = .json (.str digest.1) := by
  constructor
  · intro h
    unfold decisionDigestField at h
    split at h
    · split at h
      · cases h
        rfl
      · cases h
    · cases h
  · rintro rfl
    rw [decisionDigestField, dif_pos digest.2]

theorem PlacementDecision.verifyDigest_eq_ok {d : PlacementDecision} :
    d.verifyDigest = .ok () ↔ d.digest = canonicalDigest d.canonicalPayload := by
  rw [verifyDigest, ite_error_eq_ok', not_not, and_iff_left rfl]

/-- **A decision is accepted** exactly if its digest verifies. -/
theorem PlacementDecision.construct_verified {v : String → Value} :
    (∃ d, construct v = .ok d ∧ d.verifyDigest = .ok ()) ↔ Verifies v := by
  constructor
  · rintro ⟨d, h, hverified⟩
    simp only [construct, bind_eq_ok] at h
    obtain ⟨placementId, hplacement, requestId, hrequest, decision, hdecision, h⟩ := h
    split at h
    · cases h
    · next runtime hruntime =>
      simp only [bind_eq_ok] at h
      obtain ⟨policy, hpolicy, facts, hfacts, limits, hlimits, decidedAt, hdecided, digest, hdigest, h⟩ := h
      cases h
      refine ⟨placementId, requestId, decision, runtime, policy, facts, limits, decidedAt,
        ⟨hplacement, hrequest, hdecision, hruntime, hpolicy, hfacts, hlimits⟩, hdecided, ?_⟩
      have hsame : digest.1 = canonicalDigest (.obj (decisionFields placementId requestId decision runtime
          policy facts limits decidedAt)) := verifyDigest_eq_ok.mp hverified
      rw [decisionDigestField_eq_ok.mp hdigest, hsame]
  · rintro ⟨placementId, requestId, decision, runtime, policy, facts, limits, decidedAt, hreads, hdecided,
      hdigest⟩
    have hdigest := (@decisionDigestField_eq_ok _ _ (v "digest") ⟨_, isDecisionDigest_sha256 _⟩).mpr hdigest
    refine ⟨⟨placementId, requestId, decision, runtime, policy, facts, limits, decidedAt,
      canonicalDigest (.obj (decisionFields placementId requestId decision runtime policy facts limits
        decidedAt)), decisionRuntime_isSome hreads.runtime, isDecisionDigest_sha256 _⟩, ?_,
      verifyDigest_eq_ok.mpr rfl⟩
    simp only [construct, bind_eq_ok]
    refine ⟨placementId, hreads.placement, requestId, hreads.request, decision, hreads.kind, ?_⟩
    split
    · next e he =>
      rw [hreads.runtime] at he
      cases he
    · next r hr =>
      obtain rfl := Except.ok.inj (hr.symm.trans hreads.runtime)
      simp only [bind_eq_ok]
      exact ⟨policy, hreads.policy, facts, hreads.facts, limits, hreads.limitations,
        decidedAt, hdecided, _, hdigest, rfl⟩

end Decision

/-! ### Strict decoding -/

/-- **Strict decoding**: a mapping is refused with the contract's own exception, or it is
accepted and its list fields were lists of strings. -/
def Strict {α : Type} (decode : Json → Except Failure α) (listFields : List String) (m : Json) : Prop :=
  FailsClosed (decode m) ∧ (Passes (decode m) →
    ∀ name ∈ listFields, ∃ texts : List String, fieldOf m name = .arr (texts.map .str))

/-- A value `tuple` takes that is no list. -/
def Bare (v : Json) : Prop := (∃ s, v = .str s) ∨ ∃ fields, v = .obj fields

/-- The mapping has the fields of the record, and `v` holds what the converters make of them. -/
def Presented (names : List String) (m : Json) (v : String → Value) : Prop :=
  hasFields names m = true ∧ Converted NativeDispatchCommand.fromMapping names m v

theorem mapM_jsonText_texts {code : String} {items : List Json} {references : List Reference}
    (h : items.mapM (jsonText maxValueBytes code) = .ok references) :
    ∃ texts : List String, items = texts.map .str := by
  have hforall := mapM_eq_ok.mp h
  clear h
  induction hforall with
  | nil => exact ⟨[], rfl⟩
  | cons hone _ ih =>
    rename_i item reference items references _
    obtain ⟨texts, rfl⟩ := ih
    cases item with
    | str s => exact ⟨s :: texts, rfl⟩
    | _ => cases hone

/-- A list field that is accepted was a list of strings, or else a string or a mapping. -/
theorem list_iff_of_accepted {name code : String} {m : Json} {value : Value}
    (hconverts : Converts nested name (fieldOf m name) value)
    (hlookup : conversions.lookup name = some .tuple) (h : Passes (codesField code value)) :
    (∃ texts : List String, fieldOf m name = .arr (texts.map .str)) ↔ ¬ Bare (fieldOf m name) := by
  rw [Converts, hlookup] at hconverts
  obtain ⟨items, hitems, rfl⟩ := map_eq_ok.mp hconverts
  obtain ⟨codes, hcodes⟩ := h
  obtain ⟨references, hreferences, -⟩ := bind_eq_ok.mp hcodes
  rcases hv : fieldOf m name with _ | b | n | s | l | fields
  · rw [hv] at hitems
    cases hitems
  · rw [hv] at hitems
    cases hitems
  · rw [hv] at hitems
    cases hitems
  · refine iff_of_false ?_ (not_not.mpr (.inl ⟨s, rfl⟩))
    rintro ⟨texts, htexts⟩
    cases htexts
  · rw [hv] at hitems
    cases hitems
    obtain ⟨texts, htexts⟩ := mapM_jsonText_texts hreferences
    refine iff_of_true ⟨texts, by rw [htexts]⟩ ?_
    rintro (⟨s, hs⟩ | ⟨fields, hfields⟩)
    · cases hs
    · cases hfields
  · refine iff_of_false ?_ (not_not.mpr (.inr ⟨fields, rfl⟩))
    rintro ⟨texts, htexts⟩
    cases htexts

theorem fromMappingWith_closed {α : Type} {names : List String} {construct : (String → Value) → Except Failure α}
    {m : Json} : FailsClosed (fromMappingWith nested names construct m) ↔
      (hasFields names m = true → FailsClosed (convertFields nested names m) ∧
        ∀ v, Converted nested names m v → FailsClosed (construct v)) := by
  unfold fromMappingWith
  split
  · next h => simp only [failsClosed_bind, convertFields_eq_ok, h, forall_const]
  · next h => exact iff_of_true (failsClosed_error _) (fun hfields => absurd hfields h)

theorem fromMappingWith_eq_ok {α : Type} {names : List String}
    {construct : (String → Value) → Except Failure α} {m : Json} {x : α} :
    fromMappingWith nested names construct m = .ok x ↔
      hasFields names m = true ∧ ∃ v, Converted nested names m v ∧ construct v = .ok x := by
  unfold fromMappingWith
  split
  · next h => simp only [bind_eq_ok, convertFields_eq_ok, h, true_and]
  · next h => exact iff_of_false (by simp) fun hfields => h hfields.1

/-- **Which mappings are decoded strictly**, for a record without a nested command. -/
theorem strict_iff_of {α : Type} {names listFields : List String}
    {construct : (String → Value) → Except Failure α} {m : Json} (hcommand : "command" ∉ names)
    (hlists : ∀ name ∈ listFields, name ∈ names ∧ conversions.lookup name = some .tuple)
    (hcodes : ∀ v, Passes (construct v) → ∀ name ∈ listFields, ∃ code, Passes (codesField code (v name))) :
    Strict (fromMappingWith NativeDispatchCommand.fromMapping names construct) listFields m ↔
      ∀ v, Presented names m v → FailsClosed (construct v) ∧
        (Passes (construct v) → ∀ name ∈ listFields, ¬ Bare (fieldOf m name)) := by
  have hlist : ∀ v, Presented names m v → Passes (construct v) → ∀ name ∈ listFields,
      ((∃ texts : List String, fieldOf m name = .arr (texts.map .str)) ↔ ¬ Bare (fieldOf m name)) := by
    intro v hv haccepted name hname
    obtain ⟨hin, hlookup⟩ := hlists name hname
    obtain ⟨code, hcode⟩ := hcodes v haccepted name hname
    have hconverts := hv.2 name
    rw [if_pos hin] at hconverts
    exact list_iff_of_accepted hconverts hlookup hcode
  rw [Strict, fromMappingWith_closed]
  constructor
  · rintro ⟨hclosed, haccepted⟩ v hv
    refine ⟨(hclosed hv.1).2 v hv.2, fun hconstruct name hname => ?_⟩
    obtain ⟨x, hx⟩ := hconstruct
    exact (hlist v hv ⟨x, hx⟩ name hname).mp
      (haccepted ⟨x, fromMappingWith_eq_ok.mpr ⟨hv.1, v, hv.2, hx⟩⟩ name hname)
  · intro h
    refine ⟨fun hfields => ⟨convertFields_closed hcommand, fun v hv => (h v ⟨hfields, hv⟩).1⟩, ?_⟩
    rintro ⟨x, hx⟩ name hname
    obtain ⟨hfields, v, hv, hconstruct⟩ := fromMappingWith_eq_ok.mp hx
    exact (hlist v ⟨hfields, hv⟩ ⟨x, hconstruct⟩ name hname).mpr
      ((h v ⟨hfields, hv⟩).2 ⟨x, hconstruct⟩ name hname)

/-! ### The classes -/

def PlacementRequest.listFields : List String :=
  ["capability_requirements", "resource_requirements", "isolation_requirements", "state_requirements"]

def PlacementDecision.listFields : List String := ["compatibility_facts", "limitation_codes"]

def RuntimeObservation.listFields : List String := ["limitation_codes"]

/-- The mappings the decoder of requests is strict on. -/
def PlacementRequest.Handled (m : Json) : Prop :=
  ∀ v, Presented fieldNames m v → ReachesTimestamp v →
    Representable (v "requested_at") ∧
    (Passes (timestampField "INVALID_REQUESTED_AT" (v "requested_at")) →
      ∀ name ∈ listFields, ¬ Bare (fieldOf m name))

theorem PlacementRequest.strict_iff {m : Json} : Strict fromMapping listFields m ↔ Handled m := by
  rw [fromMapping, strict_iff_of (by decide) (by decide +kernel)]
  · refine forall_congr' fun v => forall_congr' fun _ => ?_
    rw [construct_closed, construct_accepted, and_imp]
    exact imp_and.symm
  · intro v h
    obtain ⟨-, -, -, -, -, -, -, -, h₁, h₂, h₃, h₄⟩ := (construct_accepted.mp h).1
    simp only [listFields, List.forall_mem_cons, List.not_mem_nil, false_imp_iff, implies_true, and_true]
    exact ⟨⟨_, h₁⟩, ⟨_, h₂⟩, ⟨_, h₃⟩, ⟨_, h₄⟩⟩

/-- The mappings the decoder of desired states is strict on. -/
def RuntimeDesiredState.Handled (m : Json) : Prop :=
  ∀ v, Presented fieldNames m v → ReachesTimestamp v →
    Representable (v "requested_at") ∧
    (Passes (timestampField "INVALID_REQUESTED_AT" (v "requested_at")) → Representable (v "deadline"))

/-- The mappings the decoder of observations is strict on. -/
def RuntimeObservation.Handled (m : Json) : Prop :=
  ∀ v, Presented fieldNames m v → ReachesTimestamp v →
    (Representable (v "observed_at") ∧
      (Passes (timestampField "INVALID_OBSERVED_AT" (v "observed_at")) →
        Representable (v "freshness_deadline"))) ∧
    (Fresh v → ∀ name ∈ listFields, ¬ Bare (fieldOf m name))

/-- The mappings the decoder of commands is strict on. -/
def NativeDispatchCommand.Handled (m : Json) : Prop :=
  ∀ v, Presented fieldNames m v → ReachesTimestamp v → Representable (v "queued_at")

/-- The mappings the decoder of terminal observations is strict on. -/
def NativeTerminalObservation.Handled (m : Json) : Prop :=
  ∀ v, Presented fieldNames m v → ReachesTimestamp v → Representable (v "observed_at")

/-- The mappings the decoder of claims is strict on. The command is decoded after the
generation of the claim and before its lease. -/
def NativeDispatchClaim.Handled (m : Json) : Prop :=
  hasFields fieldNames m = true →
    (Passes (jsonGeneration (fieldOf m "claim_generation")) →
      NativeDispatchCommand.Handled (fieldOf m "command")) ∧
    ∀ v, Presented fieldNames m v → ReachesTimestamp v → Representable (v "lease_expires_at")

omit [Unicodedata] in
theorem strict_nil {α : Type} {decode : Json → Except Failure α} {m : Json} :
    Strict decode [] m ↔ FailsClosed (decode m) := by
  simp [Strict]

theorem RuntimeDesiredState.strict_iff {m : Json} : Strict fromMapping [] m ↔ Handled m := by
  rw [fromMapping, strict_iff_of (by decide) (by simp) (by simp)]
  refine forall_congr' fun v => forall_congr' fun _ => ?_
  rw [construct_closed]
  simp

theorem RuntimeObservation.strict_iff {m : Json} : Strict fromMapping listFields m ↔ Handled m := by
  rw [fromMapping, strict_iff_of (by decide) (by decide +kernel)]
  · refine forall_congr' fun v => forall_congr' fun _ => ?_
    rw [construct_closed, construct_accepted, and_imp]
    exact imp_and.symm
  · intro v h
    obtain ⟨-, _, _, -, -, -, hcodes⟩ := construct_accepted.mp h
    simp only [listFields, List.forall_mem_cons, List.not_mem_nil, false_imp_iff, implies_true, and_true]
    exact ⟨_, hcodes⟩

/-- A command has no field `command`, so it does not matter what decodes one. -/
theorem NativeDispatchCommand.fromMapping_eq : fromMapping =
    fromMappingWith NativeDispatchCommand.fromMapping fieldNames construct := by
  funext m
  unfold fromMapping fromMappingWith
  rw [convertFields_nested (by decide)]

theorem NativeDispatchCommand.strict_iff {m : Json} : Strict fromMapping [] m ↔ Handled m := by
  rw [fromMapping_eq, strict_iff_of (by decide) (by simp) (by simp)]
  refine forall_congr' fun v => forall_congr' fun _ => ?_
  rw [construct_closed]
  simp

theorem NativeTerminalObservation.strict_iff {m : Json} : Strict fromMapping [] m ↔ Handled m := by
  rw [fromMapping, strict_iff_of (by decide) (by simp) (by simp)]
  refine forall_congr' fun v => forall_congr' fun _ => ?_
  rw [construct_closed]
  simp

theorem NativeDispatchClaim.strict_iff {m : Json} : Strict fromMapping [] m ↔ Handled m := by
  rw [strict_nil, fromMapping, fromMappingWith_closed, Handled, convertFields_claim,
    ← strict_nil, NativeDispatchCommand.strict_iff]
  refine forall_congr' fun hfields => and_congr_right fun _ => forall_congr' fun v => ?_
  rw [construct_closed]
  exact ⟨fun h hv => h hv.2, fun h hv => h ⟨hfields, hv⟩⟩

section Decision

variable [CharacterTables]

/-- The mappings the decoder of decisions is strict on. -/
def PlacementDecision.Handled (m : Json) : Prop :=
  ∀ v, Presented fieldNames m v →
    (ReachesTimestamp v → Representable (v "decided_at")) ∧
    (Verifies v → ∀ name ∈ listFields, ¬ Bare (fieldOf m name))

theorem PlacementDecision.fromMapping_eq_ok {m : Json} {d : PlacementDecision} :
    fromMapping m = .ok d ↔
      ∃ v, Presented fieldNames m v ∧ construct v = .ok d ∧ d.verifyDigest = .ok () := by
  unfold fromMapping
  simp only [bind_eq_ok, fromMappingWith_eq_ok, Except.ok.injEq]
  constructor
  · rintro ⟨d, ⟨hfields, v, hv, hconstruct⟩, _, hverified, rfl⟩
    exact ⟨v, ⟨hfields, hv⟩, hconstruct, hverified⟩
  · rintro ⟨v, ⟨hfields, hv⟩, hconstruct, hverified⟩
    exact ⟨d, ⟨hfields, v, hv, hconstruct⟩, _, hverified, rfl⟩

theorem PlacementDecision.strict_iff {m : Json} : Strict fromMapping listFields m ↔ Handled m := by
  have hclosed : FailsClosed (fromMapping m) ↔
      ∀ v, Presented fieldNames m v → ReachesTimestamp v → Representable (v "decided_at") := by
    have hverify : ∀ d : PlacementDecision, FailsClosed d.verifyDigest := by
      intro d
      unfold verifyDigest
      split <;> simp
    simp only [fromMapping, failsClosed_bind, hverify, failsClosed_ok, implies_true, and_true,
      fromMappingWith_closed, construct_closed]
    constructor
    · intro h v hv
      exact (h hv.1).2 v hv.2
    · intro h hfields
      exact ⟨convertFields_closed (by decide), fun v hv => h v ⟨hfields, hv⟩⟩
  have hlist : ∀ v, Presented fieldNames m v → Verifies v → ∀ name ∈ listFields,
      ((∃ texts : List String, fieldOf m name = .arr (texts.map .str)) ↔ ¬ Bare (fieldOf m name)) := by
    rintro v hv ⟨_, _, _, _, _, facts, limits, _, hreads, -⟩
    have hconverts : ∀ name ∈ fieldNames, Converts NativeDispatchCommand.fromMapping name
        (fieldOf m name) (v name) := by
      intro name hin
      have hname := hv.2 name
      rw [if_pos hin] at hname
      exact hname
    simp only [listFields, List.forall_mem_cons, List.not_mem_nil, false_imp_iff, implies_true, and_true]
    exact ⟨list_iff_of_accepted (hconverts _ (by decide)) (by decide +kernel) ⟨_, hreads.facts⟩,
      list_iff_of_accepted (hconverts _ (by decide)) (by decide +kernel) ⟨_, hreads.limitations⟩⟩
  rw [Strict, hclosed]
  constructor
  · rintro ⟨hrepresentable, haccepted⟩ v hv
    refine ⟨hrepresentable v hv, fun hverifies name hname => ?_⟩
    obtain ⟨d, hd⟩ := construct_verified.mpr hverifies
    exact (hlist v hv hverifies name hname).mp (haccepted ⟨d, fromMapping_eq_ok.mpr ⟨v, hv, hd⟩⟩ name hname)
  · intro h
    refine ⟨fun v hv => (h v hv).1, ?_⟩
    rintro ⟨d, hd⟩ name hname
    obtain ⟨v, hv, hconstruct⟩ := fromMapping_eq_ok.mp hd
    have hverifies := construct_verified.mp ⟨d, hconstruct⟩
    exact (hlist v hv hverifies name hname).mpr ((h v hv).2 hverifies name hname)

/-- **The decoders are strict** on exactly the mappings whose timestamps lie in the calendar
and whose lists are lists, as far as they are looked at. -/
theorem fromMapping_strict_iff (m : Json) :
    (Strict PlacementRequest.fromMapping PlacementRequest.listFields m ↔ PlacementRequest.Handled m) ∧
    (Strict PlacementDecision.fromMapping PlacementDecision.listFields m ↔ PlacementDecision.Handled m) ∧
    (Strict RuntimeDesiredState.fromMapping [] m ↔ RuntimeDesiredState.Handled m) ∧
    (Strict RuntimeObservation.fromMapping RuntimeObservation.listFields m ↔
      RuntimeObservation.Handled m) ∧
    (Strict NativeDispatchCommand.fromMapping [] m ↔ NativeDispatchCommand.Handled m) ∧
    (Strict NativeDispatchClaim.fromMapping [] m ↔ NativeDispatchClaim.Handled m) ∧
    (Strict NativeTerminalObservation.fromMapping [] m ↔ NativeTerminalObservation.Handled m) :=
  ⟨PlacementRequest.strict_iff, PlacementDecision.strict_iff, RuntimeDesiredState.strict_iff,
    RuntimeObservation.strict_iff, NativeDispatchCommand.strict_iff, NativeDispatchClaim.strict_iff,
    NativeTerminalObservation.strict_iff⟩

end Decision

end Strict

/-! ### A date before the calendar and a text for a list -/

namespace Sample

/-- A desired state requested at midnight of the first day of the calendar, an hour east of
Greenwich. -/
def earliestRequest : Json := .obj [
  ("runtime_instance_id", .str "runtime-1"),
  ("desired_generation", .int 1),
  ("desired_state", .str "RUNNING"),
  ("command_id", .str "command-1"),
  ("requested_by", .str "operator"),
  ("requested_at", .str "0001-01-01T00:00:00+01:00"),
  ("deadline", .str "2026-01-01T00:00:00Z"),
  ("reason_classification", .str "MANUAL")]

/-- An observation whose limitation codes are the text `ab`. -/
def bareObservation : Json := .obj [
  ("observation_id", .str "observation-1"),
  ("runtime_instance_id", .str "runtime-1"),
  ("observed_generation", .int 1),
  ("observed_state", .str "RUNNING"),
  ("health", .str "HEALTHY"),
  ("readiness", .str "READY"),
  ("observed_at", .str "2026-01-01T00:00:00Z"),
  ("freshness_deadline", .str "2026-01-01T00:01:00Z"),
  ("provider_correlation", .null),
  ("kubernetes_correlation", .null),
  ("limitation_codes", .str "ab")]

theorem overflow_of_earliest :
    RuntimeDesiredState.fromMapping earliestRequest = .error .overflowError := by
  decide +kernel

theorem accepts_bare : (RuntimeObservation.fromMapping bareObservation).isOk = true := by
  decide +kernel

end Sample

open Sample in
/-- **Two inputs that get past the decoder**: one raises an `OverflowError`, and of the other
the text is taken for a list of its characters. -/
theorem decoder_not_strict :
    ¬ Strict RuntimeDesiredState.fromMapping [] earliestRequest ∧
      ¬ Strict RuntimeObservation.fromMapping RuntimeObservation.listFields bareObservation := by
  constructor
  · rintro ⟨hclosed, -⟩
    rw [overflow_of_earliest] at hclosed
    exact failsClosed_overflow hclosed
  · rintro ⟨-, hlists⟩
    obtain ⟨texts, htexts⟩ := hlists (exists_of_isOk accepts_bare) "limitation_codes" List.mem_cons_self
    cases htexts

end AgentPlatform
