/-
AgentPlatform/WorkflowDefinition/Service.lean

The lifecycle of a workflow definition (`workflow_definition_service.py`) over
its repository (`workflow_definition_repository.py`).

A call loads a copy of the record, changes it, and stores it by compare and swap
on the version; between the two, other calls may store theirs. So a run has
pending calls, each with the record that it has loaded.
-/
import AgentPlatform.Py.Dict
import AgentPlatform.Py.Text
import AgentPlatform.WorkflowDefinition.Content

namespace AgentPlatform

open Py

namespace WorkflowDefinition

/-! ### Records -/

inductive State
  | draft
  | validated
  | humanReviewed
  | published
  deriving DecidableEq

structure Revision where
  revisionId : String
  predecessorRevisionId : Option String
  state : State
  content : WorkflowContent
  createdAt : String
  digest : String
  validatedAt : Option String := none
  publishedAt : Option String := none
  deriving DecidableEq

structure Review where
  reviewId : String
  revisionId : String
  digest : String
  decision : String
  actor : String
  reason : String
  reviewedAt : String
  deriving DecidableEq

inductive Subject
  | revision (r : Revision)
  | review (r : Review)
  deriving DecidableEq

structure Fact where
  factId : String
  event : String
  actor : String
  recordedAt : String
  subject : Subject
  deriving DecidableEq

/-- `WorkflowScope`. -/
structure Scope where
  namespaceName : String
  securityDomain : String
  deriving DecidableEq

structure Definition where
  workflowDefinitionId : String
  scope : Scope
  name : String
  aggregateVersion : Int
  lifecycleState : State
  currentDraftRevisionId : Option String
  publishedRevisionId : Option String
  revisions : List Revision
  reviews : List Review
  facts : List Fact
  createdAt : String
  updatedAt : String
  deriving DecidableEq

/-- What a call draws: the random parts of identifiers, and the times. -/
structure Stamp where
  definitionUuid : String
  revisionUuid : String
  reviewUuid : String
  factUuid : String
  createdAt : String
  markedAt : String
  recordedAt : String
  updatedAt : String

def Stamp.revisionId (stamp : Stamp) : String := "workflow-revision:" ++ stamp.revisionUuid

def digestOf (scope : Scope) (workflowDefinitionId : String) (predecessorRevisionId : Option String)
    (content : WorkflowContent) : String :=
  "sha256:" ++ sha256 (Json.dumps true (.obj [("schema", .str "workflow-definition/v1"),
    ("namespace", .str scope.namespaceName), ("securityDomain", .str scope.securityDomain),
    ("workflowDefinitionId", .str workflowDefinitionId),
    ("predecessorRevisionId", Json.optStr predecessorRevisionId), ("content", content.json)]))

def factOf (event actor : String) (subject : Subject) (stamp : Stamp) : Fact where
  factId := "workflow-fact:" ++ stamp.factUuid
  event
  actor
  recordedAt := stamp.recordedAt
  subject

/-! ### Changes of a loaded record -/

/-- A call with its arguments; the record that it loads is that of its scope and ID. -/
inductive Call
  | edit (actor : String) (expected : Int) (content : WorkflowContent)
  | validate (actor : String) (expected : Int)
  | review (actor : String) (expected : Int) (digest decision reason : String)
  | publish (actor : String) (expected : Int) (digest reviewId : String)
  | successor (actor : String) (expected : Int)

/-- The record that is stored, the version it takes the place of, and the fact. -/
structure Change where
  record : Definition
  expected : Int
  fact : Fact

/-- The entry of a revision is changed in place. -/
def modifyRevision (rid : String) (f : Revision → Revision) : List Revision → List Revision
  | [] => []
  | v :: vs => if v.revisionId = rid then f v :: vs else v :: modifyRevision rid f vs

namespace Definition

variable (r : Definition)

def draft : Except Failure Revision :=
  match r.currentDraftRevisionId with
  | none => .error (.reason "DRAFT_NOT_FOUND")
  | some rid =>
    if rid = "" then .error (.reason "DRAFT_NOT_FOUND")
    else
      match r.revisions.find? fun v => v.revisionId = rid with
      | none => .error .stopIteration
      | some v => .ok v

def expectedDraft (expected : Int) : Except Failure Revision :=
  if r.aggregateVersion ≠ expected then .error (.reason "STALE_WORKFLOW_DEFINITION") else r.draft

/-- A revision as it is created. -/
def newRevision (predecessor : String) (content : WorkflowContent) (stamp : Stamp) : Revision where
  revisionId := stamp.revisionId
  predecessorRevisionId := some predecessor
  state := .draft
  content
  createdAt := stamp.createdAt
  digest := digestOf r.scope r.workflowDefinitionId (some predecessor) content

/-- `_replace`, up to the repository. -/
def change (expected : Int) (event actor : String) (subject : Subject) (stamp : Stamp) : Change where
  record := { r with aggregateVersion := expected + 1, updatedAt := stamp.updatedAt }
  expected
  fact := factOf event actor subject stamp

def edit (actor : String) (expected : Int) (content : WorkflowContent) (stamp : Stamp) :
    Except Failure Change :=
  match r.expectedDraft expected with
  | .error f => .error f
  | .ok prior =>
    match preservedAll prior.content.tasks content.tasks with
    | .error f => .error f
    | .ok tasks =>
      let candidate := { content with tasks }
      match validateContent candidate none with
      | .error f => .error f
      | .ok () =>
        let revision := r.newRevision prior.revisionId candidate stamp
        .ok ({ r with
          revisions := r.revisions ++ [revision]
          currentDraftRevisionId := some revision.revisionId
        }.change expected "DRAFT_EDITED" actor (.revision revision) stamp)

def validate (actor : String) (expected : Int) (resolver : Resolver) (stamp : Stamp) :
    Except Failure Change :=
  match r.expectedDraft expected with
  | .error f => .error f
  | .ok draft =>
    match validateContent draft.content (some resolver) with
    | .error f => .error f
    | .ok () =>
      let validated : Revision := { draft with state := .validated, validatedAt := some stamp.markedAt }
      .ok ({ r with
        revisions := modifyRevision draft.revisionId (fun _ => validated) r.revisions
        lifecycleState := .validated
      }.change expected "DRAFT_VALIDATED" actor (.revision validated) stamp)

def review (actor : String) (expected : Int) (digest decision reason : String) (stamp : Stamp) :
    Except Failure Change :=
  match r.expectedDraft expected with
  | .error f => .error f
  | .ok draft =>
    if draft.state ≠ .validated then .error (.reason "VALIDATION_REQUIRED")
    else if digest ≠ draft.digest then .error (.reason "EXACT_DIGEST_REQUIRED")
    else if decision ≠ "APPROVE" ∨ strip reason = "" then .error (.reason "HUMAN_REVIEW_REJECTED")
    else
      let review : Review := {
        reviewId := "workflow-review:" ++ stamp.reviewUuid, revisionId := draft.revisionId, digest
        decision := "APPROVED", actor, reason := strip reason, reviewedAt := stamp.markedAt }
      .ok ({ r with
        reviews := r.reviews ++ [review]
        revisions := modifyRevision draft.revisionId
          (fun _ => { draft with state := .humanReviewed }) r.revisions
        lifecycleState := .humanReviewed
      }.change expected "HUMAN_REVIEWED" actor (.review review) stamp)

def publish (actor : String) (expected : Int) (digest reviewId : String) (resolver : Resolver)
    (stamp : Stamp) : Except Failure Change :=
  match r.expectedDraft expected with
  | .error f => .error f
  | .ok draft =>
    match r.reviews.find? fun x => x.reviewId = reviewId with
    | none => .error (.reason "EXACT_REVIEW_REQUIRED")
    | some review =>
      if review.digest ≠ digest ∨ draft.digest ≠ digest ∨ draft.state ≠ .humanReviewed then
        .error (.reason "EXACT_REVIEW_REQUIRED")
      else
        match validateContent draft.content (some resolver) with
        | .error f => .error f
        | .ok () =>
          let published : Revision :=
            { draft with state := .published, publishedAt := some stamp.markedAt }
          .ok ({ r with
            revisions := modifyRevision draft.revisionId (fun _ => published) r.revisions
            publishedRevisionId := some draft.revisionId
            currentDraftRevisionId := none
            lifecycleState := .published
          }.change expected "REVISION_PUBLISHED" actor (.revision published) stamp)

def successor (actor : String) (expected : Int) (stamp : Stamp) : Except Failure Change :=
  if r.aggregateVersion ≠ expected then .error (.reason "STALE_WORKFLOW_DEFINITION")
  else if r.currentDraftRevisionId.any (· ≠ "") then .error (.reason "DRAFT_ALREADY_EXISTS")
  else
    match r.revisions.find? fun v => r.publishedRevisionId = some v.revisionId with
    | none => .error .stopIteration
    | some published =>
      let revision := r.newRevision published.revisionId published.content stamp
      .ok ({ r with
        revisions := r.revisions ++ [revision]
        currentDraftRevisionId := some revision.revisionId
        lifecycleState := .draft
      }.change expected "SUCCESSOR_CREATED" actor (.revision revision) stamp)

/-- A call on the record that it has loaded. -/
def run (resolver : Resolver) (stamp : Stamp) : Call → Except Failure Change
  | .edit actor expected content => r.edit actor expected content stamp
  | .validate actor expected => r.validate actor expected resolver stamp
  | .review actor expected digest decision reason => r.review actor expected digest decision reason stamp
  | .publish actor expected digest reviewId => r.publish actor expected digest reviewId resolver stamp
  | .successor actor expected => r.successor actor expected stamp

end Definition

/-! ### The repository -/

abbrev Repository := Dict (Scope × String) Definition

def Definition.key (r : Definition) : Scope × String := (r.scope, r.workflowDefinitionId)

def Repository.replace (repository : Repository) (c : Change) : Except Failure Repository :=
  match repository.get? c.record.key with
  | none => .error (.reason "WORKFLOW_DEFINITION_NOT_FOUND")
  | some current =>
    if current.aggregateVersion ≠ c.expected then .error (.reason "STALE_WORKFLOW_DEFINITION")
    else .ok (repository.set c.record.key { c.record with facts := current.facts ++ [c.fact] })

/-- The record that `create` stores. -/
def created (scope : Scope) (actor name : String) (content : WorkflowContent) (stamp : Stamp) :
    Definition :=
  let workflowDefinitionId := "workflow-definition:" ++ stamp.definitionUuid
  let revision : Revision := {
    revisionId := stamp.revisionId, predecessorRevisionId := none, state := .draft, content
    createdAt := stamp.createdAt, digest := digestOf scope workflowDefinitionId none content }
  { workflowDefinitionId, scope, name := strip name, aggregateVersion := 1, lifecycleState := .draft
    currentDraftRevisionId := some revision.revisionId, publishedRevisionId := none
    revisions := [revision], reviews := []
    facts := [factOf "DRAFT_CREATED" actor (.revision revision) stamp]
    createdAt := stamp.markedAt, updatedAt := stamp.updatedAt }

def Repository.create (repository : Repository) (scope : Scope) (actor name : String)
    (content : WorkflowContent) (stamp : Stamp) : Except Failure Repository :=
  match validateContent content none with
  | .error f => .error f
  | .ok () =>
    let record := created scope actor name content stamp
    match repository.get? record.key with
    | some _ => .error .conflict
    | none => .ok (repository.set record.key record)

/-! ### Runs -/

/-- The stored records, the calls that have loaded theirs, and the IDs of revisions
that have been drawn. -/
structure World where
  repository : Repository := .empty
  pending : List (Call × Definition) := []
  issued : List String := []

inductive Action
  | create (scope : Scope) (actor name : String) (content : WorkflowContent) (stamp : Stamp)
  /-- A call loads its record. -/
  | load (scope : Scope) (resourceId : String) (call : Call)
  /-- A call that has loaded its record goes on to its end. -/
  | finish (i : Nat) (resolver : Resolver) (stamp : Stamp)

/-- What an action answers, and the world after it. -/
def World.act (w : World) : Action → Except Failure Unit × World
  | .create scope actor name content stamp =>
    let w := { w with issued := w.issued ++ [stamp.revisionId] }
    match w.repository.create scope actor name content stamp with
    | .error f => (.error f, w)
    | .ok repository => (.ok (), { w with repository })
  | .load scope resourceId call =>
    match w.repository.get? (scope, resourceId) with
    | none => (.error (.reason "WORKFLOW_DEFINITION_NOT_FOUND"), w)
    | some r => (.ok (), { w with pending := w.pending ++ [(call, r)] })
  | .finish i resolver stamp =>
    match w.pending[i]? with
    | none => (.ok (), w)
    | some (call, r) =>
      let w := { w with pending := w.pending.eraseIdx i, issued := w.issued ++ [stamp.revisionId] }
      match r.run resolver stamp call with
      | .error f => (.error f, w)
      | .ok c =>
        match w.repository.replace c with
        | .error f => (.error f, w)
        | .ok repository => (.ok (), { w with repository })

/-- The runs of which every action meets a condition. -/
inductive Run (ok : World → Action → Prop) : World → Prop
  | start : Run ok {}
  | act {w : World} (a : Action) : Run ok w → ok w a → Run ok (w.act a).2

end WorkflowDefinition

end AgentPlatform
