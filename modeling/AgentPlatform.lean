import AgentPlatform.Authority.GrantTargets
import AgentPlatform.Authority.OwnCredential
import AgentPlatform.Authority.Pagination
import AgentPlatform.Blueprint.Runs
import AgentPlatform.Budget.Pending
import AgentPlatform.Capability.Gateway
import AgentPlatform.ContractStrict
import AgentPlatform.Control.Continuation
import AgentPlatform.Control.Idempotency
import AgentPlatform.Control.Interventions
import AgentPlatform.Control.Native
import AgentPlatform.Control.PlanEntry
import AgentPlatform.Definition.Agreement
import AgentPlatform.Definition.Replacement
import AgentPlatform.Dispatch.AtMostOnce
import AgentPlatform.Dispatch.Bundle
import AgentPlatform.Dispatch.Queue
import AgentPlatform.Dispatch.Recovery
import AgentPlatform.Draft.Agreement
import AgentPlatform.Draft.Keys
import AgentPlatform.Draft.Observations
import AgentPlatform.Draft.Settled
import AgentPlatform.Employee.Assignments
import AgentPlatform.Employee.Runs
import AgentPlatform.Execution.Accounting
import AgentPlatform.Execution.Retry
import AgentPlatform.Feedback.Replays
import AgentPlatform.Graph.Project
import AgentPlatform.Journey.Commands
import AgentPlatform.Placement.Acceptance
import AgentPlatform.ResourceUse.Reducer
import AgentPlatform.Runtime.Manager
import AgentPlatform.Runtime.OpenClaw
import AgentPlatform.Runtime.SecretScan
import AgentPlatform.Workflow.Final
import AgentPlatform.Workflow.Skips
import AgentPlatform.Workflow.Status
import AgentPlatform.Workflow.Validation
import AgentPlatform.WorkflowDefinition.Lifecycle
import AgentPlatform.WorkflowDefinition.Order
