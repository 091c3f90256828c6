/-
AgentPlatform/Evidence/Table.lean

The table `execution_authority.execution_evidence` (migration 0008) and its
identity sequence.

Every writer of evidence goes through `add`: the values fit their columns, the
record id and the storage sequence are new, and a superseded record is stored
(or is the row itself). `insert` first draws the storage sequence; a row with
its own storage sequence (`OVERRIDING SYSTEM VALUE`) leaves the identity
sequence where it is.
-/
import AgentPlatform.Dispatch.Completion

namespace AgentPlatform

open Py

/-- A row of `execution_evidence`. -/
structure EvidenceRecordRow where
  storageSequence : Nat
  evidenceRecordId : String
  namespaceName : String
  securityDomain : String
  platformExecutionIdentity : String
  workflowIdentity : String
  taskIdentity : String
  attemptOrdinal : Int
  eventOrdinal : Int
  eventType : String
  occurredAt : Datetime
  recordedAt : Datetime
  payloadDigest : String
  canonicalBytes : String
  record : Json
  importSetIdentity : Option String
  supersedesRecordId : Option String

/-- A `bigint` with `CHECK (n > 0)`. -/
def positiveOrdinal (n : Int) : Bool := decide (0 < n) && decide (n < maxBigint)

/-- The values fit their columns. -/
def EvidenceRecordRow.storable (r : EvidenceRecordRow) : Bool :=
  nulFree ([r.evidenceRecordId, r.namespaceName, r.securityDomain, r.platformExecutionIdentity,
      r.workflowIdentity, r.taskIdentity, r.eventType, r.payloadDigest] ++
      r.importSetIdentity.toList ++ r.supersedesRecordId.toList) &&
    r.record.nulFree && positiveOrdinal r.attemptOrdinal && positiveOrdinal r.eventOrdinal &&
    decide (r.payloadDigest.length = 64) && decide (r.storageSequence < maxBigint)

structure EvidenceTable where
  rows : List EvidenceRecordRow
  /-- Last value drawn from the identity sequence. -/
  sequence : Nat

namespace EvidenceTable

def stores (id : String) (t : EvidenceTable) : Bool :=
  t.rows.any fun r => r.evidenceRecordId = id

/-- A row with the storage sequence is stored. -/
def occupied (n : Nat) (t : EvidenceTable) : Bool :=
  t.rows.any fun r => r.storageSequence = n

/-- Add a row under the constraints of the table. -/
def add (r : EvidenceRecordRow) (t : EvidenceTable) : Option EvidenceTable :=
  guarded
    (r.storable && !t.stores r.evidenceRecordId && !t.occupied r.storageSequence &&
      r.supersedesRecordId.all (fun id => id = r.evidenceRecordId || t.stores id))
    { t with rows := t.rows ++ [r] }

/-- `nextval` of the identity sequence. -/
def draw (t : EvidenceTable) : EvidenceTable := { t with sequence := t.sequence + 1 }

/-- Add a row at the next value of the identity sequence. -/
def insert (r : EvidenceRecordRow) (t : EvidenceTable) : Option EvidenceTable :=
  t.draw.add { r with storageSequence := t.draw.sequence }

end EvidenceTable

end AgentPlatform
