import StarterTemplate.Database.Schema
import StarterTemplate.Library.Texts

/-!
# The texts of the rows

The text columns of each table.  An id is not a text, and a relationship holds ids only.
-/

namespace StarterTemplate

open Library

/-- The texts that a recorded error is made of. -/
def Outbox.JobError.texts : Outbox.JobError → List String
  | .unknownJob jobName => [jobName]
  | .missingKey key => [key]
  | .invalidUserId jobName raw => jobName :: raw.texts
  | .unknownReason raw => raw.texts
  | .effectFailed jobName reason => [jobName, reason]
  | .other text => [text]

namespace Database

/-- The texts of a message in the outbox. -/
def messageTexts (message : Outbox.OutboxRow) : List String :=
  message.jobName :: (Dict.texts message.payload ++ Dict.texts message.traceContext ++
    (message.lastError.toList.flatMap Outbox.JobError.texts ++ message.lockedBy.toList))

/-- The texts of a row. -/
def Row.texts : Row → List String
  | .user row => [row.email]
  | .credential row => [row.algorithm, row.hash]
  | .refreshToken row => row.tokenHash :: (row.createdIp.toList ++ row.userAgent.toList)
  | .internalToken row => row.tokenHash :: row.createdIp.toList
  | .auditEvent row =>
    row.eventType :: (row.ipAddress.toList ++ row.userAgent.toList ++ Dict.texts row.metadata)
  | .relationship _ => []
  | .outbox row => messageTexts row

end Database

end StarterTemplate
