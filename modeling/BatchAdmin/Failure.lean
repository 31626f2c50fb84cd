/-
Why a request is not carried out.

A `Failure` is a cause with the data that names it. Three things are
read off a cause and nowhere else decided: its kind (what sort of answer
it deserves), its reason code (stable, for programs) and its message
(for people). Internal causes keep their message to themselves; what a
client may see of them is for the web layer to say.
-/
import BatchAdmin.Text.Numeral

namespace BatchAdmin

open Text

-- ============================================================== the causes

/-- Why an upload did not end as a published file. -/
inductive UploadFault where
  /-- The content had no octet. -/
  | empty (fileName : String)
  /-- Reading the content or storing it broke off. -/
  | transfer (fileName source : String)
  /-- The file is stored but was refused downstream. -/
  | downstream (fileName message : String)
  deriving DecidableEq, Repr

/-- Why a request is not carried out. -/
inductive Failure where
  | invalidRequest (detail : String)
  | invalidPage (detail : String)
  | noSuchJob (job : String)
  | noSuchInstance (id : Int)
  | noSuchExecution (id : Int)
  | noSuchStep (execution step : Int)
  | jobRunning (job : String)
  | instanceComplete (job : String)
  | notRestartable (execution : Int)
  | invalidParameters (detail : String)
  | invalidPath (detail : String)
  | invalidPattern (detail : String)
  | pathConflict (path : String)
  | upload (fault : UploadFault)
  | engine (detail : String)
  | store (source : String)
  deriving DecidableEq, Repr

/-- The sorts of failure a client can tell apart. -/
inductive FailureKind where
  | notFound
  | conflict
  | invalidRequest
  | uploadFailure
  | internal
  deriving DecidableEq, Repr

-- ============================================================= the readings

namespace UploadFault

/-- The stable code of an upload fault. -/
def reason : UploadFault → String
  | .empty _ => "file.upload.empty"
  | .transfer _ _ => "file.upload.failed"
  | .downstream _ _ => "file.upload.failed.downstream"

/-- An upload fault in words. -/
def message : UploadFault → String
  | .empty name => "file upload was empty for filename=[" ++ name ++ "]"
  | .transfer name _ => "file upload failed for " ++ name
  | .downstream name _ =>
      "file upload failed downstream processing for " ++ name

end UploadFault

namespace Failure

/-- What sort of failure a cause is. -/
def kind : Failure → FailureKind
  | .noSuchJob _ | .noSuchInstance _ | .noSuchExecution _
  | .noSuchStep _ _ => .notFound
  | .jobRunning _ | .instanceComplete _ | .notRestartable _
  | .pathConflict _ => .conflict
  | .invalidRequest _ | .invalidPage _ | .invalidParameters _
  | .invalidPath _ | .invalidPattern _ => .invalidRequest
  | .upload _ => .uploadFailure
  | .engine _ | .store _ => .internal

/-- The stable code of a cause. -/
def reason : Failure → String
  | .invalidRequest _ => "request.invalid"
  | .invalidPage _ => "page.invalid"
  | .noSuchJob _ => "job.not.found"
  | .noSuchInstance _ => "job.instance.not.found"
  | .noSuchExecution _ => "job.execution.not.found"
  | .noSuchStep _ _ => "step.execution.not.found"
  | .jobRunning _ => "job.already.running"
  | .instanceComplete _ => "job.instance.already.complete"
  | .notRestartable _ => "job.not.restartable"
  | .invalidParameters _ => "job.parameters.invalid"
  | .invalidPath _ => "file.path.invalid"
  | .invalidPattern _ => "file.pattern.invalid"
  | .pathConflict _ => "file.path.conflict"
  | .upload fault => fault.reason
  | .engine _ | .store _ => "internal.error"

/-- A cause in words. -/
def message : Failure → String
  | .invalidRequest detail => "invalid request: " ++ detail
  | .invalidPage detail => "invalid page request: " ++ detail
  | .noSuchJob job => "no such job: " ++ job
  | .noSuchInstance id => "no such job instance: " ++ intText id
  | .noSuchExecution id => "no such job execution: " ++ intText id
  | .noSuchStep execution step =>
      "no such step execution " ++ intText step
        ++ " in job execution " ++ intText execution
  | .jobRunning job => "job " ++ job ++ " is already running"
  | .instanceComplete job =>
      "job instance already complete for job " ++ job
        ++ " with these parameters"
  | .notRestartable id =>
      "job execution " ++ intText id ++ " is not restartable"
  | .invalidParameters detail => "invalid job parameters: " ++ detail
  | .invalidPath detail => "invalid path: " ++ detail
  | .invalidPattern detail => "invalid pattern: " ++ detail
  | .pathConflict path => "file already exists: " ++ path
  | .upload fault => fault.message
  | .engine detail => "job repository failure: " ++ detail
  | .store source => "file store failure: " ++ source

end Failure

/-- A value, or the cause why there is none. -/
abbrev Answer (α : Type) := Except Failure α

end BatchAdmin
