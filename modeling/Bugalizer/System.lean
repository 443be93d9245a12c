import Bugalizer.Api.Projects
import Bugalizer.Sync.TriageSync

/-!
# The process

Which coroutine each job runs, which handlers run on worker threads, and what a start of
the process does. The queue worker, the sync loop and the endpoints only decide when a job
is started; here any of them may be, at any time.
-/

namespace Bugalizer

set_option autoImplicit false

open Coroutine Program

/-- The settings a process starts with, and what its start draws. -/
structure Boot where
  settings : Settings
  clock : Nat
  fresh : Nat → String

/-- `release_orphaned_claims`, run once at startup. -/
def releaseOrphanedClaims (now : Nat) (fresh : Nat → String) (db : Database) : Database :=
  let fixing := (db.reports.select fun row => row.status == .fixProposing).map Report.id
  { db with
    stages := { db.stages with
      analyses := recordInterruptedFix now fixing fresh (failRunning now db.stages.analyses) }
    reports := rollBackClaims now db.reports }

def World.restart (boot : Boot) (world : World) : World :=
  { db := releaseOrphanedClaims boot.clock boot.fresh world.db
    memory := { Memory.empty with lastNow := some boot.clock }
    settings := boot.settings
    drawn := world.drawn }

def World.taskEnded (id : Nat) (world : World) : World :=
  { world with memory := { world.memory with doneTasks := id :: world.memory.doneTasks } }

def discard {Result : Type} (body : Py Result) : Py Unit := do
  let _ ← body

namespace Job

def program (settings : Settings) : Job → Py Unit
  | processSubmitted reportId => Bugalizer.processSubmitted reportId
  | processTriaged reportId => discard (Bugalizer.processTriaged settings reportId none none)
  | processLocalization reportId =>
      discard (Bugalizer.processLocalization settings reportId none none)
  | processFixProposal reportId => discard (Bugalizer.processFixProposal settings reportId none)
  | analyzeReport reportId tier override => Bugalizer.analyzeReport settings reportId tier override
  | updateReportStatus reportId target reason => Bugalizer.updateReportStatus reportId target reason
  | updateAnalysisMode reportId mode => Bugalizer.updateAnalysisMode reportId mode
  | deleteReport reportId => Bugalizer.deleteReport reportId
  | openPr reportId proposalId => Bugalizer.openPr settings reportId proposalId
  | updateProject projectId updates => Bugalizer.updateProject projectId updates
  | cloneProjectRepo projectId => Bugalizer.cloneProjectRepo projectId
  | refreshRepoMap projectId => Bugalizer.refreshRepoMap projectId
  | syncProject projectId manual => Bugalizer.syncProject settings projectId manual
  | expireOverdue => Bugalizer.expireOverdue settings none
  | checkPrsOnly projectId => Bugalizer.checkPrsOnly settings projectId
  | actionTask actionId => runTask settings actionId
  | prTask actionId => Bugalizer.prTask settings actionId

def rooted : Job → Bool
  | actionTask _ | prTask _ => false
  | _ => true

/-- The plain `def` endpoints, which FastAPI runs on worker threads. -/
def threaded : Job → Bool
  | updateReportStatus .. | updateAnalysisMode .. | deleteReport _ | updateProject .. => true
  | _ => false

end Job

def bugalizer : Machine Op Op.Ans Op.Env Exn World Job Boot where
  program world job := job.program world.settings
  rooted := Job.rooted
  threaded := Job.threaded
  suspends := Op.suspends
  spawns := Op.spawns
  exec := Op.exec
  ended := World.taskEnded
  restart := World.restart

abbrev Sys := State Op Op.Ans Exn World Job

abbrev Ev := Event Op Op.Ans Exn Job

/-- A process just started on a database. -/
def World.initial (db : Database) (settings : Settings) : World :=
  { db, memory := .empty, settings, drawn := [] }

end Bugalizer
