import Bugalizer.Pipeline.Orchestrator

/-!
# What a stage does with its claim

A stage run wins a claim status by a compare-and-set and leaves it by one further write.
Between the two it reads, computes, calls a model and adds rows. The ghost of a stage
coroutine is its grip on a report; `stageOp` is the class of operations it stays within.
-/

namespace Bugalizer

set_option autoImplicit false

open Coroutine Program

/-- `held` is a claim that was won and not left, shaken once a database call of the holder
raised. `spent` is a claim that was left since the coroutine last gave the loop away.
`lost` is what no run reaches: an answer that the state of the world excludes. -/
inductive Grip where
  | free
  | held (reportId : String) (status : BugStatus) (shaken : Bool)
  | spent (reportId : String)
  | lost
deriving DecidableEq

namespace Grip

def shake : Grip → Grip
  | held reportId status _ => held reportId status true
  | grip => grip

/-- Giving the loop away ends a spent claim. -/
def yield : Grip → Grip
  | spent _ => free
  | grip => grip

def after (op : Op) (grip : Grip) : Grip := if op.suspends then grip.yield else grip

/-- The grip after a won claim of a stage, or a won way out of one. -/
def won (reportId : String) (expected new : BugStatus) : Grip → Grip
  | lost => lost
  | held id status _ =>
      if id = reportId ∧ status = expected ∧ new.stageClaim = false then spent reportId else lost
  | spent id => if new.stageClaim then held reportId new false
      else if expected.stageClaim then lost else spent id
  | free => if new.stageClaim then held reportId new false else free

/-- The grip after a compare-and-set that matched nothing. -/
def missed (reportId : String) (expected : BugStatus) : Grip → Grip
  | held id status shaken =>
      if id = reportId ∧ status = expected then lost else held id status shaken
  | grip => grip

def wrote (reportId : String) : Grip → Grip
  | lost => lost
  | _ => spent reportId

def absent (reportId : String) : Grip → Grip
  | held id status shaken => if id = reportId then lost else held id status shaken
  | grip => grip

end Grip

def gripNext (grip : Grip) (op : Op) (answer : Except Exn op.Ans) : Grip :=
  match answer with
  | .error _ =>
      if op.neverFails then .lost else if op.isDb then grip.shake else grip.after op
  | .ok value =>
      match op, value with
      | .report (.tryClaim id expected new _), won =>
          if won = true then grip.won id expected new else grip.missed id expected
      | .report (.updateStatus id _ _ none), _ => grip.wrote id
      | .query (.reportGet id), none => grip.absent id
      | op, _ => grip.after op

/-- A stage claims a report only when it holds none, or is left with a claim it could not
give back; and it writes the status of no report but the one it holds or has just left. -/
def gripAllowed (grip : Grip) : Op → Prop
  | .report (.tryClaim id expected new _) =>
      if new.stageClaim then
        expected.stageClaim = false ∧
          ∀ other status shaken, grip = .held other status shaken → other = id ∧ shaken = true
      else if expected.stageClaim then
        (∃ shaken, grip = .held id expected shaken) ∨ grip = .spent id ∨ grip = .lost
      else True
  | .report (.updateStatus id new _ none) =>
      new.stageClaim = false ∧
        ((∃ status shaken, grip = .held id status shaken) ∨ grip = .spent id ∨ grip = .lost)
  | _ => True

def claims : Discipline Op Op.Ans Exn where
  Ghost := Grip
  allowed := gripAllowed
  next := gripNext

/-- On whose behalf a stage runs, which model calls it may make, and whether it may win a
claim and enter `propose_fix`. -/
structure StageScope where
  reportId : String
  triggerRef : Option String
  calls : LlmCall → Prop
  claims : Prop
  proposes : Prop

def stageClaims : List (BugStatus × BugStatus) :=
  [(.submitted, .validating), (.validating, .submitted), (.triaged, .analyzing),
    (.clarificationNeeded, .analyzing), (.triaged, .fixProposing), (.fixProposing, .triaged)]

def stageOutcomes : List BugStatus := [.triaged, .clarificationNeeded, .fixProposed, .duplicate]

def stageOp (scope : StageScope) : Op → Prop
  | .query (.triageActionGet _) => False
  | .query _ => True
  | .report (.tryClaim id expected new token) =>
      id = scope.reportId ∧ token = none ∧ (expected, new) ∈ stageClaims ∧
        (new.stageClaim → scope.claims)
  | .report (.updateStatus id new _ expected) =>
      id = scope.reportId ∧ expected = none ∧ new ∈ stageOutcomes
  | .report (.updateFields id fields) => id = scope.reportId ∧ fields.analysisMode = none
  | .report _ => False
  | .stage (.analysisCreate new) =>
      new.bugReportId = scope.reportId ∧ (new.phase ≠ .validation → new.triggerRef = scope.triggerRef)
  | .stage (.analysisUpdate ..) => True
  | .stage (.fixProposalCreate new) =>
      new.bugReportId = scope.reportId ∧ new.triggerRef = scope.triggerRef
  | .stage (.tokenUsageCreate new) => new.bugReportId = scope.reportId
  | .stage _ => False
  | .project _ fields => fields.llmProvider = none ∧ fields.llmModel = none ∧
      fields.fixLlmProvider = none ∧ fields.fixLlmModel = none
  | .remote (.acompletion request) => scope.calls request
  | .remote (.getHeadSha _) | .remote (.getOrBuildRepoMap ..) | .remote (.readCandidateFiles ..) =>
      True
  | .compute _ => True
  | .observe _ => True
  | .dbWriteLock => True
  | .note (.proposeFix id trigger) =>
      id = scope.reportId ∧ trigger = scope.triggerRef ∧ scope.proposes
  | _ => False

/-- The discipline of a stage run for `scope`. -/
abbrev stageRun (scope : StageScope) : Discipline Op Op.Ans Exn := claims.within (stageOp scope)

end Bugalizer
