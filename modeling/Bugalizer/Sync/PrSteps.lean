import Bugalizer.Coroutine.Outcome
import Bugalizer.Scenario
import Bugalizer.Sync.Actions

/-!
# One Open PR step against the answer it gets

`open_pull_request` answers by a return or by an exception; `pr_step` reads the returned body
outside its `try`.
-/

namespace Bugalizer

set_option autoImplicit false

open Coroutine Program

/-- A pull request that is there, with its branch, or the body of an error without one. -/
def Answered (answer : PrAnswer) : Prop :=
  ((answer.status = 200 ∨ answer.status = 201) ∧ ∃ branch, answer.branch = some branch) ∨
    answer.status = 409 ∧ answer.branch = none

theorem pr_answer_yields (proposal : FixProposal) (created : Bool) :
    (prAnswer proposal created).Yields fun answer =>
      (answer.status = 200 ∨ answer.status = 201) ∧ ∃ branch, answer.branch = some branch := by
  unfold prAnswer
  split
  · refine ⟨?_, _, rfl⟩
    dsimp only
    cases created
    · exact .inl rfl
    · exact .inr rfl
  · trivial

theorem pr_answer_answered (proposal : FixProposal) (created : Bool) :
    (prAnswer proposal created).Yields Answered := by
  rw [← bind_done (prAnswer proposal created)]
  exact yields_bind (pr_answer_yields proposal created) fun answer opened => .inl opened

theorem recorded_yields (recorded : FixProposal) (requestedId : Option String) :
    (recordedAnswer recorded requestedId).Yields Answered := by
  unfold recordedAnswer
  split
  · trivial
  · exact pr_answer_answered recorded false

theorem record_existing_yields (prCall : PrCall) (proposals : List FixProposal) (pr : PullRequest) :
    (recordExistingPr prCall proposals pr).Yields Answered := by
  unfold recordExistingPr
  apply yields_after
  intro answered
  apply yields_after
  intro commits
  apply yields_after
  intro owner
  split
  · trivial
  · apply yields_after
    intro recorded
    apply yields_bind (pr_answer_yields recorded false)
    intro answer opened
    split
    · exact .inr ⟨rfl, rfl⟩
    · exact .inl opened

theorem create_yields (prCall : PrCall) (proposals : List FixProposal) (proposal : FixProposal) (sha : String) :
    (createPr prCall proposals proposal sha).Yields Answered := by
  unfold createPr
  apply yields_after
  intro analysis
  apply yields_after
  intro answered
  split
  · apply yields_after
    intro recorded
    exact pr_answer_answered recorded true
  · apply yields_after
    intro found
    apply yields_after
    intro existing
    split
    · trivial
    · exact record_existing_yields _ _ _
  · trivial

theorem run_claimed_yields (prCall : PrCall) : (runClaimed prCall).Yields Answered := by
  unfold runClaimed
  apply yields_after
  intro proposals
  apply yields_after
  intro found
  apply yields_after
  intro pr
  split
  · exact record_existing_yields _ _ _
  · apply yields_after
    intro tip
    split
    · trivial
    · unfold resumeBranch
      dsimp only
      split
      · trivial
      · split
        · trivial
        · exact create_yields _ _ _ _
    · unfold pushAndOpen
      apply yields_after
      intro built
      split
      · trivial
      · apply yields_after
        intro _
        apply yields_after
        intro pushed
        split
        · trivial
        · exact create_yields _ _ _ _

theorem owned_yields (checks : PrChecks) (claimToken : String) (requestedId : Option String) :
    (ownedCall checks claimToken requestedId).Yields Answered := by
  unfold ownedCall
  apply yields_after
  intro _
  apply yields_after
  intro _
  apply yields_ensuring
  unfold lockedCall underLock
  apply yields_after
  intro _
  apply yields_ensuring
  apply yields_ensuring
  apply yields_after
  intro _
  exact run_claimed_yields _

theorem open_pull_request_yields (settings : Settings) (reportId : String) (requestedId : Option String) :
    (openPullRequest settings reportId requestedId).Yields Answered := by
  unfold openPullRequest
  apply yields_after
  intro row
  split
  · trivial
  · apply yields_after
    intro requested
    apply yields_after
    intro recorded
    split
    · exact recorded_yields _ _
    · apply yields_after
      intro proposals
      split
      · trivial
      · unfold checkReport
        apply yields_after
        intro running
        split
        · trivial
        · split
          · apply yields_after
            intro checks
            unfold claimAndRun
            apply yields_after
            intro claimToken
            apply yields_after
            intro won
            split
            · exact owned_yields _ _ _
            · unfold claimRefused
              apply yields_after
              intro current
              split <;> trivial
          · trivial

section Step

variable {settings : Settings} {reportId : String} {proposalId : Option String} {attempts : Nat}

/-- The step, from the answer on. -/
def afterOpening (reportId : String) (proposalId : Option String) (attempts : Nat) :
    Except Exn PrAnswer → Py StepResult
  | .ok answer => prOpened answer attempts
  | .error error => prStepFailed reportId proposalId attempts error

/-- Every run of the step is one of `open_pull_request` and what follows its answer. -/
theorem pr_step_ends (outcome : Except Exn StepResult) :
    (prStep settings reportId proposalId attempts).Ends outcome ↔
      ∃ given, (openPullRequest settings reportId proposalId).Ends given ∧
        (afterOpening reportId proposalId attempts given).Ends outcome := by
  unfold prStep
  simp only [bind_eq, pure_eq, ends_bind, ends_catching, Ends]
  constructor
  · rintro (⟨result, caught, later⟩ | ⟨error, caught, rfl⟩)
    · rcases caught with ⟨opened, (⟨answer, given, inner⟩ | ⟨error, -, inner⟩), same⟩ | ⟨error, raised, handled⟩
      · cases same
        cases inner
        exact ⟨.ok answer, given, later⟩
      · cases inner
      · rcases raised with ⟨answer, -, same⟩ | ⟨other, given, same⟩
        · cases same
        · cases same
          rcases handled with ⟨step, failed, same⟩ | ⟨other, -, same⟩
          · cases same
            refine ⟨.error error, given, ?_⟩
            rw [show outcome = .ok step from later]
            exact failed
          · cases same
    · rcases caught with ⟨result, -, same⟩ | ⟨other, raised, handled⟩
      · cases same
      · rcases raised with ⟨answer, -, same⟩ | ⟨first, given, same⟩
        · cases same
        · cases same
          rcases handled with ⟨step, -, same⟩ | ⟨last, failed, same⟩
          · cases same
          · cases same
            exact ⟨.error other, given, failed⟩
  · rintro ⟨given, answered, later⟩
    cases given with
    | ok answer => exact .inl ⟨.ok answer, .inl ⟨.ok answer, .inl ⟨answer, answered, rfl⟩, rfl⟩, later⟩
    | error error =>
        cases outcome with
        | ok step =>
            refine .inl ⟨.error step, .inr ⟨error, .inr ⟨error, answered, rfl⟩, .inl ⟨step, later, rfl⟩⟩, rfl⟩
        | error last =>
            exact .inr ⟨last, .inr ⟨error, .inr ⟨error, answered, rfl⟩, .inr ⟨last, later, rfl⟩⟩, rfl⟩

def transient : Exn → Bool
  | .openPr error => error.code ∉ openPrRefused && error.code != "in_progress"
  | _ => true

def expectedState (attempts : Nat) : Except Exn PrAnswer → Option Verdict
  | .ok answer => if answer.status = 200 ∨ answer.status = 201 then some .done else some .refused
  | .error (.openPr error) =>
      if error.code ∈ openPrRefused then some .refused
      else if error.code = "in_progress" then none
      else if attempts + 1 < 3 then none else some .failed
  | .error _ => if attempts + 1 < 3 then none else some .failed

/-- The step returns, with the state that the answer asks for. -/
def StepHolds (reportId : String) (proposalId : Option String) (attempts : Nat)
    (given : Except Exn PrAnswer) (answers : (op : Op) → Except Exn op.Ans) : Prop :=
  ∃ step, (afterOpening reportId proposalId attempts given).eval answers = .ok step ∧
    step.state = expectedState attempts given

theorem proposals_read (answers : (op : Op) → Except Exn op.Ans) :
    (fixProposalsForReport reportId).eval answers = answers (.query (.fixProposalsForReport reportId)) :=
  eval_perform _

/-- The end of a failed attempt, which reads the proposals for its note at the cap. -/
theorem attempt_failed_holds (detail : String) (answers : (op : Op) → Except Exn op.Ans) :
    (∃ step, (prAttemptFailed reportId proposalId attempts detail).eval answers = .ok step ∧
        step.state = if attempts + 1 < 3 then none else some .failed) ↔
      (3 ≤ attempts + 1 → ∃ proposals, answers (.query (.fixProposalsForReport reportId)) = .ok proposals) := by
  unfold prAttemptFailed
  by_cases early : attempts + 1 < 3
  · rw [if_pos early, if_pos early]
    refine iff_of_true ⟨_, rfl, rfl⟩ ?_
    intro late
    omega
  · rw [if_neg early, if_neg early]
    have late : 3 ≤ attempts + 1 := by omega
    simp only [late, forall_const, bind_eq, eval_bind]
    cases read : answers (.query (.fixProposalsForReport reportId)) with
    | error error =>
        have noted : (pushedNote reportId proposalId).eval answers = .error error := by
          rw [pushedNote, bind_eq, eval_bind, proposals_read, read]
          rfl
        rw [noted]
        constructor
        · rintro ⟨step, raised, -⟩
          cases raised
        · rintro ⟨proposals, read⟩
          cases read
    | ok proposals =>
        obtain ⟨text, noted⟩ : ∃ text, (pushedNote reportId proposalId).eval answers = .ok text := by
          rw [pushedNote, bind_eq, eval_bind, proposals_read, read]
          simp only [Except.bind]
          split
          · exact ⟨_, rfl⟩
          · exact ⟨_, rfl⟩
        rw [noted]
        exact iff_of_true ⟨_, rfl, rfl⟩ ⟨proposals, rfl⟩

/-- An error of `open_pull_request`, by its kind. -/
theorem failed_holds (error : Exn) (answers : (op : Op) → Except Exn op.Ans) :
    (∃ step, (prStepFailed reportId proposalId attempts error).eval answers = .ok step ∧
        step.state = expectedState attempts (.error error)) ↔
      (transient error = true → 3 ≤ attempts + 1 →
        ∃ proposals, answers (.query (.fixProposalsForReport reportId)) = .ok proposals) := by
  cases error with
  | openPr error =>
      simp only [prStepFailed, expectedState, transient, Bool.and_eq_true, decide_eq_true_eq, bne_iff_ne]
      by_cases refused : error.code ∈ openPrRefused
      · rw [if_pos refused, if_pos refused]
        refine iff_of_true ⟨_, rfl, rfl⟩ ?_
        rintro ⟨other, -⟩
        exact absurd refused other
      · rw [if_neg refused, if_neg refused]
        by_cases running : error.code = "in_progress"
        · rw [if_pos running, if_pos running]
          refine iff_of_true ⟨_, rfl, rfl⟩ ?_
          rintro ⟨-, other⟩
          exact absurd running other
        · rw [if_neg running, if_neg running, attempt_failed_holds]
          exact ⟨fun read _ => read, fun read => read ⟨refused, running⟩⟩
  | _ => exact (attempt_failed_holds _ answers).trans ⟨fun read _ => read, fun read => read rfl⟩

/-- The answer is not a returned error body, and the proposals can be read where the note of the last
failed attempt needs them. -/
def Readable (reportId : String) (attempts : Nat) (given : Except Exn PrAnswer)
    (answers : (op : Op) → Except Exn op.Ans) : Prop :=
  match given with
  | .ok answer => answer.status ≠ 409
  | .error error => transient error = true → 3 ≤ attempts + 1 →
      ∃ proposals, answers (.query (.fixProposalsForReport reportId)) = .ok proposals

theorem step_holds_iff (settings : Settings) (reportId : String) (proposalId : Option String) (attempts : Nat)
    (given : Except Exn PrAnswer) (gives : (openPullRequest settings reportId proposalId).Ends given)
    (answers : (op : Op) → Except Exn op.Ans) :
    StepHolds reportId proposalId attempts given answers ↔ Readable reportId attempts given answers := by
  unfold StepHolds Readable
  cases given with
  | ok answer =>
      have answered := (open_pull_request_yields settings reportId proposalId).ends gives
      dsimp only [afterOpening, prOpened]
      rcases answered with ⟨opened, branch, named⟩ | ⟨refused, missing⟩
      · rw [named]
        refine iff_of_true ⟨_, rfl, ?_⟩ ?_
        · exact (if_pos opened).symm
        · rcases opened with same | same <;> rw [same] <;> decide
      · rw [missing]
        refine iff_of_false ?_ ?_
        · rintro ⟨step, raised, -⟩
          cases raised
        · exact fun other => other refused
  | error error => exact failed_holds error answers

/-- A run of the step is a run of `open_pull_request` and what follows its answer; and for an answer that
can be given, the step holds exactly when the answer is readable. -/
theorem pr_step_law_iff (settings : Settings) (reportId : String) (proposalId : Option String) (attempts : Nat) :
    (∀ outcome, (prStep settings reportId proposalId attempts).Ends outcome ↔
      ∃ given, (openPullRequest settings reportId proposalId).Ends given ∧
        (afterOpening reportId proposalId attempts given).Ends outcome) ∧
    ∀ given, (openPullRequest settings reportId proposalId).Ends given →
      ∀ answers : (op : Op) → Except Exn op.Ans,
        (StepHolds reportId proposalId attempts given answers ↔ Readable reportId attempts given answers) := by
  constructor
  · intro outcome
    exact pr_step_ends outcome
  · intro given gives answers
    exact step_holds_iff settings reportId proposalId attempts given gives answers

/-- An unknown report is refused, at any attempt. -/
theorem unknown_report_holds :
    StepHolds "r" none 2
      (.error (openPrError 404 "report_not_found" "Bug report not found")) (fun _ => .error .claimLost) :=
  ((pr_step_law_iff Scenario.settings "r" none 2).2
    (.error (openPrError 404 "report_not_found" "Bug report not found")) ⟨.ok none, rfl⟩
      fun _ => .error .claimLost).mpr fun passing => absurd passing (by decide)

end Step

section Another

/-- A proposal of the report; the pull request's columns are filled when it is recorded. -/
def anotherProposal (id : String) (pushedSha prUrl : Option String) (prNumber : Option Int) : FixProposal :=
  { id, bugReportId := "r", analysisId := "fix", branchName := none, diff := "", explanation := "text"
    confidence := "0.5", rootCause := "text", filesChanged := [], status := .proposed, prUrl, prNumber
    pushedSha, prOpenedAt := none, triggerRef := none, prState := none, prCheckedAt := none
    prSettledAt := none, prCheckError := none, createdAt := 0, updatedAt := 0 }

/-- The report's branch has a pull request of `q1`, which no row records yet. -/
def ofAnother : (op : Op) → Except Exn op.Ans
  | .query (.reportGet id) =>
      if same : (Scenario.report .fixProposed).id = id then .ok (some ⟨Scenario.report .fixProposed, same⟩)
      else .ok none
  | .query (.projectGet id) =>
      if same : Scenario.project.id = id then .ok (some ⟨Scenario.project, same⟩) else .ok none
  | .query (.fixProposalOfReport _ "q2") => .ok (some (anotherProposal "q2" none none none))
  | .query (.fixProposalOfReport ..) =>
      .ok (some (anotherProposal "q1" (some "sha") (some "https://github.com/o/r/pull/7") (some 7)))
  | .query (.recordedPullRequest _) => .ok none
  | .query (.fixProposalsForReport _) =>
      .ok [anotherProposal "q2" none none none, anotherProposal "q1" (some "sha") none none]
  | .memory (.openPrRunning _) => .ok false
  | .memory (.finalized _) => .ok true
  | .memory (.registerClaim ..) | .memory (.dropClaim ..) | .memory (.setFinalized _) | .memory (.unlock _) => .ok ()
  | .observe (.parseGithubSlug _) => .ok (some ("o", "r"))
  | .observe (.cloneExists _) => .ok true
  | .newToken => .ok "token"
  | .report _ => .ok true
  | .joint (.recordPullRequest _) => .ok .recorded
  | .acquire _ => .ok ()
  | .compute (.resolvePaths ..) => .ok ()
  | .remote (.cleanup _) => .ok ()
  | .remote (.findPr _) => .ok (.ok (some ⟨7, some "https://github.com/o/r/pull/7", some "sha"⟩))
  | .remote (.prCommits ..) => .ok (.ok [])
  | _ => .error (.plain "Error" "")

/-- The pull request is recorded for `q1`, and the step that asked for `q2` raises on the body it gets. -/
theorem another_proposal_raises :
    ((openPullRequest Scenario.settings "r" (some "q2")).eval ofAnother).map PrAnswer.status = .ok 409 ∧
      (prStep Scenario.settings "r" (some "q2") 0).eval ofAnother = .error (.plain "KeyError" "branch") :=
  ⟨rfl, rfl⟩

end Another

end Bugalizer
