import Bugalizer.Attempts
import Bugalizer.Pipeline.Eligibility
import Bugalizer.Scenario
import Bugalizer.Sync.Holds

/-!
# The retry cap when a sampled fix is claimed

The worker samples the reports a fix is due for and leaves a call of each behind its
semaphore. The claim of such a call asks for the status alone: that the retry gate is still
open is not asked again. It is, as long as no other fix of the report fails for good, or
uses up the budget, between the sampling and the claim.
-/

namespace Bugalizer

set_option autoImplicit false

open Coroutine Program Store

/-- The report has a permanent failed fix row, or as many failed ones as `max_fix_retries`,
since its current localization. -/
def retryCapReached (settings : Settings) (reportId : String) (db : Database) : Bool :=
  let failed := failedAttemptsAfter (Query.run (.analysesForReport reportId (some .fix)) db)
    ((Query.run (.latestCompletedLocalization reportId) db).map Analysis.createdAt)
  failed.any permanentFailure || decide (settings.maxFixRetries ≤ failed.length)

namespace Py

theorem sort_descending_head {Row : Type} {stamp : Row → Nat} {rows : List Row} {first row : Row}
    (head : (sortDescending stamp rows).head? = some first) (member : row ∈ rows) :
    stamp row ≤ stamp first := by
  have sorted := sort_descending_sorted stamp rows
  have listed : row ∈ sortDescending stamp rows := mem_sort_descending.mpr member
  cases sort : sortDescending stamp rows with
  | nil =>
      rw [sort] at head
      cases head
  | cons top rest =>
      rw [sort] at head listed sorted
      cases head
      rcases List.mem_cons.mp listed with rfl | later
      · exact le_rfl
      · exact (List.pairwise_cons.mp sorted).1 row later

theorem sort_descending_none {Row : Type} {stamp : Row → Nat} {rows : List Row}
    (empty : (sortDescending stamp rows).head? = none) : rows = [] := by
  have nil := List.head?_eq_none_iff.mp empty
  have same := (List.perm_insertionSort (fun first second => stamp second ≤ stamp first) rows).symm
  exact List.Perm.eq_nil (nil ▸ same)

end Py

def completedLocalization (reportId : String) (row : Analysis) : Bool :=
  row.bugReportId == reportId && row.phase == .localization && row.status == .completed

def failedFixOf (reportId : String) (row : Analysis) : Bool :=
  row.bugReportId == reportId && row.phase == .fix && row.status == .failed

/-- The failures counted since `reference`, in no order. -/
def countedFailures (reportId : String) (reference : Nat) (analyses : Analyses) : List Analysis :=
  (analyses.select (failedFixOf reportId)).filter fun row => reference < row.createdAt

theorem failed_fixes_perm (reportId : String) (reference : Nat) (db : Database) :
    (failedFixes reportId reference db).Perm
      (countedFailures reportId reference db.stages.analyses) := by
  have sorted := (List.perm_insertionSort
    (fun first second : Analysis => second.createdAt ≤ first.createdAt)
    (db.stages.analyses.select fun row =>
      row.bugReportId == reportId && (some StagePhase.fix).all (· == row.phase))).filter
    fun row => row.status == .failed && (some reference).all fun start => start < row.createdAt
  refine sorted.trans (.of_eq ?_)
  rw [countedFailures, Table.select, Table.select, List.filter_filter, List.filter_filter]
  apply List.filter_congr
  intro row _
  rw [Bool.eq_iff_iff]
  simp only [failedFixOf, Option.all_some, Bool.and_eq_true, beq_iff_eq, decide_eq_true_eq,
    eq_comm (a := StagePhase.fix)]
  tauto

/-- The budget that is left, in terms of the failures counted. -/
theorem cap_reached_iff {settings : Settings} {reportId : String} {db : Database}
    {localization : Analysis}
    (current : Query.run (.latestCompletedLocalization reportId) db = some localization) :
    retryCapReached settings reportId db = false ↔
      (∀ row ∈ countedFailures reportId localization.createdAt db.stages.analyses,
        permanentFailure row = false) ∧
      ((countedFailures reportId localization.createdAt db.stages.analyses).length : Int) <
        settings.maxFixRetries := by
  have same := failed_fixes_perm reportId localization.createdAt db
  have list : failedAttemptsAfter (Query.run (.analysesForReport reportId (some .fix)) db)
      ((Query.run (.latestCompletedLocalization reportId) db).map Analysis.createdAt) =
      failedFixes reportId localization.createdAt db := by
    rw [current]
    rfl
  simp only [retryCapReached, list, Bool.or_eq_false_iff, decide_eq_false_iff_not, not_le,
    List.any_eq_false, same.length_eq, same.mem_iff]
  simp

def GateOpen (settings : Settings) (reportId : String) (db : Database) : Prop :=
  (∃ localization, Query.run (.latestCompletedLocalization reportId) db = some localization) ∧
    retryCapReached settings reportId db = false

/-- A new failed fix of the report is not permanent and does not use up the budget. -/
def LeavesBudget (settings : Settings) (db : Database) (new : NewAnalysis) : Prop :=
  permanentFailure (new.row "" 0) = false ∧
    ∀ localization, Query.run (.latestCompletedLocalization new.bugReportId) db = some localization →
      ((countedFailures new.bugReportId localization.createdAt db.stages.analyses).length : Int) + 1 <
        settings.maxFixRetries

theorem current_localization {reportId : String} {db : Database} {localization : Analysis} :
    Query.run (.latestCompletedLocalization reportId) db = some localization →
      localization ∈ db.stages.analyses.select (completedLocalization reportId) ∧
        ∀ row ∈ db.stages.analyses.select (completedLocalization reportId),
          row.createdAt ≤ localization.createdAt := by
  intro current
  constructor
  · have first := List.mem_of_head? current
    rwa [Py.mem_sort_descending] at first
  · intro row member
    exact Py.sort_descending_head current member

theorem localization_exists {reportId : String} {db : Database} {row : Analysis}
    (member : row ∈ db.stages.analyses.select (completedLocalization reportId)) :
    ∃ localization, Query.run (.latestCompletedLocalization reportId) db = some localization ∧
      row.createdAt ≤ localization.createdAt := by
  cases current : Query.run (.latestCompletedLocalization reportId) db with
  | none =>
      have empty := Py.sort_descending_none current
      rw [show db.stages.analyses.select (completedLocalization reportId) = [] from empty] at member
      cases member
  | some localization => exact ⟨localization, rfl, (current_localization current).2 row member⟩

/-- The gate stays open when the completed localizations stay and, counted from the current
one, the failures do not become more. -/
theorem gate_stays {settings : Settings} {reportId : String} {before after : Database}
    (gate : GateOpen settings reportId before)
    (localizations : ∀ row ∈ before.stages.analyses.select (completedLocalization reportId),
      row ∈ after.stages.analyses.select (completedLocalization reportId))
    (failures : after.stages.analyses.select (failedFixOf reportId) =
      before.stages.analyses.select (failedFixOf reportId)) :
    GateOpen settings reportId after := by
  obtain ⟨⟨localization, current⟩, open'⟩ := gate
  obtain ⟨member, -⟩ := current_localization current
  obtain ⟨newer, current', later⟩ := localization_exists (localizations _ member)
  refine ⟨⟨newer, current'⟩, ?_⟩
  rw [cap_reached_iff current] at open'
  rw [cap_reached_iff current']
  have fewer : (countedFailures reportId newer.createdAt after.stages.analyses).Sublist
      (countedFailures reportId localization.createdAt before.stages.analyses) := by
    rw [countedFailures, countedFailures, failures]
    apply List.monotone_filter_right
    intro row counted
    have counted := of_decide_eq_true counted
    exact decide_eq_true (by omega)
  constructor
  · intro row counted
    exact open'.1 row (fewer.subset counted)
  · have length := fewer.length_le
    have room := open'.2
    omega

theorem gate_made {settings : Settings} {reportId : String} {before after : Database}
    {new : NewAnalysis} {id : String} {now : Nat} (gate : GateOpen settings reportId before)
    (inserted : before.stages.analyses.insert (new.row id now) = some after.stages.analyses)
    (announced : new.status = .running ↔ new.phase.announced = true)
    (budget : new.bugReportId = reportId → new.phase = .fix → new.status = .failed →
      LeavesBudget settings before new) : GateOpen settings reportId after := by
  have unlocalized : completedLocalization reportId (new.row id now) = false := by
    cases status : new.status with
    | running => simp [completedLocalization, NewAnalysis.row, status]
    | failed => simp [completedLocalization, NewAnalysis.row, status]
    | completed =>
        cases phase : new.phase with
        | localization =>
            have running := announced.mpr (by rw [phase]; rfl)
            rw [status] at running
            cases running
        | _ => simp [completedLocalization, NewAnalysis.row, phase]
  have localizations := Table.select_insert inserted unlocalized
  by_cases fails : failedFixOf reportId (new.row id now) = true
  swap
  · refine gate_stays gate (fun row member => by rw [localizations]; exact member) ?_
    exact Table.select_insert inserted (by simpa using fails)
  obtain ⟨⟨localization, current⟩, open'⟩ := gate
  have current' : Query.run (.latestCompletedLocalization reportId) after = some localization := by
    rw [← current]
    simp only [Query.run]
    exact congrArg (fun rows => (Py.sortDescending Analysis.createdAt rows).head?) localizations
  refine ⟨⟨localization, current'⟩, ?_⟩
  simp only [failedFixOf, NewAnalysis.row, Bool.and_eq_true, beq_iff_eq] at fails
  obtain ⟨⟨rfl, phase⟩, failed⟩ := fails
  obtain ⟨transient, room⟩ := budget rfl phase failed
  rw [cap_reached_iff current] at open'
  rw [cap_reached_iff current']
  have added : countedFailures new.bugReportId localization.createdAt after.stages.analyses =
      countedFailures new.bugReportId localization.createdAt before.stages.analyses ++
        ([new.row id now].filter fun row => localization.createdAt < row.createdAt) := by
    have counts : failedFixOf new.bugReportId (new.row id now) = true := by
      simp [failedFixOf, NewAnalysis.row, phase, failed]
    rw [countedFailures, Table.select_insert_hit inserted counts, List.filter_append]
    rfl
  rw [added]
  constructor
  · intro row counted
    rcases List.mem_append.mp counted with old | made
    · exact open'.1 row old
    · rw [List.mem_singleton.mp (List.mem_of_mem_filter made)]
      exact transient
  · have one := List.length_filter_le (fun row => decide (localization.createdAt < row.createdAt))
      [new.row id now]
    have last := room localization current
    rw [List.length_append]
    simp only [List.length_singleton] at one
    push_cast
    omega

theorem announced_is_no_fix {reportId : String} {row : Analysis}
    (announced : row.phase.announced = true) : failedFixOf reportId row = false := by
  have other : row.phase ≠ .fix := by
    intro same
    rw [same] at announced
    cases announced
  simp [failedFixOf, other]

/-- The write of an attempt's row fails no fix and leaves the completed localizations. -/
theorem gate_written {settings : Settings} {reportId : String} {before after : Database}
    {id : String} {fields : AnalysisFields} {row : Analysis} (gate : GateOpen settings reportId before)
    (found : before.stages.analyses.get id = some row) (announced : row.phase.announced = true)
    (again : row.status ≠ .running → row.phase = .triage)
    (written : after.stages.analyses =
      before.stages.analyses.update id (fun _ => true) fields.write fields.write_id) :
    GateOpen settings reportId after := by
  have only : ∀ other ∈ before.stages.analyses.rows, (decide (other.id = id) && true) = true →
      other = row := by
    intro other member here
    have same : other.id = id := by simpa using here
    have stored := Table.mem_get member
    rw [same, found] at stored
    exact (Option.some.inj stored).symm
  refine gate_stays gate (fun other member => ?_) ?_
  · rw [Table.mem_select] at member ⊢
    refine ⟨?_, member.2⟩
    have elsewhere : other.id ≠ id := by
      intro same
      rw [same, found] at member
      cases member.1
      have completed := member.2
      simp only [completedLocalization, Bool.and_eq_true, beq_iff_eq] at completed
      have triage := again (by rw [completed.2]; decide)
      rw [completed.1.2] at triage
      cases triage
    rw [written, Table.get_update_other _ _ _ fields.write_id elsewhere]
    exact member.1
  · rw [written, Table.update]
    refine Table.select_update_all fields.write_id fun other member here => ?_
    have same := only other member here
    have phase := (write_phase fields other).1
    rw [same] at phase ⊢
    exact ⟨announced_is_no_fix announced, announced_is_no_fix (phase ▸ announced)⟩

/-- One step that is no restart, when a new failure of the report leaves budget. -/
theorem gate_step {settings : Settings} {reportId : String} {before after : Database} {event : Ev}
    (gate : GateOpen settings reportId before) (alive : event ≠ .restarted)
    (step : AttemptStep before.stages.analyses event after.stages.analyses)
    (budget : ∀ task new id, event = .answered task (.stage (.analysisCreate new)) (.ok id) →
      new.bugReportId = reportId → new.phase = .fix → new.status = .failed →
      LeavesBudget settings before new) : GateOpen settings reportId after := by
  generalize analyses : after.stages.analyses = made at step
  cases step with
  | same event =>
      refine gate_stays gate (fun row member => ?_) ?_
      · rwa [analyses]
      · rw [analyses]
  | made task new id now rows inserted announced =>
      exact gate_made gate (analyses ▸ inserted) announced (budget task new id rfl)
  | written task id fields row found announced stopped again =>
      exact gate_written gate found announced again analyses
  | restarted now reportIds fresh => exact absurd rfl alive

/-- The worker starts the fix of a report that it has just found due. -/
def sampled (state : Sys) : Ev → Prop
  | .started (.processFixProposal reportId) => ∃ now,
      reportId ∈ (reportsEligibleForFix state.world.settings now state.world.db).map Report.id
  | _ => True

/-- The claim `propose_fix` begins with. -/
def fixClaim (reportId : String) : Op := .report (.tryClaim reportId .triaged .fixProposing none)

/-- A call that the worker dispatched for the report may still claim it. -/
def Awaited (state : Sys) (reportId : String) : Prop :=
  ∃ id task, state.tasks id = some task ∧ task.job = .processFixProposal reportId ∧
    task.rest.Asks (fixClaim reportId)

/-- The worker's sampling, under a cap of at least one; and while a sampled report waits, no
other fix of it fails for good or uses up the budget. -/
def budgeted (_past : List Ev) (state : Sys) (event : Ev) : Prop :=
  sampled state event ∧
    match event with
    | .started (.processFixProposal _) => 1 ≤ state.world.settings.maxFixRetries
    | .answered _ (.stage (.analysisCreate new)) (.ok _) =>
        new.phase = .fix → new.status = .failed → Awaited state new.bugReportId →
          LeavesBudget state.world.settings state.world.db new
    | _ => True

theorem due_opens_gate {settings : Settings} {now : Nat} {db : Database} {reportId : String}
    (due : reportId ∈ (reportsEligibleForFix settings now db).map Report.id)
    (capped : 1 ≤ settings.maxFixRetries) : GateOpen settings reportId db := by
  obtain ⟨report, eligible, rfl⟩ := List.mem_map.mp due
  have due := (mem_eligible_for_fix.mp eligible).2
  simp only [fixDue, Bool.and_eq_true, Option.any_eq_true, Bool.not_eq_true'] at due
  obtain ⟨-, project, -, localization, current, -, unblocked⟩ := due
  refine ⟨⟨localization, current⟩, ?_⟩
  have same := failed_fixes_perm report.id localization.createdAt db
  rw [cap_reached_iff current]
  constructor
  · intro row counted
    by_contra permanent
    rw [permanent_failure_blocks (same.mem_iff.mpr counted) (by simpa using permanent)] at unblocked
    cases unblocked
  · by_contra full
    have most : settings.maxFixRetries ≤ (failedFixes report.id localization.createdAt db).length := by
      rw [same.length_eq]
      omega
    have nonempty : failedFixes report.id localization.createdAt db ≠ [] := by
      intro empty
      rw [empty] at most
      simp only [List.length_nil] at most
      omega
    rw [full_budget_blocks nonempty most] at unblocked
    cases unblocked

def GatesOpen (state : Sys) : Prop :=
  ∀ id task reportId, state.tasks id = some task → task.job = .processFixProposal reportId →
    task.rest.Asks (fixClaim reportId) → GateOpen state.world.settings reportId state.world.db

/-- A task that may still claim after a step might before it, unless the step started it. -/
theorem waiting_before {world : World} {past : List Ev} {state next : Sys} {event : Ev} {id : Nat}
    {task : Task Op Op.Ans Exn Job} {reportId : String}
    (run : Run bugalizer (State.boot world) past state) (moves : Moves bugalizer state event next)
    (found : next.tasks id = some task) (works : task.job = .processFixProposal reportId)
    (claims : task.rest.Asks (fixClaim reportId)) :
    (event = .started (.processFixProposal reportId) ∧ next.world = state.world) ∨
      ∃ earlier, state.tasks id = some earlier ∧ earlier.job = .processFixProposal reportId ∧
        earlier.rest.Asks (fixClaim reportId) := by
  have whole := moves
  cases moves with
  | started job rooted =>
      simp only [State.begin, Function.update_apply] at found
      split at found
      · cases found
        exact .inl ⟨by rw [show job = _ from works], rfl⟩
      · exact .inr ⟨task, found, works, claims⟩
  | issued other asking op rest found' running asks suspends awake =>
      simp only [Function.update_apply] at found
      split at found
      · rename_i here
        cases found
        exact .inr ⟨asking, here ▸ found', works, claims⟩
      · exact .inr ⟨task, found, works, claims⟩
  | answered other asking op rest env answer after found' running asks ready ran =>
      have resumed : Function.update state.tasks other
          (some { asking with rest := rest answer, waiting := false }) id = some task →
          ∃ earlier, state.tasks id = some earlier ∧ earlier.job = .processFixProposal reportId ∧
            earlier.rest.Asks (fixClaim reportId) := by
        intro found
        rw [Function.update_apply] at found
        split at found
        · rename_i here
          cases found
          exact ⟨asking, here ▸ found', works, by rw [asks]; exact .inr ⟨answer, claims⟩⟩
        · exact ⟨task, found, works, claims⟩
      cases spawns : bugalizer.spawns op with
      | none =>
          rw [spawns] at found
          exact .inr (resumed found)
      | some job =>
          have spawned := run_spawns run whole spawns
          rw [spawns] at found
          simp only [State.beginAll, State.begin, Function.update_apply] at found
          split at found
          · cases found
            rw [show job = _ from works] at spawned
            cases spawned
          · refine .inr (resumed ?_)
            rwa [Function.update_apply]
  | ended other ending found' running closed =>
      simp only [State.finish, Function.update_apply] at found
      split at found
      · cases found
      · exact .inr ⟨task, found, works, claims⟩
  | restarted boot => cases found

theorem step_settings {state next : Sys} {event : Ev} (moves : Moves bugalizer state event next)
    (alive : event ≠ .restarted) : next.world.settings = state.world.settings := by
  cases moves with
  | answered id task op rest env answer world found running asks ready ran =>
      have kept : world.settings = state.world.settings := op_settings (exec_moves ran)
      cases spawns : bugalizer.spawns op with
      | none => exact kept
      | some job => exact kept
  | restarted boot => exact absurd rfl alive
  | _ => rfl

theorem gates_step {world : World} {past : List Ev} {state next : Sys} {event : Ev}
    (run : Run bugalizer (State.boot world) past state) (gates : GatesOpen state)
    (guard : budgeted past state event) (moves : Moves bugalizer state event next) :
    GatesOpen next := by
  intro id task reportId found works claims
  rcases waiting_before run moves found works claims with ⟨rfl, same⟩ | ⟨earlier, was, worked, claimed⟩
  · obtain ⟨⟨now, due⟩, capped⟩ := guard
    rw [same]
    exact due_opens_gate due capped
  · have alive : event ≠ .restarted := by
      rintro rfl
      cases moves
      cases found
    rw [step_settings moves alive]
    refine gate_step (gates id earlier reportId was worked claimed) alive (run_attempts run moves)
      fun writer new made same ofReport phase failed => ?_
    subst same ofReport
    exact guard.2 phase failed ⟨id, earlier, was, worked, claimed⟩

theorem gates_run {world : World} {past : List Ev} {state : Sys}
    (run : Guarded (Moves bugalizer) budgeted (State.boot world) past state) : GatesOpen state := by
  induction run with
  | nil => exact fun id task reportId found => by cases found
  | snoc before moves allows ih => exact gates_step before.path ih allows moves

/-- What the claim says of one call of the worker: if the cap is reached when it wins the
report, it asks no model afterwards. -/
def CapKept (reportId : String) (id : Nat) (claiming : Sys) (later : List Ev) : Prop :=
  retryCapReached claiming.world.settings reportId claiming.world.db = true →
    ∀ call, Event.issued id (.remote (.acompletion call)) ∉ later

/-- In every run in which no failure uses up the budget of a report that the worker has
sampled and not yet claimed, a dispatched call that wins its claim finds the cap unreached. -/
theorem dispatched_fix_keeps_cap {world : World} {past later : List Ev}
    {claiming claimed last : Sys} {id : Nat} {task : Task Op Op.Ans Exn Job} {reportId : String}
    (run : Guarded (Moves bugalizer) budgeted (State.boot world) past claiming)
    (found : claiming.tasks id = some task) (dispatched : task.job = .processFixProposal reportId)
    (wins : Moves bugalizer claiming (.answered id (fixClaim reportId) (.ok true)) claimed)
    (_rest : Run bugalizer claimed later last) : CapKept reportId id claiming later := by
  have asking : task.rest.Asks (fixClaim reportId) := by
    cases wins with
    | answered id other op rest env answer world found' running asks ready ran =>
        rw [found] at found'
        cases found'
        rw [asks]
        exact .inl rfl
  have gate := gates_run run id task reportId found dispatched asking
  intro reached
  rw [gate.2] at reached
  cases reached

namespace Scenario

/-- A localized report that the worker finds due. -/
def awaitingFix : Database :=
  { database .triaged .empty with
    stages := ⟨⟨[{ localized 0 with
      result := some (.obj [("repo_sha", .str "sha"),
        ("pass1", .obj [("candidate_files", .arr [.obj [("path", .str "f")]])])]) }],
      List.nodup_singleton _⟩, .empty, []⟩ }

/-- The model answers, and its answer is no proposal. -/
def unparsed (clock : Nat) : (op : Op) → op.Env
  | .remote (.readCandidateFiles ..) => .ok (.blank ..)
  | .remote (.acompletion _) => .ok ⟨"", 0, 0⟩
  | .compute (.formatPrompt _) => .ok ()
  | .compute (.parseProposal _) => .ok (.error "no proposal")
  | op => outside clock op

def sampledAtFive (_past : List Ev) (state : Sys) : Ev → Prop
  | .started (.processFixProposal reportId) =>
      reportId ∈ (reportsEligibleForFix state.world.settings 5 state.world.db).map Report.id ∧
        1 ≤ state.world.settings.maxFixRetries
  | _ => True

instance (past : List Ev) (state : Sys) (event : Ev) :
    Decidable (sampledAtFive past state event) := by
  unfold sampledAtFive
  split <;> infer_instance

/-- The worker samples at time 5, and no fix fails. -/
def unfailing (past : List Ev) (state : Sys) (event : Ev) : Prop :=
  sampledAtFive past state event ∧
    match event with
    | .answered _ (.stage (.analysisCreate new)) (.ok _) => new.status ≠ .failed
    | _ => True

instance (past : List Ev) (state : Sys) (event : Ev) : Decidable (unfailing past state event) := by
  unfold unfailing
  split <;> infer_instance

def firstWins : Ev → Bool
  | .answered 0 (.report (.tryClaim "r" .triaged .fixProposing none)) (.ok true) => true
  | _ => false

def fixesReport : Job → Bool
  | .processFixProposal "r" => true
  | _ => false

/-- The worker starts the fix, these choices follow, and the call stops at its claim. -/
def toClaim (between : List (Choice Op Op.Env Job Boot)) : List (Choice Op Op.Env Job Boot) :=
  .start (.processFixProposal "r") :: between ++ steps 0 (unparsed 5) 2

/-- The manual request of the same fix, which fails for good. -/
def manualFix : List (Choice Op Op.Env Job Boot) :=
  .start (.analyzeReport "r" .cloud none) :: steps 1 (unparsed 6) 21

end Scenario

theorem sampled_at_five {past : List Ev} {state : Sys} {event : Ev}
    (guard : Scenario.sampledAtFive past state event) : sampled state event := by
  cases event with
  | started job =>
      cases job with
      | processFixProposal reportId => exact ⟨5, guard.1⟩
      | _ => trivial
  | _ => trivial

theorem first_wins {event : Ev} (wins : Scenario.firstWins event = true) :
    event = .answered 0 (fixClaim "r") (.ok true) := by
  unfold Scenario.firstWins at wins
  split at wins
  · rfl
  · cases wins

theorem first_dispatched {state : Sys}
    (fixes : (state.tasks 0).any (fun task => Scenario.fixesReport task.job) = true) :
    ∃ task, state.tasks 0 = some task ∧ task.job = .processFixProposal "r" := by
  obtain ⟨task, found, here⟩ := (Option.any_eq_true _ _).mp fixes
  refine ⟨task, found, ?_⟩
  unfold Scenario.fixesReport at here
  split at here
  · assumption
  · cases here

theorem claim_won {state : Sys} {choice : Choice Op Op.Env Job Boot}
    (possible : (state.step bugalizer choice).isSome)
    (wins : Scenario.firstWins ((state.step bugalizer choice).get possible).1 = true) :
    Moves bugalizer state (.answered 0 (fixClaim "r") (.ok true))
      ((state.step bugalizer choice).get possible).2 := by
  have moved : Moves bugalizer state ((state.step bugalizer choice).get possible).1
      ((state.step bugalizer choice).get possible).2 :=
    step_moves (Option.some_get possible).symm
  rwa [first_wins wins] at moved

theorem unfailing_budgeted {past : List Ev} {state : Sys} {event : Ev}
    (guard : Scenario.unfailing past state event) : budgeted past state event := by
  refine ⟨sampled_at_five guard.1, ?_⟩
  obtain ⟨sampling, succeeds⟩ := guard
  cases event with
  | started job =>
      cases job with
      | processFixProposal reportId => exact sampling.2
      | _ => trivial
  | answered id op answer =>
      cases op with
      | stage write =>
          cases write with
          | analysisCreate new =>
              cases answer with
              | ok made =>
                  intro _ failed
                  exact absurd failed succeeds
              | error exn => trivial
          | _ => trivial
      | _ => trivial
  | _ => trivial

/-- The dispatched call, up to its claim, with nothing else at work. -/
def undisturbed : Option (List Ev × Sys) :=
  (State.boot (Scenario.world Scenario.awaitingFix)).guardedSteps bugalizer Scenario.unfailing
    (Scenario.toClaim []) []

def undisturbedScript : GuardedScript bugalizer
    (State.boot (Scenario.world Scenario.awaitingFix)) Scenario.unfailing :=
  ⟨Scenario.toClaim [], by decide +kernel⟩

theorem undisturbed_runs : undisturbed.isSome := undisturbedScript.possible

def undisturbedClaim : Option (Ev × Sys) :=
  (undisturbed.get undisturbed_runs).2.step bugalizer (.advance 0 (Scenario.unparsed 5))

def undisturbedScene : Scene bugalizer (undisturbed.get undisturbed_runs).2 :=
  ⟨.advance 0 (Scenario.unparsed 5), by decide +kernel⟩

theorem undisturbed_claims : undisturbedClaim.isSome := undisturbedScene.possible

/-- The model call that follows. -/
def undisturbedCall : Option (List Ev × Sys) :=
  (undisturbedClaim.get undisturbed_claims).2.steps bugalizer
    (Scenario.steps 0 (Scenario.unparsed 5) 8)

def undisturbedCallScript : Script bugalizer (undisturbedClaim.get undisturbed_claims).2 :=
  ⟨Scenario.steps 0 (Scenario.unparsed 5) 8, by decide +kernel⟩

theorem undisturbed_calls : undisturbedCall.isSome := undisturbedCallScript.possible

/-- The first task has called a model. -/
def callsModel : Ev → Bool
  | .issued 0 (.remote (.acompletion _)) => true
  | _ => false

theorem dispatched_fix_keeps_cap_undisturbed :
    CapKept "r" 0 (undisturbed.get undisturbed_runs).2
        (undisturbedCall.get undisturbed_calls).1 ∧
      (undisturbedCall.get undisturbed_calls).1.any callsModel = true := by
  have run : Guarded (Moves bugalizer) budgeted _ _ (undisturbed.get undisturbed_runs).2 :=
    (guarded_steps_get undisturbed_runs).mono fun _ _ _ => unfailing_budgeted
  have wins := claim_won undisturbed_claims (by decide +kernel)
  have calls := steps_get undisturbed_calls
  obtain ⟨task, found, works⟩ : ∃ task, (undisturbed.get undisturbed_runs).2.tasks 0 = some task ∧
      task.job = .processFixProposal "r" := first_dispatched (by decide +kernel)
  exact ⟨dispatched_fix_keeps_cap run found works wins calls, by decide +kernel⟩

/-- A manual request of the same fix fails for good while the dispatched call waits. -/
def overtaken : Option (List Ev × Sys) :=
  (State.boot (Scenario.world Scenario.awaitingFix)).guardedSteps bugalizer Scenario.sampledAtFive
    (Scenario.toClaim Scenario.manualFix) []

def overtakenScript : GuardedScript bugalizer
    (State.boot (Scenario.world Scenario.awaitingFix)) Scenario.sampledAtFive :=
  ⟨Scenario.toClaim Scenario.manualFix, by decide +kernel⟩

theorem overtaken_runs : overtaken.isSome := overtakenScript.possible

def overtakenClaim : Option (Ev × Sys) :=
  (overtaken.get overtaken_runs).2.step bugalizer (.advance 0 (Scenario.unparsed 7))

def overtakenScene : Scene bugalizer (overtaken.get overtaken_runs).2 :=
  ⟨.advance 0 (Scenario.unparsed 7), by decide +kernel⟩

theorem overtaken_claims : overtakenClaim.isSome := overtakenScene.possible

def overtakenCall : Option (List Ev × Sys) :=
  (overtakenClaim.get overtaken_claims).2.steps bugalizer
    (Scenario.steps 0 (Scenario.unparsed 7) 8)

def overtakenCallScript : Script bugalizer (overtakenClaim.get overtaken_claims).2 :=
  ⟨Scenario.steps 0 (Scenario.unparsed 7) 8, by decide +kernel⟩

theorem overtaken_calls : overtakenCall.isSome := overtakenCallScript.possible

theorem calls_model {events : List Ev} (calls : events.any callsModel = true) :
    ∃ call, Event.issued 0 (.remote (.acompletion call)) ∈ events := by
  obtain ⟨event, member, here⟩ := List.any_eq_true.mp calls
  unfold callsModel at here
  split at here
  · exact ⟨_, member⟩
  · cases here

/-- The worker's sampling alone does not keep the cap: the dispatched call wins its claim
behind a permanent failure, and asks the model. -/
theorem overtaken_fix_passes_cap :
    ¬∀ past later (claiming claimed last : Sys) id task reportId,
      Guarded (Moves bugalizer) (fun _ => sampled)
          (State.boot (Scenario.world Scenario.awaitingFix)) past claiming →
        claiming.tasks id = some task → task.job = .processFixProposal reportId →
        Moves bugalizer claiming (.answered id (fixClaim reportId) (.ok true)) claimed →
        Run bugalizer claimed later last → CapKept reportId id claiming later := by
  intro claim
  have run : Guarded (Moves bugalizer) (fun _ => sampled) _ _ (overtaken.get overtaken_runs).2 :=
    (guarded_steps_get overtaken_runs).mono fun _ _ _ => sampled_at_five
  have wins := claim_won overtaken_claims (by decide +kernel)
  have calls := steps_get overtaken_calls
  obtain ⟨task, found, works⟩ : ∃ task, (overtaken.get overtaken_runs).2.tasks 0 = some task ∧
      task.job = .processFixProposal "r" := first_dispatched (by decide +kernel)
  have reached : retryCapReached (overtaken.get overtaken_runs).2.world.settings "r"
      (overtaken.get overtaken_runs).2.world.db = true := by decide +kernel
  obtain ⟨call, asked⟩ : ∃ call, Event.issued 0 (.remote (.acompletion call)) ∈
      (overtakenCall.get overtaken_calls).1 := calls_model (by decide +kernel)
  exact claim _ _ _ _ _ 0 task "r" run found works wins calls reached call asked

end Bugalizer
