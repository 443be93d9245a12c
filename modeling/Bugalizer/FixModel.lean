import Bugalizer.Attribution
import Bugalizer.GitOps.PrBody
import Bugalizer.RetryCap
import Bugalizer.Scenario

/-!
# The model a fix is credited to

The board and the body of a pull request name the model of the completed fix that they find for
a proposal. It is the model that answered with the diff.
-/

namespace Bugalizer

set_option autoImplicit false

open Coroutine Program Store Time

/-- The text `_now` gave a stamp. -/
def Stamped (stamp : Nat) (text : String) : Prop :=
  ∃ moment : DateTime, moment.instant = stamp ∧ moment.isoformat = text

/-- A row of `analyses` as the result builder reads it. -/
structure ListedAnalysis (row : Analysis) (listed : Results.AnalysisRow) : Prop where
  phase : listed.phase = row.phase.value
  status : listed.status = row.status.value
  llmProvider : listed.llmProvider = row.llmProvider
  llmModel : listed.llmModel = row.llmModel
  createdAt : Stamped row.createdAt listed.createdAt

/-- `<provider>/<model>` of the model that answered. -/
def LlmResponse.label (response : LlmResponse) : Wire.Value :=
  if response.model = "" then .null
  else .str ((Wire.Text.of (Results.withProvider response.provider response.model)).take
    Results.modelMax)

def LlmResponse.credit (response : LlmResponse) : String :=
  if response.provider = "" then "unknown"
  else (if response.provider = "ollama" then "local" else "cloud") ++ " tier, `" ++
    response.provider ++ "/" ++ (if response.model = "" then "?" else response.model) ++ "`"

/-- The completed fix a proposal came from, and who finds it. -/
structure Attributed (past : List Happening) (db : Database) (proposal : FixProposal) (run : Proposing)
    (fix : Analysis) : Prop where
  made : MadeBoth past run fix.id proposal.id
  written : fix = run.completedFix.row fix.id fix.createdAt
  diff : proposal.diff = run.validated.diff
  queried : Query.run (.fixAnalysisForProposal proposal) db = some fix
  listed : ∀ (rows : List Results.AnalysisRow) (shown : Results.ProposalRow),
    List.Forall₂ ListedAnalysis (Query.run (.analysesForReport proposal.bugReportId none) db) rows →
      Stamped proposal.createdAt shown.createdAt →
        ∃ (index : Nat) (row : Results.AnalysisRow),
          (Query.run (.analysesForReport proposal.bugReportId none) db)[index]? = some fix ∧
            rows[index]? = some row ∧ Results.fixAnalysis rows (some shown) = some row ∧
            Results.modelLabel (some row) = run.response.label
  body : ∀ twoPlaces report,
    "**Produced by:** " ++ run.response.credit ∈ prBodyLines twoPlaces report proposal
      (Query.run (.fixAnalysisForProposal proposal) db)

theorem stamped_le_iff {first second : Nat} {early late : String} (one : Stamped first early)
    (other : Stamped second late) : early ≤ late ↔ first ≤ second := by
  obtain ⟨moment, rfl, rfl⟩ := one
  obtain ⟨later, rfl, rfl⟩ := other
  have order := DateTime.isoformat_lt_iff later moment
  rw [← not_lt, ← not_lt]
  exact not_congr order

theorem stamped_filled {stamp : Nat} {text : String} (stamped : Stamped stamp text) : text ≠ "" := by
  obtain ⟨moment, -, rfl⟩ := stamped
  intro empty
  have letters : moment.isoformat.toList = [] := by rw [empty]; rfl
  simp [Fields.isoformat] at letters

def fixOf (proposal : FixProposal) (row : Analysis) : Bool :=
  row.phase == .fix && row.status == .completed && decide (row.createdAt ≤ proposal.createdAt)

theorem fix_analysis_listed (db : Database) (proposal : FixProposal) :
    Query.run (.fixAnalysisForProposal proposal) db =
      (Query.run (.analysesForReport proposal.bugReportId none) db).find? (fixOf proposal) := by
  apply newest_listed
  intro row
  simp [fixOf, Bool.and_assoc]

theorem listed_fits {proposal : FixProposal} {shown : Results.ProposalRow} {row : Analysis}
    {listed : Results.AnalysisRow} (same : ListedAnalysis row listed)
    (stamped : Stamped proposal.createdAt shown.createdAt) :
    (listed.phase == "fix" && listed.status == "completed" &&
      decide (listed.createdAt ≤ shown.createdAt)) = fixOf proposal row := by
  have order := stamped_le_iff same.createdAt stamped
  unfold fixOf
  rw [same.phase, same.status, decide_eq_decide.mpr order]
  cases row.phase with
  | fix =>
      cases row.status with
      | completed => rfl
      | running => rfl
      | failed => rfl
  | validation => rfl
  | triage => rfl
  | localization => rfl

/-- A search in two lists that correspond ends at the same place in both. -/
theorem find_corresponding {Row Listed : Type} {same : Row → Listed → Prop} {rows : List Row}
    {listed : List Listed} (corresponds : List.Forall₂ same rows listed) {wanted : Row → Bool}
    {asked : Listed → Bool} (fits : ∀ row other, same row other → asked other = wanted row) {row : Row}
    (found : rows.find? wanted = some row) :
    ∃ (index : Nat) (other : Listed), rows[index]? = some row ∧ listed[index]? = some other ∧
      listed.find? asked = some other ∧ same row other := by
  induction corresponds with
  | nil => cases found
  | cons head rest ih =>
      rename_i first other rows listed
      have alike := fits first other head
      rw [List.find?_cons] at found
      cases fit : wanted first with
      | true =>
          rw [fit] at found
          cases found
          refine ⟨0, other, rfl, rfl, ?_, head⟩
          rw [List.find?_cons, alike, fit]
      | false =>
          rw [fit] at found
          obtain ⟨index, later, place, place', search, related⟩ := ih found
          refine ⟨index + 1, later, place, place', ?_, related⟩
          rw [List.find?_cons, alike, fit]
          exact search

/-- Of the completed fixes, the newest that is no younger than the proposal is its own. -/
theorem sourced_queried {past : List Happening} {db : Database} {proposal : FixProposal}
    {run : Proposing} {row : Analysis} (sourced : Sourced past db proposal run row) :
    Query.run (.fixAnalysisForProposal proposal) db = some row := by
  have report : row.bugReportId = proposal.bugReportId := by
    have offered : proposal.bugReportId = run.report.id := congrArg FixProposal.bugReportId sourced.offer
    rw [offered, sourced.fix]
    rfl
  have completed : row.CompletedFix := by
    rw [sourced.fix]
    exact ⟨rfl, rfl⟩
  have member : row ∈ db.stages.analyses.select fun row =>
      row.bugReportId == proposal.bugReportId && row.phase == .fix &&
        row.status == .completed && row.createdAt ≤ proposal.createdAt := by
    apply Table.mem_select.mpr
    refine ⟨sourced.stored, ?_⟩
    simp [report, completed.1, completed.2, sourced.order.le]
  unfold Query.run
  dsimp only
  cases head : (Py.sortDescending Analysis.createdAt (db.stages.analyses.select fun row =>
      row.bugReportId == proposal.bugReportId && row.phase == .fix &&
        row.status == .completed && row.createdAt ≤ proposal.createdAt)).head? with
  | none =>
      rw [Py.sort_descending_none head] at member
      cases member
  | some newest =>
      have late := Py.sort_descending_head head member
      have listed := Py.mem_sort_descending.mp (List.mem_of_mem_head? head)
      obtain ⟨present, fits⟩ := Table.mem_select.mp listed
      simp only [Bool.and_eq_true, beq_iff_eq, decide_eq_true_eq] at fits
      obtain same | older | younger :=
        sourced.apart newest.id newest present ⟨fits.1.1.2, fits.1.2⟩
      · rw [same]
      · omega
      · omega

theorem fix_label {run : Proposing} {id : String} {now : Nat} {listed : Results.AnalysisRow}
    (same : ListedAnalysis (run.completedFix.row id now) listed) :
    Results.modelLabel (some listed) = run.response.label := by
  have model : listed.llmModel = some run.response.model := same.llmModel
  have provider : listed.llmProvider = some run.response.provider := same.llmProvider
  unfold Results.modelLabel LlmResponse.label
  simp only [Option.bind_some, model, provider, Option.getD_some]

theorem fix_credit (run : Proposing) (id : String) (now : Nat) :
    producedBy (some (run.completedFix.row id now)) = run.response.credit := by
  have model : (run.completedFix.row id now).llmModel = some run.response.model := rfl
  have provider : (run.completedFix.row id now).llmProvider = some run.response.provider := rfl
  unfold producedBy LlmResponse.credit
  rw [Option.bind_some, provider, nonBlank, Option.filter_some]
  by_cases blank : run.response.provider = ""
  · simp [blank]
  · simp [blank, model, orDefault]

theorem sourced_attributed {past : List Happening} {db : Database} {proposal : FixProposal}
    {run : Proposing} {row : Analysis} (sourced : Sourced past db proposal run row) :
    Attributed past db proposal run row := by
  have queried := sourced_queried sourced
  constructor
  · exact sourced.made
  · exact sourced.fix
  · exact congrArg FixProposal.diff sourced.offer
  · exact queried
  · intro rows shown corresponds stamped
    have found := queried
    rw [fix_analysis_listed] at found
    obtain ⟨index, other, place, place', search, same⟩ :=
      find_corresponding corresponds (fun _ _ same => listed_fits same stamped) found
    refine ⟨index, other, place, place', ?_, ?_⟩
    · rw [Results.fixAnalysis, Option.bind_some, if_neg (stamped_filled stamped)]
      exact search
    · rw [sourced.fix] at same
      exact fix_label same
  · intro twoPlaces report
    rw [queried, ← fix_credit run row.id row.createdAt, ← sourced.fix]
    exact produced_by_named twoPlaces report proposal (some row)

namespace Scenario

def youngerThan (db : Database) (stamp : Nat) : Bool :=
  db.stages.analyses.rows.all (fun row => row.createdAt < stamp) &&
    db.stages.proposals.rows.all fun row => row.createdAt < stamp

def inOrder (before after : Database) : Bool :=
  (after.stages.analyses.rows.all fun row =>
    (before.stages.analyses.get row.id).isSome || youngerThan before row.createdAt) &&
  after.stages.proposals.rows.all fun row =>
    (before.stages.proposals.get row.id).isSome || youngerThan before row.createdAt

/-- The choices in order, as long as rows are inserted in the order of their timestamps. -/
def fixSteps : List (Choice Op Op.Env Job Boot) → Sys → Option (List Happening × Sys)
  | [], state => some ([], state)
  | choice :: choices, state =>
      match state.step bugalizer choice with
      | none => none
      | some (event, next) =>
          if inOrder state.world.db next.world.db then
            (fixSteps choices next).map fun rest => (.step event :: rest.1, rest.2)
          else none

def newYear (microsecond : Nat) : Fields :=
  { year := 2024, month := 1, day := 1, hour := 0, minute := 0, second := 0, microsecond }

def yearStart : Nat := (newYear 0).instant

def atNewYear (stamp : Nat) : Bool := yearStart ≤ stamp && stamp < yearStart + 1000000

/-- A report that awaits its fix since the year began. -/
def awaitingSince : Database :=
  { awaitingFix with
    stages := ⟨awaitingFix.stages.analyses.updateAll (fun _ => true)
      (fun row => { row with createdAt := yearStart }) (fun _ => rfl), .empty, []⟩ }

def proposed (id : String) (clock : Nat) : (op : Op) → op.Env
  | .compute (.parseProposal _) => .ok (.ok proposing.validated)
  | .stage _ => ⟨none, clock, id⟩
  | op => unparsed clock op

/-- The process stops between the completed fix of a call and its proposal, and the report is
fixed again after the restart. -/
def fixedTwice : List (Choice Op Op.Env Job Boot) :=
  .start (.processFixProposal "r") :: steps 0 (proposed "first" (yearStart + 5)) 15 ++
    .restart (bootAt (yearStart + 9)) :: .start (.processFixProposal "r") ::
      steps 1 (proposed "second" (yearStart + 10)) 20

/-- What they come to: a proposal, and beside its fix that of the stopped call. -/
def fixedAgain (last : Sys) : Bool :=
  (last.world.db.stages.analyses.get "first").isSome &&
    (last.world.db.stages.proposals.get "second").any fun proposal =>
      atNewYear proposal.createdAt &&
        (Query.run (.analysesForReport proposal.bugReportId none) last.world.db).all fun row =>
          atNewYear row.createdAt

end Scenario

theorem younger_than_older {db : Database} {stamp : Nat}
    (younger : Scenario.youngerThan db stamp = true) : OlderThan stamp db := by
  obtain ⟨analyses, proposals⟩ := Bool.and_eq_true_iff.mp younger
  constructor
  · intro id row found
    exact of_decide_eq_true (List.all_eq_true.mp analyses row (Table.get_mem found))
  · intro id row found
    exact of_decide_eq_true (List.all_eq_true.mp proposals row (Table.get_mem found))

theorem in_order_inserted {before after : Database} (ordered : Scenario.inOrder before after = true) :
    InsertedInOrder before after := by
  obtain ⟨analyses, proposals⟩ := Bool.and_eq_true_iff.mp ordered
  constructor
  · intro id row found free
    obtain there | younger :=
      Bool.or_eq_true_iff.mp (List.all_eq_true.mp analyses row (Table.get_mem found))
    · rw [Table.get_key found, free] at there
      cases there
    · exact younger_than_older younger
  · intro id row found free
    obtain there | younger :=
      Bool.or_eq_true_iff.mp (List.all_eq_true.mp proposals row (Table.get_mem found))
    · rw [Table.get_key found, free] at there
      cases there
    · exact younger_than_older younger

theorem fix_steps_path {choices : List (Choice Op Op.Env Job Boot)} {first last : Sys}
    {past : List Happening} (stepped : Scenario.fixSteps choices first = some (past, last)) :
    Path FixMoves first past last := by
  induction choices generalizing first past with
  | nil =>
      cases stepped
      exact .nil
  | cons choice choices ih =>
      simp only [Scenario.fixSteps] at stepped
      split at stepped
      · cases stepped
      rename_i event next moved
      split at stepped
      · rename_i ordered
        obtain ⟨rest, finished, same⟩ := Option.map_eq_some_iff.mp stepped
        cases same
        exact .cons (.step (step_moves moved) (in_order_inserted ordered)) (ih finished)
      · cases stepped

theorem new_year_sound {microsecond : Nat} (few : microsecond < 1000000) :
    (Scenario.newYear microsecond).Sound where
  year := (by decide : 1 ≤ 2024)
  month := (by decide : 1 ≤ 1 ∧ 1 ≤ 12)
  day := (by decide : 1 ≤ 1 ∧ 1 ≤ daysInMonth 2024 1)
  hour := (by decide : 0 < 24)
  minute := (by decide : 0 < 60)
  second := (by decide : 0 < 60)
  microsecond := few

theorem instant_of_second (fields : Fields) (microsecond : Nat) :
    ({ fields with microsecond } : Fields).instant =
      ({ fields with microsecond := 0 } : Fields).instant + microsecond := by
  unfold Fields.instant
  rw [Nat.add_zero]

theorem new_year_instant (microsecond : Nat) :
    (Scenario.newYear microsecond).instant = Scenario.yearStart + microsecond :=
  instant_of_second (Scenario.newYear 0) microsecond

theorem new_year_stamped {stamp : Nat} (within : Scenario.atNewYear stamp = true) :
    ∃ text, Stamped stamp text := by
  obtain ⟨late, early⟩ := Bool.and_eq_true_iff.mp within
  have late := of_decide_eq_true late
  have early := of_decide_eq_true early
  have few : stamp - Scenario.yearStart < 1000000 := by omega
  have bounded : (2024 : Nat) ≤ maxYear := by decide
  refine ⟨_, ⟨⟨Scenario.newYear (stamp - Scenario.yearStart), new_year_sound few, bounded⟩, ?_, rfl⟩⟩
  rw [new_year_instant]
  omega

theorem listing_exists {rows : List Analysis}
    (stamped : ∀ row ∈ rows, ∃ text, Stamped row.createdAt text) :
    ∃ listed, List.Forall₂ ListedAnalysis rows listed := by
  induction rows with
  | nil => exact ⟨[], .nil⟩
  | cons row rest ih =>
      obtain ⟨text, spelled⟩ := stamped row List.mem_cons_self
      obtain ⟨listed, corresponds⟩ := ih fun other member => stamped other (List.mem_cons_of_mem _ member)
      let shown : Results.AnalysisRow :=
        { phase := row.phase.value, status := row.status.value, result := .null
          llmProvider := row.llmProvider, llmModel := row.llmModel, completedAt := none
          createdAt := text }
      exact ⟨shown :: listed, .cons ⟨rfl, rfl, rfl, rfl, spelled⟩ corresponds⟩

theorem fixed_twice_runs :
    (Scenario.fixSteps Scenario.fixedTwice
      (State.boot (Scenario.world Scenario.awaitingSince))).any (fun made =>
        Scenario.fixedAgain made.2) = true := by
  decide +kernel

end Bugalizer
