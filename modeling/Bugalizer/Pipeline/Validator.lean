import Bugalizer.Coroutine.Pact
import Bugalizer.ReportMoves
import Bugalizer.Scenario
import Bugalizer.Store.Acyclic

/-!
# Duplicates of one another

Validation marks a report as a duplicate of another one. Whatever is similar to what, and in
whichever order the validations run, the marks form no cycle.
-/

namespace Bugalizer

set_option autoImplicit false

open Coroutine Program Store

section Validate

variable {Score : Type} [LinearOrder Score]

/-- `report_list(project_id=...)`: what is not deleted, newest first. -/
def reportList (projectId : String) (reports : Reports) : List Report :=
  (reports.select fun row => row.resolutionReason != some "deleted" &&
    (projectId == "" || row.projectId == projectId)).insertionSort fun one other => other.createdAt ≤ one.createdAt

/-- One turn of the loop of `find_duplicate`, on the best match so far and its score. -/
def closer (ratio : String → String → Score) (threshold : Score) (newText : String) (excludeId : Option String)
    (best : Option Report × Score) (report : Report) : Option Report × Score :=
  if (nonBlank excludeId).any (report.id == ·) then best
  else if report.status = .duplicate ∨ report.status = .rejected then best
  else
    let score := ratio newText (report.title ++ "\n" ++ report.description)
    if threshold ≤ score ∧ best.2 < score then (some report, score) else best

variable {ratio : String → String → Score} {threshold : Score}

/-- What a match is: no duplicate itself, not rejected, and not the report that is compared. -/
structure Report.Matches (newId : Option String) (row : Report) : Prop where
  other : (nonBlank newId).any (row.id == ·) = false
  original : row.status ≠ .duplicate
  standing : row.status ≠ .rejected

theorem closer_matches {newText : String} {excludeId : Option String} {best : Option Report × Score}
    {report row : Report} (found : (closer ratio threshold newText excludeId best report).1 = some row) :
    best.1 = some row ∨ row = report ∧ row.Matches excludeId := by
  unfold closer at found
  split at found
  · exact .inl found
  rename_i other
  split at found
  · exact .inl found
  rename_i standing
  obtain ⟨original, standing⟩ := not_or.mp standing
  dsimp only at found
  split at found
  · cases found
    exact .inr ⟨rfl, by simpa using other, original, standing⟩
  · exact .inl found

theorem closest_matches {newText : String} {excludeId : Option String} {row : Report} (rows : List Report)
    {best : Option Report × Score}
    (found : (rows.foldl (closer ratio threshold newText excludeId) best).1 = some row) :
    best.1 = some row ∨ row ∈ rows ∧ row.Matches excludeId := by
  induction rows generalizing best with
  | nil => exact .inl found
  | cons head rows ih =>
      rcases ih found with earlier | ⟨member, matched⟩
      · rcases closer_matches earlier with before | ⟨rfl, matched⟩
        · exact .inl before
        · exact .inr ⟨List.mem_cons_self, matched⟩
      · exact .inr ⟨List.mem_cons_of_mem _ member, matched⟩

variable [Zero Score]

/-- `find_duplicate`; `ratio` is that of the two texts in lower case. -/
def findDuplicate (ratio : String → String → Score) (threshold : Score) (title description projectId : String)
    (excludeId : Option String) (reports : Reports) : Option Report :=
  ((reportList projectId reports).foldl (closer ratio threshold (title ++ "\n" ++ description) excludeId)
    (none, 0)).1

/-- The `duplicate_of` of `validate_report`. -/
def validateReport (ratio : String → String → Score) (threshold : Score) (reports : Reports) (report : Report) :
    Option String :=
  (findDuplicate ratio threshold report.title report.description report.projectId (some report.id) reports).map
    Report.id

theorem listed_report {projectId : String} {reports : Reports} {row : Report}
    (listed : row ∈ reportList projectId reports) (named : projectId ≠ "") :
    reports.get row.id = some row ∧ row.projectId = projectId := by
  obtain ⟨found, kept⟩ := Table.mem_select.mp ((List.perm_insertionSort _ _).mem_iff.mp listed)
  refine ⟨found, ?_⟩
  simpa [named] using (Bool.and_eq_true_iff.mp kept).2

end Validate

/-- The mark of a report: the other report its reason names. -/
def DuplicateOf (reports : Reports) (one other : String) : Prop :=
  ∃ row, reports.get one = some row ∧ row.resolutionReason = some ("duplicate_of:" ++ other)

/-- The mark points to another report of the project, neither a duplicate nor rejected. -/
structure PointsAt (reports : Reports) (one other : String) : Prop where
  pointed : ∃ row target, reports.get one = some row ∧ reports.get other = some target ∧
    target.projectId = row.projectId ∧ target.status ≠ .duplicate ∧ target.status ≠ .rejected
  apart : one ≠ other

theorem validated_points {Score : Type} [LinearOrder Score] [Zero Score] {ratio : String → String → Score}
    {threshold : Score} {reports : Reports} {report : Report} {other : String}
    (stored : reports.get report.id = some report) (home : report.projectId ≠ "")
    (duplicate : nonBlank (validateReport ratio threshold reports report) = some other) :
    PointsAt reports report.id other := by
  obtain ⟨found, named⟩ := Option.filter_eq_some_iff.mp duplicate
  obtain ⟨target, closest, rfl⟩ := Option.map_eq_some_iff.mp found
  rcases closest_matches _ closest with impossible | ⟨listed, matched⟩
  · cases impossible
  obtain ⟨there, same⟩ := listed_report listed home
  refine ⟨⟨report, target, stored, there, same, matched.original, matched.standing⟩, fun self => ?_⟩
  have other := matched.other
  rw [self, nonBlank, Option.filter_some, if_pos named, Option.any_some, beq_self_eq_true] at other
  cases other

/-- What is kept of the marks: each is on a duplicate, and they form no cycle. -/
structure Untangled (reports : Reports) : Prop where
  homes : ∀ id row, reports.get id = some row → row.projectId ≠ ""
  marked : ∀ one other, DuplicateOf reports one other →
    ∃ row, reports.get one = some row ∧ row.status = .duplicate
  acyclic : Acyclic (DuplicateOf reports)

/-- A mark is set on a report in validation, and a claim takes no duplicate. -/
def markAllowed (reports : Reports) : Op → Prop
  | .report (.updateStatus id new reason _) =>
      (∃ row, reports.get id = some row ∧ row.status = .validating) ∧
        (new = .triaged ∧ reason = none ∨
          new = .duplicate ∧ ∃ other, reason = some ("duplicate_of:" ++ other) ∧ PointsAt reports id other)
  | .report (.tryClaim _ expected _ _) => expected ≠ .duplicate
  | .report _ | .joint _ | .createTask .. => False
  | _ => True

section Writes

variable {reports : Reports} {write : ReportWrite} {now : Nat}

theorem written_row {one : String} {after : Report} (found : (write.apply now reports).get one = some after) :
    ∃ row, reports.get one = some row ∧
      (after = row ∨ one = write.reportId ∧ write.condition row = true ∧ after = write.change now row) := by
  rw [ReportWrite.get_apply] at found
  obtain ⟨row, before, same⟩ := Option.map_eq_some_iff.mp found
  split at same
  · rename_i hit
    exact ⟨row, before, .inr ⟨hit.1, hit.2, same.symm⟩⟩
  · exact ⟨row, before, .inl same.symm⟩

theorem untangled_claimed {id : String} {expected new : BugStatus} {token : Option String}
    (untangled : Untangled reports) (original : expected ≠ .duplicate) :
    Untangled ((ReportWrite.tryClaim id expected new token).apply now reports) := by
  have kept : ∀ one other, DuplicateOf ((ReportWrite.tryClaim id expected new token).apply now reports) one other →
      DuplicateOf reports one other := by
    rintro one other ⟨after, found, reason⟩
    obtain ⟨row, before, rfl | ⟨-, -, rfl⟩⟩ := written_row found
    · exact ⟨after, before, reason⟩
    · exact ⟨row, before, reason⟩
  refine ⟨fun one after found => ?_, fun one other mark => ?_, untangled.acyclic.mono kept⟩
  · obtain ⟨row, before, rfl | ⟨-, -, rfl⟩⟩ := written_row found
    · exact untangled.homes one after before
    · exact untangled.homes one row before
  · obtain ⟨row, before, status⟩ := untangled.marked one other (kept one other mark)
    obtain ⟨after, found, -⟩ := mark
    obtain ⟨row', before', rfl | ⟨-, hit, -⟩⟩ := written_row found
    · exact ⟨after, found, by rw [before] at before'; cases before'; exact status⟩
    · rw [before] at before'
      cases before'
      exact absurd (by simpa [ReportWrite.condition, status] using hit) original.symm

/-- A report that is given a mark had none, and the report it names has none. -/
theorem untangled_validated {id : String} {new : BugStatus} {reason : Option String}
    {expected : Option BugStatus} (untangled : Untangled reports)
    (allowed : markAllowed reports (.report (.updateStatus id new reason expected))) :
    Untangled ((ReportWrite.updateStatus id new reason expected).apply now reports) := by
  obtain ⟨⟨claimed, held, validating⟩, outcome⟩ := allowed
  have unmarked : ∀ other, ¬DuplicateOf reports id other := by
    intro other mark
    obtain ⟨row, found, status⟩ := untangled.marked id other mark
    rw [held] at found
    cases found
    rw [validating] at status
    cases status
  have rows : ∀ one after, ((ReportWrite.updateStatus id new reason expected).apply now reports).get one = some after →
      reports.get one = some after ∨ one = id ∧ after = ReportWrite.change now (.updateStatus id new reason expected) claimed := by
    intro one after found
    obtain ⟨row, before, rfl | ⟨here, -, rfl⟩⟩ := written_row found
    · exact .inl before
    · have here : one = id := here
      rw [here, held] at before
      cases before
      exact .inr ⟨here, rfl⟩
  have homes : ∀ one after, ((ReportWrite.updateStatus id new reason expected).apply now reports).get one = some after →
      after.projectId ≠ "" := by
    intro one after found
    rcases rows one after found with before | ⟨-, rfl⟩
    · exact untangled.homes one after before
    · exact untangled.homes id claimed held
  obtain ⟨rfl, rfl⟩ | ⟨rfl, target, rfl, points⟩ := outcome
  · have kept : ∀ one other, DuplicateOf ((ReportWrite.updateStatus id .triaged none expected).apply now reports) one
        other → one ≠ id ∧ DuplicateOf reports one other := by
      rintro one other ⟨after, found, marked⟩
      rcases rows one after found with before | ⟨-, rfl⟩
      · refine ⟨?_, after, before, marked⟩
        rintro rfl
        exact unmarked other ⟨after, before, marked⟩
      · exact absurd ⟨claimed, held, marked⟩ (unmarked other)
    refine ⟨homes, fun one other mark => ?_, untangled.acyclic.mono fun one other mark => (kept one other mark).2⟩
    obtain ⟨row, before, status⟩ := untangled.marked one other (kept one other mark).2
    have apart := (kept one other mark).1
    obtain ⟨after, found, -⟩ := mark
    rcases rows one after found with before' | ⟨here, -⟩
    · rw [before] at before'
      cases before'
      exact ⟨row, found, status⟩
    · exact absurd here apart
  · have grows : ∀ one other, DuplicateOf ((ReportWrite.updateStatus id .duplicate (some ("duplicate_of:" ++ target))
        expected).apply now reports) one other → one ≠ id ∧ DuplicateOf reports one other ∨ one = id ∧ other = target := by
      rintro one other ⟨after, found, marked⟩
      rcases rows one after found with before | ⟨here, rfl⟩
      · by_cases here : one = id
        · subst here
          exact absurd ⟨after, before, marked⟩ (unmarked other)
        · exact .inl ⟨here, after, before, marked⟩
      · have same : "duplicate_of:" ++ target = "duplicate_of:" ++ other := Option.some.inj marked
        exact .inr ⟨here, ((String.append_right_inj _).mp same).symm⟩
    refine ⟨homes, fun one other mark => ?_, ?_⟩
    · obtain ⟨after, found, marked⟩ := mark
      rcases rows one after found with before | ⟨-, rfl⟩
      · obtain ⟨row, before', status⟩ := untangled.marked one other ⟨after, before, marked⟩
        rw [before] at before'
        cases before'
        exact ⟨after, found, status⟩
      · exact ⟨_, found, rfl⟩
    · refine untangled.acyclic.grow (fun one other mark => (grows one other mark).imp And.right And.right) ?_
      intro other mark
      rcases grows target other mark with ⟨-, earlier⟩ | ⟨here, -⟩
      · obtain ⟨row, found, status⟩ := untangled.marked target other earlier
        obtain ⟨own, pointed, -, there, -, original, -⟩ := points.pointed
        rw [there] at found
        cases found
        exact original status
      · exact points.apart here.symm

end Writes

theorem untangled_restarted {world : World} (untangled : Untangled world.db.reports) (boot : Boot) :
    Untangled (world.restart boot).db.reports := by
  have rows : ∀ one after, (world.restart boot).db.reports.get one = some after →
      ∃ row, world.db.reports.get one = some row ∧ after.projectId = row.projectId ∧
        after.resolutionReason = row.resolutionReason ∧ (row.status = .duplicate → after.status = .duplicate) := by
    intro one after found
    rw [restart_report] at found
    obtain ⟨row, before, same⟩ := Option.map_eq_some_iff.mp found
    split at same
    · rename_i claimed
      subst same
      exact ⟨row, before, rfl, rfl, fun status => by rw [status] at claimed; cases claimed⟩
    · subst same
      exact ⟨row, before, rfl, rfl, id⟩
  have kept : ∀ one other, DuplicateOf (world.restart boot).db.reports one other →
      DuplicateOf world.db.reports one other := by
    rintro one other ⟨after, found, marked⟩
    obtain ⟨row, before, -, reason, -⟩ := rows one after found
    exact ⟨row, before, reason.symm.trans marked⟩
  refine ⟨fun one after found => ?_, fun one other mark => ?_, untangled.acyclic.mono kept⟩
  · obtain ⟨row, before, home, -⟩ := rows one after found
    rw [home]
    exact untangled.homes one row before
  · obtain ⟨marked, before, status⟩ := untangled.marked one other (kept one other mark)
    obtain ⟨after, found, -⟩ := mark
    obtain ⟨row, before', -, -, stays⟩ := rows one after found
    rw [before] at before'
    cases before'
    exact ⟨after, found, stays status⟩

def Job.validates : Job → Bool
  | .processSubmitted _ => true
  | _ => false

def Op.sparesReports : Op → Bool
  | .report _ | .joint _ | .createTask .. => false
  | _ => true

section Runs

variable {Score : Type} [LinearOrder Score] [Zero Score]

/-- Only validations are started, and each looks for its duplicate in the reports as they are. -/
def validations (ratio : String → String → Score) (threshold : Score) (_past : List Ev) (state : Sys) : Ev → Prop
  | .started job => job.validates = true
  | .answered _ (.compute (.validateReport report)) (.ok validation) =>
      validation.duplicateOf = validateReport ratio threshold state.world.db.reports report
  | _ => True

abbrev duplicatePact (ratio : String → String → Score) (threshold : Score) : Pact bugalizer where
  View := Reports
  view _ state := state.world.db.reports
  holds := Untangled
  apart _ _ _ := True
  aside _ before after := after = before
  asks _ job reports op := job.validates = true ∧ markAllowed reports op
  ready _ job _ := job.validates = true
  finale _ _ _ := True
  admits := validations ratio threshold

variable {ratio : String → String → Score} {threshold : Score} {self : Nat} {job : Job} {op : Op}
variable {before after : Reports} {answer : Except Exn op.Ans}

theorem reports_answered (effect : (duplicatePact ratio threshold).Effect self job before op answer after) :
    ∃ fresh past state world, validations ratio threshold past state (.answered self op answer) ∧
      OpMoves self fresh state.world op answer world ∧ state.world.db.reports = before ∧
      world.db.reports = after := by
  obtain ⟨past, state, next, admitted, -, moves, rfl, rfl⟩ := effect
  cases moves with
  | answered self task op rest env answer world found running asks ready ran =>
      refine ⟨_, past, state, world, admitted, exec_moves ran, rfl, ?_⟩
      show world.db.reports = (State.beginAll bugalizer op.spawns _).world.db.reports
      cases op.spawns <;> rfl

theorem reports_spared (spares : op.sparesReports = true)
    (effect : (duplicatePact ratio threshold).Effect self job before op answer after) : after = before := by
  obtain ⟨fresh, past, state, world, -, moves, rfl, rfl⟩ := reports_answered effect
  cases moves <;> first | rfl | cases spares

theorem untangled_answered (untangled : Untangled before) (allowed : markAllowed before op)
    (effect : (duplicatePact ratio threshold).Effect self job before op answer after) : Untangled after := by
  cases op with
  | report write =>
      obtain ⟨fresh, past, state, world, -, moves, rfl, rfl⟩ := reports_answered effect
      cases moves with
      | failed op error => exact untangled
      | outer op answer outer => cases outer
      | report write clock accepted =>
          cases write with
          | tryClaim id expected new token => exact untangled_claimed untangled allowed
          | updateStatus id new reason expected => exact untangled_validated untangled allowed
          | _ => exact allowed.elim
  | joint write => exact allowed.elim
  | createTask actionId job => exact allowed.elim
  | _ =>
      rw [reports_spared rfl effect]
      exact untangled

theorem spared_allowed {reports : Reports} (spares : op.sparesReports = true) : markAllowed reports op := by
  cases op <;> trivial

variable {view : Reports}

theorem validating_between (validates : job.validates = true) (stays : op.suspends = false)
    (between : (duplicatePact ratio threshold).Between self job op before after) : after = before := by
  have loop : job.threaded = false := by cases job <;> first | rfl | cases validates
  unfold Pact.Between at between
  rw [if_neg (by simp [bugalizer, loop, stays])] at between
  exact between

/-- What asks neither the outside nor for a change of a report leaves them all as they are. -/
theorem spared_sat (validates : job.validates = true) (stays : op.suspends = false)
    (spares : op.sparesReports = true) :
    (duplicatePact ratio threshold).Sat self job (ask op) view (fun _ reached => reached = view)
      (fun _ reached => reached = view) := by
  refine Pact.sat_perform fun before between held => ?_
  refine ⟨⟨validates, spared_allowed spares⟩, fun answer after effect _ => ?_⟩
  have same := (reports_spared spares effect).trans (validating_between validates stays between)
  cases answer <;> exact same

theorem claim_sat {id : String} {expected new : BugStatus} (validates : job.validates = true)
    (original : expected ≠ .duplicate) :
    (duplicatePact ratio threshold).Sat self job (underWriteLock (tryClaimReport id expected new none)) view
      (fun claimed reached => claimed = true → ∃ row, reached.get id = some row ∧ row.status = new)
      (fun _ _ => True) := by
  refine (spared_sat validates rfl rfl).andThen (fun _ reached _ => ?_) fun _ _ _ => trivial
  refine Pact.sat_perform fun before between held => ⟨⟨validates, original⟩, fun answer after effect _ => ?_⟩
  obtain ⟨fresh, past, state, world, -, moves, rfl, rfl⟩ := reports_answered effect
  cases answer with
  | error error => trivial
  | ok claimed =>
      intro won
      cases moves with
      | outer op answer outer => cases outer
      | report write clock accepted =>
          obtain ⟨row, found, hit⟩ := Table.matched_iff.mp won
          have found : state.world.db.reports.get id = some row := found
          refine ⟨ReportWrite.change (state.world.now clock) (.tryClaim id expected new none) row, ?_, rfl⟩
          show (ReportWrite.apply _ _ _).get id = _
          rw [ReportWrite.get_apply, found, Option.map_some, if_pos ⟨rfl, hit⟩]

theorem report_get_sat {id : String} (validates : job.validates = true) :
    (duplicatePact ratio threshold).Sat self job (reportGet id) view
      (fun found reached => reached = view ∧ Untangled view ∧ ∀ row, found = some row → view.get id = some row.1)
      (fun _ _ => True) := by
  refine Pact.sat_perform fun before between held => ⟨⟨validates, trivial⟩, fun answer after effect _ => ?_⟩
  have here := validating_between validates rfl between
  have same := reports_spared rfl effect
  cases answer with
  | error error => trivial
  | ok found =>
      refine ⟨same.trans here, here ▸ held, fun row known => ?_⟩
      obtain ⟨fresh, past, state, world, -, moves, rfl, rfl⟩ := reports_answered effect
      rw [← here]
      cases moves with
      | read q => exact Table.find_eq_some.mp known
      | outer op answer outer => cases outer

theorem validate_sat {report : Report} (validates : job.validates = true) :
    (duplicatePact ratio threshold).Sat self job (ask (.compute (.validateReport report))) view
      (fun validation reached => reached = view ∧
        validation.duplicateOf = validateReport ratio threshold view report)
      (fun _ _ => True) := by
  refine Pact.sat_perform fun before between held => ⟨⟨validates, trivial⟩, fun answer after effect _ => ?_⟩
  have here := validating_between validates rfl between
  have same := reports_spared rfl effect
  cases answer with
  | error error => trivial
  | ok validation =>
      refine ⟨same.trans here, ?_⟩
      obtain ⟨fresh, past, state, world, admitted, -, rfl, -⟩ := reports_answered effect
      rw [← here]
      exact admitted

theorem set_status_sat {id : String} {new : BugStatus} {reason : Option String} (validates : job.validates = true)
    (allowed : markAllowed view (.report (.updateStatus id new reason none))) :
    (duplicatePact ratio threshold).Sat self job (setStatus id new reason) view (fun _ _ => True)
      (fun _ _ => True) := by
  have written : (duplicatePact ratio threshold).Sat self job (ask (.report (.updateStatus id new reason none)))
      view (fun _ _ => True) (fun _ _ => True) := by
    refine Pact.sat_perform fun before between held => ?_
    rw [validating_between validates rfl between]
    refine ⟨⟨validates, allowed⟩, fun answer after effect _ => ?_⟩
    cases answer <;> trivial
  have updated : (duplicatePact ratio threshold).Sat self job (reportUpdateStatus id new reason none) view
      (fun _ _ => True) (fun _ _ => True) :=
    written.andThen (fun hit reached _ => (report_get_sat validates).mono (fun _ _ _ => trivial)
      fun _ _ _ => trivial) fun _ _ _ => trivial
  exact updated.andThen (fun _ _ _ => trivial) fun _ _ _ => trivial

theorem validate_claimed_sat {report : Report} (validates : job.validates = true)
    (stored : view.get report.id = some report) (home : report.projectId ≠ "")
    (validating : report.status = .validating) :
    (duplicatePact ratio threshold).Sat self job (validateClaimed report.id report) view (fun _ _ => True)
      (fun _ _ => True) := by
  refine (spared_sat validates rfl rfl).andThen (fun startedAt _ here => ?_) fun _ _ _ => trivial
  subst here
  refine (validate_sat validates).andThen (fun validation _ known => ?_) fun _ _ _ => trivial
  obtain ⟨rfl, duplicate⟩ := known
  refine (spared_sat validates rfl rfl).andThen (fun _ _ here => ?_) fun _ _ _ => trivial
  subst here
  refine (spared_sat validates rfl rfl).andThen (fun completedAt _ here => ?_) fun _ _ _ => trivial
  subst here
  refine (spared_sat validates rfl rfl).andThen (fun _ _ here => ?_) fun _ _ _ => trivial
  subst here
  cases named : nonBlank validation.duplicateOf with
  | none => exact set_status_sat validates ⟨⟨report, stored, validating⟩, .inl ⟨rfl, rfl⟩⟩
  | some other =>
      rw [duplicate] at named
      exact set_status_sat validates ⟨⟨report, stored, validating⟩,
        .inr ⟨rfl, other, rfl, validated_points stored home named⟩⟩

theorem process_submitted_sat {id : String} (validates : job.validates = true) :
    (duplicatePact ratio threshold).Sat self job (processSubmitted id) view (fun _ _ => True) (fun _ _ => True) := by
  refine (claim_sat validates (by decide)).andThen (fun claimed reached won => ?_) fun _ _ _ => trivial
  cases claimed with
  | false => trivial
  | true =>
      obtain ⟨row, stored, validating⟩ := won rfl
      refine (report_get_sat validates).andThen (fun found _ known => ?_) fun _ _ _ => trivial
      obtain ⟨rfl, untangled, same⟩ := known
      cases found with
      | none => trivial
      | some found =>
          obtain ⟨report, named⟩ := found
          have here := same _ rfl
          rw [stored] at here
          cases here
          subst named
          refine (validate_claimed_sat validates stored (untangled.homes _ _ stored) validating).caught
            (fun _ _ _ => trivial) fun _ _ _ => ?_
          exact (claim_sat validates (by decide)).andThen (fun _ _ _ => trivial) fun _ _ _ => trivial

theorem duplicate_lawful : (duplicatePact ratio threshold).Lawful where
  apart_refl _ _ := trivial
  apart_trans _ _ _ _ _ _ := trivial
  aside_refl _ _ := rfl
  aside_trans _ _ _ _ one two := two.trans one
  aside_apart _ _ _ _ := trivial
  answered self job before op answer after untangled asked effect := by
    have loop : job.threaded = false := by
      have validates := asked.1
      cases job <;> first | rfl | cases validates
    refine ⟨untangled_answered untangled asked.2 effect, fun other _ => ⟨trivial, fun threaded => ?_⟩,
      fun past state next spawned _ _ _ spawns => ?_⟩
    · exact absurd (loop.symm.trans threaded) Bool.false_ne_true
    · cases op with
      | createTask actionId job => exact asked.2.elim
      | _ => cases spawns
  started past state job next admitted moves untangled := by
    cases moves
    exact ⟨untangled, fun _ => rfl, admitted⟩
  issued past state id op next task admitted moves found untangled asked := by
    cases moves
    exact ⟨untangled, fun _ => ⟨trivial, fun _ => rfl⟩⟩
  ended past state id next task view admitted moves found untangled finale closing := by
    cases moves
    exact ⟨untangled, fun _ _ => ⟨trivial, fun _ => rfl⟩⟩
  restarted past state next admitted moves untangled := by
    cases moves with
    | restarted boot => exact untangled_restarted untangled boot
  ready_apart id job before after ready _ := ready
  keeps world id job view untangled ready := by
    cases job with
    | processSubmitted id => exact process_submitted_sat ready
    | _ => cases ready

/-- What is promised of the marks in a state, and of a mark that is written in it. -/
structure MarksKept (state : Sys) : Prop where
  acyclic : Acyclic (DuplicateOf state.world.db.reports)
  original : ∀ group : Finset String, group.Nonempty →
    ∃ one ∈ group, ∀ other ∈ group, ¬DuplicateOf state.world.db.reports one other
  points : ∀ id one reason expected answer next,
    Moves bugalizer state (.answered id (.report (.updateStatus one .duplicate reason expected)) answer) next →
      ∃ other, reason = some ("duplicate_of:" ++ other) ∧ PointsAt state.world.db.reports one other

/-- In every run of validations, however many run at once, whatever is similar and however often the
process restarts, the marks form no cycle, so that no group of reports is marked as a whole; and each
is written for an original of the same project. -/
theorem duplicates_acyclic (ratio : String → String → Score) (threshold : Score) {world : World}
    {events : List Ev} {last : Sys} (initially : Untangled world.db.reports)
    (run : Guarded (Moves bugalizer) (validations ratio threshold) (State.boot world) events last) :
    MarksKept last := by
  have bound : (duplicatePact ratio threshold).Bound events last :=
    Pact.run_bound duplicate_lawful run initially
  refine ⟨bound.holds.acyclic, bound.holds.acyclic.points_out, fun id one reason expected answer next moves => ?_⟩
  cases moves with
  | answered self task op rest env answer world found running asks ready ran =>
      have asked := (bound.linked id task found).asks duplicate_lawful bound.holds asks
      obtain ⟨-, -, ⟨impossible, -⟩ | ⟨-, other, named, points⟩⟩ := asked
      · cases impossible
      · exact ⟨other, named, points⟩

instance (ratio : String → String → Score) (threshold : Score) (past : List Ev) (state : Sys) (event : Ev) :
    Decidable (validations ratio threshold past state event) := by
  unfold validations
  split <;> infer_instance

end Runs

namespace Scenario

/-- Two reports of one project that wait for their validation. -/
def twins : List Report := [report .submitted, { report .submitted with id := "s", createdAt := 1 }]

theorem twins_distinct : (twins.map Report.id).Nodup := by decide

def twinReports : Reports := ⟨twins, twins_distinct⟩

def twinWorld : World := world { Database.empty with reports := twinReports }

theorem twins_untangled : Untangled twinWorld.db.reports := by
  have rows : ∀ id row, twinWorld.db.reports.get id = some row →
      row.projectId = "p" ∧ row.resolutionReason = none := by
    intro id row found
    have member : row ∈ twins := Table.get_mem found
    simp only [twins, List.mem_cons, List.not_mem_nil, or_false] at member
    rcases member with rfl | rfl <;> exact ⟨rfl, rfl⟩
  have unmarked : ∀ one other, ¬DuplicateOf twinWorld.db.reports one other := by
    rintro one other ⟨row, found, marked⟩
    rw [(rows one row found).2] at marked
    cases marked
  refine ⟨fun id row found => ?_, fun one other mark => absurd mark (unmarked one other), fun value cycle => ?_⟩
  · rw [(rows id row found).1]
    decide
  · obtain ⟨other, step, -⟩ := Relation.TransGen.head'_iff.mp cycle
    exact unmarked value other step

/-- The older report has the newer one for a duplicate, and the newer one nothing any more. -/
def alike : (op : Op) → op.Env
  | .compute (.validateReport report) => .ok ⟨.null, if report.id = "r" then some "s" else none⟩
  | op => outside 5 op

/-- Both are validated, one after the other. -/
def bothValidated : GuardedScript bugalizer (State.boot twinWorld) (validations (fun _ _ => 1) (1 : Nat)) :=
  ⟨.start (.processSubmitted "r") :: .start (.processSubmitted "s") :: steps 0 alike 11 ++ steps 1 alike 11,
    by decide +kernel⟩

end Scenario

theorem duplicates_acyclic_both_validated :
    MarksKept Scenario.bothValidated.last ∧
      (Scenario.bothValidated.last.world.db.reports.rows.map Report.resolutionReason) =
        [some "duplicate_of:s", none] :=
  ⟨duplicates_acyclic _ _ Scenario.twins_untangled Scenario.bothValidated.run, by decide +kernel⟩

end Bugalizer
