import Bugalizer.Attempts
import Bugalizer.Db.Now
import Bugalizer.Db.Wrapped
import Bugalizer.Pipeline.Credit
import Bugalizer.Sync.Results

/-!
# The fix a proposal came from

A proposal does not name the completed fix it was made of. Both readers look for the newest one
that is no younger than the proposal. That is the right one, because nothing else makes a
completed fix between the two, and the right one is never touched again.
-/

namespace Bugalizer

set_option autoImplicit false

open Coroutine Program Store

/-- A step of the process, or the statement of a retry, which a worker thread commits. -/
inductive Happening where
  | step (event : Ev)
  | retried (reportId : String)

structure OlderThan (stamp : Nat) (db : Database) : Prop where
  analyses : ∀ id row, db.stages.analyses.get id = some row → row.createdAt < stamp
  proposals : ∀ id row, db.stages.proposals.get id = some row → row.createdAt < stamp

structure InsertedInOrder (before after : Database) : Prop where
  analyses : ∀ id row, after.stages.analyses.get id = some row →
    before.stages.analyses.get id = none → OlderThan row.createdAt before
  proposals : ∀ id row, after.stages.proposals.get id = some row →
    before.stages.proposals.get id = none → OlderThan row.createdAt before

inductive FixMoves : Sys → Happening → Sys → Prop
  | step {before after : Sys} {event : Ev} (moves : Moves bugalizer before event after)
      (ordered : InsertedInOrder before.world.db after.world.db) :
      FixMoves before (.step event) after
  | retried (state : Sys) (reportId : String) (count : Nat) (db : Database)
      (deleted : Wrapped.deleteFailed reportId state.world.db = some (count, db)) :
      FixMoves state (.retried reportId) { state with world := { state.world with db } }

def Draft.trace (task : Nat) (draft : Draft) : List Happening :=
  .step (.answered task (.remote (.acompletion draft.request)) (.ok draft.reply)) ::
    draft.parsed.toList.map fun parsed =>
      .step (.answered task (.compute (.parseProposal parsed.1)) (.ok (.ok parsed.2)))

def Silent (task : Nat) (happenings : List Happening) : Prop :=
  ∀ op answer, .step (.answered task op answer) ∉ happenings

def madeFix (task : Nat) (new : NewAnalysis) (id : String) : Happening :=
  .step (.answered task (.stage (.analysisCreate new)) (.ok id))

def madeProposal (task : Nat) (new : NewFixProposal) (id : String) : Happening :=
  .step (.answered task (.stage (.fixProposalCreate new)) (.ok id))

/-- One call of `propose_fix` made both rows: the model answered it, the answer parsed to the
proposal, and of two operations of its task, one right behind the other, the first made the
fix and the second the proposal. -/
def MadeBoth (past : List Happening) (run : Proposing) (fixId proposalId : String) : Prop :=
  ∃ (task : Nat) (draft : Draft) (before between after : List Happening),
    past = before ++ madeFix task run.completedFix fixId ::
      (between ++ madeProposal task run.proposal proposalId :: after) ∧
    Silent task between ∧ (draft.trace task).Sublist before ∧ draft.Gives run

def Analysis.CompletedFix (row : Analysis) : Prop := row.phase = .fix ∧ row.status = .completed

/-- A proposal as it was inserted: what its pull request has written since is left out. -/
def FixProposal.asCreated (row : FixProposal) : FixProposal :=
  { row with
    branchName := none, status := .proposed, prUrl := none, prNumber := none, pushedSha := none
    prOpenedAt := none, prState := none, prCheckedAt := none, prSettledAt := none
    prCheckError := none, updatedAt := row.createdAt }

/-- The proposal and the fix of one call, with every other completed fix older than that fix or
younger than the proposal. -/
structure Sourced (past : List Happening) (db : Database) (proposal : FixProposal) (run : Proposing)
    (row : Analysis) : Prop where
  made : MadeBoth past run row.id proposal.id
  stored : db.stages.analyses.get row.id = some row
  fix : row = run.completedFix.row row.id row.createdAt
  offer : proposal.asCreated = run.proposal.row proposal.id proposal.createdAt
  order : row.createdAt < proposal.createdAt
  apart : ∀ id other, db.stages.analyses.get id = some other → other.CompletedFix →
    other = row ∨ other.createdAt < row.createdAt ∨ proposal.createdAt < other.createdAt

/-- Completed fixes stay, and those that come were not there before. -/
structure FixesKept (before after : Analyses) : Prop where
  kept : ∀ id row, before.get id = some row → row.CompletedFix → after.get id = some row
  come : ∀ id row, after.get id = some row → row.CompletedFix →
    before.get id = some row ∨ before.get id = none

/-- Of the proposals, only what is written on their pull requests changes. -/
def ProposalsKept (before after : FixProposals) : Prop :=
  ∀ id, (after.get id).map FixProposal.asCreated = (before.get id).map FixProposal.asCreated

theorem proposals_updated (proposals : FixProposals) (id : String) (condition : FixProposal → Bool)
    (change : FixProposal → FixProposal) (keyed : ∀ row, (change row).id = row.id)
    (same : ∀ row, (change row).asCreated = row.asCreated) :
    ProposalsKept proposals (proposals.update id condition change keyed) := by
  intro other
  rw [Table.get_update, Option.map_map]
  congr 1
  funext row
  simp only [Function.comp_apply]
  split
  · exact same row
  · rfl

theorem op_keeps_proposals {self fresh : Nat} {before after : World} {op : Op}
    {answer : Except Exn op.Ans} (moves : OpMoves self fresh before op answer after)
    (other : ∀ new, op ≠ .stage (.fixProposalCreate new)) :
    ProposalsKept before.db.stages.proposals after.db.stages.proposals := by
  have same (proposals : FixProposals) : ProposalsKept proposals proposals := fun _ => rfl
  cases moves with
  | stage write clock drawn written applied =>
      cases write with
      | fixProposalCreate new => exact absurd rfl (other new)
      | analysisCreate new =>
          obtain ⟨analyses, -, rfl⟩ := Option.map_eq_some_iff.mp applied
          exact same _
      | analysisUpdate id fields =>
          simp only [StageWrite.apply] at applied
          split at applied <;> cases applied
          exact same _
      | tokenUsageCreate new =>
          cases applied
          exact same _
      | recordPushIntent id sha branch =>
          cases applied
          apply proposals_updated
          all_goals exact fun _ => rfl
      | prCheckRecord id check =>
          cases check with
          | isOpen =>
              cases applied
              apply proposals_updated
              all_goals exact fun _ => rfl
          | failed code =>
              cases applied
              apply proposals_updated
              all_goals exact fun _ => rfl
  | joint write clock =>
      simp only [commit_db]
      cases write with
      | recordPullRequest record =>
          simp only [JointWrite.apply]
          split
          · split
            · apply proposals_updated
              all_goals exact fun _ => rfl
            · exact same _
          · exact same _
      | prSettle settlement =>
          apply proposals_updated
          all_goals exact fun _ => rfl
      | reopenForAction reportId actionId message =>
          simp only [JointWrite.apply]
          split
          · split
            · exact same _
            · exact same _
          · exact same _
  | _ => exact same _

theorem fixes_same (analyses : Analyses) : FixesKept analyses analyses where
  kept _ _ found _ := found
  come _ _ found _ := .inl found

theorem fixes_inserted {before after : Analyses} {row : Analysis}
    (inserted : before.insert row = some after) : FixesKept before after := by
  have free := Table.insert_free inserted
  constructor
  · intro id other found _
    rw [Table.get_insert inserted, if_neg, found]
    intro same
    rw [← same, free] at found
    cases found
  · intro id other found _
    rw [Table.get_insert inserted] at found
    split at found
    · rename_i same
      exact .inr (same ▸ free)
    · exact .inl found

theorem fixes_written {analyses : Analyses} {id : String} {fields : AnalysisFields} {row : Analysis}
    (found : analyses.get id = some row) (other : row.phase ≠ .fix) :
    FixesKept analyses (analyses.update id (fun _ => true) fields.write fields.write_id) := by
  constructor
  · intro otherId fix stored completed
    rw [Table.get_update_other _ _ _ fields.write_id, stored]
    intro same
    rw [same, found] at stored
    cases stored
    exact other completed.1
  · intro otherId fix stored completed
    by_cases same : otherId = id
    · subst same
      rw [Table.get_update_same, found] at stored
      cases stored
      exact absurd ((write_phase fields row).1.symm.trans completed.1) other
    · rw [Table.get_update_other _ _ _ fields.write_id same] at stored
      exact .inl stored

theorem fixes_deleted {analyses : Analyses} {condition : Analysis → Bool}
    (spares : ∀ row, row.CompletedFix → condition row = false) :
    FixesKept analyses (analyses.deleteAll condition) := by
  constructor
  · intro id row found completed
    rw [Table.get_delete_all, found, Option.filter_some, if_pos]
    simp [spares row completed]
  · intro id row found _
    rw [Table.get_delete_all, Option.filter_eq_some_iff] at found
    exact .inl found.1

theorem fixes_restarted (boot : Boot) (world : World) :
    FixesKept world.db.stages.analyses (world.restart boot).db.stages.analyses := by
  have recovered (reportId : String) := restart_recovered boot reportId world
  constructor
  · intro id row found completed
    exact (recovered "").kept id row found completed.2
  · intro id row found completed
    exact .inl ((recovered "").made id row found completed.2)

/-- A proposal stays sourced while completed fixes stay, and new ones are younger. -/
theorem sourced_kept {past : List Happening} {happening : Happening} {before after : Database}
    {proposal earlier : FixProposal} {run : Proposing} {row : Analysis}
    (sourced : Sourced past before earlier run row)
    (fixes : FixesKept before.stages.analyses after.stages.analyses)
    (later : ∀ id other, after.stages.analyses.get id = some other →
      before.stages.analyses.get id = none → earlier.createdAt < other.createdAt)
    (same : proposal.asCreated = earlier.asCreated) :
    Sourced (past ++ [happening]) after proposal run row := by
  have id : proposal.id = earlier.id := by
    have fields := congrArg FixProposal.id same
    exact fields
  have createdAt : proposal.createdAt = earlier.createdAt := by
    have fields := congrArg FixProposal.createdAt same
    exact fields
  have completed : row.CompletedFix := by
    rw [sourced.fix]
    exact ⟨rfl, rfl⟩
  constructor
  · obtain ⟨task, draft, first, between, last, shape, silent, trace, gives⟩ := sourced.made
    refine ⟨task, draft, first, between, last ++ [happening], ?_, silent, trace, gives⟩
    rw [shape, id]
    simp
  · exact fixes.kept _ _ sourced.stored completed
  · exact sourced.fix
  · rw [same, id, createdAt]
    exact sourced.offer
  · rw [createdAt]
    exact sourced.order
  · intro otherId other found fixed
    rw [createdAt]
    obtain there | new := fixes.come _ _ found fixed
    · exact sourced.apart otherId other there fixed
    · exact .inr (.inr (later otherId other found new))

abbrev CreditShadow := Shadow Op creditConduct.Ghost World Job

/-- The row a coroutine may write: no fix, and not failed, so that no retry deletes it. -/
def Writable (analyses : Analyses) (id : String) : Prop :=
  ∃ row, analyses.get id = some row ∧ row.phase ≠ .fix ∧ row.status ≠ .failed

/-- A task between a completed fix and its proposal: it has the loop, and no row of `analyses` is
younger than the fix. -/
structure Storing (past : List Happening) (shadow : CreditShadow) (task : Nat) (desk : Desk)
    (new : NewAnalysis) (id : String) : Prop where
  holder : shadow.holder = some task
  completes : new.completesFix
  trace : ∃ before between, past = before ++ madeFix task new id :: between ∧ Silent task between ∧
    ∀ draft, desk.draft = some draft → (draft.trace task).Sublist before
  youngest : ∃ now, shadow.world.db.stages.analyses.get id = some (new.row id now) ∧
    ∀ other row, shadow.world.db.stages.analyses.get other = some row → other ≠ id →
      row.createdAt < now

structure Desks (past : List Happening) (shadow : CreditShadow) : Prop where
  places : ∀ id actor, shadow.actors id = some actor → actor.ghost.onLoop = !actor.job.threaded
  rows : ∀ id actor rowId, shadow.actors id = some actor → actor.ghost.row = some rowId →
    Writable shadow.world.db.stages.analyses rowId
  apart : ∀ id other actor rival rowId, shadow.actors id = some actor →
    shadow.actors other = some rival → id ≠ other → actor.ghost.row = some rowId →
    rival.ghost.row ≠ some rowId
  drafts : ∀ id actor draft, shadow.actors id = some actor → actor.ghost.draft = some draft →
    (draft.trace id).Sublist past

structure Credited (first : Database) (past : List Happening) (shadow : CreditShadow) : Prop
    extends Desks past shadow where
  storing : ∀ id actor new rowId, shadow.actors id = some actor →
    actor.ghost.stored = some (new, rowId) → Storing past shadow id actor.ghost new rowId
  sourced : ∀ id proposal, shadow.world.db.stages.proposals.get id = some proposal →
    first.stages.proposals.get id = none → ∃ run row, Sourced past shadow.world.db proposal run row

theorem credited_boot (world : World) :
    Credited world.db [] (Shadow.boot creditConduct world) where
  places id actor found := by cases found
  rows id actor rowId found := by cases found
  apart id other actor rival rowId found := by cases found
  drafts id actor draft found := by cases found
  storing id actor new rowId found := by cases found
  sourced id proposal found new := by
    rw [Shadow.boot] at found
    rw [new] at found
    cases found

structure Beside (before after : Database) : Prop where
  fixes : FixesKept before.stages.analyses after.stages.analyses
  old : ∀ id row, after.stages.analyses.get id = some row →
    ∃ was, before.stages.analyses.get id = some was ∧ was.createdAt = row.createdAt
  proposals : ProposalsKept before.stages.proposals after.stages.proposals

theorem beside_analyses {before after : Database}
    (same : after.stages.analyses = before.stages.analyses)
    (proposals : ProposalsKept before.stages.proposals after.stages.proposals) :
    Beside before after where
  fixes := by
    rw [same]
    exact fixes_same _
  old id row found := by
    rw [same] at found
    exact ⟨row, found, rfl⟩
  proposals := proposals

theorem beside_same (db : Database) : Beside db db := beside_analyses rfl fun _ => rfl

theorem deleted_eq {reportId : String} {count : Nat} {before after : Database}
    (deleted : Wrapped.deleteFailed reportId before = some (count, after)) :
    after.stages.proposals = before.stages.proposals ∧
      after.stages.analyses = before.stages.analyses.deleteAll (Wrapped.failedAttempt reportId) := by
  unfold Wrapped.deleteFailed at deleted
  dsimp only at deleted
  split at deleted
  · cases deleted
  · cases deleted
    exact ⟨rfl, rfl⟩

theorem retry_spares {reportId : String} {row : Analysis} (other : row.status ≠ .failed) :
    Wrapped.failedAttempt reportId row = false := by
  simp [Wrapped.failedAttempt, other]

theorem beside_deleted {reportId : String} {count : Nat} {before after : Database}
    (deleted : Wrapped.deleteFailed reportId before = some (count, after)) : Beside before after := by
  obtain ⟨proposals, analyses⟩ := deleted_eq deleted
  constructor
  · rw [analyses]
    apply fixes_deleted
    intro row completed
    apply retry_spares
    rw [completed.2]
    decide
  · intro id row found
    rw [analyses, Table.get_delete_all, Option.filter_eq_some_iff] at found
    exact ⟨row, found.1, rfl⟩
  · rw [proposals]
    exact fun _ => rfl

theorem writable_deleted {reportId : String} {count : Nat} {before after : Database}
    (deleted : Wrapped.deleteFailed reportId before = some (count, after)) {id : String}
    (still : Writable before.stages.analyses id) : Writable after.stages.analyses id := by
  obtain ⟨row, found, phase, status⟩ := still
  refine ⟨row, ?_, phase, status⟩
  rw [(deleted_eq deleted).2, Table.get_delete_all, found, Option.filter_some, if_pos]
  rw [retry_spares status]
  rfl

inductive DeskStep (past : List Happening) (before : CreditShadow) (id : Nat)
    (actor : Actor Op creditConduct.Ghost Job) : Prop
  | begun (ghost : actor.ghost = ⟨!actor.job.threaded, none, none, none⟩)
  | same (earlier : Actor Op creditConduct.Ghost Job) (found : before.actors id = some earlier)
      (job : actor.job = earlier.job) (ghost : actor.ghost = earlier.ghost)
  | drafted (earlier : Actor Op creditConduct.Ghost Job) (found : before.actors id = some earlier)
      (job : actor.job = earlier.job) (place : actor.ghost.onLoop = earlier.ghost.onLoop)
      (row : actor.ghost.row = earlier.ghost.row ∨ actor.ghost.row = none)
      (clear : actor.ghost.stored = none)
      (trace : ∀ draft, actor.ghost.draft = some draft → (draft.trace id).Sublist past)

theorem beside_newest {before after : Database} (beside : Beside before after) {id : String}
    {row : Analysis} (completed : row.CompletedFix) (found : before.stages.analyses.get id = some row)
    {now : Nat}
    (newest : ∀ other row, before.stages.analyses.get other = some row → other ≠ id →
      row.createdAt < now) :
    after.stages.analyses.get id = some row ∧
      ∀ other row, after.stages.analyses.get other = some row → other ≠ id → row.createdAt < now := by
  refine ⟨beside.fixes.kept id row found completed, ?_⟩
  intro other younger stored apart
  obtain ⟨was, there, same⟩ := beside.old other younger stored
  rw [← same]
  exact newest other was there apart

theorem desks_kept {past : List Happening} {happening : Happening} {before after : CreditShadow}
    (held : Desks past before)
    (desks : ∀ id actor, after.actors id = some actor →
      DeskStep (past ++ [happening]) before id actor)
    (writable : ∀ id actor rowId, after.actors id = some actor → actor.ghost.row = some rowId →
      Writable before.world.db.stages.analyses rowId →
        Writable after.world.db.stages.analyses rowId) :
    Desks (past ++ [happening]) after := by
  have owned : ∀ id actor rowId, after.actors id = some actor → actor.ghost.row = some rowId →
      ∃ earlier, before.actors id = some earlier ∧ earlier.ghost.row = some rowId := by
    intro id actor rowId found row
    cases desks id actor found with
    | begun ghost =>
        rw [ghost] at row
        cases row
    | same earlier was job ghost => exact ⟨earlier, was, ghost ▸ row⟩
    | drafted earlier was job place same clear trace =>
        obtain same | gone := same
        · exact ⟨earlier, was, same ▸ row⟩
        · rw [gone] at row
          cases row
  constructor
  · intro id actor found
    cases desks id actor found with
    | begun ghost => rw [ghost]
    | same earlier was job ghost =>
        rw [ghost, job]
        exact held.places id earlier was
    | drafted earlier was job place row clear trace =>
        rw [place, job]
        exact held.places id earlier was
  · intro id actor rowId found row
    obtain ⟨earlier, was, had⟩ := owned id actor rowId found row
    exact writable id actor rowId found row (held.rows id earlier rowId was had)
  · intro id other actor rival rowId found found' distinct row row'
    obtain ⟨earlier, was, had⟩ := owned id actor rowId found row
    obtain ⟨earlier', was', had'⟩ := owned other rival rowId found' row'
    exact held.apart id other earlier earlier' rowId was was' distinct had had'
  · intro id actor draft found drafted
    cases desks id actor found with
    | begun ghost =>
        rw [ghost] at drafted
        cases drafted
    | same earlier was job ghost =>
        rw [ghost] at drafted
        exact (held.drafts id earlier draft was drafted).trans (List.sublist_append_left _ _)
    | drafted earlier was job place row clear trace => exact trace draft drafted

theorem credited_beside {first : Database} {past : List Happening} {happening : Happening}
    {before after : CreditShadow} (held : Credited first past before)
    (beside : Beside before.world.db after.world.db)
    (desks : ∀ id actor, after.actors id = some actor →
      DeskStep (past ++ [happening]) before id actor)
    (writable : ∀ id actor rowId, after.actors id = some actor → actor.ghost.row = some rowId →
      Writable before.world.db.stages.analyses rowId → Writable after.world.db.stages.analyses rowId)
    (loop : ∀ id actor, after.actors id = some actor → actor.ghost.stored ≠ none →
      before.holder = some id →
        after.holder = some id ∧ ∀ op answer, happening ≠ .step (.answered id op answer)) :
    Credited first (past ++ [happening]) after := by
  constructor
  · exact desks_kept held.toDesks desks writable
  · intro id actor new rowId found stored
    cases desks id actor found with
    | begun ghost =>
        rw [ghost] at stored
        cases stored
    | drafted earlier was job place row clear trace =>
        rw [clear] at stored
        cases stored
    | same earlier was job ghost =>
        have storing := held.storing id earlier new rowId was (ghost ▸ stored)
        obtain ⟨holder, silent⟩ := loop id actor found (by rw [stored]; simp) storing.holder
        constructor
        · exact holder
        · exact storing.completes
        · obtain ⟨front, between, shape, quiet, trace⟩ := storing.trace
          refine ⟨front, between ++ [happening], ?_, ?_, ?_⟩
          · rw [shape, List.append_assoc, List.cons_append]
          · intro op answer member
            obtain inside | last := List.mem_append.mp member
            · exact quiet op answer inside
            · exact silent op answer (List.mem_singleton.mp last).symm
          · intro draft drafted
            exact trace draft (ghost ▸ drafted)
        · obtain ⟨now, stored, newest⟩ := storing.youngest
          have completed : (new.row rowId now).CompletedFix := storing.completes
          exact ⟨now, beside_newest beside completed stored newest⟩
  · intro id proposal found new
    have same := beside.proposals id
    rw [found, Option.map_some] at same
    obtain ⟨was, there, created⟩ := Option.map_eq_some_iff.mp same.symm
    obtain ⟨run, row, sourced⟩ := held.sourced id was there new
    refine ⟨run, row, sourced_kept sourced beside.fixes ?_ created.symm⟩
    intro otherId other stored free
    obtain ⟨old, present, -⟩ := beside.old otherId other stored
    rw [free] at present
    cases present

section Answered

variable {first : Database} {past : List Happening} {shadow : CreditShadow} {id : Nat}
  {actor : Actor Op creditConduct.Ghost Job}

theorem desk_resumed {op : Op} {answer : Except Exn op.Ans} {world : World} {other : Nat}
    {rival : Actor Op creditConduct.Ghost Job}
    (found : (shadow.resume creditConduct id actor op answer world).actors other = some rival) :
    (other = id ∧ rival.job = actor.job ∧ rival.ghost = deskNext actor.ghost op answer) ∨
      (other ≠ id ∧ shadow.actors other = some rival) := by
  simp only [Shadow.resume, Function.update_apply] at found
  split at found
  · rename_i here
    cases found
    exact .inl ⟨here, rfl, rfl⟩
  · rename_i elsewhere
    exact .inr ⟨elsewhere, found⟩

/-- While a task of the loop runs, no other is storing a fix. -/
theorem alone_storing (held : Credited first past shadow) (present : shadow.actors id = some actor)
    (running : shadow.MayRun creditConduct id actor) (loop : actor.ghost.onLoop = true) {other : Nat}
    {rival : Actor Op creditConduct.Ghost Job} (found : shadow.actors other = some rival)
    (stores : rival.ghost.stored ≠ none) : other = id := by
  obtain ⟨pair, stored⟩ := Option.ne_none_iff_exists'.mp stores
  have holder := (held.storing other rival pair.1 pair.2 found stored).holder
  obtain threaded | free := running
  · have place := held.places id actor present
    have onThread : actor.job.threaded = true := threaded
    rw [loop, onThread] at place
    cases place
  · exact free other holder

theorem desk_trace {desk : Desk} {task : Nat} {op : Op} {answer : Except Exn op.Ans}
    (traced : ∀ draft, desk.draft = some draft → (draft.trace task).Sublist past) {draft : Draft}
    (drafted : (deskNext desk op answer).draft = some draft) :
    (draft.trace task).Sublist (past ++ [.step (.answered task op answer)]) := by
  have earlier : desk.draft = some draft →
      (draft.trace task).Sublist (past ++ [.step (.answered task op answer)]) := fun old =>
    (traced draft old).trans (List.sublist_append_left _ _)
  unfold deskNext at drafted
  split at drafted
  · split at drafted
    · exact earlier drafted
    · split at drafted
      · exact earlier drafted
      · exact earlier drafted
  · split at drafted
    · exact earlier drafted
    · exact earlier drafted
  · exact earlier drafted
  · rename_i request reply
    cases drafted
    exact List.sublist_append_right past _
  · rename_i content validated
    obtain ⟨old, had, rfl⟩ := Option.map_eq_some_iff.mp drafted
    have asked : [Happening.step (.answered task (.remote (.acompletion old.request)) (.ok old.reply))].Sublist
        past := by
      apply List.Sublist.trans _ (traced old had)
      exact List.Sublist.cons_cons _ (List.nil_sublist _)
    exact asked.append (List.Sublist.refl _)
  · exact earlier drafted

/-- Of a desk, an operation that neither makes nor writes a row changes the draft alone. -/
theorem other_next {op : Op}
    (others : (∀ new, op ≠ .stage (.analysisCreate new)) ∧
      (∀ rowId fields, op ≠ .stage (.analysisUpdate rowId fields)) ∧
        ∀ new, op ≠ .stage (.fixProposalCreate new))
    (desk : Desk) (answer : Except Exn op.Ans) :
    (deskNext desk op answer).onLoop = desk.onLoop ∧ (deskNext desk op answer).row = desk.row ∧
      (deskNext desk op answer).stored = desk.stored := by
  unfold deskNext
  split
  · exact absurd rfl (others.1 _)
  · exact absurd rfl (others.2.1 _ _)
  · exact absurd rfl (others.2.2 _)
  · exact ⟨rfl, rfl, rfl⟩
  · exact ⟨rfl, rfl, rfl⟩
  · exact ⟨rfl, rfl, rfl⟩

theorem credited_answered {op : Op} {answer : Except Exn op.Ans} {world : World}
    (held : Credited first past shadow) (present : shadow.actors id = some actor)
    (running : shadow.MayRun creditConduct id actor) (beside : Beside shadow.world.db world.db)
    (place : (deskNext actor.ghost op answer).onLoop = actor.ghost.onLoop)
    (row : (deskNext actor.ghost op answer).row = actor.ghost.row ∨
      (deskNext actor.ghost op answer).row = none)
    (stored : (deskNext actor.ghost op answer).stored = none)
    (writable : ∀ other rival rowId,
      (shadow.resume creditConduct id actor op answer world).actors other = some rival →
        rival.ghost.row = some rowId → Writable shadow.world.db.stages.analyses rowId →
          Writable world.db.stages.analyses rowId) :
    Credited first (past ++ [.step (.answered id op answer)])
      (shadow.resume creditConduct id actor op answer world) := by
  apply credited_beside held beside
  · intro other rival found
    obtain ⟨rfl, job, ghost⟩ | ⟨-, was⟩ := desk_resumed found
    · apply DeskStep.drafted actor present job
      · rw [ghost, place]
      · rw [ghost]
        exact row
      · rw [ghost, stored]
      · intro draft drafted
        rw [ghost] at drafted
        exact desk_trace (held.drafts _ _ · present) drafted
    · exact .same rival was rfl rfl
  · exact writable
  · intro other rival found stores holder
    obtain ⟨rfl, -, ghost⟩ | ⟨apart, was⟩ := desk_resumed found
    · rw [ghost, stored] at stores
      exact absurd rfl stores
    · obtain threaded | free := running
      · constructor
        · rw [Shadow.resume, if_pos threaded]
          exact holder
        · intro op answer same
          cases same
          exact apart rfl
      · exact absurd (free other holder) apart

/-- An operation that changes nothing of the tables and no more than the draft of its task. -/
theorem credited_calm {op : Op} {answer : Except Exn op.Ans} {world : World}
    (held : Credited first past shadow) (present : shadow.actors id = some actor)
    (running : shadow.MayRun creditConduct id actor)
    (analyses : world.db.stages.analyses = shadow.world.db.stages.analyses)
    (proposals : ProposalsKept shadow.world.db.stages.proposals world.db.stages.proposals)
    (place : (deskNext actor.ghost op answer).onLoop = actor.ghost.onLoop)
    (row : (deskNext actor.ghost op answer).row = actor.ghost.row)
    (stored : (deskNext actor.ghost op answer).stored = none) :
    Credited first (past ++ [.step (.answered id op answer)])
      (shadow.resume creditConduct id actor op answer world) := by
  apply credited_answered held present running (beside_analyses analyses proposals) place (.inl row)
    stored
  intro other rival rowId _ _ still
  rw [analyses]
  exact still

theorem credited_written {rowId : String} {fields : AnalysisFields} {world : World}
    (held : Credited first past shadow) (present : shadow.actors id = some actor)
    (running : shadow.MayRun creditConduct id actor)
    (allowed : deskAllowed actor.ghost (.stage (.analysisUpdate rowId fields)))
    (analyses : world.db.stages.analyses =
      shadow.world.db.stages.analyses.update rowId (fun _ => true) fields.write fields.write_id)
    (proposals : world.db.stages.proposals = shadow.world.db.stages.proposals) :
    Credited first (past ++ [.step (.answered id (.stage (.analysisUpdate rowId fields)) (.ok ()))])
      (shadow.resume creditConduct id actor (.stage (.analysisUpdate rowId fields)) (.ok ()) world) := by
  obtain ⟨clear, opened, stopped⟩ := allowed
  obtain ⟨row, found, phase, status⟩ := held.rows id actor rowId present opened
  have next : deskNext actor.ghost (.stage (.analysisUpdate rowId fields)) (.ok ()) =
      if fields.status = .completed then actor.ghost else { actor.ghost with row := none } := rfl
  have beside : Beside shadow.world.db world.db := by
    constructor
    · rw [analyses]
      exact fixes_written found phase
    · intro other after stored
      rw [analyses] at stored
      by_cases same : other = rowId
      · subst same
        rw [Table.get_update_same, found] at stored
        cases stored
        exact ⟨row, found, (write_phase fields row).2.2.2.symm⟩
      · rw [Table.get_update_other _ _ _ fields.write_id same] at stored
        exact ⟨after, stored, rfl⟩
    · rw [proposals]
      exact fun _ => rfl
  apply credited_answered held present running beside
  · rw [next]
    split
    · rfl
    · rfl
  · rw [next]
    split
    · exact .inl rfl
    · exact .inr rfl
  · rw [next]
    split
    · exact clear.2
    · exact clear.2
  · intro other rival otherId after owns still
    rw [analyses]
    by_cases same : otherId = rowId
    · subst same
      refine ⟨fields.write row, ?_, ?_, ?_⟩
      · rw [Table.get_update_same, found]
        rfl
      · rw [(write_phase fields row).1]
        exact phase
      · rw [(write_phase fields row).2.1]
        intro failed
        obtain ⟨rfl, -, ghost⟩ | ⟨apart, was⟩ := desk_resumed after
        · rw [ghost, next, if_neg (by rw [failed]; decide)] at owns
          cases owns
        · exact held.apart id other actor rival otherId present was (Ne.symm apart) opened owns
    · obtain ⟨old, stored, kept⟩ := still
      exact ⟨old, by rw [Table.get_update_other _ _ _ fields.write_id same, stored], kept⟩

theorem credited_made {new : NewAnalysis} {drawn : String} {now : Nat} {world : World}
    (held : Credited first past shadow) (present : shadow.actors id = some actor)
    (running : shadow.MayRun creditConduct id actor)
    (allowed : deskAllowed actor.ghost (.stage (.analysisCreate new)))
    (inserted : shadow.world.db.stages.analyses.insert (new.row drawn now) =
      some world.db.stages.analyses)
    (proposals : world.db.stages.proposals = shadow.world.db.stages.proposals)
    (ordered : InsertedInOrder shadow.world.db world.db) :
    Credited first (past ++ [madeFix id new drawn])
      (shadow.resume creditConduct id actor (.stage (.analysisCreate new)) (.ok drawn) world) := by
  obtain ⟨⟨loop, clear⟩, announced⟩ := allowed
  have free : shadow.world.db.stages.analyses.get drawn = none := Table.insert_free inserted
  have kept : ∀ rowId row, shadow.world.db.stages.analyses.get rowId = some row →
      world.db.stages.analyses.get rowId = some row := by
    intro rowId row found
    rw [Table.get_insert inserted, if_neg, found]
    intro same
    have same : drawn = rowId := same
    rw [← same, free] at found
    cases found
  have there : world.db.stages.analyses.get drawn = some (new.row drawn now) := by
    rw [Table.get_insert inserted]
    exact if_pos rfl
  have old := ordered.analyses drawn (new.row drawn now) there free
  have next : deskNext actor.ghost (.stage (.analysisCreate new)) (.ok drawn) =
      if new.status = .running then { actor.ghost with row := some drawn }
      else if new.completesFix then { actor.ghost with stored := some (new, drawn) }
      else actor.ghost := rfl
  have place : (deskNext actor.ghost (.stage (.analysisCreate new)) (.ok drawn)).onLoop =
      actor.ghost.onLoop := by
    rw [next]
    split
    · rfl
    · split
      · rfl
      · rfl
  have opens : (deskNext actor.ghost (.stage (.analysisCreate new)) (.ok drawn)).row = some drawn ∧
      new.status = .running ∨
      (deskNext actor.ghost (.stage (.analysisCreate new)) (.ok drawn)).row = actor.ghost.row := by
    rw [next]
    split
    · rename_i running
      exact .inl ⟨rfl, running⟩
    · split
      · exact .inr rfl
      · exact .inr rfl
  have sameDraft : (deskNext actor.ghost (.stage (.analysisCreate new)) (.ok drawn)).draft =
      actor.ghost.draft := by
    rw [next]
    split
    · rfl
    · split
      · rfl
      · rfl
  have stores : ∀ other rowId,
      (deskNext actor.ghost (.stage (.analysisCreate new)) (.ok drawn)).stored = some (other, rowId) →
        other = new ∧ rowId = drawn ∧ new.completesFix := by
    intro other rowId stored
    rw [next] at stored
    split at stored
    · rw [clear] at stored
      cases stored
    · split at stored
      · rename_i completes
        cases stored
        exact ⟨rfl, rfl, completes⟩
      · rw [clear] at stored
        cases stored
  have writable : ∀ rowId, Writable shadow.world.db.stages.analyses rowId →
      Writable world.db.stages.analyses rowId ∧ rowId ≠ drawn := by
    intro rowId still
    obtain ⟨row, found, kind⟩ := still
    refine ⟨⟨row, kept rowId row found, kind⟩, ?_⟩
    intro same
    rw [same, free] at found
    cases found
  have desks : Desks (past ++ [madeFix id new drawn])
      (shadow.resume creditConduct id actor (.stage (.analysisCreate new)) (.ok drawn) world) := by
    constructor
    · intro other rival found
      obtain ⟨rfl, job, ghost⟩ | ⟨-, was⟩ := desk_resumed found
      · rw [ghost, place, job]
        exact held.places other actor present
      · exact held.places other rival was
    · intro other rival rowId found owns
      obtain ⟨rfl, -, ghost⟩ | ⟨-, was⟩ := desk_resumed found
      · rw [ghost] at owns
        obtain ⟨opened, running⟩ | same := opens
        · rw [opened] at owns
          cases owns
          refine ⟨new.row drawn now, there, announced running, ?_⟩
          show new.status ≠ .failed
          rw [running]
          decide
        · exact (writable rowId (held.rows other actor rowId present (same ▸ owns))).1
      · exact (writable rowId (held.rows other rival rowId was owns)).1
    · intro one two mine theirs rowId found found' distinct owns owns'
      obtain ⟨rfl, -, ghost⟩ | ⟨-, was⟩ := desk_resumed found
      · rw [ghost] at owns
        obtain ⟨rfl, -, -⟩ | ⟨-, was'⟩ := desk_resumed found'
        · exact distinct rfl
        · obtain ⟨opened, -⟩ | same := opens
          · rw [opened] at owns
            cases owns
            exact (writable _ (held.rows two theirs _ was' owns')).2 rfl
          · exact held.apart one two actor theirs rowId present was' distinct (same ▸ owns) owns'
      · obtain ⟨rfl, -, ghost⟩ | ⟨-, was'⟩ := desk_resumed found'
        · rw [ghost] at owns'
          obtain ⟨opened, -⟩ | same := opens
          · rw [opened] at owns'
            cases owns'
            exact (writable _ (held.rows one mine _ was owns)).2 rfl
          · exact held.apart one two mine actor rowId was present distinct owns (same ▸ owns')
        · exact held.apart one two mine theirs rowId was was' distinct owns owns'
    · intro other rival draft found drafted
      obtain ⟨rfl, -, ghost⟩ | ⟨-, was⟩ := desk_resumed found
      · rw [ghost] at drafted
        exact desk_trace (held.drafts _ _ · present) drafted
      · exact (held.drafts other rival draft was drafted).trans (List.sublist_append_left _ _)
  constructor
  · exact desks
  · intro other rival stored rowId found has
    obtain ⟨rfl, -, ghost⟩ | ⟨apart, was⟩ := desk_resumed found
    · rw [ghost] at has
      obtain ⟨rfl, rfl, completes⟩ := stores stored rowId has
      have unthreaded : actor.job.threaded = false := by
        have place := held.places other actor present
        rw [loop] at place
        simpa using place.symm
      constructor
      · rw [Shadow.resume, if_neg]
        show ¬actor.job.threaded = true
        rw [unthreaded]
        decide
      · exact completes
      · refine ⟨past, [], rfl, ?_, ?_⟩
        · intro op answer member
          cases member
        · intro draft drafted
          rw [ghost, sameDraft] at drafted
          exact held.drafts other actor draft present drafted
      · refine ⟨now, there, ?_⟩
        intro otherId row found other
        have inserted := Table.get_insert inserted otherId
        rw [if_neg (fun same => other same.symm)] at inserted
        exact old.analyses otherId row (inserted.symm.trans found)
    · exact absurd (alone_storing held present running loop was (by rw [has]; simp)) apart
  · intro proposalId proposal found new
    rw [show (shadow.resume creditConduct id actor (.stage (.analysisCreate _))
      (.ok drawn) world).world = world from rfl, proposals] at found
    obtain ⟨run, row, sourced⟩ := held.sourced proposalId proposal found new
    refine ⟨run, row, sourced_kept sourced (fixes_inserted inserted) ?_ rfl⟩
    intro otherId other stored free
    exact (ordered.analyses otherId other stored free).proposals proposalId proposal found

theorem credited_proposed {new : NewFixProposal} {drawn : String} {now : Nat} {world : World}
    (held : Credited first past shadow) (present : shadow.actors id = some actor)
    (running : shadow.MayRun creditConduct id actor)
    (allowed : deskAllowed actor.ghost (.stage (.fixProposalCreate new)))
    (inserted : shadow.world.db.stages.proposals.insert (new.row drawn now) =
      some world.db.stages.proposals)
    (analyses : world.db.stages.analyses = shadow.world.db.stages.analyses)
    (ordered : InsertedInOrder shadow.world.db world.db) :
    Credited first (past ++ [madeProposal id new drawn])
      (shadow.resume creditConduct id actor (.stage (.fixProposalCreate new)) (.ok drawn) world) := by
  obtain ⟨loop, run, draft, fixId, stored, drafted, gives, rfl⟩ := allowed
  have free : shadow.world.db.stages.proposals.get drawn = none := Table.insert_free inserted
  have there : world.db.stages.proposals.get drawn = some (run.proposal.row drawn now) := by
    rw [Table.get_insert inserted]
    exact if_pos rfl
  have old := ordered.proposals drawn (run.proposal.row drawn now) there free
  have storing := held.storing id actor run.completedFix fixId present stored
  have next : deskNext actor.ghost (.stage (.fixProposalCreate run.proposal)) (.ok drawn) =
      { actor.ghost with stored := none } := rfl
  constructor
  · apply desks_kept held.toDesks
    · intro other rival found
      obtain ⟨rfl, job, ghost⟩ | ⟨-, was⟩ := desk_resumed found
      · apply DeskStep.drafted actor present job
        · rw [ghost, next]
        · rw [ghost, next]
          exact .inl rfl
        · rw [ghost, next]
        · intro other drafted
          rw [ghost] at drafted
          exact desk_trace (held.drafts _ _ · present) drafted
      · exact .same rival was rfl rfl
    · intro other rival rowId _ _ still
      show Writable world.db.stages.analyses rowId
      rw [analyses]
      exact still
  · intro other rival pair rowId found has
    obtain ⟨-, -, ghost⟩ | ⟨apart, was⟩ := desk_resumed found
    · rw [ghost, next] at has
      cases has
    · exact absurd (alone_storing held present running loop was (by rw [has]; simp)) apart
  · intro proposalId proposal found new
    have found : world.db.stages.proposals.get proposalId = some proposal := found
    rw [Table.get_insert inserted] at found
    split at found
    · cases found
      obtain ⟨before, between, shape, silent, trace⟩ := storing.trace
      obtain ⟨moment, fixed, newest⟩ := storing.youngest
      refine ⟨run, run.completedFix.row fixId moment, ?_⟩
      constructor
      · refine ⟨id, draft, before, between, [], ?_, silent, trace draft drafted, gives⟩
        rw [shape, List.append_assoc]
        rfl
      · exact (congrArg (fun table => Table.get table fixId) analyses).trans fixed
      · rfl
      · rfl
      · exact old.analyses fixId _ fixed
      · intro otherId other stored completed
        have stored : world.db.stages.analyses.get otherId = some other := stored
        rw [analyses] at stored
        by_cases same : otherId = fixId
        · rw [same, fixed] at stored
          cases stored
          exact .inl rfl
        · exact .inr (.inl (newest otherId other stored same))
    · obtain ⟨source, row, sourced⟩ := held.sourced proposalId proposal found new
      refine ⟨source, row, sourced_kept sourced (analyses ▸ fixes_same _) ?_ rfl⟩
      intro otherId other stored free
      have stored : world.db.stages.analyses.get otherId = some other := stored
      rw [analyses, free] at stored
      cases stored

theorem credited_failed {fresh : Nat} {op : Op} {error : Exn} {world : World} (inner : op.outer = false)
    (held : Credited first past shadow) (present : shadow.actors id = some actor)
    (running : shadow.MayRun creditConduct id actor)
    (moves : OpMoves id fresh shadow.world op (.error error) world)
    (place : (deskNext actor.ghost op (.error error)).onLoop = actor.ghost.onLoop)
    (row : (deskNext actor.ghost op (.error error)).row = actor.ghost.row)
    (stored : (deskNext actor.ghost op (.error error)).stored = none) :
    Credited first (past ++ [.step (.answered id op (.error error))])
      (shadow.resume creditConduct id actor op (.error error) world) := by
  have same := failed_keeps_world inner moves
  subst same
  exact credited_calm held present running rfl (fun _ => rfl) place row stored

theorem credited_operation {fresh : Nat} {op : Op} {answer : Except Exn op.Ans} {world : World}
    (held : Credited first past shadow) (present : shadow.actors id = some actor)
    (running : shadow.MayRun creditConduct id actor) (allowed : deskAllowed actor.ghost op)
    (moves : OpMoves id fresh shadow.world op answer world)
    (ordered : InsertedInOrder shadow.world.db world.db) :
    Credited first (past ++ [.step (.answered id op answer)])
      (shadow.resume creditConduct id actor op answer world) := by
  by_cases creates : ∃ new, op = .stage (.analysisCreate new)
  · obtain ⟨new, rfl⟩ := creates
    cases answer with
    | error error => exact credited_failed rfl held present running moves rfl rfl allowed.1.2
    | ok drawn =>
        obtain ⟨now, inserted, proposals⟩ : ∃ now,
            shadow.world.db.stages.analyses.insert (new.row drawn now) =
              some world.db.stages.analyses ∧
            world.db.stages.proposals = shadow.world.db.stages.proposals := by
          cases moves with
          | stage write clock drawn' written applied =>
              obtain ⟨analyses, inserted, rfl⟩ := Option.map_eq_some_iff.mp applied
              exact ⟨_, inserted, rfl⟩
          | outer op answer outer => cases outer
        exact credited_made held present running allowed inserted proposals ordered
  by_cases writes : ∃ rowId fields, op = .stage (.analysisUpdate rowId fields)
  · obtain ⟨rowId, fields, rfl⟩ := writes
    cases answer with
    | error error => exact credited_failed rfl held present running moves rfl rfl allowed.1.2
    | ok answer =>
        obtain ⟨analyses, proposals⟩ : world.db.stages.analyses =
            shadow.world.db.stages.analyses.update rowId (fun _ => true) fields.write
              fields.write_id ∧
            world.db.stages.proposals = shadow.world.db.stages.proposals := by
          cases moves with
          | stage write clock drawn written applied =>
              simp only [StageWrite.apply] at applied
              split at applied <;> cases applied
              exact ⟨rfl, rfl⟩
          | outer op answer outer => cases outer
        exact credited_written held present running allowed analyses proposals
  by_cases proposes : ∃ new, op = .stage (.fixProposalCreate new)
  · obtain ⟨new, rfl⟩ := proposes
    cases answer with
    | error error => exact credited_failed rfl held present running moves rfl rfl rfl
    | ok drawn =>
        obtain ⟨now, inserted, analyses⟩ : ∃ now,
            shadow.world.db.stages.proposals.insert (new.row drawn now) =
              some world.db.stages.proposals ∧
            world.db.stages.analyses = shadow.world.db.stages.analyses := by
          cases moves with
          | stage write clock drawn' written applied =>
              obtain ⟨proposals, inserted, rfl⟩ := Option.map_eq_some_iff.mp applied
              exact ⟨_, inserted, rfl⟩
          | outer op answer outer => cases outer
        exact credited_proposed held present running allowed inserted analyses ordered
  have others : (∀ new, op ≠ .stage (.analysisCreate new)) ∧
      (∀ rowId fields, op ≠ .stage (.analysisUpdate rowId fields)) ∧
        ∀ new, op ≠ .stage (.fixProposalCreate new) :=
    ⟨fun new same => creates ⟨new, same⟩, fun rowId fields same => writes ⟨rowId, fields, same⟩,
      fun new same => proposes ⟨new, same⟩⟩
  have clear : actor.ghost.stored = none := by
    unfold deskAllowed at allowed
    split at allowed
    · exact absurd rfl (others.1 _)
    · exact absurd rfl (others.2.1 _ _)
    · exact absurd rfl (others.2.2 _)
    · exact allowed
  obtain ⟨place, row, stored⟩ := other_next others actor.ghost answer
  exact credited_calm held present running (op_keeps_analyses moves ⟨others.1, others.2.1⟩)
    (op_keeps_proposals moves others.2.2) place row (stored.trans clear)

end Answered

section Steps

variable {first : Database} {past : List Happening} {before after : CreditShadow}

theorem credited_begin (held : Credited first past before) (job : Job) :
    Credited first past (before.begin creditConduct job) := by
  have desk : ∀ id actor, (before.begin creditConduct job).actors id = some actor →
      actor.ghost = ⟨!actor.job.threaded, none, none, none⟩ ∨ before.actors id = some actor := by
    intro id actor found
    simp only [Shadow.begin, Function.update_apply] at found
    split at found
    · cases found
      exact .inl rfl
    · exact .inr found
  constructor
  · constructor
    · intro id actor found
      obtain new | was := desk id actor found
      · rw [new]
      · exact held.places id actor was
    · intro id actor rowId found row
      obtain new | was := desk id actor found
      · rw [new] at row
        cases row
      · exact held.rows id actor rowId was row
    · intro id other actor rival rowId found found' distinct row row'
      obtain new | was := desk id actor found
      · rw [new] at row
        cases row
      · obtain new | was' := desk other rival found'
        · rw [new] at row'
          cases row'
        · exact held.apart id other actor rival rowId was was' distinct row row'
    · intro id actor draft found drafted
      obtain new | was := desk id actor found
      · rw [new] at drafted
        cases drafted
      · exact held.drafts id actor draft was drafted
  · intro id actor new rowId found stored
    obtain fresh | was := desk id actor found
    · rw [fresh] at stored
      cases stored
    · have storing := held.storing id actor new rowId was stored
      exact ⟨storing.holder, storing.completes, storing.trace, storing.youngest⟩
  · exact held.sourced

theorem credited_begin_all (held : Credited first past before) (job : Option Job) :
    Credited first past (before.beginAll creditConduct job) := by
  cases job with
  | none => exact held
  | some job => exact credited_begin held job

theorem suspended_clear {desk : Desk} {op : Op} (allowed : deskAllowed desk op)
    (suspends : op.suspends = true) : desk.stored = none := by
  unfold deskAllowed at allowed
  split at allowed
  · exact allowed.1.2
  · exact allowed.1.2
  · cases suspends
  · exact allowed

theorem credited_issued {id : Nat} {actor : Actor Op creditConduct.Ghost Job} {op : Op}
    (held : Credited first past before) (found : before.actors id = some actor)
    (running : before.MayRun creditConduct id actor) (clear : actor.ghost.stored = none) :
    Credited first (past ++ [.step (.issued id op)]) (before.await creditConduct id actor op) := by
  have desk : ∀ other rival, (before.await creditConduct id actor op).actors other = some rival →
      ∃ earlier, before.actors other = some earlier ∧ rival.job = earlier.job ∧
        rival.ghost = earlier.ghost ∧ (other = id → earlier = actor) := by
    intro other rival present
    simp only [Shadow.await, Function.update_apply] at present
    split at present
    · rename_i here
      cases present
      exact ⟨actor, here ▸ found, rfl, rfl, fun _ => rfl⟩
    · rename_i elsewhere
      exact ⟨rival, present, rfl, rfl, fun here => absurd here elsewhere⟩
  apply credited_beside held
  · exact beside_same _
  · intro other rival present
    obtain ⟨earlier, was, job, ghost, -⟩ := desk other rival present
    exact .same earlier was job ghost
  · exact fun _ _ _ _ _ still => still
  · intro other rival present stores holder
    obtain ⟨earlier, was, -, ghost, asker⟩ := desk other rival present
    have elsewhere : other ≠ id := by
      intro here
      rw [ghost, asker here] at stores
      exact stores clear
    refine ⟨?_, fun _ _ same => by cases same⟩
    obtain threaded | free := running
    · rw [Shadow.await, if_pos threaded]
      exact holder
    · exact absurd (free other holder) elsewhere

theorem credited_ended {id : Nat} (held : Credited first past before) :
    Credited first (past ++ [.step (.ended id)]) (before.finish creditConduct id) := by
  have desk : ∀ other rival, (before.finish creditConduct id).actors other = some rival →
      other ≠ id ∧ before.actors other = some rival := by
    intro other rival present
    simp only [Shadow.finish, Function.update_apply] at present
    split at present
    · cases present
    · rename_i elsewhere
      exact ⟨elsewhere, present⟩
  apply credited_beside held
  · exact beside_same _
  · intro other rival present
    exact .same rival (desk other rival present).2 rfl rfl
  · exact fun _ _ _ _ _ still => still
  · intro other rival present stores holder
    refine ⟨?_, fun _ _ same => by cases same⟩
    rw [Shadow.finish, if_neg]
    · exact holder
    · intro same
      exact (desk other rival present).1 (Option.some.inj (holder.symm.trans same))

/-- A restart forgets every task; the rows it makes are of no completed fix. -/
theorem credited_restarted (boot : Boot) (held : Credited first past before)
    (ordered : InsertedInOrder before.world.db (before.restart creditConduct boot).world.db) :
    Credited first (past ++ [.step .restarted]) (before.restart creditConduct boot) := by
  constructor
  · constructor
    · exact fun id actor found => by cases found
    · exact fun id actor rowId found => by cases found
    · exact fun id other actor rival rowId found => by cases found
    · exact fun id actor draft found => by cases found
  · exact fun id actor new rowId found => by cases found
  · intro id proposal found new
    obtain ⟨run, row, sourced⟩ := held.sourced id proposal found new
    refine ⟨run, row, sourced_kept sourced (fixes_restarted boot before.world) ?_ rfl⟩
    intro otherId other stored free
    exact (ordered.analyses otherId other stored free).proposals id proposal found

theorem credited_step {event : Ev} (held : Credited first past before)
    (moved : ShadowMoves creditConduct before event after)
    (ordered : InsertedInOrder before.world.db after.world.db) :
    Credited first (past ++ [.step event]) after := by
  cases moved with
  | started job rooted =>
      apply credited_begin
      apply credited_beside held (beside_same _)
      · exact fun id actor found => .same actor found rfl rfl
      · exact fun _ _ _ _ _ still => still
      · exact fun _ _ _ _ holder => ⟨holder, fun _ _ same => by cases same⟩
  | issued id actor op found running allowed suspends awake =>
      exact credited_issued held found running (suspended_clear allowed suspends)
  | answered id actor op env answer world found running allowed ready pending ran =>
      apply credited_begin_all
      apply credited_operation held found running allowed (exec_moves ran)
      have same : ((before.resume creditConduct id actor op answer world).beginAll creditConduct
          (bugalizer.spawns op)).world = world := by
        cases bugalizer.spawns op <;> rfl
      rw [same] at ordered
      exact ordered
  | ended id actor found running awake finished => exact credited_ended held
  | restarted boot => exact credited_restarted boot held ordered

/-- A retry deletes nothing a task has in hand and nothing a proposal came from. -/
theorem credited_retried {reportId : String} {count : Nat} {db : Database}
    (held : Credited first past before)
    (deleted : Wrapped.deleteFailed reportId before.world.db = some (count, db)) :
    Credited first (past ++ [.retried reportId])
      { before with world := { before.world with db } } := by
  apply credited_beside held (beside_deleted deleted)
  · exact fun id actor found => .same actor found rfl rfl
  · exact fun _ _ _ _ _ still => writable_deleted deleted still
  · exact fun _ _ _ _ holder => ⟨holder, fun _ _ same => by cases same⟩

end Steps

theorem shades_retried {state : Sys} {shadow : CreditShadow} (shades : Shades creditConduct state shadow)
    (db : Database) :
    Shades creditConduct { state with world := { state.world with db } }
      { shadow with world := { shadow.world with db } } where
  world := by
    show ({ state.world with db } : World) = { shadow.world with db }
    rw [shades.world]
  fresh := shades.fresh
  holder := shades.holder
  follows := shades.follows
  backed := shades.backed

theorem run_credited {world : World} {past : List Happening} {last : Sys}
    (run : Path FixMoves (State.boot world) past last) :
    ∃ shadow, Shades creditConduct last shadow ∧ Credited world.db past shadow := by
  induction run with
  | nil => exact ⟨_, shades_boot world, credited_boot world⟩
  | snoc before moves ih =>
      obtain ⟨shadow, shades, held⟩ := ih
      cases moves with
      | step moves ordered =>
          obtain ⟨after, moved, shaded⟩ := moves_shadowed shades moves
          refine ⟨after, shaded, credited_step held moved ?_⟩
          rw [← shades.world, ← shaded.world]
          exact ordered
      | retried reportId count db deleted =>
          rw [shades.world] at deleted
          exact ⟨_, shades_retried shades db, credited_retried held deleted⟩

end Bugalizer
