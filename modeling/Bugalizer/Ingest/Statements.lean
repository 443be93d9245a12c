import Bugalizer.Ingest.Poller

/-!
# What one operation does to the database

Every operation either leaves the database alone or is one of a few statements; and of each
statement it is said once what look-ups see afterwards.
-/

namespace Bugalizer.Ingest

set_option autoImplicit false

open Store

theorem fence_open {projectId : String} {generation : Nat} {db : Database}
    (passes : fenced projectId generation db = false) :
    ∃ row, db.projects.get projectId = some row ∧ row.ingestSource.isSome = true ∧
      row.ingestGeneration = generation := by
  simp only [fenced, Bool.not_eq_false', Option.any_eq_true, Bool.and_eq_true, beq_iff_eq] at passes
  exact passes

theorem checkpoint_row {projectId : String} {generation now : Nat} {states : States} :
    ∃ row, (checkpoint projectId generation now states).get projectId = some row ∧
      ((row.generation = generation ∧ states.get projectId = some row) ∨
        row = { projectId, generation, lastFullWalkAt := some now }) ∧
      ((∀ old, states.get projectId = some old → old.generation ≠ generation) ∨
        states.get projectId = some row) := by
  unfold checkpoint
  dsimp only
  generalize shrunk : states.delete projectId (fun row => row.generation != generation) = kept
  have after : kept.get projectId = (states.get projectId).filter fun row =>
      row.generation == generation := by
    rw [← shrunk, Table.get_delete]
    cases states.get projectId with
    | none => rfl
    | some row => simp [bne]
  cases found : kept.get projectId with
  | some row =>
      rw [found] at after
      obtain ⟨stored, same⟩ := Option.filter_eq_some_iff.mp after.symm
      have refused : kept.insert { projectId, generation, lastFullWalkAt := some now } = none := by
        cases made : kept.insert { projectId, generation, lastFullWalkAt := some now } with
        | none => rfl
        | some next =>
            have free := Table.insert_free made
            rw [show StateRow.projectId _ = projectId from rfl, found] at free
            cases free
      rw [refused]
      exact ⟨row, found, .inl ⟨by simpa using same, stored⟩, .inr stored⟩
  | none =>
      have free : kept.get (StateRow.projectId { projectId, generation, lastFullWalkAt := some now }) =
        none := found
      obtain ⟨next, made⟩ := Table.insert_of_free free
      rw [made]
      refine ⟨_, ?_, .inr rfl, .inl ?_⟩
      · rw [Option.getD_some, Table.get_insert made, if_pos rfl]
      · intro old stored same
        rw [found, stored, Option.filter_some, if_pos (by simpa using same)] at after
        cases after

theorem checkpoint_other {projectId other : String} {generation now : Nat} {states : States}
    (apart : other ≠ projectId) :
    (checkpoint projectId generation now states).get other = states.get other := by
  unfold checkpoint
  dsimp only
  generalize shrunk : states.delete projectId (fun row => row.generation != generation) = kept
  have after : kept.get other = states.get other := by
    rw [← shrunk, Table.get_delete]
    cases states.get other with
    | none => rfl
    | some row => simp [apart]
  cases made : kept.insert { projectId, generation, lastFullWalkAt := some now } with
  | none => exact after
  | some next =>
      rw [Option.getD_some, Table.get_insert made, if_neg (by exact fun same => apart same.symm)]
      exact after

/-- A commit behind an open fence: the reports that were not there are inserted, and the
checkpoint of the project, which is the one it had at this generation or a new one, is written. -/
structure Committed (projectId : String) (generation : Nat) (step : PollStep) (before after : Database) :
    Prop where
  current : ∃ row, before.projects.get projectId = some row ∧ row.ingestSource.isSome = true ∧
    row.ingestGeneration = generation
  projects : after.projects = before.projects
  state : ∃ found count failures, after.states.get projectId =
      some (step.updates.write count failures found) ∧ found.generation = generation ∧
    (before.states.get projectId = some found ∨
      (∀ old, before.states.get projectId = some old → old.generation ≠ generation) ∧
        ∃ now, found = { projectId, generation, lastFullWalkAt := some now })
  states : ∀ other, other ≠ projectId → after.states.get other = before.states.get other
  reports : ∃ count fresh, importRows projectId fresh step.reports 0 before.reports =
    some (count, after.reports)

inductive DbMoves (before : Database) (drawn : List String) : (op : Op) → Except Exn op.Ans →
    Database → List String → Prop
  | kept (op : Op) (answer : Except Exn op.Ans) : DbMoves before drawn op answer before drawn
  | updated (id : String) (existing : ProjectRow) (fields : IngestFields) :
      DbMoves before drawn (.projectUpdate id existing fields) (.ok ())
        (projectUpdate id existing fields before) drawn
  | created (id : String) (source : Option String) (config : Option IngestConfig)
      (projects : Projects) (fresh : id ∉ drawn)
      (inserted : before.projects.insert ⟨id, source, config, 0⟩ = some projects) :
      DbMoves before drawn (.projectCreate source config) (.ok ()) { before with projects }
        (id :: drawn)
  | deleted (id : String) (after : Database) (gone : projectDelete id before = some after) :
      DbMoves before drawn (.projectDelete id) (.ok ()) after drawn
  | leftover (id : String) (error : Exn) (leftover : Leftover) :
      DbMoves before drawn (.projectDelete id) (.error error) (leftover.apply id before) drawn
  | filed (projectId id : String) (reports : Reports)
      (inserted : before.reports.insert ⟨id, projectId, none, false, none⟩ = some reports) :
      DbMoves before drawn (.reportCreate projectId) (.ok ()) { before with reports } drawn
  | marked (id : String) :
      DbMoves before drawn (.reportDelete id) (.ok ())
        { before with reports := markDeleted id before.reports } drawn
  | committed (walk : Walk) (projectId : String) (generation : Nat) (step : PollStep) (count : Nat)
      (after : Database) (written : Committed projectId generation step before after) :
      DbMoves before drawn (.commit walk projectId generation step) (.ok (some count)) after drawn

theorem under_weather {Ans : Type} {weather : Op.Weather} {before after : World}
    {commit : Option (Ans × World)} {answer : Except Exn Ans}
    (ran : underWeather weather before commit = some (answer, after)) :
    ((∃ error, answer = .error error) ∧ after = before) ∨
      ∃ value, commit = some (value, after) ∧ answer = .ok value := by
  unfold underWeather at ran
  split at ran
  · cases ran
    exact .inl ⟨⟨_, rfl⟩, rfl⟩
  · split at ran
    · cases ran
      exact .inr ⟨_, rfl, rfl⟩
    · cases ran
      exact .inl ⟨⟨_, rfl⟩, rfl⟩

theorem commit_behind_fence {projectId : String} {generation : Nat} {step : PollStep} {now : Nat}
    {fresh : Nat → String} {before after : Database} {inserted : Option Nat}
    (shut : fenced projectId generation before = true)
    (ran : ingestCommit projectId generation step now fresh before = some (inserted, after)) :
    inserted = none ∧ after = before := by
  rw [ingestCommit, if_pos shut] at ran
  cases ran
  exact ⟨rfl, rfl⟩

theorem commit_committed {projectId : String} {generation : Nat} {step : PollStep} {now : Nat}
    {fresh : Nat → String} {before after : Database} {inserted : Option Nat}
    (passes : fenced projectId generation before = false)
    (ran : ingestCommit projectId generation step now fresh before = some (inserted, after)) :
    (∃ count, inserted = some count) ∧ Committed projectId generation step before after := by
  rw [ingestCommit, if_neg (by simp [passes])] at ran
  obtain ⟨⟨count, reports⟩, imported, same⟩ := Option.map_eq_some_iff.mp ran
  cases same
  obtain ⟨found, stored, kind, old⟩ :=
    @checkpoint_row projectId generation now before.states
  refine ⟨⟨count, rfl⟩, fence_open passes, rfl, ⟨found, count, if step.countFailure then 1 else 0, ?_, ?_, ?_⟩,
    ?_, ⟨count, fresh, imported⟩⟩
  · show Table.get _ projectId = _
    rw [Table.get_update_same, stored]
    rfl
  · rcases kind with ⟨same, -⟩ | rfl
    · exact same
    · rfl
  · rcases kind with ⟨-, present⟩ | made
    · exact .inl present
    · rcases old with none_current | present
      · exact .inr ⟨none_current, now, made⟩
      · exact .inl present
  · intro other apart
    show Table.get _ other = _
    rw [Table.get_update_other _ _ _ _ apart]
    exact checkpoint_other apart

theorem exec_moves {self fresh : Nat} {op : Op} {env : op.Env} {before after : World}
    {answer : Except Exn op.Ans} (ran : op.exec self fresh env before = some (answer, after)) :
    DbMoves before.db before.drawn op answer after.db after.drawn := by
  cases op with
  | acquire projectId =>
      simp only [Op.exec] at ran
      split at ran <;> cases ran
      exact .kept _ _
  | release projectId | fetch _ _ _ _ | credential _ | now | checkedPair _ _ =>
      cases ran
      exact .kept _ _
  | projectGet id | projectExists id | hasActiveReports id | stateGet id =>
      simp only [Op.exec] at ran
      rcases under_weather ran with ⟨-, rfl⟩ | ⟨value, committed, -⟩
      · exact .kept _ _
      · cases committed
        exact .kept _ _
  | projectUpdate id existing fields =>
      simp only [Op.exec] at ran
      rcases under_weather ran with ⟨-, rfl⟩ | ⟨value, committed, rfl⟩
      · exact .kept _ _
      · cases committed
        exact .updated id existing fields
  | projectCreate source config =>
      simp only [Op.exec] at ran
      split at ran
      · cases ran
      rename_i fresh
      rcases under_weather ran with ⟨-, rfl⟩ | ⟨value, committed, rfl⟩
      · exact .kept _ _
      · obtain ⟨projects, inserted, same⟩ := Option.map_eq_some_iff.mp committed
        cases same
        exact .created _ source config projects fresh inserted
  | projectDelete id =>
      simp only [Op.exec] at ran
      split at ran
      · rename_i db none_raised gone
        cases ran
        exact .deleted id db gone
      · cases ran
        exact .leftover id _ env.2
  | reportCreate projectId =>
      simp only [Op.exec] at ran
      rcases under_weather ran with ⟨-, rfl⟩ | ⟨value, committed, rfl⟩
      · exact .kept _ _
      · split at committed
        · cases committed
        · obtain ⟨reports, inserted, same⟩ := Option.map_eq_some_iff.mp committed
          cases same
          exact .filed projectId _ reports inserted
  | reportDelete id =>
      simp only [Op.exec] at ran
      rcases under_weather ran with ⟨-, rfl⟩ | ⟨value, committed, rfl⟩
      · exact .kept _ _
      · cases committed
        exact .marked id
  | commit walk projectId generation step =>
      simp only [Op.exec] at ran
      rcases under_weather ran with ⟨-, rfl⟩ | ⟨value, committed, rfl⟩
      · exact .kept _ _
      · obtain ⟨⟨inserted, db⟩, wrote, same⟩ := Option.map_eq_some_iff.mp committed
        cases same
        cases shut : fenced projectId generation before.db with
        | true =>
            obtain ⟨rfl, rfl⟩ := commit_behind_fence shut wrote
            exact .kept _ _
        | false =>
            obtain ⟨⟨count, rfl⟩, written⟩ := commit_committed shut wrote
            exact .committed walk projectId generation step count db written

end Bugalizer.Ingest
