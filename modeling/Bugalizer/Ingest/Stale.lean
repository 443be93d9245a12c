import Bugalizer.Ingest.Scenario

/-!
# Stale polls

A poll whose project has moved on writes nothing, as long as no update repeats a cleared source
over one that was stored in between.
-/

namespace Bugalizer.Ingest

set_option autoImplicit false

open Store Coroutine Program

section Writes

variable {agree : ProjectRow → ProjectRow → Prop} {events : List Ev} {state next : Sys}
  {shadow : Shadow Op pollConduct.Ghost World Job} {id : Nat} {op : Op} {answer : Except Exn op.Ans}

/-- What a poll writes is one commit, of the generation it has read, behind an open fence. -/
theorem poll_writes (shades : Shades pollConduct state shadow) (reads : Reads agree events shadow)
    (moved : Moves ingest state (.answered id op answer) next)
    {task : Task Op Op.Ans Exn Job} (found : state.tasks id = some task) {wanted : String} {full : Bool}
    (polling : task.job = .poll wanted full) :
    next.world.db = state.world.db ∨
      ∃ projectId row source stored, HasRead events id projectId row ∧
        (∀ other otherRow, HasRead events id other otherRow → other = projectId ∧ otherRow = row) ∧
        row.ingestSource = some source ∧ state.world.db.projects.get projectId = some stored ∧
        stored.ingestSource.isSome = true ∧ stored.ingestGeneration = row.ingestGeneration := by
  cases moved with
  | answered _ task' _ rest env _ world found' running asks ready ran =>
      rw [found] at found'
      cases found'
      obtain ⟨actor, present, follower⟩ := shades.follows id task found
      have read := reads.grips id actor present
      have polls := reads.polls id actor wanted full present (follower.1 ▸ polling)
      have allowed : pollAllowed actor.ghost op := by
        have follows := follower.2.2
        rw [asks] at follows
        exact follows.1
      have moves := exec_moves (show Op.exec id state.fresh op env state.world = some (answer, world) from ran)
      have endpoint : ∀ {kept : Prop}, actor.ghost.polling = false → kept := fun idle => by
        rw [polls] at idle
        cases idle
      change world.db = state.world.db ∨ _
      revert moves
      generalize world.db = after
      generalize world.drawn = drawn
      intro moves
      cases moves with
      | kept => exact .inl rfl
      | updated | created | deleted | leftover | filed | marked => exact endpoint allowed
      | committed walk projectId generation step count after written =>
          obtain ⟨hold, row, source, held, same, captured, level, named, -⟩ := allowed
          obtain ⟨stored, current, sourced, passes⟩ := written.current
          subst same
          refine .inr ⟨_, row, source, stored, read.captured hold row held captured, ?_, named, current,
            sourced, passes.trans level.symm⟩
          intro other otherRow has
          obtain ⟨here, also⟩ := read.behind hold held other otherRow has
          rw [captured] at also
          exact ⟨here, (Option.some.inj also).symm⟩

/-- A commit that is accepted is of the one row its task has read, and finds that generation. -/
theorem accepted_commit (shades : Shades pollConduct state shadow) (reads : Reads agree events shadow)
    {walk : Walk} {projectId : String} {generation count : Nat} {step : PollStep}
    (moved : Moves ingest state (.answered id (.commit walk projectId generation step) (.ok (some count)))
      next) :
    ∃ row stored, HasRead events id projectId row ∧ (∀ other, HasRead events id projectId other → other = row) ∧
      row.ingestGeneration = generation ∧ state.world.db.projects.get projectId = some stored ∧
      stored.ingestGeneration = generation := by
  cases moved with
  | answered _ task _ rest env _ world found running asks ready ran =>
      obtain ⟨actor, present, follower⟩ := shades.follows id task found
      have read := reads.grips id actor present
      have allowed : pollAllowed actor.ghost (.commit walk projectId generation step) := by
        have follows := follower.2.2
        rw [asks] at follows
        exact follows.1
      obtain ⟨hold, row, source, held, same, captured, level, -, -⟩ := allowed
      have passes : fenced projectId generation state.world.db = false := by
        have ran' : Op.exec id state.fresh (.commit walk projectId generation step) env state.world =
          some (.ok (some count), world) := ran
        simp only [Op.exec] at ran'
        rcases under_weather ran' with ⟨⟨error, raised⟩, -⟩ | ⟨value, committed, answered⟩
        · cases raised
        · obtain ⟨⟨inserted, db⟩, wrote, same⟩ := Option.map_eq_some_iff.mp committed
          cases same
          cases answered
          cases shut : fenced projectId generation state.world.db with
          | false => rfl
          | true => cases (commit_behind_fence shut wrote).1
      obtain ⟨stored, current, -, stands⟩ := fence_open passes
      subst same
      refine ⟨row, stored, read.captured hold row held captured, fun other has => ?_, level, current, stands⟩
      have also := (read.behind hold held _ other has).2
      rw [captured] at also
      exact (Option.some.inj also).symm

end Writes

/-- The project has left this generation, its source, or the database. -/
def Outdated (projectId : String) (generation : Nat) (db : Database) : Prop :=
  ∀ stored, db.projects.get projectId = some stored →
    stored.ingestSource = none ∨ stored.ingestGeneration ≠ generation

/-- Once the row that a poll has read is outdated, no later step of the poll writes anything. -/
def StaleWritesNothing (allowed : Sys → Ev → Prop) (db : Database) (settings : Settings) : Prop :=
  ∀ past rest (middle last next : Sys) id task op answer projectId row wanted full,
    Guarded (Moves ingest) (fun _ => allowed) (State.boot (World.initial db settings)) past middle →
    HasRead past id projectId row → Outdated projectId row.ingestGeneration middle.world.db →
    Guarded (Moves ingest) (fun _ => allowed) middle rest last →
    last.tasks id = some task → task.job = .poll wanted full →
    Moves ingest last (.answered id op answer) next → next.world.db = last.world.db

theorem left_behind {projectId : String} {row : ProjectRow} {middle last : Sys} {rest : List Ev}
    (behind : Seen (fun _ _ => False) projectId row middle.world.db middle.world.drawn)
    (run : Run ingest middle rest last) :
    Seen (fun _ _ => False) projectId row last.world.db last.world.drawn := by
  have survives : Survives (fun _ _ => False) fun _ _ _ => True := fun _ _ _ _ _ _ never => never
  refine @Path.keeps _ _ _
    (fun state => Seen (fun _ _ => False) projectId row state.world.db state.world.drawn) _ _ _ run behind ?_
  intro before event after moves held
  cases moves with
  | answered id task op rest env answer world found running asks ready ran =>
      exact held.moves survives
        (exec_moves (show Op.exec id before.fresh op env before.world = some (answer, world) from ran))
        (unjudged _ op answer)
  | _ => exact held

/-- Every checkpoint is of a project that is there, at its generation; and a poll writes nothing
once its project has left it behind, as long as no update that repeats the source it has read
clears another one that is stored. -/
theorem stale_poll_writes_nothing (db : Database) (settings : Settings) (start : Checkpointed db) :
    (∀ events last, Run ingest (State.boot (World.initial db settings)) events last →
      Checkpointed last.world.db) ∧
    StaleWritesNothing (JudgedEvent unclearing) db settings := by
  refine ⟨fun events last run => checkpointed_run start run, ?_⟩
  intro past rest middle last next id task op answer projectId row wanted full before has outdated later
    found polling moved
  obtain ⟨shadow, shades, reads⟩ := reads_run lasts_source before
  have whole : Guarded (Moves ingest) (fun _ => JudgedEvent fun _ _ _ => True)
      (State.boot (World.initial db settings)) (past ++ rest) last :=
    (before.path.trans later.path).guarded_by fun event _ _ state => by
      cases event with
      | answered id op answer => exact unjudged _ op answer
      | _ => trivial
  obtain ⟨shadow', shades', reads'⟩ := reads_run lasts_nothing whole
  rcases poll_writes shades' reads' moved found polling with kept |
    ⟨captured, capturedRow, source, stored, -, only, named, current, sourced, level⟩
  · exact kept
  · obtain ⟨rfl, rfl⟩ := only projectId row (List.mem_append_left _ has)
    have seen := reads.seen id projectId row has
    rw [← shades.world] at seen
    have behind : Seen (fun _ _ => False) projectId row middle.world.db middle.world.drawn := by
      refine ⟨seen.drawn, fun now present => ?_⟩
      rcases seen.current now present with ahead | ⟨same, agrees⟩
      · exact .inl ahead
      · rcases outdated now present with cleared | moved
        · have kept := agrees (by simp [named])
          rw [cleared] at kept
          cases kept
        · exact absurd same.symm moved
    rcases (left_behind behind later.path).current stored current with ahead | ⟨-, never⟩
    · omega
    · exact never.elim

/-- A poll waits for its page while the project's source is replaced. -/
def replaced : GuardedScript ingest (Scenario.boot (Scenario.source "https://a"))
    fun _ _ => Scenario.differing :=
  ⟨Scenario.polling 0 ++ Scenario.patched 1 "https://b", by decide +kernel⟩

def replacedPage : GuardedScript ingest replaced.last fun _ _ => Scenario.differing :=
  ⟨Scenario.steps 0 none 2, by decide +kernel⟩

def replacedCommit : Scene ingest replacedPage.last :=
  ⟨.advance 0 (Scenario.outside none), by decide +kernel⟩

theorem database_checkpointed (pair : Option (String × IngestConfig)) :
    Checkpointed (Scenario.database pair) := fun _ member => absurd member List.not_mem_nil

theorem stale_poll_writes_nothing_replaced :
    replacedCommit.next.world.db = replacedPage.last.world.db := by
  obtain ⟨row, has, level⟩ : ∃ row, HasRead replaced.events 0 "p" row ∧ row.ingestGeneration = 0 :=
    Scenario.has_read (by decide +kernel)
  obtain ⟨op, answer, moved⟩ : ∃ op answer,
      Moves ingest replacedPage.last (.answered 0 op answer) replacedCommit.next :=
    Scenario.answering_moves replacedCommit (by decide +kernel)
  obtain ⟨task, wanted, full, found, polls⟩ :
      ∃ task wanted full, replacedPage.last.tasks 0 = some task ∧ task.job = .poll wanted full :=
    Scenario.poll_task (by decide +kernel)
  have outdated : Outdated "p" row.ingestGeneration replaced.last.world.db := by
    have stands : (replaced.last.world.db.projects.get "p").map ProjectRow.ingestGeneration = some 1 := by
      decide +kernel
    intro stored current
    rw [current, Option.map_some, Option.some.injEq] at stands
    right
    omega
  have judged : ∀ (_ : List Ev) (state : Sys) (event : Ev), Scenario.differing event →
      JudgedEvent unclearing state event :=
    fun _ _ _ => Scenario.differing_judged fun _ _ _ differs repeats => absurd repeats differs
  have stays := (stale_poll_writes_nothing _ Scenario.settings
    (database_checkpointed (Scenario.source "https://a"))).2
  exact stays _ _ _ _ _ 0 task op answer "p" row wanted full
    (replaced.run.mono judged) has outdated (replacedPage.run.mono judged) found polls moved

/-- A request that found no source waits to repeat that; the source is set; another request
waits to repeat it; a poll waits for its page; and the first request clears the source. -/
def cleared : Script ingest (Scenario.boot none) :=
  ⟨.start Scenario.clear :: Scenario.steps 0 none 3 ++ Scenario.patched 1 "https://a" ++
      .start Scenario.patch :: Scenario.steps 2 (Scenario.source "https://a") 3 ++
      Scenario.polling 3 ++ Scenario.steps 0 none 1,
    by decide +kernel⟩

/-- The other request sets it again, and the page arrives. -/
def clearedPage : Script ingest cleared.last :=
  ⟨Scenario.steps 2 (Scenario.source "https://a") 1 ++ Scenario.steps 3 none 2, by decide +kernel⟩

def clearedCommit : Scene ingest clearedPage.last :=
  ⟨.advance 3 (Scenario.outside none), by decide +kernel⟩

/-- Of any updates it does not hold: the page of a source that was cleared is imported. -/
theorem cleared_poll_imports :
    ¬∀ db settings, Checkpointed db →
      (∀ events last, Run ingest (State.boot (World.initial db settings)) events last →
        Checkpointed last.world.db) ∧
      StaleWritesNothing (fun _ _ => True) db settings := by
  intro claim
  obtain ⟨row, has, level⟩ : ∃ row, HasRead cleared.events 3 "p" row ∧ row.ingestGeneration = 1 :=
    Scenario.has_read (by decide +kernel)
  obtain ⟨op, answer, moved⟩ : ∃ op answer,
      Moves ingest clearedPage.last (.answered 3 op answer) clearedCommit.next :=
    Scenario.answering_moves clearedCommit (by decide +kernel)
  obtain ⟨task, wanted, full, found, polls⟩ :
      ∃ task wanted full, clearedPage.last.tasks 3 = some task ∧ task.job = .poll wanted full :=
    Scenario.poll_task (by decide +kernel)
  have outdated : Outdated "p" row.ingestGeneration cleared.last.world.db := by
    have stands : (cleared.last.world.db.projects.get "p").map ProjectRow.ingestSource = some none := by
      decide +kernel
    intro stored current
    rw [current, Option.map_some, Option.some.injEq] at stands
    exact .inl stands
  have kept := (claim (Scenario.database none) Scenario.settings (database_checkpointed none)).2 _ _ _ _ _ 3
    task op answer "p" row wanted full cleared.run.guarded has outdated clearedPage.run.guarded
    found polls moved
  have imports : clearedCommit.next.world.db.reports.rows.length = 1 ∧
      clearedPage.last.world.db.reports.rows.length = 0 := by decide +kernel
  rw [kept] at imports
  omega

end Bugalizer.Ingest
