import Bugalizer.Ingest.Stale

/-!
# Replaced sources

A project's source changes with its generation, as long as no update repeats a source it has
read over another one that was stored in between; and then what a poll imports is of the source
it has read.
-/

namespace Bugalizer.Ingest

set_option autoImplicit false

open Store Coroutine Program

/-- The source of a project changes with its generation, and without a checkpoint. -/
def IdentityLaw (before after : Database) : Prop :=
  ∀ id row row', before.projects.get id = some row → after.projects.get id = some row' →
    row'.polled ≠ row.polled →
      row'.ingestGeneration = row.ingestGeneration + 1 ∧ after.states.get id = none

/-- What a commit imports, and the cursor it keeps, are of the source that is stored. -/
def OwnSource (past : List Ev) (state : Sys) (event : Ev) : Prop :=
  ∀ id walk projectId generation step count,
    event = .answered id (.commit walk projectId generation step) (.ok (some count)) →
    ∃ row stored, HasRead past id projectId row ∧ (∀ other, HasRead past id projectId other → other = row) ∧
      row.ingestGeneration = generation ∧ state.world.db.projects.get projectId = some stored ∧
      stored.polled = row.polled

/-- What a step must keep. -/
def SourceKept (past : List Ev) (state : Sys) (event : Ev) (next : Sys) : Prop :=
  IdentityLaw state.world.db next.world.db ∧ OwnSource past state event

theorem identity_same (db : Database) : IdentityLaw db db := by
  intro id row row' found found' differs
  rw [found] at found'
  cases found'
  exact absurd rfl differs

theorem identity_moves {before after : Database} {drawn drawn' : List String} {op : Op}
    {answer : Except Exn op.Ans} (moves : DbMoves before drawn op answer after drawn')
    (judged : Judged steady before op answer) : IdentityLaw before after := by
  intro id row row' found found' differs
  rcases moves_project moves found' with kept | ⟨old, existing, fields, stored, rfl, sounds, dropped⟩ |
    ⟨missing, -, -⟩
  · rw [found] at kept
    cases kept
    exact absurd rfl differs
  · rw [found] at stored
    cases stored
    cases changed : ingestChanged fields existing with
    | true => exact ⟨rfl, dropped changed⟩
    | false =>
        rw [changed] at differs
        exact absurd (sounds steady judged (unchanged_repeats changed)) differs
  · rw [found] at missing
    cases missing

/-- In a run whose updates are steady, every source is replaced with its generation, and a poll
that is not fenced off finds the source it has read. -/
theorem replaced_source_moves_generation (db : Database) (settings : Settings) :
    ∀ past (state next : Sys) event,
      Guarded (Moves ingest) (fun _ => JudgedEvent steady) (State.boot (World.initial db settings)) past
        state →
      JudgedEvent steady state event → Moves ingest state event next → SourceKept past state event next := by
  intro past state next event before judged moved
  obtain ⟨shadow, shades, reads⟩ := reads_run lasts_polled before
  constructor
  · cases moved with
    | answered id task op rest env answer world found running asks ready ran =>
        exact identity_moves
          (exec_moves (show Op.exec id state.fresh op env state.world = some (answer, world) from ran)) judged
    | _ => exact identity_same _
  · intro id walk projectId generation step count same
    subst same
    obtain ⟨row, stored, has, only, level, current, stands⟩ := accepted_commit shades reads moved
    refine ⟨row, stored, has, only, level, current, ?_⟩
    have seen := reads.seen id projectId row has
    rw [← shades.world] at seen
    rcases seen.current stored current with ahead | ⟨-, agrees⟩
    · omega
    · exact agrees

/-- A request has read the project before it sets another source. -/
def patchedOnce : GuardedScript ingest (Scenario.boot (Scenario.source "https://a"))
    fun _ _ => Scenario.differing :=
  ⟨.start Scenario.patch :: Scenario.steps 0 (Scenario.source "https://b") 3, by decide +kernel⟩

def patchedUpdate : Scene ingest patchedOnce.last :=
  ⟨.advance 0 (Scenario.outside none), by decide +kernel⟩

theorem replaced_source_moves_generation_patched :
    SourceKept patchedOnce.events patchedOnce.last patchedUpdate.event patchedUpdate.next ∧
      (patchedUpdate.next.world.db.projects.get "p").map ProjectRow.ingestGeneration = some 1 := by
  have judged : ∀ (state : Sys) (event : Ev), Scenario.differing event → JudgedEvent steady state event :=
    fun _ _ => Scenario.differing_judged fun _ _ _ differs repeats => absurd repeats differs
  have differs : Scenario.differing patchedUpdate.event := by decide +kernel
  exact ⟨replaced_source_moves_generation _ _ _ _ _ _ (patchedOnce.run.mono fun _ => judged)
      (judged _ _ differs) patchedUpdate.moves,
    by decide +kernel⟩

/-- A request has read the project before another one replaces its source. -/
def overtaken : Script ingest (Scenario.boot (Scenario.source "https://a")) :=
  ⟨.start Scenario.patch :: Scenario.steps 0 (Scenario.source "https://a") 3 ++
      Scenario.patched 1 "https://b",
    by decide +kernel⟩

def overtakenUpdate : Scene ingest overtaken.last :=
  ⟨.advance 0 (Scenario.outside none), by decide +kernel⟩

/-- Of any updates it does not hold: the first request puts the old source back and leaves the
generation of the new one. -/
theorem overtaken_update_keeps_generation :
    ¬∀ db settings past (state next : Sys) event,
      Run ingest (State.boot (World.initial db settings)) past state →
      Moves ingest state event next → SourceKept past state event next := by
  intro claim
  have kept := (claim _ _ _ _ _ _ overtaken.run overtakenUpdate.moves).1
  have before : (overtaken.last.world.db.projects.get "p").map (fun row =>
      (row.ingestGeneration, row.ingestConfig)) = some (1, some (Scenario.config "https://b")) := by
    decide +kernel
  have after : (overtakenUpdate.next.world.db.projects.get "p").map (fun row =>
      (row.ingestGeneration, row.ingestConfig)) = some (1, some (Scenario.config "https://a")) := by
    decide +kernel
  obtain ⟨row, found, same⟩ := Option.map_eq_some_iff.mp before
  obtain ⟨row', found', same'⟩ := Option.map_eq_some_iff.mp after
  obtain ⟨level, config⟩ := Prod.mk.inj same
  obtain ⟨level', config'⟩ := Prod.mk.inj same'
  have differs : row'.polled ≠ row.polled := by
    simp only [ProjectRow.polled, config, config']
    simp [pollIdentity, Scenario.config]
  have moved := (kept "p" row row' found found' differs).1
  omega

end Bugalizer.Ingest
