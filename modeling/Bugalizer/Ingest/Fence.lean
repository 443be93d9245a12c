import Bugalizer.Ingest.Polling

/-!
# The fence

What was read of a project once, by anyone, is either still the generation that is stored, or
behind it; and a generation that is not behind agrees with what was read, as far as the updates
that left the generation alone were sound.
-/

namespace Bugalizer.Ingest

set_option autoImplicit false

open Store Coroutine Program

def IngestFields.Repeats (fields : IngestFields) (row : ProjectRow) : Prop :=
  (fields.write row).polled = row.polled

instance (fields : IngestFields) (row : ProjectRow) : Decidable (fields.Repeats row) :=
  inferInstanceAs (Decidable ((fields.write row).polled = row.polled))

theorem unchanged_repeats {fields : IngestFields} {row : ProjectRow}
    (unchanged : ingestChanged fields row = false) : fields.Repeats row := by
  unfold ingestChanged at unchanged
  rcases Bool.and_eq_false_iff.mp unchanged with untouched | same
  · obtain ⟨source, config⟩ := Bool.or_eq_false_iff.mp untouched
    simp only [Option.isSome_eq_false_iff, Option.isNone_iff_eq_none] at source config
    simp [IngestFields.Repeats, IngestFields.write, source, config]
  · exact Decidable.of_not_not (of_decide_eq_false same)

/-- An update that commits is sound for the row it finds stored. -/
def Judged (sound : IngestFields → ProjectRow → ProjectRow → Prop) (db : Database) (op : Op)
    (answer : Except Exn op.Ans) : Prop :=
  match op, answer with
  | .projectUpdate id existing fields, .ok _ =>
      ∀ stored, db.projects.get id = some stored → sound fields existing stored
  | _, _ => True

/-- The same of a step of the machine. -/
def JudgedEvent (sound : IngestFields → ProjectRow → ProjectRow → Prop) (state : Sys) : Ev → Prop
  | .answered _ op answer => Judged sound state.world.db op answer
  | _ => True

theorem unjudged (db : Database) (op : Op) (answer : Except Exn op.Ans) :
    Judged (fun _ _ _ => True) db op answer := by
  unfold Judged
  split
  · exact fun _ _ => trivial
  · trivial

/-- An update that repeats the source it has read repeats the stored one. -/
def steady (fields : IngestFields) (existing stored : ProjectRow) : Prop :=
  fields.Repeats existing → fields.Repeats stored

/-- An update that repeats the source it has read does not clear a stored one. -/
def unclearing (fields : IngestFields) (existing stored : ProjectRow) : Prop :=
  fields.Repeats existing → stored.ingestSource.isSome = true →
    (fields.write stored).ingestSource.isSome = true

theorem leftover_projects (leftover : Leftover) (id : String) (db : Database) :
    (leftover.apply id db).projects = db.projects := by
  cases leftover <;> rfl

theorem project_delete_rows {id : String} {before after : Database}
    (gone : projectDelete id before = some after) :
    after.projects = before.projects.delete id (fun _ => true) ∧
      after.states = before.states.delete id fun _ => true := by
  unfold projectDelete at gone
  dsimp only at gone
  split at gone
  · cases gone
  · cases gone
    exact ⟨rfl, rfl⟩

/-- The row of a project after an operation: the one before, that one updated, or a new one. -/
theorem moves_project {before after : Database} {drawn drawn' : List String} {op : Op}
    {answer : Except Exn op.Ans} (moves : DbMoves before drawn op answer after drawn') {id : String}
    {current : ProjectRow} (found : after.projects.get id = some current) :
    before.projects.get id = some current ∨
      (∃ old existing fields, before.projects.get id = some old ∧
        current = fields.apply (ingestChanged fields existing) old ∧
        (∀ sound, Judged sound before op answer → sound fields existing old) ∧
        (ingestChanged fields existing = true → after.states.get id = none)) ∨
      before.projects.get id = none ∧ id ∉ drawn ∧ id ∈ drawn' := by
  cases moves with
  | kept | filed | marked => exact .inl found
  | committed walk projectId generation step count after written =>
      rw [written.projects] at found
      exact .inl found
  | leftover target error leftover =>
      rw [leftover_projects] at found
      exact .inl found
  | updated target existing fields =>
      by_cases same : id = target
      · subst same
        simp only [projectUpdate, Table.get_update_same, if_true, Option.map_eq_some_iff] at found
        obtain ⟨old, stored, rfl⟩ := found
        refine .inr (.inl ⟨old, existing, fields, stored, rfl, fun sound judged => judged old stored,
          fun changed => ?_⟩)
        simp only [projectUpdate, changed, if_true]
        rw [Table.get_delete]
        exact Option.filter_eq_none_iff.mpr fun _ _ => by simp
      · simp only [projectUpdate, Table.get_update_other _ _ _ _ same] at found
        exact .inl found
  | created target source config projects fresh inserted =>
      rw [Table.get_insert inserted] at found
      split at found
      · rename_i same
        cases same
        exact .inr (.inr ⟨Table.insert_free inserted, fresh, List.mem_cons_self⟩)
      · exact .inl found
  | deleted target after gone =>
      rw [(project_delete_rows gone).1, Table.get_delete] at found
      exact .inl (Option.filter_eq_some_iff.mp found).1

theorem moves_drawn {before after : Database} {drawn drawn' : List String} {op : Op}
    {answer : Except Exn op.Ans} (moves : DbMoves before drawn op answer after drawn') :
    ∀ id ∈ drawn, id ∈ drawn' := by
  intro id member
  cases moves with
  | created target source config projects fresh inserted => exact List.mem_cons_of_mem _ member
  | _ => exact member

section Seen

variable {agree : ProjectRow → ProjectRow → Prop} {sound : IngestFields → ProjectRow → ProjectRow → Prop}

/-- A row that was read of a project: the stored one is ahead of it, or agrees with it. -/
structure Seen (agree : ProjectRow → ProjectRow → Prop) (projectId : String) (row : ProjectRow)
    (db : Database) (drawn : List String) : Prop where
  drawn : projectId ∈ drawn
  current : ∀ current, db.projects.get projectId = some current →
    row.ingestGeneration < current.ingestGeneration ∨
      row.ingestGeneration = current.ingestGeneration ∧ agree row current

/-- What is agreed on survives the updates that are sound and leave the generation alone. -/
def Survives (agree : ProjectRow → ProjectRow → Prop)
    (sound : IngestFields → ProjectRow → ProjectRow → Prop) : Prop :=
  ∀ fields existing row old, sound fields existing old → fields.Repeats existing →
    agree row old → agree row (fields.write old)

structure Lasts (agree : ProjectRow → ProjectRow → Prop)
    (sound : IngestFields → ProjectRow → ProjectRow → Prop) : Prop where
  fresh : ∀ row, agree row row
  survives : Survives agree sound

theorem Seen.moves (survives : Survives agree sound) {projectId : String} {row : ProjectRow}
    {before after : Database} {drawn drawn' : List String} {op : Op} {answer : Except Exn op.Ans}
    (seen : Seen agree projectId row before drawn) (moves : DbMoves before drawn op answer after drawn')
    (judged : Judged sound before op answer) : Seen agree projectId row after drawn' := by
  refine ⟨moves_drawn moves _ seen.drawn, fun current found => ?_⟩
  rcases moves_project moves found with kept | ⟨old, existing, fields, stored, rfl, sounds, -⟩ | ⟨-, fresh, -⟩
  · exact seen.current current kept
  · have ahead := seen.current old stored
    cases changed : ingestChanged fields existing with
    | true =>
        left
        simp only [IngestFields.apply, if_true]
        omega
    | false =>
        rcases ahead with behind | ⟨level, agrees⟩
        · exact .inl behind
        · exact .inr ⟨level, survives _ _ _ _ (sounds sound judged) (unchanged_repeats changed) agrees⟩
  · exact absurd seen.drawn fresh

theorem lasts_polled : Lasts (fun row current => current.polled = row.polled) steady where
  fresh _ := rfl
  survives _ _ _ _ sounds repeats agrees := (sounds repeats).trans agrees

theorem lasts_source :
    Lasts (fun row current => row.ingestSource.isSome = true → current.ingestSource.isSome = true)
      unclearing where
  fresh _ named := named
  survives _ _ _ _ sounds repeats agrees named := sounds repeats (agrees named)

/-- Nothing is asked of an update, and nothing but the generation is known. -/
theorem lasts_nothing : Lasts (fun _ _ => True) fun _ _ _ => True where
  fresh _ := trivial
  survives _ _ _ _ _ _ _ := trivial

end Seen

section Reads

variable {agree : ProjectRow → ProjectRow → Prop} {sound : IngestFields → ProjectRow → ProjectRow → Prop}

def HasRead (events : List Ev) (id : Nat) (projectId : String) (row : ProjectRow) : Prop :=
  .answered id (.projectGet projectId) (.ok (some row)) ∈ events

/-- What a task has read, by its grip: a poll reads at most once, and has what it read. -/
structure Read (events : List Ev) (id : Nat) (grip : Grip) : Prop where
  before : grip.outside = true → ∀ projectId row, ¬HasRead events id projectId row
  behind : ∀ hold, grip.hold = some hold → ∀ projectId row, HasRead events id projectId row →
    projectId = hold.projectId ∧ hold.captured = some row
  captured : ∀ hold row, grip.hold = some hold → hold.captured = some row →
    HasRead events id hold.projectId row

structure Reads (agree : ProjectRow → ProjectRow → Prop) (events : List Ev)
    (shadow : Shadow Op pollConduct.Ghost World Job) : Prop where
  seen : ∀ id projectId row, HasRead events id projectId row →
    Seen agree projectId row shadow.world.db shadow.world.drawn
  known : ∀ id row, shadow.world.db.projects.get id = some row → id ∈ shadow.world.drawn
  young : ∀ id op answer, .answered id op answer ∈ events → id < shadow.fresh
  live : ∀ id actor, shadow.actors id = some actor → id < shadow.fresh
  grips : ∀ id actor, shadow.actors id = some actor → Read events id actor.ghost
  polls : ∀ id actor projectId full, shadow.actors id = some actor →
    actor.job = .poll projectId full → actor.ghost.polling = true

theorem has_read_later {events : List Ev} {event : Ev} {id : Nat} {projectId : String} {row : ProjectRow} :
    HasRead (events ++ [event]) id projectId row ↔
      HasRead events id projectId row ∨
        event = .answered id (.projectGet projectId) (.ok (some row)) := by
  simp [HasRead, eq_comm]

theorem has_read_unread {events : List Ev} {event : Ev} {id : Nat} {projectId : String} {row : ProjectRow}
    (other : event ≠ .answered id (.projectGet projectId) (.ok (some row))) :
    HasRead (events ++ [event]) id projectId row ↔ HasRead events id projectId row := by
  rw [has_read_later]
  exact or_iff_left other

theorem Read.other {events : List Ev} {event : Ev} {id : Nat} {grip : Grip} (read : Read events id grip)
    (other : ∀ projectId row, event ≠ .answered id (.projectGet projectId) (.ok (some row))) :
    Read (events ++ [event]) id grip where
  before outside projectId row has :=
    read.before outside projectId row ((has_read_unread (other projectId row)).mp has)
  behind hold held projectId row has :=
    read.behind hold held projectId row ((has_read_unread (other projectId row)).mp has)
  captured hold row held has := has_read_later.mpr (.inl (read.captured hold row held has))

theorem Read.unread {events : List Ev} {id : Nat} {grip : Grip}
    (none_read : ∀ projectId row, ¬HasRead events id projectId row)
    (none_captured : ∀ hold, grip.hold = some hold → hold.captured = none) : Read events id grip where
  before _ projectId row has := none_read projectId row has
  behind _ _ projectId row has := absurd has (none_read projectId row)
  captured hold row held has := by
    rw [none_captured hold held] at has
    cases has

theorem Read.move {events : List Ev} {id : Nat} {grip : Grip} (read : Read events id grip)
    (change : Nat → Position → Position) : Read events id (grip.move change) where
  before := read.before
  behind hold held projectId row has := by
    obtain ⟨old, stood, rfl⟩ := Option.map_eq_some_iff.mp held
    exact read.behind old stood projectId row has
  captured hold row held has := by
    obtain ⟨old, stood, rfl⟩ := Option.map_eq_some_iff.mp held
    exact read.captured old row stood has

/-- The operations after which a poll may hold something else. -/
def Op.gripped : Op → Bool
  | acquire _ | release _ | projectGet _ => true
  | _ => false

theorem next_moves (grip : Grip) {op : Op} (answer : Except Exn op.Ans) (still : op.gripped = false) :
    pollNext grip op answer = grip ∨ ∃ change, pollNext grip op answer = grip.move change := by
  unfold pollNext
  split
  case h_1 | h_2 | h_3 => cases still
  case h_4 | h_5 | h_7 => exact .inr ⟨_, rfl⟩
  case h_6 =>
    split
    · exact .inr ⟨_, rfl⟩
    · exact .inl rfl
  case h_8 => exact .inl rfl

/-- One read is added by a `project_get` alone, and a poll that captures has read nothing yet. -/
theorem Read.next {events : List Ev} {id : Nat} {grip : Grip} {op : Op} (read : Read events id grip)
    (allowed : pollAllowed grip op) (answer : Except Exn op.Ans) :
    Read (events ++ [.answered id op answer]) id (pollNext grip op answer) := by
  have unread (apart : ∀ wanted, op ≠ .projectGet wanted) :
      Read (events ++ [.answered id op answer]) id grip :=
    read.other fun wanted row same => by
      cases same
      exact apart wanted rfl
  cases op with
  | projectGet wanted =>
      obtain ⟨inside, captures⟩ := allowed
      cases answer with
      | error error => exact read.other fun _ _ same => by cases same
      | ok found =>
          refine ⟨fun outside => ?_, fun hold held projectId row has => ?_, fun hold row held has => ?_⟩
          · rw [show grip.outside = true from outside] at inside
            cases inside
          · obtain ⟨old, stood, rfl⟩ := Option.map_eq_some_iff.mp held
            obtain ⟨here, uncaptured⟩ := captures old stood
            rcases has_read_later.mp has with earlier | now
            · rw [(read.behind old stood projectId row earlier).2] at uncaptured
              cases uncaptured
            · cases now
              exact ⟨here.symm, rfl⟩
          · obtain ⟨old, stood, rfl⟩ := Option.map_eq_some_iff.mp held
            have same : found = some row := has
            rw [same, ← (captures old stood).1]
            exact has_read_later.mpr (.inr rfl)
  | acquire wanted =>
      cases answer with
      | error error => exact read.other fun _ _ same => by cases same
      | ok locked =>
          refine Read.unread (fun projectId row has => ?_) fun hold held => ?_
          · exact read.before allowed.1 projectId row
              ((has_read_unread fun same => by cases same).mp has)
          · cases held
            rfl
  | release wanted =>
      refine ⟨fun outside projectId row has => ?_, fun hold held => (by cases held),
        fun hold row held => by cases held⟩
      exact read.before outside projectId row ((has_read_unread fun same => by cases same).mp has)
  | _ =>
      have still := unread fun wanted same => by cases same
      rcases next_moves grip answer rfl with same | ⟨change, same⟩
      · rw [same]
        exact still
      · rw [same]
        exact still.move change

theorem next_polling (grip : Grip) (op : Op) (answer : Except Exn op.Ans) :
    (pollNext grip op answer).polling = grip.polling := by
  unfold pollNext
  split
  all_goals try rfl
  split <;> rfl

theorem read_stored {self fresh : Nat} {projectId : String} {env : Op.Env (.projectGet projectId)}
    {before after : World} {row : Option ProjectRow}
    (ran : Op.exec self fresh (.projectGet projectId) env before = some (.ok row, after)) :
    after = before ∧ before.db.projects.get projectId = row := by
  simp only [Op.exec] at ran
  rcases under_weather ran with ⟨⟨error, raised⟩, -⟩ | ⟨value, committed, same⟩
  · cases raised
  · cases committed
    cases same
    exact ⟨rfl, rfl⟩

theorem Reads.answered (lasts : Lasts agree sound) {events : List Ev}
    {shadow : Shadow Op pollConduct.Ghost World Job} (reads : Reads agree events shadow) {id : Nat}
    {actor : Actor Op pollConduct.Ghost Job} {op : Op} {env : op.Env} {answer : Except Exn op.Ans}
    {world : World} (found : shadow.actors id = some actor) (allowed : pollAllowed actor.ghost op)
    (judged : Judged sound shadow.world.db op answer)
    (ran : op.exec id shadow.fresh env shadow.world = some (answer, world)) :
    Reads agree (events ++ [.answered id op answer])
      (shadow.resume pollConduct id actor op answer world) where
  seen reader projectId row has := by
    rcases has_read_later.mp has with earlier | now
    · exact (reads.seen reader projectId row earlier).moves lasts.survives (exec_moves ran) judged
    · cases now
      obtain ⟨rfl, stored⟩ := read_stored ran
      refine ⟨reads.known projectId row stored, fun current present => .inr ?_⟩
      rw [show shadow.world.db.projects.get projectId = some current from present] at stored
      cases stored
      exact ⟨rfl, lasts.fresh row⟩
  known projectId row stored := by
    rcases moves_project (exec_moves ran) stored with kept | ⟨old, -, -, kept, -⟩ | ⟨-, -, fresh⟩
    · exact moves_drawn (exec_moves ran) _ (reads.known projectId row kept)
    · exact moves_drawn (exec_moves ran) _ (reads.known projectId old kept)
    · exact fresh
  young other op' answer' member := by
    rcases List.mem_append.mp member with earlier | now
    · exact reads.young other op' answer' earlier
    · cases List.mem_singleton.mp now
      exact reads.live id actor found
  live other actor' present := by
    by_cases same : other = id
    · subst same
      exact reads.live other actor found
    · simp only [Shadow.resume, Function.update_of_ne same] at present
      exact reads.live other actor' present
  grips other actor' present := by
    by_cases same : other = id
    · subst same
      simp only [Shadow.resume, Function.update_self, Option.some.injEq] at present
      subst present
      exact (reads.grips other actor found).next allowed answer
    · simp only [Shadow.resume, Function.update_of_ne same] at present
      exact (reads.grips other actor' present).other fun _ _ now => by
        cases now
        exact same rfl
  polls other actor' projectId full present poll := by
    by_cases same : other = id
    · subst same
      simp only [Shadow.resume, Function.update_self, Option.some.injEq] at present
      subst present
      exact (next_polling _ op answer).trans (reads.polls other actor projectId full found poll)
    · simp only [Shadow.resume, Function.update_of_ne same] at present
      exact reads.polls other actor' projectId full present poll

theorem quiet_world {shadow after : Shadow Op pollConduct.Ghost World Job} {event : Ev}
    (moves : ShadowMoves pollConduct shadow event after)
    (quiet : ∀ id op answer, event ≠ .answered id op answer) :
    after.world.db = shadow.world.db ∧ after.world.drawn = shadow.world.drawn := by
  cases moves with
  | answered id actor op env answer world found running allowed ready pending ran =>
      exact absurd rfl (quiet id op answer)
  | _ => exact ⟨rfl, rfl⟩

theorem unheld_initially (settings : Settings) (job : Job) : (job.grip settings).hold = none := by
  cases job <;> rfl

theorem Reads.moved (lasts : Lasts agree sound) {events : List Ev} {event : Ev}
    {shadow after : Shadow Op pollConduct.Ghost World Job} (reads : Reads agree events shadow)
    (moves : ShadowMoves pollConduct shadow event after)
    (judged : ∀ id op answer, event = .answered id op answer →
      Judged sound shadow.world.db op answer) : Reads agree (events ++ [event]) after := by
  by_cases quiet : ∀ id op answer, event ≠ .answered id op answer
  · have earlier {id : Nat} {op : Op} {answer : Except Exn op.Ans}
        (member : .answered id op answer ∈ events ++ [event]) : .answered id op answer ∈ events := by
      rcases List.mem_append.mp member with earlier | now
      · exact earlier
      · exact absurd (List.mem_singleton.mp now).symm (quiet id op answer)
    obtain ⟨older, actors⟩ := moves.quiet quiet
    obtain ⟨db, drawn⟩ := quiet_world moves quiet
    refine ⟨fun id projectId row has => ?_, fun id row stored => ?_, fun id op answer member => ?_,
      fun id actor present => ?_, fun id actor present => ?_,
      fun id actor projectId full present poll => ?_⟩
    · rw [db, drawn]
      exact reads.seen id projectId row (earlier has)
    · rw [db] at stored
      rw [drawn]
      exact reads.known id row stored
    · exact lt_of_lt_of_le (reads.young id op answer (earlier member)) older
    · rcases actors id actor present with ⟨old, stood, -, -⟩ | ⟨-, young, -⟩
      · exact lt_of_lt_of_le (reads.live id old stood) older
      · exact young
    · rcases actors id actor present with ⟨old, stood, -, same⟩ | ⟨new, -, initial⟩
      · rw [← same]
        exact (reads.grips id old stood).other fun projectId row => quiet id _ _
      · refine Read.unread (fun projectId row has => ?_) fun hold held => ?_
        · exact absurd (reads.young id _ _ (earlier has)) (by omega)
        · rw [initial, unheld_initially] at held
          cases held
    · rcases actors id actor present with ⟨old, stood, job, same⟩ | ⟨-, -, initial⟩
      · rw [← same]
        exact reads.polls id old projectId full stood (job.trans poll)
      · rw [initial, poll]
        rfl
  · push Not at quiet
    obtain ⟨id, op, answer, rfl⟩ := quiet
    cases moves with
    | answered id actor op env answer world found running allowed ready pending ran =>
        exact reads.answered lasts found allowed (judged id op answer rfl) ran

theorem reads_run (lasts : Lasts agree sound) {db : Database} {settings : Settings} {events : List Ev}
    {last : Sys}
    (run : Guarded (Moves ingest) (fun _ => JudgedEvent sound) (State.boot (World.initial db settings))
      events last) :
    ∃ shadow, Shades pollConduct last shadow ∧ Reads agree events shadow := by
  refine run.shadowed ?_ ?_
  · exact
      { seen := fun _ _ _ has => absurd has List.not_mem_nil
        known := fun id row stored => by
          rw [← Table.get_key stored]
          exact List.mem_map_of_mem (Table.get_mem stored)
        young := fun _ _ _ member => absurd member List.not_mem_nil
        live := fun _ _ present => by cases present
        grips := fun _ _ present => by cases present
        polls := fun _ _ _ _ present => by cases present }
  · intro events before event after state next _ reads shades judged _ moves
    refine reads.moved lasts moves fun id op answer same => ?_
    subst same
    rw [← shades.world]
    exact judged

end Reads

/-- A checkpoint is of a project that is there, at its generation. -/
def Checkpointed (db : Database) : Prop :=
  ∀ row ∈ db.states.rows, ∃ project, db.projects.get row.projectId = some project ∧
    row.generation = project.ingestGeneration

theorem checkpointed_iff {db : Database} :
    Checkpointed db ↔ ∀ id row, db.states.get id = some row →
      ∃ project, db.projects.get id = some project ∧ row.generation = project.ingestGeneration := by
  constructor
  · intro rows id row found
    obtain rfl := Table.get_key found
    exact rows row (Table.get_mem found)
  · intro found row member
    exact found row.projectId row (Table.mem_get member)

theorem Checkpointed.moves {before after : Database} {drawn drawn' : List String} {op : Op}
    {answer : Except Exn op.Ans} (held : Checkpointed before)
    (moves : DbMoves before drawn op answer after drawn') : Checkpointed after := by
  rw [checkpointed_iff] at held ⊢
  intro id row found
  cases moves with
  | kept | filed | marked => exact held id row found
  | created target source config projects fresh inserted =>
      obtain ⟨project, stored, level⟩ := held id row found
      refine ⟨project, ?_, level⟩
      rw [Table.get_insert inserted, if_neg]
      · exact stored
      · intro same
        rw [← same, Table.insert_free inserted] at stored
        cases stored
  | leftover target error leftover =>
      rw [leftover_projects]
      cases leftover with
      | nothing | reports => exact held id row found
      | reportsAndState =>
          have kept : (before.states.delete target fun _ => true).get id = some row := found
          rw [Table.get_delete] at kept
          exact held id row (Option.filter_eq_some_iff.mp kept).1
  | deleted target after gone =>
      obtain ⟨projects, states⟩ := project_delete_rows gone
      rw [states, Table.get_delete] at found
      obtain ⟨stored, apart⟩ := Option.filter_eq_some_iff.mp found
      obtain ⟨project, present, level⟩ := held id row stored
      refine ⟨project, ?_, level⟩
      rw [projects, Table.get_delete, present, Option.filter_some, if_pos (by simpa using apart)]
  | updated target existing fields =>
      cases changed : ingestChanged fields existing with
      | true =>
          simp only [projectUpdate, changed, if_true, Table.get_delete] at found
          obtain ⟨stored, apart⟩ := Option.filter_eq_some_iff.mp found
          have other : id ≠ target := by simpa using apart
          obtain ⟨project, present, level⟩ := held id row stored
          refine ⟨project, ?_, level⟩
          simp only [projectUpdate]
          rw [Table.get_update_other _ _ _ _ other]
          exact present
      | false =>
          simp only [projectUpdate, changed] at found
          obtain ⟨project, present, level⟩ := held id row found
          by_cases same : id = target
          · subst same
            refine ⟨fields.apply false project, ?_, level⟩
            simp only [projectUpdate, changed]
            rw [Table.get_update_same, present]
            rfl
          · refine ⟨project, ?_, level⟩
            simp only [projectUpdate]
            rw [Table.get_update_other _ _ _ _ same]
            exact present
  | committed walk projectId generation step count after written =>
      rw [written.projects]
      by_cases same : id = projectId
      · subst same
        obtain ⟨project, present, -, level⟩ := written.current
        obtain ⟨checked, inserted, failures, stored, current, -⟩ := written.state
        rw [stored, Option.some.injEq] at found
        subst found
        exact ⟨project, present, current.trans level.symm⟩
      · rw [written.states id same] at found
        exact held id row found

theorem checkpointed_run {db : Database} {settings : Settings} (start : Checkpointed db)
    {events : List Ev} {last : Sys} (run : Run ingest (State.boot (World.initial db settings)) events last) :
    Checkpointed last.world.db := by
  refine @Path.keeps _ _ _ (fun state => Checkpointed state.world.db) _ _ _ run start ?_
  intro before event after moves held
  cases moves with
  | answered id task op rest env answer world found running asks ready ran =>
      exact held.moves
        (exec_moves (show Op.exec id before.fresh op env before.world = some (answer, world) from ran))
  | _ => exact held

end Bugalizer.Ingest
