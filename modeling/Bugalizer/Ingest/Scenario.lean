import Bugalizer.Ingest.Fence

/-!
# Small worlds to poll in

One project, requests and polls on it, and an outside that answers every call in one way.
-/

namespace Bugalizer.Ingest

set_option autoImplicit false

open Store Coroutine Program

namespace Scenario

def settings : Settings :=
  { ingestPageLimit := 50, ingestMaxPages := 5, ingestRewalkPages := 2, ingestRewalkInterval := 10
    urlsplit := fun _ => none }

def config (url : String) : IngestConfig := ⟨url, "bugs", "TOKEN", none⟩

/-- The validated pair of a source. -/
def source (url : String) : Option (String × IngestConfig) := some ("sonicgrid", config url)

/-- One project with this source. -/
def database (pair : Option (String × IngestConfig)) : Database :=
  { Database.empty with
    projects := ⟨[⟨"p", pair.map Prod.fst, pair.map Prod.snd, 0⟩], List.nodup_singleton _⟩ }

def boot (pair : Option (String × IngestConfig)) : Sys :=
  State.boot (World.initial (database pair) settings)

def lastPage : Json := .obj [("reports", .arr [.obj [("id", .str "bug")]]), ("next_cursor", .null)]

/-- Every call succeeds, every page is the last one, and the checked pair is this one. -/
def outside (pair : Option (String × IngestConfig)) : (op : Op) → op.Env
  | .projectDelete _ => (none, .nothing)
  | .fetch .. => .ok (.response 200 (some lastPage))
  | .credential _ => some "secret"
  | .now => 0
  | .checkedPair .. => .ok pair
  | .acquire _ | .release _ | .projectGet _ | .projectUpdate .. | .projectCreate .. | .projectExists _
  | .hasActiveReports _ | .reportCreate _ | .reportDelete _ | .stateGet _ | .commit .. =>
      ⟨none, 0, fun _ => "id"⟩

/-- So many steps of one task. -/
def steps (id : Nat) (pair : Option (String × IngestConfig)) (count : Nat) :
    List (Choice Op Op.Env Job Settings) := List.replicate count (.advance id (outside pair))

/-- A request that names the ingest config; what it is checked to be is the outside's. -/
def patch : Job := .updateProject "p" { ingestConfig := some (some .null) }

def clear : Job := .updateProject "p" { ingestSource := some none }

/-- A poll up to its first request, as the task of this number. -/
def polling (id : Nat) : List (Choice Op Op.Env Job Settings) :=
  .start (.poll "p" false) :: steps id none 6

/-- A whole request that sets the source, as the task of this number. -/
def patched (id : Nat) (url : String) : List (Choice Op Op.Env Job Settings) :=
  .start patch :: steps id (source url) 6

/-- Each update names another source than the row it has read. -/
def differing : Ev → Prop
  | .answered _ (.projectUpdate _ existing fields) _ => ¬fields.Repeats existing
  | _ => True

instance (event : Ev) : Decidable (differing event) := by
  unfold differing
  split <;> infer_instance

def readsAt (id generation : Nat) : Ev → Bool
  | .answered reader (.projectGet "p") (.ok (some row)) =>
      reader == id && row.ingestGeneration == generation
  | _ => false

def isPoll : Job → Bool
  | .poll .. => true
  | _ => false

def answers (id : Nat) : Ev → Bool
  | .answered other .. => other == id
  | _ => false

theorem differing_judged {sound : IngestFields → ProjectRow → ProjectRow → Prop}
    (repeats : ∀ fields existing stored, ¬fields.Repeats existing → sound fields existing stored)
    {state : Sys} {event : Ev} (differs : differing event) : JudgedEvent sound state event := by
  cases event with
  | answered id op answer =>
      show Judged sound _ op answer
      unfold Judged
      split
      · exact fun stored _ => repeats _ _ stored differs
      · trivial
  | _ => trivial

theorem has_read {events : List Ev} {id generation : Nat} (reads : events.any (readsAt id generation) = true) :
    ∃ row, HasRead events id "p" row ∧ row.ingestGeneration = generation := by
  obtain ⟨event, member, here⟩ := List.any_eq_true.mp reads
  unfold readsAt at here
  split at here
  · rename_i reader row
    obtain ⟨same, level⟩ := Bool.and_eq_true_iff.mp here
    rw [beq_iff_eq] at same level
    subst same
    exact ⟨row, member, level⟩
  · cases here

theorem poll_task {state : Sys} {id : Nat} (polls : (state.tasks id).any (fun task => isPoll task.job) = true) :
    ∃ task wanted full, state.tasks id = some task ∧ task.job = .poll wanted full := by
  obtain ⟨task, found, here⟩ := (Option.any_eq_true _ _).mp polls
  unfold isPoll at here
  split at here
  · exact ⟨task, _, _, found, by assumption⟩
  · cases here

theorem answering_moves {id : Nat} {state : Sys} (scene : Scene ingest state)
    (answering : answers id scene.event = true) :
    ∃ op answer, Moves ingest state (.answered id op answer) scene.next := by
  have moved := scene.moves
  generalize scene.event = event at answering moved
  unfold answers at answering
  split at answering
  · rw [beq_iff_eq] at answering
    subst answering
    exact ⟨_, _, moved⟩
  · cases answering

end Scenario

end Bugalizer.Ingest
