import Bugalizer.RetryCap
import Bugalizer.SpentOnce
import Bugalizer.Sync.Binding

/-!
# Nothing runs unauthorized

Between the authorization of an action and its run stand ledger writes, requests and restarts, and
the project's settings may change at any time. What runs was authorized all the same, and the model
is called on the pins of that authorization.
-/

namespace Bugalizer

set_option autoImplicit false

open Coroutine Store

/-- The action is executed: `run_llm`, `run_inline`, `reopen_for_action` or the PR step. -/
def Executes (actionId : String) : Ev → Prop
  | .answered _ (.note (.runLlm id)) _ | .answered _ (.note (.runInline id)) _
  | .answered _ (.note (.reopenForAction id)) _ | .answered _ (.note (.prStep id)) _ => id = actionId
  | _ => False

theorem claimed_moves {actionId : String} {op : Op} {answer : Except Exn op.Ans} {row : TriageAction}
    {after : Option TriageAction} (moves : RowMoves actionId op answer (some row) after)
    (claimed : row.phase ≠ .reserved) :
    ∃ later, after = some later ∧ later.phase ≠ .reserved ∧ later.terms = row.terms := by
  cases moves with
  | same _ _ _ later phase terms => exact ⟨later, rfl, by rw [phase]; exact claimed, terms⟩
  | dropped _ _ _ phase => exact absurd phase claimed
  | pinned auth now _ phase => exact absurd phase claimed
  | dispatched now _ open' =>
      refine ⟨_, rfl, ?_, rfl⟩
      intro phase
      cases phase
  | advanced _ _ _ later terms phase =>
      refine ⟨later, rfl, ?_, terms⟩
      obtain ⟨-, phase⟩ | phase := phase
      · rw [phase]
        simp
      · rw [phase]
        simp

/-- A row that has left its reservation keeps its terms, over any part of a run. -/
theorem run_keeps_terms {first last : Sys} {events : List Ev} {actionId : String} {row : TriageAction}
    (within : first.Within programOp) (run : Run bugalizer first events last)
    (found : first.world.db.ledger.get actionId = some row) (claimed : row.phase ≠ .reserved) :
    ∃ later, last.world.db.ledger.get actionId = some later ∧ later.phase ≠ .reserved ∧
      later.terms = row.terms := by
  have path := run_world (fun _ job => job_only job) within run
  refine @Path.keeps _ _ _ (fun world : World => ∃ later, world.db.ledger.get actionId = some later ∧
    later.phase ≠ .reserved ∧ later.terms = row.terms) _ _ _ path ⟨row, found, claimed, rfl⟩ ?_
  intro before event after moved held
  obtain ⟨earlier, was, open', terms⟩ := held
  cases moved with
  | same event quiet => exact ⟨earlier, was, open', terms⟩
  | operation after self fresh op env answer asks ran =>
      have moves := row_moves actionId asks (op_ledger (exec_moves ran))
      rw [was] at moves
      obtain ⟨later, reached, claimed, same⟩ := claimed_moves moves open'
      exact ⟨later, reached, claimed, same.trans terms⟩
  | ending id => exact ⟨earlier, was, open', terms⟩
  | restarting boot => exact ⟨earlier, was, open', terms⟩

theorem fits_pinned {settings : Settings} {row : TriageAction} {key : Option String} {call : LlmCall}
    {auth : Authorized} (fits : Fits settings row key call) (llm : row.kind.llm = true)
    (follows : row.terms.Follows auth) :
    auth.pinned.for call.messages = some (call.provider, call.requestedModel) := by
  obtain ⟨granting, grants⟩ := follows.granted
  have pinned : row.pinnedLlm = some auth.pinned := follows.pinned
  have mode : row.keyMode = auth.keyMode := follows.mode
  have kinds : row.terms.kind = row.kind := rfl
  rw [kinds] at grants
  have chosen : ∃ pin, auth.pinned.for call.messages = some pin := by
    cases prompt : call.messages.fixes with
    | true =>
        have paid : row.kind.paid = true := by
          obtain keyed | other := fits.fixes.mp prompt
          · cases paid : row.kind.paid with
            | true => rfl
            | false =>
                rw [mode, (grants.unpaid paid).2.1] at keyed
                cases keyed
          · cases kind : row.kind with
            | analyzeLocal => exact absurd kind other
            | analyzeCloud => rfl
            | fixAndOpenPr => rfl
            | _ =>
                rw [kind] at llm
                cases llm
        obtain ⟨pin, granted⟩ := Option.isSome_iff_exists.mp (grants.fixPin paid)
        cases messages : call.messages with
        | fix report analysis files caching => exact ⟨pin, granted⟩
        | _ =>
            rw [messages] at prompt
            cases prompt
    | false =>
        have kind : row.kind = .analyzeLocal := by
          by_contra other
          rw [fits.fixes.mpr (.inr other)] at prompt
          cases prompt
        obtain ⟨triage, localization⟩ := grants.localPins kind
        cases messages : call.messages with
        | triage report => exact Option.isSome_iff_exists.mp triage
        | localize report repoMap summary => exact Option.isSome_iff_exists.mp localization
        | confirm report files summary => exact Option.isSome_iff_exists.mp localization
        | fix report analysis files caching =>
            rw [messages] at prompt
            cases prompt
  obtain ⟨pin, chosen⟩ := chosen
  obtain ⟨provider, model⟩ := fits.pin auth.pinned pin pinned chosen
  rw [chosen, provider, model]

section Runs

variable {world : World} {actionId : String} {kind : Kind} {past : List Ev} {last next : Sys} {event : Ev}

theorem run_bindings (run : Run bugalizer (State.boot world) past last)
    (first : Unclaimed actionId kind world.db.ledger)
    (lists : ∀ event ∈ past, listsOnly (listedAs actionId kind) event) :
    ∃ shadow, Shades (insightConduct (listedAs actionId kind)) last shadow ∧ Attended shadow ∧
      Bindings world actionId kind past shadow :=
  @run_attended (listedAs actionId kind) _ _ _ run lists (Bindings world actionId kind)
    (bindings_boot first)
    (fun _ _ _ _ _ run there attended held _ moves => bindings_step run there attended held moves)

theorem current_bound {shadow : AttendanceShadow (listedAs actionId kind)} {id : Nat}
    {actor : Actor Op (insightConduct (listedAs actionId kind)).Ghost Job} (attended : Attended shadow)
    (bindings : Bindings world actionId kind past shadow) (present : shadow.actors id = some actor)
    (awake : actor.waiting = none) (current : (insightOf actor).Current actionId) :
    ∃ auth, AuthorizedIn world past actionId auth := by
  obtain ⟨row, known, keyed, claimed, unfinished⟩ := current
  have seen : (insightOf actor).exact = some row := by
    obtain reads | sent := known
    · rw [reads]
      rfl
    · rw [sent]
      rfl
  have stored := (attended.attends id actor present).exact awake row seen
  rw [keyed] at stored
  obtain ⟨auth, -, made⟩ := bindings.rows row stored claimed unfinished
  exact ⟨auth, made⟩

theorem executes_authorized {shadow after : AttendanceShadow (listedAs actionId kind)}
    (attended : Attended shadow) (bindings : Bindings world actionId kind past shadow)
    (moves : ShadowMoves (insightConduct (listedAs actionId kind)) shadow event after)
    (executes : Executes actionId event) : ∃ auth, AuthorizedIn world past actionId auth := by
  cases moves with
  | answered id actor op env answer world' found running permitted ready pending ran =>
      obtain ⟨program, allowed⟩ := allowed_attends permitted
      have attends := attended.attends id actor found
      have noted (mark : Note) (same : op = .note mark) : actor.waiting = none ∧
          (outsideOp op ∨ attendedOp (listedAs actionId kind) (settingsOf actor) (insightOf actor) op) := by
        constructor
        · cases waiting : actor.waiting with
          | none => rfl
          | some other =>
              have suspends := attends.waits other waiting
              rw [pending other waiting, same] at suspends
              cases suspends
        · obtain lost | outside | inside := allowed
          · exact absurd lost attends.sound.sane
          · exact .inl outside.2
          · exact .inr inside.2
      cases op with
      | note mark =>
          obtain ⟨awake, allowed⟩ := noted mark rfl
          cases mark with
          | runLlm id =>
              have same : id = actionId := executes
              subst same
              obtain outside | attended := allowed
              · cases outside
              have engaged : ∃ row, (insightOf actor).engagement = some row ∧ row.actionId = id := by
                obtain ⟨row, engaged, keyed, -⟩ | ⟨row, key, known, keyed, -⟩ := attended
                · exact ⟨row, by rw [engaged]; rfl, keyed⟩
                · exact ⟨row, by rw [known]; rfl, keyed⟩
              obtain ⟨row, engaged, keyed⟩ := engaged
              have task := engagement_task engaged
              rw [keyed] at task
              obtain ⟨terms, -, auth, -, made⟩ := bindings.tasks _ actor found task
              exact ⟨auth, made⟩
          | runInline id =>
              have same : id = actionId := executes
              subst same
              obtain outside | attends := allowed
              · cases outside
              · exact current_bound attended bindings found awake attends
          | reopenForAction id =>
              have same : id = actionId := executes
              subst same
              obtain outside | attends := allowed
              · cases outside
              · exact current_bound attended bindings found awake attends
          | prStep id =>
              have same : id = actionId := executes
              subst same
              obtain outside | attends := allowed
              · cases outside
              · exact current_bound attended bindings found awake attends
          | _ => cases executes
      | _ => cases executes
  | _ => cases executes

theorem calls_authorized {shadow after : AttendanceShadow (listedAs actionId kind)} {id : Nat}
    {call : LlmCall} {actor : Actor Op (insightConduct (listedAs actionId kind)).Ghost Job}
    (attended : Attended shadow) (bindings : Bindings world actionId kind past shadow)
    (moves : ShadowMoves (insightConduct (listedAs actionId kind)) shadow
      (.issued id (.remote (.acompletion call))) after)
    (present : shadow.actors id = some actor) (own : actor.job = .actionTask actionId) :
    ∃ (row : TriageAction) (auth : Authorized), shadow.world.db.ledger.StartedOn actionId row.terms ∧ row.terms.Follows auth ∧
      AuthorizedIn world past actionId auth ∧
        auth.pinned.for call.messages = some (call.provider, call.requestedModel) := by
  cases moves with
  | issued id other op found running permitted suspends awake =>
      rw [present] at found
      cases found
      obtain ⟨program, allowed⟩ := allowed_attends permitted
      have attends := attended.attends id actor present
      have inside : insightOf actor ≠ .outside := by
        apply attends.inside
        rw [own]
        rfl
      obtain ⟨row, key, working, fits⟩ := inside_allowed attends.sound.sane inside allowed
      have engaged : (insightOf actor).engagement = some row := by
        obtain works | proposes := working
        · rw [works]
          rfl
        · rw [proposes]
          rfl
      have task := engagement_task engaged
      have keyed : row.actionId = actionId := by
        have same := attends.own _ task
        rw [own] at same
        cases same
        rfl
      rw [keyed] at task
      obtain ⟨started, llm⟩ := attends.sound.engaged row engaged
      rw [keyed] at started
      obtain ⟨terms, was, auth, follows, made⟩ := bindings.tasks id actor present task
      have same := started_on_unique was started
      subst same
      exact ⟨row, auth, started, follows, made, fits_pinned fits llm follows⟩

theorem executed_in_run (run : Run bugalizer (State.boot world) past last)
    (first : Unclaimed actionId kind world.db.ledger)
    (lists : ∀ event ∈ past, listsOnly (listedAs actionId kind) event) (moves : Moves bugalizer last event next)
    (executes : Executes actionId event) : ∃ auth, AuthorizedIn world past actionId auth := by
  obtain ⟨shadow, shades, attended, bindings⟩ := run_bindings run first lists
  obtain ⟨after, moved, -⟩ := moves_shadowed shades moves
  exact executes_authorized attended bindings moved executes

theorem called_in_run {id : Nat} {call : LlmCall} {task : Task Op Op.Ans Exn Job}
    (run : Run bugalizer (State.boot world) past last) (first : Unclaimed actionId kind world.db.ledger)
    (lists : ∀ event ∈ past, listsOnly (listedAs actionId kind) event)
    (moves : Moves bugalizer last (.issued id (.remote (.acompletion call))) next)
    (found : last.tasks id = some task) (own : task.job = .actionTask actionId) :
    ∃ (row : TriageAction) (auth : Authorized), last.world.db.ledger.StartedOn actionId row.terms ∧
      row.terms.Follows auth ∧ AuthorizedIn world past actionId auth ∧
        auth.pinned.for call.messages = some (call.provider, call.requestedModel) := by
  obtain ⟨shadow, shades, attended, bindings⟩ := run_bindings run first lists
  obtain ⟨after, moved, -⟩ := moves_shadowed shades moves
  obtain ⟨actor, present, follower⟩ := shades.follows id task found
  rw [shades.world]
  exact calls_authorized attended bindings moved present (follower.1 ▸ own)

/-- A row that has left its reservation names the pair of every call that is still to come. -/
theorem called_as_pinned {rest : List Ev} {middle : Sys} {id : Nat} {call : LlmCall} {row : TriageAction}
    {task : Task Op Op.Ans Exn Job}
    (run : Run bugalizer (State.boot world) past middle) (more : Run bugalizer middle rest last)
    (first : Unclaimed actionId kind world.db.ledger)
    (lists : ∀ event ∈ past ++ rest, listsOnly (listedAs actionId kind) event)
    (was : middle.world.db.ledger.get actionId = some row) (claimed : row.phase ≠ .reserved)
    (moves : Moves bugalizer last (.issued id (.remote (.acompletion call))) next)
    (found : last.tasks id = some task) (own : task.job = .actionTask actionId) :
    (row.pinnedLlm.bind fun pins => pins.for call.messages) = some (call.provider, call.requestedModel) := by
  obtain ⟨started, auth, ⟨stored, there, -, same⟩, follows, -, pair⟩ :=
    called_in_run (run.trans more) first lists moves found own
  have within := (run_within (fun _ job => job_only job) run).2
  obtain ⟨later, reached, -, terms⟩ := run_keeps_terms within more was claimed
  rw [reached] at there
  cases there
  have equal : row.pinnedLlm = started.pinnedLlm := congrArg Terms.pinnedLlm (terms.symm.trans same)
  have pinned : row.pinnedLlm = some auth.pinned := equal.trans follows.pinned
  rw [pinned]
  exact pair

end Runs

/-- In every run, with crashes at any time and any updates of the project, in which sonicgrid does not
change the kind of an action: what is executed for the action was authorized while its row was
reserved. The model is called with the provider and the model that this authorization pinned, and
these are fixed as soon as the row has left its reservation, whatever comes after. -/
theorem runs_as_authorized {world : World} {past rest : List Ev} {middle last next : Sys}
    (run : Run bugalizer (State.boot world) past middle) (more : Run bugalizer middle rest last)
    {actionId : String} {kind : Kind} (first : Unclaimed actionId kind world.db.ledger)
    (lists : ∀ event ∈ past ++ rest, listsOnly (listedAs actionId kind) event)
    {event : Ev} (moves : Moves bugalizer last event next) :
    (Executes actionId event → ∃ auth, AuthorizedIn world (past ++ rest) actionId auth) ∧
    ∀ id task call, event = .issued id (.remote (.acompletion call)) → last.tasks id = some task →
      task.job = .actionTask actionId →
      (∃ auth, AuthorizedIn world (past ++ rest) actionId auth ∧
        auth.pinned.for call.messages = some (call.provider, call.requestedModel)) ∧
      ∀ row, middle.world.db.ledger.get actionId = some row → row.phase ≠ .reserved →
        (row.pinnedLlm.bind fun pins => pins.for call.messages) =
          some (call.provider, call.requestedModel) := by
  constructor
  · exact executed_in_run (run.trans more) first lists moves
  · intro id task call same found own
    subst same
    constructor
    · obtain ⟨-, auth, -, -, made, pair⟩ := called_in_run (run.trans more) first lists moves found own
      exact ⟨auth, made, pair⟩
    · intro row was claimed
      exact called_as_pinned run more first lists was claimed moves found own

instance (actionId : String) (kind : Kind) (event : Ev) :
    Decidable (listsOnly (listedAs actionId kind) event) := by
  unfold listsOnly listedAs
  split
  · infer_instance
  · infer_instance

/-- The model call an event sends. -/
def sentCall : Ev → Option LlmCall
  | .issued _ (.remote (.acompletion call)) => some call
  | _ => none

theorem sent_call_issued {event : Ev} {call : LlmCall} (sent : sentCall event = some call) :
    ∃ id, event = .issued id (.remote (.acompletion call)) := by
  unfold sentCall at sent
  split at sent
  · cases sent
    exact ⟨_, rfl⟩
  · cases sent

def isTaskOf (actionId : String) : Job → Bool
  | .actionTask id => id == actionId
  | _ => false

theorem task_of_job {actionId : String} {job : Job} (own : isTaskOf actionId job = true) :
    job = .actionTask actionId := by
  cases job with
  | actionTask id =>
      have same : id = actionId := beq_iff_eq.mp own
      rw [same]
  | _ => cases own

namespace Scenario

/-- The clone has the candidate file, and the key is released. -/
def reached (clock : Nat) : (op : Op) → op.Env
  | .remote (.credential ..) =>
      .ok ⟨200, some (.obj [("provider", .str "anthropic"), ("apiKey", .str "key")])⟩
  | .compute (.triageBaseUrl _) => .ok (some "https://grid")
  | op => unparsed clock op

/-- A tick starts the action. -/
def pinnedTick : Script bugalizer (State.boot (World.initial awaitingFix ownKeys)) :=
  ⟨.start (.syncProject "p" false) :: steps 0 (released 5) 39, by decide +kernel⟩

/-- The project is moved to a local model before the action's task begins. -/
def repinned : Script bugalizer pinnedTick.last :=
  ⟨.start (.updateProject "p" { fixLlmProvider := some (some "ollama") }) ::
    steps 2 (released 6) 4 ++ steps 1 (reached 6) 17, by decide +kernel⟩

def modelCall : Scene bugalizer repinned.last := ⟨.advance 1 (reached 6), by decide +kernel⟩

def ownStep (state : Sys) : Ev → Bool
  | .issued id _ => (state.tasks id).any fun task => isTaskOf "a" task.job
  | _ => false

end Scenario

/-- The call still goes to the model of the authorization. -/
theorem runs_as_authorized_behind_an_update :
    ∃ call auth, sentCall Scenario.modelCall.event = some call ∧
      AuthorizedIn (World.initial Scenario.awaitingFix Scenario.ownKeys)
        (Scenario.pinnedTick.events ++ Scenario.repinned.events) "a" auth ∧
      auth.pinned.for call.messages = some (call.provider, call.requestedModel) ∧
      call.provider = "anthropic" ∧
      (Scenario.repinned.last.world.db.projects.get "p").any
        (fun project => project.fixLlmProvider == some "ollama") = true := by
  have sends : (sentCall Scenario.modelCall.event).any (fun call => call.provider == "anthropic") =
      true := by decide +kernel
  obtain ⟨call, sent, provider⟩ := (Option.any_eq_true _ _).mp sends
  obtain ⟨id, issued⟩ := sent_call_issued sent
  have own : Scenario.ownStep Scenario.repinned.last Scenario.modelCall.event = true := by
    decide +kernel
  rw [issued] at own
  obtain ⟨task, found, mine⟩ := (Option.any_eq_true _ _).mp own
  have unclaimed : Unclaimed "a" .analyzeCloud Scenario.awaitingFix.ledger := by
    intro row stored
    cases stored
  have lists : ∀ event ∈ Scenario.pinnedTick.events ++ Scenario.repinned.events,
      listsOnly (listedAs "a" .analyzeCloud) event := by decide +kernel
  obtain ⟨⟨auth, made, pair⟩, -⟩ := (runs_as_authorized Scenario.pinnedTick.run Scenario.repinned.run
    unclaimed lists Scenario.modelCall.moves).2 id task call issued found (task_of_job mine)
  exact ⟨call, auth, sent, made, pair, beq_iff_eq.mp provider, by decide +kernel⟩

/-- In this state the action's own task sends a model call. -/
def Calls (actionId : String) (state : Sys) (call : LlmCall) : Prop :=
  ∃ id task next, Moves bugalizer state (.issued id (.remote (.acompletion call))) next ∧
    state.tasks id = some task ∧ task.job = .actionTask actionId

/-- The stage that a prompt is of. -/
def Prompt.stage : Prompt → StagePhase
  | .triage _ => .triage
  | .localize .. | .confirm .. => .localization
  | .fix .. => .fix

theorem for_stage {one other : Prompt} (same : one.stage = other.stage) (pins : PinnedLlm) :
    pins.for one = pins.for other := by
  cases one with
  | triage report =>
      cases other with
      | triage _ => rfl
      | _ => cases same
  | localize report repoMap summary =>
      cases other with
      | localize _ _ _ => rfl
      | confirm _ _ _ => rfl
      | _ => cases same
  | confirm report files summary =>
      cases other with
      | localize _ _ _ => rfl
      | confirm _ _ _ => rfl
      | _ => cases same
  | fix report analysis files caching =>
      cases other with
      | fix _ _ _ _ => rfl
      | _ => cases same

/-- In every run, with crashes at any time and any updates of the project: what is executed for the action
was authorized while its row was reserved, and its calls go to the pair that was pinned then. Two
histories that part once the row has left its reservation call the same pair at the same stage. -/
theorem runs_on_its_pins {world : World} {past : List Ev} {middle : Sys}
    (run : Run bugalizer (State.boot world) past middle) {actionId : String} {kind : Kind}
    (first : Unclaimed actionId kind world.db.ledger)
    (lists : ∀ event ∈ past, listsOnly (listedAs actionId kind) event) :
    (∀ event next, Moves bugalizer middle event next → Executes actionId event →
      ∃ auth, AuthorizedIn world past actionId auth) ∧
    (∀ call, Calls actionId middle call → ∃ auth, AuthorizedIn world past actionId auth ∧
      auth.pinned.for call.messages = some (call.provider, call.requestedModel)) ∧
    ∀ row, middle.world.db.ledger.get actionId = some row → row.phase ≠ .reserved →
      ∀ rest last other final, Run bugalizer middle rest last → Run bugalizer middle other final →
        (∀ event ∈ rest ++ other, listsOnly (listedAs actionId kind) event) →
          ∀ call again, Calls actionId last call → Calls actionId final again →
            call.messages.stage = again.messages.stage →
              call.provider = again.provider ∧ call.requestedModel = again.requestedModel := by
  refine ⟨?_, ?_, ?_⟩
  · intro event next moves executes
    exact executed_in_run run first lists moves executes
  · intro call called
    obtain ⟨id, task, next, moves, found, own⟩ := called
    obtain ⟨-, auth, -, -, made, pair⟩ := called_in_run run first lists moves found own
    exact ⟨auth, made, pair⟩
  · intro row was claimed rest last other final more more' listed call again called called' stage
    obtain ⟨id, task, next, moves, found, own⟩ := called
    obtain ⟨id', task', next', moves', found', own'⟩ := called'
    have listsRest : ∀ event ∈ past ++ rest, listsOnly (listedAs actionId kind) event := by
      intro event member
      obtain earlier | later := List.mem_append.mp member
      · exact lists event earlier
      · exact listed event (List.mem_append_left _ later)
    have listsOther : ∀ event ∈ past ++ other, listsOnly (listedAs actionId kind) event := by
      intro event member
      obtain earlier | later := List.mem_append.mp member
      · exact lists event earlier
      · exact listed event (List.mem_append_right _ later)
    have pair := called_as_pinned run more first listsRest was claimed moves found own
    have pair' := called_as_pinned run more' first listsOther was claimed moves' found' own'
    simp only [for_stage stage] at pair
    have same := Option.some.inj (pair.symm.trans pair')
    exact ⟨congrArg Prod.fst same, congrArg Prod.snd same⟩

namespace Scenario

/-- The action's task begins while the project is as it was. -/
def unmoved : Script bugalizer pinnedTick.last := ⟨steps 1 (reached 6) 17, by decide +kernel⟩

def plainCall : Scene bugalizer unmoved.last := ⟨.advance 1 (reached 6), by decide +kernel⟩

end Scenario

theorem scene_calls {state : Sys} (scene : Scene bugalizer state) {call : LlmCall}
    (sent : sentCall scene.event = some call) (own : Scenario.ownStep state scene.event = true) :
    Calls "a" state call := by
  obtain ⟨id, issued⟩ := sent_call_issued sent
  have moves := scene.moves
  rw [issued] at own moves
  obtain ⟨task, found, mine⟩ := (Option.any_eq_true _ _).mp own
  exact ⟨id, task, _, moves, found, task_of_job mine⟩

/-- The project was moved to a local model in the one history only; both call the same pair. -/
theorem runs_on_its_pins_in_both :
    ∃ call again, sentCall Scenario.modelCall.event = some call ∧
      sentCall Scenario.plainCall.event = some again ∧
      (Scenario.repinned.last.world.db.projects.get "p").any
        (fun project => project.fixLlmProvider == some "ollama") = true ∧
      call.provider = again.provider ∧ call.requestedModel = again.requestedModel := by
  have sends : (sentCall Scenario.modelCall.event).any (fun call => call.messages.fixes) = true := by
    decide +kernel
  have sends' : (sentCall Scenario.plainCall.event).any (fun call => call.messages.fixes) = true := by
    decide +kernel
  obtain ⟨call, sent, fixes⟩ := (Option.any_eq_true _ _).mp sends
  obtain ⟨again, sent', fixes'⟩ := (Option.any_eq_true _ _).mp sends'
  have staged : ∀ {prompt : Prompt}, prompt.fixes = true → prompt.stage = .fix := by
    intro prompt fixes
    cases prompt with
    | fix report analysis files caching => rfl
    | _ => cases fixes
  have unclaimed : Unclaimed "a" .analyzeCloud Scenario.awaitingFix.ledger := by
    intro row stored
    cases stored
  have claimed : (Scenario.pinnedTick.last.world.db.ledger.get "a").any (fun row => row.phase != .reserved) =
      true := by decide +kernel
  obtain ⟨row, stored, open'⟩ := (Option.any_eq_true _ _).mp claimed
  have same := (runs_on_its_pins Scenario.pinnedTick.run unclaimed (by decide +kernel)).2.2 row stored
    (bne_iff_ne.mp open') _ _ _ _ Scenario.repinned.run Scenario.unmoved.run (by decide +kernel) call again
    (scene_calls Scenario.modelCall sent (by decide +kernel))
    (scene_calls Scenario.plainCall sent' (by decide +kernel)) ((staged fixes).trans (staged fixes').symm)
  exact ⟨call, again, sent, sent', by decide +kernel, same⟩

end Bugalizer
