import Bugalizer.FinishedActions

/-!
# Whose key pays

A task that was given a key was given it by the answer to its own request, and no model call of the
task is made on another one. A call without such a key goes to a provider that `is_paid` calls unpaid,
as long as the process runs with per-user keys.
-/

namespace Bugalizer

set_option autoImplicit false

open Coroutine Store

def Insight.key : Insight → Option (TriageAction × String)
  | keyed row (some key) | working row (some key) | proposing row (some key) => some (row, key)
  | _ => none

/-- The task asked for the key of the action, and was answered with it. -/
def ReleasedTo (past : List Ev) (id : Nat) (row : TriageAction) (key : String) : Prop :=
  ∃ (before : List Ev) (endpoint : Endpoint) (response : HttpResponse) (after : List Ev),
    past = before ++ .answered id (.remote (.credential endpoint row.actionId)) (.ok response) :: after ∧
      credentialOutcome row response = .ok key

theorem released_later {past : List Ev} {id : Nat} {row : TriageAction} {key : String}
    (released : ReleasedTo past id row key) (event : Ev) : ReleasedTo (past ++ [event]) id row key := by
  obtain ⟨before, endpoint, response, after, shape, outcome⟩ := released
  refine ⟨before, endpoint, response, after ++ [event], ?_, outcome⟩
  rw [shape, List.append_assoc, List.cons_append]

theorem yield_key {insight : Insight} : insight.yield.key = insight.key := by
  cases insight with
  | _ => rfl

theorem after_key {insight : Insight} (op : Op) : (insight.after op).key = insight.key := by
  unfold Insight.after
  split
  · exact yield_key
  · rfl

theorem completed_key {insight : Insight} {prompt : Prompt} {row : TriageAction} {key : String}
    (has : (insight.completed prompt).key = some (row, key)) : insight.key = some (row, key) := by
  cases insight with
  | working known key =>
      simp only [Insight.completed] at has
      split at has
      · cases has
      · exact has
  | proposing known key =>
      simp only [Insight.completed] at has
      split at has
      · cases has
      · exact has
  | _ => exact has

theorem next_key {listed : ListedAction → Prop} {insight : Insight} {op : Op}
    {answer : Except Exn op.Ans} {row : TriageAction} {key : String}
    (has : (insightNext listed insight op answer).key = some (row, key)) :
    insight.key = some (row, key) ∨ ∃ endpoint actionId response,
      (⟨op, answer⟩ : Σ op : Op, Except Exn op.Ans) =
        ⟨.remote (.credential endpoint actionId), .ok response⟩ ∧
      insight = .engaged row ∧ credentialOutcome row response = .ok key := by
  cases answer with
  | error error =>
      simp only [insightNext] at has
      split at has
      · cases has
      split at has
      · cases insight with
        | engaged row => cases has
        | _ => exact .inl has
      · exact .inl (completed_key has)
      · cases insight with
        | sent row => cases has
        | _ => exact .inl has
      · exact .inl (after_key _ ▸ has)
  | ok value =>
      unfold insightNext at has
      dsimp only at has
      split at has
      · unfold Insight.found at has
        split at has
        · cases has
        · cases has
        · split at has
          · split at has
            · cases has
            · cases has
          · cases has
        · split at has
          · split at has
            · cases has
            · cases has
          · cases has
      · unfold Insight.missing at has
        split at has
        · split at has
          · cases has
          · exact .inl has
        · exact .inl has
      · unfold Insight.updated at has
        split at has
        swap
        · exact .inl has
        split at has
        swap
        · exact .inl (yield_key ▸ has)
        split at has
        · split at has
          · split at has
            · cases has
            · cases has
          · cases has
        · split at has
          · cases has
          · exact .inl has
      · exact .inl (yield_key ▸ has)
      · exact .inl (yield_key ▸ has)
      · cases insight with
        | read known =>
            simp only [Insight.decided] at has
            split at has
            · cases has
            · cases has
        | _ => exact .inl has
      · cases insight with
        | engaged known => cases has
        | keyed known key =>
            cases key with
            | none => cases has
            | some key => exact .inl has
        | _ => exact .inl has
      · cases insight with
        | working known key =>
            cases key with
            | none => cases has
            | some key => exact .inl has
        | _ => exact .inl has
      · cases insight with
        | read known => cases has
        | sent known => cases has
        | _ => exact .inl has
      · rename_i endpoint actionId response
        cases insight with
        | engaged known =>
            simp only [Insight.answeredKey] at has
            split at has
            · rename_i released outcome
              cases has
              exact .inr ⟨endpoint, actionId, _, rfl, rfl, outcome⟩
            · cases has
        | _ => exact .inl (yield_key ▸ has)
      · exact .inl (completed_key has)
      · split at has
        · exact .inl (yield_key ▸ has)
        · cases has
      · cases insight with
        | sent known => cases has
        | _ => exact .inl has
      · exact .inl (after_key _ ▸ has)

/-- Every key in hand was released to its task, and every task runs under the settings of the process. -/
structure KeysInHand (past : List Ev) (shadow : AttendanceShadow anyListed) : Prop where
  released : ∀ id actor row key, shadow.actors id = some actor →
    (insightOf actor).key = some (row, key) → ReleasedTo past id row key
  settings : ∀ id actor, shadow.actors id = some actor → settingsOf actor = shadow.world.settings

theorem initial_key (job : Job) : (Insight.initial job).key = none := by
  cases job with
  | _ => rfl

theorem keys_boot (world : World) : KeysInHand [] (Shadow.boot (insightConduct anyListed) world) where
  released id actor row key found := by cases found
  settings id actor found := by cases found

section Steps

variable {past : List Ev} {before after : AttendanceShadow anyListed} {event : Ev}

theorem keys_quiet (held : KeysInHand past before)
    (actors : ∀ id actor, after.actors id = some actor →
      (∃ old, before.actors id = some old ∧ insightOf old = insightOf actor ∧
        settingsOf old = settingsOf actor ∧ after.world.settings = before.world.settings) ∨
      (insightOf actor).key = none ∧ settingsOf actor = after.world.settings) :
    KeysInHand (past ++ [event]) after where
  released id actor row key found has := by
    obtain ⟨old, was, same, -⟩ | ⟨none, -⟩ := actors id actor found
    · exact released_later (held.released id old row key was (same ▸ has)) event
    · rw [none] at has
      cases has
  settings id actor found := by
    obtain ⟨old, was, -, same, still⟩ | ⟨-, same⟩ := actors id actor found
    · rw [← same, held.settings id old was, still]
    · exact same

theorem keys_step (attended : Attended before) (held : KeysInHand past before)
    (moves : ShadowMoves (insightConduct anyListed) before event after) :
    KeysInHand (past ++ [event]) after := by
  cases moves with
  | started job rooted =>
      apply keys_quiet held
      intro other rival present
      obtain ⟨-, same⟩ | ⟨-, was⟩ := updated_found present
      · cases same
        exact .inr ⟨initial_key job, rfl⟩
      · exact .inl ⟨rival, was, rfl, rfl, rfl⟩
  | issued id actor op found running allowed suspends awake =>
      apply keys_quiet held
      intro other rival present
      obtain ⟨rfl, same⟩ | ⟨-, was⟩ := updated_found present
      · cases same
        exact .inl ⟨actor, found, rfl, rfl, rfl⟩
      · exact .inl ⟨rival, was, rfl, rfl, rfl⟩
  | answered id actor op env answer world found running permitted ready pending ran =>
      have executed : op.exec id before.fresh env before.world = some (answer, world) := ran
      obtain ⟨program, allowed⟩ := allowed_attends permitted
      have attends := attended.attends id actor found
      have unchanged : world.settings = before.world.settings := op_settings (exec_moves executed)
      have resumed : KeysInHand (past ++ [.answered id op answer])
          (before.resume (insightConduct anyListed) id actor op answer world) := by
        constructor
        · intro other rival row key present has
          obtain ⟨rfl, same⟩ | ⟨-, was⟩ := updated_found present
          · cases same
            obtain known | ⟨endpoint, actionId, response, same, engaged, outcome⟩ := next_key has
            · exact released_later (held.released _ actor row key found known) _
            · cases same
              have engaged : insightOf actor = .engaged row := engaged
              have seen : insightOf actor ≠ .outside := by
                rw [engaged]
                simp
              obtain ⟨known, reads, keyed, -⟩ := inside_allowed attends.sound.sane seen allowed
              rw [engaged] at reads
              cases reads
              subst keyed
              exact ⟨past, endpoint, response, [], rfl, outcome⟩
          · exact released_later (held.released other rival row key was has) _
        · intro other rival present
          obtain ⟨rfl, same⟩ | ⟨-, was⟩ := updated_found present
          · cases same
            exact (held.settings _ actor found).trans unchanged.symm
          · exact (held.settings other rival was).trans unchanged.symm
      have spawned : ∀ job, KeysInHand (past ++ [.answered id op answer])
          ((before.resume (insightConduct anyListed) id actor op answer world).begin
            (insightConduct anyListed) job) := by
        intro job
        constructor
        · intro other rival row key present has
          obtain ⟨-, same⟩ | ⟨-, was⟩ := updated_found present
          · cases same
            rw [show insightOf _ = Insight.initial job from rfl, initial_key] at has
            cases has
          · exact resumed.released other rival row key was has
        · intro other rival present
          obtain ⟨-, same⟩ | ⟨-, was⟩ := updated_found present
          · cases same
            rfl
          · exact resumed.settings other rival was
      cases op with
      | createTask created job => exact spawned job
      | _ => exact resumed
  | ended id actor found running awake finished =>
      apply keys_quiet held
      intro other rival present
      obtain ⟨-, same⟩ | ⟨-, was⟩ := updated_found present
      · cases same
      · exact .inl ⟨rival, was, rfl, rfl, rfl⟩
  | restarted boot =>
      apply keys_quiet held
      intro other rival present
      cases present

end Steps

theorem credential_outcome_terms {one other : TriageAction} (same : one.terms = other.terms)
    (response : HttpResponse) : credentialOutcome one response = credentialOutcome other response := by
  have kind : one.kind = other.kind := congrArg Terms.kind same
  have pinned : one.pinnedLlm = other.pinnedLlm := congrArg Terms.pinnedLlm same
  unfold credentialOutcome
  rw [kind, pinned]

theorem released_pin {row : TriageAction} {response : HttpResponse} {key : String}
    (outcome : credentialOutcome row response = .ok key) :
    (row.pinnedLlm.bind PinnedLlm.fix).map Prod.fst = some requesterProvider := by
  unfold credentialOutcome at outcome
  dsimp only at outcome
  split at outcome
  · split at outcome
    · split at outcome
      · rename_i valid
        exact valid.2.1
      · cases outcome
    · cases outcome
  · split_ifs at outcome

/-- What a model call of an action's task is paid with. -/
structure Paid (settings : Settings) (past : List Ev) (id : Nat) (row : TriageAction)
    (call : LlmCall) : Prop where
  keyed : row.keyMode = some requester → call.provider = requesterProvider ∧
    ∃ key, ReleasedTo past id row key ∧ call.apiKey = some key
  unkeyed : settings.sonicgridUserKeys = true → row.keyMode ≠ some requester →
    row.kind ≠ .analyzeLocal → isPaid call.provider = false
  locally : call.route = .ollama ↔ call.provider = "ollama"

/-- With per-user keys a call of a paid kind also goes to the provider that its row is pinned to. -/
theorem paid_on_its_pin {world : World} {past : List Ev} {last next : Sys}
    (run : Run bugalizer (State.boot world) past last) {id : Nat} {call : LlmCall}
    (moves : Moves bugalizer last (.issued id (.remote (.acompletion call))) next)
    {task : Task Op Op.Ans Exn Job} (found : last.tasks id = some task) {actionId : String}
    (own : task.job = .actionTask actionId) :
    ∃ row, last.world.db.ledger.get actionId = some row ∧
      Paid last.world.settings past id row call ∧
      (last.world.settings.sonicgridUserKeys = true → row.kind ≠ .analyzeLocal →
        (row.pinnedLlm.bind PinnedLlm.fix).map Prod.fst = some call.provider) := by
  obtain ⟨shadow, shades, attended, keys⟩ := @run_attended anyListed _ _ _ run
    (fun event _ => lists_anything event) KeysInHand
    (keys_boot world)
    (fun _ _ _ _ _ _ _ attended held _ moves => keys_step attended held moves)
  obtain ⟨after, moved, -⟩ := moves_shadowed shades moves
  obtain ⟨actor, present, follower⟩ := shades.follows id task found
  rw [shades.world]
  cases moved with
  | issued id other op found running permitted suspends awake =>
      rw [present] at found
      cases found
      obtain ⟨program, allowed⟩ := allowed_attends permitted
      have attends := attended.attends id actor present
      have job : actor.job = .actionTask actionId := follower.1 ▸ own
      have inside : insightOf actor ≠ .outside := by
        apply attends.inside
        rw [job]
        rfl
      obtain ⟨row, key, working, fits⟩ := inside_allowed attends.sound.sane inside allowed
      rw [keys.settings id actor present] at fits
      have engaged : (insightOf actor).engagement = some row := by
        obtain works | proposes := working
        · rw [works]
          rfl
        · rw [proposes]
          rfl
      have keyed : row.actionId = actionId := by
        have same := attends.own _ (engagement_task engaged)
        rw [job] at same
        cases same
        rfl
      obtain ⟨⟨stored, there, -, terms⟩, -⟩ := attends.sound.engaged row engaged
      rw [keyed] at there
      have kind : stored.kind = row.kind := congrArg Terms.kind terms
      have mode : stored.keyMode = row.keyMode := congrArg Terms.keyMode terms
      have pinned : stored.pinnedLlm = row.pinnedLlm := congrArg Terms.pinnedLlm terms
      have onFix : row.keyMode = some requester ∨ row.kind ≠ .analyzeLocal →
          ∀ pin, row.pinnedLlm.bind PinnedLlm.fix = some pin → call.provider = pin.1 := by
        intro stage pin chosen
        obtain ⟨pins, recorded, fix⟩ := Option.bind_eq_some_iff.mp chosen
        have fixes := fits.fixes.mpr stage
        have forPrompt : pins.for call.messages = some pin := by
          cases messages : call.messages with
          | fix report analysis files caching => exact fix
          | _ =>
              rw [messages] at fixes
              cases fixes
        exact (fits.pin pins pin recorded forPrompt).1
      have released : row.keyMode = some requester → ∃ key, call.apiKey = some key ∧
          (row.pinnedLlm.bind PinnedLlm.fix).map Prod.fst = some requesterProvider ∧
            ReleasedTo past id row key := by
        intro requests
        obtain ⟨given, carried⟩ := fits.keyed requests
        obtain ⟨released, same⟩ := Option.isSome_iff_exists.mp given
        subst same
        have has : (insightOf actor).key = some (row, released) := by
          obtain works | proposes := working
          · rw [works]
            rfl
          · rw [proposes]
            rfl
        obtain ⟨before, endpoint, response, after', shape, outcome⟩ :=
          keys.released id actor row released present has
        exact ⟨released, carried, released_pin outcome, before, endpoint, response, after', shape, outcome⟩
      refine ⟨stored, there, ⟨?_, ?_, fits.route⟩, ?_⟩
      · rw [mode]
        intro requests
        obtain ⟨key, carried, pin, before, endpoint, response, after', shape, outcome⟩ := released requests
        obtain ⟨pin, chosen, provider⟩ := Option.map_eq_some_iff.mp pin
        constructor
        · rw [onFix (.inl requests) pin chosen, provider]
        · refine ⟨key, ⟨before, endpoint, response, after', ?_, ?_⟩, carried⟩
          · rw [shape, keyed, Table.get_key there]
          · rw [credential_outcome_terms terms, outcome]
      · rw [mode, kind]
        intro gated keyless other
        obtain ⟨pin, chosen, unpaid⟩ := fits.gated gated keyless other
        rw [onFix (.inr other) pin chosen]
        exact unpaid
      · rw [kind, pinned]
        intro gated other
        by_cases requests : row.keyMode = some requester
        · obtain ⟨-, -, pin, -⟩ := released requests
          obtain ⟨pin, chosen, -⟩ := Option.map_eq_some_iff.mp pin
          rw [chosen, onFix (.inr other) pin chosen]
          rfl
        · obtain ⟨pin, chosen, -⟩ := fits.gated gated requests other
          rw [chosen, onFix (.inr other) pin chosen]
          rfl

/-- In every run, from whatever rows earlier runs have left: a task that runs on its requester's key
calls the model with the key that its own request was answered with. With per-user keys every other
call of a paid kind goes to a provider that `is_paid` calls unpaid. -/
theorem paid_with_released_key {world : World} {past : List Ev} {last next : Sys}
    (run : Run bugalizer (State.boot world) past last) {id : Nat} {call : LlmCall}
    (moves : Moves bugalizer last (.issued id (.remote (.acompletion call))) next)
    {task : Task Op Op.Ans Exn Job} (found : last.tasks id = some task) {actionId : String}
    (own : task.job = .actionTask actionId) :
    ∃ row, last.world.db.ledger.get actionId = some row ∧
      Paid last.world.settings past id row call := by
  obtain ⟨row, stored, paid, -⟩ := paid_on_its_pin run moves found own
  exact ⟨row, stored, paid⟩

/-- The task that began behind an update of its project calls the model with the key it was sent. -/
theorem paid_with_released_key_once_sent :
    ∃ id row call key, sentCall Scenario.modelCall.event = some call ∧
      Scenario.repinned.last.world.db.ledger.get "a" = some row ∧
      ReleasedTo (Scenario.pinnedTick.events ++ Scenario.repinned.events) id row key ∧
      call.apiKey = some key ∧ call.apiKey = some "key" := by
  have sends : (sentCall Scenario.modelCall.event).any (fun call => call.apiKey == some "key") =
      true := by decide +kernel
  obtain ⟨call, sent, carried⟩ := (Option.any_eq_true _ _).mp sends
  obtain ⟨id, issued⟩ := sent_call_issued sent
  have own : Scenario.ownStep Scenario.repinned.last Scenario.modelCall.event = true := by
    decide +kernel
  rw [issued] at own
  obtain ⟨task, found, mine⟩ := (Option.any_eq_true _ _).mp own
  have moves := Scenario.modelCall.moves
  rw [issued] at moves
  obtain ⟨row, stored, paid⟩ := paid_with_released_key
    (Scenario.pinnedTick.run.trans Scenario.repinned.run) moves found (task_of_job mine)
  have requests : (Scenario.repinned.last.world.db.ledger.get "a").any
      (fun row => row.keyMode == some requester) = true := by decide +kernel
  rw [stored] at requests
  obtain ⟨-, key, released, same⟩ := paid.keyed (beq_iff_eq.mp requests)
  exact ⟨id, row, call, key, sent, stored, released, same, beq_iff_eq.mp carried⟩

/-- A key that is released is for a row pinned to `anthropic`, which `is_paid` calls paid. -/
theorem unpaid_unreleased {past : List Ev} {id : Nat} {row : TriageAction} {key provider : String}
    (pinned : (row.pinnedLlm.bind PinnedLlm.fix).map Prod.fst = some provider)
    (unpaid : isPaid provider = false) : ¬ReleasedTo past id row key := by
  rintro ⟨-, -, response, -, -, outcome⟩
  have same : provider = requesterProvider := Option.some.inj (pinned.symm.trans (released_pin outcome))
  have paid : isPaid requesterProvider = true := by decide
  rw [same, paid] at unpaid
  cases unpaid

/-- In every run, from whatever rows earlier runs have left, with per-user keys: a call of a paid kind
carries the key that was released to it or takes the local branch, exactly where its row runs on the
requester's key or is pinned to `ollama` in this very spelling. -/
theorem released_key_or_ollama_iff {world : World} {past : List Ev} {last next : Sys}
    (run : Run bugalizer (State.boot world) past last) {id : Nat} {call : LlmCall}
    (moves : Moves bugalizer last (.issued id (.remote (.acompletion call))) next)
    {task : Task Op Op.Ans Exn Job} (found : last.tasks id = some task) {actionId : String}
    (own : task.job = .actionTask actionId) (gated : last.world.settings.sonicgridUserKeys = true) :
    ∃ row, last.world.db.ledger.get actionId = some row ∧ (row.kind ≠ .analyzeLocal →
      ((∃ key, ReleasedTo past id row key ∧ call.apiKey = some key) ∨ call.route = .ollama ↔
        row.keyMode = some requester ∨
          (row.pinnedLlm.bind PinnedLlm.fix).map Prod.fst = some "ollama")) := by
  obtain ⟨row, stored, paid, pinned⟩ := paid_on_its_pin run moves found own
  refine ⟨row, stored, fun other => ?_⟩
  have pinned := pinned gated other
  constructor
  · rintro (⟨key, released, -⟩ | route)
    · by_contra neither
      obtain ⟨keyless, -⟩ := not_or.mp neither
      exact unpaid_unreleased pinned (paid.unkeyed gated keyless other) released
    · rw [pinned, paid.locally.mp route]
      exact .inr rfl
  · rintro (requests | local')
    · exact .inl (paid.keyed requests).2
    · rw [pinned] at local'
      exact .inr (paid.locally.mpr (Option.some.inj local'))

/-- The call of the task that was sent its key is on that key. -/
theorem released_key_or_ollama_once_sent :
    ∃ call id row, sentCall Scenario.modelCall.event = some call ∧
      Scenario.repinned.last.world.db.ledger.get "a" = some row ∧ row.keyMode = some requester ∧
      ((∃ key, ReleasedTo (Scenario.pinnedTick.events ++ Scenario.repinned.events) id row key ∧
        call.apiKey = some key) ∨ call.route = .ollama) := by
  have sends : (sentCall Scenario.modelCall.event).isSome = true := by decide +kernel
  obtain ⟨call, sent⟩ := Option.isSome_iff_exists.mp sends
  obtain ⟨id, task, next, moves, found, own⟩ := scene_calls Scenario.modelCall sent (by decide +kernel)
  obtain ⟨row, stored, carries⟩ := released_key_or_ollama_iff
    (Scenario.pinnedTick.run.trans Scenario.repinned.run) moves found own (by decide +kernel)
  have requests : (Scenario.repinned.last.world.db.ledger.get "a").any
      (fun row => row.keyMode == some requester && row.kind != .analyzeLocal) = true := by decide +kernel
  rw [stored, Option.any_some, Bool.and_eq_true] at requests
  have keyed := beq_iff_eq.mp requests.1
  exact ⟨call, id, row, sent, stored, keyed, (carries (bne_iff_ne.mp requests.2)).mpr (.inl keyed)⟩

namespace Scenario

/-- The project's fixes go to a provider that is spelled with a capital. -/
def spelledFix : Database :=
  { awaitingFix with
    projects := ⟨[{ project with fixLlmProvider := some "Ollama", fixLlmModel := some "gpt-4o" }],
      List.nodup_singleton _⟩ }

/-- A `fix_and_open_pr` of the report with the consent to write, as it is listed in this state. -/
def fixListed (state : String) : Json :=
  .obj [("id", .str "a"), ("bugId", .str "bug"), ("kind", .str "fix_and_open_pr"),
    ("state", .str state), ("requestedBy", .null), ("consents", .obj [("repoWrite", .bool true)])]

def relisted (clock : Nat) (state : String) : (op : Op) → op.Env
  | .remote (.readCandidateFiles ..) => .ok (.blank ..)
  | .compute (.formatPrompt _) => .ok ()
  | op => grid clock (fixListed state) 200 op

/-- A process without per-user keys dispatches the action and stops. The next one has them, finds the
row dispatched and starts its task. -/
def turnedOn : Script bugalizer (State.boot (World.initial spelledFix settings)) :=
  ⟨.start (.syncProject "p" false) :: steps 0 (relisted 5 "pending") 28 ++
    .restart ⟨ownKeys, 7, fun _ => "id"⟩ :: .start (.syncProject "p" false) ::
      steps 1 (relisted 9 "claimed") 34 ++ steps 2 (relisted 10 "claimed") 12, by decide +kernel⟩

def keylessCall : Scene bugalizer turnedOn.last := ⟨.advance 2 (relisted 10 "claimed"), by decide +kernel⟩

end Scenario

/-- A row that a process without per-user keys left calls the model on no key, past the local branch. -/
theorem keyless_call_past_ollama :
    ∃ call row, Calls "a" Scenario.turnedOn.last call ∧
      Scenario.turnedOn.last.world.settings.sonicgridUserKeys = true ∧
      Scenario.turnedOn.last.world.db.ledger.get "a" = some row ∧ row.kind = .fixAndOpenPr ∧
      call.apiKey = none ∧ call.route = .passthrough := by
  have sends : (sentCall Scenario.keylessCall.event).any
      (fun call => call.apiKey == none && call.route == .passthrough) = true := by decide +kernel
  obtain ⟨call, sent, shown⟩ := (Option.any_eq_true _ _).mp sends
  obtain ⟨keyless, past⟩ := Bool.and_eq_true_iff.mp shown
  have listed : (Scenario.turnedOn.last.world.db.ledger.get "a").any (fun row => row.kind == .fixAndOpenPr) =
      true := by decide +kernel
  obtain ⟨row, stored, kind⟩ := (Option.any_eq_true _ _).mp listed
  exact ⟨call, row, scene_calls Scenario.keylessCall sent (by decide +kernel), by decide +kernel, stored,
    beq_iff_eq.mp kind, beq_iff_eq.mp keyless, beq_iff_eq.mp past⟩

end Bugalizer
