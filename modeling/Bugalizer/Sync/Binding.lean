import Bugalizer.Sync.Attendance

/-!
# What an authorization binds

What runs for an action runs on the pins of one authorization, which was made while the row of the
action was reserved. The pins are written once and go with the action, from its row to its task and
through every restart.
-/

namespace Bugalizer

set_option autoImplicit false

open Coroutine Program Store

/-- `authorize` refused nothing, at a moment at which the row of the action was reserved. -/
def AuthorizedIn (world : World) (past : List Ev) (actionId : String) (auth : Authorized) : Prop :=
  ∃ (before : List Ev) (task : Nat) (after : List Ev) (state : Sys) (row : TriageAction),
    past = before ++ .answered task (.note (.authorized actionId (some auth))) (.ok ()) :: after ∧
      Run bugalizer (State.boot world) before state ∧
        state.world.db.ledger.get actionId = some row ∧ row.phase = .reserved

structure Terms.Follows (terms : Terms) (auth : Authorized) : Prop where
  pinned : terms.pinnedLlm = some auth.pinned
  once : terms.noAutoRetry = auth.noAutoRetry
  mode : terms.keyMode = auth.keyMode
  granted : ∃ settings, Grants settings terms.kind auth

def Bound (world : World) (past : List Ev) (actionId : String) (terms : Terms) : Prop :=
  ∃ auth, terms.Follows auth ∧ AuthorizedIn world past actionId auth

/-- The action is listed as one of this kind. -/
def listedAs (actionId : String) (kind : Kind) (action : ListedAction) : Prop :=
  action.id = actionId → action.kind = kind

structure Bindings (world : World) (actionId : String) (kind : Kind) (past : List Ev)
    (shadow : AttendanceShadow (listedAs actionId kind)) : Prop where
  kinds : ∀ row, shadow.world.db.ledger.get actionId = some row → row.kind = kind
  rows : ∀ row, shadow.world.db.ledger.get actionId = some row → row.phase ≠ .reserved →
    row.phase ≠ .finished → Bound world past actionId row.terms
  judged : ∀ id actor row auth, shadow.actors id = some actor →
    insightOf actor = .judged row (some auth) → row.actionId = actionId → row.phase = .reserved →
      AuthorizedIn world past actionId auth
  sent : ∀ id actor row, shadow.actors id = some actor → insightOf actor = .sent row →
    row.actionId = actionId → Bound world past actionId row.terms
  tasks : ∀ id actor, shadow.actors id = some actor → (insightOf actor).task = some actionId →
    ∃ terms, shadow.world.db.ledger.StartedOn actionId terms ∧ Bound world past actionId terms

section Binding

variable {world : World} {actionId : String} {kind : Kind} {past : List Ev}

theorem authorized_later {auth : Authorized} (made : AuthorizedIn world past actionId auth) (event : Ev) :
    AuthorizedIn world (past ++ [event]) actionId auth := by
  obtain ⟨before, task, after, state, row, shape, run, found, phase⟩ := made
  refine ⟨before, task, after ++ [event], state, row, ?_, run, found, phase⟩
  rw [shape, List.append_assoc, List.cons_append]

theorem bound_later {terms : Terms} (bound : Bound world past actionId terms) (event : Ev) :
    Bound world (past ++ [event]) actionId terms := by
  obtain ⟨auth, follows, made⟩ := bound
  exact ⟨auth, follows, authorized_later made event⟩

/-- No row of the action has left its reservation yet. -/
def Unclaimed (actionId : String) (kind : Kind) (ledger : TriageActions) : Prop :=
  ∀ row, ledger.get actionId = some row → row.phase = .reserved ∧ row.kind = kind

theorem bindings_boot (first : Unclaimed actionId kind world.db.ledger) :
    Bindings world actionId kind [] (Shadow.boot (insightConduct (listedAs actionId kind)) world) where
  kinds row found := (first row found).2
  rows row found open' := absurd (first row found).1 open'
  judged id actor row auth present := by cases present
  sent id actor row present := by cases present
  tasks id actor present := by cases present

theorem next_sent {listed : ListedAction → Prop} {insight : Insight} {op : Op}
    {answer : Except Exn op.Ans} {row : TriageAction}
    (sent : insightNext listed insight op answer = .sent row) :
    insight = .sent row ∨ ∃ known fields, insight.exact = some known ∧
      op = .ledger (.update known.actionId (some known.phase) fields) ∧
        fields.phase = some .dispatched ∧ row = fields.write known := by
  have yields : insight.yield ≠ .sent row := by
    cases insight with
    | _ =>
        intro same
        cases same
  have afterwards : ∀ op, insight.after op = .sent row → insight = .sent row := by
    intro op same
    unfold Insight.after at same
    split at same
    · exact absurd same yields
    · exact same
  have completes : ∀ prompt, insight.completed prompt ≠ .sent row := by
    intro prompt same
    cases insight with
    | working row key =>
        simp only [Insight.completed] at same
        split at same
        · cases same
        · cases same
    | proposing row key =>
        simp only [Insight.completed] at same
        split at same
        · cases same
        · cases same
    | _ => exact yields same
  have spawns : insight.spawned ≠ .sent row := by
    cases insight with
    | _ =>
        intro same
        cases same
  cases answer with
  | error error =>
      simp only [insightNext] at sent
      split at sent
      · cases sent
      split at sent
      · cases insight with
        | engaged row => cases sent
        | _ => exact absurd sent yields
      · exact absurd sent (completes _)
      · exact absurd sent spawns
      · exact .inl (afterwards _ sent)
  | ok value =>
      unfold insightNext at sent
      dsimp only at sent
      split at sent
      · unfold Insight.found at sent
        split at sent
        · cases sent
        · cases sent
        · split at sent
          · split at sent
            · cases sent
            · cases sent
          · cases sent
        · split at sent
          · split at sent
            · cases sent
            · cases sent
          · cases sent
      · unfold Insight.missing at sent
        split at sent
        · split at sent
          · cases sent
          · exact .inl sent
        · exact .inl sent
      · rename_i id expected fields hit
        unfold Insight.updated at sent
        split at sent
        swap
        · exact .inl sent
        rename_i known seen
        split at sent
        swap
        · exact absurd sent yields
        rename_i same
        split at sent
        · split at sent
          · rename_i phase
            split at sent
            · rename_i dispatched
              cases sent
              rw [← same, ← phase]
              exact .inr ⟨known, fields, seen, rfl, dispatched, rfl⟩
            · cases sent
          · cases sent
        · split at sent
          · cases sent
          · exact .inl sent
      · exact absurd sent yields
      · exact absurd sent yields
      · cases insight with
        | read known =>
            simp only [Insight.decided] at sent
            split at sent
            · cases sent
            · cases sent
        | _ => exact .inl sent
      · cases insight with
        | keyed row key =>
            cases key with
            | none => cases sent
            | some key => cases sent
        | engaged row => cases sent
        | _ => exact .inl sent
      · cases insight with
        | working row key => cases sent
        | _ => exact .inl sent
      · cases insight with
        | read row => cases sent
        | sent row => cases sent
        | _ => exact .inl sent
      · cases insight with
        | engaged row =>
            simp only [Insight.answeredKey] at sent
            split at sent
            · cases sent
            · cases sent
        | _ => exact absurd sent yields
      · exact absurd sent (completes _)
      · split at sent
        · exact absurd sent yields
        · cases sent
      · exact absurd sent spawns
      · exact .inl (afterwards _ sent)

/-- An update that dispatches is the one of `_dispatch`. -/
theorem dispatch_shape {id : String} {expected : LedgerPhase} {fields : TriageActionFields}
    (program : programOp (.ledger (.update id (some expected) fields)))
    (dispatches : fields.phase = some .dispatched) :
    underway expected ∧ ∃ now, fields = dispatchFields now := by
  have shape := program_ledger program
  cases shape with
  | dispatched id phase now open' => exact ⟨open', now, rfl⟩
  | attempted id kind attempts => cases dispatches
  | intent id auth now => cases dispatches
  | fixDone id proposalId phase open' => cases dispatches

theorem underway_open {phase : LedgerPhase} (open' : underway phase) :
    phase ≠ .reserved ∧ phase ≠ .finished := by
  obtain same | same := open'
  · rw [same]
    simp
  · rw [same]
    simp

theorem bindings_rows {past' : List Ev} {op : Op} {answer : Except Exn op.Ans} {before after : TriageActions}
    (kinds : ∀ row, before.get actionId = some row → row.kind = kind)
    (rows : ∀ row, before.get actionId = some row → row.phase ≠ .reserved → row.phase ≠ .finished →
      Bound world past' actionId row.terms)
    (moves : RowMoves actionId op answer (before.get actionId) (after.get actionId))
    (reserves : ∀ projectId reportId kind' params user,
      op = .ledger (.reserve actionId projectId reportId kind' params user) → kind' = kind)
    (pins : ∀ auth now row, before.get actionId = some row →
      op = .ledger (.update actionId (some .reserved) (intentFields auth now)) → row.phase = .reserved →
        AuthorizedIn world past' actionId auth ∧ ∃ settings, Grants settings row.kind auth) :
    (∀ row, after.get actionId = some row → row.kind = kind) ∧
      ∀ row, after.get actionId = some row → row.phase ≠ .reserved → row.phase ≠ .finished →
        Bound world past' actionId row.terms := by
  generalize was : before.get actionId = earlier at moves kinds rows pins
  generalize reached : after.get actionId = later at moves
  cases moves with
  | absent => exact ⟨fun _ found => (nomatch found), fun _ found => (nomatch found)⟩
  | same _ _ earlier after phase terms =>
      have same : after.kind = earlier.kind := congrArg Terms.kind terms
      constructor
      · intro row found
        cases found
        rw [same]
        exact kinds earlier rfl
      · intro row found open' unfinished
        cases found
        rw [terms]
        rw [phase] at open' unfinished
        exact rows earlier rfl open' unfinished
  | reserved projectId reportId kind' params user now =>
      constructor
      · intro row found
        cases found
        exact reserves projectId reportId kind' params user rfl
      · intro row found open'
        cases found
        exact absurd rfl open'
  | dropped => exact ⟨fun _ found => (nomatch found), fun _ found => (nomatch found)⟩
  | pinned auth now earlier phase =>
      constructor
      · intro row found
        cases found
        exact kinds earlier rfl
      · intro row found open' unfinished
        cases found
        obtain ⟨made, grants⟩ := pins auth now earlier rfl rfl phase
        exact ⟨auth, ⟨rfl, rfl, rfl, grants⟩, made⟩
  | dispatched now earlier open' =>
      constructor
      · intro row found
        cases found
        exact kinds earlier rfl
      · intro row found _ _
        cases found
        exact rows earlier rfl (underway_open open').1 (underway_open open').2
  | advanced _ _ earlier after terms phase =>
      have same : after.kind = earlier.kind := congrArg Terms.kind terms
      constructor
      · intro row found
        cases found
        rw [same]
        exact kinds earlier rfl
      · intro row found _ unfinished
        cases found
        obtain ⟨open', -⟩ | finished := phase
        · rw [terms]
          exact rows earlier rfl (underway_open open').1 (underway_open open').2
        · exact absurd finished unfinished

theorem bindings_quiet {before after : AttendanceShadow (listedAs actionId kind)} {event : Ev}
    (bindings : Bindings world actionId kind past before)
    (ledger : after.world.db.ledger = before.world.db.ledger)
    (actors : ∀ id actor, after.actors id = some actor →
      (∃ old, before.actors id = some old ∧ insightOf old = insightOf actor) ∨
        ∃ job, insightOf actor = Insight.initial job ∧ job ≠ .actionTask actionId) :
    Bindings world actionId kind (past ++ [event]) after where
  kinds row found := bindings.kinds row (ledger ▸ found)
  rows row found open' unfinished :=
    bound_later (bindings.rows row (ledger ▸ found) open' unfinished) event
  judged id actor row auth present judged keyed phase := by
    obtain ⟨old, was, same⟩ | ⟨job, same, -⟩ := actors id actor present
    · exact authorized_later (bindings.judged id old row auth was (same ▸ judged) keyed phase) event
    · rw [same] at judged
      cases job with
      | _ => cases judged
  sent id actor row present sent keyed := by
    obtain ⟨old, was, same⟩ | ⟨job, same, -⟩ := actors id actor present
    · exact bound_later (bindings.sent id old row was (same ▸ sent) keyed) event
    · rw [same] at sent
      cases job with
      | _ => cases sent
  tasks id actor present task := by
    obtain ⟨old, was, same⟩ | ⟨job, same, other⟩ := actors id actor present
    · obtain ⟨terms, started, bound⟩ := bindings.tasks id old was (same ▸ task)
      rw [ledger]
      exact ⟨terms, started, bound_later bound event⟩
    · rw [same] at task
      exact absurd (initial_task task) other

section Answered

variable {before : AttendanceShadow (listedAs actionId kind)} {id : Nat}
  {actor : Actor Op (insightConduct (listedAs actionId kind)).Ghost Job}

theorem dispatched_bound {insight : Insight} {op : Op} {row known : TriageAction}
    {fields : TriageActionFields} {ledger : TriageActions}
    (rows : ∀ row, ledger.get actionId = some row → row.phase ≠ .reserved → row.phase ≠ .finished →
      Bound world past actionId row.terms)
    (exact : insight.Exact ledger) (program : programOp op)
    (known' : insight.exact = some known)
    (same : op = .ledger (.update known.actionId (some known.phase) fields))
    (dispatches : fields.phase = some .dispatched) (written : row = fields.write known)
    (keyed : row.actionId = actionId) : Bound world past actionId row.terms := by
  subst same
  obtain ⟨open', now, rfl⟩ := dispatch_shape program dispatches
  subst written
  have keyed : known.actionId = actionId := keyed
  have stored := exact known known'
  rw [keyed] at stored
  exact rows known stored (underway_open open').1 (underway_open open').2

/-- An answered operation, but for a task it starts. -/
theorem bindings_resumed {op : Op} {env : op.Env} {answer : Except Exn op.Ans} {after : World}
    {state : Sys} (run : Run bugalizer (State.boot world) past state)
    (there : state.world = before.world) (attended : Attended before)
    (bindings : Bindings world actionId kind past before) (present : before.actors id = some actor)
    (permitted : (insightConduct (listedAs actionId kind)).discipline.allowed actor.ghost op)
    (pending : ∀ other, actor.waiting = some other → other = op)
    (ran : op.exec id before.fresh env before.world = some (answer, after)) :
    Bindings world actionId kind (past ++ [.answered id op answer])
      (before.resume (insightConduct (listedAs actionId kind)) id actor op answer after) := by
  obtain ⟨program, allowed⟩ := allowed_attends permitted
  have attends := attended.attends id actor present
  have moves (other : String) := row_moves other program (op_ledger (exec_moves ran))
  have awake (waits : op.suspends = false) : actor.waiting = none := by
    cases waiting : actor.waiting with
    | none => rfl
    | some other =>
        have suspends := attends.waits other waiting
        rw [pending other waiting, waits] at suspends
        cases suspends
  have inside (seen : (insightOf actor) ≠ .outside) := inside_allowed attends.sound.sane seen allowed
  have rows := @bindings_rows world actionId kind (past ++ [.answered id op answer]) op answer
    before.world.db.ledger after.db.ledger bindings.kinds
    (fun row found open' unfinished => bound_later (bindings.rows row found open' unfinished) _)
    (moves actionId)
    (by
      intro projectId reportId kind' params user same
      subst same
      have seen : insightOf actor ≠ .outside := by
        intro outside
        rw [outside] at allowed
        cases outside_allowed allowed
      obtain ⟨action, lists, named, kinds⟩ := inside seen
      rw [← kinds]
      exact lists named)
    (by
      intro auth now row found same phase
      subst same
      have seen : insightOf actor ≠ .outside := by
        intro outside
        rw [outside] at allowed
        cases outside_allowed allowed
      obtain ⟨known, granted, later, judged, keyed, fields⟩ := inside seen
      have stored := attends.exact (awake rfl) known (by rw [judged]; rfl)
      rw [keyed, found] at stored
      cases stored
      obtain ⟨action, lists, named, grants⟩ := attends.granted row granted judged
      have auths := intent_fields_inj fields
      subst auths
      refine ⟨authorized_later (bindings.judged id actor row auth present judged keyed phase) _, ?_⟩
      rw [lists (named.trans keyed)] at grants
      rw [bindings.kinds row found]
      exact ⟨_, grants⟩)
  constructor
  · exact rows.1
  · exact rows.2
  · intro other rival row auth found judged keyed phase
    obtain ⟨rfl, same⟩ | ⟨-, was⟩ := updated_found found
    · cases same
      obtain known | ⟨reads, rfl⟩ := next_judged judged
      · exact authorized_later (bindings.judged _ _ row auth present known keyed phase) _
      · have reads : insightOf actor = .read row := reads
        have stored := attends.exact (awake rfl) row (by rw [reads]; rfl)
        obtain ⟨value, answered⟩ := exec_never_fails rfl ran
        cases answered
        rw [keyed] at stored ⊢
        exact ⟨past, _, [], state, row, rfl, run, by rw [there]; exact stored, phase⟩
    · exact authorized_later (bindings.judged other rival row auth was judged keyed phase) _
  · intro other rival row found sent keyed
    obtain ⟨rfl, same⟩ | ⟨-, was⟩ := updated_found found
    · cases same
      obtain known | ⟨known, fields, seen, same, dispatches, written⟩ := next_sent sent
      · exact bound_later (bindings.sent _ _ row present known keyed) _
      · have waits : op.suspends = false := by
          rw [same]
          rfl
        have bound := @dispatched_bound world actionId past _ op row known fields _
          bindings.rows (attends.exact (awake waits)) program seen same dispatches written keyed
        exact bound_later bound _
    · exact bound_later (bindings.sent other rival row was sent keyed) _
  · intro other rival found task
    have carried : ∀ (other : Nat) (rival : Actor Op (insightConduct (listedAs actionId kind)).Ghost Job),
        before.actors other = some rival → (insightOf rival).task = some actionId →
          ∃ terms, after.db.ledger.StartedOn actionId terms ∧
            Bound world (past ++ [.answered id op answer]) actionId terms := by
      intro other rival was task
      obtain ⟨terms, started, bound⟩ := bindings.tasks other rival was task
      exact ⟨terms, started_kept (moves actionId) started, bound_later bound _⟩
    obtain ⟨rfl, same⟩ | ⟨-, was⟩ := updated_found found
    · cases same
      exact carried _ actor present (next_task task)
    · exact carried other rival was task

theorem bindings_step {event : Ev} {after : AttendanceShadow (listedAs actionId kind)} {state : Sys}
    (run : Run bugalizer (State.boot world) past state) (there : state.world = before.world)
    (attended : Attended before) (bindings : Bindings world actionId kind past before)
    (moves : ShadowMoves (insightConduct (listedAs actionId kind)) before event after) :
    Bindings world actionId kind (past ++ [event]) after := by
  cases moves with
  | started job rooted =>
      refine bindings_quiet bindings ?_ ?_
      · rfl
      intro other rival present
      obtain ⟨-, same⟩ | ⟨-, was⟩ := updated_found present
      · cases same
        refine .inr ⟨job, rfl, ?_⟩
        intro task
        subst task
        cases rooted
      · exact .inl ⟨rival, was, rfl⟩
  | issued id actor op found running allowed suspends awake =>
      refine bindings_quiet bindings ?_ ?_
      · rfl
      intro other rival present
      obtain ⟨rfl, same⟩ | ⟨-, was⟩ := updated_found present
      · cases same
        exact .inl ⟨actor, found, rfl⟩
      · exact .inl ⟨rival, was, rfl⟩
  | answered id actor op env answer world' found running permitted ready pending ran =>
      have executed : op.exec id before.fresh env before.world = some (answer, world') := ran
      have resumed := bindings_resumed run there attended bindings found permitted pending executed
      cases op with
      | createTask created job =>
          obtain ⟨program, allowed⟩ := allowed_attends permitted
          have attends := attended.attends id actor found
          have seen : insightOf actor ≠ .outside := by
            intro outside
            rw [outside] at allowed
            cases outside_allowed allowed
          have made := inside_allowed attends.sound.sane seen allowed
          have moves := row_moves actionId program (op_ledger (exec_moves executed))
          have old : ∀ other (rival : Actor Op (insightConduct (listedAs actionId kind)).Ghost Job),
              Function.update (before.resume (insightConduct (listedAs actionId kind)) id actor
                (.createTask created job) answer world').actors before.fresh
                  (some ⟨job, ⟨world'.settings, Insight.initial job⟩, none⟩) other = some rival →
              insightOf rival = Insight.initial job ∨
                (before.resume (insightConduct (listedAs actionId kind)) id actor
                  (.createTask created job) answer world').actors other = some rival := by
            intro other rival present
            obtain ⟨-, same⟩ | ⟨-, was⟩ := updated_found present
            · cases same
              exact .inl rfl
            · exact .inr was
          constructor
          · exact resumed.kinds
          · exact resumed.rows
          · intro other rival row auth present judged
            obtain same | was := old other rival present
            · rw [same] at judged
              cases job with
              | _ => cases judged
            · exact resumed.judged other rival row auth was judged
          · intro other rival row present sent
            obtain same | was := old other rival present
            · rw [same] at sent
              cases job with
              | _ => cases sent
            · exact resumed.sent other rival row was sent
          · intro other rival present task
            obtain same | was := old other rival present
            · rw [same] at task
              have mine := initial_task task
              subst mine
              obtain ⟨same, row, sent, keyed, llm⟩ | other := made
              · cases same
                have started := attends.sound.sent row sent
                have bound := bindings.sent id actor row found sent keyed
                rw [keyed] at started
                exact ⟨row.terms, started_kept moves started, bound_later bound _⟩
              · cases other
            · exact resumed.tasks other rival was task
      | _ => exact resumed
  | ended id actor found running awake finished =>
      refine bindings_quiet bindings ?_ ?_
      · rfl
      intro other rival present
      obtain ⟨-, same⟩ | ⟨-, was⟩ := updated_found present
      · cases same
      · exact .inl ⟨rival, was, rfl⟩
  | restarted boot =>
      refine bindings_quiet bindings ?_ ?_
      · rfl
      intro other rival present
      cases present

end Answered

end Binding

end Bugalizer
