import Bugalizer.Coroutine.Account
import Bugalizer.Sync.Attendance

/-!
# What an action spends

A task of an action enters `propose_fix` once and asks for the requester's key once. The right to
do so comes with the write that dispatches the action. It is handed to the task that the write
starts, and a restart takes it away. An action that is never retried is dispatched once.
-/

namespace Bugalizer

set_option autoImplicit false

open Coroutine Program Store

inductive Spending where
  | proposal | key
deriving DecidableEq

namespace Spending

def owes : Spending → Insight → Option String
  | _, .sent row => some row.actionId
  | _, .tasked actionId => some actionId
  | _, .engaged row => some row.actionId
  | .proposal, .keyed row _ => some row.actionId
  | .proposal, .working row _ => some row.actionId
  | _, _ => none

/-- `propose_fix` is entered on behalf of the action, or the request for its key is sent. -/
def spends (actionId : String) : Spending → Ev → Bool
  | .proposal, .answered _ (.note (.proposeFix _ (some trigger))) _ => trigger == actionId
  | .key, .issued _ (.remote (.credential _ asked)) => asked == actionId
  | _, _ => false

/-- A request that is counted when it is sent. -/
def counted : Spending → Op → Bool
  | .key, .remote (.credential ..) => true
  | _, _ => false

end Spending

section Spending

variable {listed : ListedAction → Prop} {spending : Spending} {actionId : String}

def inHand (spending : Spending) (actor : Actor Op (insightConduct listed).Ghost Job) : Option String :=
  if actor.waiting.any spending.counted then none else spending.owes (insightOf actor)

def Hands (spending : Spending) (actionId : String) (shadow : AttendanceShadow listed) (id : Nat) : Prop :=
  ∃ actor, shadow.actors id = some actor ∧ inHand spending actor = some actionId

theorem in_hand_owes {actor : Actor Op (insightConduct listed).Ghost Job}
    (hand : inHand spending actor = some actionId) : spending.owes (insightOf actor) = some actionId := by
  unfold inHand at hand
  split at hand
  · cases hand
  · exact hand

theorem owes_started {ledger : TriageActions} {insight : Insight} (sound : insight.Sound ledger)
    (owes : spending.owes insight = some actionId) : ∃ terms, ledger.StartedOn actionId terms := by
  have engaged : ∀ row, insight.engagement = some row → row.actionId = actionId →
      ∃ terms, ledger.StartedOn actionId terms := by
    intro row engaged same
    have started := (sound.engaged row engaged).1
    rw [same] at started
    exact ⟨row.terms, started⟩
  cases insight with
  | sent row =>
      have started := sound.sent row rfl
      cases spending with
      | _ =>
          cases owes
          exact ⟨row.terms, started⟩
  | tasked id =>
      obtain ⟨terms, started, llm⟩ := sound.tasked id rfl
      cases spending with
      | _ =>
          cases owes
          exact ⟨terms, started⟩
  | engaged row =>
      apply engaged row rfl
      cases spending with
      | _ =>
          cases owes
          rfl
  | keyed row key =>
      cases spending with
      | proposal =>
          apply engaged row rfl
          cases owes
          rfl
      | key => cases owes
  | working row key =>
      cases spending with
      | proposal =>
          apply engaged row rfl
          cases owes
          rfl
      | key => cases owes
  | _ =>
      cases spending with
      | _ => cases owes

theorem yield_owes {insight : Insight} (owes : spending.owes insight.yield = some actionId) :
    spending.owes insight = some actionId := by
  cases insight with
  | sent row =>
      cases spending with
      | _ => cases owes
  | read row =>
      cases spending with
      | _ => cases owes
  | judged row auth =>
      cases spending with
      | _ => cases owes
  | _ => exact owes

theorem after_owes {insight : Insight} {op : Op}
    (owes : spending.owes (insight.after op) = some actionId) :
    spending.owes insight = some actionId := by
  unfold Insight.after at owes
  split at owes
  · exact yield_owes owes
  · exact owes

def Op.dispatches (actionId : String) (expected : LedgerPhase) (op : Op) : Prop :=
  ∃ fields : TriageActionFields, op = .ledger (.update actionId (some expected) fields) ∧
    fields.phase = some .dispatched

theorem found_owes {insight : Insight} {row : TriageAction}
    (owes : spending.owes (insight.found row) = some actionId) :
    spending.owes insight = some actionId := by
  have reads : spending.owes (.read row) ≠ some actionId := by
    cases spending with
    | _ =>
        intro same
        cases same
  have loses : spending.owes .lost ≠ some actionId := by
    cases spending with
    | _ =>
        intro same
        cases same
  unfold Insight.found at owes
  split at owes
  · exact owes
  · exact absurd owes loses
  · split at owes
    · rename_i same
      split at owes
      · exact absurd owes loses
      · cases spending with
        | _ =>
            rw [← owes]
            exact congrArg some same.symm
    · exact owes
  · split at owes
    · split at owes
      · exact absurd owes loses
      · exact absurd owes reads
    · exact absurd owes reads

theorem updated_owes {insight : Insight} {id : String} {expected : LedgerPhase}
    {fields : TriageActionFields} {hit : Bool}
    (owes : spending.owes (insight.updated id expected fields hit) = some actionId) :
    spending.owes insight = some actionId ∨
      Op.dispatches actionId expected (.ledger (.update id (some expected) fields)) ∧
        ∃ row, insight.exact = some row ∧ row.actionId = actionId ∧ row.phase = expected := by
  unfold Insight.updated at owes
  split at owes
  swap
  · exact .inl owes
  rename_i known seen
  split at owes
  swap
  · exact .inl (yield_owes owes)
  rename_i same
  split at owes
  · split at owes
    · rename_i phase
      split at owes
      · rename_i dispatched
        have keyed : (fields.write known).actionId = actionId := by
          cases spending with
          | _ =>
              cases owes
              rfl
        have keyed : known.actionId = actionId := keyed
        subst keyed
        rw [← same]
        exact .inr ⟨⟨fields, rfl, dispatched⟩, known, seen, rfl, phase⟩
      · cases spending with
        | _ => cases owes
    · cases spending with
      | _ => cases owes
  · split at owes
    · cases spending with
      | _ => cases owes
    · exact .inl owes

theorem completed_owes {insight : Insight} {prompt : Prompt}
    (owes : spending.owes (insight.completed prompt) = some actionId) :
    spending.owes insight = some actionId := by
  cases insight with
  | working row key =>
      simp only [Insight.completed] at owes
      split at owes
      · cases spending with
        | _ => cases owes
      · exact owes
  | proposing row key =>
      simp only [Insight.completed] at owes
      split at owes
      · cases spending with
        | _ => cases owes
      · exact owes
  | _ => exact yield_owes owes

/-- A right that a coroutine has after an operation it had before, but for that of a dispatch. -/
theorem next_owes {insight : Insight} {op : Op} {answer : Except Exn op.Ans}
    (owes : spending.owes (insightNext listed insight op answer) = some actionId) :
    spending.owes insight = some actionId ∨ ∃ expected, op.dispatches actionId expected ∧
      ∃ row, insight.exact = some row ∧ row.actionId = actionId ∧ row.phase = expected := by
  have loses : spending.owes .lost ≠ some actionId := by
    cases spending with
    | _ =>
        intro same
        cases same
  cases answer with
  | error error =>
      apply Or.inl
      simp only [insightNext] at owes
      split at owes
      · exact absurd owes loses
      split at owes
      · cases insight with
        | engaged row =>
            cases spending with
            | proposal => exact owes
            | key => cases owes
        | _ => exact yield_owes owes
      · exact completed_owes owes
      · cases insight with
        | sent row =>
            cases spending with
            | _ => cases owes
        | _ => exact owes
      · exact after_owes owes
  | ok value =>
      unfold insightNext at owes
      dsimp only at owes
      split at owes
      · exact .inl (found_owes owes)
      · unfold Insight.missing at owes
        split at owes
        · split at owes
          · exact absurd owes loses
          · exact .inl owes
        · exact .inl owes
      · obtain same | fresh := updated_owes owes
        · exact .inl same
        · exact .inr ⟨_, fresh⟩
      · exact .inl (yield_owes owes)
      · exact .inl (yield_owes owes)
      · cases insight with
        | read row =>
            simp only [Insight.decided] at owes
            split at owes
            · cases spending with
              | _ => cases owes
            · exact .inl owes
        | _ => exact .inl owes
      · cases insight with
        | engaged row =>
            cases spending with
            | proposal => exact .inl owes
            | key => cases owes
        | keyed row key =>
            cases key with
            | none => exact .inl owes
            | some key =>
                cases spending with
                | proposal => exact .inl owes
                | key => cases owes
        | _ => exact .inl owes
      · cases insight with
        | working row key =>
            cases spending with
            | _ => cases owes
        | _ => exact .inl owes
      · cases insight with
        | read row =>
            cases spending with
            | _ => cases owes
        | sent row =>
            cases spending with
            | _ => cases owes
        | _ => exact .inl owes
      · cases insight with
        | engaged row =>
            simp only [Insight.answeredKey] at owes
            split at owes
            · cases spending with
              | proposal => exact .inl owes
              | key => cases owes
            · cases spending with
              | proposal => exact .inl owes
              | key => cases owes
        | _ => exact .inl (yield_owes owes)
      · exact .inl (completed_owes owes)
      · split at owes
        · exact .inl (yield_owes owes)
        · exact absurd owes loses
      · cases insight with
        | sent row =>
            cases spending with
            | _ => cases owes
        | _ => exact .inl owes
      · exact .inl (after_owes owes)

theorem counted_owes {row : TriageAction} {op : Op} {answer : Except Exn op.Ans}
    (counted : spending.counted op = true) :
    spending.owes (insightNext listed (.engaged row) op answer) ≠ some actionId := by
  intro owes
  cases spending with
  | proposal => cases counted
  | key =>
      cases op with
      | remote asked =>
          cases asked with
          | credential endpoint id =>
              cases answer with
              | error error => cases owes
              | ok response =>
                  simp only [insightNext, Insight.answeredKey] at owes
                  split at owes
                  · cases owes
                  · cases owes
          | _ => cases counted
      | _ => cases counted

/-- How often an action has spent. -/
def timesSpent (spending : Spending) (actionId : String) (past : List Ev) : Nat :=
  past.countP (spending.spends actionId)

structure Accounted (spending : Spending) (actionId : String) (past : List Ev)
    (shadow : AttendanceShadow listed) : Prop where
  begun : timesSpent spending actionId past ≠ 0 →
    ∃ terms, shadow.world.db.ledger.StartedOn actionId terms
  once : ∀ terms, shadow.world.db.ledger.StartedOn actionId terms → terms.noAutoRetry = true →
    Account (timesSpent spending actionId past) (Hands spending actionId shadow)

theorem accounted_boot (spending : Spending) (actionId : String) (world : World) :
    Accounted spending actionId [] (Shadow.boot (insightConduct listed) world) where
  begun spent := absurd rfl spent
  once terms started once := by
    apply account_closed
    · exact Nat.zero_le 1
    · intro id hand
      obtain ⟨actor, found, owes⟩ := hand
      cases found

theorem hands_started {shadow : AttendanceShadow listed} {id : Nat} (attended : Attended shadow)
    (hand : Hands spending actionId shadow id) :
    ∃ terms, shadow.world.db.ledger.StartedOn actionId terms := by
  obtain ⟨actor, found, owes⟩ := hand
  exact owes_started (attended.attends id actor found).sound (in_hand_owes owes)

section Accounts

variable {before after : AttendanceShadow listed} {past : List Ev} {event : Ev}

theorem times_spent_snoc (spending : Spending) (actionId : String) (past : List Ev) (event : Ev) :
    timesSpent spending actionId (past ++ [event]) =
      timesSpent spending actionId past + if spending.spends actionId event then 1 else 0 := by
  unfold timesSpent
  rw [List.countP_append, List.countP_singleton]

/-- A step that spends nothing and gives nobody a right. -/
theorem accounted_kept (attended : Attended before) (held : Accounted spending actionId past before)
    (quiet : spending.spends actionId event = false)
    (stays : ∀ terms, before.world.db.ledger.StartedOn actionId terms →
      after.world.db.ledger.StartedOn actionId terms)
    (fewer : ∀ id, Hands spending actionId after id → Hands spending actionId before id) :
    Accounted spending actionId (past ++ [event]) after := by
  have same : timesSpent spending actionId (past ++ [event]) = timesSpent spending actionId past := by
    rw [times_spent_snoc, quiet]
    rfl
  constructor
  · rw [same]
    intro spent
    obtain ⟨terms, started⟩ := held.begun spent
    exact ⟨terms, stays terms started⟩
  · rw [same]
    intro terms started once
    by_cases begun : ∃ earlier, before.world.db.ledger.StartedOn actionId earlier
    · obtain ⟨earlier, was⟩ := begun
      have equal := started_on_unique started (stays earlier was)
      subst equal
      exact (held.once terms was once).kept fewer
    · apply account_closed
      · by_contra many
        exact begun (held.begun (by omega))
      · intro id hand
        exact begun (hands_started attended (fewer id hand))

theorem accounted_paid {owner : Nat} (attended : Attended before)
    (held : Accounted spending actionId past before)
    (stays : ∀ terms, before.world.db.ledger.StartedOn actionId terms →
      after.world.db.ledger.StartedOn actionId terms)
    (owns : Hands spending actionId before owner)
    (gone : ∀ id, Hands spending actionId after id → Hands spending actionId before id ∧ id ≠ owner) :
    Accounted spending actionId (past ++ [event]) after := by
  obtain ⟨earlier, was⟩ := hands_started attended owns
  constructor
  · exact fun _ => ⟨earlier, stays earlier was⟩
  · intro terms started once
    have equal := started_on_unique started (stays earlier was)
    subst equal
    have account := held.once terms was once
    rw [times_spent_snoc]
    split
    · exact account.paid owns gone
    · exact account.kept fun id hand => (gone id hand).1

theorem accounted_passed {owner heir : Nat} (attended : Attended before)
    (held : Accounted spending actionId past before)
    (quiet : spending.spends actionId event = false)
    (stays : ∀ terms, before.world.db.ledger.StartedOn actionId terms →
      after.world.db.ledger.StartedOn actionId terms)
    (owns : Hands spending actionId before owner)
    (gone : ∀ id, Hands spending actionId after id →
      (Hands spending actionId before id ∧ id ≠ owner) ∨ id = heir) :
    Accounted spending actionId (past ++ [event]) after := by
  obtain ⟨earlier, was⟩ := hands_started attended owns
  constructor
  · exact fun _ => ⟨earlier, stays earlier was⟩
  · intro terms started once
    have equal := started_on_unique started (stays earlier was)
    subst equal
    rw [times_spent_snoc, quiet]
    exact (held.once terms was once).passed owns gone

theorem accounted_opened {owner : Nat} (attended : Attended before)
    (held : Accounted spending actionId past before)
    (quiet : spending.spends actionId event = false)
    (first : ∀ terms, after.world.db.ledger.StartedOn actionId terms → terms.noAutoRetry = true →
      ∀ earlier, ¬before.world.db.ledger.StartedOn actionId earlier)
    (stays : ∀ terms, before.world.db.ledger.StartedOn actionId terms →
      after.world.db.ledger.StartedOn actionId terms)
    (only : ∀ id, Hands spending actionId after id → Hands spending actionId before id ∨ id = owner) :
    Accounted spending actionId (past ++ [event]) after := by
  have same : timesSpent spending actionId (past ++ [event]) = timesSpent spending actionId past := by
    rw [times_spent_snoc, quiet]
    rfl
  constructor
  · rw [same]
    intro spent
    obtain ⟨terms, started⟩ := held.begun spent
    exact ⟨terms, stays terms started⟩
  · rw [same]
    intro terms started once
    have fresh := first terms started once
    have unspent : timesSpent spending actionId past = 0 := by
      by_contra spent
      obtain ⟨earlier, was⟩ := held.begun spent
      exact fresh earlier was
    rw [unspent]
    apply account_opened
    intro id hand
    obtain had | owns := only id hand
    · obtain ⟨earlier, was⟩ := hands_started attended had
      exact absurd was (fresh earlier)
    · exact owns

end Accounts

theorem initial_owes {job : Job} (owes : spending.owes (Insight.initial job) = some actionId) :
    job = .actionTask actionId := by
  cases job with
  | actionTask id =>
      cases spending with
      | _ =>
          cases owes
          rfl
  | _ =>
      cases spending with
      | _ => cases owes

section Steps

variable {before : AttendanceShadow listed} {past : List Ev} {id : Nat}
  {actor : Actor Op (insightConduct listed).Ghost Job}

theorem awake_hands (present : before.actors id = some actor) (awake : actor.waiting = none)
    (owes : spending.owes (insightOf actor) = some actionId) : Hands spending actionId before id := by
  refine ⟨actor, present, ?_⟩
  unfold inHand
  rw [awake]
  exact owes

theorem hands_begun {job : Job} {other : Nat}
    (hand : Hands spending actionId (before.begin (insightConduct listed) job) other) :
    (other = before.fresh ∧ job = .actionTask actionId) ∨ Hands spending actionId before other := by
  obtain ⟨rival, found, owes⟩ := hand
  obtain ⟨here, same⟩ | ⟨-, was⟩ := updated_found found
  · cases same
    exact .inl ⟨here, initial_owes (in_hand_owes owes)⟩
  · exact .inr ⟨rival, was, owes⟩

theorem hands_resumed {op : Op} {answer : Except Exn op.Ans} {world : World} {other : Nat}
    (hand : Hands spending actionId
      (before.resume (insightConduct listed) id actor op answer world) other) :
    (other = id ∧ spending.owes (insightNext listed (insightOf actor) op answer) = some actionId) ∨
      (other ≠ id ∧ Hands spending actionId before other) := by
  obtain ⟨rival, found, owes⟩ := hand
  obtain ⟨here, same⟩ | ⟨apart, was⟩ := updated_found found
  · cases same
    exact .inl ⟨here, in_hand_owes owes⟩
  · exact .inr ⟨apart, rival, was, owes⟩

theorem accounted_issued {op : Op} {after : AttendanceShadow listed} (attended : Attended before)
    (held : Accounted spending actionId past before)
    (moves : ShadowMoves (insightConduct listed) before (.issued id op) after) :
    Accounted spending actionId (past ++ [.issued id op]) after := by
  cases moves with
  | issued id actor op found running permitted suspends awake =>
  obtain ⟨program, allowed⟩ := allowed_attends permitted
  have hands : ∀ other, Hands spending actionId
      (before.await (insightConduct listed) id actor op) other →
        Hands spending actionId before other ∧ (other = id → spending.counted op = false) := by
    intro other hand
    obtain ⟨rival, present, owes⟩ := hand
    obtain ⟨here, same⟩ | ⟨apart, was⟩ := updated_found present
    · subst here
      cases same
      have has : spending.owes (insightOf actor) = some actionId := by
        have owed := in_hand_owes owes
        exact owed
      constructor
      · exact awake_hands found awake has
      · intro _
        unfold inHand at owes
        split at owes
        · cases owes
        · rename_i uncounted
          simpa using uncounted
    · exact ⟨⟨rival, was, owes⟩, fun here => absurd here apart⟩
  cases spends : spending.spends actionId (.issued id op) with
  | false =>
      apply accounted_kept attended held spends
      · exact fun _ started => started
      · exact fun other hand => (hands other hand).1
  | true =>
      unfold Spending.spends at spends
      split at spends
      · rename_i same
        cases same
      · rename_i endpoint asked same
        cases same
        have same : asked = actionId := by simpa using spends
        subst same
        have attends := attended.attends id actor found
        have inside : insightOf actor ≠ .outside := by
          intro outside
          rw [outside] at allowed
          cases outside_allowed allowed
        obtain ⟨row, engaged, keyed, requester⟩ := inside_allowed attends.sound.sane inside allowed
        have owns : Hands .key asked before id := by
          apply awake_hands found awake
          rw [engaged, ← keyed]
          rfl
        refine accounted_paid attended held ?_ owns ?_
        · exact fun _ started => started
        intro other hand
        obtain ⟨had, uncounted⟩ := hands other hand
        refine ⟨had, ?_⟩
        intro here
        cases uncounted here
      · cases spends

/-- Who dispatches an action that is never retried finds it undispatched. -/
theorem dispatched_first {settings : Settings} {ledger ledger' : TriageActions} {insight : Insight}
    {op : Op} {expected : LedgerPhase} {row : TriageAction} (sound : insight.Sound ledger)
    (exact : insight.Exact ledger) (allowed : insightAllowed listed settings insight op)
    (dispatches : op.dispatches actionId expected) (known : insight.exact = some row)
    (keyed : row.actionId = actionId) (phase : row.phase = expected)
    (stays : ∀ terms, ledger.StartedOn actionId terms → ledger'.StartedOn actionId terms)
    {terms : Terms} (started : ledger'.StartedOn actionId terms) (once : terms.noAutoRetry = true)
    (earlier : Terms) : ¬ledger.StartedOn actionId earlier := by
  intro was
  have equal := started_on_unique started (stays earlier was)
  subst equal
  obtain ⟨stored, found, past, rfl⟩ := was
  have current := exact row known
  rw [keyed, found] at current
  cases current
  obtain ⟨fields, rfl, dispatched⟩ := dispatches
  have inside : insight ≠ .outside := by
    intro outside
    rw [outside] at known
    cases known
  have attended := inside_allowed sound.sane inside allowed
  cases expected with
  | reserved =>
      obtain ⟨row, auth, now, judged, same, written⟩ := attended
      rw [written] at dispatched
      cases dispatched
  | _ =>
      obtain ⟨other, reads, same, first⟩ := attended dispatched
      rw [reads] at known
      cases known
      obtain intent | retried := first
      · rw [phase, intent] at past
        cases past
      · exact Bool.false_ne_true (retried.symm.trans once)

theorem spawned_owes {insight : Insight} (owes : spending.owes insight.spawned = some actionId) :
    spending.owes insight = some actionId := by
  cases insight with
  | sent row =>
      cases spending with
      | _ => cases owes
  | _ => exact owes

/-- A task that is made for an action takes over the right of who dispatched it. -/
theorem accounted_created {created : String} {job : Job} {answer : Except Exn Unit} {world : World}
    (attended : Attended before) (held : Accounted spending actionId past before)
    (present : before.actors id = some actor) (awake : actor.waiting = none)
    (permitted : (insightConduct listed).discipline.allowed actor.ghost (.createTask created job))
    (stays : ∀ terms, before.world.db.ledger.StartedOn actionId terms →
      world.db.ledger.StartedOn actionId terms) :
    Accounted spending actionId (past ++ [.answered id (.createTask created job) answer])
      ((before.resume (insightConduct listed) id actor (.createTask created job) answer world).begin
        (insightConduct listed) job) := by
  obtain ⟨program, allowed⟩ := allowed_attends permitted
  have attends := attended.attends id actor present
  have inside : insightOf actor ≠ .outside := by
    intro outside
    rw [outside] at allowed
    cases outside_allowed allowed
  have quiet : spending.spends actionId (.answered id (.createTask created job) answer) = false := by
    cases spending with
    | _ => rfl
  have next : insightNext listed (insightOf actor) (.createTask created job) answer =
      (insightOf actor).spawned := by
    cases answer with
    | _ => rfl
  have hands : ∀ other, Hands spending actionId
      ((before.resume (insightConduct listed) id actor (.createTask created job) answer world).begin
        (insightConduct listed) job) other →
      (other = before.fresh ∧ job = .actionTask actionId) ∨
        (other = id ∧ spending.owes (insightOf actor).spawned = some actionId) ∨
          (other ≠ id ∧ Hands spending actionId before other) := by
    intro other hand
    obtain made | hand := hands_begun hand
    · exact .inl made
    · obtain own | others := hands_resumed hand
      · rw [next] at own
        exact .inr (.inl own)
      · exact .inr (.inr others)
  by_cases mine : job = .actionTask actionId
  · obtain ⟨same, row, sent, keyed, llm⟩ | other := inside_allowed attends.sound.sane inside allowed
    swap
    · rw [other] at mine
      cases mine
    have same : created = actionId := by
      rw [same] at mine
      cases mine
      rfl
    have owns : Hands spending actionId before id := by
      apply awake_hands present awake
      rw [sent, ← same, ← keyed]
      cases spending with
      | _ => rfl
    apply accounted_passed attended held quiet stays owns
    intro other hand
    obtain ⟨heir, -⟩ | ⟨-, owes⟩ | ⟨apart, had⟩ := hands other hand
    · exact .inr heir
    · rw [sent] at owes
      cases spending with
      | _ => cases owes
    · exact .inl ⟨had, apart⟩
  · apply accounted_kept attended held quiet stays
    intro other hand
    obtain ⟨-, made⟩ | ⟨here, owes⟩ | ⟨-, had⟩ := hands other hand
    · exact absurd made mine
    · rw [here]
      exact awake_hands present awake (spawned_owes owes)
    · exact had

theorem accounted_resumed {op : Op} {env : op.Env} {answer : Except Exn op.Ans} {world : World}
    (attended : Attended before) (held : Accounted spending actionId past before)
    (present : before.actors id = some actor)
    (permitted : (insightConduct listed).discipline.allowed actor.ghost op)
    (pending : ∀ other, actor.waiting = some other → other = op)
    (ran : op.exec id before.fresh env before.world = some (answer, world)) :
    Accounted spending actionId (past ++ [.answered id op answer])
      (before.resume (insightConduct listed) id actor op answer world) := by
  obtain ⟨program, allowed⟩ := allowed_attends permitted
  have attends := attended.attends id actor present
  have step := op_ledger (exec_moves ran)
  have stays : ∀ terms, before.world.db.ledger.StartedOn actionId terms →
      world.db.ledger.StartedOn actionId terms :=
    fun terms started => started_kept (row_moves actionId program step) started
  cases spends : spending.spends actionId (.answered id op answer) with
  | true =>
      unfold Spending.spends at spends
      split at spends
      · rename_i reportId trigger answered same
        cases same
        have same : trigger = actionId := by simpa using spends
        subst same
        have awake : actor.waiting = none := by
          cases waiting : actor.waiting with
          | none => rfl
          | some other =>
              have suspends := attends.waits other waiting
              rw [pending other waiting] at suspends
              cases suspends
        have inside : insightOf actor ≠ .outside := by
          intro outside
          rw [outside] at allowed
          cases outside_allowed allowed
        obtain ⟨row, key, working, same, report⟩ :=
          inside_allowed attends.sound.sane inside allowed
        cases same
        have owns : Hands .proposal row.actionId before id := by
          apply awake_hands present awake
          rw [working]
          rfl
        apply accounted_paid attended held stays owns
        intro other hand
        obtain ⟨-, owes⟩ | ⟨apart, had⟩ := hands_resumed hand
        · obtain ⟨value, answered⟩ := exec_never_fails rfl ran
          rw [answered, working] at owes
          cases owes
        · exact ⟨had, apart⟩
      · rename_i same
        cases same
      · cases spends
  | false =>
      have uncounted (owes : spending.owes (insightNext listed (insightOf actor) op answer) =
          some actionId) (owed : spending.owes (insightOf actor) = some actionId) :
          Hands spending actionId before id := by
        refine ⟨actor, present, ?_⟩
        unfold inHand
        rw [if_neg, owed]
        intro waits
        obtain ⟨asked, waiting, counted⟩ := (Option.any_eq_true _ _).mp waits
        rw [pending asked waiting] at counted
        cases spending with
        | proposal => cases counted
        | key =>
            cases op with
            | remote request =>
                cases request with
                | credential endpoint asked =>
                    have inside : insightOf actor ≠ .outside := by
                      intro outside
                      rw [outside] at allowed
                      cases outside_allowed allowed
                    obtain ⟨row, engaged, -, -⟩ :=
                      inside_allowed attends.sound.sane inside allowed
                    rw [engaged] at owes
                    exact counted_owes counted owes
                | _ => cases counted
            | _ => cases counted
      by_cases dispatched : ∃ expected, op.dispatches actionId expected ∧
          ∃ row, (insightOf actor).exact = some row ∧ row.actionId = actionId ∧ row.phase = expected
      · obtain ⟨expected, dispatches, row, known, keyed, phase⟩ := dispatched
        have awake : actor.waiting = none := by
          cases waiting : actor.waiting with
          | none => rfl
          | some other =>
              obtain ⟨fields, same, -⟩ := dispatches
              have suspends := attends.waits other waiting
              rw [pending other waiting, same] at suspends
              cases suspends
        refine @accounted_opened _ _ _ _ _ _ _ id attended held spends ?_ stays ?_
        · intro terms started once
          exact dispatched_first attends.sound (attends.exact awake) allowed dispatches known keyed phase
            stays started once
        · intro other hand
          obtain ⟨here, -⟩ | ⟨-, had⟩ := hands_resumed hand
          · exact .inr here
          · exact .inl had
      · apply accounted_kept attended held spends stays
        intro other hand
        obtain ⟨here, owes⟩ | ⟨-, had⟩ := hands_resumed hand
        · obtain same | fresh := next_owes owes
          · rw [here]
            exact uncounted owes same
          · exact absurd fresh dispatched
        · exact had

theorem accounted_step {event : Ev} {after : AttendanceShadow listed} (attended : Attended before)
    (held : Accounted spending actionId past before)
    (moves : ShadowMoves (insightConduct listed) before event after) :
    Accounted spending actionId (past ++ [event]) after := by
  cases moves with
  | started job rooted =>
      apply accounted_kept attended held
      · cases spending with
        | _ => rfl
      · exact fun _ started => started
      · intro other hand
        obtain ⟨-, same⟩ | had := hands_begun hand
        · subst same
          cases rooted
        · exact had
  | issued id actor op found running allowed suspends awake =>
      exact accounted_issued attended held (.issued before id actor op found running allowed suspends awake)
  | answered id actor op env answer world found running permitted ready pending ran =>
      have executed : op.exec id before.fresh env before.world = some (answer, world) := ran
      cases op with
      | createTask created job =>
          obtain ⟨program, -⟩ := allowed_attends permitted
          have step := op_ledger (exec_moves executed)
          have awake : actor.waiting = none := by
            cases waiting : actor.waiting with
            | none => rfl
            | some other =>
                have suspends := (attended.attends id actor found).waits other waiting
                rw [pending other waiting] at suspends
                cases suspends
          apply accounted_created attended held found awake permitted
          intro terms started
          exact started_kept (row_moves actionId program step) started
      | _ => exact accounted_resumed attended held found permitted pending executed
  | ended id actor found running awake finished =>
      apply accounted_kept attended held
      · cases spending with
        | _ => rfl
      · exact fun _ started => started
      · intro other hand
        obtain ⟨rival, present, owes⟩ := hand
        obtain ⟨-, same⟩ | ⟨-, was⟩ := updated_found present
        · cases same
        · exact ⟨rival, was, owes⟩
  | restarted boot =>
      apply accounted_kept attended held
      · cases spending with
        | _ => rfl
      · exact fun _ started => started
      · intro other hand
        obtain ⟨rival, present, owes⟩ := hand
        cases present

end Steps

end Spending

end Bugalizer
