import Bugalizer.Sync.Outcomes

/-!
# What the coroutines know of their actions is so

A coroutine of the loop that has read a row of the ledger knows the row as it is until it gives
the loop away. An action's task knows the terms its action was dispatched on, and these no write
changes any more.
-/

namespace Bugalizer

set_option autoImplicit false

open Coroutine Program Store

/-- What an action is dispatched on: its report and kind, the pins and the mode of the key. -/
structure Terms where
  reportId : String
  kind : Kind
  pinnedLlm : Option PinnedLlm
  noAutoRetry : Bool
  keyMode : Option String

def TriageAction.terms (row : TriageAction) : Terms :=
  ⟨row.reportId, row.kind, row.pinnedLlm, row.noAutoRetry, row.keyMode⟩

/-- The action was dispatched, or finished before. -/
def LedgerPhase.started : LedgerPhase → Bool
  | .reserved | .intent => false
  | _ => true

inductive RowMoves (actionId : String) : (op : Op) → Except Exn op.Ans →
    Option TriageAction → Option TriageAction → Prop
  | absent (op : Op) (answer : Except Exn op.Ans) : RowMoves actionId op answer none none
  | same (op : Op) (answer : Except Exn op.Ans) (before after : TriageAction)
      (phase : after.phase = before.phase) (terms : after.terms = before.terms) :
      RowMoves actionId op answer (some before) (some after)
  | reserved (projectId reportId : String) (kind : Kind) (params : Json) (user : Option String)
      (now : Nat) :
      RowMoves actionId (.ledger (.reserve actionId projectId reportId kind params user)) (.ok true) none
        (some (LedgerWrite.reservedRow actionId projectId reportId kind params user now))
  | dropped (op : Op) (answer : Except Exn op.Ans) (row : TriageAction)
      (phase : row.phase = .reserved) : RowMoves actionId op answer (some row) none
  | pinned (auth : Authorized) (now : Nat) (row : TriageAction) (phase : row.phase = .reserved) :
      RowMoves actionId (.ledger (.update actionId (some .reserved) (intentFields auth now))) (.ok true)
        (some row) (some ((intentFields auth now).write row))
  | dispatched (now : Nat) (row : TriageAction) (open' : underway row.phase) :
      RowMoves actionId (.ledger (.update actionId (some row.phase) (dispatchFields now))) (.ok true)
        (some row) (some ((dispatchFields now).write row))
  | advanced (op : Op) (answer : Except Exn op.Ans) (before after : TriageAction)
      (terms : after.terms = before.terms)
      (phase : (underway before.phase ∧ after.phase = .fixDone) ∨ after.phase = .finished) :
      RowMoves actionId op answer (some before) (some after)

theorem row_unmoved {actionId : String} {op : Op} {answer : Except Exn op.Ans}
    (row : Option TriageAction) : RowMoves actionId op answer row row := by
  cases row with
  | none => exact .absent op answer
  | some row => exact .same op answer row row rfl rfl

theorem row_updated {ledger : TriageActions} {actionId id : String} {op : Op}
    {answer : Except Exn op.Ans} {condition : TriageAction → Bool}
    {change : TriageAction → TriageAction} (keyed : ∀ row, (change row).actionId = row.actionId)
    (hit : ∀ row, ledger.get id = some row → condition row = true → id = actionId →
      RowMoves actionId op answer (some row) (some (change row))) :
    RowMoves actionId op answer (ledger.get actionId)
      ((ledger.update id condition change keyed).get actionId) := by
  rw [Table.get_update]
  cases found : ledger.get actionId with
  | none => exact .absent op answer
  | some row =>
      rw [Option.map_some]
      split
      · rename_i meets
        exact hit row (meets.1 ▸ found) meets.2 meets.1.symm
      · exact row_unmoved (some row)

theorem row_moves {before after : TriageActions} {op : Op} {answer : Except Exn op.Ans}
    (actionId : String) (program : programOp op) (step : LedgerStep before op answer after) :
    RowMoves actionId op answer (before.get actionId) (after.get actionId) := by
  cases step with
  | kept op answer quiet => exact row_unmoved _
  | reopened reportId id message now dispatched =>
      apply row_updated (finish_reopened_id now message)
      intro row found met same
      exact .advanced _ _ row _ rfl (.inr rfl)
  | wrote write now =>
      have shape := program_ledger program
      cases shape with
      | reserve id projectId reportId kind params user =>
          simp only [LedgerWrite.apply]
          cases inserted : before.insert
              (LedgerWrite.reservedRow id projectId reportId kind params user now) with
          | none => exact row_unmoved _
          | some next =>
              dsimp only
              rw [Table.get_insert inserted]
              split
              · rename_i same
                have same : id = actionId := same
                subst same
                have free : before.get id = none := Table.insert_free inserted
                rw [free]
                exact .reserved projectId reportId kind params user now
              · exact row_unmoved _
      | deleteReserved id =>
          simp only [LedgerWrite.apply]
          rw [Table.get_delete]
          cases found : before.get actionId with
          | none => exact .absent _ _
          | some row =>
              rw [Option.filter_some]
              split
              · exact row_unmoved (some row)
              · rename_i dropped
                apply RowMoves.dropped
                simp only [LedgerWrite.condition, Bool.not_eq_true', Bool.and_eq_false_iff,
                  not_or, Bool.not_eq_false, beq_iff_eq] at dropped
                exact dropped.2
      | finish id outcome message steps expected =>
          apply row_updated (LedgerWrite.change_id now _)
          intro row found met same
          exact .advanced _ _ row _ rfl (.inr rfl)
      | prUrl id url =>
          apply row_updated (LedgerWrite.change_id now _)
          intro row found met same
          exact .same _ _ row _ rfl rfl
      | late id outcome =>
          apply row_updated (LedgerWrite.change_id now _)
          intro row found met same
          exact .same _ _ row _ rfl rfl
      | acked id error =>
          apply row_updated (LedgerWrite.change_id now _)
          intro row found met same
          exact .same _ _ row _ rfl rfl
      | attempted id kind attempts =>
          apply row_updated (LedgerWrite.change_id now _)
          intro row found met same
          exact .same _ _ row _ rfl rfl
      | intent id auth stamp =>
          apply row_updated (LedgerWrite.change_id now _)
          intro row found met same
          subst same
          have phase := phase_condition met
          have matched : ((LedgerWrite.update id (some .reserved) (intentFields auth stamp)).apply now
              before).1 = true := Table.matched_iff.mpr ⟨row, found, met⟩
          rw [matched]
          exact .pinned auth stamp row phase
      | dispatched id phase stamp open' =>
          apply row_updated (LedgerWrite.change_id now _)
          intro row found met same
          subst same
          have phase := phase_condition met
          subst phase
          have matched : ((LedgerWrite.update id (some row.phase) (dispatchFields stamp)).apply now
              before).1 = true := Table.matched_iff.mpr ⟨row, found, met⟩
          rw [matched]
          exact .dispatched stamp row open'
      | fixDone id proposalId phase open' =>
          apply row_updated (LedgerWrite.change_id now _)
          intro row found met same
          exact .advanced _ _ row _ rfl (.inl ⟨phase_condition met ▸ open', rfl⟩)

theorem intent_fields_inj {one other : Authorized} {now later : Nat}
    (same : intentFields one now = intentFields other later) : one = other := by
  have pinned := Option.some.inj (congrArg TriageActionFields.pinnedLlm same)
  have once := Option.some.inj (congrArg TriageActionFields.noAutoRetry same)
  have mode := Option.some.inj (congrArg TriageActionFields.keyMode same)
  cases one with
  | mk onePinned oneOnce oneMode =>
      cases other with
      | mk otherPinned otherOnce otherMode =>
          dsimp only at pinned once mode
          subst pinned
          subst once
          subst mode
          rfl

/-- The row an action's task works for, as it has read it. -/
def Insight.engagement : Insight → Option TriageAction
  | engaged row | keyed row _ | working row _ | proposing row _ => some row
  | _ => none

def TriageActions.StartedOn (ledger : TriageActions) (actionId : String) (terms : Terms) : Prop :=
  ∃ row, ledger.get actionId = some row ∧ row.phase.started = true ∧ row.terms = terms

theorem started_on_unique {ledger : TriageActions} {actionId : String} {one other : Terms}
    (first : ledger.StartedOn actionId one) (second : ledger.StartedOn actionId other) :
    one = other := by
  obtain ⟨row, found, past, rfl⟩ := first
  obtain ⟨row', found', past', rfl⟩ := second
  rw [found] at found'
  cases found'
  rfl

/-- What is known of an action that was dispatched, and stays so. -/
structure Insight.Sound (ledger : TriageActions) (insight : Insight) : Prop where
  sane : insight ≠ .lost
  sent : ∀ row, insight = .sent row → ledger.StartedOn row.actionId row.terms
  tasked : ∀ actionId, insight = .tasked actionId →
    ∃ terms, ledger.StartedOn actionId terms ∧ terms.kind.llm = true
  engaged : ∀ row, insight.engagement = some row →
    ledger.StartedOn row.actionId row.terms ∧ row.kind.llm = true

/-- What is known of a row that was read since the loop was taken. -/
def Insight.Exact (ledger : TriageActions) (insight : Insight) : Prop :=
  ∀ row, insight.exact = some row → ledger.get row.actionId = some row

theorem started_moves {actionId : String} {op : Op} {answer : Except Exn op.Ans} {row : TriageAction}
    {after : Option TriageAction} (moves : RowMoves actionId op answer (some row) after)
    (started : row.phase.started = true) :
    ∃ next, after = some next ∧ next.phase.started = true ∧ next.terms = row.terms := by
  cases moves with
  | same _ _ _ next phase terms => exact ⟨next, rfl, by rw [phase, started], terms⟩
  | dropped _ _ _ phase =>
      rw [phase] at started
      cases started
  | pinned auth now _ phase =>
      rw [phase] at started
      cases started
  | dispatched now _ open' => exact ⟨_, rfl, rfl, rfl⟩
  | advanced _ _ _ next terms phase =>
      refine ⟨next, rfl, ?_, terms⟩
      obtain ⟨-, phase⟩ | phase := phase
      · rw [phase]
        rfl
      · rw [phase]
        rfl

theorem started_kept {before after : TriageActions} {op : Op} {answer : Except Exn op.Ans}
    {actionId : String} {terms : Terms}
    (moves : RowMoves actionId op answer (before.get actionId) (after.get actionId))
    (started : before.StartedOn actionId terms) : after.StartedOn actionId terms := by
  obtain ⟨row, found, past, rfl⟩ := started
  rw [found] at moves
  obtain ⟨next, reached, past, same⟩ := started_moves moves past
  exact ⟨next, reached, past, same⟩

section Knowing

variable {ledger before after : TriageActions} {insight : Insight}

theorem sound_kept {op : Op} {answer : Except Exn op.Ans}
    (moves : ∀ actionId, RowMoves actionId op answer (before.get actionId) (after.get actionId))
    (sound : insight.Sound before) : insight.Sound after where
  sane := sound.sane
  sent row sent := started_kept (moves row.actionId) (sound.sent row sent)
  tasked actionId tasked := by
    obtain ⟨terms, started, llm⟩ := sound.tasked actionId tasked
    exact ⟨terms, started_kept (moves actionId) started, llm⟩
  engaged row engaged :=
    ⟨started_kept (moves row.actionId) (sound.engaged row engaged).1, (sound.engaged row engaged).2⟩

theorem idle_sound (sane : insight ≠ .lost) (unsent : ∀ row, insight ≠ .sent row)
    (untasked : ∀ actionId, insight ≠ .tasked actionId) (free : insight.engagement = none) :
    insight.Sound ledger where
  sane := sane
  sent row sent := absurd sent (unsent row)
  tasked actionId tasked := absurd tasked (untasked actionId)
  engaged row engaged := by
    rw [free] at engaged
    cases engaged

theorem engaged_sound {next : Insight} (sound : insight.Sound ledger)
    (same : next.engagement = insight.engagement) (present : insight.engagement.isSome = true) :
    next.Sound ledger where
  sane lost := by
    rw [← same, lost] at present
    cases present
  sent row sent := by
    rw [← same, sent] at present
    cases present
  tasked actionId tasked := by
    rw [← same, tasked] at present
    cases present
  engaged row engaged := sound.engaged row (same ▸ engaged)

theorem yield_sound (sound : insight.Sound ledger) : insight.yield.Sound ledger := by
  cases insight with
  | read row => exact idle_sound (by simp [Insight.yield]) (by simp [Insight.yield]) (by simp [Insight.yield]) rfl
  | judged row auth => exact idle_sound (by simp [Insight.yield]) (by simp [Insight.yield]) (by simp [Insight.yield]) rfl
  | sent row => exact idle_sound (by simp [Insight.yield]) (by simp [Insight.yield]) (by simp [Insight.yield]) rfl
  | _ => exact sound

theorem yield_exact (ledger : TriageActions) (insight : Insight) : insight.yield.Exact ledger := by
  intro row known
  cases insight with
  | _ => cases known

/-- The insight is sound, and exact unless the loop was given away. -/
structure Insight.Knows (ledger : TriageActions) (insight : Insight) : Prop where
  sound : insight.Sound ledger
  exact : insight.Exact ledger

theorem yield_knows (sound : insight.Sound ledger) : insight.yield.Knows ledger :=
  ⟨yield_sound sound, yield_exact ledger insight⟩

theorem after_knows {op : Op} (sound : insight.Sound ledger)
    (exact : op.suspends = false → insight.Exact ledger) : (insight.after op).Knows ledger := by
  unfold Insight.after
  split
  · exact yield_knows sound
  · rename_i keeps
    exact ⟨sound, exact (Bool.not_eq_true _ ▸ keeps)⟩

theorem knows_of_sound (sound : insight.Sound ledger) (blind : insight.exact = none) :
    insight.Knows ledger := by
  refine ⟨sound, ?_⟩
  intro row known
  rw [blind] at known
  cases known

theorem found_knows {row : TriageAction} (knows : insight.Knows ledger)
    (stored : ledger.get row.actionId = some row) : (insight.found row).Knows ledger := by
  have reads : (Insight.read row).Knows ledger := by
    refine ⟨idle_sound (by simp) (by simp) (by simp) rfl, ?_⟩
    intro other known
    cases known
    exact stored
  have looks (known : TriageAction) (seen : insight.exact = some known) :
      ¬(known.actionId = row.actionId ∧ known.phase ≠ row.phase) := by
    intro apart
    have same := knows.exact known seen
    rw [apart.1, stored] at same
    cases same
    exact apart.2 rfl
  unfold Insight.found
  split
  · exact knows
  · exact absurd rfl knows.sound.sane
  · rename_i actionId
    split
    · rename_i same
      obtain ⟨terms, ⟨current, found, past, rfl⟩, llm⟩ := knows.sound.tasked actionId rfl
      rw [← same, stored] at found
      cases found
      rw [if_neg]
      · refine knows_of_sound ⟨by simp, by simp, by simp, ?_⟩ rfl
        intro other engaged
        cases engaged
        exact ⟨⟨row, stored, past, rfl⟩, llm⟩
      · intro reserved
        rw [reserved] at past
        cases past
    · exact knows
  · split
    · rename_i known seen
      rw [if_neg (looks known seen)]
      exact reads
    · exact reads

theorem missing_knows {actionId : String} (knows : insight.Knows ledger)
    (missing : ledger.get actionId = none) : (insight.missing actionId).Knows ledger := by
  unfold Insight.missing
  split
  · rename_i known seen
    rw [if_neg]
    · exact knows
    · intro same
      have stored := knows.exact known seen
      rw [same, missing] at stored
      cases stored
  · exact knows

theorem updated_knows {actionId : String} {expected : LedgerPhase} {fields : TriageActionFields}
    {now : Nat} (knows : insight.Knows ledger)
    (sound : insight.Sound ((LedgerWrite.update actionId (some expected) fields).apply now ledger).2) :
    (insight.updated actionId expected fields
      ((LedgerWrite.update actionId (some expected) fields).apply now ledger).1).Knows
        ((LedgerWrite.update actionId (some expected) fields).apply now ledger).2 := by
  unfold Insight.updated
  cases seen : insight.exact with
  | none => exact knows_of_sound sound seen
  | some known =>
      have stored := knows.exact known seen
      dsimp only
      split
      · rename_i same
        subst same
        have matched : ((LedgerWrite.update known.actionId (some expected) fields).apply now ledger).1 =
            (expected == known.phase) := by
          show ledger.matched known.actionId _ = _
          rw [Table.matched, stored]
          rfl
        rw [matched]
        by_cases phase : expected = known.phase
        · have written : ((LedgerWrite.update known.actionId (some expected) fields).apply now
              ledger).2.get known.actionId = some (fields.write known) := by
            simp only [LedgerWrite.apply, LedgerWrite.actionId]
            rw [Table.get_update_same, stored, Option.map_some, if_pos]
            · rfl
            · simp [LedgerWrite.condition, phase]
          have exactly : ∀ next : Insight, next.exact = some (fields.write known) →
              next.Exact ((LedgerWrite.update known.actionId (some expected) fields).apply now
                ledger).2 := by
            intro next knows row found
            rw [knows] at found
            cases found
            exact written
          rw [if_pos (beq_iff_eq.mpr phase), if_pos phase.symm]
          split
          · rename_i dispatches
            refine ⟨⟨by simp, ?_, by simp, by simp [Insight.engagement]⟩, exactly _ rfl⟩
            intro row sent
            cases sent
            refine ⟨fields.write known, written, ?_, rfl⟩
            simp [TriageActionFields.write, dispatches, LedgerPhase.started]
          · exact ⟨idle_sound (by simp) (by simp) (by simp) rfl, exactly _ rfl⟩
        · rw [if_neg (by simpa using phase), if_neg (Ne.symm phase)]
          refine ⟨sound, ?_⟩
          intro row found
          rw [seen] at found
          cases found
          simp only [LedgerWrite.apply, LedgerWrite.actionId]
          rw [Table.get_update_same, stored, Option.map_some, if_neg]
          simpa [LedgerWrite.condition] using phase
      · exact yield_knows sound

end Knowing

theorem quiet_ledger {before after : TriageActions} {op : Op} {answer : Except Exn op.Ans}
    (step : LedgerStep before op answer after) (quiet : op.writesLedger answer = false) :
    after = before := by
  cases step with
  | kept op answer _ => rfl
  | wrote write now => cases quiet
  | reopened reportId id message now dispatched => cases quiet

section Telling

variable {listed : ListedAction → Prop} {settings : Settings} {ledger : TriageActions}
  {insight : Insight}

theorem late_knows (ledger : TriageActions) : Insight.late.Knows ledger :=
  knows_of_sound (idle_sound (by simp) (by simp) (by simp) rfl) rfl

theorem decided_knows (actionId : String) (auth : Option Authorized) (knows : insight.Knows ledger) :
    (insight.decided actionId auth).Knows ledger := by
  cases insight with
  | read row =>
      simp only [Insight.decided]
      split
      · refine ⟨idle_sound (by simp) (by simp) (by simp) rfl, ?_⟩
        intro other known
        exact knows.exact other known
      · exact knows
  | _ => exact knows

theorem started_knows (knows : insight.Knows ledger) : insight.started.Knows ledger := by
  cases insight with
  | engaged row => exact knows_of_sound (engaged_sound knows.sound rfl rfl) rfl
  | keyed row key =>
      cases key with
      | none => exact knows
      | some key => exact knows_of_sound (engaged_sound knows.sound rfl rfl) rfl
  | _ => exact knows

theorem proposes_knows (knows : insight.Knows ledger) : insight.proposes.Knows ledger := by
  cases insight with
  | working row key => exact knows_of_sound (engaged_sound knows.sound rfl rfl) rfl
  | _ => exact knows

theorem stepped_knows (knows : insight.Knows ledger) : insight.stepped.Knows ledger := by
  cases insight with
  | read row => exact late_knows ledger
  | sent row => exact late_knows ledger
  | _ => exact knows

theorem spawned_knows (knows : insight.Knows ledger) : insight.spawned.Knows ledger := by
  cases insight with
  | sent row => exact knows_of_sound (idle_sound (by simp [Insight.spawned]) (by simp [Insight.spawned]) (by simp [Insight.spawned]) rfl) rfl
  | _ => exact knows

theorem keyless_knows (sound : insight.Sound ledger) : insight.keyless.Knows ledger := by
  cases insight with
  | engaged row => exact knows_of_sound (engaged_sound sound rfl rfl) rfl
  | _ => exact yield_knows sound

theorem answered_knows (response : HttpResponse) (sound : insight.Sound ledger) :
    (insight.answeredKey response).Knows ledger := by
  cases insight with
  | engaged row =>
      simp only [Insight.answeredKey]
      split
      · exact knows_of_sound (engaged_sound sound rfl rfl) rfl
      · exact knows_of_sound (engaged_sound sound rfl rfl) rfl
  | _ => exact yield_knows sound

theorem completed_knows (prompt : Prompt) (sound : insight.Sound ledger) :
    (insight.completed prompt).Knows ledger := by
  cases insight with
  | working row key =>
      simp only [Insight.completed]
      split
      · exact late_knows ledger
      · exact knows_of_sound sound rfl
  | proposing row key =>
      simp only [Insight.completed]
      split
      · exact late_knows ledger
      · exact knows_of_sound sound rfl
  | _ => exact yield_knows sound

/-- What an answered operation leaves known, when the listing is as it may be. -/
theorem insight_moves {self fresh : Nat} {op : Op} {env : op.Env} {before after : World}
    {answer : Except Exn op.Ans} (ran : op.exec self fresh env before = some (answer, after))
    (program : programOp op) (sound : insight.Sound before.db.ledger)
    (exact : op.suspends = false → insight.Exact before.db.ledger)
    (listing : ∀ endpoint cursor (response : HttpResponse),
      op = .remote (.listActions endpoint cursor) → HEq answer (Except.ok (ε := Exn) response) →
        ∀ action ∈ listedIn response, listed action) :
    (insightNext listed insight op answer).Knows after.db.ledger := by
  have step := op_ledger (exec_moves ran)
  have moves (actionId : String) := row_moves actionId program step
  have kept := sound_kept moves sound
  have still (quiet : op.writesLedger answer = false) (waits : op.suspends = false) :
      insight.Knows after.db.ledger := by
    refine ⟨kept, ?_⟩
    rw [quiet_ledger step quiet]
    exact exact waits
  have idles (quiet : op.writesLedger answer = false) : (insight.after op).Knows after.db.ledger := by
    apply after_knows kept
    intro waits
    exact (still quiet waits).exact
  cases answer with
  | error error =>
      have quiet : op.writesLedger (.error error) = false := by
        cases op with
        | joint write => cases write <;> rfl
        | _ => rfl
      simp only [insightNext]
      split
      · rename_i sure
        obtain ⟨value, answered⟩ := exec_never_fails sure ran
        cases answered
      · split
        · exact keyless_knows kept
        · exact completed_knows _ kept
        · exact spawned_knows (still rfl rfl)
        · exact idles quiet
  | ok value =>
      cases op with
      | query q =>
          cases q with
          | triageActionGet id =>
              have knows := still rfl rfl
              have answered : value = before.db.ledger.find id := by
                have moved := exec_moves ran
                cases moved with
                | read q => rfl
                | outer op answer outer => cases outer
              rw [quiet_ledger step rfl] at knows ⊢
              cases value with
              | none => exact missing_knows knows (Table.find_eq_none.mp answered.symm)
              | some row =>
                  refine found_knows knows ?_
                  rw [row.2]
                  exact Table.find_eq_some.mp answered.symm
          | _ => exact idles rfl
      | ledger write =>
          cases write with
          | update id expected fields =>
              cases expected with
              | none => exact yield_knows kept
              | some expected =>
                  have knows : insight.Knows before.db.ledger := ⟨sound, exact rfl⟩
                  have moved := exec_moves ran
                  cases moved with
                  | ledger write clock => exact updated_knows knows kept
                  | outer op answer outer => cases outer
          | _ => exact yield_knows kept
      | joint write =>
          cases write with
          | reopenForAction reportId id message => exact yield_knows kept
          | _ => exact idles rfl
      | note mark =>
          cases mark with
          | authorized id auth => exact decided_knows id auth (still rfl rfl)
          | runLlm id => exact started_knows (still rfl rfl)
          | proposeFix reportId trigger => exact proposes_knows (still rfl rfl)
          | prStep id => exact stepped_knows (still rfl rfl)
          | _ => exact idles rfl
      | remote asked =>
          cases asked with
          | credential endpoint id => exact answered_knows value kept
          | acompletion request => exact completed_knows request.messages kept
          | listActions endpoint cursor =>
              simp only [insightNext]
              rw [if_pos (listing endpoint cursor value rfl HEq.rfl)]
              exact yield_knows kept
          | _ => exact idles rfl
      | createTask id job => exact spawned_knows (still rfl rfl)
      | _ => exact idles rfl

end Telling

end Bugalizer
