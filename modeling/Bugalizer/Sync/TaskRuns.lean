import Bugalizer.Sync.TickRuns

/-!
# The tasks of an action

The key, the model, the conclusion and the pull-request step: an action's own task, from
the row it reads first to its release.
-/

namespace Bugalizer

set_option autoImplicit false

open Coroutine Program

section Key

variable {listed : ListedAction → Prop} {settings : Settings} {insight : Insight}

/-- The key that was released for the action, if the fetch returned one. -/
def Insight.Answered (row : TriageAction) (fetched : Except Result String) (insight : Insight) :
    Prop :=
  insight.begun = true ∧
    ∀ key, fetched = .ok key → insight = .keyed row (some key) ∨ insight = .lost

theorem answered_error {row : TriageAction} {result : Result} (begun : insight.begun) :
    insight.Answered row (.error result) := ⟨begun, fun _ fetched => by cases fetched⟩

theorem credential_follows (endpoint : Endpoint) {row : TriageAction}
    (mode : row.keyMode = some requester) (kept : Insight.Kept (.engaged row) insight) :
    (remote (.credential endpoint row.actionId)).Follows (syncRun listed settings) insight
      (fun response => Insight.Answered row (credentialOutcome row response))
      (fun _ => Insight.Awake) := by
  have begun := kept_begun (.engaged row) rfl kept
  refine follows_attended _ _ trivial begun ?_ (fun response => ?_) fun _ => begun_next _ _ begun
  · rcases kept with rfl | lost
    · exact .inr ⟨row, rfl, rfl, mode⟩
    · exact .inl lost
  · refine ⟨begun_next _ _ begun, fun key fetched => ?_⟩
    rcases kept with rfl | rfl
    · refine .inl ?_
      show Insight.answeredKey response (.engaged row) = _
      simp only [Insight.answeredKey, fetched]
    · exact .inr rfl

theorem fetch_key_follows {row : TriageAction} (mode : row.keyMode = some requester)
    (kept : Insight.Kept (.engaged row) insight) :
    (fetchKey row).Follows (syncRun listed settings) insight (Insight.Answered row)
      (fun _ => Insight.Awake) := by
  have awake : ∀ (error : Exn) reached, Insight.Kept (.engaged row) reached →
      Insight.Awake reached := fun _ _ kept => kept_begun (.engaged row) rfl kept
  refine Follows.andThen (still_follows (reads_still (project_get_within _)) (.engaged row) rfl kept)
    (fun project _ kept => ?_) awake
  refine Follows.andThen (still_follows (reads_still (endpoint_within _)) (.engaged row) rfl kept)
    (fun endpoint _ kept => ?_) awake
  cases endpoint with
  | none => exact answered_error (kept_begun (.engaged row) rfl kept)
  | some endpoint =>
      refine Follows.caught (Follows.andThen (credential_follows endpoint mode kept)
        (fun response _ answered => ?_) fun _ _ begun => begun) (fun _ _ answered => answered)
        fun error _ begun => ?_
      · exact answered
      · split
        · exact answered_error begun
        · exact answered_error begun
        · exact begun

end Key

section Model

variable {listed : ListedAction → Prop} {settings : Settings} {insight : Insight}
variable {row : TriageAction} {key : Option String}

theorem fits_local {prompts : Prompt → Prop} (mode : row.keyMode ≠ some requester)
    (kind : row.kind = .analyzeLocal) (pins : PinnedLlm → Option LlmPin)
    (stage : ∀ prompt, prompts prompt → prompt.fixes = false ∧
      ∀ pinned : PinnedLlm, pinned.for prompt = pins pinned) :
    FitsLocal settings row key (row.pinnedLlm.bind pins) prompts := by
  intro pin prompt call chosen kind' routed
  have messages := routed_messages routed
  obtain ⟨unfixed, pinnedBy⟩ := stage prompt kind'
  exact
    { pin := fun pinned other recorded picked => by
        rw [messages, pinnedBy] at picked
        rw [recorded, Option.bind_some, picked] at chosen
        rcases chosen with none' | same
        · cases none'
        · cases same
          exact ⟨routed_provider routed, routed_model rfl routed⟩
      route := by rw [routed_ollama_iff routed, routed_provider routed]
      keyed := fun keyed => absurd keyed mode
      fixes := by
        rw [messages, unfixed]
        refine ⟨fun absent => absurd absent (by simp), fun either => ?_⟩
        rcases either with keyed | other
        · exact absurd keyed mode
        · exact absurd kind other
      gated := fun _ _ other => absurd kind other }

theorem run_requester_insight {key : String} (mode : row.keyMode = some requester)
    (working : insight = .working row (some key) ∨ insight = .lost) :
    (runRequester settings row (some key)).Follows (syncRun listed settings) insight
      (fun _ => Insight.Staged row (some key)) (fun _ => Insight.Staged row (some key)) := by
  have staged : insight.Staged row (some key) := by
    rcases working with rfl | rfl
    · exact .inl (.inl (.inl rfl))
    · exact .inl (.inr rfl)
  unfold runRequester
  split
  swap
  · exact staged
  rename_i pin secret pinned given
  split
  swap
  · exact staged
  rename_i anthropic
  unfold makeOverride
  cases built : LLMOverride.validate (some pin.1) (some pin.2) (some secret) (attributionRef row) with
  | none => exact staged
  | some override =>
      obtain ⟨provider, model, apiKey, -⟩ := LLMOverride.validate_fields built
      have present : secret ≠ "" ∧ secret = key := by
        simp only [nonBlank, Option.filter_eq_some_iff, Option.some.injEq] at given
        exact ⟨by simpa using given.2, given.1.symm⟩
      have fits : FitsFix settings row (some key)
          { override := some override, triggerRef := some row.actionId
            requireRequestKey := true } := by
        intro project report analysis files call routed
        have messages := routed_messages routed
        have picked : FixArgs.pick { override := some override, triggerRef := some row.actionId
                                     requireRequestKey := true }
            (resolveFixLlm settings (some project)) = pin := by
          simp [FixArgs.pick, provider, model, orDefault,
            override.provider_nonempty provider, override.model_nonempty model]
        rw [picked] at routed
        have requestKey : FixArgs.requestKey { override := some override
                                               triggerRef := some row.actionId
                                               requireRequestKey := true } = some key := by
          simp [FixArgs.requestKey, apiKey, nonBlank, present.2 ▸ present.1, present.2]
        rw [requestKey] at routed
        exact
          { pin := fun recordedPins other recorded fix => by
              rw [messages] at fix
              rw [recorded, Option.bind_some] at pinned
              have same : some other = some pin := fix.symm.trans pinned
              cases same
              exact ⟨routed_provider routed, routed_model rfl routed⟩
            route := by rw [routed_ollama_iff routed, routed_provider routed]
            keyed := fun _ => ⟨rfl, routed_key anthropic rfl (present.2 ▸ present.1) routed⟩
            fixes := by
              rw [messages]
              exact ⟨fun _ => .inl mode, fun _ => rfl⟩
            gated := fun _ other => absurd mode other }
      show Program.Follows (syncRun listed settings) (do
        let outcome ← proposeFix settings row.reportId
          { override := some override, triggerRef := some row.actionId, requireRequestKey := true }
        pure (mapFix row.kind outcome)) insight (fun _ => Insight.Staged row (some key))
        fun _ => Insight.Staged row (some key)
      exact Follows.andThen (propose_fix_insight rfl fits working) (fun _ _ staged => staged)
        fun _ _ staged => staged

theorem run_legacy_insight (mode : row.keyMode ≠ some requester) (kind : row.kind ≠ .analyzeLocal)
    (working : insight = .working row none ∨ insight = .lost) :
    (runLegacyFix settings row).Follows (syncRun listed settings) insight
      (fun _ => Insight.Staged row none) (fun _ => Insight.Staged row none) := by
  have staged : insight.Staged row none := by
    rcases working with rfl | rfl
    · exact .inl (.inl (.inl rfl))
    · exact .inl (.inr rfl)
  unfold runLegacyFix
  dsimp only
  split
  · exact staged
  rename_i drained
  have gated : settings.sonicgridUserKeys → ∃ pin, row.pinnedLlm.bind PinnedLlm.fix = some pin ∧
      isPaid pin.1 = false := by
    intro gate
    cases pinned : row.pinnedLlm.bind PinnedLlm.fix with
    | none => simp [gate, pinned] at drained
    | some pin => exact ⟨pin, rfl, by simpa [gate, pinned] using drained⟩
  have proposes : ∀ override : Option LLMOverride, (∀ pin, row.pinnedLlm.bind PinnedLlm.fix = some pin →
      ∃ built, override = some built ∧ built.provider = some pin.1 ∧ built.model = some pin.2) →
      Program.Follows (syncRun listed settings) (do
        let outcome ← proposeFix settings row.reportId
          { override, attributionRef := attributionRef row, triggerRef := some row.actionId }
        pure (mapFix row.kind outcome)) insight (fun _ => Insight.Staged row none)
        (fun _ => Insight.Staged row none) := by
    intro override overridden
    have fits : FitsFix settings row none { override, attributionRef := attributionRef row
                                            triggerRef := some row.actionId } := by
      intro project report analysis files call routed
      have messages := routed_messages routed
      exact
        { pin := fun recordedPins other recorded fix => by
            rw [messages] at fix
            have pinned : row.pinnedLlm.bind PinnedLlm.fix = some other := by
              rw [recorded]
              exact fix
            obtain ⟨built, rfl, provider, model⟩ := overridden other pinned
            have picked : FixArgs.pick { override := some built, attributionRef := attributionRef row
                                         triggerRef := some row.actionId }
                (resolveFixLlm settings (some project)) = other := by
              simp [FixArgs.pick, provider, model, orDefault,
                built.provider_nonempty provider, built.model_nonempty model]
            rw [picked] at routed
            exact ⟨routed_provider routed, routed_model rfl routed⟩
          route := by rw [routed_ollama_iff routed, routed_provider routed]
          keyed := fun keyed => absurd keyed mode
          fixes := by
            rw [messages]
            exact ⟨fun _ => .inr kind, fun _ => rfl⟩
          gated := fun gate _ _ => gated gate }
    exact Follows.andThen (propose_fix_insight rfl fits working) (fun _ _ staged => staged)
      fun _ _ staged => staged
  cases pinned : row.pinnedLlm.bind PinnedLlm.fix with
  | none => exact proposes none fun pin found => by rw [pinned] at found; cases found
  | some pin =>
      dsimp only
      unfold makeOverride
      cases built : LLMOverride.validate (some pin.1) (some pin.2) none none with
      | none => exact staged
      | some override =>
          obtain ⟨provider, model, -⟩ := LLMOverride.validate_fields built
          refine proposes (some override) fun other found => ?_
          rw [pinned] at found
          cases found
          exact ⟨override, rfl, provider, model⟩

theorem run_local_insight (mode : row.keyMode ≠ some requester) (kind : row.kind = .analyzeLocal)
    (working : insight = .working row none ∨ insight = .lost) :
    (runLocalAnalysis settings row.reportId
      { triageLlm := row.pinnedLlm.bind PinnedLlm.triage
        localizeLlm := row.pinnedLlm.bind PinnedLlm.localization
        triggerRef := some row.actionId }).Follows (syncRun listed settings) insight
      (fun _ => Insight.Staged row none) (fun _ => Insight.Staged row none) := by
  have atWork : insight.AtWork row none := working.imp .inl id
  refine run_local_analysis_insight rfl (fits_local mode kind PinnedLlm.triage ?_)
    (fits_local mode kind PinnedLlm.localization ?_) atWork
  · intro prompt triages
    cases prompt <;> first | exact ⟨rfl, fun _ => rfl⟩ | cases triages
  · intro prompt localizes
    cases prompt <;> first | exact ⟨rfl, fun _ => rfl⟩ | cases localizes

/-- What is known when the model may start: the row, and the key it needs. -/
def Insight.Ready (row : TriageAction) (key : Option String) (insight : Insight) : Prop :=
  (row.keyMode ≠ some requester ∧ key = none ∧ insight = .engaged row) ∨
    (row.keyMode = some requester ∧ ∃ secret, key = some secret ∧
      insight = .keyed row (some secret)) ∨ insight = .lost

theorem run_llm_follows (ready : insight.Ready row key) :
    (runLlm settings row key).Follows (syncRun listed settings) insight
      (fun _ => Insight.Awake) (fun _ => Insight.Awake) := by
  have awake : ∀ {Value : Type} (key : Option String) (value : Value) reached,
      Insight.Staged row key reached → Insight.Awake reached := fun _ _ _ staged =>
    staged_begun staged
  have begun : insight.begun := by
    rcases ready with ⟨_, _, rfl⟩ | ⟨_, _, _, rfl⟩ | rfl <;> rfl
  refine Follows.andThen (follows_attended
    (fun _ (reached : Insight) => reached = .lost ∨ reached = .working row key ∧
      ((row.keyMode ≠ some requester ∧ key = none) ∨
        (row.keyMode = some requester ∧ ∃ secret, key = some secret)))
    (fun _ => Insight.Awake) trivial begun ?_ (fun _ => ?_) fun _ => begun_next _ _ begun)
    (fun _ reached working => ?_) fun _ _ begun => begun
  · rcases ready with ⟨mode, rfl, rfl⟩ | ⟨mode, secret, rfl, rfl⟩ | lost
    · exact .inr (.inl ⟨row, rfl, rfl, mode⟩)
    · exact .inr (.inr ⟨row, secret, rfl, rfl, mode⟩)
    · exact .inl lost
  · rcases ready with ⟨mode, rfl, rfl⟩ | ⟨mode, secret, rfl, rfl⟩ | rfl
    · exact .inr ⟨rfl, .inl ⟨mode, rfl⟩⟩
    · exact .inr ⟨rfl, .inr ⟨mode, secret, rfl⟩⟩
    · exact .inl rfl
  have only : ∀ key : Option String, Program.Only programOp (if row.keyMode = some requester then
        runRequester settings row key
      else if row.kind = .analyzeLocal then do
        let outcome ← runLocalAnalysis settings row.reportId
          { triageLlm := row.pinnedLlm.bind PinnedLlm.triage
            localizeLlm := row.pinnedLlm.bind PinnedLlm.localization
            triggerRef := some row.actionId }
        pure (mapLocal outcome)
      else runLegacyFix settings row : Py Result) := by
    intro key
    split
    · rename_i mode
      cases key with
      | none =>
          unfold runRequester
          split
          · rename_i absent
            cases absent
          · trivial
      | some secret =>
          exact (@run_requester_insight (fun _ => True) settings .lost row secret mode
            (.inr rfl)).forget.2
    · rename_i mode
      split
      · rename_i kind
        exact only_bind (@run_local_insight (fun _ => True) settings .lost row mode kind
          (.inr rfl)).forget.2 fun _ => trivial
      · rename_i kind
        exact (@run_legacy_insight (fun _ => True) settings .lost row mode kind
          (.inr rfl)).forget.2
  rcases working with rfl | ⟨rfl, keyed⟩
  · exact lost_follows (only key) (fun _ => rfl) fun _ => rfl
  rcases keyed with ⟨mode, rfl⟩ | ⟨mode, secret, rfl⟩
  · rw [if_neg mode]
    split
    · rename_i kind
      exact Follows.andThen (run_local_insight mode kind (.inl rfl)) (fun outcome reached staged =>
        awake none outcome reached staged) (awake none)
    · rename_i kind
      exact (run_legacy_insight mode kind (.inl rfl)).mono (awake none) (awake none)
  · rw [if_pos mode]
    exact (run_requester_insight mode (.inl rfl)).mono (awake (some secret)) (awake (some secret))

theorem run_keyed_follows (kept : Insight.Kept (.engaged row) insight) :
    (runKeyed settings row).Follows (syncRun listed settings) insight
      (fun _ => Insight.Awake) (fun _ => Insight.Awake) := by
  unfold runKeyed
  split
  · rename_i mode
    refine Follows.andThen (fetch_key_follows mode kept) (fun fetched _ answered => ?_)
      fun _ _ begun => begun
    cases fetched with
    | error result => exact answered.1
    | ok key =>
        refine run_llm_follows ?_
        rcases answered.2 key rfl with keyed | lost
        · exact .inr (.inl ⟨mode, key, rfl, keyed⟩)
        · exact .inr (.inr lost)
  · rename_i mode
    refine run_llm_follows ?_
    rcases kept with engaged | lost
    · exact .inl ⟨mode, rfl, engaged⟩
    · exact .inr (.inr lost)

end Model

section Conclusion

variable {listed : ListedAction → Prop} {settings : Settings} {insight : Insight}

theorem expire_known {actionId : String} {row : TriageAction} (same : row.actionId = actionId)
    (open' : row.phase ≠ .reserved) (kept : Insight.Kept (.read row) insight) :
    (expireIfOverdue settings actionId).Follows (syncRun listed settings) insight
      (fun expired reached => reached.begun ∧ (expired = false → Insight.Held actionId reached))
      (fun _ => Insight.Awake) := by
  refine Follows.andThen (get_again kept same) (fun found reached known => ?_)
    fun _ _ begun => begun
  have finishes : ∀ (row : TriageAction) (last : Insight), last.begun → Program.Follows
      (syncRun listed settings) (do
        let _ ← finish actionId (timeoutResult settings row) none
        pure true) last
      (fun expired reached => reached.begun ∧ (expired = false → Insight.Held actionId reached))
      (fun _ => Insight.Awake) := fun row last begun =>
    Follows.andThen (free_follows (free_finish _ _ _) begun)
      (fun _ _ begun => ⟨begun, fun expired => by cases expired⟩) fun _ _ begun => begun
  cases found with
  | none =>
      rcases known with rfl | ⟨row', found, _⟩
      · exact ⟨rfl, fun expired => by cases expired⟩
      · cases found
  | some found =>
      dsimp only
      split
      · refine ⟨?_, fun expired => by cases expired⟩
        rcases known with rfl | ⟨row', _, rfl, _⟩ <;> rfl
      rename_i unfinished
      rcases known with rfl | ⟨row', known, rfl, phase⟩
      · refine Follows.andThen (still_follows (reads_still (timed_out_within _)) .lost rfl (.inl rfl))
          (fun overdue last kept => ?_) fun _ _ kept => kept_begun .lost rfl kept
        split
        · exact finishes _ _ (kept_begun .lost rfl kept)
        · exact ⟨kept_begun .lost rfl kept, fun _ => .inr (kept.elim id id)⟩
      · cases known
        refine Follows.andThen (still_follows (reads_still (timed_out_within _)) (.read found.1) rfl (.inl rfl))
          (fun overdue last kept => ?_) fun _ _ kept => kept_begun (.read found.1) rfl kept
        split
        · exact finishes _ _ (kept_begun (.read found.1) rfl kept)
        · refine ⟨kept_begun (.read found.1) rfl kept, fun _ => ?_⟩
          rcases kept with read | lost
          · exact .inl ⟨found.1, .inl read, found.2, phase ▸ open', unfinished⟩
          · exact .inr lost

theorem pr_phase_open (kind : Kind) : prPhase kind ≠ .reserved := by
  unfold prPhase
  split <;> (intro same; cases same)

theorem free_attempted (actionId : String) (kind : Kind) (attempts : Nat) :
    (triageActionUpdate actionId (some (prPhase kind)) { attempts := some attempts }).Only
      (freeOp listed settings) := by
  refine free_ledger (.attempted actionId kind attempts) fun insight => ?_
  have open' := pr_phase_open kind
  generalize prPhase kind = phase at open'
  cases phase with
  | reserved => exact absurd rfl open'
  | _ => exact fun moved => by cases moved

theorem run_pr_follows (actionId : String) (begun : insight.begun) :
    (runPr settings actionId).Follows (syncRun listed settings) insight (fun _ => Insight.Awake)
      (fun _ => Insight.Awake) := by
  refine Follows.andThen (get_follows actionId begun) (fun found _ after => ?_)
    fun _ _ begun => begun
  cases found with
  | none => exact after.1
  | some row =>
      dsimp only
      split
      swap
      · exact after.1
      rename_i phase
      refine Follows.andThen (expire_known row.2 (phase ▸ pr_phase_open _) (after.2 row rfl))
        (fun expired reached held => ?_) fun _ _ begun => begun
      split
      · exact held.1
      rename_i inTime
      have held := held.2 (by simpa using inTime)
      refine Follows.andThen (follows_attended (fun _ => Insight.Awake) (fun _ => Insight.Awake)
        trivial (held_begun held) (held.elim .inr .inl)
        (fun _ => begun_next _ _ (held_begun held)) fun _ => begun_next _ _ (held_begun held))
        (fun _ _ begun => ?_) fun _ _ begun => begun
      refine free_follows (only_bind (free_pr_step _ _ _) fun step =>
        only_bind (free_expire actionId) fun late => ?_) begun
      split
      · exact only_bind (free_ledger (.late ..) fun _ => trivial) fun _ => trivial
      split
      · exact only_bind (free_attempted _ _ _) fun _ => trivial
      · exact only_bind (free_finish _ _ _) fun _ => trivial

theorem conclude_task_follows (actionId : String) (result : Result) (begun : insight.begun) :
    (concludeTask settings actionId result).Follows (syncRun listed settings) insight
      (fun _ => Insight.Awake) (fun _ => Insight.Awake) := by
  refine Follows.andThen (free_follows (free_expire actionId) begun) (fun late _ begun => ?_)
    fun _ _ begun => begun
  have lateWrite : ∀ outcome, (do
      let _ ← triageActionUpdate actionId none { lateOutcome := some outcome } : Py Unit).Only
        (freeOp listed settings) :=
    fun outcome => only_bind (free_ledger (.late ..) fun _ => trivial) fun _ => trivial
  split
  · exact free_follows (lateWrite _) begun
  split
  · refine Follows.andThen (free_follows (free_checkpoint _ _ (.inr rfl)) begun)
      (fun checkpointed _ begun => ?_) fun _ _ begun => begun
    split
    · exact run_pr_follows actionId begun
    · exact free_follows (lateWrite _) begun
  · exact free_follows (only_bind (free_finish _ _ _) fun _ => trivial) begun

/-- The task's last operation, which needs nothing. -/
theorem release_inside (actionId : String) (inside : insight ≠ .outside) :
    (release actionId).Follows (syncRun listed settings) insight (fun _ _ => True)
      (fun _ _ => True) :=
  (follows_sync_ask ..).mpr ⟨⟨.inr (.inr (.inl trivial)), .inr (.inr ⟨inside, trivial⟩)⟩,
    fun _ => trivial, fun _ => trivial⟩

theorem run_task_follows (actionId : String) :
    (runTask settings actionId).Follows (syncRun listed settings) (.tasked actionId) (fun _ _ => True)
      (fun _ _ => True) := by
  have released : ∀ {Value : Type} (value : Value) (reached : Insight),
      reached = .tasked actionId ∨ reached.begun → (release actionId).Follows (syncRun listed settings)
        reached (fun _ _ => True) (fun _ _ => True) := by
    intro Value value reached known
    refine release_inside actionId ?_
    rcases known with rfl | begun
    · simp
    · exact begun_inside begun
  have reads : (triageActionGet actionId).Follows (syncRun listed settings)
      (.tasked actionId)
      (fun found (reached : Insight) => (found = none ∧ reached = .tasked actionId) ∨
        ∃ row, found = some row ∧ Insight.Kept (.engaged row.1) reached)
      (fun _ (reached : Insight) => reached = .tasked actionId ∨ reached.begun) := by
    refine (follows_sync_ask ..).mpr ⟨⟨.inr (.inr (.inl trivial)), .inr (.inr ⟨by simp, trivial⟩)⟩,
      fun found => ?_, fun error => .inl rfl⟩
    cases found with
    | none => exact .inl ⟨rfl, rfl⟩
    | some row =>
        refine .inr ⟨row, rfl, ?_⟩
        show Insight.Kept (.engaged row.1) (Insight.found row.1 (.tasked actionId))
        unfold Insight.found
        dsimp only
        rw [if_pos row.2]
        split
        · exact .inr rfl
        · exact .inl rfl
  refine (Follows.andThen reads (fun found reached known => ?_) fun _ _ known => known).ensured
    (@released Unit) (@released Exn)
  rcases known with ⟨rfl, rfl⟩ | ⟨row, rfl, kept⟩
  · exact .inl rfl
  have ends : ∀ {Value : Type} (value : Value) (reached : Insight), reached.Awake →
      reached = .tasked actionId ∨ reached.begun := fun _ _ begun => .inr begun
  refine ((run_keyed_follows kept).caught (fun _ _ begun => begun) fun error _ begun => ?_).andThen
    (fun result _ begun => (conclude_task_follows actionId result begun).mono ends ends) ends
  exact begun

theorem pr_task_follows (actionId : String) (begun : insight.begun) :
    (prTask settings actionId).Follows (syncRun listed settings) insight (fun _ => Insight.Awake)
      (fun _ => Insight.Awake) :=
  (run_pr_follows actionId begun).ensured
    (fun _ _ begun => free_follows (free_release _) begun)
    fun _ _ begun => free_follows (free_release _) begun

end Conclusion

end Bugalizer
