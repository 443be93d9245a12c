import Bugalizer.Sync.Insight

/-!
# What an authorization grants

`authorize` pins the provider and model of every stage its action runs, and decides whether
a dispatch may be repeated and under which key it runs.
-/

namespace Bugalizer

set_option autoImplicit false

open Coroutine Program

section Authorize

variable {settings : Settings} {project : Project} {report : Report} {action : ListedAction}
variable {auth : Authorization}

theorem checked_grants {kind : Kind} {granted : Authorization}
    (returned : (authorizeChecked project report kind granted).Returns auth)
    (admitted : auth.refusal = none) : auth = granted := by
  simp only [authorizeChecked, bind_eq, returns_bind] at returned
  obtain ⟨refusal, _, last⟩ := returned
  cases refusal with
  | none => exact last.symm
  | some message =>
      cases last
      cases admitted

theorem requester_pin_provider {params : Json} {pin : LlmPin}
    (pinned : requesterPin params = some pin) : pin.1 = requesterProvider := by
  unfold requesterPin at pinned
  split at pinned
  · split at pinned
    · split at pinned
      · rename_i fits
        cases pinned
        exact fits.1
      · cases pinned
    · cases pinned
  · cases pinned

/-- A condition that is checked only sometimes, and what follows when it does not refuse. -/
theorem returned_unless (checked : Bool) {refusal : Authorization} {check : Py Bool}
    {rest : Py Authorization}
    (returned : (if checked = true then check >>= fun given =>
        if !given then Pure.pure refusal else rest
      else Pure.pure true >>= fun given => if !given then Pure.pure refusal else rest).Returns auth)
    (refused : refusal.refusal.isSome) (admitted : auth.refusal = none) :
    rest.Returns auth ∧ (checked = true → check.Returns true) := by
  have either : ∀ given : Bool,
      (if !given then Pure.pure refusal else rest : Py Authorization).Returns auth →
      rest.Returns auth ∧ given = true := by
    intro given after
    cases given with
    | true => exact ⟨after, rfl⟩
    | false =>
        cases after
        rw [admitted] at refused
        cases refused
  split at returned
  · simp only [bind_eq, returns_bind] at returned
    obtain ⟨given, answered, after⟩ := returned
    obtain ⟨later, rfl⟩ := either given after
    exact ⟨later, fun _ => answered⟩
  · rename_i unchecked
    simp only [bind_eq, returns_bind] at returned
    obtain ⟨given, _, after⟩ := returned
    exact ⟨(either given after).1, fun checked => absurd checked unchecked⟩

theorem requester_grants {params : Json}
    (returned : (authorizeRequester project report action params).Returns auth)
    (admitted : auth.refusal = none) :
    ∃ pin, requesterPin params = some pin ∧
      auth = { pinned := fixPin pin, noAutoRetry := true, keyMode := some requester } := by
  unfold authorizeRequester at returned
  dsimp only at returned
  split at returned
  · cases returned
    cases admitted
  split at returned
  · cases returned
    cases admitted
  rename_i pin pinned
  refine ⟨pin, pinned, ?_⟩
  have written := returned_unless (decide (action.kind = .fixAndOpenPr)) (by simpa using returned)
    rfl admitted
  have spent := returned_unless (decide (action.kind = .fixAndOpenPr)) (by simpa using written.1)
    rfl admitted
  exact checked_grants spent.1 admitted

/-- With per-user keys off the fix stage is pinned; a paid one needs the allowlist. -/
theorem legacy_grants {params email : Json}
    (returned : (authorizeLegacy settings project report action params email).Returns auth)
    (admitted : auth.refusal = none) :
    auth =
      { pinned := fixPin (resolveFixLlm settings (some project))
        noAutoRetry := decide (action.kind = .analyzeCloud) ||
          isPaid (resolveFixLlm settings (some project)).1 } ∧
      (action.kind = .analyzeCloud ∨ isPaid (resolveFixLlm settings (some project)).1 = true →
        (allowlisted settings email).Returns true) := by
  unfold authorizeLegacy at returned
  dsimp only at returned
  split at returned
  · cases returned
    cases admitted
  have written := returned_unless (decide (action.kind = .fixAndOpenPr)) (by simpa using returned)
    rfl admitted
  have spent := returned_unless (decide (action.kind = .fixAndOpenPr) &&
    isPaid (resolveFixLlm settings (some project)).1) (by simpa using written.1) rfl admitted
  have allowed := returned_unless (decide (action.kind = .analyzeCloud) ||
    isPaid (resolveFixLlm settings (some project)).1) (by simpa using spent.1) rfl admitted
  exact ⟨checked_grants allowed.1 admitted, fun either => allowed.2 (by simpa using either)⟩

theorem local_grants (returned : auth = authorizeLocal settings project report action)
    (admitted : auth.refusal = none) :
    auth =
      { pinned := ⟨some (resolveLocalLlm settings (some project) .triage),
          some (resolveLocalLlm settings (some project) .localize), none⟩ } ∧
      isPaid (resolveLocalLlm settings (some project) .triage).1 = false ∧
      isPaid (resolveLocalLlm settings (some project) .localize).1 = false := by
  unfold authorizeLocal at returned
  dsimp only at returned
  split at returned
  · rw [returned] at admitted
    cases admitted
  rename_i unpaid
  split at returned
  · rw [returned] at admitted
    cases admitted
  refine ⟨returned, ?_⟩
  simpa [List.find?_eq_none] using unpaid

/-- What `authorize` grants when it does not refuse. -/
theorem authorize_grants (returned : (authorize settings project report action).Returns auth)
    (admitted : auth.refusal = none) :
    Grants settings action.kind ⟨auth.pinned, auth.noAutoRetry, auth.keyMode⟩ := by
  simp only [authorize, bind_eq, returns_bind] at returned
  obtain ⟨email, _, returned⟩ := returned
  have free : action.kind ≠ .analyzeLocal → action.kind.paid = false → auth = {} →
      Grants settings action.kind ⟨auth.pinned, auth.noAutoRetry, auth.keyMode⟩ := by
    rintro notLocal unpaid rfl
    exact
      { localPins := fun kind => absurd kind notLocal
        fixPin := fun paid => by rw [unpaid] at paid; cases paid
        gated := fun _ paid => by rw [unpaid] at paid; cases paid
        keyed := fun keyed => by cases keyed
        unpaid := fun _ => ⟨rfl, rfl, rfl⟩
        once := fun paid => by rw [unpaid] at paid; cases paid }
  have spend : action.kind.paid → (if settings.sonicgridUserKeys then
        authorizeRequester project report action
          (if action.params.isObj then action.params else .obj [])
      else authorizeLegacy settings project report action
        (if action.params.isObj then action.params else .obj []) email).Returns auth →
      Grants settings action.kind ⟨auth.pinned, auth.noAutoRetry, auth.keyMode⟩ := by
    intro paid either
    have notLocal : action.kind ≠ .analyzeLocal := by
      intro isLocal
      rw [isLocal] at paid
      cases paid
    split at either
    · obtain ⟨pin, pinned, rfl⟩ := requester_grants either admitted
      have anthropic := requester_pin_provider pinned
      exact
        { localPins := fun kind => absurd kind notLocal
          fixPin := fun _ => rfl
          gated := fun _ _ => rfl
          keyed := fun _ => ⟨rfl, pin.2, by rw [← anthropic]; rfl⟩
          unpaid := fun unpaid => by rw [unpaid] at paid; cases paid
          once := fun _ _ => rfl }
    · rename_i off
      obtain ⟨rfl, _⟩ := legacy_grants either admitted
      exact
        { localPins := fun kind => absurd kind notLocal
          fixPin := fun _ => rfl
          gated := fun gate => absurd gate off
          keyed := fun keyed => by cases keyed
          unpaid := fun unpaid => by rw [unpaid] at paid; cases paid
          once := fun _ cloud => by simpa [fixPin] using cloud }
  split at returned
  · rename_i kind
    cases returned
    cases admitted
  · rename_i kind
    obtain ⟨rfl, _⟩ := local_grants returned.symm admitted
    rw [kind]
    exact
      { localPins := fun _ => ⟨rfl, rfl⟩
        fixPin := fun paid => by cases paid
        gated := fun _ paid => by cases paid
        keyed := fun keyed => by cases keyed
        unpaid := fun _ => ⟨rfl, rfl, rfl⟩
        once := fun paid => by cases paid }
  · rename_i kind
    exact spend (by rw [kind]; rfl) returned
  · rename_i kind
    exact spend (by rw [kind]; rfl) returned
  · rename_i kind
    rw [returns_bind] at returned
    obtain ⟨repoWrite, _, returned⟩ := returned
    split at returned
    · exact free (by simp [kind]) (by rw [kind]; rfl) returned.symm
    · cases returned
      cases admitted
  · rename_i kind
    simp only [authorizeMode, bind_eq, returns_bind] at returned
    obtain ⟨mode, _, returned⟩ := returned
    split at returned
    · cases returned
    · cases returned
    split at returned
    · exact free (by simp [kind]) (by rw [kind]; rfl) returned.symm
    · cases returned
      cases admitted
  · rename_i kind
    split at returned
    · exact free (by simp [kind]) (by rw [kind]; rfl) returned.symm
    · cases returned
      cases admitted
  · rename_i kind
    split at returned
    · cases returned
      cases admitted
    · exact free (by simp [kind]) (by rw [kind]; rfl) returned.symm

end Authorize

end Bugalizer
