import Bugalizer.Scenario
import Bugalizer.Sync.Items
import Bugalizer.Sync.Listing

/-!
# The walk over the listed actions

`_well_formed` checks four fields of a listed action; the handler, the authorizer, the driver and httpx
take more of it. Which actions they raise on is `Readable`, and nothing else of an action makes its
handling raise.
-/

namespace Bugalizer.Items

set_option autoImplicit false

open Coroutine Program Wire

/-- Has `.get`, as it is read with `or {}`. -/
def Gettable (value : Value) : Prop := ∃ fields, objectOr value = .dict fields

/-- Can be stripped, as it is read with `or ""`. -/
def Strippable : Value → Prop
  | .str _ => True
  | value => value.truthy = false

def Hashable : Value → Prop
  | .list _ | .dict _ => False
  | _ => True

/-- A member of a value with `.get`, as it is read with `or {}`. -/
def member (value : Value) (name : String) : Value := (objectOr value).get name

namespace Item

variable (outside : Outside) (settings : Settings) (endpoint : Endpoint) (project : Project) (item : Item)

def ConsentGiven (name : String) : Prop := isTrue (member item.consents name) = true

/-- Whether authorization gets as far as the allowlist, with per-user keys off. -/
def ReachesAllowlist : Prop :=
  let paid := isPaid (resolveFixLlm settings (some project)).1
  (item.named = .fixAndOpenPr → item.ConsentGiven "repoWrite" ∧ (paid = true → item.ConsentGiven "cloudSpend")) ∧
    (item.named = .analyzeCloud ∨ paid = true)

def PaidReadable : Prop :=
  if settings.sonicgridUserKeys then
    item.named = .fixAndOpenPr → (KeyRelease.requesterPin item.fields).isSome = true → Gettable item.consents
  else
    holds "llm" item.fields = true ∨
      (item.named = .fixAndOpenPr → Gettable item.consents) ∧
        (item.ReachesAllowlist settings project → Strippable (member item.requestedBy "email"))

def BranchReadable : Prop :=
  match item.named with
  | .analyzeCloud | .fixAndOpenPr => item.PaidReadable settings project
  | .openPr => Gettable item.consents
  | .setMode => Gettable item.params ∧ Hashable (member item.params "mode")
  | _ => True

/-- The driver takes the action's texts, httpx its URL and `json.dumps` its params, and it has the shapes
that its handling reads. -/
structure Readable : Prop where
  id : item.id.Encodable
  bugId : item.bugId.Encodable
  kind : item.kind.Encodable
  url : outside.builds endpoint (shown item.id) = true
  depth : outside.writes item.fields = true
  requestedBy : Gettable item.requestedBy
  userId : ∀ user, member item.requestedBy "userId" = .str user → user.Encodable
  branch : item.BranchReadable settings project

end Item

section Reads

variable {repr : Double → String} {settings : Settings} {project : Project} {report : Report} {item : Item}

theorem gettable_get {value : Value} (gettable : Gettable value) (name : String) :
    getField (objectOr value) name = done (member value name) := by
  obtain ⟨fields, same⟩ := gettable
  unfold member
  rw [same]
  rfl

theorem ungettable_raises {value : Value} (ungettable : ¬Gettable value) (name : String) :
    ∃ error, getField (objectOr value) name = raise error := by
  unfold getField
  cases read : objectOr value with
  | dict fields => exact absurd ⟨fields, read⟩ ungettable
  | _ => exact ⟨_, rfl⟩

theorem consented_gettable (gettable : Gettable item.consents) (name : String) :
    consented item name = done (isTrue (member item.consents name)) := by
  unfold consented
  rw [gettable_get gettable]
  rfl

theorem consented_ungettable (ungettable : ¬Gettable item.consents) (name : String) :
    ∃ error, consented item name = raise error := by
  obtain ⟨error, read⟩ := ungettable_raises ungettable name
  unfold consented
  rw [read]
  exact ⟨error, rfl⟩

theorem allowlisted_strippable {email : Value} (strippable : Strippable email) :
    ∃ allowed, allowlisted settings email = done allowed := by
  unfold allowlisted
  split
  · exact ⟨_, rfl⟩
  · rename_i notText
    cases email with
    | str text => exact absurd rfl (notText text)
    | _ => exact ⟨false, if_neg (Bool.not_eq_true _ ▸ strippable)⟩

theorem allowlisted_unstrippable {email : Value} (unstrippable : ¬Strippable email) :
    ∃ error, allowlisted settings email = raise error := by
  unfold allowlisted
  split
  · exact absurd trivial unstrippable
  · rename_i notText
    cases email with
    | str text => exact absurd rfl (notText text)
    | _ => exact ⟨_, if_pos (Bool.not_eq_false _ ▸ unstrippable)⟩

theorem blameless_checked {checked : Prop} [Decidable checked] {check : Py Bool}
    {rest : Bool → Py Authorization} (first : checked → check.Blameless tallies)
    (later : ∀ given, (checked → check.Returns given) → (rest given).Blameless tallies) :
    (if checked then check >>= rest else Pure.pure true >>= rest).Blameless tallies := by
  split
  · rename_i isChecked
    exact fun ghost => ((first isChecked ghost).returned).andThen
      (fun given reached returned => later given (fun _ => returned.2) reached) fun _ _ blamed => blamed
  · rename_i unchecked
    exact later true fun isChecked => absurd isChecked unchecked

theorem blameless_consented (gettable : Gettable item.consents) (name : String) :
    (consented item name).Blameless tallies := blameless_pure (consented_gettable gettable name)

theorem blameless_requester (readable : item.named = .fixAndOpenPr →
    (KeyRelease.requesterPin item.fields).isSome = true → Gettable item.consents) :
    (authorizeRequester project report item).Blameless tallies := by
  unfold authorizeRequester
  dsimp only
  split
  · exact blameless_done _
  split
  · exact blameless_done _
  rename_i pin pinned
  have gettable : item.named = .fixAndOpenPr → Gettable item.consents := fun kind =>
    readable kind (by rw [pinned]; rfl)
  refine blameless_checked (fun kind => blameless_consented (gettable kind) _) fun write _ => ?_
  split
  · exact blameless_done _
  refine blameless_checked (fun kind => blameless_consented (gettable kind) _) fun spend _ => ?_
  split
  · exact blameless_done _
  · exact blameless_authorize_checked _ _

theorem blameless_legacy (readable : holds "llm" item.fields = true ∨
    (item.named = .fixAndOpenPr → Gettable item.consents) ∧
      (item.ReachesAllowlist settings project → Strippable (member item.requestedBy "email"))) :
    (authorizeLegacy settings project report item (member item.requestedBy "email")).Blameless tallies := by
  unfold authorizeLegacy
  dsimp only
  split
  · exact blameless_done _
  rename_i absent
  obtain ⟨gettable, strippable⟩ := readable.resolve_left absent
  have given : ∀ {name : String} {value : Bool}, Gettable item.consents →
      (consented item name).Returns value → value = true → item.ConsentGiven name := by
    intro name value gettable returned isTrue
    rw [consented_gettable gettable] at returned
    exact returned.trans isTrue
  refine blameless_checked (fun kind => blameless_consented (gettable kind) _) fun write written => ?_
  split
  · exact blameless_done _
  rename_i wrote
  refine blameless_checked
    (fun both => blameless_consented (gettable (by simpa using (Bool.and_eq_true_iff.mp both).1)) _)
    fun spend spent => ?_
  split
  · exact blameless_done _
  rename_i spends
  refine blameless_checked (fun asked => ?_) fun allowed _ => ?_
  · have reaches : item.ReachesAllowlist settings project := by
      refine ⟨fun kind => ⟨given (gettable kind) (written kind) (by simpa using wrote), fun paid => ?_⟩,
        by simpa using asked⟩
      exact given (gettable kind) (spent (by simp [kind, paid])) (by simpa using spends)
    obtain ⟨allowed, read⟩ := @allowlisted_strippable settings _ (strippable reaches)
    exact blameless_pure read
  · split
    · exact blameless_done _
    · exact blameless_authorize_checked _ _

theorem blameless_mode (fields : Gettable item.params) (hashable : Hashable (member item.params "mode")) :
    (authorizeMode item).Blameless tallies := by
  unfold authorizeMode
  rw [gettable_get fields, bind_eq, done_bind]
  split
  · rename_i items read
    rw [read] at hashable
    cases hashable
  · rename_i fields read
    rw [read] at hashable
    cases hashable
  · split <;> exact blameless_done _

theorem blameless_authorize (gettable : Gettable item.requestedBy)
    (readable : item.BranchReadable settings project) :
    (authorize repr settings project report item).Blameless tallies := by
  unfold authorize
  unfold Item.BranchReadable at readable
  rw [gettable_get gettable, bind_eq, done_bind]
  have paid : item.PaidReadable settings project →
      (if settings.sonicgridUserKeys then authorizeRequester project report item
      else authorizeLegacy settings project report item (member item.requestedBy "email")).Blameless tallies := by
    intro readable
    unfold Item.PaidReadable at readable
    split
    · rename_i gate
      rw [if_pos gate] at readable
      exact blameless_requester readable
    · rename_i gate
      rw [if_neg gate] at readable
      exact blameless_legacy readable
  cases kind : item.named with
  | unknown text => exact blameless_done _
  | analyzeLocal => exact blameless_done _
  | analyzeCloud => rw [kind] at readable; exact paid readable
  | fixAndOpenPr => rw [kind] at readable; exact paid readable
  | openPr =>
      rw [kind] at readable
      refine blameless_bind (blameless_consented readable _) fun write => ?_
      split <;> exact blameless_done _
  | setMode => rw [kind] at readable; exact blameless_mode readable.1 readable.2
  | reopen => dsimp only; split <;> exact blameless_done _
  | close => dsimp only; split <;> exact blameless_done _

theorem pinned_holds {value : Value} {pin : Text × Text} (found : KeyRelease.requesterPin value = some pin) :
    holds "llm" value = true := by
  cases value with
  | dict fields =>
      cases read : fields.lookup (Text.of "llm") with
      | none =>
          have absent : (Value.dict fields).get "llm" = .null := by simp only [Value.get, read, Option.getD_none]
          unfold KeyRelease.requesterPin at found
          rw [absent] at found
          cases found
      | some llm => simp only [holds, read, Option.isSome_some]
  | _ => cases found

theorem raises_requester (kind : item.named = .fixAndOpenPr)
    (pinned : (KeyRelease.requesterPin item.fields).isSome = true) (ungettable : ¬Gettable item.consents) :
    ∃ error, authorizeRequester project report item = raise error := by
  obtain ⟨pin, found⟩ := Option.isSome_iff_exists.mp pinned
  obtain ⟨error, read⟩ := consented_ungettable ungettable "repoWrite"
  refine ⟨error, ?_⟩
  unfold authorizeRequester
  simp only [pinned_holds found, Bool.not_true, Bool.false_eq_true, if_false, found, kind, if_true, read, bind_eq, raise_bind]

theorem raises_legacy_consents (absent : ¬holds "llm" item.fields = true)
    (kind : item.named = .fixAndOpenPr) (ungettable : ¬Gettable item.consents) (email : Value) :
    ∃ error, authorizeLegacy settings project report item email = raise error := by
  obtain ⟨error, read⟩ := consented_ungettable ungettable "repoWrite"
  refine ⟨error, ?_⟩
  unfold authorizeLegacy
  simp only [absent, Bool.false_eq_true, if_false, kind, if_true, read, bind_eq, raise_bind]

theorem raises_legacy_email (absent : ¬holds "llm" item.fields = true)
    (gettable : item.named = .fixAndOpenPr → Gettable item.consents)
    (reaches : item.ReachesAllowlist settings project) {email : Value} (unstrippable : ¬Strippable email) :
    ∃ error, authorizeLegacy settings project report item email = raise error := by
  obtain ⟨error, read⟩ := @allowlisted_unstrippable settings _ unstrippable
  refine ⟨error, ?_⟩
  obtain ⟨consents, cloudOrPaid⟩ := reaches
  have asked : (decide (item.named = .analyzeCloud) ||
      isPaid (resolveFixLlm settings (some project)).1) = true := by simpa using cloudOrPaid
  unfold authorizeLegacy
  by_cases kind : item.named = .fixAndOpenPr
  · have write : isTrue (member item.consents "repoWrite") = true := (consents kind).1
    by_cases paid : isPaid (resolveFixLlm settings (some project)).1 = true
    · have spend : isTrue (member item.consents "cloudSpend") = true := (consents kind).2 paid
      simp [absent, kind, paid, consented_gettable (gettable kind), write, spend, read]
    · rcases cloudOrPaid with cloud | paid'
      · rw [kind] at cloud
        cases cloud
      · exact absurd paid' paid
  · simp only [absent, kind, if_false, Bool.false_eq_true, pure_eq, bind_eq, done_bind, decide_false,
      Bool.false_and, Bool.not_true, asked, if_true, read, raise_bind]

theorem raises_paid (unreadable : ¬item.PaidReadable settings project) (email : Value)
    (asked : email = member item.requestedBy "email") :
    ∃ error, (if settings.sonicgridUserKeys then authorizeRequester project report item
      else authorizeLegacy settings project report item email) = raise error := by
  subst asked
  unfold Item.PaidReadable at unreadable
  split
  · rename_i gate
    rw [if_pos gate] at unreadable
    simp only [Classical.not_imp] at unreadable
    exact raises_requester unreadable.1 unreadable.2.1 unreadable.2.2
  · rename_i gate
    rw [if_neg gate] at unreadable
    simp only [not_or, not_and] at unreadable
    obtain ⟨absent, rest⟩ := unreadable
    by_cases consents : item.named = .fixAndOpenPr → Gettable item.consents
    · have email := rest consents
      simp only [Classical.not_imp] at email
      exact raises_legacy_email absent consents email.1 email.2
    · simp only [Classical.not_imp] at consents
      exact raises_legacy_consents absent consents.1 consents.2 _

theorem raises_mode (unreadable : ¬(Gettable item.params ∧ Hashable (member item.params "mode"))) :
    ∃ error, authorizeMode item = raise error := by
  unfold authorizeMode
  by_cases fields : Gettable item.params
  · have unhashable : ¬Hashable (member item.params "mode") := fun hashable =>
      unreadable ⟨fields, hashable⟩
    rw [gettable_get fields, bind_eq, done_bind]
    cases read : member item.params "mode" with
    | list items => exact ⟨_, rfl⟩
    | dict fields => exact ⟨_, rfl⟩
    | _ => rw [read] at unhashable; exact absurd trivial unhashable
  · obtain ⟨error, read⟩ := ungettable_raises fields "mode"
    rw [read]
    exact ⟨error, rfl⟩

theorem unreadable_raises (gettable : Gettable item.requestedBy)
    (unreadable : ¬item.BranchReadable settings project) :
    ∃ error, authorize repr settings project report item = raise error := by
  unfold authorize
  unfold Item.BranchReadable at unreadable
  rw [gettable_get gettable, bind_eq, done_bind]
  cases kind : item.named with
  | analyzeCloud => rw [kind] at unreadable; exact raises_paid unreadable _ rfl
  | fixAndOpenPr => rw [kind] at unreadable; exact raises_paid unreadable _ rfl
  | openPr =>
      rw [kind] at unreadable
      obtain ⟨error, read⟩ := consented_ungettable unreadable "repoWrite"
      refine ⟨error, ?_⟩
      show (consented item "repoWrite").bind _ = _
      rw [read]
      rfl
  | setMode => rw [kind] at unreadable; exact raises_mode unreadable
  | _ => rw [kind] at unreadable; exact absurd trivial unreadable

end Reads

section Handler

variable {outside : Outside} {settings : Settings} {endpoint : Endpoint} {project : Project} {item : Item}

theorem blameless_bound {text : Text} (clean : text.Encodable) : (bound text).Blameless tallies :=
  blameless_pure (bound_clean clean)

theorem blameless_authorize_reserved {report : Report} (actionId : String)
    (readable : item.Readable outside settings endpoint project) :
    (authorizeReserved outside settings project report actionId item).Blameless tallies := by
  refine blameless_bind (blameless_authorize readable.requestedBy readable.branch) fun auth => ?_
  cases auth.refusal with
  | some refusal =>
      exact blameless_bind (blameless_ask _) fun _ =>
        blameless_bind (blameless_pure (bound_refusal_clean readable.kind)) fun _ =>
          blameless_bind (blameless_finish _ _ _) fun _ => blameless_done _
  | none =>
      refine blameless_bind (blameless_ask _) fun _ => blameless_bind (blameless_ask _) fun now => ?_
      intro tally
      have pins : ∀ fields, (triageActionUpdate actionId (some .reserved) fields).Follows
          tallies.discipline tally
          (fun moved reached => moved = true → reached = .pinned actionId ∨ reached = .spoiled)
          fun _ => tallies.blamed := by
        intro fields
        refine (follows_perform ..).mpr ⟨trivial, fun moved isMoved => ?_, fun _ => rfl⟩
        subst isMoved
        by_cases spoiled : tally = .spoiled
        · exact .inr (tallies.kept tally _ _ spoiled)
        · refine .inl ?_
          exact (if_neg spoiled).trans (if_pos rfl)
      refine Follows.andThen (pins _) (fun moved reached pinned => ?_) fun _ _ spoiled => spoiled
      split
      · rename_i isMoved
        rcases pinned isMoved with rfl | rfl
        · exact dispatch_authorized_blameless _
        · exact (blamed_follows _ rfl).mono (fun _ _ _ => trivial) fun _ _ spoiled => spoiled
      · trivial

theorem blameless_claim_and_start (readable : item.Readable outside settings endpoint project) :
    (claimAndStart outside settings endpoint project (shown item.id) item).Blameless tallies := by
  have asked : advanceClaimed outside endpoint (shown item.id) = advance endpoint (shown item.id) .claimed :=
    if_pos readable.url
  refine blameless_ensuring ?_ (blameless_release_unless _)
  rw [asked]
  refine blameless_bind (blameless_advance _ _) fun answer => ?_
  obtain ⟨status, answered⟩ := answer
  dsimp only
  split
  · exact blameless_bind (blameless_ask _) fun _ => blameless_done _
  split
  swap
  · exact blameless_done _
  refine blameless_bind (blameless_ask _) fun found => ?_
  cases found with
  | none => exact blameless_done _
  | some found =>
      refine blameless_bind (blameless_ask _) fun report => ?_
      cases report with
      | none => exact blameless_done _
      | some report => exact blameless_authorize_reserved _ readable

theorem blameless_bound_user {user : Value} (clean : ∀ text, user = .str text → text.Encodable) :
    (boundUser user).Blameless tallies := by
  cases user with
  | str text => exact blameless_bind (blameless_bound (clean text rfl)) fun _ => blameless_done _
  | _ => exact blameless_done _

theorem blameless_handle_new (readable : item.Readable outside settings endpoint project) :
    (handleNew outside settings endpoint project (shown item.id) item).Blameless tallies := by
  refine blameless_bind (blameless_bound readable.bugId) fun bugId =>
    blameless_bind (blameless_ask _) fun found => ?_
  cases found with
  | none => exact blameless_ask _
  | some report =>
      refine blameless_bind (blameless_ask _) fun held => ?_
      split
      swap
      · exact blameless_done _
      rw [gettable_get readable.requestedBy, bind_eq, done_bind]
      refine blameless_bind (blameless_pure (if_pos readable.depth)) fun params =>
        blameless_bind (blameless_bound readable.kind) fun _ =>
          blameless_bind (blameless_bound_user readable.userId) fun user =>
            blameless_bind (blameless_ask _) fun reserved => ?_
      split
      · exact blameless_claim_and_start readable
      · exact blameless_ask _

theorem blameless_handle (readable : item.Readable outside settings endpoint project) :
    (handle outside settings endpoint project item).Blameless tallies := by
  unfold handle
  rw [bound_clean readable.id, bind_eq, done_bind]
  refine blameless_bind (blameless_ask _) fun found => ?_
  cases found with
  | none => exact blameless_handle_new readable
  | some found =>
      refine blameless_bind (blameless_ask _) fun running => ?_
      split
      · exact blameless_running _ _
      split
      · refine blameless_bind (blameless_ask _) fun held => ?_
        split
        · exact blameless_claim_and_start readable
        · exact blameless_done _
      · exact blameless_recover _

/-- From the start of the walk, a text that is bound without blame is one that the driver takes. -/
theorem bound_first {Value : Type} {text : Text} {rest : String → Py Value} {tally : Tally}
    (sound : tally ≠ .spoiled) (blameless : ((bound text).bind rest).BlamelessFrom tallies tally) :
    text.Encodable ∧ (rest (shown text)).BlamelessFrom tallies tally := by
  unfold bound at blameless
  split at blameless
  · rename_i clean
    exact ⟨clean, blameless⟩
  · exact absurd blameless sound

theorem bound_user_first {Value : Type} {user : Wire.Value} {rest : Option String → Py Value} {tally : Tally}
    (sound : tally ≠ .spoiled) (blameless : ((boundUser user).bind rest).BlamelessFrom tallies tally) :
    (∀ text, user = .str text → text.Encodable) ∧ ∃ written, (rest written).BlamelessFrom tallies tally := by
  cases user with
  | str text =>
      have split : (boundUser (.str text)).bind rest = (bound text).bind fun written => rest (some written) :=
        bind_assoc ..
      rw [split] at blameless
      obtain ⟨clean, later⟩ := bound_first sound blameless
      refine ⟨fun other same => ?_, _, later⟩
      cases same
      exact clean
  | _ => exact ⟨fun _ same => (nomatch same), none, blameless⟩

/-- The first handling of an action, as far as its authorization: each call answers, the report is there
and sonicgrid accepts the claim. -/
theorem first_handling (blameless : (handle outside settings endpoint project item).BlamelessFrom tallies .fine) :
    (item.id.Encodable ∧ item.bugId.Encodable ∧ item.kind.Encodable ∧
      outside.builds endpoint (shown item.id) = true ∧ outside.writes item.fields = true ∧
      Gettable item.requestedBy ∧ ∀ user, member item.requestedBy "userId" = .str user → user.Encodable) ∧
      ((authorizeReserved outside settings project (Scenario.report .triaged) (shown item.id) item).ensuring
        (releaseUnlessRunning (shown item.id))).BlamelessFrom tallies .fine := by
  have sound : Tally.fine ≠ .spoiled := by decide
  obtain ⟨id, handled⟩ := bound_first sound blameless
  obtain ⟨bugId, asked⟩ := bound_first sound (handled.answered none)
  have new := (asked.answered (some (Scenario.report .triaged))).answered true
  rw [if_pos rfl] at new
  by_cases gettable : Gettable item.requestedBy
  swap
  · obtain ⟨error, read⟩ := ungettable_raises gettable "userId"
    rw [read] at new
    cases new
  rw [gettable_get gettable, bind_eq, done_bind] at new
  unfold dumped at new
  by_cases depth : outside.writes item.fields = true
  swap
  · rw [if_neg depth] at new
    cases new
  rw [if_pos depth] at new
  obtain ⟨kind, new⟩ := bound_first sound new
  obtain ⟨user, written, new⟩ := bound_user_first sound new
  have started := new.answered true
  rw [if_pos rfl] at started
  have body := (follows_ensuring ..).mp started
  unfold advanceClaimed at body
  by_cases url : outside.builds endpoint (shown item.id) = true
  swap
  · rw [if_neg url] at body
    have cleaned := (show _ ∧ ∀ _, _ from body).2 (.ok true)
    cases (show Tally.fine = .spoiled from cleaned)
  rw [if_pos url] at body
  have claimed := (show _ ∧ ∀ _, _ from body).2 (.ok ⟨200, none⟩)
  let row : TriageAction := { Scenario.action .analyzeLocal .reserved with actionId := shown item.id }
  have authorized := Follows.answered (Follows.answered claimed (some ⟨row, rfl⟩))
    (some ⟨Scenario.report .triaged, rfl⟩)
  exact ⟨⟨id, bugId, kind, url, depth, gettable, user⟩, (follows_ensuring ..).mpr authorized⟩

/-- A readable action is handled without an exception of its own, and only such an action. -/
theorem handle_blameless_iff :
    (handle outside settings endpoint project item).BlamelessFrom tallies .fine ↔
      item.Readable outside settings endpoint project := by
  refine ⟨fun blameless => ?_, fun readable => blameless_handle readable .fine⟩
  obtain ⟨⟨id, bugId, kind, url, depth, requestedBy, userId⟩, authorized⟩ := first_handling blameless
  refine ⟨id, bugId, kind, url, depth, requestedBy, userId, ?_⟩
  by_contra unreadable
  obtain ⟨error, raises⟩ := @unreadable_raises outside.repr settings project (Scenario.report .triaged) item
    requestedBy unreadable
  unfold authorizeReserved at authorized
  rw [raises] at authorized
  have cleaned := (show _ ∧ ∀ _, _ from authorized).2 (.ok true)
  cases (show Tally.fine = .spoiled from cleaned)

/-- The walk over a listing goes past an action that is finished. -/
theorem listing_tail {first : Item} {rest : List Item}
    (walk : (forEach (first :: rest) (handle outside settings endpoint project)).BlamelessFrom tallies .fine) :
    (handle outside settings endpoint project first).BlamelessFrom tallies .fine ∧
      (forEach rest (handle outside settings endpoint project)).BlamelessFrom tallies .fine := by
  have head := ((follows_bind ..).mp walk).mono (fun _ _ _ => trivial) fun _ _ blamed => blamed
  refine ⟨head, ?_⟩
  have clean := (handle_blameless_iff.mp head).id
  let row : TriageAction := { Scenario.action .analyzeLocal .finished with actionId := shown first.id }
  rw [forEach, handle, bound_clean clean] at walk
  have found := (show _ ∧ ∀ _, _ from walk).2 (.ok (some ⟨row, rfl⟩))
  exact (show _ ∧ ∀ _, _ from found).2 (.ok false)

end Handler

/-- For every listing: the walk over its well-formed actions raises nothing of its own, whatever the calls
answer, exactly when each of them is readable. Where none of them holds a text that is refused, it is the
walk of the process's model over the actions as that model lists them. -/
theorem listing_blameless_iff (outside : Outside) (settings : Settings) (endpoint : Endpoint)
    (project : Project) (listing : List Value) :
    ((forEach (listing.filterMap wellFormed) (handle outside settings endpoint project)).BlamelessFrom
        tallies .fine ↔
      ∀ item ∈ listing.filterMap wellFormed, item.Readable outside settings endpoint project) ∧
    (ReprZero outside.repr → (∀ item ∈ listing.filterMap wellFormed, item.Clean outside endpoint) →
      forEach (listing.filterMap wellFormed) (handle outside settings endpoint project) =
        forEach ((listing.filterMap wellFormed).map (Item.listed outside.repr))
          (Bugalizer.handle settings endpoint project)) := by
  generalize listing.filterMap wellFormed = items
  refine ⟨⟨fun walk => ?_, fun readable => ?_⟩, fun zero clean => ?_⟩
  · induction items with
    | nil => simp
    | cons first rest ih =>
        obtain ⟨head, tail⟩ := listing_tail walk
        intro item member
        rcases List.mem_cons.mp member with rfl | later
        · exact handle_blameless_iff.mp head
        · exact ih tail item later
  · exact blameless_for_each (fun item member => blameless_handle (readable item member)) .fine
  · induction items with
    | nil => rfl
    | cons first rest ih =>
        rw [List.map_cons, forEach, forEach, handle_listed zero (clean first List.mem_cons_self),
          ih fun item member => clean item (List.mem_cons_of_mem _ member)]

/-- httpx refuses a control character; the floats here are zeros and ones. -/
def plainOutside : Outside where
  builds _ id := id.toList.all fun char => decide (32 ≤ char.toNat) && char.toNat != 127
  writes _ := true
  repr
    | .finite negative magnitude =>
        if magnitude = 0 then (if negative then "-0.0" else "0.0") else (if negative then "-1.0" else "1.0")
    | .infinite negative => if negative then "-inf" else "inf"
    | .nan => "nan"

theorem repr_zero : ReprZero plainOutside.repr := by
  intro value
  cases value with
  | nan => simp [plainOutside]
  | infinite negative => cases negative <;> simp [plainOutside]
  | finite negative magnitude =>
      by_cases zero : magnitude = 0
      · cases negative <;> simp [plainOutside, zero]
      · cases negative <;> simp [plainOutside, zero]

/-- A listed `close` action with this requester. -/
def closing (requestedBy : Value) : Value :=
  .dict [(Text.of "id", .str (Text.of "a")), (Text.of "bugId", .str (Text.of "bug")),
    (Text.of "kind", .str (Text.of "close")), (Text.of "state", .str (Text.of "pending")),
    (Text.of "requestedBy", requestedBy)]

def closed (requestedBy : Value) : Item where
  id := Text.of "a"
  bugId := Text.of "bug"
  kind := Text.of "close"
  params := .null
  consents := .null
  requestedBy := requestedBy

/-- The walk over a `close` action of a known user, which is the one of the process's model. -/
theorem listing_blameless_iff_closing :
    forEach ([closing (.dict [(Text.of "userId", .str (Text.of "u"))])].filterMap wellFormed)
        (handle plainOutside Scenario.settings ⟨"https://grid", "secret"⟩ Scenario.project) =
      forEach (([closing (.dict [(Text.of "userId", .str (Text.of "u"))])].filterMap wellFormed).map
          (Item.listed plainOutside.repr))
        (Bugalizer.handle Scenario.settings ⟨"https://grid", "secret"⟩ Scenario.project) := by
  refine (listing_blameless_iff _ _ _ _ _).2 repr_zero fun item member => ?_
  have listed : item = closed (.dict [(Text.of "userId", .str (Text.of "u"))]) :=
    List.mem_singleton.mp member
  subst listed
  exact
    { id := Text.of_encodable "a"
      bugId := Text.of_encodable "bug"
      kind := Text.of_encodable "close"
      params := trivial
      consents := trivial
      requestedBy := ⟨Text.of_encodable "userId", Text.of_encodable "u", trivial⟩
      url := by
        rw [closed, shown_of]
        decide
      depth := rfl }

/-- A `requestedBy` that is a text passes `_well_formed` and stops the walk. -/
theorem requested_by_text_stops_the_walk :
    wellFormed (closing (.str (Text.of "admin"))) = some (closed (.str (Text.of "admin"))) ∧
    ¬(handle plainOutside Scenario.settings ⟨"https://grid", "secret"⟩ Scenario.project
        (closed (.str (Text.of "admin")))).BlamelessFrom tallies .fine := by
  refine ⟨rfl, fun blameless => ?_⟩
  obtain ⟨fields, same⟩ := (handle_blameless_iff.mp blameless).requestedBy
  cases same

end Bugalizer.Items
