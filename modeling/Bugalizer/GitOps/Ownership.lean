import Bugalizer.GitOps.PullRequest

/-!
# What an open-pr call does with its claim

A call checks that no call runs on the report, draws a token, wins the claim, registers
it, works, and gives the claim back or records the pull request. From the check to the
registration it keeps the loop. The ghost of a coroutine says how far its call has come.
-/

namespace Bugalizer

set_option autoImplicit false

open Coroutine Program

/-- `aside` is a coroutine that makes no open-pr call. `settled` is a call that has run
`release_claim` or `record_pull_request`; `lost` is what no run reaches. -/
inductive Ownership where
  | aside
  | idle
  | clear (reportId : String)
  | named (reportId token : String)
  | taken (reportId token : String)
  | owned (reportId token : String)
  | settled (reportId token : String)
  | lost
deriving DecidableEq

namespace Ownership

/-- What was checked before the claim is known only until the loop is given away. -/
def yield : Ownership → Ownership
  | clear _ | named .. => idle
  | ownership => ownership

def after (op : Op) (ownership : Ownership) : Ownership :=
  if op.suspends then ownership.yield else ownership

def cleared (reportId : String) : Ownership → Ownership
  | idle | clear _ | named .. => clear reportId
  | ownership => ownership

def drew (token : String) : Ownership → Ownership
  | clear reportId => named reportId token
  | ownership => ownership

def won : Ownership → Ownership
  | named reportId token => taken reportId token
  | ownership => ownership

def missed : Ownership → Ownership
  | named .. => idle
  | ownership => ownership

def registered : Ownership → Ownership
  | taken reportId token => owned reportId token
  | ownership => ownership

def gaveBack : Ownership → Ownership
  | owned reportId token => settled reportId token
  | ownership => ownership

def foundFinal : Ownership → Ownership
  | owned .. => lost
  | ownership => ownership

def dropped : Ownership → Ownership
  | settled .. => idle
  | ownership => ownership

end Ownership

def ownershipNext (ownership : Ownership) (op : Op) (answer : Except Exn op.Ans) : Ownership :=
  match op, answer with
  | .report (.releaseClaim ..), _ => ownership.gaveBack
  | .joint (.recordPullRequest _), _ => ownership.gaveBack
  | .report (.tryClaim _ _ _ (some _)), .ok won =>
      if won = true then ownership.won else ownership.missed
  | .report (.adoptClaim ..), .ok won => if won = true then ownership.won else ownership.missed
  | .memory (.openPrRunning reportId), .ok running =>
      if running = true then ownership else ownership.cleared reportId
  | .memory (.registerClaim ..), _ => ownership.registered
  | .memory (.finalized _), .ok final => if final = true then ownership.foundFinal else ownership
  | .memory (.dropClaim ..), _ => ownership.dropped
  | .newToken, .ok token => ownership.drew token
  | op, .ok _ => ownership.after op
  | op, .error _ => if op.neverFails then .lost else ownership.after op

/-- A claim is won under a token of one's own, registered at once, and then only moved by
its owner. -/
def ownershipAllowed (ownership : Ownership) : Op → Prop
  | .newToken => (∃ reportId, ownership = .clear reportId) ∨ ownership = .lost
  | .report (.tryClaim reportId _ _ (some token)) =>
      ownership = .named reportId token ∨ ownership = .lost
  | .report (.adoptClaim reportId _ token) => ownership = .named reportId token ∨ ownership = .lost
  | .memory (.registerClaim reportId token) =>
      ownership = .taken reportId token ∨ ownership = .lost
  | .report (.releaseClaim reportId token) =>
      ownership = .owned reportId token ∨ ownership = .settled reportId token ∨ ownership = .lost
  | .joint (.recordPullRequest record) =>
      ownership = .owned record.bugReportId record.claimToken ∨ ownership = .lost
  | .memory (.setFinalized token) =>
      (∃ reportId, ownership = .settled reportId token) ∨ ownership = .lost
  | .memory (.finalized token) =>
      (∃ reportId, ownership = .owned reportId token ∨ ownership = .settled reportId token) ∨
        ownership = .lost
  | .memory (.dropClaim reportId token) => ownership = .settled reportId token ∨ ownership = .lost
  | _ => ∀ reportId token, ownership ≠ .taken reportId token

def ownerships : Discipline Op Op.Ans Exn where
  Ghost := Ownership
  allowed := ownershipAllowed
  next := ownershipNext

def prOp : Op → Prop
  | .query _ | .newToken | .observe _ => True
  | .report (.tryClaim _ expected new token) =>
      expected = .fixProposed ∧ new = .fixApproved ∧ token.isSome
  | .report (.adoptClaim ..) | .report (.releaseClaim ..) => True
  | .stage (.recordPushIntent ..) => True
  | .joint (.recordPullRequest _) => True
  | .memory asked => match asked with
      | .openPrRunning _ | .registerClaim .. | .dropClaim .. | .setFinalized _ | .finalized _ => True
      | .unlock (.git _) => True
      | _ => False
  | .remote asked => match asked with
      | .findPr _ | .prCommits .. | .createPr .. | .cleanup _ | .remoteBranchTip _
      | .buildCommit _ | .push _ => True
      | _ => False
  | .compute (.resolvePaths ..) => True
  | .acquire (.git _) => True
  | _ => False

abbrev prRun : Discipline Op Op.Ans Exn := ownerships.within prOp

namespace Ownership

/-- No claim is being made, and none is held. -/
def Quiet (ownership : Ownership) : Prop := ownership = idle ∨ ownership = lost

def Clear (reportId : String) (ownership : Ownership) : Prop :=
  ownership = clear reportId ∨ ownership = lost

def Named (reportId token : String) (ownership : Ownership) : Prop :=
  ownership = named reportId token ∨ ownership = lost

def Taken (reportId token : String) (ownership : Ownership) : Prop :=
  ownership = taken reportId token ∨ ownership = lost

def Owned (reportId token : String) (ownership : Ownership) : Prop :=
  ownership = owned reportId token ∨ ownership = lost

def Settled (reportId token : String) (ownership : Ownership) : Prop :=
  ownership = settled reportId token ∨ ownership = lost

/-- A registered call, before or after it gave the claim back. -/
def Registered (reportId token : String) (ownership : Ownership) : Prop :=
  ownership.Owned reportId token ∨ ownership.Settled reportId token

/-- A call may end: it is not between its claim and its registration. -/
def Ended (ownership : Ownership) : Prop := ∀ reportId token, ownership ≠ taken reportId token

end Ownership

section Rules

variable {ownership : Ownership} {reportId token : String}

theorem follows_pr_ask (op : Op) (after : op.Ans → Ownership → Prop)
    (raises : Exn → Ownership → Prop) :
    (ask op).Follows prRun ownership after raises ↔
      (prOp op ∧ ownershipAllowed ownership op) ∧
        (∀ value, after value (ownershipNext ownership op (.ok value))) ∧
        ∀ error, raises error (ownershipNext ownership op (.error error)) :=
  follows_perform prRun op ownership after

def plainOp : Op → Prop
  | .query _ | .observe _ => True
  | .stage (.recordPushIntent ..) => True
  | .memory (.unlock (.git _)) => True
  | .remote asked => prOp (.remote asked)
  | .compute (.resolvePaths ..) => True
  | .acquire (.git _) => True
  | _ => False

theorem plain_pr {op : Op} (plain : plainOp op) : prOp op := by
  unfold plainOp at plain
  split at plain <;> trivial

theorem plain_allowed {op : Op} (plain : plainOp op)
    (ended : ownership.Ended) : ownershipAllowed ownership op := by
  unfold plainOp at plain
  split at plain <;> first | exact ended | cases plain

theorem plain_next {op : Op} (plain : plainOp op) (answer : Except Exn op.Ans) :
    ownershipNext ownership op answer = ownership.after op ∨
      ownershipNext ownership op answer = .lost := by
  unfold plainOp at plain
  split at plain
  all_goals first | cases plain; done | skip
  all_goals
    cases answer with
    | ok value => exact .inl rfl
    | error error =>
        simp only [ownershipNext]
        split
        · exact .inr rfl
        · exact .inl rfl

/-- An assertion that survives giving the loop away. -/
structure Lasting (holds : Ownership → Prop) : Prop where
  yield : ∀ ownership, holds ownership → holds ownership.yield
  lost : holds .lost
  ended : ∀ ownership, holds ownership → ownership.Ended

theorem quiet_lasting : Lasting Ownership.Quiet where
  yield ownership quiet := by rcases quiet with rfl | rfl <;> first | exact .inl rfl | exact .inr rfl
  lost := .inr rfl
  ended ownership quiet := by rcases quiet with rfl | rfl <;> (intro _ _ same; cases same)

theorem owned_lasting : Lasting (Ownership.Owned reportId token) where
  yield ownership owned := by rcases owned with rfl | rfl <;> first | exact .inl rfl | exact .inr rfl
  lost := .inr rfl
  ended ownership owned := by rcases owned with rfl | rfl <;> (intro _ _ same; cases same)

theorem settled_lasting : Lasting (Ownership.Settled reportId token) where
  yield ownership settled := by
    rcases settled with rfl | rfl <;> first | exact .inl rfl | exact .inr rfl
  lost := .inr rfl
  ended ownership settled := by rcases settled with rfl | rfl <;> (intro _ _ same; cases same)

theorem registered_lasting : Lasting (Ownership.Registered reportId token) where
  yield ownership := .imp (owned_lasting.yield ownership) (settled_lasting.yield ownership)
  lost := .inl (.inr rfl)
  ended ownership registered :=
    registered.elim (owned_lasting.ended ownership) (settled_lasting.ended ownership)

theorem Lasting.after {holds : Ownership → Prop} (lasting : Lasting holds) (op : Op)
    (held : holds ownership) : holds (ownership.after op) := by
  unfold Ownership.after
  split
  · exact lasting.yield _ held
  · exact held

theorem Lasting.next {holds : Ownership → Prop} (lasting : Lasting holds) {op : Op}
    (plain : plainOp op) (answer : Except Exn op.Ans) (held : holds ownership) :
    holds (ownershipNext ownership op answer) := by
  rcases plain_next plain answer with moved | dead
  · rw [moved]
    exact lasting.after op held
  · rw [dead]
    exact lasting.lost

theorem Lasting.plain {holds : Ownership → Prop} (lasting : Lasting holds) {Result : Type}
    {body : Py Result} (only : body.Only plainOp) (held : holds ownership) :
    body.Follows prRun ownership (fun _ => holds) (fun _ => holds) :=
  only.follows prRun holds
    (fun _ _ held plain => ⟨plain_pr plain, plain_allowed plain (lasting.ended _ held)⟩)
    (fun _ _ answer held plain => lasting.next plain answer held) held

/-- Operations that keep the loop leave the checks before a claim standing. -/
theorem clear_stands {Result : Type} {body : Py Result}
    (only : body.Only fun op => plainOp op ∧ op.suspends = false)
    (clear : ownership.Clear reportId) :
    body.Follows prRun ownership (fun _ => Ownership.Clear reportId)
      (fun _ => Ownership.Clear reportId) := by
  refine only.follows prRun (Ownership.Clear reportId) (fun reached op clear plain => ?_)
    (fun (reached : Ownership) op answer clear plain => ?_) clear
  · refine ⟨plain_pr plain.1, plain_allowed plain.1 ?_⟩
    rcases clear with rfl | rfl <;> (intro _ _ same; cases same)
  · have still : reached.after op = reached := by simp [Ownership.after, plain.2]
    show Ownership.Clear reportId (ownershipNext reached op answer)
    rcases plain_next plain.1 answer with moved | dead
    · rw [moved, still]
      exact clear
    · exact .inr dead

end Rules

section Calls

variable {ownership : Ownership} {settings : Settings} {prCall : PrCall}

theorem plain_query (q : Query) : (query q).Only plainOp := only_perform trivial

theorem plain_remote {asked : Remote} (listed : prOp (.remote asked)) :
    (remote asked).Only plainOp := only_perform listed

theorem plain_github_or {Answer : Type} (answer : Except GithubFailure Answer) :
    (githubOr answer).Only plainOp := by
  unfold githubOr
  split <;> trivial

theorem plain_pr_answer (proposal : FixProposal) (created : Bool) :
    (prAnswer proposal created).Only plainOp := by
  unfold prAnswer
  split <;> trivial

theorem plain_trailer_owner (reportId : String) (ids : List String) (commits : List PrCommit) :
    (trailerOwner reportId ids commits).Only plainOp := by
  induction commits with
  | nil => trivial
  | cons commit commits ih =>
      refine only_bind (only_perform trivial) fun proposalId => ?_
      refine only_bind (only_perform trivial) fun report => ?_
      split
      · trivial
      · exact ih

theorem plain_resolve_owner (proposals : List FixProposal) (pr : PullRequest)
    (commits : List PrCommit) : (resolveOwner prCall proposals pr commits).Only plainOp := by
  unfold resolveOwner
  dsimp only
  split
  · trivial
  · exact plain_trailer_owner _ _ _

theorem record_follows (proposalId : String) (pr : PullRequest) (sha : Option String)
    (owned : ownership.Owned prCall.reportId prCall.claimToken) :
    (recordCall prCall proposalId pr sha).Follows prRun ownership
      (fun _ => Ownership.Registered prCall.reportId prCall.claimToken)
      (fun _ => Ownership.Registered prCall.reportId prCall.claimToken) := by
  have settled : ∀ (error : Exn) reached,
      Ownership.Settled prCall.reportId prCall.claimToken reached →
      Ownership.Registered prCall.reportId prCall.claimToken reached := fun _ _ => .inr
  have failed : ∀ (error : Exn) reached,
      Ownership.Owned prCall.reportId prCall.claimToken reached →
      Ownership.Registered prCall.reportId prCall.claimToken reached := fun _ _ => .inl
  have records : ∀ record : PullRequestRecord, record.bugReportId = prCall.reportId →
      record.claimToken = prCall.claimToken → ∀ reached,
      Ownership.Owned prCall.reportId prCall.claimToken reached →
      (recordPullRequest record).Follows prRun reached
        (fun _ => Ownership.Settled prCall.reportId prCall.claimToken)
        (fun _ => Ownership.Settled prCall.reportId prCall.claimToken) := by
    intro record report token reached owned
    have gaveBack : Ownership.Settled prCall.reportId prCall.claimToken reached.gaveBack := by
      rcases owned with rfl | rfl
      · exact .inl rfl
      · exact .inr rfl
    refine (follows_bind ..).mpr ((follows_pr_ask ..).mpr
      ⟨⟨trivial, ?_⟩, fun answer => ?_, fun _ => gaveBack⟩)
    · rw [← report, ← token] at owned
      exact owned
    · cases answer <;> exact gaveBack
  have finalizes : ∀ reached, Ownership.Settled prCall.reportId prCall.claimToken reached →
      (ask (.memory (.setFinalized prCall.claimToken))).Follows prRun reached
        (fun _ => Ownership.Settled prCall.reportId prCall.claimToken)
        (fun _ => Ownership.Settled prCall.reportId prCall.claimToken) := by
    intro reached still
    refine (follows_pr_ask ..).mpr ⟨⟨trivial, ?_⟩, fun _ => still, fun _ => .inr rfl⟩
    rcases still with rfl | rfl
    · exact .inl ⟨_, rfl⟩
    · exact .inr rfl
  unfold recordCall
  cases pr.htmlUrl with
  | none => exact failed (.plain "KeyError" "html_url") _ owned
  | some prUrl =>
      simp only [pure_eq, bind_eq, done_bind]
      refine Follows.andThen (Follows.caught (records _ rfl rfl _ owned)
        (fun _ _ settled => settled) fun error _ still => ?_) (fun _ reached still => ?_) settled
      · split <;> exact still
      refine Follows.andThen (finalizes _ still) (fun _ _ still => ?_) settled
      refine Follows.andThen (settled_lasting.plain (plain_query _) still) (fun found _ still => ?_)
        settled
      cases found with
      | some proposal => exact .inr still
      | none => exact .inr still

/-- Of a registered call; most of its parts neither give the claim back nor record. -/
abbrev Ownership.Here (prCall : PrCall) : Ownership → Prop :=
  Ownership.Registered prCall.reportId prCall.claimToken

theorem owned_here {Result : Type} {body : Py Result}
    (follows : body.Follows prRun ownership
      (fun _ => Ownership.Owned prCall.reportId prCall.claimToken)
      (fun _ => Ownership.Owned prCall.reportId prCall.claimToken)) :
    body.Follows prRun ownership (fun _ => Ownership.Owned prCall.reportId prCall.claimToken)
      (fun _ => Ownership.Here prCall) :=
  follows.mono (fun _ _ owned => owned) fun _ _ owned => .inl owned

theorem record_existing_follows (proposals : List FixProposal) (pr : PullRequest)
    (owned : ownership.Owned prCall.reportId prCall.claimToken) :
    (recordExistingPr prCall proposals pr).Follows prRun ownership
      (fun _ => Ownership.Here prCall) (fun _ => Ownership.Here prCall) := by
  have still : ∀ (error : Exn) reached, Ownership.Here prCall reached →
      Ownership.Here prCall reached := fun _ _ here => here
  refine Follows.andThen (owned_here (owned_lasting.plain (plain_remote trivial) owned))
    (fun answer _ owned => ?_) still
  refine Follows.andThen (owned_here (owned_lasting.plain (plain_github_or _) owned))
    (fun commits _ owned => ?_) still
  refine Follows.andThen (owned_here (owned_lasting.plain (plain_resolve_owner _ _ _) owned))
    (fun owner _ owned => ?_) still
  split
  · exact .inl owned
  refine Follows.andThen (record_follows _ _ _ owned) (fun proposal _ here => ?_) still
  refine Follows.andThen (registered_lasting.plain (plain_pr_answer _ _) here)
    (fun answered _ here => ?_) still
  split <;> exact here

theorem create_pr_follows (proposals : List FixProposal) (proposal : FixProposal) (sha : String)
    (owned : ownership.Owned prCall.reportId prCall.claimToken) :
    (createPr prCall proposals proposal sha).Follows prRun ownership
      (fun _ => Ownership.Here prCall) (fun _ => Ownership.Here prCall) := by
  have still : ∀ (error : Exn) reached, Ownership.Here prCall reached →
      Ownership.Here prCall reached := fun _ _ here => here
  refine Follows.andThen (owned_here (owned_lasting.plain (plain_query _) owned))
    (fun analysis _ owned => ?_) still
  refine Follows.andThen (owned_here (owned_lasting.plain (plain_remote trivial) owned))
    (fun answer _ owned => ?_) still
  split
  · refine Follows.andThen (record_follows _ _ _ owned) (fun proposal _ here => ?_) still
    exact registered_lasting.plain (plain_pr_answer _ _) here
  · refine Follows.andThen (owned_here (owned_lasting.plain (plain_remote trivial) owned))
      (fun answer _ owned => ?_) still
    refine Follows.andThen (owned_here (owned_lasting.plain (plain_github_or _) owned))
      (fun found _ owned => ?_) still
    split
    · exact .inl owned
    · exact record_existing_follows _ _ owned
  · exact .inl owned

theorem push_and_open_follows (proposals : List FixProposal)
    (owned : ownership.Owned prCall.reportId prCall.claimToken) :
    (pushAndOpen prCall proposals).Follows prRun ownership
      (fun _ => Ownership.Here prCall) (fun _ => Ownership.Here prCall) := by
  have still : ∀ (error : Exn) reached, Ownership.Here prCall reached →
      Ownership.Here prCall reached := fun _ _ here => here
  refine Follows.andThen (owned_here (owned_lasting.plain (plain_remote trivial) owned))
    (fun built _ owned => ?_) still
  split
  · exact .inl owned
  refine Follows.andThen (owned_here (owned_lasting.plain (only_perform trivial) owned))
    (fun _ _ owned => ?_) still
  refine Follows.andThen (owned_here (owned_lasting.plain (plain_remote trivial) owned))
    (fun pushed _ owned => ?_) still
  split
  · exact .inl owned
  · exact create_pr_follows _ _ _ owned

theorem resume_branch_follows (proposals : List FixProposal) (tip : String)
    (owned : ownership.Owned prCall.reportId prCall.claimToken) :
    (resumeBranch prCall proposals tip).Follows prRun ownership
      (fun _ => Ownership.Here prCall) (fun _ => Ownership.Here prCall) := by
  unfold resumeBranch
  dsimp only
  split
  · exact .inl owned
  split
  · exact .inl owned
  · exact create_pr_follows _ _ _ owned

theorem run_claimed_follows (owned : ownership.Owned prCall.reportId prCall.claimToken) :
    (runClaimed prCall).Follows prRun ownership
      (fun _ => Ownership.Here prCall) (fun _ => Ownership.Here prCall) := by
  have still : ∀ (error : Exn) reached, Ownership.Here prCall reached →
      Ownership.Here prCall reached := fun _ _ here => here
  refine Follows.andThen (owned_here (owned_lasting.plain (plain_query _) owned))
    (fun proposals _ owned => ?_) still
  refine Follows.andThen (owned_here (owned_lasting.plain (plain_remote trivial) owned))
    (fun answer _ owned => ?_) still
  refine Follows.andThen (owned_here (owned_lasting.plain (plain_github_or _) owned))
    (fun found _ owned => ?_) still
  split
  · exact record_existing_follows _ _ owned
  refine Follows.andThen (owned_here (owned_lasting.plain (plain_remote trivial) owned))
    (fun tip _ owned => ?_) still
  split
  · exact .inl owned
  · exact resume_branch_follows _ _ owned
  · exact push_and_open_follows _ owned

theorem locked_call_follows (owned : ownership.Owned prCall.reportId prCall.claimToken) :
    (lockedCall prCall).Follows prRun ownership
      (fun _ => Ownership.Here prCall) (fun _ => Ownership.Here prCall) := by
  have still : ∀ (error : Exn) reached, Ownership.Here prCall reached →
      Ownership.Here prCall reached := fun _ _ here => here
  have cleanup : ∀ reached, Ownership.Here prCall reached →
      ((remote (.cleanup prCall)).catching fun _ => Pure.pure ()).Follows prRun reached
        (fun _ => Ownership.Here prCall) (fun _ => Ownership.Here prCall) :=
    fun reached here => registered_lasting.plain
      (only_catching (plain_remote trivial) fun _ => trivial) here
  have body : ∀ reached, Ownership.Owned prCall.reportId prCall.claimToken reached →
      Program.Follows prRun (do
        remote (.cleanup prCall)
        runClaimed prCall : Py PrAnswer) reached
        (fun _ => Ownership.Here prCall) (fun _ => Ownership.Here prCall) := by
    intro reached owned
    exact Follows.andThen (owned_here (owned_lasting.plain (plain_remote trivial) owned))
      (fun _ _ owned => run_claimed_follows owned) still
  refine Follows.andThen (owned_here (owned_lasting.plain (only_perform trivial) owned))
    (fun _ _ owned => ?_) still
  refine Follows.ensured (Follows.ensured (body _ owned)
    (fun _ _ here => cleanup _ here) fun _ _ here => cleanup _ here)
    (fun _ _ here => ?_) fun _ _ here => ?_
  · exact registered_lasting.plain (only_perform trivial) here
  · exact registered_lasting.plain (only_perform trivial) here

theorem release_quietly_follows {reportId token : String}
    (here : ownership.Registered reportId token) :
    (releaseQuietly reportId token).Follows prRun ownership
      (fun _ => Ownership.Settled reportId token) (fun _ _ => False) := by
  have settled : Ownership.Settled reportId token ownership.gaveBack := by
    rcases here with (rfl | rfl) | (rfl | rfl)
    · exact .inl rfl
    · exact .inr rfl
    · exact .inl rfl
    · exact .inr rfl
  have releases : (releaseClaim reportId token).Follows prRun ownership
      (fun _ => Ownership.Settled reportId token) (fun _ => Ownership.Settled reportId token) := by
    refine (follows_pr_ask ..).mpr ⟨⟨trivial, ?_⟩, fun _ => settled, fun _ => settled⟩
    rcases here with (rfl | rfl) | (rfl | rfl)
    · exact .inl rfl
    · exact .inr (.inr rfl)
    · exact .inr (.inl rfl)
    · exact .inr (.inr rfl)
  have attempt : Program.Follows prRun (do
      let _ ← releaseClaim reportId token
      pure () : Py Unit) ownership (fun _ => Ownership.Settled reportId token)
      (fun _ => Ownership.Settled reportId token) :=
    Follows.andThen releases (fun _ _ settled => settled) fun _ _ settled => settled
  exact attempt.caught (fun _ _ settled => settled) fun _ _ settled => settled

theorem settle_claim_follows (here : ownership.Here prCall) :
    (settleClaim prCall).Follows prRun ownership
      (fun _ => Ownership.Quiet) (fun _ => Ownership.Quiet) := by
  have drops : ∀ reached, Ownership.Settled prCall.reportId prCall.claimToken reached →
      (ask (.memory (.dropClaim prCall.reportId prCall.claimToken))).Follows prRun reached
        (fun _ => Ownership.Quiet) (fun _ => Ownership.Quiet) := by
    intro reached settled
    refine (follows_pr_ask ..).mpr ⟨⟨trivial, settled⟩, fun _ => ?_, fun _ => ?_⟩
    all_goals
      rcases settled with rfl | rfl
      · exact .inl rfl
      · exact .inr rfl
  refine (follows_bind ..).mpr ((follows_pr_ask ..).mpr
    ⟨⟨trivial, ?_⟩, fun final => ?_, fun _ => .inr rfl⟩)
  · rcases here with (rfl | rfl) | (rfl | rfl)
    · exact .inl ⟨_, .inl rfl⟩
    · exact .inr rfl
    · exact .inl ⟨_, .inr rfl⟩
    · exact .inr rfl
  cases final with
  | true =>
      simp only [ownershipNext, if_true]
      refine drops _ ?_
      rcases here with (rfl | rfl) | (rfl | rfl)
      · exact .inr rfl
      · exact .inr rfl
      · exact .inl rfl
      · exact .inr rfl
  | false =>
      simp only [ownershipNext, Bool.false_eq_true, if_false]
      exact Follows.andThen (release_quietly_follows here) (fun _ _ settled => drops _ settled)
        fun _ _ impossible => impossible.elim

variable {checks : PrChecks} {token : String} {requestedId : Option String}

/-- A call may end in the middle of its preparation: only not before its claim is registered. -/
theorem owned_call_follows (taken : ownership.Taken checks.reportId token) :
    (ownedCall checks token requestedId).Follows prRun ownership
      (fun _ => Ownership.Ended) (fun _ => Ownership.Ended) := by
  have quiet : ∀ (error : Exn) reached, Ownership.Quiet reached → Ownership.Ended reached :=
    fun _ reached quiet => quiet_lasting.ended reached quiet
  have registers : (ask (.memory (.registerClaim checks.reportId token))).Follows prRun ownership
      (fun _ => Ownership.Owned checks.reportId token) (fun _ => Ownership.Ended) := by
    refine (follows_pr_ask ..).mpr ⟨⟨trivial, taken⟩, fun _ => ?_, fun _ => ?_⟩
    · rcases taken with rfl | rfl
      · exact .inl rfl
      · exact .inr rfl
    · rcases taken with rfl | rfl <;> (intro _ _ same; cases same)
  refine Follows.andThen registers (fun _ _ owned => ?_) fun _ _ ended => ended
  refine Follows.andThen (owned_lasting.plain (only_perform trivial) owned)
    (fun _ _ owned => ?_) fun _ reached owned => owned_lasting.ended reached owned
  refine Follows.ensured (locked_call_follows owned) (fun _ _ here => ?_) fun error _ here => ?_
  · exact (settle_claim_follows here).mono (fun _ reached quiet => quiet_lasting.ended reached quiet)
      quiet
  · exact (settle_claim_follows here).mono (fun _ reached quiet => quiet_lasting.ended reached quiet)
      quiet

theorem take_claim_follows {reportId : String} (report : Report)
    (named : ownership.Named reportId token) :
    (takeClaim reportId report token).Follows prRun ownership
      (fun won reached => if won then reached.Taken reportId token else reached.Quiet)
      (fun _ => Ownership.Ended) := by
  have ended : Ownership.Ended ownership := by
    rcases named with rfl | rfl <;> (intro _ _ same; cases same)
  have answered : ∀ won : Bool,
      if won then (if won then ownership.won else ownership.missed).Taken reportId token
        else (if won then ownership.won else ownership.missed).Quiet := by
    rintro (_ | _) <;> rcases named with rfl | rfl
    · exact .inl rfl
    · exact .inr rfl
    · exact .inl rfl
    · exact .inr rfl
  unfold takeClaim
  split
  · exact (follows_pr_ask ..).mpr ⟨⟨trivial, named⟩, answered, fun _ => ended⟩
  · exact (follows_pr_ask ..).mpr ⟨⟨⟨rfl, rfl, rfl⟩, named⟩, answered, fun _ => ended⟩

theorem claim_refused_follows (reportId : String) (quiet : ownership.Quiet) :
    (claimRefused reportId).Follows prRun ownership (fun _ => Ownership.Ended)
      (fun _ => Ownership.Ended) := by
  have ended : ∀ (error : Exn) reached, Ownership.Quiet reached → Ownership.Ended reached :=
    fun _ reached quiet => quiet_lasting.ended reached quiet
  refine Follows.andThen (quiet_lasting.plain (plain_query _) quiet) (fun current _ quiet => ?_)
    ended
  split
  · exact ended inProgress _ quiet
  · exact ended inProgress _ quiet

theorem claim_and_run_follows (clear : ownership.Clear checks.reportId) :
    (claimAndRun checks requestedId).Follows prRun ownership
      (fun _ => Ownership.Ended) (fun _ => Ownership.Ended) := by
  refine (follows_bind ..).mpr ((follows_pr_ask ..).mpr ⟨⟨trivial, ?_⟩, fun token => ?_,
    fun _ => by intro _ _ same; cases same⟩)
  · rcases clear with rfl | rfl
    · exact .inl ⟨_, rfl⟩
    · exact .inr rfl
  have named : (ownership.drew token).Named checks.reportId token := by
    rcases clear with rfl | rfl
    · exact .inl rfl
    · exact .inr rfl
  refine Follows.andThen (take_claim_follows _ named) (fun won reached after => ?_)
    fun _ _ ended => ended
  cases won with
  | true => exact owned_call_follows after
  | false => exact claim_refused_follows _ after

theorem clear_ended {reportId : String} (clear : ownership.Clear reportId) : ownership.Ended := by
  rcases clear with rfl | rfl <;> (intro _ _ same; cases same)

theorem check_destination_follows (reportId : String) (report : Report) (proposal : FixProposal)
    (clear : ownership.Clear reportId) :
    (checkDestination settings reportId report proposal).Follows prRun ownership
      (fun checks reached => checks.reportId = reportId ∧ reached.Clear reportId)
      (fun _ => Ownership.Clear reportId) := by
  have still : ∀ (error : Exn) reached, Ownership.Clear reportId reached →
      Ownership.Clear reportId reached := fun _ _ clear => clear
  unfold checkDestination
  split
  · exact clear
  refine Follows.andThen (clear_stands (only_bind (only_perform ⟨trivial, rfl⟩) fun _ => trivial)
    clear) (fun project _ clear => ?_) still
  refine Follows.andThen (clear_stands (only_perform ⟨trivial, rfl⟩) clear)
    (fun slug _ clear => ?_) still
  split
  swap
  · exact clear
  have rest : ∀ (cloned : Bool) (checks : PrChecks) (branch : String) (one other : Bool) reached,
      checks.reportId = reportId → Ownership.Clear reportId reached →
      Program.Follows prRun
        (if !cloned then
            raise (openPrError 400 "not_cloned" "Project repo not cloned. Run POST /clone first.")
          else if !safeBranch branch then
            raise (openPrError 400 "bad_default_branch"
              "The project's default branch name is invalid")
          else if !one || !other then
            raise (openPrError 400 "bad_id" "Report or project id is not path-safe")
          else Pure.pure checks : Py PrChecks) reached
        (fun checks reached => checks.reportId = reportId ∧ reached.Clear reportId)
        (fun _ => Ownership.Clear reportId) := by
    intro cloned checks branch one other reached same clear
    split
    · exact clear
    split
    · exact clear
    split
    · exact clear
    · exact ⟨same, clear⟩
  dsimp only
  split
  · simp only [pure_eq, bind_eq, done_bind]
    refine rest _ _ _ _ _ _ ?_ clear
    rfl
  · refine Follows.andThen (clear_stands (only_perform ⟨trivial, rfl⟩) clear)
      (fun cloned _ clear => ?_) still
    refine rest _ _ _ _ _ _ ?_ clear
    rfl

theorem check_report_follows (reportId : String) (report : Report) (proposal : FixProposal)
    (quiet : ownership.Quiet) :
    (checkReport settings reportId report proposal requestedId).Follows prRun ownership
      (fun _ => Ownership.Ended) (fun _ => Ownership.Ended) := by
  have ended : ownership.Ended := quiet_lasting.ended _ quiet
  refine (follows_bind ..).mpr ((follows_pr_ask ..).mpr ⟨⟨trivial, ended⟩, fun running => ?_,
    fun _ => by intro _ _ same; cases same⟩)
  cases running with
  | true => exact ended
  | false =>
      have clear : (ownership.cleared reportId).Clear reportId := by
        rcases quiet with rfl | rfl
        · exact .inl rfl
        · exact .inr rfl
      simp only [ownershipNext, Bool.false_eq_true, if_false]
      split
      · refine Follows.andThen (check_destination_follows _ _ _ clear)
          (fun checks _ checked => ?_) fun _ _ clear => clear_ended clear
        exact claim_and_run_follows (checked.1 ▸ checked.2)
      · exact clear_ended clear

theorem plain_requested (reportId : String) :
    (requestedProposal reportId requestedId).Only plainOp := by
  unfold requestedProposal
  split
  · trivial
  · refine only_bind (plain_query _) fun found => ?_
    cases found <;> trivial

theorem open_pull_request_follows (reportId : String) (quiet : ownership.Quiet) :
    (openPullRequest settings reportId requestedId).Follows prRun ownership
      (fun _ => Ownership.Ended) (fun _ => Ownership.Ended) := by
  have ended : ∀ (error : Exn) reached, Ownership.Quiet reached → Ownership.Ended reached :=
    fun _ reached quiet => quiet_lasting.ended reached quiet
  refine Follows.andThen (quiet_lasting.plain (plain_query _) quiet) (fun report _ quiet => ?_)
    ended
  split
  · exact ended inProgress _ quiet
  refine Follows.andThen (quiet_lasting.plain (plain_requested _) quiet)
    (fun requested _ quiet => ?_) ended
  refine Follows.andThen (quiet_lasting.plain (plain_query _) quiet) (fun recorded _ quiet => ?_)
    ended
  split
  · refine (quiet_lasting.plain ?_ quiet).mono (fun _ _ quiet => ended inProgress _ quiet) ended
    unfold recordedAnswer
    split
    · trivial
    · exact plain_pr_answer _ _
  refine Follows.andThen (quiet_lasting.plain (plain_query _) quiet) (fun proposals _ quiet => ?_)
    ended
  split
  · exact ended inProgress _ quiet
  · exact check_report_follows _ _ _ quiet

end Calls

end Bugalizer
