import Bugalizer.Sync.Results

/-!
# Which rows a payload can be built and hashed of

The limits of the contract hold of every payload that is built. None is built of an integer
that no double comes near, and none is hashed with a lone surrogate in one of its texts: both
stand only in what a model answered.
-/

namespace Bugalizer.Results

set_option autoImplicit false

open Wire

theorem bind_ok {α β : Type} {first : Except Raised α} {next : α → Except Raised β} {result : β} :
    first >>= next = .ok result ↔ ∃ value, first = .ok value ∧ next value = .ok result := by
  cases first with
  | error exn =>
      constructor
      · intro ran
        cases ran
      · rintro ⟨value, ran, -⟩
        cases ran
  | ok value =>
      constructor
      · intro ran
        exact ⟨value, rfl, ran⟩
      · rintro ⟨other, same, ran⟩
        cases same
        exact ran

theorem map_m_ok {α β : Type} {f : α → Except Raised β} {items : List α} {made : List β} :
    items.mapM f = .ok made ↔ List.Forall₂ (fun item result => f item = .ok result) items made := by
  induction items generalizing made with
  | nil =>
      rw [List.mapM_nil, List.forall₂_nil_left_iff]
      exact ⟨fun same => (Except.ok.inj same).symm, fun same => congrArg Except.ok same.symm⟩
  | cons item items ih =>
      rw [List.mapM_cons, List.forall₂_cons_left_iff]
      constructor
      · intro ran
        cases first : f item with
        | error exn =>
            rw [first] at ran
            cases ran
        | ok result =>
            cases rest : items.mapM f with
            | error exn =>
                rw [first, rest] at ran
                cases ran
            | ok others =>
                rw [first, rest] at ran
                cases ran
                exact ⟨result, others, rfl, ih.mp rest, rfl⟩
      · rintro ⟨result, others, first, rest, rfl⟩
        rw [first, ih.mpr rest]
        rfl

theorem related_exist {α β : Type} {related : α → β → Prop} {items : List α} :
    (∃ made, List.Forall₂ related items made) ↔ ∀ item ∈ items, ∃ result, related item result := by
  induction items with
  | nil => simp
  | cons item items ih =>
      rw [List.forall_mem_cons, ← ih]
      constructor
      · rintro ⟨made, pairs⟩
        obtain ⟨result, others, first, rest, rfl⟩ := List.forall₂_cons_left_iff.mp pairs
        exact ⟨⟨result, first⟩, others, rest⟩
      · rintro ⟨⟨result, first⟩, others, rest⟩
        exact ⟨result :: others, .cons first rest⟩

/-- The part of a value that a text field sends holds no lone surrogate. -/
def Whole (value : Value) (limit : Nat) : Prop :=
  ∀ text, value = .str text → Text.Encodable (text.take limit)

/-- A value that is an integer can be made a float. -/
def Fits (value : Value) : Prop := ∀ number, value = .int number → number.natAbs < doubleOverflow

theorem text_encodable (value : Value) (limit : Nat) :
    (text value limit).Encodable ↔ Whole value limit := by
  cases value with
  | str found =>
      simp only [text, Whole, Value.str.injEq, forall_eq']
      split
      · rename_i empty
        subst empty
        exact iff_of_true trivial (by rw [List.take_nil]; exact Text.encodable_nil)
      · exact Iff.rfl
  | _ => exact iff_of_true trivial fun text same => by cases same

theorem text_accepted (value : Value) (limit : Nat) (room : 0 < limit) :
    (Schema.nullable (.text 1 limit)).accepts (text value limit) = true := by
  cases value with
  | str found =>
      simp only [text]
      split
      · rfl
      · rename_i nonempty
        have long := List.length_pos_iff.mpr nonempty
        simp only [Schema.accepts, Bool.or_eq_true, Bool.and_eq_true, decide_eq_true_eq,
          List.length_take]
        right
        omega
  | _ => rfl

theorem unit_ok_iff (value : Value) : (∃ result, unit value = .ok result) ↔ Fits value := by
  cases value with
  | int number =>
      simp only [unit, isnanInt, Fits, Value.int.injEq, forall_eq']
      constructor
      · rintro ⟨result, ran⟩
        by_contra large
        rw [if_pos (by omega)] at ran
        cases ran
      · intro small
        rw [if_neg (by omega)]
        exact ⟨_, rfl⟩
  | _ => exact iff_of_true ⟨_, rfl⟩ fun number same => by cases same

theorem unit_sent {value result : Value} (ran : unit value = .ok result) :
    (Schema.nullable .unit).accepts result = true ∧ result.Encodable := by
  cases value with
  | int number =>
      simp only [unit, isnanInt] at ran
      split at ran
      · cases ran
      · cases ran
        split
        · exact ⟨rfl, trivial⟩
        · rename_i inside
          refine ⟨?_, trivial⟩
          simp only [not_or, Bool.false_eq_true, not_false_eq_true, true_and, not_lt] at inside
          simpa [Schema.accepts, Value.isNull, Double.outsideUnit] using inside.2
  | real found =>
      simp only [unit] at ran
      cases ran
      split
      · exact ⟨rfl, trivial⟩
      · rename_i inside
        refine ⟨?_, trivial⟩
        simp only [not_or] at inside
        cases found with
        | nan => exact absurd rfl inside.1
        | infinite negative => exact absurd rfl inside.2
        | finite negative magnitude => simpa [Schema.accepts, Value.isNull] using inside.2
  | _ =>
      cases ran
      exact ⟨rfl, trivial⟩

theorem column_whole (content : Option String) (limit : Nat) :
    Whole (Value.column content) limit := by
  cases content with
  | none => exact fun text same => by cases same
  | some stored =>
      intro text same
      cases same
      exact (Text.of_encodable stored).take limit

theorem column_diff (content : Option String) : ∃ result, diff (Value.column content) = .ok result := by
  cases content with
  | none => exact ⟨_, rfl⟩
  | some stored =>
      simp only [Value.column, diff]
      split
      · exact ⟨_, rfl⟩
      · obtain ⟨encoded, ran⟩ := (Text.encode_ok_iff _).mpr (Text.of_encodable stored)
        rw [ran]
        exact ⟨_, rfl⟩

theorem diff_sent {value result : Value} (ran : diff value = .ok result) :
    (Schema.nullable (.bytes 262144)).accepts result = true ∧ result.Encodable := by
  cases value with
  | str found =>
      simp only [diff] at ran
      split at ran
      · cases ran
        exact ⟨rfl, trivial⟩
      · cases encodes : found.encode with
        | error exn =>
            rw [encodes] at ran
            cases ran
        | ok encoded =>
            rw [encodes] at ran
            cases ran
            split
            · rename_i short
              refine ⟨?_, (Text.encode_ok_iff found).mp ⟨encoded, encodes⟩⟩
              have bound : encoded.length ≤ 262144 := short
              simp [Schema.accepts, encodes, bound]
            · exact ⟨rfl, trivial⟩
  | _ =>
      cases ran
      exact ⟨rfl, trivial⟩

theorem pr_url_accepted (value : Value) :
    (Schema.nullable (.startsWith "https://" 500)).accepts (prUrl value) = true := by
  cases value with
  | str url =>
      simp only [prUrl]
      split
      · rename_i named
        have short : url.length ≤ 500 := named.2
        simp [Schema.accepts, named.1, short]
      · rfl
  | _ => rfl

theorem pr_url_encodable (content : Option String) :
    (prUrl (Value.column content)).Encodable := by
  cases content with
  | none => trivial
  | some stored =>
      simp only [Value.column, prUrl]
      split
      · exact Text.of_encodable stored
      · trivial

theorem one_of_accepts {texts : List String} {text : String} (listed : text ∈ texts) :
    (Schema.oneOf texts).accepts (.str (Text.of text)) = true := by
  rw [Schema.accepts, List.any_eq_true]
  exact ⟨text, listed, beq_self_eq_true _⟩

theorem among_accepted {schema : Schema} {allowed : List String} {other : Value}
    (value : Option String) (listed : ∀ text ∈ allowed, schema.accepts (.str (Text.of text)) = true)
    (fallback : schema.accepts other = true) :
    schema.accepts (among allowed other value) = true := by
  unfold among
  split
  · split
    · rename_i member
      exact listed _ member
    · exact fallback
  · exact fallback

theorem among_or_null (allowed : List String) (value : Option String) :
    (Schema.nullable (.oneOf allowed)).accepts (among allowed .null value) = true := by
  apply among_accepted value
  · intro text listed
    rw [Schema.accepts_nullable, one_of_accepts listed, Bool.or_true]
  · rfl

theorem among_encodable {allowed : List String} {other : Value} (value : Option String)
    (fallback : other.Encodable) : (among allowed other value).Encodable := by
  unfold among
  split
  · split
    · exact Text.of_encodable _
    · exact fallback
  · exact fallback

theorem with_provider_longer (provider model : String) :
    model.toList.length ≤ (withProvider provider model).toList.length := by
  unfold withProvider
  split
  · exact le_rfl
  · simp only [String.toList_append, List.length_append]
    omega

theorem model_label_sent (analysis : Option AnalysisRow) :
    (Schema.nullable (.text 1 120)).accepts (modelLabel analysis) = true ∧
      (modelLabel analysis).Encodable := by
  unfold modelLabel
  split
  · exact ⟨rfl, trivial⟩
  dsimp only
  split
  · exact ⟨rfl, trivial⟩
  rename_i model found named
  have longer := with_provider_longer ((analysis.bind AnalysisRow.llmProvider).getD "") model
  generalize withProvider _ model = label at longer
  have nonempty : 0 < model.toList.length := by
    apply List.length_pos_iff.mpr
    simpa using named
  refine ⟨?_, (Text.of_encodable label).take modelMax⟩
  simp only [Schema.accepts, Text.of, List.length_take, List.length_map, modelMax,
    Bool.or_eq_true, Bool.and_eq_true, decide_eq_true_eq]
  right
  omega

theorem pull_request_sent (recorded : Option ProposalRow) :
    (Schema.nullable pullRequestSchema).accepts (pullRequest recorded) = true ∧
      (pullRequest recorded).Encodable := by
  unfold pullRequest
  split
  swap
  · exact ⟨rfl, trivial⟩
  rename_i number found
  split
  swap
  · exact ⟨rfl, trivial⟩
  rename_i positive
  have whole := (text_encodable (Value.column (recorded.bind ProposalRow.branchName)) branchMax).mpr
    (column_whole _ _)
  have accepted := text_accepted (Value.column (recorded.bind ProposalRow.branchName)) branchMax
    (by decide)
  generalize text (Value.column (recorded.bind ProposalRow.branchName)) branchMax = branch at *
  cases branch with
  | null => exact ⟨rfl, trivial⟩
  | str found =>
      refine ⟨?_, Text.of_encodable _, trivial, Text.of_encodable _, whole, trivial⟩
      simp only [Schema.accepts, Bool.or_eq_true] at accepted ⊢
      right
      rcases accepted with null | accepted
      · cases null
      · have branch : (Schema.text 1 255).accepts (.str found) = true := accepted
        have number : Schema.positive.accepts (.int number) = true := decide_eq_true positive
        rw [pullRequestSchema, Schema.accepts_object, Schema.accepts_fields_cons,
          Schema.accepts_fields_cons, number, branch]
        exact Schema.accepts_fields_nil
  | _ => cases accepted

/-- The entries the loop comes to: the first ones with a path. -/
def reachedEntries (raw : List Value) : List (Value × Value) :=
  (raw.filterMap candidateEntry).take candidatesMax

def candidateEntries (localization : Option AnalysisRow) : List (Value × Value) :=
  match (resultGet localization "pass1").get "candidate_files" with
  | .list raw => reachedEntries raw
  | _ => []

theorem candidate_loop_eq (items out : List Value) (room : out.length < candidatesMax) :
    candidateLoop out items =
      (((items.filterMap candidateEntry).take (candidatesMax - out.length)).mapM candidateFile).map
        (out ++ ·) := by
  induction items generalizing out with
  | nil =>
      rw [candidateLoop, List.filterMap_nil, List.take_nil, List.mapM_nil]
      exact congrArg Except.ok (List.append_nil out).symm
  | cons item items ih =>
      rw [candidateLoop, List.filterMap_cons]
      cases candidateEntry item with
      | none => exact ih out room
      | some named =>
          obtain ⟨left, counted⟩ : ∃ left, candidatesMax - out.length = left + 1 :=
            ⟨candidatesMax - out.length - 1, by omega⟩
          dsimp only
          rw [counted, List.take_succ_cons, List.mapM_cons]
          cases candidateFile named with
          | error exn => rfl
          | ok file =>
              have grown : (out ++ [file]).length = out.length + 1 := by simp
              by_cases full : (out ++ [file]).length = candidatesMax
              · have last : left = 0 := by omega
                subst last
                rw [List.take_zero, List.mapM_nil]
                show (if (out ++ [file]).length = candidatesMax then _ else _) = _
                rw [if_pos full]
                rfl
              · show (if (out ++ [file]).length = candidatesMax then _ else _) = _
                rw [if_neg full, ih _ (by omega)]
                have same : candidatesMax - (out ++ [file]).length = left := by omega
                rw [same]
                cases ((items.filterMap candidateEntry).take left).mapM candidateFile with
                | error exn => rfl
                | ok files => exact congrArg Except.ok (List.append_assoc out [file] files)

theorem candidate_loop_start (raw : List Value) :
    candidateLoop [] raw = (reachedEntries raw).mapM candidateFile := by
  rw [candidate_loop_eq raw [] (by decide), reachedEntries]
  simp only [List.length_nil, Nat.sub_zero, List.nil_append]
  cases (List.mapM candidateFile (List.take candidatesMax (List.filterMap candidateEntry raw))) <;> rfl

theorem candidate_file_ok_iff (named : Value × Value) :
    (∃ file, candidateFile named = .ok file) ↔ Fits (named.2.get "relevance") := by
  rw [← unit_ok_iff]
  constructor
  · rintro ⟨file, ran⟩
    cases relevance : unit (named.2.get "relevance") with
    | error exn =>
        rw [candidateFile, relevance] at ran
        cases ran
    | ok result => exact ⟨result, rfl⟩
  · rintro ⟨result, ran⟩
    rw [candidateFile, ran]
    exact ⟨_, rfl⟩

theorem entry_named {item : Value} {named : Value × Value} (found : candidateEntry item = some named) :
    (Schema.text 1 500).accepts named.1 = true := by
  have within : ∀ value path, text value pathMax = path → path ≠ .null →
      (Schema.text 1 500).accepts path = true := by
    intro value path same nonnull
    have accepted := text_accepted value pathMax (by decide)
    rw [same] at accepted
    rw [Schema.accepts_nullable, Bool.or_eq_true] at accepted
    rcases accepted with null | accepted
    · cases path with
      | null => exact absurd rfl nonnull
      | _ => cases null
    · exact accepted
  simp only [candidateEntry] at found
  split at found
  · split at found
    · cases found
    · rename_i path nonnull
      cases found
      exact within _ _ rfl nonnull
  · cases found

theorem candidate_file_sent {named : Value × Value} {file : Value}
    (path : (Schema.text 1 500).accepts named.1 = true) (ran : candidateFile named = .ok file) :
    candidateSchema.accepts file = true ∧
      (file.Encodable ↔ named.1.Encodable ∧ Whole (named.2.get "reason") reasonMax) := by
  cases relevance : unit (named.2.get "relevance") with
  | error exn =>
      rw [candidateFile, relevance] at ran
      cases ran
  | ok result =>
      rw [candidateFile, relevance] at ran
      cases ran
      obtain ⟨accepted, clean⟩ := unit_sent relevance
      constructor
      · have reason := text_accepted (named.2.get "reason") reasonMax (by decide)
        rw [candidateSchema, Schema.accepts_object, Schema.accepts_fields_cons,
          Schema.accepts_fields_cons, Schema.accepts_fields_cons, path, accepted]
        rw [reasonMax] at reason
        rw [reasonMax, reason]
        exact Schema.accepts_fields_nil
      · simp only [Value.Encodable, FieldsEncodable, Text.of_encodable, clean, text_encodable,
          true_and, and_true]

theorem candidates_ok_iff (localization : Option AnalysisRow) :
    (∃ files, candidates localization = .ok files) ↔
      ∀ named ∈ candidateEntries localization, Fits (named.2.get "relevance") := by
  unfold candidates candidateEntries
  generalize (resultGet localization "pass1").get "candidate_files" = stored
  cases stored with
  | list raw =>
      dsimp only
      rw [candidate_loop_start]
      simp only [← candidate_file_ok_iff]
      rw [← related_exist]
      simp only [← map_m_ok]
      constructor
      · rintro ⟨files, ran⟩
        cases sent : (reachedEntries raw).mapM candidateFile with
        | error exn =>
            rw [sent] at ran
            cases ran
        | ok files => exact ⟨files, rfl⟩
      · rintro ⟨files, ran⟩
        rw [ran]
        exact ⟨_, rfl⟩
  | _ => exact iff_of_true ⟨_, rfl⟩ fun named member => by cases member

theorem items_encodable (items : List Value) :
    ItemsEncodable items ↔ ∀ item ∈ items, item.Encodable := by
  induction items with
  | nil => exact iff_of_true trivial fun item member => by cases member
  | cons item items ih => rw [ItemsEncodable, ih, List.forall_mem_cons]

theorem files_sent {entries : List (Value × Value)} {files : List Value}
    (named : ∀ entry ∈ entries, (Schema.text 1 500).accepts entry.1 = true)
    (made : List.Forall₂ (fun entry file => candidateFile entry = .ok file) entries files) :
    (∀ file ∈ files, candidateSchema.accepts file = true) ∧
      ((∀ file ∈ files, file.Encodable) ↔
        ∀ entry ∈ entries, entry.1.Encodable ∧ Whole (entry.2.get "reason") reasonMax) := by
  induction made with
  | nil => simp
  | cons first rest ih =>
      rename_i entry file entries files
      rw [List.forall_mem_cons] at named
      obtain ⟨accepted, clean⟩ := candidate_file_sent named.1 first
      obtain ⟨allAccepted, allClean⟩ := ih named.2
      constructor
      · rw [List.forall_mem_cons]
        exact ⟨accepted, allAccepted⟩
      · rw [List.forall_mem_cons, List.forall_mem_cons, clean, allClean]

theorem candidates_sent {localization : Option AnalysisRow} {files : Value}
    (ran : candidates localization = .ok files) :
    (Schema.nullable (.list 50 candidateSchema)).accepts files = true ∧
      (files.Encodable ↔ ∀ entry ∈ candidateEntries localization,
        entry.1.Encodable ∧ Whole (entry.2.get "reason") reasonMax) := by
  unfold candidates at ran
  unfold candidateEntries
  generalize (resultGet localization "pass1").get "candidate_files" = stored at ran ⊢
  cases stored with
  | list raw =>
      dsimp only at ran ⊢
      rw [candidate_loop_start] at ran
      cases sent : (reachedEntries raw).mapM candidateFile with
      | error exn =>
          rw [sent] at ran
          cases ran
      | ok made =>
          rw [sent] at ran
          cases ran
          have pairs := map_m_ok.mp sent
          have named : ∀ entry ∈ reachedEntries raw,
              (Schema.text 1 500).accepts entry.1 = true := by
            intro entry member
            obtain ⟨item, -, found⟩ := List.mem_filterMap.mp (List.mem_of_mem_take member)
            exact entry_named found
          obtain ⟨accepted, clean⟩ := files_sent named pairs
          have short : made.length ≤ 50 := by
            rw [← pairs.length_eq, reachedEntries]
            exact List.length_take_le _ _
          constructor
          · rw [Schema.accepts_nullable, Schema.accepts, decide_eq_true short,
              List.all_eq_true.mpr accepted]
            rfl
          · rw [Value.Encodable, items_encodable]
            exact clean
  | _ =>
      cases ran
      exact ⟨rfl, iff_of_true trivial fun entry member => by cases member⟩

/-- What the rows may hold for their payload to be hashed: no integer that overflows where a
confidence or a relevance is read, and no lone surrogate in what is sent of the model's texts. -/
structure Sendable (rows : Rows) : Prop where
  summary : Whole (resultGet (latestCompleted rows.analyses "triage") "summary") summaryMax
  category : Whole (resultGet (latestCompleted rows.analyses "triage") "category") categoryMax
  confidence : Fits (resultGet (latestCompleted rows.analyses "triage") "confidence")
  hypothesis : Whole ((resultGet (latestCompleted rows.analyses "localization") "pass2").get
    "root_cause_hypothesis") longTextMax
  relevance : ∀ entry ∈ candidateEntries (latestCompleted rows.analyses "localization"),
    Fits (entry.2.get "relevance")
  candidates : ∀ entry ∈ candidateEntries (latestCompleted rows.analyses "localization"),
    entry.1.Encodable ∧ Whole (entry.2.get "reason") reasonMax

theorem public_accepted (rows : Rows) : publicSchema.accepts (publicPart rows) = true := by
  have status : (Schema.oneOf statuses).accepts
      (among statuses (.str (Text.of "submitted")) (some rows.report.status)) = true :=
    among_accepted _ (fun text listed => one_of_accepts listed) (one_of_accepts (by decide))
  have summary := text_accepted (resultGet (latestCompleted rows.analyses "triage") "summary")
    summaryMax (by decide)
  have lane := one_of_accepts (stage_of_lane rows).1
  have detail := one_of_accepts (stage_of_lane rows).2
  simp only [summaryMax] at summary
  simp only [publicSchema, publicPart, Schema.accepts_object, Schema.accepts_fields_cons,
    Schema.accepts_fields_nil, summaryMax, status, summary, lane, detail, among_or_null,
    pr_url_accepted, Bool.and_true]

theorem public_encodable (rows : Rows) :
    (publicPart rows).Encodable ↔
      Whole (resultGet (latestCompleted rows.analyses "triage") "summary") summaryMax := by
  have status : (among statuses (.str (Text.of "submitted")) (some rows.report.status)).Encodable :=
    among_encodable _ (Text.of_encodable _)
  have severity : (among severities .null rows.report.severity).Encodable :=
    among_encodable _ trivial
  have state : ∀ value, (among prStates .null value).Encodable :=
    fun value => among_encodable _ trivial
  simp only [publicPart, Value.Encodable, FieldsEncodable, Text.of_encodable, status, severity,
    state, pr_url_encodable, text_encodable, true_and, and_true]

theorem admin_accepted {rows : Rows} {triageConfidence candidateFiles diff fixConfidence : Value}
    (triaged : (Schema.nullable .unit).accepts triageConfidence = true)
    (files : (Schema.nullable (.list 50 candidateSchema)).accepts candidateFiles = true)
    (patch : (Schema.nullable (.bytes 262144)).accepts diff = true)
    (fixed : (Schema.nullable .unit).accepts fixConfidence = true) :
    adminSchema.accepts (adminFields rows triageConfidence candidateFiles diff fixConfidence) =
      true := by
  have long : ∀ value, (Schema.nullable (.text 1 20000)).accepts (text value 20000) = true :=
    fun value => text_accepted value 20000 (by decide)
  have category : ∀ value, (Schema.nullable (.text 1 50)).accepts (text value 50) = true :=
    fun value => text_accepted value 50 (by decide)
  have localized : ∀ value, Schema.bool.accepts (.bool value) = true := fun value => rfl
  have label := fun analysis => (model_label_sent analysis).1
  have recorded := fun recorded => (pull_request_sent recorded).1
  simp only [adminSchema, adminFields, Schema.accepts_object, Schema.accepts_fields_cons,
    Schema.accepts_fields_nil, hypothesis, longTextMax, categoryMax, long, category, localized, label,
    recorded, triaged, files, patch, fixed, among_or_null, Bool.and_true]

theorem admin_encodable {rows : Rows} {triageConfidence candidateFiles diff fixConfidence : Value}
    (triaged : triageConfidence.Encodable) (patch : diff.Encodable)
    (fixed : fixConfidence.Encodable) :
    (adminFields rows triageConfidence candidateFiles diff fixConfidence).Encodable ↔
      Whole (resultGet (latestCompleted rows.analyses "triage") "category") categoryMax ∧
        Whole ((resultGet (latestCompleted rows.analyses "localization") "pass2").get
          "root_cause_hypothesis") longTextMax ∧ candidateFiles.Encodable := by
  have mode : (among modes .null (some rows.report.analysisMode)).Encodable :=
    among_encodable _ trivial
  have label := fun analysis => (model_label_sent analysis).2
  have recorded := fun recorded => (pull_request_sent recorded).2
  simp only [adminFields, Value.Encodable, FieldsEncodable, Text.of_encodable, mode, label, recorded,
    triaged, patch, fixed, hypothesis, text_encodable, column_whole, true_and, and_true]

theorem build_payload_ok_iff (rows : Rows) :
    (∃ payload, buildPayload rows = .ok payload) ↔
      Fits (resultGet (latestCompleted rows.analyses "triage") "confidence") ∧
        ∀ entry ∈ candidateEntries (latestCompleted rows.analyses "localization"),
          Fits (entry.2.get "relevance") := by
  rw [← unit_ok_iff, ← candidates_ok_iff]
  constructor
  · rintro ⟨payload, ran⟩
    obtain ⟨admin, built, -⟩ := bind_ok.mp ran
    obtain ⟨confidence, triaged, built⟩ := bind_ok.mp built
    obtain ⟨files, listed, -⟩ := bind_ok.mp built
    exact ⟨⟨confidence, triaged⟩, files, listed⟩
  · rintro ⟨⟨confidence, triaged⟩, files, listed⟩
    obtain ⟨patch, sent⟩ := column_diff (rows.proposals.head?.bind ProposalRow.diff)
    have real : ∀ value : Option Double, Fits (value.elim .null .real) := by
      intro value number same
      cases value <;> cases same
    obtain ⟨fixed, given⟩ := (unit_ok_iff _).mpr
      (real (rows.proposals.head?.bind ProposalRow.confidence))
    have admin : adminPart rows = .ok (adminFields rows confidence files patch fixed) :=
      bind_ok.mpr ⟨confidence, triaged, bind_ok.mpr ⟨files, listed,
        bind_ok.mpr ⟨patch, sent, bind_ok.mpr ⟨fixed, given, rfl⟩⟩⟩⟩
    exact ⟨_, bind_ok.mpr ⟨_, admin, rfl⟩⟩

theorem fingerprint_ok_iff (repr : Double → String) (sha256 : List UInt8 → String)
    (payload : Value) :
    (∃ hash, fingerprint repr sha256 payload = .ok hash) ↔ (withoutRevision payload).Encodable := by
  rw [← dumps_encodable repr, ← Text.encode_ok_iff]
  constructor
  · rintro ⟨hash, ran⟩
    obtain ⟨encoded, encodes, -⟩ := bind_ok.mp ran
    exact ⟨encoded, encodes⟩
  · rintro ⟨encoded, encodes⟩
    exact ⟨sha256 encoded, bind_ok.mpr ⟨encoded, encodes, rfl⟩⟩

/-- A payload that is built keeps the contract, and is hashed exactly when what it sends of the
model's texts holds no lone surrogate. -/
theorem payload_sent {rows : Rows} {payload : Value} (ran : buildPayload rows = .ok payload)
    (repr : Double → String) (sha256 : List UInt8 → String) :
    contract.accepts payload = true ∧
      ((∃ hash, fingerprint repr sha256 payload = .ok hash) ↔
        Whole (resultGet (latestCompleted rows.analyses "triage") "summary") summaryMax ∧
        Whole (resultGet (latestCompleted rows.analyses "triage") "category") categoryMax ∧
        Whole ((resultGet (latestCompleted rows.analyses "localization") "pass2").get
          "root_cause_hypothesis") longTextMax ∧
        ∀ entry ∈ candidateEntries (latestCompleted rows.analyses "localization"),
          entry.1.Encodable ∧ Whole (entry.2.get "reason") reasonMax) := by
  obtain ⟨admin, built, made⟩ := bind_ok.mp ran
  cases made
  obtain ⟨confidence, triaged, built⟩ := bind_ok.mp built
  obtain ⟨files, listed, built⟩ := bind_ok.mp built
  obtain ⟨patch, sent, built⟩ := bind_ok.mp built
  obtain ⟨fixed, given, made⟩ := bind_ok.mp built
  cases made
  obtain ⟨filesAccepted, filesClean⟩ := candidates_sent listed
  constructor
  · rw [contract, Schema.accepts_object, Schema.accepts_fields_cons, Schema.accepts_fields_cons,
      Schema.accepts_fields_cons, public_accepted,
      admin_accepted (unit_sent triaged).1 filesAccepted (diff_sent sent).1 (unit_sent given).1]
    rfl
  · have encodes : (∃ hash, fingerprint repr sha256 (.dict
          [(Text.of "bugalizerUpdatedAt", .str (Text.of (updatedAt rows))),
            (Text.of "public", publicPart rows),
            (Text.of "admin", adminFields rows confidence files patch fixed)]) = .ok hash) ↔
        (publicPart rows).Encodable ∧ (adminFields rows confidence files patch fixed).Encodable := by
      rw [fingerprint_ok_iff, withoutRevision]
      have kept : [Text.of "bugalizerUpdatedAt", Text.of "public", Text.of "admin"].all
          (· != Text.of "revision") = true := by decide
      simp only [List.all_cons, List.all_nil, Bool.and_true, Bool.and_eq_true] at kept
      simp only [List.filter_cons, kept.1, kept.2.1, kept.2.2, if_true, List.filter_nil,
        Value.Encodable, FieldsEncodable, Text.of_encodable, true_and, and_true]
    rw [encodes, public_encodable,
      admin_encodable (unit_sent triaged).2 (diff_sent sent).2 (unit_sent given).2, filesClean]

/-- The payload of one report is built, keeps the contract and is hashed. -/
def Pushable (repr : Double → String) (sha256 : List UInt8 → String) (rows : Rows) : Prop :=
  ∃ payload, buildPayload rows = .ok payload ∧ contract.accepts payload = true ∧
    ∃ hash, fingerprint repr sha256 payload = .ok hash

theorem pushable_iff (repr : Double → String) (sha256 : List UInt8 → String) (rows : Rows) :
    Pushable repr sha256 rows ↔ Sendable rows := by
  constructor
  · rintro ⟨payload, ran, -, hashed⟩
    obtain ⟨confidence, relevance⟩ := (build_payload_ok_iff rows).mp ⟨payload, ran⟩
    obtain ⟨summary, category, hypothesis, candidates⟩ :=
      (payload_sent ran repr sha256).2.mp hashed
    exact { summary, category, confidence, hypothesis, relevance, candidates }
  · intro sendable
    obtain ⟨payload, ran⟩ :=
      (build_payload_ok_iff rows).mpr ⟨sendable.confidence, sendable.relevance⟩
    obtain ⟨accepted, hashes⟩ := payload_sent ran repr sha256
    exact ⟨payload, ran, accepted, hashes.mpr
      ⟨sendable.summary, sendable.category, sendable.hypothesis, sendable.candidates⟩⟩

theorem push_cores_ok_iff (repr : Double → String) (sha256 : List UInt8 → String)
    (reports : List Rows) :
    (∃ cores, pushCores repr sha256 reports = .ok cores) ↔ ∀ rows ∈ reports, Sendable rows := by
  induction reports with
  | nil => exact iff_of_true ⟨[], rfl⟩ fun rows member => by cases member
  | cons rows others ih =>
      rw [List.forall_mem_cons, ← ih, ← pushable_iff repr sha256]
      constructor
      · rintro ⟨cores, ran⟩
        obtain ⟨core, built, ran⟩ := bind_ok.mp ran
        obtain ⟨hash, hashed, ran⟩ := bind_ok.mp ran
        obtain ⟨rest, passed, -⟩ := bind_ok.mp ran
        exact ⟨⟨core, built, (payload_sent built repr sha256).1, hash, hashed⟩, rest, passed⟩
      · rintro ⟨⟨core, built, -, hash, hashed⟩, rest, passed⟩
        rw [pushCores, built]
        refine ⟨(core, hash) :: rest, bind_ok.mpr ⟨core, rfl, bind_ok.mpr ⟨hash, hashed, ?_⟩⟩⟩
        exact bind_ok.mpr ⟨rest, passed, rfl⟩

/-- The payload of a report is built, in keeping with the contract, and hashed exactly when its
rows can be sent; and a push gets past the payloads of its reports exactly when those of every
one can. -/
theorem push_passes_iff_sendable (repr : Double → String) (sha256 : List UInt8 → String) :
    (∀ rows, Pushable repr sha256 rows ↔ Sendable rows) ∧
      ∀ reports, (∃ cores, pushCores repr sha256 reports = .ok cores) ↔
        ∀ rows ∈ reports, Sendable rows :=
  ⟨pushable_iff repr sha256, push_cores_ok_iff repr sha256⟩

/-- A report whose triage came to this answer. -/
def triagedAs (answer : List (Text × Value)) : Rows :=
  { report := ⟨"triaged", some "medium", "auto", none, "2026-10-01", "2026-10-01"⟩
    analyses := [⟨"triage", "completed", .dict answer, some "ollama", some "qwen", none, "2026-10-01"⟩]
    proposals := []
    project := none }

/-- The summary is the lone surrogate `\ud800`. -/
def surrogateSummary : Rows := triagedAs [(Text.of "summary", .str [.surrogate 0])]

def hugeConfidence : Rows := triagedAs [(Text.of "confidence", .int (2 ^ 1024))]

/-- One such report stops the push of them all. -/
theorem model_text_stops_push :
    ¬Pushable (fun _ => "0.0") (fun _ => "hash") surrogateSummary ∧
      ¬Pushable (fun _ => "0.0") (fun _ => "hash") hugeConfidence ∧
      ¬∃ cores, pushCores (fun _ => "0.0") (fun _ => "hash") [triagedAs [], surrogateSummary] =
        .ok cores := by
  have unhashed : ¬Sendable surrogateSummary := by
    intro sendable
    have clean := sendable.summary [.surrogate 0] (by rfl) (.surrogate 0) (by decide)
    cases clean
  have unfit : ¬Sendable hugeConfidence := by
    intro sendable
    have small := sendable.confidence (2 ^ 1024) (by rfl)
    rw [doubleOverflow] at small
    exact absurd small (Nat.not_lt.mpr (Nat.sub_le _ _))
  refine ⟨?_, ?_, ?_⟩
  · rwa [pushable_iff]
  · rwa [pushable_iff]
  · intro passes
    exact unhashed ((push_cores_ok_iff _ _ _).mp passes surrogateSummary (by simp))

end Bugalizer.Results
