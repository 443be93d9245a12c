import Bugalizer.Ingest.Sonicgrid
import Bugalizer.Text.Blanks

/-!
# What an imported report looks like

The text helpers of `map_report` use three notions of blank: `split`, `strip` and
`splitlines`. Every line break is a blank, so they agree on which descriptions are empty,
and a collapsed line is a line of words with one space between them.
-/

namespace Bugalizer.Ingest

set_option autoImplicit false

theorem line_break_is_space {letter : Char} (breaks : lineBreak letter = true) :
    Py.isSpace letter = true := by
  simp only [lineBreak, Py.isSpace, decide_eq_true_eq] at breaks ⊢
  simp only [List.mem_cons, List.not_mem_nil, or_false] at breaks ⊢
  tauto

def IsWord (word : List Char) : Prop := word ≠ [] ∧ ∀ letter ∈ word, Py.isSpace letter = false

theorem split_words_are {word text : List Char} (solid : ∀ letter ∈ word, Py.isSpace letter = false) :
    ∀ part ∈ splitWords word text, IsWord part := by
  induction text generalizing word with
  | nil =>
      intro part member
      rw [splitWords] at member
      split at member
      · cases member
      · rename_i filled
        rw [List.mem_singleton.mp member]
        exact ⟨by simpa using filled, fun letter inside => solid letter (List.mem_reverse.mp inside)⟩
  | cons letter text ih =>
      intro part member
      rw [splitWords] at member
      split at member
      · split at member
        · exact ih (fun _ none => by cases none) part member
        · rename_i filled
          rcases List.mem_cons.mp member with rfl | later
          · exact ⟨by simpa using filled,
              fun inner inside => solid inner (List.mem_reverse.mp inside)⟩
          · exact ih (fun _ none => by cases none) part later
      · rename_i visible
        apply ih _ part member
        intro inner inside
        rcases List.mem_cons.mp inside with rfl | older
        · simpa using visible
        · exact solid inner older

theorem split_words_nil_iff (word text : List Char) :
    splitWords word text = [] ↔ word = [] ∧ text.all Py.isSpace = true := by
  induction text generalizing word with
  | nil =>
      rw [splitWords]
      by_cases empty : word = [] <;> simp [empty]
  | cons letter text ih =>
      rw [splitWords]
      by_cases space : Py.isSpace letter = true
      · by_cases empty : word = []
        · simp [space, empty, ih]
        · simp [space, empty]
      · simp [space, ih]

theorem split_lines_blank_iff (line text : List Char) :
    (∀ part ∈ splitLines line text, ∀ letter ∈ part, Py.isSpace letter = true) ↔
      (∀ letter ∈ line, Py.isSpace letter = true) ∧ ∀ letter ∈ text, Py.isSpace letter = true := by
  induction line, text using splitLines.induct with
  | case1 => simp [splitLines]
  | case2 line filled => simp [splitLines, filled]
  | case3 line rest ih =>
      have first : Py.isSpace '\r' = true := by decide
      have second : Py.isSpace '\n' = true := by decide
      simp only [splitLines, List.forall_mem_cons, ih, first, second]
      simp
  | case4 line letter rest apart breaks ih =>
      simp only [splitLines, breaks, if_true, List.forall_mem_cons, ih, line_break_is_space breaks]
      simp
  | case5 line letter rest apart goes ih =>
      simp only [splitLines, goes, Bool.false_eq_true, if_false, List.forall_mem_cons, ih]
      tauto

/-- `" ".join(words)`. -/
abbrev joined (words : List (List Char)) : List Char := [' '].intercalate words

theorem joined_cons (word next : List Char) (words : List (List Char)) :
    joined (word :: next :: words) = word ++ ' ' :: joined (next :: words) := by
  simp [joined, List.intercalate]

theorem joined_one (word : List Char) : joined [word] = word := by
  simp [joined, List.intercalate]

theorem joined_nil_iff {words : List (List Char)} (all : ∀ word ∈ words, IsWord word) :
    joined words = [] ↔ words = [] := by
  cases words with
  | nil => simp [joined, List.intercalate]
  | cons word words =>
      have filled := (all word List.mem_cons_self).1
      cases words with
      | nil => simp [filled]
      | cons next words => simp [filled]

theorem joined_space {words : List (List Char)} (all : ∀ word ∈ words, IsWord word)
    {before after : List Char} (shape : joined words = before ++ ' ' :: after) :
    ∃ first rest, words = first ++ rest ∧ first ≠ [] ∧ before = joined first ∧ after = joined rest := by
  have solid : ∀ word ∈ words, ' ' ∉ word := by
    intro word member inside
    have visible := (all word member).2 ' ' inside
    revert visible
    decide
  induction words generalizing before with
  | nil => simp [joined, List.intercalate] at shape
  | cons word words ih =>
      have here := solid word List.mem_cons_self
      cases words with
      | nil =>
          rw [joined_one] at shape
          exact absurd (by simp [shape]) here
      | cons next words =>
          rw [joined_cons, List.append_eq_append_iff] at shape
          obtain ⟨between, front, back⟩ | ⟨between, front, back⟩ := shape
          · cases between with
            | nil =>
                rw [List.append_nil] at front
                rw [List.nil_append, List.cons.injEq] at back
                exact ⟨[word], next :: words, rfl, by simp, by rw [joined_one, front], back.2.symm⟩
            | cons letter between =>
                rw [List.cons_append, List.cons.injEq] at back
                obtain ⟨first, rest, same, filled, start, last⟩ :=
                  ih (fun other member => all other (List.mem_cons_of_mem _ member)) back.2
                    fun other member => solid other (List.mem_cons_of_mem _ member)
                refine ⟨word :: first, rest, by rw [same, List.cons_append], by simp, ?_, last⟩
                obtain ⟨head, tail, rfl⟩ := List.exists_cons_of_ne_nil filled
                rw [joined_cons, front, ← back.1, start]
          · cases between with
            | nil =>
                rw [List.append_nil] at front
                rw [List.nil_append, List.cons.injEq] at back
                exact ⟨[word], next :: words, rfl, by simp, by rw [joined_one, front], back.2⟩
            | cons letter between =>
                rw [List.cons_append, List.cons.injEq] at back
                rw [front, ← back.1] at here
                exact absurd (by simp) here

theorem joined_letters {words : List (List Char)} (all : ∀ word ∈ words, IsWord word)
    {letter : Char} (member : letter ∈ joined words) : letter = ' ' ∨ Py.isSpace letter = false := by
  induction words with
  | nil => simp [joined, List.intercalate] at member
  | cons word words ih =>
      have here := (all word List.mem_cons_self).2
      cases words with
      | nil =>
          rw [joined_one] at member
          exact .inr (here letter member)
      | cons next words =>
          rw [joined_cons, List.mem_append, List.mem_cons] at member
          obtain inside | rfl | later := member
          · exact .inr (here letter inside)
          · exact .inl rfl
          · exact ih (fun other inner => all other (List.mem_cons_of_mem _ inner)) later

theorem joined_last {words : List (List Char)} (all : ∀ word ∈ words, IsWord word) :
    ∀ letter ∈ (joined words).getLast?, Py.isSpace letter = false := by
  induction words with
  | nil => simp [joined, List.intercalate]
  | cons word words ih =>
      have here := all word List.mem_cons_self
      cases words with
      | nil =>
          intro letter last
          rw [joined_one] at last
          exact here.2 letter (List.mem_of_getLast? last)
      | cons next words =>
          have others : ∀ other ∈ next :: words, IsWord other :=
            fun other inner => all other (List.mem_cons_of_mem _ inner)
          have filled : joined (next :: words) ≠ [] := by
            rw [Ne, joined_nil_iff others]
            simp
          intro letter last
          rw [joined_cons, List.getLast?_append_of_ne_nil _ (by simp),
            List.getLast?_cons_of_ne_nil filled] at last
          exact ih others letter last

theorem joined_head {words : List (List Char)} (all : ∀ word ∈ words, IsWord word) :
    ∀ letter ∈ (joined words).head?, Py.isSpace letter = false := by
  cases words with
  | nil => simp [joined, List.intercalate]
  | cons word words =>
      have here := all word List.mem_cons_self
      obtain ⟨first, rest, rfl⟩ := List.exists_cons_of_ne_nil here.1
      intro letter head
      have same : letter = first := by
        cases words with
        | nil => simpa [joined_one] using head.symm
        | cons next words => simpa [joined_cons] using head.symm
      rw [same]
      exact here.2 first List.mem_cons_self

theorem collapsed_words (line : List Char) : ∀ word ∈ splitWords [] line, IsWord word :=
  split_words_are fun _ none => by cases none

theorem collapsed_nil_iff (line : List Char) : collapsed line = [] ↔ line.all Py.isSpace = true := by
  rw [collapsed, joined_nil_iff (collapsed_words line), split_words_nil_iff]
  simp

structure TitleLine (text : List Char) : Prop where
  unbroken : ∀ letter ∈ text, lineBreak letter = false
  trimmed : Py.stripped text = text

theorem trimmed_of_ends {text : List Char}
    (opens : ∀ letter ∈ text.head?, Py.isSpace letter = false)
    (closes : ∀ letter ∈ text.getLast?, Py.isSpace letter = false) : Py.stripped text = text := by
  cases head : text.head? with
  | none =>
      rw [List.head?_eq_none_iff.mp head]
      rfl
  | some first =>
      have filled : text ≠ [] := by
        intro empty
        rw [empty] at head
        cases head
      have last := List.getLast?_eq_some_getLast filled
      exact Text.stripped_fixed head last (opens first head) (closes _ last)

theorem unbroken_of_letters {text : List Char}
    (letters : ∀ letter ∈ text, letter = ' ' ∨ Py.isSpace letter = false) :
    ∀ letter ∈ text, lineBreak letter = false := by
  intro letter member
  obtain rfl | visible := letters letter member
  · decide
  · by_contra breaks
    rw [line_break_is_space (by simpa using breaks)] at visible
    cases visible

theorem joined_line {words : List (List Char)} (all : ∀ word ∈ words, IsWord word) :
    TitleLine (joined words) where
  unbroken := unbroken_of_letters fun _ member => joined_letters all member
  trimmed := trimmed_of_ends (joined_head all) (joined_last all)

/-- A line of words as a title: whole, or cut before its last space within the limit, or cut
at the limit when there is no space. -/
inductive TitleOf (line : List Char) : List Char → Prop
  | whole (short : line.length ≤ titleMax) : TitleOf line line
  | words (kept last : List Char) (long : titleMax < line.length)
      (boundary : line.take titleMax = kept ++ ' ' :: last) (filled : kept ≠ []) (word : ' ' ∉ last) :
      TitleOf line (kept ++ ['…'])
  | hard (long : titleMax < line.length) (unbroken : ' ' ∉ line.take titleMax) :
      TitleOf line (line.take titleMax ++ ['…'])

/-- `rpartition(" ")`, by what it finds. -/
theorem before_last_space (text : List Char) :
    (beforeLastSpace text = none ∧ ' ' ∉ text) ∨
      ∃ head last, beforeLastSpace text = some head ∧ text = head ++ ' ' :: last ∧ ' ' ∉ last := by
  have shape := List.takeWhile_append_dropWhile (p := fun letter => letter != ' ') (l := text.reverse)
  have free : ' ' ∉ text.reverse.takeWhile (fun letter => letter != ' ') := by
    intro inside
    have apart := List.mem_takeWhile_imp inside
    simp at apart
  cases rest : text.reverse.dropWhile (fun letter => letter != ' ') with
  | nil =>
      left
      refine ⟨by rw [beforeLastSpace, rest], ?_⟩
      rw [rest, List.append_nil] at shape
      rw [shape] at free
      simpa using free
  | cons letter head =>
      right
      have space : letter = ' ' := by
        have met := List.head?_dropWhile_not (fun letter => letter != ' ') text.reverse
        rw [rest] at met
        simpa using met
      refine ⟨head.reverse, (text.reverse.takeWhile fun letter => letter != ' ').reverse, ?_, ?_, ?_⟩
      · rw [beforeLastSpace, rest]
      · rw [rest, space] at shape
        have turned := congrArg List.reverse shape
        simpa using turned.symm
      · simpa using free

theorem cut_title_of {words : List (List Char)} (all : ∀ word ∈ words, IsWord word) :
    TitleOf (joined words) (cutTitle (joined words)) := by
  by_cases short : (joined words).length ≤ titleMax
  · rw [cutTitle, if_pos short]
    exact .whole short
  · have long : titleMax < (joined words).length := by omega
    rw [cutTitle, if_neg short]
    obtain ⟨missing, free⟩ | ⟨head, last, found, shape, word⟩ :=
      before_last_space ((joined words).take titleMax)
    · have kept : rightStripped ((joined words).take titleMax) = (joined words).take titleMax := by
        apply Text.right_stripped_solid
        intro letter closes
        have inside := List.mem_of_getLast? closes
        obtain rfl | visible := joined_letters all (List.mem_of_mem_take inside)
        · exact absurd inside free
        · exact visible
      simp only [missing, kept]
      exact .hard long free
    · have whole : joined words = head ++ ' ' :: (last ++ (joined words).drop titleMax) := by
        have split := List.take_append_drop titleMax (joined words)
        rw [shape] at split
        simpa using split.symm
      obtain ⟨first, rest, same, filled, rfl, -⟩ := joined_space all whole
      have firsts : ∀ word ∈ first, IsWord word := by
        intro word member
        exact all word (by simp [same, member])
      have nonempty : joined first ≠ [] := by
        rw [Ne, joined_nil_iff firsts]
        exact filled
      have kept : rightStripped (joined first) = joined first :=
        Text.right_stripped_solid (joined_last firsts)
      simp only [found, if_neg nonempty, kept]
      exact .words (joined first) last long shape nonempty word

theorem clipped_line {words : List (List Char)} (all : ∀ word ∈ words, IsWord word)
    {kept rest : List Char} (shape : joined words = kept ++ rest) (filled : kept ≠ []) :
    TitleLine (kept ++ ['…']) where
  unbroken := by
    intro letter member
    rcases List.mem_append.mp member with inside | dots
    · exact (joined_line all).unbroken letter (by simp [shape, inside])
    · rw [List.mem_singleton.mp dots]
      decide
  trimmed := by
    apply trimmed_of_ends
    · intro letter head
      apply joined_head all letter
      rw [shape, List.head?_append_of_ne_nil _ filled]
      rw [List.head?_append_of_ne_nil _ filled] at head
      exact head
    · intro letter last
      rw [List.getLast?_concat] at last
      cases last
      decide

theorem title_of_line {words : List (List Char)} (all : ∀ word ∈ words, IsWord word)
    (some : words ≠ []) {title : List Char} (titled : TitleOf (joined words) title) :
    TitleLine title ∧ 1 ≤ title.length ∧ title.length ≤ titleMax + 1 := by
  have nonempty : joined words ≠ [] := by
    rw [Ne, joined_nil_iff all]
    exact some
  have counted := List.length_pos_iff.mpr nonempty
  have split := List.take_append_drop titleMax (joined words)
  cases titled with
  | whole short => exact ⟨joined_line all, counted, by omega⟩
  | words kept last long boundary filled word =>
      have bound := congrArg List.length boundary
      simp only [List.length_take, List.length_append, List.length_cons] at bound
      rw [boundary, List.append_assoc] at split
      refine ⟨clipped_line all split.symm filled, by simp, ?_⟩
      simp only [List.length_append, List.length_singleton]
      omega
  | hard long unbroken =>
      have filled : (joined words).take titleMax ≠ [] := by
        intro empty
        have none := congrArg List.length empty
        simp only [List.length_take, List.length_nil, titleMax] at none
        omega
      refine ⟨clipped_line all split.symm filled, by simp, ?_⟩
      simp only [List.length_append, List.length_singleton, List.length_take]
      omega

theorem first_line_cases (text : List Char) :
    (firstLine text = none ∧ text.all Py.isSpace = true) ∨
      ∃ blanks line rest, firstLine text = some (collapsed line) ∧
        splitLines [] text = blanks ++ line :: rest ∧
        (∀ blank ∈ blanks, collapsed blank = []) ∧ collapsed line ≠ [] ∧
        text.all Py.isSpace = false := by
  have whole := split_lines_blank_iff [] text
  cases found : firstLine text with
  | none =>
      left
      refine ⟨rfl, ?_⟩
      rw [firstLine, List.findSome?_eq_none_iff] at found
      apply List.all_eq_true.mpr
      apply (whole.mp _).2
      intro line member
      have empty := found line member
      split at empty
      · rename_i blank
        exact List.all_eq_true.mp ((collapsed_nil_iff line).mp blank)
      · cases empty
  | some title =>
      right
      rw [firstLine, List.findSome?_eq_some_iff] at found
      obtain ⟨blanks, line, rest, shape, here, before⟩ := found
      split at here
      · cases here
      rename_i filled
      cases here
      refine ⟨blanks, line, rest, rfl, shape, ?_, filled, ?_⟩
      · intro blank member
        have empty := before blank member
        by_contra other
        rw [if_neg other] at empty
        cases empty
      · by_contra spaces
        have every := whole.mpr ⟨by simp, List.all_eq_true.mp (by simpa using spaces)⟩ line
          (by simp [shape])
        exact filled ((collapsed_nil_iff line).mpr (List.all_eq_true.mpr every))

def describedBy (raw : Json) : List Char :=
  (((raw.field? "description").bind Json.string?).getD "").toList

def TitledBy (text title : List Char) : Prop :=
  ∃ blanks line rest, splitLines [] text = blanks ++ line :: rest ∧
    (∀ blank ∈ blanks, collapsed blank = []) ∧ collapsed line ≠ [] ∧ TitleOf (collapsed line) title

/-- The stripped text, or as much of it as leaves room for the marker. -/
def DescribedAs (text description : List Char) : Prop :=
  if text.length ≤ descriptionMax then description = text
  else description = text.take (descriptionMax - truncationMarker.toList.length) ++ truncationMarker.toList

/-- The bounds of `BugReportCreate`. -/
structure CreateLimits (row : ImportRow) : Prop where
  title : 1 ≤ row.title.length ∧ row.title.length ≤ 500
  description : 1 ≤ row.description.length ∧ row.description.length ≤ 50000
  reporter : 1 ≤ row.reporter.length ∧ row.reporter.length ≤ 200

structure WellMapped (urlsplit : String → Option (String × Option String)) (raw : Json)
    (row : ImportRow) : Prop where
  titleLine : TitleLine row.title.toList
  titleLength : 1 ≤ row.title.length ∧ row.title.length ≤ 81
  blank : (describedBy raw).all Py.isSpace = true →
    row.title = "(no description)" ∧ row.description = "(empty report)"
  filled : (describedBy raw).all Py.isSpace = false →
    TitledBy (describedBy raw) row.title.toList ∧ Py.stripped (describedBy raw) ≠ [] ∧
      DescribedAs (Py.stripped (describedBy raw)) row.description.toList
  attachments : ∀ kept, row.attachments = some kept → ∀ attachment ∈ kept,
    ∃ host, urlsplit attachment.url = some ("https", some host) ∧ host ≠ ""
  limits : CreateLimits row

theorem placeholder_line : TitleLine "(no description)".toList where
  unbroken := by
    have solid : "(no description)".toList.all (fun letter => !lineBreak letter) = true := by
      decide
    intro letter member
    simpa using List.all_eq_true.mp solid letter member
  trimmed := by
    have opens : "(no description)".toList.head? = some '(' := by decide
    have closes : "(no description)".toList.getLast? = some ')' := by decide
    exact Text.stripped_fixed opens closes (by decide) (by decide)

theorem placeholder_length : "(no description)".toList.length = 16 := by decide

theorem empty_report_length : "(empty report)".toList.length = 14 := by decide

theorem marker_length : truncationMarker.toList.length = 33 := by decide

theorem sonicgrid_user_length : "sonicgrid user".toList.length = 14 := by decide

/-- `derive_title`, of any text. -/
theorem derive_title_spec (description : String) :
    TitleLine (deriveTitle description).toList ∧
      (1 ≤ (deriveTitle description).toList.length ∧ (deriveTitle description).toList.length ≤ 81) ∧
      (description.toList.all Py.isSpace = true → deriveTitle description = "(no description)") ∧
      (description.toList.all Py.isSpace = false →
        TitledBy description.toList (deriveTitle description).toList) := by
  obtain ⟨missing, blank⟩ | ⟨blanks, line, rest, found, shape, before, filled, visible⟩ :=
    first_line_cases description.toList
  · have same : deriveTitle description = "(no description)" := by rw [deriveTitle, missing]
    rw [same, placeholder_length]
    refine ⟨placeholder_line, by omega, fun _ => rfl, ?_⟩
    intro visible
    rw [blank] at visible
    cases visible
  · have words := collapsed_words line
    have same : (deriveTitle description).toList = cutTitle (collapsed line) := by
      rw [deriveTitle, found]
      exact String.toList_ofList
    have titled := cut_title_of words
    have some : splitWords [] line ≠ [] := by
      intro none
      exact filled ((joined_nil_iff words).mpr none)
    obtain ⟨single, bounds⟩ := title_of_line words some titled
    rw [same]
    refine ⟨single, bounds, ?_, fun _ => ⟨blanks, line, rest, shape, before, filled, titled⟩⟩
    intro blank
    rw [visible] at blank
    cases blank

/-- `_description`, of any text. -/
theorem imported_description_spec (raw : Option String) :
    (1 ≤ (importedDescription raw).toList.length ∧
      (importedDescription raw).toList.length ≤ descriptionMax) ∧
      ((raw.getD "").toList.all Py.isSpace = true → importedDescription raw = "(empty report)") ∧
      ((raw.getD "").toList.all Py.isSpace = false → Py.stripped (raw.getD "").toList ≠ [] ∧
        DescribedAs (Py.stripped (raw.getD "").toList) (importedDescription raw).toList) := by
  have blank := Text.stripped_nil_iff (raw.getD "").toList
  unfold importedDescription DescribedAs
  generalize Py.stripped (raw.getD "").toList = text at blank ⊢
  by_cases empty : text = []
  · simp only [if_pos empty, empty_report_length, descriptionMax]
    refine ⟨by omega, fun _ => trivial, ?_⟩
    intro visible
    rw [blank.mp empty] at visible
    cases visible
  · have counted := List.length_pos_iff.mpr empty
    have visible : (raw.getD "").toList.all Py.isSpace ≠ true := fun spaces => empty (blank.mpr spaces)
    by_cases long : descriptionMax < text.length
    · simp only [if_neg empty, if_pos long, if_neg (Nat.not_le.mpr long), String.toList_append,
        String.toList_ofList, List.length_append, List.length_take, marker_length]
      refine ⟨?_, fun spaces => absurd spaces visible, fun _ => ⟨empty, trivial⟩⟩
      simp only [descriptionMax] at long ⊢
      omega
    · simp only [if_neg empty, if_neg long, if_pos (Nat.not_lt.mp long), String.toList_ofList]
      exact ⟨⟨counted, Nat.not_lt.mp long⟩, fun spaces => absurd spaces visible, fun _ => ⟨empty, trivial⟩⟩

/-- `_reporter`, of any text. -/
theorem imported_reporter_length (raw : Option String) :
    1 ≤ (importedReporter raw).toList.length ∧ (importedReporter raw).toList.length ≤ reporterMax := by
  unfold importedReporter
  generalize collapsed (raw.getD "").toList = name
  by_cases empty : name.take reporterMax = []
  · simp only [if_pos empty, sonicgrid_user_length]
    simp only [reporterMax]
    omega
  · have counted := List.length_pos_iff.mpr empty
    simp only [if_neg empty, String.toList_ofList]
    refine ⟨counted, ?_⟩
    simp only [List.length_take, reporterMax]
    omega

section Mapping

variable {urlsplit : String → Option (String × Option String)}

theorem kept_attachment_spec {item : Json} {attachment : Attachment}
    (kept : keptAttachment urlsplit item = some attachment) :
    ∃ host, urlsplit attachment.url = some ("https", some host) ∧ host ≠ "" := by
  simp only [keptAttachment, Option.bind_eq_bind, Option.bind_eq_some_iff] at kept
  obtain ⟨url, -, fileName, -, contentType, -, ⟨scheme, host⟩, parts, checked⟩ := kept
  split at checked
  · rename_i secure
    cases checked
    obtain ⟨rfl, named⟩ := secure
    cases host with
    | none => exact absurd rfl named
    | some host => exact ⟨host, parts, named⟩
  · cases checked

theorem validated_description {raw : Json} {report : PollReport}
    (valid : PollReport.validate raw = some report) :
    (report.description.getD "").toList = describedBy raw := by
  simp only [PollReport.validate, Option.bind_eq_bind, Option.bind_eq_some_iff] at valid
  obtain ⟨id, -, description, found, reporterName, -, checked⟩ := valid
  have same : report.description = description := by
    split at checked
    · split at checked <;> cases checked
      rfl
    · obtain ⟨attachments, -, made⟩ := Option.bind_eq_some_iff.mp checked
      split at made <;> cases made
      rfl
  rw [same, describedBy]
  cases field : raw.field? "description" with
  | none =>
      rw [field] at found
      cases found
      rfl
  | some value =>
      rw [field] at found
      cases value with
      | null =>
          cases found
          rfl
      | str text =>
          cases found
          rfl
      | _ => cases found

/-- Every imported row is well formed, and within the limits of `BugReportCreate`. -/
theorem map_report_well_mapped {raw : Json} {source : String} {row : ImportRow}
    (mapped : mapReport urlsplit raw source = some row) : WellMapped urlsplit raw row := by
  simp only [mapReport, Option.bind_eq_bind, Option.bind_eq_some_iff] at mapped
  obtain ⟨report, valid, made⟩ := mapped
  cases made
  have described := validated_description valid
  obtain ⟨line, length, blankTitle, filledTitle⟩ := derive_title_spec (report.description.getD "")
  obtain ⟨bounds, blankText, filledText⟩ := imported_description_spec report.description
  rw [described] at blankTitle filledTitle blankText filledText
  have limits : ∀ made : ImportRow, made.title = deriveTitle (report.description.getD "") →
      made.description = importedDescription report.description →
      made.reporter = importedReporter report.reporterName → CreateLimits made := by
    intro made title description reporter
    refine ⟨?_, ?_, ?_⟩
    · rw [title]
      exact ⟨length.1, le_trans length.2 (by decide)⟩
    · rw [description]
      exact bounds
    · rw [reporter]
      exact imported_reporter_length _
  refine ⟨line, length, ?_, ?_, ?_, limits _ rfl rfl rfl⟩
  · intro blank
    exact ⟨blankTitle blank, blankText blank⟩
  · intro filled
    exact ⟨filledTitle filled, filledText filled⟩
  · intro kept same attachment member
    simp only [importedAttachments] at same
    split at same
    · cases same
    · cases same
      obtain ⟨item, -, here⟩ := List.mem_filterMap.mp member
      exact kept_attachment_spec here

end Mapping

namespace Scenario

/-- A raw report: a blank line, a line with two blanks, and an attachment. -/
def rawReport : Json :=
  .obj [("id", .str "bug"), ("description", .str "\n a  b\nc"), ("reporterName", .null),
    ("attachments", .arr [.obj [("url", .str "https://h/a")], .str "x"])]

def rawRow : ImportRow :=
  { externalId := "bug", ingestSource := "sonicgrid", title := "a b", description := "a  b\nc"
    reporter := "sonicgrid user"
    attachments := some [{ url := "https://h/a", fileName := none, contentType := none }]
    labels := ["sonicgrid"], severity := "medium", environment := "sonicgrid production" }

end Scenario

theorem map_report_well_mapped_raw :
    WellMapped (fun _ => some ("https", some "h")) Scenario.rawReport Scenario.rawRow :=
  @map_report_well_mapped (fun _ => some ("https", some "h")) Scenario.rawReport "sonicgrid"
    Scenario.rawRow (by rfl)

end Bugalizer.Ingest
