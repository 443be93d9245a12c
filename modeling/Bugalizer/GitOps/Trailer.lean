import Bugalizer.GitOps.PullRequest
import Bugalizer.Ingest.Sonicgrid
import Bugalizer.Text.Blanks
import Bugalizer.Text.Matcher
import Bugalizer.Text.Split

/-!
# The trailers of a commit

A commit names its report and its proposal in two last lines. The text of the analysis stands
above them, and the reader takes the first line of the message that looks like the trailer.
-/

namespace Bugalizer.GitOps

set_option autoImplicit false

open Coroutine Program Bugalizer.Text Bugalizer.Text.Matcher

def nonSpace (letter : Char) : Bool := !Py.isSpace letter

/-- `\s*(\S+)\s*$`. -/
def soleWordPattern : Matcher Char (List Char) := do
  let _ ← many Py.isSpace
  let word ← nonempty (many nonSpace)
  let _ ← many Py.isSpace
  lineStop '\n'
  pure word

/-- A trailer's key and its colon. -/
def label (key : String) : List Char := key.toList ++ [':']

def trailer (message key : String) : Option String :=
  (searched '\n' (literal (label key) >>= fun _ => soleWordPattern) message.toList).map String.ofList

/-- The message that `_build_commit` writes. -/
def commitMessage (title reportId rootCause proposalId : String) : String :=
  String.ofList
    ("fix: ".toList ++ (Ingest.collapsed title.toList).take 200 ++ " (bugalizer ".toList ++ reportId.toList ++
      ")\n\n".toList ++ (Py.stripped rootCause.toList).take 2000 ++ "\n\nBugalizer-Report: ".toList ++
      reportId.toList ++ "\nBugalizer-Proposal: ".toList ++ proposalId.toList ++ ['\n'])

def soleWord : List (List Char) → Option (List Char)
  | [] => none
  | line :: below =>
      if Py.stripped line = [] then soleWord below
      else if (Py.stripped line).all nonSpace then some (Py.stripped line) else none

def Sole (text word : List Char) : Prop :=
  ∃ gap blank rest, text = gap ++ (word ++ (blank ++ rest)) ∧ gap.all Py.isSpace = true ∧
    word ≠ [] ∧ word.all nonSpace = true ∧ blank.all Py.isSpace = true ∧
      (rest = [] ∨ rest.head? = some '\n')

theorem sole_word_way (text word : List Char) :
    (∃ rest, (word, rest) ∈ soleWordPattern text) ↔ Sole text word := by
  simp only [soleWordPattern, mem_bind, mem_many, mem_nonempty, mem_line_stop, mem_pure, Sole, List.all_eq_true]
  constructor
  · rintro ⟨_, gap, afterGap, ⟨rfl, spaces⟩, run, afterRun, ⟨⟨rfl, solid⟩, filled⟩, blank, afterBlank, ⟨rfl, blanks⟩,
      _, left, ⟨ends, rfl⟩, rfl, rfl⟩
    exact ⟨gap, blank, _, rfl, spaces, filled, solid, blanks, ends⟩
  · rintro ⟨gap, blank, rest, rfl, spaces, filled, solid, blanks, ends⟩
    exact ⟨rest, gap, _, ⟨rfl, spaces⟩, word, _, ⟨⟨rfl, solid⟩, filled⟩, blank, _, ⟨rfl, blanks⟩, (), rest,
      ⟨ends, rfl⟩, rfl, rfl⟩

theorem solid_head {letter : Char} {word : List Char} (solid : (letter :: word).all nonSpace = true) :
    Py.isSpace letter = false := by
  rw [List.all_cons, Bool.and_eq_true] at solid
  exact Bool.not_eq_true' _ ▸ solid.1

theorem sole_after_blank {front : List Char} (spaces : front.all Py.isSpace = true) (text word : List Char) :
    Sole (front ++ text) word ↔ Sole text word := by
  constructor
  · rintro ⟨gap, blank, rest, shape, gaps, filled, solid, others⟩
    rcases List.append_eq_append_iff.mp shape with ⟨more, rfl, rfl⟩ | ⟨more, rfl, same⟩
    · rw [List.all_append, Bool.and_eq_true] at gaps
      exact ⟨more, blank, rest, rfl, gaps.2, filled, solid, others⟩
    · cases more with
      | nil => exact ⟨[], blank, rest, same.symm, rfl, filled, solid, others⟩
      | cons letter more =>
          -- the word would begin with a blank of the front
          obtain ⟨first, tail, rfl⟩ := List.exists_cons_of_ne_nil filled
          obtain ⟨rfl, -⟩ := List.cons.inj same
          have space := List.all_eq_true.mp spaces first (by simp)
          rw [solid_head solid] at space
          cases space
  · rintro ⟨gap, blank, rest, rfl, gaps, others⟩
    refine ⟨front ++ gap, blank, rest, (List.append_assoc ..).symm, ?_, others⟩
    rw [List.all_append, spaces, gaps]
    rfl

theorem not_sole_blank {line word : List Char} (spaces : line.all Py.isSpace = true) : ¬ Sole line word := by
  rintro ⟨gap, blank, rest, rfl, -, filled, solid, -⟩
  obtain ⟨first, tail, rfl⟩ := List.exists_cons_of_ne_nil filled
  have space := List.all_eq_true.mp spaces first (by simp)
  rw [solid_head solid] at space
  cases space

theorem blank_after {post rest : List Char} (blanks : post.all Py.isSpace = true)
    (ends : rest = [] ∨ rest.head? = some '\n') :
    ∀ letter ∈ (post ++ rest).head?, Py.isSpace letter = true := by
  intro letter head
  cases post with
  | nil =>
      rcases ends with rfl | ends
      · cases head
      · rw [List.nil_append, ends] at head
        obtain rfl := Option.some.inj head
        decide
  | cons first post =>
      obtain rfl := Option.some.inj head
      exact List.all_eq_true.mp blanks _ List.mem_cons_self

theorem sole_core {core post rest word : List Char} (opens : ∀ letter ∈ core.head?, Py.isSpace letter = false)
    (closes : ∀ letter ∈ core.getLast?, Py.isSpace letter = false) (filled : core ≠ [])
    (free : '\n' ∉ core) (blanks : post.all Py.isSpace = true) (ends : rest = [] ∨ rest.head? = some '\n') :
    Sole (core ++ (post ++ rest)) word ↔ word = core ∧ core.all nonSpace = true := by
  constructor
  · rintro ⟨gap, blank, left, shape, gaps, some_letter, solid, others, stops⟩
    cases gap with
    | cons letter gap =>
        obtain ⟨first, tail, rfl⟩ := List.exists_cons_of_ne_nil filled
        obtain ⟨rfl, -⟩ := List.cons.inj shape
        have space := List.all_eq_true.mp gaps first List.mem_cons_self
        rw [opens first rfl] at space
        cases space
    | nil =>
        rw [List.nil_append] at shape
        rcases List.append_eq_append_iff.mp shape with ⟨more, rfl, after⟩ | ⟨more, rfl, after⟩
        · cases more with
          | nil =>
              rw [List.append_nil] at solid ⊢
              exact ⟨rfl, solid⟩
          | cons letter more =>
              -- the word would go on with the blank after the core
              have space := blank_after blanks ends letter (by rw [after]; rfl)
              have black := List.all_eq_true.mp solid letter (by simp)
              rw [nonSpace, space] at black
              cases black
        · cases more with
          | nil =>
              rw [List.append_nil]
              exact ⟨rfl, solid⟩
          | cons letter more =>
              exfalso
              have last : ¬ (letter :: more).all Py.isSpace = true := by
                intro spaces
                have member := List.getLast_mem (List.cons_ne_nil letter more)
                have black := closes _ (by
                  rw [List.getLast?_append_of_ne_nil _ (List.cons_ne_nil _ _),
                    List.getLast?_eq_some_getLast (List.cons_ne_nil letter more)]
                  rfl)
                rw [List.all_eq_true.mp spaces _ member] at black
                cases black
              rcases List.append_eq_append_iff.mp after with ⟨gone, same, others'⟩ | ⟨gone, same, others'⟩
              · cases gone with
                | nil =>
                    rw [List.append_nil] at same
                    rw [same] at last
                    exact last others
                | cons stop gone =>
                    rcases stops with rfl | stopped
                    · cases others'
                    · rw [others'] at stopped
                      obtain rfl : stop = '\n' := Option.some.inj stopped
                      apply free
                      rw [same]
                      simp
              · apply last
                rw [same, List.all_append, Bool.and_eq_true] at others
                exact others.1
  · rintro ⟨rfl, solid⟩
    exact ⟨[], post, rest, rfl, rfl, filled, solid, blanks, ends⟩

theorem sole_word_iff (text word : List Char) : soleWord (split '\n' text) = some word ↔ Sole text word := by
  have filled : ∀ line rest, '\n' ∉ line → ¬ line.all Py.isSpace = true → (rest = [] ∨ rest.head? = some '\n') →
      (Sole (line ++ rest) word ↔
        (if (Py.stripped line).all nonSpace then some (Py.stripped line) else none) = some word) := by
    intro line rest free black ends
    obtain ⟨before, after, shape, opens, closes, heads, lasts⟩ := stripped_shape line
    have core_free : '\n' ∉ Py.stripped line := by
      intro member
      apply free
      rw [shape]
      simp [member]
    have inner : Sole (line ++ rest) word ↔ Sole (Py.stripped line ++ (after ++ rest)) word := by
      conv_lhs => rw [shape, List.append_assoc, List.append_assoc]
      exact sole_after_blank opens _ _
    rw [inner, sole_core heads lasts (fun empty => black ((stripped_nil_iff line).mp empty)) core_free closes ends]
    split
    · rename_i solid
      simp [solid, eq_comm]
    · rename_i spaced
      simp [spaced]
  induction text using part_induction '\n' with
  | last line free =>
      rw [split_free free]
      simp only [soleWord, stripped_nil_iff]
      split
      · rename_i spaces
        simp [not_sole_blank spaces]
      · rename_i black
        have here := filled line [] free black (.inl rfl)
        rw [List.append_nil] at here
        exact here.symm
  | next line rest free ih =>
      rw [split_append free]
      simp only [soleWord, stripped_nil_iff]
      split
      · rename_i spaces
        have front : (line ++ ['\n']).all Py.isSpace = true := by
          rw [List.all_append, spaces]
          decide
        have onward := sole_after_blank front rest word
        rw [List.append_assoc] at onward
        exact Iff.trans ih onward.symm
      · rename_i black
        exact (filled line ('\n' :: rest) free black (.inr rfl)).symm

theorem sole_word_matched (text : List Char) : soleWordPattern.matched text = soleWord (split '\n' text) := by
  cases found : soleWordPattern.matched text with
  | some word =>
      have way := matched_mem found
      exact ((sole_word_iff text word).mpr ((sole_word_way text word).mp way)).symm
  | none =>
      cases named : soleWord (split '\n' text) with
      | none => rfl
      | some word =>
          obtain ⟨rest, way⟩ := (sole_word_way text word).mpr ((sole_word_iff text word).mp named)
          obtain ⟨first, some_match⟩ := matched_exists way
          rw [found] at some_match
          cases some_match

def lineValue (word line : List Char) : Option (List Char) :=
  if word <+: line then some (line.drop word.length) else none

/-- A line with the label and its value, or the one word of the next line that is not blank. -/
def readLine (word line : List Char) (below : List (List Char)) : Option (List Char) :=
  (lineValue word line).bind fun value => soleWord (value :: below)

def readLines (word : List Char) : List (List Char) → Option (List Char)
  | [] => none
  | line :: below => (readLine word line below).or (readLines word below)

section Lines

variable {word : List Char}

theorem line_value_shape {line value : List Char} (known : lineValue word line = some value) :
    line = word ++ value := by
  unfold lineValue at known
  split at known
  · rename_i front
    obtain ⟨after, rfl⟩ := front
    rw [List.drop_left] at known
    rw [Option.some.inj known]
  · cases known

theorem line_value_append (value : List Char) : lineValue word (word ++ value) = some value := by
  rw [lineValue, if_pos (List.prefix_append word value), List.drop_left]

theorem line_matched (solid : '\n' ∉ word) {line : List Char} (free : '\n' ∉ line) {rest : List Char}
    (ends : rest = [] ∨ rest.head? = some '\n') (below : List (List Char))
    (split_here : ∀ value, '\n' ∉ value → split '\n' (value ++ rest) = value :: below) :
    (literal word >>= fun _ => soleWordPattern).matched (line ++ rest) = readLine word line below := by
  unfold readLine
  cases known : lineValue word line with
  | some value =>
      have shape := line_value_shape known
      subst shape
      have value_free : '\n' ∉ value := fun member => free (List.mem_append_right _ member)
      have after := sole_word_matched (value ++ rest)
      rw [split_here value value_free] at after
      rw [List.append_assoc, matched, literal_bind]
      exact after
  | none =>
      have other : ¬ word <+: line ++ rest := by
        rintro front
        have longer : ¬ word <+: line := by
          intro inside
          rw [lineValue, if_pos inside] at known
          cases known
        rcases List.prefix_or_prefix_of_prefix front (List.prefix_append line rest) with inside | ⟨more, rfl⟩
        · exact longer inside
        · cases more with
          | nil =>
              rw [List.append_nil] at longer
              exact longer (List.prefix_refl _)
          | cons letter more =>
              obtain ⟨tail, shape⟩ := front
              rw [List.append_assoc, List.append_cancel_left_eq] at shape
              rcases ends with rfl | ends
              · cases shape
              · rw [← shape] at ends
                obtain rfl : letter = '\n' := Option.some.inj ends
                apply solid
                simp
      unfold matched
      rw [bind_ways, literal, if_neg other]
      rfl

theorem searched_lines (solid : '\n' ∉ word) (text : List Char) :
    searched '\n' (literal word >>= fun _ => soleWordPattern) text = readLines word (split '\n' text) := by
  induction text using part_induction '\n' with
  | last line free =>
      have here := line_matched solid free (.inl rfl) [] fun value value_free => by
        rw [List.append_nil, split_free value_free]
      rw [List.append_nil] at here
      rw [searched_free free, here, split_free free, readLines, readLines, Option.or_none]
  | next line rest free ih =>
      have here := line_matched solid free (.inr rfl) (split '\n' rest) fun value value_free =>
        split_append value_free rest
      rw [searched_next free, here, split_append free, readLines]
      exact congrArg _ ih

theorem sole_word_append {lines after : List (List Char)} (nothing : soleWord after = none) :
    soleWord (lines ++ after) = soleWord lines := by
  induction lines with
  | nil => exact nothing
  | cons line lines ih => simp only [List.cons_append, soleWord, ih]

/-- A text below whose first line cannot be a value: each part is read alone. -/
theorem read_lines_append {lines after : List (List Char)} (nothing : soleWord after = none) :
    readLines word (lines ++ after) = (readLines word lines).or (readLines word after) := by
  induction lines with
  | nil => rfl
  | cons line lines ih =>
      have here : readLine word line (lines ++ after) = readLine word line lines := by
        unfold readLine
        refine congrArg _ ?_
        funext value
        exact @sole_word_append (value :: lines) after nothing
      simp only [List.cons_append, readLines, ih, here, Option.or_assoc]

theorem sole_word_stripped (lines : List (List Char)) : soleWord (lines.map rightStripped) = soleWord lines := by
  induction lines with
  | nil => rfl
  | cons line lines ih => simp only [List.map_cons, soleWord, stripped_right_stripped, ih]

theorem line_value_stripped (solid : word.all nonSpace = true) (line : List Char) :
    lineValue word (rightStripped line) = (lineValue word line).map rightStripped := by
  cases known : lineValue word line with
  | some value =>
      rw [line_value_shape known]
      have shape : rightStripped (word ++ value) = word ++ rightStripped value := by
        simp only [List.rdropWhile, List.reverse_append, List.dropWhile_append, List.isEmpty_iff]
        split
        · rename_i blank
          rw [blank, List.reverse_nil, List.append_nil]
          apply right_stripped_solid
          intro letter last
          have member := List.mem_of_getLast? last
          exact Bool.not_eq_true' _ ▸ List.all_eq_true.mp solid letter member
        · rw [List.reverse_append, List.reverse_reverse]
      rw [shape, line_value_append]
      rfl
  | none =>
      have outside : ¬ word <+: line := by
        intro front
        rw [lineValue, if_pos front] at known
        cases known
      exact if_neg fun front => outside (front.trans (List.rdropWhile_prefix _ _))

theorem read_lines_stripped (solid : word.all nonSpace = true) (lines : List (List Char)) :
    readLines word (lines.map rightStripped) = readLines word lines := by
  induction lines with
  | nil => rfl
  | cons line lines ih =>
      have here : readLine word (rightStripped line) (lines.map rightStripped) = readLine word line lines := by
        rw [readLine, readLine, line_value_stripped solid, Option.bind_map]
        refine congrArg _ ?_
        funext value
        exact sole_word_stripped (value :: lines)
      rw [List.map_cons, readLines, here, ih, readLines]

/-- The lines without the blanks at their ends, and without the blank lines at the end. -/
def tidyLines (lines : List (List Char)) : List (List Char) :=
  (lines.map rightStripped).rdropWhile fun line => line = []

theorem read_lines_blank (filled : word ≠ []) {lines : List (List Char)} (blank : ∀ line ∈ lines, line = []) :
    soleWord lines = none ∧ readLines word lines = none := by
  induction lines with
  | nil => exact ⟨rfl, rfl⟩
  | cons line lines ih =>
      obtain ⟨rfl, others⟩ := List.forall_mem_cons.mp blank
      obtain ⟨sole, read⟩ := ih others
      refine ⟨sole, ?_⟩
      have nothing : lineValue word [] = none := if_neg fun front => filled (List.prefix_nil.mp front)
      rw [readLines, read, readLine, nothing]
      rfl

theorem read_lines_tidy (filled : word ≠ []) (solid : word.all nonSpace = true) (lines : List (List Char)) :
    readLines word (tidyLines lines) = readLines word lines := by
  let blank : List Char → Bool := fun line => line = []
  have whole : tidyLines lines ++ (lines.map rightStripped).rtakeWhile blank = lines.map rightStripped :=
    List.rdropWhile_append_rtakeWhile
  obtain ⟨sole, read⟩ := read_lines_blank filled fun line member =>
    of_decide_eq_true (List.mem_rtakeWhile_imp (p := blank) member)
  rw [← read_lines_stripped solid lines, ← whole, read_lines_append sole, read, Option.or_none]

end Lines

/-- Git keeps a message up to blanks at the ends of its lines and blank lines at its end. -/
def Kept (written seen : String) : Prop :=
  tidyLines (split '\n' written.toList) = tidyLines (split '\n' seen.toList)

theorem label_solid {key : String} (solid : key.toList.all nonSpace = true) : (label key).all nonSpace = true := by
  rw [label, List.all_append, solid]
  decide

theorem solid_line {word : List Char} (solid : word.all nonSpace = true) : '\n' ∉ word := by
  intro member
  have black := List.all_eq_true.mp solid _ member
  revert black
  decide

theorem trailer_lines {key : String} (solid : key.toList.all nonSpace = true) (message : String) :
    trailer message key = (readLines (label key) (split '\n' message.toList)).map String.ofList := by
  rw [trailer, searched_lines (solid_line (label_solid solid))]

theorem trailer_kept {key : String} (solid : key.toList.all nonSpace = true) {written seen : String}
    (kept : Kept written seen) : trailer seen key = trailer written key := by
  have filled : label key ≠ [] := by simp [label]
  have same := congrArg (readLines (label key)) kept
  rw [read_lines_tidy filled (label_solid solid), read_lines_tidy filled (label_solid solid)] at same
  rw [trailer_lines solid, trailer_lines solid, same]

/-- An id as the database draws it: one word. -/
abbrev DrawnId := {id : String // id ≠ "" ∧ id.toList.all nonSpace = true}

theorem split_words_solid (text : List Char) : ∀ word, word.all nonSpace = true →
    ∀ part ∈ Ingest.splitWords word text, part.all nonSpace = true := by
  induction text with
  | nil =>
      intro word solid part member
      unfold Ingest.splitWords at member
      split at member
      · cases member
      · rw [List.mem_singleton.mp member, List.all_reverse]
        exact solid
  | cons letter text ih =>
      intro word solid part member
      unfold Ingest.splitWords at member
      split at member
      · split at member
        · exact ih [] rfl part member
        · rcases List.mem_cons.mp member with rfl | member
          · rw [List.all_reverse]
            exact solid
          · exact ih [] rfl part member
      · rename_i black
        refine ih (letter :: word) ?_ part member
        rw [List.all_cons, solid, nonSpace, Bool.eq_false_iff.mpr black]
        rfl

theorem collapsed_line (text : List Char) : '\n' ∉ Ingest.collapsed text := by
  have solid := split_words_solid text [] rfl
  unfold Ingest.collapsed
  generalize Ingest.splitWords [] text = words at solid
  induction words with
  | nil => exact List.not_mem_nil
  | cons word words ih =>
      obtain ⟨first, others⟩ := List.forall_mem_cons.mp solid
      cases words with
      | nil =>
          rw [List.intercalate_singleton]
          exact solid_line first
      | cons next words =>
          rw [List.intercalate_cons_cons, List.mem_append, List.mem_append, not_or, not_or]
          exact ⟨⟨solid_line first, by decide⟩, ih others⟩

def analysisText (rootCause : String) : List Char := (Py.stripped rootCause.toList).take 2000

def reportLine (reportId : String) : List Char := label "Bugalizer-Report" ++ ' ' :: reportId.toList

def proposalLine (proposalId : String) : List Char := label "Bugalizer-Proposal" ++ ' ' :: proposalId.toList

theorem closing : ")\n\n".toList = [')', '\n', '\n'] := by
  decide

theorem report_words : "\n\nBugalizer-Report: ".toList = '\n' :: '\n' :: (label "Bugalizer-Report" ++ [' ']) := by
  decide

theorem proposal_words : "\nBugalizer-Proposal: ".toList = '\n' :: (label "Bugalizer-Proposal" ++ [' ']) := by
  decide

theorem message_lines (title rootCause : String) (reportId proposalId : DrawnId) :
    ∃ subject, "fix: ".toList <+: subject ∧
      split '\n' (commitMessage title reportId rootCause proposalId).toList =
        subject :: [] :: (split '\n' (analysisText rootCause) ++
          [[], reportLine reportId, proposalLine proposalId, []]) := by
  let subject := "fix: ".toList ++ ((Ingest.collapsed title.toList).take 200 ++ (" (bugalizer ".toList ++
    (reportId.1.toList ++ [')'])))
  have report_line : '\n' ∉ reportLine reportId := by
    rw [reportLine, List.mem_append, List.mem_cons, not_or, not_or]
    exact ⟨by decide, by decide, solid_line reportId.2.2⟩
  have proposal_line : '\n' ∉ proposalLine proposalId := by
    rw [proposalLine, List.mem_append, List.mem_cons, not_or, not_or]
    exact ⟨by decide, by decide, solid_line proposalId.2.2⟩
  have subject_line : '\n' ∉ subject := by
    have titled : '\n' ∉ (Ingest.collapsed title.toList).take 200 := fun member =>
      collapsed_line _ (List.mem_of_mem_take member)
    simp only [subject, List.mem_append, not_or]
    exact ⟨by decide, titled, by decide, solid_line reportId.2.2, by decide⟩
  have shape : (commitMessage title reportId rootCause proposalId).toList =
      subject ++ '\n' :: ([] ++ '\n' :: (analysisText rootCause ++ '\n' :: ([] ++ '\n' ::
        (reportLine reportId ++ '\n' :: (proposalLine proposalId ++ '\n' :: []))))) := by
    unfold commitMessage
    rw [String.toList_ofList]
    simp only [closing, report_words, proposal_words, subject, analysisText, reportLine, proposalLine,
      List.append_assoc, List.cons_append, List.nil_append]
  refine ⟨subject, List.prefix_append _ _, ?_⟩
  rw [shape, split_append subject_line, split_append List.not_mem_nil, split_between,
    split_append List.not_mem_nil, split_append report_line, split_append proposal_line]
  rfl

theorem other_label {word front : List Char} (size : Nat) (long : size ≤ word.length)
    (longer : size ≤ front.length) (apart : word.take size ≠ front.take size) (rest : List Char)
    (below : List (List Char)) : readLine word (front ++ rest) below = none := by
  rw [readLine, lineValue, if_neg]
  · rfl
  · rintro ⟨after, same⟩
    have begins := congrArg (List.take size) same
    rw [List.take_append_of_le_length long, List.take_append_of_le_length longer] at begins
    exact apart begins

theorem drawn_filled {id : String} (solid : id ≠ "" ∧ id.toList.all nonSpace = true) : id.toList ≠ [] := by
  intro empty
  exact solid.1 (String.toList_eq_nil_iff.mp empty)

theorem solid_last {text : List Char} (solid : text.all nonSpace = true) :
    ∀ letter ∈ text.getLast?, Py.isSpace letter = false := by
  intro letter last
  exact Bool.not_eq_true' _ ▸ List.all_eq_true.mp solid letter (List.mem_of_getLast? last)

theorem own_label (word : List Char) {id : String} (solid : id ≠ "" ∧ id.toList.all nonSpace = true)
    (below : List (List Char)) : readLine word (word ++ ' ' :: id.toList) below = some id.toList := by
  have core : Py.stripped (' ' :: id.toList) = id.toList := by
    obtain ⟨first, rest, shape⟩ := List.exists_cons_of_ne_nil (drawn_filled solid)
    have black := solid.2
    rw [shape] at black ⊢
    have front : (' ' :: first :: rest).dropWhile Py.isSpace = first :: rest := by
      rw [List.dropWhile_cons_of_pos (by decide)]
      exact List.dropWhile_cons_of_neg (by rw [solid_head black]; decide)
    rw [Py.stripped, front]
    exact right_stripped_solid (solid_last black)
  rw [readLine, line_value_append, Option.bind_some, soleWord, core, if_neg (drawn_filled solid), if_pos solid.2]

theorem trailer_line_spaced {word : List Char} {first : Char} (head : word.head? = some first)
    (black : Py.isSpace first = false) {id : String} (solid : id ≠ "" ∧ id.toList.all nonSpace = true)
    (below : List (List Char)) : soleWord ((word ++ ' ' :: id.toList) :: below) = none := by
  have filled : (' ' :: id.toList) ≠ [] := List.cons_ne_nil _ _
  obtain ⟨last, closing⟩ := Option.ne_none_iff_exists'.mp fun empty =>
    drawn_filled solid (List.getLast?_eq_none_iff.mp empty)
  have opening : (word ++ ' ' :: id.toList).head? = some first := by
    rw [List.head?_append, head]
    rfl
  have ending : (word ++ ' ' :: id.toList).getLast? = some last := by
    rw [List.getLast?_append_of_ne_nil _ filled, ← List.singleton_append,
      List.getLast?_append_of_ne_nil _ (drawn_filled solid), closing]
  have whole := stripped_fixed opening ending black (solid_last solid.2 last closing)
  rw [soleWord, whole, if_neg (by simp), if_neg]
  rw [List.all_append, List.all_cons]
  have space : nonSpace ' ' = false := by decide
  rw [space, Bool.false_and, Bool.and_false]
  decide

theorem message_trailers (title rootCause : String) (reportId proposalId : DrawnId) :
    trailer (commitMessage title reportId rootCause proposalId) "Bugalizer-Report" =
        ((readLines (label "Bugalizer-Report") (split '\n' (analysisText rootCause))).or
          (some reportId.1.toList)).map String.ofList ∧
      trailer (commitMessage title reportId rootCause proposalId) "Bugalizer-Proposal" =
        ((readLines (label "Bugalizer-Proposal") (split '\n' (analysisText rootCause))).or
          (some proposalId.1.toList)).map String.ofList := by
  obtain ⟨subject, ⟨after, rfl⟩, lines⟩ := message_lines title rootCause reportId proposalId
  have report_head : (label "Bugalizer-Report").head? = some 'B' := by decide
  have spaced : soleWord [[], reportLine reportId, proposalLine proposalId, []] = none :=
    trailer_line_spaced report_head (by decide) reportId.2 _
  have blank : ∀ key below, readLine (label key) [] below = none := by
    intro key below
    rw [readLine, lineValue, if_neg (by simp [label])]
    rfl
  rw [trailer_lines (by decide), trailer_lines (by decide), lines]
  simp only [readLines, read_lines_append spaced, blank, Option.none_or]
  constructor
  · rw [other_label 1 (by decide) (by decide) (by decide), reportLine,
      own_label _ reportId.2, Option.none_or, Option.some_or]
  · rw [other_label 1 (by decide) (by decide) (by decide), reportLine,
      other_label 11 (by decide) (by decide) (by decide), proposalLine,
      own_label _ proposalId.2, Option.none_or, Option.none_or, Option.some_or]

/-- The trailers are read back, and the proposal found by them. -/
structure TrailersHold (title rootCause : String) (reportId proposalId : DrawnId) : Prop where
  read : ∀ seen, Kept (commitMessage title reportId rootCause proposalId) seen →
    trailer seen "Bugalizer-Report" = some reportId.1 ∧ trailer seen "Bugalizer-Proposal" = some proposalId.1
  attributed : ∀ seen, Kept (commitMessage title reportId rootCause proposalId) seen →
    ∀ (answers : (op : Op) → Except Exn op.Ans),
      (∀ message key, answers (.observe (.trailer message key)) = .ok (trailer message key)) →
        ∀ ids, proposalId.1 ∈ ids → ∀ (sha : Option String) (others : List PrCommit),
          (trailerOwner reportId ids ({ sha, message := seen } :: others)).eval answers = .ok (some proposalId.1)

/-- The first line of the analysis that reads as the trailer, with its word there or on the next line
that is not blank, gives another id. -/
def Misread (rootCause key id : String) : Prop :=
  ∃ above line below found, split '\n' (analysisText rootCause) = above ++ line :: below ∧
    readLine (label key) line below = some found ∧ found ≠ id.toList ∧
      ∀ before other after, above = before ++ other :: after →
        readLine (label key) other (after ++ line :: below) = none

theorem read_lines_iff {word found : List Char} {lines : List (List Char)} :
    readLines word lines = some found ↔
      ∃ above line below, lines = above ++ line :: below ∧ readLine word line below = some found ∧
        ∀ before other after, above = before ++ other :: after →
          readLine word other (after ++ line :: below) = none := by
  induction lines with
  | nil =>
      constructor
      · intro read
        cases read
      · rintro ⟨above, line, below, shape, -⟩
        cases above <;> cases shape
  | cons first lines ih =>
      rw [readLines, Option.or_eq_some_iff, ih]
      constructor
      · rintro (here | ⟨none_here, above, line, below, rfl, there, earlier⟩)
        · refine ⟨[], first, lines, rfl, here, ?_⟩
          intro before other after shape
          cases before <;> cases shape
        · refine ⟨first :: above, line, below, rfl, there, ?_⟩
          intro before other after shape
          cases before with
          | nil =>
              obtain ⟨rfl, rfl⟩ := List.cons.inj shape
              exact none_here
          | cons _ before => exact earlier before other after (List.cons.inj shape).2
      · rintro ⟨above, line, below, shape, there, earlier⟩
        cases above with
        | nil =>
            obtain ⟨rfl, rfl⟩ := List.cons.inj shape
            exact .inl there
        | cons head above =>
            obtain ⟨rfl, rfl⟩ := List.cons.inj shape
            refine .inr ⟨earlier [] first above rfl, above, line, below, rfl, there, ?_⟩
            intro before other after same
            exact earlier (first :: before) other after (congrArg _ same)

theorem read_back_iff (rootCause key : String) (id : String) :
    ((readLines (label key) (split '\n' (analysisText rootCause))).or (some id.toList)).map String.ofList =
      some id ↔ ¬ Misread rootCause key id := by
  have found_iff := @read_lines_iff (label key)
  cases read : readLines (label key) (split '\n' (analysisText rootCause)) with
  | none =>
      have clear : ¬ Misread rootCause key id := by
        rintro ⟨above, line, below, found, shape, there, -, earlier⟩
        have named := found_iff.mpr ⟨above, line, below, shape, there, earlier⟩
        rw [read] at named
        cases named
      simp [clear]
  | some found =>
      obtain ⟨above, line, below, shape, there, earlier⟩ := found_iff.mp read
      rw [Option.some_or, Option.map_some, Option.some_inj]
      constructor
      · rintro rfl ⟨above', line', below', found', shape', there', apart, earlier'⟩
        have named := found_iff.mpr ⟨above', line', below', shape', there', earlier'⟩
        rw [read] at named
        apply apart
        rw [← Option.some.inj named, String.toList_ofList]
      · intro clear
        by_contra apart
        apply clear
        refine ⟨above, line, below, found, shape, there, ?_, earlier⟩
        rintro rfl
        exact apart String.ofList_toList

/-- Both trailers are read back, for whatever git makes of the blanks, exactly when no line of the
analysis is read first as a trailer with another id. -/
theorem trailers_hold_iff (title rootCause : String) (reportId proposalId : DrawnId) :
    TrailersHold title rootCause reportId proposalId ↔
      ¬ Misread rootCause "Bugalizer-Report" reportId ∧ ¬ Misread rootCause "Bugalizer-Proposal" proposalId := by
  obtain ⟨report_read, proposal_read⟩ := message_trailers title rootCause reportId proposalId
  rw [← read_back_iff, ← read_back_iff, ← report_read, ← proposal_read]
  constructor
  · intro hold
    exact hold.read _ rfl
  · intro written
    have read : ∀ seen, Kept (commitMessage title reportId rootCause proposalId) seen →
        trailer seen "Bugalizer-Report" = some reportId.1 ∧
          trailer seen "Bugalizer-Proposal" = some proposalId.1 := by
      intro seen kept
      rw [trailer_kept (by decide +kernel) kept, trailer_kept (by decide +kernel) kept]
      exact written
    refine ⟨read, ?_⟩
    intro seen kept answers observed ids member sha others
    obtain ⟨report_named, proposal_named⟩ := read seen kept
    have asked : ∀ key, (ask (.observe (.trailer seen key))).eval answers = .ok (trailer seen key) := fun key =>
      (eval_perform _).trans (observed seen key)
    simp only [trailerOwner, bind_eq, eval_bind, asked, Except.bind, report_named, proposal_named]
    simp [member]

/-- The analysis quotes a commit of another proposal; the reader takes that one. -/
theorem quoted_trailer_wins :
    trailer (commitMessage "title" "r" "As in the last fix:\nBugalizer-Proposal: q2" "q1") "Bugalizer-Proposal" =
      some "q2" := by
  decide +kernel

end Bugalizer.GitOps
