import Bugalizer.Pipeline.Freshness
import Bugalizer.Time.Isoformat

/-!
# Timestamps in the order they are drawn

`_now` nudges a reading that is not past the one before it. Its texts, compared as texts,
are in the order of its calls, and so is every row that carries one.
-/

namespace Bugalizer

set_option autoImplicit false

open Time

/-- The moment `_now` stamps at a reading of the clock, with `_last_now_dt`; `none` is an
`OverflowError`. -/
def nudged (reading : DateTime) (last : Option DateTime) : Option DateTime :=
  match last with
  | none => some reading
  | some before => if reading.packed ≤ before.packed then before.tick else some reading

/-- `_now`, and the `_last_now_dt` it leaves. -/
def now (reading : DateTime) (last : Option DateTime) : Option String × Option DateTime :=
  match nudged reading last with
  | some moment => (some moment.isoformat, some moment)
  | none => (none, last)

/-- What the calls of a process return, one reading after the other. -/
def nowTexts : List DateTime → Option DateTime → List String
  | [], _ => []
  | reading :: readings, last =>
      (now reading last).1.toList ++ nowTexts readings (now reading last).2

namespace Dated

/-- `ORDER BY created_at ASC`. -/
def oldestFirst {Row : Type} (createdAt : Row → String) (rows : List Row) : List Row :=
  rows.insertionSort fun first second => createdAt first ≤ createdAt second

/-- `ORDER BY created_at DESC`. -/
def newestFirst {Row : Type} (createdAt : Row → String) (rows : List Row) : List Row :=
  rows.insertionSort fun first second => createdAt second ≤ createdAt first

/-- What the retry gate reads of an analysis. -/
structure Attempt where
  status : AnalysisStatus
  createdAt : String

def latestCompletedCreatedAt (rows : List Attempt) : Option String :=
  (rows.find? fun row => row.status == .completed).map Attempt.createdAt

def failedAttemptsAfter (rows : List Attempt) (reference : Option String) : List Attempt :=
  rows.filter fun row => row.status == .failed &&
    reference.all fun start => row.createdAt != "" && decide (start < row.createdAt)

end Dated

theorem nudged_instant {reading moment : DateTime} {last : Option DateTime}
    (stamped : nudged reading last = some moment) :
    moment.instant =
      match last with
      | none => reading.instant
      | some before => max reading.instant (before.instant + 1) := by
  unfold nudged at stamped
  cases last with
  | none =>
      cases stamped
      rfl
  | some before =>
      dsimp only at stamped ⊢
      have order := Fields.packed_lt_iff before.sound reading.sound
      split at stamped
      · rename_i behind
        rw [DateTime.tick_instant stamped]
        have late := order.not.mp (not_lt.mpr behind)
        omega
      · rename_i ahead
        cases stamped
        have early := order.mp (not_le.mp ahead)
        omega

theorem nudged_is_world_now {reading moment : DateTime} {last : Option DateTime} {world : World}
    (kept : world.memory.lastNow = last.map fun before => before.instant)
    (stamped : nudged reading last = some moment) : moment.instant = world.now reading.instant := by
  rw [nudged_instant stamped, World.now, kept]
  cases last with
  | none => rfl
  | some before => rfl

theorem nudged_past {reading moment before : DateTime}
    (stamped : nudged reading (some before) = some moment) : before.instant < moment.instant := by
  have moved := nudged_instant stamped
  dsimp only at moved
  omega

def stamps : List DateTime → Option DateTime → List DateTime
  | [], _ => []
  | reading :: readings, last =>
      match nudged reading last with
      | some moment => moment :: stamps readings (some moment)
      | none => stamps readings last

theorem now_texts_eq (readings : List DateTime) (last : Option DateTime) :
    nowTexts readings last = (stamps readings last).map fun moment => moment.isoformat := by
  induction readings generalizing last with
  | nil => rfl
  | cons reading readings ih =>
      rw [nowTexts, stamps, now]
      cases nudged reading last with
      | none => exact ih last
      | some moment => exact congrArg (moment.isoformat :: ·) (ih (some moment))

theorem stamps_past (readings : List DateTime) (before : DateTime) :
    ∀ moment ∈ stamps readings (some before), before.instant < moment.instant := by
  induction readings generalizing before with
  | nil =>
      intro moment drawn
      cases drawn
  | cons reading readings ih =>
      intro moment drawn
      rw [stamps] at drawn
      cases stamped : nudged reading (some before) with
      | none =>
          rw [stamped] at drawn
          exact ih before moment drawn
      | some next =>
          rw [stamped] at drawn
          have ahead := nudged_past stamped
          obtain rfl | later := List.mem_cons.mp drawn
          · exact ahead
          · exact ahead.trans (ih next moment later)

theorem stamps_increase (readings : List DateTime) (last : Option DateTime) :
    (stamps readings last).Pairwise fun first second => first.instant < second.instant := by
  induction readings generalizing last with
  | nil => exact .nil
  | cons reading readings ih =>
      rw [stamps]
      cases nudged reading last with
      | none => exact ih last
      | some moment => exact .cons (stamps_past readings moment) (ih (some moment))

theorem now_texts_increase (readings : List DateTime) (last : Option DateTime) :
    (nowTexts readings last).Pairwise (· < ·) := by
  rw [now_texts_eq, List.pairwise_map]
  apply (stamps_increase readings last).imp
  intro first second ahead
  exact (DateTime.isoformat_lt_iff first second).mpr ahead

/-- The texts of two calls compare as the calls follow each other. -/
theorem increasing_getElem {texts : List String} (increase : texts.Pairwise (· < ·))
    {first second : Nat} (early : first < texts.length) (late : second < texts.length) :
    texts[first] < texts[second] ↔ first < second := by
  have sorted := List.pairwise_iff_getElem.mp increase
  constructor
  · intro less
    by_contra above
    obtain same | below := Nat.eq_or_lt_of_le (Nat.le_of_not_lt above)
    · subst same
      exact lt_irrefl _ less
    · exact lt_asymm less (sorted second first late early below)
  · exact sorted first second early late

namespace Dated

section

variable {Row : Type} {createdAt : Row → String} {kept scanned : List Row}

/-- Rows whose texts differ have one order in which a total comparison of the texts holds. -/
theorem ordered_once (before : String → String → Prop) {first second : List Row} (same : first.Perm second)
    (apart : (second.map createdAt).Nodup)
    (antisymm : ∀ one other, before one other → before other one → one = other)
    (ordered : first.Pairwise fun row later => before (createdAt row) (createdAt later))
    (ordered' : second.Pairwise fun row later => before (createdAt row) (createdAt later)) :
    first = second := by
  apply List.Perm.eq_of_pairwise _ ordered ordered' same
  intro one other listed listed' back forth
  apply List.inj_on_of_nodup_map apart
  · exact same.mem_iff.mp listed
  · exact listed'
  · exact antisymm _ _ back forth

theorem increase_nodup (increase : (kept.map createdAt).Pairwise (· < ·)) : (kept.map createdAt).Nodup := by
  apply increase.imp
  intro first second ahead
  exact ahead.ne

theorem oldest_first_scanned (increase : (kept.map createdAt).Pairwise (· < ·)) (same : scanned.Perm kept) :
    oldestFirst createdAt scanned = kept := by
  have total : Std.Total fun first second : Row => createdAt first ≤ createdAt second :=
    ⟨fun first second => le_total _ _⟩
  have trans : IsTrans Row fun first second => createdAt first ≤ createdAt second :=
    ⟨fun first second third early late => early.trans late⟩
  have sorted : kept.Pairwise fun first second => createdAt first ≤ createdAt second := by
    apply (List.pairwise_map.mp increase).imp
    intro first second ahead
    exact ahead.le
  apply ordered_once (· ≤ ·) ((List.perm_insertionSort _ scanned).trans same) (increase_nodup increase) _
    (List.pairwise_insertionSort _ scanned) sorted
  intro one other back forth
  exact le_antisymm back forth

theorem newest_first_scanned (increase : (kept.map createdAt).Pairwise (· < ·)) (same : scanned.Perm kept) :
    newestFirst createdAt scanned = kept.reverse := by
  have total : Std.Total fun first second : Row => createdAt second ≤ createdAt first :=
    ⟨fun first second => le_total _ _⟩
  have trans : IsTrans Row fun first second => createdAt second ≤ createdAt first :=
    ⟨fun first second third late early => early.trans late⟩
  have reversed : kept.reverse.Pairwise fun first second => createdAt second ≤ createdAt first := by
    rw [List.pairwise_reverse]
    apply (List.pairwise_map.mp increase).imp
    intro first second ahead
    exact ahead.le
  have apart : (kept.reverse.map createdAt).Nodup := by
    rw [List.map_reverse, List.nodup_reverse]
    exact increase_nodup increase
  have listed : (newestFirst createdAt scanned).Perm kept.reverse :=
    ((List.perm_insertionSort _ scanned).trans same).trans kept.reverse_perm.symm
  apply ordered_once (fun one other => other ≤ one) listed apart _
    (List.pairwise_insertionSort _ scanned) reversed
  intro one other back forth
  exact le_antisymm forth back

end

/-- The failures the retry gate counts are those behind the last completed row. -/
theorem failed_attempts_newest {newest : List Attempt}
    (decrease : newest.Pairwise fun first second => second.createdAt < first.createdAt)
    (filled : ∀ row ∈ newest, row.createdAt ≠ "") :
    failedAttemptsAfter newest (latestCompletedCreatedAt newest) =
      (newest.takeWhile fun row => row.status != .completed).filter fun row =>
        row.status == .failed := by
  unfold failedAttemptsAfter latestCompletedCreatedAt
  cases found : newest.find? fun row => row.status == .completed with
  | none =>
      have unfinished : ∀ row ∈ newest, (row.status != .completed) = true := by
        intro row listed
        simpa using List.find?_eq_none.mp found row listed
      rw [List.takeWhile_eq_self_iff.mpr unfinished]
      simp
  | some last =>
      obtain ⟨completed, behind, earlier, rfl, unfinished⟩ := List.find?_eq_some_iff_append.mp found
      have closed : (last.status != .completed) = false := by simpa using completed
      have kept : ((behind ++ last :: earlier).takeWhile fun row => row.status != .completed) = behind := by
        rw [List.takeWhile_append_of_pos, List.takeWhile_cons_of_neg, List.append_nil]
        · simp [closed]
        · intro row listed
          simpa using unfinished row listed
      obtain ⟨-, older, newer⟩ := List.pairwise_append.mp decrease
      have after : ∀ row ∈ behind, last.createdAt < row.createdAt := by
        intro row listed
        exact newer row listed last List.mem_cons_self
      have before : ∀ row ∈ earlier, ¬last.createdAt < row.createdAt := by
        intro row listed
        exact lt_asymm ((List.pairwise_cons.mp older).1 row listed)
      have none : (last :: earlier).filter (fun row => row.status == .failed &&
          (some last.createdAt).all fun start =>
            row.createdAt != "" && decide (start < row.createdAt)) = [] := by
        rw [List.filter_eq_nil_iff]
        intro row listed
        obtain rfl | listed := List.mem_cons.mp listed
        · simp [-String.lt_iff_ltb]
        · simp [-String.lt_iff_ltb, before row listed]
      rw [kept, Option.map_some, List.filter_append, none, List.append_nil]
      apply List.filter_congr
      intro row listed
      simp [-String.lt_iff_ltb, after row listed, filled row (List.mem_append_left _ listed)]

theorem failed_attempts_scanned {kept scanned : List Attempt}
    (increase : (kept.map Attempt.createdAt).Pairwise (· < ·))
    (filled : ∀ row ∈ kept, row.createdAt ≠ "") (same : scanned.Perm kept) :
    failedAttemptsAfter (newestFirst Attempt.createdAt scanned)
        (latestCompletedCreatedAt (newestFirst Attempt.createdAt scanned)) =
      (kept.reverse.takeWhile fun row => row.status != .completed).filter fun row =>
        row.status == .failed := by
  rw [newest_first_scanned increase same]
  apply failed_attempts_newest
  · rw [List.pairwise_reverse]
    exact List.pairwise_map.mp increase
  · intro row listed
    exact filled row (List.mem_reverse.mp listed)

end Dated

theorem now_texts_filled {readings : List DateTime} {last : Option DateTime} {text : String}
    (returned : text ∈ nowTexts readings last) : text ≠ "" := by
  rw [now_texts_eq] at returned
  obtain ⟨moment, -, rfl⟩ := List.mem_map.mp returned
  intro empty
  have letters : moment.isoformat.toList = [] := by rw [empty]; rfl
  simp [Fields.isoformat] at letters

/-- `_last_now_dt` after some calls. -/
def lastAfter (readings : List DateTime) (last : Option DateTime) : Option DateTime :=
  readings.foldl (fun last reading => (now reading last).2) last

theorem now_texts_append (readings : List DateTime) (reading : DateTime) (last : Option DateTime) :
    nowTexts (readings ++ [reading]) last =
      nowTexts readings last ++ (now reading (lastAfter readings last)).1.toList := by
  induction readings generalizing last with
  | nil =>
      rw [List.nil_append, nowTexts, nowTexts, nowTexts, List.append_nil]
      rfl
  | cons first readings ih =>
      rw [List.cons_append, nowTexts, nowTexts, ih, List.append_assoc]
      rfl

theorem now_texts_past {readings : List DateTime} {reading : DateTime} {last : Option DateTime} {text : String}
    (drawn : (now reading (lastAfter readings last)).1 = some text) :
    ∀ before ∈ nowTexts readings last, before < text := by
  have increase := now_texts_increase (readings ++ [reading]) last
  rw [now_texts_append, drawn, List.pairwise_append] at increase
  intro before returned
  exact increase.2.2 before returned text List.mem_cons_self

namespace Dated

variable {Row : Type}

/-- A thread calls `_now()` for its row, or commits the `INSERT` of the row it called for. -/
inductive Act (Row : Type) where
  | draw (thread : Nat) (reading : DateTime)
  | insert (thread : Nat) (row : Row)

def Act.reading : Act Row → Option DateTime
  | .draw _ reading => some reading
  | .insert _ _ => none

def Act.isInsert : Act Row → Bool
  | .draw _ _ => false
  | .insert _ _ => true

/-- The threads of a process and a table, oldest insert first. -/
structure Layer (Row : Type) where
  last : Option DateTime
  held : Nat → Option String
  rows : List (Row × String)

namespace Layer

def begun (last : Option DateTime) : Layer Row := ⟨last, fun _ => none, []⟩

def step (layer : Layer Row) : Act Row → Layer Row
  | .draw thread reading =>
      { layer with last := (now reading layer.last).2
                   held := Function.update layer.held thread (now reading layer.last).1 }
  | .insert thread row =>
      match layer.held thread with
      | none => layer
      | some text =>
          { layer with held := Function.update layer.held thread none, rows := layer.rows ++ [(row, text)] }

def run (acts : List (Act Row)) (last : Option DateTime) : Layer Row := acts.foldl step (begun last)

end Layer

def readings (acts : List (Act Row)) : List DateTime := acts.filterMap Act.reading

/-- Between the call of a thread and its `INSERT` no other row is inserted. -/
def OneAfterOther (acts : List (Act Row)) : Prop :=
  ∀ (before middle after : List (Act Row)) (thread : Nat) (reading : DateTime) (row : Row),
    acts = before ++ .draw thread reading :: (middle ++ .insert thread row :: after) →
      (∀ again, .draw thread again ∉ middle) → ∀ act ∈ middle, act.isInsert = false

structure Stamped (drawn : List String) (layer : Layer Row) : Prop where
  inserted : ∀ row ∈ layer.rows, row.2 ∈ drawn
  apart : (layer.rows.map Prod.snd).Nodup
  held : ∀ thread text, layer.held thread = some text → text ∈ drawn ∧ text ∉ layer.rows.map Prod.snd
  own : ∀ thread other text, layer.held thread = some text → layer.held other = some text → thread = other

theorem run_append (acts : List (Act Row)) (act : Act Row) (last : Option DateTime) :
    Layer.run (acts ++ [act]) last = (Layer.run acts last).step act := by
  rw [Layer.run, List.foldl_append]
  rfl

theorem run_last (acts : List (Act Row)) (last : Option DateTime) :
    (Layer.run acts last).last = lastAfter (readings acts) last := by
  induction acts using List.reverseRecOn with
  | nil => rfl
  | append_singleton acts act ih =>
      rw [run_append, readings, List.filterMap_append, lastAfter, List.foldl_append]
      change _ = (List.filterMap Act.reading [act]).foldl (fun last reading => (now reading last).2)
        (lastAfter (readings acts) last)
      rw [← ih]
      cases act with
      | draw thread reading => rfl
      | insert thread row =>
          unfold Layer.step
          dsimp only
          cases (Layer.run acts last).held thread with
          | none => rfl
          | some text => rfl

theorem stamped_draw {drawn : List String} {layer : Layer Row} (stamped : Stamped drawn layer) (thread : Nat)
    (reading : DateTime) (past : ∀ text, (now reading layer.last).1 = some text → ∀ before ∈ drawn, before < text) :
    Stamped (drawn ++ (now reading layer.last).1.toList) (layer.step (.draw thread reading)) := by
  have fresh : ∀ text, (now reading layer.last).1 = some text → text ∉ drawn := by
    intro text returned member
    exact lt_irrefl text (past text returned text member)
  constructor
  · intro row member
    exact List.mem_append_left _ (stamped.inserted row member)
  · exact stamped.apart
  · intro holder text holds
    by_cases here : holder = thread
    · subst here
      have returned : (now reading layer.last).1 = some text := by
        simpa only [Layer.step, Function.update_self] using holds
      constructor
      · rw [returned]
        exact List.mem_append_right _ List.mem_cons_self
      · intro member
        obtain ⟨row, listed, rfl⟩ := List.mem_map.mp member
        exact fresh row.2 returned (stamped.inserted row listed)
    · have kept : layer.held holder = some text := by
        simpa only [Layer.step, Function.update_of_ne here] using holds
      exact ⟨List.mem_append_left _ (stamped.held holder text kept).1, (stamped.held holder text kept).2⟩
  · intro one other text holds holds'
    simp only [Layer.step] at holds holds'
    by_cases here : one = thread
    · by_cases there : other = thread
      · exact here.trans there.symm
      · rw [here, Function.update_self] at holds
        rw [Function.update_of_ne there] at holds'
        exact absurd (stamped.held other text holds').1 (fresh text holds)
    · rw [Function.update_of_ne here] at holds
      by_cases there : other = thread
      · rw [there, Function.update_self] at holds'
        exact absurd (stamped.held one text holds).1 (fresh text holds')
      · rw [Function.update_of_ne there] at holds'
        exact stamped.own one other text holds holds'

theorem stamped_insert {drawn : List String} {layer : Layer Row} (stamped : Stamped drawn layer) (thread : Nat)
    (row : Row) : Stamped drawn (layer.step (.insert thread row)) := by
  unfold Layer.step
  cases holds : layer.held thread with
  | none =>
      dsimp only
      rw [holds]
      exact stamped
  | some text =>
      dsimp only
      rw [holds]
      obtain ⟨returned, absent⟩ := stamped.held thread text holds
      constructor
      · intro inserted member
        obtain earlier | last := List.mem_append.mp member
        · exact stamped.inserted inserted earlier
        · rw [List.mem_singleton.mp last]
          exact returned
      · rw [List.map_append, List.nodup_append_comm]
        exact List.nodup_cons.mpr ⟨absent, stamped.apart⟩
      · intro holder other keeps
        dsimp only at keeps
        by_cases here : holder = thread
        · rw [here, Function.update_self] at keeps
          cases keeps
        · rw [Function.update_of_ne here] at keeps
          refine ⟨(stamped.held holder other keeps).1, ?_⟩
          rw [List.map_append, List.mem_append]
          intro member
          obtain earlier | last := member
          · exact (stamped.held holder other keeps).2 earlier
          · have same : other = text := List.mem_singleton.mp last
            rw [same] at keeps
            exact here (stamped.own holder thread text keeps holds)
      · intro one other stamp keeps keeps'
        dsimp only at keeps keeps'
        by_cases here : one = thread
        · rw [here, Function.update_self] at keeps
          cases keeps
        · by_cases there : other = thread
          · rw [there, Function.update_self] at keeps'
            cases keeps'
          · rw [Function.update_of_ne here] at keeps
            rw [Function.update_of_ne there] at keeps'
            exact stamped.own one other stamp keeps keeps'

theorem run_stamped (acts : List (Act Row)) (last : Option DateTime) :
    Stamped (nowTexts (readings acts) last) (Layer.run acts last) := by
  induction acts using List.reverseRecOn with
  | nil => exact ⟨nofun, .nil, nofun, nofun⟩
  | append_singleton acts act ih =>
      rw [run_append]
      cases act with
      | draw thread reading =>
          have listed : readings (acts ++ [(.draw thread reading : Act Row)]) = readings acts ++ [reading] := by
            rw [readings, List.filterMap_append]
            rfl
          rw [listed, now_texts_append, ← run_last]
          apply stamped_draw ih
          rw [run_last]
          intro text returned
          exact now_texts_past returned
      | insert thread row =>
          have listed : readings (acts ++ [Act.insert thread row]) = readings acts := by
            rw [readings, List.filterMap_append]
            exact List.append_nil _
          rw [listed]
          exact stamped_insert ih thread row

/-- Whatever the threads do, rows ordered by their texts are in the order the texts were drawn. -/
theorem ordered_as_drawn (acts : List (Act Row)) (last : Option DateTime) {scanned : List (Row × String)}
    (listed : scanned.Subperm (Layer.run acts last).rows) :
    ((oldestFirst Prod.snd scanned).map Prod.snd).Sublist (nowTexts (readings acts) last) := by
  have stamped := run_stamped acts last
  have increase := now_texts_increase (readings acts) last
  have total : Std.Total fun first second : Row × String => first.2 ≤ second.2 :=
    ⟨fun first second => le_total _ _⟩
  have trans : IsTrans (Row × String) fun first second => first.2 ≤ second.2 :=
    ⟨fun first second third early late => early.trans late⟩
  have same : (oldestFirst Prod.snd scanned).Perm scanned := List.perm_insertionSort _ scanned
  obtain ⟨part, reordered, inside⟩ := listed
  have apart : ((oldestFirst Prod.snd scanned).map Prod.snd).Nodup := by
    have apart' := (inside.map Prod.snd).nodup stamped.apart
    exact ((same.trans reordered.symm).map Prod.snd).nodup_iff.mpr apart'
  have drawn : (oldestFirst Prod.snd scanned).map Prod.snd ⊆ nowTexts (readings acts) last := by
    intro text member
    obtain ⟨row, returned, rfl⟩ := List.mem_map.mp member
    exact stamped.inserted row (inside.subset (reordered.symm.subset (same.subset returned)))
  have sorted : ((oldestFirst Prod.snd scanned).map Prod.snd).Pairwise (· ≤ ·) :=
    List.pairwise_map.mpr (List.pairwise_insertionSort _ scanned)
  apply List.sublist_of_subperm_of_pairwise (List.subperm_of_subset apart drawn) sorted
  apply increase.imp
  intro first second ahead
  exact ahead.le

/-- What a thread holds was drawn after every insert, or a row was inserted since. -/
def Recent (acts : List (Act Row)) (layer : Layer Row) : Prop :=
  ∀ thread text, layer.held thread = some text → ∃ before reading middle,
    acts = before ++ .draw thread reading :: middle ∧ (∀ again, .draw thread again ∉ middle) ∧
      ((∀ act ∈ middle, act.isInsert = false) → ∀ row ∈ layer.rows, row.2 < text)

theorem recent_run (acts : List (Act Row)) (last : Option DateTime) : Recent acts (Layer.run acts last) := by
  induction acts using List.reverseRecOn with
  | nil =>
      intro thread text holds
      cases holds
  | append_singleton acts act ih =>
      rw [run_append]
      intro holder text holds
      cases act with
      | draw thread reading =>
          by_cases here : holder = thread
          · subst here
            refine ⟨acts, reading, [], rfl, by simp, ?_⟩
            intro _ row member
            have returned : (now reading (lastAfter (readings acts) last)).1 = some text := by
              rw [← run_last]
              simpa only [Layer.step, Function.update_self] using holds
            exact now_texts_past returned row.2 ((run_stamped acts last).inserted row member)
          · simp only [Layer.step, Function.update_of_ne here] at holds
            obtain ⟨before, first, middle, rfl, only, past⟩ := ih holder text holds
            refine ⟨before, first, middle ++ [.draw thread reading], by simp, ?_, ?_⟩
            · intro again member
              obtain earlier | last := List.mem_append.mp member
              · exact only again earlier
              · cases List.mem_singleton.mp last
                exact here rfl
            · intro quiet
              apply past
              intro act member
              exact quiet act (List.mem_append_left _ member)
      | insert thread row =>
          have kept : (Layer.run acts last).held holder = some text := by
            cases other : (Layer.run acts last).held thread with
            | none => simpa only [Layer.step, other] using holds
            | some stamp =>
                simp only [Layer.step, other] at holds
                by_cases here : holder = thread
                · rw [here, Function.update_self] at holds
                  cases holds
                · rwa [Function.update_of_ne here] at holds
          obtain ⟨before, first, middle, rfl, only, -⟩ := ih holder text kept
          refine ⟨before, first, middle ++ [.insert thread row], by simp, ?_, ?_⟩
          · intro again member
            obtain earlier | last := List.mem_append.mp member
            · exact only again earlier
            · cases List.mem_singleton.mp last
          · intro quiet
            cases quiet (.insert thread row) (List.mem_append_right _ List.mem_cons_self)

theorem one_after_other_front {acts : List (Act Row)} {act : Act Row} (follow : OneAfterOther (acts ++ [act])) :
    OneAfterOther acts := by
  intro before middle after thread reading row parts
  apply follow before middle (after ++ [act]) thread reading row
  rw [parts]
  simp

/-- Where the inserts follow one another, the table lists its texts in increasing order. -/
theorem inserted_increase {acts : List (Act Row)} (follow : OneAfterOther acts) (last : Option DateTime) :
    ((Layer.run acts last).rows.map Prod.snd).Pairwise (· < ·) := by
  induction acts using List.reverseRecOn with
  | nil => exact .nil
  | append_singleton acts act ih =>
      have increase := ih (one_after_other_front follow)
      rw [run_append]
      cases act with
      | draw thread reading => exact increase
      | insert thread row =>
          cases holds : (Layer.run acts last).held thread with
          | none => simpa only [Layer.step, holds] using increase
          | some text =>
              simp only [Layer.step, holds, List.map_append]
              obtain ⟨before, first, middle, rfl, only, past⟩ := recent_run acts last thread text holds
              have quiet := follow before middle [] thread first row (by simp) only
              rw [List.pairwise_append]
              refine ⟨increase, List.pairwise_singleton _ _, ?_⟩
              intro stamp member other here
              obtain ⟨inserted, listed, rfl⟩ := List.mem_map.mp member
              rw [List.mem_singleton.mp here]
              exact past quiet inserted listed

end Dated

/-- Whatever the clock reads: the texts of the calls strictly increase, and as texts they are in
the order of the moments they denote. Rows that carry them come back, from any scan, in the order in
which the texts were drawn, by `ORDER BY` and at the retry gate, and so in the order of their inserts
where these follow one another. -/
theorem now_texts_ordered (readings : List DateTime) (last : Option DateTime) :
    (nowTexts readings last).Pairwise (· < ·) ∧
      (∀ text ∈ nowTexts readings last, ∃ moment : DateTime, moment.isoformat = text) ∧
      (∀ one other : DateTime, one.isoformat ∈ nowTexts readings last →
        other.isoformat ∈ nowTexts readings last →
          (one.isoformat < other.isoformat ↔ one.instant < other.instant)) ∧
      (∀ (first second : Nat) (early : first < (nowTexts readings last).length)
        (late : second < (nowTexts readings last).length),
          (nowTexts readings last)[first] < (nowTexts readings last)[second] ↔ first < second) ∧
      (∀ (world : World) (reading moment : DateTime),
        world.memory.lastNow = last.map (fun before => before.instant) →
          nudged reading last = some moment →
            (now reading last).1 = some moment.isoformat ∧ moment.instant = world.now reading.instant) ∧
      (∀ (Row : Type) (createdAt : Row → String) (kept scanned : List Row),
        (kept.map createdAt).Sublist (nowTexts readings last) → scanned.Perm kept →
          Dated.oldestFirst createdAt scanned = kept ∧
            Dated.newestFirst createdAt scanned = kept.reverse) ∧
      (∀ kept scanned : List Dated.Attempt,
        (kept.map Dated.Attempt.createdAt).Sublist (nowTexts readings last) → scanned.Perm kept →
          let newest := Dated.newestFirst Dated.Attempt.createdAt scanned
          Dated.failedAttemptsAfter newest (Dated.latestCompletedCreatedAt newest) =
            (kept.reverse.takeWhile fun row => row.status != .completed).filter fun row =>
              row.status == .failed) ∧
      ∀ (Row : Type) (acts : List (Dated.Act Row)), Dated.readings acts = readings →
        (∀ scanned, scanned.Subperm (Dated.Layer.run acts last).rows →
          ((Dated.oldestFirst Prod.snd scanned).map Prod.snd).Sublist (nowTexts readings last)) ∧
        (Dated.OneAfterOther acts → ∀ kept scanned, kept.Sublist (Dated.Layer.run acts last).rows →
          scanned.Perm kept →
            Dated.oldestFirst Prod.snd scanned = kept ∧ Dated.newestFirst Prod.snd scanned = kept.reverse) := by
  have increase := now_texts_increase readings last
  constructor
  · exact increase
  constructor
  · intro text returned
    rw [now_texts_eq] at returned
    obtain ⟨moment, -, same⟩ := List.mem_map.mp returned
    exact ⟨moment, same⟩
  constructor
  · intro one other _ _
    exact DateTime.isoformat_lt_iff one other
  constructor
  · intro first second early late
    exact increasing_getElem increase early late
  constructor
  · intro world reading moment kept stamped
    have returned : (now reading last).1 = some moment.isoformat := by
      rw [now, stamped]
    exact ⟨returned, nudged_is_world_now kept stamped⟩
  constructor
  · intro Row createdAt kept scanned drawn same
    have increase' := increase.sublist drawn
    exact ⟨Dated.oldest_first_scanned increase' same, Dated.newest_first_scanned increase' same⟩
  constructor
  · intro kept scanned drawn same
    have filled : ∀ row ∈ kept, row.createdAt ≠ "" := by
      intro row listed
      exact now_texts_filled (drawn.subset (List.mem_map_of_mem listed))
    exact Dated.failed_attempts_scanned (increase.sublist drawn) filled same
  · intro Row acts drawn
    subst drawn
    constructor
    · intro scanned listed
      exact Dated.ordered_as_drawn acts last listed
    · intro follow kept scanned part same
      have increase' := (Dated.inserted_increase follow last).sublist (part.map Prod.snd)
      exact ⟨Dated.oldest_first_scanned increase' same, Dated.newest_first_scanned increase' same⟩

def yearEnd : Fields :=
  { year := 2023, month := 12, day := 31, hour := 23, minute := 59, second := 59
    microsecond := 999999 }

theorem year_end_sound : yearEnd.Sound := by
  constructor
  all_goals decide

theorem year_end_bounded : yearEnd.year ≤ maxYear := by decide

def lastMoment : DateTime := { yearEnd with sound := year_end_sound, bounded := year_end_bounded }

/-- A clock that stands still over the end of a year: the second text is the shorter one. -/
theorem now_texts_ordered_at_year_end :
    nowTexts [lastMoment, lastMoment, lastMoment] none =
        ["2023-12-31T23:59:59.999999+00:00", "2024-01-01T00:00:00+00:00",
          "2024-01-01T00:00:00.000001+00:00"] ∧
      (nowTexts [lastMoment, lastMoment, lastMoment] none).Pairwise (· < ·) :=
  ⟨by decide +kernel, (now_texts_ordered [lastMoment, lastMoment, lastMoment] none).1⟩

/-- One thread calls `_now`, another calls it and inserts its row, then the first inserts. -/
def crossed : List (Dated.Act Nat) :=
  [.draw 1 lastMoment, .draw 2 lastMoment, .insert 2 2, .insert 1 1]

/-- The row inserted last is the oldest one. -/
theorem crossed_inserts_reordered :
    ((Dated.Layer.run crossed none).rows.map Prod.fst = [2, 1] ∧
      (Dated.oldestFirst Prod.snd (Dated.Layer.run crossed none).rows).map Prod.fst = [1, 2]) ∧
      ¬∀ (acts : List (Dated.Act Nat)) (last : Option DateTime),
        Dated.oldestFirst Prod.snd (Dated.Layer.run acts last).rows = (Dated.Layer.run acts last).rows := by
  have inserted : (Dated.Layer.run crossed none).rows.map Prod.fst = [2, 1] := by decide
  have listed : (Dated.oldestFirst Prod.snd (Dated.Layer.run crossed none).rows).map Prod.fst = [1, 2] := by
    decide +kernel
  refine ⟨⟨inserted, listed⟩, ?_⟩
  intro follows
  rw [follows crossed none, inserted] at listed
  cases listed

end Bugalizer
