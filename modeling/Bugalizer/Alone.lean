import Bugalizer.Calls
import Bugalizer.Coroutine.Solo

/-!
# A coroutine of the program on its own

Its operations one after the other on the world, each under any weather and with any answer
of the outside.
-/

namespace Bugalizer

set_option autoImplicit false

open Coroutine

/-- One operation of task `self`. -/
def Op.alone (self : Nat) : Move Op Op.Ans Exn World := fun before op answer after =>
  ∃ (fresh : Nat) (env : op.Env), op.exec self fresh env before = some (answer, after)

theorem weather_raises_fault {Ans : Type} {weather : Weather} {before after : World}
    {commit : Option (Ans × World)} {error : Exn}
    (ran : underWeather weather before commit = some (.error error, after)) :
    ∃ fault, error = .fault fault := by
  unfold underWeather at ran
  split at ran
  · cases ran
    exact ⟨_, rfl⟩
  · split at ran
    · cases ran
    · cases ran
      exact ⟨_, rfl⟩

theorem exec_raises_fault {self fresh : Nat} {op : Op} {env : op.Env} {before after : World}
    {error : Exn} (ran : op.exec self fresh env before = some (.error error, after)) :
    ∃ fault, error = .fault fault := by
  cases op with
  | query _ | report _ | stage _ | ledger _ | joint _ | project _ _ | outbox _ =>
      simp only [Op.exec] at ran
      exact weather_raises_fault ran
  | createTask _ _ =>
      simp only [Op.exec] at ran
      split at ran
      · cases ran
      · cases ran
        exact ⟨_, rfl⟩
  | remote _ =>
      simp only [Op.exec, Option.some.injEq, Prod.mk.injEq] at ran
      cases env with
      | ok value => cases ran.1
      | error fault =>
          cases ran.1
          exact ⟨fault, rfl⟩
  | compute _ =>
      simp only [Op.exec, Option.some.injEq, Prod.mk.injEq] at ran
      cases env with
      | ok value => cases ran.1
      | error fault =>
          cases ran.1
          exact ⟨fault, rfl⟩
  | memory _ | observe _ | newToken | acquire _ | dbWriteLock | note _ =>
      obtain ⟨value, same⟩ := exec_never_fails rfl ran
      cases same

theorem alone_raises {self : Nat} {op : Op} {error : Exn} {before after : World}
    (moved : Op.alone self before op (.error error) after) :
    (∃ fault, error = .fault fault) ∧ after = before := by
  obtain ⟨fresh, env, ran⟩ := moved
  refine ⟨exec_raises_fault ran, ?_⟩
  have moves := exec_moves ran
  generalize answered : (Except.error error : Except Exn op.Ans) = answer at moves
  cases moves with
  | failed _ _ => rfl
  | outer _ _ _ => rfl
  | _ => cases answered

section Returns

variable {self : Nat} {before after : World}

theorem alone_query {q : Query} {answer : q.Ans}
    (moved : Op.alone self before (.query q) (.ok answer) after) :
    answer = q.run before.db ∧ after = before := by
  obtain ⟨fresh, env, ran⟩ := moved
  simp only [Op.exec] at ran
  obtain ⟨⟨error, same⟩, -⟩ | ⟨value, commit, same⟩ := under_weather ran
  · cases same
  · cases same
    cases commit
    exact ⟨rfl, rfl⟩

theorem alone_report {write : ReportWrite} {hit : Bool}
    (moved : Op.alone self before (.report write) (.ok hit) after) :
    ∃ clock, hit = write.hits before.db.reports ∧
      after = before.commit clock
        { before.db with reports := write.apply (before.now clock) before.db.reports } := by
  obtain ⟨fresh, env, ran⟩ := moved
  simp only [Op.exec] at ran
  obtain ⟨⟨error, same⟩, -⟩ | ⟨value, commit, same⟩ := under_weather ran
  · cases same
  · cases same
    split at commit
    · cases commit
      exact ⟨_, rfl, rfl⟩
    · cases commit

theorem alone_stage {write : StageWrite} {answer : write.Ans}
    (moved : Op.alone self before (.stage write) (.ok answer) after) :
    ∃ clock drawn written, write.apply (before.now clock) drawn before.db.stages = some written ∧
      answer = written.1 ∧ after = before.commit clock { before.db with stages := written.2 } := by
  obtain ⟨fresh, env, ran⟩ := moved
  simp only [Op.exec] at ran
  obtain ⟨⟨error, same⟩, -⟩ | ⟨value, commit, same⟩ := under_weather ran
  · cases same
  · cases same
    obtain ⟨written, applied, pair⟩ := Option.map_eq_some_iff.mp commit
    cases pair
    exact ⟨_, _, written, applied, rfl, rfl⟩

theorem alone_outer {op : Op} (outer : op.outer) {answer : Except Exn op.Ans}
    (moved : Op.alone self before op answer after) : after = before := by
  obtain ⟨fresh, env, ran⟩ := moved
  cases exec_moves ran with
  | failed _ _ => rfl
  | outer _ _ _ => rfl
  | _ => cases outer

end Returns

/-- A way to move the world by the operations of one coroutine: what they return is what they
do, and what they raise leaves the world alone. -/
structure Faithful (task : Nat) (move : Move Op Op.Ans Exn World) : Prop where
  returns : ∀ before op value after, move before op (.ok value) after →
    Op.alone task before op (.ok value) after
  raises : ∀ before op error after, move before op (.error error) after →
    (∃ fault, error = .fault fault) ∧ after = before ∧ (op.neverFails → op.suspends)

theorem alone_faithful (self : Nat) : Faithful self (Op.alone self) where
  returns _ _ _ _ moved := moved
  raises before op error after moved := by
    obtain ⟨fault, same⟩ := alone_raises moved
    refine ⟨fault, same, ?_⟩
    intro sure
    obtain ⟨fresh, env, ran⟩ := moved
    obtain ⟨value, impossible⟩ := exec_never_fails sure ran
    cases impossible

section Rules

open Program

variable {self : Nat} {move : Move Op Op.Ans Exn World} (faithful : Faithful self move)
variable {cut : World → Prop} {before : World} {raises : Exn → World → Prop}

include faithful

theorem meets_ask {op : Op} {ends : op.Ans → World → Prop} (held : cut before)
    (good : ∀ value after, move before op (.ok value) after → cut after ∧ ends value after)
    (bad : ∀ fault, raises (.fault fault) before) :
    (ask op).Meets move cut before ends raises := by
  apply (meets_perform _ _ _).mpr
  refine ⟨held, good, ?_⟩
  intro error after moved
  obtain ⟨⟨fault, rfl⟩, rfl, -⟩ := faithful.raises _ _ _ _ moved
  exact ⟨held, bad fault⟩

theorem meets_sure {op : Op} (sure : op.neverFails) (keeps : op.suspends = false)
    {ends : op.Ans → World → Prop} (held : cut before)
    (good : ∀ value after, move before op (.ok value) after → cut after ∧ ends value after) :
    (ask op).Meets move cut before ends raises := by
  apply (meets_perform _ _ _).mpr
  refine ⟨held, good, ?_⟩
  intro error after moved
  have yields := (faithful.raises _ _ _ _ moved).2.2 sure
  rw [keeps] at yields
  cases yields

theorem meets_query {q : Query} {ends : q.Ans → World → Prop} (held : cut before)
    (good : ends (q.run before.db) before) (bad : ∀ fault, raises (.fault fault) before) :
    (query q).Meets move cut before ends raises := by
  apply meets_ask faithful held _ bad
  intro value after moved
  obtain ⟨rfl, rfl⟩ := alone_query (faithful.returns _ _ _ _ moved)
  exact ⟨held, good⟩

theorem meets_report {write : ReportWrite} {ends : Bool → World → Prop} (held : cut before)
    (good : ∀ clock,
      let after := before.commit clock
        { before.db with reports := write.apply (before.now clock) before.db.reports }
      cut after ∧ ends (write.hits before.db.reports) after)
    (bad : ∀ fault, raises (.fault fault) before) :
    (ask (.report write)).Meets move cut before ends raises := by
  apply meets_ask faithful held _ bad
  intro value after moved
  obtain ⟨clock, rfl, rfl⟩ := alone_report (faithful.returns _ _ _ _ moved)
  exact good clock

theorem meets_stage {write : StageWrite} {ends : write.Ans → World → Prop} (held : cut before)
    (good : ∀ clock drawn written,
      write.apply (before.now clock) drawn before.db.stages = some written →
      let after := before.commit clock { before.db with stages := written.2 }
      cut after ∧ ends written.1 after)
    (bad : ∀ fault, raises (.fault fault) before) :
    (ask (.stage write)).Meets move cut before ends raises := by
  apply meets_ask faithful held _ bad
  intro value after moved
  obtain ⟨clock, drawn, written, applied, rfl, rfl⟩ :=
    alone_stage (faithful.returns _ _ _ _ moved)
  exact good clock drawn written applied

theorem meets_outer {op : Op} (outer : op.outer) {ends : op.Ans → World → Prop} (held : cut before)
    (good : ∀ value, ends value before) (bad : ∀ fault, raises (.fault fault) before) :
    (ask op).Meets move cut before ends raises := by
  apply meets_ask faithful held _ bad
  intro value after moved
  rw [alone_outer outer (faithful.returns _ _ _ _ moved)]
  exact ⟨held, good value⟩

theorem meets_write_lock {Result : Type} {body : Py Result} {ends : Result → World → Prop}
    (meets : body.Meets move cut before ends raises) :
    (underWriteLock body).Meets move cut before ends raises := by
  apply (meets_bind _ _ _ _).mpr
  apply meets_sure faithful rfl rfl meets.entered
  intro value after moved
  rw [alone_outer rfl (faithful.returns _ _ _ _ moved)]
  exact ⟨meets.entered, meets⟩

end Rules

end Bugalizer
