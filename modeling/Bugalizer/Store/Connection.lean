import Bugalizer.Coroutine.Program

/-!
# A database connection and its transaction

A connection sees what is committed, or its own open transaction over that. Writing opens the
transaction; only a commit or a rollback closes it, and a commit that finds the database locked
leaves it open with its changes pending. A function over a connection is a coroutine whose
operations are these statements, and it is played against a pattern of lock errors: one answer
for each operation it comes to.
-/

namespace Bugalizer.Store

set_option autoImplicit false

open Coroutine Program

structure Connection (Db : Type) where
  committed : Db
  pending : Option Db := none

namespace Connection

variable {Db : Type}

/-- What the connection's own statements see. -/
def view (conn : Connection Db) : Db := conn.pending.getD conn.committed

/-- The implicit `BEGIN` before a write. -/
def opened (conn : Connection Db) : Connection Db := { conn with pending := some conn.view }

@[simp] theorem view_closed (db : Db) : (⟨db, none⟩ : Connection Db).view = db := rfl

@[simp] theorem view_pending (db after : Db) : (⟨db, some after⟩ : Connection Db).view = after := rfl

end Connection

inductive SqlError where
  /-- `OperationalError: database is locked`. -/
  | locked
  /-- Another error of a statement: a constraint, a value that does not bind, its syntax. -/
  | refused
  /-- `cannot start a transaction within a transaction`. -/
  | nested
  /-- Raised by the function itself. -/
  | python (typeName text : String)
deriving DecidableEq, Repr

/-- A write: the row count and the tables after it, `none` when it is refused. -/
abbrev Statement (Db : Type) := Db → Option (Nat × Db)

inductive SqlOp (Db : Type) where
  | execute (statement : Statement Db)
  | select
  | beginImmediate
  | commit
  | rollback
  | inTransaction

namespace SqlOp

variable {Db : Type}

/-- A `SELECT` answers all its connection sees; the caller takes what it asked for. -/
abbrev Ans : SqlOp Db → Type
  | execute _ => Nat
  | select => Db
  | inTransaction => Bool
  | _ => Unit

def exec (locked : Bool) (conn : Connection Db) :
    (op : SqlOp Db) → Except SqlError op.Ans × Connection Db
  | execute statement =>
      if locked then (.error .locked, conn.opened)
      else
        match statement conn.view with
        | none => (.error .refused, conn.opened)
        | some (rowcount, after) => (.ok rowcount, ⟨conn.committed, some after⟩)
  | select => if locked then (.error .locked, conn) else (.ok conn.view, conn)
  | beginImmediate =>
      if conn.pending.isSome then (.error .nested, conn)
      else if locked then (.error .locked, conn)
      else (.ok (), conn.opened)
  -- nothing is open, nothing to commit
  | commit =>
      if conn.pending.isSome && locked then (.error .locked, conn) else (.ok (), ⟨conn.view, none⟩)
  | rollback => (.ok (), ⟨conn.committed, none⟩)
  | inTransaction => (.ok conn.pending.isSome, conn)

def closes : SqlOp Db → Bool
  | commit | rollback => true
  | _ => false

def viewed : SqlOp Db → Bool
  | execute _ | select | commit => true
  | _ => false

end SqlOp

abbrev Sql (Db : Type) := Program (SqlOp Db) SqlOp.Ans SqlError

namespace Sql

variable {Db Value : Type}

def execute (statement : Statement Db) : Sql Db Nat := perform (SqlOp.execute statement)
def select : Sql Db Db := perform SqlOp.select
def beginImmediate : Sql Db Unit := perform SqlOp.beginImmediate
def commit : Sql Db Unit := perform SqlOp.commit
def rollback : Sql Db Unit := perform SqlOp.rollback
def inTransaction : Sql Db Bool := perform SqlOp.inTransaction

end Sql

/-- A function in the middle of its run: its connection, and the operations it has made. -/
structure Session (Db : Type) where
  conn : Connection Db
  made : Nat := 0

namespace Session

variable {Db First Second : Type}

/-- One operation; `faults` says which find the database locked. -/
def exec (faults : Nat → Bool) (session : Session Db) (op : SqlOp Db) :
    Except SqlError op.Ans × Session Db :=
  ((op.exec (faults session.made) session.conn).1,
    ⟨(op.exec (faults session.made) session.conn).2, session.made + 1⟩)

def play (faults : Nat → Bool) : Sql Db First → Session Db → Except SqlError First × Session Db
  | .done value, session => (.ok value, session)
  | .raise error, session => (.error error, session)
  | .call op next, session =>
      play faults (next (session.exec faults op).1) (session.exec faults op).2

variable {faults : Nat → Bool}

@[simp] theorem play_done (value : First) (session : Session Db) :
    play faults (.done value) session = (.ok value, session) := rfl

@[simp] theorem play_raise (error : SqlError) (session : Session Db) :
    play faults (.raise error : Sql Db First) session = (.error error, session) := rfl

theorem play_call (op : SqlOp Db) (next : Except SqlError op.Ans → Sql Db First)
    (session : Session Db) :
    play faults (.call op next) session =
      play faults (next (session.exec faults op).1) (session.exec faults op).2 := rfl

theorem play_bind (body : Sql Db First) (rest : First → Sql Db Second) (session : Session Db) :
    play faults (body.bind rest) session =
      match play faults body session with
      | (.ok value, later) => play faults (rest value) later
      | (.error error, later) => (.error error, later) := by
  induction body generalizing session with
  | done value => rfl
  | raise error => rfl
  | call op next ih => exact ih _ _

theorem play_catching (body : Sql Db First) (handler : SqlError → Sql Db First)
    (session : Session Db) :
    play faults (body.catching handler) session =
      match play faults body session with
      | (.ok value, later) => (.ok value, later)
      | (.error error, later) => play faults (handler error) later := by
  induction body generalizing session with
  | done value => rfl
  | raise error => rfl
  | call op next ih => exact ih _ _

theorem play_perform (op : SqlOp Db) (session : Session Db) :
    play faults (perform op) session = session.exec faults op := by
  simp only [perform, play_call]
  cases answered : (session.exec faults op).1 <;>
    simp only [play_done, play_raise, ← answered]

variable (faults) (session : Session Db)

theorem play_execute (statement : Statement Db) :
    play faults (Sql.execute statement) session =
      if faults session.made then (.error .locked, ⟨session.conn.opened, session.made + 1⟩)
      else
        match statement session.conn.view with
        | none => (.error .refused, ⟨session.conn.opened, session.made + 1⟩)
        | some (rowcount, after) =>
            (.ok rowcount, ⟨⟨session.conn.committed, some after⟩, session.made + 1⟩) := by
  refine (play_perform _ _).trans ?_
  simp only [Session.exec, SqlOp.exec]
  split
  · rfl
  · split <;> rfl

theorem play_select :
    play faults Sql.select session =
      if faults session.made then (.error .locked, ⟨session.conn, session.made + 1⟩)
      else (.ok session.conn.view, ⟨session.conn, session.made + 1⟩) := by
  refine (play_perform _ _).trans ?_
  simp only [Session.exec, SqlOp.exec]
  split <;> rfl

theorem play_begin :
    play faults Sql.beginImmediate session =
      if session.conn.pending.isSome then (.error .nested, ⟨session.conn, session.made + 1⟩)
      else if faults session.made then (.error .locked, ⟨session.conn, session.made + 1⟩)
      else (.ok (), ⟨session.conn.opened, session.made + 1⟩) := by
  refine (play_perform _ _).trans ?_
  simp only [Session.exec, SqlOp.exec]
  split
  · rfl
  · split <;> rfl

theorem play_commit :
    play faults Sql.commit session =
      if session.conn.pending.isSome && faults session.made then
        (.error .locked, ⟨session.conn, session.made + 1⟩)
      else (.ok (), ⟨⟨session.conn.view, none⟩, session.made + 1⟩) := by
  refine (play_perform _ _).trans ?_
  simp only [Session.exec, SqlOp.exec]
  split <;> rfl

theorem play_rollback :
    play faults Sql.rollback session = (.ok (), ⟨⟨session.conn.committed, none⟩, session.made + 1⟩) :=
  play_perform _ _

theorem play_in_transaction :
    play faults Sql.inTransaction session =
      (.ok session.conn.pending.isSome, ⟨session.conn, session.made + 1⟩) :=
  play_perform _ _

end Session

-- What holds of a body whose last operation closes the transaction, and that handles no error of
-- its own: its faults are all or nothing.

namespace Sql

variable {Db First Second : Type}

/-- The body raises what an operation raises, and closes nothing on its way. -/
def Inner : Sql Db First → Prop
  | .done _ => True
  | .raise _ => True
  | .call op next =>
      op.closes = false ∧ (∀ error, next (.error error) = .raise error) ∧
        ∀ answer, Inner (next (.ok answer))

/-- The body raises what an operation raises, and returns right after it has closed the
transaction. -/
def Closing : Sql Db First → Prop
  | .done _ => False
  | .raise _ => True
  | .call op next =>
      (∀ error, next (.error error) = .raise error) ∧
        if op.closes then ∀ answer, ∃ value, next (.ok answer) = .done value
        else ∀ answer, Closing (next (.ok answer))

/-- Beside what it sees of its own transaction the body asks for nothing. -/
def Viewed : Sql Db First → Prop
  | .done _ => True
  | .raise _ => True
  | .call op next => op.viewed = true ∧ ∀ answer, Viewed (next answer)

theorem inner_perform {op : SqlOp Db} (inside : op.closes = false) : Inner (perform op) :=
  ⟨inside, fun _ => rfl, fun _ => trivial⟩

theorem inner_bind {body : Sql Db First} {rest : First → Sql Db Second} (first : Inner body)
    (second : ∀ value, Inner (rest value)) : Inner (body.bind rest) := by
  induction body with
  | done value => exact second value
  | raise error => trivial
  | call op next ih =>
      obtain ⟨inside, raises, goes⟩ := first
      refine ⟨inside, ?_, ?_⟩
      · intro error
        simp only [raises, raise_bind]
      · intro answer
        exact ih _ (goes answer)

theorem inner_closing {body : Sql Db First} {rest : First → Sql Db Second} (first : Inner body)
    (second : ∀ value, Closing (rest value)) : Closing (body.bind rest) := by
  induction body with
  | done value => exact second value
  | raise error => trivial
  | call op next ih =>
      obtain ⟨inside, raises, goes⟩ := first
      refine ⟨?_, ?_⟩
      · intro error
        simp only [raises, raise_bind]
      · rw [if_neg (by simp [inside])]
        intro answer
        exact ih _ (goes answer)

theorem closing_perform {op : SqlOp Db} {rest : op.Ans → Sql Db First} (closes : op.closes = true)
    (returns : ∀ answer, ∃ value, rest answer = .done value) :
    Closing ((perform op).bind rest) := by
  refine ⟨fun _ => rfl, ?_⟩
  rw [if_pos closes]
  exact returns

theorem viewed_perform {op : SqlOp Db} (sees : op.viewed = true) : Viewed (perform op) := by
  refine ⟨sees, ?_⟩
  intro answer
  cases answer <;> trivial

theorem viewed_bind {body : Sql Db First} {rest : First → Sql Db Second} (first : Viewed body)
    (second : ∀ value, Viewed (rest value)) : Viewed (body.bind rest) := by
  induction body with
  | done value => exact second value
  | raise error => trivial
  | call op next ih =>
      refine ⟨first.1, ?_⟩
      intro answer
      exact ih _ (first.2 answer)

open SqlOp Session

theorem exec_answers {op : SqlOp Db} {locked : Bool} {conn left : Connection Db} {answer : op.Ans}
    (ran : op.exec locked conn = (.ok answer, left)) : op.exec false conn = (.ok answer, left) := by
  cases locked with
  | false => exact ran
  | true =>
      cases op with
      | execute statement => simp [SqlOp.exec] at ran
      | select => simp [SqlOp.exec] at ran
      | beginImmediate =>
          simp only [SqlOp.exec, if_true] at ran
          split at ran <;> simp at ran
      | commit =>
          simp only [SqlOp.exec, Bool.and_true, Bool.and_false] at ran ⊢
          split at ran
          · simp at ran
          · exact ran
      | rollback => exact ran
      | inTransaction => exact ran

theorem exec_committed {op : SqlOp Db} (inside : op.closes = false) (locked : Bool)
    (conn : Connection Db) : (op.exec locked conn).2.committed = conn.committed := by
  cases op with
  | execute statement =>
      simp only [SqlOp.exec]
      split
      · rfl
      · split <;> rfl
  | select => cases locked <;> rfl
  | beginImmediate =>
      simp only [SqlOp.exec]
      split
      · rfl
      · split <;> rfl
  | commit => simp [closes] at inside
  | rollback => simp [closes] at inside
  | inTransaction => rfl

theorem exec_closes {op : SqlOp Db} (closing : op.closes = true) {locked : Bool}
    {conn left : Connection Db} {answer : op.Ans}
    (ran : op.exec locked conn = (.ok answer, left)) : left.pending = none := by
  cases op with
  | commit =>
      simp only [SqlOp.exec] at ran
      split at ran
      · simp at ran
      · cases ran
        rfl
  | rollback =>
      cases ran
      rfl
  | execute _ | select | beginImmediate | inTransaction => simp [closes] at closing

theorem exec_viewed {op : SqlOp Db} (sees : op.viewed = true) {conn other left : Connection Db}
    {answer : op.Ans} (same : other.view = conn.view)
    (ran : op.exec false conn = (.ok answer, left)) :
    ∃ later, op.exec false other = (.ok answer, later) ∧ later.view = left.view := by
  cases op with
  | execute statement =>
      simp only [SqlOp.exec, same, Bool.false_eq_true, if_false] at ran ⊢
      cases written : statement conn.view with
      | none => simp [written] at ran
      | some outcome =>
          simp only [written, Prod.mk.injEq, Except.ok.injEq] at ran ⊢
          obtain ⟨rfl, rfl⟩ := ran
          exact ⟨_, ⟨rfl, rfl⟩, rfl⟩
  | select =>
      simp only [SqlOp.exec, same, Bool.false_eq_true, if_false] at ran ⊢
      cases ran
      exact ⟨_, rfl, same⟩
  | commit =>
      simp only [SqlOp.exec, same, Bool.and_false, Bool.false_eq_true, if_false] at ran ⊢
      cases ran
      exact ⟨_, rfl, rfl⟩
  | beginImmediate | rollback | inTransaction => simp [viewed] at sees

theorem exec_fails {op : SqlOp Db} {locked : Bool} {conn left : Connection Db} {error : SqlError}
    (ran : op.exec locked conn = (.error error, left)) : left.committed = conn.committed := by
  by_cases closing : op.closes = true
  · cases op with
    | commit =>
        simp only [SqlOp.exec] at ran
        split at ran
        · cases ran
          rfl
        · simp at ran
    | rollback => simp [SqlOp.exec] at ran
    | execute _ | select | beginImmediate | inTransaction => simp [closes] at closing
  · have kept := exec_committed (by simpa using closing) locked conn
    rw [ran] at kept
    exact kept

/-- What a body returns it returns where nothing is locked as well, from the same connection. -/
theorem closing_returns {faults : Nat → Bool} {body : Sql Db First} (closing : Closing body)
    {session later other : Session Db} {value : First} (same : other.conn = session.conn)
    (played : play faults body session = (.ok value, later)) :
    (∃ last, play (fun _ => false) body other = (.ok value, last) ∧ last.conn = later.conn) ∧
      later.conn.pending = none := by
  induction body generalizing session other with
  | done value => exact absurd closing id
  | raise error => simp at played
  | call op next ih =>
      obtain ⟨raises, goes⟩ := closing
      simp only [play_call, Session.exec, same] at played ⊢
      cases ran : op.exec (faults session.made) session.conn with
      | mk answer left =>
          rw [ran] at played
          cases answer with
          | error error =>
              rw [raises] at played
              simp at played
          | ok answer =>
              rw [exec_answers ran]
              by_cases closes : op.closes = true
              · rw [if_pos closes] at goes
                obtain ⟨result, returns⟩ := goes answer
                simp only [returns, play_done, Prod.mk.injEq, Except.ok.injEq] at played ⊢
                obtain ⟨rfl, rfl⟩ := played
                exact ⟨⟨_, ⟨rfl, rfl⟩, rfl⟩, exec_closes closes ran⟩
              · rw [if_neg closes] at goes
                apply ih (.ok answer) (goes answer) ?_ played
                rfl

theorem closing_raises {faults : Nat → Bool} {body : Sql Db First} (closing : Closing body)
    {session later : Session Db} {error : SqlError}
    (played : play faults body session = (.error error, later)) :
    later.conn.committed = session.conn.committed := by
  induction body generalizing session with
  | done value => exact absurd closing id
  | raise raised =>
      simp only [play_raise, Prod.mk.injEq] at played
      rw [← played.2]
  | call op next ih =>
      obtain ⟨raises, goes⟩ := closing
      simp only [play_call, Session.exec] at played
      cases ran : op.exec (faults session.made) session.conn with
      | mk answer left =>
          rw [ran] at played
          cases answer with
          | error failed =>
              simp only [raises, play_raise, Prod.mk.injEq] at played
              rw [← played.2]
              exact exec_fails ran
          | ok answer =>
              by_cases closes : op.closes = true
              · rw [if_pos closes] at goes
                obtain ⟨result, returns⟩ := goes answer
                simp [returns] at played
              · rw [if_neg closes] at goes
                rw [ih _ (goes answer) played]
                have kept := exec_committed (by simpa using closes) (faults session.made) session.conn
                rw [ran] at kept
                exact kept

/-- A body that sees the tables only returns the same from another connection that sees the same. -/
theorem viewed_returns {faults : Nat → Bool} {body : Sql Db First} (closing : Closing body)
    (sees : Viewed body) {session later other : Session Db} {value : First}
    (same : other.conn.view = session.conn.view)
    (played : play faults body session = (.ok value, later)) :
    ∃ last, play (fun _ => false) body other = (.ok value, last) ∧ last.conn.view = later.conn.view := by
  induction body generalizing session other with
  | done value => exact absurd closing id
  | raise error => simp at played
  | call op next ih =>
      obtain ⟨raises, goes⟩ := closing
      simp only [play_call, Session.exec] at played ⊢
      cases ran : op.exec (faults session.made) session.conn with
      | mk answer left =>
          rw [ran] at played
          cases answer with
          | error error =>
              rw [raises] at played
              simp at played
          | ok answer =>
              obtain ⟨beside, again, alike⟩ := exec_viewed sees.1 same (exec_answers ran)
              rw [again]
              by_cases closes : op.closes = true
              · rw [if_pos closes] at goes
                obtain ⟨result, returns⟩ := goes answer
                simp only [returns, play_done, Prod.mk.injEq, Except.ok.injEq] at played ⊢
                obtain ⟨rfl, rfl⟩ := played
                exact ⟨_, ⟨rfl, rfl⟩, alike⟩
              · rw [if_neg closes] at goes
                exact ih _ (goes answer) (sees.2 _) alike played

end Sql

end Bugalizer.Store
