import Bugalizer.Store.Connection

/-!
# Functions run again where the database was locked

A decorator runs a function again, as a whole and on the connection the failed attempt left.
Where each attempt is one transaction that a failure rolls back, the call's effect is that of
one undisturbed run. Where an attempt may leave its write behind, the next one finds it: the
effect is still that of one run when the write absorbs itself, and is not when the write spoils
its own condition.
-/

namespace Bugalizer.Store

set_option autoImplicit false

open Coroutine Program Sql Session

variable {Db Draws Value : Type}

/-- One attempt of a function on its connection. -/
def attempt (faults : Nat → Bool) (body : Sql Db Value) (conn : Connection Db) :
    Except SqlError Value × Connection Db :=
  ((play faults body ⟨conn, 0⟩).1, (play faults body ⟨conn, 0⟩).2.conn)

/-- The decorator's loop, one delay before each attempt but the first. `body` is the function,
attempt by attempt, as each draws its own clock and ids. -/
def retrying (faults : Nat → Nat → Bool) (body : Nat → Sql Db Value) :
    List Nat → Nat → Connection Db → Except SqlError Value × Connection Db
  | [], number, conn => attempt (faults number) (body number) conn
  | _ :: delays, number, conn =>
      match attempt (faults number) (body number) conn with
      | (.error .locked, left) => retrying faults body delays (number + 1) left
      | outcome => outcome

/-- The call has closed its transaction, and what it returned and committed is what one run of
the function returns and commits on the tables of `base`, with nothing locked. -/
def Once (body : Draws → Sql Db Value) (base : Db) (value : Value) (left : Connection Db) : Prop :=
  left.pending = none ∧ ∃ draws, attempt (fun _ => false) (body draws) ⟨base, none⟩ = (.ok value, left)

theorem attempt_plays {faults : Nat → Bool} {body : Sql Db Value} {conn left : Connection Db}
    {outcome : Except SqlError Value} (ran : attempt faults body conn = (outcome, left)) :
    ∃ made, play faults body ⟨conn, 0⟩ = (outcome, ⟨left, made⟩) := by
  simp only [attempt, Prod.mk.injEq] at ran
  obtain ⟨rfl, rfl⟩ := ran
  exact ⟨_, rfl⟩

theorem attempt_of_plays {faults : Nat → Bool} {body : Sql Db Value} {conn : Connection Db}
    {outcome : Except SqlError Value} {later : Session Db}
    (played : play faults body ⟨conn, 0⟩ = (outcome, later)) :
    attempt faults body conn = (outcome, later.conn) := by
  rw [attempt, played]

/-- What each attempt does, whatever it finds locked: it returns as one run on one of the bases
of its connection, or leaves a connection with no other base. -/
structure Atomic (body : Draws → Sql Db Value) (bases : Connection Db → List Db) : Prop where
  returns : ∀ {faults : Nat → Bool} {draws : Draws} {conn left : Connection Db} {value : Value},
    attempt faults (body draws) conn = (.ok value, left) → ∃ base ∈ bases conn, Once body base value left
  fails : ∀ {faults : Nat → Bool} {draws : Draws} {conn left : Connection Db},
    attempt faults (body draws) conn = (.error .locked, left) → bases left ⊆ bases conn

theorem retrying_atomic {body : Draws → Sql Db Value} {bases : Connection Db → List Db}
    (atomic : Atomic body bases) {faults : Nat → Nat → Bool} {draws : Nat → Draws} {delays : List Nat}
    {number : Nat} {conn left : Connection Db} {value : Value}
    (returned : retrying faults (fun number => body (draws number)) delays number conn =
      (.ok value, left)) :
    ∃ base ∈ bases conn, Once body base value left := by
  induction delays generalizing number conn with
  | nil => exact atomic.returns returned
  | cons delay delays ih =>
      simp only [retrying] at returned
      split at returned
      · rename_i between failed
        obtain ⟨base, among, once⟩ := ih returned
        exact ⟨base, atomic.fails failed among, once⟩
      · exact atomic.returns returned

/-- `BEGIN IMMEDIATE` after the commit of whatever is open; rolled back when the body raises. -/
def transaction (body : Sql Db Value) : Sql Db Value := do
  if ← inTransaction then commit
  catching (do beginImmediate; body) fun error => do
    rollback
    raise error

/-- `with conn:`, which commits at its end and rolls back when the body or the commit raises. -/
def within (body : Sql Db Value) : Sql Db Value :=
  catching (do
    let value ← body
    commit
    return value) fun error => do
      rollback
      raise error

/-- Where the body returns, the guarded body does; where it raises, the transaction is undone. -/
theorem guarded_returns {faults : Nat → Bool} {body : Sql Db Value} {session later : Session Db}
    {value : Value}
    (played : play faults (body.catching fun error => do rollback; raise error) session =
      (.ok value, later)) :
    play faults body session = (.ok value, later) := by
  rw [play_catching] at played
  split at played
  · rwa [← played]
  · simp [play_bind, play_rollback] at played

theorem guarded_raises {faults : Nat → Bool} {body : Sql Db Value} {session later : Session Db}
    {error : SqlError}
    (played : play faults (body.catching fun error => do rollback; raise error) session =
      (.error error, later)) :
    ∃ between, play faults body session = (.error error, between) ∧
      later.conn = ⟨between.conn.committed, none⟩ := by
  rw [play_catching] at played
  split at played
  · simp at played
  · rename_i failed between raised
    simp only [bind_eq, play_bind, play_rollback, play_raise, Prod.mk.injEq, Except.error.injEq] at played
    obtain ⟨rfl, rfl⟩ := played
    exact ⟨between, raised, rfl⟩

theorem guarded_again {body : Sql Db Value} {session later : Session Db} {value : Value}
    (played : play (fun _ => false) body session = (.ok value, later)) :
    play (fun _ => false) (body.catching fun error => do rollback; raise error) session =
      (.ok value, later) := by
  rw [play_catching, played]

/-- The transaction a function opens once nothing else is open. -/
def begun (body : Sql Db Value) : Sql Db Value :=
  catching (do beginImmediate; body) fun error => do
    rollback
    raise error

theorem transaction_plays (faults : Nat → Bool) (body : Sql Db Value) (session : Session Db) :
    play faults (transaction body) session =
      if session.conn.pending.isSome then
        if faults (session.made + 1) then (.error .locked, ⟨session.conn, session.made + 2⟩)
        else play faults (begun body) ⟨⟨session.conn.view, none⟩, session.made + 2⟩
      else play faults (begun body) ⟨session.conn, session.made + 1⟩ := by
  simp only [transaction, bind_eq, play_bind, play_in_transaction]
  cases held : session.conn.pending.isSome with
  | false => rfl
  | true =>
      simp only [if_true, play_bind, play_commit, held, Bool.true_and]
      cases faults (session.made + 1) <;> rfl

theorem begun_plays {faults : Nat → Bool} {body : Sql Db Value} (closing : Closing body)
    {session later other : Session Db} {value : Value} (same : other.conn = session.conn)
    (played : play faults (begun body) session = (.ok value, later)) :
    (∃ last, play (fun _ => false) (begun body) other = (.ok value, last) ∧ last.conn = later.conn) ∧
      later.conn.pending = none := by
  have whole : Closing (beginImmediate.bind fun _ => body) :=
    inner_closing (inner_perform rfl) fun _ => closing
  obtain ⟨⟨last, again, alike⟩, closed⟩ := closing_returns whole same (guarded_returns played)
  exact ⟨⟨last, guarded_again again, alike⟩, closed⟩

theorem begun_raises {faults : Nat → Bool} {body : Sql Db Value} (closing : Closing body)
    {session later : Session Db} {error : SqlError}
    (played : play faults (begun body) session = (.error error, later)) :
    later.conn = ⟨session.conn.committed, none⟩ := by
  have whole : Closing (beginImmediate.bind fun _ => body) :=
    inner_closing (inner_perform rfl) fun _ => closing
  obtain ⟨between, raised, left⟩ := guarded_raises played
  rw [left, closing_raises whole raised]

theorem Connection.closed {conn : Connection Db} (idle : conn.pending = none) :
    conn = ⟨conn.view, none⟩ := by
  obtain ⟨committed, pending⟩ := conn
  cases idle
  rfl

theorem transaction_atomic {body : Draws → Sql Db Value} (closing : ∀ draws, Closing (body draws)) :
    Atomic (fun draws => transaction (body draws)) fun conn => [conn.view] := by
  constructor
  · intro faults draws conn left value ran
    obtain ⟨made, played⟩ := attempt_plays ran
    have from_view : ∃ session : Session Db, session.conn = ⟨conn.view, none⟩ ∧
        play faults (begun (body draws)) session = (.ok value, ⟨left, made⟩) := by
      rw [transaction_plays] at played
      split at played
      · split at played
        · simp at played
        · exact ⟨_, rfl, played⟩
      · rename_i idle
        exact ⟨_, Connection.closed (by simpa using idle), played⟩
    obtain ⟨session, at_view, begins⟩ := from_view
    obtain ⟨⟨last, again, alike⟩, closed⟩ :=
      begun_plays (closing draws) (show (⟨⟨conn.view, none⟩, 1⟩ : Session Db).conn = _ from at_view.symm)
        begins
    have whole : play (fun _ => false) (transaction (body draws)) ⟨⟨conn.view, none⟩, 0⟩ =
        (.ok value, last) := by
      rw [transaction_plays]
      exact again
    refine ⟨conn.view, List.mem_singleton_self _, closed, draws, ?_⟩
    rw [attempt_of_plays whole, alike]
  · intro faults draws conn left ran
    obtain ⟨made, played⟩ := attempt_plays ran
    have kept : left.view = conn.view := by
      rw [transaction_plays] at played
      split at played
      · split at played
        · cases played
          rfl
        · have undone := begun_raises (closing draws) played
          simp only at undone
          rw [undone]
          rfl
      · rename_i idle
        have undone := begun_raises (closing draws) played
        simp only at undone
        rw [undone, Connection.closed (by simpa using idle : conn.pending = none)]
    rw [kept]
    exact fun _ among => among

/-- A function that begins its transaction without a look at what is open. -/
def fencing (body : Sql Db Value) : Sql Db Value := do
  beginImmediate
  catching body fun error => do
    rollback
    raise error

theorem fencing_plays (faults : Nat → Bool) (body : Sql Db Value) (session : Session Db) :
    play faults (fencing body) session =
      if session.conn.pending.isSome then (.error .nested, ⟨session.conn, session.made + 1⟩)
      else if faults session.made then (.error .locked, ⟨session.conn, session.made + 1⟩)
      else
        play faults (body.catching fun error => do rollback; raise error)
          ⟨session.conn.opened, session.made + 1⟩ := by
  simp only [fencing, bind_eq, play_bind, play_begin]
  cases session.conn.pending.isSome <;> cases faults session.made <;> rfl

theorem fencing_atomic {body : Draws → Sql Db Value} (closing : ∀ draws, Closing (body draws)) :
    Atomic (fun draws => fencing (body draws)) fun conn => [conn.view] := by
  constructor
  · intro faults draws conn left value ran
    obtain ⟨made, played⟩ := attempt_plays ran
    rw [fencing_plays] at played
    split at played
    · simp at played
    · rename_i idle
      split at played
      · simp at played
      · obtain ⟨⟨last, again, alike⟩, closed⟩ := closing_returns (closing draws)
          (show (⟨conn.opened, 1⟩ : Session Db).conn = conn.opened from rfl) (guarded_returns played)
        have whole : play (fun _ => false) (fencing (body draws)) ⟨⟨conn.view, none⟩, 0⟩ =
            (.ok value, last) := by
          rw [fencing_plays, ← Connection.closed (by simpa using idle : conn.pending = none), if_neg idle]
          exact guarded_again again
        refine ⟨conn.view, List.mem_singleton_self _, closed, draws, ?_⟩
        rw [attempt_of_plays whole, alike]
  · intro faults draws conn left ran
    obtain ⟨made, played⟩ := attempt_plays ran
    rw [fencing_plays] at played
    have kept : left.view = conn.view := by
      split at played
      · simp at played
      · rename_i idle
        split at played
        · cases played
          rfl
        · obtain ⟨between, raised, undone⟩ := guarded_raises played
          simp only at undone
          rw [undone, closing_raises (closing draws) raised,
            Connection.closed (by simpa using idle : conn.pending = none)]
          rfl
    rw [kept]
    exact fun _ among => among

theorem within_atomic {body : Draws → Sql Db Value} (inner : ∀ draws, Inner (body draws))
    (sees : ∀ draws, Viewed (body draws)) :
    Atomic (fun draws => within (body draws)) fun conn => [conn.view, conn.committed] := by
  have closing : ∀ draws, Closing ((body draws).bind fun value => commit.bind fun _ => .done value) := by
    intro draws
    apply inner_closing (inner draws)
    intro value
    exact closing_perform rfl fun _ => ⟨value, rfl⟩
  have viewed : ∀ draws, Viewed ((body draws).bind fun value => commit.bind fun _ => .done value) := by
    intro draws
    apply viewed_bind (sees draws)
    intro value
    exact viewed_bind (viewed_perform rfl) fun _ => trivial
  constructor
  · intro faults draws conn left value ran
    obtain ⟨made, played⟩ := attempt_plays ran
    have returned := guarded_returns played
    have closed := (closing_returns (closing draws) rfl returned).2
    obtain ⟨last, again, alike⟩ := viewed_returns (closing draws) (viewed draws)
      (show (⟨⟨conn.view, none⟩, 0⟩ : Session Db).conn.view = conn.view from rfl) returned
    have ended := (closing_returns (closing draws) rfl again).2
    have same : last.conn = left := by
      rw [Connection.closed ended, alike]
      exact (Connection.closed closed).symm
    refine ⟨conn.view, List.mem_cons_self, closed, draws, ?_⟩
    rw [← same]
    exact attempt_of_plays (guarded_again again)
  · intro faults draws conn left ran
    obtain ⟨made, played⟩ := attempt_plays ran
    obtain ⟨between, raised, undone⟩ := guarded_raises played
    simp only at undone
    rw [closing_raises (closing draws) raised] at undone
    rw [undone]
    simp [Connection.view]

/-- A function of one write, its commit and perhaps a reading of what it wrote. A statement that
comes before the write does nothing the second time. -/
structure Written (Db Draws Value : Type) where
  prepare : Option {change : Db → Db // ∀ db, change (change db) = change db} := none
  write : Draws → Statement Db
  answer : Draws → Nat → Value ⊕ (Db → Value)
  reads : Bool
  reading : ∀ draws rowcount, (answer draws rowcount).isRight → reads = true

namespace Written

variable (written : Written Db Draws Value)

def writes : Nat := written.prepare.elim 1 fun _ => 2

def prepared (db : Db) : Db := written.prepare.elim db fun change => change.1 db

theorem prepared_twice (db : Db) : written.prepared (written.prepared db) = written.prepared db := by
  simp only [prepared]
  cases written.prepare with
  | none => rfl
  | some change => exact change.2 db

/-- What the function returns once its write has reported `rowcount` and left `after`. -/
def value (draws : Draws) (rowcount : Nat) (after : Db) : Value :=
  match written.answer draws rowcount with
  | .inl value => value
  | .inr query => query after

def main (draws : Draws) : Sql Db Value := do
  let rowcount ← execute (written.write draws)
  commit
  match written.answer draws rowcount with
  | .inl value => return value
  | .inr query =>
      let db ← select
      return query db

def body (draws : Draws) : Sql Db Value :=
  match written.prepare with
  | none => written.main draws
  | some change => do
      let _ ← execute fun db => some (0, change.1 db)
      written.main draws

def effect (draws : Draws) (db : Db) : Option (Value × Db) :=
  (written.write draws (written.prepared db)).map fun (rowcount, after) =>
    (written.value draws rowcount after, after)

/-- What an attempt comes to, from a connection that sees `db`. -/
inductive Moves (draws : Draws) (faults : Nat → Bool) (db : Db) :
    Except SqlError Value × Connection Db → Prop
  /-- Stopped before its write. -/
  | held {left : Connection Db} (stopped : ∃ op < written.writes, faults op = true)
      (seen : left.view = db ∨ left.view = written.prepared db) : Moves draws faults db (.error .locked, left)
  | refused {left : Connection Db} (broken : written.write draws (written.prepared db) = none) :
      Moves draws faults db (.error .refused, left)
  /-- Stopped after its write, which stays. -/
  | landed {left : Connection Db} {rowcount : Nat} {after : Db}
      (passed : ∀ op < written.writes, faults op = false)
      (stopped : faults written.writes = true ∨
        written.reads = true ∧ faults (written.writes + 1) = true)
      (wrote : written.write draws (written.prepared db) = some (rowcount, after))
      (seen : left.view = after) : Moves draws faults db (.error .locked, left)
  | returned {rowcount : Nat} {after : Db} (passed : ∀ op < written.writes, faults op = false)
      (commits : faults written.writes = false)
      (read : (written.answer draws rowcount).isRight → faults (written.writes + 1) = false)
      (wrote : written.write draws (written.prepared db) = some (rowcount, after)) :
      Moves draws faults db (.ok (written.value draws rowcount after), ⟨after, none⟩)

variable {written} {draws : Draws} {faults : Nat → Bool}

theorem main_plays {session later : Session Db} {outcome : Except SqlError Value}
    (played : play faults (written.main draws) session = (outcome, later)) :
    (faults session.made = true ∧ outcome = .error .locked ∧ later.conn.view = session.conn.view) ∨
      (written.write draws session.conn.view = none ∧ outcome = .error .refused) ∨
      ∃ rowcount after, faults session.made = false ∧
        written.write draws session.conn.view = some (rowcount, after) ∧
        ((outcome = .error .locked ∧ later.conn.view = after ∧
            (faults (session.made + 1) = true ∨
              written.reads = true ∧ faults (session.made + 2) = true)) ∨
          outcome = .ok (written.value draws rowcount after) ∧ later.conn = ⟨after, none⟩ ∧
            faults (session.made + 1) = false ∧
            ((written.answer draws rowcount).isRight → faults (session.made + 2) = false)) := by
  simp only [main, bind_eq, play_bind, play_execute] at played
  cases early : faults session.made with
  | true =>
      simp only [early, if_true, Prod.mk.injEq] at played
      obtain ⟨rfl, rfl⟩ := played
      exact .inl ⟨rfl, rfl, rfl⟩
  | false =>
      right
      simp only [early, Bool.false_eq_true, if_false] at played
      cases wrote : written.write draws session.conn.view with
      | none =>
          simp only [wrote, Prod.mk.injEq] at played
          exact .inl ⟨rfl, played.1.symm⟩
      | some pair =>
          obtain ⟨rowcount, after⟩ := pair
          right
          refine ⟨rowcount, after, rfl, rfl, ?_⟩
          simp only [wrote, play_commit, Option.isSome_some, Bool.true_and] at played
          cases late : faults (session.made + 1) with
          | true =>
              simp only [late, if_true, Prod.mk.injEq] at played
              obtain ⟨rfl, rfl⟩ := played
              exact .inl ⟨rfl, rfl, .inl rfl⟩
          | false =>
              simp only [late, Bool.false_eq_true, if_false] at played
              cases answered : written.answer draws rowcount with
              | inl value =>
                  simp only [answered, pure_eq, play_done, Prod.mk.injEq] at played
                  obtain ⟨rfl, rfl⟩ := played
                  right
                  simp [Written.value, answered]
              | inr query =>
                  simp only [answered, play_bind, play_select] at played
                  cases last : faults (session.made + 2) with
                  | true =>
                      have reads := written.reading draws rowcount (by rw [answered]; rfl)
                      simp only [last, if_true, Prod.mk.injEq] at played
                      obtain ⟨rfl, rfl⟩ := played
                      exact .inl ⟨rfl, rfl, .inr ⟨reads, rfl⟩⟩
                  | false =>
                      simp only [last, Bool.false_eq_true, if_false, pure_eq, play_done,
                        Prod.mk.injEq] at played
                      obtain ⟨rfl, rfl⟩ := played
                      right
                      simp [Written.value, answered]

theorem moves_of_main {db : Db} {session : Session Db} {left : Connection Db} {made : Nat}
    {outcome : Except SqlError Value} (before : ∀ op < session.made, faults op = false)
    (ready : written.prepared db = session.conn.view) (count : written.writes = session.made + 1)
    (played : play faults (written.main draws) session = (outcome, ⟨left, made⟩)) :
    written.Moves draws faults db (outcome, left) := by
  have passes : faults session.made = false → ∀ op < written.writes, faults op = false := by
    intro here op early
    rcases Nat.lt_succ_iff_lt_or_eq.mp (count ▸ early) with sooner | rfl
    · exact before op sooner
    · exact here
  rcases main_plays played with ⟨early, rfl, same⟩ | ⟨broken, rfl⟩ | ⟨rowcount, after, here, wrote, rest⟩
  · exact .held ⟨session.made, by omega, early⟩ (.inr (by rw [ready]; exact same))
  · exact .refused (by rwa [ready])
  · rcases rest with ⟨rfl, same, late⟩ | ⟨rfl, closed, commits, read⟩
    · exact .landed (passes here) (by rwa [count]) (by rw [ready]; exact wrote) same
    · simp only at closed
      rw [closed]
      exact .returned (passes here) (by rwa [count]) (by rwa [count]) (by rw [ready]; exact wrote)

theorem attempt_moves (conn : Connection Db) :
    written.Moves draws faults conn.view (attempt faults (written.body draws) conn) := by
  cases ran : attempt faults (written.body draws) conn with
  | mk outcome left =>
      obtain ⟨made, played⟩ := attempt_plays ran
      cases prepares : written.prepare with
      | none =>
          have one : written.writes = 1 := by simp [writes, prepares]
          have same : written.prepared conn.view = conn.view := by simp [prepared, prepares]
          simp only [body, prepares] at played
          apply moves_of_main _ same one played
          intro op early
          exact absurd early (Nat.not_lt_zero op)
      | some change =>
          have two : written.writes = 2 := by simp [writes, prepares]
          have same : written.prepared conn.view = change.1 conn.view := by simp [prepared, prepares]
          simp only [body, prepares, bind_eq, play_bind, play_execute] at played
          cases first : faults 0 with
          | true =>
              simp only [first, if_true, Prod.mk.injEq, Session.mk.injEq] at played
              obtain ⟨rfl, rfl, -⟩ := played
              exact .held ⟨0, by omega, first⟩ (.inl rfl)
          | false =>
              simp only [first, Bool.false_eq_true, if_false] at played
              apply moves_of_main _ same two played
              intro op early
              rw [Nat.lt_one_iff.mp early]
              exact first

/-- One run where nothing is locked, as a run of the function. -/
theorem once_iff {base : Db} {value : Value} {left : Connection Db} :
    Once written.body base value left ↔
      left.pending = none ∧ ∃ draws, written.effect draws base = some (value, left.committed) := by
  constructor
  · rintro ⟨closed, draws, ran⟩
    refine ⟨closed, draws, ?_⟩
    have moves := @attempt_moves _ _ _ written draws (fun _ => false) ⟨base, none⟩
    rw [ran] at moves
    cases moves with
    | returned passed commits read wrote => simp only [effect, Connection.view_closed] at wrote ⊢; simp [wrote]
  · rintro ⟨closed, draws, ran⟩
    refine ⟨closed, draws, ?_⟩
    simp only [effect, Option.map_eq_some_iff, Prod.mk.injEq] at ran
    obtain ⟨⟨rowcount, after⟩, wrote, rfl, rfl⟩ := ran
    have moves := @attempt_moves _ _ _ written draws (fun _ => false) ⟨base, none⟩
    generalize attempt (fun _ => false) (written.body draws) ⟨base, none⟩ = ran at moves ⊢
    cases moves with
    | held stopped seen =>
        obtain ⟨op, -, locked⟩ := stopped
        cases locked
    | refused broken =>
        rw [Connection.view_closed, wrote] at broken
        cases broken
    | landed passed stopped wrote seen =>
        rcases stopped with locked | ⟨-, locked⟩ <;> cases locked
    | returned passed commits read again =>
        rw [Connection.view_closed, wrote] at again
        cases again
        rw [Connection.closed closed]

variable (written) in
/-- The pattern stops an attempt after its write, and each attempt before it at its write. -/
def Landed (faults : Nat → Nat → Bool) : Prop :=
  ∃ number, (∀ earlier < number, ∃ op < written.writes, faults earlier op = true) ∧
    (∀ op < written.writes, faults number op = false) ∧
    (faults number written.writes = true ∨
      written.reads = true ∧ faults number (written.writes + 1) = true)

variable (written) in
/-- To the function the tables are as good as `base`. -/
def Like (base db : Db) : Prop := ∀ draws, written.effect draws db = written.effect draws base

theorem like_prepared {base db : Db} (like : written.Like base db) :
    written.Like base (written.prepared db) := by
  intro draws
  rw [← like draws, effect, effect, prepared_twice]

variable (written) in
/-- A run over what a run has left is a run over the start. -/
def Absorbs (base : Db) : Prop :=
  ∀ draws value after, written.effect draws base = some (value, after) → written.Like base after

variable {faults : Nat → Nat → Bool} {draws : Nat → Draws} {value : Value} {left : Connection Db}

theorem effect_of_write {draws : Draws} {db after : Db} {rowcount : Nat}
    (wrote : written.write draws (written.prepared db) = some (rowcount, after)) :
    written.effect draws db = some (written.value draws rowcount after, after) := by
  simp [effect, wrote]

theorem attempt_once {base : Db} {number : Nat} {conn : Connection Db}
    (like : written.Like base conn.view)
    (ran : attempt (faults number) (written.body (draws number)) conn = (.ok value, left)) :
    Once written.body base value left := by
  have moves := @attempt_moves _ _ _ written (draws number) (faults number) conn
  rw [ran] at moves
  cases moves with
  | returned passed commits read wrote =>
      rw [once_iff]
      refine ⟨rfl, draws number, ?_⟩
      rw [← like]
      exact effect_of_write wrote

theorem retrying_absorbs {base : Db} (absorbs : written.Absorbs base) {delays : List Nat}
    {number : Nat} {conn : Connection Db} (like : written.Like base conn.view)
    (returned : retrying faults (fun number => written.body (draws number)) delays number conn =
      (.ok value, left)) :
    Once written.body base value left := by
  induction delays generalizing number conn with
  | nil => exact attempt_once like returned
  | cons delay delays ih =>
      simp only [retrying] at returned
      split at returned
      · rename_i between failed
        have moves := @attempt_moves _ _ _ written (draws number) (faults number) conn
        rw [failed] at moves
        apply ih _ returned
        cases moves with
        | held stopped seen =>
            rcases seen with same | same <;> rw [same]
            · exact like
            · exact like_prepared like
        | landed passed stopped wrote seen =>
            rw [seen]
            apply absorbs (draws number)
            rw [← like]
            exact effect_of_write wrote
      · exact attempt_once like returned

/-- Where no attempt is stopped after its write, the one that returns is the only one to write. -/
theorem retrying_unlanded {base : Db} {delays : List Nat} {number : Nat} {conn : Connection Db}
    (like : written.Like base conn.view)
    (before : ∀ earlier < number, ∃ op < written.writes, faults earlier op = true)
    (unlanded : ¬written.Landed faults)
    (returned : retrying faults (fun number => written.body (draws number)) delays number conn =
      (.ok value, left)) :
    Once written.body base value left := by
  induction delays generalizing number conn with
  | nil => exact attempt_once like returned
  | cons delay delays ih =>
      simp only [retrying] at returned
      split at returned
      · rename_i between failed
        have moves := @attempt_moves _ _ _ written (draws number) (faults number) conn
        rw [failed] at moves
        cases moves with
        | held stopped seen =>
            apply ih _ _ returned
            · rcases seen with same | same <;> rw [same]
              · exact like
              · exact like_prepared like
            · intro earlier sooner
              rcases Nat.lt_succ_iff_lt_or_eq.mp sooner with already | rfl
              · exact before earlier already
              · exact stopped
        | landed passed stopped wrote seen => exact absurd ⟨number, before, passed, stopped⟩ unlanded
      · exact attempt_once like returned

variable (written) in
/-- Once the function has written over `base` its tables are spoilt: it writes over them again,
and never comes to what one run over `base` comes to. -/
structure Spoils (base : Db) (Spoilt : Db → Prop) : Prop where
  lands : ∀ {draws : Draws} {rowcount : Nat} {after : Db},
    written.write draws (written.prepared base) = some (rowcount, after) → Spoilt after
  read : ∀ {draws : Draws} {rowcount : Nat} {after : Db},
    written.write draws (written.prepared base) = some (rowcount, after) → written.reads = true →
      (written.answer draws rowcount).isRight
  prepared : ∀ {db : Db}, Spoilt db → Spoilt (written.prepared db)
  stays : ∀ {draws : Draws} {rowcount : Nat} {db after : Db}, Spoilt db →
    written.write draws db = some (rowcount, after) → Spoilt after
  shows : ∀ {draws : Draws} {rowcount : Nat} {db after : Db}, Spoilt db →
    written.write draws db = some (rowcount, after) →
      ∀ other, written.effect other base ≠ some (written.value draws rowcount after, after)

variable {base : Db} {Spoilt : Db → Prop}

theorem attempt_spoilt (spoils : written.Spoils base Spoilt) {number : Nat} {conn : Connection Db}
    (spoilt : Spoilt conn.view)
    (ran : attempt (faults number) (written.body (draws number)) conn = (.ok value, left)) :
    ¬Once written.body base value left := by
  have moves := @attempt_moves _ _ _ written (draws number) (faults number) conn
  rw [ran] at moves
  cases moves with
  | returned passed commits read wrote =>
      rw [once_iff]
      rintro ⟨-, other, ran⟩
      exact spoils.shows (spoils.prepared spoilt) wrote other ran

theorem retrying_spoilt (spoils : written.Spoils base Spoilt) {delays : List Nat} {number : Nat}
    {conn : Connection Db} (spoilt : Spoilt conn.view)
    (returned : retrying faults (fun number => written.body (draws number)) delays number conn =
      (.ok value, left)) :
    ¬Once written.body base value left := by
  induction delays generalizing number conn with
  | nil => exact attempt_spoilt spoils spoilt returned
  | cons delay delays ih =>
      simp only [retrying] at returned
      split at returned
      · rename_i between failed
        have moves := @attempt_moves _ _ _ written (draws number) (faults number) conn
        rw [failed] at moves
        apply ih _ returned
        cases moves with
        | held stopped seen =>
            rcases seen with same | same <;> rw [same]
            · exact spoilt
            · exact spoils.prepared spoilt
        | landed passed stopped wrote seen =>
            rw [seen]
            exact spoils.stays (spoils.prepared spoilt) wrote
      · exact attempt_spoilt spoils spoilt returned

section

variable {start number : Nat} {conn : Connection Db}
  (spoils : written.Spoils base Spoilt) (same : written.prepared conn.view = written.prepared base)
  (later : start ≤ number)
  (before : ∀ earlier < number, ∃ op < written.writes, faults earlier op = true)
  (passed : ∀ op < written.writes, faults number op = false)
  (stopped : faults number written.writes = true ∨
    written.reads = true ∧ faults number (written.writes + 1) = true)

include spoils same later before passed stopped

theorem attempt_stops :
    attempt (faults start) (written.body (draws start)) conn ≠ (.ok value, left) := by
  intro ran
  have moves := @attempt_moves _ _ _ written (draws start) (faults start) conn
  rw [ran] at moves
  cases moves with
  | returned passes commits read wrote =>
      rcases Nat.lt_or_eq_of_le later with sooner | rfl
      · obtain ⟨op, early, locked⟩ := before start sooner
        rw [passes op early] at locked
        cases locked
      · rw [same] at wrote
        rcases stopped with locked | ⟨reads, locked⟩
        · rw [commits] at locked
          cases locked
        · rw [read (spoils.read wrote reads)] at locked
          cases locked

/-- A pattern that stops an attempt after its write, from a start that this spoils. -/
theorem retrying_landed {delays : List Nat}
    (returned : retrying faults (fun number => written.body (draws number)) delays start conn =
      (.ok value, left)) :
    ¬Once written.body base value left := by
  induction delays generalizing start conn with
  | nil => exact absurd returned (attempt_stops spoils same later before passed stopped)
  | cons delay delays ih =>
      simp only [retrying] at returned
      split at returned
      · rename_i between failed
        have moves := @attempt_moves _ _ _ written (draws start) (faults start) conn
        rw [failed] at moves
        cases moves with
        | held halted seen =>
            have apart : start ≠ number := by
              rintro rfl
              obtain ⟨op, early, locked⟩ := halted
              rw [passed op early] at locked
              cases locked
            apply ih _ _ returned
            · rcases seen with held | held <;> rw [held]
              · exact same
              · rw [prepared_twice, same]
            · omega
        | landed passes late wrote seen =>
            rw [same] at wrote
            exact retrying_spoilt spoils (by rw [seen]; exact spoils.lands wrote) returned
      · exact absurd returned (attempt_stops spoils same later before passed stopped)

end

theorem prepared_none (unprepared : written.prepare = none) (db : Db) : written.prepared db = db := by
  simp [Written.prepared, unprepared]

/-- A write that does over what it has left just what it does over the start. -/
theorem absorbs_of_again (unprepared : written.prepare = none)
    (again : ∀ {draws next : Draws} {rowcount : Nat} {after : Db},
      written.write draws base = some (rowcount, after) → written.write next after = written.write next base) :
    written.Absorbs base := by
  intro draws value after ran next
  simp only [effect, prepared_none unprepared, Option.map_eq_some_iff, Prod.mk.injEq] at ran ⊢
  obtain ⟨⟨rowcount, reached⟩, wrote, -, rfl⟩ := ran
  rw [again wrote]

theorem spoils_of_hit (unprepared : written.prepare = none) (hit : Db → Bool) (lost : Value)
    (here : hit base = true)
    (falls : ∀ {draws : Draws} {rowcount : Nat} {db after : Db},
      written.write draws db = some (rowcount, after) → hit after = false)
    (loses : ∀ {draws : Draws} {rowcount : Nat} {db after : Db}, hit db = false →
      written.write draws db = some (rowcount, after) → written.value draws rowcount after = lost)
    (wins : ∀ {draws : Draws} {rowcount : Nat} {db after : Db}, hit db = true →
      written.write draws db = some (rowcount, after) →
        written.value draws rowcount after ≠ lost ∧
          (written.reads = true → (written.answer draws rowcount).isRight)) :
    written.Spoils base fun db => hit db = false := by
  have same := @prepared_none _ _ _ written unprepared
  constructor
  · intro draws rowcount after wrote
    exact falls wrote
  · intro draws rowcount after wrote
    rw [same] at wrote
    exact (wins here wrote).2
  · intro db spoilt
    rwa [same]
  · intro draws rowcount db after spoilt wrote
    exact falls wrote
  · intro draws rowcount db after spoilt wrote other ran
    simp only [effect, same, Option.map_eq_some_iff, Prod.mk.injEq] at ran
    obtain ⟨⟨count, reached⟩, first, won, rfl⟩ := ran
    rw [loses spoilt wrote] at won
    exact (wins here first).1 won

theorem spoils_of_count (unprepared : written.prepare = none) (count : Db → Nat)
    (grows : ∀ {draws : Draws} {rowcount : Nat} {db after : Db},
      written.write draws db = some (rowcount, after) → count after = count db + 1)
    (read : ∀ draws rowcount, written.reads = true → (written.answer draws rowcount).isRight) :
    written.Spoils base fun db => count base < count db := by
  have same := @prepared_none _ _ _ written unprepared
  constructor
  · intro draws rowcount after wrote
    rw [same] at wrote
    have grown := grows wrote
    omega
  · intro draws rowcount after wrote
    exact read draws rowcount
  · intro db spoilt
    rwa [same]
  · intro draws rowcount db after spoilt wrote
    have grown := grows wrote
    omega
  · intro draws rowcount db after spoilt wrote other ran
    simp only [effect, same, Option.map_eq_some_iff, Prod.mk.injEq] at ran
    obtain ⟨⟨number, reached⟩, first, -, rfl⟩ := ran
    have once : count reached = count base + 1 := grows first
    have twice : count reached = count db + 1 := grows wrote
    omega

end Written

end Bugalizer.Store
