import SparkPlug.Store

/-!
`Server::check` and `Server::prune`, which run in processes of their own on the
same store. A check reads the running applications once and then takes them one
after the other.
-/
namespace SparkPlug

def HEALTH_CHECK_RETRIES : Nat := 3

/-- A health check succeeds with the first attempt that does. -/
def checkApplicationHealth (outcome : Nat → Bool) : Bool :=
  (List.range (HEALTH_CHECK_RETRIES + 1)).any outcome

inductive Check where
  | next (apps : List Model)
  /- The health check has failed and the update of the row is pending. -/
  | failing (app : Model) (rest : List Model)
  | ended (result : Except Unit Unit)
  deriving DecidableEq

/-- An application without an address fails without being probed. -/
def Check.shouldFail (app : Model) (outcome : Nat → Bool) : Bool :=
  match app.address with
  | some _ => !checkApplicationHealth outcome
  | none => true

inductive CheckAction where
  | checkRead (stored : Bool)
  | checkProbe (n : Nat) (outcome : Nat → Bool)
  | checkUpdate (n : Nat) (stored : Bool)
  | prune (cutoff : DateTimeUtc) (stored : Bool)

structure CheckOutcome where
  checks : List Check
  statement : Option Statement := none

def runningApps (db : Db) : List Model := db.select fun r => r.state = .running

namespace Check

def step (db : Db) (checks : List Check) : CheckAction → Option CheckOutcome
  | .checkRead stored =>
    let phase : Check := if stored then .next (runningApps db) else .ended (.error ())
    some { checks := checks ++ [phase] }
  | .checkProbe n outcome =>
    match checks[n]? with
    | some (.next []) => some { checks := checks.set n (.ended (.ok ())) }
    | some (.next (app :: rest)) =>
      if shouldFail app outcome then some { checks := checks.set n (.failing app rest) }
      else some { checks := checks.set n (.next rest) }
    | _ => none
  | .checkUpdate n stored =>
    match checks[n]? with
    | some (.failing app rest) =>
      if stored then
        -- updating a missing row is an error, which ends the whole check
        let phase : Check :=
          if db.rowsAffected (.checkFailed app.id) = 0 then .ended (.error ()) else .next rest
        some { checks := checks.set n phase, statement := some (.checkFailed app.id) }
      else some { checks := checks.set n (.ended (.error ())) }
    | _ => none
  | .prune cutoff stored =>
    some { checks := checks, statement := if stored then some (.prune cutoff) else none }

end Check

theorem Check.fails_iff (app : Model) (outcome : Nat → Bool) :
    Check.shouldFail app outcome = true ↔
      app.address = none ∨ ∀ k ≤ HEALTH_CHECK_RETRIES, outcome k = false := by
  unfold Check.shouldFail checkApplicationHealth
  cases app.address with
  | none => simp
  | some address =>
    simp only [Bool.not_eq_true', List.any_eq_false, List.mem_range, Nat.lt_add_one_iff,
      Bool.not_eq_true, reduceCtorEq, false_or]

theorem Check.step_statement {db : Db} {checks : List Check} {a : CheckAction}
    {outcome : CheckOutcome} (h : Check.step db checks a = some outcome) :
    outcome.statement = none ∨
      (∃ n app rest, a = .checkUpdate n true ∧ checks[n]? = some (.failing app rest) ∧
        outcome.statement = some (.checkFailed app.id)) ∨
      ∃ cutoff, a = .prune cutoff true ∧ outcome.statement = some (.prune cutoff) := by
  cases a <;> grind [Check.step]

end SparkPlug
