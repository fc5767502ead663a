import TripWire.Db.World

/-!
# The functions of the migrated database

The repositories and the poller reach plpgsql functions by name (`sb.rpc(name, …)`); a name that the
database does not know is an exception in the client.  Which functions a database has is decided by
the migrations that were applied to it, in order: `migrations` lists the statements of
`tripwire/db/migrations` that create or drop a function, `functionsAfter` is the set that is left.

`Env.onDatabase` joins this to a step: a call behind which there is a function raises when the
function is missing, whatever else the environment answers.
-/

namespace TripWire

/-- The functions that some migration creates or drops. -/
inductive DbFunction where
  | setWalletContext
  | incrementTemplateInstallCount
  | updateUpdatedAtColumn
  | syncTemplateInstallCount
  | recordNonceWithReorg
  | archiveOldNonces
  | recordNonceOrCorrelate
  | tryAcquireLeaderLock
  | releaseLeaderLock
  deriving DecidableEq, Repr

/-- A statement about a function. -/
inductive FunctionStatement where
  /-- `CREATE OR REPLACE FUNCTION` -/
  | create (f : DbFunction)
  /-- `DROP FUNCTION IF EXISTS` -/
  | drop (f : DbFunction)
  deriving DecidableEq, Repr

/-- A migration file: its number and its statements about functions. -/
structure Migration where
  number : ℕ
  statements : List FunctionStatement
  deriving DecidableEq, Repr

/-- The migrations with a statement about functions, in order; 028 is the last of all. -/
def migrations : List Migration :=
  [⟨11, [.create .setWalletContext]⟩,
   ⟨13, [.create .incrementTemplateInstallCount, .create .updateUpdatedAtColumn]⟩,
   ⟨15, [.drop .incrementTemplateInstallCount, .create .syncTemplateInstallCount]⟩,
   ⟨18, [.create .recordNonceWithReorg]⟩,
   ⟨19, [.create .archiveOldNonces, .create .recordNonceWithReorg]⟩,
   ⟨20, [.create .recordNonceOrCorrelate]⟩,
   ⟨27, [.create .tryAcquireLeaderLock, .create .releaseLeaderLock]⟩,
   ⟨28, [.drop .tryAcquireLeaderLock, .drop .releaseLeaderLock]⟩]

/-- The functions after a statement. -/
def applyStatement (functions : List DbFunction) : FunctionStatement → List DbFunction
  | .create f => functions.insert f
  | .drop f => functions.filter (· ≠ f)

/-- The functions of a database to which the migrations were applied in order. -/
def functionsAfter (ms : List Migration) : List DbFunction :=
  (ms.flatMap Migration.statements).foldl applyStatement []

/-- The function behind a call; the calls without one are statements on tables, RPC calls to a node
or calls of the webhook provider. -/
def Call.function? : Call → Option DbFunction
  | .recordNonce => some .recordNonceOrCorrelate
  | .recordTriggerNonce _ => some .recordNonceWithReorg
  | .acquireLock => some .tryAcquireLeaderLock
  | _ => none

/-- The environment on a database with the given functions. -/
def Env.onDatabase (functions : List DbFunction) (env : Env) : Env :=
  { env with raises := fun c => env.raises c || c.function?.any (· ∉ functions) }

/-- On a database with the function, the call raises only if it would anyway. -/
theorem raises_onDatabase_of_mem {functions : List DbFunction} {env : Env} {c : Call}
    {f : DbFunction} (hf : c.function? = some f) (hmem : f ∈ functions) :
    (env.onDatabase functions).raises c = env.raises c := by
  simp [Env.onDatabase, hf, hmem]

/-- On a database without the function, the call raises. -/
theorem raises_onDatabase_of_not_mem {functions : List DbFunction} {env : Env} {c : Call}
    {f : DbFunction} (hf : c.function? = some f) (hmem : f ∉ functions) :
    (env.onDatabase functions).raises c = true := by
  simp [Env.onDatabase, hf, hmem]

/-- Calls without a function do not depend on the migrations. -/
theorem raises_onDatabase_of_table {functions : List DbFunction} {env : Env} {c : Call}
    (hf : c.function? = none) : (env.onDatabase functions).raises c = env.raises c := by
  simp [Env.onDatabase, hf]

end TripWire
