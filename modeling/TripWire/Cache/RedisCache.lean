import Mathlib
import TripWire.Lib.KeyedTable
import TripWire.Lib.Machine
import TripWire.Py.Basic

/-!
# The shared cache

`RedisCache` (`tripwire/cache.py`): any number of cache objects that share one Redis and one key
prefix.  Every object also keeps a local copy of what was set through it, with an expiry of its own,
and `get` falls back to that copy.

A method is two or more steps, with other tasks and other processes in between: the commands that
Redis executes (`GET`, `SET`, `DEL`, or the replies of a `SCAN` and then a `DEL`), and the rest of
the method, which touches the local copies and returns.  `CacheSystem.clock` counts the steps of the
run, so that what happened before what can be said.

The JSON encoding and the glob matching of Redis are parameters.
-/

namespace TripWire

open Py

/-- What all cache objects have in common. -/
structure CacheConfig (V : Type) where
  keyPrefix : String := "cache"
  defaultTtl : ℤ := 30
  /-- `json.dumps(value, default=str)`. -/
  dumps : V → String
  /-- `json.loads`; `none` when it raises. -/
  loads : String → Option V
  /-- Whether Redis finds that a key matches a pattern. -/
  globMatch : String → String → Bool

variable {V : Type}

/-- `_key`. -/
def CacheConfig.key (C : CacheConfig V) (name : String) : String := C.keyPrefix ++ ":" ++ name

/-- A key of Redis, with the `set` call that wrote it, the step at which that was, and the step
since which the key has been there without interruption. -/
structure StoredEntry where
  key : String
  raw : String
  origin : ℕ
  written : ℕ
  since : ℕ
  deriving DecidableEq, Repr

/-- An entry of `_local` of one object, with the `set` call that wrote it and when. -/
structure LocalEntry (V : Type) where
  object : ℕ
  key : String
  value : V
  expiresAt : ℤ
  origin : ℕ
  written : ℕ

/-- An object has one local entry for a key. -/
def LocalEntry.slot (e : LocalEntry V) : ℕ × String := (e.object, e.key)

/-- The methods of a cache object. -/
inductive CacheOp (V : Type) where
  | get (name : String)
  | set (name : String) (value : V) (ttl : Option ℤ)
  | delete (name : String)
  | invalidatePattern (pattern : String)

/-- Where a call stands. -/
inductive CacheStage where
  /-- Its first Redis command has not been executed. -/
  | waiting
  /-- `invalidate_pattern` collects the keys of the `SCAN`. -/
  | scanning (found : List String)
  /-- Redis has answered; the rest of the method follows. -/
  | answered
  | returned
  deriving DecidableEq, Repr

/-- A value that `get` returned: from Redis or from the local copy, and the `set` call behind it. -/
structure CacheHit (V : Type) where
  value : V
  fromRedis : Bool
  origin : ℕ
  written : ℕ

/-- A call of a method. -/
structure CacheCall (V : Type) where
  object : ℕ
  op : CacheOp V
  stage : CacheStage := .waiting
  /-- The step at which the method was called. -/
  began : ℕ
  /-- The step at which Redis executed its first command. -/
  touched : Option ℕ := none
  /-- The step at which the method returned. -/
  ended : Option ℕ := none
  /-- What a `get` returned; `none` for `None`. -/
  result : Option (CacheHit V) := none

/-- Redis, the local copies of all objects and the calls. -/
structure CacheSystem (V : Type) where
  redis : KeyedTable StoredEntry.key := .empty
  locals : KeyedTable (LocalEntry.slot (V := V)) := .empty
  calls : List (CacheCall V) := []
  clock : ℕ := 0

/-- One step of a run. -/
inductive CacheAction (V : Type) where
  /-- A method is called on a cache object. -/
  | call (object : ℕ) (op : CacheOp V)
  /-- Redis executes the next command of the call `i`. -/
  | redis (i : ℕ)
  /-- A reply to the `SCAN` of the call `i`. -/
  | scan (i : ℕ) (keys : List String)
  /-- The Redis command of the call `i` raises. -/
  | raise (i : ℕ)
  /-- The call `i` runs to its end after Redis has answered; `time.time()` is `time`. -/
  | finish (i : ℕ) (time : ℤ)
  /-- A key of Redis expires. -/
  | expire (key : String)

/-! ### The methods -/

section Methods

variable (C : CacheConfig V)

/-- What `get` makes of a reply: `if raw: return json.loads(raw)`. -/
def decodeReply (reply : Option StoredEntry) : Option (CacheHit V) :=
  reply.bind fun e =>
    if e.raw = "" then none
    else (C.loads e.raw).map fun value =>
      { value, fromRedis := true, origin := e.origin, written := e.written }

/-- The `SCAN` is over: every matching key that has been there all the time has been returned. -/
def scanComplete (redis : KeyedTable StoredEntry.key) (pattern : String) (start : Option ℕ)
    (found : List String) : Bool :=
  redis.rows.all fun e =>
    !C.globMatch (C.key pattern) e.key || start.any (· ≤ e.since) || e.key ∈ found

/-- The Redis part of the call `i`: one command. -/
def redisCommand (redis : KeyedTable StoredEntry.key) (clock i : ℕ) (c : CacheCall V) :
    KeyedTable StoredEntry.key × CacheCall V :=
  match c.stage, c.op with
  | .waiting, .get name =>
    match decodeReply C (redis.get? (C.key name)) with
    | some hit =>
      (redis, { c with stage := .returned, touched := some clock, ended := some clock,
                       result := some hit })
    -- A miss, an empty value and a value that is not JSON all lead to the local copy.
    | none => (redis, { c with stage := .answered, touched := some clock })
  | .waiting, .set name value _ =>
    (redis.put
        { key := C.key name, raw := C.dumps value, origin := i, written := clock,
          since := ((redis.get? (C.key name)).map (·.since)).getD clock },
      { c with stage := .answered, touched := some clock })
  | .waiting, .delete name =>
    (redis.deleteWhere fun e => e.key = C.key name,
      { c with stage := .answered, touched := some clock })
  | .waiting, .invalidatePattern _ =>
    (redis, { c with stage := .scanning [], touched := some clock })
  | .scanning found, .invalidatePattern pattern =>
    if scanComplete C redis pattern c.touched found then
      (redis.deleteWhere fun e => e.key ∈ found, { c with stage := .answered })
    else (redis, c)
  | _, _ => (redis, c)

/-- A reply of the `SCAN`: matching keys that are there. -/
def scanReply (redis : KeyedTable StoredEntry.key) (keys : List String) (c : CacheCall V) :
    CacheCall V :=
  match c.stage, c.op with
  | .scanning found, .invalidatePattern pattern =>
    { c with
      stage := .scanning (found ++ keys.filter fun k =>
        C.globMatch (C.key pattern) k && (redis.get? k).isSome) }
  | _, _ => c

/-- An exception of the Redis client is swallowed, and the method goes on. -/
def raiseCommand (c : CacheCall V) : CacheCall V :=
  match c.stage with
  | .waiting | .scanning _ => { c with stage := .answered }
  | .answered | .returned => c

/-- The seconds an entry lives: `ttl or self._default_ttl`. -/
def entryTtl (ttl : Option ℤ) : ℤ := (ttl.filter (· ≠ 0)).getD C.defaultTtl

/-- Whether a method removes the key from the local copy of its object.  `invalidate_pattern`
compares with the pattern less its stars. -/
def clearsLocal : CacheOp V → String → Bool
  | .delete name, key => key = C.key name
  | .invalidatePattern pattern, key =>
    startsWith key (C.keyPrefix ++ ":" ++ String.ofList (pattern.toList.filter (· ≠ '*')))
  | _, _ => false

/-- The local part of the call `i`. -/
def localPart (locals : KeyedTable (LocalEntry.slot (V := V))) (clock i : ℕ) (time : ℤ)
    (c : CacheCall V) : KeyedTable (LocalEntry.slot (V := V)) × CacheCall V :=
  match c.stage with
  | .answered =>
    let c' := { c with stage := .returned, ended := some clock }
    match c.op with
    | .get name =>
      match locals.get? (c.object, C.key name) with
      | none => (locals, c')
      | some e =>
        if time < e.expiresAt then
          (locals,
            { c' with
              result := some
                { value := e.value, fromRedis := false, origin := e.origin,
                  written := e.written } })
        else (locals.deleteWhere fun e => e.slot = (c.object, C.key name), c')
    | .set name value ttl =>
      (locals.put
        { object := c.object, key := C.key name, value, expiresAt := time + entryTtl C ttl,
          origin := i, written := clock }, c')
    | op => (locals.deleteWhere fun e => e.object = c.object && clearsLocal C op e.key, c')
  | _ => (locals, c)

/-- The system after a step. -/
def cacheStep (s : CacheSystem V) (a : CacheAction V) : CacheSystem V :=
  let s' := { s with clock := s.clock + 1 }
  match a with
  | .call object op => { s' with calls := s.calls ++ [{ object, op, began := s.clock }] }
  | .redis i =>
    match s.calls[i]? with
    | none => s'
    | some c =>
      let (redis, c') := redisCommand C s.redis s.clock i c
      { s' with redis, calls := s.calls.set i c' }
  | .scan i keys =>
    match s.calls[i]? with
    | none => s'
    | some c => { s' with calls := s.calls.set i (scanReply C s.redis keys c) }
  | .raise i =>
    match s.calls[i]? with
    | none => s'
    | some c => { s' with calls := s.calls.set i (raiseCommand c) }
  | .finish i time =>
    match s.calls[i]? with
    | none => s'
    | some c =>
      let (locals, c') := localPart C s.locals s.clock i time c
      { s' with locals, calls := s.calls.set i c' }
  | .expire key => { s' with redis := s.redis.deleteWhere fun e => e.key = key }

end Methods

end TripWire
