-- SUMMARY: The idempotency interceptor: its keys, and the steps of a request between Redis commands and the handler.
import Expentra.Core.Json
import Expentra.Core.Redis
import Expentra.Library.Interleaving

/-!
# The idempotency interceptor

A request of an idempotent route asks Redis for the stored response of its key,
else takes a lock, runs the handler, stores the response and releases the lock. A
request that does not get the lock polls for the stored response.

Each Redis command and the completion of the handler is one step, so that the
steps of any number of requests interleave. The lock and the stored responses do
not expire here.
-/

namespace Expentra.Idempotency

open Library

/-! ## Keys -/

/-- `request.headers[name]` -/
inductive HeaderValue where
  | absent
  | one (value : String)
  | many (values : List String)
deriving DecidableEq, Repr

structure Request where
  userId : Nat
  method : String
  /-- `request.route?.path` -/
  routePath : Option String
  path : String
  idempotencyKey : HeaderValue
  body : Json

/-- `readIdempotencyKey` -/
def readIdempotencyKey (request : Request) : Except HttpException String :=
  let key := match request.idempotencyKey with
    | .one value => Js.trim value
    | .many (value :: _) => Js.trim value
    | .many [] => ""
    | .absent => ""
  if Js.length key < 8 || 128 < Js.length key then
    .error (.badRequest "A valid idempotency-key header (8-128 characters) is required")
  else .ok key

def buildIdempotencyStorageKey (hashRequestBody : Json → String) (idempotencyKey : String)
    (body : Json) : String :=
  idempotencyKey ++ ":" ++ hashRequestBody body

def routeKey (request : Request) : String := request.method ++ ":" ++ request.routePath.getD request.path

/-- The part of the two Redis keys that names the request. -/
def scope (userId : Nat) (routeKey storageKey : String) : String :=
  toString userId ++ ":" ++ routeKey ++ ":" ++ storageKey

def buildKey (scope : String) : String := "idempotency:" ++ scope

def buildLockKey (scope : String) : String := "idempotency:lock:" ++ scope

theorem buildKey_inj {k k' : String} : buildKey k = buildKey k' ↔ k = k' :=
  String.append_right_inj _

theorem buildLockKey_inj {k k' : String} : buildLockKey k = buildLockKey k' ↔ k = k' :=
  String.append_right_inj _

/-! ## The steps of a request -/

structure IdempotencyRecord where
  statusCode : Nat
  body : Json

inductive Reply where
  | success (record : IdempotencyRecord)
  | error (exception : HttpException)
  /-- The error of a Redis command. -/
  | storeFailed

/-- Where a request is: the next command it waits for, or its reply. -/
inductive Phase where
  | reading
  | locking
  /-- In `waitForRecord`, after a number of attempts. -/
  | waiting (attempt : Nat)
  | handling
  | saving (record : IdempotencyRecord)
  /-- In the `finally` block, with the reply of the `try` block. -/
  | releasing (reply : Reply)
  | replied (reply : Reply)

structure Thread where
  scope : String
  phase : Phase

/-- The keys in Redis. The source stores `'1'` in a lock; here the value names the
    request that holds it. `completions` lists the responses the handler returned for
    each scope. -/
structure State where
  records : Redis String IdempotencyRecord
  locks : Redis String Nat
  completions : String → List IdempotencyRecord

/-- What the surroundings of a request decide. -/
inductive Outcome where
  /-- The command is executed and answered. -/
  | answers
  /-- The command throws; it may have been executed nevertheless. -/
  | fails (executed : Bool)
  | handled (statusCode : Nat) (body : Json)
  | throws (exception : HttpException)

def waitAttempts : Nat := 30

def inProgress : HttpException :=
  .conflict "A request with this idempotency key is already in progress"

/-- `intercept` up to its first command. -/
def arrive (hashRequestBody : Json → String) (request : Request) : Thread :=
  match readIdempotencyKey request with
  | .ok key => ⟨scope request.userId (routeKey request)
      (buildIdempotencyStorageKey hashRequestBody key request.body), .reading⟩
  | .error exception => ⟨"", .replied (.error exception)⟩

/-- The next step of a request. -/
def advance (i : Nat) (s : State) (t : Thread) (outcome : Outcome) : Option (State × Thread) :=
  match t.phase, outcome with
  | .reading, .answers =>
    match s.records (buildKey t.scope) with
    | some existing => some (s, { t with phase := .replied (.success existing) })
    | none => some (s, { t with phase := .locking })
  | .reading, .fails _ => some (s, { t with phase := .replied .storeFailed })
  | .locking, .answers =>
    let (lockAcquired, locks) := s.locks.setIfNotExists (buildLockKey t.scope) i
    if lockAcquired then some ({ s with locks := locks }, { t with phase := .handling })
    else some (s, { t with phase := .waiting 0 })
  | .locking, .fails executed =>
    let locks := if executed then (s.locks.setIfNotExists (buildLockKey t.scope) i).2 else s.locks
    some ({ s with locks := locks }, { t with phase := .replied .storeFailed })
  | .waiting attempt, .answers =>
    match s.records (buildKey t.scope) with
    | some completed => some (s, { t with phase := .replied (.success completed) })
    | none =>
      if attempt + 1 < waitAttempts then some (s, { t with phase := .waiting (attempt + 1) })
      else some (s, { t with phase := .replied (.error inProgress) })
  | .waiting _, .fails _ => some (s, { t with phase := .replied .storeFailed })
  | .handling, .handled statusCode body =>
    let record : IdempotencyRecord := ⟨if statusCode = 0 then 200 else statusCode, body⟩
    some ({ s with completions :=
        Function.update s.completions t.scope (s.completions t.scope ++ [record]) },
      { t with phase := .saving record })
  | .handling, .throws exception => some (s, { t with phase := .releasing (.error exception) })
  | .saving record, .answers =>
    some ({ s with records := s.records.setCache (buildKey t.scope) record },
      { t with phase := .releasing (.success record) })
  | .saving record, .fails executed =>
    let records := if executed then s.records.setCache (buildKey t.scope) record else s.records
    some ({ s with records := records }, { t with phase := .releasing .storeFailed })
  | .releasing reply, .answers =>
    some ({ s with locks := s.locks.del (buildLockKey t.scope) }, { t with phase := .replied reply })
  | .releasing _, .fails executed =>
    let locks := if executed then s.locks.del (buildLockKey t.scope) else s.locks
    some ({ s with locks := locks }, { t with phase := .replied .storeFailed })
  | _, _ => none

/-- Requests of idempotent routes by authenticated users, in any order of their steps. -/
def interceptor (hashRequestBody : Json → String) : Concurrent State Thread Request Outcome Empty where
  start s request := some (s, arrive hashRequestBody request)
  step := advance
  surroundings _ event := nomatch event

/-- Before any request. -/
def empty : State := ⟨fun _ => none, fun _ => none, fun _ => []⟩

end Expentra.Idempotency
