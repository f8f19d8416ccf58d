/-
# The calls of a request

Everything a request does outside its own computation: reading the shared
application table, entering a blocking section, querying the IFA store, drawing
randomness, reading the clock, handing a record to the Kafka producer, counting
and logging. The answer types list every outcome the code distinguishes.
-/

import XorcGateway.Effects.Program
import XorcGateway.Encryption
import XorcGateway.Events.Output
import XorcGateway.Registry.Application

namespace XorcGateway

open Effects Events Rust

/-- The two statements on `gw_known_ifas`. -/
inductive Query
  | selectEntityId (appId ifa : Uuid)
  | insertKnownIfa (appId ifa entityId : Uuid)
  deriving DecidableEq

/-- Why `run_query` fails. -/
inductive QueryError
  | /-- No connection from the pool: the statement was never sent. -/
    noConnection
  | /-- The driver reports an error. Whether the statement was carried out all
    the same is nothing the caller can see. -/
    queryFailed (carriedOut : Bool)
  deriving DecidableEq

/-- A result row: its `entity_id` column, if it can be read as a UUID. -/
structure Row where
  entityId : Option Uuid
  deriving DecidableEq

/-- A decoded response body: its rows, if it is a rows result. -/
structure ResponseBody where
  rows : Option (List Row)
  deriving DecidableEq

/-- A response frame: its body, or `none` where `get_body` gives an `Err`. That
`get_body` returns is a hypothesis on `cdrs`: a frame on which it panics is not
among the answers. -/
structure Frame where
  body : Option ResponseBody
  deriving DecidableEq

/-- `rdkafka`'s `FutureRecord`. -/
structure FutureRecord where
  topic : String
  partition : Option Int32
  payload : Output.SdkEventBatch
  key : Option (List UInt8)
  timestamp : Option Int64
  deriving DecidableEq

/-- `futures::Canceled`: the producer was dropped. -/
structure Canceled
  deriving DecidableEq

/-- The record could not be queued or delivered. -/
structure KafkaError
  deriving DecidableEq

/-- What the future of `FutureProducer::send` resolves to: the delivery result
is nested inside the result of the future. -/
abbrev SendResult := Except Canceled (Except KafkaError (Int32 × Int64))

/-- `tokio_threadpool::BlockingError`. -/
structure BlockingError
  deriving DecidableEq

/-- The Prometheus counters a request increments, with their labels. -/
inductive Counter
  | scylladbRequests (method status : String)
  | events
  | requests (status endpoint : String)
  deriving DecidableEq

/-- The log lines of a request. -/
inductive LogLine
  | couldNotReadIfa (error : QueryError)
  | sentDownstream (eventCount : ℕ)
  | responseError (description : String)
  deriving DecidableEq

inductive Call
  | /-- `APP_REGISTRY.apps.get()` -/
    loadApps
  | /-- `blocking(..)` on the thread pool. -/
    blocking
  | query (statement : Query)
  | /-- `thread_rng().fill_bytes(&mut nonce)` -/
    fillNonce
  | /-- `Uuid::new_v4()` -/
    newV4
  | /-- `Utc::now().timestamp_millis()` -/
    utcNow
  | /-- `producer.send(record, 1000)` -/
    send (record : FutureRecord)
  | inc (counter : Counter) (amount : ℕ)
  | log (line : LogLine)

/-- The calls and their answers. -/
@[reducible]
def Calls : Signature.{0} where
  Call := Call
  Answer
    | .loadApps => HashMap String Application
    | .blocking => Except BlockingError Unit
    | .query _ => Except QueryError Frame
    | .fillNonce => Nonce
    | .newV4 => Uuid
    | .utcNow => ℤ
    | .send _ => SendResult
    | .inc _ _ => Unit
    | .log _ => Unit

/-- The same answer to every lookup, and the same to every write. -/
def Query.answering (looked written : Except QueryError Frame) :
    Query → Except QueryError Frame
  | .selectEntityId _ _ => looked
  | .insertKnownIfa _ _ _ => written

/-- One fixed reply to every call, for runs that are played through. Left open,
nothing outside works. -/
structure Replies where
  apps : HashMap String Application := .new
  blocking : Except BlockingError Unit := .ok ()
  query : Query → Except QueryError Frame := fun _ => .error .noConnection
  nonce : Nonce := ⟨List.replicate 12 0, by simp⟩
  uuid : Uuid := Uuid.nil
  send : SendResult := .error {}

def Replies.reply (replies : Replies) : ∀ c, Calls.Answer c
  | .loadApps => replies.apps
  | .blocking => replies.blocking
  | .query statement => replies.query statement
  | .fillNonce => replies.nonce
  | .newV4 => replies.uuid
  | .utcNow => (0 : ℤ)
  | .send _ => replies.send
  | .inc _ _ => ()
  | .log _ => ()

instance (c : Calls.Call) : Nonempty (Calls.Answer c) :=
  ⟨({} : Replies).reply c⟩

/-- The part of a request that talks to the outside world. -/
abbrev Request := Program Calls

/-- Make one call. -/
abbrev perform (c : Call) : Request (Calls.Answer c) :=
  Program.perform (S := Calls) c

/-- Continue with a computation that may panic. -/
def liftPanic {α : Type} : Except Panic α → Request α
  | .ok value => pure value
  | .error _ => .panic

@[simp]
theorem liftPanic_ok {α : Type} (value : α) : liftPanic (.ok value) = .done value := rfl

@[simp]
theorem liftPanic_error {α : Type} (panic : Panic) :
    (liftPanic (.error panic) : Request α) = .panic := rfl

/-- The calls other systems see: a query on the IFA store, or a record handed
to Kafka. -/
def Call.IsExternal : Call → Prop
  | .query _ => True
  | .send _ => True
  | _ => False

instance : DecidablePred Call.IsExternal
  | .query _ => .isTrue trivial
  | .send _ => .isTrue trivial
  | .loadApps | .blocking | .fillNonce | .newV4 | .utcNow | .inc _ _ | .log _ => .isFalse id

end XorcGateway
