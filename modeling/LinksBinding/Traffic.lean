import LinksBinding.Store

/-!
# Calls on the store by several clients

Updates, removals and lookups come from clients that do not wait for one another. A removal and a
lookup happen at once. An update takes two steps on the store, and steps of other clients may come
between them: first its version is checked, then, when the document is analysed, the analysis is
published. Which client takes the next step is open, so a run is given by a schedule, the list of
the clients in the order in which they take steps.
-/

namespace LinksBinding

namespace DocumentStore

/-- What a client asks of the store. -/
inductive Call where
  /-- to analyse a version of a document -/
  | update (request : Update)
  /-- to close a document -/
  | remove (uri : String)
  /-- for the published analysis of a document -/
  | get (uri : String)
  deriving Repr

/-- The document that a call is about. -/
def Call.uri : Call → String
  | update request => request.uri
  | remove uri | get uri => uri

/-- What a client is told. -/
inductive Answer where
  /-- what became of an update -/
  | updated (outcome : Except UpdateError Analysis)
  /-- what was published of a document that is closed now -/
  | removed (analysis : Option Analysis)
  /-- what is published of a document -/
  | found (analysis : Option Analysis)
  deriving Repr

/-- A client with its call, by how far the call has come. -/
inductive Client where
  /-- nothing is done yet -/
  | waiting (call : Call)
  /-- the version of an update is checked, and the document is being analysed -/
  | analysing (request : Update)
  /-- the call is over -/
  | answered (call : Call) (answer : Answer)
  deriving Repr

namespace Client

/-- The call of a client. -/
def call : Client → Call
  | waiting call | answered call _ => call
  | analysing request => .update request

/-- Whether the call is over. -/
def isAnswered : Client → Bool
  | answered _ _ => true
  | _ => false

/-- The next step of a client, with the store that it leaves. -/
def step (store : DocumentStore) : Client → Client × DocumentStore
  | waiting (.update request) =>
    match store.precheck? request.uri request.version with
    | some error => (answered (.update request) (.updated (.error error)), store)
    | none => (analysing request, store)
  | analysing request =>
    let (outcome, store) := store.finish request
    (answered (.update request) (.updated outcome), store)
  | waiting (.remove uri) =>
    (answered (.remove uri) (.removed ((store.get? uri).map (·.analysis))), store.remove uri)
  | waiting (.get uri) =>
    (answered (.get uri) (.found ((store.get? uri).map (·.analysis))), store)
  | answered call answer => (answered call answer, store)

end Client

end DocumentStore

open DocumentStore

/-- The store with its clients. -/
structure Traffic where
  /-- the store -/
  store : DocumentStore
  /-- the clients -/
  clients : List Client
  deriving Repr

namespace Traffic

/-- Clients that are about to make their calls. -/
def start (store : DocumentStore) (calls : List Call) : Traffic := ⟨store, calls.map .waiting⟩

/-- The traffic after the next step of one client. -/
def step (traffic : Traffic) (client : Nat) : Traffic :=
  match traffic.clients[client]? with
  | some current =>
    let (next, store) := current.step traffic.store
    ⟨store, traffic.clients.set client next⟩
  | none => traffic

/-- The traffic after the steps of a schedule. -/
def run (traffic : Traffic) (schedule : List Nat) : Traffic := schedule.foldl step traffic

/-- Whether all calls are over. -/
def isOver (traffic : Traffic) : Bool := traffic.clients.all (·.isAnswered)

end Traffic

end LinksBinding
