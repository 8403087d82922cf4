import LinksBinding.Analysis

/-!
# Open documents

The latest good analysis of every open document, with the version of the document that it is of.

An update happens in two steps, between which other updates may happen: first `precheck?` refuses
a version older than the published one, then, when the analysis is done, `publish` puts it in
place unless a newer version has been published meanwhile. A document that cannot be analysed
leaves the analysis before it in place.
-/

namespace LinksBinding

/-- A published analysis. -/
structure Published where
  /-- the version of the document -/
  version : Int
  /-- its analysis -/
  analysis : Analysis
  deriving Repr

/-- The open documents. -/
structure DocumentStore where
  /-- the options that documents are analysed with -/
  options : Options
  /-- the documents by their names, each once -/
  documents : List (String × Published)
  deriving Repr

/-- Why an update is not published. -/
inductive UpdateError where
  /-- the tree of the document is not built -/
  | tree (error : BuildFailure)
  /-- a newer version is published already -/
  | stale (version current : Int)
  deriving DecidableEq, Repr

/-- The wording of an update error. -/
def UpdateError.message : UpdateError → String
  | .tree error => error.message
  | .stale version current =>
    "version " ++ toString version ++ " is older than the published version " ++ toString current

namespace DocumentStore

/-- No open documents. -/
def empty (options : Options) : DocumentStore := ⟨options, []⟩

/-- The published analysis of a document. -/
def get? (store : DocumentStore) (uri : String) : Option Published := store.documents.lookup uri

/-- Number of open documents. -/
def size (store : DocumentStore) : Nat := store.documents.length

/-- The names of the open documents in order. -/
def uris (store : DocumentStore) : List String :=
  (store.documents.map (·.1)).mergeSort (· ≤ ·)

/-- The store without a document. -/
def remove (store : DocumentStore) (uri : String) : DocumentStore :=
  { store with documents := store.documents.filter (·.1 != uri) }

/-- The store with a document in place of the one of that name. -/
def put (store : DocumentStore) (uri : String) (published : Published) : DocumentStore :=
  { store with documents := (uri, published) :: (store.remove uri).documents }

/-! ## Updates -/

/-- The newer version of a document that is published, if there is one. -/
def newerThan? (store : DocumentStore) (uri : String) (version : Int) : Option Int :=
  match store.get? uri with
  | some published => if published.version > version then some published.version else none
  | none => none

/-- Refuses a version older than the published one. -/
def precheck? (store : DocumentStore) (uri : String) (version : Int) : Option UpdateError :=
  (store.newerThan? uri version).map (.stale version)

/-- Puts an analysis in place unless a newer version is published. -/
def publish (store : DocumentStore) (uri : String) (version : Int) (analysis : Analysis) :
    Except UpdateError DocumentStore :=
  match store.newerThan? uri version with
  | some current => .error (.stale version current)
  | none => .ok (store.put uri ⟨version, analysis⟩)

/-- A version of a document to analyse. -/
structure Update where
  /-- the document -/
  uri : String
  /-- its version -/
  version : Int
  /-- its text -/
  source : String
  /-- the text of the parser's output for it -/
  treeText : String
  deriving Repr

/-- The analysis of a version of a document. -/
def Update.analyse (request : Update) (options : Options) : Except BuildFailure Analysis :=
  Analysis.ofText request.uri request.source request.treeText options

/-- The second step of an update: analyses the document and publishes the analysis. Also gives the
store that is left when the update is refused. -/
def finish (store : DocumentStore) (request : Update) :
    Except UpdateError Analysis × DocumentStore :=
  match request.analyse store.options with
  | .error error => (.error (.tree error), store)
  | .ok analysis =>
    match store.publish request.uri request.version analysis with
    | .error error => (.error error, store)
    | .ok store => (.ok analysis, store)

/-- Both steps of an update, with no other update in between. -/
def update (store : DocumentStore) (request : Update) :
    Except UpdateError Analysis × DocumentStore :=
  match store.precheck? request.uri request.version with
  | some error => (.error error, store)
  | none => store.finish request

/-- Updates of several documents, with their outcomes in the order of the updates. -/
def updateMany (store : DocumentStore) :
    List Update → List (String × Except UpdateError Analysis) × DocumentStore
  | [] => ([], store)
  | request :: rest =>
    let (outcome, store) := store.update request
    let (outcomes, store) := store.updateMany rest
    ((request.uri, outcome) :: outcomes, store)

/-! ## What a change does to each document -/

theorem get?_remove (store : DocumentStore) (uri other : String) :
    (store.remove uri).get? other = if other = uri then none else store.get? other := by
  simp only [get?, remove]
  induction store.documents with
  | nil => simp
  | cons entry rest ih =>
    obtain ⟨name, published⟩ := entry
    by_cases kept : name = uri
    · rw [List.filter_cons_of_neg (by simp [kept]), ih, List.lookup_cons]
      by_cases asked : other = uri
      · simp [asked]
      · simp [asked, kept, beq_false_of_ne asked]
    · rw [List.filter_cons_of_pos (by simpa using kept), List.lookup_cons, ih, List.lookup_cons]
      by_cases asked : other = uri
      · simp [asked, beq_false_of_ne (Ne.symm kept)]
      · cases other == name <;> simp [asked]

theorem get?_put (store : DocumentStore) (uri other : String) (published : Published) :
    (store.put uri published).get? other =
      if other = uri then some published else store.get? other := by
  by_cases h : other = uri
  · simp [get?, put, h]
  · have := store.get?_remove uri other
    simp only [h, ↓reduceIte, get?] at this ⊢
    simp [put, List.lookup_cons, beq_false_of_ne h, this]

end DocumentStore

end LinksBinding
