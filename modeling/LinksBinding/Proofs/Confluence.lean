import Mathlib.Data.List.MinMax
import Mathlib.Data.List.Pairwise
import LinksBinding.Proofs.Interleaving

/-!
# Updates in any order

Several updates are made at once, and no two of one document carry the same version. What is
published in the end does not depend on the order of their steps (`confluent`): of each document it
is the newest version that can be analysed, unless what was published before is newer.

An update that is refused in one run may succeed in another, so the answers tell nothing. What does
not vary is the update that prevails (`Prevails`). Nothing newer than it is ever published, so
neither of its steps can fail, and what it has published nobody replaces. If no update prevails, then
an update that publishes last would be older than what was there at the start, and versions do not
decrease.
-/

namespace LinksBinding

namespace DocumentStore

/-- No two of the updates carry the same version of the same document. -/
def Distinct (updates : List Update) : Prop :=
  updates.Pairwise fun a b => a.uri = b.uri → a.version ≠ b.version

/-- The update can be analysed, and it is newer than every other update of its document that can be,
and not older than what is published of the document. -/
structure Prevails (store : DocumentStore) (updates : List Update) (request : Update)
    (analysis : Analysis) : Prop where
  listed : request ∈ updates
  analysed : request.analyse store.options = .ok analysis
  newest : ∀ other ∈ updates, other.uri = request.uri → ∀ analysis,
    other.analyse store.options = .ok analysis → other.version ≤ request.version
  current : ∀ entry, store.get? request.uri = some entry → entry.version ≤ request.version

/-- What is published of a document when all updates are over. -/
inductive Settles (store : DocumentStore) (updates : List Update) (uri : String) :
    Option Published → Prop
  /-- the update that prevails -/
  | newest {request : Update} {analysis : Analysis}
    (prevails : Prevails store updates request analysis) (about : request.uri = uri) :
    Settles store updates uri (some ⟨request.version, analysis⟩)
  /-- what was published before, if no update prevails -/
  | kept (none : ∀ request analysis, request.uri = uri →
      ¬ Prevails store updates request analysis) :
    Settles store updates uri (store.get? uri)

section Prevailing

variable {store : DocumentStore} {updates : List Update} {uri : String}

/-- Updates of one document with one version are one. -/
theorem Distinct.eq (distinct : Distinct updates) {a b : Update} (ha : a ∈ updates)
    (hb : b ∈ updates) (about : a.uri = b.uri) (version : a.version = b.version) : a = b := by
  by_contra ne
  have : Std.Symm fun a b : Update => a.uri = b.uri → a.version ≠ b.version :=
    ⟨fun _ _ apart about => (apart about.symm).symm⟩
  exact List.Pairwise.forall distinct ha hb ne about version

/-- A document is settled in one way. -/
theorem Settles.unique (distinct : Distinct updates) {a b : Option Published}
    (ha : Settles store updates uri a) (hb : Settles store updates uri b) : a = b := by
  cases ha with
  | newest prevails about =>
    rename_i request analysis
    cases hb with
    | newest prevails' about' =>
      rename_i request' analysis'
      have le := prevails.newest _ prevails'.listed (about'.trans about.symm) _ prevails'.analysed
      have ge := prevails'.newest _ prevails.listed (about.trans about'.symm) _ prevails.analysed
      obtain rfl := distinct.eq prevails.listed prevails'.listed (about.trans about'.symm)
        (Int.le_antisymm ge le)
      cases prevails.analysed.symm.trans prevails'.analysed
      rfl
    | kept none => exact absurd prevails (none _ _ about)
  | kept none =>
    cases hb with
    | newest prevails' about' => exact absurd prevails' (none _ _ about')
    | kept none' => rfl

/-- An update that can be analysed is not newer than the one that prevails, or it is older than what
is published. -/
theorem prevails_or_older {request : Update} {analysis : Analysis} (listed : request ∈ updates)
    (analysed : request.analyse store.options = .ok analysis) :
    (∃ newest found, newest.uri = request.uri ∧ Prevails store updates newest found) ∨
      ∃ entry, store.get? request.uri = some entry ∧ request.version < entry.version := by
  classical
  -- the newest of the updates of the document that can be analysed
  let rivals := updates.filter fun other =>
    other.uri = request.uri ∧ ∃ analysis, other.analyse store.options = .ok analysis
  have rival : ∀ other, other ∈ rivals ↔ other ∈ updates ∧ other.uri = request.uri ∧
      ∃ analysis, other.analyse store.options = .ok analysis := by
    intro other
    rw [List.mem_filter, decide_eq_true_eq]
  have isRival : request ∈ rivals := (rival request).mpr ⟨listed, rfl, analysis, analysed⟩
  obtain ⟨newest, isNewest⟩ : ∃ newest, newest ∈ rivals.argmax (·.version) :=
    Option.ne_none_iff_exists'.mp fun none =>
      List.ne_nil_of_mem isRival (List.argmax_eq_none.mp none)
  obtain ⟨listed', about, found, analysed'⟩ := (rival newest).mp (List.argmax_mem isNewest)
  have ge : request.version ≤ newest.version := List.le_of_mem_argmax isRival isNewest
  by_cases older : ∃ entry, store.get? request.uri = some entry ∧ newest.version < entry.version
  · obtain ⟨entry, published, lt⟩ := older
    exact .inr ⟨entry, published, Int.lt_of_le_of_lt ge lt⟩
  · refine .inl ⟨newest, found, about, listed', analysed', ?_, ?_⟩
    · intro other listed'' about' analysis' analysed''
      exact List.le_of_mem_argmax
        ((rival other).mpr ⟨listed'', about'.trans about, analysis', analysed''⟩) isNewest
    · intro entry published
      exact Int.not_lt.mp fun lt => older ⟨entry, about ▸ published, lt⟩

section Order

variable {order : List Update} (same : order.Perm updates)

include same

theorem Distinct.perm (distinct : Distinct updates) : Distinct order :=
  (same.pairwise_iff fun apart about => (apart about.symm).symm).mpr distinct

theorem Prevails.perm {request : Update} {analysis : Analysis}
    (prevails : Prevails store order request analysis) :
    Prevails store updates request analysis where
  listed := same.mem_iff.mp prevails.listed
  analysed := prevails.analysed
  newest other listed := prevails.newest other (same.mem_iff.mpr listed)
  current := prevails.current

/-- What settles a document does not depend on the order of the updates. -/
theorem Settles.perm {entry : Option Published} (settles : Settles store order uri entry) :
    Settles store updates uri entry := by
  cases settles with
  | newest prevails about => exact .newest (prevails.perm same) about
  | kept none =>
    exact .kept fun request analysis about prevails =>
      none request analysis about (prevails.perm same.symm)

end Order

end Prevailing

/-- How many steps a client has left at most. -/
def Client.remaining : Client → Nat
  | waiting _ => 2
  | analysing _ => 1
  | answered _ _ => 0

theorem Client.remaining_step (store : DocumentStore) (client : Client) :
    (client.step store).1.remaining ≤ client.remaining - 1 := by
  cases client with
  | waiting call =>
    cases call with
    | update request =>
      simp only [step]
      split <;> simp [remaining]
    | remove uri => simp [step, remaining]
    | get uri => simp [step, remaining]
  | analysing request => simp [step, remaining]
  | answered call answer => simp [step, remaining]

theorem Client.isAnswered_iff {client : Client} :
    client.isAnswered = true ↔ client.remaining = 0 := by
  cases client <;> simp [isAnswered, remaining]

end DocumentStore

namespace Traffic

open DocumentStore

variable {traffic : Traffic} {uri : String}

/-! ## Runs come to an end -/

/-- Each step that a client takes brings it closer to its end. -/
theorem remaining_run {i : Nat} {client client' : Client}
    (before : traffic.clients[i]? = some client) {schedule : List Nat}
    (now : (traffic.run schedule).clients[i]? = some client') :
    client'.remaining ≤ client.remaining - schedule.count i := by
  induction schedule using List.reverseRecOn generalizing client' with
  | nil =>
    cases before.symm.trans now
    exact Nat.le_of_eq (Nat.sub_zero _).symm
  | append_singleton front j ih =>
    rw [run_concat, clients_step] at now
    rw [List.count_append, List.count_singleton]
    by_cases same : j = i
    · rw [if_pos same] at now
      obtain ⟨mid, here, rfl⟩ := Option.map_eq_some_iff.mp now
      have less := ih here
      have step := mid.remaining_step (traffic.run front).store
      simp only [same, beq_self_eq_true, if_true]
      omega
    · rw [if_neg same] at now
      simpa [same] using ih now

/-- When every client has taken two steps, all calls are over. -/
theorem isOver_of_count {store : DocumentStore} {calls : List Call} {schedule : List Nat}
    (enough : ∀ i < calls.length, 2 ≤ schedule.count i) :
    (after store calls schedule).isOver = true := by
  rw [isOver, List.all_eq_true]
  intro client mem
  obtain ⟨i, inside, here⟩ := List.getElem_of_mem mem
  have now := List.getElem?_eq_some_iff.mpr ⟨inside, here⟩
  have listed := call_after store calls schedule i
  rw [now] at listed
  obtain ⟨bound, -⟩ := List.getElem?_eq_some_iff.mp listed.symm
  have before : (start store calls).clients[i]? = some (.waiting client.call) := by
    rw [start, List.getElem?_map, ← listed]
    rfl
  have left := remaining_run before now
  rw [Client.isAnswered_iff]
  have := enough i bound
  simp only [Client.remaining] at left ⊢
  omega

section Updates

variable {store : DocumentStore} {updates : List Update}

/-- The traffic after a schedule, when all clients make updates. -/
abbrev afterUpdates (store : DocumentStore) (updates : List Update) (schedule : List Nat) :
    Traffic :=
  after store (updates.map .update) schedule

/-- Each client makes an update of the list. -/
theorem call_afterUpdates {schedule : List Nat} {i : Nat} {client : Client}
    (here : (afterUpdates store updates schedule).clients[i]? = some client) :
    ∃ request ∈ updates, client.call = .update request := by
  have listed := call_after store (updates.map .update) schedule i
  rw [here, List.getElem?_map, Option.map_some] at listed
  obtain ⟨request, found, is⟩ := Option.map_eq_some_iff.mp listed.symm
  exact ⟨request, List.mem_of_getElem? found, is.symm⟩

/-- Updates close no document. -/
theorem keepsOpen_afterUpdates (before during : List Nat) :
    KeepsOpen uri (afterUpdates store updates before) during := by
  induction during generalizing before with
  | nil => trivial
  | cons i rest ih =>
    refine ⟨fun closes => ?_, ?_⟩
    · obtain ⟨request, -, is⟩ := call_afterUpdates closes
      cases is
    · rw [afterUpdates, ← after_concat]
      exact ih (before ++ [i])

/-- Updates replace what is published by what is not older. -/
theorem ascending_afterUpdates (before during : List Nat) {old : Published}
    (published : (afterUpdates store updates before).store.get? uri = some old) :
    ∃ new, (afterUpdates store updates (before ++ during)).store.get? uri = some new ∧
      old.version ≤ new.version := by
  rw [afterUpdates, after_append]
  exact get?_run_of_keepsOpen (keepsOpen_afterUpdates before during) published

/-! ## The update that prevails -/

variable {request : Update} {analysis : Analysis}

/-- An update that has published something has done so with one of the list that can be analysed. -/
theorem PublishedBy.listed {schedule : List Nat} {entry : Published} {i : Nat}
    (source : (afterUpdates store updates schedule).PublishedBy uri entry i request) :
    request ∈ updates ∧ request.analyse store.options = .ok entry.analysis := by
  obtain ⟨other, listed, is⟩ := call_afterUpdates source.told
  cases is
  refine ⟨listed, ?_⟩
  rw [← source.analysed, afterUpdates, after, options_run]
  rfl

/-- Nothing newer than the update that prevails is published. -/
theorem version_le_of_prevails (prevails : Prevails store updates request analysis)
    (schedule : List Nat) {entry : Published}
    (published : (afterUpdates store updates schedule).store.get? request.uri = some entry) :
    entry.version ≤ request.version := by
  rcases source_of_run published with before | ⟨i, other, source⟩
  · exact prevails.current entry before
  · obtain ⟨listed, analysed⟩ := source.listed
    rw [← source.version]
    exact prevails.newest other listed source.about _ analysed

/-- What the update that prevails has published stays. -/
theorem get?_step_of_prevails (distinct : Distinct updates)
    (prevails : Prevails store updates request analysis) (front : List Nat) (i : Nat)
    (published : (afterUpdates store updates front).store.get? request.uri =
      some ⟨request.version, analysis⟩) :
    (afterUpdates store updates (front ++ [i])).store.get? request.uri =
      some ⟨request.version, analysis⟩ := by
  obtain ⟨new, now, ge⟩ := ascending_afterUpdates front [i] published
  have le := version_le_of_prevails prevails _ now
  rw [now]
  rw [afterUpdates, after_concat] at now
  rcases source_of_step now with before | ⟨other, source⟩
  · rw [← before, published]
  · -- whoever has published this version has made the same update
    rw [← after_concat] at source
    obtain ⟨listed, analysed⟩ := source.listed
    have version : other.version = request.version :=
      source.version.trans (Int.le_antisymm le ge)
    obtain rfl := distinct.eq listed prevails.listed source.about version
    obtain ⟨v, found⟩ := new
    cases analysed.symm.trans prevails.analysed
    rw [source.version]

/-- How far the update that prevails has come: it is not over, or its analysis is published. -/
inductive OnCourse (request : Update) (analysis : Analysis) (now : Traffic) : Client → Prop
  | waiting : OnCourse request analysis now (.waiting (.update request))
  | analysing : OnCourse request analysis now (.analysing request)
  | published
    (there : now.store.get? request.uri = some ⟨request.version, analysis⟩) :
    OnCourse request analysis now (.answered (.update request) (.updated (.ok analysis)))

/-- Neither step of the update that prevails fails. -/
theorem OnCourse.step (prevails : Prevails store updates request analysis) {front : List Nat}
    {client : Client}
    (course : OnCourse request analysis (afterUpdates store updates front) client) {i : Nat}
    (here : (afterUpdates store updates front).clients[i]? = some client) :
    OnCourse request analysis (afterUpdates store updates (front ++ [i]))
      (client.step (afterUpdates store updates front).store).1 := by
  have current : (afterUpdates store updates front).store.newerThan? request.uri
      request.version = none :=
    newerThan?_eq_none_iff.mpr fun _ published => version_le_of_prevails prevails front published
  have analysed : request.analyse (afterUpdates store updates front).store.options =
      .ok analysis := by
    rw [afterUpdates, after, options_run]
    exact prevails.analysed
  have next : (afterUpdates store updates (front ++ [i])).store =
      (client.step (afterUpdates store updates front).store).2 := by
    rw [afterUpdates, after_concat, step_of_some here]
  cases course with
  | waiting =>
    simp only [Client.step, precheck?, current, Option.map_none]
    exact .analysing
  | analysing =>
    simp only [Client.step, finish_of_current analysed current] at next ⊢
    refine .published ?_
    rw [next, get?_put, if_pos rfl]
  | published there =>
    refine .published ?_
    rw [next]
    exact there

/-- The client whose update prevails stays on course, whoever takes steps. -/
theorem onCourse (distinct : Distinct updates)
    (prevails : Prevails store updates request analysis) {i : Nat}
    (listed : updates[i]? = some request) (schedule : List Nat) :
    ∃ client, (afterUpdates store updates schedule).clients[i]? = some client ∧
      OnCourse request analysis (afterUpdates store updates schedule) client := by
  induction schedule using List.reverseRecOn with
  | nil =>
    refine ⟨_, ?_, .waiting⟩
    simp only [afterUpdates, after, start, run, List.foldl_nil, List.getElem?_map, listed,
      Option.map_some]
  | append_singleton front j ih =>
    obtain ⟨client, here, course⟩ := ih
    -- its own steps succeed, and steps of others do not replace what it has published
    by_cases same : j = i
    · subst same
      refine ⟨_, ?_, course.step prevails here⟩
      rw [afterUpdates, after_concat, clients_step, if_pos rfl, here, Option.map_some]
    · refine ⟨client, ?_, ?_⟩
      · rw [afterUpdates, after_concat, clients_step, if_neg same, here]
      · cases course with
        | waiting => exact .waiting
        | analysing => exact .analysing
        | published there =>
          exact .published (get?_step_of_prevails distinct prevails front j there)

/-- If no update prevails, what is published does not change. -/
theorem get?_afterUpdates_of_not_prevails (schedule : List Nat)
    (none : ∀ request analysis, request.uri = uri →
      ¬ Prevails store updates request analysis) :
    (afterUpdates store updates schedule).store.get? uri = store.get? uri := by
  have ascending : ∀ {old}, store.get? uri = some old → ∃ new,
      (afterUpdates store updates schedule).store.get? uri = some new ∧
        old.version ≤ new.version :=
    ascending_afterUpdates [] schedule
  cases final : (afterUpdates store updates schedule).store.get? uri with
  | none =>
    cases before : store.get? uri with
    | none => rfl
    | some old =>
      obtain ⟨new, now, -⟩ := ascending before
      cases final.symm.trans now
  | some entry =>
    rcases source_of_run final with before | ⟨i, request, source⟩
    · exact before.symm
    · -- an update that has published something is older than what was there at the start
      obtain ⟨listed, analysed⟩ := source.listed
      rcases prevails_or_older listed analysed with ⟨newest, found, about, prevails⟩ |
        ⟨old, before, lt⟩
      · exact absurd prevails (none _ _ (about.trans source.about))
      · rw [source.about] at before
        obtain ⟨new, now, ge⟩ := ascending before
        cases final.symm.trans now
        rw [source.version] at lt
        exact absurd lt (Int.not_lt.mpr ge)

/-- When all updates are over, what is published of each document is settled. -/
theorem settles_of_isOver (distinct : Distinct updates) {schedule : List Nat}
    (ended : (afterUpdates store updates schedule).isOver = true) (uri : String) :
    Settles store updates uri ((afterUpdates store updates schedule).store.get? uri) := by
  by_cases some_ : ∃ request analysis, request.uri = uri ∧
      Prevails store updates request analysis
  · obtain ⟨request, analysis, rfl, prevails⟩ := some_
    obtain ⟨i, listed⟩ := List.mem_iff_getElem?.mp prevails.listed
    obtain ⟨client, here, course⟩ := onCourse distinct prevails listed schedule
    have answered := List.all_eq_true.mp ended client (List.mem_of_getElem? here)
    cases course with
    | waiting => cases answered
    | analysing => cases answered
    | published there => exact there ▸ .newest prevails rfl
  · have none : ∀ request analysis, request.uri = uri →
        ¬ Prevails store updates request analysis :=
      fun request analysis about prevails => some_ ⟨request, analysis, about, prevails⟩
    rw [get?_afterUpdates_of_not_prevails schedule none]
    exact .kept none

end Updates

/-! ## One update after another -/

/-- Two steps of a client that no other step comes between are one update. -/
theorem run_pair {i : Nat} {request : Update}
    (here : traffic.clients[i]? = some (.waiting (.update request))) :
    traffic.run [i, i] = ⟨(traffic.store.update request).2, traffic.clients.set i
      (.answered (.update request) (.updated (traffic.store.update request).1))⟩ := by
  obtain ⟨inside, -⟩ := List.getElem?_eq_some_iff.mp here
  have first := step_of_some here
  rw [run, List.foldl_cons, List.foldl_cons, List.foldl_nil, first]
  -- an update that is refused at once is over after one step, and a second one changes nothing
  cases refused : traffic.store.precheck? request.uri request.version
  all_goals
    simp only [Client.step, refused, update]
    rw [step_of_some (List.getElem?_set_self inside)]
    simp only [Client.step, List.set_set]

/-- The schedule by which `count` clients, from the given one on, take their two steps in turn. -/
def inTurn (first : Nat) : Nat → List Nat
  | 0 => []
  | count + 1 => first :: first :: inTurn (first + 1) count

theorem two_le_count_inTurn {first count i : Nat} (above : first ≤ i) (below : i < first + count) :
    2 ≤ (inTurn first count).count i := by
  induction count generalizing first with
  | zero => omega
  | succ count ih =>
    rw [inTurn, List.count_cons, List.count_cons]
    by_cases same : first = i
    · simp [same]
    · have := ih (by omega : first + 1 ≤ i) (by omega)
      omega

/-- When clients make their updates in turn, they leave the store as the updates do one after
another. -/
theorem store_run_inTurn (traffic : Traffic) {first : Nat} {updates : List Update}
    (rest : traffic.clients.drop first = updates.map fun request => .waiting (.update request)) :
    (traffic.run (inTurn first updates.length)).store = (traffic.store.updateMany updates).2 := by
  induction updates generalizing traffic first with
  | nil => rfl
  | cons request updates ih =>
    have here : traffic.clients[first]? = some (.waiting (.update request)) := by
      rw [← List.head?_drop, rest, List.map_cons, List.head?_cons]
    have next : (traffic.run [first, first]).clients.drop (first + 1) =
        updates.map fun request => .waiting (.update request) := by
      rw [run_pair here, List.drop_set_of_lt (Nat.lt_succ_self first), ← List.tail_drop, rest,
        List.map_cons, List.tail_cons]
    calc (traffic.run (inTurn first (request :: updates).length)).store
      _ = ((traffic.run [first, first]).run (inTurn (first + 1) updates.length)).store := rfl
      _ = ((traffic.run [first, first]).store.updateMany updates).2 := ih _ next
      _ = ((traffic.store.update request).2.updateMany updates).2 := by rw [run_pair here]
      _ = (traffic.store.updateMany (request :: updates)).2 := rfl

/-! ## The order does not matter -/

section Order

variable {updates : List Update}

/-- One after another is a way of making updates at once. -/
theorem store_afterUpdates_inTurn (store : DocumentStore) (updates : List Update) :
    (afterUpdates store updates (inTurn 0 updates.length)).store = (store.updateMany updates).2 :=
  store_run_inTurn (start store (updates.map .update)) <| by
    rw [start, List.drop_zero, List.map_map]
    rfl

theorem isOver_afterUpdates_inTurn (store : DocumentStore) (updates : List Update) :
    (afterUpdates store updates (inTurn 0 updates.length)).isOver = true := by
  refine isOver_of_count fun i inside => two_le_count_inTurn (Nat.zero_le i) ?_
  rwa [Nat.zero_add, ← List.length_map]

/-- Updates of different versions leave every document settled, and so leave the same documents,
however their steps come one after another, and in whatever order they are made. -/
theorem confluent (store : DocumentStore) (distinct : Distinct updates) :
    ∃ final : String → Option Published,
      (∀ uri, Settles store updates uri (final uri)) ∧
      (∀ schedule, (after store (updates.map .update) schedule).isOver = true →
        ∀ uri, (after store (updates.map .update) schedule).store.get? uri = final uri) ∧
      (∀ schedule : List Nat, (∀ i < updates.length, 2 ≤ schedule.count i) →
        (after store (updates.map .update) schedule).isOver = true) ∧
      ∀ order, order.Perm updates → ∀ uri, (store.updateMany order).2.get? uri = final uri := by
  have settled : ∀ {order : List Update}, order.Perm updates → ∀ {schedule : List Nat},
      (afterUpdates store order schedule).isOver = true → ∀ uri,
      Settles store updates uri ((afterUpdates store order schedule).store.get? uri) :=
    fun perm _ ended uri => (settles_of_isOver (Distinct.perm perm distinct) ended uri).perm perm
  let final (uri : String) : Option Published :=
    (afterUpdates store updates (inTurn 0 updates.length)).store.get? uri
  have settles : ∀ uri, Settles store updates uri (final uri) :=
    settled .rfl (isOver_afterUpdates_inTurn store updates)
  refine ⟨final, settles, ?_, ?_, ?_⟩
  · intro schedule ended uri
    exact (settled .rfl ended uri).unique distinct (settles uri)
  · intro schedule enough
    exact isOver_of_count (List.length_map (f := Call.update) ▸ enough)
  · intro order perm uri
    rw [← store_afterUpdates_inTurn]
    exact (settled perm (isOver_afterUpdates_inTurn store order) uri).unique distinct (settles uri)

/-- Three versions of a document that are not made in order. The newest is no tree. -/
def threeVersions : List Update :=
  [⟨"a", 3, "x", "[\"Leaf\",\"Variable: x\",\"0:1-0:2\"]"⟩, ⟨"a", 9, "", "{}"⟩,
    ⟨"a", 2, "y", "[\"Leaf\",\"Variable: y\",\"0:1-0:2\"]"⟩]

theorem distinct_threeVersions : Distinct threeVersions := by
  rw [Distinct]
  decide

theorem prevails_threeVersions : ∃ request analysis,
    request.uri = "a" ∧ request.version = 3 ∧
      Prevails (.empty {}) threeVersions request analysis := by
  have analysed : ((threeVersions.head (by decide)).analyse {}).isOk = true := by decide +kernel
  have newest : ∀ other ∈ threeVersions, (other.analyse {}).isOk = true → other.version ≤ 3 := by
    decide +kernel
  cases found : (threeVersions.head (by decide)).analyse {} with
  | error error => cases found ▸ analysed
  | ok analysis =>
    refine ⟨_, analysis, rfl, rfl, List.head_mem _, found, ?_, nofun⟩
    intro other listed _ _ ok
    exact newest other listed (ok ▸ rfl)

/-- Of the three versions the third is published in the end. -/
theorem confluent_threeVersions :
    Distinct threeVersions ∧ ∃ final : String → Option Published,
      (final "a").map (·.version) = some 3 ∧
      (∀ uri, Settles (.empty {}) threeVersions uri (final uri)) ∧
      (∀ schedule, (after (.empty {}) (threeVersions.map .update) schedule).isOver = true →
        ∀ uri, (after (.empty {}) (threeVersions.map .update) schedule).store.get? uri =
          final uri) ∧
      (∀ schedule : List Nat, (∀ i < threeVersions.length, 2 ≤ schedule.count i) →
        (after (.empty {}) (threeVersions.map .update) schedule).isOver = true) ∧
      ∀ order, order.Perm threeVersions → ∀ uri,
        ((empty {}).updateMany order).2.get? uri = final uri := by
  refine ⟨distinct_threeVersions, ?_⟩
  obtain ⟨final, settles, rest⟩ := confluent (.empty {}) distinct_threeVersions
  obtain ⟨request, analysis, about, version, prevails⟩ := prevails_threeVersions
  refine ⟨final, ?_, settles, rest⟩
  rw [(settles "a").unique distinct_threeVersions (.newest prevails about), ← version]
  rfl

end Order

end Traffic

end LinksBinding
