import Mathlib.Data.List.Induction
import LinksBinding.Traffic

/-!
# Interleaved calls

Whatever the schedule by which clients take their steps, the store keeps its promises (`safe`): what
is published comes from an update that was told so, a newer version is never replaced by an older
one, and a call that fails has done nothing.

All of it is read off what one step can do (`Client.step_cases`). It leaves the store as it is, or
it closes a document, or it publishes an analysis in place of one that is not newer. The rest follows
by going through a schedule step by step.
-/

namespace LinksBinding

namespace DocumentStore

variable {store : DocumentStore} {uri : String}

/-! ## Steps -/

/-- No newer version is published exactly if what is published, if anything, is not newer. -/
theorem newerThan?_eq_none_iff {version : Int} :
    store.newerThan? uri version = none ↔
      ∀ entry, store.get? uri = some entry → entry.version ≤ version := by
  rw [newerThan?]
  cases store.get? uri with
  | none => simp
  | some entry =>
    by_cases newer : entry.version > version
    · simp [newer, Int.not_le.mpr newer]
    · simp [newer, Int.not_lt.mp newer]

/-- The second step of an update succeeds if the document can be analysed and no newer version is
published. -/
theorem finish_of_current {request : Update} {analysis : Analysis}
    (analysed : request.analyse store.options = .ok analysis)
    (current : store.newerThan? request.uri request.version = none) :
    store.finish request =
      (.ok analysis, store.put request.uri ⟨request.version, analysis⟩) := by
  simp only [finish, analysed, publish, current]

/-- The second step of an update succeeds, or leaves the store as it is. -/
theorem finish_cases (store : DocumentStore) (request : Update) :
    (∃ analysis, request.analyse store.options = .ok analysis ∧
        store.newerThan? request.uri request.version = none ∧
        store.finish request =
          (.ok analysis, store.put request.uri ⟨request.version, analysis⟩)) ∨
      ∃ error, store.finish request = (.error error, store) := by
  cases analysed : request.analyse store.options with
  | error error => exact .inr ⟨.tree error, by simp only [finish, analysed]⟩
  | ok analysis =>
    cases current : store.newerThan? request.uri request.version with
    | none => exact .inl ⟨analysis, rfl, rfl, finish_of_current analysed current⟩
    | some version =>
      exact .inr ⟨.stale request.version version, by simp only [finish, analysed, publish, current]⟩

namespace Client

variable {client : Client}

/-- A step of a client leaves the store as it is, closes a document, or publishes an analysis. -/
theorem step_cases (store : DocumentStore) (client : Client) :
    (client.step store).2 = store ∨
      (∃ uri, client = .waiting (.remove uri) ∧
        client.step store = (.answered (.remove uri)
          (.removed ((store.get? uri).map (·.analysis))), store.remove uri)) ∨
      ∃ request analysis, client = .analysing request ∧
        request.analyse store.options = .ok analysis ∧
        (∀ entry, store.get? request.uri = some entry → entry.version ≤ request.version) ∧
        client.step store = (.answered (.update request) (.updated (.ok analysis)),
          store.put request.uri ⟨request.version, analysis⟩) := by
  cases client with
  | waiting call =>
    cases call with
    | update request =>
      refine .inl ?_
      simp only [step]
      split <;> rfl
    | remove uri => exact .inr (.inl ⟨uri, rfl, rfl⟩)
    | get uri => exact .inl rfl
  | analysing request =>
    rcases store.finish_cases request with ⟨analysis, analysed, current, done⟩ | ⟨error, done⟩
    · -- the version is checked again here, as others may have published since the first check
      refine .inr (.inr ⟨request, analysis, rfl, analysed, ?_, ?_⟩)
      · exact newerThan?_eq_none_iff.mp current
      · simp only [step, done]
    · exact .inl (by simp only [step, done])
  | answered call answer => exact .inl rfl

/-- A client goes on with its call. -/
theorem call_step (store : DocumentStore) (client : Client) :
    (client.step store).1.call = client.call := by
  cases client with
  | waiting call =>
    cases call with
    | update request =>
      simp only [step]
      split <;> rfl
    | remove uri => rfl
    | get uri => rfl
  | analysing request => rfl
  | answered call answer => rfl

theorem options_step (store : DocumentStore) (client : Client) :
    (client.step store).2.options = store.options := by
  rcases client.step_cases store with same | ⟨uri, -, done⟩ | ⟨request, analysis, -, -, -, done⟩
  · rw [same]
  · rw [done]
    rfl
  · rw [done]
    rfl

/-- A step leaves alone the documents that the call is not about. -/
theorem get?_step_of_ne (other : client.call.uri ≠ uri) :
    (client.step store).2.get? uri = store.get? uri := by
  rcases client.step_cases store with same | ⟨closed, rfl, done⟩ |
    ⟨request, analysis, rfl, -, -, done⟩
  · rw [same]
  · have other : uri ≠ closed := Ne.symm other
    rw [done, get?_remove, if_neg other]
  · have other : uri ≠ request.uri := Ne.symm other
    rw [done, get?_put, if_neg other]

/-- A step that does not close a document keeps it open at a version that is not older. -/
theorem get?_step_of_get? (open_ : client ≠ .waiting (.remove uri)) {old : Published}
    (before : store.get? uri = some old) :
    ∃ new, (client.step store).2.get? uri = some new ∧ old.version ≤ new.version := by
  rcases client.step_cases store with same | ⟨closed, rfl, done⟩ |
    ⟨request, analysis, rfl, -, current, done⟩
  · exact ⟨old, by rw [same, before], Int.le_refl _⟩
  · have other : uri ≠ closed := fun same => open_ (by rw [same])
    exact ⟨old, by rw [done, get?_remove, if_neg other, before], Int.le_refl _⟩
  · rw [done, get?_put]
    by_cases here : uri = request.uri
    · rw [if_pos here]
      exact ⟨_, rfl, current old (here ▸ before)⟩
    · rw [if_neg here]
      exact ⟨old, before, Int.le_refl _⟩

/-- What is published after a step was published before, or the step has published it. -/
theorem source_of_step {entry : Published} (after : (client.step store).2.get? uri = some entry) :
    store.get? uri = some entry ∨
      ∃ request, client = .analysing request ∧ request.uri = uri ∧
        request.version = entry.version ∧
        request.analyse store.options = .ok entry.analysis ∧
        (client.step store).1 = .answered (.update request) (.updated (.ok entry.analysis)) := by
  rcases client.step_cases store with same | ⟨closed, rfl, done⟩ |
    ⟨request, analysis, rfl, analysed, -, done⟩
  · exact .inl (by rw [← same, after])
  · rw [done, get?_remove] at after
    split at after
    · cases after
    · exact .inl after
  · rw [done, get?_put] at after
    split at after
    · rename_i here
      cases after
      exact .inr ⟨request, rfl, here.symm, rfl, analysed, by rw [done]⟩
    · exact .inl after

/-- An update that is told of its success has published its analysis. -/
theorem get?_step_of_updated {request : Update} {analysis : Analysis}
    (told : ((analysing request).step store).1 =
      .answered (.update request) (.updated (.ok analysis))) :
    ((analysing request).step store).2.get? request.uri = some ⟨request.version, analysis⟩ := by
  rcases store.finish_cases request with ⟨found, -, -, done⟩ | ⟨error, done⟩
  · simp only [step, done] at told ⊢
    cases told
    rw [get?_put, if_pos rfl]
  · simp only [step, done] at told
    cases told

/-- A step that changes the store answers its client with success. -/
theorem step_eq_or_answered (store : DocumentStore) (client : Client) :
    (client.step store).2 = store ∨
      ∃ call answer, (client.step store).1 = .answered call answer ∧
        ∀ error, answer ≠ .updated (.error error) := by
  rcases client.step_cases store with same | ⟨closed, -, done⟩ | ⟨request, analysis, -, -, -, done⟩
  · exact .inl same
  · exact .inr ⟨_, _, congrArg Prod.fst done, fun error is => by cases is⟩
  · exact .inr ⟨_, _, congrArg Prod.fst done, fun error is => by cases is⟩

end Client

end DocumentStore

namespace Traffic

open DocumentStore

variable {traffic : Traffic} {uri : String}

/-! ## Traffic -/

theorem step_of_some {i : Nat} {client : Client} (here : traffic.clients[i]? = some client) :
    traffic.step i = ⟨(client.step traffic.store).2,
      traffic.clients.set i (client.step traffic.store).1⟩ := by
  rw [step, here]

theorem step_of_none {i : Nat} (absent : traffic.clients[i]? = none) :
    traffic.step i = traffic := by
  rw [step, absent]

/-- A step moves the client that takes it. -/
theorem clients_step (traffic : Traffic) (i j : Nat) :
    (traffic.step i).clients[j]? =
      if i = j then (traffic.clients[j]?).map fun client => (client.step traffic.store).1
      else traffic.clients[j]? := by
  cases here : traffic.clients[i]? with
  | none =>
    rw [step_of_none here]
    split
    · rename_i same
      rw [← same, here, Option.map_none]
    · rfl
  | some client =>
    rw [step_of_some here, List.getElem?_set]
    obtain ⟨inside, -⟩ := List.getElem?_eq_some_iff.mp here
    split
    · rename_i same
      rw [← same, here, Option.map_some]
    · rfl

theorem run_append (traffic : Traffic) (front back : List Nat) :
    traffic.run (front ++ back) = (traffic.run front).run back :=
  List.foldl_append

theorem run_concat (traffic : Traffic) (front : List Nat) (i : Nat) :
    traffic.run (front ++ [i]) = (traffic.run front).step i :=
  traffic.run_append front [i]

theorem run_singleton (traffic : Traffic) (i : Nat) : traffic.run [i] = traffic.step i :=
  rfl

theorem options_run (traffic : Traffic) (schedule : List Nat) :
    (traffic.run schedule).store.options = traffic.store.options := by
  induction schedule using List.reverseRecOn with
  | nil => rfl
  | append_singleton front i ih =>
    rw [run_concat, ← ih]
    cases here : (traffic.run front).clients[i]? with
    | none => rw [step_of_none here]
    | some client =>
      rw [step_of_some here]
      exact client.options_step _

/-- A call that is over stays over, with its answer. -/
theorem answered_run {i : Nat} {call : Call} {answer : Answer}
    (ended : traffic.clients[i]? = some (.answered call answer)) (schedule : List Nat) :
    (traffic.run schedule).clients[i]? = some (.answered call answer) := by
  induction schedule using List.reverseRecOn with
  | nil => exact ended
  | append_singleton front j ih =>
    rw [run_concat, clients_step, ih]
    split <;> rfl

/-- Clients go on with their calls. -/
theorem call_run (traffic : Traffic) (schedule : List Nat) (i : Nat) :
    ((traffic.run schedule).clients[i]?).map Client.call =
      (traffic.clients[i]?).map Client.call := by
  induction schedule using List.reverseRecOn with
  | nil => rfl
  | append_singleton front j ih =>
    rw [run_concat, clients_step, ← ih]
    split
    · rw [Option.map_map]
      exact Option.map_congr fun client _ => client.call_step _
    · rfl

/-- No client closes the document in a run. -/
def KeepsOpen (uri : String) : Traffic → List Nat → Prop
  | _, [] => True
  | traffic, i :: rest =>
    traffic.clients[i]? ≠ some (.waiting (.remove uri)) ∧ KeepsOpen uri (traffic.step i) rest

/-- A document that no client closes stays open, and no older version replaces what is published. -/
theorem get?_run_of_keepsOpen {schedule : List Nat} (open_ : KeepsOpen uri traffic schedule)
    {old : Published} (before : traffic.store.get? uri = some old) :
    ∃ new, (traffic.run schedule).store.get? uri = some new ∧ old.version ≤ new.version := by
  -- from the front, as no client may close the document at the state that its step starts from
  induction schedule generalizing traffic old with
  | nil => exact ⟨old, before, Int.le_refl _⟩
  | cons i rest ih =>
    obtain ⟨here, open_⟩ := open_
    have step : ∃ mid, (traffic.step i).store.get? uri = some mid ∧ old.version ≤ mid.version := by
      cases client : traffic.clients[i]? with
      | none =>
        rw [step_of_none client]
        exact ⟨old, before, Int.le_refl _⟩
      | some current =>
        rw [step_of_some client]
        exact current.get?_step_of_get? (fun is => here (client.trans (congrArg some is))) before
    obtain ⟨mid, published, le⟩ := step
    obtain ⟨new, published, le'⟩ := ih open_ published
    exact ⟨new, published, Int.le_trans le le'⟩

/-- The entry is what the update of client `i` publishes of a document, and the client was told
so. -/
structure PublishedBy (traffic : Traffic) (uri : String) (entry : Published) (i : Nat)
    (request : Update) : Prop where
  about : request.uri = uri
  version : request.version = entry.version
  analysed : request.analyse traffic.store.options = .ok entry.analysis
  told : traffic.clients[i]? =
    some (.answered (.update request) (.updated (.ok entry.analysis)))

theorem PublishedBy.run {entry : Published} {i : Nat} {request : Update}
    (h : traffic.PublishedBy uri entry i request) (schedule : List Nat) :
    (traffic.run schedule).PublishedBy uri entry i request where
  about := h.about
  version := h.version
  analysed := by rw [options_run, h.analysed]
  told := answered_run h.told schedule

/-- What is published after a step was published before, or the step has published it. -/
theorem source_of_step {i : Nat} {entry : Published}
    (published : (traffic.step i).store.get? uri = some entry) :
    traffic.store.get? uri = some entry ∨
      ∃ request, (traffic.step i).PublishedBy uri entry i request := by
  cases here : traffic.clients[i]? with
  | none =>
    rw [step_of_none here] at published
    exact .inl published
  | some client =>
    have told : (traffic.step i).clients[i]? = some (client.step traffic.store).1 := by
      rw [clients_step, if_pos rfl, here, Option.map_some]
    rw [step_of_some here] at published
    rcases client.source_of_step published with before |
      ⟨request, -, about, version, analysed, ended⟩
    · exact .inl before
    · refine .inr ⟨request, about, version, ?_, told.trans (congrArg some ended)⟩
      rw [← run_singleton, options_run, analysed]

/-- What is published after a run was published before, or an update has published it. -/
theorem source_of_run {schedule : List Nat} {entry : Published}
    (published : (traffic.run schedule).store.get? uri = some entry) :
    traffic.store.get? uri = some entry ∨
      ∃ i request, (traffic.run schedule).PublishedBy uri entry i request := by
  induction schedule using List.reverseRecOn with
  | nil => exact .inl published
  | append_singleton front i ih =>
    rw [run_concat] at published ⊢
    rcases source_of_step published with before | ⟨request, source⟩
    · refine (ih before).imp id fun ⟨j, request, source⟩ => ⟨j, request, ?_⟩
      rw [← run_singleton]
      exact source.run [i]
    · exact .inr ⟨i, request, source⟩

section Start

variable {store : DocumentStore} {calls : List Call}

/-- The traffic after a schedule, when clients with these calls start on a store. -/
def after (store : DocumentStore) (calls : List Call) (schedule : List Nat) : Traffic :=
  (start store calls).run schedule

theorem after_concat (store : DocumentStore) (calls : List Call) (front : List Nat) (i : Nat) :
    after store calls (front ++ [i]) = (after store calls front).step i :=
  run_concat ..

theorem after_append (store : DocumentStore) (calls : List Call) (front back : List Nat) :
    after store calls (front ++ back) = (after store calls front).run back :=
  run_append ..

/-- Each client has its call. -/
theorem call_after (store : DocumentStore) (calls : List Call) (schedule : List Nat) (i : Nat) :
    ((after store calls schedule).clients[i]?).map Client.call = calls[i]? := by
  rw [after, call_run, start, List.getElem?_map, Option.map_map]
  exact Option.map_id'

/-- What holds of the store whatever the schedule by which clients make these calls. -/
structure Safe (store : DocumentStore) (calls : List Call) : Prop where
  /-- what is published of a document was published at the start, or by an update of the document
  that succeeded -/
  source : ∀ schedule uri entry, (after store calls schedule).store.get? uri = some entry →
    store.get? uri = some entry ∨ ∃ (i : Nat) (request : Update),
      calls[i]? = some (.update request) ∧
      request.uri = uri ∧ request.version = entry.version ∧
      Analysis.ofText uri request.source request.treeText store.options = .ok entry.analysis ∧
      (after store calls schedule).clients[i]? =
        some (.answered (.update request) (.updated (.ok entry.analysis)))
  /-- while a document is not closed, it stays open, and its version does not decrease -/
  ascending : ∀ before during uri old, (after store calls before).store.get? uri = some old →
    KeepsOpen uri (after store calls before) during →
    ∃ new, (after store calls (before ++ during)).store.get? uri = some new ∧
      old.version ≤ new.version
  /-- once an update has succeeded, its analysis or one that is not older is published until the
  document is closed -/
  lasting : ∀ before (i : Nat) request analysis,
    (after store calls before).clients[i]? = some (.analysing request) →
    (after store calls (before ++ [i])).clients[i]? =
      some (.answered (.update request) (.updated (.ok analysis))) →
    (after store calls (before ++ [i])).store.get? request.uri =
        some ⟨request.version, analysis⟩ ∧
      ∀ during, KeepsOpen request.uri (after store calls (before ++ [i])) during →
        ∃ new, (after store calls (before ++ [i] ++ during)).store.get? request.uri = some new ∧
          request.version ≤ new.version
  /-- no step of a call that fails changes the store -/
  failed : ∀ before (i : Nat) later call error,
    (after store calls (before ++ [i] ++ later)).clients[i]? =
      some (.answered call (.updated (.error error))) →
    (after store calls (before ++ [i])).store = (after store calls before).store
  /-- no step of a call changes what is published of another document -/
  apart : ∀ before (i : Nat) call uri, calls[i]? = some call → call.uri ≠ uri →
    (after store calls (before ++ [i])).store.get? uri = (after store calls before).store.get? uri

/-- The store is safe under all calls of its clients. -/
theorem safe (store : DocumentStore) (calls : List Call) : Safe store calls where
  source := by
    intro schedule uri entry published
    refine (source_of_run published).imp id fun ⟨i, request, source⟩ => ?_
    have listed := call_after store calls schedule i
    have analysed := source.analysed
    rw [after, source.told] at listed
    rw [options_run, Update.analyse, source.about] at analysed
    exact ⟨i, request, listed.symm, source.about, source.version, analysed, source.told⟩
  ascending := by
    intro before during uri old published open_
    rw [after_append]
    exact get?_run_of_keepsOpen open_ published
  lasting := by
    intro before i request analysis here told
    have published : (after store calls (before ++ [i])).store.get? request.uri =
        some ⟨request.version, analysis⟩ := by
      rw [after_concat, clients_step, if_pos rfl, here, Option.map_some, Option.some_inj] at told
      rw [after_concat, step_of_some here]
      exact Client.get?_step_of_updated told
    refine ⟨published, fun during open_ => ?_⟩
    rw [after_append]
    exact get?_run_of_keepsOpen open_ published
  failed := by
    intro before i later call error told
    rw [after_concat]
    cases here : (after store calls before).clients[i]? with
    | none => rw [step_of_none here]
    | some client =>
      rw [step_of_some here]
      -- a step that changes the store is the last of a call that succeeds
      refine (client.step_eq_or_answered _).resolve_right ?_
      rintro ⟨other, answer, ended, succeeds⟩
      have stays : (after store calls (before ++ [i])).clients[i]? =
          some (.answered other answer) := by
        rw [after_concat, clients_step, if_pos rfl, here, Option.map_some, ended]
      have final := answered_run stays later
      rw [← after_append, told] at final
      cases final
      exact succeeds error rfl
  apart := by
    intro before i call uri listed other
    rw [after_concat]
    cases here : (after store calls before).clients[i]? with
    | none => rw [step_of_none here]
    | some client =>
      have same := call_after store calls before i
      rw [here, listed, Option.map_some, Option.some_inj] at same
      rw [step_of_some here]
      exact client.get?_step_of_ne (same ▸ other)

end Start

end Traffic

end LinksBinding
