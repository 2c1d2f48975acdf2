import Mathlib.Data.List.ProdSigma
import ResourceBundle.Proofs.BundlePaths
import ResourceBundle.Proofs.Recording
import ResourceBundle.Proofs.StoreViews
import ResourceBundle.Sink.Memory

/-! # The schedule of a generation

A generation goes through the pairs of a locale and an output, locales in ascending order. It writes the
bundles of the first pairs one after the other; then it is done, or the sink refuses a step of the next
pair, which is told to the host and ends the generation. -/

namespace ResourceBundle

variable {σ ρ : Type}

/-- A sink that keeps files by output and path: a file is stored when its writing is granted, and nothing
else changes a file. Any step may be refused at any time. -/
structure Sink.Shelf (sink : Sink σ ρ) where
  file? : σ → Output → String → Option (List UInt8)
  /-- What a resource was created for. -/
  place : ρ → Output × String
  create_ok : ∀ {output path elements s resource t},
    (sink.create output path elements).run s = .ok resource t →
      place resource = (output, path) ∧ file? t = file? s
  create_error : ∀ {output path elements s reason t},
    (sink.create output path elements).run s = .error reason t → file? t = file? s
  uri_ok : ∀ {resource s uri t}, (sink.uri resource).run s = .ok uri t → file? t = file? s
  uri_error : ∀ {resource s reason t}, (sink.uri resource).run s = .error reason t → file? t = file? s
  write_ok : ∀ {resource bytes s t}, (sink.write resource bytes).run s = .ok () t → ∀ output path,
    file? t output path = if place resource = (output, path) then some bytes else file? s output path
  write_error : ∀ {resource bytes s reason t},
    (sink.write resource bytes).run s = .error reason t → file? t = file? s

namespace Generation

/-- The locales of a store, each with all outputs, in the order in which bundles are written. -/
def pairs (outputs : List Output) (store : Store) : List (String × Output) := store.locales ×ˢ outputs

def taskOf (configuration : Configuration) (store : Store) (pair : String × Output) : Task :=
  ⟨pair.2, Bundle.path configuration.baseName pair.1 configuration.defaultLocale,
    Bundle.payload (store.entriesFor pair.1)⟩

theorem tasks_eq_map (configuration : Configuration) (outputs : List Output) (store : Store) :
    tasks configuration outputs store = (pairs outputs store).map (taskOf configuration store) := by
  simp only [tasks, pairs, SProd.sprod, List.product, List.map_flatMap, List.map_map]
  rfl

theorem nodup_pairs {outputs : List Output} (h : outputs.Nodup) (store : Store) :
    (pairs outputs store).Nodup :=
  List.Nodup.product ((Store.ascending_locales store).imp ne_of_lt) h

def creating (uri : String) : Event := .diagnostic (.note ("Creating Resource File: " ++ uri))

def refusal (failure : Failure) : Event := .diagnostic (.error failure.message)

/-- A bundle is written: its resource is created and named, the host is told its URI, and only then its
bytes are written. -/
inductive Writes (sink : Sink σ ρ) (elements : List Element) :
    Session σ → Task → String → Session σ → Prop
  | intro {s t : Session σ} {task : Task} {resource : ρ} {uri : String} {a b : σ} :
      (sink.create task.output task.path elements).run s.state = .ok resource a →
      (sink.uri resource).run a = .ok uri b →
      (step uri (sink.write resource task.bytes)).run ⟨b, s.events ++ [creating uri]⟩ = .ok () t →
      Writes sink elements s task uri t

/-- Bundles are written one after the other, each with its URI. -/
inductive WritesAll (sink : Sink σ ρ) (elements : List Element) :
    Session σ → List (Task × String) → Session σ → Prop
  | nil (s : Session σ) : WritesAll sink elements s [] s
  | cons {s t u : Session σ} {task : Task} {uri : String} {rest : List (Task × String)} :
      Writes sink elements s task uri t → WritesAll sink elements t rest u →
      WritesAll sink elements s ((task, uri) :: rest) u

/-- A step of the sink is refused, and that is told to the host. The URI is known once the resource has
been created and named; then the host was told it before. -/
inductive Refuses (sink : Sink σ ρ) (elements : List Element) :
    Session σ → Task → Option String → Failure → Session σ → Prop
  | create {s t : Session σ} {task : Task} {failure : Failure} :
      (step task.path (sink.create task.output task.path elements)).run s = .error failure t →
      Refuses sink elements s task none failure t
  | uri {s t : Session σ} {task : Task} {resource : ρ} {failure : Failure} {a : σ} :
      (sink.create task.output task.path elements).run s.state = .ok resource a →
      (step task.path (sink.uri resource)).run ⟨a, s.events⟩ = .error failure t →
      Refuses sink elements s task none failure t
  | write {s t : Session σ} {task : Task} {resource : ρ} {uri : String} {failure : Failure} {a b : σ} :
      (sink.create task.output task.path elements).run s.state = .ok resource a →
      (sink.uri resource).run a = .ok uri b →
      (step uri (sink.write resource task.bytes)).run ⟨b, s.events ++ [creating uri]⟩ =
        .error failure t →
      Refuses sink elements s task (some uri) failure t

variable {sink : Sink σ ρ} {elements : List Element}

theorem run_step_eq_ok_iff {α : Type} {name : String} {action : EStateM String σ α} {s t : Session σ}
    {a : α} : (step name action).run s = .ok a t ↔
      action.run s.state = .ok a t.state ∧ t.events = s.events := by
  obtain ⟨state, events⟩ := t
  rw [run_step]
  cases action.run s.state <;> simp [and_assoc, eq_comm]

theorem run_step_eq_error_iff {α : Type} {name : String} {action : EStateM String σ α}
    {s t : Session σ} {failure : Failure} : (step name action).run s = .error failure t ↔
      ∃ reason, action.run s.state = .error reason t.state ∧
        failure = .unwrittenBundle name reason ∧ t.events = s.events ++ [refusal failure] := by
  obtain ⟨state, events⟩ := t
  rw [run_step]
  cases action.run s.state with
  | ok a state => simp
  | error reason state =>
    simp only [EStateM.Result.error.injEq, Session.mk.injEq, refusal]
    grind

theorem run_note_creating (uri : String) (s : Session σ) :
    (Action.note ("Creating Resource File: " ++ uri)).run s =
      .ok () ⟨s.state, s.events ++ [creating uri]⟩ := rfl

/-- A bundle is written, or a step of it is refused. -/
theorem run_write_cases (sink : Sink σ ρ) (elements : List Element) (task : Task) (s : Session σ) :
    match (write sink task.output task.path task.bytes elements).run s with
    | .ok uri t => Writes sink elements s task uri t
    | .error failure t => ∃ uri?, Refuses sink elements s task uri? failure t := by
  simp only [write, EStateM.run_bind]
  cases hcreate : (step task.path (sink.create task.output task.path elements)).run s with
  | error failure t => exact ⟨none, .create hcreate⟩
  | ok resource a =>
    obtain ⟨hcreated, hevents⟩ := run_step_eq_ok_iff.mp hcreate
    obtain ⟨astate, aevents⟩ := a
    obtain rfl : aevents = s.events := hevents
    dsimp only
    cases huri : (step task.path (sink.uri resource)).run ⟨astate, s.events⟩ with
    | error failure t => exact ⟨none, .uri hcreated huri⟩
    | ok uri b =>
      obtain ⟨hnamed, hevents⟩ := run_step_eq_ok_iff.mp huri
      obtain ⟨bstate, bevents⟩ := b
      obtain rfl : bevents = s.events := hevents
      simp only [run_note_creating]
      cases hwrite : (step uri (sink.write resource task.bytes)).run
        ⟨bstate, s.events ++ [creating uri]⟩ with
      | error failure t => exact ⟨some uri, .write hcreated hnamed hwrite⟩
      | ok _ t => exact .intro hcreated hnamed hwrite

/-- Bundles are written from the first one on, until all are written or a step of one is refused. -/
theorem run_writeAll_cases (sink : Sink σ ρ) (elements : List Element) (tasks : List Task)
    (s : Session σ) :
    match (writeAll sink elements tasks).run s with
    | .ok uris t => ∃ done, done.map Prod.fst = tasks ∧ done.map Prod.snd = uris ∧
        WritesAll sink elements s done t
    | .error failure t => ∃ done task rest u uri?, done.map Prod.fst ++ task :: rest = tasks ∧
        WritesAll sink elements s done u ∧ Refuses sink elements u task uri? failure t := by
  induction tasks generalizing s with
  | nil => exact ⟨[], rfl, rfl, .nil s⟩
  | cons task tasks ih =>
    have hwrite := run_write_cases sink elements task s
    simp only [writeAll, EStateM.run_bind]
    cases hrun : (write sink task.output task.path task.bytes elements).run s with
    | error failure t =>
      rw [hrun] at hwrite
      obtain ⟨uri?, hrefuses⟩ := hwrite
      exact ⟨[], task, tasks, s, uri?, rfl, .nil s, hrefuses⟩
    | ok uri t =>
      rw [hrun] at hwrite
      have hrest := ih t
      dsimp only
      cases hrun' : (writeAll sink elements tasks).run t with
      | error failure v =>
        rw [hrun'] at hrest
        obtain ⟨done, next, later, u, uri?, rfl, hdone, hrefuses⟩ := hrest
        exact ⟨(task, uri) :: done, next, later, u, uri?, rfl, .cons hwrite hdone, hrefuses⟩
      | ok uris v =>
        rw [hrun'] at hrest
        obtain ⟨done, rfl, rfl, hdone⟩ := hrest
        exact ⟨(task, uri) :: done, rfl, rfl, .cons hwrite hdone⟩

theorem Writes.events {s t : Session σ} {task : Task} {uri : String}
    (h : Writes sink elements s task uri t) : t.events = s.events ++ [creating uri] := by
  obtain ⟨_, _, hwrite⟩ := h
  exact (run_step_eq_ok_iff.mp hwrite).2

/-- The host is told each URI once, and no error. -/
theorem WritesAll.events {s t : Session σ} {done : List (Task × String)}
    (h : WritesAll sink elements s done t) :
    t.events = s.events ++ done.map fun entry => creating entry.2 := by
  induction h with
  | nil s => exact (List.append_nil _).symm
  | cons hfirst _ ih => rw [ih, hfirst.events, List.append_assoc]; rfl

/-- The host is told the URI if it is known, and then the failure, which names the bundle by it. -/
theorem Refuses.told {s t : Session σ} {task : Task} {uri? : Option String} {failure : Failure}
    (h : Refuses sink elements s task uri? failure t) :
    (∃ reason, failure = .unwrittenBundle (uri?.getD task.path) reason) ∧
      t.events = s.events ++ uri?.toList.map creating ++ [refusal failure] := by
  cases h with
  | create hcreate =>
    obtain ⟨reason, _, hfailure, hevents⟩ := run_step_eq_error_iff.mp hcreate
    exact ⟨⟨reason, hfailure⟩, by simpa using hevents⟩
  | uri _ huri =>
    obtain ⟨reason, _, hfailure, hevents⟩ := run_step_eq_error_iff.mp huri
    exact ⟨⟨reason, hfailure⟩, by simpa using hevents⟩
  | write _ _ hwrite =>
    obtain ⟨reason, _, hfailure, hevents⟩ := run_step_eq_error_iff.mp hwrite
    exact ⟨⟨reason, hfailure⟩, hevents⟩

theorem Writes.file? (shelf : sink.Shelf) {s t : Session σ} {task : Task} {uri : String}
    (h : Writes sink elements s task uri t) (output : Output) (path : String) :
    shelf.file? t.state output path =
      if (task.output, task.path) = (output, path) then some task.bytes
      else shelf.file? s.state output path := by
  obtain ⟨hcreate, huri, hwrite⟩ := h
  obtain ⟨hplace, hcreated⟩ := shelf.create_ok hcreate
  rw [shelf.write_ok (run_step_eq_ok_iff.mp hwrite).1, shelf.uri_ok huri, hcreated, hplace]

/-- Bundles for different places are all stored, and nothing else changes. -/
theorem WritesAll.file? (shelf : sink.Shelf) {s t : Session σ} {done : List (Task × String)}
    (h : WritesAll sink elements s done t)
    (hplaces : (done.map fun entry => (entry.1.output, entry.1.path)).Nodup) :
    (∀ entry ∈ done, shelf.file? t.state entry.1.output entry.1.path = some entry.1.bytes) ∧
      ∀ output path, (∀ entry ∈ done, (entry.1.output, entry.1.path) ≠ (output, path)) →
        shelf.file? t.state output path = shelf.file? s.state output path := by
  induction h with
  | nil s => exact ⟨nofun, fun _ _ _ => rfl⟩
  | @cons s t u task uri rest hfirst _ ih =>
    obtain ⟨hfresh, hrest⟩ := List.nodup_cons.mp hplaces
    obtain ⟨hstored, hkept⟩ := ih hrest
    refine ⟨List.forall_mem_cons.mpr ⟨?_, hstored⟩, fun output path hother => ?_⟩
    · rw [hkept, hfirst.file? shelf, if_pos rfl]
      exact fun entry hentry heq => hfresh (List.mem_map.mpr ⟨entry, hentry, heq⟩)
    · obtain ⟨hne, hlater⟩ := List.forall_mem_cons.mp hother
      rw [hkept output path hlater, hfirst.file? shelf, if_neg hne]

theorem Refuses.file? (shelf : sink.Shelf) {s t : Session σ} {task : Task} {uri? : Option String}
    {failure : Failure} (h : Refuses sink elements s task uri? failure t) :
    shelf.file? t.state = shelf.file? s.state := by
  cases h with
  | create hcreate =>
    obtain ⟨_, hrefused, _⟩ := run_step_eq_error_iff.mp hcreate
    exact shelf.create_error hrefused
  | uri hcreate huri =>
    obtain ⟨_, hrefused, _⟩ := run_step_eq_error_iff.mp huri
    rw [shelf.uri_error hrefused, (shelf.create_ok hcreate).2]
  | write hcreate huri hwrite =>
    obtain ⟨_, hrefused, _⟩ := run_step_eq_error_iff.mp hwrite
    rw [shelf.write_error hrefused, shelf.uri_ok huri, (shelf.create_ok hcreate).2]

/-- Whether, between two states, the bundles of some pairs were stored, each as a whole, and nothing was
stored for any other place. -/
structure Stores (shelf : sink.Shelf) (configuration : Configuration) (store : Store)
    (written : List (String × Output)) (before after : σ) : Prop where
  whole : ∀ pair ∈ written, shelf.file? after pair.2 (taskOf configuration store pair).path =
    some (Bundle.payload (store.entriesFor pair.1))
  other : ∀ output path,
    (∀ pair ∈ written, (pair.2, (taskOf configuration store pair).path) ≠ (output, path)) →
      shelf.file? after output path = shelf.file? before output path

theorem place_taskOf_injective (configuration : Configuration) (store : Store)
    {a b : String × Output} (h : ((taskOf configuration store a).output,
      (taskOf configuration store a).path) = ((taskOf configuration store b).output,
      (taskOf configuration store b).path)) : a = b := by
  obtain ⟨houtput, hpath⟩ := Prod.mk.inj h
  exact Prod.ext (Bundle.path_injective hpath) houtput

theorem WritesAll.stores (shelf : sink.Shelf) {configuration : Configuration} {store : Store}
    {s t : Session σ} {done : List (Task × String)} (h : WritesAll sink elements s done t)
    {written : List (String × Output)} (hnodup : written.Nodup)
    (hdone : done.map Prod.fst = written.map (taskOf configuration store)) :
    Stores shelf configuration store written s.state t.state := by
  have hplaces : (done.map fun entry => (entry.1.output, entry.1.path)) =
      written.map fun pair => ((taskOf configuration store pair).output,
        (taskOf configuration store pair).path) := by
    have hmap := congrArg (List.map fun task : Task => (task.output, task.path)) hdone
    rw [List.map_map, List.map_map] at hmap
    exact hmap
  obtain ⟨hstored, hkept⟩ := h.file? shelf (hplaces ▸ hnodup.map fun _ _ heq =>
    place_taskOf_injective configuration store heq)
  refine ⟨fun pair hpair => ?_, fun output path hother => hkept output path fun entry hentry => ?_⟩
  · obtain ⟨entry, hentry, htask⟩ := List.mem_map.mp (hdone ▸ List.mem_map_of_mem hpair)
    have hfile := hstored entry hentry
    rw [htask] at hfile
    exact hfile
  · obtain ⟨pair, hpair, htask⟩ := List.mem_map.mp (hdone ▸ List.mem_map_of_mem hentry)
    rw [← htask]
    exact hother pair hpair

/-- A generation goes through the pairs of a locale, in ascending order, and an output, in the given
order. It writes the bundles of the first pairs: all of them, and then it gives their URIs and has told
the host no error; or it stops at the first step that the sink refuses, tells that as the only error, and
asks for nothing more. The failure names the bundle by the URI of its resource, if one was created, or
else by its path. A URI is told to the host once, before the bytes are written. The files of the pairs
that were written are whole, and the same for all outputs; no other file has changed. -/
theorem generate_schedule (shelf : sink.Shelf) (configuration : Configuration)
    {outputs : List Output} (houtputs : outputs.Nodup) (store : Store) (elements : List Element)
    (s : Session σ) :
    store.locales.Pairwise (· < ·) ∧
    ∃ written rest done u, pairs outputs store = written ++ rest ∧
      done.map Prod.fst = written.map (taskOf configuration store) ∧
      WritesAll sink elements s done u ∧
      u.events = s.events ++ done.map (fun entry => creating entry.2) ∧
      match (generate configuration sink outputs store elements).run s with
      | .ok uris t => rest = [] ∧ uris = done.map Prod.snd ∧ t = u ∧
          Stores shelf configuration store written s.state t.state
      | .error failure t => ∃ pair later uri?, rest = pair :: later ∧
          Refuses sink elements u (taskOf configuration store pair) uri? failure t ∧
          (∃ reason, failure =
            .unwrittenBundle (uri?.getD (taskOf configuration store pair).path) reason) ∧
          t.events = u.events ++ uri?.toList.map creating ++ [refusal failure] ∧
          Stores shelf configuration store written s.state t.state ∧
          ∀ pair ∈ rest, shelf.file? t.state pair.2 (taskOf configuration store pair).path =
            shelf.file? s.state pair.2 (taskOf configuration store pair).path := by
  refine ⟨store.ascending_locales, ?_⟩
  have hpairs := nodup_pairs houtputs store
  have hcases := run_writeAll_cases sink elements (tasks configuration outputs store) s
  rw [generate]
  cases hrun : (writeAll sink elements (tasks configuration outputs store)).run s with
  | ok uris t =>
    rw [hrun] at hcases
    obtain ⟨done, hdone, huris, hwrites⟩ := hcases
    rw [tasks_eq_map] at hdone
    exact ⟨pairs outputs store, [], done, t, (List.append_nil _).symm, hdone, hwrites, hwrites.events,
      rfl, huris.symm, rfl, hwrites.stores shelf hpairs hdone⟩
  | error failure t =>
    rw [hrun] at hcases
    obtain ⟨done, task, rest, u, uri?, htasks, hwrites, hrefuses⟩ := hcases
    rw [tasks_eq_map] at htasks
    obtain ⟨written, later, hschedule, hdone, hlater⟩ := List.map_eq_append_iff.mp htasks.symm
    obtain ⟨pair, later, rfl, rfl, rfl⟩ := List.map_eq_cons_iff.mp hlater
    obtain ⟨hwritten, _, hapart⟩ := List.nodup_append.mp (hschedule ▸ hpairs)
    have hstores := hwrites.stores shelf hwritten hdone.symm
    have hstores' : Stores shelf configuration store written s.state t.state := by
      refine ⟨fun pair hpair => ?_, fun output path hother => ?_⟩
      · rw [hrefuses.file? shelf, hstores.whole pair hpair]
      · rw [hrefuses.file? shelf, hstores.other output path hother]
    obtain ⟨hfailure, hevents⟩ := hrefuses.told
    refine ⟨written, pair :: later, done, u, hschedule, hdone.symm, hwrites, hwrites.events, pair, later,
      uri?, rfl, hrefuses, hfailure, hevents, hstores', fun next hnext => ?_⟩
    refine hstores'.other _ _ fun earlier hearlier heq => ?_
    exact hapart earlier hearlier next hnext (place_taskOf_injective configuration store heq)

end Generation

namespace Memory

variable {refusals : List Refusal} {stage : Stage} {output : Output} {path : String} {s t : Written}

theorem eq_of_run_check_eq_ok (h : (check refusals stage output path).run s = .ok () t) : t = s := by
  unfold check at h
  split at h
  · cases h
  · cases h
    rfl

theorem eq_of_run_check_eq_error {reason : String}
    (h : (check refusals stage output path).run s = .error reason t) : t = s := by
  unfold check at h
  split at h
  · cases h
    rfl
  · cases h

/-- The files of the sink in memory: for each place the one that was written last. -/
def shelf (refusals : List Refusal) : (sink refusals).Shelf where
  file? written output path := written.files.reverse.lookup ⟨output, path⟩
  place resource := (resource.output, resource.path)
  create_ok := by
    intro output path elements s resource t h
    obtain ⟨_, u, hnoted, hrest⟩ := EStateM.run_bind_eq_ok_iff.mp h
    obtain ⟨_, v, hcheck, hcreated⟩ := EStateM.run_bind_eq_ok_iff.mp hrest
    cases hnoted
    cases hcreated
    obtain rfl := eq_of_run_check_eq_ok hcheck
    exact ⟨rfl, rfl⟩
  create_error := by
    intro output path elements s reason t h
    obtain hnoted | ⟨_, u, hnoted, hrest⟩ := EStateM.run_bind_eq_error_iff.mp h
    · cases hnoted
    · cases hnoted
      obtain hcheck | ⟨_, v, _, hcreated⟩ := EStateM.run_bind_eq_error_iff.mp hrest
      · obtain rfl := eq_of_run_check_eq_error hcheck
        rfl
      · cases hcreated
  uri_ok := by
    intro resource s uri t h
    cases h
    rfl
  uri_error := nofun
  write_ok := by
    intro resource bytes s t h output path
    obtain ⟨_, u, hcheck, hstored⟩ := EStateM.run_bind_eq_ok_iff.mp h
    obtain rfl := eq_of_run_check_eq_ok hcheck
    cases hstored
    simp only [List.reverse_append, List.reverse_singleton, List.singleton_append, List.lookup_cons]
    by_cases hplace : (⟨output, path⟩ : Resource) = resource
    · subst hplace
      simp
    · have hne : (resource.output, resource.path) ≠ (output, path) := fun heq =>
        hplace (by cases resource; cases heq; rfl)
      simp [beq_false_of_ne hplace, hne]
  write_error := by
    intro resource bytes s reason t h
    obtain hcheck | ⟨_, u, _, hstored⟩ := EStateM.run_bind_eq_error_iff.mp h
    · obtain rfl := eq_of_run_check_eq_error hcheck
      rfl
    · cases hstored

end Memory

namespace Generation

def farewellStore : Store :=
  ⟨[⟨"en", ⟨"app.TXT_farewell", false, "en", "", "Goodbye", "app", by decide, by decide⟩⟩,
    ⟨"de", ⟨"app.TXT_farewell", false, "de", "", "Leb wohl", "app", by decide, by decide⟩⟩], by decide⟩

theorem locales_farewellStore : farewellStore.locales = ["de", "en"] := by
  refine Store.locales_eq_of_ascending (by decide) fun locale => ?_
  simp [farewellStore, or_comm, eq_comm]

theorem pairs_farewellStore : pairs Output.all farewellStore =
    [("de", .sources), ("de", .classes), ("en", .sources), ("en", .classes)] := by
  rw [pairs, locales_farewellStore]
  rfl

def noSpace : List Memory.Refusal :=
  [⟨.write, .classes, "TextsAndMessages_de.properties", "no space left"⟩]

theorem fails_noSpace :
    (match (generate .default (Memory.sink noSpace) Output.all farewellStore []).run ⟨.empty, []⟩ with
      | .error failure _ => failure == .unwrittenBundle
          "memory://class_output/TextsAndMessages_de.properties" "no space left"
      | .ok _ _ => false) = true := by
  rw [generate, tasks_eq_map, pairs_farewellStore]
  decide +kernel

/-- The German bundle is written for the sources only, and the English one for neither output. -/
theorem generate_schedule_noSpace : Output.all.Nodup ∧
    pairs Output.all farewellStore =
      [("de", .sources), ("de", .classes), ("en", .sources), ("en", .classes)] ∧
    ∃ t written pair later, ∃ uri? : Option String,
      (generate .default (Memory.sink noSpace) Output.all farewellStore []).run ⟨.empty, []⟩ =
        .error (.unwrittenBundle "memory://class_output/TextsAndMessages_de.properties"
          "no space left") t ∧
      pairs Output.all farewellStore = written ++ pair :: later ∧
      uri?.getD (taskOf .default farewellStore pair).path =
        "memory://class_output/TextsAndMessages_de.properties" ∧
      Stores (Memory.shelf noSpace) .default farewellStore written Memory.Written.empty t.state := by
  have hnodup : Output.all.Nodup := by decide
  obtain ⟨_, written, rest, done, u, hschedule, _, _, _, hresult⟩ :=
    generate_schedule (Memory.shelf noSpace) .default hnodup farewellStore [] ⟨.empty, []⟩
  have hfails := fails_noSpace
  refine ⟨hnodup, pairs_farewellStore, ?_⟩
  cases hrun : (generate .default (Memory.sink noSpace) Output.all farewellStore []).run
    ⟨.empty, []⟩ with
  | ok uris t =>
    rw [hrun] at hfails
    cases hfails
  | error failure t =>
    rw [hrun] at hfails hresult
    obtain rfl := eq_of_beq hfails
    obtain ⟨pair, later, uri?, rfl, _, ⟨reason, hfailure⟩, _, hstores, _⟩ := hresult
    refine ⟨t, written, pair, later, uri?, rfl, hschedule, ?_, hstores⟩
    exact (Failure.unwrittenBundle.inj hfailure).1.symm

end Generation

end ResourceBundle
