import Mathlib.Data.List.TakeWhile
import RmwZzdds.Graph.Discovery
import RmwZzdds.Library.Table

/-!
# The discovered endpoints

Each well-formed sample says whether the endpoint of its instance is there, and
the loop of `consume_reader` applies the samples one after the other until it
meets a malformed one (`consumeSamples_eq`).  So the map holds what was said
last of each instance (`instances_foldl`), and the cache holds the endpoints of
the map (`Tracks`).

*Batches without errors.*  The map then holds the instances whose latest sample
has data, the endpoints of the discovery topic apart (`discovery_cache`).

*Malformed samples.*  They cost every sample behind them in the batch.  This
goes unnoticed just if those say nothing new (`malformed_sample_isolated`).
-/

namespace RmwZzdds.Graph

open Service (Guid)
open Transition

variable {Cache TypeHash Node Handle : Type*}

/-! ## What a sample says -/

section Words

variable (parser : BuiltinParser TypeHash) (readers : Bool)

/-- The sample can be parsed, if it has data. -/
def wellFormed (sample : Sample Handle) : Bool :=
  !sample.validData || (parser.announced readers sample).isSome

/-- The endpoint that a sample announces for the cache. -/
def announcement (sample : Sample Handle) : Option (EntityInfo TypeHash) :=
  if sample.validData then (parser.announced readers sample).join else none

variable [DecidableEq Handle]

/-- The sample says whether the endpoint of the instance is there. -/
def tells (handle : Handle) (sample : Sample Handle) : Bool :=
  decide (sample.instanceHandle = handle) &&
    (!sample.validData || (announcement parser readers sample).isSome)

/-- The GUID known for an instance after a sample. -/
def knownAfter (handle : Handle) (known : Option Guid) (sample : Sample Handle) : Option Guid :=
  if tells parser readers handle sample then
    if sample.validData then some sample.endpoint else none
  else known

/-- The last sample that tells of an instance decides what is known of it. -/
theorem foldl_knownAfter (handle : Handle) (known : Option Guid) (samples : List (Sample Handle)) :
    samples.foldl (knownAfter parser readers handle) known =
      match (samples.filter (tells parser readers handle)).getLast? with
      | none => known
      | some sample => if sample.validData then some sample.endpoint else none := by
  induction samples using List.reverseRecOn with
  | nil => rfl
  | append_singleton samples sample ih =>
      rw [List.foldl_concat, List.filter_append, knownAfter]
      by_cases htells : tells parser readers handle sample = true
      · simp [htells]
      · simp [htells, ih]

end Words

/-! ## The loop -/

section Loop

variable [DecidableEq Handle] (graph : GraphCache Cache TypeHash Node)
  (parser : BuiltinParser TypeHash) (readers : Bool)

/-- What the loop of `consume_reader` does with a well-formed sample. -/
def Progress.apply (p : Progress Cache Handle) (sample : Sample Handle) :
    Progress Cache Handle :=
  if sample.validData then
    match announcement parser readers sample with
    | none => p
    | some info => p.record graph readers sample info
  else p.depart graph readers sample.instanceHandle

/-- The loop applies the samples before the first malformed one. -/
theorem consumeSamples_eq (samples : List (Sample Handle)) (p : Progress Cache Handle) :
    consumeSamples graph parser readers samples p =
      (if samples.all (wellFormed parser readers) then .ok else .error,
        (samples.takeWhile (wellFormed parser readers)).foldl
          (Progress.apply graph parser readers) p) := by
  induction samples generalizing p with
  | nil => rfl
  | cons sample samples ih =>
      rw [consumeSamples]
      cases hvalid : sample.validData with
      | false => simp [hvalid, wellFormed, Progress.apply, ih]
      | true =>
          cases hann : parser.announced readers sample with
          | none => simp [hvalid, wellFormed, hann]
          | some announced =>
              cases announced with
              | none =>
                  simp [hvalid, wellFormed, hann, Progress.apply, announcement, ih]
              | some info =>
                  simp [hvalid, wellFormed, hann, Progress.apply, announcement, ih]

theorem consumeSamples_of_wellFormed {samples : List (Sample Handle)}
    (h : ∀ sample ∈ samples, wellFormed parser readers sample = true)
    (p : Progress Cache Handle) :
    consumeSamples graph parser readers samples p =
      (.ok, samples.foldl (Progress.apply graph parser readers) p) := by
  rw [consumeSamples_eq, if_pos (List.all_eq_true.mpr h), List.takeWhile_eq_self_iff.mpr h]

/-! ## The map -/

theorem instances_depart (p : Progress Cache Handle) (handle : Handle) :
    (p.depart graph readers handle).instances = Function.update p.instances handle none := by
  rw [Progress.depart]
  cases hfound : p.instances handle with
  | none =>
      have hself := Function.update_eq_self handle p.instances
      rw [hfound] at hself
      exact hself.symm
  | some found => rfl

theorem instances_apply (p : Progress Cache Handle) (sample : Sample Handle) (handle : Handle) :
    (p.apply graph parser readers sample).instances handle =
      knownAfter parser readers handle (p.instances handle) sample := by
  rw [Progress.apply, knownAfter, tells]
  cases hvalid : sample.validData with
  | false =>
      simp only [Bool.false_eq_true, if_false, instances_depart]
      by_cases hhandle : sample.instanceHandle = handle
      · simp [hhandle]
      · simp [hhandle, Ne.symm hhandle]
  | true =>
      cases hann : announcement parser readers sample with
      | none => simp
      | some info =>
          by_cases hhandle : sample.instanceHandle = handle
          · simp [hhandle, Progress.record]
          · simp [hhandle, Ne.symm hhandle, Progress.record]

/-- The map holds what the samples say last. -/
theorem instances_foldl (samples : List (Sample Handle)) (p : Progress Cache Handle)
    (handle : Handle) :
    (samples.foldl (Progress.apply graph parser readers) p).instances handle =
      samples.foldl (knownAfter parser readers handle) (p.instances handle) := by
  induction samples generalizing p with
  | nil => rfl
  | cons sample samples ih => rw [List.foldl_cons, List.foldl_cons, ih, instances_apply]

/-! ## The cache -/

variable {graph}

theorem entities_depart (hgraph : graph.Lawful) (p : Progress Cache Handle) (handle : Handle) :
    graph.entities (p.depart graph readers handle).cache =
      Function.update (graph.entities p.cache) readers
        (graph.entities p.cache readers \ {guid | p.instances handle = some guid}) := by
  rw [Progress.depart]
  cases hfound : p.instances handle with
  | none => simp
  | some found =>
      refine (hgraph.entities_removeEntity found readers p.cache).trans ?_
      congr 2
      ext guid
      simp [eq_comm]

theorem entities_record (hgraph : graph.Lawful) (p : Progress Cache Handle)
    (sample : Sample Handle) (info : EntityInfo TypeHash) :
    graph.entities (p.record graph readers sample info).cache =
      Function.update (graph.entities p.cache) readers
        (insert sample.endpoint (graph.entities p.cache readers)) := by
  refine (hgraph.entities_addEntity _ _ _ _).trans ?_
  rw [hgraph.entities_addParticipant]

theorem changed_depart (hgraph : graph.Lawful) (p : Progress Cache Handle) (handle : Handle) :
    (p.depart graph readers handle).changed = true ↔ p.changed = true ∨
      graph.entities (p.depart graph readers handle).cache ≠ graph.entities p.cache := by
  rw [entities_depart readers hgraph, ne_eq, Function.update_eq_self_iff, Progress.depart]
  cases hfound : p.instances handle with
  | none => simp
  | some found =>
      have hupdated := hgraph.removeEntity_updated found readers p.cache
      have hsame : graph.entities p.cache readers \ {guid | some found = some guid} =
          graph.entities p.cache readers ↔ found ∉ graph.entities p.cache readers := by
        rw [sdiff_eq_left, Set.disjoint_left]
        constructor
        · exact fun hdisjoint hmem => hdisjoint hmem rfl
        · rintro hnot _ hmem ⟨⟩
          exact hnot hmem
      rw [hsame, not_not, ← hupdated, Bool.or_eq_true, or_comm]

theorem changed_record (hgraph : graph.Lawful) (p : Progress Cache Handle)
    (sample : Sample Handle) (info : EntityInfo TypeHash) :
    (p.record graph readers sample info).changed = true ↔ p.changed = true ∨
      graph.entities (p.record graph readers sample info).cache ≠ graph.entities p.cache := by
  have hupdated := hgraph.addEntity_updated sample.endpoint info readers
    (graph.addParticipant sample.participant [] p.cache)
  rw [hgraph.entities_addParticipant] at hupdated
  rw [entities_record readers hgraph, ne_eq, Function.update_eq_self_iff, Set.insert_eq_self,
    ← hupdated, Progress.record, Bool.or_eq_true, or_comm]

/-- The flag says whether the endpoints in the cache have changed. -/
theorem changed_apply (hgraph : graph.Lawful) (p : Progress Cache Handle)
    (sample : Sample Handle) :
    (p.apply graph parser readers sample).changed = true ↔ p.changed = true ∨
      graph.entities (p.apply graph parser readers sample).cache ≠ graph.entities p.cache := by
  rw [Progress.apply]
  split
  · split
    · simp
    · exact changed_record readers hgraph p sample _
  · exact changed_depart readers hgraph p sample.instanceHandle

/-- One of the samples, applied in turn, adds an endpoint to the cache or removes
one from it. -/
def ChangesEntities (graph : GraphCache Cache TypeHash Node) (parser : BuiltinParser TypeHash)
    (readers : Bool) (samples : List (Sample Handle)) (p : Progress Cache Handle) : Prop :=
  ∃ before sample after, samples = before ++ sample :: after ∧
    graph.entities ((before ++ [sample]).foldl (Progress.apply graph parser readers) p).cache ≠
      graph.entities (before.foldl (Progress.apply graph parser readers) p).cache

theorem changed_foldl (hgraph : graph.Lawful) (samples : List (Sample Handle))
    (p : Progress Cache Handle) :
    (samples.foldl (Progress.apply graph parser readers) p).changed = true ↔
      p.changed = true ∨ ChangesEntities graph parser readers samples p := by
  induction samples using List.reverseRecOn with
  | nil => simp [ChangesEntities]
  | append_singleton samples sample ih =>
      rw [List.foldl_concat, changed_apply parser readers hgraph, ih, or_assoc]
      refine or_congr_right ?_
      constructor
      · rintro (⟨before, changing, after, rfl, hchange⟩ | hchange)
        · exact ⟨before, changing, after ++ [sample], by simp, hchange⟩
        · exact ⟨samples, sample, [], rfl, by rw [List.foldl_concat]; exact hchange⟩
      · rintro ⟨before, changing, after, heq, hchange⟩
        rcases List.eq_nil_or_concat' after with rfl | ⟨after, last, rfl⟩
        · obtain ⟨rfl, rfl⟩ := List.append_singleton_inj.mp heq
          rw [List.foldl_concat] at hchange
          exact .inr hchange
        · rw [← List.cons_append, ← List.append_assoc] at heq
          obtain ⟨rfl, rfl⟩ := List.append_singleton_inj.mp heq
          exact .inl ⟨before, changing, after, rfl, hchange⟩

end Loop

/-! ## The map and the cache agree -/

/-- The map has the GUIDs of its instances, and of other participants the cache
has the endpoints of the map. -/
structure Tracks (graph : GraphCache Cache TypeHash Node) (identity : Identity Handle)
    (readers : Bool) (cache : Cache) (instances : Handle → Option Guid) : Prop where
  guid : ∀ handle found, instances handle = some found → found = identity.guid readers handle
  entities : ∀ found ∉ identity.isLocal,
    found ∈ graph.entities cache readers ↔ ∃ handle, instances handle = some found

section Tracking

variable [DecidableEq Handle] {graph : GraphCache Cache TypeHash Node}
  {parser : BuiltinParser TypeHash} {identity : Identity Handle} {readers : Bool}
  {p : Progress Cache Handle}

theorem Tracks.depart (hgraph : graph.Lawful) (h : Tracks graph identity readers p.cache p.instances)
    (handle : Handle) :
    Tracks graph identity readers (p.depart graph readers handle).cache
      (p.depart graph readers handle).instances := by
  rw [instances_depart]
  constructor
  · intro other found hfound
    obtain ⟨-, heq⟩ | ⟨-, hold⟩ := Table.update_eq_some hfound
    · cases heq
    · exact h.guid other found hold
  · intro found hremote
    rw [entities_depart readers hgraph, Function.update_self, Set.mem_sdiff,
      h.entities found hremote]
    constructor
    · rintro ⟨⟨other, hother⟩, hdeparted⟩
      refine ⟨other, ?_⟩
      rw [Function.update_of_ne]
      · exact hother
      · rintro rfl
        exact hdeparted hother
    · rintro ⟨other, hother⟩
      obtain ⟨-, heq⟩ | ⟨hne, hold⟩ := Table.update_eq_some hother
      · cases heq
      · refine ⟨⟨other, hold⟩, fun hfound => hne ?_⟩
        refine identity.guid_injective readers ?_
        rw [← h.guid other found hold, ← h.guid handle found hfound]

theorem Tracks.record (hgraph : graph.Lawful)
    (h : Tracks graph identity readers p.cache p.instances) {sample : Sample Handle}
    (hguid : sample.endpoint = identity.guid readers sample.instanceHandle)
    (info : EntityInfo TypeHash) :
    Tracks graph identity readers (p.record graph readers sample info).cache
      (p.record graph readers sample info).instances := by
  constructor
  · intro other found hfound
    obtain ⟨rfl, heq⟩ | ⟨-, hold⟩ := Table.update_eq_some hfound
    · cases heq
      exact hguid
    · exact h.guid other found hold
  · intro found hremote
    rw [entities_record readers hgraph, Function.update_self, Set.mem_insert_iff,
      h.entities found hremote]
    constructor
    · rintro (rfl | ⟨other, hother⟩)
      · exact ⟨sample.instanceHandle, Function.update_self ..⟩
      · by_cases hne : other = sample.instanceHandle
        · subst hne
          rw [h.guid _ found hother, ← hguid]
          exact ⟨sample.instanceHandle, Function.update_self ..⟩
        · exact ⟨other, (Function.update_of_ne hne ..).trans hother⟩
    · rintro ⟨other, hother⟩
      obtain ⟨-, heq⟩ | ⟨-, hold⟩ := Table.update_eq_some hother
      · cases heq
        exact .inl rfl
      · exact .inr ⟨other, hold⟩

theorem Tracks.apply (hgraph : graph.Lawful)
    (h : Tracks graph identity readers p.cache p.instances) {sample : Sample Handle}
    (hguid : sample.validData = true →
      sample.endpoint = identity.guid readers sample.instanceHandle) :
    Tracks graph identity readers (p.apply graph parser readers sample).cache
      (p.apply graph parser readers sample).instances := by
  rw [Progress.apply]
  split
  · next hvalid =>
      split
      · exact h
      · exact h.record hgraph (hguid hvalid) _
  · exact h.depart hgraph sample.instanceHandle

/-- The other kind of endpoints is left alone. -/
theorem entities_apply_of_ne (hgraph : graph.Lawful) (p : Progress Cache Handle)
    (sample : Sample Handle) {other : Bool} (hne : other ≠ readers) :
    graph.entities (p.apply graph parser readers sample).cache other =
      graph.entities p.cache other := by
  rw [Progress.apply]
  split
  · split
    · rfl
    · rw [entities_record readers hgraph, Function.update_of_ne hne]
  · rw [entities_depart readers hgraph, Function.update_of_ne hne]

/-- The endpoints of the context itself are left alone. -/
theorem entities_apply_local (hgraph : graph.Lawful)
    (h : Tracks graph identity readers p.cache p.instances) {sample : Sample Handle}
    (hguid : sample.validData = true →
      sample.endpoint = identity.guid readers sample.instanceHandle) {found : Guid}
    (hlocal : found ∈ identity.isLocal) (other : Bool) :
    found ∈ graph.entities (p.apply graph parser readers sample).cache other ↔
      found ∈ graph.entities p.cache other := by
  have hremote : ∀ handle, found ≠ identity.guid readers handle := by
    rintro handle rfl
    exact identity.guid_remote readers handle hlocal
  by_cases hkind : other = readers
  · subst hkind
    rw [Progress.apply]
    split
    · next hvalid =>
        split
        · rfl
        · rw [entities_record other hgraph, Function.update_self, Set.mem_insert_iff,
            hguid hvalid, or_iff_right (hremote _)]
    · rw [entities_depart other hgraph, Function.update_self, Set.mem_sdiff, and_iff_left]
      exact fun hfound => hremote _ (h.guid _ found hfound)
  · rw [entities_apply_of_ne hgraph p sample hkind]

/-- All the samples of a list. -/
theorem Tracks.foldl (hgraph : graph.Lawful) {samples : List (Sample Handle)}
    (hmatches : identity.Matches parser readers samples)
    (h : Tracks graph identity readers p.cache p.instances) :
    Tracks graph identity readers
        (samples.foldl (Progress.apply graph parser readers) p).cache
        (samples.foldl (Progress.apply graph parser readers) p).instances ∧
      (∀ other ≠ readers,
        graph.entities (samples.foldl (Progress.apply graph parser readers) p).cache other =
          graph.entities p.cache other) ∧
      ∀ found ∈ identity.isLocal, ∀ other,
        found ∈ graph.entities (samples.foldl (Progress.apply graph parser readers) p).cache other ↔
          found ∈ graph.entities p.cache other := by
  induction samples using List.reverseRecOn with
  | nil => exact ⟨h, fun _ _ => rfl, fun _ _ _ => Iff.rfl⟩
  | append_singleton samples sample ih =>
      obtain ⟨htracks, hothers, hlocal⟩ := ih fun sample hsample =>
        hmatches sample (List.mem_append_left _ hsample)
      have hguid : sample.validData = true →
          sample.endpoint = identity.guid readers sample.instanceHandle := fun hvalid =>
        (hmatches sample (List.mem_append_right _ (List.mem_singleton_self _)) hvalid).1
      rw [List.foldl_concat]
      refine ⟨htracks.apply hgraph hguid, ?_, ?_⟩
      · intro other hne
        exact (entities_apply_of_ne hgraph _ sample hne).trans (hothers other hne)
      · intro found hfound other
        exact (entities_apply_local hgraph htracks hguid hfound other).trans
          (hlocal found hfound other)

/-- Samples that leave the same map leave the same endpoints in the cache. -/
theorem entities_foldl_congr (hgraph : graph.Lawful)
    (h : Tracks graph identity readers p.cache p.instances) {samples samples' : List (Sample Handle)}
    (hmatches : identity.Matches parser readers samples)
    (hmatches' : identity.Matches parser readers samples')
    (hsame : (samples.foldl (Progress.apply graph parser readers) p).instances =
      (samples'.foldl (Progress.apply graph parser readers) p).instances) :
    graph.entities (samples.foldl (Progress.apply graph parser readers) p).cache =
      graph.entities (samples'.foldl (Progress.apply graph parser readers) p).cache := by
  obtain ⟨htracks, hothers, hlocal⟩ := h.foldl hgraph hmatches
  obtain ⟨htracks', hothers', hlocal'⟩ := h.foldl hgraph hmatches'
  funext other
  by_cases hne : other = readers
  · subst hne
    ext found
    by_cases hfound : found ∈ identity.isLocal
    · exact (hlocal found hfound other).trans (hlocal' found hfound other).symm
    · rw [htracks.entities found hfound, htracks'.entities found hfound, hsame]
  · exact (hothers other hne).trans (hothers' other hne).symm

end Tracking

/-! ## Consuming a reader -/

section Consuming

variable [DecidableEq Handle] (graph : GraphCache Cache TypeHash Node)
  (parser : BuiltinParser TypeHash) (readers : Bool)

theorem consumeReader_progress (take : Take Handle) (p : Progress Cache Handle) :
    (consumeReader graph parser readers take p).2 =
      (take.samples.takeWhile (wellFormed parser readers)).foldl
        (Progress.apply graph parser readers) p := by
  cases take with
  | noData => rfl
  | error => rfl
  | ok batch returned =>
      rw [consumeReader, consumeSamples_eq]
      rfl

theorem wellFormed_of_ok {take : Take Handle} {p : Progress Cache Handle}
    (h : (consumeReader graph parser readers take p).1 = .ok) :
    ∀ sample ∈ take.samples, wellFormed parser readers sample = true := by
  cases take with
  | noData => exact nofun
  | error => exact nofun
  | ok batch returned =>
      rw [consumeReader, consumeSamples_eq] at h
      simp only [ite_eq_left_iff, reduceCtorEq, imp_false, not_not] at h
      exact List.all_eq_true.mp h.1

end Consuming

/-! ## Runs -/

section Fields

variable {c : Context Cache Handle}

@[simp] theorem instances_withProgress (readers : Bool) (p : Progress Cache Handle) :
    (c.withProgress readers p).instances readers = p.instances := by
  cases readers <;> rfl

theorem instances_withProgress_of_ne {readers other : Bool} (hne : other ≠ readers)
    (p : Progress Cache Handle) :
    (c.withProgress readers p).instances other = c.instances other := by
  cases readers <;> cases other <;> first | rfl | exact absurd rfl hne

@[simp] theorem graphCache_withProgress (readers : Bool) (p : Progress Cache Handle) :
    (c.withProgress readers p).graphCache = p.cache := by
  cases readers <;> rfl

end Fields

section Runs

variable {graph : GraphCache Cache TypeHash Node} {identity : Identity Handle}
  {c c' : Context Cache Handle}

/-- Both maps of the context agree with its cache. -/
def Context.Tracks (graph : GraphCache Cache TypeHash Node) (identity : Identity Handle)
    (c : Context Cache Handle) : Prop :=
  ∀ readers, Graph.Tracks graph identity readers c.graphCache (c.instances readers)

theorem tracks_initial (h : c.Initial graph identity) : c.Tracks graph identity := by
  obtain ⟨hentities, -, hinstances⟩ := h
  intro readers
  constructor
  · intro handle found hfound
    rw [hinstances readers handle] at hfound
    cases hfound
  · intro found hremote
    constructor
    · exact fun hmem => absurd (hentities readers hmem) hremote
    · rintro ⟨handle, hfound⟩
      rw [hinstances readers handle] at hfound
      cases hfound

variable [DecidableEq Handle] {parser : BuiltinParser TypeHash} {a : Action Cache Node Handle}

theorem Context.Tracks.foldl (hgraph : graph.Lawful) (h : c.Tracks graph identity)
    {readers : Bool} {samples : List (Sample Handle)}
    (hmatches : identity.Matches parser readers samples) (changed : Bool) :
    (c.withProgress readers (samples.foldl (Progress.apply graph parser readers)
      (c.progress readers changed))).Tracks graph identity := by
  have hfold := Graph.Tracks.foldl (p := c.progress readers changed) hgraph hmatches (h readers)
  intro other
  rw [graphCache_withProgress]
  by_cases hne : other = readers
  · subst hne
    rw [instances_withProgress]
    exact hfold.1
  · rw [instances_withProgress_of_ne hne]
    refine ⟨(h other).guid, ?_⟩
    intro found hremote
    rw [hfold.2.1 other hne]
    exact (h other).entities found hremote

theorem Context.Tracks.consume (hgraph : graph.Lawful) (h : c.Tracks graph identity)
    {readers : Bool} {take : Take Handle} (hmatches : identity.Matches parser readers take.samples)
    (changed : Bool) :
    ((c.consume graph parser readers take changed).2.1).Tracks graph identity := by
  simp only [Context.consume, consumeReader_progress]
  refine h.foldl hgraph ?_ changed
  exact fun sample hsample => hmatches sample (List.takeWhile_subset _ hsample)

theorem Context.Tracks.refresh (hgraph : graph.Lawful) (h : c.Tracks graph identity)
    {publications subscriptions : Take Handle}
    (hwriters : identity.Matches parser false publications.samples)
    (hreaders : identity.Matches parser true subscriptions.samples) (lookups : Bool) :
    (refreshDiscoveredEndpoints graph parser lookups publications subscriptions c).context.Tracks
      graph identity := by
  have hfirst := h.consume hgraph hwriters false
  rw [refreshDiscoveredEndpoints]
  cases lookups with
  | false => exact h
  | true =>
      simp only [Bool.not_true, Bool.false_eq_true, if_false]
      split
      · exact hfirst.consume hgraph hreaders _
      · exact hfirst

theorem Context.Tracks.step (hgraph : graph.Lawful) (h : c.Tracks graph identity)
    (hstep : Step graph parser identity c a c') : c'.Tracks graph identity := by
  cases hstep with
  | refresh hwriters hreaders => exact h.refresh hgraph hwriters hreaders _
  | update message =>
      rw [updateParticipantEntities]
      split
      · intro readers
        refine ⟨(h readers).guid, ?_⟩
        rw [hgraph.entities_updateParticipantEntities]
        exact (h readers).entities
      · exact h
  | changeLocal hentities hparticipants =>
      intro readers
      refine ⟨(h readers).guid, ?_⟩
      intro found hremote
      have hsame := Set.ext_iff.mp (hentities readers) found
      rw [Set.mem_sdiff, Set.mem_sdiff, and_iff_left hremote, and_iff_left hremote] at hsame
      exact hsame.trans ((h readers).entities found hremote)

theorem tracks_reachable (hgraph : graph.Lawful)
    (h : (system graph parser identity).Reachable c) : c.Tracks graph identity := by
  refine h.invariant ?_ ?_
  · exact fun _ hinit => tracks_initial hinit
  · exact fun _ _ _ htracks hstep => htracks.step hgraph hstep

end Runs

end RmwZzdds.Graph
