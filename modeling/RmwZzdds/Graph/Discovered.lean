import RmwZzdds.Graph.Consistency

/-!
# What a refresh has discovered

The discovery cache after batches without errors (`discovery_cache`), and what
a malformed sample costs the rest of its batch (`malformed_sample_isolated`).
-/

namespace RmwZzdds.Graph

open Service (Guid)
open Transition

variable {Cache TypeHash Node Handle : Type*} [DecidableEq Handle]
  {graph : GraphCache Cache TypeHash Node} {parser : BuiltinParser TypeHash}
  {identity : Identity Handle} {c c' : Context Cache Handle}
  {as : List (Action Cache Node Handle)}

/-! ## Refreshes without errors -/

/-- All samples of a take are applied. -/
def Context.applied (graph : GraphCache Cache TypeHash Node) (parser : BuiltinParser TypeHash)
    (readers changed : Bool) (samples : List (Sample Handle)) (c : Context Cache Handle) :
    Progress Cache Handle :=
  samples.foldl (Progress.apply graph parser readers) (c.progress readers changed)

/-- A reader consumed without error has all its samples applied. -/
theorem consume_of_ok {readers changed : Bool} {take : Take Handle}
    (h : (c.consume graph parser readers take changed).1 = .ok) :
    (∀ sample ∈ take.samples, wellFormed parser readers sample = true) ∧
      (c.consume graph parser readers take changed).2 =
        (c.withProgress readers (c.applied graph parser readers changed take.samples),
          (c.applied graph parser readers changed take.samples).changed) := by
  have hformed := wellFormed_of_ok graph parser readers h
  refine ⟨hformed, ?_⟩
  simp only [Context.consume, consumeReader_progress, List.takeWhile_eq_self_iff.mpr hformed]
  rfl

/-- A refresh without error applies the samples of the writers and then those of
the readers. -/
theorem refresh_of_ok {lookups : Bool} {publications subscriptions : Take Handle}
    (h : (refreshDiscoveredEndpoints graph parser lookups publications subscriptions c).ret =
      .ok) :
    let writers := c.applied graph parser false false publications.samples
    let readers := (c.withProgress false writers).applied graph parser true writers.changed
      subscriptions.samples
    (∀ sample ∈ publications.samples, wellFormed parser false sample = true) ∧
      (∀ sample ∈ subscriptions.samples, wellFormed parser true sample = true) ∧
      refreshDiscoveredEndpoints graph parser lookups publications subscriptions c =
        ⟨.ok, (c.withProgress false writers).withProgress true readers, readers.changed⟩ := by
  intro writers readers
  rw [refreshDiscoveredEndpoints] at h ⊢
  cases lookups with
  | false => cases h
  | true =>
      simp only [Bool.not_true, Bool.false_eq_true, if_false] at h ⊢
      by_cases hfirst : (c.consume graph parser false publications false).1 = .ok
      · simp only [hfirst, if_true] at h ⊢
        obtain ⟨hwriters, hprogress⟩ := consume_of_ok hfirst
        simp only [hprogress] at h ⊢
        obtain ⟨hreaders, hprogress'⟩ := consume_of_ok h
        refine ⟨hwriters, hreaders, ?_⟩
        simp only [h, hprogress']
        rfl
      · simp only [hfirst, if_false] at h

/-! ## The latest samples -/

/-- The samples of the writers or readers that a run has consumed. -/
def consumed (readers : Bool) (as : List (Action Cache Node Handle)) : List (Sample Handle) :=
  as.flatMap (Action.samples readers)

/-- The latest sample of the instance has data. -/
def LatestValid (readers : Bool) (handle : Handle) (as : List (Action Cache Node Handle)) : Prop :=
  ∃ sample ∈ ((consumed readers as).filter fun sample => sample.instanceHandle = handle).getLast?,
    sample.validData = true

omit [DecidableEq Handle] in
/-- A well-formed sample with data announces an endpoint for the cache just if
the topic of its instance is not the discovery topic. -/
theorem announcement_isSome {readers : Bool} {sample : Sample Handle}
    (hvalid : sample.validData = true) (hformed : wellFormed parser readers sample = true)
    (htopic : ∀ data, sample.payload.bind (parser.deserialize readers) = some data →
      data.topicName = identity.topic readers sample.instanceHandle) :
    (announcement parser readers sample).isSome ↔
      identity.topic readers sample.instanceHandle ≠ some discoveryTopic := by
  simp only [wellFormed, hvalid, Bool.not_true, Bool.false_or] at hformed
  rw [announcement, if_pos hvalid]
  rw [BuiltinParser.announced] at hformed ⊢
  split at hformed
  · cases hformed
  · next data hdata =>
      rw [← htopic data hdata]
      split at hformed
      · next hdiscovery => simp [hdiscovery]
      · next hdiscovery =>
          split at hformed
          · cases hformed
          · simp [hdiscovery]

/-- The samples that tell of an instance are its samples, if its topic is not
the discovery topic. -/
theorem tells_iff {readers : Bool} {sample : Sample Handle} {handle : Handle}
    (hformed : wellFormed parser readers sample = true)
    (hmatches : identity.Matches parser readers [sample]) :
    tells parser readers handle sample = true ↔ sample.instanceHandle = handle ∧
      (sample.validData = true → identity.topic readers handle ≠ some discoveryTopic) := by
  rw [tells, Bool.and_eq_true, decide_eq_true_iff]
  refine and_congr_right ?_
  rintro rfl
  cases hvalid : sample.validData with
  | false => simp
  | true =>
      have htopic := (hmatches sample (List.mem_singleton_self _) hvalid).2
      simpa using announcement_isSome hvalid hformed htopic

/-- What is known of an instance after well-formed samples. -/
theorem known_iff {readers : Bool} {samples : List (Sample Handle)} {handle : Handle}
    (hformed : ∀ sample ∈ samples, wellFormed parser readers sample = true)
    (hmatches : identity.Matches parser readers samples) (found : Guid) :
    samples.foldl (knownAfter parser readers handle) none = some found ↔
      found = identity.guid readers handle ∧
        identity.topic readers handle ≠ some discoveryTopic ∧
        ∃ sample ∈ (samples.filter fun sample => sample.instanceHandle = handle).getLast?,
          sample.validData = true := by
  have hone : ∀ sample ∈ samples, identity.Matches parser readers [sample] := by
    intro sample hsample other hother
    rw [List.mem_singleton.mp hother]
    exact hmatches sample hsample
  rw [foldl_knownAfter]
  by_cases htopic : identity.topic readers handle = some discoveryTopic
  · -- Only samples without data tell of an instance of the discovery topic.
    simp only [htopic, ne_eq, not_true_eq_false, false_and, and_false, iff_false]
    split
    · intro hnone
      cases hnone
    · next sample hlast =>
        obtain ⟨hsample, htells⟩ := List.mem_filter.mp (List.mem_of_getLast? hlast)
        have hdeparted := ((tells_iff (hformed sample hsample) (hone sample hsample)).mp htells).2
        rw [if_neg (fun hvalid => hdeparted hvalid htopic)]
        intro hnone
        cases hnone
  · have hfilter : samples.filter (tells parser readers handle) =
        samples.filter fun sample => sample.instanceHandle = handle := by
      refine List.filter_congr ?_
      intro sample hsample
      rw [Bool.eq_iff_iff, tells_iff (hformed sample hsample) (hone sample hsample),
        decide_eq_true_iff, and_iff_left (fun _ => htopic)]
    rw [hfilter]
    cases hlast : (samples.filter fun sample => sample.instanceHandle = handle).getLast? with
    | none => simp
    | some sample =>
        obtain ⟨hsample, hhandle⟩ := List.mem_filter.mp (List.mem_of_getLast? hlast)
        cases hvalid : sample.validData with
        | false => simp [hvalid]
        | true =>
            have hguid := (hmatches sample hsample hvalid).1
            rw [of_decide_eq_true hhandle] at hguid
            simp only [hvalid, if_true, Option.some.injEq, hguid]
            constructor
            · rintro rfl
              exact ⟨rfl, htopic, sample, rfl, hvalid⟩
            · rintro ⟨rfl, -⟩
              rfl

/-! ## The discovery cache -/

omit [DecidableEq Handle] in
theorem consumed_append (readers : Bool) (as bs : List (Action Cache Node Handle)) :
    consumed readers (as ++ bs) = consumed readers as ++ consumed readers bs :=
  List.flatMap_append

/-- What the maps hold after a run whose refreshes consume without error. -/
structure Told (parser : BuiltinParser TypeHash) (identity : Identity Handle)
    (as : List (Action Cache Node Handle)) (c : Context Cache Handle) : Prop where
  wellFormed : ∀ readers, ∀ sample ∈ consumed readers as, wellFormed parser readers sample = true
  isMatch : ∀ readers, identity.Matches parser readers (consumed readers as)
  instances : ∀ readers handle, c.instances readers handle =
    (consumed readers as).foldl (knownAfter parser readers handle) none

omit [DecidableEq Handle] in
theorem consumed_refresh (readers : Bool) (as : List (Action Cache Node Handle)) (lookups : Bool)
    (publications subscriptions : Take Handle) :
    consumed readers (as ++ [.refresh lookups publications subscriptions]) =
      consumed readers as ++ if readers then subscriptions.samples else publications.samples := by
  rw [consumed_append]
  exact congrArg _ (List.append_nil _)

/-- A step that consumes nothing. -/
theorem Told.quiet (h : Told parser identity as c) {a : Action Cache Node Handle}
    (hsamples : ∀ readers, a.samples readers = []) (hinstances : c'.instances = c.instances) :
    Told parser identity (as ++ [a]) c' := by
  have hconsumed : ∀ readers, consumed readers (as ++ [a]) = consumed readers as := by
    intro readers
    rw [consumed_append, consumed, consumed, List.flatMap_singleton, hsamples, List.append_nil]
  constructor
  · intro readers
    rw [hconsumed]
    exact h.wellFormed readers
  · intro readers
    rw [hconsumed]
    exact h.isMatch readers
  · intro readers handle
    rw [hconsumed, hinstances]
    exact h.instances readers handle

theorem Told.refresh (h : Told parser identity as c) {lookups : Bool}
    {publications subscriptions : Take Handle}
    (hok : (refreshDiscoveredEndpoints graph parser lookups publications subscriptions c).ret = .ok)
    (hwriters : identity.Matches parser false publications.samples)
    (hreaders : identity.Matches parser true subscriptions.samples) :
    Told parser identity (as ++ [.refresh lookups publications subscriptions])
      (refreshDiscoveredEndpoints graph parser lookups publications subscriptions c).context := by
  obtain ⟨hformed, hformed', hrefresh⟩ := refresh_of_ok hok
  rw [hrefresh]
  constructor
  · intro readers sample hsample
    rw [consumed_refresh] at hsample
    obtain hold | hnew := List.mem_append.mp hsample
    · exact h.wellFormed readers sample hold
    · cases readers with
      | false => exact hformed sample hnew
      | true => exact hformed' sample hnew
  · intro readers sample hsample
    rw [consumed_refresh] at hsample
    obtain hold | hnew := List.mem_append.mp hsample
    · exact h.isMatch readers sample hold
    · cases readers with
      | false => exact hwriters sample hnew
      | true => exact hreaders sample hnew
  · intro readers handle
    rw [consumed_refresh, List.foldl_append, ← h.instances]
    cases readers with
    | false =>
        show ((c.withProgress false _).withProgress true _).instances false handle = _
        rw [instances_withProgress_of_ne Bool.false_ne_true, instances_withProgress]
        exact instances_foldl graph parser false publications.samples _ handle
    | true =>
        show ((c.withProgress false _).withProgress true _).instances true handle = _
        rw [instances_withProgress]
        refine (instances_foldl graph parser true subscriptions.samples _ handle).trans ?_
        rw [Context.progress, instances_withProgress_of_ne Bool.false_ne_true.symm]
        rfl

/-- The discovery cache after a run, and what a refresh without error does. -/
structure DiscoveryCache (graph : GraphCache Cache TypeHash Node)
    (parser : BuiltinParser TypeHash) (identity : Identity Handle)
    (as : List (Action Cache Node Handle)) (c : Context Cache Handle) : Prop where
  /-- The maps hold the instances whose latest sample has data, with their GUIDs,
  the discovery topic apart. -/
  instances : ∀ readers handle found, c.instances readers handle = some found ↔
    found = identity.guid readers handle ∧
      identity.topic readers handle ≠ some discoveryTopic ∧ LatestValid readers handle as
  /-- The cache holds their endpoints besides those of the context itself. -/
  entities : ∀ readers, graph.entities c.graphCache readers \ identity.isLocal =
    {found | ∃ handle, found = identity.guid readers handle ∧
      identity.topic readers handle ≠ some discoveryTopic ∧ LatestValid readers handle as}

/-- What a refresh without error does besides. -/
structure RefreshSignals (graph : GraphCache Cache TypeHash Node)
    (parser : BuiltinParser TypeHash) (identity : Identity Handle)
    (lookups : Bool) (publications subscriptions : Take Handle)
    (c : Context Cache Handle) : Prop where
  /-- The endpoints of the context itself stay as they are. -/
  localEntities : ∀ readers, graph.entities
    (refreshDiscoveredEndpoints graph parser lookups publications subscriptions c).context.graphCache
      readers ∩ identity.isLocal = graph.entities c.graphCache readers ∩ identity.isLocal
  /-- The graph guard is triggered just if one of the samples has added an endpoint
  to the cache or removed one from it. -/
  notified :
    (refreshDiscoveredEndpoints graph parser lookups publications subscriptions c).notified = true ↔
      ChangesEntities graph parser false publications.samples (c.progress false false) ∨
      ChangesEntities graph parser true subscriptions.samples
        ((c.withProgress false (c.applied graph parser false false publications.samples)).progress
          true (c.applied graph parser false false publications.samples).changed)

theorem told_run {c₀ : Context Cache Handle}
    (h : ((system graph parser identity).restrict (ConsumesWithoutError graph parser)).Run c₀ as c)
    (hinit : c₀.Initial graph identity) : Told parser identity as c := by
  refine h.history ?_ ?_
  · exact ⟨fun _ => nofun, fun _ => nofun, fun readers handle => hinit.2.2 readers handle⟩
  · rintro bs t b t' _ htold ⟨hok, hstep⟩
    cases hstep with
    | refresh hwriters hreaders => exact htold.refresh hok hwriters hreaders
    | update message =>
        refine htold.quiet (fun _ => rfl) ?_
        rw [updateParticipantEntities]
        split <;> rfl
    | changeLocal => exact htold.quiet (fun _ => rfl) rfl

theorem refresh_signals (hgraph : graph.Lawful) (htracks : c.Tracks graph identity)
    {lookups : Bool} {publications subscriptions : Take Handle}
    (hok : (refreshDiscoveredEndpoints graph parser lookups publications subscriptions c).ret = .ok)
    (hwriters : identity.Matches parser false publications.samples)
    (hreaders : identity.Matches parser true subscriptions.samples) :
    RefreshSignals graph parser identity lookups publications subscriptions c := by
  obtain ⟨-, -, hrefresh⟩ := refresh_of_ok hok
  have hlocal := fun found hfound => (Graph.Tracks.foldl (p := c.progress false false) hgraph
    hwriters (htracks false)).2.2 found hfound
  have hlocal' := fun found hfound => (Graph.Tracks.foldl
    (p := (c.withProgress false (c.applied graph parser false false publications.samples)).progress
      true (c.applied graph parser false false publications.samples).changed)
    hgraph hreaders (htracks.foldl hgraph hwriters false true)).2.2 found hfound
  constructor
  · intro readers
    rw [hrefresh]
    ext found
    refine and_congr_left ?_
    intro hfound
    exact (hlocal' found hfound readers).trans (hlocal found hfound readers)
  · rw [hrefresh]
    refine (changed_foldl parser true hgraph _ _).trans ?_
    refine or_congr_left ((changed_foldl parser false hgraph _ _).trans ?_)
    simp [Context.progress]

/-- The discovery cache invariant. -/
theorem discovery_cache (hgraph : graph.Lawful) {c₀ : Context Cache Handle}
    (hinit : c₀.Initial graph identity)
    (h : ((system graph parser identity).restrict (ConsumesWithoutError graph parser)).Run c₀ as c) :
    DiscoveryCache graph parser identity as c ∧
      ∀ lookups publications subscriptions,
        identity.Matches parser false publications.samples →
        identity.Matches parser true subscriptions.samples →
        (refreshDiscoveredEndpoints graph parser lookups publications subscriptions c).ret = .ok →
        RefreshSignals graph parser identity lookups publications subscriptions c := by
  have htold := told_run h hinit
  have htracks := tracks_reachable hgraph (h.reachable (.init hinit)).of_restrict
  have hinstances : ∀ readers handle found, c.instances readers handle = some found ↔
      found = identity.guid readers handle ∧
        identity.topic readers handle ≠ some discoveryTopic ∧ LatestValid readers handle as := by
    intro readers handle found
    rw [htold.instances]
    exact known_iff (htold.wellFormed readers) (htold.isMatch readers) found
  refine ⟨⟨hinstances, ?_⟩, ?_⟩
  · intro readers
    ext found
    constructor
    · rintro ⟨hmem, hremote⟩
      obtain ⟨handle, hfound⟩ := ((htracks readers).entities found hremote).mp hmem
      exact ⟨handle, (hinstances readers handle found).mp hfound⟩
    · rintro ⟨handle, hfound⟩
      have hremote : found ∉ identity.isLocal := hfound.1 ▸ identity.guid_remote readers handle
      refine ⟨((htracks readers).entities found hremote).mpr ⟨handle, ?_⟩, hremote⟩
      exact (hinstances readers handle found).mpr hfound
  · intro lookups publications subscriptions hwriters hreaders hok
    exact refresh_signals hgraph htracks hok hwriters hreaders

/-- A remote endpoint.  The two have the same participant. -/
def remoteGuid (handle : Bool) : Guid where
  bytes := List.replicate 15 1 ++ [if handle then 7 else 2]
  length_eq := by cases handle <;> rfl

/-- Two endpoints of the topic `rt/chatter`. -/
def chatterIdentity : Identity Bool where
  guid _ := remoteGuid
  guid_injective _ := Bool.injective_iff.mpr (by decide)
  topic _ _ := some "rt/chatter".toList
  isLocal := ∅
  guid_remote _ _ := Set.notMem_empty _

/-- A parser for payloads that announce `rt/chatter`.  Empty payloads are
malformed. -/
def chatterParser : BuiltinParser Unit where
  zeroTypeHash := ()
  deserialize _ payload :=
    if payload.isEmpty then none
    else
      some
        { topicName := some "rt/chatter".toList
          typeName := some "std_msgs::msg::dds_::String_".toList
          userData := []
          reliability := .reliable
          durability := .volatile
          liveliness := .automatic }
  parseTypeHash _ := some ()
  parseSertypeHash _ := .unsupported

/-- A context that has discovered nothing. -/
def lonelyContext : Context (Tables Unit String) Bool where
  gid := zeroGuid
  graphCache := Tables.empty
  discoveredWriterInstances _ := none
  discoveredReaderInstances _ := none

theorem initial_lonelyContext : lonelyContext.Initial Tables.graphCache chatterIdentity := by
  refine ⟨?_, fun _ _ => rfl, ?_⟩
  · intro readers found hmem
    cases hmem
  · intro readers handle
    cases readers <;> rfl

/-- Two samples of writers with the payloads given. -/
def chatterTake (first second : List UInt8) : Take Bool :=
  .ok
    { payloads := [first, second]
      hashes := (remoteGuid true).bytes ++ (remoteGuid false).bytes
      infos := [⟨true, true⟩, ⟨false, true⟩] } true

theorem samples_chatterTake (first second : List UInt8) :
    (chatterTake first second).samples =
      [⟨true, true, some first, remoteGuid true, participantOf (remoteGuid true)⟩,
        ⟨false, true, some second, remoteGuid false, participantOf (remoteGuid false)⟩] := rfl

theorem matches_chatterTake (first second : List UInt8) :
    chatterIdentity.Matches chatterParser false (chatterTake first second).samples := by
  have htopic : ∀ (payload : List UInt8) data,
      chatterParser.deserialize false payload = some data →
      data.topicName = some "rt/chatter".toList := by
    intro payload data hdata
    simp only [chatterParser, Option.ite_none_left_eq_some, Option.some.injEq] at hdata
    rw [← hdata.2]
  intro sample hsample _
  rw [samples_chatterTake] at hsample
  obtain rfl | hsample := List.mem_cons.mp hsample
  · exact ⟨rfl, htopic first⟩
  · rw [List.mem_singleton.mp hsample]
    exact ⟨rfl, htopic second⟩

/-- A refresh that discovers both. -/
theorem chatter_discovered :
    ∃ c : Context (Tables Unit String) Bool,
      DiscoveryCache Tables.graphCache chatterParser chatterIdentity
        [.refresh true (chatterTake [0, 1, 0, 0] [0, 1, 0, 0]) .noData] c ∧
      c.discoveredWriterInstances = fun handle => some (remoteGuid handle) := by
  have hrun : ((system Tables.graphCache chatterParser chatterIdentity).restrict
      (ConsumesWithoutError Tables.graphCache chatterParser)).Run lonelyContext
      [.refresh true (chatterTake [0, 1, 0, 0] [0, 1, 0, 0]) .noData] _ :=
    .cons ⟨by rfl, .refresh (matches_chatterTake _ _) nofun⟩ (.nil _)
  refine ⟨_, (discovery_cache Tables.lawful initial_lonelyContext hrun).1, ?_⟩
  funext handle
  cases handle <;> rfl

/-! ## Malformed samples -/

/-- The well-formed samples behind the first malformed one. -/
def overlooked (parser : BuiltinParser TypeHash) (readers : Bool)
    (samples : List (Sample Handle)) : List (Sample Handle) :=
  (samples.dropWhile (wellFormed parser readers)).filter (wellFormed parser readers)

/-- The GUID known for an instance before the first malformed sample. -/
def knownBefore (parser : BuiltinParser TypeHash) (readers : Bool)
    (samples : List (Sample Handle)) (c : Context Cache Handle) (handle : Handle) : Option Guid :=
  (samples.takeWhile (wellFormed parser readers)).foldl (knownAfter parser readers handle)
    (c.instances readers handle)

/-- The well-formed samples behind the first malformed one say nothing new: the
last of them about an instance says what is known of it already. -/
def NothingOverlooked (parser : BuiltinParser TypeHash) (readers : Bool)
    (samples : List (Sample Handle)) (c : Context Cache Handle) : Prop :=
  ∀ handle, ∀ sample ∈
      ((overlooked parser readers samples).filter (tells parser readers handle)).getLast?,
    knownBefore parser readers samples c handle =
      if sample.validData then some sample.endpoint else none

/-- `consume_reader` leaves the map and the endpoints in the cache as if the
malformed samples had not been in the batch. -/
def AsWithoutMalformed (graph : GraphCache Cache TypeHash Node)
    (parser : BuiltinParser TypeHash) (readers : Bool) (take : Take Handle) (changed : Bool)
    (c : Context Cache Handle) : Prop :=
  let p := (consumeReader graph parser readers take (c.progress readers changed)).2
  let wanted := (consumeSamples graph parser readers
    (take.samples.filter (wellFormed parser readers)) (c.progress readers changed)).2
  p.instances = wanted.instances ∧ graph.entities p.cache = graph.entities wanted.cache

omit [DecidableEq Handle] in
theorem filter_eq_append_overlooked (readers : Bool) (samples : List (Sample Handle)) :
    samples.filter (wellFormed parser readers) =
      samples.takeWhile (wellFormed parser readers) ++ overlooked parser readers samples := by
  induction samples with
  | nil => rfl
  | cons sample samples ih =>
      by_cases hformed : wellFormed parser readers sample = true
      · simp only [overlooked, List.filter_cons, List.takeWhile_cons, List.dropWhile_cons, hformed,
          if_true, List.cons_append]
        rw [ih]
        rfl
      · simp [overlooked, hformed]

/-- The maps agree just if nothing is overlooked. -/
theorem instances_eq_iff (readers changed : Bool) (samples : List (Sample Handle)) :
    ((samples.takeWhile (wellFormed parser readers)).foldl
        (Progress.apply graph parser readers) (c.progress readers changed)).instances =
      ((samples.filter (wellFormed parser readers)).foldl
        (Progress.apply graph parser readers) (c.progress readers changed)).instances ↔
      NothingOverlooked parser readers samples c := by
  rw [funext_iff]
  refine forall_congr' ?_
  intro handle
  rw [instances_foldl, filter_eq_append_overlooked, instances_foldl, List.foldl_append,
    foldl_knownAfter parser readers handle _ (overlooked parser readers samples)]
  split
  · next hnone => simp [hnone]
  · next sample hlast => simp [hlast, knownBefore, Context.progress]

/-- What a batch is worth behind a malformed sample. -/
theorem malformed_sample_isolated (hgraph : graph.Lawful)
    (h : (system graph parser identity).Reachable c) (readers changed : Bool) (take : Take Handle)
    (hmatches : identity.Matches parser readers take.samples) :
    AsWithoutMalformed graph parser readers take changed c ↔
      NothingOverlooked parser readers take.samples c := by
  have hformed : ∀ sample ∈ take.samples.filter (wellFormed parser readers),
      wellFormed parser readers sample = true := fun sample hsample =>
    (List.mem_filter.mp hsample).2
  rw [AsWithoutMalformed, consumeReader_progress,
    consumeSamples_of_wellFormed graph parser readers hformed, ← instances_eq_iff readers changed]
  refine and_iff_left_of_imp (entities_foldl_congr hgraph (tracks_reachable hgraph h readers) ?_ ?_)
  · exact fun sample hsample => hmatches sample (List.takeWhile_subset _ hsample)
  · exact fun sample hsample => hmatches sample (List.mem_of_mem_filter hsample)

/-- A malformed sample costs the well-formed one behind it. -/
theorem chatter_overlooked :
    ¬ ∀ c : Context (Tables Unit String) Bool,
      (system Tables.graphCache chatterParser chatterIdentity).Reachable c →
      ∀ readers changed take, chatterIdentity.Matches chatterParser readers take.samples →
      AsWithoutMalformed Tables.graphCache chatterParser readers take changed c := by
  intro h
  have hsame := (h lonelyContext (.init initial_lonelyContext) false false
    (chatterTake [] [0, 1, 0, 0]) (matches_chatterTake _ _)).1
  have hmissing : none = some (remoteGuid false) := congrFun hsame false
  cases hmissing

/-- Nothing is lost when the malformed sample comes last. -/
theorem chatter_isolated :
    AsWithoutMalformed Tables.graphCache chatterParser false (chatterTake [0, 1, 0, 0] []) false
      lonelyContext := by
  refine (malformed_sample_isolated Tables.lawful (.init initial_lonelyContext) false false _
    (matches_chatterTake _ _)).mpr ?_
  intro handle sample hsample
  cases hsample

end RmwZzdds.Graph
