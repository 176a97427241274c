import RmwZzdds.Graph.Discovered

/-!
# When a refresh signals a change

`refresh_discovered_endpoints` triggers the graph guard at its end, and only if
neither built-in reader has met an error.  A change of the cache that comes
before an error is not signalled, and no later refresh sees it again.
`changes_signalled` says for which batches this happens.
-/

namespace RmwZzdds.Graph

variable {Cache TypeHash Node Handle : Type*} [DecidableEq Handle]
  {graph : GraphCache Cache TypeHash Node} {parser : BuiltinParser TypeHash}
  {c : Context Cache Handle}

/-! ## Readers consumed to their end -/

/-- The samples could be taken and their loan returned. -/
def Take.succeeds : Take Handle → Bool
  | .noData => true
  | .error => false
  | .ok _ returned => returned

/-- No error keeps `consume_reader` from the end of the batch. -/
def Consumed (parser : BuiltinParser TypeHash) (readers : Bool) (take : Take Handle) : Prop :=
  take.succeeds = true ∧ ∀ sample ∈ take.samples, wellFormed parser readers sample = true

/-- The samples before the first malformed one. -/
def consumable (parser : BuiltinParser TypeHash) (readers : Bool) (take : Take Handle) :
    List (Sample Handle) :=
  take.samples.takeWhile (wellFormed parser readers)

theorem consumeReader_ok_iff (readers : Bool) (take : Take Handle) (p : Progress Cache Handle) :
    (consumeReader graph parser readers take p).1 = .ok ↔ Consumed parser readers take := by
  cases take with
  | noData => simp [consumeReader, Consumed, Take.succeeds, Take.samples]
  | error => simp [consumeReader, Consumed, Take.succeeds]
  | ok batch returned =>
      rw [consumeReader, consumeSamples_eq]
      simp only [ite_eq_left_iff, reduceCtorEq, imp_false, not_not, List.all_eq_true]
      exact and_comm

variable (graph parser c) in
theorem consume_ok_iff (readers changed : Bool) (take : Take Handle) :
    (c.consume graph parser readers take changed).1 = .ok ↔ Consumed parser readers take :=
  consumeReader_ok_iff readers take _

/-- What `consume_reader` leaves, with or without an error. -/
theorem consume_snd (readers changed : Bool) (take : Take Handle) :
    (c.consume graph parser readers take changed).2 =
      (c.withProgress readers
          (c.applied graph parser readers changed (consumable parser readers take)),
        (c.applied graph parser readers changed (consumable parser readers take)).changed) := by
  simp only [Context.consume, consumeReader_progress]
  rfl

/-! ## Changes -/

/-- A call adds an endpoint to the cache or removes one: a sample of the writers
does, or, if their batch meets no error, a sample of the readers. -/
def RefreshChanges (graph : GraphCache Cache TypeHash Node) (parser : BuiltinParser TypeHash)
    (lookups : Bool) (publications subscriptions : Take Handle) (c : Context Cache Handle) :
    Prop :=
  let writers := c.applied graph parser false false (consumable parser false publications)
  lookups = true ∧
    (ChangesEntities graph parser false (consumable parser false publications)
        (c.progress false false) ∨
      Consumed parser false publications ∧
        ChangesEntities graph parser true (consumable parser true subscriptions)
          ((c.withProgress false writers).progress true writers.changed))

/-- Samples that change nothing leave the endpoints as they are. -/
theorem entities_foldl_of_not_changes {readers : Bool} {samples : List (Sample Handle)}
    {p : Progress Cache Handle} (h : ¬ ChangesEntities graph parser readers samples p) :
    graph.entities (samples.foldl (Progress.apply graph parser readers) p).cache =
      graph.entities p.cache := by
  induction samples using List.reverseRecOn with
  | nil => rfl
  | append_singleton samples sample ih =>
      have hlast : graph.entities
          ((samples ++ [sample]).foldl (Progress.apply graph parser readers) p).cache =
          graph.entities (samples.foldl (Progress.apply graph parser readers) p).cache := by
        by_contra hne
        exact h ⟨samples, sample, [], rfl, hne⟩
      rw [hlast]
      refine ih ?_
      rintro ⟨before, changing, after, rfl, hchange⟩
      exact h ⟨before, changing, after ++ [sample], by simp, hchange⟩

variable (graph parser c) in
/-- What a refresh leaves. -/
theorem refresh_context (publications subscriptions : Take Handle) :
    let writers := c.applied graph parser false false (consumable parser false publications)
    let c' := c.withProgress false writers
    (Consumed parser false publications →
      (refreshDiscoveredEndpoints graph parser true publications subscriptions c).context =
        c'.withProgress true
          (c'.applied graph parser true writers.changed (consumable parser true subscriptions))) ∧
    (¬ Consumed parser false publications →
      (refreshDiscoveredEndpoints graph parser true publications subscriptions c).context = c') := by
  intro writers c'
  have hfirst := consume_ok_iff graph parser c false false publications
  simp only [refreshDiscoveredEndpoints, Bool.not_true, Bool.false_eq_true, if_false]
  constructor
  · intro hconsumed
    rw [if_pos (hfirst.mpr hconsumed)]
    simp only [consume_snd]
    rfl
  · intro hstopped
    rw [if_neg (mt hfirst.mp hstopped)]
    simp only [consume_snd]
    rfl

/-- A call after which the endpoints in the cache are others has changed them. -/
theorem refreshChanges_of_entities_ne {lookups : Bool} {publications subscriptions : Take Handle}
    (h : graph.entities (refreshDiscoveredEndpoints graph parser lookups publications subscriptions
      c).context.graphCache ≠ graph.entities c.graphCache) :
    RefreshChanges graph parser lookups publications subscriptions c := by
  cases lookups with
  | false => exact absurd rfl h
  | true =>
      refine ⟨rfl, ?_⟩
      by_contra hnone
      rw [not_or] at hnone
      obtain ⟨hwriters, hreaders⟩ := hnone
      obtain ⟨hconsumed, hstopped⟩ :=
        refresh_context graph parser c publications subscriptions
      have hfirst := entities_foldl_of_not_changes hwriters
      by_cases hpublications : Consumed parser false publications
      · rw [not_and] at hreaders
        have hsecond := entities_foldl_of_not_changes (hreaders hpublications)
        rw [Context.progress, graphCache_withProgress] at hsecond
        rw [hconsumed hpublications, graphCache_withProgress] at h
        exact h (hsecond.trans hfirst)
      · rw [hstopped hpublications, graphCache_withProgress] at h
        exact h hfirst

/-! ## The signal -/

/-- The graph guard is triggered by a refresh that changes the cache and meets no
error. -/
theorem notified_iff (hgraph : graph.Lawful) (lookups : Bool)
    (publications subscriptions : Take Handle) :
    (refreshDiscoveredEndpoints graph parser lookups publications subscriptions c).notified =
        true ↔
      RefreshChanges graph parser lookups publications subscriptions c ∧
        Consumed parser false publications ∧ Consumed parser true subscriptions := by
  cases lookups with
  | false => simp [refreshDiscoveredEndpoints, RefreshChanges]
  | true =>
      have hfirst :=
        consume_ok_iff graph parser c false false publications
      simp only [refreshDiscoveredEndpoints, Bool.not_true, Bool.false_eq_true, if_false]
      by_cases hpublications : Consumed parser false publications
      · rw [if_pos (hfirst.mpr hpublications), Bool.and_eq_true, decide_eq_true_eq,
          consume_ok_iff]
        simp only [consume_snd, RefreshChanges, hpublications, true_and, Context.applied,
          changed_foldl parser true hgraph, changed_foldl parser false hgraph, Context.progress,
          Bool.false_eq_true, false_or]
        exact and_comm
      · rw [if_neg (mt hfirst.mp hpublications)]
        simp [hfirst, hpublications]

/-- A change of the cache is signalled just if both readers are consumed to their
end, or no sample before an error changes anything. -/
theorem changes_signalled (hgraph : graph.Lawful) (lookups : Bool)
    (publications subscriptions : Take Handle) (c : Context Cache Handle) :
    (RefreshChanges graph parser lookups publications subscriptions c →
      (refreshDiscoveredEndpoints graph parser lookups publications subscriptions c).notified =
        true) ↔
    Consumed parser false publications ∧ Consumed parser true subscriptions ∨
      ¬ RefreshChanges graph parser lookups publications subscriptions c := by
  rw [notified_iff hgraph]
  tauto

/-- A writer is discovered, and nobody is told of it, because the next sample is
malformed. -/
theorem chatter_not_signalled :
    ¬ ∀ (publications subscriptions : Take Bool) (c : Context (Tables Unit String) Bool),
      RefreshChanges Tables.graphCache chatterParser true publications subscriptions c →
      (refreshDiscoveredEndpoints Tables.graphCache chatterParser true publications subscriptions
        c).notified = true := by
  intro h
  have hchanges : RefreshChanges Tables.graphCache chatterParser true
      (chatterTake [0, 1, 0, 0] []) .noData lonelyContext := by
    refine refreshChanges_of_entities_ne fun heq => ?_
    have hmem : remoteGuid true ∈ Tables.graphCache.entities lonelyContext.graphCache false :=
      congrFun heq false ▸ rfl
    cases hmem
  cases h _ _ _ hchanges

/-- Both writers are discovered and signalled. -/
theorem chatter_signalled :
    (RefreshChanges Tables.graphCache chatterParser true
        (chatterTake [0, 1, 0, 0] [0, 1, 0, 0]) .noData lonelyContext →
      (refreshDiscoveredEndpoints Tables.graphCache chatterParser true
        (chatterTake [0, 1, 0, 0] [0, 1, 0, 0]) .noData lonelyContext).notified = true) ↔
    Consumed chatterParser false (chatterTake [0, 1, 0, 0] [0, 1, 0, 0]) ∧
        Consumed chatterParser true (.noData : Take Bool) ∨
      ¬ RefreshChanges Tables.graphCache chatterParser true
        (chatterTake [0, 1, 0, 0] [0, 1, 0, 0]) .noData lonelyContext :=
  changes_signalled Tables.lawful true _ _ lonelyContext

end RmwZzdds.Graph
