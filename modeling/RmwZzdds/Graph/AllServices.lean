import RmwZzdds.Graph.ServiceListing
import RmwZzdds.Library.Transition

/-!
# The listing of all services

`rmw_get_service_names_and_types` takes the names of the nodes from the graph
cache and then asks the cache for the readers and the writers of each.  The cache
is locked for every query by itself.  Between the queries the thread that listens
to the graph adds nodes and removes them.

*Cache.*  The queries are those of rmw_dds_common.  What the listing relies on is
`NodeCache.Lawful`: the names are those of the nodes that are there, a node that
is not there is reported as such, and a node of its name alone is reported with
its endpoints.

*Steps.*  A step of the call is a query of the cache with what follows before the
next.  The state keeps all contents of the cache that the call has met
(`State.during`), which the code does not see.
-/

namespace RmwZzdds.Graph

open Transition

/-! ## The graph cache -/

/-- The queries of the graph cache, at a content of it. -/
structure NodeCache (Cache : Type*) where
  getNodeNames : Cache → Ret × List (Name × Name)
  queries : Cache → NodeQueries

/-- A node with the names of the topics and types of its endpoints. -/
structure CachedNode where
  name : Name
  namespace_ : Name
  readers : List (Name × Name)
  writers : List (Name × Name)
deriving DecidableEq

/-- What the nodes of a cache are told apart by. -/
def CachedNode.key (node : CachedNode) : Name × Name := (node.name, node.namespace_)

/-- The nodes of a key. -/
def nodesOf (nodes : List CachedNode) (key : Name × Name) : List CachedNode :=
  nodes.filter fun node => node.key = key

/-- The cache has these nodes. -/
structure NodeCache.Lawful {Cache : Type*} (g : NodeCache Cache)
    (nodes : Cache → List CachedNode) : Prop where
  names : ∀ cache, g.getNodeNames cache = (.ok, (nodes cache).map CachedNode.key)
  missing : ∀ cache nodeName nodeNamespace, nodesOf (nodes cache) (nodeName, nodeNamespace) = [] →
    ((g.queries cache).getReaderNamesAndTypesByNode nodeName nodeNamespace identityName
      identityName).1 = .nodeNameNonExistent ∧
    ((g.queries cache).getWriterNamesAndTypesByNode nodeName nodeNamespace identityName
      identityName).1 = .nodeNameNonExistent
  found : ∀ cache nodeName nodeNamespace, nodesOf (nodes cache) (nodeName, nodeNamespace) ≠ [] →
    ((g.queries cache).getReaderNamesAndTypesByNode nodeName nodeNamespace identityName
      identityName).1 = .ok ∧
    ((g.queries cache).getWriterNamesAndTypesByNode nodeName nodeNamespace identityName
      identityName).1 = .ok
  alone : ∀ cache node, nodesOf (nodes cache) node.key = [node] →
    (g.queries cache).Reports node.name node.namespace_ { endpoint | endpoint ∈ node.readers }
      { endpoint | endpoint ∈ node.writers }

/-! ## The call -/

/-- The loop of `rmw_get_service_names_and_types` over the services of a node. -/
def addServices (services : NamesAndTypes) (nodeServices : RmwNamesAndTypes) : NamesAndTypes :=
  nodeServices.foldl (fun services (name, types) =>
    types.foldl (fun services type => services.insert name type) services) services

/-- Where the call is. -/
inductive Stage where
  /-- The arguments are checked and the discovered endpoints are refreshed. -/
  | entered
  /-- The names of the nodes that are still to be listed. -/
  | listing (services : NamesAndTypes) (rest : List (Name × Name))
  /-- The cache has been asked for the readers of a node. -/
  | asked (services : NamesAndTypes) (nodeName nodeNamespace : Name)
      (rest : List (Name × Name)) (readers : RmwNamesAndTypes)
  | returned (ret : Ret) (output : RmwNamesAndTypes)

section

variable {Cache : Type*} (g : NodeCache Cache)

/-- A query of the cache, and what `rmw_get_service_names_and_types` does before the
next. -/
def advance (cache : Cache) (allocates : Bool) : Stage → Stage
  | .entered =>
      let (result, names) := g.getNodeNames cache
      if result ≠ .ok then .returned result []
      else .listing Multimap.empty names
  | .listing services [] =>
      let (result, output) := fillNamesAndTypes services allocates
      .returned result output
  | .listing services ((nodeName, nodeNamespace) :: rest) =>
      let (result, readers) := (g.queries cache).getReaderNamesAndTypesByNode nodeName
        nodeNamespace identityName identityName
      if result ≠ .ok then .returned result []
      else .asked services nodeName nodeNamespace rest readers
  | .asked services nodeName nodeNamespace rest readers =>
      -- `get_service_names_and_types_from_cache`, with the readers of before
      let (result, nodeServices) := getServiceNamesAndTypesFromCache
        { g.queries cache with
          getReaderNamesAndTypesByNode := fun _ _ _ _ => (.ok, readers) }
        allocates nodeName nodeNamespace false
      if result ≠ .ok then .returned result []
      else .listing (addServices services nodeServices) rest
  | .returned ret output => .returned ret output

/-- The node that the next query is about. -/
def Stage.queried : Stage → Option (Name × Name)
  | .listing _ (key :: _) => some key
  | .asked _ nodeName nodeNamespace _ _ => some (nodeName, nodeNamespace)
  | .entered | .listing _ [] | .returned _ _ => none

end

/-! ## Runs -/

/-- The call, the cache beside it, and the contents of the cache since the call was
entered. -/
structure ListingState (Cache : Type*) where
  cache : Cache
  stage : Stage
  during : List Cache

inductive ListingAction (Cache : Type*) where
  /-- The graph listener changes the cache. -/
  | update (cache : Cache)
  | advance (allocates : Bool)

def Stage.isReturned : Stage → Bool
  | .returned _ _ => true
  | .entered | .listing _ _ | .asked _ _ _ _ _ => false

section

variable {Cache : Type*} (g : NodeCache Cache)

def ListingState.next (s : ListingState Cache) : ListingAction Cache → ListingState Cache
  | .update cache =>
      { s with
        cache := cache
        during := if s.stage.isReturned then s.during else cache :: s.during }
  | .advance allocates => { s with stage := advance g s.cache allocates s.stage }

/-- The steps of the call and the updates of the cache, in any order. -/
def listingSystem : System (ListingState Cache) (ListingAction Cache) where
  init s := s.stage = .entered ∧ s.during = [s.cache]
  step s a s' := s' = s.next g a

/-- No allocation fails. -/
def Allocates (_ : ListingState Cache) (a : ListingAction Cache) : Prop :=
  ∀ allocates, a = .advance allocates → allocates = true

/-- No allocation fails, and a query finds its node in the cache. -/
def Finds (nodes : Cache → List CachedNode) (s : ListingState Cache)
    (a : ListingAction Cache) : Prop :=
  ∀ allocates, a = .advance allocates → allocates = true ∧
    ∀ key, s.stage.queried = some key → nodesOf (nodes s.cache) key ≠ []

end

/-! ## The call returns -/

/-- The queries that are left, which are not known before the snapshot. -/
def Stage.rank : Stage → WithTop ℕ
  | .entered => ⊤
  | .listing _ rest => WithTop.some (2 * rest.length + 1)
  | .asked _ _ _ rest _ => WithTop.some (2 * rest.length + 2)
  | .returned _ _ => WithTop.some 0

section

variable {Cache : Type*} (g : NodeCache Cache)

theorem rank_advance_lt (cache : Cache) (allocates : Bool) {stage : Stage}
    (h : stage.isReturned = false) : (advance g cache allocates stage).rank < stage.rank := by
  cases stage with
  | entered =>
      unfold advance
      dsimp only
      split
      · exact WithTop.coe_lt_top 0
      · exact WithTop.coe_lt_top _
  | listing services rest =>
      cases rest with
      | nil => exact WithTop.coe_lt_coe.mpr (by omega)
      | cons key rest =>
          unfold advance
          dsimp only
          split
          · exact WithTop.coe_lt_coe.mpr (by omega)
          · refine WithTop.coe_lt_coe.mpr ?_
            rw [List.length_cons]
            omega
  | asked services nodeName nodeNamespace rest readers =>
      unfold advance
      dsimp only
      split
      · exact WithTop.coe_lt_coe.mpr (by omega)
      · exact WithTop.coe_lt_coe.mpr (by omega)
  | returned ret output => cases h

theorem advance_of_isReturned (cache : Cache) (allocates : Bool) {stage : Stage}
    (h : stage.isReturned = true) : advance g cache allocates stage = stage := by
  cases stage with
  | returned ret output => rfl
  | entered => cases h
  | listing services rest => cases h
  | asked services nodeName nodeNamespace rest readers => cases h

theorem rank_next_le (s : ListingState Cache) (a : ListingAction Cache) :
    (s.next g a).stage.rank ≤ s.stage.rank := by
  cases a with
  | update cache => exact le_rfl
  | advance allocates =>
      cases hreturned : s.stage.isReturned with
      | false => exact (rank_advance_lt g s.cache allocates hreturned).le
      | true => exact (congrArg Stage.rank (advance_of_isReturned g _ _ hreturned)).le

/-- In a run that does not stop the call, it returns. -/
theorem returns_of_fair {run : ℕ → ListingState Cache} {actions : ℕ → ListingAction Cache}
    (hrun : ∀ n, (listingSystem g).step (run n) (actions n) (run (n + 1)))
    (hfair : ∀ n, ∃ m, n ≤ m ∧ ∃ allocates, actions m = .advance allocates) :
    ∃ n, (run n).stage.isReturned = true := by
  have hanti : Antitone fun n => (run n).stage.rank := by
    refine antitone_nat_of_succ_le fun n => ?_
    rw [hrun n]
    exact rank_next_le g (run n) (actions n)
  have hreturns : ∀ (rank : WithTop ℕ) (n : ℕ), (run n).stage.rank = rank →
      ∃ n, (run n).stage.isReturned = true := by
    intro rank
    induction rank using WellFoundedLT.induction with
    | ind rank ih =>
        rintro n rfl
        obtain ⟨m, hm, allocates, haction⟩ := hfair n
        cases hreturned : (run m).stage.isReturned with
        | true => exact ⟨m, hreturned⟩
        | false =>
            refine ih _ (lt_of_lt_of_le ?_ (hanti hm)) (m + 1) rfl
            show (run (m + 1)).stage.rank < (run m).stage.rank
            rw [hrun m, haction]
            exact rank_advance_lt g (run m).cache allocates hreturned
  exact hreturns _ 0 rfl

end

/-! ## What is collected -/

theorem holds_addServices {services : NamesAndTypes} {nodeServices : RmwNamesAndTypes}
    {name type : Name} : (addServices services nodeServices).Holds name type ↔
      services.Holds name type ∨ nodeServices.Lists name type := by
  have hstep : ∀ (services : NamesAndTypes) (entry : Name × List Name) (name type : Name),
      Multimap.Holds (entry.2.foldl (fun services type => services.insert entry.1 type) services)
        name type ↔ services.Holds name type ∨ entry.1 = name ∧ type ∈ entry.2 := by
    intro services entry name type
    rw [Multimap.holds_foldl (fun t name type => entry.1 = name ∧ t = type)
      (fun _ _ _ _ => Multimap.holds_insert)]
    refine or_congr_right ⟨?_, ?_⟩
    · rintro ⟨t, ht, hname, rfl⟩
      exact ⟨hname, ht⟩
    · rintro ⟨hname, htype⟩
      exact ⟨type, htype, hname, rfl⟩
  rw [addServices, Multimap.holds_foldl _ hstep]
  refine or_congr_right ⟨?_, ?_⟩
  · rintro ⟨⟨name, types⟩, hentry, rfl, htype⟩
    exact ⟨types, hentry, htype⟩
  · rintro ⟨types, hentry, htype⟩
    exact ⟨(name, types), hentry, rfl, htype⟩

/-- A service of a node that has its key for itself, with both endpoints in the cache. -/
def Serves (nodes : List CachedNode) (key : Name × Name) (name type : Name) : Prop :=
  name ≠ [] ∧ ∃ node, nodesOf nodes key = [node] ∧
    (∃ endpoint ∈ node.readers, ServesRequests name type endpoint) ∧
    ∃ endpoint ∈ node.writers, ServesReplies name type endpoint

theorem key_of_mem_nodesOf {nodes : List CachedNode} {key : Name × Name} {node : CachedNode}
    (h : node ∈ nodesOf nodes key) : node ∈ nodes ∧ node.key = key := by
  rw [nodesOf, List.mem_filter, decide_eq_true_eq] at h
  exact h

/-- The names of the cache have those of a node that serves. -/
theorem Serves.mem_names {nodes : List CachedNode} {key : Name × Name} {name type : Name}
    (h : Serves nodes key name type) : key ∈ nodes.map CachedNode.key := by
  obtain ⟨-, node, hnode, -⟩ := h
  obtain ⟨hmem, hkey⟩ := key_of_mem_nodesOf (hnode ▸ List.mem_singleton_self node)
  exact List.mem_map.mpr ⟨node, hmem, hkey⟩

section

variable {Cache : Type*} {g : NodeCache Cache} {nodes : Cache → List CachedNode}

/-- The queries about a node that serves show both endpoints. -/
theorem NodeCache.Lawful.endpoints (hg : g.Lawful nodes) {cache : Cache}
    {nodeName nodeNamespace name type : Name}
    (h : Serves (nodes cache) (nodeName, nodeNamespace) name type) :
    (∃ topic t, ((g.queries cache).getReaderNamesAndTypesByNode nodeName nodeNamespace
        identityName identityName).2.Lists topic t ∧ ServesRequests name type (topic, t)) ∧
      ∃ topic t, ((g.queries cache).getWriterNamesAndTypesByNode nodeName nodeNamespace
        identityName identityName).2.Lists topic t ∧ ServesReplies name type (topic, t) := by
  obtain ⟨-, node, hnode, ⟨request, hrequest, hrequests⟩, reply, hreply, hreplies⟩ := h
  have hkey := (key_of_mem_nodesOf (hnode ▸ List.mem_singleton_self node)).2
  obtain ⟨hname, hnamespace⟩ := Prod.mk.inj hkey
  have hreports := hg.alone cache node (hkey ▸ hnode)
  rw [hname, hnamespace] at hreports
  obtain ⟨readers, hreaders, hlistsReaders⟩ := hreports.readers
  obtain ⟨writers, hwriters, hlistsWriters⟩ := hreports.writers
  rw [hreaders, hwriters]
  exact ⟨⟨_, _, (hlistsReaders _ _).mpr hrequest, hrequests⟩,
    _, _, (hlistsWriters _ _).mpr hreply, hreplies⟩

/-- What follows the query for the readers of a node. -/
theorem advance_listing {cache : Cache} {allocates : Bool} {services : NamesAndTypes}
    {nodeName nodeNamespace : Name} {rest : List (Name × Name)} {ret : Ret}
    {readers : RmwNamesAndTypes}
    (h : (g.queries cache).getReaderNamesAndTypesByNode nodeName nodeNamespace identityName
      identityName = (ret, readers)) :
    advance g cache allocates (.listing services ((nodeName, nodeNamespace) :: rest)) =
      if ret ≠ .ok then .returned ret []
      else .asked services nodeName nodeNamespace rest readers := by
  rw [advance, h]

/-- What follows the query for its writers, if allocations succeed. -/
theorem advance_asked {cache : Cache} {services : NamesAndTypes} {nodeName nodeNamespace : Name}
    {rest : List (Name × Name)} {ret : Ret} {readers writers : RmwNamesAndTypes}
    (h : (g.queries cache).getWriterNamesAndTypesByNode nodeName nodeNamespace identityName
      identityName = (ret, writers)) :
    advance g cache true (.asked services nodeName nodeNamespace rest readers) =
      if ret ≠ .ok then .returned ret []
      else .listing (addServices services (pairedServices readers writers).toList) rest := by
  by_cases hok : ret = .ok
  · subst hok
    simp [advance, getServiceNamesAndTypesFromCache, fillNamesAndTypes, pairedServices, h]
  · simp [advance, getServiceNamesAndTypesFromCache, h, hok]

/-- What the call has of the services that are there throughout. -/
def Collects (throughout : Name × Name → Name → Name → Prop) : Stage → Prop
  | .entered => True
  | .listing services rest => ∀ key name type, throughout key name type →
      key ∈ rest ∨ services.Holds name type
  | .asked services nodeName nodeNamespace rest readers => ∀ key name type,
      throughout key name type → (key ∈ rest ∨ services.Holds name type) ∨
        key = (nodeName, nodeNamespace) ∧
          ∃ topic t, readers.Lists topic t ∧ ServesRequests name type (topic, t)
  | .returned ret output => ret = .ok ∧
      ∀ key name type, throughout key name type → output.Lists name type

/-- Of fewer services it has as much. -/
theorem Collects.mono {throughout throughout' : Name × Name → Name → Name → Prop}
    (hfewer : ∀ key name type, throughout' key name type → throughout key name type)
    {stage : Stage} (h : Collects throughout stage) : Collects throughout' stage := by
  cases stage with
  | entered => trivial
  | listing services rest => exact fun key name type hkey => h key name type (hfewer _ _ _ hkey)
  | asked services nodeName nodeNamespace rest readers =>
      exact fun key name type hkey => h key name type (hfewer _ _ _ hkey)
  | returned ret output =>
      exact ⟨h.1, fun key name type hkey => h.2 key name type (hfewer _ _ _ hkey)⟩

/-- A query that finds its node keeps what is there. -/
theorem Collects.advance (hg : g.Lawful nodes) {cache : Cache}
    {throughout : Name × Name → Name → Name → Prop}
    (hnow : ∀ key name type, throughout key name type → Serves (nodes cache) key name type)
    {stage : Stage} (hfinds : ∀ key, stage.queried = some key → nodesOf (nodes cache) key ≠ [])
    (h : Collects throughout stage) : Collects throughout (Graph.advance g cache true stage) := by
  cases stage with
  | entered =>
      rw [Graph.advance, hg.names]
      intro key name type hkey
      exact .inl (hnow key name type hkey).mem_names
  | listing services rest =>
      cases rest with
      | nil =>
          refine ⟨rfl, fun key name type hkey => ?_⟩
          have hholds := (h key name type hkey).resolve_left List.not_mem_nil
          exact Multimap.mem_toList.mpr hholds
      | cons head rest =>
          obtain ⟨nodeName, nodeNamespace⟩ := head
          obtain ⟨hok, -⟩ := hg.found cache nodeName nodeNamespace (hfinds _ rfl)
          rw [advance_listing rfl, if_neg (not_not.mpr hok)]
          intro key name type hkey
          rcases h key name type hkey with hmem | hholds
          · rcases List.mem_cons.mp hmem with rfl | hrest
            · exact .inr ⟨rfl, (hg.endpoints (hnow _ name type hkey)).1⟩
            · exact .inl (.inl hrest)
          · exact .inl (.inr hholds)
  | asked services nodeName nodeNamespace rest readers =>
      obtain ⟨-, hok⟩ := hg.found cache nodeName nodeNamespace (hfinds _ rfl)
      rw [advance_asked rfl, if_neg (not_not.mpr hok)]
      intro key name type hkey
      rcases h key name type hkey with (hrest | hholds) | ⟨rfl, hrequests⟩
      · exact .inl hrest
      · exact .inr (holds_addServices.mpr (.inl hholds))
      · have hserves := hnow _ name type hkey
        obtain ⟨topic, t, hlists, hreplies⟩ := (hg.endpoints hserves).2
        obtain ⟨topic', t', hlists', hrequests⟩ := hrequests
        have hlisted : ∀ (listing : RmwNamesAndTypes) (topic type : Name),
            listing.Lists topic type ↔
              (topic, type) ∈ { endpoint : Name × Name | listing.Lists endpoint.1 endpoint.2 } :=
          fun _ _ _ => Iff.rfl
        refine .inr (holds_addServices.mpr (.inr (Multimap.mem_toList.mpr ?_)))
        refine (holds_pairedServices (hlisted readers) (hlisted _) name type).mpr ?_
        exact ⟨hserves.1, ⟨(topic', t'), hlists', hrequests⟩, (topic, t), hlists, hreplies⟩
  | returned ret output => exact h

/-- What has been in the cache since the call was entered. -/
def ListingState.throughout (nodes : Cache → List CachedNode) (s : ListingState Cache)
    (key : Name × Name) (name type : Name) : Prop :=
  ∀ cache ∈ s.during, Serves (nodes cache) key name type

theorem mem_during_next {s : ListingState Cache} (a : ListingAction Cache) {cache : Cache}
    (h : cache ∈ s.during) : cache ∈ (s.next g a).during := by
  cases a with
  | advance allocates => exact h
  | update cache' =>
      show cache ∈ if s.stage.isReturned then s.during else cache' :: s.during
      split
      · exact h
      · exact List.mem_cons_of_mem _ h

/-- The cache of a call that has not returned is one of those it has met. -/
theorem cache_mem_during {s : ListingState Cache} (h : (listingSystem g).Reachable s) :
    s.stage.isReturned = false → s.cache ∈ s.during := by
  induction h with
  | init h0 =>
      intro _
      rw [h0.2]
      exact List.mem_singleton_self _
  | @step s s' a _ hs ih =>
      obtain rfl : s' = s.next g a := hs
      cases a with
      | update cache =>
          intro (hreturned : s.stage.isReturned = false)
          show cache ∈ if s.stage.isReturned then s.during else cache :: s.during
          rw [hreturned]
          exact List.mem_cons_self ..
      | advance allocates =>
          intro hnext
          refine ih (Bool.eq_false_iff.mpr fun hreturned => ?_)
          have hstage := advance_of_isReturned g s.cache allocates hreturned
          have hnow : (advance g s.cache allocates s.stage).isReturned = false := hnext
          rw [hstage, hreturned] at hnow
          cases hnow

/-- The invariant of the runs in which every query finds its node. -/
theorem collects_of_finds (hg : g.Lawful nodes) {s : ListingState Cache}
    (h : ((listingSystem g).restrict (Finds nodes)).Reachable s) :
    Collects (s.throughout nodes) s.stage := by
  refine System.Reachable.invariant_of (I := fun s => Collects (s.throughout nodes) s.stage)
    (fun s hs => cache_mem_during hs.of_restrict) ?_ ?_ h
  · intro s h0
    rw [h0.1]
    trivial
  · rintro s a s' hmet hcollects ⟨hfinds, hs⟩
    obtain rfl : s' = s.next g a := hs
    cases a with
    | update cache =>
        exact hcollects.mono fun key name type hkey met hmem =>
          hkey met (mem_during_next (g := g) (.update cache) hmem)
    | advance allocates =>
        obtain ⟨rfl, hfound⟩ := hfinds allocates rfl
        cases hreturned : s.stage.isReturned with
        | false =>
            refine hcollects.advance hg (fun key name type hkey => ?_) hfound
            exact hkey s.cache (hmet hreturned)
        | true =>
            show Collects (s.throughout nodes) (Graph.advance g s.cache true s.stage)
            rw [advance_of_isReturned g s.cache true hreturned]
            exact hcollects

/-- A query that misses its node ends the call. -/
theorem advance_of_missing (hg : g.Lawful nodes) {cache : Cache} {stage : Stage}
    {key : Name × Name} (hqueried : stage.queried = some key)
    (hmissing : nodesOf (nodes cache) key = []) :
    advance g cache true stage = .returned .nodeNameNonExistent [] := by
  obtain ⟨nodeName, nodeNamespace⟩ := key
  obtain ⟨hreaders, hwriters⟩ := hg.missing cache nodeName nodeNamespace hmissing
  cases stage with
  | entered => cases hqueried
  | listing services rest =>
      cases rest with
      | nil => cases hqueried
      | cons head rest =>
          cases hqueried
          rw [advance_listing rfl, hreaders, if_pos (by decide)]
  | asked services nodeName' nodeNamespace' rest readers =>
      cases hqueried
      rw [advance_asked rfl, hwriters, if_pos (by decide)]
  | returned ret output => cases hqueried

end

/-! ## The listing of all services -/

section

variable {Cache : Type*} {g : NodeCache Cache} {nodes : Cache → List CachedNode}

/-- The call returns however the cache changes.  If every query finds its node, it
lists the services that are there throughout, and otherwise it fails. -/
theorem all_services_listed (hg : g.Lawful nodes) :
    (∀ (run : ℕ → ListingState Cache) (actions : ℕ → ListingAction Cache),
      (∀ n, (listingSystem g).step (run n) (actions n) (run (n + 1))) →
      (∀ n, ∃ m, n ≤ m ∧ ∃ allocates, actions m = .advance allocates) →
      ∃ n, (run n).stage.isReturned = true) ∧
    (∀ s : ListingState Cache, ((listingSystem g).restrict (Finds nodes)).Reachable s →
      ∀ ret output, s.stage = .returned ret output → ret = .ok ∧
        ∀ key name type, (∀ cache ∈ s.during, Serves (nodes cache) key name type) →
          output.Lists name type) ∧
    ∀ (s : ListingState Cache) (key : Name × Name), s.stage.queried = some key →
      nodesOf (nodes s.cache) key = [] →
      (s.next g (.advance true)).stage = .returned .nodeNameNonExistent [] := by
  refine ⟨fun run actions => returns_of_fair g, fun s h ret output hreturned => ?_,
    fun s key => advance_of_missing hg⟩
  have hcollects := collects_of_finds hg h
  rw [hreturned] at hcollects
  exact hcollects

end

/-! ## A node that leaves -/

/-- A graph cache that is the list of its nodes. -/
def nodeList : NodeCache (List CachedNode) where
  getNodeNames nodes := (.ok, nodes.map CachedNode.key)
  queries nodes :=
    { getReaderNamesAndTypesByNode := fun nodeName nodeNamespace demangleTopic demangleType =>
        match nodesOf nodes (nodeName, nodeNamespace) with
        | [] => (.nodeNameNonExistent, [])
        | node :: _ => (.ok, answer node.readers demangleTopic demangleType)
      getWriterNamesAndTypesByNode := fun nodeName nodeNamespace demangleTopic demangleType =>
        match nodesOf nodes (nodeName, nodeNamespace) with
        | [] => (.nodeNameNonExistent, [])
        | node :: _ => (.ok, answer node.writers demangleTopic demangleType) }

theorem nodeList_lawful : nodeList.Lawful id where
  names _ := rfl
  missing nodes nodeName nodeNamespace h := by
    have hnone : nodesOf nodes (nodeName, nodeNamespace) = [] := h
    simp [nodeList, hnone]
  found nodes nodeName nodeNamespace h := by
    obtain ⟨node, rest, hsome⟩ := List.exists_cons_of_ne_nil h
    have hnodes : nodesOf nodes (nodeName, nodeNamespace) = node :: rest := hsome
    simp [nodeList, hnodes]
  alone nodes node h := by
    have hnode : nodesOf nodes (node.name, node.namespace_) = [node] := h
    exact ⟨⟨_, by simp [nodeList, hnode], lists_answer node.readers⟩,
      _, by simp [nodeList, hnode], lists_answer node.writers⟩

/-- A node with a service. -/
def addServer : CachedNode where
  name := "adder".toList
  namespace_ := "/".toList
  readers := [(rosAdd.request, ddsTypeName aSendGoal.request)]
  writers := [(rosAdd.reply, ddsTypeName aSendGoal.response)]

theorem addServer_serves : Serves [addServer] addServer.key rosAdd.name aSendGoal.listedName := by
  refine ⟨rosAdd.name_ne_nil, addServer, by decide, ?_, ?_⟩
  · exact ⟨_, List.mem_singleton_self _, (rosAdd.servesRequests_request ..).mpr ⟨⟨rfl, rfl⟩, rfl⟩⟩
  · exact ⟨_, List.mem_singleton_self _,
      (rosAdd.servesReplies_reply ..).mpr ⟨⟨rfl, rfl⟩, listedName_response aSendGoal⟩⟩

/-- The call is entered while a node is there. -/
def addEntered : ListingState (List CachedNode) := ⟨[addServer], .entered, [[addServer]]⟩

/-- The service of a node that stays is listed. -/
theorem add_server_listed : ∃ s output,
    ((listingSystem nodeList).restrict (Finds id)).Reachable s ∧
      s.stage = .returned .ok output ∧ output.Lists rosAdd.name aSendGoal.listedName := by
  have hnodes : ∀ key, some addServer.key = some key → nodesOf [addServer] key ≠ [] := by
    rintro key ⟨⟩
    decide
  have h0 : ((listingSystem nodeList).restrict (Finds id)).Reachable addEntered :=
    .init ⟨rfl, rfl⟩
  have h1 := System.Reachable.step h0 (a := .advance true)
    ⟨fun _ ha => by cases ha; exact ⟨rfl, fun key hkey => nomatch hkey⟩, rfl⟩
  have h2 := System.Reachable.step h1 (a := .advance true)
    ⟨fun _ ha => by cases ha; exact ⟨rfl, hnodes⟩, rfl⟩
  have h3 := System.Reachable.step h2 (a := .advance true)
    ⟨fun _ ha => by cases ha; exact ⟨rfl, hnodes⟩, rfl⟩
  have h4 := System.Reachable.step h3 (a := .advance true)
    ⟨fun _ ha => by cases ha; exact ⟨rfl, fun key hkey => nomatch hkey⟩, rfl⟩
  obtain ⟨-, hlisted, -⟩ := all_services_listed nodeList_lawful
  refine ⟨_, _, h4, rfl, (hlisted _ h4 _ _ rfl).2 addServer.key _ _ fun cache hmem => ?_⟩
  obtain rfl : cache = [addServer] := List.mem_singleton.mp hmem
  exact addServer_serves

/-- A node that leaves after the snapshot makes the listing fail. -/
theorem leaving_node_fails_listing :
    ¬ ∀ s : ListingState (List CachedNode),
      ((listingSystem nodeList).restrict Allocates).Reachable s →
      ∀ ret output, s.stage = .returned ret output → ret = .ok := by
  intro h
  have hallocates : ∀ s, Allocates s (.advance true : ListingAction (List CachedNode)) := by
    rintro s allocates ⟨⟩
    rfl
  have h0 : ((listingSystem nodeList).restrict Allocates).Reachable addEntered :=
    .init ⟨rfl, rfl⟩
  have h1 := System.Reachable.step h0 (a := .advance true) ⟨hallocates _, rfl⟩
  have h2 := System.Reachable.step h1 (a := .update []) ⟨(fun _ ha => nomatch ha), rfl⟩
  have h3 := System.Reachable.step h2 (a := .advance true) ⟨hallocates _, rfl⟩
  cases h _ h3 _ _ rfl

end RmwZzdds.Graph
