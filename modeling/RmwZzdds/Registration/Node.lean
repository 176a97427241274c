import RmwZzdds.Registration.Books

/-!
# Nodes and the local graph

`rmw_create_node` over the larger state.  `rmw_dds_common` records a node in the
graph before it publishes it, so an update can fail after it has recorded the
node.  The error path takes the node out of the set of nodes again, but not out
of the graph, and the handler of exceptions takes it out of neither.
-/

namespace RmwZzdds.Registration

open Lifecycle Following Ownership Std.Do

set_option mvcgen.warning false

variable {G : Type} (g : LocalGraph G) (o : Outcomes)

/-! ## The program -/

def allocateNode (name namespace_ : String) : BookM G NodeParts := do
  let impl ← create o .nodeImpl
  let node ← create o .rmwNode
  let nameCopy ← duplicateString o .nodeName name
  let namespaceCopy ← duplicateString o .nodeNamespace namespace_
  return ⟨impl, node, nameCopy, namespaceCopy⟩

def deallocateNode (p : NodeParts) : BookM G Unit := do
  deallocate (p.namespace_.map (·.object))
  deallocate (p.name.map (·.object))
  deallocate p.node
  deallocate p.impl

/-- Whether `add_node_graph` records the node.  It does if it succeeds. -/
def recordsNode (recorded : Bool) : Bool :=
  recorded || o .addNodeGraphReturns && o .addNodeGraph

def recordNode (recorded : Bool) (key : NodeKey) : BookM G Unit := do
  if recordsNode o recorded then
    modifyGraph (g.addNode key)

/-- The registration of `rmw_create_node`. -/
def registerNode (recorded : Bool) (key : NodeKey) (node : Node) : BookM G Bool := do
  if !o .insertNode then
    return false
  modifyEntities (·.addNode node)
  if !(← get).state.impl.suppressGraphUpdates then
    recordNode g o recorded key
    if !o .addNodeGraphReturns then
      return false
    if !o .addNodeGraph then
      modifyEntities (·.removeNode node)
      return false
  return true

/-- `rmw_create_node`. -/
def rmwCreateNode (recorded : Bool) (name namespace_ : Option String) :
    BookM G (Option Node) := do
  let (some name, some namespace_) := (name, namespace_)
    | return none
  let w ← get
  if !w.state.validContext then
    return none
  if !o .validNodeName || !o .validNamespace then
    return none
  if w.state.impl.shutdown then
    return none
  let parts ← allocateNode o name namespace_
  let (true, some object) := (parts.complete, parts.node)
    | deallocateNode parts
      return none
  let node : Node := .ofParts parts object
  if !(← registerNode g o recorded (some name, some namespace_) node) then
    deallocateNode parts
    return none
  modifyEntities (·.enter 1)
  return some node

/-! ## The smaller program -/

theorem extends_allocateNode (name namespace_ : String) :
    Extends (allocateNode o name namespace_ : BookM G _) (Lifecycle.allocateNode o name namespace_) :=
  .bind (extends_create o _) fun _ =>
    .bind (extends_create o _) fun _ =>
      .bind (extends_duplicateString o _ _) fun _ =>
        .bind (extends_duplicateString o _ _) fun _ => .pure _

theorem extends_deallocateNode (p : NodeParts) :
    Extends (deallocateNode p : BookM G _) (Lifecycle.deallocateNode p) :=
  .bind (extends_deallocate _) fun _ =>
    .bind (extends_deallocate _) fun _ =>
      .bind (extends_deallocate _) fun _ => extends_deallocate _

theorem run_recordNode (recorded : Bool) (key : NodeKey) (w : World G) :
    (recordNode g o recorded key).run w = ((), if recordsNode o recorded then
      w.withGraph (g.addNode key w.books.graph) else w) := by
  rw [recordNode]
  split
  · rfl
  · rfl

theorem extends_registerNode (recorded : Bool) (key : NodeKey) (node : Node) :
    Extends (registerNode g o recorded key node) (Lifecycle.registerNode o node) := by
  refine .ite (.pure _) ?_
  refine .bind (extends_modifyEntities _) fun _ => .bind_gets fun w => ?_
  refine .ite ?_ (.pure _)
  refine .silent (fun w => ?_) fun _ => ?_
  · rw [run_recordNode]
    split
    · rfl
    · rfl
  refine .ite (.pure _) (.ite ?_ (.pure _))
  exact .bind (extends_modifyEntities _) fun _ => .pure _

theorem extends_rmwCreateNode (recorded : Bool) (name namespace_ : Option String) :
    Extends (rmwCreateNode g o recorded name namespace_)
      (Lifecycle.rmwCreateNode o name namespace_) := by
  have hundo (p : NodeParts) : Extends (do deallocateNode p; pure none : BookM G (Option Node))
      (do Lifecycle.deallocateNode p; pure none) :=
    .bind (extends_deallocateNode p) fun _ => .pure _
  cases name with
  | none => exact .pure _
  | some name =>
      cases namespace_ with
      | none => exact .pure _
      | some namespace_ =>
          refine .bind_gets fun w => ?_
          refine .ite (.pure _) (.ite (.pure _) (.ite (.pure _) ?_))
          refine .bind (extends_allocateNode o _ _) fun parts => ?_
          have hregister (object : Obj) :=
            extends_registerNode g o recorded (some name, some namespace_) (.ofParts parts object)
          generalize parts.complete = complete
          generalize parts.node = node
          match complete, node with
          | true, some object =>
              refine .bind (hregister object) fun ok => ?_
              exact .ite (hundo parts) (.bind (extends_modifyEntities _) fun _ => .pure _)
          | true, none => exact hundo parts
          | false, _ => exact hundo parts

/-! ## Specifications -/

/-- The allocations of a node as they are entered. -/
def made (p : NodeParts) : Multiset Obj :=
  p.impl.toFinset.val + p.node.toFinset.val + (p.name.map (·.object)).toFinset.val +
    (p.namespace_.map (·.object)).toFinset.val

@[spec] theorem allocateNode_spec (name namespace_ : String) (w : World G) :
    ⦃fun w' => ⌜w' = w⌝⦄ allocateNode o name namespace_
    ⦃⇓ p w' => ⌜Silent w (made p) 0 w' ∧ p.complete = (o (.create .nodeImpl) &&
      o (.create .rmwNode) && o (.create .nodeName) && o (.create .nodeNamespace))⌝⦄ := by
  mvcgen [allocateNode]
  next w1 hw impl w2 himpl node w3 hnode name' w4 hname namespace' w5 hnamespace =>
    subst hw
    refine ⟨((himpl.1.trans hnode.1).trans hname.1).trans hnamespace.1, ?_⟩
    simp only [NodeParts.complete, himpl.2, hnode.2, hname.2, hnamespace.2]

@[spec] theorem deallocateNode_spec (p : NodeParts) (w : World G) :
    ⦃fun w' => ⌜w' = w⌝⦄ deallocateNode p ⦃⇓ _ w' => ⌜Silent w 0 (made p) w'⌝⦄ := by
  mvcgen [deallocateNode]
  next w1 hw _ w2 h2 _ w3 h3 _ w4 h4 _ w5 =>
    intro h5
    subst hw
    refine (((h2.trans h3).trans h4).trans h5).congr rfl ?_
    rw [made]
    abel

/-- `add_node_graph` is called. -/
def nodeAnnounced (s : State) : Bool := o .insertNode && !s.impl.suppressGraphUpdates

/-- What `add_node_graph` leaves in the graph. -/
def announcedNode (recorded : Bool) (key : NodeKey) (graph : G) : G :=
  if recordsNode o recorded then g.addNode key graph else graph

@[spec] theorem recordNode_spec (recorded : Bool) (key : NodeKey) (w : World G) :
    ⦃fun w' => ⌜w' = w⌝⦄ recordNode g o recorded key
    ⦃⇓ _ w' => ⌜w' = w.withGraph (announcedNode g o recorded key w.books.graph)⌝⦄ := by
  mvcgen [recordNode]
  next hrecords w1 hw _ w2 =>
    intro h2
    subst hw h2
    rw [announcedNode, if_pos hrecords]
  next hrecords w1 hw =>
    subst hw
    rw [announcedNode, if_neg hrecords]
    rfl

theorem nodeAnnounced_congr {s s' : State} (h : s'.impl = s.impl) :
    nodeAnnounced o s' = nodeAnnounced o s := by
  rw [nodeAnnounced, nodeAnnounced, h]

/-- What the registration of a node does. -/
structure RegistersNode (recorded : Bool) (key : NodeKey) (node : Node) (w : World G) (ok : Bool)
    (w' : World G) : Prop where
  ok_eq : ok = nodeRegistered o w.state
  entry : Entry w 0 0 w'
  graph : w'.books.graph = if nodeAnnounced o w.state then
    announcedNode g o recorded key w.books.graph else w.books.graph
  stays : nodeAnnounced o w.state = true → o .addNodeGraphReturns = false →
    w'.state.entities = w.state.entities.addNode node
  undone : node ∉ w.state.entities.nodes → ok = false →
    ¬ (nodeAnnounced o w.state = true ∧ o .addNodeGraphReturns = false) →
    w'.state.entities = w.state.entities

@[spec] theorem registerNode_spec (recorded : Bool) (key : NodeKey) (node : Node) (w : World G) :
    ⦃fun w' => ⌜w' = w⌝⦄ registerNode g o recorded key node
    ⦃⇓ ok w' => ⌜RegistersNode g o recorded key node w ok w'⌝⦄ := by
  mvcgen [registerNode]
  next hinsert w1 hw =>
    subst hw
    exact ⟨by simp_all [nodeRegistered], (Silent.refl _).toEntry, by simp_all [nodeAnnounced],
      by simp_all [nodeAnnounced], fun _ _ _ => rfl⟩
  next hinsert w1 hw _ w2 h2 _ hsuppress _ hreturns w3 h3 =>
    subst hw h2 h3
    refine ⟨by simp_all [nodeRegistered], (Entry.withEntities ..).trans (.withGraph ..), ?_, ?_, ?_⟩
    · simp_all [nodeAnnounced]
    · exact fun _ _ => rfl
    · simp_all [nodeAnnounced]
  next hinsert w1 hw _ w2 h2 _ hsuppress _ hreturns hadd w3 h3 _ w4 h4 =>
    subst hw h2 h3 h4
    refine ⟨by simp_all [nodeRegistered],
      ((Entry.withEntities ..).trans (.withGraph ..)).trans (.withEntities ..), ?_, ?_, ?_⟩
    · simp_all [nodeAnnounced]
    · simp_all [nodeAnnounced]
    · intro hnew _ _
      simp [Entities.addNode, Entities.removeNode, Finset.erase_insert hnew]
  next hinsert w1 hw _ w2 h2 _ hsuppress _ hreturns hadd w3 h3 =>
    subst hw h2 h3
    refine ⟨by simp_all [nodeRegistered], (Entry.withEntities ..).trans (.withGraph ..), ?_, ?_, ?_⟩
    · simp_all [nodeAnnounced]
    · exact fun _ _ => rfl
    · simp
  next hinsert w1 hw _ w2 h2 _ hsuppress =>
    subst hw h2
    refine ⟨by simp_all [nodeRegistered], .withEntities .., ?_, ?_, ?_⟩
    · simp_all [nodeAnnounced]
    · exact fun _ _ => rfl
    · simp

/-- `rmw_create_node` gets to the registration of the node. -/
def nodeReached (name namespace_ : Option String) (s : State) : Bool :=
  name.isSome && namespace_.isSome && s.accepts && o .validNodeName && o .validNamespace &&
    (o (.create .nodeImpl) && o (.create .rmwNode) && o (.create .nodeName) &&
      o (.create .nodeNamespace))

/-- What `rmw_create_node` enters in the books, and what it leaves in the graph
and in the set of nodes. -/
structure BooksNode (recorded : Bool) (name namespace_ : Option String) (w : World G)
    (node : Option Node) (w' : World G) : Prop where
  released : node = none → ∃ xs, Entry w xs xs w'
  graph : w'.books.graph =
    if nodeReached o name namespace_ w.state && nodeAnnounced o w.state then
      announcedNode g o recorded (name, namespace_) w.books.graph else w.books.graph
  stays : w.state.Registered →
    (nodeReached o name namespace_ w.state && nodeAnnounced o w.state) = true →
    o .addNodeGraphReturns = false → ∃ n ∈ w'.state.entities.nodes, n ∉ w.state.entities.nodes
  undone : w.state.Registered → node = none →
    ¬ ((nodeReached o name namespace_ w.state && nodeAnnounced o w.state) = true ∧
      o .addNodeGraphReturns = false) →
    w'.state.entities = w.state.entities

/-- A call that does not get to the registration. -/
theorem BooksNode.unreached {recorded : Bool} {name namespace_ : Option String} {w w' : World G}
    {xs : Multiset Obj} (h : Silent w xs xs w') (hnot : nodeReached o name namespace_ w.state = false) :
    BooksNode g o recorded name namespace_ w none w' where
  released _ := ⟨xs, h.toEntry⟩
  graph := by simp [hnot, h.graph]
  stays := by simp [hnot]
  undone _ _ _ := h.entities

/-- What a registered state knows of new nodes. -/
theorem new_notMem {w w' : World G} {p : NodeParts} {object : Obj} (h : Silent w (made p) 0 w')
    (hobject : p.node = some object) (hw : w.state.Registered) :
    Node.ofParts p object ∉ w'.state.entities.nodes := by
  rw [h.entities]
  exact fun hmem => h.notMem (x := object) (by simp [made, hobject]) (hw.nodes _ hmem)

@[spec] theorem rmwCreateNode_spec (recorded : Bool) (name namespace_ : Option String)
    (w : World G) :
    ⦃fun w' => ⌜w' = w⌝⦄ rmwCreateNode g o recorded name namespace_
    ⦃⇓ node w' => ⌜BooksNode g o recorded name namespace_ w node w'⌝⦄ := by
  mvcgen [rmwCreateNode]
  next w1 hw hvalid =>
    subst hw
    exact .unreached g o (.refl _) (by simp_all [nodeReached, State.accepts])
  next w1 hw hvalid hname =>
    subst hw
    exact .unreached g o (.refl _) (by grind [nodeReached])
  next w1 hw hvalid hname hshutdown =>
    subst hw
    exact .unreached g o (.refl _) (by simp_all [nodeReached, State.accepts])
  next name' namespace' heq w1 hw hvalid hname hshutdown parts object hparts node w2 hall ok hfail w3
      hregister _ w4 hundo =>
    subst hw
    cases heq
    obtain ⟨hcomplete, hobject⟩ := Prod.mk.inj hparts
    have hreached : nodeReached o (some name') (some namespace') w1.state = true := by
      grind [nodeReached, State.accepts]
    have hannounced := nodeAnnounced_congr o hall.1.impl
    rw [Bool.not_eq_true'] at hfail
    have hentry := (hall.1.toEntry.trans hregister.entry).trans hundo.toEntry
    refine ⟨fun _ => ⟨made parts, hentry.congr (by simp) (by simp)⟩, ?_, ?_, ?_⟩
    · rw [hundo.graph, hregister.graph, hall.1.graph, hannounced, hreached, Bool.true_and]
    · intro hlive hcalled hthrows
      rw [hreached, Bool.true_and, ← hannounced] at hcalled
      refine ⟨node, ?_, hall.1.entities ▸ new_notMem hall.1 hobject hlive⟩
      rw [hundo.entities, hregister.stays hcalled hthrows]
      exact Finset.mem_insert_self _ _
    · intro hlive _ hnot
      rw [hreached, Bool.true_and, ← hannounced] at hnot
      rw [hundo.entities, hregister.undone (new_notMem hall.1 hobject hlive) hfail hnot,
        hall.1.entities]
  next name' namespace' heq w1 hw hvalid hname hshutdown parts object hparts node w2 hall ok hok w3
      hregister _ w4 h4 =>
    subst hw h4
    cases heq
    obtain ⟨hcomplete, hobject⟩ := Prod.mk.inj hparts
    have hreached : nodeReached o (some name') (some namespace') w1.state = true := by
      grind [nodeReached, State.accepts]
    have hannounced := nodeAnnounced_congr o hall.1.impl
    refine ⟨?_, ?_, ?_, ?_⟩
    · rintro ⟨⟩
    · rw [World.books_withEntities, hregister.graph, hall.1.graph, hannounced, hreached,
        Bool.true_and]
    · intro hlive hcalled hthrows
      rw [hreached, Bool.true_and, ← hannounced] at hcalled
      refine ⟨node, ?_, hall.1.entities ▸ new_notMem hall.1 hobject hlive⟩
      rw [World.entities_withEntities, hregister.stays hcalled hthrows]
      exact Finset.mem_insert_self _ _
    · rintro hlive ⟨⟩
  next name' namespace' heq w1 hw hvalid hname hshutdown parts _ hnone hparts w2 hall _ w3 h3 =>
    subst hw
    cases heq
    have hincomplete : parts.complete = false := by
      rw [← Bool.not_eq_true]
      intro hcomplete
      obtain ⟨node, hnode⟩ := NodeParts.exists_node hcomplete
      exact hnone node (by rw [← hparts, hcomplete, hnode])
    have hsilent := (hall.1.trans h3).congr (add_zero (made parts)) (zero_add (made parts))
    refine .unreached g o hsilent ?_
    simp [nodeReached, ← hall.2, hincomplete]
  next hnone heq w1 hw =>
    subst hw heq
    refine .unreached g o (.refl _) ?_
    cases name <;> cases namespace_ <;> simp_all [nodeReached]

/-! ## All or nothing -/

/-- The call gets to `add_node_graph`, which throws, or fails with the node
recorded. -/
def NodeLeft (recorded : Bool) (name namespace_ : Option String) (s : State) : Prop :=
  (nodeReached o name namespace_ s && nodeAnnounced o s) = true ∧
    (o .addNodeGraphReturns = false ∨ (o .addNodeGraph = false ∧ recorded = true))

/-- What the smaller program says about a run. -/
theorem createsNode (recorded : Bool) (name namespace_ : Option String) (w : World G) :
    CreatesNode o name namespace_ w.state
      ((rmwCreateNode g o recorded name namespace_).run w).1
      ((rmwCreateNode g o recorded name namespace_).run w).2.state := by
  obtain ⟨hresult, hstate⟩ := (extends_rmwCreateNode g o recorded name namespace_).run w
  rw [hresult, hstate]
  exact Lifecycle.run_of_spec (Lifecycle.rmwCreateNode_spec o name namespace_ w.state)

theorem nodeCreated_eq (name namespace_ : Option String) (s : State) :
    nodeCreated o name namespace_ s = (nodeReached o name namespace_ s && nodeRegistered o s) :=
  rfl

/-- A call of `rmw_create_node` that fails leaves everything as it was, just
when `add_node_graph` does not throw and does not fail with the node
recorded. -/
theorem rmwCreateNode_undone (hg : g.Lawful) (recorded : Bool) (name namespace_ : Option String)
    (w : World G) (hw : w.state.Registered) :
    (((rmwCreateNode g o recorded name namespace_).run w).1 = none →
      Undone g w ((rmwCreateNode g o recorded name namespace_).run w).2) ↔
    ¬ NodeLeft o recorded name namespace_ w.state := by
  have hcreates := createsNode g o recorded name namespace_ w
  have hbooks := run_of_spec (rmwCreateNode_spec g o recorded name namespace_ w)
  have hsome := hcreates.isSome
  rw [nodeCreated_eq] at hsome
  generalize (rmwCreateNode g o recorded name namespace_).run w = run at hcreates hbooks hsome
  obtain ⟨node, w'⟩ := run
  constructor
  · rintro hundone ⟨hcalled, hleft⟩
    have hnone : node = none := by
      rw [← Option.not_isSome_iff_eq_none, hsome]
      rcases hleft with hthrows | ⟨hfails, -⟩
      · grind [nodeAnnounced, nodeRegistered]
      · grind [nodeAnnounced, nodeRegistered]
    have hundone := hundone hnone
    rcases hleft with hthrows | ⟨-, hrecorded⟩
    · obtain ⟨n, hn, hnew⟩ := hbooks.stays hw hcalled hthrows
      exact hnew (hundone.entities ▸ hn)
    · have hnodes := hundone.nodes
      rw [hbooks.graph, if_pos hcalled, announcedNode, recordsNode, hrecorded, Bool.true_or,
        if_pos rfl, hg.nodes_addNode] at hnodes
      exact absurd (congrArg Multiset.card hnodes) (by simp)
  · intro hleft hnone
    subst hnone
    have hgraph : w'.books.graph = w.books.graph := by
      rw [hbooks.graph]
      split
      next hcalled =>
        have hrecords : recordsNode o recorded = false := by
          simp only [NodeLeft, hcalled, true_and] at hleft
          grind [nodeAnnounced, nodeRegistered, recordsNode]
        rw [announcedNode, hrecords]
        rfl
      next => rfl
    obtain ⟨xs, hentry⟩ := hbooks.released rfl
    refine ⟨hbooks.undone hw rfl fun hthrows => hleft ⟨hthrows.1, .inl hthrows.2⟩, ?_,
      ⟨xs, hentry.nodup, hentry.made_eq, hentry.released_eq⟩, ?_, ?_, ?_⟩
    · exact hcreates.effect.owns.restored
    · rw [hgraph]
    · rw [hgraph]
    · rw [hgraph]

theorem rmwCreateNode_undone_initialWorld :
    (((rmwCreateNode Tables.graph (fun _ => true) false "n" "/").run initialWorld).1 = none →
      Undone Tables.graph initialWorld
        ((rmwCreateNode Tables.graph (fun _ => true) false "n" "/").run initialWorld).2) ↔
    ¬ NodeLeft (fun _ => true) false "n" "/" initialWorld.state :=
  rmwCreateNode_undone Tables.graph (fun _ => true) Tables.lawful false "n" "/" initialWorld
    registered_initialWorld

/-- `add_node_graph` throws. -/
def nodeGraphThrows : Outcomes := fun step => step ≠ .addNodeGraphReturns

/-- The handler of exceptions leaves the freed node in the set of nodes. -/
theorem rmwCreateNode_dangling : ¬ ∀ (o : Outcomes) (recorded : Bool)
    (name namespace_ : Option String) (w : World Tables), w.state.Registered →
    ((rmwCreateNode Tables.graph o recorded name namespace_).run w).1 = none →
    Undone Tables.graph w ((rmwCreateNode Tables.graph o recorded name namespace_).run w).2 := by
  intro h
  have hundone := h nodeGraphThrows false "n" "/" initialWorld registered_initialWorld
    (by decide +kernel)
  have hentities := hundone.entities
  revert hentities
  decide +kernel

end RmwZzdds.Registration
