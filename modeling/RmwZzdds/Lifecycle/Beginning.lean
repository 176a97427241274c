import RmwZzdds.Lifecycle.Finalization

/-!
# The beginning of a context

A context that `rmw_init` returns has the entities of its graph channel, and no
others.
-/

namespace RmwZzdds

open Ownership Std.Do

namespace Lifecycle

open Service (Guid)

set_option mvcgen.warning false

/-! ## Before the channel -/

/-- No entity is live. -/
def State.Bare (s : State) : Prop := ∀ x ∈ s.heap.live, x.kind.isHandle = false

theorem State.Bare.free {s : State} (hs : s.Bare) (xs : Finset Obj) : (s.free xs).Bare :=
  fun x hx => hs x (Finset.mem_sdiff.mp hx).1

section

variable (o : Outcomes)

theorem create_bare {kind : Kind} (hkind : kind.isHandle = false) :
    ⦃fun s => ⌜s.Bare⌝⦄ create o kind ⦃⇓ _ s => ⌜s.Bare⌝⦄ := by
  mvcgen [create, -create_spec]
  next s hs =>
    intro x hx
    rcases Finset.mem_insert.mp hx with rfl | hx
    · exact hkind
    · exact hs x hx

theorem deallocate_bare (x : Option Obj) :
    ⦃fun s => ⌜s.Bare⌝⦄ deallocate x ⦃⇓ _ s => ⌜s.Bare⌝⦄ := by
  mvcgen [deallocate, -deallocate_spec]
  next s hs _ => exact hs.free _

theorem ddsDelete_bare (x : Obj) :
    ⦃fun s => ⌜s.Bare⌝⦄ ddsDelete o x ⦃⇓ _ s => ⌜s.Bare⌝⦄ := by
  mvcgen [ddsDelete, -ddsDelete_spec]
  next s hs _ => exact hs.free _

theorem modifyImpl_bare (f : ContextImpl → ContextImpl) :
    ⦃fun s => ⌜s.Bare⌝⦄ modifyImpl f ⦃⇓ _ s => ⌜s.Bare⌝⦄ := by
  mvcgen [modifyImpl, -modifyImpl_spec]

theorem cleanupOptions_bare (options : InitOptions) :
    ⦃fun s => ⌜s.Bare⌝⦄ cleanupOptions options ⦃⇓ _ s => ⌜s.Bare⌝⦄ := by
  mvcgen [cleanupOptions, deallocate_bare, -cleanupOptions_spec, -deallocate_spec]

theorem copyPart_bare {α : Type} (part : OptionPart) (x : Option (Owned α)) :
    ⦃fun s => ⌜s.Bare⌝⦄ copyPart o part x ⦃⇓ _ s => ⌜s.Bare⌝⦄ := by
  mvcgen [copyPart, create_bare, -copyPart_spec, -create_spec]

/-- The copy belongs to this implementation. -/
theorem copyOptions_bare (error : CopyError) (src : InitOptions) :
    ⦃fun s => ⌜s.Bare⌝⦄ copyOptions o error src
    ⦃⇓ r s => ⌜s.Bare ∧ ∀ copied, r = .ok copied →
      copied.implementationIdentifier = some identifier⌝⦄ := by
  mvcgen [copyOptions, copyPart_bare, cleanupOptions_bare, -copyOptions_spec, -copyPart_spec,
    -cleanupOptions_spec]
  next hbare =>
    refine ⟨hbare, ?_⟩
    rintro copied ⟨⟩
    rfl
  all_goals
    next hbare =>
      refine ⟨hbare, ?_⟩
      rintro copied ⟨⟩

theorem deleteEntity_bare (x : Option Obj) :
    ⦃fun s => ⌜s.Bare⌝⦄ deleteEntity o x ⦃⇓ _ s => ⌜s.Bare⌝⦄ := by
  mvcgen [deleteEntity, ddsDelete_bare, -deleteEntity_spec, -ddsDelete_spec]

theorem resetDds_bare : ⦃fun s => ⌜s.Bare⌝⦄ resetDds o ⦃⇓ _ s => ⌜s.Bare⌝⦄ := by
  mvcgen [resetDds, deleteEntity_bare, deallocate_bare, modifyImpl_bare, -resetDds_spec,
    -deleteEntity_spec, -deallocate_spec, -modifyImpl_spec]

theorem initializeDds_bare : ⦃fun s => ⌜s.Bare⌝⦄ initializeDds o ⦃⇓ _ s => ⌜s.Bare⌝⦄ := by
  mvcgen [initializeDds, resetDds_bare, create_bare, modifyImpl_bare, -initializeDds_spec,
    -resetDds_spec, -create_spec, -modifyImpl_spec]

theorem createGraphGuard_bare : ⦃fun s => ⌜s.Bare⌝⦄ createGraphGuard o ⦃⇓ _ s => ⌜s.Bare⌝⦄ := by
  mvcgen [createGraphGuard, create_bare, modifyImpl_bare, -createGraphGuard_spec, -create_spec,
    -modifyImpl_spec]

end

/-! ## The whole call -/

/-- Two specifications of one run. -/
theorem spec_and {α : Type} {x : RmwM α} {s : State} {P : State → Prop} {Q R : α → State → Prop}
    (hQ : ⦃fun s' => ⌜s' = s⌝⦄ x ⦃⇓ a s' => ⌜Q a s'⌝⦄)
    (hR : ⦃fun s' => ⌜P s'⌝⦄ x ⦃⇓ a s' => ⌜R a s'⌝⦄) (hs : P s) :
    ⦃fun s' => ⌜s' = s⌝⦄ x ⦃⇓ a s' => ⌜Q a s' ∧ R a s'⌝⦄ := by
  rintro _ rfl
  exact ⟨hQ _ rfl, hR _ hs⟩

theorem Creates.bare {o : Outcomes} {kind : Kind} {s s' : State} {x : Option Obj}
    (h : Creates o kind s x s') (hs : s.Bare) (hkind : kind.isHandle = false) : s'.Bare := by
  intro y hy
  rw [h.effect.owns.live, Finset.mem_union, Option.mem_toFinset] at hy
  rcases hy with hy | hy
  · exact hs y hy
  · rwa [h.kind y hy]

section

variable (o : Outcomes) (s : State)

theorem copyOptions_begun (error : CopyError) (src : InitOptions) (hs : s.Bare) :
    ⦃fun s' => ⌜s' = s⌝⦄ copyOptions o error src
    ⦃⇓ r s' => ⌜CopiesOptions o src s r s' ∧ s'.Bare ∧ ∀ copied, r = .ok copied →
      copied.implementationIdentifier = some identifier⌝⦄ :=
  spec_and (copyOptions_spec o error src s) (copyOptions_bare o error src) hs

theorem initializeDds_begun (hdds : s.impl.dds = .nil) (hs : s.Bare) :
    ⦃fun s' => ⌜s' = s⌝⦄ initializeDds o ⦃⇓ ok s' => ⌜InitializesDds o s ok s' ∧ s'.Bare⌝⦄ :=
  spec_and (initializeDds_spec o s hdds) (initializeDds_bare o) hs

theorem createGraphGuard_begun (hs : s.Bare) :
    ⦃fun s' => ⌜s' = s⌝⦄ createGraphGuard o
    ⦃⇓ _ s' => ⌜s'.Bare ∧ s'.context = s.context ∧ s'.entities = s.entities ∧
      ∃ native impl handle, s'.impl = s.impl.withGraphGuard native impl handle⌝⦄ := by
  rintro _ rfl
  obtain ⟨-, hcontext, himpl, hentities, -⟩ := createGraphGuard_spec o _ _ rfl
  exact ⟨createGraphGuard_bare o _ hs, hcontext, hentities, himpl⟩

theorem initializeGraphChannel_begun (o : Call → Outcomes) (guid : Guid) (hs : s.Fresh)
    (hbare : s.Bare) :
    ⦃fun s' => ⌜s' = s⌝⦄ initializeGraphChannel o guid
    ⦃⇓ _ s' => ⌜s'.Sound 0 ∧ s'.context = s.context⌝⦄ := by
  rintro _ rfl
  exact ⟨initializeGraphChannel_sound hs hbare _ rfl,
    (initializeGraphChannel_spec o guid _ hs _ rfl).context⟩

theorem releaseContext_runs (options : InitOptions) (impl : Obj) :
    ⦃⌜True⌝⦄ releaseContext o options impl ⦃⇓ _ => ⌜True⌝⦄ := fun _ _ => trivial

end

/-- What a context has that can be used. -/
structure State.Begun (s : State) : Prop where
  sound : s.Sound 0
  usable : s.context.Usable

theorem initializeContext_begun (o : Call → Outcomes) (error : CopyError) (guid : Guid)
    (options : InitOptions) (domain : ℕ) {s : State} (hs : s.Bare) :
    ⦃fun s' => ⌜s' = s⌝⦄ initializeContext o error guid options domain
    ⦃⇓ r s' => ⌜r = .ok → s'.Begun⌝⦄ := by
  mvcgen [initializeContext, copyOptions_begun, initializeDds_begun, createGraphGuard_begun,
    releaseContext_runs, initializeGraphChannel_begun, -initializeContext_spec, -copyOptions_spec,
    -initializeDds_spec, -createGraphGuard_spec, -releaseContext_spec, -initializeGraphChannel_spec]
  next s1 h1 =>
    subst h1
    exact hs
  next s1 h1 _ ret _ s2 h2 =>
    intro hok
    exact (h2.1.error ret rfl hok).elim
  next s1 h1 _ copied _ s2 h2 _ impl _ s3 h3 _ s4 h4 =>
    subst h4
    rfl
  next s1 h1 _ copied _ s2 h2 _ impl _ s3 h3 _ s4 h4 =>
    subst h4
    exact h3.bare h2.2.1 rfl
  next => rintro ⟨⟩
  next => rintro ⟨⟩
  next s1 h1 _ copied _ s2 h2 _ impl _ s3 h3 _ s4 h4 ok _ _ s5 h5 _ s6 h6 =>
    subst h6
    exact h5.2
  next => rintro ⟨⟩
  next s1 h1 _ copied _ s2 h2 _ impl _ s3 h3 _ s4 h4 ok _ _ s5 h5 _ s6 h6 _ _ s7 h7 _ s8 h8 =>
    subst h1 h4 h6 h8
    obtain ⟨-, hcontext, hentities, native, implGuard, handle, himpl⟩ := h7
    exact (Constructed.of_creates h2.1 h3 h5.1).fresh hcontext himpl hentities
  next s1 h1 _ copied _ s2 h2 _ impl _ s3 h3 _ s4 h4 ok _ _ s5 h5 _ s6 h6 _ _ s7 h7 _ s8 h8 =>
    subst h8
    exact h7.1
  -- the channel fails
  next hfailed _ _ _ _ _ _ _ _ _ _ => exact fun hok => (hfailed hok).elim
  next s1 h1 _ copied _ s2 h2 _ impl _ s3 h3 _ s4 h4 ok _ _ s5 h5 _ s6 h6 _ _ s7 h7 _ s8 h8 ret _
      s9 h9 =>
    subst h6 h8
    obtain ⟨hsound, hcontext⟩ := h9
    have hcontext' := hcontext.trans h7.2.1
    refine ⟨hsound, ?_, ?_, ?_⟩
    all_goals rw [hcontext']
    · rfl
    · rfl
    · exact h2.2.2 copied rfl
  next => rintro ⟨⟩

/-- A context that `rmw_init` returns. -/
theorem rmwInit_begun (o : Call → Outcomes) (error : CopyError) (guid : Guid)
    (options : Option InitOptions) (contextIsNull : Bool) {s : State} (hs : s.Bare) :
    ⦃fun s' => ⌜s' = s⌝⦄ rmwInit o error guid options contextIsNull
    ⦃⇓ r s' => ⌜r = .ok → s'.Begun⌝⦄ := by
  mvcgen [rmwInit, initializeContext_begun, -rmwInit_spec, -initializeContext_spec]
  next ret s1 h1 hchecks =>
    intro hok
    exact (initChecks_ne_ok hchecks hok).elim
  next s1 h1 _ _ _ =>
    subst h1
    exact hs

end Lifecycle

end RmwZzdds
