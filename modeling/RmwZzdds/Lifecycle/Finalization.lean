import RmwZzdds.Lifecycle.Initialization
import RmwZzdds.Lifecycle.ChannelRegistry

/-!
# The end of a context

`rmw_shutdown` stops the thread of the graph channel.  `rmw_context_fini` takes
the whole channel down, whose entities are in the counter too, and decides only
then whether the context may end.
-/

namespace RmwZzdds

open Ownership Std.Do

namespace Lifecycle

set_option mvcgen.warning false

/-! ## The calls -/

/-- The checks of a context at its end. -/
def contextChecks (contextIsNull : Bool) (context : Context) : Ret :=
  if contextIsNull || context.implementationIdentifier.isNone || context.impl.isNone then
    .invalidArgument
  else if context.implementationIdentifier ≠ some identifier then
    .incorrectRmwImplementation
  else
    .ok

def ContextImpl.shutDown (c : ContextImpl) : ContextImpl := { c with shutdown := true }

/-- `rmw_shutdown`. -/
def rmwShutdown (contextIsNull : Bool) : RmwM Ret := do
  let ret := contextChecks contextIsNull (← get).context
  if ret ≠ .ok then
    return ret
  modifyImpl ContextImpl.shutDown
  stopGraphListener
  return .ok

/-- `rmw_init_options_fini`. -/
def rmwInitOptionsFini (options : InitOptions) : RmwM Ret := do
  if options.implementationIdentifier.isNone then
    return .invalidArgument
  if options.implementationIdentifier ≠ some identifier then
    return .incorrectRmwImplementation
  cleanupOptions options
  return .ok

/-- The state in which a context must not end. -/
def State.refusesFini (s : State) : Bool := !s.impl.shutdown || s.entities.activeEntities ≠ 0

/-- The end of `rmw_context_fini`, which nothing stops. -/
def releaseImpl (o : Outcomes) : RmwM Ret := do
  let context := (← get).context
  destroyGraphGuard
  let ddsCleanupSucceeded ← resetDds o
  deallocate context.impl
  let optionsRet ← rmwInitOptionsFini context.options
  modifyState (·.withContext .zero)
  if !ddsCleanupSucceeded then
    return .error
  return optionsRet

/-- `rmw_context_fini`.  The outcomes `o` are those of the graph channel, and
`dds` those of the other entities of zzdds. -/
def rmwContextFini (o : Call → Outcomes) (dds : Outcomes) (contextIsNull : Bool) : RmwM Ret := do
  let ret := contextChecks contextIsNull (← get).context
  if ret ≠ .ok then
    return ret
  let graphRet ← finalizeGraphChannel o
  if graphRet ≠ .ok then
    return graphRet
  if (← get).refusesFini then
    return .invalidArgument
  releaseImpl dds

/-! ## Shutdown -/

/-- The end of the channel's thread leaves the rest of the channel. -/
theorem State.Sound.stopped {U : Multiset Handle} {s s' : State} (hs : s.Sound U)
    (h : Dismantles (fun _ => False) s s.impl.common.threadObjects
      (s.impl.onCommon fun c => { c with threadIsRunning := false, listenerThread := none })
      (s.impl.common.endThread s.entities) s') : s'.Sound U := by
  have hchannel := h.valid hs.channel ⟨by simp, by simp, by simp, by simp⟩
  have himpl := h.impl
  have hF := hs.registry
  simp only [ContextImpl.handles, add_assoc] at hF
  refine ⟨hchannel, ?_, ?_, ?_⟩
  · simp [himpl]
  · rw [h.heap, h.entities, himpl]
    simpa [ContextImpl.handles, ContextImpl.onCommon, Common.waitSet, add_assoc] using
      hF.endThread _ hs.thread
  · rw [himpl]
    exact hs.separate

theorem rmwShutdown_sound {U : Multiset Handle} {s : State} (contextIsNull : Bool)
    (hs : s.Sound U) :
    ⦃fun s' => ⌜s' = s⌝⦄ rmwShutdown contextIsNull
    ⦃⇓ _ s' => ⌜s'.Sound U ∧ s'.context = s.context⌝⦄ := by
  mvcgen [rmwShutdown]
  next s1 h1 ret _ =>
    subst h1
    exact ⟨hs, rfl⟩
  next s1 h1 ret _ _ s2 h2 =>
    subst h1 h2
    exact hs.channel.thread
  next s1 h1 ret _ _ s2 h2 _ s3 h3 =>
    subst h1 h2
    have hsound : (s1.onImpl ContextImpl.shutDown).Sound U := hs.congr hs.registry rfl rfl
    exact ⟨hsound.stopped h3, h3.context⟩

/-! ## Finalization -/

/-- A context as `rmw_init` leaves it in the eyes of its last calls. -/
structure Context.Usable (c : Context) : Prop where
  identifier : c.implementationIdentifier = some Lifecycle.identifier
  impl : c.impl.isSome
  options : c.options.implementationIdentifier = some Lifecycle.identifier

theorem Context.Usable.checks {c : Context} (h : c.Usable) : contextChecks false c = .ok := by
  simp [contextChecks, h.identifier, Option.isNone_eq_false_iff.mpr h.impl]

/-- What `rmw_context_fini` does to a context that can be used: it fails after
the end of the channel, or the context ends too. -/
structure FinalizesContext (o : Call → Outcomes) (s : State) (r : Ret) (s' : State) : Prop where
  channel : ∃ ret t, (finalizeGraphChannel o).run s = (ret, t) ∧ FinalizesChannel o s ret t ∧
    (ret ≠ .ok → r = ret ∧ s' = t) ∧
    (ret = .ok → t.refusesFini = true → r = .invalidArgument ∧ s' = t) ∧
    (ret = .ok → t.refusesFini = false → r ≠ .invalidArgument ∧ s'.context.impl = none)

@[spec] theorem rmwInitOptionsFini_spec (options : InitOptions)
    (h : options.implementationIdentifier = some identifier) :
    ⦃⌜True⌝⦄ rmwInitOptionsFini options ⦃⇓ r => ⌜r = .ok⌝⦄ := by
  mvcgen [rmwInitOptionsFini]
  all_goals simp_all

/-- The result of the zzdds entities does not matter here. -/
theorem resetDds_runs (o : Outcomes) : ⦃⌜True⌝⦄ resetDds o ⦃⇓ _ => ⌜True⌝⦄ := fun _ _ => trivial

@[spec] theorem releaseImpl_spec (o : Outcomes) (s : State) (h : s.context.Usable) :
    ⦃fun s' => ⌜s' = s⌝⦄ releaseImpl o
    ⦃⇓ r s' => ⌜r ≠ .invalidArgument ∧ s'.context.impl = none⌝⦄ := by
  mvcgen [releaseImpl, resetDds_runs, -resetDds_spec]
  next s1 h1 context _ _ _ _ _ _ _ _ =>
    subst h1
    exact h.options
  next s6 h6 =>
    subst h6
    exact ⟨nofun, rfl⟩
  next optionsRet s5 hok _ _ s6 h6 =>
    subst hok h6
    exact ⟨nofun, rfl⟩

/-- The end of the channel, as a run. -/
theorem finalizeGraphChannel_run (o : Call → Outcomes) {U : Multiset Handle} (s : State)
    (hs : s.Sound U) :
    ⦃fun s' => ⌜s' = s⌝⦄ finalizeGraphChannel o
    ⦃⇓ r s' => ⌜(finalizeGraphChannel o).run s = (r, s') ∧ FinalizesChannel o s r s'⌝⦄ := by
  rintro _ rfl
  exact ⟨rfl, finalizeGraphChannel_spec o _ hs.channel hs.unowned _ rfl⟩

@[spec] theorem rmwContextFini_spec (o : Call → Outcomes) (dds : Outcomes) {U : Multiset Handle}
    (s : State) (hs : s.Sound U) (hcontext : s.context.Usable) :
    ⦃fun s' => ⌜s' = s⌝⦄ rmwContextFini o dds false
    ⦃⇓ r s' => ⌜FinalizesContext o s r s'⌝⦄ := by
  mvcgen [rmwContextFini, finalizeGraphChannel_run, -finalizeGraphChannel_spec]
  next s1 h1 ret hret =>
    subst h1
    exact (hret hcontext.checks).elim
  next s1 h1 ret _ =>
    subst h1
    exact hs
  next s1 h1 ret _ graphRet hfailed s2 h2 =>
    subst h1
    exact ⟨graphRet, s2, h2.1, h2.2, fun _ => ⟨rfl, rfl⟩, fun hok => (hfailed hok).elim,
      fun hok => (hfailed hok).elim⟩
  next s1 h1 ret _ graphRet hok s2 h2 hrefuses =>
    subst h1
    refine ⟨graphRet, s2, h2.1, h2.2, fun hfailed => (hok hfailed).elim, fun _ _ => ⟨rfl, rfl⟩, ?_⟩
    intro _ haccepts
    simp [hrefuses] at haccepts
  next s1 h1 ret _ graphRet hok s2 h2 haccepts =>
    subst h1
    exact h2.2.releases.context ▸ hcontext
  next s1 h1 ret _ graphRet hok s2 h2 haccepts r s3 =>
    intro hr hgone
    subst h1
    refine ⟨graphRet, s2, h2.1, h2.2, fun hfailed => (hok hfailed).elim, ?_,
      fun _ _ => ⟨hr, hgone⟩⟩
    intro _ hrefuses
    exact (haccepts hrefuses).elim

end Lifecycle

end RmwZzdds
