import RmwZzdds.Wait.WaitSet

/-!
# No trigger is lost

A trigger of a guard condition stays until a wait resets the guard and reports
it, and a wait reports a guard only if it was triggered since the last reset.

*Outcome.*  Once the zzdds wait has returned, what `rmw_wait` returns is fixed
(`State.outcome`), and its remaining steps only carry it out.  `State.Valid`
holds the loops of the call to it.

*History.*  A guard is triggered just if a trigger has happened and no reset
since (`Transition.Since`).  The invariant `Told` keeps this beside what the
history says about every reported guard.
-/

namespace RmwZzdds.Wait

open Transition

variable {Guard Other : Type*}

/-! ## Arguments and checks -/

/-- A guard condition among the arguments is attached. -/
theorem mem_attachments {arrays : Arrays Guard Other} {guard : Guard}
    (h : some guard ∈ arrays.guardConditions) :
    Condition.guard guard ∈ arrays.attachments.map Attachment.condition := by
  rw [List.mem_map]
  refine ⟨⟨.guard guard, false⟩, ?_, rfl⟩
  simp [Arrays.attachments, List.reduceOption_mem_iff, h]

/-- The return code of a call that gives up. -/
def GivesUp (ret : Ret) : Prop := ret ≠ .ok ∧ ret ≠ .timeout

theorem givesUp_error : GivesUp .error := by
  constructor
  · rintro ⟨⟩
  · rintro ⟨⟩

theorem givesUp_invalidArgument : GivesUp .invalidArgument := by
  constructor
  · rintro ⟨⟩
  · rintro ⟨⟩

theorem givesUp_badAlloc : GivesUp .badAlloc := by
  constructor
  · rintro ⟨⟩
  · rintro ⟨⟩

theorem refusal_givesUp {attachment : Attachment Guard Other} {o : AttachOutcome} {ret : Ret}
    (h : attachment.refusal o = some ret) : GivesUp ret := by
  cases o with
  | attached => cases h
  | failed =>
      simp only [Attachment.refusal, Option.some.injEq] at h
      split at h
      · cases h
        exact givesUp_invalidArgument
      · cases h
        exact givesUp_error
  | otherContext =>
      cases h
      exact givesUp_invalidArgument

theorem waitChecks_givesUp {maxConditions : Nat} {arrays : Arrays Guard Other}
    {timeout : Option RmwTime} {reserved : Bool} {ret : Ret}
    (h : waitChecks maxConditions arrays timeout reserved = some ret) : GivesUp ret := by
  rw [waitChecks] at h
  split at h
  · cases h
    exact givesUp_invalidArgument
  split at h
  · cases h
    exact givesUp_invalidArgument
  split at h
  · cases h
    exact givesUp_invalidArgument
  split at h
  · cases h
    exact givesUp_badAlloc
  · cases h

/-! ## Active conditions -/

theorem keepActive_cons {α β : Type*} [DecidableEq β] (active : List β) (condition : α → β)
    (entry : Option α) (entries : List (Option α)) :
    keepActive active condition (entry :: entries) =
      entry.filter (fun x => contains active (condition x)) ::
        keepActive active condition entries := rfl

theorem some_mem_keepActive {α β : Type*} [DecidableEq β] {active : List β} {condition : α → β}
    {entries : List (Option α)} {x : α} :
    some x ∈ keepActive active condition entries ↔ some x ∈ entries ∧ condition x ∈ active := by
  simp only [keepActive, List.mem_map, Option.filter_eq_some_iff, contains_iff]
  constructor
  · rintro ⟨_, hmem, rfl, hactive⟩
    exact ⟨hmem, hactive⟩
  · rintro ⟨hmem, hactive⟩
    exact ⟨some x, hmem, rfl, hactive⟩

variable [DecidableEq Guard] [DecidableEq Other]

/-! ## Outcomes -/

/-- What a call returns or will return, once that is fixed. -/
def Stage.outcome (arrays : Arrays Guard Other) :
    Stage Guard Other → Option (WaitReturn Guard Other)
  | .attaching _ _ => none
  | .detaching _ (.error ret) => some ⟨ret, arrays⟩
  | .detaching _ (.ok (result, active)) => some (waitReturn arrays active result)
  | .visiting result active _ _ => some (waitReturn arrays active result)
  | .returned value => some value

/-- The entries of the guard conditions that a call has gone through. -/
def Stage.visited : Stage Guard Other → List (Option Guard)
  | .attaching _ _ => []
  | .detaching _ _ => []
  | .visiting _ _ visited _ => visited
  | .returned value => if value.ret = .ok then value.arrays.guardConditions else []

namespace State

variable {s s' : State Guard Other} {a : Action Guard Other} {call : Nat} {guard : Guard}

def outcome (s : State Guard Other) (call : Nat) : Option (WaitReturn Guard Other) :=
  (s.calls call).bind fun wait => wait.stage.outcome wait.arrays

/-- The call returns `RMW_RET_OK` and leaves the entry of the guard. -/
def Reports (s : State Guard Other) (call : Nat) (guard : Guard) : Prop :=
  ∃ value ∈ s.outcome call, value.ret = .ok ∧ some guard ∈ value.arrays.guardConditions

/-- The guard is among the arguments of the call. -/
def Includes (s : State Guard Other) (call : Nat) (guard : Guard) : Prop :=
  ∃ wait ∈ s.calls call, some guard ∈ wait.arrays.guardConditions

end State

/-! ## The loops of a call -/

/-- What the stage of a call keeps: what it has attached, and the entries it
has gone through. -/
def Stage.Valid (arrays : Arrays Guard Other) (attachedConditions : List (Condition Guard Other)) :
    Stage Guard Other → Prop
  | .attaching attached rest =>
      attached ++ rest.map Attachment.condition = arrays.attachments.map Attachment.condition ∧
        ∀ condition ∈ attached, condition ∈ attachedConditions
  | .detaching _ (.error ret) => GivesUp ret
  | .detaching _ (.ok (result, active)) => result = .timeout → active = []
  | .visiting result active visited rest =>
      result ≠ .error ∧ (result = .timeout → active = []) ∧
        visited ++ keepActive active .guard rest =
          keepActive active .guard arrays.guardConditions
  | .returned value =>
      value.ret = .ok → ∀ guard, some guard ∈ value.arrays.guardConditions →
        some guard ∈ arrays.guardConditions

/-- A call that has not returned is the current one. -/
structure State.Valid (s : State Guard Other) : Prop where
  stage : ∀ call wait, s.calls call = some wait → wait.stage.Valid wait.arrays s.attached
  current : ∀ call wait, s.calls call = some wait →
    (∃ value, wait.stage = .returned value) ∨ s.current = some call
  fresh : ∀ call, s.nextCall ≤ call → s.calls call = none

namespace State.Valid

variable {s s' : State Guard Other} {a : Action Guard Other} {call : Nat}

theorem start (maxConditions : Nat) : (State.start maxConditions : State Guard Other).Valid where
  stage _ _ h := by cases h
  current _ _ h := by cases h
  fresh _ _ := rfl

/-- A call moves on while no other is in progress. -/
theorem update {wait : WaitCall Guard Other} (h : s.Valid)
    (hcurrent : ∀ other ≠ call, s.current ≠ some other)
    (hcalls : s'.calls = Function.update s.calls call (some wait))
    (hstage : wait.stage.Valid wait.arrays s'.attached)
    (hcurrent' : (∃ value, wait.stage = .returned value) ∨ s'.current = some call)
    (hnext : call < s'.nextCall) (hle : s.nextCall ≤ s'.nextCall) : s'.Valid := by
  have hothers : ∀ other ≠ call, ∀ wait', s.calls other = some wait' →
      ∃ value, wait'.stage = .returned value := by
    intro other hne wait' hother
    exact (h.current other wait' hother).resolve_right (hcurrent other hne)
  constructor
  · intro other wait' hother
    rw [hcalls] at hother
    obtain ⟨rfl, heq⟩ | ⟨hne, hold⟩ := Table.update_eq_some hother
    · cases heq
      exact hstage
    · obtain ⟨value, hvalue⟩ := hothers other hne wait' hold
      have hvalid := h.stage other wait' hold
      rw [hvalue] at hvalid ⊢
      exact hvalid
  · intro other wait' hother
    rw [hcalls] at hother
    obtain ⟨rfl, heq⟩ | ⟨hne, hold⟩ := Table.update_eq_some hother
    · cases heq
      exact hcurrent'
    · exact .inl (hothers other hne wait' hold)
  · intro other hother
    rw [hcalls, Function.update_of_ne (by omega)]
    exact h.fresh other (by omega)

/-- A call in progress moves on. -/
theorem move {wait wait' : WaitCall Guard Other} (h : s.Valid) (hcall : s.calls call = some wait)
    (hprogress : ∀ value, wait.stage ≠ .returned value)
    (hcalls : s'.calls = Function.update s.calls call (some wait'))
    (hstage : wait'.stage.Valid wait'.arrays s'.attached)
    (hcurrent' : (∃ value, wait'.stage = .returned value) ∨ s'.current = s.current)
    (hnext : s'.nextCall = s.nextCall) : s'.Valid := by
  have hcurrent : s.current = some call := by
    refine (h.current call wait hcall).resolve_left ?_
    rintro ⟨value, hvalue⟩
    exact hprogress value hvalue
  have hlt : call < s.nextCall := by
    by_contra hge
    rw [h.fresh call (Nat.le_of_not_lt hge)] at hcall
    cases hcall
  rw [hcurrent] at hcurrent'
  refine h.update ?_ hcalls hstage hcurrent' (hnext ▸ hlt) (Nat.le_of_eq hnext.symm)
  intro other hne hother
  rw [hcurrent] at hother
  exact hne (Option.some.inj hother).symm

theorem step (h : s.Valid) (hstep : Step s a s') : s'.Valid := by
  cases hstep with
  | trigger guard => exact ⟨h.stage, h.current, h.fresh⟩
  | triggerFailed guard => exact h
  | @refused arrays timeout reserved ret hcurrent hchecks =>
      refine h.update ?_ rfl ?_ (.inl ⟨_, rfl⟩) (Nat.lt_succ_self _) (Nat.le_succ _)
      · intro other _
        rw [hcurrent]
        exact nofun
      · exact fun hret => absurd hret (waitChecks_givesUp hchecks).1
  | @begun arrays timeout reserved hcurrent hchecks =>
      refine h.update ?_ rfl ?_ (.inr rfl) (Nat.lt_succ_self _) (Nat.le_succ _)
      · intro other _
        rw [hcurrent]
        exact nofun
      · exact ⟨rfl, by simp⟩
  | @attached call o arrays attached attachment rest hcall hret =>
      obtain ⟨hall, hattached⟩ := h.stage call _ hcall
      refine h.move hcall nofun rfl ⟨?_, ?_⟩ (.inr rfl) rfl
      · rw [List.append_assoc]
        exact hall
      · intro condition hmem
        rw [List.mem_insert_iff]
        obtain hmem | hmem := List.mem_append.mp hmem
        · exact .inr (hattached condition hmem)
        · exact .inl (List.mem_singleton.mp hmem)
  | @attachFailed call o arrays attached attachment rest ret hcall hret =>
      exact h.move hcall nofun rfl (refusal_givesUp hret) (.inr rfl) rfl
  | @woken call result active attached arrays hcall hreturns =>
      refine h.move hcall nofun rfl ?_ (.inr rfl) rfl
      rintro rfl
      exact hreturns
  | @detach call ok arrays condition attached woken hcall =>
      have hvalid := h.stage call _ hcall
      refine h.move hcall nofun rfl ?_ (.inr rfl) rfl
      cases woken with
      | error ret => exact hvalid
      | ok woken => exact hvalid
  | @gaveUp call arrays ret hcall =>
      refine h.move hcall nofun rfl ?_ (.inl ⟨_, rfl⟩) rfl
      exact fun hret => absurd hret (h.stage call _ hcall).1
  | @failed call arrays active hcall =>
      exact h.move hcall nofun rfl nofun (.inl ⟨_, rfl⟩) rfl
  | @visit call arrays result active hcall hne =>
      exact h.move hcall nofun rfl ⟨hne, h.stage call _ hcall, rfl⟩ (.inr rfl) rfl
  | @reset call guard arrays result active visited rest hcall hactive =>
      obtain ⟨hne, htimeout, hvisited⟩ := h.stage call _ hcall
      refine h.move hcall nofun rfl ⟨hne, htimeout, ?_⟩ (.inr rfl) rfl
      rw [← hvisited, keepActive_cons, List.append_assoc, Option.filter_some, if_pos hactive]
      rfl
  | @nullify call guard arrays result active visited rest hcall hactive =>
      obtain ⟨hne, htimeout, hvisited⟩ := h.stage call _ hcall
      refine h.move hcall nofun rfl ⟨hne, htimeout, ?_⟩ (.inr rfl) rfl
      rw [← hvisited, keepActive_cons, List.append_assoc, Option.filter_some, hactive]
      rfl
  | @finish call arrays result active visited hcall =>
      obtain ⟨hne, htimeout, hvisited⟩ := h.stage call _ hcall
      refine h.move hcall nofun rfl ?_ (.inl ⟨_, rfl⟩) rfl
      intro _ guard hguard
      rw [show visited = _ from (List.append_nil visited).symm.trans hvisited] at hguard
      exact (some_mem_keepActive.mp hguard).1

end State.Valid

/-! ## The outcome is fixed by the zzdds wait -/

/-- What a step does to the outcome of a call. -/
inductive OutcomeStep (s : State Guard Other) (a : Action Guard Other) (s' : State Guard Other)
    (call : Nat) : Prop where
  | same : s'.outcome call = s.outcome call → OutcomeStep s a s' call
  /-- The call gives up. -/
  | refused {value : WaitReturn Guard Other} : s.outcome call = none →
      s'.outcome call = some value → GivesUp value.ret → OutcomeStep s a s' call
  /-- The zzdds wait returns, with all conditions of the call attached. -/
  | woken {wait : WaitCall Guard Other} {result : WaitResult}
      {active : List (Condition Guard Other)} : a = .wake call result active →
      s.outcome call = none → s.calls call = some wait →
      (∀ attachment ∈ wait.arrays.attachments, attachment.condition ∈ s.attached) →
      s.Returns active result →
      s'.outcome call = some (waitReturn wait.arrays active result) → OutcomeStep s a s' call

section

variable {s s' : State Guard Other} {a : Action Guard Other} {call : Nat}
  {wait wait' : WaitCall Guard Other}

theorem outcome_of_calls (hcall : s.calls call = some wait) :
    s.outcome call = wait.stage.outcome wait.arrays := by
  rw [State.outcome, hcall]
  rfl

theorem outcome_update_self (hcalls : s'.calls = Function.update s.calls call (some wait)) :
    s'.outcome call = wait.stage.outcome wait.arrays := by
  refine outcome_of_calls ?_
  rw [hcalls, Function.update_self]

theorem outcome_update_of_ne (hcalls : s'.calls = Function.update s.calls call (some wait))
    {other : Nat} (hne : other ≠ call) : s'.outcome other = s.outcome other := by
  rw [State.outcome, State.outcome, hcalls, Function.update_of_ne hne]

/-- A call moves on with the outcome it had. -/
theorem OutcomeStep.moved (hcall : s.calls call = some wait)
    (hcalls : s'.calls = Function.update s.calls call (some wait'))
    (hsame : wait'.stage.outcome wait'.arrays = wait.stage.outcome wait.arrays) (other : Nat) :
    OutcomeStep s a s' other := by
  by_cases hne : other = call
  · subst hne
    exact .same ((outcome_update_self hcalls).trans (hsame.trans (outcome_of_calls hcall).symm))
  · exact .same (outcome_update_of_ne hcalls hne)

/-- A call without an outcome gives up. -/
theorem OutcomeStep.gaveUp {value : WaitReturn Guard Other} (hnone : s.outcome call = none)
    (hcalls : s'.calls = Function.update s.calls call (some wait'))
    (hvalue : wait'.stage.outcome wait'.arrays = some value) (hret : GivesUp value.ret)
    (other : Nat) : OutcomeStep s a s' other := by
  by_cases hne : other = call
  · subst hne
    exact .refused hnone ((outcome_update_self hcalls).trans hvalue) hret
  · exact .same (outcome_update_of_ne hcalls hne)

/-- The zzdds wait of a call returns: all its conditions are attached, and its
outcome is fixed. -/
theorem woken_of_step {result : WaitResult} {active : List (Condition Guard Other)}
    (h : s.Valid) (hstep : Step s (.wake call result active) s') :
    ∃ wait, s.calls call = some wait ∧ s.outcome call = none ∧
      (∀ attachment ∈ wait.arrays.attachments, attachment.condition ∈ s.attached) ∧
      s.Returns active result ∧
      s'.outcome call = some (waitReturn wait.arrays active result) := by
  cases hstep with
  | @woken _ _ _ attached arrays hcall hreturns =>
      obtain ⟨hall, hattached⟩ := h.stage call _ hcall
      rw [List.map_nil, List.append_nil] at hall
      refine ⟨_, hcall, outcome_of_calls hcall, ?_, hreturns, ?_⟩
      · intro attachment hmem
        refine hattached _ ?_
        rw [hall]
        exact List.mem_map_of_mem hmem
      · rw [outcome_update_self rfl]
        rfl

theorem outcomeStep (h : s.Valid) (hstep : Step s a s') (other : Nat) :
    OutcomeStep s a s' other := by
  cases hstep with
  | trigger guard => exact .same rfl
  | triggerFailed guard => exact .same rfl
  | @refused arrays timeout reserved ret hcurrent hchecks =>
      have hnone : s.outcome s.nextCall = none := by
        rw [State.outcome, h.fresh _ (Nat.le_refl _)]
        rfl
      exact .gaveUp hnone rfl rfl (waitChecks_givesUp hchecks) other
  | @begun arrays timeout reserved hcurrent hchecks =>
      by_cases hne : other = s.nextCall
      · subst hne
        refine .same ?_
        rw [outcome_update_self rfl, State.outcome, h.fresh _ (Nat.le_refl _)]
        rfl
      · exact .same (outcome_update_of_ne rfl hne)
  | attached hcall hret =>
      refine .moved hcall rfl ?_ other
      rfl
  | attachFailed hcall hret =>
      exact .gaveUp (outcome_of_calls hcall) rfl rfl (refusal_givesUp hret) other
  | @woken call result active attached arrays hcall hreturns =>
      by_cases hne : other = call
      · subst hne
        obtain ⟨wait, hcall', hnone, hall, -, houtcome⟩ :=
          woken_of_step h (.woken hcall hreturns)
        exact .woken rfl hnone hcall' hall hreturns houtcome
      · exact .same (outcome_update_of_ne rfl hne)
  | @detach call ok arrays condition attached woken hcall =>
      refine .moved hcall rfl ?_ other
      cases woken with
      | error ret => rfl
      | ok woken => rfl
  | gaveUp hcall =>
      refine .moved hcall rfl ?_ other
      rfl
  | failed hcall =>
      refine .moved hcall rfl ?_ other
      rfl
  | visit hcall hne =>
      refine .moved hcall rfl ?_ other
      rfl
  | reset hcall hactive =>
      refine .moved hcall rfl ?_ other
      rfl
  | nullify hcall hactive =>
      refine .moved hcall rfl ?_ other
      rfl
  | @finish call arrays result active visited hcall =>
      obtain ⟨hne, -, hvisited⟩ := h.stage call _ hcall
      refine .moved hcall rfl ?_ other
      have hloop : visited = keepActive active .guard arrays.guardConditions :=
        (List.append_nil visited).symm.trans hvisited
      subst hloop
      cases result with
      | ok => rfl
      | timeout => rfl
      | error => exact absurd rfl hne

/-- A call that reports a guard goes on to do so. -/
theorem State.Reports.step {guard : Guard} (hv : s.Valid) (hstep : Step s a s')
    (h : s.Reports call guard) : s'.Reports call guard := by
  obtain ⟨value, hvalue, hret, hmem⟩ := h
  rw [Option.mem_def] at hvalue
  cases outcomeStep hv hstep call with
  | same hsame => exact ⟨value, hsame.trans hvalue, hret, hmem⟩
  | refused hnone => rw [hnone] at hvalue; cases hvalue
  | woken _ hnone => rw [hnone] at hvalue; cases hvalue

/-- A zzdds wait that returns makes its call report just the triggered guards
among its arguments. -/
theorem reports_of_woken {active : List (Condition Guard Other)} {guard : Guard}
    (hall : ∀ attachment ∈ wait.arrays.attachments, attachment.condition ∈ s.attached)
    (hreturns : s.Returns active .ok)
    (houtcome : s'.outcome call = some (waitReturn wait.arrays active .ok)) :
    s'.Reports call guard ↔
      some guard ∈ wait.arrays.guardConditions ∧ s.triggered guard = true := by
  have hreports : s'.Reports call guard ↔
      some guard ∈ keepActive active .guard wait.arrays.guardConditions := by
    constructor
    · rintro ⟨value, hvalue, -, hmem⟩
      rw [houtcome] at hvalue
      cases hvalue
      exact hmem
    · exact fun hmem => ⟨_, houtcome, rfl, hmem⟩
  rw [hreports, some_mem_keepActive]
  constructor
  · rintro ⟨hmem, hactive⟩
    exact ⟨hmem, (hreturns.2 _ (hreturns.1 _ hactive)).mp hactive⟩
  · rintro ⟨hmem, htriggered⟩
    obtain ⟨attachment, hattachment, heq⟩ := List.mem_map.mp (mem_attachments hmem)
    have hattached := hall attachment hattachment
    rw [heq] at hattached
    exact ⟨hmem, (hreturns.2 _ hattached).mpr htriggered⟩

end

/-! ## Histories -/

/-- A trigger of the guard has completed and no wait has reset it since. -/
def TriggeredSince (guard : Guard) (as : List (Action Guard Other)) : Prop :=
  Since (fun a => a = .trigger guard true) (fun a => ∃ call, a = .reset call guard) as

section

variable {s s' : State Guard Other} {a : Action Guard Other} {as : List (Action Guard Other)}
  {call : Nat} {guard : Guard}

/-- What a step does to a trigger value. -/
theorem triggered_step (hstep : Step s a s') (guard : Guard) :
    s'.triggered guard = true ↔
      a = .trigger guard true ∨ s.triggered guard = true ∧ ¬ ∃ call, a = .reset call guard := by
  cases hstep with
  | trigger guard' =>
      by_cases hne : guard = guard'
      · subst hne
        simp [State.setTriggerValue]
      · simp [State.setTriggerValue, Function.update_of_ne hne, Ne.symm hne]
  | @reset call guard' =>
      by_cases hne : guard = guard'
      · subst hne
        simp [State.setTriggerValue, State.withCall]
      · simp [State.setTriggerValue, State.withCall, Function.update_of_ne hne, Ne.symm hne]
  | _ => simp [State.withCall, State.returning]

/-- What a step does to the calls: at most one moves, keeps its arguments, and
goes through an entry without setting it to null only by a reset. -/
theorem calls_step (hv : s.Valid) (hstep : Step s a s') :
    s'.calls = s.calls ∨ ∃ other new, s'.calls = Function.update s.calls other (some new) ∧
      (∀ old, s.calls other = some old → new.arrays = old.arrays) ∧
      ∀ guard, some guard ∈ new.stage.visited → a = .reset other guard ∨
        ∃ old, s.calls other = some old ∧ some guard ∈ old.stage.visited := by
  have hkept : ∀ {other : Nat} {old new : WaitCall Guard Other}, s.calls other = some old →
      new.arrays = old.arrays →
      ∀ old', s.calls other = some old' → new.arrays = old'.arrays := by
    intro other old new hother harrays old' hother'
    rw [hother] at hother'
    cases hother'
    exact harrays
  have hfresh : ∀ {new : WaitCall Guard Other} old, s.calls s.nextCall = some old →
      new.arrays = old.arrays := by
    intro new old hcall
    rw [hv.fresh _ (Nat.le_refl _)] at hcall
    cases hcall
  cases hstep with
  | trigger guard => exact .inl rfl
  | triggerFailed guard => exact .inl rfl
  | @refused arrays timeout reserved ret hcurrent hchecks =>
      refine .inr ⟨_, _, rfl, hfresh, ?_⟩
      intro guard hmem
      simp [Stage.visited, (waitChecks_givesUp hchecks).1] at hmem
  | begun hcurrent hchecks => exact .inr ⟨_, _, rfl, hfresh, nofun⟩
  | attached hcall hret => exact .inr ⟨_, _, rfl, hkept hcall rfl, nofun⟩
  | attachFailed hcall hret => exact .inr ⟨_, _, rfl, hkept hcall rfl, nofun⟩
  | woken hcall hreturns => exact .inr ⟨_, _, rfl, hkept hcall rfl, nofun⟩
  | detach hcall => exact .inr ⟨_, _, rfl, hkept hcall rfl, nofun⟩
  | gaveUp hcall =>
      refine .inr ⟨_, _, rfl, hkept hcall rfl, ?_⟩
      intro guard hmem
      simp [Stage.visited, (hv.stage _ _ hcall).1] at hmem
  | failed hcall => exact .inr ⟨_, _, rfl, hkept hcall rfl, nofun⟩
  | visit hcall hne => exact .inr ⟨_, _, rfl, hkept hcall rfl, nofun⟩
  | @reset call guard arrays result active visited rest hcall hactive =>
      refine .inr ⟨_, _, rfl, hkept hcall rfl, ?_⟩
      intro guard' hmem
      obtain hmem | hmem := List.mem_append.mp hmem
      · exact .inr ⟨_, hcall, hmem⟩
      · cases List.mem_singleton.mp hmem
        exact .inl rfl
  | @nullify call guard arrays result active visited rest hcall hactive =>
      refine .inr ⟨_, _, rfl, hkept hcall rfl, ?_⟩
      intro guard' hmem
      obtain hmem | hmem := List.mem_append.mp hmem
      · exact .inr ⟨_, hcall, hmem⟩
      · cases List.mem_singleton.mp hmem
  | @finish call arrays result active visited hcall =>
      refine .inr ⟨_, _, rfl, hkept hcall rfl, ?_⟩
      intro guard hmem
      refine .inr ⟨_, hcall, ?_⟩
      by_cases htimeout : result = .timeout
      · simp [Stage.visited, htimeout] at hmem
      · simpa [Stage.visited, htimeout] using hmem

/-- A call keeps its arguments. -/
theorem arrays_step (hv : s.Valid) (hstep : Step s a s') {wait : WaitCall Guard Other}
    (hcall : s.calls call = some wait) :
    ∃ wait', s'.calls call = some wait' ∧ wait'.arrays = wait.arrays := by
  obtain hcalls | ⟨other, new, hcalls, harrays, -⟩ := calls_step hv hstep
  · exact ⟨wait, hcalls ▸ hcall, rfl⟩
  · by_cases hne : call = other
    · subst hne
      exact ⟨new, hcalls ▸ Function.update_self .., harrays wait hcall⟩
    · exact ⟨wait, hcalls ▸ (Function.update_of_ne hne ..).trans hcall, rfl⟩

theorem State.Includes.step (hv : s.Valid) (hstep : Step s a s') (h : s.Includes call guard) :
    s'.Includes call guard := by
  obtain ⟨wait, hcall, hmem⟩ := h
  obtain ⟨wait', hcall', harrays⟩ := arrays_step hv hstep hcall
  exact ⟨wait', hcall', harrays ▸ hmem⟩

theorem visited_step (hv : s.Valid) (hstep : Step s a s') {wait' : WaitCall Guard Other}
    (hcall : s'.calls call = some wait') (hmem : some guard ∈ wait'.stage.visited) :
    a = .reset call guard ∨ ∃ wait, s.calls call = some wait ∧ some guard ∈ wait.stage.visited := by
  obtain hcalls | ⟨other, new, hcalls, -, hvisited⟩ := calls_step hv hstep
  · rw [hcalls] at hcall
    exact .inr ⟨wait', hcall, hmem⟩
  · rw [hcalls] at hcall
    obtain ⟨rfl, heq⟩ | ⟨-, hold⟩ := Table.update_eq_some hcall
    · cases heq
      exact hvisited guard hmem
    · exact .inr ⟨wait', hold, hmem⟩

/-- What a state and its history say about the reported guards. -/
structure Told (as : List (Action Guard Other)) (s : State Guard Other) : Prop where
  valid : s.Valid
  triggered : ∀ guard, s.triggered guard = true ↔ TriggeredSince guard as
  woken : ∀ call guard, s.Reports call guard → s.Includes call guard ∧
    ∃ bs active cs, as = bs ++ .wake call .ok active :: cs ∧ TriggeredSince guard bs
  reset : ∀ call guard, .reset call guard ∈ as → s.Reports call guard
  visited : ∀ call wait, s.calls call = some wait → ∀ guard, some guard ∈ wait.stage.visited →
    .reset call guard ∈ as
  timedOut : ∀ call value, s.outcome call = some value → value.ret = .timeout →
    ∀ guard, some guard ∉ value.arrays.guardConditions

theorem told_start (maxConditions : Nat) :
    Told [] (State.start maxConditions : State Guard Other) where
  valid := .start maxConditions
  triggered guard := ⟨nofun, fun h => absurd h (not_since_nil _ _)⟩
  woken call guard h := by
    obtain ⟨value, hvalue, -⟩ := h
    cases hvalue
  reset call guard h := by cases h
  visited call wait h := by cases h
  timedOut call value h := by cases h

/-- Only a call that reports the guard resets it. -/
theorem reports_of_reset (hv : s.Valid) (hstep : Step s (.reset call guard) s') :
    s.Reports call guard := by
  cases hstep with
  | @reset _ _ arrays result active visited rest hcall hactive =>
      obtain ⟨hne, htimeout, hvisited⟩ := hv.stage call _ hcall
      have hmem : some guard ∈ keepActive active .guard arrays.guardConditions := by
        rw [← hvisited, keepActive_cons, Option.filter_some, if_pos hactive]
        simp
      cases result with
      | ok => exact ⟨_, outcome_of_calls hcall, rfl, hmem⟩
      | timeout =>
          rw [htimeout rfl] at hactive
          cases hactive
      | error => exact absurd rfl hne

theorem Told.step (h : Told as s) (hstep : Step s a s') : Told (as ++ [a]) s' where
  valid := h.valid.step hstep
  triggered guard := by
    rw [triggered_step hstep guard, TriggeredSince, since_concat, h.triggered guard]
    rfl
  woken call guard hreports := by
    have hreports' := hreports
    obtain ⟨value, hvalue, hret, hmem⟩ := hreports'
    rw [Option.mem_def] at hvalue
    cases outcomeStep h.valid hstep call with
    | same hsame =>
        obtain ⟨hincludes, bs, active, cs, rfl, hsince⟩ :=
          h.woken call guard ⟨value, hsame.symm.trans hvalue, hret, hmem⟩
        exact ⟨hincludes.step h.valid hstep, bs, active, cs ++ [a], by simp, hsince⟩
    | refused hnone hvalue' hgivesUp =>
        rw [hvalue'] at hvalue
        cases hvalue
        exact absurd hret hgivesUp.1
    | @woken wait result active ha hnone hcall hall hreturns hvalue' =>
        rw [hvalue'] at hvalue
        cases hvalue
        cases result with
        | timeout => cases hret
        | error => cases hret
        | ok =>
            obtain ⟨hmem, htriggered⟩ := (reports_of_woken hall hreturns hvalue').mp hreports
            subst ha
            exact ⟨State.Includes.step h.valid hstep ⟨wait, hcall, hmem⟩, as, active, [], rfl,
              (h.triggered guard).mp htriggered⟩
  reset call guard hmem := by
    obtain hmem | hmem := List.mem_append.mp hmem
    · exact (h.reset call guard hmem).step h.valid hstep
    · cases List.mem_singleton.mp hmem
      exact (reports_of_reset h.valid hstep).step h.valid hstep
  visited call wait hcall guard hmem := by
    rw [List.mem_append, List.mem_singleton]
    obtain ha | ⟨old, hold, hmem⟩ := visited_step h.valid hstep hcall hmem
    · exact .inr ha.symm
    · exact .inl (h.visited call old hold guard hmem)
  timedOut call value hvalue hret guard hmem := by
    cases outcomeStep h.valid hstep call with
    | same hsame => exact h.timedOut call value (hsame.symm.trans hvalue) hret guard hmem
    | refused hnone hvalue' hgivesUp =>
        rw [hvalue'] at hvalue
        cases hvalue
        exact absurd hret hgivesUp.2
    | @woken wait result active ha hnone hcall hall hreturns hvalue' =>
        rw [hvalue'] at hvalue
        cases hvalue
        cases result with
        | ok => cases hret
        | error => cases hret
        | timeout =>
            rw [show active = [] from hreturns] at hmem
            exact List.not_mem_nil (some_mem_keepActive.mp hmem).2

theorem told_run {maxConditions : Nat} (h : (system Guard Other maxConditions).Run
    (.start maxConditions) as s) : Told as s := by
  refine h.history (told_start maxConditions) ?_
  intro bs t b t' _ htold hstep
  exact htold.step (step_of_next hstep)

/-! ## Triggers and reports -/

/-- In any run on, a call reports what it reported. -/
theorem State.Reports.run {maxConditions : Nat} {bs : List (Action Guard Other)}
    (hrun : (system Guard Other maxConditions).Run s bs s') (hv : s.Valid)
    (h : s.Reports call guard) : s'.Valid ∧ s'.Reports call guard := by
  refine hrun.invariant (I := fun t => t.Valid ∧ t.Reports call guard) ⟨hv, h⟩ ?_
  rintro t b t' _ ⟨hv, h⟩ hstep
  exact ⟨hv.step (step_of_next hstep), h.step hv (step_of_next hstep)⟩

/-- In any run on, a call has the same arguments. -/
theorem includes_run {maxConditions : Nat} {bs : List (Action Guard Other)}
    {wait : WaitCall Guard Other}
    (hrun : (system Guard Other maxConditions).Run s bs s') (hv : s.Valid)
    (hcall : s.calls call = some wait) :
    s'.Includes call guard ↔ some guard ∈ wait.arrays.guardConditions := by
  have hkept : s'.Valid ∧ ∃ wait', s'.calls call = some wait' ∧ wait'.arrays = wait.arrays := by
    refine hrun.invariant
      (I := fun t => t.Valid ∧ ∃ wait', t.calls call = some wait' ∧ wait'.arrays = wait.arrays)
      ⟨hv, wait, hcall, rfl⟩ ?_
    rintro t b t' _ ⟨hv, wait1, hcall1, harrays1⟩ hstep
    obtain ⟨wait2, hcall2, harrays2⟩ := arrays_step hv (step_of_next hstep) hcall1
    exact ⟨hv.step (step_of_next hstep), wait2, hcall2, harrays2.trans harrays1⟩
  obtain ⟨-, wait', hcall', harrays⟩ := hkept
  rw [← harrays]
  constructor
  · rintro ⟨wait2, hcall2, hmem⟩
    rw [Option.mem_def, hcall'] at hcall2
    cases hcall2
    exact hmem
  · exact fun hmem => ⟨wait', hcall', hmem⟩

/-- The triggers of a guard and the waits that report it, in a history that
ends in a state. -/
structure TriggersReported (guard : Guard) (as : List (Action Guard Other))
    (s : State Guard Other) : Prop where
  /-- A completed trigger stays until a call resets the guard that returns
  `RMW_RET_OK` with the guard's entry. -/
  kept : ∀ bs cs, as = bs ++ .trigger guard true :: cs →
    s.triggered guard = true ∨ ∃ call, .reset call guard ∈ cs ∧ s.Reports call guard
  /-- The first zzdds wait after a trigger that has the guard among its arguments
  reports it, unless a call that was past its zzdds wait at the trigger has reset
  and reports it. -/
  first : ∀ bs cs ds call active,
    as = bs ++ .trigger guard true :: cs ++ .wake call .ok active :: ds →
    s.Includes call guard →
    (∀ other active', .wake other .ok active' ∈ cs → ¬ s.Includes other guard) →
    s.Reports call guard ∨ ∃ other active', .wake other .ok active' ∈ bs ∧
      .reset other guard ∈ cs ∧ s.Reports other guard
  /-- A call reports the guard only if its zzdds wait found it triggered since the
  last reset. -/
  triggered : ∀ call, s.Reports call guard → ∃ bs active cs,
    as = bs ++ .wake call .ok active :: cs ∧ TriggeredSince guard bs
  /-- A call that returns with the guard's entry has reset the guard. -/
  reset : ∀ call arrays value, s.calls call = some ⟨arrays, .returned value⟩ →
    value.ret = .ok → some guard ∈ value.arrays.guardConditions → .reset call guard ∈ as
  /-- A call that does not report the guard never resets it. -/
  consumed : ∀ call, ¬ s.Reports call guard → .reset call guard ∉ as
  /-- A call that times out leaves no entry. -/
  timedOut : ∀ call value, s.outcome call = some value → value.ret = .timeout →
    some guard ∉ value.arrays.guardConditions

end

/-- In every run no trigger is lost and none is reported twice. -/
theorem triggers_reported {maxConditions : Nat} {as : List (Action Guard Other)}
    {s : State Guard Other}
    (h : (system Guard Other maxConditions).Run (.start maxConditions) as s) (guard : Guard) :
    TriggersReported guard as s := by
  have htold := told_run h
  constructor
  · rintro bs cs rfl
    by_cases hreset : ∃ call, Action.reset call guard ∈ cs
    · obtain ⟨call, hmem⟩ := hreset
      refine .inr ⟨call, hmem, htold.reset call guard ?_⟩
      exact List.mem_append_right _ (List.mem_cons_of_mem _ hmem)
    · refine .inl ((htold.triggered guard).mpr ⟨bs, _, cs, rfl, rfl, ?_⟩)
      rintro _ hmem ⟨call, rfl⟩
      exact hreset ⟨call, hmem⟩
  · rintro bs cs ds call active rfl hincludes hfirst
    obtain ⟨t, hbefore, hafter⟩ := h.split
    have ht := told_run hbefore
    cases hafter with
    | @cons _ t' _ _ _ hwake hrest =>
    by_cases hreset : ∃ other, Action.reset other guard ∈ cs
    · -- The call that reset the guard has not begun its wait after the trigger.
      obtain ⟨other, hmem⟩ := hreset
      have hreports := ht.reset other guard
        (List.mem_append_right _ (List.mem_cons_of_mem _ hmem))
      obtain ⟨⟨wait, hcall, hguard⟩, bs', active', cs', hbs', -⟩ :=
        ht.woken other guard hreports
      have hwoken : Action.wake other .ok active' ∈ bs ++ .trigger guard true :: cs := by
        rw [hbs']
        exact List.mem_append_right _ (List.mem_cons_self ..)
      refine .inr ⟨other, active', ?_, hmem,
        (hreports.run (.cons hwake hrest) ht.valid).2⟩
      obtain hbs | hcs := List.mem_append.mp hwoken
      · exact hbs
      · obtain hcs | hcs := List.mem_cons.mp hcs
        · cases hcs
        · exact absurd ((includes_run (.cons hwake hrest) ht.valid hcall).mpr hguard)
            (hfirst other active' hcs)
    · -- The guard is still triggered when the wait returns.
      have htriggered : t.triggered guard = true := by
        refine (ht.triggered guard).mpr ⟨bs, _, cs, rfl, rfl, ?_⟩
        rintro _ hmem ⟨other, rfl⟩
        exact hreset ⟨other, hmem⟩
      have hstep : Step t (.wake call .ok active) t' := step_of_next hwake
      refine .inl (State.Reports.run hrest (ht.valid.step hstep) ?_).2
      obtain ⟨wait, hcall, -, hall, hreturns, houtcome⟩ := woken_of_step ht.valid hstep
      refine (reports_of_woken hall hreturns houtcome).mpr ⟨?_, htriggered⟩
      exact (includes_run (.cons hwake hrest) ht.valid hcall).mp hincludes
  · exact fun call hreports => (htold.woken call guard hreports).2
  · intro call arrays value hcall hret hmem
    refine htold.visited call _ hcall guard ?_
    rw [Stage.visited, if_pos hret]
    exact hmem
  · exact fun call hnot hmem => hnot (htold.reset call guard hmem)
  · exact fun call value hvalue hret => htold.timedOut call value hvalue hret guard

/-- A trigger, and the wait that reports and consumes it. -/
def triggerAndWait : List (Action ℕ ℕ) :=
  [.trigger 0 true, .begin ⟨[], [some 0], [], [], []⟩ none true, .attach 0 .attached,
    .wake 0 .ok [.guard 0], .detach 0 true, .detached 0, .reset 0 0, .finish 0]

theorem triggerAndWait_reported :
    ∃ s, (system ℕ ℕ 1).Run (.start 1) triggerAndWait s ∧
      TriggersReported 0 triggerAndWait s := by
  have hrun : (system ℕ ℕ 1).Run (.start 1) triggerAndWait _ := run_of_exec (by rfl)
  exact ⟨_, hrun, triggers_reported hrun 0⟩

end RmwZzdds.Wait
