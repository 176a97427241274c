import RmwZzdds.Wait.Trigger

/-!
# A wait gets done

Each step of a call of `rmw_wait` brings it nearer to its end
(`remaining_step`), and only at the zzdds wait does it depend on others: at any
other stage it can go on (`exists_next`).
-/

namespace RmwZzdds.Wait

variable {Guard Other : Type*}

/-- The call whose step it is. -/
def Action.call : Action Guard Other → Option Nat
  | .trigger _ _ | .begin _ _ _ => none
  | .attach call _ | .wake call _ _ | .detach call _ | .detached call | .reset call _
  | .nullify call | .finish call => some call

/-- Neither zzdds nor the allocation fails. -/
def Action.succeeds : Action Guard Other → Bool
  | .trigger _ ok | .detach _ ok => ok
  | .begin _ _ reserved => reserved
  | .attach _ o => o = .attached
  | .wake _ result _ => result = .ok
  | .detached _ | .reset _ _ | .nullify _ | .finish _ => true

/-- An upper bound of the steps that a call has left. -/
def Stage.remaining (arrays : Arrays Guard Other) : Stage Guard Other → Nat
  | .attaching attached rest =>
      attached.length + 2 * rest.length + arrays.guardConditions.length + 3
  | .detaching attached _ => attached.length + arrays.guardConditions.length + 2
  | .visiting _ _ _ rest => rest.length + 1
  | .returned _ => 0

/-- The steps that a call has left. -/
def WaitCall.remaining (wait : WaitCall Guard Other) : Nat := wait.stage.remaining wait.arrays

/-- No entry that the call still goes through is null. -/
def Stage.Filled : Stage Guard Other → Prop
  | .visiting _ _ _ rest => none ∉ rest
  | .attaching _ _ | .detaching _ _ | .returned _ => True

/-- The zzdds wait has not returned yet. -/
def Stage.beforeWake : Stage Guard Other → Bool
  | .attaching _ _ => true
  | .detaching _ _ | .visiting _ _ _ _ | .returned _ => false

/-- The call is in the zzdds wait. -/
def Stage.asleep : Stage Guard Other → Bool
  | .attaching _ [] => true
  | .attaching _ (_ :: _) | .detaching _ _ | .visiting _ _ _ _ | .returned _ => false

@[simp] theorem State.triggered_setTriggerValue [DecidableEq Guard] (s : State Guard Other)
    (guard : Guard) (value : Bool) : (s.setTriggerValue guard value).triggered guard = value :=
  Function.update_self ..

@[simp] theorem State.calls_withCall (s : State Guard Other) (call : Nat)
    (wait : WaitCall Guard Other) : (s.withCall call wait).calls call = some wait :=
  Function.update_self ..

variable [DecidableEq Guard] [DecidableEq Other] {s s' : State Guard Other}
  {a : Action Guard Other} {call : Nat} {wait : WaitCall Guard Other}

theorem maxConditions_step (hstep : Step s a s') : s'.maxConditions = s.maxConditions := by
  cases hstep <;> rfl

/-- What a step of a call does to it. -/
structure MovesOn (s s' : State Guard Other) (wait wait' : WaitCall Guard Other) : Prop where
  arrays : wait'.arrays = wait.arrays
  remaining : wait'.remaining < wait.remaining
  filled : none ∉ wait.arrays.guardConditions → wait.stage.Filled → wait'.stage.Filled
  current : s'.current = none ∨
    s'.current = s.current ∧ ∀ value, wait'.stage ≠ .returned value
  beforeWake : wait'.stage.beforeWake = true →
    wait.stage.beforeWake = true ∧ s'.triggered = s.triggered

/-- A step of a call brings it nearer to its end. -/
theorem remaining_step (hstep : Step s a s') (hcall : a.call = some call)
    (hwait : s.calls call = some wait) :
    ∃ wait', s'.calls call = some wait' ∧ MovesOn s s' wait wait' := by
  have hmoved {c : Nat} {wait' wait'' : WaitCall Guard Other}
      (hc : some c = some call) (hold : s.calls c = some wait')
      (hcalls : s'.calls = Function.update s.calls c (some wait''))
      (hmoves : MovesOn s s' wait' wait'') :
      ∃ wait', s'.calls call = some wait' ∧ MovesOn s s' wait wait' := by
    cases hc
    rw [hwait] at hold
    cases hold
    exact ⟨wait'', by rw [hcalls, Function.update_self], hmoves⟩
  cases hstep with
  | trigger guard => cases hcall
  | triggerFailed guard => cases hcall
  | refused => cases hcall
  | begun => cases hcall
  | attached hold hret =>
      refine hmoved hcall hold rfl
        ⟨rfl, ?_, fun _ _ => trivial, .inr ⟨rfl, nofun⟩, fun _ => ⟨rfl, rfl⟩⟩
      simp only [WaitCall.remaining, Stage.remaining, List.length_append, List.length_cons,
        List.length_nil]
      omega
  | attachFailed hold hret =>
      refine hmoved hcall hold rfl ⟨rfl, ?_, fun _ _ => trivial, .inr ⟨rfl, nofun⟩, nofun⟩
      simp only [WaitCall.remaining, Stage.remaining, List.length_cons]
      omega
  | woken hold hreturns =>
      refine hmoved hcall hold rfl ⟨rfl, ?_, fun _ _ => trivial, .inr ⟨rfl, nofun⟩, nofun⟩
      simp only [WaitCall.remaining, Stage.remaining, List.length_nil]
      omega
  | detach hold =>
      refine hmoved hcall hold rfl ⟨rfl, ?_, fun _ _ => trivial, .inr ⟨rfl, nofun⟩, nofun⟩
      simp only [WaitCall.remaining, Stage.remaining, List.length_cons]
      omega
  | gaveUp hold =>
      exact hmoved hcall hold rfl ⟨rfl, Nat.succ_pos _, fun _ _ => trivial, .inl rfl, nofun⟩
  | failed hold =>
      exact hmoved hcall hold rfl ⟨rfl, Nat.succ_pos _, fun _ _ => trivial, .inl rfl, nofun⟩
  | visit hold hne =>
      refine hmoved hcall hold rfl ⟨rfl, ?_, fun hentries _ => hentries, .inr ⟨rfl, nofun⟩, nofun⟩
      simp only [WaitCall.remaining, Stage.remaining, List.length_nil]
      omega
  | reset hold hactive =>
      refine hmoved hcall hold rfl ⟨rfl, Nat.lt_succ_self _, ?_, .inr ⟨rfl, nofun⟩, nofun⟩
      exact fun _ hfilled hmem => hfilled (List.mem_cons_of_mem _ hmem)
  | nullify hold hactive =>
      refine hmoved hcall hold rfl ⟨rfl, Nat.lt_succ_self _, ?_, .inr ⟨rfl, nofun⟩, nofun⟩
      exact fun _ hfilled hmem => hfilled (List.mem_cons_of_mem _ hmem)
  | finish hold =>
      exact hmoved hcall hold rfl ⟨rfl, Nat.succ_pos _, fun _ _ => trivial, .inl rfl, nofun⟩

/-- A call goes on by itself until it waits in zzdds or returns. -/
theorem exists_next (hwait : s.calls call = some wait) (hfilled : wait.stage.Filled)
    (hawake : wait.stage.asleep = false) (hprogress : ∀ value, wait.stage ≠ .returned value) :
    ∃ a : Action Guard Other, a.call = some call ∧ a.succeeds = true ∧
      (∀ result active, a ≠ .wake call result active) ∧ (s.next a).isSome = true := by
  obtain ⟨arrays, stage⟩ := wait
  cases stage with
  | attaching attached rest =>
      cases rest with
      | nil => cases hawake
      | cons attachment rest =>
          refine ⟨.attach call .attached, rfl, rfl, by simp, ?_⟩
          simp [State.next, hwait, Attachment.refusal]
  | detaching attached woken =>
      cases attached with
      | cons condition attached =>
          exact ⟨.detach call true, rfl, rfl, by simp, by simp [State.next, hwait]⟩
      | nil =>
          refine ⟨.detached call, rfl, rfl, by simp, ?_⟩
          obtain ret | ⟨result, active⟩ := woken
          · simp [State.next, hwait]
          · cases result <;> simp [State.next, hwait]
  | visiting result active visited rest =>
      cases rest with
      | nil => exact ⟨.finish call, rfl, rfl, by simp, by simp [State.next, hwait]⟩
      | cons entry rest =>
          cases entry with
          | none => exact absurd (List.mem_cons_self ..) hfilled
          | some guard =>
              by_cases hactive : contains active (.guard guard) = true
              · exact ⟨.reset call guard, rfl, rfl, by simp, by simp [State.next, hwait, hactive]⟩
              · exact ⟨.nullify call, rfl, rfl, by simp, by simp [State.next, hwait, hactive]⟩
  | returned value => exact absurd rfl (hprogress value)

end RmwZzdds.Wait
