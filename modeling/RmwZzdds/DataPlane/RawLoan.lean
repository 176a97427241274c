import Mathlib
import RmwZzdds.DataPlane.Locality
import RmwZzdds.Library.Custody

/-!
# Raw sample loans

The take functions again, this time with what they do with the loans of the
reader: where they obtain one, read its memory and give it back.  Every loan may
be returned with a result of its own.  The results and the queues are those of
the functions without loans (`rmwTake_run` and the like).

A sequence without a buffer counts as one of a wrong length.
-/

namespace RmwZzdds.DataPlane.Raw

open Custody Std.Do

set_option mvcgen.warning false

/-- A function that obtains loans and gives them back. -/
abbrev LoanM := StateM (List Event)

/-- Loans are numbered by their place in the log. -/
def obtain : LoanM ℕ := modifyGet fun log => (log.length, log ++ [.obtained log.length])

def emit (event : Event) : LoanM Unit := modify fun log => log ++ [event]

/-- `RawLoan`, with the number of the loan that it holds. -/
structure RawLoan (Handle : Type*) where
  number : Option ℕ
  payloads : List (List UInt8)
  infos : List (SampleInfo Handle)
  data : List UInt8

section

variable {M Handle : Type}

/-- `RawLoan{}`. -/
def RawLoan.empty : RawLoan Handle := ⟨none, [], [], []⟩

/-- An empty take is reported as `DDS_RETCODE_OK` with empty sequences. -/
def emptyTake : RawTake Handle := ⟨.ok, [], []⟩

/-- `DDS_DataReader_take_raw`. -/
def takeRaw (raw : RawTake Handle) (loan : RawLoan Handle) :
    LoanM (ReturnCode × RawLoan Handle) := do
  if raw.result = .ok then
    let number ← obtain
    return (.ok, { loan with number := some number, payloads := raw.payloads, infos := raw.infos })
  else
    return (raw.result, loan)

/-- `loan->data` and the info are read from the buffers of the sequences. -/
def RawLoan.view (loan : RawLoan Handle) (payload : List UInt8) (info : SampleInfo Handle) :
    LoanM (RawLoan Handle × SampleInfo Handle) := do
  emit (.read loan.number)
  return ({ loan with data := payload }, info)

/-- The payload is read. -/
def RawLoan.read (loan : RawLoan Handle) : LoanM (List UInt8) := do
  emit (.read loan.number)
  return loan.data

variable (returned : Option ℕ → ReturnCode)

/-- `return_raw_loan`. -/
def returnRawLoan (loan : RawLoan Handle) : LoanM (ReturnCode × RawLoan Handle) := do
  emit (.returned loan.number)
  return (returned loan.number, .empty)

variable (s : Subscription M Handle)

/-- `take_visible_sample`. -/
def takeVisibleSample (loan : RawLoan Handle) : List (RawTake Handle) →
    LoanM (Except ReturnCode (RawLoan Handle × SampleInfo Handle) × List (RawTake Handle))
  | [] => do
      let (_, loan) ← takeRaw emptyTake loan
      let (result, _) ← returnRawLoan returned loan
      return (.error (if result = .ok then .noData else result), [])
  | raw :: queue => do
      let (result, loan) ← takeRaw raw loan
      if result ≠ .ok then return (.error result, queue)
      match loan.payloads, loan.infos with
      | [], [] =>
          let (result, _) ← returnRawLoan returned loan
          return (.error (if result = .ok then .noData else result), queue)
      | [payload], [info] =>
          let (loan, info) ← loan.view payload info
          if s.skips info then
            let (_, loan) ← returnRawLoan returned loan
            takeVisibleSample loan queue
          else
            return (.ok (loan, info), queue)
      | _, _ =>
          let _ ← returnRawLoan returned loan
          return (.error .error, queue)

/-! ## The calls -/

/-- `rmw_take`. -/
def rmwTake (message : M) (queue : List (RawTake Handle)) :
    LoanM (TakeResult M × List (RawTake Handle)) := do
  match ← takeVisibleSample returned s .empty queue with
  | (.error .noData, queue) => return (⟨.ok, message, false⟩, queue)
  | (.error _, queue) => return (⟨.error, message, false⟩, queue)
  | (.ok (loan, info), queue) =>
      let (decoded, message) ←
        if info.validData then pure (s.decode (← loan.read) message) else pure (false, message)
      let (result, _) ← returnRawLoan returned loan
      if result ≠ .ok then return (⟨.error, message, false⟩, queue)
      if info.validData && !decoded then return (⟨.error, message, false⟩, queue)
      return (⟨.ok, message, info.validData⟩, queue)

/-- `rmw_take_with_info`. -/
def rmwTakeWithInfo (now : Option Int) (message : M) (messageInfo : MessageInfo)
    (queue : List (RawTake Handle)) :
    LoanM ((TakeResult M × MessageInfo) × List (RawTake Handle)) := do
  match ← takeVisibleSample returned s .empty queue with
  | (.error .noData, queue) => return ((⟨.ok, message, false⟩, messageInfo), queue)
  | (.error _, queue) => return ((⟨.error, message, false⟩, messageInfo), queue)
  | (.ok (loan, info), queue) =>
      let (decoded, message) ←
        if info.validData then pure (s.decode (← loan.read) message) else pure (true, message)
      let _ ← returnRawLoan returned loan
      if !decoded then return ((⟨.error, message, false⟩, messageInfo), queue)
      if info.validData then
        let (filled, messageInfo) := fillMessageInfo s now info
        if !filled then return ((⟨.error, message, false⟩, messageInfo), queue)
        return ((⟨.ok, message, true⟩, messageInfo), queue)
      return ((⟨.ok, message, false⟩, messageInfo), queue)

/-- `rmw_take_serialized_message`. -/
def rmwTakeSerializedMessage [Rcutils] (memory : Option (List UInt8)) (m : SerializedMessage)
    (queue : List (RawTake Handle)) :
    LoanM (TakeResult SerializedMessage × List (RawTake Handle)) := do
  match ← takeVisibleSample returned s .empty queue with
  | (.error .noData, queue) => return (⟨.ok, m, false⟩, queue)
  | (.error _, queue) => return (⟨.error, m, false⟩, queue)
  | (.ok (loan, info), queue) =>
      let (resize, m) :=
        if info.validData && m.bufferCapacity < loan.data.length then
          Rcutils.uint8ArrayResize m loan.data.length memory
        else (.ok, m)
      if resize ≠ .ok then
        let _ ← returnRawLoan returned loan
        return (⟨if resize = .badAlloc then .badAlloc else .error, m, false⟩, queue)
      let m ← if info.validData then pure (SerializedMessage.fill (← loan.read) m) else pure m
      let _ ← returnRawLoan returned loan
      return (⟨.ok, m, info.validData⟩, queue)

/-- `rmw_take_serialized_message_with_info`. -/
def rmwTakeSerializedMessageWithInfo [Rcutils] (now : Option Int) (memory : Option (List UInt8))
    (m : SerializedMessage) (messageInfo : MessageInfo) (queue : List (RawTake Handle)) :
    LoanM ((TakeResult SerializedMessage × MessageInfo) × List (RawTake Handle)) := do
  match ← takeVisibleSample returned s .empty queue with
  | (.error .noData, queue) => return ((⟨.ok, m, false⟩, messageInfo), queue)
  | (.error _, queue) => return ((⟨.error, m, false⟩, messageInfo), queue)
  | (.ok (loan, info), queue) =>
      let (resize, m) :=
        if info.validData && m.bufferCapacity < loan.data.length then
          Rcutils.uint8ArrayResize m loan.data.length memory
        else (.ok, m)
      if resize ≠ .ok then
        let _ ← returnRawLoan returned loan
        return ((⟨.badAlloc, m, false⟩, messageInfo), queue)
      if info.validData then
        let m := SerializedMessage.fill (← loan.read) m
        let (filled, messageInfo) := fillMessageInfo s now info
        let _ ← returnRawLoan returned loan
        return ((if filled then ⟨.ok, m, true⟩ else ⟨.error, m, false⟩, messageInfo), queue)
      let _ ← returnRawLoan returned loan
      return ((⟨.ok, m, false⟩, messageInfo), queue)

/-- `take_compatibility_loan`. -/
def takeCompatibilityLoan (now : Option Int) (created : Option M) (recorded : Bool)
    (messageInfo : Option MessageInfo) (queue : List (RawTake Handle)) :
    LoanM ((TakeResult (Option M) × Option MessageInfo) × List (RawTake Handle)) := do
  let some message := created | return ((⟨.badAlloc, none, false⟩, messageInfo), queue)
  match ← takeVisibleSample returned s .empty queue with
  | (.error .noData, queue) => return ((⟨.ok, none, false⟩, messageInfo), queue)
  | (.error _, queue) => return ((⟨.error, none, false⟩, messageInfo), queue)
  | (.ok (loan, info), queue) =>
      let (decoded, message) ←
        if info.validData then pure (s.decode (← loan.read) message) else pure (true, message)
      let (result, _) ← returnRawLoan returned loan
      if result ≠ .ok then return ((⟨.error, none, false⟩, messageInfo), queue)
      if !decoded then return ((⟨.error, none, false⟩, messageInfo), queue)
      if !info.validData then return ((⟨.ok, none, false⟩, messageInfo), queue)
      if !recorded then return ((⟨.badAlloc, none, false⟩, messageInfo), queue)
      if messageInfo.isSome then
        let (filled, messageInfo) := fillMessageInfo s now info
        if !filled then return ((⟨.error, none, false⟩, some messageInfo), queue)
        return ((⟨.ok, some message, true⟩, some messageInfo), queue)
      return ((⟨.ok, some message, true⟩, none), queue)

/-- `rmw_take_loaned_message`. -/
def rmwTakeLoanedMessage (created : Option M) (recorded : Bool) (queue : List (RawTake Handle)) :
    LoanM (TakeResult (Option M) × List (RawTake Handle)) := do
  let ((result, _), queue) ← takeCompatibilityLoan returned s none created recorded none queue
  return (result, queue)

/-- `rmw_take_loaned_message_with_info`. -/
def rmwTakeLoanedMessageWithInfo (now : Option Int) (created : Option M) (recorded : Bool)
    (messageInfo : MessageInfo) (queue : List (RawTake Handle)) :
    LoanM ((TakeResult (Option M) × Option MessageInfo) × List (RawTake Handle)) :=
  takeCompatibilityLoan returned s now created recorded (some messageInfo) queue

end

/-! ## One loan after the other -/

section

variable {M Handle : Type} {loan : RawLoan Handle}

@[spec] theorem obtain_spec :
    ⦃fun log => ⌜Holds log none⌝⦄ obtain ⦃⇓ number => fun log => ⌜Holds log (some number)⌝⦄ := by
  mvcgen [obtain]
  next h _ => exact h.obtain

/-- The loan is held, if there is a number. -/
def RawLoan.Holding (loan : RawLoan Handle) (log : List Event) : Prop :=
  loan.number.isSome ∧ Holds log loan.number

theorem RawLoan.Holding.read {loan : RawLoan Handle} {log : List Event} (h : loan.Holding log) :
    loan.Holding (log ++ [.read loan.number]) := by
  obtain ⟨number, hnumber⟩ := Option.isSome_iff_exists.mp h.1
  have hholds := h.2
  refine ⟨h.1, ?_⟩
  rw [hnumber] at hholds ⊢
  exact Holds.read hholds

theorem RawLoan.Holding.giveBack {loan : RawLoan Handle} {log : List Event}
    (h : loan.Holding log) : Holds (log ++ [.returned loan.number]) none := by
  obtain ⟨number, hnumber⟩ := Option.isSome_iff_exists.mp h.1
  have hholds := h.2
  rw [hnumber] at hholds ⊢
  exact Holds.giveBack hholds

theorem emit_read_spec (loan : RawLoan Handle) :
    ⦃fun log => ⌜loan.Holding log⌝⦄ emit (.read loan.number)
    ⦃⇓ _ => fun log => ⌜loan.Holding log⌝⦄ := by
  mvcgen [emit]
  next h _ => exact h.read

@[spec] theorem returnRawLoan_spec (returned : Option ℕ → ReturnCode) (loan : RawLoan Handle) :
    ⦃fun log => ⌜loan.Holding log⌝⦄ returnRawLoan returned loan
    ⦃⇓ _ => fun log => ⌜Holds log none⌝⦄ := by
  mvcgen [returnRawLoan, emit]
  next h _ => exact h.giveBack

@[spec] theorem takeRaw_spec (raw : RawTake Handle) (loan : RawLoan Handle) :
    ⦃fun log => ⌜Holds log none⌝⦄ takeRaw raw loan
    ⦃⇓ r => fun log => ⌜r.1 = raw.result ∧ (r.1 = .ok → r.2.Holding log) ∧
      (r.1 ≠ .ok → Holds log none)⌝⦄ := by
  mvcgen [takeRaw]
  next hresult _ _ _ _ h => exact ⟨hresult.symm, ⟨rfl, h⟩, nofun⟩
  next hresult _ h => exact ⟨trivial, fun heq => absurd heq hresult, fun _ => h⟩

@[spec] theorem read_spec (loan : RawLoan Handle) :
    ⦃fun log => ⌜loan.Holding log⌝⦄ loan.read ⦃⇓ _ => fun log => ⌜loan.Holding log⌝⦄ := by
  mvcgen [RawLoan.read, emit_read_spec]

@[spec] theorem view_spec (loan : RawLoan Handle) (payload : List UInt8) (info : SampleInfo Handle) :
    ⦃fun log => ⌜loan.Holding log⌝⦄ loan.view payload info
    ⦃⇓ r => fun log => ⌜r.1.Holding log ∧ r.2 = info⌝⦄ := by
  mvcgen [RawLoan.view, emit_read_spec]

variable {M : Type} (returned : Option ℕ → ReturnCode) (s : Subscription M Handle)

@[spec] theorem takeVisibleSample_spec (loan : RawLoan Handle) (queue : List (RawTake Handle)) :
    ⦃fun log => ⌜Holds log none⌝⦄ takeVisibleSample returned s loan queue
    ⦃⇓ r => fun log => ⌜match r.1 with
      | .error _ => Holds log none
      | .ok (loan, _) => loan.Holding log⌝⦄ := by
  induction queue generalizing loan with
  | nil =>
      mvcgen [takeVisibleSample]
      next h => exact h.2.1 h.1
  | cons raw queue ih =>
      mvcgen [takeVisibleSample, ih]
      next hresult _ h => exact h.2.2 hresult
      next hresult _ _ _ h => exact h.2.1 (not_not.mp hresult)
      next hresult _ _ _ _ _ h => exact h.2.1 (not_not.mp hresult)
      next h => exact h.1
      next h => exact h.1
      next hresult _ _ _ _ _ _ _ h => exact h.2.1 (not_not.mp hresult)

theorem rmwTake_spec (message : M) (queue : List (RawTake Handle)) :
    ⦃fun log => ⌜Holds log none⌝⦄ rmwTake returned s message queue
    ⦃⇓ _ => fun log => ⌜Holds log none⌝⦄ := by
  mvcgen [rmwTake]

theorem rmwTakeWithInfo_spec (now : Option Int) (message : M) (messageInfo : MessageInfo)
    (queue : List (RawTake Handle)) :
    ⦃fun log => ⌜Holds log none⌝⦄ rmwTakeWithInfo returned s now message messageInfo queue
    ⦃⇓ _ => fun log => ⌜Holds log none⌝⦄ := by
  mvcgen [rmwTakeWithInfo]

theorem rmwTakeSerializedMessage_spec [Rcutils] (memory : Option (List UInt8))
    (m : SerializedMessage) (queue : List (RawTake Handle)) :
    ⦃fun log => ⌜Holds log none⌝⦄ rmwTakeSerializedMessage returned s memory m queue
    ⦃⇓ _ => fun log => ⌜Holds log none⌝⦄ := by
  mvcgen [rmwTakeSerializedMessage]

theorem rmwTakeSerializedMessageWithInfo_spec [Rcutils] (now : Option Int)
    (memory : Option (List UInt8)) (m : SerializedMessage) (messageInfo : MessageInfo)
    (queue : List (RawTake Handle)) :
    ⦃fun log => ⌜Holds log none⌝⦄
      rmwTakeSerializedMessageWithInfo returned s now memory m messageInfo queue
    ⦃⇓ _ => fun log => ⌜Holds log none⌝⦄ := by
  mvcgen [rmwTakeSerializedMessageWithInfo]

@[spec] theorem takeCompatibilityLoan_spec (now : Option Int) (created : Option M) (recorded : Bool)
    (messageInfo : Option MessageInfo) (queue : List (RawTake Handle)) :
    ⦃fun log => ⌜Holds log none⌝⦄
      takeCompatibilityLoan returned s now created recorded messageInfo queue
    ⦃⇓ _ => fun log => ⌜Holds log none⌝⦄ := by
  mvcgen [takeCompatibilityLoan]

/-! ## All calls -/

/-- The taken flag and the queue after the call.  The result of returning a loan is taken
from `returned` and not from the call. -/
def perform [Rcutils] (queue : List (RawTake Handle)) :
    Call M → LoanM (Bool × List (RawTake Handle))
  | .take _ message => do
      let (result, queue) ← rmwTake returned s message queue
      return (result.taken, queue)
  | .takeWithInfo _ now message messageInfo => do
      let ((result, _), queue) ← rmwTakeWithInfo returned s now message messageInfo queue
      return (result.taken, queue)
  | .takeSerializedMessage _ memory m => do
      let (result, queue) ← rmwTakeSerializedMessage returned s memory m queue
      return (result.taken, queue)
  | .takeSerializedMessageWithInfo _ now memory m messageInfo => do
      let ((result, _), queue) ←
        rmwTakeSerializedMessageWithInfo returned s now memory m messageInfo queue
      return (result.taken, queue)
  | .takeLoanedMessage _ created recorded => do
      let (result, queue) ← rmwTakeLoanedMessage returned s created recorded queue
      return (result.taken, queue)
  | .takeLoanedMessageWithInfo _ now created recorded messageInfo => do
      let ((result, _), queue) ←
        rmwTakeLoanedMessageWithInfo returned s now created recorded messageInfo queue
      return (result.taken, queue)

/-- Whatever a call does, it has returned its loans in the end. -/
theorem perform_spec [Rcutils] (queue : List (RawTake Handle)) (call : Call M) :
    ⦃fun log => ⌜Holds log none⌝⦄ perform returned s queue call
    ⦃⇓ _ => fun log => ⌜Holds log none⌝⦄ := by
  cases call with
  | take => mvcgen [perform, rmwTake_spec]
  | takeWithInfo => mvcgen [perform, rmwTakeWithInfo_spec]
  | takeSerializedMessage => mvcgen [perform, rmwTakeSerializedMessage_spec]
  | takeSerializedMessageWithInfo => mvcgen [perform, rmwTakeSerializedMessageWithInfo_spec]
  | takeLoanedMessage => mvcgen [perform, rmwTakeLoanedMessage]
  | takeLoanedMessageWithInfo => mvcgen [perform, rmwTakeLoanedMessageWithInfo]

/-- Every loan that a call obtains is returned once, and none is used before or behind. -/
theorem loans_balanced [Rcutils] (queue : List (RawTake Handle)) (call : Call M) :
    Balanced ((perform returned s queue call).run []).2 :=
  (perform_spec returned s queue call [] .nil).balanced

/-! ## The results -/

omit s in
@[simp] theorem run_returnRawLoan (loan : RawLoan Handle) (log : List Event) :
    (returnRawLoan returned loan).run log =
      pure ((returned loan.number, .empty), log ++ [.returned loan.number]) := rfl

@[simp] theorem run_read (loan : RawLoan Handle) (log : List Event) :
    loan.read.run log = pure (loan.data, log ++ [.read loan.number]) := rfl

@[simp] theorem run_view (loan : RawLoan Handle) (payload : List UInt8) (info : SampleInfo Handle)
    (log : List Event) : (loan.view payload info).run log =
      pure (({ loan with data := payload }, info), log ++ [.read loan.number]) := rfl

@[simp] theorem run_takeRaw_ok (payloads : List (List UInt8)) (infos : List (SampleInfo Handle))
    (loan : RawLoan Handle) (log : List Event) :
    (takeRaw ⟨.ok, payloads, infos⟩ loan).run log =
      pure ((.ok, { loan with number := some log.length, payloads, infos }),
        log ++ [.obtained log.length]) := rfl

theorem run_takeRaw_of_ne {raw : RawTake Handle} (h : raw.result ≠ .ok) (loan : RawLoan Handle)
    (log : List Event) : (takeRaw raw loan).run log = pure ((raw.result, loan), log) := by
  rw [takeRaw, if_neg h]
  rfl

/-- What is seen with the loan, and the result of returning that. -/
def Sees (queue : List (RawTake Handle)) (number : Option ℕ) :
    Except ReturnCode (RawLoan Handle × SampleInfo Handle) × List (RawTake Handle) → Prop
  | (.error result, after) =>
      s.takeVisibleSample (returned number) queue = (.error result, after)
  | (.ok (loan, info), after) => loan.number = number ∧
      s.takeVisibleSample (returned number) queue = (.ok (loan.data, info), after)

theorem takeVisibleSample_sees (loan : RawLoan Handle) (queue : List (RawTake Handle))
    (log : List Event) : ∃ number, Sees returned s queue number
      ((takeVisibleSample returned s loan queue).run log).run.1 := by
  induction queue generalizing loan log with
  | nil =>
      refine ⟨some log.length, ?_⟩
      simp [takeVisibleSample, emptyTake, Sees, Subscription.takeVisibleSample]
  | cons raw queue ih =>
      obtain ⟨result, payloads, infos⟩ := raw
      by_cases hresult : result = .ok
      · subst hresult
        by_cases hone : ∃ payload info, payloads = [payload] ∧ infos = [info]
        · obtain ⟨payload, info, rfl, rfl⟩ := hone
          by_cases hskips : s.skips info = true
          · obtain ⟨number, hsees⟩ := ih .empty
              (log ++ [.obtained log.length, .read log.length, .returned log.length])
            refine ⟨number, ?_⟩
            simpa [takeVisibleSample, hskips, Sees, Subscription.takeVisibleSample,
              Subscription.passes] using hsees
          · refine ⟨some log.length, ?_⟩
            simp [takeVisibleSample, hskips, Sees, Subscription.takeVisibleSample,
              Subscription.passes, RawTake.visible]
        · -- sequences of other lengths
          refine ⟨some log.length, ?_⟩
          rcases payloads with _ | ⟨payload, _ | ⟨payload', payloads⟩⟩ <;>
            rcases infos with _ | ⟨info, _ | ⟨info', infos⟩⟩ <;>
            simp_all [takeVisibleSample, Sees, Subscription.takeVisibleSample,
              Subscription.passes, RawTake.visible]
      · have hpasses : s.passes ⟨result, payloads, infos⟩ = false := by
          unfold Subscription.passes
          split <;> simp [hresult]
        refine ⟨none, ?_⟩
        simp [takeVisibleSample, run_takeRaw_of_ne, hresult, hpasses, Sees,
          Subscription.takeVisibleSample, RawTake.visible]

/-- What follows the loop has the results of its counterpart without loans, with the result
of returning the loan that is left. -/
theorem run_visible {α : Type} {f : _ → LoanM α}
    {g : ReturnCode → Visible Handle × List (RawTake Handle) → α}
    (herror : ∀ code result after log,
      ((f (.error result, after)).run log).run.1 = g code (.error result, after))
    (hok : ∀ loan info after log, ((f (.ok (loan, info), after)).run log).run.1 =
      g (returned loan.number) (.ok (loan.data, info), after))
    (queue : List (RawTake Handle)) (log : List Event) :
    ∃ number, (((takeVisibleSample returned s .empty queue >>= f).run log).run.1 =
      g (returned number) (s.takeVisibleSample (returned number) queue)) := by
  obtain ⟨number, hsees⟩ := takeVisibleSample_sees returned s .empty queue log
  refine ⟨number, ?_⟩
  rw [StateT.run_bind, Id.run_bind]
  generalize (StateT.run (takeVisibleSample returned s .empty queue) log).run = run at hsees ⊢
  match run with
  | ((.error result, after), log) =>
      rw [Sees] at hsees
      rw [hsees]
      exact herror _ result after log
  | ((.ok (loan, info), after), log) =>
      obtain ⟨rfl, hsees⟩ := hsees
      rw [hsees]
      exact hok loan info after log

/-- The result of `rmw_take`, with that of returning one of the loans. -/
theorem rmwTake_run (message : M) (queue : List (RawTake Handle)) (log : List Event) :
    ∃ number, ((rmwTake returned s message queue).run log).run.1 =
      DataPlane.rmwTake s (returned number) message queue := by
  refine run_visible returned s (g := fun code x => (takeSample s code message x.1, x.2)) ?_ ?_
    queue log
  · intro code result after log
    cases result <;> rfl
  · intro loan info after log
    by_cases hreturned : returned loan.number = .ok <;> cases hvalid : info.validData <;>
      cases hdecoded : (s.decode loan.data message).1 <;>
      simp [takeSample, hreturned, hvalid, hdecoded]

theorem rmwTakeWithInfo_run (now : Option Int) (message : M) (messageInfo : MessageInfo)
    (queue : List (RawTake Handle)) (log : List Event) :
    ∃ number, ((rmwTakeWithInfo returned s now message messageInfo queue).run log).run.1 =
      DataPlane.rmwTakeWithInfo s (returned number) now message messageInfo queue := by
  refine run_visible returned s
    (g := fun _ x => (takeSampleWithInfo s now message messageInfo x.1, x.2)) ?_ ?_ queue log
  · intro code result after log
    cases result <;> rfl
  · intro loan info after log
    cases hvalid : info.validData <;> cases hdecoded : (s.decode loan.data message).1 <;>
      cases hfilled : (fillMessageInfo s now info).1 <;>
      simp [takeSampleWithInfo, hvalid, hdecoded, hfilled]

theorem rmwTakeSerializedMessage_run [Rcutils] (memory : Option (List UInt8))
    (m : SerializedMessage) (queue : List (RawTake Handle)) (log : List Event) :
    ∃ number, ((rmwTakeSerializedMessage returned s memory m queue).run log).run.1 =
      DataPlane.rmwTakeSerializedMessage s (returned number) memory m queue := by
  refine run_visible returned s (g := fun _ x => (takeSampleSerialized memory m x.1, x.2)) ?_ ?_
    queue log
  · intro code result after log
    cases result <;> rfl
  · intro loan info after log
    cases hvalid : info.validData
    · simp [takeSampleSerialized, hvalid]
    · by_cases hcapacity : m.bufferCapacity < loan.data.length
      · cases hresize : Rcutils.uint8ArrayResize m loan.data.length memory with
        | mk resize m' =>
          cases resize <;> simp [takeSampleSerialized, hvalid, hcapacity, hresize]
      · simp [takeSampleSerialized, hvalid, hcapacity]

theorem rmwTakeSerializedMessageWithInfo_run [Rcutils] (now : Option Int)
    (memory : Option (List UInt8)) (m : SerializedMessage) (messageInfo : MessageInfo)
    (queue : List (RawTake Handle)) (log : List Event) :
    ∃ number,
      ((rmwTakeSerializedMessageWithInfo returned s now memory m messageInfo queue).run log).run.1 =
        DataPlane.rmwTakeSerializedMessageWithInfo s (returned number) now memory m messageInfo
          queue := by
  refine run_visible returned s
    (g := fun _ x => (takeSampleSerializedWithInfo s now memory m messageInfo x.1, x.2)) ?_ ?_
    queue log
  · intro code result after log
    cases result <;> rfl
  · intro loan info after log
    cases hvalid : info.validData
    · simp [takeSampleSerializedWithInfo, hvalid]
    · by_cases hcapacity : m.bufferCapacity < loan.data.length
      · cases hresize : Rcutils.uint8ArrayResize m loan.data.length memory with
        | mk resize m' =>
          cases resize <;> simp [takeSampleSerializedWithInfo, fillSerializedWithInfo, hvalid,
            hcapacity, hresize]
      · simp [takeSampleSerializedWithInfo, fillSerializedWithInfo, hvalid, hcapacity]

theorem takeCompatibilityLoan_run (now : Option Int) (created : Option M) (recorded : Bool)
    (messageInfo : Option MessageInfo) (queue : List (RawTake Handle)) (log : List Event) :
    ∃ number,
      ((takeCompatibilityLoan returned s now created recorded messageInfo queue).run log).run.1 =
        DataPlane.takeCompatibilityLoan s (returned number) now created recorded messageInfo
          queue := by
  cases created with
  | none => exact ⟨none, rfl⟩
  | some message =>
      refine run_visible returned s
        (g := fun code x => (takeSampleLoaned s code now recorded message messageInfo x.1, x.2))
        ?_ ?_ queue log
      · intro code result after log
        cases result <;> rfl
      · intro loan info after log
        by_cases hreturned : returned loan.number = .ok
        · cases hvalid : info.validData with
          | false =>
            simp [takeSampleLoaned, hreturned, hvalid]
          | true =>
            cases hdecoded : (s.decode loan.data message).1 with
            | false => simp [takeSampleLoaned, hreturned, hvalid, hdecoded]
            | true =>
              cases recorded with
              | false => simp [takeSampleLoaned, hreturned, hvalid, hdecoded]
              | true =>
                cases messageInfo with
                | none => simp [takeSampleLoaned, hreturned, hvalid, hdecoded]
                | some =>
                  cases hfilled : (fillMessageInfo s now info).1 <;>
                    simp [takeSampleLoaned, hreturned, hvalid, hdecoded, hfilled]
        · cases hvalid : info.validData <;> simp [takeSampleLoaned, hreturned, hvalid]

end

end RmwZzdds.DataPlane.Raw
