import Mathlib.Data.List.TakeWhile
import RmwZzdds.DataPlane.Take
import RmwZzdds.Library.Transition

/-!
# Local publications

A subscription that ignores local publications tells them apart when it takes
them: the handle of the sample has to resolve to a GUID, and the GUID has to be
that of a publisher of the context.  The runs here have the calls that change
this, and a transport that delivers, drops and reorders samples and matches
writers as it likes.

Nothing from another context is ever skipped.  A sample of the context's own is
returned if it comes to the front of the queue after its publisher was
destroyed, or while the reader does not resolve its handle.
-/

namespace RmwZzdds.DataPlane

open Service (Guid)
open Transition

/-! ## Calls -/

/-- The calls that take one sample, with what happens during them. -/
inductive Call (M : Type*) where
  | take (returned : ReturnCode) (message : M)
  | takeWithInfo (returned : ReturnCode) (now : Option Int) (message : M)
      (messageInfo : MessageInfo)
  | takeSerializedMessage (returned : ReturnCode) (memory : Option (List UInt8))
      (m : SerializedMessage)
  | takeSerializedMessageWithInfo (returned : ReturnCode) (now : Option Int)
      (memory : Option (List UInt8)) (m : SerializedMessage) (messageInfo : MessageInfo)
  | takeLoanedMessage (returned : ReturnCode) (created : Option M) (recorded : Bool)
  | takeLoanedMessageWithInfo (returned : ReturnCode) (now : Option Int) (created : Option M)
      (recorded : Bool) (messageInfo : MessageInfo)

namespace Call

variable {M Handle : Type*} (s : Subscription M Handle)

/-- The taken flag and the queue after the call. -/
def run [Rcutils] (queue : List (RawTake Handle)) : Call M → Bool × List (RawTake Handle)
  | take returned message =>
      let (result, queue) := rmwTake s returned message queue
      (result.taken, queue)
  | takeWithInfo returned now message messageInfo =>
      let (result, queue) := rmwTakeWithInfo s returned now message messageInfo queue
      (result.1.taken, queue)
  | takeSerializedMessage returned memory m =>
      let (result, queue) := rmwTakeSerializedMessage s returned memory m queue
      (result.taken, queue)
  | takeSerializedMessageWithInfo returned now memory m messageInfo =>
      let (result, queue) :=
        rmwTakeSerializedMessageWithInfo s returned now memory m messageInfo queue
      (result.1.taken, queue)
  | takeLoanedMessage returned created recorded =>
      let (result, queue) := rmwTakeLoanedMessage s returned created recorded queue
      (result.taken, queue)
  | takeLoanedMessageWithInfo returned now created recorded messageInfo =>
      let (result, queue) :=
        rmwTakeLoanedMessageWithInfo s returned now created recorded messageInfo queue
      (result.1.taken, queue)

/-- The result of returning the loan. -/
def returned : Call M → ReturnCode
  | take returned _ | takeWithInfo returned _ _ _ | takeSerializedMessage returned _ _
  | takeSerializedMessageWithInfo returned _ _ _ _ | takeLoanedMessage returned _ _
  | takeLoanedMessageWithInfo returned _ _ _ _ => returned

/-- The call takes from the reader. -/
def reads : Call M → Bool
  | takeLoanedMessage _ created _ | takeLoanedMessageWithInfo _ _ created _ _ => created.isSome
  | _ => true

/-- The sample that the call returns. -/
def returns [Rcutils] (queue : List (RawTake Handle)) (call : Call M) : List (SampleInfo Handle) :=
  match (call.run s queue).1, (s.takeVisibleSample call.returned queue).1 with
  | true, .ok (_, info) => [info]
  | _, _ => []

/-- The samples that the call skips. -/
def skips (queue : List (RawTake Handle)) (call : Call M) : List (SampleInfo Handle) :=
  if call.reads then (queue.takeWhile s.passes).flatMap RawTake.infos else []

end Call

/-! ## Runs -/

/-- The publishers and one subscription of a context. -/
structure World (Handle : Type*) where
  localPublicationGuids : Finset Guid
  /-- What the subscription's reader resolves. -/
  publicationGuid : Handle → Option Guid
  queue : List (RawTake Handle)
  /-- All publishers of the context so far. -/
  created : Finset Guid
  /-- The handles and payloads of all samples written so far. -/
  written : List (Handle × List UInt8)
  /-- The samples that the subscription has returned. -/
  returned : List (SampleInfo Handle)
  /-- The samples that it has skipped. -/
  skipped : List (SampleInfo Handle)

/-- The steps of a run. -/
inductive Action (M Handle : Type*) where
  | createPublisher (guid : Guid)
  | destroyPublisher (guid : Guid)
  | publish (handle : Handle) (payload : List UInt8)
  | transport (queue : List (RawTake Handle)) (publicationGuid : Handle → Option Guid)
  | take (call : Call M)

/-- The surroundings of the context: the writers that the publication handles stand
for, and the writers of other contexts. -/
structure Surroundings (Handle : Type*) where
  writer : Handle → Guid
  remote : Set Guid

section

variable {M Handle : Type*} (impl : SubscriptionImpl M) (readerInit : List UInt8 → Bool)
  (e : Surroundings Handle)

/-- The subscription as the take functions see it. -/
def World.subscription (w : World Handle) : Subscription M Handle where
  toSubscriptionImpl := impl
  localPublicationGuids := w.localPublicationGuids
  publicationGuid := w.publicationGuid
  readerInit := readerInit

/-- The sample was written by a publisher of the context. -/
def World.Local (w : World Handle) (info : SampleInfo Handle) : Prop :=
  e.writer info.publicationHandle ∈ w.created

/-- The sample was written by a publisher of another context. -/
def Surroundings.Remote (info : SampleInfo Handle) : Prop :=
  e.writer info.publicationHandle ∈ e.remote

/-- What may come into the queue: a sample that was written, or one without data
about a writer. -/
def World.Arrives (w : World Handle) (raw : RawTake Handle) : Prop :=
  ∀ info ∈ raw.infos,
    (w.Local e info ∨ e.Remote info) ∧
      (info.validData = true →
        ∃ payload, raw.payloads = [payload] ∧ (info.publicationHandle, payload) ∈ w.written)

/-- A writer is local as long as its publisher is there, and GUIDs are unique. -/
inductive Step [Rcutils] (w : World Handle) : Action M Handle → World Handle → Prop where
  | createPublisher {guid : Guid} : guid ∉ w.created → guid ∉ e.remote →
      Step w (.createPublisher guid)
        { w with
          localPublicationGuids := insert guid w.localPublicationGuids
          created := insert guid w.created }
  | destroyPublisher {guid : Guid} : guid ∈ w.localPublicationGuids →
      Step w (.destroyPublisher guid)
        { w with localPublicationGuids := w.localPublicationGuids.erase guid }
  | publish {handle : Handle} {payload : List UInt8} :
      e.writer handle ∈ w.localPublicationGuids ∨ e.writer handle ∈ e.remote →
      Step w (.publish handle payload) { w with written := (handle, payload) :: w.written }
  | transport {queue : List (RawTake Handle)} {publicationGuid : Handle → Option Guid} :
      (∀ raw ∈ queue, raw ∈ w.queue ∨ w.Arrives e raw) →
      (∀ handle guid, publicationGuid handle = some guid → guid = e.writer handle) →
      Step w (.transport queue publicationGuid)
        { w with
          queue := queue
          publicationGuid := publicationGuid }
  | take (call : Call M) :
      Step w (.take call)
        { w with
          queue := (call.run (w.subscription impl readerInit) w.queue).2
          returned := w.returned ++ call.returns (w.subscription impl readerInit) w.queue
          skipped := w.skipped ++ call.skips (w.subscription impl readerInit) w.queue }

/-- A context without publishers, and a subscription with nothing in its reader. -/
def World.start : World Handle where
  localPublicationGuids := ∅
  publicationGuid _ := none
  queue := []
  created := ∅
  written := []
  returned := []
  skipped := []

def system [Rcutils] : System (World Handle) (Action M Handle) where
  init w := w = .start
  step := Step impl readerInit e

end

/-! ## What a call returns and skips -/

section

variable {M Handle : Type*} {s : Subscription M Handle} {queue : List (RawTake Handle)}
  {returned : ReturnCode} {payload : List UInt8} {info : SampleInfo Handle}

theorem visible_eq_ok {raw : RawTake Handle} :
    raw.visible returned = .ok (payload, info) ↔ raw = ⟨.ok, [payload], [info]⟩ := by
  constructor
  · intro h
    obtain ⟨result, payloads, infos⟩ := raw
    rw [RawTake.visible] at h
    split at h
    · cases h
    · next hok =>
        obtain rfl : result = .ok := not_not.mp hok
        split at h
        · cases h
        · next hpayloads hinfos =>
            cases h
            obtain rfl : payloads = _ := hpayloads
            obtain rfl : infos = _ := hinfos
            rfl
        · cases h
  · rintro rfl
    rfl

/-- The sample found is the first that is not passed. -/
theorem takeVisibleSample_eq_ok :
    (s.takeVisibleSample returned queue).1 = .ok (payload, info) ↔
      ∃ before after, queue = before ++ ⟨.ok, [payload], [info]⟩ :: after ∧
        (∀ raw ∈ before, s.passes raw = true) ∧ s.skips info = false := by
  induction queue with
  | nil => simp [Subscription.takeVisibleSample]
  | cons raw queue ih =>
      rw [Subscription.takeVisibleSample]
      by_cases hpasses : s.passes raw = true
      · rw [if_pos hpasses, ih]
        constructor
        · rintro ⟨before, after, rfl, hbefore, hskips⟩
          exact ⟨raw :: before, after, rfl, List.forall_mem_cons.mpr ⟨hpasses, hbefore⟩, hskips⟩
        · rintro ⟨before, after, hqueue, hbefore, hskips⟩
          cases before with
          | nil =>
              obtain ⟨rfl, rfl⟩ := List.cons.inj hqueue
              simp [Subscription.passes, hskips] at hpasses
          | cons first before =>
              obtain ⟨rfl, rfl⟩ := List.cons.inj hqueue
              exact ⟨before, after, rfl, (List.forall_mem_cons.mp hbefore).2, hskips⟩
      · rw [if_neg hpasses, visible_eq_ok]
        constructor
        · rintro rfl
          refine ⟨[], queue, rfl, nofun, ?_⟩
          simpa [Subscription.passes] using hpasses
        · rintro ⟨before, after, hqueue, hbefore, -⟩
          cases before with
          | nil => exact (List.cons.inj hqueue).1
          | cons first before =>
              obtain ⟨rfl, rfl⟩ := List.cons.inj hqueue
              exact absurd (hbefore _ (List.mem_cons_self ..)) hpasses

theorem mem_takeVisibleSample {raw : RawTake Handle}
    (h : raw ∈ (s.takeVisibleSample returned queue).2) : raw ∈ queue := by
  induction queue with
  | nil => exact h
  | cons first queue ih =>
      rw [Subscription.takeVisibleSample] at h
      split at h
      · exact List.mem_cons_of_mem _ (ih h)
      · exact List.mem_cons_of_mem _ h

namespace Call

/-- Calls take from the reader what `take_visible_sample` takes. -/
theorem run_queue [Rcutils] (call : Call M) :
    (call.run s queue).2 =
      if call.reads then (s.takeVisibleSample call.returned queue).2 else queue := by
  cases call with
  | take | takeWithInfo | takeSerializedMessage | takeSerializedMessageWithInfo => rfl
  | takeLoanedMessage returned created recorded => cases created <;> rfl
  | takeLoanedMessageWithInfo returned now created recorded messageInfo => cases created <;> rfl

theorem mem_run [Rcutils] {raw : RawTake Handle} {call : Call M} (h : raw ∈ (call.run s queue).2) :
    raw ∈ queue := by
  rw [run_queue] at h
  split at h
  · exact mem_takeVisibleSample h
  · exact h

/-- The taken flag after what `take_visible_sample` has found. -/
def takes [Rcutils] (s : Subscription M Handle) (visible : Visible Handle) : Call M → Bool
  | take returned message => (takeSample s returned message visible).taken
  | takeWithInfo _ now message messageInfo =>
      (takeSampleWithInfo s now message messageInfo visible).1.taken
  | takeSerializedMessage _ memory m => (takeSampleSerialized memory m visible).taken
  | takeSerializedMessageWithInfo _ now memory m messageInfo =>
      (takeSampleSerializedWithInfo s now memory m messageInfo visible).1.taken
  | takeLoanedMessage returned created recorded =>
      created.any fun message =>
        (takeSampleLoaned s returned none recorded message none visible).1.taken
  | takeLoanedMessageWithInfo returned now created recorded messageInfo =>
      created.any fun message =>
        (takeSampleLoaned s returned now recorded message (some messageInfo) visible).1.taken

theorem run_taken [Rcutils] (call : Call M) :
    (call.run s queue).1 = call.takes s (s.takeVisibleSample call.returned queue).1 := by
  cases call with
  | take | takeWithInfo | takeSerializedMessage | takeSerializedMessageWithInfo => rfl
  | takeLoanedMessage returned created recorded => cases created <;> rfl
  | takeLoanedMessageWithInfo returned now created recorded messageInfo => cases created <;> rfl

/-- Only samples with data are taken. -/
theorem takes_valid [Rcutils] {call : Call M} (htakes : call.takes s (.ok (payload, info)) = true) :
    info.validData = true := by
  by_contra hinvalid
  rw [Bool.not_eq_true] at hinvalid
  cases call with
  | take returned message => cases returned <;> simp [takes, takeSample, hinvalid] at htakes
  | takeWithInfo => simp [takes, takeSampleWithInfo, hinvalid] at htakes
  | takeSerializedMessage => simp [takes, takeSampleSerialized, hinvalid] at htakes
  | takeSerializedMessageWithInfo => simp [takes, takeSampleSerializedWithInfo, hinvalid] at htakes
  | takeLoanedMessage returned created =>
      cases created <;> cases returned <;> simp [takes, takeSampleLoaned, hinvalid] at htakes
  | takeLoanedMessageWithInfo returned now created =>
      cases created <;> cases returned <;> simp [takes, takeSampleLoaned, hinvalid] at htakes

theorem takes_error [Rcutils] (call : Call M) (code : ReturnCode) :
    call.takes s (.error code) = false := by
  cases call with
  | take | takeWithInfo | takeSerializedMessage | takeSerializedMessageWithInfo =>
      cases code <;> rfl
  | takeLoanedMessage returned created => cases created <;> cases code <;> rfl
  | takeLoanedMessageWithInfo returned now created => cases created <;> cases code <;> rfl

/-- A call returns one sample if it sets its flag. -/
theorem length_returns [Rcutils] (call : Call M) :
    (call.returns s queue).length = if (call.run s queue).1 then 1 else 0 := by
  rw [returns, run_taken]
  cases hvisible : (s.takeVisibleSample call.returned queue).1 with
  | error code => simp [takes_error]
  | ok sample => cases htakes : call.takes s (.ok sample) <;> rfl

/-- A returned sample has data and is the first that is not passed. -/
theorem of_mem_returns [Rcutils] {call : Call M} (h : info ∈ call.returns s queue) :
    info.validData = true ∧
      ∃ payload, (s.takeVisibleSample call.returned queue).1 = .ok (payload, info) := by
  rw [returns, run_taken] at h
  split at h
  · next payload info' htakes hvisible =>
      obtain rfl := List.mem_singleton.mp h
      rw [hvisible] at htakes
      exact ⟨takes_valid htakes, payload, hvisible⟩
  · cases h

/-- The skipped samples are passed. -/
theorem of_mem_skips {call : Call M} (h : info ∈ call.skips s queue) :
    ∃ raw ∈ queue, info ∈ raw.infos ∧ s.skips info = true := by
  rw [skips] at h
  split at h
  · obtain ⟨raw, hraw, hinfo⟩ := List.mem_flatMap.mp h
    have hpasses := List.mem_takeWhile_imp hraw
    refine ⟨raw, List.takeWhile_subset _ hraw, hinfo, ?_⟩
    rw [Subscription.passes] at hpasses
    split at hpasses
    · next hinfos =>
        rw [hinfos] at hinfo
        obtain rfl := List.mem_singleton.mp hinfo
        exact (Bool.and_eq_true_iff.mp hpasses).2
    · cases hpasses
  · cases h

/-- A sample with data is returned by a call that takes it as it is. -/
theorem mem_returns_takeSerializedMessage [Rcutils]
    (hvisible : (s.takeVisibleSample .ok queue).1 = .ok (payload, info))
    (hvalid : info.validData = true) :
    info ∈ (takeSerializedMessage .ok (some []) .empty : Call M).returns s queue := by
  have htaken : (takeSampleSerialized (some []) .empty (.ok (payload, info))).taken = true := by
    rw [takeSampleSerialized, if_pos hvalid]
    split
    · next hgrow => rw [Rcutils.uint8ArrayResize_of_lt hgrow]
    · rfl
  have hrun : ((takeSerializedMessage .ok (some []) .empty : Call M).run s queue).1 = true := by
    rw [run_taken]
    show (takeSampleSerialized (some []) .empty (s.takeVisibleSample .ok queue).1).taken = true
    rw [hvisible]
    exact htaken
  rw [returns, hrun]
  show info ∈ (match true, (s.takeVisibleSample .ok queue).1 with
    | true, .ok (_, info) => [info]
    | _, _ => [])
  rw [hvisible]
  exact List.mem_singleton_self info

end Call

end

/-! ## Runs -/

section

variable {M Handle : Type*} {impl : SubscriptionImpl M} {readerInit : List UInt8 → Bool}
  {e : Surroundings Handle} {w w' : World Handle}

/-- What holds in every run. -/
structure World.Sound (e : Surroundings Handle) (w : World Handle) : Prop where
  live : w.localPublicationGuids ⊆ w.created
  unique : ∀ guid ∈ w.created, guid ∉ e.remote
  resolved : ∀ handle guid, w.publicationGuid handle = some guid → guid = e.writer handle
  queue : ∀ raw ∈ w.queue, ∀ info ∈ raw.infos, w.Local e info ∨ e.Remote info
  skipped : ∀ info ∈ w.skipped, w.Local e info

theorem World.Sound.not_remote (h : w.Sound e) {info : SampleInfo Handle} (hlocal : w.Local e info) :
    ¬ e.Remote info := h.unique _ hlocal

/-- A sample is skipped just if its handle resolves to a publisher that is there. -/
theorem World.Sound.skips_iff (h : w.Sound e) (info : SampleInfo Handle) :
    (w.subscription impl readerInit).skips info = true ↔
      impl.ignoreLocalPublications = true ∧
        (w.publicationGuid info.publicationHandle).isSome = true ∧
        e.writer info.publicationHandle ∈ w.localPublicationGuids := by
  rw [Subscription.skips, Subscription.isLocalPublication, Bool.and_eq_true]
  refine and_congr_right fun _ => ?_
  cases hresolved : w.publicationGuid info.publicationHandle with
  | none => simp [World.subscription, hresolved]
  | some guid =>
      obtain rfl := h.resolved _ _ hresolved
      simp only [World.subscription, hresolved, Option.isSome_some, true_and]
      exact decide_eq_true_iff

theorem sound_start : World.start.Sound e where
  live := Finset.Subset.refl _
  unique _ := nofun
  resolved _ _ := nofun
  queue _ := nofun
  skipped _ := nofun

theorem World.Sound.step [Rcutils] (h : w.Sound e) {a : Action M Handle}
    (hstep : Step impl readerInit e w a w') : w'.Sound e := by
  cases hstep with
  | @createPublisher guid hfresh hremote =>
      have hgrow : ∀ info, w.Local e info → e.writer info.publicationHandle ∈
          insert guid w.created := fun info hlocal => Finset.mem_insert_of_mem hlocal
      constructor
      · exact Finset.insert_subset_insert guid h.live
      · intro created hcreated
        obtain rfl | hcreated := Finset.mem_insert.mp hcreated
        · exact hremote
        · exact h.unique created hcreated
      · exact h.resolved
      · intro raw hraw info hinfo
        exact (h.queue raw hraw info hinfo).imp_left (hgrow info)
      · exact fun info hinfo => hgrow info (h.skipped info hinfo)
  | destroyPublisher =>
      exact ⟨(Finset.erase_subset _ _).trans h.live, h.unique, h.resolved, h.queue, h.skipped⟩
  | publish => exact ⟨h.live, h.unique, h.resolved, h.queue, h.skipped⟩
  | transport harrives hresolved =>
      refine ⟨h.live, h.unique, hresolved, ?_, h.skipped⟩
      intro raw hraw info hinfo
      obtain hold | hnew := harrives raw hraw
      · exact h.queue raw hold info hinfo
      · exact (hnew info hinfo).1
  | take call =>
      refine ⟨h.live, h.unique, h.resolved, ?_, ?_⟩
      · intro raw hraw info hinfo
        exact h.queue raw (Call.mem_run hraw) info hinfo
      · intro info hinfo
        obtain hold | hnew := List.mem_append.mp hinfo
        · exact h.skipped info hold
        · obtain ⟨raw, hraw, hmem, hskips⟩ := Call.of_mem_skips hnew
          exact h.live ((h.skips_iff info).mp hskips).2.2

theorem sound_reachable [Rcutils] (h : (system impl readerInit e).Reachable w) : w.Sound e := by
  refine h.invariant ?_ fun _ _ _ hsound hstep => hsound.step hstep
  rintro s rfl
  exact sound_start

/-- `rmw_take_sequence` takes its samples one after the other. -/
theorem takeEach_run [Rcutils] (slots : List (Slot M)) (w : World Handle) :
    let results := takeEach (w.subscription impl readerInit) slots w.queue
    ∃ calls : List (Call M), ∃ w', (system impl readerInit e).Run w (calls.map .take) w' ∧
      w'.queue = results.2.2 ∧
      w'.returned.length = w.returned.length + results.2.1.countP fun one => one.1.taken := by
  induction slots generalizing w with
  | nil => exact ⟨[], w, .nil w, rfl, rfl⟩
  | cons slot slots ih =>
      intro results
      let s := w.subscription impl readerInit
      let call : Call M := .takeWithInfo slot.returned slot.now slot.message slot.messageInfo
      let one := rmwTakeWithInfo s slot.returned slot.now slot.message slot.messageInfo w.queue
      let next : World Handle :=
        { w with
          queue := one.2
          returned := w.returned ++ call.returns s w.queue
          skipped := w.skipped ++ call.skips s w.queue }
      have hstep : (system impl readerInit e).step w (.take call) next := .take call
      have hreturned : next.returned.length =
          w.returned.length + if one.1.1.taken then 1 else 0 :=
        List.length_append.trans (congrArg _ call.length_returns)
      have hresults : results =
          if one.1.1.ret ≠ .ok then (one.1.1.ret, [one.1], one.2)
          else if !one.1.1.taken then (.ok, [one.1], one.2)
          else
            ((takeEach s slots one.2).1, one.1 :: (takeEach s slots one.2).2.1,
              (takeEach s slots one.2).2.2) := rfl
      rw [hresults]
      split
      · refine ⟨[call], next, .cons hstep (.nil _), rfl, ?_⟩
        rw [hreturned, List.countP_singleton]
      · split
        · refine ⟨[call], next, .cons hstep (.nil _), rfl, ?_⟩
          rw [hreturned, List.countP_singleton]
        · next htaken =>
            obtain ⟨calls, w', hrun, hqueue, hlength⟩ := ih next
            refine ⟨call :: calls, w', .cons hstep hrun, hqueue, ?_⟩
            have hone : one.1.1.taken = true := by simpa using htaken
            rw [hlength, hreturned, List.countP_cons, if_pos hone]
            exact Nat.add_right_comm _ _ _

/-! ## Recognized samples -/

/-- A sample of the context's own that comes to the front of the queue is recognized:
its publisher is still there, and its handle resolves. -/
def World.Recognizes (impl : SubscriptionImpl M) (readerInit : List UInt8 → Bool)
    (e : Surroundings Handle) (w : World Handle) : Prop :=
  ∀ before payload info after, w.queue = before ++ ⟨.ok, [payload], [info]⟩ :: after →
    (∀ raw ∈ before, (w.subscription impl readerInit).passes raw = true) →
    info.validData = true → w.Local e info →
    e.writer info.publicationHandle ∈ w.localPublicationGuids ∧
      (w.publicationGuid info.publicationHandle).isSome = true

/-- The samples of the context's own are recognized when the subscription takes. -/
def TakesRecognized (impl : SubscriptionImpl M) (readerInit : List UInt8 → Bool)
    (e : Surroundings Handle) (w : World Handle) : Action M Handle → Prop
  | .take _ => w.Recognizes impl readerInit e
  | .createPublisher _ | .destroyPublisher _ | .publish _ _ | .transport _ _ => True

/-- No call returns a sample of the context's own just if they are recognized. -/
theorem World.Sound.recognizes_iff [Rcutils] (h : w.Sound e)
    (hignore : impl.ignoreLocalPublications = true) :
    w.Recognizes impl readerInit e ↔
      ∀ call : Call M, ∀ info ∈ call.returns (w.subscription impl readerInit) w.queue,
        ¬ w.Local e info := by
  constructor
  · intro hrecognizes call info hinfo hlocal
    obtain ⟨hvalid, payload, hvisible⟩ := Call.of_mem_returns hinfo
    obtain ⟨before, after, hqueue, hbefore, hshown⟩ := takeVisibleSample_eq_ok.mp hvisible
    obtain ⟨hlive, hresolves⟩ := hrecognizes before payload info after hqueue hbefore hvalid hlocal
    have hskips : (w.subscription impl readerInit).skips info = true :=
      (h.skips_iff info).mpr ⟨hignore, hresolves, hlive⟩
    exact Bool.false_ne_true (hshown.symm.trans hskips)
  · intro hnever before payload info after hqueue hbefore hvalid hlocal
    cases hskips : (w.subscription impl readerInit).skips info with
    | true =>
        obtain ⟨-, hresolves, hlive⟩ := (h.skips_iff info).mp hskips
        exact ⟨hlive, hresolves⟩
    | false =>
        have hvisible : ((w.subscription impl readerInit).takeVisibleSample .ok w.queue).1 =
            .ok (payload, info) :=
          takeVisibleSample_eq_ok.mpr ⟨before, after, hqueue, hbefore, hskips⟩
        exact absurd hlocal
          (hnever _ info (Call.mem_returns_takeSerializedMessage hvisible hvalid))

/-- The subscription has returned samples of other contexts only, and skipped
samples of its own context only. -/
structure World.IgnoresLocal (e : Surroundings Handle) (w : World Handle) : Prop where
  returned : ∀ info ∈ w.returned, ¬ w.Local e info
  skipped : ∀ info ∈ w.skipped, ¬ e.Remote info

/-- All samples returned are those of other contexts, if the own ones are recognized
at each take. -/
theorem returned_remote [Rcutils] (hignore : impl.ignoreLocalPublications = true)
    (h : ((system impl readerInit e).restrict (TakesRecognized impl readerInit e)).Reachable w) :
    ∀ info ∈ w.returned, e.Remote info := by
  refine h.invariant_of (I := fun w => ∀ info ∈ w.returned, e.Remote info)
    (fun _ hr => sound_reachable hr.of_restrict) ?_ ?_
  · rintro w rfl
    exact nofun
  · rintro w a w' hsound hreturned ⟨hrecognized, hstep⟩
    cases hstep with
    | createPublisher => exact hreturned
    | destroyPublisher => exact hreturned
    | publish => exact hreturned
    | transport => exact hreturned
    | take call =>
        intro info hinfo
        obtain hold | hnew := List.mem_append.mp hinfo
        · exact hreturned info hold
        · have hremote := (hsound.recognizes_iff hignore).mp hrecognized call info hnew
          obtain ⟨-, payload, hvisible⟩ := Call.of_mem_returns hnew
          obtain ⟨before, after, hqueue, -, -⟩ := takeVisibleSample_eq_ok.mp hvisible
          have hmem : (⟨.ok, [payload], [info]⟩ : RawTake Handle) ∈ w.queue := by
            rw [hqueue]
            exact List.mem_append_right _ (List.mem_cons_self ..)
          exact (hsound.queue _ hmem info (List.mem_singleton_self info)).resolve_left hremote

/-- What a subscription that ignores local publications returns and skips. -/
theorem ignore_local_publications [Rcutils] (hignore : impl.ignoreLocalPublications = true) :
    (∀ w, ((system impl readerInit e).restrict (TakesRecognized impl readerInit e)).Reachable w →
      w.IgnoresLocal e) ∧
    ∀ w, (system impl readerInit e).Reachable w →
      (∀ info ∈ w.skipped, ¬ e.Remote info) ∧
      (w.Recognizes impl readerInit e ↔
        ∀ call : Call M, ∀ info ∈ call.returns (w.subscription impl readerInit) w.queue,
          ¬ w.Local e info) := by
  have hskipped : ∀ w, (system impl readerInit e).Reachable w →
      ∀ info ∈ w.skipped, ¬ e.Remote info := fun w h info hinfo =>
    (sound_reachable h).not_remote ((sound_reachable h).skipped info hinfo)
  constructor
  · intro w h
    refine ⟨?_, hskipped w h.of_restrict⟩
    intro info hinfo hlocal
    exact (sound_reachable h.of_restrict).not_remote hlocal (returned_remote hignore h info hinfo)
  · exact fun w h => ⟨hskipped w h, (sound_reachable h).recognizes_iff hignore⟩

end

/-! ## Two writers -/

attribute [local instance] Rcutils.documented

/-- The GUIDs of two writers. -/
def writerGuid (handle : Bool) : Guid where
  bytes := List.replicate 16 (if handle then 1 else 2)
  length_eq := List.length_replicate

/-- The handle `true` is that of a publisher of the context, `false` that of a
publisher of another one. -/
def twoWriters : Surroundings Bool where
  writer := writerGuid
  remote := {writerGuid false}

/-- A subscription that ignores local publications, for messages of nothing. -/
def ignoring : SubscriptionImpl Unit where
  callbacks :=
    { hasKey := false
      getSerializedSize := fun _ => 4
      serialize := fun _ _ => (true, [0, 1, 0, 0])
      deserialize := fun _ message => (true, message) }
  ignoreLocalPublications := true

def sampleOf (handle : Bool) : RawTake Bool := ⟨.ok, [[0, 1, 0, 0]], [⟨true, handle, 0, 0⟩]⟩

/-- The publisher of the context writes a sample, and the samples given are
delivered. -/
def World.deliver (queue : List (RawTake Bool)) : World Bool :=
  { World.start with
    localPublicationGuids := insert (writerGuid true) ∅
    created := insert (writerGuid true) ∅
    written := [(false, [0, 1, 0, 0]), (true, [0, 1, 0, 0])]
    publicationGuid := fun handle => some (writerGuid handle)
    queue := queue }

theorem reachable_deliver [Rcutils] (queue : List (RawTake Bool))
    (hqueue : ∀ raw ∈ queue, raw = sampleOf true ∨ raw = sampleOf false) :
    ((system ignoring (fun _ => true) twoWriters).restrict
      (TakesRecognized ignoring (fun _ => true) twoWriters)).Reachable (World.deliver queue) := by
  have hfresh : writerGuid true ∉ twoWriters.remote := by
    rw [twoWriters, Set.mem_singleton_iff]
    decide
  refine .step (.step (.step (.step (.init rfl) (a := .createPublisher (writerGuid true))
    ⟨trivial, .createPublisher (Finset.notMem_empty _) hfresh⟩) (a := .publish true [0, 1, 0, 0])
    ⟨trivial, .publish (.inl (Finset.mem_insert_self _ _))⟩) (a := .publish false [0, 1, 0, 0])
    ⟨trivial, .publish (.inr rfl)⟩) (a := .transport queue fun handle => some (writerGuid handle))
    ⟨trivial, .transport ?_ ?_⟩
  · intro raw hraw
    refine .inr ?_
    obtain rfl | rfl := hqueue raw hraw
    · intro info hinfo
      obtain rfl := List.mem_singleton.mp hinfo
      exact ⟨.inl (Finset.mem_insert_self _ _), fun _ => ⟨_, rfl, by decide⟩⟩
    · intro info hinfo
      obtain rfl := List.mem_singleton.mp hinfo
      exact ⟨.inr rfl, fun _ => ⟨_, rfl, by decide⟩⟩
  · intro handle guid hguid
    exact (Option.some.inj hguid).symm

/-- A sample that waits in the queue when its publisher is destroyed is returned. -/
theorem destroyed_publisher_returned :
    ¬ ∀ w : World Bool, (system ignoring (fun _ => true) twoWriters).Reachable w →
      w.IgnoresLocal twoWriters := by
  intro h
  have hdelivered := (reachable_deliver [sampleOf true] fun raw hraw =>
    .inl (List.mem_singleton.mp hraw)).of_restrict
  have hdestroy : Step ignoring (fun _ => true) twoWriters (World.deliver [sampleOf true])
      (.destroyPublisher (writerGuid true)) _ := .destroyPublisher (Finset.mem_insert_self _ _)
  have hreach := (hdelivered.step hdestroy).step (Step.take (.take .ok ()))
  have hnot := (h _ hreach).returned ⟨true, true, 0, 0⟩
    (List.mem_singleton_self (⟨true, true, 0, 0⟩ : SampleInfo Bool))
  exact hnot (Finset.mem_insert_self _ _)

/-- The own sample is skipped for that of the other context. -/
theorem ignoring_returns_remote :
    ∃ w : World Bool, w.IgnoresLocal twoWriters ∧
      w.returned = [⟨true, false, 0, 0⟩] ∧ w.skipped = [⟨true, true, 0, 0⟩] := by
  have hdelivered := reachable_deliver [sampleOf true, sampleOf false] fun raw hraw =>
    (List.mem_cons.mp hraw).imp_right List.mem_singleton.mp
  have hrecognizes : TakesRecognized ignoring (fun _ => true) twoWriters
      (World.deliver [sampleOf true, sampleOf false]) (.take (.take .ok ())) :=
    fun _ _ _ _ _ _ _ hlocal => ⟨hlocal, rfl⟩
  have htake : Step ignoring (fun _ => true) twoWriters
      (World.deliver [sampleOf true, sampleOf false]) (.take (.take .ok ())) _ := .take _
  have hreach := hdelivered.step ⟨hrecognizes, htake⟩
  exact ⟨_, (ignore_local_publications rfl).1 _ hreach, rfl, rfl⟩

end RmwZzdds.DataPlane
