import Std.Data.String.ToNat
import Mathlib.Data.List.ReduceOption
import RmwZzdds.Codec.Idl
import RmwZzdds.Library.Indirection
import RmwZzdds.Library.Transition
import RmwZzdds.Lifecycle.Context

/-!
# Content filters

Every subscription reads through a content-filtered topic of its own, with an empty
expression when there is no filter.  So a filter is added, changed and cleared in
place.

For a user a filter is an attribute of the subscription.  `filters` says so: it is a
table that a successful creation and a successful change set, and nothing else
touches.  The code refines it, and the flag of the subscription and what
`rmw_subscription_get_content_filter` returns are what the table has
(`content_filter_refines`).  The names of the topics repeat only after `2 ^ 64`
creations (`names_distinct`).
-/

namespace RmwZzdds.DataPlane.ContentFilter

open Codec (uint32Max)
open Indirection Lifecycle Transition

/-! ## Options -/

/-- `rcutils_string_array_t`.  There is one entry for each string, or no memory. -/
structure StringArray where
  size : Nat
  data : Option (List (Option String))
  length_eq : ∀ entries, data = some entries → entries.length = size

/-- `rmw_subscription_content_filter_options_t`. -/
structure FilterOptions where
  filterExpression : Option String
  expressionParameters : StringArray

/-- What zzdds keeps of the filter of a topic. -/
structure Filter where
  expression : String
  parameters : List String
deriving DecidableEq

/-- The entries, if none is null. -/
def pointers : List (Option String) → Option (List String)
  | [] => some []
  | none :: _ => none
  | some parameter :: entries => (pointers entries).map (parameter :: ·)

/-- `make_dds_string_seq`.  `reserved` says whether the memory is there. -/
def makeDdsStringSeq (options : FilterOptions) (reserved : Bool) : Option (List String) :=
  if options.filterExpression.isNone ∨
      options.expressionParameters.size ≠ 0 ∧ options.expressionParameters.data.isNone ∨
      options.expressionParameters.size > uint32Max then none
  else if !reserved then none
  else pointers (options.expressionParameters.data.getD [])

/-- The filter that options stand for. -/
def FilterOptions.filter (options : FilterOptions) : Filter where
  expression := options.filterExpression.getD ""
  parameters := (options.expressionParameters.data.getD []).reduceOption

/-- The content-filtered topics of zzdds and the options that rmw initializes, as their
documentation says. -/
structure FilterLibraries (Topic : Type*) where
  /-- `DDS_DomainParticipant_create_contentfilteredtopic`, if it makes one. -/
  createTopic : String → Filter → Topic
  /-- `zzdds_ContentFilteredTopic_set_filter_expression`, if it accepts the filter. -/
  setFilter : Topic → Filter → Topic
  /-- `DDS_ContentFilteredTopic_get_filter_expression` and
  `DDS_ContentFilteredTopic_get_expression_parameters`. -/
  filter : Topic → Filter
  /-- `rmw_subscription_content_filter_options_init`, if it returns `RMW_RET_OK`. -/
  initOptions : Filter → FilterOptions
  filter_createTopic : ∀ name new, filter (createTopic name new) = new
  filter_setFilter : ∀ topic new, filter (setFilter topic new) = new
  filter_initOptions : ∀ new, (initOptions new).filter = new

/-! ## Subscriptions -/

/-- The fields of `rmw_subscription_t` that a filter is about, with the topic that its
`SubscriptionImpl` reads through. -/
structure RmwSubscription (Obj : Type*) where
  implementationIdentifier : String
  data : Option Obj
  isCftEnabled : Bool

/-- A context and its topics.  A handle that is not in use is a null pointer. -/
structure State (Topic Obj Handle : Type*) where
  nextContentFilterId : UInt64
  topics : Obj → Option Topic
  subscriptions : Handle → Option (RmwSubscription Obj)
  /-- All names that zzdds was given, the oldest first. -/
  named : List String

section

variable {Topic Obj Handle : Type*} (lib : FilterLibraries Topic)

/-- `validate_subscription`. -/
def validateSubscription (subscription : Option (RmwSubscription Obj)) : Except Ret Obj :=
  match subscription with
  | none => .error .invalidArgument
  | some subscription =>
      match subscription.data with
      | none => .error .invalidArgument
      | some topic =>
          if subscription.implementationIdentifier ≠ identifier then
            .error .incorrectRmwImplementation
          else .ok topic

/-- `"rmw_zzdds_cft_%zu"`. -/
def contentFilterName (id : UInt64) : String := "rmw_zzdds_cft_" ++ Nat.repr id.toNat

/-- The expression and the parameters of `create_filtered_topic`. -/
def requested (options : Option FilterOptions) (reserved : Bool) : Option Filter :=
  match options with
  | none => some ⟨"", []⟩
  | some options =>
      (makeDdsStringSeq options reserved).map fun parameters =>
        ⟨options.filterExpression.getD "", parameters⟩

variable [DecidableEq Obj]

/-- `create_filtered_topic`.  `topic` is what zzdds returns if it makes one. -/
def createFilteredTopic (s : State Topic Obj Handle) (topic : Obj) (options : Option FilterOptions)
    (reserved created : Bool) : State Topic Obj Handle × Option Obj :=
  match requested options reserved with
  | none => (s, none)
  | some filter =>
      let name := contentFilterName s.nextContentFilterId
      let s := { s with nextContentFilterId := s.nextContentFilterId + 1 }
      if name.length ≥ 64 then (s, none)
      else
        let s := { s with named := s.named ++ [name] }
        if created then
          ({ s with topics := Function.update s.topics topic (some (lib.createTopic name filter)) },
            some topic)
        else (s, none)

/-- What happens while a subscription is created. -/
structure Creation where
  /-- The steps before the topic. -/
  prepared : Bool
  reserved : Bool
  created : Bool
  /-- The steps behind it. -/
  completed : Bool
  /-- The topic is deleted if they fail. -/
  deleted : Bool

/-- `is_cft_enabled` of a new subscription. -/
def cftEnabled (options : Option FilterOptions) : Bool :=
  (options.bind FilterOptions.filterExpression).any (· ≠ "")

/-- What `rmw_create_subscription` does about the filter. -/
def rmwCreateSubscription (s : State Topic Obj Handle) (topic : Obj)
    (options : Option FilterOptions) (o : Creation) :
    State Topic Obj Handle × Option (RmwSubscription Obj) :=
  if options.any fun options => options.filterExpression.isNone then (s, none)
  else if !o.prepared then (s, none)
  else
    match createFilteredTopic lib s topic options o.reserved o.created with
    | (s, none) => (s, none)
    | (s, some topic) =>
        if o.completed then (s, some ⟨identifier, some topic, cftEnabled options⟩)
        else if o.deleted then
          ({ s with topics := Function.update s.topics topic none }, none)
        else (s, none)

variable [DecidableEq Handle]

/-- What `rmw_destroy_subscription` does once it has accepted its arguments. -/
def rmwDestroySubscription (s : State Topic Obj Handle) (handle : Handle) (deleted : Bool) :
    State Topic Obj Handle :=
  let topic := (s.subscriptions handle).bind RmwSubscription.data
  { s with
    subscriptions := Function.update s.subscriptions handle none
    topics :=
      match topic with
      | some topic => if deleted then Function.update s.topics topic none else s.topics
      | none => s.topics }

/-- The result of `zzdds_ContentFilteredTopic_set_filter_expression`.  zzdds keeps the
old filter unless it accepts the new one. -/
inductive SetOutcome where
  | notZzdds
  | ok
  | outOfResources
  | rejected

/-- `rmw_subscription_set_content_filter`. -/
def rmwSubscriptionSetContentFilter (s : State Topic Obj Handle) (handle : Handle)
    (options : Option FilterOptions) (reserved : Bool) (o : SetOutcome) :
    State Topic Obj Handle × Ret :=
  match validateSubscription (s.subscriptions handle) with
  | .error ret => (s, ret)
  | .ok topic =>
      match options with
      | none => (s, .invalidArgument)
      | some options =>
          match options.filterExpression, makeDdsStringSeq options reserved with
          | some expression, some parameters =>
              match o with
              | .notZzdds => (s, .error)
              | .outOfResources => (s, .badAlloc)
              | .rejected => (s, .error)
              | .ok =>
                  ({ s with
                    topics := Function.update s.topics topic
                      ((s.topics topic).map fun old => lib.setFilter old ⟨expression, parameters⟩)
                    subscriptions := Function.update s.subscriptions handle
                      ((s.subscriptions handle).map fun subscription =>
                        { subscription with isCftEnabled := expression ≠ "" }) }, .ok)
          | _, _ => (s, .invalidArgument)

/-- What happens while a filter is read. -/
structure GetOutcome where
  parametersRead : Bool
  reserved : Bool
  /-- `rmw_subscription_content_filter_options_init`. -/
  init : Ret

omit [DecidableEq Obj] [DecidableEq Handle] in
/-- `rmw_subscription_get_content_filter`, with the options if it returns
`RMW_RET_OK`.  `arguments` says whether the allocator and the output are there. -/
def rmwSubscriptionGetContentFilter (s : State Topic Obj Handle) (handle : Handle)
    (arguments : Bool) (o : GetOutcome) : Ret × Option FilterOptions :=
  match validateSubscription (s.subscriptions handle) with
  | .error ret => (ret, none)
  | .ok topic =>
      if !arguments then (.invalidArgument, none)
      else
        match s.topics topic with
        | none => (.unsupported, none)
        | some topic =>
            if (lib.filter topic).expression = "" then (.unsupported, none)
            else if !o.parametersRead then (.error, none)
            else if !o.reserved then (.badAlloc, none)
            else if o.init = .ok then (.ok, some (lib.initOptions (lib.filter topic)))
            else (o.init, none)

/-! ## Runs -/

/-- The filter that a user asks for.  There is an empty one without options. -/
def asked : Option FilterOptions → Filter
  | none => ⟨"", []⟩
  | some options => options.filter

/-- What a user sees of a call. -/
inductive Change (Handle : Type*) where
  | installed (handle : Handle) (filter : Filter)
  | removed (handle : Handle)
  | refused

/-- A step of the context.  The objects that zzdds and the allocator make are new. -/
inductive Step (s : State Topic Obj Handle) : Change Handle → State Topic Obj Handle → Prop where
  | create {handle : Handle} {topic : Obj} {options : Option FilterOptions} {o : Creation}
      {s' : State Topic Obj Handle} {subscription : RmwSubscription Obj} :
      s.topics topic = none → s.subscriptions handle = none →
      rmwCreateSubscription lib s topic options o = (s', some subscription) →
      Step s (.installed handle (asked options))
        { s' with
          subscriptions := Function.update s'.subscriptions handle (some subscription) }
  | createFails {topic : Obj} {options : Option FilterOptions} {o : Creation}
      {s' : State Topic Obj Handle} :
      s.topics topic = none → rmwCreateSubscription lib s topic options o = (s', none) →
      Step s .refused s'
  | destroy (handle : Handle) (deleted : Bool) :
      Step s (.removed handle) (rmwDestroySubscription s handle deleted)
  | set {handle : Handle} {options : Option FilterOptions} {reserved : Bool} {o : SetOutcome}
      {s' : State Topic Obj Handle} :
      rmwSubscriptionSetContentFilter lib s handle options reserved o = (s', .ok) →
      Step s (.installed handle (asked options)) s'
  | setFails {handle : Handle} {options : Option FilterOptions} {reserved : Bool}
      {o : SetOutcome} {s' : State Topic Obj Handle} {ret : Ret} :
      rmwSubscriptionSetContentFilter lib s handle options reserved o = (s', ret) → ret ≠ .ok →
      Step s .refused s'

/-- A new context. -/
def State.start : State Topic Obj Handle where
  nextContentFilterId := 0
  topics _ := none
  subscriptions _ := none
  named := []

def system : System (State Topic Obj Handle) (Change Handle) where
  init s := s = .start
  step := Step lib

end

/-! ## The table of filters -/

section

variable {Topic Obj Handle : Type*} [DecidableEq Handle]

/-- A subscription has a filter, and only calls that succeed change it. -/
def filters : System (Handle → Option Filter) (Change Handle) where
  init f := f = fun _ => none
  step f change f' :=
    f' = match change with
      | .installed handle filter => Function.update f handle (some filter)
      | .removed handle => Function.update f handle none
      | .refused => f

variable (s : State Topic Obj Handle)

omit [DecidableEq Handle] in
/-- The topic that a subscription reads through. -/
def State.topicOf (handle : Handle) : Option Obj :=
  (s.subscriptions handle).bind RmwSubscription.data

omit [DecidableEq Handle] in
/-- The filter that zzdds applies for a subscription. -/
def State.installed (lib : FilterLibraries Topic) : Handle → Option Filter :=
  lookup s.topicOf fun topic => (s.topics topic).map lib.filter

end

/-! ## What the calls do -/

theorem pointers_eq_some {entries : List (Option String)} {parameters : List String}
    (h : pointers entries = some parameters) : parameters = entries.reduceOption := by
  induction entries generalizing parameters with
  | nil =>
      cases h
      rfl
  | cons entry entries ih =>
      cases entry with
      | none => cases h
      | some parameter =>
          obtain ⟨rest, hrest, rfl⟩ := Option.map_eq_some_iff.mp h
          rw [List.reduceOption_cons_of_some, ih hrest]

/-- The parameters of options that are accepted. -/
theorem makeDdsStringSeq_eq_some {options : FilterOptions} {reserved : Bool}
    {parameters : List String} (h : makeDdsStringSeq options reserved = some parameters) :
    ∃ expression, options.filterExpression = some expression ∧
      options.filter = ⟨expression, parameters⟩ := by
  rw [makeDdsStringSeq] at h
  split at h
  · cases h
  · next hoptions =>
      split at h
      · cases h
      · have hsome : options.filterExpression ≠ none := fun hnone =>
          hoptions (.inl (Option.isNone_iff_eq_none.mpr hnone))
        obtain ⟨expression, hexpression⟩ := Option.ne_none_iff_exists'.mp hsome
        refine ⟨expression, hexpression, ?_⟩
        rw [FilterOptions.filter, hexpression, pointers_eq_some h]
        rfl

theorem requested_eq_some {options : Option FilterOptions} {reserved : Bool} {filter : Filter}
    (h : requested options reserved = some filter) : filter = asked options := by
  cases options with
  | none => exact (Option.some.inj h).symm
  | some options =>
      obtain ⟨parameters, hparameters, rfl⟩ := Option.map_eq_some_iff.mp h
      obtain ⟨expression, hexpression, hfilter⟩ := makeDdsStringSeq_eq_some hparameters
      rw [asked, hfilter, hexpression]
      rfl

section

variable {Topic Obj Handle : Type*} [DecidableEq Obj] {lib : FilterLibraries Topic}
  {s s' : State Topic Obj Handle}

/-- A topic is made for the filter that was asked for. -/
theorem createFilteredTopic_some {topic made : Obj} {options : Option FilterOptions}
    {reserved created : Bool}
    (h : createFilteredTopic lib s topic options reserved created = (s', some made)) :
    made = topic ∧ s'.subscriptions = s.subscriptions ∧
      ∃ name, s'.topics =
        Function.update s.topics topic (some (lib.createTopic name (asked options))) := by
  rw [createFilteredTopic] at h
  split at h
  · cases h
  · next filter hfilter =>
      obtain rfl := requested_eq_some hfilter
      simp only at h
      split at h
      · cases h
      · split at h
        · cases h
          exact ⟨rfl, rfl, _, rfl⟩
        · cases h

theorem createFilteredTopic_none {topic : Obj} {options : Option FilterOptions}
    {reserved created : Bool}
    (h : createFilteredTopic lib s topic options reserved created = (s', none)) :
    s'.subscriptions = s.subscriptions ∧ s'.topics = s.topics := by
  rw [createFilteredTopic] at h
  split at h
  · cases h
    exact ⟨rfl, rfl⟩
  · simp only at h
    split at h
    · cases h
      exact ⟨rfl, rfl⟩
    · split at h
      · cases h
      · cases h
        exact ⟨rfl, rfl⟩

omit [DecidableEq Obj] in
theorem cftEnabled_eq (options : Option FilterOptions) :
    cftEnabled options = decide ((asked options).expression ≠ "") := by
  cases options with
  | none => simp [cftEnabled, asked]
  | some options =>
      cases hexpression : options.filterExpression with
      | none => simp [cftEnabled, asked, FilterOptions.filter, hexpression]
      | some expression => simp [cftEnabled, asked, FilterOptions.filter, hexpression]

/-- A subscription is made with its topic, and its flag says whether there is a
filter. -/
theorem rmwCreateSubscription_some {topic : Obj} {options : Option FilterOptions} {o : Creation}
    {subscription : RmwSubscription Obj}
    (h : rmwCreateSubscription lib s topic options o = (s', some subscription)) :
    subscription = ⟨identifier, some topic, (asked options).expression ≠ ""⟩ ∧
      s'.subscriptions = s.subscriptions ∧
      ∃ name, s'.topics =
        Function.update s.topics topic (some (lib.createTopic name (asked options))) := by
  rw [rmwCreateSubscription] at h
  split at h
  · cases h
  · split at h
    · cases h
    · split at h
      · cases h
      · next made hmade =>
          obtain ⟨rfl, hsubscriptions, name, htopics⟩ := createFilteredTopic_some hmade
          split at h
          · cases h
            rw [cftEnabled_eq]
            exact ⟨rfl, hsubscriptions, name, htopics⟩
          · split at h
            · cases h
            · cases h

/-- A topic that was made in vain may stay behind. -/
theorem rmwCreateSubscription_none {topic : Obj} {options : Option FilterOptions} {o : Creation}
    (h : rmwCreateSubscription lib s topic options o = (s', none))
    (hfresh : s.topics topic = none) :
    s'.subscriptions = s.subscriptions ∧
      ∃ t, s'.topics = Function.update s.topics topic t := by
  have hsame : Function.update s.topics topic none = s.topics := by
    rw [← hfresh, Function.update_eq_self]
  rw [rmwCreateSubscription] at h
  split at h
  · cases h
    exact ⟨rfl, none, hsame.symm⟩
  · split at h
    · cases h
      exact ⟨rfl, none, hsame.symm⟩
    · split at h
      · next hmade =>
          cases h
          obtain ⟨hsubscriptions, htopics⟩ := createFilteredTopic_none hmade
          exact ⟨hsubscriptions, none, htopics.trans hsame.symm⟩
      · next made hmade =>
          obtain ⟨rfl, hsubscriptions, name, htopics⟩ := createFilteredTopic_some hmade
          split at h
          · cases h
          · split at h
            · cases h
              have hdeleted := congrArg (fun topics => Function.update topics made none) htopics
              exact ⟨hsubscriptions, none, hdeleted.trans (Function.update_idem ..)⟩
            · cases h
              exact ⟨hsubscriptions, _, htopics⟩

end

/-! ## The invariant -/

section

variable {Topic Obj Handle : Type*} [DecidableEq Obj] [DecidableEq Handle]
  {lib : FilterLibraries Topic} {s s' : State Topic Obj Handle}

omit [DecidableEq Obj] [DecidableEq Handle] in
theorem validateSubscription_ok {subscription : Option (RmwSubscription Obj)} {topic : Obj}
    (h : validateSubscription subscription = .ok topic) :
    ∃ found, subscription = some found ∧ found.data = some topic := by
  rw [validateSubscription.eq_def] at h
  split at h
  · cases h
  · next found =>
      split at h
      · cases h
      · next hdata =>
          split at h
          · cases h
          · cases h
            exact ⟨found, rfl, hdata⟩

omit [DecidableEq Obj] [DecidableEq Handle] in
theorem validateSubscription_ne_ok {subscription : Option (RmwSubscription Obj)} {ret : Ret}
    (h : validateSubscription subscription = .error ret) : ret ≠ .ok := by
  rw [validateSubscription.eq_def] at h
  split at h
  · cases h
    decide
  · split at h
    · cases h
      decide
    · split at h
      · cases h
        decide
      · cases h

/-- A change is made to the filter that a subscription has. -/
theorem rmwSubscriptionSetContentFilter_ok {handle : Handle} {options : Option FilterOptions}
    {reserved : Bool} {o : SetOutcome}
    (h : rmwSubscriptionSetContentFilter lib s handle options reserved o = (s', .ok)) :
    ∃ subscription topic, s.subscriptions handle = some subscription ∧
      subscription.data = some topic ∧
      s'.topics = Function.update s.topics topic
        ((s.topics topic).map fun old => lib.setFilter old (asked options)) ∧
      s'.subscriptions = Function.update s.subscriptions handle
        (some { subscription with isCftEnabled := (asked options).expression ≠ "" }) := by
  rw [rmwSubscriptionSetContentFilter] at h
  split at h
  · next hret => exact absurd (congrArg Prod.snd h) (validateSubscription_ne_ok hret)
  · next topic hvalid =>
      obtain ⟨subscription, hsubscription, hdata⟩ := validateSubscription_ok hvalid
      split at h
      · cases h
      · next options =>
          split at h
          · next expression parameters hexpression hparameters =>
              obtain ⟨expression', hexpression', hfilter⟩ := makeDdsStringSeq_eq_some hparameters
              obtain rfl := Option.some.inj (hexpression.symm.trans hexpression')
              cases o with
              | notZzdds | outOfResources | rejected => cases h
              | ok =>
                  cases h
                  refine ⟨subscription, topic, hsubscription, hdata, ?_, ?_⟩
                  · rw [asked, hfilter]
                  · rw [hsubscription, asked, hfilter]
                    rfl
          · cases h

theorem rmwSubscriptionSetContentFilter_error {handle : Handle} {options : Option FilterOptions}
    {reserved : Bool} {o : SetOutcome} {ret : Ret}
    (h : rmwSubscriptionSetContentFilter lib s handle options reserved o = (s', ret))
    (hret : ret ≠ .ok) : s' = s := by
  rw [rmwSubscriptionSetContentFilter] at h
  split at h
  · cases h
    rfl
  · split at h
    · cases h
      rfl
    · split at h
      · cases o with
        | notZzdds | outOfResources | rejected =>
            cases h
            rfl
        | ok =>
            cases h
            exact absurd rfl hret
      · cases h
        rfl

omit [DecidableEq Obj] [DecidableEq Handle] in
/-- A subscription reads through a topic of its own, and its flag says whether that has
a filter. -/
structure Sound (lib : FilterLibraries Topic) (s : State Topic Obj Handle) : Prop where
  separate : Separate s.topicOf
  held : ∀ handle subscription, s.subscriptions handle = some subscription →
    ∃ topic t, subscription = ⟨identifier, some topic, (lib.filter t).expression ≠ ""⟩ ∧
      s.topics topic = some t

/-- What a step does to the topics and the subscriptions. -/
inductive Effect (lib : FilterLibraries Topic) (s s' : State Topic Obj Handle) :
    Change Handle → Prop where
  | made {handle : Handle} {topic : Obj} (t : Topic) :
      s.topics topic = none → s'.topics = Function.update s.topics topic (some t) →
      s'.subscriptions = Function.update s.subscriptions handle
        (some ⟨identifier, some topic, (lib.filter t).expression ≠ ""⟩) →
      Effect lib s s' (.installed handle (lib.filter t))
  | written {handle : Handle} {subscription : RmwSubscription Obj} {topic : Obj} {filter : Filter} :
      s.subscriptions handle = some subscription → subscription.data = some topic →
      s'.topics = Function.update s.topics topic
        ((s.topics topic).map fun old => lib.setFilter old filter) →
      s'.subscriptions = Function.update s.subscriptions handle
        (some { subscription with isCftEnabled := filter.expression ≠ "" }) →
      Effect lib s s' (.installed handle filter)
  | freed {handle : Handle} :
      s'.subscriptions = Function.update s.subscriptions handle none →
      (s'.topics = s.topics ∨ ∃ topic, s.topicOf handle = some topic ∧
        s'.topics = Function.update s.topics topic none) →
      Effect lib s s' (.removed handle)
  | kept {topic : Obj} (t : Option Topic) :
      s'.subscriptions = s.subscriptions → s.topics topic = none →
      s'.topics = Function.update s.topics topic t → Effect lib s s' .refused
  | same : s' = s → Effect lib s s' .refused

theorem effect_of_step {change : Change Handle} (h : Step lib s change s') :
    Effect lib s s' change := by
  cases h with
  | @create _ _ options _ _ _ htopic hhandle hcreate =>
      obtain ⟨rfl, hsubscriptions, name, htopics⟩ := rmwCreateSubscription_some hcreate
      rw [← lib.filter_createTopic name (asked options)]
      refine .made (lib.createTopic name (asked options)) htopic htopics ?_
      rw [← hsubscriptions, lib.filter_createTopic]
  | createFails htopic hcreate =>
      obtain ⟨hsubscriptions, t, htopics⟩ := rmwCreateSubscription_none hcreate htopic
      exact .kept t hsubscriptions htopic htopics
  | destroy handle deleted =>
      refine .freed rfl ?_
      show (match s.topicOf handle with
        | some topic => if deleted then Function.update s.topics topic none else s.topics
        | none => s.topics) = s.topics ∨ _
      cases htopic : s.topicOf handle with
      | none => exact .inl rfl
      | some topic =>
          cases deleted with
          | false => exact .inl rfl
          | true =>
              refine .inr ⟨topic, rfl, ?_⟩
              show (match s.topicOf handle with
                | some topic => if true then Function.update s.topics topic none else s.topics
                | none => s.topics) = _
              rw [htopic]
              rfl
  | set hset =>
      obtain ⟨subscription, topic, hsubscription, hdata, htopics, hsubscriptions⟩ :=
        rmwSubscriptionSetContentFilter_ok hset
      exact .written hsubscription hdata htopics hsubscriptions
  | setFails hset hret => exact .same (rmwSubscriptionSetContentFilter_error hset hret)

omit [DecidableEq Obj] [DecidableEq Handle] in
theorem Sound.unowned (h : Sound lib s) {topic : Obj} (hfresh : s.topics topic = none)
    (handle : Handle) : s.topicOf handle ≠ some topic := by
  intro howner
  obtain ⟨subscription, hsubscription, hdata⟩ := Option.bind_eq_some_iff.mp howner
  obtain ⟨topic', t, rfl, htopic⟩ := h.held handle subscription hsubscription
  obtain rfl := Option.some.inj hdata
  rw [hfresh] at htopic
  cases htopic

omit [DecidableEq Obj] in
/-- The owners after an update of the subscriptions. -/
theorem topicOf_update {handle : Handle} {subscription : Option (RmwSubscription Obj)}
    (h : s'.subscriptions = Function.update s.subscriptions handle subscription) :
    s'.topicOf = Function.update s.topicOf handle (subscription.bind RmwSubscription.data) := by
  show (fun subscription => subscription.bind RmwSubscription.data) ∘ s'.subscriptions = _
  rw [h, Function.comp_update]
  rfl

omit [DecidableEq Handle] in
/-- The filters of the topics after an update of the topics. -/
theorem filterOf_update (lib : FilterLibraries Topic) {topic : Obj} {t : Option Topic}
    (h : s'.topics = Function.update s.topics topic t) :
    (fun topic => (s'.topics topic).map lib.filter) =
      Function.update (fun topic => (s.topics topic).map lib.filter) topic
        (t.map lib.filter) := by
  show (fun t => t.map lib.filter) ∘ s'.topics = _
  rw [h, Function.comp_update]
  rfl

omit [DecidableEq Handle] in
/-- A subscription that reads through another topic is as it was. -/
theorem Sound.held_update (h : Sound lib s) {topic : Obj} {t : Option Topic}
    (htopics : s'.topics = Function.update s.topics topic t) {handle : Handle}
    {subscription : RmwSubscription Obj}
    (hsubscription : s.subscriptions handle = some subscription)
    (hother : s.topicOf handle ≠ some topic) :
    ∃ topic t, subscription = ⟨identifier, some topic, (lib.filter t).expression ≠ ""⟩ ∧
      s'.topics topic = some t := by
  obtain ⟨topic', t', rfl, htopic⟩ := h.held handle subscription hsubscription
  have hne : topic' ≠ topic := by
    rintro rfl
    exact hother (by rw [State.topicOf, hsubscription, Option.bind_some])
  exact ⟨topic', t', rfl, by rw [htopics, Function.update_of_ne hne, htopic]⟩

theorem Sound.made (h : Sound lib s) {handle : Handle} {topic : Obj} {t : Topic}
    (hfresh : s.topics topic = none)
    (htopics : s'.topics = Function.update s.topics topic (some t))
    (hsubscriptions : s'.subscriptions = Function.update s.subscriptions handle
      (some ⟨identifier, some topic, (lib.filter t).expression ≠ ""⟩)) :
    Sound lib s' ∧
      s'.installed lib = Function.update (s.installed lib) handle (some (lib.filter t)) := by
  have howner := topicOf_update hsubscriptions
  have hfilter := filterOf_update lib htopics
  refine ⟨⟨?_, ?_⟩, ?_⟩
  · rw [howner]
    exact h.separate.alloc (h.unowned hfresh)
  · intro handle' subscription hsubscription
    rw [hsubscriptions] at hsubscription
    obtain ⟨-, heq⟩ | ⟨-, hold⟩ := Table.update_eq_some hsubscription
    · obtain rfl := Option.some.inj heq
      exact ⟨topic, t, rfl, by rw [htopics, Function.update_self]⟩
    · exact h.held_update htopics hold (h.unowned hfresh handle')
  · rw [State.installed, howner, hfilter]
    exact lookup_alloc (h.unowned hfresh)

theorem Sound.written (h : Sound lib s) {handle : Handle} {subscription : RmwSubscription Obj}
    {topic : Obj} {filter : Filter} (hsubscription : s.subscriptions handle = some subscription)
    (hdata : subscription.data = some topic)
    (htopics : s'.topics = Function.update s.topics topic
      ((s.topics topic).map fun old => lib.setFilter old filter))
    (hsubscriptions : s'.subscriptions = Function.update s.subscriptions handle
      (some { subscription with isCftEnabled := filter.expression ≠ "" })) :
    Sound lib s' ∧ s'.installed lib = Function.update (s.installed lib) handle (some filter) := by
  obtain ⟨topic', t, rfl, htopic⟩ := h.held handle subscription hsubscription
  obtain rfl := Option.some.inj hdata
  rw [htopic, Option.map_some] at htopics
  have htopicOf : s.topicOf handle = some topic' := by
    rw [State.topicOf, hsubscription, Option.bind_some]
  have howner : s'.topicOf = s.topicOf := by
    rw [topicOf_update hsubscriptions, Option.bind_some, ← htopicOf, Function.update_eq_self]
  refine ⟨⟨?_, ?_⟩, ?_⟩
  · rw [howner]
    exact h.separate
  · intro handle' subscription hsubscription'
    rw [hsubscriptions] at hsubscription'
    obtain ⟨-, heq⟩ | ⟨hne, hold⟩ := Table.update_eq_some hsubscription'
    · obtain rfl := Option.some.inj heq
      exact ⟨topic', lib.setFilter t filter, by rw [lib.filter_setFilter],
        by rw [htopics, Function.update_self]⟩
    · refine h.held_update htopics hold fun hsame => hne ?_
      exact h.separate handle' handle topic' hsame htopicOf
  · rw [State.installed, howner, filterOf_update lib htopics, Option.map_some,
      lib.filter_setFilter]
    exact lookup_write h.separate htopicOf

theorem Sound.freed (h : Sound lib s) {handle : Handle}
    (hsubscriptions : s'.subscriptions = Function.update s.subscriptions handle none)
    (htopics : s'.topics = s.topics ∨ ∃ topic, s.topicOf handle = some topic ∧
      s'.topics = Function.update s.topics topic none) :
    Sound lib s' ∧ s'.installed lib = Function.update (s.installed lib) handle none := by
  have howner := topicOf_update hsubscriptions
  rw [Option.bind_none] at howner
  have hold : ∀ handle' subscription, s'.subscriptions handle' = some subscription →
      handle' ≠ handle ∧ s.subscriptions handle' = some subscription := by
    intro handle' subscription hsubscription
    rw [hsubscriptions] at hsubscription
    obtain ⟨-, heq⟩ | hold := Table.update_eq_some hsubscription
    · cases heq
    · exact hold
  have hseparate : Separate s'.topicOf := by
    rw [howner]
    exact h.separate.free
  cases htopicOf : s.topicOf handle with
  | none =>
      have hsame : s'.topics = s.topics := by
        obtain hsame | ⟨topic, htopic, -⟩ := htopics
        · exact hsame
        · rw [htopicOf] at htopic
          cases htopic
      refine ⟨⟨hseparate, ?_⟩, ?_⟩
      · intro handle' subscription hsubscription
        rw [hsame]
        exact h.held handle' subscription (hold handle' subscription hsubscription).2
      · have hnone : s.installed lib handle = none := by
          rw [State.installed, lookup, htopicOf, Option.bind_none]
        rw [← htopicOf, Function.update_eq_self] at howner
        rw [← hnone, Function.update_eq_self, State.installed, howner, hsame]
        rfl
  | some topic =>
      obtain ⟨t, htopics⟩ : ∃ t, s'.topics = Function.update s.topics topic t := by
        obtain hsame | ⟨topic', htopic, htopics⟩ := htopics
        · exact ⟨s.topics topic, by rw [hsame, Function.update_eq_self]⟩
        · obtain rfl := Option.some.inj (htopicOf.symm.trans htopic)
          exact ⟨none, htopics⟩
      refine ⟨⟨hseparate, ?_⟩, ?_⟩
      · intro handle' subscription hsubscription
        obtain ⟨hne, hsubscription⟩ := hold handle' subscription hsubscription
        refine h.held_update htopics hsubscription fun hsame => hne ?_
        exact h.separate handle' handle topic hsame htopicOf
      · rw [State.installed, howner, filterOf_update lib htopics]
        exact lookup_free h.separate htopicOf _

/-- The step keeps the invariant and changes the table of filters as its user sees. -/
theorem Sound.step (h : Sound lib s) {change : Change Handle} (heffect : Effect lib s s' change) :
    Sound lib s' ∧ filters.step (s.installed lib) change (s'.installed lib) := by
  cases heffect with
  | made t hfresh htopics hsubscriptions => exact h.made hfresh htopics hsubscriptions
  | written hsubscription hdata htopics hsubscriptions =>
      exact h.written hsubscription hdata htopics hsubscriptions
  | freed hsubscriptions htopics => exact h.freed hsubscriptions htopics
  | @kept topic t hsubscriptions hfresh htopics =>
      have howner : s'.topicOf = s.topicOf := by
        funext handle
        rw [State.topicOf, hsubscriptions, State.topicOf]
      refine ⟨⟨?_, ?_⟩, ?_⟩
      · rw [howner]
        exact h.separate
      · intro handle subscription hsubscription
        rw [hsubscriptions] at hsubscription
        exact h.held_update htopics hsubscription (h.unowned hfresh handle)
      · show s'.installed lib = s.installed lib
        rw [State.installed, howner, filterOf_update lib htopics]
        exact lookup_unowned (h.unowned hfresh) _
  | same hsame =>
      subst hsame
      exact ⟨h, rfl⟩

theorem sound_reachable (h : (system lib : System (State Topic Obj Handle) _).Reachable s) :
    Sound lib s := by
  refine h.invariant ?_ fun s change s' hsound hstep => (hsound.step (effect_of_step hstep)).1
  rintro s rfl
  constructor
  · intro handle handle' topic htopic
    cases htopic
  · intro handle subscription hsubscription
    cases hsubscription

/-- A run is one of the table. -/
theorem filters_run {changes : List (Change Handle)}
    (h : (system lib : System (State Topic Obj Handle) _).Run s changes s') (hs : Sound lib s) :
    filters.Run (s.installed lib) changes (s'.installed lib) := by
  induction h with
  | nil s => exact .nil _
  | cons hstep _ ih =>
      obtain ⟨hs', hfilters⟩ := hs.step (effect_of_step hstep)
      exact .cons hfilters (ih hs')

/-! ## What a user reads -/

omit [DecidableEq Obj] [DecidableEq Handle] in
/-- What the subscription says of its filter. -/
structure Reports (lib : FilterLibraries Topic) (s : State Topic Obj Handle) (handle : Handle)
    (subscription : RmwSubscription Obj) (filter : Filter) : Prop where
  flag : subscription.isCftEnabled = true ↔ filter.expression ≠ ""
  /-- Without a filter there is nothing to read. -/
  disabled : subscription.isCftEnabled = false →
    ∀ o, rmwSubscriptionGetContentFilter lib s handle true o = (.unsupported, none)
  /-- It is read as it was installed, if nothing fails. -/
  enabled : subscription.isCftEnabled = true → ∃ options, options.filter = filter ∧
    rmwSubscriptionGetContentFilter lib s handle true ⟨true, true, .ok⟩ = (.ok, some options)
  /-- And nothing else is ever read. -/
  only : ∀ arguments o ret options,
    rmwSubscriptionGetContentFilter lib s handle arguments o = (ret, some options) →
      ret = .ok ∧ options.filter = filter

omit [DecidableEq Obj] [DecidableEq Handle] in
theorem Sound.reports (h : Sound lib s) {handle : Handle} {subscription : RmwSubscription Obj}
    (hsubscription : s.subscriptions handle = some subscription) :
    ∃ filter, s.installed lib handle = some filter ∧ Reports lib s handle subscription filter := by
  obtain ⟨topic, t, rfl, htopic⟩ := h.held handle subscription hsubscription
  have hvalid : validateSubscription (s.subscriptions handle) = .ok topic := by
    rw [hsubscription, validateSubscription]
    exact if_neg fun hne => hne rfl
  have hget : ∀ arguments o, rmwSubscriptionGetContentFilter lib s handle arguments o =
      if !arguments then (.invalidArgument, none)
      else if (lib.filter t).expression = "" then (.unsupported, none)
      else if !o.parametersRead then (.error, none)
      else if !o.reserved then (.badAlloc, none)
      else if o.init = .ok then (.ok, some (lib.initOptions (lib.filter t)))
      else (o.init, none) := by
    intro arguments o
    rw [rmwSubscriptionGetContentFilter, hvalid]
    simp only [htopic]
  have hinstalled : s.installed lib handle = some (lib.filter t) := by
    rw [State.installed, lookup, State.topicOf, hsubscription, Option.bind_some, Option.bind_some,
      htopic, Option.map_some]
  refine ⟨lib.filter t, hinstalled, ?_⟩
  constructor
  · exact decide_eq_true_iff
  · intro hflag o
    have hempty : (lib.filter t).expression = "" := not_not.mp (of_decide_eq_false hflag)
    rw [hget, if_neg (by decide), if_pos hempty]
  · intro hflag
    have hexpression : ¬ (lib.filter t).expression = "" := of_decide_eq_true hflag
    refine ⟨lib.initOptions (lib.filter t), lib.filter_initOptions (lib.filter t), ?_⟩
    rw [hget, if_neg (by decide), if_neg hexpression]
    rfl
  · intro arguments o ret options hread
    rw [hget] at hread
    split at hread
    · cases hread
    · split at hread
      · cases hread
      · split at hread
        · cases hread
        · split at hread
          · cases hread
          · split at hread
            · cases hread
              exact ⟨rfl, lib.filter_initOptions (lib.filter t)⟩
            · cases hread

/-- Over every run zzdds applies the filters that the successful calls have asked for,
and every subscription reports its own. -/
theorem content_filter_refines {changes : List (Change Handle)}
    (h : (system lib : System (State Topic Obj Handle) _).Run .start changes s) :
    filters.Run (fun _ => none) changes (s.installed lib) ∧
      ∀ handle subscription, s.subscriptions handle = some subscription →
        ∃ filter, s.installed lib handle = some filter ∧
          Reports lib s handle subscription filter := by
  have hstart : Sound lib (State.start : State Topic Obj Handle) := sound_reachable (.init rfl)
  have hsound : Sound lib s := sound_reachable (h.reachable (.init rfl))
  refine ⟨filters_run h hstart, ?_⟩
  intro handle subscription hsubscription
  exact hsound.reports hsubscription

end

/-! ## Names -/

/-- A name fits the buffer. -/
theorem length_contentFilterName (id : UInt64) : (contentFilterName id).length < 64 := by
  have hdigits : (Nat.repr id.toNat).length ≤ 20 :=
    (Nat.length_repr_le_iff (by decide)).mpr (Nat.lt_trans id.toNat_lt (by decide))
  have hprefix : "rmw_zzdds_cft_".length = 14 := by decide
  rw [contentFilterName, String.length_append, hprefix]
  omega

theorem contentFilterName_inj {id id' : UInt64} :
    contentFilterName id = contentFilterName id' ↔ id = id' := by
  rw [contentFilterName, contentFilterName, String.append_right_inj, Nat.repr_inj, UInt64.toNat_inj]

section

variable {Topic Obj Handle : Type*} {lib : FilterLibraries Topic} {s s' : State Topic Obj Handle}

/-- A step constructs one name or none. -/
def Names (s s' : State Topic Obj Handle) : Prop :=
  (s'.named = s.named ∧ s'.nextContentFilterId = s.nextContentFilterId) ∨
    (s'.named = s.named ++ [contentFilterName s.nextContentFilterId] ∧
      s'.nextContentFilterId = s.nextContentFilterId + 1)

variable [DecidableEq Obj]

theorem createFilteredTopic_names {topic : Obj} {options : Option FilterOptions}
    {reserved created : Bool} {made : Option Obj}
    (h : createFilteredTopic lib s topic options reserved created = (s', made)) : Names s s' := by
  rw [createFilteredTopic] at h
  split at h
  · cases h
    exact .inl ⟨rfl, rfl⟩
  · simp only at h
    rw [if_neg (Nat.not_le.mpr (length_contentFilterName _))] at h
    split at h
    · cases h
      exact .inr ⟨rfl, rfl⟩
    · cases h
      exact .inr ⟨rfl, rfl⟩

theorem rmwCreateSubscription_names {topic : Obj} {options : Option FilterOptions} {o : Creation}
    {made : Option (RmwSubscription Obj)}
    (h : rmwCreateSubscription lib s topic options o = (s', made)) : Names s s' := by
  rw [rmwCreateSubscription] at h
  split at h
  · cases h
    exact .inl ⟨rfl, rfl⟩
  · split at h
    · cases h
      exact .inl ⟨rfl, rfl⟩
    · split at h
      · next hmade =>
          cases h
          exact createFilteredTopic_names hmade
      · next hmade =>
          have hnames := createFilteredTopic_names hmade
          split at h
          · cases h
            exact hnames
          · split at h
            · cases h
              exact hnames
            · cases h
              exact hnames

variable [DecidableEq Handle]

theorem rmwSubscriptionSetContentFilter_names {handle : Handle} {options : Option FilterOptions}
    {reserved : Bool} {o : SetOutcome} {ret : Ret}
    (h : rmwSubscriptionSetContentFilter lib s handle options reserved o = (s', ret)) :
    s'.named = s.named ∧ s'.nextContentFilterId = s.nextContentFilterId := by
  rw [rmwSubscriptionSetContentFilter] at h
  split at h
  · cases h
    exact ⟨rfl, rfl⟩
  · split at h
    · cases h
      exact ⟨rfl, rfl⟩
    · split at h
      · cases o with
        | notZzdds | ok | outOfResources | rejected =>
            cases h
            exact ⟨rfl, rfl⟩
      · cases h
        exact ⟨rfl, rfl⟩

theorem names_of_step {change : Change Handle} (h : Step lib s change s') : Names s s' := by
  cases h with
  | create _ _ hcreate =>
      have hnames := rmwCreateSubscription_names hcreate
      exact hnames
  | createFails _ hcreate => exact rmwCreateSubscription_names hcreate
  | destroy handle deleted => exact .inl ⟨rfl, rfl⟩
  | set hset => exact .inl (rmwSubscriptionSetContentFilter_names hset)
  | setFails hset hret => exact .inl (rmwSubscriptionSetContentFilter_names hset)

/-- The names count up. -/
theorem named_eq (h : (system lib : System (State Topic Obj Handle) _).Reachable s) :
    s.nextContentFilterId = UInt64.ofNat s.named.length ∧
      s.named = (List.range s.named.length).map fun i => contentFilterName (UInt64.ofNat i) := by
  refine h.invariant (I := fun s => s.nextContentFilterId = UInt64.ofNat s.named.length ∧
    s.named = (List.range s.named.length).map fun i => contentFilterName (UInt64.ofNat i)) ?_ ?_
  · rintro s rfl
    exact ⟨rfl, rfl⟩
  · intro s change s' hs hstep
    obtain ⟨hnext, hnamed⟩ := hs
    obtain ⟨hsame, hid⟩ | ⟨hnew, hid⟩ := names_of_step hstep
    · rw [hsame, hid]
      exact ⟨hnext, hnamed⟩
    · have hlength : s'.named.length = s.named.length + 1 := by rw [hnew, List.length_append]; rfl
      constructor
      · rw [hid, hnext, hlength, UInt64.ofNat_add]
        rfl
      · rw [hlength, List.range_succ, List.map_append, ← hnamed, hnew, hnext]
        rfl

/-- Two creations use one name just if a multiple of `2 ^ 64` creations is between
them.  No name is too long for its buffer. -/
theorem names_distinct (h : (system lib : System (State Topic Obj Handle) _).Reachable s) :
    (∀ name ∈ s.named, name.length < 64) ∧
    ∀ i j (hi : i < s.named.length) (hj : j < s.named.length),
      s.named[i] = s.named[j] ↔ i % 2 ^ 64 = j % 2 ^ 64 := by
  obtain ⟨-, hnamed⟩ := named_eq h
  have hname : ∀ i (hi : i < s.named.length), s.named[i] = contentFilterName (UInt64.ofNat i) := by
    intro i hi
    rw [List.getElem_of_eq hnamed hi, List.getElem_map, List.getElem_range]
  constructor
  · intro name hmem
    rw [hnamed] at hmem
    obtain ⟨i, -, rfl⟩ := List.mem_map.mp hmem
    exact length_contentFilterName _
  · intro i j hi hj
    rw [hname i hi, hname j hj, contentFilterName_inj, ← UInt64.toNat_inj, UInt64.toNat_ofNat',
      UInt64.toNat_ofNat']

end

/-! ## Two subscriptions -/

/-- Options that have every string of a filter. -/
def FilterOptions.ofFilter (filter : Filter) : FilterOptions where
  filterExpression := some filter.expression
  expressionParameters :=
    { size := filter.parameters.length
      data := some (filter.parameters.map some)
      length_eq := by
        rintro _ ⟨⟩
        exact List.length_map .. }

/-- A topic that keeps the name and the filter it was made with. -/
structure FilteredTopic where
  name : String
  filter : Filter

theorem filter_ofFilter (filter : Filter) : (FilterOptions.ofFilter filter).filter = filter := by
  have hparameters : (filter.parameters.map some).reduceOption = filter.parameters := by
    rw [List.reduceOption, List.filterMap_map]
    exact List.filterMap_some
  show (⟨filter.expression, (filter.parameters.map some).reduceOption⟩ : Filter) = filter
  rw [hparameters]

/-- Every topic keeps the last filter that it was given. -/
def keptTopics : FilterLibraries FilteredTopic where
  createTopic := FilteredTopic.mk
  setFilter topic filter := { topic with filter }
  filter := FilteredTopic.filter
  initOptions := FilterOptions.ofFilter
  filter_createTopic _ _ := rfl
  filter_setFilter _ _ := rfl
  filter_initOptions := filter_ofFilter

/-- A subscription is made without failures. -/
def State.create (s : State FilteredTopic Bool Bool) (handle : Bool)
    (options : Option FilterOptions) : State FilteredTopic Bool Bool :=
  let made := rmwCreateSubscription keptTopics s handle options ⟨true, true, true, true, true⟩
  { made.1 with subscriptions := Function.update made.1.subscriptions handle made.2 }

theorem State.step_create {s : State FilteredTopic Bool Bool} {handle : Bool}
    {options : Option FilterOptions} (htopic : s.topics handle = none)
    (hhandle : s.subscriptions handle = none)
    (hmade : (rmwCreateSubscription keptTopics s handle options
      ⟨true, true, true, true, true⟩).2.isSome) :
    Step keptTopics s (.installed handle (asked options)) (s.create handle options) := by
  obtain ⟨subscription, hsubscription⟩ := Option.isSome_iff_exists.mp hmade
  rw [State.create, hsubscription]
  exact .create htopic hhandle (Prod.ext rfl hsubscription)

/-- The filter of a subscription is changed without failures. -/
def State.set (s : State FilteredTopic Bool Bool) (handle : Bool) (options : FilterOptions) :
    State FilteredTopic Bool Bool :=
  (rmwSubscriptionSetContentFilter keptTopics s handle (some options) true .ok).1

theorem State.step_set {s : State FilteredTopic Bool Bool} {handle : Bool} {options : FilterOptions}
    (hset : (rmwSubscriptionSetContentFilter keptTopics s handle (some options) true .ok).2 = .ok) :
    Step keptTopics s (.installed handle (asked (some options))) (s.set handle options) :=
  .set (Prod.ext rfl hset)

def greater : FilterOptions := .ofFilter ⟨"x > %0", ["3"]⟩

def cleared : FilterOptions := .ofFilter ⟨"", []⟩

/-- The first subscription has no filter and gets one, and that of the second is
cleared. -/
def twoSubscriptions : State FilteredTopic Bool Bool :=
  (((State.start.create false none).create true (some greater)).set false greater).set true cleared

theorem run_twoSubscriptions :
    (system keptTopics : System (State FilteredTopic Bool Bool) _).Run .start
      [.installed false (asked none), .installed true (asked (some greater)),
        .installed false (asked (some greater)), .installed true (asked (some cleared))]
      twoSubscriptions := by
  let first : State FilteredTopic Bool Bool := State.start.create false none
  let second := first.create true (some greater)
  have hfirst : Step keptTopics .start (.installed false (asked none)) first :=
    State.step_create rfl rfl rfl
  have hsecond : Step keptTopics first (.installed true (asked (some greater))) second :=
    State.step_create (by decide) (by decide) (by decide)
  have hthird :
      Step keptTopics second (.installed false (asked (some greater))) (second.set false greater) :=
    State.step_set (by decide)
  have hfourth : Step keptTopics (second.set false greater) (.installed true (asked (some cleared)))
      twoSubscriptions := State.step_set (by decide)
  exact .cons hfirst (.cons hsecond (.cons hthird (.cons hfourth (.nil _))))

/-- The filter of the first subscription is read back, and the second has none. -/
theorem content_filter_refines_two :
    (∃ options, options.filter = ⟨"x > %0", ["3"]⟩ ∧
      rmwSubscriptionGetContentFilter keptTopics twoSubscriptions false true ⟨true, true, .ok⟩ =
        (.ok, some options)) ∧
    rmwSubscriptionGetContentFilter keptTopics twoSubscriptions true true ⟨true, true, .ok⟩ =
      (.unsupported, none) := by
  obtain ⟨-, hreports⟩ := content_filter_refines run_twoSubscriptions
  obtain ⟨filter, hinstalled, hfirst⟩ := hreports false _ rfl
  obtain ⟨filter', -, hsecond⟩ := hreports true _ rfl
  obtain rfl : (⟨"x > %0", ["3"]⟩ : Filter) = filter := Option.some.inj hinstalled
  exact ⟨hfirst.enabled rfl, hsecond.disabled rfl _⟩

/-- The two names differ. -/
theorem names_distinct_two : twoSubscriptions.named.get ⟨0, by decide⟩ ≠
    twoSubscriptions.named.get ⟨1, by decide⟩ := by
  have hdistinct := (names_distinct (run_twoSubscriptions.reachable (.init rfl))).2
  intro hsame
  have hmod := (hdistinct 0 1 (by decide) (by decide)).mp hsame
  exact absurd hmod (by decide)

end RmwZzdds.DataPlane.ContentFilter
