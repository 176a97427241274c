import Mathlib.Data.List.Chain
import RmwZzdds.Graph.Names

/-!
# Which service names are accepted

A service is created under the names of its two topics, and only these are
checked.  The name of the service itself is checked by the queries of the
graph.  The suffixes `Request` and `Reply` hide a slash at the end of the name:
it passes the checks of the topics, and the graph rejects it
(`service_name_accepted_iff`).

`rmw_validate_full_topic_name` belongs to rmw.  `ValidatesFullNames` is what its
documentation says.
-/

namespace RmwZzdds.Service

open RmwZzdds.Graph (Name ddsNameCapacity ddsTopicName serviceTopics)

/-! ## Fully qualified names -/

/-- The characters of names. -/
def IsNameCharacter (c : Char) : Prop := c.isAlphanum = true ∨ c = '_' ∨ c = '/'

/-- What may follow a character: after a slash comes neither a slash nor a
digit. -/
def MayFollow (a b : Char) : Prop := a = '/' → b ≠ '/' ∧ b.isDigit = false

/-- A valid fully qualified name of ROS. -/
structure IsFullName (name : Name) : Prop where
  absolute : name.head? = some '/'
  notSlash : name.getLast? ≠ some '/'
  characters : ∀ c ∈ name, IsNameCharacter c
  tokens : name.IsChain MayFollow

instance (c : Char) : Decidable (IsNameCharacter c) := inferInstanceAs (Decidable (_ ∨ _))

instance (a b : Char) : Decidable (MayFollow a b) := inferInstanceAs (Decidable (_ → _))

instance (name : Name) : Decidable (IsFullName name) :=
  decidable_of_iff (name.head? = some '/' ∧ name.getLast? ≠ some '/' ∧
      (∀ c ∈ name, IsNameCharacter c) ∧ name.IsChain MayFollow)
    ⟨fun h => ⟨h.1, h.2.1, h.2.2.1, h.2.2.2⟩,
      fun h => ⟨h.absolute, h.notSlash, h.characters, h.tokens⟩⟩

/-- `rmw_validate_full_topic_name` finds a name valid if it is, up to the longest
name of rmw. -/
def ValidatesFullNames (validate : Name → Bool) (maxLength : ℕ) : Prop :=
  ∀ name, validate name = true ↔ IsFullName name ∧ name.length ≤ maxLength

/-! ## Checks -/

/-- `validate_topic`. -/
def validateTopic (validate : Name → Bool) (topicName : Option Name) (native : Bool) : Bool :=
  match topicName with
  | none => false
  | some [] => false
  | some name => native || validate name

/-- The checks of a topic name by `rmw_create_publisher` and
`rmw_create_subscription`. -/
def topicAccepted (validate : Name → Bool) (topic : Name) (native : Bool) : Bool :=
  validateTopic validate (some topic) native && (ddsTopicName topic native).isSome

/-- The checks of a service name by `rmw_create_client` and `rmw_create_service`,
with a QoS profile that keeps to the conventions of ROS. -/
def serviceNameAccepted (validate : Name → Bool) (name : Name) : Bool :=
  match serviceTopics name with
  | none => false
  | some (request, response) =>
      topicAccepted validate request false && topicAccepted validate response false

/-- The request and the response topic of a service. -/
def requestTopic (name : Name) : Name := "/rq".toList ++ name ++ "Request".toList

def responseTopic (name : Name) : Name := "/rr".toList ++ name ++ "Reply".toList

/-- A name is short enough for rmw and for the buffer of `dds_topic_name`, behind
the prefix `rt`. -/
def WithinLimits (maxLength : ℕ) (topic : Name) : Prop :=
  topic.length ≤ maxLength ∧ 2 + topic.length + 1 ≤ ddsNameCapacity

theorem topicAccepted_iff {validate : Name → Bool} {maxLength : ℕ}
    (hvalidate : ValidatesFullNames validate maxLength) (topic : Name) :
    topicAccepted validate topic false = true ↔
      IsFullName topic ∧ WithinLimits maxLength topic := by
  have hdds : (ddsTopicName topic false).isSome = true ↔
      2 + topic.length + 1 ≤ ddsNameCapacity := by
    rw [ddsTopicName]
    simp only [Bool.false_eq_true, if_false]
    split
    next hlong => simpa using hlong
    next hshort => simpa using Nat.le_of_not_lt hshort
  have hchecked : validateTopic validate (some topic) false = validate topic := by
    cases topic with
    | nil =>
        have hnil : validate [] = false := by
          rw [← Bool.not_eq_true, hvalidate]
          rintro ⟨⟨habsolute, -, -, -⟩, -⟩
          cases habsolute
        exact hnil.symm
    | cons c rest => rfl
  rw [topicAccepted, Bool.and_eq_true, hdds, hchecked, hvalidate, WithinLimits, and_assoc]

/-! ## Names between a head and a tail -/

/-- A word that makes a valid name of what stands before it. -/
structure IsWord (word : Name) : Prop where
  characters : ∀ c ∈ word, IsNameCharacter c
  tokens : word.IsChain MayFollow
  first : ∀ c ∈ word.head?, c ≠ '/' ∧ c.isDigit = false
  last : ∃ c ∈ word.getLast?, c ≠ '/'

/-- A name between a head like `/rq` and a word is valid just if its own
characters and tokens are. -/
theorem isFullName_append {front word : Name} (hfront : IsFullName front) (name : Name)
    (hword : IsWord word) : IsFullName (front ++ name ++ word) ↔
      (∀ c ∈ name, IsNameCharacter c) ∧ name.IsChain MayFollow := by
  have hne : front ≠ [] := fun hnil => by
    have habsolute := hfront.absolute
    rw [hnil] at habsolute
    cases habsolute
  obtain ⟨last, hlast, hslash⟩ := hword.last
  constructor
  · intro h
    refine ⟨fun c hc => h.characters c (by simp [hc]), ?_⟩
    exact (List.isChain_append.mp (List.isChain_append.mp h.tokens).1).2.1
  · rintro ⟨hcharacters, htokens⟩
    refine ⟨?_, ?_, ?_, ?_⟩
    · rw [List.append_assoc, List.head?_append_of_ne_nil _ hne]
      exact hfront.absolute
    · rw [List.getLast?_append, hlast, Option.some_or]
      exact fun heq => hslash (Option.some.inj heq)
    · intro c hc
      rcases List.mem_append.mp hc with hc | hc
      · rcases List.mem_append.mp hc with hc | hc
        · exact hfront.characters c hc
        · exact hcharacters c hc
      · exact hword.characters c hc
    · refine List.isChain_append.mpr ⟨List.isChain_append.mpr ⟨hfront.tokens, htokens, ?_⟩,
        hword.tokens, ?_⟩
      · rintro a ha b - rfl
        exact (hfront.notSlash ha).elim
      · intro a _ b hb _
        exact hword.first b hb

theorem isWord_request : IsWord "Request".toList where
  characters := by decide
  tokens := by decide
  first := by decide
  last := ⟨'t', rfl, by decide⟩

theorem isWord_reply : IsWord "Reply".toList where
  characters := by decide
  tokens := by decide
  first := by decide
  last := ⟨'y', rfl, by decide⟩

/-- The topics of a service are valid just if the name is, but for a slash at
its end. -/
theorem serviceNameAccepted_iff {validate : Name → Bool} {maxLength : ℕ}
    (hvalidate : ValidatesFullNames validate maxLength) (name : Name) :
    serviceNameAccepted validate name = true ↔
      (name.head? = some '/' ∧ name.tail ≠ []) ∧
        ((∀ c ∈ name, IsNameCharacter c) ∧ name.IsChain MayFollow) ∧
        WithinLimits maxLength (requestTopic name) ∧ WithinLimits maxLength (responseTopic name) := by
  rw [serviceNameAccepted, serviceTopics]
  by_cases hname : name.head? = some '/' ∧ name.tail ≠ []
  · have hchecked : ¬ (name.head? ≠ some '/' ∨ name.tail = []) := by
      rw [not_or, not_not]
      exact hname
    have hrequest :=
      isFullName_append (show IsFullName "/rq".toList by decide) name isWord_request
    have hresponse :=
      isFullName_append (show IsFullName "/rr".toList by decide) name isWord_reply
    rw [if_neg hchecked]
    simp only [Bool.and_eq_true, topicAccepted_iff hvalidate, hrequest, hresponse, hname,
      requestTopic, responseTopic]
    tauto
  · have hchecked : name.head? ≠ some '/' ∨ name.tail = [] := by
      rw [← not_and_or.trans (or_congr_right not_not)]
      exact hname
    rw [if_pos hchecked]
    simp [hname]

/-! ## The name itself -/

/-- The name is a valid one with a slash behind it, and its topics are short
enough. -/
def EndsWithSlash (maxLength : ℕ) (name : Name) : Prop :=
  (∃ valid, IsFullName valid ∧ name = valid ++ ['/']) ∧
    WithinLimits maxLength (requestTopic name) ∧ WithinLimits maxLength (responseTopic name)

/-- A name with a slash at its end that is otherwise valid. -/
theorem exists_isFullName_iff (name : Name) :
    (∃ valid, IsFullName valid ∧ name = valid ++ ['/']) ↔
      (name.head? = some '/' ∧ name.tail ≠ []) ∧
        ((∀ c ∈ name, IsNameCharacter c) ∧ name.IsChain MayFollow) ∧
        name.getLast? = some '/' := by
  constructor
  · rintro ⟨valid, hvalid, rfl⟩
    have hne : valid ≠ [] := fun hnil => by
      have habsolute := hvalid.absolute
      rw [hnil] at habsolute
      cases habsolute
    refine ⟨⟨?_, ?_⟩, ⟨?_, ?_⟩, by simp⟩
    · rw [List.head?_append_of_ne_nil _ hne]
      exact hvalid.absolute
    · rw [List.tail_append_of_ne_nil hne]
      simp
    · intro c hc
      rcases List.mem_append.mp hc with hc | hc
      · exact hvalid.characters c hc
      · exact .inr (.inr (List.mem_singleton.mp hc))
    · refine List.isChain_append.mpr ⟨hvalid.tokens, .singleton _, ?_⟩
      rintro a ha b - rfl
      exact (hvalid.notSlash ha).elim
  · rintro ⟨⟨habsolute, htail⟩, ⟨hcharacters, htokens⟩, hlast⟩
    obtain ⟨valid, rfl⟩ := List.getLast?_eq_some_iff.mp hlast
    have hne : valid ≠ [] := by
      rintro rfl
      exact htail rfl
    obtain ⟨hvalid, -, hend⟩ := List.isChain_append.mp htokens
    refine ⟨valid, ⟨?_, ?_, fun c hc => hcharacters c (by simp [hc]), hvalid⟩, rfl⟩
    · rwa [List.head?_append_of_ne_nil _ hne] at habsolute
    · intro hslash
      exact (hend '/' hslash '/' rfl rfl).1 rfl

/-- The checks of a service accept just the valid names within the limits, apart
from valid names with a slash behind them. -/
theorem service_name_accepted_iff {validate : Name → Bool} {maxLength : ℕ}
    (hvalidate : ValidatesFullNames validate maxLength) (name : Name) :
    (serviceNameAccepted validate name = true ↔ IsFullName name ∧
      WithinLimits maxLength (requestTopic name) ∧ WithinLimits maxLength (responseTopic name)) ↔
    ¬ EndsWithSlash maxLength name := by
  have htail : IsFullName name → name.tail ≠ [] := by
    intro hname hnil
    obtain ⟨c, rest, rfl⟩ := List.exists_cons_of_ne_nil (l := name) (by
      rintro rfl
      exact absurd hname.absolute (by decide))
    obtain rfl : rest = [] := hnil
    exact hname.notSlash hname.absolute
  rw [serviceNameAccepted_iff hvalidate, EndsWithSlash, exists_isFullName_iff]
  constructor
  · rintro haccepted ⟨⟨habsolute, hcharacters, hlast⟩, hlimits⟩
    exact (haccepted.mp ⟨habsolute, hcharacters, hlimits⟩).1.notSlash hlast
  · intro hno
    constructor
    · rintro ⟨habsolute, hcharacters, hlimits⟩
      refine ⟨⟨habsolute.1, fun hlast => ?_, hcharacters.1, hcharacters.2⟩, hlimits⟩
      exact hno ⟨⟨habsolute, hcharacters, hlast⟩, hlimits⟩
    · rintro ⟨hname, hlimits⟩
      exact ⟨⟨hname.absolute, htail hname⟩, ⟨hname.characters, hname.tokens⟩, hlimits⟩

/-! ## The longest name of rmw -/

/-- `RMW_TOPIC_MAX_NAME_LENGTH`. -/
def rmwTopicMaxNameLength : ℕ := 247

def validateFullName (name : Name) : Bool := IsFullName name ∧ name.length ≤ rmwTopicMaxNameLength

theorem validateFullName_validates : ValidatesFullNames validateFullName rmwTopicMaxNameLength :=
  fun _ => by simp [validateFullName]

/-- The service `/add/` is created, and the graph does not take its name. -/
theorem slash_accepted : ¬ ∀ name,
    serviceNameAccepted validateFullName name = true ↔ IsFullName name ∧
      WithinLimits rmwTopicMaxNameLength (requestTopic name) ∧
      WithinLimits rmwTopicMaxNameLength (responseTopic name) := by
  intro h
  have hname := ((h "/add/".toList).mp (by decide)).1
  exact hname.notSlash (by decide)

/-- The service `/add`. -/
theorem add_accepted : serviceNameAccepted validateFullName "/add".toList = true ↔
    IsFullName "/add".toList ∧ WithinLimits rmwTopicMaxNameLength (requestTopic "/add".toList) ∧
      WithinLimits rmwTopicMaxNameLength (responseTopic "/add".toList) := by
  refine (service_name_accepted_iff validateFullName_validates _).mpr ?_
  rintro ⟨⟨valid, -, heq⟩, -⟩
  have hlast : "/add".toList.getLast? = some '/' := by rw [heq, List.getLast?_concat]
  exact absurd hlast (by decide)

end RmwZzdds.Service
