import Mathlib.Data.Set.Basic
import Mathlib.Data.List.Infix

/-!
# Names of topics

A ROS topic has the name of its DDS topic behind the prefix `rt`, and the two
topics of a service are ordinary topics whose names begin with `/rq` and `/rr`.
The graph shows the topics of ROS under their own names and hides those of
services.  `demangle_dds_topic` tells the two apart by their first three
characters, which hides every topic that begins like the topic of a service.
-/

namespace RmwZzdds.Graph

/-- A string of C without its terminator. -/
abbrev Name := List Char

-- these look at the characters of a name, where others look at all characters
instance (priority := 2000) decidableForallMem (p : Char → Prop) [DecidablePred p] (name : Name) :
    Decidable (∀ c ∈ name, p c) := List.decidableBAll p name

instance (priority := 2000) decidableForallSome (p : Char → Prop) [DecidablePred p]
    (c : Option Char) : Decidable (∀ d ∈ c, p d) :=
  match c with
  | none => .isTrue nofun
  | some d => decidable_of_iff (p d) ⟨fun h _ he => Option.mem_some_iff.mp he ▸ h, fun h => h d rfl⟩

/-- The size of the buffer for the name of a DDS topic. -/
def ddsNameCapacity : ℕ := 264

/-- `dds_topic_name`. -/
def ddsTopicName (rosName : Name) (native : Bool) : Option Name :=
  let rosPrefix := if native then [] else "rt".toList
  if rosPrefix.length + rosName.length + 1 > ddsNameCapacity then none
  else some (rosPrefix ++ rosName)

/-- `service_topics`, with the topics of the request and of the response. -/
def serviceTopics (name : Name) : Option (Name × Name) :=
  if name.head? ≠ some '/' ∨ name.tail = [] then none
  else some ("/rq".toList ++ name ++ "Request".toList, "/rr".toList ++ name ++ "Reply".toList)

/-- `demangle_dds_topic`. -/
def demangleDdsTopic (ddsTopic : Name) : Name :=
  if !"rt/".toList.isPrefixOf ddsTopic then []
  else
    let rosTopic := ddsTopic.drop 2
    if "/rq".toList.isPrefixOf rosTopic || "/rr".toList.isPrefixOf rosTopic then []
    else rosTopic

/-- The names that a demangled listing of some DDS topics shows.  A topic
without a name is left out. -/
def shownNames (ddsTopics : Set Name) : Set Name :=
  { name | name ≠ [] ∧ ∃ topic ∈ ddsTopics, demangleDdsTopic topic = name }

/-- A fully qualified name. -/
def IsAbsolute (name : Name) : Prop := name.head? = some '/'

/-- The name of a topic of a service. -/
def IsServiceTopic (name : Name) : Prop :=
  ∃ service request response, serviceTopics service = some (request, response) ∧
    (name = request ∨ name = response)

/-- The DDS topics of some topics and services. -/
def ddsTopics (topics services : Set Name) : Set Name :=
  { topic | ∃ name, (name ∈ topics ∨ ∃ service ∈ services, ∃ request response,
      serviceTopics service = some (request, response) ∧ (name = request ∨ name = response)) ∧
    ddsTopicName name false = some topic }

/-- A name that begins like the topic of a service. -/
def HasServicePrefix (name : Name) : Prop :=
  "/rq".toList <+: name ∨ "/rr".toList <+: name

instance (name : Name) : Decidable (HasServicePrefix name) :=
  inferInstanceAs (Decidable (_ ∨ _))

theorem ddsTopicName_eq {name topic : Name} (h : ddsTopicName name false = some topic) :
    topic = "rt".toList ++ name := by
  simp only [ddsTopicName, Bool.false_eq_true, if_false] at h
  split at h
  · cases h
  · exact (Option.some.inj h).symm

/-- The demangled name of a topic. -/
theorem demangle_ddsTopicName {name topic : Name} (habsolute : IsAbsolute name)
    (h : ddsTopicName name false = some topic) :
    demangleDdsTopic topic = if HasServicePrefix name then [] else name := by
  obtain ⟨rest, rfl⟩ : ∃ rest, name = '/' :: rest := by
    cases name with
    | nil => cases habsolute
    | cons c rest => exact ⟨rest, by rw [Option.some.inj habsolute]⟩
  rw [ddsTopicName_eq h]
  simp [demangleDdsTopic, HasServicePrefix]

/-- A topic comes back exactly if it does not look like that of a service. -/
theorem demangle_eq_self {name topic : Name} (habsolute : IsAbsolute name)
    (h : ddsTopicName name false = some topic) :
    demangleDdsTopic topic = name ↔ ¬ HasServicePrefix name := by
  rw [demangle_ddsTopicName habsolute h]
  split
  next hservice =>
    refine ⟨fun hnil => ?_, fun hno => (hno hservice).elim⟩
    rw [← hnil] at habsolute
    cases habsolute
  next hno => exact ⟨fun _ => hno, fun _ => rfl⟩

/-- The topics of a service look like topics of a service. -/
theorem serviceTopics_absolute {service request response name : Name}
    (h : serviceTopics service = some (request, response)) (hname : name = request ∨ name = response) :
    IsAbsolute name ∧ HasServicePrefix name := by
  unfold serviceTopics at h
  split at h
  · cases h
  · cases h
    rcases hname with rfl | rfl
    · exact ⟨rfl, .inl (by simp)⟩
    · exact ⟨rfl, .inr (by simp)⟩

theorem demangle_serviceTopics {service request response name topic : Name}
    (hservice : serviceTopics service = some (request, response))
    (hname : name = request ∨ name = response) (h : ddsTopicName name false = some topic) :
    demangleDdsTopic topic = [] := by
  obtain ⟨habsolute, hprefix⟩ := serviceTopics_absolute hservice hname
  rw [demangle_ddsTopicName habsolute h, if_pos hprefix]

/-- Names of topics that zzdds can take and that are not topics of services. -/
structure Ordinary (name : Name) : Prop where
  absolute : IsAbsolute name
  notService : ¬ IsServiceTopic name
  fits : (ddsTopicName name false).isSome

/-- The shown names of ordinary topics among topics of services. -/
theorem mem_shownNames {topics services : Set Name} (htopics : ∀ name ∈ topics, Ordinary name)
    (name : Name) : name ∈ shownNames (ddsTopics topics services) ↔
      name ∈ topics ∧ ¬ HasServicePrefix name := by
  constructor
  · rintro ⟨hne, topic, ⟨given, hgiven, htopic⟩, rfl⟩
    rcases hgiven with hgiven | ⟨service, -, request, response, hservice, hgiven⟩
    · have hdemangle := demangle_ddsTopicName (htopics given hgiven).absolute htopic
      split at hdemangle
      · exact (hne hdemangle).elim
      next hno =>
        rw [hdemangle]
        exact ⟨hgiven, hno⟩
    · exact (hne (demangle_serviceTopics hservice hgiven htopic)).elim
  · rintro ⟨hname, hno⟩
    obtain ⟨topic, htopic⟩ := Option.isSome_iff_exists.mp (htopics name hname).fits
    have habsolute := (htopics name hname).absolute
    refine ⟨?_, topic, ⟨name, .inl hname, htopic⟩, (demangle_eq_self habsolute htopic).mpr hno⟩
    rintro rfl
    cases habsolute

/-- Which names the graph gives back. -/
theorem topic_name_round_trip (topics services : Set Name) :
    (∀ name topic, Ordinary name → ddsTopicName name false = some topic →
      (demangleDdsTopic topic = name ↔ ¬ HasServicePrefix name)) ∧
    (∀ service request response name topic, serviceTopics service = some (request, response) →
      (name = request ∨ name = response) → ddsTopicName name false = some topic →
      demangleDdsTopic topic = []) ∧
    ((∀ name ∈ topics, Ordinary name) →
      (shownNames (ddsTopics topics services) = topics ↔
        ∀ name ∈ topics, ¬ HasServicePrefix name)) := by
  refine ⟨fun name topic hname => demangle_eq_self hname.absolute,
    fun _ _ _ _ _ => demangle_serviceTopics, fun htopics => ?_⟩
  constructor
  · intro hshown name hname
    rw [← hshown] at hname
    exact ((mem_shownNames htopics name).mp hname).2
  · intro hno
    ext name
    rw [mem_shownNames htopics]
    exact ⟨fun h => h.1, fun h => ⟨h, hno name h⟩⟩

def chatter : Name := "/chatter".toList

/-- The topic of the talker comes back. -/
theorem chatter_round_trip : Ordinary chatter ∧
    demangleDdsTopic ("rt".toList ++ chatter) = chatter := by
  have hordinary : Ordinary chatter := by
    refine ⟨rfl, ?_, by decide⟩
    rintro ⟨service, request, response, hservice, hname⟩
    have hprefix := (serviceTopics_absolute hservice hname).2
    revert hprefix
    decide
  obtain ⟨hround, -⟩ := topic_name_round_trip {chatter} ∅
  exact ⟨hordinary, (hround chatter _ hordinary (by decide)).mpr (by decide)⟩

/-- A topic whose name begins like the topic of a service. -/
def rqtStatus : Name := "/rqt_status".toList

theorem ordinary_rqtStatus : Ordinary rqtStatus where
  absolute := rfl
  notService := by
    rintro ⟨service, request, response, hservice, hname⟩
    cases service with
    | nil => simp [serviceTopics] at hservice
    | cons c rest =>
      unfold serviceTopics at hservice
      split at hservice
      · cases hservice
      next hslash =>
        cases hservice
        -- the fourth character is no slash
        simp only [List.head?_cons, Option.some.injEq, not_or, not_not] at hslash
        obtain ⟨rfl, -⟩ := hslash
        have hfourth : rqtStatus[3]? = some 't' := by decide
        rcases hname with hname | hname
        · rw [hname, List.append_assoc, List.getElem?_append_right (by decide)] at hfourth
          cases hfourth
        · rw [hname, List.append_assoc, List.getElem?_append_right (by decide)] at hfourth
          cases hfourth
  fits := by decide

/-- An ordinary topic that the graph hides. -/
theorem rqt_status_hidden : ¬ ∀ name topic, Ordinary name →
    ddsTopicName name false = some topic → demangleDdsTopic topic = name := by
  intro h
  have hname := h rqtStatus ("rt".toList ++ rqtStatus) ordinary_rqtStatus (by decide)
  revert hname
  decide

end RmwZzdds.Graph
