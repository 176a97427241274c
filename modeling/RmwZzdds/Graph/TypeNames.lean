import RmwZzdds.Graph.Names
import RmwZzdds.Library.Search

/-!
# Names of types

The generator writes the name of a type as DDS does, with its namespaces, the
marker `dds_` and an underscore at the end.  The graph undoes this on the string:
it erases the first marker, drops an underscore from the end and makes a slash
of every double colon.  For the type of a service it then cuts off the ending of
the request or of the response.
-/

namespace RmwZzdds.Graph

open Search

/-! ## The generator -/

/-- An identifier of IDL. -/
@[ext]
structure Identifier where
  name : Name
  ne_nil : name ≠ []
  word : ∀ c ∈ name, c.isAlphanum = true ∨ c = '_'
  first : ∀ c ∈ name.head?, c.isDigit = false

/-- An identifier goes on with letters of an ending. -/
def Identifier.append (n : Identifier) (ending : Name)
    (hending : ∀ c ∈ ending, c.isAlphanum = true ∨ c = '_') : Identifier where
  name := n.name ++ ending
  ne_nil := List.append_ne_nil_of_left_ne_nil n.ne_nil ending
  word c hc := (List.mem_append.mp hc).elim (n.word c) (hending c)
  first := by
    rw [List.head?_append_of_ne_nil _ n.ne_nil]
    exact n.first

/-- `NamespacedType`.  The first namespace is the package. -/
@[ext]
structure NamespacedType where
  namespaces : List Identifier
  name : Identifier
  packaged : namespaces ≠ []

namespace NamespacedType

/-- The type of the requests of a service. -/
def request (service : NamespacedType) : NamespacedType where
  namespaces := service.namespaces
  name := service.name.append "_Request".toList (by decide)
  packaged := service.packaged

/-- The type of the responses of a service. -/
def response (service : NamespacedType) : NamespacedType where
  namespaces := service.namespaces
  name := service.name.append "_Response".toList (by decide)
  packaged := service.packaged

/-- No namespace after the first one is the marker of DDS. -/
def Unmarked (type : NamespacedType) : Prop :=
  ∀ n ∈ type.namespaces.tail, n.name ≠ "dds_".toList

/-- The name of the type in ROS. -/
def rosName (type : NamespacedType) : Name :=
  List.intercalate "/".toList (type.namespaces.map (·.name) ++ [type.name.name])

end NamespacedType

/-- `dds_type_name`. -/
def ddsTypeName (type : NamespacedType) : Name :=
  List.intercalate "::".toList
    (type.namespaces.map (·.name) ++ ["dds_".toList, type.name.name ++ "_".toList])

/-! ## The graph -/

/-- The loop of `demangle_dds_type` that makes slashes of double colons. -/
def replaceColons (result : Name) (position : ℕ) : Name :=
  match _h : findFrom "::".toList result position with
  | none => result
  | some place => replaceColons (result.take place ++ '/' :: result.drop (place + 2)) (place + 1)
termination_by result.length
decreasing_by
  obtain ⟨skipped, hskipped, rfl⟩ := Option.map_eq_some_iff.mp _h
  have hlength := length_le_of_find hskipped
  have htwo : "::".toList.length = 2 := rfl
  simp only [List.length_append, List.length_take, List.length_cons, List.length_drop] at *
  omega

/-- The marker that `demangle_dds_type` looks for. -/
def marker : Name := "::dds_::".toList

/-- The first step of `demangle_dds_type`: the marker is erased, but for its last
double colon. -/
def eraseMarker (result : Name) : Name :=
  match find marker result with
  | some place => result.take place ++ result.drop (place + (marker.length - 2))
  | none => result

/-- `demangle_dds_type`. -/
def demangleDdsType (ddsType : Name) : Name :=
  let result := eraseMarker ddsType
  let result := if result.getLast? = some '_' then result.dropLast else result
  replaceColons result 0

/-- `demangle_dds_service_type`. -/
def demangleDdsServiceType (ddsType : Name) : Name :=
  let result := demangleDdsType ddsType
  match ["_Request".toList, "_Response".toList].find? (· <:+ result) with
  | some ending => result.take (result.length - ending.length)
  | none => result

/-! ## Colons -/

/-- What the loop makes of the rest of a string. -/
def slashed : Name → Name
  | ':' :: ':' :: rest => '/' :: slashed rest
  | c :: rest => c :: slashed rest
  | [] => []

theorem slashed_of_find_none {s : Name} (h : find "::".toList s = none) : slashed s = s := by
  rw [find_eq_none_iff] at h
  fun_induction slashed s with
  | case1 rest ih => exact (h (List.prefix_append "::".toList rest).isInfix).elim
  | case2 c rest hsingle ih => rw [ih fun hinside => h (hinside.trans (List.infix_cons List.infix_rfl))]
  | case3 => rfl

theorem slashed_of_find_some {s : Name} {place : ℕ} (h : find "::".toList s = some place) :
    slashed s = s.take place ++ '/' :: slashed (s.drop (place + 2)) := by
  fun_induction slashed s generalizing place with
  | case1 rest ih =>
      have hfront : "::".toList <+: ':' :: ':' :: rest := List.prefix_append "::".toList rest
      rw [find, if_pos hfront] at h
      obtain rfl := Option.some.inj h
      rfl
  | case2 c rest hsingle ih =>
      have hfront : ¬ "::".toList <+: c :: rest := by
        rintro ⟨after, hafter⟩
        cases hafter
        exact hsingle after rfl rfl
      rw [find, if_neg hfront] at h
      obtain ⟨skipped, hskipped, rfl⟩ := Option.map_eq_some_iff.mp h
      rw [ih hskipped]
      rfl
  | case3 => cases h

/-- The loop goes over the string from where it is. -/
theorem replaceColons_eq (result : Name) (position : ℕ) :
    replaceColons result position = result.take position ++ slashed (result.drop position) := by
  fun_induction replaceColons result position with
  | case1 result position hnone =>
      rw [findFrom, Option.map_eq_none_iff] at hnone
      rw [slashed_of_find_none hnone, List.take_append_drop]
  | case2 result position place hplace ih =>
      rw [findFrom] at hplace
      obtain ⟨skipped, hskipped, rfl⟩ := Option.map_eq_some_iff.mp hplace
      have hlength := length_le_of_find hskipped
      have htwo : "::".toList.length = 2 := rfl
      rw [List.length_drop, htwo] at hlength
      have hbefore : (result.take (skipped + position) ++ ['/']).length = skipped + position + 1 := by
        rw [List.length_append, List.length_take_of_le (by omega)]
        rfl
      have hrest : (result.drop position).drop (skipped + 2) =
          result.drop (skipped + position + 2) := by
        rw [List.drop_drop]
        congr 1
        omega
      have htaken : result.take (skipped + position) =
          result.take position ++ (result.drop position).take skipped := by
        rw [Nat.add_comm, List.take_add]
      rw [ih, List.append_cons, List.take_left' hbefore, List.drop_left' hbefore,
        slashed_of_find_some hskipped, hrest, htaken]
      simp

/-- What begins with a colon began with one before. -/
theorem eq_cons_of_slashed {s t : Name} (h : slashed s = ':' :: t) : ∃ s', s = ':' :: s' := by
  fun_cases slashed s with
  | case1 rest => exact ⟨_, rfl⟩
  | case2 c rest hsingle =>
      rw [slashed.eq_2 c rest hsingle] at h
      obtain ⟨rfl, -⟩ := List.cons.inj h
      exact ⟨rest, rfl⟩
  | case3 => cases h

/-- No double colon is left. -/
theorem not_infix_slashed (s : Name) : ¬ "::".toList <:+: slashed s := by
  fun_induction slashed s with
  | case1 rest ih =>
      rw [List.infix_cons_iff, not_or]
      refine ⟨?_, ih⟩
      rintro ⟨after, hafter⟩
      cases hafter
  | case2 c rest hsingle ih =>
      rw [List.infix_cons_iff, not_or]
      refine ⟨?_, ih⟩
      rintro ⟨after, hafter⟩
      obtain ⟨rfl, hcolon⟩ := List.cons.inj hafter
      obtain ⟨s, rfl⟩ := eq_cons_of_slashed hcolon.symm
      exact hsingle s rfl rfl
  | case3 =>
      rintro ⟨before, after, hnil⟩
      simp at hnil

theorem slashed_append_of_notMem {front : Name} (h : ':' ∉ front) (s : Name) :
    slashed (front ++ s) = front ++ slashed s := by
  induction front with
  | nil => rfl
  | cons c front ih =>
      rw [List.mem_cons, not_or] at h
      rw [List.cons_append, slashed, ih h.2, List.cons_append]
      exact fun _ hc => (h.1 hc.symm).elim

theorem slashed_append {word : Name} (h : ':' ∉ word) (s : Name) :
    slashed (s ++ word) = slashed s ++ word := by
  fun_induction slashed s with
  | case1 rest ih => rw [List.cons_append, List.cons_append, slashed, ih, List.cons_append]
  | case2 c rest hsingle ih =>
      have hstill : ∀ rest', c = ':' → rest ++ word = ':' :: rest' → False := by
        intro rest' hc hrest
        cases rest with
        | nil =>
            rw [List.nil_append] at hrest
            exact h (hrest ▸ List.mem_cons_self)
        | cons d rest =>
            obtain ⟨rfl, -⟩ := List.cons.inj hrest
            exact hsingle rest hc rfl
      rw [List.cons_append, slashed.eq_2 c (rest ++ word) hstill, ih, List.cons_append]
  | case3 =>
      have hword := slashed_append_of_notMem h []
      rwa [List.append_nil, slashed, List.append_nil] at hword

/-- The last step of `demangle_dds_type` is over the whole string. -/
theorem demangleDdsType_underscore {dds s : Name} (h : eraseMarker dds = s ++ "_".toList) :
    demangleDdsType dds = slashed s := by
  have hlast : (s ++ "_".toList).getLast? = some '_' := List.getLast?_concat ..
  have hdropped : (s ++ "_".toList).dropLast = s := List.dropLast_concat ..
  simp only [demangleDdsType, h, if_pos hlast, hdropped, replaceColons_eq]
  rfl

/-! ## The marker -/

theorem marker_eq : marker = ':' :: ':' :: ("dds_".toList ++ ':' :: [':']) := by decide

/-- What comes after an occurrence of the marker stays. -/
theorem eraseMarker_append {dds : Name} (h : marker <:+: dds) (after : Name) :
    eraseMarker (dds ++ after) = eraseMarker dds ++ after := by
  obtain ⟨place, hplace⟩ : ∃ place, find marker dds = some place := by
    rw [← Option.ne_none_iff_exists', Ne, find_eq_none_iff, not_not]
    exact h
  have hlength := length_le_of_find hplace
  have height : marker.length = 8 := rfl
  rw [height] at hlength
  simp only [eraseMarker, find_append_of_some hplace after, hplace, height]
  rw [List.take_append_of_le_length (by omega), List.drop_append_of_le_length (by omega),
    List.append_assoc]

/-- The word before the first colon. -/
theorem takeWhile_word {word : Name} (h : ':' ∉ word) (s : Name) :
    (word ++ ':' :: s).takeWhile (· ≠ ':') = word := by
  have hword : ∀ c ∈ word, decide (c ≠ ':') = true :=
    fun c hc => decide_eq_true fun heq => h (heq ▸ hc)
  rw [List.takeWhile_append_of_pos hword, List.takeWhile_cons_of_neg (by decide),
    List.append_nil]

/-- The marker is found behind names that are not it. -/
theorem find_marker (package : Name) (names : List Name) (hpackage : ':' ∉ package)
    (hnames : ∀ n ∈ names, n ≠ [] ∧ ':' ∉ n ∧ n ≠ "dds_".toList) :
    find marker (List.intercalate "::".toList (package :: names) ++ marker) =
      some (List.intercalate "::".toList (package :: names)).length := by
  induction names generalizing package with
  | nil =>
      have hfound : find marker marker = some 0 := by decide
      rw [List.intercalate_singleton, marker_eq, find_append_of_notMem hpackage, ← marker_eq,
        hfound, Option.map_some, Nat.zero_add]
  | cons n names ih =>
      obtain ⟨hne, hcolon, hword⟩ := hnames n List.mem_cons_self
      have hrest := ih n hcolon fun m hm => hnames m (List.mem_cons_of_mem n hm)
      obtain ⟨after, hafter⟩ : ∃ after, List.intercalate "::".toList (n :: names) ++ marker =
          n ++ ':' :: after := by
        cases names with
        | nil => exact ⟨_, by rw [List.intercalate_singleton, marker_eq]⟩
        | cons m names =>
            rw [List.intercalate_cons_cons, List.append_assoc, List.append_assoc]
            exact ⟨_, rfl⟩
      -- the marker does not begin at the colons before the name
      have hfirst : ¬ marker <+: ':' :: ':' :: (n ++ ':' :: after) := by
        rintro ⟨s, hs⟩
        rw [marker_eq, List.cons_append, List.cons_append, List.append_assoc] at hs
        have htail := (List.cons.inj (List.cons.inj hs).2).2
        have hsame := congrArg (List.takeWhile (· ≠ ':')) htail
        rw [List.cons_append, takeWhile_word (by decide), takeWhile_word hcolon] at hsame
        exact hword hsame.symm
      have hsecond : ¬ marker <+: ':' :: (n ++ ':' :: after) := by
        rintro ⟨s, hs⟩
        rw [marker_eq, List.cons_append, List.cons_append] at hs
        have htail := (List.cons.inj hs).2
        cases n with
        | nil => exact hne rfl
        | cons c n =>
            rw [List.cons_append] at htail
            exact hcolon ((List.cons.inj htail).1 ▸ List.mem_cons_self)
      have hskip : find marker (':' :: ':' :: (n ++ ':' :: after)) =
          some ((List.intercalate "::".toList (n :: names)).length + 1 + 1) := by
        rw [find, if_neg hfirst, find, if_neg hsecond, ← hafter, hrest]
        rfl
      have hjoined : List.intercalate "::".toList (package :: n :: names) ++ marker =
          package ++ ':' :: ':' :: (n ++ ':' :: after) := by
        rw [List.intercalate_cons_cons, List.append_assoc, List.append_assoc, hafter]
        rfl
      rw [hjoined, marker_eq, find_append_of_notMem hpackage, ← marker_eq, hskip,
        List.intercalate_cons_cons, List.length_append, List.length_append, Option.map_some]
      congr 1
      have htwo : "::".toList.length = 2 := rfl
      omega

/-! ## Names of DDS -/

theorem intercalate_concat {separator last : Name} {names : List Name} (h : names ≠ []) :
    separator.intercalate (names ++ [last]) = separator.intercalate names ++ separator ++ last := by
  induction names with
  | nil => exact (h rfl).elim
  | cons n names ih =>
      cases names with
      | nil => simp only [List.cons_append, List.nil_append, List.intercalate_cons_cons,
          List.intercalate_singleton]
      | cons m names =>
          rw [List.cons_append, List.cons_append, List.intercalate_cons_cons, ← List.cons_append,
            ih (List.cons_ne_nil m names), List.intercalate_cons_cons]
          simp only [List.append_assoc]

theorem Identifier.notMem (n : Identifier) {c : Char} (halphanum : c.isAlphanum = false)
    (hunderscore : c ≠ '_') : c ∉ n.name := by
  intro hc
  rcases n.word c hc with hword | hword
  · rw [halphanum] at hword
    cases hword
  · exact hunderscore hword

theorem Identifier.colon_notMem (n : Identifier) : ':' ∉ n.name :=
  n.notMem (by decide) (by decide)

theorem Identifier.slash_notMem (n : Identifier) : '/' ∉ n.name :=
  n.notMem (by decide) (by decide)

/-- The names of namespaces, with the marker behind them. -/
def markedNamespaces (namespaces : List Identifier) : Name :=
  List.intercalate "::".toList (namespaces.map (·.name)) ++ marker

/-- What is left of namespaces after the demangling. -/
def demangledNamespaces (namespaces : List Identifier) : Name :=
  slashed (eraseMarker (markedNamespaces namespaces))

theorem ddsTypeName_eq (type : NamespacedType) :
    ddsTypeName type = markedNamespaces type.namespaces ++ (type.name.name ++ "_".toList) := by
  have hne : type.namespaces.map (·.name) ≠ [] := List.map_eq_nil_iff.not.mpr type.packaged
  have hmarker : "::".toList ++ ("dds_".toList ++ ("::".toList : Name)) = marker := by decide
  rw [ddsTypeName, List.append_cons, intercalate_concat (List.concat_ne_nil _ _),
    intercalate_concat hne, markedNamespaces, ← hmarker]
  simp only [List.append_assoc]

/-- Namespaces and names are demangled on their own. -/
theorem demangleDdsType_ddsTypeName (type : NamespacedType) :
    demangleDdsType (ddsTypeName type) =
      demangledNamespaces type.namespaces ++ type.name.name := by
  have hmarker : marker <:+: markedNamespaces type.namespaces :=
    (List.suffix_append _ marker).isInfix
  have herased : eraseMarker (ddsTypeName type) =
      (eraseMarker (markedNamespaces type.namespaces) ++ type.name.name) ++ "_".toList := by
    rw [ddsTypeName_eq, eraseMarker_append hmarker, List.append_assoc]
  rw [demangleDdsType_underscore herased, slashed_append type.name.colon_notMem]
  rfl

theorem demangleDdsServiceType_of_find {dds name ending : Name}
    (hdemangled : demangleDdsType dds = name ++ ending)
    (hfound : ["_Request".toList, "_Response".toList].find? (· <:+ name ++ ending) = some ending) :
    demangleDdsServiceType dds = name := by
  simp only [demangleDdsServiceType, hdemangled, hfound]
  rw [List.length_append, Nat.add_sub_cancel, List.take_left]

/-- The type of a service, from the types of its messages. -/
theorem demangleDdsServiceType_ddsTypeName (service : NamespacedType) :
    demangleDdsServiceType (ddsTypeName service.request) =
        demangledNamespaces service.namespaces ++ service.name.name ∧
      demangleDdsServiceType (ddsTypeName service.response) =
        demangledNamespaces service.namespaces ++ service.name.name := by
  have hrequest : demangleDdsType (ddsTypeName service.request) =
      (demangledNamespaces service.namespaces ++ service.name.name) ++ "_Request".toList := by
    rw [List.append_assoc]
    exact demangleDdsType_ddsTypeName service.request
  have hresponse : demangleDdsType (ddsTypeName service.response) =
      (demangledNamespaces service.namespaces ++ service.name.name) ++ "_Response".toList := by
    rw [List.append_assoc]
    exact demangleDdsType_ddsTypeName service.response
  generalize demangledNamespaces service.namespaces ++ service.name.name = name at *
  constructor
  · exact demangleDdsServiceType_of_find hrequest
      (List.find?_cons_of_pos (decide_eq_true (List.suffix_append ..)))
  · have hother : ¬ "_Request".toList <:+ name ++ "_Response".toList := by
      intro hsuffix
      have hshort := List.suffix_of_suffix_length_le hsuffix (List.suffix_append ..) (by decide)
      revert hshort
      decide
    apply demangleDdsServiceType_of_find hresponse
    rw [List.find?_cons, decide_eq_false hother]
    exact List.find?_cons_of_pos (decide_eq_true (List.suffix_append ..))

/-! ## Names of ROS -/

theorem slashed_intercalate {names : List Name} (h : ∀ n ∈ names, ':' ∉ n) (s : Name) :
    slashed (List.intercalate "::".toList names ++ s) =
      List.intercalate "/".toList names ++ slashed s := by
  induction names with
  | nil => rfl
  | cons n names ih =>
      have hn := h n List.mem_cons_self
      have hrest := ih fun m hm => h m (List.mem_cons_of_mem n hm)
      cases names with
      | nil =>
          rw [List.intercalate_singleton, List.intercalate_singleton]
          exact slashed_append_of_notMem hn s
      | cons m names =>
          have hcolons : ∀ s, slashed ("::".toList ++ s) = "/".toList ++ slashed s := fun _ => rfl
          rw [List.intercalate_cons_cons, List.intercalate_cons_cons, List.append_assoc,
            List.append_assoc, slashed_append_of_notMem hn, hcolons, hrest]
          simp only [List.append_assoc]

/-- Without other markers the namespaces come back. -/
theorem demangledNamespaces_append (type : NamespacedType) (h : type.Unmarked) :
    demangledNamespaces type.namespaces ++ type.name.name = type.rosName := by
  have hne : type.namespaces.map (·.name) ≠ [] := List.map_eq_nil_iff.not.mpr type.packaged
  have hcolon : ∀ n ∈ type.namespaces.map (·.name), ':' ∉ n :=
    List.forall_mem_map.mpr fun n _ => n.colon_notMem
  have hfind : find marker (markedNamespaces type.namespaces) =
      some (List.intercalate "::".toList (type.namespaces.map (·.name))).length := by
    unfold NamespacedType.Unmarked at h
    rw [markedNamespaces]
    cases hnamespaces : type.namespaces with
    | nil => exact (type.packaged hnamespaces).elim
    | cons package namespaces =>
        rw [hnamespaces] at h
        refine find_marker package.name (namespaces.map (·.name)) package.colon_notMem ?_
        exact List.forall_mem_map.mpr fun n hn => ⟨n.ne_nil, n.colon_notMem, h n hn⟩
  have herased : eraseMarker (markedNamespaces type.namespaces) =
      List.intercalate "::".toList (type.namespaces.map (·.name)) ++ "::".toList := by
    simp only [eraseMarker, hfind]
    rw [markedNamespaces, List.take_left, List.drop_append, List.drop_of_length_le (by omega),
      Nat.add_sub_cancel_left]
    rfl
  have hslash : slashed "::".toList = "/".toList := rfl
  rw [demangledNamespaces, herased, slashed_intercalate hcolon, hslash, NamespacedType.rosName,
    intercalate_concat hne]

/-- The name in ROS tells which type it is. -/
theorem rosName_injective : Function.Injective NamespacedType.rosName := by
  intro type type' hsame
  have hparts : ∀ type : NamespacedType, type.rosName.splitOn '/' =
      type.namespaces.map (·.name) ++ [type.name.name] := by
    intro type
    refine List.splitOn_intercalate '/' ?_ (List.concat_ne_nil _ _)
    intro part hpart
    rcases List.mem_append.mp hpart with hnamespace | hname
    · obtain ⟨n, -, rfl⟩ := List.mem_map.mp hnamespace
      exact n.slash_notMem
    · rw [List.mem_singleton.mp hname]
      exact type.name.slash_notMem
  have hlists := hparts type
  rw [hsame, hparts type'] at hlists
  obtain ⟨hnamespaces, hname⟩ := List.append_inj' hlists rfl
  refine NamespacedType.ext ?_ (Identifier.ext (List.cons.inj hname).1.symm)
  exact (List.map_injective_iff.mpr (fun _ _ => Identifier.ext) hnamespaces).symm

/-- Names of types come back from DDS. -/
theorem type_name_round_trip :
    (∀ type : NamespacedType, type.Unmarked → demangleDdsType (ddsTypeName type) = type.rosName) ∧
    (∀ service : NamespacedType, service.Unmarked →
      demangleDdsServiceType (ddsTypeName service.request) = service.rosName ∧
      demangleDdsServiceType (ddsTypeName service.response) = service.rosName) ∧
    (∀ service service' : NamespacedType, service.Unmarked → service'.Unmarked →
      ∀ message ∈ [service.request, service.response],
      ∀ message' ∈ [service'.request, service'.response],
      demangleDdsServiceType (ddsTypeName message) = demangleDdsServiceType (ddsTypeName message') →
        service = service') ∧
    ∀ ddsType, ¬ "::".toList <:+: demangleDdsType ddsType := by
  have hservice : ∀ service : NamespacedType, service.Unmarked →
      ∀ message ∈ [service.request, service.response],
        demangleDdsServiceType (ddsTypeName message) = service.rosName := by
    intro service hunmarked message hmessage
    obtain ⟨hrequest, hresponse⟩ := demangleDdsServiceType_ddsTypeName service
    rw [demangledNamespaces_append service hunmarked] at hrequest hresponse
    rcases List.mem_pair.mp hmessage with rfl | rfl
    · exact hrequest
    · exact hresponse
  refine ⟨?_, ?_, ?_, ?_⟩
  · intro type hunmarked
    rw [demangleDdsType_ddsTypeName, demangledNamespaces_append type hunmarked]
  · intro service hunmarked
    exact ⟨hservice service hunmarked _ List.mem_cons_self,
      hservice service hunmarked _ (List.mem_cons_of_mem _ List.mem_cons_self)⟩
  · intro service service' hunmarked hunmarked' message hmessage message' hmessage' hsame
    rw [hservice service hunmarked message hmessage,
      hservice service' hunmarked' message' hmessage'] at hsame
    exact rosName_injective hsame
  · intro ddsType
    rw [demangleDdsType, replaceColons_eq]
    exact not_infix_slashed _

def packageSrv : List Identifier :=
  [⟨"pkg".toList, by decide, by decide, by decide⟩, ⟨"srv".toList, by decide, by decide, by decide⟩]

/-- A service whose name ends like that of a response. -/
def aResponse : NamespacedType where
  namespaces := packageSrv
  name := ⟨"A_Response".toList, by decide, by decide, by decide⟩
  packaged := by decide

/-- The service of an action for its goals. -/
def aSendGoal : NamespacedType where
  namespaces := packageSrv
  name := ⟨"A_SendGoal".toList, by decide, by decide, by decide⟩
  packaged := by decide

/-- Both come back. -/
theorem a_response_round_trip :
    demangleDdsType (ddsTypeName aResponse) = aResponse.rosName ∧
    demangleDdsServiceType (ddsTypeName aResponse.response) = aResponse.rosName ∧
    (demangleDdsServiceType (ddsTypeName aResponse.request) =
      demangleDdsServiceType (ddsTypeName aSendGoal.response) → aResponse = aSendGoal) := by
  have hunmarked : ∀ service ∈ [aResponse, aSendGoal], service.Unmarked := by
    intro service hservice
    rcases List.mem_pair.mp hservice with rfl | rfl
    · show ∀ n ∈ packageSrv.tail, n.name ≠ "dds_".toList
      decide
    · show ∀ n ∈ packageSrv.tail, n.name ≠ "dds_".toList
      decide
  obtain ⟨htype, hservice, hdistinct, -⟩ := type_name_round_trip
  have hfirst := hunmarked aResponse List.mem_cons_self
  have hsecond := hunmarked aSendGoal (List.mem_cons_of_mem _ List.mem_cons_self)
  exact ⟨htype aResponse hfirst, (hservice aResponse hfirst).2,
    hdistinct aResponse aSendGoal hfirst hsecond _ List.mem_cons_self _
      (List.mem_cons_of_mem _ List.mem_cons_self)⟩

end RmwZzdds.Graph
