/-
**Addresses in normal form.**

An address in normal form has no blanks around it, no query and no slashes at its end. Normalizing
trims the blanks before it takes the query and the slashes away. A blank in front of these is then
at the end, where it stays, and normalizing once more takes it away.

* `IsNormal`, `normalizeChars_eq_self_iff`: what normalizing leaves as it is;
* `HidesBlank`, `endsBlank_normalizeChars_iff`: the addresses whose normal form ends in a blank;
* `Surroundings.perform_connectEach_works`: connecting goes through where nothing fails;
* `normalizes_once_unless_blank`: normalizing is done after one time, clusters keep their address,
  and an address counts as the same one as its normal form, exactly for all other addresses.
-/

import FleetSchema.Proofs.CommandLine.Ledger
import FleetSchema.Proofs.Text.Trimming
import Mathlib.Data.List.Permutation

namespace FleetSchema

open FleetSchema.Action

/-! ### Letters at the end -/

namespace Text

/-- Whether the last character of several is a blank. -/
def endsBlank (letters : List Char) : Bool := letters.getLast?.any isBlank

end Text

namespace ClusterUri

open FleetSchema.Text

/-! ### Normal form -/

/-- Characters are those of an address in normal form. -/
structure IsNormal (letters : List Char) : Prop where
  start : letters.head?.any isBlank = false
  ending : endsBlank letters = false
  query : '?' ∉ letters
  slashes : letters.getLast?.any (· == '/') = false

theorem dropWhile_eq_self_of_head? {letters : List Char}
    (start : letters.head?.any isBlank = false) : letters.dropWhile isBlank = letters := by
  cases letters with
  | nil => rfl
  | cons first rest => exact List.dropWhile_cons_of_neg (Bool.not_eq_true _ ▸ start)

theorem takeWhile_eq_self_of_not_mem {letters : List Char} {mark : Char} (free : mark ∉ letters) :
    letters.takeWhile (· != mark) = letters := by
  rw [List.takeWhile_eq_self_iff]
  rintro letter member
  rw [bne_iff_ne]
  rintro rfl
  exact free member

/-- Normalizing characters with a proper start and without a query trims their end. -/
theorem normalizeChars_of_start {letters : List Char}
    (start : letters.head?.any isBlank = false) (query : '?' ∉ letters) :
    normalizeChars letters = dropTail (· == '/') (dropTail isBlank letters) := by
  unfold normalizeChars trimChars
  rw [dropWhile_eq_self_of_head? start, takeWhile_eq_self_of_not_mem fun member =>
    query ((dropTail_isPrefixOf isBlank letters).subset member)]

/-- Normalizing leaves a proper start, no query and no slashes. -/
theorem normalizeChars_shape (letters : List Char) :
    (normalizeChars letters).head?.any isBlank = false ∧ '?' ∉ normalizeChars letters ∧
      (normalizeChars letters).getLast?.any (· == '/') = false := by
  have kept : normalizeChars letters <+: (trimChars letters).takeWhile (· != '?') :=
    dropTail_isPrefixOf _ _
  refine ⟨?_, fun member => ?_, any_getLast?_dropTail _ _⟩
  · have cut : (trimChars letters).takeWhile (· != '?') <+: trimChars letters :=
      List.takeWhile_prefix _
    have inner : normalizeChars letters <+: letters.dropWhile isBlank :=
      kept.trans (cut.trans (dropTail_isPrefixOf _ _))
    cases shape : normalizeChars letters with
    | nil => rfl
    | cons first rest =>
      obtain ⟨behind, whole⟩ := inner
      rw [shape] at whole
      have front : (letters.dropWhile isBlank).head? = some first := by
        rw [← whole]
        rfl
      have outside := List.head?_dropWhile_not isBlank letters
      rw [front] at outside
      exact outside
  · have marked := List.mem_takeWhile_imp (kept.subset member)
    cases marked

/-- **What normalizing leaves as it is** are the addresses in normal form. -/
theorem normalizeChars_eq_self_iff (letters : List Char) :
    normalizeChars letters = letters ↔ IsNormal letters := by
  constructor
  · intro same
    obtain ⟨start, query, slashes⟩ := normalizeChars_shape letters
    rw [same] at start query slashes
    rw [normalizeChars_of_start start query] at same
    have whole : letters <+: dropTail isBlank letters := by
      have shorter := dropTail_isPrefixOf (· == '/') (dropTail isBlank letters)
      rwa [same] at shorter
    have kept : dropTail isBlank letters = letters :=
      (dropTail_isPrefixOf _ _).sublist.antisymm whole.sublist
    exact ⟨start, (dropTail_eq_self_iff _ _).mp kept, query, slashes⟩
  · rintro ⟨start, ending, query, slashes⟩
    rw [normalizeChars_of_start start query, (dropTail_eq_self_iff _ _).mpr ending,
      (dropTail_eq_self_iff _ _).mpr slashes]

/-- What normalizing gives is in normal form unless it ends in a blank. -/
theorem isNormal_normalizeChars_iff (letters : List Char) :
    IsNormal (normalizeChars letters) ↔ endsBlank (normalizeChars letters) = false := by
  obtain ⟨start, query, slashes⟩ := normalizeChars_shape letters
  exact ⟨IsNormal.ending, fun ending => ⟨start, ending, query, slashes⟩⟩

/-! ### Blanks that stay -/

/-- A blank stands in an address in front of its query and the slashes before it, or in front of the
slashes at its end. -/
def HidesBlank (uri : String) : Prop :=
  ∃ start blank slashes query, trimChars uri.toList = start ++ blank :: (slashes ++ query) ∧
    isBlank blank = true ∧ '?' ∉ start ∧ (∀ slash ∈ slashes, slash = '/') ∧
      (query = [] ∨ query.head? = some '?')

/-- The characters up to a mark, in front of the mark or of the end. -/
theorem takeWhile_append_of_mark {mark : Char} {front behind : List Char} (free : mark ∉ front)
    (marked : behind = [] ∨ behind.head? = some mark) :
    (front ++ behind).takeWhile (· != mark) = front := by
  have none : behind.takeWhile (· != mark) = [] := by
    rcases marked with rfl | first
    · rfl
    · cases behind with
      | nil => rfl
      | cons letter rest =>
        obtain rfl : letter = mark := Option.some.inj first
        exact List.takeWhile_cons_of_neg (by simp)
  rw [List.takeWhile_append_of_pos fun letter member => ?_, none, List.append_nil]
  rw [bne_iff_ne]
  rintro rfl
  exact free member

/-- **The normal forms that end in a blank** are those of the addresses with a blank that stays. -/
theorem endsBlank_normalizeChars_iff (uri : String) :
    endsBlank (normalizeChars uri.toList) = true ↔ HidesBlank uri := by
  unfold normalizeChars HidesBlank
  generalize trimChars uri.toList = letters
  constructor
  · intro ends
    obtain ⟨slashes, split, allSlashes⟩ :=
      exists_dropTail_append (· == '/') (letters.takeWhile (· != '?'))
    have marked := List.head?_dropWhile_not (· != '?') letters
    have whole := List.takeWhile_append_dropWhile (p := (· != '?')) (l := letters)
    have unmarked : ∀ letter ∈ letters.takeWhile (· != '?'), letter ≠ '?' := by
      intro letter member
      have outside := List.mem_takeWhile_imp member
      exact bne_iff_ne.mp outside
    generalize dropTail (· == '/') (letters.takeWhile (· != '?')) = kept at ends split
    rcases kept.eq_nil_or_concat with rfl | ⟨start, blank, rfl⟩
    · cases ends
    rw [List.concat_eq_append] at split ends
    rw [split] at whole unmarked
    refine ⟨start, blank, slashes, letters.dropWhile (· != '?'), ?_, ?_, ?_, ?_, ?_⟩
    · rw [List.append_assoc, List.append_assoc] at whole
      exact whole.symm
    · unfold endsBlank at ends
      rwa [List.getLast?_concat] at ends
    · intro inside
      exact unmarked '?' (List.mem_append_left _ (List.mem_append_left _ inside)) rfl
    · exact fun slash member => beq_iff_eq.mp (List.all_eq_true.mp allSlashes slash member)
    · cases query : letters.dropWhile (· != '?') with
      | nil => exact Or.inl rfl
      | cons mark rest =>
        rw [query] at marked
        exact Or.inr (congrArg some (by simpa using marked))
  · rintro ⟨start, blank, slashes, query, rfl, blanks, unmarked, allSlashes, ends⟩
    have free : '?' ∉ start ++ blank :: slashes := by
      rw [List.mem_append, List.mem_cons, not_or, not_or]
      refine ⟨unmarked, ?_, fun slash => ?_⟩
      · rintro rfl
        exact absurd blanks (by decide +kernel)
      · cases allSlashes _ slash
    have cut : (start ++ blank :: (slashes ++ query)).takeWhile (· != '?') =
        start ++ blank :: slashes := by
      rw [← List.cons_append, ← List.append_assoc]
      exact takeWhile_append_of_mark free ends
    have noSlash : (blank == '/') = false := by
      rw [beq_eq_false_iff_ne]
      rintro rfl
      exact absurd blanks (by decide +kernel)
    have inside : slashes.all (· == '/') = true := List.all_eq_true.mpr fun slash member => by
      rw [allSlashes slash member]
      rfl
    rw [cut, dropTail_append_cons (· == '/') start noSlash inside]
    unfold endsBlank
    rw [List.getLast?_concat]
    exact blanks

/-- **An address is normalized at once** unless it has a blank that stays. -/
theorem normalize_normalize_eq_iff (uri : String) :
    normalize (normalize uri) = normalize uri ↔ ¬ HidesBlank uri := by
  rw [← endsBlank_normalizeChars_iff, Bool.not_eq_true, ← isNormal_normalizeChars_iff,
    ← normalizeChars_eq_self_iff]
  unfold normalize
  rw [String.toList_ofList, String.ofList_inj]

end ClusterUri

open FleetSchema.ClusterUri

/-! ### Clusters and connections -/

namespace Cluster

theorem make_eq_ok_iff {uri logger : String} {client : QueryClient} {cluster : Cluster} :
    make uri client logger = .ok cluster ↔
      (∃ name, ClusterUri.name (normalize uri) = .ok name) ∧
        cluster = ⟨normalize uri, client, logger, none⟩ := by
  unfold make
  cases ClusterUri.name (normalize uri) with
  | error fault => simp [Except.map]
  | ok name => simp [Except.map, eq_comm]

/-- A cluster can be made anew at its own address exactly when that is normalized at once. -/
theorem exists_make_uri_iff {uri logger : String} {client : QueryClient} {cluster : Cluster}
    (made : make uri client logger = .ok cluster) (other : QueryClient) (text : String) :
    (∃ again, make cluster.uri other text = .ok again ∧ again.uri = cluster.uri) ↔
      ¬ HidesBlank uri := by
  obtain ⟨valid, rfl⟩ := make_eq_ok_iff.mp made
  rw [← normalize_normalize_eq_iff]
  constructor
  · rintro ⟨again, remade, same⟩
    obtain ⟨_, rfl⟩ := make_eq_ok_iff.mp remade
    exact same
  · intro same
    refine ⟨⟨normalize uri, other, text, none⟩, make_eq_ok_iff.mpr ?_, rfl⟩
    rw [same]
    exact ⟨valid, rfl⟩

end Cluster

theorem perform_connect_of_makes {gateway : Gateway} {named : Variables} {uri name : String}
    {session : Session} (logger : Option String)
    (valid : ClusterUri.name (normalize uri) = .ok name)
    (makes : gateway.Makes ⟨normalize uri, session.events⟩) :
    ∃ cluster last, (connect gateway named uri logger).perform session = (.ok cluster, last) := by
  have isMade (client : QueryClient) (text : String) :
      Cluster.make uri client text = .ok ⟨normalize uri, client, text, none⟩ :=
    Cluster.make_eq_ok_iff.mpr ⟨⟨name, valid⟩, rfl⟩
  unfold connect Connection.clientFor
  simp only [valid, isMade, perform_bind, perform_ofExcept, perform_onFault,
    Connection.perform_makeClient, makes.1, makes.2]
  exact ⟨_, _, rfl⟩

namespace Surroundings

variable {surroundings : Surroundings} {uris : List String} {clusters : List Cluster}
  {session last : Session}

/-- Nothing fails at addresses: each one is the address of a cluster, clients for it are always
made, and they can always be closed. -/
structure Works (surroundings : Surroundings) (uris : List String) : Prop where
  valid : ∀ uri ∈ uris, ∃ name, ClusterUri.name (normalize uri) = .ok name
  makes : ∀ uri ∈ uris, ∀ past, surroundings.gateway.Makes ⟨normalize uri, past⟩
  closes : ∀ uri ∈ uris, ∀ number past,
    (surroundings.gateway.service ⟨number, normalize uri⟩).ending past = .ok ()

/-- An address at which nothing fails is taken up without an end. -/
theorem Works.takesUp {uri : String} {connected : List Cluster} {first : Session}
    {taken : Except (Action Stop Unit) (List Cluster)} (works : surroundings.Works (uri :: uris))
    (takes : surroundings.TakesUp connected uri first last taken) :
    ∃ next, taken = .ok next := by
  obtain ⟨name, valid⟩ := works.valid uri List.mem_cons_self
  cases takes with
  | refused refuses =>
    obtain ⟨cluster, reached, succeeds⟩ := perform_connect_of_makes none valid
      (works.makes uri List.mem_cons_self first.events)
    rw [succeeds] at refuses
    cases refuses
  | unclosed performed _ fails =>
    cases connects performed with
    | made _ _ client =>
      rw [Cluster.perform_close_served client] at fails
      cases (Prod.mk.inj fails).1.symm.trans (works.closes uri List.mem_cons_self _ _)
  | again => exact ⟨_, rfl⟩
  | anew => exact ⟨_, rfl⟩

/-- **Connecting goes through** where nothing fails. -/
theorem perform_connectEach_works (works : surroundings.Works uris) (connected : List Cluster)
    (session : Session) :
    ∃ clusters last,
      (surroundings.connectEach connected uris).perform session = (.ok (clusters, none), last) := by
  induction uris generalizing connected session with
  | nil => exact ⟨connected, session, rfl⟩
  | cons uri rest ih =>
    have worksRest : surroundings.Works rest :=
      ⟨fun other member => works.valid other (List.mem_cons_of_mem _ member),
        fun other member => works.makes other (List.mem_cons_of_mem _ member),
        fun other member => works.closes other (List.mem_cons_of_mem _ member)⟩
    obtain ⟨taken, middle, takes, performed⟩ :=
      surroundings.perform_connectEach_cons connected uri rest session
    obtain ⟨next, rfl⟩ := works.takesUp takes
    obtain ⟨clusters, last, ended⟩ := ih worksRest next middle
    exact ⟨clusters, last, performed.trans ended⟩

/-- The clusters of addresses that are all connected to are those of the distinct ones. -/
theorem uris_of_connectEach
    (performed : (surroundings.connectEach [] uris).perform session =
      (.ok (clusters, none), last)) :
    clusters.map Cluster.uri = unique (uris.map normalize) := by
  obtain ⟨reached, ending, final, ended, comes⟩ := connectEach_induction
    (fun earlier connected later =>
      ∃ entries, surroundings.Covers session entries earlier connected later)
    (fun ⟨_, covers⟩ takes => takes.covers covers) [] uris ⟨[], surroundings.covers_nil session⟩
  rw [performed] at ended
  cases ended
  cases comes with
  | all holds =>
    obtain ⟨entries, covers⟩ := holds
    exact covers.distinct

end Surroundings

namespace ClusterUri

theorem unique_pair (first second : String) :
    unique [first, second] = if first = second then [first] else [first, second] := by
  by_cases same : first = second
  · subst same
    simp [unique, uniqueBy]
  · simp [unique, uniqueBy, same]

/-- The distinct ones among the normal forms of an address and of its normal form. -/
theorem unique_normalize {uri : String} {uris : List String}
    (together : uris.Perm [uri, normalize uri]) :
    (¬ HidesBlank uri → unique (uris.map normalize) = [normalize uri]) ∧
      (HidesBlank uri → (unique (uris.map normalize)).length = 2) := by
  have either : uris.map normalize = [normalize uri, normalize (normalize uri)] ∨
      uris.map normalize = [normalize (normalize uri), normalize uri] := by
    rcases List.perm_pair.mp together with rfl | rfl
    · exact Or.inl rfl
    · exact Or.inr rfl
  constructor
  · intro plain
    rw [← normalize_normalize_eq_iff] at plain
    rcases either with same | swapped
    · rw [same, plain, unique_pair, if_pos rfl]
    · rw [swapped, plain, unique_pair, if_pos rfl]
  · intro hides
    have differ : normalize (normalize uri) ≠ normalize uri := fun same =>
      (normalize_normalize_eq_iff uri).mp same hides
    rcases either with same | swapped
    · rw [same, unique_pair, if_neg differ.symm]
      rfl
    · rw [swapped, unique_pair, if_neg differ]
      rfl

/-- **Normalizing is done after one time unless a blank stays.** For every other address normalizing
its normal form changes nothing, the cluster at it can be made anew at the cluster's own address,
and it is connected to once together with its normal form. An address with a blank that stays has
another normal form the second time, the cluster at it cannot be made anew at its own address, and
it counts as two clusters together with its normal form. -/
theorem normalizes_once_unless_blank (uri : String) :
    (normalize (normalize uri) = normalize uri ↔ ¬ HidesBlank uri) ∧
    (∀ client logger cluster, Cluster.make uri client logger = .ok cluster → ∀ other text,
      ((∃ again, Cluster.make cluster.uri other text = .ok again ∧ again.uri = cluster.uri) ↔
        ¬ HidesBlank uri)) ∧
    ∀ (surroundings : Surroundings) (uris : List String) (session : Session),
      uris.Perm [uri, normalize uri] →
        (surroundings.Works uris → ∃ clusters last,
          (surroundings.connectEach [] uris).perform session = (.ok (clusters, none), last)) ∧
        ∀ clusters last,
          (surroundings.connectEach [] uris).perform session = (.ok (clusters, none), last) →
            (¬ HidesBlank uri → clusters.map Cluster.uri = [normalize uri]) ∧
              (HidesBlank uri → clusters.length = 2) := by
  refine ⟨normalize_normalize_eq_iff uri, fun client logger cluster made other text =>
    Cluster.exists_make_uri_iff made other text, ?_⟩
  intro surroundings uris session together
  refine ⟨fun works => surroundings.perform_connectEach_works works [] session, ?_⟩
  intro clusters last performed
  have distinct := Surroundings.uris_of_connectEach performed
  rw [← List.length_map Cluster.uri, distinct]
  exact unique_normalize together

/-- An address with blanks around it, slashes and a query: it and its normal form are one cluster.
-/
theorem normalizes_once_unless_blank_slashes :
    let uri := " https://f.k//?tenant=t "
    let surroundings : Surroundings := .offline [] (.ofText "/tmp") (.stated .query "out of reach")
    normalize uri = "https://f.k" ∧ ¬ HidesBlank uri ∧
      ∃ clusters last, (surroundings.connectEach [] [uri, normalize uri]).perform
        (.start ⟨[], []⟩) = (.ok (clusters, none), last) ∧
          clusters.map Cluster.uri = ["https://f.k"] := by
  intro uri surroundings
  have normal : normalize uri = "https://f.k" := by decide +kernel
  have again : normalize "https://f.k" = "https://f.k" := by decide +kernel
  have plain : ¬ HidesBlank uri := by
    rw [← normalize_normalize_eq_iff, normal, again]
  have named : ClusterUri.name "https://f.k" = .ok "f" := eq_ok_of_toOption (by decide +kernel)
  have works : surroundings.Works [uri, normalize uri] := by
    refine ⟨?_, fun _ _ _ => ⟨rfl, rfl⟩, fun _ _ _ _ => rfl⟩
    rw [List.forall_mem_cons, List.forall_mem_singleton, normal, again]
    exact ⟨⟨"f", named⟩, "f", named⟩
  obtain ⟨_, _, together⟩ := normalizes_once_unless_blank uri
  obtain ⟨goesOn, comes⟩ := together surroundings _ (.start ⟨[], []⟩) (.refl _)
  obtain ⟨clusters, last, performed⟩ := goesOn works
  exact ⟨normal, plain, clusters, last, performed,
    normal ▸ (comes clusters last performed).1 plain⟩

/-- A blank in front of a query. The normal form ends in it, so that normalizing once more gives
another address, and the two count as two clusters. -/
theorem normalizes_twice_blank :
    let uri := "https://f.k ?tenant=t"
    let surroundings : Surroundings := .offline [] (.ofText "/tmp") (.stated .query "out of reach")
    normalize uri = "https://f.k " ∧ normalize (normalize uri) = "https://f.k" ∧
      ((surroundings.connectEach [] [uri, normalize uri]).perform
        (.start ⟨[], []⟩)).1.toOption.map (fun ended => ended.1.map Cluster.uri) =
          some ["https://f.k ", "https://f.k"] := by
  decide +kernel

end ClusterUri

end FleetSchema
