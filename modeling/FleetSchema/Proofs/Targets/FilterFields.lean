/-
**The names in the fields of an object.**

A filter that is read from an object takes its names from a field. The field lists names when it is
a list of texts, or when it does not count as given, and then there are none. The check refuses
texts and lists with other items. An object slips through it, and its keys are taken for names; a
value that cannot be run through ends in a defect.

* `ListsNames`, `HasKeys`, `IsMisfit`, `IsSingle`: the four classes of values;
* `names_cases`: every value is in one of them;
* `namesIn_of_listsNames` and its kin: what the values of a class come to;
* `takes_names_unless_slipping`: a filter has the names that its field lists, and every other value
  is refused unless it slips through.
-/

import FleetSchema.Filter
import FleetSchema.Proofs.Lookup.Answers

namespace FleetSchema.TargetFilter

open FleetSchema.LookupService

variable {value : Value} {names : List String} {fields : List (String × Value)}

/-! ### Classes of values -/

/-- A value lists names: it is the list of their texts, or it does not count as given and there are
none. -/
def ListsNames (value : Value) (names : List String) : Prop :=
  value = listed names ∨ value.truthy = false ∧ names = []

/-- A value has keys that may pass for names: it is an object, and not an empty one. -/
def HasKeys (value : Value) (names : List String) : Prop :=
  ∃ inner, value = .object inner ∧ inner ≠ [] ∧ names = inner.map (·.1)

/-- A value is a misfit: a text with characters, or a list with an item that is no text. -/
inductive IsMisfit : Value → Prop
  | text {text : String} (some : text.isEmpty = false) : IsMisfit (.text text)
  | item {items : List Value} {item : Value} (member : item ∈ items)
      (other : ∀ text, item ≠ .text text) : IsMisfit (.list items)

/-- A value is a single one: it counts as given and cannot be run through. -/
def IsSingle (value : Value) : Prop := value.truthy = true ∧ value.items? = none

/-- A value slips through the check for names. -/
def Slips (value : Value) : Prop := (∃ names, HasKeys value names) ∨ IsSingle value

/-- The items of a list are texts, or one of them is none. -/
theorem texts_or_other (items : List Value) : (∃ names : List String, items = names.map .text) ∨
    ∃ item ∈ items, ∀ text, item ≠ .text text := by
  induction items with
  | nil => exact Or.inl ⟨[], rfl⟩
  | cons first rest ih =>
    obtain ⟨names, rfl⟩ | ⟨item, member, other⟩ := ih
    · cases first with
      | text name => exact Or.inl ⟨name :: names, rfl⟩
      | _ => exact Or.inr ⟨_, List.mem_cons_self, fun _ same => nomatch same⟩
    · exact Or.inr ⟨item, List.mem_cons_of_mem first member, other⟩

/-- **Every value lists names, has keys, is a misfit or is a single one.** -/
theorem names_cases (value : Value) : (∃ names, ListsNames value names) ∨
    (∃ names, HasKeys value names) ∨ IsMisfit value ∨ IsSingle value := by
  cases given : value.truthy with
  | false => exact Or.inl ⟨[], Or.inr ⟨given, rfl⟩⟩
  | true =>
    cases value with
    | null => cases given
    | bool | int | float | path => exact Or.inr (Or.inr (Or.inr ⟨given, rfl⟩))
    | text text =>
      refine Or.inr (Or.inr (Or.inl (.text ?_)))
      exact (Bool.not_eq_true' _).mp given
    | object inner =>
      refine Or.inr (Or.inl ⟨_, inner, rfl, ?_, rfl⟩)
      rintro rfl
      cases given
    | list items =>
      obtain ⟨names, rfl⟩ | ⟨item, member, other⟩ := texts_or_other items
      · exact Or.inl ⟨names, Or.inl rfl⟩
      · exact Or.inr (Or.inr (Or.inl (.item member other)))

/-! ### What values come to -/

theorem namesIn_of_listsNames (lists : ListsNames value names) : namesIn value = .ok names := by
  obtain rfl | ⟨absent, rfl⟩ := lists
  · have taken : textsOf? (names.map .text) = some names := textsOf?_eq_some_iff.mpr rfl
    cases names with
    | nil => rfl
    | cons first rest =>
      unfold namesIn listed
      dsimp only [Value.items?]
      rw [if_neg (by simp [Value.truthy]), taken]
  · unfold namesIn
    rw [absent]
    rfl

theorem namesIn_of_hasKeys (keyed : HasKeys value names) : namesIn value = .ok names := by
  obtain ⟨inner, rfl, some, rfl⟩ := keyed
  have taken : textsOf? (inner.map fun entry => .text entry.1) = .some (inner.map (·.1)) := by
    rw [textsOf?_eq_some_iff, List.map_map]
    rfl
  cases inner with
  | nil => exact absurd rfl some
  | cons first rest =>
    unfold namesIn
    dsimp only [Value.items?]
    rw [if_neg (by simp [Value.truthy]), taken]

theorem namesIn_of_isMisfit (misfit : IsMisfit value) : namesIn value = .error .notNames := by
  cases misfit with
  | text some =>
    unfold namesIn
    rw [Value.truthy, some]
    rfl
  | @item items item member other =>
    have untaken : textsOf? items = none := by
      rw [Option.eq_none_iff_forall_ne_some]
      intro names taken
      rw [textsOf?_eq_some_iff.mp taken] at member
      obtain ⟨name, _, same⟩ := List.mem_map.mp member
      exact other name same.symm
    cases items with
    | nil => cases member
    | cons first rest =>
      unfold namesIn
      dsimp only [Value.items?]
      rw [if_neg (by simp [Value.truthy]), untaken]

theorem namesIn_of_isSingle (single : IsSingle value) :
    namesIn value = .error (.defect (.notIterable value.formName)) := by
  obtain ⟨given, none⟩ := single
  cases value with
  | text => cases none
  | list => cases none
  | object => cases none
  | null => cases given
  | bool | int | float | path =>
    unfold namesIn
    rw [given]
    rfl

theorem ListsNames.not_slips (lists : ListsNames value names) : ¬ Slips value := by
  rintro (⟨_, inner, rfl, some, _⟩ | single)
  · obtain isListed | ⟨absent, _⟩ := lists
    · cases isListed
    · exact some (List.isEmpty_iff.mp ((Bool.not_eq_false' _).mp absent))
  · have taken := (namesIn_of_isSingle single).symm.trans (namesIn_of_listsNames lists)
    cases taken

theorem IsMisfit.not_listsNames (misfit : IsMisfit value) (names : List String) :
    ¬ ListsNames value names := by
  intro lists
  have taken := (namesIn_of_isMisfit misfit).symm.trans (namesIn_of_listsNames lists)
  cases taken

/-! ### Filters -/

/-- The filter with names, and with the other fields of an object. -/
def withNames (fields : List (String × Value)) (names : List String) : TargetFilter :=
  ⟨textIn (Value.field fields "db"), names, textIn (Value.field fields "webhook"),
    textIn (Value.field fields "label")⟩

theorem ofMapping_object (fields : List (String × Value)) : ofMapping (.object fields) =
    (namesIn (Value.field fields "dbs")).map (withNames fields) := by
  unfold ofMapping
  dsimp only
  cases namesIn (Value.field fields "dbs") with
  | ok names => rfl
  | error fault => rfl

/-- **A filter has the names that its field lists, unless the field slips through the check.** A
field that lists names gives them to the filter. Any other field is refused with a fault of the
filter, and only fields that list names are taken, unless it slips through: an object gives its keys
as names, and a single value ends in a defect. -/
theorem takes_names_unless_slipping (fields : List (String × Value)) :
    let dbs := Value.field fields "dbs"
    let read := ofMapping (.object fields)
    (∀ names, ListsNames dbs names → read = .ok (withNames fields names)) ∧
    (¬ Slips dbs →
      (∀ filter, read = .ok filter → ∃ names, ListsNames dbs names ∧
        filter = withNames fields names) ∧
      ((∀ names, ¬ ListsNames dbs names) →
        ∃ fault, read = .error fault ∧ fault.isKind .filter = true)) ∧
    (∀ names, HasKeys dbs names → read = .ok (withNames fields names)) ∧
    (IsSingle dbs → ∃ fault, read = .error fault ∧ fault.isStated = false) := by
  intro dbs read
  have isRead : read = (namesIn dbs).map (withNames fields) := ofMapping_object fields
  have takes (names : List String) (lists : ListsNames dbs names) :
      read = .ok (withNames fields names) := by
    rw [isRead, namesIn_of_listsNames lists]
    rfl
  have refuses (misfit : IsMisfit dbs) : read = .error .notNames := by
    rw [isRead, namesIn_of_isMisfit misfit]
    rfl
  -- A value that neither slips through nor lists names is a misfit.
  refine ⟨takes, fun firm => ⟨fun filter taken => ?_, fun unlisted => ?_⟩, fun names keyed => ?_,
    fun single => ⟨.defect (.notIterable dbs.formName), ?_, rfl⟩⟩
  · obtain ⟨names, lists⟩ | keyed | misfit | single := names_cases dbs
    · rw [takes names lists] at taken
      exact ⟨names, lists, (Except.ok.inj taken).symm⟩
    · exact absurd (Or.inl keyed) firm
    · rw [refuses misfit] at taken
      cases taken
    · exact absurd (Or.inr single) firm
  · obtain ⟨names, lists⟩ | keyed | misfit | single := names_cases dbs
    · exact absurd lists (unlisted names)
    · exact absurd (Or.inl keyed) firm
    · exact ⟨.notNames, refuses misfit, rfl⟩
    · exact absurd (Or.inr single) firm
  · rw [isRead, namesIn_of_hasKeys keyed]
    rfl
  · rw [isRead, namesIn_of_isSingle single]
    rfl

/-- Two names are taken, a list with a number is refused, the keys of an object are taken, and the
value that is true ends in a defect. -/
theorem takes_names_unless_slipping_two :
    ofMapping (.object [("dbs", .list [.text "b", .text "a"]), ("label", .text "east")]) =
      .ok ⟨"", ["b", "a"], "", "east"⟩ ∧
    (∃ fault, ofMapping (.object [("dbs", .list [.text "a", .int 1])]) = .error fault ∧
      fault.isKind .filter = true) ∧
    ofMapping (.object [("dbs", .object [("a", .null)])]) = .ok ⟨"", ["a"], "", ""⟩ ∧
    (∃ fault, ofMapping (.object [("dbs", .bool true)]) = .error fault ∧
      fault.isStated = false) := by
  have mixed : IsMisfit (.list [.text "a", .int 1]) :=
    .item (List.mem_cons_of_mem _ List.mem_cons_self) (fun _ same => nomatch same)
  have firm : ¬ Slips (.list [.text "a", .int 1]) := by
    rintro (⟨_, _, isObject, _⟩ | ⟨_, single⟩)
    · cases isObject
    · cases single
  refine ⟨?_, ?_, ?_, ?_⟩
  · exact (takes_names_unless_slipping _).1 ["b", "a"] (Or.inl rfl)
  · exact ((takes_names_unless_slipping [("dbs", .list [.text "a", .int 1])]).2.1 firm).2
      mixed.not_listsNames
  · exact (takes_names_unless_slipping _).2.2.1 ["a"] ⟨_, rfl, List.cons_ne_nil _ _, rfl⟩
  · exact (takes_names_unless_slipping [("dbs", .bool true)]).2.2.2 ⟨rfl, rfl⟩

/-- A number and an object list no names. The number is not refused but ends in a defect, and the
object gives its keys as names. -/
theorem slips_number_and_object :
    ((∀ names, ¬ ListsNames (.int 5) names) ∧
      ofMapping (.object [("dbs", .int 5)]) = .error (.defect (.notIterable "int")) ∧
      (Fault.defect (.notIterable "int")).isStated = false) ∧
    (∀ names, ¬ ListsNames (.object [("a", .int 1)]) names) ∧
      ofMapping (.object [("dbs", .object [("a", .int 1)])]) = .ok ⟨"", ["a"], "", ""⟩ := by
  refine ⟨⟨fun names lists => ?_, rfl, rfl⟩, fun names lists => ?_, rfl⟩
  · exact lists.not_slips (Or.inr ⟨rfl, rfl⟩)
  · exact lists.not_slips (Or.inl ⟨["a"], _, rfl, List.cons_ne_nil _ _, rfl⟩)

end FleetSchema.TargetFilter
