/-
**The pages of a registry are listed completely or not at all.**

A page that links to another one is followed by it, and the names on all pages are answered in the
order of the pages. When some answer is no page, nothing is answered but a fault of the registry.

* `Page`, `Shows`: a page, and the answers that show it;
* `Unusable`: the answers that are no page;
* `visitsFor`, `after`: the pages that are asked for, and the session that is left then;
* `lists_page_by_page`: a listing asks for each page once, in order, and answers with all names or
  with a fault of the registry.
-/

import FleetSchema.Proofs.Registry.Walk
import FleetSchema.Proofs.Session.Frame
import Mathlib.Data.List.Forall2

namespace FleetSchema.Registry

open FleetSchema.Action

/-! ### Pages -/

/-- A page of a registry: the groups on it, and the link to the next page, which is empty on the
last one. -/
structure Page where
  groups : List Value
  link : String

/-- The names of the groups on a page. -/
def Page.names (page : Page) : List String := page.groups.map Value.toText

/-- The fields of an answer are those of a page. Groups and a link may be left out or be the empty
value when there are none. -/
structure Holds (fields : List (String × Value)) (page : Page) : Prop where
  groups : Value.field fields "schemaGroups" = .list page.groups ∨
    Value.field fields "schemaGroups" = .null ∧ page.groups = []
  link : Value.field fields "nextLink" = .text page.link ∨
    Value.field fields "nextLink" = .null ∧ page.link = ""

/-- An answer shows a page. -/
structure Shows (answer : WebAnswer) (page : Page) : Prop where
  status : answer.status = 200
  holds : ∃ fields, Web.readJson answer = .ok (.object fields) ∧ Holds fields page

/-- What comes of a request is no page: there is no answer, its status is not the one of success, it
is no JSON, or it is no object. -/
inductive Unusable : Except Fault WebAnswer → Prop
  | transport {fault : Fault} (fails : fault.families.transport = true) : Unusable (.error fault)
  | status {answer : WebAnswer} (refuses : answer.status ≠ 200) : Unusable (.ok answer)
  | unreadable {answer : WebAnswer} {fault : Fault} (status : answer.status = 200)
      (unread : Web.readJson answer = .error fault) : Unusable (.ok answer)
  | payload {answer : WebAnswer} {value : Value} (status : answer.status = 200)
      (read : Web.readJson answer = .ok value) (other : ∀ fields, value ≠ .object fields) :
      Unusable (.ok answer)

variable {registry : Registry} {answer : WebAnswer} {page : Page} {fields : List (String × Value)}
  {outcome : Except Fault WebAnswer}

theorem Holds.groupsOn (holds : Holds fields page) : groupsOn fields = .ok page.names := by
  unfold Registry.groupsOn Page.names
  obtain isList | ⟨isNull, none⟩ := holds.groups
  · rw [isList]
    cases page.groups with
    | nil => rfl
    | cons first others => rfl
  · rw [isNull, none]
    rfl

/-- The address that a link leads to: within the registry, unless it is a whole address. -/
def addressOf (registry : Registry) (link : String) : String :=
  if ClusterUri.startsAs "/" link then ClusterUri.scheme ++ registry.endpoint ++ link else link

theorem Holds.nextAddress (holds : Holds fields page) : registry.nextAddress fields =
    .ok (if page.link = "" then none else some (registry.addressOf page.link)) := by
  unfold Registry.nextAddress addressOf
  obtain isText | ⟨isNull, none⟩ := holds.link
  · rw [isText]
    by_cases last : page.link = ""
    · rw [last]
      rfl
    · rw [if_neg last]
      split
      · rename_i empty
        exact absurd (Value.text.inj empty) last
      · rename_i same
        rw [Value.text.inj same]
      · rename_i other
        exact absurd rfl (other _)
  · rw [isNull, none]
    rfl

theorem valueIn_of_status (status : answer.status = 200) :
    registry.valueIn answer = Web.readJson answer := by
  unfold valueIn
  rw [status]
  rfl

theorem fieldsOf_of_read (status : answer.status = 200)
    (read : Web.readJson answer = .ok (.object fields)) :
    registry.fieldsOf (.ok answer) = .ok fields := by
  unfold fieldsOf
  dsimp only [Except.bind]
  rw [valueIn_of_status status, read]

/-- A page that is shown comes to its names and its link. -/
theorem Shows.turn (registry : Registry) (shows : Shows answer page) : registry.turn (.ok answer) =
    .ok (page.names, if page.link = "" then none else some (registry.addressOf page.link)) := by
  obtain ⟨fields, read, holds⟩ := shows.holds
  have told : registry.tell fields =
      .ok (page.names, if page.link = "" then none else some (registry.addressOf page.link)) := by
    unfold tell
    rw [holds.groupsOn, holds.nextAddress]
  unfold Registry.turn
  rw [fieldsOf_of_read shows.status read]
  dsimp only
  rw [told]
  rfl

/-- A fault of the web, about a value or of the registry is restated as one of the registry. -/
theorem isKind_restate {fault : Fault} (known : fault.families.transport = true ∨
    fault.families.value = true ∨ fault.isKind .registry = true) :
    (registry.restate fault).isKind .registry = true := by
  unfold restate
  by_cases transport : fault.families.transport = true
  · rw [if_pos transport]
    rfl
  by_cases value : fault.families.value = true
  · rw [if_neg transport, if_pos value]
    rfl
  · rw [if_neg transport, if_neg value]
    exact (known.resolve_left transport).resolve_left value

/-- What is no page gives a fault of the registry. -/
theorem Unusable.fieldsOf (registry : Registry) (unusable : Unusable outcome) :
    ∃ fault, fault.isKind .registry = true ∧ registry.fieldsOf outcome = .error fault := by
  have restated {fault : Fault} (fails : outcome.bind registry.valueIn = .error fault)
      (known : fault.families.transport = true ∨ fault.families.value = true ∨
        fault.isKind .registry = true) :
      ∃ fault, fault.isKind .registry = true ∧ registry.fieldsOf outcome = .error fault := by
    refine ⟨registry.restate fault, isKind_restate known, ?_⟩
    unfold Registry.fieldsOf
    rw [fails]
  cases unusable with
  | transport fails => exact restated rfl (Or.inl fails)
  | status refuses => exact restated (if_pos (bne_iff_ne.mpr refuses)) (Or.inr (Or.inr rfl))
  | unreadable status unread =>
    exact restated ((valueIn_of_status status).trans unread)
      (Or.inr (Or.inl (Web.families_of_readJson unread)))
  | @payload answer value status read other =>
    refine ⟨.registryPayload registry.endpoint, rfl, ?_⟩
    unfold Registry.fieldsOf
    dsimp only [Except.bind]
    rw [valueIn_of_status status, read]
    cases value with
    | object fields => exact absurd rfl (other fields)
    | null | bool | int | float | text | path | list => rfl

/-- What is no page ends a listing with a fault of the registry. -/
theorem Unusable.turn (registry : Registry) (unusable : Unusable outcome) :
    ∃ fault, fault.isKind .registry = true ∧ registry.turn outcome = .error fault := by
  obtain ⟨fault, isRegistry, fails⟩ := unusable.fieldsOf registry
  refine ⟨fault, isRegistry, ?_⟩
  unfold Registry.turn
  rw [fails]

/-! ### Requests -/

/-- The request for the page that a page links to. -/
def visitBehind (registry : Registry) (page : Page) : Visit := ⟨registry.addressOf page.link, none⟩

/-- The requests of a listing that gets to see pages with links: the first one is for the first
page, and every other one is for the page that the page before links to. -/
def visitsFor (registry : Registry) (pages : List Page) : List Visit :=
  registry.firstVisit :: pages.map registry.visitBehind

/-- The calls of several requests, one after the other. -/
def callsOf (registry : Registry) : List Event → List Visit → List Call
  | _, [] => []
  | past, visit :: rest =>
    registry.callsFor past visit ++
      registry.callsOf (past ++ (registry.callsFor past visit).map .call) rest

/-- The page that a call asks for. -/
def visit? : Call → Option Visit
  | .fetched request => some ⟨request.address, request.parameters⟩
  | _ => none

/-- Tokens are given for several requests, one after the other. -/
def GivesTokens (registry : Registry) : List Event → List Visit → Prop
  | _, [] => True
  | past, visit :: rest =>
    registry.tokenFault? past = none ∧
      registry.GivesTokens (past ++ (registry.callsFor past visit).map .call) rest

/-- The session behind several requests, with the answers that are left of the web. -/
def after (registry : Registry) (session : Session) (visits : List Visit)
    (rest : List (Except Fault WebAnswer)) : Session :=
  { session.calling (registry.callsOf session.events visits) with web := rest }

theorem after_cons (registry : Registry) (session : Session) (visit : Visit) (visits : List Visit)
    (left rest : List (Except Fault WebAnswer)) :
    registry.after (registry.visited session visit left) visits rest =
      registry.after session (visit :: visits) rest := by
  unfold after visited Session.calling
  rw [callsOf, List.map_append, List.append_assoc]

theorem after_singleton (registry : Registry) (session : Session) (visit : Visit)
    (rest : List (Except Fault WebAnswer)) :
    registry.after session [visit] rest = registry.visited session visit rest := by
  unfold after visited
  rw [callsOf, callsOf, List.append_nil]

/-! ### All pages -/

/-- **Pages with links are walked through**, and what comes behind them ends the listing. -/
theorem walks_pages {answers : List WebAnswer} {pages : List Page}
    (shows : List.Forall₂ Shows answers pages) (linked : ∀ page ∈ pages, page.link ≠ "")
    {rest : List (Except Fault WebAnswer)} {ended : Except Fault (List String)}
    (ends : ∀ visit session, registry.tokenFault? session.events = none →
      session.web = outcome :: rest →
        registry.Walks visit session ended (registry.visited session visit rest))
    {visit : Visit} {session : Session}
    (web : session.web = answers.map .ok ++ outcome :: rest)
    (tokens : registry.GivesTokens session.events (visit :: pages.map registry.visitBehind)) :
    registry.Walks visit session (ended.map (pages.flatMap Page.names ++ ·))
      (registry.after session (visit :: pages.map registry.visitBehind) rest) := by
  induction shows generalizing visit session with
  | nil =>
    have same : ended.map (([] : List Page).flatMap Page.names ++ ·) = ended := by
      cases ended with
      | error fault => rfl
      | ok names => rfl
    rw [same, List.map_nil, after_singleton]
    exact ends visit session tokens.1 web
  | @cons answer page answers pages shown _ ih =>
    have isLinked := linked page List.mem_cons_self
    have leads := shown.turn registry
    rw [if_neg isLinked] at leads
    have left : (registry.visited session visit (answers.map .ok ++ outcome :: rest)).web =
        answers.map .ok ++ outcome :: rest := rfl
    have others :=
      ih (fun other member => linked other (List.mem_cons_of_mem _ member)) left tokens.2
    have walks := Walks.linked tokens.1 web leads others
    have joined : (ended.map (pages.flatMap Page.names ++ ·)).map (page.names ++ ·) =
        ended.map ((page :: pages).flatMap Page.names ++ ·) := by
      cases ended with
      | error fault => rfl
      | ok names =>
        rw [List.flatMap_cons]
        exact congrArg Except.ok (List.append_assoc _ _ _).symm
    rw [after_cons, joined] at walks
    exact walks

/-- **The pages of a registry are listed completely or not at all.** A listing that gets to see
pages with links asks once for each of them and once for what is behind them, with a fresh token
each time if there is a credential. Behind them stands the last page, and the names on all pages are
answered in order, or what is no page, and the listing fails. -/
theorem lists_page_by_page (registry : Registry) (session : Session) {answers : List WebAnswer}
    {pages : List Page} {rest : List (Except Fault WebAnswer)}
    (shows : List.Forall₂ Shows answers pages) (linked : ∀ page ∈ pages, page.link ≠ "")
    (web : session.web = answers.map .ok ++ outcome :: rest)
    (tokens : registry.GivesTokens session.events (registry.visitsFor pages)) :
    (∀ answer page, outcome = .ok answer → Shows answer page → page.link = "" →
      registry.groups.perform session =
        (.ok ((pages ++ [page]).flatMap Page.names),
          registry.after session (registry.visitsFor pages) rest)) ∧
    (Unusable outcome → ∃ fault, fault.isKind .registry = true ∧
      registry.groups.perform session =
        (.error fault, registry.after session (registry.visitsFor pages) rest)) := by
  constructor
  · intro answer page isAnswer shown last
    have ends := shown.turn registry
    rw [if_pos last, ← isAnswer] at ends
    have walks := walks_pages shows linked (fun _ _ given left => .last given left ends) web tokens
    rw [perform_groups_iff, List.flatMap_append, List.flatMap_singleton]
    exact walks
  · intro unusable
    obtain ⟨fault, isRegistry, fails⟩ := unusable.turn registry
    have walks := walks_pages shows linked (fun _ _ given left => .failed given left fails) web
      tokens
    exact ⟨fault, isRegistry, perform_groups_iff.mpr walks⟩

/-- A listing of two pages, and one whose second page cannot be had. -/
theorem lists_page_by_page_two :
    let registry := Registry.make "https://r.n/" (some (.ok "t")) Web.patience
    let first : WebAnswer :=
      ⟨200, "OK", "\x7b\"schemaGroups\": [\"a\", true], \"nextLink\": \"/b\"\x7d"⟩
    let final : WebAnswer := ⟨200, "OK", "\x7b\"schemaGroups\": [\"a\"]\x7d"⟩
    let session : Session := { Session.start ⟨[], []⟩ with web := [.ok first, .ok final] }
    let cut : Session :=
      { Session.start ⟨[], []⟩ with web := [.ok first, .ok ⟨503, "Unavailable", ""⟩] }
    (registry.groups.perform session).1 = .ok ["a", "True", "a"] ∧
      ∃ fault, fault.isKind .registry = true ∧ (registry.groups.perform cut).1 = .error fault := by
  intro registry first final session cut
  have readFirst : Web.readJson first = .ok (.object
      [("schemaGroups", .list [.text "a", .bool true]), ("nextLink", .text "/b")]) := by cbv
  have readFinal : Web.readJson final =
      .ok (.object [("schemaGroups", .list [.text "a"])]) := by cbv
  have shown : List.Forall₂ Shows [first] [⟨[.text "a", .bool true], "/b"⟩] :=
    .cons ⟨rfl, _, readFirst, Or.inl rfl, Or.inl rfl⟩ .nil
  have shownFinal : Shows final ⟨[.text "a"], ""⟩ :=
    ⟨rfl, _, readFinal, Or.inl rfl, Or.inr ⟨rfl, rfl⟩⟩
  have linked : ∀ page ∈ [(⟨[.text "a", .bool true], "/b"⟩ : Page)], page.link ≠ "" := by
    intro page member
    rw [List.mem_singleton.mp member]
    decide
  obtain ⟨lists, _⟩ :=
    lists_page_by_page registry session shown linked rfl ⟨rfl, rfl, trivial⟩
  obtain ⟨_, fails⟩ := lists_page_by_page registry cut shown linked rfl ⟨rfl, rfl, trivial⟩
  obtain ⟨fault, isRegistry, failed⟩ := fails (.status (by decide))
  refine ⟨?_, fault, isRegistry, ?_⟩
  · rw [lists final ⟨[.text "a"], ""⟩ rfl shownFinal rfl]
    rfl
  · rw [failed]

end FleetSchema.Registry
