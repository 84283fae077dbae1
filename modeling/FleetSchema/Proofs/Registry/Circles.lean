/-
**Listings that go round in circles.**

A listing follows the links of the server that it asks, and it does not look back at where it has
been. Against a server whose answers depend on the request alone it comes to its end when no link
leads back to a page that was asked for before. Otherwise it goes round the same pages, and nothing
but a token that is refused puts an end to that.

* `Server`, `ServedBy`: a server, and answers that come from it;
* `way`: the pages that the links of a server lead through;
* `way_ne_none_of_repeated`: a way that comes to one page twice does not end;
* `Follows`: what is known of the calls of a listing that goes along such a way;
* `asked`, `Waits`, `IsRefused`, `Finishes`: the pages that a listing asks for, and how it ends;
* `finishes_unless_circling`: a listing that finishes has asked for no page twice, and one that has
  done so never finishes.
-/

import FleetSchema.Proofs.Registry.Pagination
import Mathlib.Dynamics.PeriodicPts.Defs

namespace FleetSchema.Registry

open FleetSchema.Action

/-- A server for the pages of a registry: what it answers depends on the page that is asked for. -/
abbrev Server := Visit → Except Fault WebAnswer

variable {registry : Registry} {server : Server} {visit : Visit} {session last : Session}
  {ended : Except Fault (List String)} {outcome : Except Fault WebAnswer}

/-! ### The way along the links -/

/-- The page that an answer links to, if there is one. -/
def linked? (registry : Registry) (outcome : Except Fault WebAnswer) : Option Visit :=
  match registry.turn outcome with
  | .ok (_, some address) => some ⟨address, none⟩
  | _ => none

/-- The page that the answer of a server for a page links to. -/
def next? (registry : Registry) (server : Server) (visit : Visit) : Option Visit :=
  registry.linked? (server visit)

/-- The page at a place on the way that starts at a page and follows the links of a server. -/
def way (registry : Registry) (server : Server) (visit : Visit) (place : Nat) : Option Visit :=
  (fun reached => reached.bind (registry.next? server))^[place] (some visit)

theorem way_succ (registry : Registry) (server : Server) (visit : Visit) (place : Nat) :
    registry.way server visit (place + 1) =
      (registry.way server visit place).bind (registry.next? server) :=
  Function.iterate_succ_apply' _ _ _

/-- The way from a page on goes along the way from the page that it links to. -/
theorem way_succ_of_next {next : Visit} (leads : registry.next? server visit = some next)
    (place : Nat) : registry.way server visit (place + 1) = registry.way server next place := by
  unfold way
  rw [Function.iterate_succ_apply]
  exact congrArg _ leads

/-- A way that has ended does not go on. -/
theorem way_add_of_eq_none {place : Nat} (ends : registry.way server visit place = none)
    (more : Nat) : registry.way server visit (place + more) = none := by
  unfold way at ends ⊢
  rw [Nat.add_comm, Function.iterate_add_apply, ends]
  exact Function.iterate_fixed rfl more

/-- **A way that comes to one page twice does not end**: from there on it is periodic. -/
theorem way_ne_none_of_repeated {first second : Nat} {reached : Visit} (before : first < second)
    (once : registry.way server visit first = some reached)
    (again : registry.way server visit second = some reached) (place : Nat) :
    registry.way server visit place ≠ none := by
  intro ends
  have periodic : Function.IsPeriodicPt (fun reached => reached.bind (registry.next? server))
      (second - first) (some reached) := by
    unfold way at once again
    rwa [← Nat.sub_add_cancel before.le, Function.iterate_add_apply, once] at again
  have later : registry.way server visit ((second - first) * place + first) = some reached := by
    unfold way at once ⊢
    rw [Function.iterate_add_apply, once]
    exact periodic.mul_const place
  have reaches : place ≤ (second - first) * place + first :=
    (Nat.le_mul_of_pos_left place (Nat.sub_pos_of_lt before)).trans (Nat.le_add_right _ _)
  obtain ⟨more, isMore⟩ := Nat.exists_eq_add_of_le reaches
  rw [isMore, way_add_of_eq_none ends] at later
  cases later

/-- Behind its first page a way has no parameters. -/
theorem parameters_of_way_succ {place : Nat} {reached : Visit}
    (reaches : registry.way server visit (place + 1) = some reached) :
    reached.parameters = none := by
  rw [way_succ] at reaches
  obtain ⟨before, _, leads⟩ := Option.bind_eq_some_iff.mp reaches
  unfold next? linked? at leads
  split at leads
  · cases leads
    rfl
  · cases leads

/-- The first pages on the way, no more than a number of them. -/
def stretch (registry : Registry) (server : Server) : Visit → Nat → List Visit
  | _, 0 => []
  | visit, count + 1 =>
    visit :: ((registry.next? server visit).elim [] fun next => stretch registry server next count)

/-! ### The calls along the way -/

/-- The pages among calls that are asked for. -/
def visitsIn (calls : List Call) : List Visit := calls.filterMap visit?

/-- Calls end with one for a token, behind which no request was sent. -/
def EndsAtToken (calls : List Call) : Prop := calls.getLast? = some (.tokenAsked [scope])

/-- Answers are those of a server to the pages that are asked for. -/
def ServedBy (server : Server) (visits : List Visit) (web : List (Except Fault WebAnswer)) : Prop :=
  ∀ pair ∈ visits.zip web, pair.2 = server pair.1

theorem visitsIn_append (first second : List Call) :
    visitsIn (first ++ second) = visitsIn first ++ visitsIn second := List.filterMap_append

theorem visitsIn_tokenCalls (registry : Registry) : visitsIn registry.tokenCalls = [] := by
  unfold tokenCalls
  split
  · rfl
  · rfl

theorem visitsIn_callsFor (registry : Registry) (past : List Event) (visit : Visit) :
    visitsIn (registry.callsFor past visit) = [visit] := by
  unfold callsFor
  rw [visitsIn_append, visitsIn_tokenCalls]
  rfl

theorem endsAtToken_tokenCalls {past : List Event} {fault : Fault}
    (refuses : registry.tokenFault? past = some fault) : EndsAtToken registry.tokenCalls := by
  unfold tokenFault? at refuses
  unfold EndsAtToken tokenCalls
  cases isCredential : registry.credential with
  | none =>
    rw [isCredential] at refuses
    cases refuses
  | some credential => rfl

theorem not_endsAtToken_callsFor (past : List Event) (visit : Visit) :
    ¬ EndsAtToken (registry.callsFor past visit) := by
  unfold EndsAtToken callsFor
  rw [List.getLast?_concat]
  rintro ⟨⟩

/-- Calls behind a request end with one for a token when all calls together do. -/
theorem endsAtToken_callsFor_append_iff {calls : List Call} (past : List Event) (visit : Visit) :
    EndsAtToken (registry.callsFor past visit ++ calls) ↔ EndsAtToken calls := by
  rcases calls.eq_nil_or_concat with rfl | ⟨earlier, last, rfl⟩
  · rw [List.append_nil]
    exact ⟨fun ends => absurd ends (not_endsAtToken_callsFor past visit), by rintro ⟨⟩⟩
  · unfold EndsAtToken
    rw [List.concat_eq_append, ← List.append_assoc, List.getLast?_concat, List.getLast?_concat]

/-- What is known of the calls of a listing from a page on, with the answers that the web has. When
these are the answers of a server, it asks for the pages on the way of that server, and it stops at
its end unless it is refused a token or finds no answer left. Answers for the first pages of the way
are such answers, and a listing that finds none left has used up as many as were meant to be
there. The calls end with one for a token only when the credential refuses it. -/
structure Follows (registry : Registry) (visit : Visit) (web : List (Except Fault WebAnswer))
    (calls : List Call) : Prop where
  along : ∀ server, ServedBy server (visitsIn calls) web → ∀ place asked,
    (visitsIn calls)[place]? = some asked → registry.way server visit place = some asked
  ends : ∀ server, ServedBy server (visitsIn calls) web → (visitsIn calls).length ≤ web.length →
    ¬ EndsAtToken calls → registry.way server visit (visitsIn calls).length = none
  served : ∀ server count, web = (registry.stretch server visit count).map server →
    ServedBy server (visitsIn calls) web
  used : ∀ server count, web = (registry.stretch server visit count).map server →
    web.length < (visitsIn calls).length → web.length = count
  refused : EndsAtToken calls → ∃ past fault, registry.tokenFault? past = some fault

section Follows

variable {web : List (Except Fault WebAnswer)} {calls : List Call} {past : List Event}

/-- A listing that is refused a token asks for no page. -/
theorem follows_refused {fault : Fault} (refuses : registry.tokenFault? past = some fault)
    (visit : Visit) (web : List (Except Fault WebAnswer)) :
    registry.Follows visit web registry.tokenCalls where
  along _ _ _ _ asks := by
    rw [visitsIn_tokenCalls] at asks
    cases asks
  ends _ _ _ other := absurd (endsAtToken_tokenCalls refuses) other
  served _ _ _ := by
    rw [visitsIn_tokenCalls]
    rintro _ ⟨⟩
  used _ _ _ short := by
    rw [visitsIn_tokenCalls] at short
    cases short
  refused _ := ⟨past, fault, refuses⟩

/-- A request for the page itself is the first one on the way. -/
theorem along_callsFor {place : Nat} {asked : Visit} (server : Server)
    (asks : (visitsIn (registry.callsFor past visit))[place]? = some asked) :
    registry.way server visit place = some asked := by
  rw [visitsIn_callsFor] at asks
  cases place with
  | zero => exact asks
  | succ place => cases asks

/-- A listing that finds no answer left asks for the page itself. -/
theorem follows_unanswered (registry : Registry) (past : List Event) (visit : Visit) :
    registry.Follows visit [] (registry.callsFor past visit) where
  along server _ _ _ asks := along_callsFor server asks
  ends _ _ answered _ := by
    rw [visitsIn_callsFor] at answered
    cases answered
  served _ _ _ := by
    rw [ServedBy, List.zip_nil_right]
    rintro _ ⟨⟩
  used server count isWeb _ := by
    cases count with
    | zero => rfl
    | succ count => cases isWeb
  refused ends := absurd ends (not_endsAtToken_callsFor past visit)

theorem servedBy_cons {visits : List Visit} : ServedBy server (visit :: visits) (outcome :: web) ↔
    outcome = server visit ∧ ServedBy server visits web := by
  unfold ServedBy
  rw [List.zip_cons_cons, List.forall_mem_cons]

/-- Answers for the first pages on a way start with that for the first one. -/
theorem exists_stretch {count : Nat}
    (isWeb : outcome :: web = (registry.stretch server visit count).map server) :
    ∃ fewer, count = fewer + 1 ∧ outcome = server visit ∧
      ∀ next, registry.linked? outcome = some next →
        web = (registry.stretch server next fewer).map server := by
  cases count with
  | zero => cases isWeb
  | succ fewer =>
    rw [stretch, List.map_cons, List.cons.injEq] at isWeb
    obtain ⟨rfl, isRest⟩ := isWeb
    refine ⟨fewer, rfl, rfl, fun next leads => ?_⟩
    rw [isRest, show registry.next? server visit = some next from leads]
    rfl

/-- A listing that stops at the answer for the page itself. -/
theorem follows_stopped (stops : registry.linked? outcome = none) (past : List Event)
    (visit : Visit) :
    registry.Follows visit (outcome :: web) (registry.callsFor past visit) where
  along server _ _ _ asks := along_callsFor server asks
  ends server served _ _ := by
    rw [visitsIn_callsFor] at served ⊢
    obtain ⟨rfl, _⟩ := servedBy_cons.mp served
    exact stops
  served server count isWeb := by
    obtain ⟨_, _, isOutcome, _⟩ := exists_stretch isWeb
    rw [visitsIn_callsFor]
    exact servedBy_cons.mpr ⟨isOutcome, by rintro _ ⟨⟩⟩
  used _ _ _ short := by
    rw [visitsIn_callsFor] at short
    cases Nat.lt_of_succ_lt_succ short
  refused ends := absurd ends (not_endsAtToken_callsFor past visit)

/-- A listing that goes on from the page itself to the one that it links to. -/
theorem Follows.behind {next : Visit} (leads : registry.linked? outcome = some next)
    (follows : registry.Follows next web calls) (past : List Event) (visit : Visit) :
    registry.Follows visit (outcome :: web) (registry.callsFor past visit ++ calls) := by
  have visits : visitsIn (registry.callsFor past visit ++ calls) = visit :: visitsIn calls := by
    rw [visitsIn_append, visitsIn_callsFor]
    rfl
  constructor
  · intro server served place asked asks
    rw [visits] at served asks
    obtain ⟨rfl, servedRest⟩ := servedBy_cons.mp served
    cases place with
    | zero => exact asks
    | succ place =>
      rw [way_succ_of_next leads]
      exact follows.along server servedRest place asked asks
  · intro server served answered other
    rw [visits] at served answered ⊢
    obtain ⟨rfl, servedRest⟩ := servedBy_cons.mp served
    rw [List.length_cons, way_succ_of_next leads]
    exact follows.ends server servedRest (Nat.le_of_succ_le_succ answered)
      fun ends => other ((endsAtToken_callsFor_append_iff past visit).mpr ends)
  · intro server count isWeb
    obtain ⟨fewer, _, isOutcome, isRest⟩ := exists_stretch isWeb
    rw [visits]
    exact servedBy_cons.mpr ⟨isOutcome, follows.served server fewer (isRest next leads)⟩
  · intro server count isWeb short
    obtain ⟨fewer, rfl, _, isRest⟩ := exists_stretch isWeb
    rw [visits] at short
    exact congrArg (· + 1)
      (follows.used server fewer (isRest next leads) (Nat.lt_of_succ_lt_succ short))
  · exact fun ends => follows.refused ((endsAtToken_callsFor_append_iff past visit).mp ends)

end Follows

/-- **A listing goes along the way of the server that it asks.** -/
theorem Walks.follows (walks : registry.Walks visit session ended last) :
    ∃ calls, last.events = session.events ++ calls.map .call ∧
      registry.Follows visit session.web calls := by
  -- By induction on the pages: four of the cases stop, and only a link goes on.
  induction walks with
  | @untokened visit session _ refuses =>
    exact ⟨_, rfl, follows_refused refuses visit session.web⟩
  | @unanswered visit session _ left =>
    rw [left]
    exact ⟨_, rfl, registry.follows_unanswered session.events visit⟩
  | @failed visit session outcome _ _ _ left fails =>
    have stops : registry.linked? outcome = none := by
      unfold linked?
      rw [fails]
    rw [left]
    exact ⟨_, rfl, follows_stopped stops session.events visit⟩
  | @last visit session outcome _ _ _ left ends =>
    have stops : registry.linked? outcome = none := by
      unfold linked?
      rw [ends]
    rw [left]
    exact ⟨_, rfl, follows_stopped stops session.events visit⟩
  | @linked visit session _ outcome _ _ next _ _ left leads _ ih =>
    obtain ⟨calls, isBehind, follows⟩ := ih
    have leads : registry.linked? outcome = some ⟨next, none⟩ := by
      unfold linked?
      rw [leads]
    refine ⟨registry.callsFor session.events visit ++ calls, ?_, ?_⟩
    · rw [isBehind, List.map_append, ← List.append_assoc]
      rfl
    · rw [left]
      exact follows.behind leads session.events visit

/-! ### Listings -/

/-- The calls of a listing. -/
def made (registry : Registry) (session : Session) : List Call :=
  callsIn (session.since (registry.groups.perform session).2)

/-- The pages that a listing asks for. -/
def asked (registry : Registry) (session : Session) : List Visit :=
  visitsIn (registry.made session)

/-- A listing gets its answers from a server. -/
def Serves (registry : Registry) (server : Server) (session : Session) : Prop :=
  ServedBy server (registry.asked session) session.web

/-- A listing asks for a page that the web has no answer left for. -/
def Waits (registry : Registry) (session : Session) : Prop :=
  session.web.length < (registry.asked session).length

/-- A listing is refused a token. -/
def IsRefused (registry : Registry) (session : Session) : Prop :=
  EndsAtToken (registry.made session)

/-- A listing comes to its end by an answer: by the last page, or by what is no page. -/
def Finishes (registry : Registry) (session : Session) : Prop :=
  ¬ registry.Waits session ∧ ¬ registry.IsRefused session

/-- Pages that link to other ones stand at known addresses only. -/
def Knows (registry : Registry) (server : Server) (known : List String) : Prop :=
  ∀ visit, registry.next? server visit ≠ none → visit.address ∈ known

theorem follows_made (registry : Registry) (session : Session) :
    registry.Follows registry.firstVisit session.web (registry.made session) := by
  have walks := perform_groups_iff.mp (Prod.eta (registry.groups.perform session)).symm
  obtain ⟨calls, isBehind, follows⟩ := walks.follows
  have isMade : registry.made session = calls := by
    rw [made, Session.since_eq isBehind, callsIn_map_call]
  rwa [isMade]

/-- Without a credential no token is refused. -/
theorem not_isRefused (registry : Registry) (none : registry.credential = none) (session : Session) :
    ¬ registry.IsRefused session := by
  intro refused
  obtain ⟨past, fault, refuses⟩ := (registry.follows_made session).refused refused
  unfold tokenFault? at refuses
  rw [none] at refuses
  cases refuses

/-- The way from the first page ends behind a listing that finishes. -/
theorem way_eq_none_of_finishes (serves : registry.Serves server session)
    (finishes : registry.Finishes session) :
    registry.way server registry.firstVisit (registry.asked session).length = none :=
  (registry.follows_made session).ends server serves (Nat.le_of_not_lt finishes.1) finishes.2

/-- **The way from the first page does not end** when a listing asks for a page twice. -/
theorem way_ne_none_of_asked (serves : registry.Serves server session)
    (twice : ¬ (registry.asked session).Nodup) (place : Nat) :
    registry.way server registry.firstVisit place ≠ none := by
  rw [List.nodup_iff_getElem?_ne_getElem?] at twice
  push Not at twice
  obtain ⟨first, second, before, within, same⟩ := twice
  have along := (registry.follows_made session).along server serves
  have again := List.getElem?_eq_getElem within
  exact way_ne_none_of_repeated before (along first _ (same.trans again)) (along second _ again)
    place

/-- A server can serve a listing with as many answers as one likes, up to its end. -/
theorem exists_serves (registry : Registry) (server : Server) (session : Session) (count : Nat) :
    ∃ web, registry.Serves server { session with web := web } ∧
      (registry.Waits { session with web := web } → web.length = count) := by
  have follows := registry.follows_made
    { session with web := (registry.stretch server registry.firstVisit count).map server }
  exact ⟨_, follows.served server count rfl, follows.used server count rfl⟩

/-- The pages that a listing goes on from are the first one and others at known addresses. -/
theorem dropLast_asked_subset {known : List String} (knows : registry.Knows server known)
    (serves : registry.Serves server session) :
    (registry.asked session).dropLast ⊆ registry.firstVisit :: known.map (⟨·, none⟩) := by
  intro visit member
  have along := (registry.follows_made session).along server serves
  obtain ⟨place, isVisit⟩ := List.mem_iff_getElem?.mp member
  rw [List.getElem?_dropLast] at isVisit
  split at isVisit
  · rename_i before
    have here := along place visit isVisit
    cases place with
    | zero => exact List.mem_cons.mpr (Or.inl (Option.some.inj here).symm)
    | succ earlier =>
      have isNext := List.getElem?_eq_getElem (Nat.add_lt_of_lt_sub before)
      have leads := along (earlier + 1 + 1) _ isNext
      rw [way_succ, here] at leads
      refine List.mem_cons_of_mem _ (List.mem_map.mpr ⟨visit.address, knows visit ?_, ?_⟩)
      · exact Option.ne_none_iff_exists'.mpr ⟨_, leads⟩
      · rw [← parameters_of_way_succ here]
  · cases isVisit

/-- A listing that asks for no page twice asks for few of them. -/
theorem length_asked_le {known : List String} (knows : registry.Knows server known)
    (serves : registry.Serves server session) (once : (registry.asked session).Nodup) :
    (registry.asked session).length ≤ known.length + 2 := by
  have few := (once.sublist (List.dropLast_sublist _)).length_le_of_subset
    (dropLast_asked_subset knows serves)
  rw [List.length_dropLast, List.length_cons, List.length_map] at few
  omega

/-- **No listing finishes on a server where one has asked for a page twice.** -/
theorem not_finishes_of_asked {other : Session} (serves : registry.Serves server session)
    (twice : ¬ (registry.asked session).Nodup) (servesOther : registry.Serves server other) :
    ¬ registry.Finishes other := fun finishes =>
  way_ne_none_of_asked serves twice _ (way_eq_none_of_finishes servesOther finishes)

/-- On such a server a listing asks for another page behind any number of answers, unless it is
refused a token. -/
theorem exists_waits_of_asked (serves : registry.Serves server session)
    (twice : ¬ (registry.asked session).Nodup) (other : Session) (count : Nat) :
    ∃ web, registry.Serves server { other with web := web } ∧
      (registry.Waits { other with web := web } ∧ web.length = count ∨
        registry.IsRefused { other with web := web }) := by
  -- The answers are those for the first pages of the way, which has as many as one likes.
  obtain ⟨web, servesOther, used⟩ := registry.exists_serves server other count
  refine ⟨web, servesOther, ?_⟩
  by_cases refused : registry.IsRefused { other with web := web }
  · exact Or.inr refused
  · have waits : registry.Waits { other with web := web } := by
      by_contra answered
      exact not_finishes_of_asked serves twice servesOther ⟨answered, refused⟩
    exact Or.inl ⟨waits, used waits⟩

/-- **A listing finishes unless it goes round in circles.** Against every server, a listing that
finishes has asked for no page twice. When the server knows pages with links at some addresses only,
a listing that asks for no page twice asks for at most two more pages than there are addresses, and
with that many answers it finishes or is refused a token. When a listing asks for a page twice, then
no listing on that server finishes: after any number of answers it asks for another page, or it has
been refused a token. -/
theorem finishes_unless_circling (registry : Registry) (server : Server) :
    (∀ session, registry.Serves server session → registry.Finishes session →
      (registry.asked session).Nodup) ∧
    (∀ known, registry.Knows server known → ∀ session, registry.Serves server session →
      (registry.asked session).Nodup → (registry.asked session).length ≤ known.length + 2 ∧
        (known.length + 2 ≤ session.web.length →
          registry.Finishes session ∨ registry.IsRefused session)) ∧
    ∀ session, registry.Serves server session → ¬ (registry.asked session).Nodup →
      (∀ other, registry.Serves server other → ¬ registry.Finishes other) ∧
      ∀ (other : Session) (count : Nat), ∃ web, registry.Serves server { other with web := web } ∧
        (registry.Waits { other with web := web } ∧ web.length = count ∨
          registry.IsRefused { other with web := web }) := by
  refine ⟨fun session serves finishes => ?_, fun known knows session serves once => ?_,
    fun session serves twice => ⟨fun other => not_finishes_of_asked serves twice,
      exists_waits_of_asked serves twice⟩⟩
  · by_contra twice
    exact not_finishes_of_asked serves twice serves finishes
  · have few := length_asked_le knows serves once
    refine ⟨few, fun enough => ?_⟩
    by_cases refused : registry.IsRefused session
    · exact Or.inr refused
    · exact Or.inl ⟨Nat.not_lt.mpr (few.trans enough), refused⟩

/-- A server with two pages, and one whose second page links to itself. -/
theorem finishes_unless_circling_two :
    let registry := Registry.make "r.n" none Web.patience
    let page : WebAnswer := ⟨200, "OK", "\x7b\"nextLink\": \"/b\"\x7d"⟩
    let final : WebAnswer := ⟨200, "OK", "\x7b\"schemaGroups\": [\"a\"]\x7d"⟩
    let server : Server := fun visit =>
      .ok (if visit.address = "https://r.n/$schemaGroups" then page else final)
    let session : Session :=
      { Session.start ⟨[], []⟩ with web := [.ok page, .ok final, .ok final] }
    let circling : Server := fun _ => .ok page
    let cut : Session := { Session.start ⟨[], []⟩ with web := [.ok page, .ok page] }
    registry.Serves server session ∧ registry.Knows server ["https://r.n/$schemaGroups"] ∧
      (registry.asked session).Nodup ∧ (registry.asked session).length ≤ 3 ∧
        registry.Finishes session ∧ registry.Serves circling cut ∧ ¬ registry.Finishes cut ∧
        ∃ web, registry.Serves circling { cut with web := web } ∧ web.length = 1000 ∧
          registry.Waits { cut with web := web } := by
  intro registry page final server session circling cut
  have isAsked : registry.asked session =
      [registry.firstVisit, ⟨"https://r.n/b", none⟩] := by decide +kernel
  have isAskedCut : registry.asked cut =
      [registry.firstVisit, ⟨"https://r.n/b", none⟩, ⟨"https://r.n/b", none⟩] := by decide +kernel
  have leads : registry.linked? (.ok final) = none := by decide +kernel
  have serves : registry.Serves server session := by
    unfold Serves
    rw [isAsked]
    exact servedBy_cons.mpr ⟨rfl, servedBy_cons.mpr ⟨rfl, by rintro _ ⟨⟩⟩⟩
  have servesCut : registry.Serves circling cut := by
    unfold Serves
    rw [isAskedCut]
    exact servedBy_cons.mpr ⟨rfl, servedBy_cons.mpr ⟨rfl, by rintro _ ⟨⟩⟩⟩
  have knows : registry.Knows server ["https://r.n/$schemaGroups"] := by
    intro visit goesOn
    by_contra other
    rw [List.mem_singleton] at other
    refine goesOn ?_
    unfold next?
    rw [show server visit = .ok final from congrArg Except.ok (if_neg other)]
    exact leads
  have neverRefused := registry.not_isRefused rfl
  obtain ⟨onceWhenEnding, endsWhenOnce, _⟩ := finishes_unless_circling registry server
  obtain ⟨_, _, never⟩ := finishes_unless_circling registry circling
  have answered : ¬ registry.Waits session := by
    unfold Waits
    rw [isAsked]
    decide
  have once := onceWhenEnding session serves ⟨answered, neverRefused session⟩
  obtain ⟨few, ends⟩ := endsWhenOnce _ knows session serves once
  have twice : ¬ (registry.asked cut).Nodup := by
    rw [isAskedCut]
    decide +kernel
  obtain ⟨unfinished, goesOn⟩ := never cut servesCut twice
  obtain ⟨web, servesOn, ⟨waits, isLength⟩ | refused⟩ := goesOn cut 1000
  · exact ⟨serves, knows, once, few, (ends (Nat.le_refl _)).resolve_right (neverRefused session),
      servesCut, unfinished cut servesCut, web, servesOn, isLength, waits⟩
  · exact absurd refused (neverRefused _)

/-- A server that knows two pages, of which the second one links to itself. The listing asks for
that page twice, and after any number of answers it asks for it again. -/
theorem circles_linked_back :
    let registry := Registry.make "r.n" none Web.patience
    let page : WebAnswer := ⟨200, "OK", "\x7b\"nextLink\": \"/b\"\x7d"⟩
    let known := ["https://r.n/$schemaGroups", "https://r.n/b"]
    let server : Server := fun visit =>
      .ok (if visit.address ∈ known then page else ⟨404, "Not Found", ""⟩)
    let session : Session := { Session.start ⟨[], []⟩ with web := [.ok page, .ok page] }
    registry.Knows server known ∧ registry.Serves server session ∧
      registry.asked session =
        [registry.firstVisit, ⟨"https://r.n/b", none⟩, ⟨"https://r.n/b", none⟩] ∧
      ∀ count, ∃ web, registry.Serves server { session with web := web } ∧ web.length = count ∧
        registry.Waits { session with web := web } := by
  intro registry page known server session
  have isAsked : registry.asked session =
      [registry.firstVisit, ⟨"https://r.n/b", none⟩, ⟨"https://r.n/b", none⟩] := by decide +kernel
  have missing : registry.linked? (.ok ⟨404, "Not Found", ""⟩) = none := by decide +kernel
  have serves : registry.Serves server session := by
    unfold Serves
    rw [isAsked]
    exact servedBy_cons.mpr ⟨rfl, servedBy_cons.mpr ⟨rfl, by rintro _ ⟨⟩⟩⟩
  have twice : ¬ (registry.asked session).Nodup := by
    rw [isAsked]
    decide +kernel
  refine ⟨fun visit goesOn => ?_, serves, isAsked, fun count => ?_⟩
  · by_contra other
    refine goesOn ?_
    unfold next?
    rw [show server visit = .ok ⟨404, "Not Found", ""⟩ from congrArg Except.ok (if_neg other)]
    exact missing
  · obtain ⟨web, servesOn, ⟨waits, isLength⟩ | refused⟩ :=
      exists_waits_of_asked serves twice session count
    · exact ⟨web, servesOn, isLength, waits⟩
    · exact absurd refused (registry.not_isRefused rfl _)

end FleetSchema.Registry
