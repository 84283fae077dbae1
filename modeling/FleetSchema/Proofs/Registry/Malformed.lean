/-
**What spoils a listing of groups.**

A listing of groups answers with names or fails with a fault of the registry, unless it is spoiled:
it gets a page that is malformed, whose groups are given and cannot be run through or whose link is
given and is no text, or a body that cannot be read for another reason than its own. Such a fault is
not restated, so that the command ends without a code. The names and the message of a fault are told
as they are, so that the command has no code either when the console refuses them.

* `Malformed`: the pages with a defect;
* `Spoils`, `Reaches`: what spoils a listing, and what it gets from the web;
* `AnswersOrFails`: names, or a fault of the registry;
* `EndsTold`: how the command ends that shows them, as far as the console shows what it tells;
* `answers_or_fails_unless_spoiled`: what listings come to, and the command.
-/

import FleetSchema.CommandLine
import FleetSchema.Proofs.CommandLine.Stages
import FleetSchema.Proofs.Console.Markup
import FleetSchema.Proofs.Registry.Pagination

namespace FleetSchema

open FleetSchema.Action

namespace Registry

variable {registry : Registry} {visit : Visit} {session last : Session}
  {ended : Except Fault (List String)} {outcome : Except Fault WebAnswer}
  {fields : List (String × Value)} {defect : Defect} {fault : Fault}

/-! ### Malformed pages -/

/-- The fields of a page with a defect: the groups are given and cannot be run through, or they can
and the link is given and is no text. -/
inductive Malformed (fields : List (String × Value)) : Defect → Prop
  | groups (given : (Value.field fields "schemaGroups").truthy = true)
      (single : (Value.field fields "schemaGroups").items? = none) :
      Malformed fields (.notIterable (Value.field fields "schemaGroups").formName)
  | link (listed : ∃ names, groupsOn fields = .ok names)
      (given : (Value.field fields "nextLink").truthy = true)
      (other : ∀ text, Value.field fields "nextLink" ≠ .text text) :
      Malformed fields (.noProperty (Value.field fields "nextLink").formName "startswith")

theorem groupsOn_eq_error_iff : groupsOn fields = .error defect ↔
    (Value.field fields "schemaGroups").truthy = true ∧
      (Value.field fields "schemaGroups").items? = none ∧
      defect = .notIterable (Value.field fields "schemaGroups").formName := by
  unfold groupsOn
  dsimp only
  by_cases given : (Value.field fields "schemaGroups").truthy = true
  · rw [if_pos given]
    cases (Value.field fields "schemaGroups").items? with
    | none =>
      dsimp only
      constructor
      · rintro ⟨⟩
        exact ⟨given, rfl, rfl⟩
      · rintro ⟨_, _, rfl⟩
        rfl
    | some items =>
      dsimp only
      constructor
      · rintro ⟨⟩
      · rintro ⟨_, ⟨⟩, _⟩
  · rw [if_neg given]
    constructor
    · rintro ⟨⟩
    · exact fun ⟨isGiven, _⟩ => absurd isGiven given

theorem nextAddress_eq_error_iff : registry.nextAddress fields = .error defect ↔
    (Value.field fields "nextLink").truthy = true ∧
      (∀ text, Value.field fields "nextLink" ≠ .text text) ∧
      defect = .noProperty (Value.field fields "nextLink").formName "startswith" := by
  unfold nextAddress
  generalize Value.field fields "nextLink" = link
  split
  · constructor
    · rintro ⟨⟩
    · exact fun ⟨_, other, _⟩ => absurd rfl (other _)
  · constructor
    · rintro ⟨⟩
    · exact fun ⟨_, other, _⟩ => absurd rfl (other _)
  · rename_i other
    by_cases given : link.truthy = true
    · rw [if_pos given]
      constructor
      · rintro ⟨⟩
        exact ⟨given, other, rfl⟩
      · rintro ⟨_, _, rfl⟩
        rfl
    · rw [if_neg given]
      constructor
      · rintro ⟨⟩
      · exact fun ⟨isGiven, _⟩ => absurd isGiven given

/-- A page cannot be used exactly when it is malformed. -/
theorem tell_eq_error_iff (registry : Registry) :
    registry.tell fields = .error defect ↔ Malformed fields defect := by
  unfold tell
  constructor
  · intro fails
    split at fails
    · rename_i other isOther
      cases fails
      obtain ⟨given, single, rfl⟩ := groupsOn_eq_error_iff.mp isOther
      exact .groups given single
    · rename_i names other isNames isOther
      cases fails
      obtain ⟨given, otherForm, rfl⟩ := nextAddress_eq_error_iff.mp isOther
      exact .link ⟨names, isNames⟩ given otherForm
    · cases fails
  · intro malformed
    cases malformed with
    | groups given single => rw [groupsOn_eq_error_iff.mpr ⟨given, single, rfl⟩]
    | link listed given other =>
      obtain ⟨names, isNames⟩ := listed
      rw [isNames, nextAddress_eq_error_iff.mpr ⟨given, other, rfl⟩]

theorem turn_of_fields (shows : registry.fieldsOf outcome = .ok fields) :
    registry.turn outcome = (registry.tell fields).mapError .defect := by
  unfold turn
  rw [shows]

/-! ### What spoils a listing -/

/-- What the web has for a request spoils a listing with a fault: it shows a page that is malformed,
or it is a fault that is neither one of the transport nor about a value, as when a body nests deeper
than it can be read. -/
inductive Spoils (registry : Registry) : Except Fault WebAnswer → Fault → Prop
  | malformed {outcome : Except Fault WebAnswer} {fields : List (String × Value)} {defect : Defect}
      (shows : registry.fieldsOf outcome = .ok fields) (malformed : Malformed fields defect) :
      Spoils registry outcome (.defect defect)
  | foreign {fault : Fault} (noTransport : fault.families.transport = false)
      (noValue : fault.families.value = false) : Spoils registry (.error fault) fault

theorem Spoils.turn (spoils : registry.Spoils outcome fault) :
    registry.turn outcome = .error fault := by
  cases spoils with
  | malformed shows malformed =>
    rw [turn_of_fields shows, (tell_eq_error_iff registry).mpr malformed]
    rfl
  | foreign noTransport noValue =>
    have restated : registry.restate fault = fault := by
      unfold restate
      rw [noTransport, noValue]
      rfl
    unfold Registry.turn fieldsOf
    exact congrArg Except.error restated

/-- What comes of an answer fails with a fault of the registry, or the answer spoils the listing. -/
theorem turn_eq_error (fails : registry.turn outcome = .error fault) :
    fault.isKind .registry = true ∨ registry.Spoils outcome fault := by
  have ofUnusable (unusable : Unusable outcome) : fault.isKind .registry = true := by
    obtain ⟨other, isRegistry, isFault⟩ := unusable.turn registry
    rw [fails] at isFault
    cases isFault
    exact isRegistry
  cases outcome with
  | error cause =>
    by_cases transport : cause.families.transport = true
    · exact Or.inl (ofUnusable (.transport transport))
    have turned : registry.turn (.error cause) = .error (registry.restate cause) := rfl
    rw [fails] at turned
    cases turned
    have noTransport : cause.families.transport = false := eq_false_of_ne_true transport
    unfold restate
    rw [noTransport]
    by_cases value : cause.families.value = true
    · rw [value]
      exact Or.inl rfl
    · have noValue : cause.families.value = false := eq_false_of_ne_true value
      rw [noValue]
      exact Or.inr (.foreign noTransport noValue)
  | ok answer =>
    by_cases status : answer.status = 200
    · cases read : Web.readJson answer with
      | error fault => exact Or.inl (ofUnusable (.unreadable status read))
      | ok value =>
        cases value with
        | object fields =>
          have shows : registry.fieldsOf (.ok answer) = .ok fields := fieldsOf_of_read status read
          rw [turn_of_fields shows] at fails
          cases told : registry.tell fields with
          | ok page =>
            rw [told] at fails
            cases fails
          | error defect =>
            rw [told] at fails
            cases fails
            exact Or.inr (.malformed shows ((tell_eq_error_iff registry).mp told))
        | null | bool | int | float | text | path | list =>
          exact Or.inl (ofUnusable (.payload status read (by rintro _ ⟨⟩)))
    · exact Or.inl (ofUnusable (.status status))

/-- An answer that shows a page does not spoil a listing. -/
theorem not_spoils_of_shows {answer : WebAnswer} {page : Page} (shows : Shows answer page) :
    ¬ registry.Spoils (.ok answer) fault := by
  intro spoils
  have turned := spoils.turn
  rw [shows.turn registry] at turned
  cases turned

/-- What is no page does not spoil a listing either. -/
theorem not_spoils_of_unusable (unusable : Unusable outcome) : ¬ registry.Spoils outcome fault := by
  rintro (⟨shows, _⟩ | ⟨noTransport, _⟩)
  · obtain ⟨_, _, fails⟩ := unusable.fieldsOf registry
    rw [shows] at fails
    cases fails
  · cases unusable with
    | transport transport =>
      rw [noTransport] at transport
      cases transport

/-! ### Listings -/

/-- What a listing gets from the web, when it is given tokens: what is there first, and what is
behind it when that is a page with a link. -/
inductive Reaches (registry : Registry) :
    List (Except Fault WebAnswer) → Except Fault WebAnswer → Prop
  | here {outcome : Except Fault WebAnswer} {rest : List (Except Fault WebAnswer)} :
      Reaches registry (outcome :: rest) outcome
  | behind {outcome other : Except Fault WebAnswer} {rest : List (Except Fault WebAnswer)}
      {names : List String} {next : String} (leads : registry.turn outcome = .ok (names, some next))
      (reaches : Reaches registry rest other) : Reaches registry (outcome :: rest) other

theorem Reaches.mem {web : List (Except Fault WebAnswer)} (reaches : registry.Reaches web outcome) :
    outcome ∈ web := by
  induction reaches with
  | here => exact List.mem_cons_self
  | behind _ _ ih => exact List.mem_cons_of_mem _ ih

/-- A listing answers with names, or it fails with a fault of the registry. -/
def AnswersOrFails (ended : Except Fault (List String)) : Prop :=
  (∃ names, ended = .ok names) ∨ ∃ fault, ended = .error fault ∧ fault.isKind .registry = true

/-- Nothing that a listing gets from the web spoils it. -/
def Unspoiled (registry : Registry) (web : List (Except Fault WebAnswer)) : Prop :=
  ∀ outcome fault, registry.Reaches web outcome → ¬ registry.Spoils outcome fault

/-- **A listing answers or fails with a fault of the registry, unless it is spoiled.** -/
theorem Walks.answersOrFails (walks : registry.Walks visit session ended last)
    (unspoiled : registry.Unspoiled session.web) : AnswersOrFails ended := by
  induction walks with
  | untokened => exact Or.inr ⟨_, rfl, rfl⟩
  | unanswered => exact Or.inr ⟨_, rfl, rfl⟩
  | @failed _ session outcome rest fault _ left fails =>
    rw [left] at unspoiled
    obtain isRegistry | spoils := turn_eq_error fails
    · exact Or.inr ⟨fault, rfl, isRegistry⟩
    · exact absurd spoils (unspoiled outcome fault .here)
  | last => exact Or.inl ⟨_, rfl⟩
  | @linked _ session _ outcome rest names next ended _ left leads _ ih =>
    rw [left] at unspoiled
    obtain ⟨others, rfl⟩ | ⟨fault, rfl, isRegistry⟩ :=
      ih fun other fault reaches => unspoiled other fault (.behind leads reaches)
    · exact Or.inl ⟨_, rfl⟩
    · exact Or.inr ⟨fault, rfl, isRegistry⟩

/-- **The fault that spoils a listing is not restated.** -/
theorem Walks.escapes (walks : registry.Walks visit session ended last)
    (reaches : registry.Reaches session.web outcome) (spoils : registry.Spoils outcome fault) :
    ended = .error fault ∨ ∃ cause, ended = .error (.registryToken registry.endpoint cause) := by
  have turned := spoils.turn
  induction walks with
  | untokened => exact Or.inr ⟨_, rfl⟩
  | unanswered _ left =>
    rw [left] at reaches
    cases reaches
  | failed _ left fails =>
    rw [left] at reaches
    cases reaches with
    | here =>
      rw [turned] at fails
      cases fails
      exact Or.inl rfl
    | behind leads =>
      rw [fails] at leads
      cases leads
  | last _ left ends =>
    rw [left] at reaches
    cases reaches with
    | here =>
      rw [turned] at ends
      cases ends
    | behind leads =>
      rw [ends] at leads
      cases leads
  | linked _ left leads _ ih =>
    rw [left] at reaches
    cases reaches with
    | here =>
      rw [turned] at leads
      cases leads
    | behind _ onwards =>
      obtain rfl | ⟨cause, rfl⟩ := ih onwards
      · exact Or.inl rfl
      · exact Or.inr ⟨cause, rfl⟩

end Registry

/-! ### The command -/

namespace CommandLine

open Registry

variable {surroundings : Surroundings} {settings : List Setting} {session : Session}

/-- The registry that settings name. -/
def registryOf (surroundings : Surroundings) (settings : List Setting) : Registry :=
  .make ((Arguments.lastText settings .endpoint).getD "")
    (if Arguments.lastSwitch settings .anonymous false then none else some surroundings.credential)
    Web.patience

/-- Groups are asked for. -/
def loadingLine : ConsoleLine := .statusBegin "Loading schema groups..."

/-- The session in which groups are asked for. -/
def loading (session : Session) : Session := session.adding (.console loadingLine)

/-- What asking for groups comes to once it is announced. -/
def listed (surroundings : Surroundings) (settings : List Setting) (session : Session) :
    Except Fault (List String) :=
  ((registryOf surroundings settings).groups.perform (loading session)).1

/-- The line that tells what a listing of groups has come to. -/
def groupsLine : Except Fault (List String) → ConsoleLine
  | .ok [] => Console.warningLine "No schema groups found"
  | .ok names => .table (.ofGroups Table.groupsTitle names)
  | .error fault => Console.errorLine fault.message

/-- Whether the names of a listing, or the message of its fault, are closed texts. -/
def tellsClosed : Except Fault (List String) → Bool
  | .ok names => names.all Markup.isClosed
  | .error fault => Markup.isClosed fault.message

/-- The code for what a listing has come to. -/
def codeOf : Except Fault (List String) → Option Int
  | .ok _ => some 0
  | .error fault => if fault.isStated then some (Stop.exitCode fault) else none

theorem isClosed_groupsLine {ended : Except Fault (List String)}
    (closed : tellsClosed ended = true) :
    (groupsLine ended).isClosed = true := by
  cases ended with
  | error fault => exact (Console.isClosed_errorLine fault.message).trans closed
  | ok names =>
    cases names with
    | nil => decide +kernel
    | cons name rest => exact (Console.isClosed_groupsTable (name :: rest)).trans closed

theorem codeOf_of_answersOrFails {ended : Except Fault (List String)}
    (answers : AnswersOrFails ended) : ∃ code, codeOf ended = some code := by
  obtain ⟨names, rfl⟩ | ⟨fault, rfl, isRegistry⟩ := answers
  · exact ⟨0, rfl⟩
  · exact ⟨_, if_pos (Fault.isStated_of_isKind isRegistry)⟩

/-- Listing groups leaves the devices as they are. -/
theorem devices_of_walks {registry : Registry} {visit : Visit} {last : Session}
    {ended : Except Fault (List String)} (walks : registry.Walks visit session ended last) :
    last.devices = session.devices := by
  induction walks with
  | untokened | unanswered | failed | last => rfl
  | linked _ _ _ _ ih => exact ih

/-- The announcement of a listing that is shown, and the listing. -/
theorem perform_loading (surroundings : Surroundings) (settings : List Setting)
    (shown : session.refusal loadingLine = none) :
    ∃ reached, (Console.status "Loading schema groups..."
      (registryOf surroundings settings).groups).perform session =
        (listed surroundings settings session, reached) ∧
      ∀ line, reached.refusal line = session.refusal line := by
  have loads := perform_status "Loading schema groups..."
    (registryOf surroundings settings).groups session
  unfold loadingLine at shown
  rw [shown] at loads
  have walks := perform_groups_iff.mp
    (Prod.eta ((registryOf surroundings settings).groups.perform (loading session))).symm
  exact ⟨_, loads, fun line => congrArg (·.screen line) (devices_of_walks walks)⟩

/-- Groups are told in a table, and a warning stands for none. -/
theorem exitCode?_tellGroups (groups : List String) (session : Session) :
    exitCode? ((do
      if groups.isEmpty then Stop.warnExit "No schema groups found" 0
      Stop.plainly (Console.table (.ofGroups Table.groupsTitle groups)) :
        Action Stop Unit).perform session).1 =
      if (session.refusal (groupsLine (.ok groups))).isNone then some 0 else none := by
  cases groups with
  | nil =>
    have ended := perform_bind_of_error
      (Stop.perform_warnExit (α := PUnit) "No schema groups found" 0 session)
      fun _ => Stop.plainly (Console.table (.ofGroups Table.groupsTitle []))
    exact (congrArg (exitCode? ·.1) ended).trans (exitCode?_behind _ _ _)
  | cons name rest =>
    have ended : (Stop.plainly (Console.table (.ofGroups Table.groupsTitle (name :: rest)))).perform
        session = _ := Stop.perform_plainly _ _
    refine (congrArg (exitCode? ·.1) ended).trans ?_
    unfold Console.table
    rw [perform_tell]
    unfold Session.told groupsLine
    cases session.refusal (.table (.ofGroups Table.groupsTitle (name :: rest))) with
    | none => rfl
    | some defect => rfl

/-- The command ends with the code for what its listing has come to, as long as the console shows
that groups are asked for and what came of it. -/
theorem exitCode?_listGroups (surroundings : Surroundings) (settings : List Setting)
    (session : Session) :
    exitCode? ((listGroups surroundings settings).perform session).1 =
      if (session.refusal loadingLine).isNone &&
        (session.refusal (groupsLine (listed surroundings settings session))).isNone then
        codeOf (listed surroundings settings session)
      else none := by
  have isListing : listGroups surroundings settings = (do
      let groups ← Stop.expecting (Console.status "Loading schema groups..."
        (registryOf surroundings settings).groups)
      if groups.isEmpty then Stop.warnExit "No schema groups found" 0
      Stop.plainly (Console.table (.ofGroups Table.groupsTitle groups))) := rfl
  rw [isListing]
  cases shown : session.refusal loadingLine with
  | some defect =>
    have stopped : (Console.status "Loading schema groups..."
        (registryOf surroundings settings).groups).perform session =
          (.error (.defect defect), session) := by
      unfold loadingLine at shown
      rw [perform_status, shown]
    rw [perform_bind_of_error (Stop.perform_expecting_of_error stopped)]
    rfl
  | none =>
    obtain ⟨reached, loads, refuses⟩ := perform_loading surroundings settings shown
    rw [← refuses]
    cases isListed : listed surroundings settings session with
    | ok names =>
      rw [isListed] at loads
      rw [perform_bind_of_ok (Stop.perform_expecting_of_ok loads)]
      exact exitCode?_tellGroups names reached
    | error fault =>
      rw [isListed] at loads
      have ended := Stop.perform_expecting_of_error loads
      unfold codeOf groupsLine
      dsimp only
      by_cases stated : fault.isStated = true
      · rw [if_pos stated] at ended ⊢
        rw [perform_bind_of_error ended]
        exact exitCode?_behind _ _ _
      · rw [if_neg stated] at ended ⊢
        rw [perform_bind_of_error ended, ite_self]
        rfl

/-- How the command ends whose listing answers or fails with a fault of the registry: with a code,
as long as the console shows that groups are asked for and what came of it. A console that shows all
closed texts does, if the names or the message of the fault are closed. -/
structure EndsTold (surroundings : Surroundings) (settings : List Setting) (session : Session) :
    Prop where
  coded_iff : (∃ code, exitCode? ((listGroups surroundings settings).perform session).1 =
      some code) ↔ session.refusal loadingLine = none ∧
    session.refusal (groupsLine (listed surroundings settings session)) = none
  closed : session.devices.ShowsClosed → tellsClosed (listed surroundings settings session) = true →
    ∃ code, exitCode? ((listGroups surroundings settings).perform session).1 = some code

theorem endsTold_of_answersOrFails {surroundings : Surroundings} {settings : List Setting}
    (answers : AnswersOrFails (listed surroundings settings session)) :
    EndsTold surroundings settings session := by
  obtain ⟨code, coded⟩ := codeOf_of_answersOrFails answers
  have ends := exitCode?_listGroups surroundings settings session
  rw [coded] at ends
  have coded_iff : (∃ code, exitCode? ((listGroups surroundings settings).perform session).1 =
      some code) ↔ session.refusal loadingLine = none ∧
        session.refusal (groupsLine (listed surroundings settings session)) = none := by
    rw [ends]
    simp
  refine ⟨coded_iff, fun shows closed => coded_iff.mpr ⟨?_, ?_⟩⟩
  · exact shows loadingLine (by decide +kernel)
  · exact shows _ (isClosed_groupsLine closed)

/-- **A listing of groups copes with every answer that does not spoil it.** Whatever the web has for
its requests, a listing that gets no malformed page and no fault of another sort answers with names
or fails with a fault of the registry, and the command that tells of it ends with a code if the
console shows what it tells. What spoils a listing ends it as it is, unless no token is given
before, and the command has no code then if the fault is not stated. -/
theorem answers_or_fails_unless_spoiled (session : Session) :
    (∀ registry : Registry, registry.Unspoiled session.web →
      AnswersOrFails (registry.groups.perform session).1) ∧
    (∀ surroundings settings, (registryOf surroundings settings).Unspoiled session.web →
      EndsTold surroundings settings session) ∧
    (∀ (registry : Registry) outcome fault, registry.Reaches session.web outcome →
      registry.Spoils outcome fault → (registry.groups.perform session).1 = .error fault ∨
        ∃ cause, (registry.groups.perform session).1 =
          .error (.registryToken registry.endpoint cause)) ∧
    ∀ surroundings settings outcome fault,
      (registryOf surroundings settings).Reaches session.web outcome →
      (registryOf surroundings settings).Spoils outcome fault → fault.isStated = false →
        exitCode? ((listGroups surroundings settings).perform session).1 = none ∨
          ∃ cause, listed surroundings settings session =
            .error (.registryToken (registryOf surroundings settings).endpoint cause) := by
  have walks (registry : Registry) (first : Session) :=
    perform_groups_iff.mp (Prod.eta (registry.groups.perform first)).symm
  refine ⟨fun registry unspoiled => ?_, fun surroundings settings unspoiled => ?_,
    fun registry outcome fault reaches spoils => ?_,
    fun surroundings settings outcome fault reaches spoils unstated => ?_⟩
  · exact (walks registry session).answersOrFails unspoiled
  · exact endsTold_of_answersOrFails ((walks _ (loading session)).answersOrFails unspoiled)
  · exact (walks registry session).escapes reaches spoils
  · refine ((walks _ (loading session)).escapes reaches spoils).imp_left fun escaped => ?_
    have isListed : listed surroundings settings session = .error fault := escaped
    have uncoded : codeOf (.error fault) = none := if_neg (by rw [unstated]; exact Bool.noConfusion)
    rw [exitCode?_listGroups, isListed, uncoded, ite_self]

/-- A group whose name closes a tone that is not open: the table is refused, and the run has no
code. -/
example :
    let surroundings : Surroundings := .offline [] (.ofText "/tmp") (.stated .query "out of reach")
    let words := ["registry", "groups", "-e", "r.n", "--anonymous"]
    let answer : WebAnswer := ⟨200, "OK", "\x7b\"schemaGroups\": [\"[/x]\"]\x7d"⟩
    let session : Session :=
      { Session.start ⟨[], []⟩ with web := [.ok answer], devices := .strict }
    exitCode? ((run surroundings words).perform session).1 = none := by
  decide +kernel

/-- A listing whose second page is no object, on a console that refuses what is not closed. -/
theorem answers_or_fails_unless_spoiled_second_list :
    let surroundings : Surroundings := .offline [] (.ofText "/tmp") (.stated .query "out of reach")
    let settings : List Setting := []
    let first : WebAnswer :=
      ⟨200, "OK", "\x7b\"schemaGroups\": [\"a\"], \"nextLink\": \"/b\"\x7d"⟩
    let second : WebAnswer := ⟨200, "OK", "[\"b\"]"⟩
    let session : Session :=
      { Session.start ⟨[], []⟩ with web := [.ok first, .ok second], devices := .strict }
    AnswersOrFails ((registryOf surroundings settings).groups.perform session).1 ∧
      ∃ code, exitCode? ((listGroups surroundings settings).perform session).1 = some code := by
  intro surroundings settings first second session
  have readFirst : Web.readJson first = .ok (.object
      [("schemaGroups", .list [.text "a"]), ("nextLink", .text "/b")]) := by cbv
  have readSecond : Web.readJson second = .ok (.list [.text "b"]) := by cbv
  have unspoiled (registry : Registry) : registry.Unspoiled session.web := by
    intro outcome fault reaches
    cases reaches.mem with
    | head =>
      have shows : Shows first ⟨[.text "a"], "/b"⟩ :=
        ⟨rfl, _, readFirst, Or.inl rfl, Or.inl rfl⟩
      exact not_spoils_of_shows shows
    | tail _ member => cases member with
      | head => exact not_spoils_of_unusable (.payload rfl readSecond (by rintro _ ⟨⟩))
      | tail _ member => cases member
  obtain ⟨listing, command, _⟩ := answers_or_fails_unless_spoiled session
  exact ⟨listing _ (unspoiled _),
    (command _ _ (unspoiled _)).closed Devices.showsClosed_strict (by decide +kernel)⟩

/-- The link of a page is a truth value: the fault of its form is passed on, and there is no code.
-/
theorem escapes_unlinked :
    let surroundings : Surroundings := .offline [] (.ofText "/tmp") (.stated .query "out of reach")
    let words := ["registry", "groups", "-e", "r.n", "--anonymous"]
    let answer : WebAnswer :=
      ⟨200, "OK", "\x7b\"schemaGroups\": [\"a\"], \"nextLink\": true\x7d"⟩
    let session : Session := { Session.start ⟨[], []⟩ with web := [.ok answer] }
    let registry := Registry.make "r.n" none Web.patience
    ¬ AnswersOrFails (registry.groups.perform session).1 ∧
      exitCode? ((run surroundings words).perform session).1 = none := by
  intro surroundings words answer session registry
  have read : Web.readJson answer = .ok (.object
      [("schemaGroups", .list [.text "a"]), ("nextLink", .bool true)]) := by cbv
  have malformed : Malformed [("schemaGroups", .list [.text "a"]), ("nextLink", .bool true)]
      (.noProperty "bool" "startswith") := .link ⟨["a"], rfl⟩ rfl (by rintro _ ⟨⟩)
  have turned : registry.turn (.ok answer) =
      .error (.defect (.noProperty "bool" "startswith")) := by
    rw [turn_of_fields (fieldsOf_of_read rfl read), (tell_eq_error_iff _).mpr malformed]
    rfl
  have walks : registry.Walks registry.firstVisit session _ _ := .failed rfl rfl turned
  refine ⟨?_, by decide +kernel⟩
  rw [perform_groups_iff.mpr walks]
  rintro (⟨_, ⟨⟩⟩ | ⟨_, ⟨⟩, ⟨⟩⟩)

end CommandLine

end FleetSchema
