/-
**What iterations over a stream of the management service give.**

A service gives one and the same answer to a statement. However a stream of it is iterated over,
asked and closed, an iteration gives the rows of the first table in their order, then the errors in
theirs, and then nothing more. Only the first item that an iteration is asked for runs the
statement. An iteration that is asked for the first time when the stream is closed fails and runs
nothing.

* `givenBy`, `readingOf`: what there is to give in turn, and at once;
* `IteratedStream.trace`: what the uses of a stream come to, one after the other;
* `StreamUse.Fits`: what a use comes to behind other ones;
* `Standing`, `Kept`: how far iterations and the stream are after several uses;
* `fits_trace`: every use of every stream.
-/

import FleetSchema.Management.Iteration
import FleetSchema.Proofs.Session.Frame
import FleetSchema.Proofs.Session.History
import Mathlib.Data.List.Induction

namespace FleetSchema

open FleetSchema.Action

/-! ### What there is to give -/

/-- What an iteration comes to in turn while its stream is open: the items of the answer, or the
fault there is instead of one. -/
def givenBy : Except Fault ManagementAnswer → List Advance
  | .ok answer => answer.items.map .item
  | .error fault => [.failed (ManagementStream.restate fault)]

/-- What an iteration comes to when it is asked after being asked a number of times. -/
def givenAt (answered : Except Fault ManagementAnswer) (earlier : Nat) : Advance :=
  (givenBy answered)[earlier]?.getD .exhausted

section Given

variable {answered : Except Fault ManagementAnswer} {answer : ManagementAnswer} {earlier : Nat}

theorem givenAt_of_drop {item : RowItem} {left : List RowItem} (isAnswer : answered = .ok answer)
    (remains : answer.items.drop earlier = item :: left) :
    givenAt answered earlier = .item item ∧ answer.items.drop (earlier + 1) = left := by
  have next : answer.items[earlier]? = some item := by
    rw [← List.head?_drop, remains]
    rfl
  refine ⟨?_, ?_⟩
  · subst isAnswer
    simp [givenAt, givenBy, next]
  · rw [← List.tail_drop, remains]
    rfl

theorem length_givenBy_of_drop (isAnswer : answered = .ok answer)
    (remains : answer.items.drop earlier = []) : (givenBy answered).length ≤ earlier := by
  subst isAnswer
  simpa [givenBy] using remains

theorem givenAt_of_length_le (ends : (givenBy answered).length ≤ earlier) :
    givenAt answered earlier = .exhausted := by
  unfold givenAt
  rw [List.getElem?_eq_none ends]
  rfl

end Given

/-! ### Streams that are read at once -/

/-- What reading an open stream gives. -/
def readingOf : Except Fault ManagementAnswer → Reading
  | .ok answer => ⟨answer.items, none⟩
  | .error fault => ⟨[], some (ManagementStream.restate fault)⟩

theorem ManagementStream.perform_read_open (stream : ManagementStream)
    (isOpen : stream.closed = false) (service : ManagementService) (session : Session) :
    perform (stream.read service : Action Fault Reading) session =
      (.ok (readingOf (service.answer session.events stream.database stream.statement)),
        session.adding (.call (.executed service.identity stream.database stream.statement))) := by
  have goesOn : ¬ stream.closed = true := by
    rw [isOpen]
    rintro ⟨⟩
  rw [perform_read, if_neg goesOn, ManagementService.perform_execute]
  cases service.answer session.events stream.database stream.statement with
  | ok answer => rfl
  | error fault => rfl

/-! ### How far an iteration is -/

section Standing

variable {answered : Except Fault ManagementAnswer} {closed : Bool}
  {kept later : Option ManagementAnswer}

/-- How far an iteration is that was asked a number of times. While its stream is open, that one
keeps the answer that the errors are still to be taken from. -/
inductive Standing (answered : Except Fault ManagementAnswer) (closed : Bool)
    (kept : Option ManagementAnswer) : Nat → Iteration → Prop
  | waiting : Standing answered closed kept 0 .waiting
  | inRows {answer : ManagementAnswer} {earlier : Nat} {rest : List Value}
      (isAnswer : answered = .ok answer)
      (remains : answer.items.drop (earlier + 1) =
        rest.map .row ++ answer.errors.map .inlineError)
      (keeps : closed = false → kept = some answer) :
      Standing answered closed kept (earlier + 1) (.inRows rest)
  | inErrors {answer : ManagementAnswer} {earlier : Nat} {rest : List String}
      (isAnswer : answered = .ok answer)
      (remains : answer.items.drop (earlier + 1) = rest.map .inlineError) :
      Standing answered closed kept (earlier + 1) (.inErrors rest)
  | spent {earlier : Nat} (ends : closed = false → (givenBy answered).length ≤ earlier + 1) :
      Standing answered closed kept (earlier + 1) .spent

/-- What the stream keeps is the answer, if it is anything. -/
def Kept (answered : Except Fault ManagementAnswer) (kept : Option ManagementAnswer) : Prop :=
  ∀ answer, kept = some answer → answered = .ok answer

/-- Standings last when the stream keeps the answer anew. -/
theorem Standing.keeping {answer : ManagementAnswer} {earlier : Nat} {iteration : Iteration}
    (stands : Standing answered closed kept earlier iteration) (isAnswer : answered = .ok answer) :
    Standing answered closed (some answer) earlier iteration := by
  cases stands with
  | waiting => exact .waiting
  | inRows same remains _ =>
    refine .inRows same remains fun _ => congrArg some ?_
    exact Except.ok.inj (isAnswer.symm.trans same)
  | inErrors same remains => exact .inErrors same remains
  | spent ends => exact .spent ends

/-- Standings last when the stream is closed. -/
theorem Standing.closing {earlier : Nat} {iteration : Iteration}
    (stands : Standing answered closed kept earlier iteration) :
    Standing answered true none earlier iteration := by
  cases stands with
  | waiting => exact .waiting
  | inRows same remains _ => exact .inRows same remains (by rintro ⟨⟩)
  | inErrors same remains => exact .inErrors same remains
  | spent _ => exact .spent (by rintro ⟨⟩)

/-- What an iteration comes to is what there is to give, as long as its stream is open. When it is
closed, the items that still come are those that there are to give. -/
structure Continues (answered : Except Fault ManagementAnswer) (closed : Bool) (earlier : Nat)
    (came : Advance) : Prop where
  next : closed = false → came = givenAt answered earlier
  inOrder : ∀ item, came = .item item → givenAt answered earlier = .item item

theorem Continues.of_eq {earlier : Nat} {came : Advance}
    (given : givenAt answered earlier = came) : Continues answered closed earlier came :=
  ⟨fun _ => given.symm, fun _ same => given.trans same⟩

theorem standing_nextError {answer : ManagementAnswer} {earlier : Nat} (rest : List String)
    (isAnswer : answered = .ok answer)
    (remains : answer.items.drop earlier = rest.map .inlineError) :
    Continues answered closed earlier (Iteration.nextError rest).1 ∧
      Standing answered closed kept (earlier + 1) (Iteration.nextError rest).2 := by
  cases rest with
  | nil =>
    have ends := length_givenBy_of_drop isAnswer remains
    exact ⟨.of_eq (givenAt_of_length_le ends), .spent fun _ => Nat.le_succ_of_le ends⟩
  | cons message others =>
    obtain ⟨given, left⟩ := givenAt_of_drop isAnswer remains
    exact ⟨.of_eq given, .inErrors isAnswer left⟩

theorem standing_nextRow {answer : ManagementAnswer} {earlier : Nat} (rest : List Value)
    (isAnswer : answered = .ok answer)
    (remains : answer.items.drop earlier = rest.map .row ++ answer.errors.map .inlineError)
    (keeps : closed = false → kept = some answer) (isKept : Kept answered kept) :
    Continues answered closed earlier (Iteration.nextRow kept rest).1 ∧
      Standing answered closed kept (earlier + 1) (Iteration.nextRow kept rest).2 := by
  cases rest with
  | nil =>
    cases kept with
    | none =>
      -- Only a closed stream keeps no answer, and then an iteration fails behind its rows.
      have isClosed : closed = true := by
        cases closed with
        | true => rfl
        | false => cases keeps rfl
      subst isClosed
      exact ⟨⟨by rintro ⟨⟩, by rintro _ ⟨⟩⟩, .spent (by rintro ⟨⟩)⟩
    | some other =>
      obtain rfl := Except.ok.inj (isAnswer.symm.trans (isKept other rfl))
      exact standing_nextError _ isAnswer remains
  | cons row others =>
    obtain ⟨given, left⟩ := givenAt_of_drop isAnswer remains
    exact ⟨.of_eq given, .inRows isAnswer left keeps⟩

end Standing

namespace IteratedStream

/-! ### One use -/

section Asking

variable {client : Option Client} {answered : Except Fault ManagementAnswer}
  {stream : ManagementStream} {kept : Option ManagementAnswer} {earlier : Nat}
  {iteration : Iteration}

/-- The statement of a stream as a call. -/
def callOf (client : Option Client) (stream : ManagementStream) : Call :=
  .executed client stream.database stream.statement

/-- What an iteration comes to when it is asked for an item: whether the statement is run, what the
iteration continues with, and how far it is then. -/
structure Asked (client : Option Client) (answered : Except Fault ManagementAnswer)
    (stream : ManagementStream) (kept : Option ManagementAnswer) (earlier : Nat) (session : Session)
    (ended : ((Advance × Iteration) × Option ManagementAnswer) × Session) : Prop where
  calls : callsIn (session.since ended.2) =
    if earlier = 0 ∧ stream.closed = false then [callOf client stream] else []
  isKept : Kept answered ended.1.2
  same : ended.1.2 = kept ∨ ∃ answer, answered = .ok answer ∧ ended.1.2 = some answer
  continues : Continues answered stream.closed earlier ended.1.1.1
  refuses : earlier = 0 → stream.closed = true → ended.1.1.1 = .failed .streamClosed
  stands : Standing answered stream.closed ended.1.2 (earlier + 1) ended.1.1.2

/-- An iteration over an open stream runs the statement when it is asked for its first item. -/
theorem run_advance_open (isOpen : stream.closed = false) (session : Session) :
    StateT.run (advance stream (.answering client answered) kept .waiting) session =
      (match answered with
        | .ok answer => (Iteration.nextRow (some answer) answer.rows, some answer)
        | .error fault => ((.failed (ManagementStream.restate fault), .spent), kept),
      session.adding (.call (callOf client stream))) := by
  have goesOn : ¬ stream.closed = true := by
    rw [isOpen]
    rintro ⟨⟩
  have executed : StateT.run (ExceptT.run
      ((ManagementService.answering client answered).execute stream.database stream.statement))
        session = (answered, session.adding (.call (callOf client stream))) :=
    ManagementService.perform_execute _ _ _ _
  unfold advance
  rw [if_neg goesOn, StateT.run_bind, executed]
  cases answered with
  | ok answer => rfl
  | error fault => rfl

theorem asked_advance (session : Session) (isKept : Kept answered kept)
    (stands : Standing answered stream.closed kept earlier iteration) :
    Asked client answered stream kept earlier session
      (StateT.run (advance stream (.answering client answered) kept iteration) session) := by
  have idle : callsIn (session.since session) = [] := (Session.Adds.refl session).calls
  cases stands with
  | waiting =>
    cases isClosed : stream.closed with
    | true =>
      have performed :
          StateT.run (advance stream (.answering client answered) kept .waiting) session =
          (((.failed .streamClosed, .spent), kept), session) := by
        unfold advance
        rw [isClosed]
        rfl
      rw [performed]
      refine ⟨?_, isKept, Or.inl rfl, ?_, fun _ _ => rfl, ?_⟩
      · rw [isClosed]
        exact idle
      · exact ⟨by rw [isClosed]; rintro ⟨⟩, by rintro _ ⟨⟩⟩
      · exact .spent (by rw [isClosed]; rintro ⟨⟩)
    | false =>
      have made : callsIn (session.since (session.adding (.call (callOf client stream)))) =
          if 0 = 0 ∧ stream.closed = false then [callOf client stream] else [] := by
        rw [if_pos ⟨rfl, isClosed⟩, (session.adds_call _).calls]
      rw [run_advance_open isClosed]
      cases answered with
      | ok answer =>
        have isKept : Kept (.ok answer) (some answer) := by
          rintro _ ⟨⟩
          rfl
        have remains : answer.items.drop 0 =
            answer.rows.map .row ++ answer.errors.map .inlineError := rfl
        have keeps : stream.closed = false → some answer = some answer := fun _ => rfl
        obtain ⟨continues, stands⟩ := standing_nextRow answer.rows rfl remains keeps isKept
        exact ⟨made, isKept, Or.inr ⟨answer, rfl, rfl⟩, continues,
          fun _ closed => (by cases isClosed.symm.trans closed), stands⟩
      | error fault =>
        refine ⟨made, isKept, Or.inl rfl, .of_eq rfl, ?_, .spent fun _ => Nat.le_refl 1⟩
        intro _ closed
        cases isClosed.symm.trans closed
  | inRows isAnswer remains keeps =>
    obtain ⟨continues, stands⟩ := standing_nextRow _ isAnswer remains keeps isKept
    exact ⟨idle, isKept, Or.inl rfl, continues, (by rintro ⟨⟩), stands⟩
  | inErrors isAnswer remains =>
    obtain ⟨continues, stands⟩ := standing_nextError _ isAnswer remains
    exact ⟨idle, isKept, Or.inl rfl, continues, (by rintro ⟨⟩), stands⟩
  | spent ends =>
    refine ⟨idle, isKept, Or.inl rfl, ⟨fun isOpen => ?_, ?_⟩, (by rintro ⟨⟩), ?_⟩
    · exact (givenAt_of_length_le (ends isOpen)).symm
    · rintro _ ⟨⟩
    · exact .spent fun isOpen => Nat.le_succ_of_le (ends isOpen)

end Asking

/-! ### One use after the other -/

/-- A use of a stream: what it came to if an iteration was asked, and the calls that were made. -/
structure UseRecord where
  use : StreamUse
  came : Option Advance
  calls : List Call

/-- Use a stream during a session: the record, and the stream and the session behind it. -/
def useOnce (service : ManagementService) (state : IteratedStream × Session) (use : StreamUse) :
    UseRecord × IteratedStream × Session :=
  let ended := StateT.run (state.1.use service use) state.2
  (⟨use, ended.1.1, callsIn (state.2.since ended.2)⟩, ended.1.2, ended.2)

/-- The uses of a stream, one after the other. -/
def trace (service : ManagementService) (iterated : IteratedStream) (session : Session) :
    List StreamUse → List UseRecord := recordEach (useOnce service) (iterated, session)

section Past

variable (past : List UseRecord)

/-- The number of iterations that were made. -/
def iterationsIn : Nat := past.countP fun record => record.use = .iterate

/-- Whether the stream was closed. -/
def isClosedIn : Bool := past.any fun record => record.use = .close

/-- What the iteration at a place came to, each time that it was asked. -/
def advancesOf (place : Nat) : List Advance :=
  past.filterMap fun record => if record.use = .advance place then record.came else none

/-- Whether a use asks an iteration for its first item while the stream is open. -/
def isFirstAsked : StreamUse → Bool
  | .advance place =>
    decide (place < iterationsIn past) && (advancesOf past place).isEmpty && !isClosedIn past
  | _ => false

variable {past} {place : Nat} {record : UseRecord}

theorem iterationsIn_snoc : iterationsIn (past ++ [record]) =
    iterationsIn past + if record.use = .iterate then 1 else 0 := by
  unfold iterationsIn
  rw [List.countP_append, List.countP_singleton]
  simp only [decide_eq_true_eq]

theorem isClosedIn_snoc : isClosedIn (past ++ [record]) =
    (isClosedIn past || decide (record.use = .close)) := by
  simp [isClosedIn]

theorem advancesOf_snoc : advancesOf (past ++ [record]) place =
    advancesOf past place ++ if record.use = .advance place then record.came.toList else [] := by
  unfold advancesOf
  rw [List.filterMap_append, List.append_cancel_left_eq]
  by_cases here : record.use = .advance place
  · cases isCame : record.came with
    | none => simp [here, isCame]
    | some came => simp [here, isCame]
  · simp [here]

end Past

/-- What a use comes to behind other ones. An iteration gives what there is to give in turn, as long
as the stream is open; when it is closed, an iteration that was not asked before fails. The
statement is run for the first item of an iteration only. -/
structure UseRecord.Fits (answered : Except Fault ManagementAnswer) (made : Call)
    (past : List UseRecord) (record : UseRecord) : Prop where
  comes_iff : record.came.isSome = true ↔
    ∃ place, record.use = .advance place ∧ place < iterationsIn past
  calls : record.calls = if isFirstAsked past record.use then [made] else []
  inTurn : ∀ place came, record.use = .advance place → record.came = some came →
    isClosedIn past = false → came = givenAt answered (advancesOf past place).length
  refuses : ∀ place came, record.use = .advance place → record.came = some came →
    isClosedIn past = true → advancesOf past place = [] → came = .failed .streamClosed
  inOrder : ∀ place item, record.use = .advance place → record.came = some (.item item) →
    givenAt answered (advancesOf past place).length = .item item

/-- How far a stream is behind several uses. -/
structure Reaches (client : Option Client) (answered : Except Fault ManagementAnswer) (made : Call)
    (past : List UseRecord) (iterated : IteratedStream) : Prop where
  call : callOf client iterated.stream = made
  closed : iterated.stream.closed = isClosedIn past
  kept : Kept answered iterated.answer
  length : iterated.iterations.length = iterationsIn past
  stands : ∀ place iteration, iterated.iterations[place]? = some iteration →
    Standing answered iterated.stream.closed iterated.answer (advancesOf past place).length
      iteration
  ahead : ∀ place, iterationsIn past ≤ place → advancesOf past place = []

section Uses

variable {client : Option Client} {answered : Except Fault ManagementAnswer} {made : Call}
  {past : List UseRecord} {iterated : IteratedStream}

theorem reaches_fresh (client : Option Client) (answered : Except Fault ManagementAnswer)
    (database statement : String) :
    Reaches client answered (callOf client (.fresh database statement)) []
      (fresh database statement) := by
  refine ⟨rfl, rfl, ?_, rfl, ?_, fun _ _ => rfl⟩
  · rintro _ ⟨⟩
  · rintro place iteration isThere
    cases isThere

/-- A use that asks no iteration fits when it makes no call. -/
theorem UseRecord.Fits.of_idle {record : UseRecord} (none : record.came = none)
    (idle : record.calls = [])
    (noPlace : ∀ place, record.use = .advance place → iterationsIn past ≤ place) :
    record.Fits answered made past := by
  have notFirst : isFirstAsked past record.use = false := by
    unfold isFirstAsked
    split
    · rename_i place isUse
      simp [Nat.not_lt.mpr (noPlace place isUse)]
    · rfl
  refine ⟨?_, ?_, ?_, ?_, ?_⟩
  · rw [none]
    constructor
    · rintro ⟨⟩
    · rintro ⟨place, isUse, below⟩
      exact absurd below (Nat.not_lt.mpr (noPlace place isUse))
  · rw [notFirst]
    exact idle
  · rintro place came _ isCame
    cases none.symm.trans isCame
  · rintro place came _ isCame
    cases none.symm.trans isCame
  · rintro place item _ isCame
    cases none.symm.trans isCame

/-- What an iteration is asked for leaves what the others came to as it is. -/
theorem advancesOf_snoc_of_idle {record : UseRecord} (none : record.came = none) (place : Nat) :
    advancesOf (past ++ [record]) place = advancesOf past place := by
  rw [advancesOf_snoc, none]
  split
  · exact List.append_nil _
  · exact List.append_nil _

theorem fits_iterate (reaches : Reaches client answered made past iterated) (session : Session) :
    let ended := StateT.run (iterated.use (.answering client answered) .iterate) session
    let record : UseRecord := ⟨.iterate, ended.1.1, callsIn (session.since ended.2)⟩
    record.Fits answered made past ∧ Reaches client answered made (past ++ [record]) ended.1.2 := by
  intro ended record
  have idle : record.calls = [] := (Session.Adds.refl session).calls
  have more : iterationsIn (past ++ [record]) = iterationsIn past + 1 := iterationsIn_snoc
  have same (place : Nat) : advancesOf (past ++ [record]) place = advancesOf past place :=
    advancesOf_snoc_of_idle rfl place
  refine ⟨.of_idle rfl idle (by rintro _ ⟨⟩), reaches.call, ?_, reaches.kept, ?_, ?_, ?_⟩
  · rw [isClosedIn_snoc]
    exact reaches.closed.trans (Bool.or_false _).symm
  · show (iterated.iterations ++ [Iteration.waiting]).length = _
    rw [List.length_append, reaches.length, more]
    rfl
  · intro place iteration isThere
    rw [same]
    have isThere : (iterated.iterations ++ [Iteration.waiting])[place]? = some iteration := isThere
    rw [List.getElem?_append] at isThere
    split at isThere
    · exact reaches.stands place iteration isThere
    · rename_i behind
      have none := reaches.ahead place (reaches.length ▸ Nat.le_of_not_lt behind)
      have isWaiting : iteration = .waiting :=
        List.mem_singleton.mp (List.mem_of_getElem? isThere)
      rw [none, isWaiting]
      exact .waiting
  · intro place ahead
    rw [same]
    rw [more] at ahead
    exact reaches.ahead place (Nat.le_of_succ_le ahead)

/-- A use that neither makes nor asks an iteration leaves the iterations as far as they are. -/
theorem Reaches.staying {next : IteratedStream} {record : UseRecord}
    (reaches : Reaches client answered made past iterated) (none : record.came = none)
    (other : record.use ≠ .iterate) (call : callOf client next.stream = made)
    (closed : next.stream.closed = isClosedIn (past ++ [record]))
    (kept : Kept answered next.answer) (same : next.iterations = iterated.iterations)
    (stands : ∀ earlier iteration,
      Standing answered iterated.stream.closed iterated.answer earlier iteration →
        Standing answered next.stream.closed next.answer earlier iteration) :
    Reaches client answered made (past ++ [record]) next := by
  have asMany : iterationsIn (past ++ [record]) = iterationsIn past := by
    rw [iterationsIn_snoc, if_neg other]
    rfl
  refine ⟨call, closed, kept, ?_, ?_, ?_⟩
  · rw [same, reaches.length, asMany]
  · intro place iteration isThere
    rw [same] at isThere
    rw [advancesOf_snoc_of_idle none]
    exact stands _ _ (reaches.stands place iteration isThere)
  · intro place ahead
    rw [asMany] at ahead
    rw [advancesOf_snoc_of_idle none]
    exact reaches.ahead place ahead

theorem fits_close (reaches : Reaches client answered made past iterated) (session : Session) :
    let ended := StateT.run (iterated.use (.answering client answered) .close) session
    let record : UseRecord := ⟨.close, ended.1.1, callsIn (session.since ended.2)⟩
    record.Fits answered made past ∧ Reaches client answered made (past ++ [record]) ended.1.2 := by
  intro ended record
  have idle : record.calls = [] := (Session.Adds.refl session).calls
  have closes : isClosedIn (past ++ [record]) = true := by
    rw [isClosedIn_snoc]
    exact Bool.or_true _
  have keepsNone : Kept answered none := by rintro _ ⟨⟩
  exact ⟨.of_idle rfl idle (by rintro _ ⟨⟩), reaches.staying rfl (by rintro ⟨⟩) reaches.call
    closes.symm keepsNone rfl fun _ _ stands => stands.closing⟩

/-- Asking an iteration that there is not comes to nothing. -/
theorem fits_advance_none (reaches : Reaches client answered made past iterated) (session : Session)
    {place : Nat} (isNone : iterated.iterations[place]? = none) :
    let ended := StateT.run (iterated.use (.answering client answered) (.advance place)) session
    let record : UseRecord := ⟨.advance place, ended.1.1, callsIn (session.since ended.2)⟩
    record.Fits answered made past ∧ Reaches client answered made (past ++ [record]) ended.1.2 := by
  intro ended record
  have isEnded : ended = ((none, iterated), session) := by
    show StateT.run (iterated.use _ (.advance place)) session = _
    unfold use
    dsimp only
    rw [isNone]
    rfl
  have ahead : iterationsIn past ≤ place := by
    rw [← reaches.length]
    exact List.getElem?_eq_none_iff.mp isNone
  have came : record.came = none := congrArg (fun ended => ended.1.1) isEnded
  have idle : record.calls = [] := by
    show callsIn (session.since ended.2) = []
    rw [isEnded]
    exact (Session.Adds.refl session).calls
  have closed : iterated.stream.closed = isClosedIn (past ++ [record]) := by
    rw [isClosedIn_snoc]
    exact reaches.closed.trans (Bool.or_false _).symm
  refine ⟨.of_idle came idle (by rintro _ ⟨⟩; exact ahead), ?_⟩
  rw [isEnded]
  exact reaches.staying came (by rintro ⟨⟩) reaches.call closed reaches.kept rfl fun _ _ => id

theorem fits_advance_some (reaches : Reaches client answered made past iterated) (session : Session)
    {place : Nat} {iteration : Iteration} (isThere : iterated.iterations[place]? = some iteration) :
    let ended := StateT.run (iterated.use (.answering client answered) (.advance place)) session
    let record : UseRecord := ⟨.advance place, ended.1.1, callsIn (session.since ended.2)⟩
    record.Fits answered made past ∧ Reaches client answered made (past ++ [record]) ended.1.2 := by
  intro ended record
  have stands := reaches.stands place iteration isThere
  have asked : Asked client answered iterated.stream iterated.answer (advancesOf past place).length
      session (StateT.run (advance iterated.stream (.answering client answered) iterated.answer
        iteration) session) := asked_advance session reaches.kept stands
  generalize isAdvance : StateT.run (advance iterated.stream (.answering client answered)
    iterated.answer iteration) session = advanced at asked
  obtain ⟨⟨⟨came, rest⟩, kept⟩, reached⟩ := advanced
  have isEnded : ended = ((some came, { iterated with
      answer := kept
      iterations := iterated.iterations.set place rest }), reached) := by
    show StateT.run (iterated.use _ (.advance place)) session = _
    unfold use
    dsimp only
    rw [isThere]
    dsimp only
    rw [StateT.run_bind, isAdvance]
    rfl
  have isCame : record.came = some came := congrArg (fun ended => ended.1.1) isEnded
  have isCalls : record.calls = callsIn (session.since reached) :=
    congrArg (fun ended => callsIn (session.since ended.2)) isEnded
  have isBelow : place < iterationsIn past := by
    rw [← reaches.length]
    exact (List.getElem?_eq_some_iff.mp isThere).1
  have asMany : iterationsIn (past ++ [record]) = iterationsIn past := iterationsIn_snoc
  have here : advancesOf (past ++ [record]) place = advancesOf past place ++ [came] := by
    rw [advancesOf_snoc, if_pos rfl, isCame]
    rfl
  have elsewhere {other : Nat} (ne : place ≠ other) :
      advancesOf (past ++ [record]) other = advancesOf past other := by
    rw [advancesOf_snoc, if_neg, List.append_nil]
    exact fun same => ne (StreamUse.advance.inj same)
  refine ⟨⟨?_, ?_, ?_, ?_, ?_⟩, ?_⟩
  · rw [isCame]
    exact ⟨fun _ => ⟨place, rfl, isBelow⟩, fun _ => rfl⟩
  · rw [isCalls, asked.calls, reaches.call, reaches.closed]
    simp [record, isFirstAsked, isBelow, List.length_eq_zero_iff]
  · rintro _ _ ⟨⟩ comes isOpen
    cases comes.symm.trans isCame
    exact asked.continues.next (reaches.closed.trans isOpen)
  · rintro _ _ ⟨⟩ comes isClosed none
    cases comes.symm.trans isCame
    exact asked.refuses (List.length_eq_zero_iff.mpr none) (reaches.closed.trans isClosed)
  · rintro _ item ⟨⟩ comes
    cases comes.symm.trans isCame
    exact asked.continues.inOrder item rfl
  · rw [isEnded]
    refine ⟨reaches.call, ?_, asked.isKept, ?_, ?_, ?_⟩
    · rw [isClosedIn_snoc]
      exact reaches.closed.trans (Bool.or_false _).symm
    · exact List.length_set.trans (reaches.length.trans asMany.symm)
    · intro other moved isMoved
      have isMoved : (iterated.iterations.set place rest)[other]? = some moved := isMoved
      rw [List.getElem?_set] at isMoved
      by_cases same : place = other
      · subst same
        rw [if_pos rfl, if_pos (List.getElem?_eq_some_iff.mp isThere).1] at isMoved
        obtain rfl := Option.some.inj isMoved
        rw [here, List.length_append]
        exact asked.stands
      · rw [if_neg same] at isMoved
        rw [elsewhere same]
        have stands := reaches.stands other moved isMoved
        obtain isSame | ⟨answer, isAnswer, isSome⟩ := asked.same
        · obtain rfl : kept = iterated.answer := isSame
          exact stands
        · obtain rfl : kept = some answer := isSome
          exact stands.keeping isAnswer
    · intro other ahead
      rw [asMany] at ahead
      rw [elsewhere (Nat.ne_of_lt (Nat.lt_of_lt_of_le isBelow ahead))]
      exact reaches.ahead other ahead

/-- **What one use comes to** fits to the uses before, and it takes the stream further. -/
theorem fits_use (reaches : Reaches client answered made past iterated) (session : Session)
    (use : StreamUse) :
    let ended := StateT.run (iterated.use (.answering client answered) use) session
    let record : UseRecord := ⟨use, ended.1.1, callsIn (session.since ended.2)⟩
    record.Fits answered made past ∧ Reaches client answered made (past ++ [record]) ended.1.2 := by
  cases use with
  | iterate => exact fits_iterate reaches session
  | close => exact fits_close reaches session
  | advance place =>
    cases isThere : iterated.iterations[place]? with
    | none => exact fits_advance_none reaches session isThere
    | some iteration => exact fits_advance_some reaches session isThere

/-- While a stream is open, an iteration comes to what there is to give in turn, by induction on the
uses. -/
theorem advancesOf_of_open {history : List UseRecord}
    (fit : ∀ before record later, history = before ++ record :: later →
      record.Fits answered made before)
    (isOpen : isClosedIn history = false) (place : Nat) : advancesOf history place =
      (List.range (advancesOf history place).length).map (givenAt answered) := by
  induction history using List.reverseRecOn with
  | nil => rfl
  | append_singleton past record ih =>
    rw [isClosedIn_snoc, Bool.or_eq_false_iff] at isOpen
    have earlier := ih (fun before other later same => fit before other (later ++ [record])
      (by rw [same, List.append_assoc]; rfl)) isOpen.1
    by_cases isUse : record.use = .advance place
    · cases isCame : record.came with
      | none =>
        rw [advancesOf_snoc_of_idle isCame]
        exact earlier
      | some came =>
        have next := (fit past record [] rfl).inTurn place came isUse isCame isOpen.1
        rw [advancesOf_snoc, if_pos isUse, isCame, Option.toList_some, List.length_append,
          List.length_singleton, List.range_succ, List.map_append, ← earlier, List.map_singleton,
          ← next]
    · rw [advancesOf_snoc, if_neg isUse, List.append_nil]
      exact earlier

/-- What the uses of a stream come to: each one fits to those before, and as long as the stream is
not closed, every iteration comes to what there is to give in turn. -/
structure GivesInTurn (answered : Except Fault ManagementAnswer) (made : Call)
    (uses : List StreamUse) (history : List UseRecord) : Prop where
  same : history.map UseRecord.use = uses
  fit : ∀ before record later, history = before ++ record :: later →
    record.Fits answered made before
  inTurn : isClosedIn history = false → ∀ place, advancesOf history place =
    (List.range (advancesOf history place).length).map (givenAt answered)

/-- **A stream gives the rows and then the errors of its answer**, however it is used. -/
theorem givesInTurn_trace (client : Option Client) (answered : Except Fault ManagementAnswer)
    (database statement : String) (session : Session) (uses : List StreamUse) :
    GivesInTurn answered (callOf client (.fresh database statement)) uses
      (trace (.answering client answered) (fresh database statement) session uses) := by
  have fit : ∀ before record later,
      trace (.answering client answered) (fresh database statement) session uses =
        before ++ record :: later →
      record.Fits answered (callOf client (.fresh database statement)) before := by
    intro before record later traced
    let made := callOf client (.fresh database statement)
    exact fits_recordEach (UseRecord.Fits answered made)
      (fun past state => Reaches client answered made past state.1)
      (fun past state use reaches => fits_use reaches state.2 use)
      (reaches_fresh client answered database statement) traced
  exact ⟨map_recordEach (fun _ _ => rfl) _, fit, advancesOf_of_open fit⟩

end Uses

end IteratedStream

end FleetSchema
