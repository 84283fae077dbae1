/-
**Why a pattern is refused.**

A text that is read as a pattern is refused for a flaw, unless it writes a number of rounds beyond
every bound, switches both alphabets on, or looks too far to the left. A pattern with many groups
may be given up before that.

* `keeps_readSequence`: reading goes on within the text, whatever is read;
* `refusedFor_of_parse`, `refusedFor_of_ofText`: a text is refused for one of these reasons;
* `NamePattern.refusedFor_of_compile`: so is a pattern, unless there is no room for it.
-/

import Mathlib.Order.MinMax
import FleetSchema.Pattern
import FleetSchema.Proofs.Pattern.Reading

namespace FleetSchema.Pattern

variable {source : String} {letters : List Char}

open Read

/-! ### Characters and sets -/

theorem keeps_readHexEscape (escape : String) (count : Nat) :
    Keeps source (readHexEscape escape count) :=
  (keeps_takeWhile _ _).bind fun _ => Leads.ite (fun _ => leads_refuse _ _) fun _ =>
    Leads.ite (fun _ => leads_refuse _ _) fun _ => keeps_pure _

theorem keeps_readNamedCharacter : Keeps source readNamedCharacter := by
  refine (keeps_accept _).bind fun _ => Leads.ite
    (fun _ => (keeps_takeName _ _).bind fun name => ?_) fun _ => leads_refuse_bind
  split
  · exact keeps_pure _
  · exact leads_refuse _ _

theorem keeps_readCharacterEscape (escape : String) (letter : Char) :
    Keeps source (readCharacterEscape escape letter) :=
  Leads.ite (fun _ => keeps_readHexEscape _ _) fun _ =>
    Leads.ite (fun _ => keeps_readHexEscape _ _) fun _ =>
      Leads.ite (fun _ => keeps_readHexEscape _ _) fun _ =>
        Leads.ite (fun _ => keeps_readNamedCharacter) fun _ =>
          Leads.ite (fun _ => leads_refuse _ _) fun _ => keeps_pure _

theorem keeps_readSetEscape (escape : String) : Keeps source (readSetEscape escape) := by
  unfold readSetEscape
  split
  · exact keeps_pure _
  · exact keeps_pure _
  · exact Leads.ite (fun _ => (keeps_takeWhile _ _).bind fun _ =>
      Leads.ite (fun _ => leads_refuse _ _) fun _ => keeps_pure _) fun _ =>
        (keeps_readCharacterEscape _ _).bind fun _ => keeps_pure _

theorem keeps_readReference (escape : String) : Keeps source (readReference escape) :=
  keeps_groupCount.bind fun _ => Leads.ite (fun _ => (keeps_isClosed _).bind fun _ =>
    Leads.ite (fun _ => (keeps_checkLookbehind _).bind fun _ => keeps_pure _)
      fun _ => leads_refuse_bind) fun _ => leads_refuse _ _

theorem keeps_readEscape (escape : String) : Keeps source (readEscape escape) := by
  unfold readEscape
  split
  · exact keeps_pure _
  · exact keeps_pure _
  · exact keeps_pure _
  · refine Leads.ite (fun _ => (keeps_takeWhile _ _).bind fun _ => keeps_pure _) fun _ =>
      Leads.ite (fun _ => ?_) fun _ => (keeps_readCharacterEscape _ _).bind fun _ => keeps_pure _
    refine (keeps_takeWhile _ _).bind fun _ => Leads.ite (fun _ => keeps_readReference _) fun _ =>
      Leads.ite (fun _ => ?_) fun _ => keeps_readReference _
    exact (keeps_takeWhile _ _).bind fun _ => Leads.ite (fun _ => keeps_readReference _) fun _ =>
      Leads.ite (fun _ => leads_refuse _ _) fun _ => keeps_pure _

theorem keeps_readSetMember (token : String) : Keeps source (readSetMember token) :=
  Leads.ite (fun _ => keeps_readSetEscape _) fun _ => keeps_pure _

theorem keeps_readSetItems (opened : Nat) (items : List SetItem) (fuel : Nat) :
    Keeps source (readSetItems opened items fuel) := by
  induction fuel generalizing items with
  | zero => exact keeps_pure _
  | succ fuel ih =>
    have unterminated : Keeps source (do
        refuse .unterminatedSet ((← position) - opened) : Read (List SetItem)) :=
      leads_position.bind fun _ => leads_refuse _ _
    refine keeps_take.bind fun low => ?_
    split
    · exact unterminated
    refine Leads.ite (fun _ => keeps_pure _) fun _ => (keeps_readSetMember _).bind fun first =>
      (keeps_accept _).bind fun _ => Leads.ite (fun _ => keeps_take.bind fun high => ?_)
        fun _ => ih _
    split
    · exact unterminated
    refine Leads.ite (fun _ => keeps_pure _) fun _ => (keeps_readSetMember _).bind fun second => ?_
    split
    · exact Leads.ite (fun _ => leads_refuse _ _) fun _ => ih _
    · exact leads_refuse _ _

theorem keeps_readSet : Keeps source readSet := by
  refine leads_position.bind fun _ => (keeps_accept _).bind fun _ => leads_get_bind fun _ =>
    (keeps_readSetItems _ _ _).bind fun items => ?_
  split
  · exact keeps_pure _
  · exact keeps_pure _

/-! ### Repetitions -/

/-- The digits of a bound of a repetition write a number of rounds, or they are refused because it
is too great. -/
theorem leads_readRounds {digits : String} (digital : digits.toList.all Char.isDigit = true)
    (holds : letters <:+: source.toList → HoldsRounds source.toList digits.toList) :
    Leads source (Behind source letters) (readRounds digits) fun _ => Behind source letters := by
  refine Leads.ite (fun long => ?_) fun _ => Leads.ite (fun great => ?_) fun _ =>
    leads_pure fun _ behind => behind
  · refine leads_throw_bind fun reading behind => ?_
    rw [← String.length_toList] at long ⊢
    exact .numeral (holds behind.holds) digital long
  · exact leads_throw_bind fun reading behind => .rounds (holds behind.holds) digital great

/-- Behind an opening brace there are bounds, or there is none. -/
theorem leads_readBounds (start : Nat) :
    Leads source (Behind source ['\x7b']) (readBounds start) fun _ => Behind source [] := by
  have closing {low high : String} {written : List Char}
      (digitalLow : low.toList.all Char.isDigit = true)
      (digitalHigh : high.toList.all Char.isDigit = true)
      (least : written ++ ['\x7d'] <:+: source.toList → HoldsRounds source.toList low.toList)
      (most : written ++ ['\x7d'] <:+: source.toList → HoldsRounds source.toList high.toList) :
      Leads source (Behind source written) (do
        if !(← accept "\x7d") then
          goTo start
          return none
        let least ← readRounds low
        if high.isEmpty then return some ⟨least, none⟩
        let most ← readRounds high
        if most < least then refuse .leastAboveMost ((← position) - start)
        return some ⟨least, some most⟩ : Read (Option Rounds)) fun _ => Behind source [] := by
    refine (leads_accept _).bind fun accepted => ?_
    cases accepted with
    | false => exact (keeps_goTo start).within.bind fun _ => keeps_pure _
    | true =>
      refine (leads_readRounds digitalLow least).bind fun fewest =>
        Leads.ite (fun _ => (keeps_pure _).within) fun _ =>
          (leads_readRounds digitalHigh most).bind fun greatest =>
            Leads.ite (fun _ => leads_position.bind fun _ => leads_refuse_bind)
              fun _ => (keeps_pure _).within
  refine leads_next_bind fun _ => Leads.ite (fun _ => (keeps_pure _).within) fun _ =>
    leads_get_bind fun _ => (leads_takeWhile _ _).bind fun low => leads_of_and fun digitalLow =>
      (leads_accept _).bind fun accepted => ?_
  cases accepted with
  | false => exact closing digitalLow digitalLow .alone .alone
  | true =>
    refine (leads_takeWhile _ _).bind fun high => leads_of_and fun digitalHigh =>
      closing digitalLow digitalHigh (fun holds => ?_) fun holds => ?_
    · exact .least high.toList digitalHigh (by simpa using holds)
    · exact .most low.toList digitalLow (by simpa using holds)

theorem keeps_readGreed : Keeps source readGreed :=
  (keeps_accept _).bind fun _ => Leads.ite (fun _ => keeps_pure _) fun _ =>
    (keeps_accept _).bind fun _ => Leads.ite (fun _ => keeps_pure _) fun _ => keeps_pure _

theorem keeps_repeatLast (start : Nat) (token : String) (rounds : Rounds) (read : List Node) :
    Keeps source (repeatLast start token rounds read) := by
  refine leads_position.bind fun _ => ?_
  split
  · exact leads_refuse _ _
  · exact leads_refuse _ _
  · exact leads_refuse _ _
  · exact keeps_readGreed.bind fun _ => keeps_pure _

/-! ### Switches -/

/-- The token of a switch is one letter, which turns on no other alphabet than its own. -/
theorem exists_letter_of_flag? {token : String} (isFlag : (flag? token).isSome = true) :
    ∃ letter : Char, token = letter.toString ∧
      ((flag? token).getD {}).AlphabetsIn (· ∈ [letter]) := by
  have known : token ∈ ["i", "L", "m", "s", "x", "a", "t", "u"] := by
    unfold flag? at isFlag
    split at isFlag
    all_goals first | decide | cases isFlag
  simp only [List.mem_cons, List.not_mem_nil, or_false] at known
  refine ⟨token.front, ?_⟩
  rcases known with rfl | rfl | rfl | rfl | rfl | rfl | rfl | rfl
  all_goals exact ⟨by decide +kernel, by decide +kernel, by decide +kernel⟩

/-- Switches that a closing parenthesis follows hold for the whole pattern: a part of the text turns
them on. -/
theorem leads_readFlagsOn (seen : List Char) {flags : Flags} {letter : String} (fuel : Nat)
    (isFlag : (flag? letter).isSome = true)
    (areFlags : ∀ other ∈ seen, (flag? other.toString).isSome = true)
    (fromSeen : flags.AlphabetsIn (· ∈ seen)) :
    Leads source (Behind source ('(' :: '?' :: seen ++ letter.toList))
      (readFlagsOn flags letter fuel) fun found reading => Behind source [] reading ∧
        (found.2 = ")" → found.1.AlphabetsIn (SwitchesOn source.toList)) := by
  induction fuel generalizing seen flags letter with
  | zero =>
    refine leads_pure fun _ holds => ⟨holds.within, fun closes => ?_⟩
    rw [show letter = ")" from closes] at isFlag
    cases isFlag
  | succ fuel ih =>
    obtain ⟨own, rfl, fromOwn⟩ := exists_letter_of_flag? isFlag
    have fromBoth : (flags.union ((flag? own.toString).getD {})).AlphabetsIn (· ∈ seen ++ [own]) :=
      (fromSeen.mono fun _ => List.mem_append_left _).union
        (fromOwn.mono fun _ => List.mem_append_right _)
    have areBoth : ∀ other ∈ seen ++ [own], (flag? other.toString).isSome = true := by
      intro other inside
      obtain earlier | later := List.mem_append.mp inside
      · exact areFlags other earlier
      · rwa [List.mem_singleton.mp later]
    refine Leads.ite (fun _ => leads_refuse_bind) fun _ => Leads.ite (fun _ => leads_refuse_bind)
      fun _ => leads_take.bind fun token => ?_
    rw [show own.toString.toList = [own] from String.toList_singleton own]
    split
    · exact leads_refuseHere _
    · next token =>
      refine Leads.ite (fun _ => leads_pure fun reading holds => ⟨holds.within, fun closes => ?_⟩)
        fun _ => Leads.ite (fun _ => leads_refuse _ _) fun isOther => ?_
      · have closed : '(' :: '?' :: (seen ++ [own]) ++ [')'] <:+: source.toList := by
          have holds := holds.holds
          rw [show token = ")" from closes] at holds
          simpa using holds
        exact fromBoth.mono fun letter inside => ⟨_, inside, areBoth, closed⟩
      · have isFlag : (flag? token).isSome = true :=
          Option.isSome_iff_ne_none.mpr (by simpa using isOther)
        exact (ih (seen ++ [own]) isFlag areBoth fromBoth).conseq
          (fun _ holds => by simpa using holds) fun _ _ holds => holds

theorem keeps_readFlagsOff (flags : Flags) (letter : String) (fuel : Nat) :
    Keeps source (readFlagsOff flags letter fuel) := by
  induction fuel generalizing flags letter with
  | zero => exact keeps_pure _
  | succ fuel ih =>
    refine Leads.ite (fun _ => leads_refuse_bind) fun _ => keeps_take.bind fun token => ?_
    split
    · exact leads_refuseHere _
    · exact Leads.ite (fun _ => keeps_pure _) fun _ =>
        Leads.ite (fun _ => leads_refuse _ _) fun _ => ih _ _

/-- The switches behind a question mark: those that hold for the whole pattern are turned on by a
part of the text. -/
theorem leads_readFlags {token : String} (isSwitch : (flag? token).isSome = true ∨ token = "-") :
    Leads source (Behind source ('(' :: '?' :: token.toList)) (readFlags token)
      fun _ => Behind source [] := by
  have isFlag (other : ¬ (token == "-") = true) : (flag? token).isSome = true :=
    isSwitch.resolve_right (by simpa using other)
  refine leads_get_bind fun known => Leads.iteBind (fun _ => ?_)
    (fun other => leads_readFlagsOn [] _ (isFlag other) (by simp) .none) ?_
  · exact leads_pure fun _ holds => ⟨holds.within, fun closes => absurd closes (by decide)⟩
  rintro ⟨added, close⟩
  refine leads_of_and fun turned => ?_
  refine Leads.ite (fun closes => ?_) fun _ => Leads.ite (fun _ => leads_refuse_bind) fun _ => ?_
  · have turned := turned (beq_iff_eq.mp closes)
    exact (leads_modify fun reading behind =>
      ⟨⟨behind.text, behind.alphabets.union turned⟩, behind.ends⟩).bind fun _ => keeps_pure none
  · have checking (added removed : Flags) : Keeps source (do
        if removed.template then refuse .globalFlagOff 1
        if !(added.inter removed).isNone then refuse .flagOnAndOff 1
        return some (added, removed) : Read (Option (Flags × Flags))) :=
      Leads.ite (fun _ => leads_refuse_bind) fun _ => Leads.ite (fun _ => leads_refuse_bind)
        fun _ => keeps_pure _
    refine Leads.ite (fun _ => keeps_take.bind fun letter => ?_) fun _ =>
      (keeps_pure _).bind (checking _)
    split
    · exact leads_refuse_bind
    · exact Leads.ite (fun _ => leads_refuse_bind) fun _ =>
        (keeps_readFlagsOff _ _ _).bind (checking _)

/-! ### Openings -/

theorem keeps_skipComment (start fuel : Nat) : Keeps source (skipComment start fuel) := by
  induction fuel with
  | zero => exact keeps_pure _
  | succ fuel ih =>
    refine leads_next_bind fun token => ?_
    split
    · exact leads_position.bind fun _ => leads_refuse _ _
    · exact keeps_fetch.bind fun _ => Leads.ite (fun _ => keeps_pure _) fun _ => ih

theorem keeps_skipLine (fuel : Nat) : Keeps source (skipLine fuel) := by
  induction fuel with
  | zero => exact keeps_pure _
  | succ fuel ih =>
    refine keeps_take.bind fun token => ?_
    split
    · exact keeps_pure _
    · exact Leads.ite (fun _ => keeps_pure _) fun _ => ih

theorem keeps_readNamedOpening : Keeps source readNamedOpening := by
  refine (keeps_accept _).bind fun _ => Leads.ite (fun _ => ?_) fun _ =>
    (keeps_accept _).bind fun _ => Leads.ite (fun _ => ?_) fun _ => ?_
  · exact (keeps_takeName _ _).bind fun _ => (keeps_checkName _ _).bind fun _ => keeps_pure _
  · refine (keeps_takeName _ _).bind fun _ => (keeps_checkName _ _).bind fun _ =>
      (keeps_groupNamed? _).bind fun group => ?_
    split
    · exact leads_refuse _ _
    · exact (keeps_isClosed _).bind fun _ => Leads.ite (fun _ =>
        (keeps_checkLookbehind _).bind fun _ => keeps_pure _) fun _ => leads_refuse_bind
  · refine keeps_take.bind fun token => ?_
    split
    · exact leads_refuseHere _
    · exact leads_refuse _ _

theorem keeps_readCondition : Keeps source readCondition := by
  have checking (group : Nat) : Keeps source (do
      checkLookbehind group
      return group) := (keeps_checkLookbehind group).bind fun _ => keeps_pure _
  refine (keeps_takeName _ _).bind fun name => Leads.ite (fun _ => ?_) fun _ => ?_
  · refine (keeps_groupNamed? _).bind fun group => ?_
    split
    · exact leads_refuse_bind
    · exact (keeps_pure _).bind checking
  · split
    · exact leads_refuse_bind
    · refine Leads.ite (fun _ => leads_refuse_bind) fun _ =>
        Leads.ite (fun _ => leads_refuse_bind) fun _ =>
          Leads.ite (fun _ => leads_refuse_bind) fun _ => leads_position.bind fun _ => ?_
      refine (leads_modify fun reading behind => ?_).bind fun _ => (keeps_pure _).bind checking
      split
      · exact behind
      · exact behind.congr rfl rfl rfl

/-- Behind an opening parenthesis. -/
theorem leads_readOpening (start : Nat) (atStart : Bool) :
    Leads source (Behind source ['(']) (readOpening start atStart) fun _ => Behind source [] := by
  refine (leads_accept _).bind fun accepted => ?_
  cases accepted with
  | false => exact (keeps_pure _).within
  | true =>
    rw [if_pos rfl]
    refine leads_take.bind fun token => ?_
    split
    · exact leads_refuseHere _
    · exact keeps_readNamedOpening.within
    · exact (keeps_pure _).within
    · exact leads_get_bind fun _ => (keeps_skipComment _ _).within.bind fun _ => keeps_pure _
    · exact (keeps_pure _).within
    · exact (keeps_pure _).within
    · refine keeps_take.within.bind fun token => ?_
      split
      · exact leads_refuseHere _
      · exact keeps_pure _
      · exact keeps_pure _
      · exact leads_refuse _ _
    · exact keeps_readCondition.within.bind fun _ => keeps_pure _
    · exact (keeps_pure _).within
    · next token _ _ _ _ _ _ _ _ =>
      refine Leads.ite (fun isSwitch => ?_) fun _ => leads_refuse _ _
      have switches : Leads source (Behind source ('(' :: '?' :: token.toList)) (readFlags token)
          fun _ => Behind source [] := leads_readFlags (by simpa using isSwitch)
      refine (switches.conseq (fun _ holds => by simpa using holds) fun _ _ holds => holds).bind
        fun switched => ?_
      split
      · exact keeps_pure _
      · exact Leads.ite (fun _ => keeps_pure _) fun _ =>
          leads_position.bind fun _ => leads_refuse_bind

theorem keeps_closeParenthesis (start : Nat) : Keeps source (closeParenthesis start) :=
  (keeps_accept _).bind fun _ => Leads.ite (fun _ => keeps_pure _) fun _ =>
    leads_position.bind fun _ => leads_refuse _ _

/-! ### Groups and sequences -/

/-- Reading goes on within a text as long as some fuel lasts. -/
structure KeepsUpTo (source : String) (fuel : Nat) : Prop where
  choice : ∀ verbose nested, Keeps source (readChoice verbose nested fuel)
  members : ∀ verbose nested first, Keeps source (readMembers verbose nested first fuel)
  sequence : ∀ verbose first read, Keeps source (readSequence verbose first read fuel)
  group : ∀ verbose start atStart, Leads source (Behind source ['('])
    (readGroup verbose start atStart fuel) fun _ => Behind source []

section Fuel

variable {fuel : Nat}

theorem KeepsUpTo.choice_succ (keeps : KeepsUpTo source fuel) (verbose nested : Bool) :
    Keeps source (readChoice verbose nested (fuel + 1)) := by
  rw [readChoice]
  exact (keeps.members _ _ _).bind fun _ => keeps_pure _

theorem KeepsUpTo.members_succ (keeps : KeepsUpTo source fuel) (verbose nested first : Bool) :
    Keeps source (readMembers verbose nested first (fuel + 1)) := by
  rw [readMembers]
  exact (keeps.sequence _ _ _).bind fun _ => (keeps_accept _).bind fun _ =>
    Leads.ite (fun _ => leads_get_bind fun _ => (keeps.members _ _ _).bind fun _ => keeps_pure _)
      fun _ => keeps_pure _

theorem KeepsUpTo.sequence_succ (keeps : KeepsUpTo source fuel) (verbose first : Bool)
    (read : List Node) : Keeps source (readSequence verbose first read (fuel + 1)) := by
  rw [readSequence]
  refine leads_next.bind fun token => ?_
  split
  · exact leads_pure fun _ holds => holds.1
  · exact leads_pure fun _ holds => holds.1
  · exact leads_pure fun _ holds => holds.1
  · next token _ _ =>
    have onward (verbose : Bool) (read : List Node) :
        Leads source (Behind source token.toList) (readSequence verbose first read fuel)
          fun _ => Behind source [] := (keeps.sequence _ _ _).within
    have repeating (rounds : Rounds) : Leads source (Behind source token.toList) (do
        let read ← repeatLast (← position) token rounds read
        readSequence verbose first read fuel) fun _ => Behind source [] :=
      leads_position.bind fun _ => (keeps_repeatLast _ _ _ _).within.bind fun _ =>
        keeps.sequence _ _ _
    refine leads_fetch.bind fun _ => Leads.ite (fun _ => onward _ _) fun _ =>
      Leads.ite (fun _ => leads_get_bind fun _ => (keeps_skipLine _).within.bind fun _ =>
        keeps.sequence _ _ _) fun _ =>
          Leads.ite (fun _ => (keeps_readEscape _).within.bind fun _ => keeps.sequence _ _ _)
            fun _ => ?_
    split
    · exact keeps_readSet.within.bind fun _ => keeps.sequence _ _ _
    · exact onward _ _
    · exact onward _ _
    · exact onward _ _
    · exact repeating _
    · exact repeating _
    · exact repeating _
    · refine leads_position.bind fun start => (leads_readBounds start).bind fun rounds => ?_
      split
      · exact keeps.sequence _ _ _
      · exact (keeps_repeatLast _ _ _ _).bind fun _ => keeps.sequence _ _ _
    · exact leads_position.bind fun _ => (keeps.group _ _ _).bind fun _ => keeps.sequence _ _ _
    · exact onward _ _

theorem KeepsUpTo.group_succ (keeps : KeepsUpTo source fuel) (verbose : Bool) (start : Nat)
    (atStart : Bool) :
    Leads source (Behind source ['(']) (readGroup verbose start atStart (fuel + 1))
      fun _ => Behind source [] := by
  rw [readGroup]
  refine (leads_readOpening start atStart).bind fun opening => ?_
  have closing {α : Type} (value : α) : Keeps source (do
      closeParenthesis start
      return value) := (keeps_closeParenthesis start).bind fun _ => keeps_pure _
  split
  · exact leads_get_bind fun _ => keeps_pure _
  · exact (keeps_openGroup _).bind fun _ => (keeps.choice _ _).bind fun _ =>
      (keeps_closeParenthesis _).bind fun _ => (keeps_closeGroup _ _).bind fun _ => keeps_pure _
  · exact (keeps.choice _ _).bind fun _ => closing _
  · exact (keeps.choice _ _).bind fun _ => closing _
  · next ahead positive =>
    have switching (lookbehind : Reading → Option Nat) : Keeps source
        (modify fun reading => { reading with lookbehind := lookbehind reading } : Read Unit) :=
      keeps_modify (fun _ => rfl) (fun _ => rfl) fun _ => rfl
    exact leads_get_bind fun _ =>
      Keeps.whenBind (fun _ => switching fun reading => some reading.widths.length) fun _ =>
        (keeps.choice _ _).bind fun _ => Keeps.whenBind (fun _ => switching fun _ => none) fun _ =>
          closing _
  · exact (keeps.sequence _ _ _).bind fun _ => (keeps_accept _).bind fun _ => Leads.ite (fun _ =>
      (keeps.sequence _ _ _).bind fun _ => leads_next_bind fun _ =>
        Leads.ite (fun _ => leads_refuse_bind) fun _ => (keeps_pure _).bind fun _ => closing _)
          fun _ => (keeps_pure _).bind fun _ => closing _

end Fuel

/-- Reading goes on within a text, whatever is read. -/
theorem keepsUpTo (fuel : Nat) : KeepsUpTo source fuel := by
  induction fuel with
  | zero =>
    constructor
    · intro _ _
      rw [readChoice]
      exact keeps_pure _
    · intro _ _ _
      rw [readMembers]
      exact keeps_pure _
    · intro _ _ _
      rw [readSequence]
      exact keeps_pure _
    · intro _ _ _
      rw [readGroup]
      exact (keeps_pure _).within
  | succ fuel keeps =>
    exact ⟨keeps.choice_succ, keeps.members_succ, keeps.sequence_succ, keeps.group_succ⟩

/-! ### Whole patterns -/

/-- A pattern is read from the front of a text on. -/
theorem leads_readPattern : Leads source (fun reading => Known source reading ∧
    [] ++ source.toList.drop reading.index <:+ source.toList) readPattern
      fun _ => Behind source [] := by
  refine leads_fetch_known.bind fun _ => leads_get_bind fun _ =>
    ((keepsUpTo _).choice _ _).bind fun nodes => leads_get.bind fun known => ?_
  refine Leads.ite (fun both => ?_) fun _ => ?_
  · rw [Bool.and_eq_true] at both
    refine leads_throw_bind fun reading holds => ?_
    obtain ⟨behind, rfl⟩ := holds
    exact .alphabets (behind.alphabets.ascii both.1) (behind.alphabets.unicode both.2)
  · refine Leads.conseq ?_ (fun _ holds => holds.1) fun _ _ holds => holds
    refine leads_next_bind fun _ => Leads.ite (fun _ => leads_refuse_bind) fun _ =>
      keeps_groupCount.bind fun count => leads_get_bind fun reading => ?_
    split
    · exact leads_throw fun _ _ => .flaw _ _
    · exact leads_get_bind fun _ => keeps_pure _

/-- A text is refused by the parser for one of the reasons. -/
theorem refusedFor_of_parse {refusal : Refusal} (refused : parse source = .error refusal) :
    RefusedFor source refusal := by
  have led := leads_readPattern ⟨source.toList.toArray, 0, none, {}, [], [none], none, []⟩
    ⟨⟨rfl, .none⟩, List.suffix_refl source.toList⟩
  unfold parse at refused
  split at led
  · next ended =>
    rw [ended] at refused
    cases refused
  · next ended =>
    rw [ended] at refused
    cases refused
    exact led

/-! ### Looks to the left -/

section Outcomes

variable {ε α β : Type} {outcome : Except ε α} {next : α → Except ε β}

theorem exists_of_bind_eq_ok {value : β} (given : outcome >>= next = .ok value) :
    ∃ first, outcome = .ok first ∧ next first = .ok value := by
  cases outcome with
  | error fault => cases given
  | ok first => exact ⟨first, rfl, given⟩

theorem bind_eq_error_cases {fault : ε} (failed : outcome >>= next = .error fault) :
    outcome = .error fault ∨ ∃ first, outcome = .ok first ∧ next first = .error fault := by
  cases outcome with
  | error other =>
    cases failed
    exact Or.inl rfl
  | ok first => exact Or.inr ⟨first, rfl, failed⟩

end Outcomes

theorem farthestOfAll_append (first second : List Code) :
    farthestOfAll (first ++ second) = max (farthestOfAll first) (farthestOfAll second) := by
  induction first with
  | nil => exact (Nat.zero_max _).symm
  | cons code rest ih =>
    rw [List.cons_append, farthestOfAll, farthestOfAll, ih, Nat.max_assoc]

/-- Some look to the left is as wide as a limit. -/
def ReachesBack (widths : List (Option Width)) (limit : Nat) (looks : List (List Node)) : Prop :=
  ∃ body ∈ looks, limit ≤ (widthOfAll widths body).least

section Looks

variable {widths : List (Option Width)} {limit : Nat} {looks others : List (List Node)}

theorem ReachesBack.left (reaches : ReachesBack widths limit looks) :
    ReachesBack widths limit (looks ++ others) := by
  obtain ⟨body, inside, far⟩ := reaches
  exact ⟨body, List.mem_append_left _ inside, far⟩

theorem ReachesBack.right (reaches : ReachesBack widths limit others) :
    ReachesBack widths limit (looks ++ others) := by
  obtain ⟨body, inside, far⟩ := reaches
  exact ⟨body, List.mem_append_right _ inside, far⟩

mutual

/-- When the code of a node looks back as far as a limit, a look to the left in it is that wide. -/
theorem reachesBack_of_codeOf (positive : 0 < limit) {flags : Flags} {node : Node}
    {codes : List Code} (coded : codeOf widths flags node = .ok codes)
    (far : limit ≤ farthestOfAll codes) : ReachesBack widths limit (looksOf node) := by
  match node with
  | .literal _ | .exceptLiteral _ | .any | .set .. | .anchor _ | .reference _ =>
    cases coded
    exact absurd far (Nat.not_le.mpr positive)
  | .conditional group yes no =>
    unfold codeOf at coded
    obtain ⟨first, codedYes, coded⟩ := exists_of_bind_eq_ok coded
    obtain ⟨second, codedNo, coded⟩ := exists_of_bind_eq_ok coded
    cases coded
    simp only [farthestOfAll, farthest, Nat.max_zero, le_max_iff] at far
    unfold looksOf
    obtain farYes | farNo := far
    · exact (reachesBack_of_codeOfAll positive codedYes farYes).left
    · exact (reachesBack_of_codeOfAll positive codedNo farNo).right
  | .branch alternatives =>
    unfold codeOf at coded
    obtain ⟨each, codedEach, coded⟩ := exists_of_bind_eq_ok coded
    cases coded
    simp only [farthestOfAll, farthest, Nat.max_zero] at far
    exact reachesBack_of_codeOfEach positive codedEach far
  | .loop greed least most body =>
    unfold codeOf at coded
    split at coded
    · cases coded
    obtain ⟨code, codedBody, coded⟩ := exists_of_bind_eq_ok coded
    split at coded
    · cases coded
      exact absurd far (Nat.not_le.mpr positive)
    · cases coded
      simp only [farthestOfAll, farthest, Nat.max_zero] at far
      exact reachesBack_of_codeOfAll positive codedBody far
  | .group index added removed body =>
    unfold codeOf at coded
    obtain ⟨code, codedBody, coded⟩ := exists_of_bind_eq_ok coded
    have farBody : limit ≤ farthestOfAll code := by
      split at coded
      · cases coded
        exact far
      · cases coded
        simpa [farthestOfAll, farthest, farthestOfAll_append] using far
    exact reachesBack_of_codeOfAll positive codedBody farBody
  | .atomic body =>
    unfold codeOf at coded
    obtain ⟨code, codedBody, coded⟩ := exists_of_bind_eq_ok coded
    cases coded
    simp only [farthestOfAll, farthest, Nat.max_zero] at far
    exact reachesBack_of_codeOfAll positive codedBody far
  | .look true isPositive body =>
    unfold codeOf at coded
    obtain ⟨back, isBack, coded⟩ := exists_of_bind_eq_ok coded
    obtain ⟨code, codedBody, coded⟩ := exists_of_bind_eq_ok coded
    cases isBack
    cases coded
    simp only [farthestOfAll, farthest, Nat.max_zero, Nat.zero_max] at far
    exact reachesBack_of_codeOfAll positive codedBody far
  | .look false isPositive body =>
    unfold codeOf at coded
    dsimp only at coded
    rw [if_neg Bool.false_ne_true] at coded
    split at coded
    · cases coded
    obtain ⟨back, isBack, coded⟩ := exists_of_bind_eq_ok coded
    obtain ⟨code, codedBody, coded⟩ := exists_of_bind_eq_ok coded
    cases isBack
    cases coded
    simp only [farthestOfAll, farthest, Nat.max_zero, le_max_iff] at far
    unfold looksOf
    obtain farBack | farBody := far
    · exact ⟨body, List.mem_cons_self, farBack⟩
    · obtain ⟨other, inside, far⟩ := reachesBack_of_codeOfAll positive codedBody farBody
      exact ⟨other, List.mem_cons_of_mem _ inside, far⟩

theorem reachesBack_of_codeOfAll (positive : 0 < limit) {flags : Flags} {nodes : List Node}
    {codes : List Code} (coded : codeOfAll widths flags nodes = .ok codes)
    (far : limit ≤ farthestOfAll codes) : ReachesBack widths limit (looksOfAll nodes) := by
  match nodes with
  | [] =>
    cases coded
    exact absurd far (Nat.not_le.mpr positive)
  | node :: rest =>
    unfold codeOfAll at coded
    obtain ⟨first, codedFirst, coded⟩ := exists_of_bind_eq_ok coded
    obtain ⟨second, codedRest, coded⟩ := exists_of_bind_eq_ok coded
    cases coded
    rw [farthestOfAll_append, le_max_iff] at far
    unfold looksOfAll
    obtain farFirst | farRest := far
    · exact (reachesBack_of_codeOf positive codedFirst farFirst).left
    · exact (reachesBack_of_codeOfAll positive codedRest farRest).right

theorem reachesBack_of_codeOfEach (positive : 0 < limit) {flags : Flags}
    {bodies : List (List Node)} {codes : List (List Code)}
    (coded : codeOfEach widths flags bodies = .ok codes) (far : limit ≤ farthestOfEach codes) :
    ReachesBack widths limit (looksOfEach bodies) := by
  match bodies with
  | [] =>
    cases coded
    exact absurd far (Nat.not_le.mpr positive)
  | body :: rest =>
    unfold codeOfEach at coded
    obtain ⟨first, codedFirst, coded⟩ := exists_of_bind_eq_ok coded
    obtain ⟨second, codedRest, coded⟩ := exists_of_bind_eq_ok coded
    cases coded
    rw [farthestOfEach, le_max_iff] at far
    unfold looksOfEach
    obtain farFirst | farRest := far
    · exact (reachesBack_of_codeOfAll positive codedFirst farFirst).left
    · exact (reachesBack_of_codeOfEach positive codedRest farRest).right

end

end Looks

/-! ### Refusals -/

/-- **A text is refused as a pattern for one of the reasons.** -/
theorem refusedFor_of_ofText {refusal : Refusal}
    (refused : NamePattern.ofText source = .error refusal) : RefusedFor source refusal := by
  obtain unparsed | ⟨parsed, parses, refused⟩ := bind_eq_error_cases refused
  · exact refusedFor_of_parse unparsed
  obtain uncoded | ⟨_, _, ⟨⟩⟩ := bind_eq_error_cases refused
  unfold Parsed.code at uncoded
  dsimp only at uncoded
  generalize coded : codeOfAll parsed.widths _ parsed.nodes = outcome at uncoded
  cases outcome with
  | error complaint =>
    cases uncoded
    exact .flaw complaint none
  | ok codes =>
    obtain ⟨⟨⟩⟩ | ⟨codes, same, limited⟩ := bind_eq_error_cases uncoded
    cases same
    split at limited
    · next far =>
      cases limited
      obtain ⟨body, looks, isFar⟩ := reachesBack_of_codeOfAll (by decide) coded far
      exact .look parses looks isFar
    · cases limited

end FleetSchema.Pattern

namespace FleetSchema.NamePattern

variable [Interpreter] {source : String}

/-- The reasons for which a pattern is refused: those for which its text is one, and that there is
no room for its many groups. -/
inductive RefusedFor (source : String) : Pattern.Refusal → Prop
  | text {refusal : Pattern.Refusal} (reason : Pattern.RefusedFor source refusal) :
      RefusedFor source refusal
  | room {wording : String} (givenUp : Interpreter.givenUp? source = some wording)
      (many : Interpreter.room < source.toList.count '(') : RefusedFor source (.givenUp wording)

/-- **A pattern is refused for one of the reasons.** -/
theorem refusedFor_of_compile {refusal : Pattern.Refusal}
    (refused : compile source = .error refusal) : RefusedFor source refusal := by
  by_cases few : source.toList.count '(' ≤ Interpreter.room
  · rw [compile_of_few few] at refused
    exact .text (Pattern.refusedFor_of_ofText refused)
  · unfold compile at refused
    cases givenUp : Interpreter.givenUp? source with
    | none =>
      rw [givenUp] at refused
      exact .text (Pattern.refusedFor_of_ofText refused)
    | some wording =>
      rw [givenUp] at refused
      cases refused
      exact .room givenUp (Nat.lt_of_not_le few)

end FleetSchema.NamePattern
