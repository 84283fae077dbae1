/-
**What reading a pattern leaves.**

The tokens of a pattern are read one after the other. At every moment the text ends in what is left
of it, behind the letters that were just read; and the switches that are on were switched on by some
part of the text. A pattern is refused for a flaw, or because of something else that its text
writes.

* `RefusedFor`: the reasons for which a text can be refused;
* `Leads`: what holds behind a step of reading, and the reasons for which it may refuse;
* `Behind`: the text ends in some letters and what is left to read behind them;
* `leads_take`, `leads_accept`, `leads_takeWhile`: what reading tokens does to the letters.
-/

import FleetSchema.Pattern.Code

namespace FleetSchema.Pattern

/-! ### Reasons for refusals -/

/-- A text holds a repetition with a number of rounds, alone or as one of two bounds. -/
inductive HoldsRounds (text digits : List Char) : Prop
  | alone (holds : '\x7b' :: digits ++ ['\x7d'] <:+: text)
  | least (most : List Char) (digital : most.all Char.isDigit = true)
      (holds : '\x7b' :: digits ++ ',' :: most ++ ['\x7d'] <:+: text)
  | most (least : List Char) (digital : least.all Char.isDigit = true)
      (holds : '\x7b' :: least ++ ',' :: digits ++ ['\x7d'] <:+: text)

/-- A text holds a group of switches that turns one of them on for the whole pattern. -/
def SwitchesOn (text : List Char) (letter : Char) : Prop :=
  ∃ letters, letter ∈ letters ∧ (∀ other ∈ letters, (flag? other.toString).isSome = true) ∧
    '(' :: '?' :: letters ++ [')'] <:+: text

mutual

/-- The bodies of the looks to the left in a node. -/
def looksOf : Node → List (List Node)
  | .conditional _ yes no => looksOfAll yes ++ looksOfAll no
  | .branch alternatives => looksOfEach alternatives
  | .loop _ _ _ body | .group _ _ _ body | .atomic body | .look true _ body => looksOfAll body
  | .look false _ body => body :: looksOfAll body
  | _ => []

/-- The bodies of the looks to the left in a sequence. -/
def looksOfAll : List Node → List (List Node)
  | [] => []
  | node :: rest => looksOf node ++ looksOfAll rest

/-- The bodies of the looks to the left in alternatives. -/
def looksOfEach : List (List Node) → List (List Node)
  | [] => []
  | body :: rest => looksOfAll body ++ looksOfEach rest

end

/-- The reasons for which a text can be refused as a pattern. -/
inductive RefusedFor (source : String) : Refusal → Prop
  | flaw (complaint : Complaint) (position : Option Nat) :
      RefusedFor source (.malformed complaint position)
  | rounds {digits : List Char} (holds : HoldsRounds source.toList digits)
      (digital : digits.all Char.isDigit = true) (great : roundLimit ≤ valueInBase 10 digits) :
      RefusedFor source .tooManyRounds
  | numeral {digits : List Char} (holds : HoldsRounds source.toList digits)
      (digital : digits.all Char.isDigit = true) (long : Numeral.digitLimit < digits.length) :
      RefusedFor source (.numeralTooLong digits.length)
  | alphabets (ascii : SwitchesOn source.toList 'a') (unicode : SwitchesOn source.toList 'u') :
      RefusedFor source .bothAlphabets
  | look {parsed : Parsed} {body : List Node} (parses : parse source = .ok parsed)
      (looks : body ∈ looksOfAll parsed.nodes)
      (far : lookLimit ≤ (widthOfAll parsed.widths body).least) : RefusedFor source .lookTooFar

/-! ### Steps of reading -/

section Steps

variable {α β : Type} {source : String} {step : Read α}

/-- From where something holds, a step leads to where something else holds, or it refuses the text
for one of the reasons. -/
def Leads (source : String) (before : Reading → Prop) (step : Read α)
    (behind : α → Reading → Prop) : Prop :=
  ∀ reading, before reading →
    match step.run reading with
    | .ok (value, reached) => behind value reached
    | .error refusal => RefusedFor source refusal

variable {before earlier : Reading → Prop} {behind later : α → Reading → Prop}

theorem Leads.conseq (leads : Leads source before step behind)
    (weaken : ∀ reading, earlier reading → before reading)
    (strengthen : ∀ value reading, behind value reading → later value reading) :
    Leads source earlier step later := by
  intro reading holds
  have led := leads reading (weaken reading holds)
  cases ended : step.run reading with
  | error refusal =>
    rw [ended] at led
    exact led
  | ok reached =>
    rw [ended] at led
    exact strengthen _ _ led

theorem Leads.bind {next : α → Read β} {last : β → Reading → Prop}
    (leads : Leads source before step behind)
    (onward : ∀ value, Leads source (behind value) (next value) last) :
    Leads source before (step >>= next) last := by
  intro reading holds
  have led := leads reading holds
  rw [StateT.run_bind]
  cases ended : step.run reading with
  | error refusal =>
    rw [ended] at led
    exact led
  | ok reached =>
    rw [ended] at led
    exact onward reached.1 reached.2 led

theorem leads_pure {value : α} (holds : ∀ reading, before reading → behind value reading) :
    Leads source before (pure value) behind := holds

theorem leads_throw {refusal : Refusal}
    (reason : ∀ reading, before reading → RefusedFor source refusal) :
    Leads source before (throw refusal : Read α) behind := reason

/-- Nothing comes behind a refusal. -/
theorem leads_throw_bind {refusal : Refusal} {next : α → Read β} {last : β → Reading → Prop}
    (reason : ∀ reading, before reading → RefusedFor source refusal) :
    Leads source before ((throw refusal : Read α) >>= next) last := reason

/-- A fact that holds wherever a step starts may be used for it. -/
theorem leads_of_and {fact : Prop} (leads : fact → Leads source before step behind) :
    Leads source (fun reading => before reading ∧ fact) step behind :=
  fun reading holds => leads holds.2 reading holds.1

theorem Leads.ite {condition : Prop} [Decidable condition] {other : Read α}
    (leads : condition → Leads source before step behind)
    (leadsOther : ¬ condition → Leads source before other behind) :
    Leads source before (if condition then step else other) behind := by
  split
  · next holds => exact leads holds
  · next fails => exact leadsOther fails

/-- One of two steps is taken, and what comes behind either of them is the same. -/
theorem Leads.iteBind {condition : Prop} [Decidable condition] {other : Read α}
    {next : α → Read β} {last : β → Reading → Prop}
    (leads : condition → Leads source before step behind)
    (leadsOther : ¬ condition → Leads source before other behind)
    (onward : ∀ value, Leads source (behind value) (next value) last) :
    Leads source before (if condition then step >>= next else other >>= next) last :=
  .ite (fun holds => (leads holds).bind onward) fun fails => (leadsOther fails).bind onward

/-- What is known is looked at. -/
theorem leads_get :
    Leads source before get fun reading reached => before reached ∧ reading = reached :=
  fun _ holds => ⟨holds, rfl⟩

/-- What is known is looked at, and it does not matter what it is. -/
theorem leads_get_bind {next : Reading → Read α}
    (leads : ∀ known, Leads source before (next known) behind) :
    Leads source before (get >>= next) behind :=
  leads_get.bind fun known => (leads known).conseq (fun _ holds => holds.1) fun _ _ holds => holds

/-- What is known is replaced. -/
theorem leads_set {replaced : Reading} {holding : PUnit → Reading → Prop}
    (holds : ∀ reading, before reading → holding ⟨⟩ replaced) :
    Leads source before (set replaced) holding := holds

theorem leads_modify {change : Reading → Reading} {changed : Reading → Prop}
    (holds : ∀ reading, before reading → changed (change reading)) :
    Leads source before (modify change) fun _ => changed := holds

end Steps

/-! ### Switches that are on -/

/-- Each alphabet that switches turn on has a letter that is named. -/
structure Flags.AlphabetsIn (named : Char → Prop) (flags : Flags) : Prop where
  ascii : flags.ascii = true → named 'a'
  unicode : flags.unicode = true → named 'u'

namespace Flags.AlphabetsIn

variable {named others : Char → Prop} {flags added : Flags}

theorem none : Flags.AlphabetsIn named {} := ⟨by rintro ⟨⟩, by rintro ⟨⟩⟩

theorem mono (alphabets : flags.AlphabetsIn named) (sub : ∀ letter, named letter → others letter) :
    flags.AlphabetsIn others :=
  ⟨fun isOn => sub _ (alphabets.ascii isOn), fun isOn => sub _ (alphabets.unicode isOn)⟩

theorem union (alphabets : flags.AlphabetsIn named) (more : added.AlphabetsIn named) :
    (flags.union added).AlphabetsIn named :=
  ⟨fun isOn => (Bool.or_eq_true_iff.mp isOn).elim alphabets.ascii more.ascii,
    fun isOn => (Bool.or_eq_true_iff.mp isOn).elim alphabets.unicode more.unicode⟩

end Flags.AlphabetsIn

/-! ### Letters and what is left behind them -/

/-- The letters of a token, if there is one. -/
def lettersOf (token : Option String) : List Char := (token.map String.toList).getD []

@[simp]
theorem lettersOf_some (token : String) : lettersOf (some token) = token.toList := rfl

/-- What is left of the text: the token that comes next and all behind it. -/
def Reading.left (reading : Reading) : List Char :=
  lettersOf reading.upcoming ++ reading.text.toList.drop reading.index

/-- A text is read, and each alphabet that is switched on was switched on by some part of it. -/
structure Known (source : String) (reading : Reading) : Prop where
  text : reading.text.toList = source.toList
  alphabets : reading.flags.AlphabetsIn (SwitchesOn source.toList)

/-- A text is read that ends in some letters and what is left behind them. -/
structure Behind (source : String) (letters : List Char) (reading : Reading) : Prop
    extends Known source reading where
  ends : letters ++ reading.left <:+ source.toList

/-- A step goes on within a text, wherever it starts. -/
abbrev Keeps {α : Type} (source : String) (step : Read α) : Prop :=
  Leads source (Behind source []) step fun _ => Behind source []

section Letters

variable {α β : Type} {source : String} {letters : List Char} {reading : Reading} {step : Read α}

theorem Behind.within (behind : Behind source letters reading) : Behind source [] reading :=
  ⟨behind.toKnown, (List.suffix_append letters _).trans behind.ends⟩

theorem Behind.holds (behind : Behind source letters reading) : letters <:+: source.toList :=
  (List.prefix_append letters _).isInfix.trans behind.ends.isInfix

/-- What is known about groups does not count. -/
theorem Behind.congr {other : Reading} (behind : Behind source letters reading)
    (text : other.text = reading.text) (flags : other.flags = reading.flags)
    (left : other.left = reading.left) : Behind source letters other := by
  obtain ⟨⟨isText, alphabets⟩, ends⟩ := behind
  rw [← text] at isText
  rw [← flags] at alphabets
  rw [← left] at ends
  exact ⟨⟨isText, alphabets⟩, ends⟩

/-- A step that goes on within a text does so behind any letters. -/
theorem Leads.within {behind : α → Reading → Prop}
    (leads : Leads source (Behind source []) step behind) :
    Leads source (Behind source letters) step behind :=
  leads.conseq (fun _ holds => holds.within) fun _ _ holds => holds

theorem keeps_pure (value : α) : Keeps source (pure value) := leads_pure fun _ holds => holds

theorem Keeps.bind {next : α → Read β} (keeps : Keeps source step)
    (onward : ∀ value, Keeps source (next value)) : Keeps source (step >>= next) :=
  Leads.bind keeps onward

/-- A step that is only taken on a condition stands before the steps behind it. -/
theorem Keeps.whenBind {condition : Prop} [Decidable condition] {only : Read PUnit}
    {next : PUnit → Read β} (keeps : condition → Keeps source only)
    (onward : ∀ value, Keeps source (next value)) :
    Keeps source (if condition then only >>= next else next ⟨⟩) :=
  .ite (fun holds => (keeps holds).bind onward) fun _ => onward ⟨⟩

end Letters

namespace Read

section Tokens

variable {α : Type} {source : String} {letters : List Char}

theorem leads_next : Leads source (Behind source letters) next fun token reading =>
    Behind source letters reading ∧ reading.upcoming = token :=
  leads_get.bind fun _ => leads_pure fun _ ⟨behind, same⟩ => ⟨behind, same ▸ rfl⟩

/-- The token at the index comes next: what is left starts at the index. -/
theorem leads_fetch_known : Leads source (fun reading => Known source reading ∧
      letters ++ source.toList.drop reading.index <:+ source.toList) fetch
    fun _ => Behind source letters := by
  refine leads_get.bind fun known => ?_
  have fetched {reached : Reading} (holds : Known source known ∧
      letters ++ source.toList.drop known.index <:+ source.toList)
      (text : reached.text = known.text) (flags : reached.flags = known.flags)
      (left : reached.left = known.text.toList.drop known.index) :
      Behind source letters reached := by
    obtain ⟨⟨isText, alphabets⟩, ends⟩ := holds
    rw [← flags] at alphabets
    rw [← isText, ← left] at ends
    exact ⟨⟨text ▸ isText, alphabets⟩, isText ▸ ends⟩
  have dropped {index : Nat} {letter : Char} (present : known.text[index]? = some letter) :
      known.text.toList.drop index = letter :: known.text.toList.drop (index + 1) := by
    rw [← Array.getElem?_toList] at present
    obtain ⟨inside, rfl⟩ := List.getElem?_eq_some_iff.mp present
    exact List.drop_eq_getElem_cons inside
  split
  · refine leads_set fun reading holds => ?_
    obtain ⟨holds, rfl⟩ := holds
    exact fetched holds rfl rfl rfl
  · next present =>
    split
    · exact leads_throw fun _ _ => .flaw _ _
    · next letter after =>
      refine leads_set fun reading holds => ?_
      obtain ⟨holds, rfl⟩ := holds
      refine fetched holds rfl rfl ?_
      rw [dropped present, dropped after]
      exact congrArg (· ++ _) String.toList_ofList
  · next letter _ present =>
    refine leads_set fun reading holds => ?_
    obtain ⟨holds, rfl⟩ := holds
    refine fetched holds rfl rfl ?_
    rw [dropped present]
    exact congrArg (· ++ _) (String.toList_singleton letter)

/-- The token that came next stands before what is left once another one is fetched. -/
theorem leads_fetch {token : Option String} :
    Leads source (fun reading => Behind source letters reading ∧ reading.upcoming = token) fetch
      fun _ => Behind source (letters ++ lettersOf token) := by
  refine leads_fetch_known.conseq ?_ fun _ _ holds => holds
  rintro reading ⟨behind, rfl⟩
  refine ⟨behind.toKnown, ?_⟩
  rw [List.append_assoc]
  have ends := behind.ends
  unfold Reading.left at ends
  rwa [behind.text] at ends

/-- A token that is taken stands before what is left. -/
theorem leads_take : Leads source (Behind source letters) take fun token =>
    Behind source (letters ++ lettersOf token) :=
  leads_next.bind fun _ => leads_fetch.bind fun _ => leads_pure fun _ holds => holds

/-- A token that is accepted stands before what is left. -/
theorem leads_accept (token : String) :
    Leads source (Behind source letters) (accept token) fun accepted =>
      Behind source (if accepted = true then letters ++ token.toList else letters) := by
  refine leads_next.bind fun found => Leads.ite (fun same => ?_) fun _ => ?_
  · rw [beq_iff_eq] at same
    subst same
    exact leads_fetch.bind fun _ => leads_pure fun _ holds => holds
  · exact leads_pure fun _ holds => holds.1

theorem keeps_take : Keeps source take := leads_take.conseq (fun _ holds => holds) fun _ _ holds =>
  holds.within

theorem keeps_accept (token : String) : Keeps source (accept token) :=
  (leads_accept token).conseq (fun _ holds => holds) fun _ _ holds => holds.within

theorem keeps_fetch : Keeps source fetch := by
  intro reading holds
  have led := leads_fetch reading ⟨holds, rfl⟩
  split at led
  · exact led.within
  · exact led

/-- Letters of a class that are taken stand before what is left. -/
theorem leads_takeWhile (member : Char → Bool) (count : Nat) :
    Leads source (Behind source letters) (takeWhile member count) fun read reading =>
      Behind source (letters ++ read.toList) reading ∧ read.toList.all member = true := by
  induction count generalizing letters with
  | zero => exact leads_pure fun _ holds => ⟨by simpa using holds, rfl⟩
  | succ count ih =>
    have stop : Leads source (Behind source letters) (pure "") fun read reading =>
        Behind source (letters ++ read.toList) reading ∧ read.toList.all member = true :=
      leads_pure fun _ holds => ⟨by simpa using holds, rfl⟩
    refine leads_next.bind fun token => ?_
    split
    · next letter isLetter =>
      refine Leads.ite (fun isMember => ?_) fun _ => stop.conseq (fun _ holds => holds.1)
        fun _ _ holds => holds
      have letters_eq : lettersOf token = [letter] := by
        unfold lettersOf
        rw [isLetter]
        rfl
      refine leads_fetch.bind fun _ => ih.bind fun rest => leads_pure fun reading holds => ?_
      rw [letters_eq] at holds
      have whole : (letter.toString ++ rest).toList = letter :: rest.toList :=
        String.toList_append.trans (congrArg (· ++ _) (String.toList_singleton letter))
      rw [whole, List.all_cons, isMember, List.append_cons]
      exact holds
    · exact stop.conseq (fun _ holds => holds.1) fun _ _ holds => holds

theorem keeps_takeWhile (member : Char → Bool) (count : Nat) :
    Keeps source (takeWhile member count) :=
  (leads_takeWhile member count).conseq (fun _ holds => holds) fun _ _ holds => holds.1.within

end Tokens

/-! ### Steps that go on within a text -/

section Within

variable {α β : Type} {source : String} {before : Reading → Prop} {behind : α → Reading → Prop}

theorem leads_next_bind {onward : Option String → Read α}
    (leads : ∀ token, Leads source before (onward token) behind) :
    Leads source before (next >>= onward) behind := by
  unfold next
  rw [bind_assoc]
  exact leads_get_bind fun known => leads known.upcoming

theorem leads_position : Leads source before position fun _ => before :=
  leads_get.bind fun _ => leads_get.bind fun _ => leads_pure fun _ holds => holds.1.1

/-- Nothing comes behind a refusal, which tells a flaw. -/
theorem leads_refuse (complaint : Complaint) (offset : Nat) :
    Leads source before (refuse complaint offset) behind :=
  leads_position.bind fun _ => leads_throw fun _ _ => .flaw _ _

theorem leads_refuseHere (complaint : Complaint) :
    Leads source before (refuseHere complaint) behind := leads_refuse complaint 0

theorem leads_refuse_bind {complaint : Complaint} {offset : Nat} {onward : β → Read α} :
    Leads source before (refuse complaint offset >>= onward) behind :=
  Leads.bind (leads_refuse complaint offset : Leads source before _ fun _ _ => False)
    fun _ _ never => never.elim

theorem keeps_goTo (place : Nat) : Keeps source (goTo place) :=
  (leads_modify fun _ holds => ⟨⟨holds.text, holds.alphabets⟩,
    List.drop_suffix place source.toList⟩).bind fun _ => leads_fetch_known

/-- A change of what is known about groups and looks to the left. -/
theorem keeps_modify {change : Reading → Reading}
    (text : ∀ reading, (change reading).text = reading.text)
    (flags : ∀ reading, (change reading).flags = reading.flags)
    (left : ∀ reading, (change reading).left = reading.left) :
    Keeps source (modify change : Read Unit) :=
  leads_modify fun reading holds => holds.congr (text reading) (flags reading) (left reading)

theorem keeps_takeUntil (close what read : String) (count : Nat) :
    Keeps source (takeUntil close what read count) := by
  induction count generalizing read with
  | zero => exact keeps_pure _
  | succ count ih =>
    refine keeps_take.bind fun token => ?_
    split
    · exact Leads.ite (fun _ => leads_refuseHere _) fun _ => leads_refuse _ _
    · exact Leads.ite (fun _ => Leads.ite (fun _ => leads_refuse _ _) fun _ => keeps_pure _)
        fun _ => ih _

theorem keeps_takeName (close what : String) : Keeps source (takeName close what) :=
  leads_get_bind fun _ => keeps_takeUntil _ _ _ _

theorem keeps_groupCount : Keeps source groupCount := leads_get_bind fun _ => keeps_pure _

theorem keeps_isClosed (group : Nat) : Keeps source (isClosed group) :=
  leads_get_bind fun _ => keeps_pure _

theorem keeps_groupNamed? (name : String) : Keeps source (groupNamed? name) :=
  leads_get_bind fun _ => keeps_pure _

theorem keeps_openGroup (name : Option String) : Keeps source (openGroup name) := by
  refine leads_get.bind fun known => ?_
  have opened (widths : List (Option Width)) (names : List (String × Nat)) :
      Leads source (fun reading => Behind source [] reading ∧ known = reading)
        (set { known with widths := widths, names := names } : Read Unit)
        fun _ => Behind source [] := by
    refine leads_set fun reading holds => ?_
    obtain ⟨holds, rfl⟩ := holds
    exact holds.congr rfl rfl rfl
  split
  · exact (opened _ _).bind fun _ => keeps_pure _
  · split
    · exact leads_refuse_bind
    · exact (opened _ _).bind fun _ => keeps_pure _

theorem keeps_closeGroup (group : Nat) (body : List Node) : Keeps source (closeGroup group body) :=
  keeps_modify (fun _ => rfl) (fun _ => rfl) fun _ => rfl

theorem keeps_checkLookbehind (group : Nat) : Keeps source (checkLookbehind group) := by
  refine leads_get_bind fun known => ?_
  split
  · exact keeps_pure _
  · have onward (first : Nat) : Keeps source
        (if first ≤ group then refuseHere .sameLookbehind else pure ()) :=
      Leads.ite (fun _ => leads_refuseHere _) fun _ => keeps_pure _
    exact (keeps_isClosed group).bind fun closed => Leads.ite (fun _ => onward _) fun _ =>
      leads_refuse_bind

theorem keeps_checkName (name : String) (offset : Nat) : Keeps source (checkName name offset) :=
  Leads.ite (fun _ => keeps_pure _) fun _ => leads_refuse _ _

end Within

end Read

end FleetSchema.Pattern
