/-
**From a text to a pattern.**

A pattern is a choice of sequences. Each sequence is read token by token; a repetition takes the
node before it, a group reads a choice of its own. A choice whose members begin alike is read as
the common beginning and a shorter choice, and a choice of single characters is one set.

* `parse`: the nodes of a pattern, with its switches and the widths of its groups.
-/

import FleetSchema.Pattern.Reader
import FleetSchema.Pattern.CharacterName

namespace FleetSchema.Pattern

/-- The number of rounds from which on a repetition is refused. -/
def roundLimit : Nat := 4294967295

/-- The number from which on a group number is refused. -/
def groupLimit : Nat := 1073741823

/-! ### Characters -/

/-- A hexadecimal digit. -/
def isHexDigit (letter : Char) : Bool :=
  letter.isDigit || ('a' ≤ letter && letter ≤ 'f') || ('A' ≤ letter && letter ≤ 'F')

/-- An octal digit. -/
def isOctalDigit (letter : Char) : Bool := '0' ≤ letter && letter ≤ '7'

/-- A letter of ASCII. -/
def isAsciiLetter (letter : Char) : Bool := letter.isAlpha

/-- The value of digits in a base. -/
def valueInBase (base : Nat) (digits : List Char) : Nat :=
  digits.foldl
    (fun value digit =>
      value * base +
        (if digit.isDigit then digit.toNat - 48 else digit.toLower.toNat - 87)) 0

/-- The characters with an escape of one letter. -/
def plainEscape? : String → Option Nat
  | "\\a" => some 7
  | "\\b" => some 8
  | "\\f" => some 12
  | "\\n" => some 10
  | "\\r" => some 13
  | "\\t" => some 9
  | "\\v" => some 11
  | "\\\\" => some 92
  | _ => none

/-- The classes with an escape of one letter. -/
def classEscape? : String → Option SetItem
  | "\\d" => some (.kind .digit false)
  | "\\D" => some (.kind .digit true)
  | "\\s" => some (.kind .blank false)
  | "\\S" => some (.kind .blank true)
  | "\\w" => some (.kind .word false)
  | "\\W" => some (.kind .word true)
  | _ => none

/-- The anchors with an escape of one letter. -/
def anchorEscape? : String → Option Anchor
  | "\\A" => some .textStart
  | "\\b" => some .boundary
  | "\\B" => some .noBoundary
  | "\\Z" => some .textEnd
  | _ => none

/-- Read the digits of a hexadecimal escape. -/
def readHexEscape (escape : String) (count : Nat) : Read Nat := do
  let digits ← Read.takeWhile isHexDigit count
  let whole := escape ++ digits
  if digits.length != count then Read.refuse (.incompleteEscape whole) whole.length
  else
    let point := valueInBase 16 digits.toList
    if 0x10ffff < point then Read.refuse (.badEscape whole) whole.length else return point

/-- Read the name of a character. -/
def readNamedCharacter : Read Nat := do
  unless ← Read.accept "\x7b" do Read.refuseHere .missingBrace
  let name ← Read.takeName "\x7d" "character name"
  match characterNamed? name with
  | some point => return point
  | none => Read.refuse (.undefinedCharacter name) (name.length + 4)

/-- Read an escape that stands for one character, once the shorter readings have failed. -/
def readCharacterEscape (escape : String) (letter : Char) : Read Nat := do
  if letter == 'x' then readHexEscape escape 2
  else if letter == 'u' then readHexEscape escape 4
  else if letter == 'U' then readHexEscape escape 8
  else if letter == 'N' then readNamedCharacter
  else if isAsciiLetter letter || letter.isDigit then Read.refuse (.badEscape escape) escape.length
  else return letter.toNat

/-- The character behind the backslash of a token. -/
def escaped (token : String) : Char := (token.toList[1]?).getD '\\'

/-- Whether a token is an escape. -/
def isEscape (token : String) : Bool := token.front == '\\'

/-- Read an escape inside a set. -/
def readSetEscape (escape : String) : Read SetItem := do
  match plainEscape? escape, classEscape? escape with
  | some point, _ => return .code point
  | none, some item => return item
  | none, none =>
    let letter := escaped escape
    if isOctalDigit letter then
      let whole := escape ++ (← Read.takeWhile isOctalDigit 2)
      let point := valueInBase 8 (whole.toList.drop 1)
      if 0o377 < point then Read.refuse (.octalTooLarge whole) whole.length
      else return .code point
    else return .code (← readCharacterEscape escape letter)

/-- Read a reference to a group by its number. -/
def readReference (escape : String) : Read Node := do
  let group := valueInBase 10 (escape.toList.drop 1)
  if group < (← Read.groupCount) then
    unless ← Read.isClosed group do Read.refuse .openGroup escape.length
    Read.checkLookbehind group
    return .reference group
  else Read.refuse (.invalidReference group) (escape.length - 1)

/-- Read an escape outside sets: three octal digits are a character, fewer digits a group. -/
def readEscape (escape : String) : Read Node := do
  match classEscape? escape, anchorEscape? escape, plainEscape? escape with
  | some item, _, _ => return .set false [item]
  | none, some anchor, _ => return .anchor anchor
  | none, none, some point => return .literal point
  | none, none, none =>
    let letter := escaped escape
    if letter == '0' then
      let whole := escape ++ (← Read.takeWhile isOctalDigit 2)
      return .literal (valueInBase 8 (whole.toList.drop 1))
    else if letter.isDigit then
      let second ← Read.takeWhile Char.isDigit 1
      if second.isEmpty then readReference escape
      else if (letter :: second.toList).all isOctalDigit then
        let third ← Read.takeWhile isOctalDigit 1
        if third.isEmpty then readReference (escape ++ second)
        else
          let whole := escape ++ second ++ third
          let point := valueInBase 8 (whole.toList.drop 1)
          if 0o377 < point then Read.refuse (.octalTooLarge whole) whole.length
          else return .literal point
      else readReference (escape ++ second)
    else return .literal (← readCharacterEscape escape letter)

/-! ### Sets -/

/-- Add an item to a set unless it is there. -/
def addItem (items : List SetItem) (item : SetItem) : List SetItem :=
  if items.contains item then items else items ++ [item]

/-- The code point of a token of one character. -/
def pointOf (token : String) : Nat := token.front.toNat

/-- Read one end of an item of a set. -/
def readSetMember (token : String) : Read SetItem :=
  if isEscape token then readSetEscape token else return .code (pointOf token)

/-- Read the items of a set that opened at a place, up to its bracket. The first item may be a
closing bracket. -/
def readSetItems (opened : Nat) (items : List SetItem) : Nat → Read (List SetItem)
  | 0 => return items
  | fuel + 1 => do
    match ← Read.take with
    | none => Read.refuse .unterminatedSet ((← Read.position) - opened)
    | some low =>
      if low == "]" && !items.isEmpty then return items
      else
        let first ← readSetMember low
        if ← Read.accept "-" then
          match ← Read.take with
          | none => Read.refuse .unterminatedSet ((← Read.position) - opened)
          | some high =>
            if high == "]" then return addItem (addItem items first) (.code 45)
            else
              let second ← readSetMember high
              let offset := low.length + 1 + high.length
              match first, second with
              | .code from_, .code to_ =>
                if to_ < from_ then Read.refuse (.badRange low high) offset
                else readSetItems opened (addItem items (.range from_ to_)) fuel
              | _, _ => Read.refuse (.badRange low high) offset
        else readSetItems opened (addItem items first) fuel

/-- Read a set behind its opening bracket; a set of one character is that character. -/
def readSet : Read Node := do
  let opened := (← Read.position) - 1
  let negated ← Read.accept "^"
  let items ← readSetItems opened [] ((← get).text.size + 1)
  match items with
  | [.code point] => return if negated then .exceptLiteral point else .literal point
  | _ => return .set negated items

/-! ### Repetitions -/

/-- The rounds that a repetition asks for. -/
structure Rounds where
  least : Nat
  most : Option Nat

/-- The number of rounds that digits write. -/
def readRounds (digits : String) : Read Nat := do
  if Numeral.digitLimit < digits.length then throw (.numeralTooLong digits.length)
  let rounds := valueInBase 10 digits.toList
  if roundLimit ≤ rounds then throw .tooManyRounds
  return rounds

/-- Read the bounds of a repetition behind its opening brace; anything that is no pair of bounds
leaves the brace a character. -/
def readBounds (start : Nat) : Read (Option Rounds) := do
  if (← Read.next) == some "\x7d" then return none
  let room := (← get).text.size
  let low ← Read.takeWhile Char.isDigit room
  let high ←
    if ← Read.accept "," then Read.takeWhile Char.isDigit room else pure low
  if !(← Read.accept "\x7d") then
    Read.goTo start
    return none
  let least ← readRounds low
  if high.isEmpty then return some ⟨least, none⟩
  let most ← readRounds high
  if most < least then Read.refuse .leastAboveMost ((← Read.position) - start)
  return some ⟨least, some most⟩

/-- What a repetition repeats: a plain group gives its body. -/
def repeated : Node → List Node
  | .group none added removed body =>
    if added.isNone && removed.isNone then body else [.group none added removed body]
  | node => [node]

/-- Read the mark behind a repetition that says how it tries its rounds. -/
def readGreed : Read Greed := do
  if ← Read.accept "?" then
    return .lazy
  if ← Read.accept "+" then
    return .possessive
  return .greedy

/-- Repeat the last node read; the nodes read stand in reverse order. -/
def repeatLast (start : Nat) (token : String) (rounds : Rounds) (read : List Node) :
    Read (List Node) := do
  let offset := (← Read.position) - start + token.length
  match read with
  | [] => Read.refuse .nothingToRepeat offset
  | .anchor _ :: _ => Read.refuse .nothingToRepeat offset
  | .loop .. :: _ => Read.refuse .multipleRepeat offset
  | last :: before =>
    let greed ← readGreed
    return .loop greed rounds.least rounds.most (repeated last) :: before

/-! ### Switches -/

/-- The switch of a letter, when it has one. -/
def flag? : String → Option Flags
  | "i" => some { ignoreCase := true }
  | "L" => some {}
  | "m" => some { multiline := true }
  | "s" => some { dotAll := true }
  | "x" => some { verbose := true }
  | "a" => some { ascii := true }
  | "t" => some { template := true }
  | "u" => some { unicode := true }
  | _ => none

/-- Whether a token is one letter. -/
def isLetterToken (token : String) : Bool := token.toList.all Text.isLetter

/-- Read the letters that turn switches on; the answer is the switches and the token behind. -/
def readFlagsOn (flags : Flags) (letter : String) : Nat → Read (Flags × String)
  | 0 => return (flags, letter)
  | fuel + 1 => do
    if letter == "L" then Read.refuseHere .localeFlag
    let flags := flags.union ((flag? letter).getD {})
    if flags.ascii && flags.unicode then Read.refuseHere .alphabetConflict
    match ← Read.take with
    | none => Read.refuseHere .missingColonOrClose
    | some token =>
      if token == ")" || token == "-" || token == ":" then return (flags, token)
      else if (flag? token).isNone then
        Read.refuse (if isLetterToken token then .unknownFlag else .missingColonOrClose)
          token.length
      else readFlagsOn flags token fuel

/-- Read the letters that turn switches off, up to the colon. -/
def readFlagsOff (flags : Flags) (letter : String) : Nat → Read Flags
  | 0 => return flags
  | fuel + 1 => do
    if letter == "L" || letter == "a" || letter == "u" then Read.refuseHere .alphabetOff
    let flags := flags.union ((flag? letter).getD {})
    match ← Read.take with
    | none => Read.refuseHere .missingColon
    | some token =>
      if token == ":" then return flags
      else if (flag? token).isNone then
        Read.refuse (if isLetterToken token then .unknownFlag else .missingColon) token.length
      else readFlagsOff flags token fuel

/-- Read the switches behind a question mark. No answer means that they hold for the whole
pattern. -/
def readFlags (token : String) : Read (Option (Flags × Flags)) := do
  let room := (← get).text.size + 1
  let (added, close) ← if token == "-" then pure ({}, "-") else readFlagsOn {} token room
  if close == ")" then
    modify fun reading => { reading with flags := reading.flags.union added }
    return none
  if added.template then Read.refuse .globalFlagOn 1
  let removed ←
    if close == "-" then
      match ← Read.take with
      | none => Read.refuseHere .missingFlag
      | some letter =>
        if (flag? letter).isNone then
          Read.refuse (if isLetterToken letter then .unknownFlag else .missingFlag) letter.length
        else readFlagsOff {} letter room
    else pure {}
  if removed.template then Read.refuse .globalFlagOff 1
  if !(added.inter removed).isNone then Read.refuse .flagOnAndOff 1
  return some (added, removed)

/-! ### Choices -/

/-- The common first node of all members of a choice. -/
def commonFirst? : List (List Node) → Option Node
  | [] => none
  | [] :: _ => none
  | (first :: _) :: others =>
    if others.all fun other => (other.head?.map first.same).getD false then some first else none

/-- Take the common beginning of a choice out of its members. -/
def factor (members : List (List Node)) : Nat → List Node × List (List Node)
  | 0 => ([], members)
  | fuel + 1 =>
    match commonFirst? members with
    | none => ([], members)
    | some first =>
      let (rest, left) := factor (members.map (·.drop 1)) fuel
      (first :: rest, left)

/-- The set that a choice of single characters amounts to. -/
def choiceSet? : List (List Node) → Option (List SetItem)
  | [] => some []
  | [.literal point] :: others => (choiceSet? others).map (.code point :: ·)
  | [.set false items] :: others => (choiceSet? others).map (items ++ ·)
  | _ => none

/-- The nodes of a choice. -/
def choice (members : List (List Node)) : List Node :=
  match members with
  | [single] => single
  | _ =>
    let (start, rest) := factor members ((members.head?.map List.length).getD 0)
    match choiceSet? rest with
    | some items => start ++ [.set false (items.foldl addItem [])]
    | none => start ++ [.branch rest]

/-- Put the bodies of plain groups in their place. -/
def unpack (nodes : List Node) : List Node :=
  nodes.flatMap fun node =>
    match node with
    | .group none added removed body =>
      if added.isNone && removed.isNone then body else [node]
    | _ => [node]

/-! ### Groups and sequences -/

/-- What a parenthesis opens. -/
inductive Opening where
  | capture (name : Option String)
  | plain (added removed : Flags)
  | atomic
  | look (ahead positive : Bool)
  | conditional (group : Nat)
  | done (node : Option Node)

/-- Skip a comment up to its parenthesis. -/
def skipComment (start : Nat) : Nat → Read Unit
  | 0 => return
  | fuel + 1 => do
    match ← Read.next with
    | none => Read.refuse .unterminatedComment ((← Read.position) - start)
    | some token =>
      Read.fetch
      if token == ")" then return else skipComment start fuel

/-- Skip a comment up to the end of its line. -/
def skipLine : Nat → Read Unit
  | 0 => return
  | fuel + 1 => do
    match ← Read.take with
    | none => return
    | some token => if token == "\n" then return else skipLine fuel

/-- Read what stands behind an opening `(?P`. -/
def readNamedOpening : Read Opening := do
  if ← Read.accept "<" then
    let name ← Read.takeName ">" "group name"
    Read.checkName name 1
    return .capture (some name)
  else if ← Read.accept "=" then
    let name ← Read.takeName ")" "group name"
    Read.checkName name 1
    match ← Read.groupNamed? name with
    | none => Read.refuse (.unknownName name) (name.length + 1)
    | some group =>
      unless ← Read.isClosed group do Read.refuse .openGroup (name.length + 1)
      Read.checkLookbehind group
      return .done (some (.reference group))
  else
    match ← Read.take with
    | none => Read.refuseHere .unexpectedEnd
    | some token => Read.refuse (.unknownExtension ("P" ++ token)) (token.length + 2)

/-- Read the group that a condition asks about, by name or by number. -/
def readCondition : Read Nat := do
  let name ← Read.takeName ")" "group name"
  let group ←
    if Text.isName name then
      match ← Read.groupNamed? name with
      | none => Read.refuse (.unknownName name) (name.length + 1)
      | some group => pure group
    else
      match Numeral.integer? name with
      | none => Read.refuse (.badName name) (name.length + 1)
      | some number =>
        if number < 0 then Read.refuse (.badName name) (name.length + 1)
        else if number == 0 then Read.refuse .badGroupNumber (name.length + 1)
        else
          let group := number.toNat
          if groupLimit ≤ group then Read.refuse (.invalidReference group) (name.length + 1)
          else
            let place := (← Read.position) - name.length - 1
            modify fun reading =>
              if reading.conditions.any (·.1 == group) then reading
              else { reading with conditions := reading.conditions ++ [(group, place)] }
            pure group
  Read.checkLookbehind group
  return group

/-- Read what stands behind an opening parenthesis. Switches for the whole pattern may stand only
where nothing has been read. -/
def readOpening (start : Nat) (atStart : Bool) : Read Opening := do
  if !(← Read.accept "?") then return .capture none
  match ← Read.take with
  | none => Read.refuseHere .unexpectedEnd
  | some "P" => readNamedOpening
  | some ":" => return .plain {} {}
  | some "#" =>
    skipComment start ((← get).text.size + 1)
    return .done none
  | some "=" => return .look true true
  | some "!" => return .look true false
  | some "<" =>
    match ← Read.take with
    | none => Read.refuseHere .unexpectedEnd
    | some "=" => return .look false true
    | some "!" => return .look false false
    | some token => Read.refuse (.unknownExtension ("<" ++ token)) (token.length + 2)
  | some "(" => return .conditional (← readCondition)
  | some ">" => return .atomic
  | some token =>
    if (flag? token).isSome || token == "-" then
      match ← readFlags token with
      | some (added, removed) => return .plain added removed
      | none =>
        unless atStart do Read.refuse .lateFlags ((← Read.position) - start)
        return .done none
    else Read.refuse (.unknownExtension token) (token.length + 1)

/-- A blank that a verbose pattern skips. -/
def isSkipped (token : String) : Bool :=
  [" ", "\t", "\n", "\r", "\x0b", "\x0c"].contains token

/-- Read the parenthesis that closes a group opened at a place. -/
def closeParenthesis (start : Nat) : Read Unit := do
  unless ← Read.accept ")" do
    Read.refuse .unterminatedGroup ((← Read.position) - start)

mutual

/-- Read a choice of sequences; `fuel` bounds the tokens left and the depth of groups. -/
def readChoice (verbose nested : Bool) (fuel : Nat) : Read (List Node) := do
  match fuel with
  | 0 => return []
  | fuel + 1 => return choice (← readMembers verbose nested true fuel)

/-- Read the members of a choice. -/
def readMembers (verbose nested first : Bool) (fuel : Nat) : Read (List (List Node)) := do
  match fuel with
  | 0 => return []
  | fuel + 1 =>
    let member ← readSequence verbose (!nested && first) [] fuel
    if ← Read.accept "|" then
      let switched := (← get).flags.verbose
      return member :: (← readMembers (if nested then verbose else switched) nested false fuel)
    else return [member]

/-- Read a sequence; the nodes read so far stand in reverse order. -/
def readSequence (verbose first : Bool) (read : List Node) (fuel : Nat) : Read (List Node) := do
  match fuel with
  | 0 => return unpack read.reverse
  | fuel + 1 =>
    match ← Read.next with
    | none => return unpack read.reverse
    | some "|" => return unpack read.reverse
    | some ")" => return unpack read.reverse
    | some token =>
      Read.fetch
      if verbose && isSkipped token then readSequence verbose first read fuel
      else if verbose && token == "#" then
        skipLine ((← get).text.size + 1)
        readSequence verbose first read fuel
      else if isEscape token then
        let node ← readEscape token
        readSequence verbose first (node :: read) fuel
      else
        match token with
        | "[" =>
          let node ← readSet
          readSequence verbose first (node :: read) fuel
        | "." => readSequence verbose first (.any :: read) fuel
        | "^" => readSequence verbose first (.anchor .lineStart :: read) fuel
        | "$" => readSequence verbose first (.anchor .lineEnd :: read) fuel
        | "?" =>
          let read ← repeatLast (← Read.position) token ⟨0, some 1⟩ read
          readSequence verbose first read fuel
        | "*" =>
          let read ← repeatLast (← Read.position) token ⟨0, none⟩ read
          readSequence verbose first read fuel
        | "+" =>
          let read ← repeatLast (← Read.position) token ⟨1, none⟩ read
          readSequence verbose first read fuel
        | "\x7b" =>
          let start ← Read.position
          match ← readBounds start with
          | none => readSequence verbose first (.literal (pointOf token) :: read) fuel
          | some rounds =>
            let read ← repeatLast start token rounds read
            readSequence verbose first read fuel
        | "(" =>
          let start := (← Read.position) - 1
          let (node, verbose) ← readGroup verbose start (first && read.isEmpty) fuel
          readSequence verbose first (node.toList ++ read) fuel
        | _ => readSequence verbose first (.literal (pointOf token) :: read) fuel

/-- Read a group behind its opening parenthesis: its node, if it leaves one, and whether the
sequence goes on verbosely. -/
def readGroup (verbose : Bool) (start : Nat) (atStart : Bool) (fuel : Nat) :
    Read (Option Node × Bool) := do
  match fuel with
  | 0 => return (none, verbose)
  | fuel + 1 =>
    match ← readOpening start atStart with
    | .done node =>
      let switched := (← get).flags.verbose
      return (node, verbose || (node.isNone && atStart && switched))
    | .capture name =>
      let group ← Read.openGroup name
      let body ← readChoice verbose true fuel
      closeParenthesis start
      Read.closeGroup group body
      return (some (.group (some group) {} {} body), verbose)
    | .plain added removed =>
      let inside := (verbose || added.verbose) && !removed.verbose
      let body ← readChoice inside true fuel
      closeParenthesis start
      return (some (.group none added removed body), verbose)
    | .atomic =>
      let body ← readChoice verbose true fuel
      closeParenthesis start
      return (some (.atomic body), verbose)
    | .look ahead positive =>
      let outer := (← get).lookbehind
      if !ahead && outer.isNone then
        modify fun reading => { reading with lookbehind := some reading.widths.length }
      let body ← readChoice verbose true fuel
      if !ahead && outer.isNone then
        modify fun reading => { reading with lookbehind := none }
      closeParenthesis start
      return (some (.look ahead positive body), verbose)
    | .conditional group =>
      let yes ← readSequence verbose false [] fuel
      let no ←
        if ← Read.accept "|" then
          let no ← readSequence verbose false [] fuel
          if (← Read.next) == some "|" then Read.refuseHere .tooManyBranches
          pure no
        else pure []
      closeParenthesis start
      return (some (.conditional group yes no), verbose)

end

/-! ### The whole pattern -/

/-- A pattern as read: its nodes, its switches and the widths of its groups. -/
structure Parsed where
  nodes : List Node
  flags : Flags
  widths : List (Option Width)

/-- Read a whole pattern. Conditions may ask about groups behind them, so that their groups are
checked at the end. -/
def readPattern : Read Parsed := do
  Read.fetch
  let nodes ← readChoice false false (4 * (← get).text.size + 4)
  let flags := (← get).flags
  if flags.ascii && flags.unicode then throw .bothAlphabets
  if (← Read.next).isSome then Read.refuseHere .unbalanced
  let count ← Read.groupCount
  match (← get).conditions.find? fun condition => count ≤ condition.1 with
  | some (group, place) => throw (.malformed (.invalidReference group) (some place))
  | none => return ⟨nodes, flags, (← get).widths⟩

/-- The pattern that a text writes. -/
def parse (text : String) : Except Refusal Parsed :=
  (readPattern.run ⟨text.toList.toArray, 0, none, {}, [], [none], none, []⟩).map (·.1)

end FleetSchema.Pattern
