/-
**Runs that differ in what files hold.**

Two runs can go hand in hand although some files hold other bytes in the one than in the other: where
a path leads, which directories are made and under which number a file is created depend on where
files are, and not on their bytes.

* `FileTree.Alike`: trees with the same directories and files, whose bytes are related;
* `FileTree.Alike.locate`, `makeDirectories`, `createFresh`, `fill`: what is decided about such trees
  is decided alike;
* `Session.Alike`: sessions that are equal up to such trees;
* `Action.Agrees`: two actions that lead from such sessions to such sessions, with the same outcome,
  and so do actions composed of such actions.
-/

import FleetSchema.Proofs.Files.Written

namespace FleetSchema

/-- Outcomes that are alike: the same fault, or values that are related. -/
inductive OutcomesAlike {ε α β : Type} (related : α → β → Prop) : Except ε α → Except ε β → Prop
  | error (fault : ε) : OutcomesAlike related (.error fault) (.error fault)
  | ok {value : α} {other : β} (alike : related value other) :
    OutcomesAlike related (.ok value) (.ok other)

theorem OutcomesAlike.mono {ε α β : Type} {related wider : α → β → Prop} {outcome : Except ε α}
    {other : Except ε β} (alike : OutcomesAlike related outcome other)
    (widens : ∀ value another, related value another → wider value another) :
    OutcomesAlike wider outcome other := by
  cases alike with
  | error fault => exact .error fault
  | ok both => exact .ok (widens _ _ both)

theorem OutcomesAlike.eq_error_or_eq_ok {ε α β : Type} {related : α → β → Prop}
    {outcome : Except ε α} {other : Except ε β} (alike : OutcomesAlike related outcome other) :
    (∃ fault, outcome = .error fault ∧ other = .error fault) ∨
      ∃ value another, related value another ∧ outcome = .ok value ∧ other = .ok another := by
  cases alike with
  | error fault => exact Or.inl ⟨fault, rfl, rfl⟩
  | ok both => exact Or.inr ⟨_, _, both, rfl, rfl⟩

section Alike

variable {related : List UInt8 → List UInt8 → Prop}

/-! ### Trees -/

/-- Two directories, or two files with related bytes, under the same permissions. -/
inductive Entry.Alike (related : List UInt8 → List UInt8 → Prop) : Entry → Entry → Prop
  | directory (mode : Nat) : Alike related (.directory mode) (.directory mode)
  | file (mode : Nat) {bytes other : List UInt8} (alike : related bytes other) :
    Alike related (.file mode bytes) (.file mode other)

namespace FileTree

/-- Two trees with the same directories and files. The files of the one hold bytes that are related
to those of the other. -/
structure Alike (related : List UInt8 → List UInt8 → Prop) (first second : FileTree) : Prop where
  home : first.home = second.home
  size : first.entries.length = second.entries.length
  found : ∀ place, Option.Rel (Entry.Alike related) (first.find? place) (second.find? place)

variable {first second : FileTree}

theorem Alike.refl (all : ∀ bytes, related bytes bytes) (tree : FileTree) :
    tree.Alike related tree := by
  refine ⟨rfl, rfl, fun place => ?_⟩
  cases tree.find? place with
  | none => exact .none
  | some entry =>
    cases entry with
    | directory mode => exact .some (.directory mode)
    | file mode bytes => exact .some (.file mode (all bytes))

namespace Alike

/-! ### Where paths lead -/

/-- At a place of both trees there is nothing, a directory, or a file. -/
theorem found_cases (alike : first.Alike related second) (place : Place) :
    (first.find? place = none ∧ second.find? place = none) ∨
      (∃ mode, first.find? place = some (.directory mode) ∧
        second.find? place = some (.directory mode)) ∨
      ∃ mode bytes other, related bytes other ∧ first.find? place = some (.file mode bytes) ∧
        second.find? place = some (.file mode other) := by
  have found := alike.found place
  generalize first.find? place = one at found ⊢
  generalize second.find? place = another at found ⊢
  cases found with
  | none => exact Or.inl ⟨rfl, rfl⟩
  | some entries =>
    cases entries with
    | directory mode => exact Or.inr (Or.inl ⟨mode, rfl, rfl⟩)
    | file mode both => exact Or.inr (Or.inr ⟨mode, _, _, both, rfl, rfl⟩)

theorem isSome (alike : first.Alike related second) (place : Place) :
    (first.find? place).isSome = (second.find? place).isSome := by
  obtain ⟨here, there⟩ | ⟨mode, here, there⟩ | ⟨mode, bytes, other, -, here, there⟩ :=
    alike.found_cases place
  · rw [here, there]
  · rw [here, there]
  · rw [here, there]
    rfl

theorem directoryRefusal (alike : first.Alike related second) (present : SystemRefusal)
    (place : Place) :
    directoryRefusal present (first.find? place) =
      directoryRefusal present (second.find? place) := by
  obtain ⟨here, there⟩ | ⟨mode, here, there⟩ | ⟨mode, bytes, other, -, here, there⟩ :=
    alike.found_cases place
  · rw [here, there]
  · rw [here, there]
  · rw [here, there]
    rfl

theorem follow (alike : first.Alike related second) (start : Place) (names : List String) :
    first.follow start names = second.follow start names := by
  induction names generalizing start with
  | nil => rfl
  | cons name rest ih =>
    unfold FileTree.follow
    obtain ⟨here, there⟩ | ⟨mode, here, there⟩ | ⟨mode, bytes, other, -, here, there⟩ :=
      alike.found_cases start
    · rw [here, there]
    · rw [here, there]
      dsimp only
      rw [ih, ih]
    · rw [here, there]

/-- Paths lead to the same places. -/
theorem locate (alike : first.Alike related second) (path : Path) :
    first.locate path = second.locate path := by
  unfold FileTree.locate
  rw [alike.home, alike.follow]

theorem isDirectory (alike : first.Alike related second) (path : Path) :
    first.isDirectory path = second.isDirectory path := by
  unfold FileTree.isDirectory FileTree.entryAt?
  rw [alike.locate]
  cases second.locate path with
  | error refusal => rfl
  | ok place =>
    dsimp only
    obtain ⟨here, there⟩ | ⟨mode, here, there⟩ | ⟨mode, bytes, other, -, here, there⟩ :=
      alike.found_cases place
    · rw [here, there]
    · rw [here, there]
    · rw [here, there]

/-! ### Directories -/

theorem insert (alike : first.Alike related second) (place : Place) {entry other : Entry}
    (entries : entry.Alike related other) :
    (first.insert place entry).Alike related (second.insert place other) where
  home := alike.home
  size := by
    unfold FileTree.insert
    rw [List.length_append, List.length_append, alike.size]
    rfl
  found next := by
    rw [find?_insert, find?_insert]
    have found := alike.found next
    generalize first.find? next = one at found ⊢
    generalize second.find? next = another at found ⊢
    cases found with
    | some others => exact .some others
    | none =>
      dsimp only [Option.or]
      split
      · exact .some entries
      · exact .none

theorem makeDirectory (alike : first.Alike related second) (path : Path) (mode : Nat) :
    OutcomesAlike (FileTree.Alike related) (first.makeDirectory path mode)
      (second.makeDirectory path mode) := by
  unfold FileTree.makeDirectory
  rw [alike.locate]
  cases second.locate path with
  | error refusal => exact .error refusal
  | ok place =>
    dsimp only
    rw [alike.isSome]
    split
    · exact .error _
    · exact .ok (alike.insert place (.directory mode))

theorem ensureDirectory (alike : first.Alike related second) (path : Path) (mode : Nat) :
    OutcomesAlike (FileTree.Alike related) (first.ensureDirectory path mode)
      (second.ensureDirectory path mode) := by
  unfold FileTree.ensureDirectory
  obtain ⟨refusal, here, there⟩ | ⟨one, other, grown, here, there⟩ :=
    (alike.makeDirectory path mode).eq_error_or_eq_ok
  · rw [here, there]
    dsimp only
    rw [alike.isDirectory]
    split
    · exact .ok alike
    · exact .error _
  · rw [here, there]
    exact .ok grown

theorem makeDirectoriesWith (alike : first.Alike related second) (root : String) (mode : Nat)
    (reversed : List String) :
    OutcomesAlike (FileTree.Alike related) (first.makeDirectoriesWith root mode reversed)
      (second.makeDirectoriesWith root mode reversed) := by
  induction reversed generalizing mode with
  | nil => exact alike.ensureDirectory _ mode
  | cons name above ih =>
    unfold FileTree.makeDirectoriesWith
    dsimp only
    obtain ⟨refusal, here, there⟩ | ⟨one, other, grown, here, there⟩ :=
      (alike.makeDirectory ⟨root, (name :: above).reverse⟩ mode).eq_error_or_eq_ok
    · rw [here, there]
      cases refusal with
      | noEntry =>
        dsimp only
        obtain ⟨refused, here, there⟩ | ⟨one, other, grown, here, there⟩ :=
          (ih openMode).eq_error_or_eq_ok
        · rw [here, there]
          exact .error refused
        · rw [here, there]
          exact grown.ensureDirectory _ mode
      | alreadyThere | notDirectory | isDirectory | nameTooLong =>
        dsimp only
        rw [alike.isDirectory]
        split
        · exact .ok alike
        · exact .error _
    · rw [here, there]
      exact .ok grown

/-- Directories are made, or refused, alike. -/
theorem makeDirectories (alike : first.Alike related second) (path : Path) (mode : Nat) :
    OutcomesAlike (FileTree.Alike related) (first.makeDirectories path mode)
      (second.makeDirectories path mode) :=
  alike.makeDirectoriesWith path.root mode path.parts.reverse

/-! ### Fresh files -/

theorem freshText (alike : first.Alike related second) (directory : Path) (start ending : String)
    (number : Nat) :
    first.freshText directory start ending number =
      second.freshText directory start ending number := by
  unfold FileTree.freshText FileTree.settled
  rw [alike.home]

theorem vacancy (alike : first.Alike related second) (text : String) :
    first.vacancy text = second.vacancy text := by
  unfold FileTree.vacancy
  simp only [alike.locate, alike.isSome, alike.directoryRefusal]

/-- A fresh file gets the same number. -/
theorem freeNumber (alike : first.Alike related second) (directory : Path)
    (start ending : String) :
    first.freeNumber directory start ending = second.freeNumber directory start ending := by
  unfold FileTree.freeNumber
  simp only [alike.vacancy, alike.freshText, alike.size]

theorem createFresh (alike : first.Alike related second) (empty : related [] [])
    (directory : Path) (start ending : String) :
    OutcomesAlike (fun file other => file.1 = other.1 ∧ file.2.Alike related other.2)
      (first.createFresh directory start ending) (second.createFresh directory start ending) := by
  unfold FileTree.createFresh
  rw [alike.freeNumber, alike.freshText]
  dsimp only
  rw [alike.vacancy]
  cases second.vacancy _ with
  | error refusal => exact .error _
  | ok place => exact .ok ⟨rfl, alike.insert place (.file freshMode empty)⟩

theorem write (alike : first.Alike related second) (place : Place) {bytes other : List UInt8}
    (both : related bytes other) :
    (first.write place bytes).Alike related (second.write place other) where
  home := alike.home
  size := by
    unfold FileTree.write
    rw [List.length_map, List.length_map, alike.size]
  found next := by
    rw [find?_write, find?_write]
    obtain ⟨here, there⟩ | ⟨mode, here, there⟩ | ⟨mode, _, _, unchanged, here, there⟩ :=
      alike.found_cases next
    · rw [here, there]
      exact .none
    · rw [here, there, Option.map_some, Option.map_some]
      split
      · exact .some (.directory mode)
      · exact .some (.directory mode)
    · rw [here, there, Option.map_some, Option.map_some]
      split
      · exact .some (.file mode both)
      · exact .some (.file mode unchanged)

theorem fill (alike : first.Alike related second) (path : Path) {bytes other : List UInt8}
    (both : related bytes other) :
    (first.fill path bytes).Alike related (second.fill path other) := by
  unfold FileTree.fill
  rw [alike.locate]
  cases second.locate path with
  | error refusal => exact alike
  | ok place => exact alike.write place both

end Alike

end FileTree

end Alike

/-! ### Sessions -/

section Sessions

variable {devices : Devices} {related : List UInt8 → List UInt8 → Prop}

/-- Two sessions on the same devices that differ at most in what files hold. -/
structure Session.Alike (devices : Devices) (related : List UInt8 → List UInt8 → Prop)
    (first second : Session) : Prop where
  onDevices : first.devices = devices
  onSame : second.devices = devices
  events : first.events = second.events
  tree : first.tree.Alike related second.tree
  web : first.web = second.web
  prompts : first.prompts = second.prompts
  threshold : first.threshold = second.threshold
  turns : first.turns = second.turns

namespace Session.Alike

variable {first second : Session}

theorem adding (alike : first.Alike devices related second) (event : Event) :
    (first.adding event).Alike devices related (second.adding event) where
  onDevices := alike.onDevices
  onSame := alike.onSame
  events := congrArg (· ++ [event]) alike.events
  tree := alike.tree
  web := alike.web
  prompts := alike.prompts
  threshold := alike.threshold
  turns := alike.turns

theorem noting (alike : first.Alike devices related second) (record : LogRecord) :
    (first.noting record).Alike devices related (second.noting record) := by
  unfold Session.noting
  rw [alike.threshold]
  split
  · exact alike.adding _
  · exact alike

theorem withTree (alike : first.Alike devices related second) {tree other : FileTree}
    (trees : tree.Alike related other) :
    { first with tree := tree }.Alike devices related { second with tree := other } where
  onDevices := alike.onDevices
  onSame := alike.onSame
  events := alike.events
  tree := trees
  web := alike.web
  prompts := alike.prompts
  threshold := alike.threshold
  turns := alike.turns

end Session.Alike

/-! ### Actions -/

namespace Action

variable {ε ε' α β : Type}

/-- Two actions that agree: from sessions that are alike they come to the same outcome, and to
sessions that are alike. -/
def Agrees (devices : Devices) (related : List UInt8 → List UInt8 → Prop)
    (action other : Action ε α) : Prop :=
  ∀ first second : Session, first.Alike devices related second →
    (action.perform first).1 = (other.perform second).1 ∧
      (action.perform first).2.Alike devices related (other.perform second).2

theorem agrees_pure (value : α) : Agrees devices related (pure value : Action ε α) (pure value) :=
  fun _ _ alike => ⟨rfl, alike⟩

theorem agrees_throw (fault : ε) :
    Agrees devices related (throw fault : Action ε α) (throw fault) :=
  fun _ _ alike => ⟨rfl, alike⟩

theorem agrees_ofExcept (outcome : Except ε α) :
    Agrees devices related (ofExcept outcome) (ofExcept outcome) := by
  cases outcome with
  | ok value => exact agrees_pure value
  | error fault => exact agrees_throw fault

theorem agrees_ofDefect (outcome : Except Defect α) :
    Agrees devices related (ofDefect outcome) (ofDefect outcome) := by
  cases outcome with
  | ok value => exact agrees_pure value
  | error defect => exact agrees_throw _

/-- **Actions agree if their parts do.** -/
theorem Agrees.bind {action other : Action ε α} {next otherNext : α → Action ε β}
    (agrees : Agrees devices related action other)
    (rest : ∀ value, Agrees devices related (next value) (otherNext value)) :
    Agrees devices related (action >>= next) (other >>= otherNext) := by
  intro first second alike
  obtain ⟨same, reached⟩ := agrees first second alike
  rw [perform_bind, perform_bind]
  generalize action.perform first = ended at same reached ⊢
  generalize other.perform second = otherEnded at same reached ⊢
  obtain ⟨outcome, middle⟩ := ended
  obtain ⟨_, otherMiddle⟩ := otherEnded
  dsimp only at same reached
  subst same
  cases outcome with
  | error fault => exact ⟨rfl, reached⟩
  | ok value => exact rest value middle otherMiddle reached

theorem Agrees.attempt {action other : Action ε α} (agrees : Agrees devices related action other) :
    Agrees devices related (action.attempt : Action ε' (Except ε α)) other.attempt := by
  intro first second alike
  obtain ⟨same, reached⟩ := agrees first second alike
  rw [perform_attempt, perform_attempt, same]
  exact ⟨rfl, reached⟩

theorem Agrees.onFault {action other : Action ε α} {restate otherRestate : ε → Action ε' α}
    (agrees : Agrees devices related action other)
    (restates : ∀ fault, Agrees devices related (restate fault) (otherRestate fault)) :
    Agrees devices related (action.onFault restate) (other.onFault otherRestate) := by
  refine agrees.attempt.bind fun outcome => ?_
  cases outcome with
  | ok value => exact agrees_pure value
  | error fault => exact restates fault

theorem Agrees.ite {condition : Prop} [Decidable condition] {action other : Action ε α}
    {elseAction elseOther : Action ε α} (yes : Agrees devices related action other)
    (no : Agrees devices related elseAction elseOther) :
    Agrees devices related (if condition then action else elseAction)
      (if condition then other else elseOther) := by
  split
  · exact yes
  · exact no

theorem agrees_call (call : Call) :
    Agrees devices related (Action.call call : Action ε Unit) (Action.call call) :=
  fun _ _ alike => ⟨rfl, alike.adding _⟩

theorem agrees_log (level : LogLevel) (logger message : String) (showsFault : Bool) :
    Agrees devices related (log level logger message showsFault : Action ε Unit)
      (log level logger message showsFault) := by
  intro first second alike
  rw [perform_log, perform_log]
  exact ⟨rfl, alike.noting _⟩

theorem agrees_nextTurn : Agrees devices related (nextTurn : Action ε Nat) nextTurn := by
  intro first second alike
  rw [perform_nextTurn, perform_nextTurn, alike.turns]
  exact ⟨rfl, alike.onDevices, alike.onSame, alike.events, alike.tree, alike.web, alike.prompts,
    alike.threshold, rfl⟩

end Action

/-! ### Files -/

namespace Storage

open FleetSchema.Action

theorem agrees_checkPath (text : String) :
    Agrees devices related (checkPath text) (checkPath text) :=
  .ite (agrees_throw _) (agrees_pure ())

theorem agrees_makeDirectories (path : Path) (mode : Nat) :
    Agrees devices related (makeDirectories path mode) (makeDirectories path mode) := by
  refine (agrees_checkPath path.toText).bind fun _ first second alike => ?_
  rw [perform_bind, perform_bind, perform_get, perform_get]
  dsimp only
  obtain ⟨refused, here, there⟩ | ⟨tree, other, trees, here, there⟩ :=
    (alike.tree.makeDirectories path mode).eq_error_or_eq_ok
  · rw [here, there]
    exact ⟨rfl, alike⟩
  · rw [here, there]
    exact ⟨rfl, alike.withTree trees⟩

theorem agrees_createFresh (empty : related [] []) (directory : Path)
    (start ending : String) :
    Agrees devices related (createFresh directory start ending)
      (createFresh directory start ending) := by
  refine (agrees_checkPath _).bind fun _ first second alike => ?_
  rw [perform_bind, perform_bind, perform_get, perform_get]
  dsimp only
  obtain ⟨refused, here, there⟩ | ⟨⟨path, tree⟩, ⟨_, other⟩, ⟨rfl, trees⟩, here, there⟩ :=
    (alike.tree.createFresh empty directory start ending).eq_error_or_eq_ok
  · rw [here, there]
    exact ⟨rfl, alike⟩
  · rw [here, there]
    exact ⟨rfl, alike.withTree trees⟩

/-- Texts that may be written alike: they are related, and so is what is written of them when a disk
refuses them. -/
def WritesAlike (devices : Devices) (related : List UInt8 → List UInt8 → Prop)
    (text other : String) : Prop :=
  related (Text.Utf8.encode text) (Text.Utf8.encode other) ∧
    ∀ path reason, devices.disk path = some reason →
      related ((Text.Utf8.encode text).take reason.written)
        ((Text.Utf8.encode other).take reason.written)

theorem agrees_write (path : Path) {text other : String}
    (both : WritesAlike devices related text other) :
    Agrees devices related (write path text) (write path other) := by
  intro first second alike
  have here : first.devices.disk path = devices.disk path := by rw [alike.onDevices]
  have there : second.devices.disk path = devices.disk path := by rw [alike.onSame]
  rw [perform_write, perform_write, here, there]
  cases refuses : devices.disk path with
  | none => exact ⟨rfl, alike.withTree (alike.tree.fill path both.1)⟩
  | some reason =>
    exact ⟨rfl, alike.withTree (alike.tree.fill path (both.2 path reason refuses))⟩

/-- **Fresh files with related contents are written alike.** -/
theorem agrees_writeFresh (empty : related [] []) (directory : Path)
    (mode : Nat) (start ending : String) {content other : Except Defect String}
    (contents : OutcomesAlike (WritesAlike devices related) content other) :
    Agrees devices related (writeFresh directory mode start ending content)
      (writeFresh directory mode start ending other) := by
  refine (agrees_makeDirectories directory mode).bind fun _ => ?_
  refine (agrees_createFresh empty directory start ending).bind fun path => ?_
  cases contents with
  | error defect => exact agrees_throw _
  | ok both => exact (agrees_write path both).bind fun _ => agrees_pure path

end Storage

end Sessions

end FleetSchema
