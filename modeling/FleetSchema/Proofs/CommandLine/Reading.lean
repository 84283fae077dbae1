/-
**From the words of a command line to its command.**

The words are read and checked quietly, and every command but the one that applies schemas shows
tables and connects to clusters at most.

* `perform_run`: a run ends early, or it comes to the command that its words name;
* `within_runCommand`: the commands that change nothing.
-/

import FleetSchema.Proofs.CommandLine.Connecting

namespace FleetSchema

open FleetSchema.Action

variable {kinds : List EventKind} {writes : Bool}

/-! ### Reading words -/

namespace Command

theorem within_checkValue (parameter : Parameter) (text : String) :
    (checkValue parameter text).Within kinds writes := by
  unfold checkValue
  split
  · exact Within.ite (within_throw _) (within_pure _)
  · exact (Stop.within_plainly (Storage.within_checkPath text)).bind fun _ =>
      within_get.bind fun _ => Within.ite (within_pure _) (within_throw _)
  · exact within_pure _

theorem within_checkValues (settings : List Setting) (parameters : List Parameter) :
    (checkValues settings parameters).Within kinds writes := by
  induction parameters with
  | nil => exact within_pure _
  | cons parameter rest ih =>
    unfold checkValues
    split
    · exact (within_checkValue _ _).bind fun _ => ih
    · exact ih

theorem within_checkNeeded (settings : List Setting) (parameters : List Parameter) :
    (checkNeeded settings parameters).Within kinds writes := by
  unfold checkNeeded
  split
  · exact within_throw _
  · exact within_pure _

theorem within_settings (command : Command) (words : List String) :
    (command.settings words).Within kinds writes := by
  unfold settings
  split
  · exact within_throw _
  · exact Within.ite (within_throw_bind _ _) ((within_checkValues _ _).bind fun _ =>
      (within_checkNeeded _ _).bind fun _ => Within.ite (within_pure _) (within_throw_bind _ _))

/-- The settings of a command are those that its words make. -/
theorem settings_eq_ok {command : Command} {words : List String} {own : List Setting}
    {session reached : Session}
    (performed : (command.settings words).perform session = (.ok own, reached)) :
    ∃ reading, Arguments.read command.spellings true words = .ok reading ∧
      own = reading.settings := by
  unfold settings at performed
  cases read : Arguments.read command.spellings true words with
  | error fault =>
    rw [read] at performed
    cases performed
  | ok reading =>
    rw [read] at performed
    refine ⟨reading, rfl, ?_⟩
    dsimp only at performed
    split at performed
    · cases performed
    · obtain ⟨_, _, _, performed⟩ := perform_bind_eq_ok performed
      obtain ⟨_, _, _, performed⟩ := perform_bind_eq_ok performed
      split at performed
      · cases performed
        rfl
      · cases performed

end Command

namespace CommandLine

theorem within_readGroup (spellings : List Spelling) (words : List String) :
    (readGroup spellings words).Within kinds writes := by
  refine Within.ite (within_throw_bind _ _) ?_
  split
  · exact within_throw _
  · exact Within.ite (within_throw_bind _ _) (within_pure _)

/-- What is read of a group are the settings and the words that its words make. -/
theorem readGroup_eq_ok {spellings : List Spelling} {words : List String}
    {reading : Arguments.Reading} {session reached : Session}
    (performed : (readGroup spellings words).perform session = (.ok reading, reached)) :
    Arguments.read spellings false words = .ok reading := by
  unfold readGroup at performed
  dsimp only at performed
  split at performed
  · cases performed
  · cases read : Arguments.read spellings false words with
    | error fault =>
      rw [read] at performed
      cases performed
    | ok other =>
      rw [read] at performed
      dsimp only at performed
      split at performed
      · cases performed
      · cases performed
        rfl

theorem within_setUp (surroundings : Surroundings) (settings : List Setting) :
    (setUp surroundings settings).Within kinds writes := by
  have configure (word : String) : (Diagnostics.configure word).Within kinds writes := by
    unfold Diagnostics.configure
    split
    · exact within_throw _
    · exact Within.bind (fun session => .of_same rfl rfl rfl rfl) fun _ => within_pure _
  refine (configure _).attempt.bind fun configured => ?_
  cases configured with
  | ok weight => exact within_pure _
  | error fault => exact Within.ite (Stop.within_die _ _) (within_throw _)

/-! ### Commands that change nothing -/

theorem within_table (table : Table) (shows : .table ∈ kinds) :
    (Stop.plainly (Console.table table)).Within kinds writes :=
  Stop.within_plainly (within_tell (Or.inr shows) rfl)

/-- The announcement of a listing announces no rollout. -/
theorem announcesRollout_listing (name : String) :
    announcesRollout ("Listing databases on " ++ name ++ "...") = false := by
  have firstLetter : ("Listing databases on " ++ name ++ "...").toList.head? = some 'L' := by
    rw [String.toList_append, String.toList_append]
    rfl
  unfold announcesRollout
  rw [Bool.or_eq_false_iff, beq_eq_false_iff_ne, beq_eq_false_iff_ne]
  constructor
  · intro same
    rw [same] at firstLetter
    cases firstLetter
  · intro same
    rw [same] at firstLetter
    cases firstLetter

theorem within_databasesOn [Interpreter] {cluster : Cluster} (served : cluster.IsServed)
    (pattern : String) : (databasesOn cluster pattern).Within kinds writes := by
  have databases : (cluster.databases false).Within kinds writes := by
    unfold Cluster.databases
    split
    · exact within_pure _
    · exact (within_listDatabases served _ _ _).bind fun _ => within_pure _
  exact Within.ite (databases.bind fun _ => within_pure _) (within_listDatabases served _ _ _)

theorem within_showDatabasesOnEach [Interpreter] {clusters : List Cluster}
    (served : ∀ cluster ∈ clusters, cluster.IsServed) (pattern : String)
    (shows : .table ∈ kinds) : (showDatabasesOnEach pattern clusters).Within kinds writes := by
  induction clusters with
  | nil => exact within_pure _
  | cons cluster rest ih =>
    have announced (name : String) (announces : announcesRollout
        ("Listing databases on " ++ name ++ "...") = true) : .rollout ∈ kinds := by
      rw [announcesRollout_listing] at announces
      cases announces
    refine Within.bind ?_ fun _ => ih fun other member =>
      served other (List.mem_cons_of_mem _ member)
    exact (Stop.within_plainly (within_ofExcept _)).bind fun name =>
      (Stop.within_expecting ((within_databasesOn (served _ List.mem_cons_self) pattern).status
        (announced name))).bind fun _ => Stop.within_plainly
          (Within.ite (within_print _) (within_tell (Or.inr shows) rfl))

theorem within_listDatabases [Interpreter] (surroundings : Surroundings) (settings : List Setting)
    (connects : .connection ∈ kinds) (shows : .table ∈ kinds) :
    (listDatabases surroundings settings).Within kinds writes :=
  (Stop.within_expecting (within_ofExcept _)).bind fun _ =>
    surroundings.within_withClusters _ connects fun _ served =>
      within_showDatabasesOnEach served _ shows

theorem within_resolveTargets [Interpreter] (surroundings : Surroundings) (settings : List Setting)
    (connects : .connection ∈ kinds) (shows : .table ∈ kinds) :
    (resolveTargets surroundings settings).Within kinds writes := by
  have connecting (filter : TargetFilter) :
      (surroundings.withClusters (Arguments.texts settings .cluster) fun clusters => do
        let plans ← plan surroundings filter clusters
        Stop.plainly (Console.table
          (.ofTargets "Resolved targets" (plans.map Targets.row)))).Within kinds writes :=
    surroundings.within_withClusters _ connects fun _ served =>
      (within_plan surroundings filter served).bind fun _ => within_table _ shows
  exact (Stop.within_expecting (within_ofExcept _)).bind fun filter =>
    Within.ite ((Stop.within_plainly (within_print _)).bind fun _ => connecting filter)
      (connecting filter)

theorem within_groups (registry : Registry) : registry.groups.Within kinds writes := by
  have headers : registry.headers.Within kinds writes := by
    unfold Registry.headers
    dsimp only
    split
    · exact within_pure _
    · refine within_get.bind fun _ => (within_call (Or.inl rfl)).bind fun _ => ?_
      split
      · exact within_pure _
      · exact within_throw _
  have page (address : String) (parameters : Option (List (String × String))) :
      (registry.page address parameters).Within kinds writes := by
    have ask : (registry.ask address parameters).Within kinds writes :=
      headers.bind fun _ => (Web.within_fetch _).bind fun _ =>
        Within.ite (within_throw_bind _ _) (within_ofExcept _)
    refine (ask.onFault fun _ => within_throw _).bind fun answer => ?_
    split
    · exact within_pure _
    · exact within_throw _
  have groupsFrom (fuel : Nat) (address : String)
      (parameters : Option (List (String × String))) :
      (registry.groupsFrom address parameters fuel).Within kinds writes := by
    induction fuel generalizing address parameters with
    | zero => exact within_pure _
    | succ fuel ih =>
      refine (page _ _).bind fun fields => (within_ofDefect _).bind fun groups =>
        (within_ofDefect _).bind fun next => ?_
      split
      · exact within_pure _
      · exact (ih _ _).bind fun _ => within_pure _
  exact within_get.bind fun _ => groupsFrom _ _ _

theorem within_listGroups (surroundings : Surroundings) (settings : List Setting)
    (shows : .table ∈ kinds) : (listGroups surroundings settings).Within kinds writes :=
  (Stop.within_expecting ((within_groups _).status fun announces =>
    absurd announces (by decide))).bind fun _ =>
      Within.ite ((Stop.within_warnExit _ _).bind fun _ => within_table _ shows)
        (within_table _ shows)

/-- Every command but one shows tables and connects to clusters at most. -/
theorem within_runCommand [Interpreter] (surroundings : Surroundings) (settings : List Setting)
    {command : Command} (other : command ≠ .applySchema) :
    (runCommand surroundings settings command).Within [.connection, .table] false := by
  cases command with
  | listDatabases => exact within_listDatabases surroundings settings (by decide) (by decide)
  | resolveTargets => exact within_resolveTargets surroundings settings (by decide) (by decide)
  | listGroups => exact within_listGroups surroundings settings (by decide)
  | applySchema => exact absurd rfl other

/-! ### Runs -/

/-- The command that words name, from what is read of them. -/
theorem named?_eq_some {words rest own : List String} {word : String}
    {reading inner : Arguments.Reading} {group : CommandGroup} {command : Command}
    {used : Arguments.Reading} {ownWord : String}
    (read : Arguments.read programSpellings false words = .ok reading)
    (isWords : reading.words = word :: rest) (isGroup : CommandGroup.ofWord? word = some group)
    (readInner : Arguments.read [helpSpelling] false rest = .ok inner)
    (isOwn : inner.words = ownWord :: own) (isCommand : group.command? ownWord = some command)
    (readOwn : Arguments.read command.spellings true own = .ok used) :
    named? words = some (command, used.settings) := by
  unfold named?
  simp only [read, isWords, isGroup, readInner, isOwn, isCommand, readOwn, Except.toOption,
    Option.bind_eq_bind, Option.bind_some, List.head?_cons, List.drop_succ_cons, List.drop_zero]
  rfl

/-- What words within a group come to: an early end, or the command that they name. -/
theorem perform_runGroup [Interpreter] {surroundings : Surroundings} {group : CommandGroup}
    {words : List String} {session last : Session} {outcome : Except Stop Unit}
    (performed : (runGroup surroundings group words).perform session = (outcome, last)) :
    (session.Extends [] false last ∧ ∃ stop, outcome = .error stop) ∨
    ∃ inner ownWord own command used middle,
      Arguments.read [helpSpelling] false words = .ok inner ∧ inner.words = ownWord :: own ∧
      group.command? ownWord = some command ∧
      Arguments.read command.spellings true own = .ok used ∧ session.Extends [] false middle ∧
      (runCommand surroundings used.settings command).perform middle = (outcome, last) := by
  unfold runGroup at performed
  obtain ⟨stop, ended, rfl⟩ | ⟨inner, first, readInner, performed⟩ := perform_bind_cases performed
  · exact Or.inl ⟨(within_readGroup _ _).of_perform ended, stop, rfl⟩
  have chosen : session.Extends [] false first := (within_readGroup _ _).of_perform readInner
  cases isOwn : inner.words with
  | nil =>
    rw [isOwn] at performed
    cases performed
    exact Or.inl ⟨chosen, _, rfl⟩
  | cons ownWord own =>
    rw [isOwn] at performed
    dsimp only at performed
    cases isCommand : group.command? ownWord with
    | none =>
      rw [isCommand] at performed
      cases performed
      exact Or.inl ⟨chosen, _, rfl⟩
    | some command =>
      rw [isCommand] at performed
      dsimp only at performed
      obtain ⟨stop, ended, rfl⟩ | ⟨settings, middle, isSettings, performed⟩ :=
        perform_bind_cases performed
      · exact Or.inl ⟨chosen.trans ((command.within_settings own).of_perform ended), stop, rfl⟩
      obtain ⟨used, readOwn, rfl⟩ := Command.settings_eq_ok isSettings
      exact Or.inr ⟨inner, ownWord, own, command, used, middle, readGroup_eq_ok readInner, isOwn,
        isCommand, readOwn, chosen.trans ((command.within_settings own).of_perform isSettings),
        performed⟩

/-- **A run ends early and quietly, or it comes to the command that its words name.** -/
theorem perform_run [Interpreter] {surroundings : Surroundings} {words : List String}
    {session last : Session} {outcome : Except Stop Unit}
    (performed : (run surroundings words).perform session = (outcome, last)) :
    (session.Extends [] false last ∧ ∃ stop, outcome = .error stop) ∨
    ∃ command settings middle, named? words = some (command, settings) ∧
      session.Extends [] false middle ∧
      (runCommand surroundings settings command).perform middle = (outcome, last) := by
  unfold run at performed
  obtain ⟨stop, ended, rfl⟩ | ⟨reading, first, read, performed⟩ := perform_bind_cases performed
  · exact Or.inl ⟨(within_readGroup _ _).of_perform ended, stop, rfl⟩
  have begun : session.Extends [] false first := (within_readGroup _ _).of_perform read
  cases isWords : reading.words with
  | nil =>
    rw [isWords] at performed
    cases performed
    exact Or.inl ⟨begun, _, rfl⟩
  | cons word rest =>
    rw [isWords] at performed
    dsimp only at performed
    cases isGroup : CommandGroup.ofWord? word with
    | none =>
      rw [isGroup] at performed
      cases performed
      exact Or.inl ⟨begun, _, rfl⟩
    | some group =>
      rw [isGroup] at performed
      dsimp only at performed
      obtain ⟨stop, ended, rfl⟩ | ⟨_, second, setUp, performed⟩ := perform_bind_cases performed
      · exact Or.inl ⟨begun.trans ((within_setUp _ _).of_perform ended), stop, rfl⟩
      have ready := begun.trans ((within_setUp _ _).of_perform setUp)
      obtain ⟨early, isError⟩ | ⟨inner, ownWord, own, command, used, middle, readInner, isOwn,
        isCommand, readOwn, chosen, performed⟩ := perform_runGroup performed
      · exact Or.inl ⟨ready.trans early, isError⟩
      · exact Or.inr ⟨command, used.settings, middle,
          named?_eq_some (readGroup_eq_ok read) isWords isGroup readInner isOwn isCommand readOwn,
          ready.trans chosen, performed⟩

end CommandLine

end FleetSchema
