/-
**Picking narrows down targets.**

A prompt with a box for each database asks which of them are kept. Whatever the answer holds, the
databases among it are kept in their order, and nothing else comes in.

* `Prompt.offersIn`: what the prompts with boxes among events offer;
* `Prompt.perform_select`: what picking among choices comes to;
* `Targets.Narrows`: the targets that an answer leaves;
* `Targets.pick_narrows`: picking leaves these, whatever the order of the answer and however often it
  is given.
-/

import FleetSchema.Picker
import FleetSchema.Proofs.CommandLine.Asking

namespace FleetSchema

open FleetSchema.Action

/-! ### Prompts with boxes -/

namespace Prompt

/-- Prompts work in one of their forms. -/
def Works (session : Session) : Prop := session.prompts.support ≠ .none

/-- The answer to the next prompt with boxes: values in a list, or none when the prompt is left. -/
def Answers (session : Session) (answer : Option (List Value)) : Prop :=
  session.prompts.pickings.headD (.given .null) = .given (answer.elim .null .list)

/-- The boxes of the next prompt are left as they are. -/
def LeavesBoxes (session : Session) : Prop :=
  session.prompts.pickings.headD (.given .null) = .asChecked

/-- The value that a choice stands for, as prompts are given it. -/
def valueOffered : Value → Value
  | .list [_, value, _] => value
  | _ => .null

/-- The values that an event offers to be picked. -/
def offer? : Event → Option (List Value)
  | .console (.prompt .checkbox _ options) =>
    ((Value.field options "choices").items?).map (·.map valueOffered)
  | _ => none

/-- What the prompts with boxes among events offer. -/
def offersIn (events : List Event) : List (List Value) := events.filterMap offer?

variable {session : Session} {message : String} {choices : List Choice} {values : List Value}

/-- The events of asking: a question that is refused is put once more in plain form. -/
def askEvents (support : PromptSupport) (kind : PromptKind) (message : String)
    (options : List (String × Value)) : List Event :=
  if understands support options then [.console (.prompt kind (titled message) options)]
  else [.console (.rejected kind (options.map (·.1))),
    .console (.prompt kind (titled message) (plainOptions options))]

/-- Prompts that work understand options in plain form. -/
theorem understands_plainOptions {support : PromptSupport} (works : support ≠ .none)
    (options : List (String × Value)) : understands support (plainOptions options) = true := by
  cases support with
  | full => rfl
  | reduced =>
    refine List.all_eq_true.mpr fun option member => ?_
    exact (List.mem_filter.mp member).2
  | none => exact absurd rfl works

/-- **A question is put once** where prompts work. -/
theorem perform_ask (works : Works session) (kind : PromptKind) (message : String)
    (options : List (String × Value)) :
    (ask kind message options).perform session = (.ok (),
      { session with
        events := session.events ++ askEvents session.prompts.support kind message options }) := by
  unfold ask askEvents
  rw [perform_onFault, perform_put]
  by_cases understood : understands session.prompts.support options = true
  · rw [if_pos understood, if_pos understood]
    rfl
  · rw [if_neg understood, if_neg understood]
    have plain := understands_plainOptions works options
    dsimp only
    rw [perform_put]
    refine (if_pos plain).trans ?_
    simp [Session.adding]

theorem perform_nextPicking (session : Session) :
    nextPicking.perform session = (.ok (session.prompts.pickings.headD (.given .null)),
      { session with
        prompts := { session.prompts with pickings := session.prompts.pickings.tail } }) := by
  unfold nextPicking
  rw [perform_bind, perform_get]
  obtain ⟨events, tree, web, ⟨pickings, confirmations, support⟩, threshold, turns⟩ := session
  cases pickings with
  | nil => rfl
  | cons first rest => rfl

/-- The session in which a prompt with boxes was answered. -/
def pickedFrom (session : Session) (message : String) (choices : List Choice) : Session :=
  { session with
    events := session.events ++
      askEvents session.prompts.support .checkbox message (selectOptions choices)
    prompts := { session.prompts with pickings := session.prompts.pickings.tail } }

theorem since_pickedFrom (session : Session) (message : String) (choices : List Choice) :
    session.since (pickedFrom session message choices) =
      askEvents session.prompts.support .checkbox message (selectOptions choices) :=
  Session.since_eq rfl

/-- **Picking among choices** puts one prompt, and comes to what its answer picks. -/
theorem perform_select (works : Works session) (some : choices ≠ []) (message : String) :
    (select message choices).perform session =
      ((picked choices (session.prompts.pickings.headD (.given .null))).mapError .defect,
        pickedFrom session message choices) := by
  unfold select
  rw [if_neg (by rwa [List.isEmpty_iff]), perform_bind, perform_ask works]
  dsimp only
  rw [perform_bind, perform_nextPicking]
  dsimp only
  rw [perform_ofDefect]
  rfl

/-- An answer picks the values in it. -/
theorem picked_given (choices : List Choice) (answer : Option (List Value)) :
    picked choices (.given (answer.elim .null .list)) = .ok (answer.getD []) := by
  rcases answer with _ | (_ | ⟨first, rest⟩)
  · rfl
  · rfl
  · rfl

/-- A question offers its choices, also when it is put in plain form. -/
theorem offersIn_askEvents (support : PromptSupport) (message : String) (choices : List Choice) :
    offersIn (askEvents support .checkbox message (selectOptions choices)) =
      [choices.map (·.value)] := by
  have values : (choices.map Choice.toValue).map valueOffered = choices.map (·.value) := by
    rw [List.map_map]
    rfl
  unfold askEvents
  split
  · exact congrArg (fun offered => [offered]) values
  · exact congrArg (fun offered => [offered]) values

end Prompt

/-! ### Narrowing -/

namespace Targets

open FleetSchema.Prompt

variable {targets picked : Targets} {values : List Value} {name : String} {session : Session}

/-- Targets are left by the values of an answer: those of the databases that are among the values,
in their order. -/
structure Narrows (targets : Targets) (values : List Value) (picked : Targets) : Prop where
  clusterUri : picked.clusterUri = targets.clusterUri
  mode : picked.mode = targets.mode
  sublist : picked.databases.Sublist targets.databases
  mem_iff : ∀ name, name ∈ picked.databases ↔ name ∈ targets.databases ∧ .text name ∈ values
  nodup : picked.databases.Nodup

theorem any_same_text_iff : values.any (Value.same (.text name)) = true ↔ .text name ∈ values := by
  have same_iff (value : Value) : Value.same (.text name) value = true ↔ value = .text name := by
    cases value with
    | text other =>
      rw [Value.same, beq_iff_eq, Value.text.injEq]
      exact eq_comm
    | null | bool | int | float | path | list | object => simp [Value.same, Value.integer?]
  simp [List.any_eq_true, same_iff]

theorem narrows_keep (distinct : targets.databases.Nodup) (values : List Value) :
    targets.Narrows values (targets.keep values) where
  clusterUri := rfl
  mode := rfl
  sublist := targets.keep_sublist values
  mem_iff _ := List.mem_filter.trans (and_congr_right fun _ => any_same_text_iff)
  nodup := distinct.sublist (targets.keep_sublist values)

/-- What is kept depends on the names among values only. -/
theorem keep_congr {others : List Value}
    (same : ∀ name, .text name ∈ values ↔ .text name ∈ others) (targets : Targets) :
    targets.keep values = targets.keep others := by
  have agree (name : String) : values.any (Value.same (.text name)) =
      others.any (Value.same (.text name)) := by
    rw [Bool.eq_iff_iff, any_same_text_iff, any_same_text_iff]
    exact same name
  unfold keep
  simp only [agree]

/-- Values that hold all databases keep the targets as they are. -/
theorem keep_eq_self (all : ∀ name ∈ targets.databases, .text name ∈ values) :
    targets.keep values = targets := by
  unfold keep
  rw [List.filter_eq_self.mpr fun name member => any_same_text_iff.mpr (all name member)]

/-- Keeping the same values once more changes nothing. -/
theorem keep_keep (targets : Targets) (values : List Value) :
    (targets.keep values).keep values = targets.keep values :=
  keep_eq_self fun _ member => any_same_text_iff.mp (List.mem_filter.mp member).2

/-- The values of the choices are the databases. -/
theorem map_value_choices (cluster : String) (databases : List String) :
    (Picker.choices cluster databases).map (·.value) = databases.map .text := by
  unfold Picker.choices
  rw [List.map_map]
  rfl

/-- **What picking comes to** at an address of a cluster, where prompts work. -/
theorem perform_pick (valid : ClusterUri.name targets.clusterUri = .ok name)
    (works : Works session) :
    targets.pick.perform session =
      if targets.databases = [] then (.ok targets, session)
      else
        (((Prompt.picked (Picker.choices name targets.databases)
            (session.prompts.pickings.headD (.given .null))).mapError .defect).map targets.keep,
          pickedFrom session ("Select databases on " ++ name ++ ":")
            (Picker.choices name targets.databases)) := by
  unfold pick
  rw [valid, perform_bind, perform_ofExcept]
  dsimp only
  rw [perform_bind_pure]
  split
  · rename_i none
    rw [none]
    exact Prod.ext (congrArg Except.ok (keep_eq_self (by rw [none]; rintro _ ⟨⟩))) rfl
  · rename_i some
    have choices : Picker.choices name targets.databases ≠ [] := by
      unfold Picker.choices
      rwa [ne_eq, List.map_eq_nil_iff]
    rw [perform_select works choices]

/-- An answer leaves the databases that are among its values. -/
theorem pick_of_answers {answer : Option (List Value)}
    (valid : ClusterUri.name targets.clusterUri = .ok name) (works : Works session)
    (answers : Answers session answer) :
    (targets.pick.perform session).1 = .ok (targets.keep (answer.getD [])) := by
  rw [perform_pick valid works]
  split
  · rename_i none
    exact congrArg Except.ok (keep_eq_self (by rw [none]; rintro _ ⟨⟩)).symm
  · rw [show session.prompts.pickings.headD (.given .null) = _ from answers, picked_given]
    rfl

/-- All boxes are checked at first: a user who leaves them so keeps the targets as they are. -/
theorem pick_of_leavesBoxes (valid : ClusterUri.name targets.clusterUri = .ok name)
    (works : Works session) (leaves : LeavesBoxes session) :
    (targets.pick.perform session).1 = .ok targets := by
  rw [perform_pick valid works]
  split
  · rfl
  · have checked : (Picker.choices name targets.databases).filter (·.checked) =
        Picker.choices name targets.databases := by
      refine List.filter_eq_self.mpr fun choice member => ?_
      obtain ⟨_, _, rfl⟩ := List.mem_map.mp member
      rfl
    rw [show session.prompts.pickings.headD (.given .null) = _ from leaves, Prompt.picked, checked,
      map_value_choices]
    exact congrArg Except.ok (keep_eq_self fun _ member => List.mem_map_of_mem member)

/-- Picking puts one prompt, which offers the databases in their order, and none without any. -/
theorem offersIn_pick (valid : ClusterUri.name targets.clusterUri = .ok name)
    (works : Works session) :
    offersIn (session.since (targets.pick.perform session).2) =
      if targets.databases = [] then [] else [targets.databases.map .text] := by
  rw [perform_pick valid works]
  split
  · rw [Session.since_eq (List.append_nil _).symm]
    rfl
  · rw [since_pickedFrom, offersIn_askEvents, map_value_choices]

/-- What picking by an answer comes to. -/
structure Picks (targets : Targets) (answer : Option (List Value)) (session : Session)
    (picked : Targets) (last : Session) : Prop where
  narrows : targets.Narrows (answer.getD []) picked
  setwise : ∀ other again, Works other → Answers other again →
    (∀ name, .text name ∈ answer.getD [] ↔ .text name ∈ again.getD []) →
      (targets.pick.perform other).1 = .ok picked
  whole : (∀ name ∈ targets.databases, .text name ∈ answer.getD []) → picked = targets
  again : ∀ other, Works other → Answers other answer → (picked.pick.perform other).1 = .ok picked
  offers : offersIn (session.since last) =
    if targets.databases = [] then [] else [targets.databases.map .text]
  idle : targets.databases = [] → picked.databases = [] ∧ last = session

/-- **Picking narrows down targets.** At the address of a cluster with distinct databases, where
prompts work, every answer leaves targets at the same address and of the same mode. Their databases
are those among the values of the answer, in their order. Answers with the same names leave the same
targets, one with all databases leaves the targets as they are, and so do boxes that nobody touches,
and picking by the same answer again changes nothing. One prompt offers the databases; without any
there is no prompt. -/
theorem pick_narrows (targets : Targets) (name : String)
    (valid : ClusterUri.name targets.clusterUri = .ok name) (distinct : targets.databases.Nodup) :
    (∀ session answer, Works session → Answers session answer → ∃ picked last,
      targets.pick.perform session = (.ok picked, last) ∧
        targets.Picks answer session picked last) ∧
    ∀ session, Works session → LeavesBoxes session →
      (targets.pick.perform session).1 = .ok targets := by
  refine ⟨fun session answer works answers => ?_, fun session => pick_of_leavesBoxes valid⟩
  refine ⟨targets.keep (answer.getD []), (targets.pick.perform session).2,
    Prod.ext (pick_of_answers valid works answers) rfl, ?_⟩
  constructor
  · exact narrows_keep distinct _
  · intro other again worksOther answersOther same
    rw [pick_of_answers valid worksOther answersOther, keep_congr same]
  · exact keep_eq_self
  · intro other worksOther answersOther
    have kept : ClusterUri.name (targets.keep (answer.getD [])).clusterUri = .ok name := valid
    rw [pick_of_answers kept worksOther answersOther, keep_keep]
  · exact offersIn_pick valid works
  · intro none
    rw [perform_pick valid works, if_pos none, keep_eq_self (by rw [none]; rintro _ ⟨⟩)]
    exact ⟨none, rfl⟩

/-- An answer with names in another order, one of them twice and others that were not offered, to
prompts of an older make. -/
theorem pick_narrows_reordered :
    let targets : Targets := ⟨"https://f.k", ["a", "b", "c"], .all⟩
    let answer := [.text "c", .text "x", .int 1, .text "a", .text "c"]
    let session : Session :=
      { Session.start ⟨[], []⟩ with prompts := ⟨[.given (.list answer)], [], .reduced⟩ }
    ClusterUri.name "https://f.k" = .ok "f" ∧ targets.databases.Nodup ∧ Works session ∧
      Answers session (some answer) ∧
      (targets.pick.perform session).1 = .ok ⟨"https://f.k", ["a", "c"], .all⟩ ∧
      offersIn (session.since (targets.pick.perform session).2) =
        [[.text "a", .text "b", .text "c"]] ∧
      ∀ other, Works other → LeavesBoxes other → (targets.pick.perform other).1 = .ok targets := by
  intro targets answer session
  have valid : ClusterUri.name "https://f.k" = .ok "f" := eq_ok_of_toOption (by decide +kernel)
  have distinct : targets.databases.Nodup := by decide
  have works : Works session := by
    unfold Works
    decide
  have answers : Answers session (some answer) := rfl
  obtain ⟨narrows, leaves⟩ := pick_narrows targets "f" valid distinct
  obtain ⟨picked, last, performed, picks⟩ := narrows session (some answer) works answers
  have kept : picked = ⟨"https://f.k", ["a", "c"], .all⟩ := by
    have same : (targets.pick.perform session).1 = .ok ⟨"https://f.k", ["a", "c"], .all⟩ :=
      eq_ok_of_toOption (by decide +kernel)
    rw [performed] at same
    exact Except.ok.inj same
  rw [performed]
  exact ⟨valid, distinct, works, answers, congrArg Except.ok kept, picks.offers, leaves⟩

end Targets

end FleetSchema
