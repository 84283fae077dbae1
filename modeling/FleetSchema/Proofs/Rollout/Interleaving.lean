/-
**Rollouts on several clusters, at once and one after the other.**

With a generator and an applier that answer as functions say, a pool of workers comes to the same
results as the rollouts alone, whoever goes on when.

* `Interleaving`: several lists run one inside the other; `Interleaving.perm`: nothing is lost or
  added;
* `Faithful`, `Traced`: how far a rollout has come fits the calls that were made for it;
* `applyAll_interleaves`: the results are those of the rollouts alone, and the calls are those of
  the rollouts alone, interleaved.
-/

import FleetSchema.Proofs.Rollout.PoolRun

namespace FleetSchema

/-! ### Interleaving -/

section Interleaving

variable {α : Type}

/-- The entries that are marked with a number. -/
def entriesOf (number : Nat) (marked : List (Nat × α)) : List α :=
  (marked.filter (·.1 == number)).map Prod.snd

/-- A list consists of several lists, run one inside the other: marked with the number of the list
that it comes from, each of its entries stands in its own list, in the same order, and nothing is
left out. -/
def Interleaving (parts : List (List α)) (whole : List α) : Prop :=
  ∃ marked : List (Nat × α), marked.map Prod.snd = whole ∧
    ∀ number, entriesOf number marked = parts.getD number []

theorem entriesOf_append (number : Nat) (first second : List (Nat × α)) :
    entriesOf number (first ++ second) = entriesOf number first ++ entriesOf number second := by
  unfold entriesOf
  rw [List.filter_append, List.map_append]

theorem entriesOf_marking_self (number : Nat) (entries : List α) :
    entriesOf number (entries.map (number, ·)) = entries := by
  unfold entriesOf
  induction entries with
  | nil => rfl
  | cons entry rest ih => simpa using ih

theorem entriesOf_marking_other {number other : Nat} (different : number ≠ other)
    (entries : List α) : entriesOf number (entries.map (other, ·)) = [] := by
  unfold entriesOf
  rw [List.map_eq_nil_iff, List.filter_eq_nil_iff]
  rintro marked member
  obtain ⟨entry, _, rfl⟩ := List.mem_map.mp member
  simpa using different.symm

theorem flatten_set_perm {parts : List (List α)} {number : Nat} {first : α} {rest : List α}
    (found : parts[number]? = some (first :: rest)) :
    parts.flatten.Perm (first :: (parts.set number rest).flatten) := by
  induction parts generalizing number with
  | nil => cases found
  | cons part others ih =>
    cases number with
    | zero =>
      obtain rfl : part = first :: rest := Option.some.inj found
      exact .refl _
    | succ number =>
      rw [List.set_cons_succ, List.flatten_cons, List.flatten_cons]
      exact ((ih found).append_left part).trans List.perm_middle

/-- Lists that run one inside the other come to the entries of all of them. -/
theorem Interleaving.perm {parts : List (List α)} {whole : List α}
    (interleaving : Interleaving parts whole) : whole.Perm parts.flatten := by
  obtain ⟨marked, rfl, each⟩ := interleaving
  induction marked generalizing parts with
  | nil =>
    have none : parts.flatten = [] := by
      rw [List.flatten_eq_nil_iff]
      intro part member
      obtain ⟨number, found⟩ := List.mem_iff_getElem?.mp member
      have here := each number
      rw [List.getD_eq_getElem?_getD, found] at here
      exact here.symm
    rw [none]
    exact .refl _
  | cons entry rest ih =>
    obtain ⟨number, first⟩ := entry
    have here : parts.getD number [] = first :: entriesOf number rest := by
      rw [← each number]
      unfold entriesOf
      rw [List.filter_cons_of_pos (by simp), List.map_cons]
    have found : parts[number]? = some (first :: entriesOf number rest) := by
      rw [List.getD_eq_getElem?_getD] at here
      cases known : parts[number]? with
      | none =>
        rw [known] at here
        cases here
      | some part =>
        rw [known] at here
        exact congrArg some here
    -- without its first entry, the list that the entry came from runs inside the rest
    refine ((ih fun other => ?_).cons first).trans (flatten_set_perm found).symm
    rw [List.getD_eq_getElem?_getD]
    by_cases same : number = other
    · subst same
      rw [List.getElem?_set_self (List.getElem?_eq_some_iff.mp found).1]
      rfl
    · rw [List.getElem?_set_ne same, ← List.getD_eq_getElem?_getD, ← each other]
      unfold entriesOf
      rw [List.filter_cons_of_neg (by simpa using same)]

end Interleaving

namespace Rollout

/-! ### Distinct clusters -/

theorem length_uniqueBy_le {α : Type} (same : α → α → Bool) (items : List α) :
    (uniqueBy same items).length ≤ items.length := by
  induction items with
  | nil => exact Nat.le_refl _
  | cons first rest ih =>
    exact Nat.succ_le_succ (Nat.le_trans (List.length_filter_le _ _) ih)

theorem length_unique_eq_iff {items : List String} :
    (unique items).length = items.length ↔ items.Nodup := by
  induction items with
  | nil => exact iff_of_true rfl List.nodup_nil
  | cons first rest ih =>
    have split : unique (first :: rest) = first :: (unique rest).filter fun other =>
        !first == other := rfl
    have shorter := List.length_filter_le (fun other => !first == other) (unique rest)
    have atMost : (unique rest).length ≤ rest.length := length_uniqueBy_le _ _
    rw [List.nodup_cons, split, List.length_cons, List.length_cons, Nat.add_right_cancel_iff]
    constructor
    · intro equal
      refine ⟨?_, ih.mp (by omega)⟩
      have kept : ∀ other ∈ unique rest, (!first == other) = true :=
        List.length_filter_eq_length_iff.mp (by omega)
      intro member
      have absent := kept first (mem_unique.mpr member)
      rw [beq_self_eq_true] at absent
      cases absent
    · rintro ⟨absent, nodup⟩
      rw [← ih.mpr nodup]
      refine congrArg List.length (List.filter_eq_self.mpr ?_)
      intro other member
      rw [Bool.not_eq_true', beq_eq_false_iff_ne]
      rintro rfl
      exact absent (mem_unique.mp member)

theorem areDistinct_iff {plans : List Targets} :
    areDistinct plans = true ↔ (plans.map Targets.clusterUri).Nodup := by
  unfold areDistinct
  rw [beq_iff_eq, ← length_unique_eq_iff, List.length_map]

/-! ### Traces -/

section Traces

variable {rollout : Rollout} {file : String}
  {generate : String → List String → Path → Value → Except Fault Value}
  {apply : String → Except Fault Unit}

/-- How far a rollout has come fits the calls that were made for it, with a generator that ends in
`generated` and an applier that ends in `applied job` when it is asked for a job. -/
inductive Faithful (rollout : Rollout) (file : String) (targets : Targets)
    (generated : Except Fault Value) (applied : String → Except Fault Unit) :
    Task → List Call → Prop
  | waiting : Faithful rollout file targets generated applied .waiting []
  | claimed : Faithful rollout file targets generated applied .claimed []
  | built {job : String} (found : referenceIn generated = some job)
    (wet : rollout.dryRun = false) :
    Faithful rollout file targets generated applied
      (.halfway (.built (rollout.configuration targets file job)))
      [rollout.generation targets file]
  | ended : Faithful rollout file targets generated applied
      (.halfway (.ended (.ok (ownResult rollout.dryRun targets generated applied))))
      (rollout.ownCalls targets file generated)
  | collected : Faithful rollout file targets generated applied
      (.collected (.ok (ownResult rollout.dryRun targets generated applied)))
      (rollout.ownCalls targets file generated)

/-- The first half of a rollout fits the call on the generator. -/
theorem faithful_halfwayOf (rollout : Rollout) (file : String) (targets : Targets)
    (generated : Except Fault Value) (applied : String → Except Fault Unit) :
    Faithful rollout file targets generated applied
      (.halfway (rollout.halfwayOf targets file generated)) [rollout.generation targets file] := by
  have done : Faithful rollout file targets generated applied _ _ := .ended
  unfold ownResult ownCalls at done
  unfold halfwayOf
  cases found : referenceIn generated with
  | none =>
    rw [found] at done
    exact done
  | some job =>
    rw [found] at done
    dsimp only at done ⊢
    by_cases dry : rollout.dryRun = true
    · rw [if_pos dry, if_pos dry] at done
      rw [if_pos dry]
      exact done
    · rw [if_neg dry]
      exact .built found (Bool.not_eq_true _ ▸ dry)

/-- The second half of a rollout fits the call on the applier after the one on the generator. -/
theorem faithful_completed (targets : Targets) {generated : Except Fault Value}
    (applied : String → Except Fault Unit) {job : String}
    (found : referenceIn generated = some job) (wet : rollout.dryRun = false) :
    Faithful rollout file targets generated applied
      (.halfway (.ended (.ok (completed targets job targets.clusterUri (applied job)))))
      [rollout.generation targets file, .applied job] := by
  have done : Faithful rollout file targets generated applied _ _ := .ended
  unfold ownResult ownCalls at done
  rw [found, wet] at done
  exact done

/-- The calls since `before`, each marked with the number of its plan, fit how far the tasks have
come. -/
structure Traced (rollout : Rollout) (file : String)
    (generate : String → List String → Path → Value → Except Fault Value)
    (apply : String → Except Fault Unit) (before : List Call) (tasks : List (Targets × Task))
    (session : Session) (marked : List (Nat × Call)) : Prop where
  calls : callsIn session.events = before ++ marked.map Prod.snd
  faithful : ∀ (place : Nat) (targets : Targets) (task : Task),
    tasks[place]? = some (targets, task) →
      Faithful rollout file targets
        (generate targets.clusterUri targets.databases (.ofText file) rollout.lossFlag) apply task
        (entriesOf place marked)
  nothingElse : ∀ place, tasks[place]? = none → entriesOf place marked = []

variable {before : List Call} {pool next : Pool} {session reached : Session}
  {marked : List (Nat × Call)} {index : Nat}

/-- A task moves on with more calls. -/
theorem Traced.move {targets : Targets} {task : Task} (later : Task) (more : List Call)
    (traced : Traced rollout file generate apply before pool.tasks session marked)
    (found : pool.tasks[index]? = some (targets, task))
    (calls : callsIn reached.events = callsIn session.events ++ more)
    (faithful : Faithful rollout file targets
      (generate targets.clusterUri targets.databases (.ofText file) rollout.lossFlag) apply later
      (entriesOf index marked ++ more)) :
    Traced rollout file generate apply before (pool.setTask index targets later).tasks reached
      (marked ++ more.map (index, ·)) where
  calls := by
    have unmarked : (more.map (index, ·)).map Prod.snd = more := by
      rw [List.map_map]
      exact List.map_id _
    rw [calls, traced.calls, List.map_append, unmarked, List.append_assoc]
  faithful place other current foundLater := by
    rw [entriesOf_append]
    obtain ⟨rfl, rfl, rfl⟩ | ⟨elsewhere, foundBefore⟩ := Pool.getElem?_setTask foundLater
    · rw [entriesOf_marking_self]
      exact faithful
    · rw [entriesOf_marking_other elsewhere, List.append_nil]
      exact traced.faithful place other current foundBefore
  nothingElse place absent := by
    unfold Pool.setTask at absent
    rw [List.getElem?_eq_none_iff, List.length_set, ← List.getElem?_eq_none_iff] at absent
    have elsewhere : place ≠ index := by
      rintro rfl
      rw [found] at absent
      cases absent
    rw [entriesOf_append, entriesOf_marking_other elsewhere, List.append_nil]
    exact traced.nothingElse place absent

/-- A task moves on without a call. -/
theorem Traced.move_quietly {targets : Targets} {task : Task} (later : Task)
    (traced : Traced rollout file generate apply before pool.tasks session marked)
    (found : pool.tasks[index]? = some (targets, task))
    (faithful : Faithful rollout file targets
      (generate targets.clusterUri targets.databases (.ofText file) rollout.lossFlag) apply later
      (entriesOf index marked)) :
    Traced rollout file generate apply before (pool.setTask index targets later).tasks session
      marked := by
  have moved : Traced rollout file generate apply before (pool.setTask index targets later).tasks
      session (marked ++ [].map (index, ·)) :=
    traced.move later [] found (List.append_nil _).symm (by rw [List.append_nil]; exact faithful)
  rw [List.map_nil, List.append_nil] at moved
  exact moved

/-- A step keeps the calls fitting how far the tasks have come. -/
theorem Traced.step (isGenerator : rollout.generator = .answering generate)
    (isApplier : rollout.applier = .answering apply)
    (step : Pool.Step rollout file pool session index next reached)
    (traced : Traced rollout file generate apply before pool.tasks session marked) :
    ∃ later, Traced rollout file generate apply before next.tasks reached later := by
  cases step with
  | @claim targets found =>
    have here := traced.faithful _ _ _ found
    generalize own : entriesOf index marked = calls at here
    cases here
    exact ⟨_, traced.move_quietly _ found (by rw [own]; exact .claimed)⟩
  | @prepare targets found =>
    have here := traced.faithful _ _ _ found
    generalize own : entriesOf index marked = calls at here
    cases here
    rw [asked_of_answering rollout targets file session isGenerator]
    refine ⟨_, traced.move _ [rollout.generation targets file] found ?_ ?_⟩
    · rw [callsIn_notingUnbuilt, Session.callsIn_adding_call, callsIn_askingSession]
    · rw [own]
      exact faithful_halfwayOf rollout file targets _ _
  | @complete targets configuration found =>
    have here := traced.faithful _ _ _ found
    generalize own : entriesOf index marked = calls at here
    cases here with
    | @built job isJob wet =>
      rw [applied_of_answering rollout _ session isApplier]
      refine ⟨_, traced.move _ [.applied job] found ?_ ?_⟩
      · rw [callsIn_notingUnapplied, Session.callsIn_adding_call, Session.callsIn_noting]
        rfl
      · rw [own]
        exact faithful_completed targets apply isJob wet
  | @collect targets outcome found =>
    have here := traced.faithful _ _ _ found
    generalize own : entriesOf index marked = calls at here
    cases here
    exact ⟨_, traced.move_quietly (.collected _) found (by rw [own]; exact .collected)⟩

theorem traced_submit (workers : Value) (plans : List Targets) (session : Session) :
    Traced rollout file generate apply (callsIn session.events)
      (Pool.submit workers plans).tasks session [] where
  calls := (List.append_nil _).symm
  faithful place targets task found := by
    unfold Pool.submit at found
    rw [List.getElem?_map] at found
    obtain ⟨_, _, pair⟩ := Option.map_eq_some_iff.mp found
    cases pair
    exact .waiting
  nothingElse _ _ := rfl

end Traces

/-! ### Several clusters -/

theorem belowOne_int (workers : Int) : belowOne (.int workers) = true ↔ workers < 1 :=
  decide_eq_true_iff

/-- Invalid rollouts end before anything happens, with a fault that only the workers and the plans
decide. -/
theorem perform_applyAll_invalid (rollout : Rollout) {workers : Int} {plans : List Targets}
    (session : Session) (invalid : workers < 1 ∨ ¬ (plans.map Targets.clusterUri).Nodup) :
    (rollout.applyAll (.int workers) plans).perform session =
      (.error (.defect (if workers < 1 then .noWorkers else .sharedCluster)), session) := by
  unfold applyAll
  by_cases few : workers < 1
  · rw [if_pos few, if_pos ((belowOne_int workers).mpr few), Action.perform_bind,
      Action.perform_throw]
  · have shared : ¬ areDistinct plans = true := by
      rw [areDistinct_iff]
      exact invalid.resolve_left few
    rw [if_neg few, if_neg (few ∘ (belowOne_int workers).mp), if_neg shared]
    rfl

/-- The fault of invalid rollouts is one about a value. -/
theorem applyAll_refuses (rollout : Rollout) (workers : Int) (plans : List Targets)
    (session : Session)
    (invalid : workers < 1 ∨ ¬ (plans.map Targets.clusterUri).Nodup) :
    ∃ fault, fault.families.value = true ∧
      (rollout.applyAll (.int workers) plans).perform session = (.error fault, session) := by
  refine ⟨_, ?_, perform_applyAll_invalid rollout session invalid⟩
  split
  · rfl
  · rfl

/-- Without a plan there is no pool. -/
theorem perform_applyAll_nil (rollout : Rollout) {workers : Int} (session : Session)
    (enough : 1 ≤ workers) :
    (rollout.applyAll (.int workers) []).perform session = (.ok [], session) := by
  have enoughWorkers : ¬ belowOne (.int workers) = true := by
    rw [belowOne_int]
    omega
  unfold applyAll
  rw [if_neg enoughWorkers]
  rfl

/-- Valid rollouts are those of a pool. -/
theorem perform_applyAll (rollout : Rollout) {workers : Int} {plans : List Targets}
    (session : Session) (enough : 1 ≤ workers) (distinct : (plans.map Targets.clusterUri).Nodup)
    (nonempty : plans ≠ []) :
    (rollout.applyAll (.int workers) plans).perform session =
      ((Pool.submit (.int workers) plans).run rollout >>= fun pool =>
        Action.ofExcept pool.answer).perform (session.adding (.call (.pooled (.int workers)))) := by
  have enoughWorkers : ¬ belowOne (.int workers) = true := by
    rw [belowOne_int]
    omega
  unfold applyAll
  rw [if_neg enoughWorkers, if_pos (areDistinct_iff.mpr distinct),
    if_neg (nonempty ∘ List.isEmpty_iff.mp)]
  rfl

section Fleet

variable {rollout : Rollout} {file : String}
  {generate : String → List String → Path → Value → Except Fault Value}
  {apply : String → Except Fault Unit}

/-- A collected task is through with its calls and has its own result. -/
theorem Faithful.of_collected {targets : Targets} {generated : Except Fault Value}
    {applied : String → Except Fault Unit} {outcome : Except Fault RolloutResult}
    {calls : List Call}
    (faithful : Faithful rollout file targets generated applied (.collected outcome) calls) :
    outcome = .ok (ownResult rollout.dryRun targets generated applied) ∧
      calls = rollout.ownCalls targets file generated := by
  cases faithful
  exact ⟨rfl, rfl⟩

/-- A pool that has come to rest has its calls interleaved. -/
theorem Traced.interleaving {before : List Call} {pool : Pool} {session : Session}
    {marked : List (Nat × Call)} {workers : Value} {plans : List Targets}
    (traced : Traced rollout file generate apply before pool.tasks session marked)
    (sound : Pool.Sound workers plans pool)
    (enough : ∀ count, workers.integer? = some count → 1 ≤ count) (rest : pool.moves = []) :
    Interleaving
      (plans.map fun targets => rollout.ownCalls targets file
        (generate targets.clusterUri targets.databases (.ofText file) rollout.lossFlag))
      (marked.map Prod.snd) := by
  refine ⟨marked, rfl, fun number => ?_⟩
  rw [← sound.plans, List.map_map, List.getD_eq_getElem?_getD, List.getElem?_map]
  cases found : pool.tasks[number]? with
  | none => exact traced.nothingElse number found
  | some entry =>
    obtain ⟨targets, task⟩ := entry
    obtain ⟨result, rfl⟩ := sound.collected_of_rest enough rest found
    exact (traced.faithful _ _ _ found).of_collected.2

/-- A pool comes to the rollouts' own results with the rollouts' own calls. -/
theorem perform_run_answer (rollout : Rollout) (workers : Value)
    (stored : rollout.schemaFile = .path file)
    (isGenerator : rollout.generator = .answering generate)
    (isApplier : rollout.applier = .answering apply) {plans : List Targets}
    (enough : ∀ count, workers.integer? = some count → 1 ≤ count)
    (distinct : (plans.map Targets.clusterUri).Nodup) (session : Session) :
    ∃ results reached trace,
      ((Pool.submit workers plans).run rollout >>= fun pool =>
        Action.ofExcept pool.answer).perform session = (.ok results, reached) ∧
      List.Forall₂ (fun targets result => result = ownResult rollout.dryRun targets
        (generate targets.clusterUri targets.databases (.ofText file) rollout.lossFlag) apply)
        plans results ∧
      callsIn reached.events = callsIn session.events ++ trace ∧
      Interleaving
        (plans.map fun targets => rollout.ownCalls targets file
          (generate targets.clusterUri targets.databases (.ofText file) rollout.lossFlag))
        trace := by
  obtain ⟨final, reached, ran, ⟨sound, marked, traced⟩, rest⟩ :=
    Pool.run_induction Fault
      (fun pool later => Pool.Sound workers plans pool ∧
        ∃ marked, Traced rollout file generate apply (callsIn session.events) pool.tasks later
          marked)
      stored
      (fun _ _ _ ⟨sound, marked, traced⟩ =>
        ⟨sound, marked, traced.calls, traced.faithful, traced.nothingElse⟩)
      (fun _ _ _ _ _ ⟨sound, _, traced⟩ _ step =>
        ⟨step.sound distinct sound, traced.step isGenerator isApplier step⟩)
      ⟨Pool.sound_submit workers plans, [], traced_submit workers plans session⟩
  obtain ⟨results, answered, matched⟩ := Pool.answer_of_rest sound enough rest
  refine ⟨results, reached, marked.map Prod.snd, ?_, ?_, traced.calls,
    traced.interleaving sound enough rest⟩
  · rw [Action.perform_bind, ran]
    dsimp only
    rw [Action.perform_ofExcept, answered]
  · have own : ∀ entry ∈ final.tasks, ∃ calls, Faithful rollout file entry.1
        (generate entry.1.clusterUri entry.1.databases (.ofText file) rollout.lossFlag) apply
        entry.2 calls := by
      intro entry member
      obtain ⟨place, found⟩ := List.mem_iff_getElem?.mp member
      exact ⟨_, traced.faithful place entry.1 entry.2 found⟩
    rw [← sound.plans, List.forall₂_map_left_iff]
    refine ((List.forall₂_and_left _ _).mpr ⟨own, matched⟩).imp ?_
    rintro ⟨targets, task⟩ result ⟨⟨calls, faithful⟩, rfl⟩
    exact Except.ok.inj faithful.of_collected.1

end Fleet

/-- **A fleet is rolled out to as its clusters are alone.** With plug-ins that answer as functions
say, and whatever turns the workers take, there is one result for each plan, the one that the plan
comes to alone. The calls are those of the plans alone, interleaved: one on the generator for each
plan, and after it at most one on the applier, for the job that this plan's generator referred to.
Without a worker, or with a cluster in two plans, nothing is called on. -/
theorem applyAll_interleaves (file : String)
    (generate : String → List String → Path → Value → Except Fault Value)
    (apply : String → Except Fault Unit) (lossFlag : Value) (dryRun : Bool) (workers : Int)
    (plans : List Targets) (session : Session) :
    let rollout : Rollout := ⟨.path file, .answering generate, .answering apply, lossFlag, dryRun⟩
    (1 ≤ workers → (plans.map Targets.clusterUri).Nodup →
      ∃ results reached own trace,
        (rollout.applyAll (.int workers) plans).perform session = (.ok results, reached) ∧
        List.Forall₂ (fun targets result => ∀ alone,
          ((rollout.apply targets).perform alone).1 = .ok result) plans results ∧
        List.Forall₂ (fun targets calls =>
          (∀ alone, callsIn ((rollout.apply targets).perform alone).2.events =
            callsIn alone.events ++ calls) ∧
          ∃ applications,
            calls = .generated targets.clusterUri targets.databases (Path.ofText file).toText
              lossFlag :: applications ∧
            (applications = [] ∨ ∃ job,
              Refers (generate targets.clusterUri targets.databases (.ofText file) lossFlag) job ∧
              applications = [.applied job])) plans own ∧
        callsIn reached.events = callsIn session.events ++
          (if plans.isEmpty then [] else [.pooled (.int workers)]) ++ trace ∧
        Interleaving own trace) ∧
    (workers < 1 ∨ ¬ (plans.map Targets.clusterUri).Nodup →
      ∃ fault, fault.families.value = true ∧
        (rollout.applyAll (.int workers) plans).perform session = (.error fault, session)) := by
  intro rollout
  have alone : ∀ targets session, ((rollout.apply targets).perform session).1 =
      .ok (ownResult dryRun targets
        (generate targets.clusterUri targets.databases (.ofText file) lossFlag) apply) := by
    intro targets session
    rw [apply_outcome rollout targets session file rfl,
      asked_of_answering rollout targets file session rfl]
    congr 2
    funext job
    rw [applied_of_answering rollout _ _ rfl]
    rfl
  have calls := fun targets session => callsIn_apply rollout targets session file rfl rfl rfl
  refine ⟨fun enough distinct => ?_, applyAll_refuses rollout workers plans session⟩
  by_cases empty : plans = []
  · subst empty
    refine ⟨[], session, [], [], ?_, .nil, .nil, ?_, [], rfl, fun _ => rfl⟩
    · exact perform_applyAll_nil rollout session enough
    · exact ((List.append_nil _).trans (List.append_nil _)).symm
  · obtain ⟨results, reached, trace, performed, matched, made, interleaved⟩ :=
      perform_run_answer rollout (.int workers) rfl rfl rfl (by rintro _ ⟨⟩; exact enough) distinct
        (session.adding (.call (.pooled (.int workers))))
    refine ⟨results, reached, _, trace, ?_, ?_, ?_, ?_, interleaved⟩
    · rw [perform_applyAll rollout session enough distinct empty]
      exact performed
    · exact matched.imp fun targets result own => by rw [own]; exact alone targets
    · rw [List.forall₂_map_right_iff, List.forall₂_same]
      intro targets _
      refine ⟨calls targets, _, rfl, ?_⟩
      cases found : referenceIn
          (generate targets.clusterUri targets.databases (.ofText file) lossFlag) with
      | none => exact Or.inl rfl
      | some job =>
        cases dryRun with
        | true => exact Or.inl rfl
        | false => exact Or.inr ⟨job, (referenceIn_eq_some_iff _ _).mp found, rfl⟩
    · rw [made, Session.callsIn_adding_call, if_neg (empty ∘ List.isEmpty_iff.mp)]

/-- Two clusters whose rollouts take turns, the second one ahead. -/
theorem applyAll_interleaves_two :
    let plans : List Targets := [⟨"https://a", ["X"], .all⟩, ⟨"https://b", ["Y"], .all⟩]
    let rollout : Rollout := ⟨.path "s.kql", .answering fun uri _ _ _ => .ok (.text uri),
      .answering fun _ => .ok (), .bool true, false⟩
    let session : Session := { Session.start ⟨[], []⟩ with turns := [0, 1, 1, 1, 1] }
    (1 : Int) ≤ 2 ∧ (plans.map Targets.clusterUri).Nodup ∧
      ∃ results reached, (rollout.applyAll (.int 2) plans).perform session =
        (.ok results, reached) ∧ results.length = plans.length := by
  intro plans rollout session
  have distinct : (plans.map Targets.clusterUri).Nodup := by decide
  obtain ⟨results, reached, _, _, performed, matched, _⟩ :=
    (applyAll_interleaves "s.kql" (fun uri _ _ _ => .ok (.text uri)) (fun _ => .ok ()) (.bool true)
      false 2 plans session).1 (by decide) distinct
  exact ⟨by decide, distinct, results, reached, performed, matched.length_eq.symm⟩

end Rollout

end FleetSchema
