/-
**What the stages of a command may do.**

Storing and generating write files, and looking up targets and letting the user pick among them is
quiet: nothing is asked to be confirmed, connected to, started or written.

* `SchemaStore.within_store`, `JobWriter.within_generate`: the stages that write files;
* `CommandLine.within_plan`, `ApplyRequest.within_pickEach`: looking up and picking targets;
* `ApplyRequest.within_inputs`: reading what a request needs.
-/

import FleetSchema.CommandLine
import FleetSchema.Proofs.Session.Frame

namespace FleetSchema

open FleetSchema.Action

variable {α : Type} {kinds : List EventKind} {writes : Bool}

/-! ### Ends of a command -/

namespace Stop

theorem within_plainly {action : Action Fault α} (within : action.Within kinds writes) :
    (plainly action).Within kinds writes :=
  within.onFault fun _ => within_throw _

/-- A line that ends a command. -/
theorem within_ending (markup : String) (stop : Stop) :
    (plainly (Console.print markup) >>= fun _ => throw stop : Action Stop α).Within kinds
      writes :=
  (within_plainly (within_print markup)).bind fun _ => within_throw _

theorem within_okExit (message : String) : (okExit message : Action Stop α).Within kinds writes :=
  Within.ite (within_throw _) (within_ending _ _)

theorem within_die (message : String) (code : Int) :
    (die message code : Action Stop α).Within kinds writes := within_ending _ _

theorem within_warnExit (message : String) (code : Int) :
    (warnExit message code : Action Stop α).Within kinds writes := within_ending _ _

theorem within_exitFrom (fault : Fault) (message : Option String) :
    (exitFrom fault message : Action Stop α).Within kinds writes := within_ending _ _

theorem within_expecting {action : Action Fault α} (within : action.Within kinds writes) :
    (expecting action).Within kinds writes :=
  within.onFault fun fault => Within.ite (within_exitFrom fault none) (within_throw _)

/-- What comes to a value within a command has come to it. -/
theorem plainly_eq_ok {action : Action Fault α} {session last : Session} {value : α}
    (performed : (plainly action).perform session = (.ok value, last)) :
    action.perform session = (.ok value, last) :=
  perform_onFault_eq_ok (fun _ _ => by rintro ⟨⟩) performed

theorem expecting_eq_ok {action : Action Fault α} {session last : Session} {value : α}
    (performed : (expecting action).perform session = (.ok value, last)) :
    action.perform session = (.ok value, last) := by
  refine perform_onFault_eq_ok (fun fault reached => ?_) performed
  split
  · rw [perform_exitFrom]
    rintro ⟨⟩
  · rintro ⟨⟩

end Stop

/-! ### Files -/

namespace Storage

theorem within_checkPath (text : String) : (checkPath text).Within kinds writes :=
  Within.ite (within_throw _) (within_pure _)

theorem within_read (path : Path) : (read path).Within kinds writes := by
  refine (within_checkPath _).bind fun _ => within_get.bind fun session => ?_
  split
  · exact within_pure _
  · exact within_throw _

/-- An action that changes nothing but the files. -/
theorem extends_tree (session : Session) (tree : FileTree) :
    session.Extends kinds true { session with tree := tree } :=
  .of_events (List.append_nil _).symm (fun _ member => absurd member List.not_mem_nil) rfl rfl
    fun readOnly => Bool.noConfusion readOnly

theorem within_makeDirectories (path : Path) (mode : Nat) :
    (makeDirectories path mode).Within kinds true := by
  refine (within_checkPath _).bind fun _ session => ?_
  rw [perform_bind, perform_get]
  dsimp only
  split
  · exact extends_tree session _
  · exact .refl session

theorem within_createFresh (directory : Path) (start ending : String) :
    (createFresh directory start ending).Within kinds true := by
  refine (within_checkPath _).bind fun _ session => ?_
  rw [perform_bind, perform_get]
  dsimp only
  split
  · exact extends_tree session _
  · exact .refl session

theorem within_write (path : Path) (text : String) : (write path text).Within kinds true := by
  intro session
  rw [perform_write]
  split
  · exact extends_tree session _
  · exact extends_tree session _

/-- A fresh file may be written, whatever comes of it. -/
theorem within_writeFresh (directory : Path) (mode : Nat) (start ending : String)
    (content : Except Defect String) :
    (writeFresh directory mode start ending content).Within kinds true :=
  (within_makeDirectories _ _).bind fun _ => (within_createFresh _ _ _).bind fun _ =>
    (within_ofDefect _).bind fun _ => (within_write _ _).bind fun _ => within_pure _

end Storage

theorem SchemaStore.within_store (place : SchemaStore) (schema : SchemaDefinition) :
    (place.store schema).Within kinds true := by
  have fresh : (place.writeFresh schema).Within kinds true := Storage.within_writeFresh _ _ _ _ _
  refine (fresh.onFault fun fault => ?_).bind fun _ =>
    (within_log _ _ _ _ (by decide)).bind fun _ => within_pure _
  unfold storeFault
  exact Within.ite ((within_log _ _ _ _ (by decide)).bind fun _ => within_throw _) (within_throw _)

theorem JobWriter.within_generate (writer : JobWriter) (uri : String) (databases : List String)
    (schemaFile : String) (lossFlag : Value) :
    (writer.generate uri databases schemaFile lossFlag).Within kinds true := by
  have fresh : (writer.writeFresh uri (writer.document uri databases schemaFile lossFlag)).Within
      kinds true := Storage.within_writeFresh _ _ _ _ _
  exact (fresh.onFault fun _ => within_throw _).bind fun _ =>
    (within_log _ _ _ _ (by decide)).bind fun _ => within_pure _

/-! ### Services -/

namespace ManagementService

theorem within_execute (service : ManagementService) (database : Option String)
    (statement : String) : (service.execute database statement).Within kinds writes :=
  within_get.bind fun _ => (within_call (Or.inl rfl)).bind fun _ => within_ofExcept _

theorem within_close (service : ManagementService) : service.close.Within kinds writes :=
  within_get.bind fun _ => (within_call (Or.inl rfl)).bind fun _ => within_ofExcept _

end ManagementService

/-- A client is one for a service. -/
def QueryClient.IsServed (client : QueryClient) : Prop :=
  ∃ service : ManagementService, client = service.client

/-- A stream is one of a service. -/
def RowStream.IsServed (stream : RowStream) : Prop :=
  ∃ (management : ManagementStream) (service : ManagementService), stream = management.rows service

theorem RowStream.within_read {stream : RowStream} (served : stream.IsServed) :
    Action.Within kinds writes (stream.read : Action Fault Reading) := by
  obtain ⟨management, service, rfl⟩ := served
  intro session
  have executed : session.Extends kinds writes
      ((service.execute management.database management.statement).perform session).2 :=
    service.within_execute _ _ session
  unfold ManagementStream.rows
  dsimp only
  rw [ManagementStream.perform_read]
  by_cases closed : management.closed = true
  · rw [if_pos closed]
    exact .refl session
  · rw [if_neg closed]
    generalize Action.perform _ session = ended at executed ⊢
    obtain ⟨fault | answer, reached⟩ := ended
    · exact executed
    · exact executed

/-! ### Catalogues -/

theorem within_isSelected (pattern : NamePattern) (name : String) :
    (isSelected pattern name).Within kinds writes := by
  unfold isSelected
  split
  · exact within_pure _
  · exact within_pure _
  · exact within_throw _

theorem within_readNames (uri logger : String) (pattern : NamePattern) (items : List RowItem) :
    (readNames uri logger pattern items).Within kinds writes := by
  induction items with
  | nil => exact within_pure _
  | cons item rest ih =>
    cases item with
    | row cells =>
      exact (within_ofDefect _).bind fun _ => (within_isSelected _ _).bind fun _ =>
        ih.bind fun _ => within_pure _
    | inlineError message => exact (within_log _ _ _ _ (by decide)).bind fun _ => ih

theorem within_streamNames {stream : RowStream} (served : stream.IsServed) (uri logger : String)
    (pattern : NamePattern) : (streamNames stream uri logger pattern).Within kinds writes := by
  refine (RowStream.within_read served).bind fun reading =>
    (within_readNames _ _ _ _).bind fun names => ?_
  split
  · exact within_pure _
  · exact within_throw _

theorem within_queryNames {client : QueryClient} (served : client.IsServed) (uri logger : String)
    (pattern : NamePattern) : (queryNames client uri logger pattern).Within kinds writes := by
  obtain ⟨service, rfl⟩ := served
  exact (within_streamNames ⟨_, service, rfl⟩ uri logger pattern).closing (within_pure ())

theorem within_listingFault (uri logger : String) (fault : Fault) :
    (listingFault uri logger fault : Action Fault α).Within kinds writes :=
  Within.ite ((within_log _ _ _ _ (by decide)).bind fun _ => within_throw _)
    ((within_log _ _ _ _ (by decide)).bind fun _ => within_throw _)

theorem within_listDatabases [Interpreter] {client : QueryClient} (served : client.IsServed)
    (uri logger source : String) : (listDatabases client uri logger source).Within kinds writes :=
  (within_ofExcept _).bind fun pattern =>
    ((within_queryNames served uri logger pattern).onFault
      fun fault => within_listingFault uri logger fault).bind fun _ =>
        (within_log _ _ _ _ (by decide)).bind fun _ => within_pure _

/-! ### Targets -/

theorem Web.within_fetch (request : WebRequest) : (Web.fetch request).Within kinds writes := by
  refine (within_call (Or.inl rfl)).bind fun _ session => ?_
  rw [perform_bind, perform_get]
  dsimp only
  split
  · exact .refl session
  · rw [perform_bind, perform_set]
    dsimp only
    rw [perform_ofExcept]
    exact .of_same rfl rfl rfl rfl

namespace LookupService

/-- A service gives answers without doing anything but asking the web. -/
def IsPlain (service : LookupService) : Prop :=
  ∀ endpoint cluster label (kinds : List EventKind) (writes : Bool),
    (service.lookup endpoint cluster label).Within kinds writes

theorem isPlain_overWeb (patience : Value) (logger : String) :
    (overWeb patience logger).IsPlain := by
  intro endpoint cluster label kinds writes
  have ask : (ask patience endpoint cluster label).Within kinds writes :=
    (Web.within_fetch _).bind fun _ => (within_ofExcept _).bind fun _ => within_ofExcept _
  have names : (namesOverWeb patience logger endpoint cluster label).Within kinds writes := by
    refine (ask.onFault fun _ => within_throw _).bind fun answer => ?_
    split
    · exact within_throw _
    · exact (within_log _ _ _ _ (by decide)).bind fun _ => within_pure _
  exact names.bind fun _ => within_pure _

end LookupService

/-- A cluster has a client for a service. -/
def Cluster.IsServed (cluster : Cluster) : Prop := cluster.client.IsServed

namespace Targets

variable {cluster : Cluster} {service : LookupService}

theorem within_lookUp (plain : service.IsPlain) (cluster : Cluster) (filter : TargetFilter) :
    (lookUp cluster filter service).Within kinds writes :=
  (within_ofExcept _).bind fun _ =>
    ((plain _ _ _ _ _).onFault fun _ => within_throw _).bind fun _ => within_ofExcept _

theorem within_source [Interpreter] (served : cluster.IsServed) (plain : service.IsPlain)
    (filter : TargetFilter) (mode : FilterMode) :
    (source cluster filter service mode).Within kinds writes := by
  cases mode with
  | singleDb => exact within_listDatabases served _ _ _
  | explicitList => exact within_pure _
  | webhook => exact within_lookUp plain cluster filter
  | all =>
    refine (within_warning _ _ _ ?_).bind fun _ => within_listDatabases served _ _ _
    unfold warnsIdle ClusterUri.startsAs
    rw [String.toList_append]
    rfl

theorem within_warnIgnored (cluster : Cluster) (filter : TargetFilter) :
    (warnIgnored cluster filter).Within kinds writes := by
  unfold warnIgnored
  split
  · refine within_warning _ _ _ ?_
    unfold warnsIdle ClusterUri.startsAs
    simp only [String.toList_append]
    rfl
  · exact within_pure _

theorem within_resolveFault (cluster : Cluster) (fault : Fault) :
    (resolveFault cluster fault : Action Fault α).Within kinds writes :=
  Within.ite ((within_log _ _ _ _ (by decide)).bind fun _ => within_throw _) (within_throw _)

end Targets

theorem within_resolve [Interpreter] {cluster : Cluster} {service : LookupService}
    (served : cluster.IsServed) (plain : service.IsPlain) (filter : TargetFilter) :
    (resolve cluster filter (some service)).Within kinds writes :=
  (Targets.within_warnIgnored cluster filter).bind fun _ =>
    ((Targets.within_source served plain filter _).onFault
      fun fault => Targets.within_resolveFault cluster fault).bind fun _ => within_pure _

theorem within_resolveAll [Interpreter] {clusters : List Cluster} {service : LookupService}
    (served : ∀ cluster ∈ clusters, cluster.IsServed) (plain : service.IsPlain)
    (filter : TargetFilter) :
    (resolveAll filter (some service) clusters).Within kinds writes := by
  induction clusters with
  | nil => exact within_pure _
  | cons cluster rest ih =>
    exact (within_resolve (served _ List.mem_cons_self) plain filter).bind fun _ =>
      (ih fun other member => served other (List.mem_cons_of_mem _ member)).bind fun _ =>
        within_pure _

theorem CommandLine.within_plan [Interpreter] (surroundings : Surroundings) (filter : TargetFilter)
    {clusters : List Cluster} (served : ∀ cluster ∈ clusters, cluster.IsServed) :
    (plan surroundings filter clusters).Within kinds writes :=
  Stop.within_expecting (Within.status
    (within_resolveAll served (LookupService.isPlain_overWeb _ _) filter)
    fun announces => absurd announces (by decide))

/-! ### Prompts -/

namespace Prompt

/-- A prompt with boxes is no question to be confirmed. -/
theorem within_put_checkbox (message : String) (options : List (String × Value)) :
    (put .checkbox message options).Within kinds writes :=
  within_get.bind fun _ => Within.ite (fun session => session.extends_adding (Or.inl rfl) rfl)
    (Within.bind (fun session => session.extends_adding (Or.inl rfl) rfl) fun _ => within_throw _)

theorem within_nextPicking : nextPicking.Within kinds writes := by
  intro session
  unfold nextPicking
  rw [perform_bind, perform_get]
  dsimp only
  split
  · exact .refl session
  · exact .of_same rfl rfl rfl rfl

theorem within_select (message : String) (choices : List Choice) :
    (select message choices).Within kinds writes :=
  Within.ite (within_pure _)
    (((within_put_checkbox _ _).onFault fun _ => within_put_checkbox _ _).bind fun _ =>
      within_nextPicking.bind fun _ => within_ofDefect _)

end Prompt

theorem Targets.within_pick (targets : Targets) : targets.pick.Within kinds writes :=
  (within_ofExcept _).bind fun _ => (Prompt.within_select _ _).bind fun _ => within_pure _

namespace ApplyRequest

theorem within_pickEach (found : List Targets) : (pickEach found).Within kinds writes := by
  induction found with
  | nil => exact within_pure _
  | cons targets rest ih =>
    exact targets.within_pick.bind fun _ => ih.bind fun _ => within_pure _

theorem within_warnSkipped (picked : List Targets) : (warnSkipped picked).Within kinds writes := by
  induction picked with
  | nil => exact within_pure _
  | cons targets rest ih =>
    exact Within.ite ((within_print _).bind fun _ => ih) ih

theorem within_inputs [Interpreter] (request : ApplyRequest) :
    request.inputs.Within kinds writes := by
  refine (within_ofExcept _).bind fun filter => Within.bind ?_ fun schema => within_pure _
  exact ((Storage.within_read _).onFault fun _ => within_throw _).bind fun _ =>
    (within_ofDefect _).bind fun _ => within_pure _

end ApplyRequest

end FleetSchema
