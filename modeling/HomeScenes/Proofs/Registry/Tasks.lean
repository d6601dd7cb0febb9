import HomeScenes.Proofs.Registry.Calls

/-!
# A call step by step

  A call does not run at one go.  It waits for the lock, for the reply to its request, for the
  file to be opened and for the text to be written, and whenever it waits others may go on.  Here
  a call is taken apart at these places: `Phase` says where it stands and what it has in mind, and
  `Moment.next` what it does next once it holds the lock.

  What a call has read before it waits it does not read again: the scene of the record is
  remembered in its plan, and the text to be saved is made when the record changes.

  The crux is `Errand.served`: left alone, the steps of a call under the lock amount to the call.
-/

namespace HomeScenes.Registry

open Controller (Machine Operation Outcome)

/-! ## Phases -/

/-- What a call wants the lock for. -/
inductive Errand where
  | deploy (draft : Deployment)
  | remove (id : String)

/-- What a call has in mind when it sends a request, with the scene that it found recorded. -/
inductive Plan where
  | deploy (draft : Deployment) (scene : Option Int)
  | remove (id : String)

/-- The id of the automation that a plan is about. -/
def Plan.id : Plan → String
  | .deploy draft _ => draft.automation.id
  | .remove id => id

/-- **Where a call stands** when it waits: it has not begun; it wants the lock; its request is on
    its way; the reply is there; the file is to be opened; the text is to be written; the lock is
    to be released; it has ended. -/
inductive Phase where
  | ready
  | waiting (errand : Errand)
  | asking (plan : Plan) (operation : Operation)
  | answered (plan : Plan) (settled : Except Controller.Failure Outcome)
  | opening (text : String) (answer : Answer)
  | writing (text : String) (answer : Answer)
  | leaving (answer : Answer)
  | finished (answer : Answer)

/-- The answer of a call that has ended. -/
def Phase.answer? : Phase → Option Answer
  | .finished answer => some answer
  | _ => none

/-- Whether a call in this phase holds the lock. -/
def Phase.isInside : Phase → Bool
  | .ready | .waiting _ | .finished _ => false
  | _ => true

/-! ## Steps -/

/-- **Beginning**: an install makes its draft before it wants the lock, and ends if there is
    none. -/
def Call.begin [Stack] : Call → Phase
  | .install order =>
    match draft order.automation order.statements with
    | .error why => .finished (.installed (.error why))
    | .ok draft => .waiting (.deploy draft)
  | .uninstall id => .waiting (.remove id)

/-- **Saving begins**: the text is made from the records as they are now. -/
def startSave (registry : Registry) (answer : Answer) : Phase × Registry :=
  (.opening registry.savedText answer, registry)

/-- **Entering**, with the lock just taken: the record is read, and the request follows from it. -/
def Errand.enter (registry : Registry) : Errand → Phase × Registry
  | .deploy draft =>
    (.asking (.deploy draft (registry.sceneOf? draft.automation.id))
      (registry.deployOperation draft), registry)
  | .remove id =>
    match registry.get? id with
    | none => (.leaving (.uninstalled (.ok false)), registry)
    | some deployment =>
      match deployment.sceneId with
      | some scene => (.asking (.remove id) (.delete scene), registry)
      | none => startSave (registry.forget id) (.uninstalled (.ok true))

/-- The deployment of a draft, in the scene that was made for it or else in the scene remembered. -/
def placed (draft : Deployment) (scene : Option Int) : Outcome → Deployment
  | .scene made => { draft with sceneId := some made.id }
  | _ => { draft with sceneId := scene }

/-- What a call remembers of its scene is what the registry says. -/
theorem placed_eq_deployed (registry : Registry) (draft : Deployment) (outcome : Outcome) :
    placed draft (registry.sceneOf? draft.automation.id) outcome =
      registry.deployed draft outcome := by
  cases outcome <;> rfl

/-- **Going on** with the reply: the record is changed and the save begins, unless the request
    failed. -/
def Plan.resume (registry : Registry) (plan : Plan) (settled : Except Controller.Failure Outcome) :
    Phase × Registry :=
  match plan, settled with
  | .deploy _ _, .error why => (.leaving (.installed (.error (.controller why))), registry)
  | .deploy draft scene, .ok outcome =>
    startSave (registry.record (placed draft scene outcome))
      (.installed (.ok (placed draft scene outcome)))
  | .remove _, .error why => (.leaving (.uninstalled (.error (.controller why))), registry)
  | .remove id, .ok _ => startSave (registry.forget id) (.uninstalled (.ok true))

variable [Stack]

/-- What a call under the lock works with: where it stands, the registry and the controller. -/
structure Moment (σ : Type) where
  phase : Phase
  registry : Registry
  state : σ

/-- The moment after a part of a call that asks nothing of the controller. -/
def Moment.ofEntry {σ : Type} (entry : Phase × Registry) (state : σ) : Moment σ :=
  ⟨entry.1, entry.2, state⟩

section Next

variable {σ : Type} (controller : Machine σ)

/-- **The next step** of a call that holds the lock. -/
def Moment.next (moment : Moment σ) : Moment σ :=
  match moment.phase with
  | .asking plan operation =>
    let (settled, state) := operation.perform controller moment.state
    { moment with phase := .answered plan settled, state := state }
  | .answered plan settled =>
    .ofEntry (plan.resume moment.registry settled) moment.state
  | .opening text answer =>
    match moment.registry.disk.openToWrite with
    | .error obstacle =>
      { moment with phase := .leaving (answer.failed (.unsaved moment.registry.path obstacle)) }
    | .ok disk =>
      { moment with phase := .writing text answer, registry := moment.registry.onDisk disk }
  | .writing text answer =>
    match moment.registry.disk.write text with
    | .error obstacle =>
      { moment with phase := .leaving (answer.failed (.unsaved moment.registry.path obstacle)) }
    | .ok disk => { moment with phase := .leaving answer, registry := moment.registry.onDisk disk }
  | .leaving answer => { moment with phase := .finished answer }
  | _ => moment

/-- What becomes of a call that is left alone: no call takes more than five steps under the lock. -/
def Moment.completed (moment : Moment σ) : Moment σ :=
  (Moment.next controller)^[5] moment

/-! ## A call left alone -/

/-- The moment at which a job has been served. -/
def Served.moment (served : Served σ) : Moment σ :=
  ⟨.finished served.answer, served.registry, served.state⟩

/-- A call that has ended takes no steps. -/
theorem Served.iterate_moment (k : Nat) (served : Served σ) :
    (Moment.next controller)^[k] served.moment = served.moment :=
  Function.iterate_fixed rfl k

theorem Moment.completed_of_finished {moment : Moment σ} {answer : Answer}
    (h : moment.phase = .finished answer) : moment.completed controller = moment := by
  obtain ⟨phase, registry, state⟩ := moment
  cases h
  exact Served.iterate_moment controller 5 ⟨answer, registry, state⟩

/-- **A step is part of the whole**: what a call comes to is what it comes to after its next
    step. -/
theorem Moment.completed_next {moment : Moment σ} {served : Served σ}
    (h : moment.completed controller = served.moment) :
    (moment.next controller).completed controller = served.moment := by
  rw [completed] at h ⊢
  rw [← Function.iterate_succ_apply, Function.iterate_succ_apply', h]
  rfl

theorem Moment.iterate_leaving (k : Nat) (answer : Answer) (registry : Registry) (state : σ) :
    (Moment.next controller)^[k + 1] ⟨.leaving answer, registry, state⟩ =
      (⟨answer, registry, state⟩ : Served σ).moment := by
  rw [Function.iterate_succ_apply]
  exact Served.iterate_moment controller k ⟨answer, registry, state⟩

/-- The answer after a save. -/
def Answer.afterSave (answer : Answer) : Except Failure Unit → Answer
  | .ok () => answer
  | .error why => answer.failed why

/-- **The steps of a save** amount to the save. -/
theorem Moment.iterate_startSave (k : Nat) (registry : Registry) (answer : Answer) (state : σ) :
    (Moment.next controller)^[k + 3] (.ofEntry (startSave registry answer) state) =
      (⟨answer.afterSave registry.save.1, registry.save.2, state⟩ : Served σ).moment := by
  rw [Function.iterate_succ_apply, startSave, ofEntry, save, Disk.save]
  cases hopen : registry.disk.openToWrite with
  | error obstacle =>
    simp only [next, hopen]
    exact iterate_leaving controller (k + 1) _ registry state
  | ok opened =>
    simp only [next, hopen]
    rw [Function.iterate_succ_apply]
    cases hwrite : opened.write registry.savedText with
    | error obstacle =>
      simp only [next, onDisk, hwrite]
      exact iterate_leaving controller k _ _ state
    | ok written =>
      simp only [next, onDisk, hwrite]
      exact iterate_leaving controller k _ _ state

/-- A request is sent, and the call goes on with the reply. -/
theorem Moment.completed_asking {plan : Plan} {operation : Operation} {registry : Registry}
    {state after : σ} {settled : Except Controller.Failure Outcome}
    (h : operation.perform controller state = (settled, after)) :
    Moment.completed controller (.ofEntry (.asking plan operation, registry) state) =
      (Moment.next controller)^[3] (.ofEntry (plan.resume registry settled) after) := by
  have hasking : Moment.next controller (.ofEntry (.asking plan operation, registry) state) =
      ⟨.answered plan settled, registry, after⟩ := by
    simp only [next, ofEntry, h]
  have hanswered : Moment.next controller ⟨.answered plan settled, registry, after⟩ =
      .ofEntry (plan.resume registry settled) after := rfl
  rw [completed, Function.iterate_succ_apply, hasking, Function.iterate_succ_apply, hanswered]

theorem deploy_served (draft : Deployment) (registry : Registry) (state : σ) {a : Automation}
    {statements : List String} (h : Registry.draft a statements = .ok draft) :
    Moment.completed controller (.ofEntry ((Errand.deploy draft).enter registry) state) =
      let (result, after, state) := registry.install controller a statements state
      (⟨.installed result, after, state⟩ : Served σ).moment := by
  simp only [Errand.enter, install, h]
  cases hperform : (registry.deployOperation draft).perform controller state with
  | mk settled state' =>
    rw [Moment.completed_asking controller hperform]
    cases settled with
    | error why => exact Moment.iterate_leaving controller 2 _ registry state'
    | ok outcome =>
      simp only [Plan.resume, placed_eq_deployed]
      rw [Moment.iterate_startSave controller 0]
      have hrecord :
          registry.record { draft with sceneId := registry.deployedScene draft outcome } =
            registry.record (registry.deployed draft outcome) := rfl
      simp only [hrecord]
      cases (registry.record (registry.deployed draft outcome)).save with
      | mk saved after => cases saved <;> rfl

theorem remove_served (id : String) (registry : Registry) (state : σ) :
    Moment.completed controller (.ofEntry ((Errand.remove id).enter registry) state) =
      let (result, after, state) := registry.uninstall controller id state
      (⟨.uninstalled result, after, state⟩ : Served σ).moment := by
  simp only [Errand.enter, uninstall]
  cases registry.get? id with
  | none => exact Moment.iterate_leaving controller 4 _ registry state
  | some deployment =>
    cases hscene : deployment.sceneId with
    | none =>
      simp only [hscene, withdraw]
      rw [Moment.completed, Moment.iterate_startSave controller 2]
      cases (registry.forget id).save with
      | mk saved after => cases saved <;> rfl
    | some scene =>
      simp only [hscene, withdraw]
      cases hperform : (Operation.delete scene).perform controller state with
      | mk settled state' =>
        rw [Moment.completed_asking controller hperform]
        cases settled with
        | error why => exact Moment.iterate_leaving controller 2 _ registry state'
        | ok outcome =>
          simp only [Plan.resume]
          rw [Moment.iterate_startSave controller 0]
          cases (registry.forget id).save with
          | mk saved after => cases saved <;> rfl

/-- **Left alone, the steps of a call under the lock amount to the call.** -/
theorem Errand.served {job : Job} {errand : Errand} (h : job.call.begin = .waiting errand)
    (registry : Registry) (state : σ) :
    Moment.completed controller (.ofEntry (errand.enter (registry.facing job.obstacle)) state) =
      (serve controller job registry state).moment := by
  obtain ⟨call, obstacle⟩ := job
  cases call with
  | install order =>
    cases hdraft : draft order.automation order.statements with
    | error why =>
      rw [Call.begin, hdraft] at h
      cases h
    | ok draft =>
      rw [Call.begin, hdraft] at h
      cases h
      exact deploy_served controller draft (registry.facing obstacle) state hdraft
  | uninstall id =>
    cases h
    exact remove_served controller id (registry.facing obstacle) state

/-- **A call without a draft** ends at once and leaves everything as it was. -/
theorem serve_of_begin_finished {job : Job} {answer : Answer}
    (h : job.call.begin = .finished answer) (registry : Registry) (state : σ) :
    serve controller job registry state = ⟨answer, registry.facing job.obstacle, state⟩ := by
  obtain ⟨call, obstacle⟩ := job
  cases call with
  | install order =>
    cases hdraft : draft order.automation order.statements with
    | ok draft =>
      rw [Call.begin, hdraft] at h
      cases h
    | error why =>
      rw [Call.begin, hdraft] at h
      cases h
      simp only [serve, install, hdraft]
  | uninstall id => cases h

/-- A call begins outside the lock. -/
theorem Call.isInside_begin (call : Call) : call.begin.isInside = false := by
  cases call with
  | install order =>
    rw [begin]
    cases draft order.automation order.statements <;> rfl
  | uninstall id => rfl

end Next

end HomeScenes.Registry
