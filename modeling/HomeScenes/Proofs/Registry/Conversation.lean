import HomeScenes.Proofs.Controller.Turns
import HomeScenes.Proofs.Registry.Calls

/-!
# A call and its conversation with the controller

  What a call answers, what it leaves behind and what was said to the controller meanwhile belong
  together.  `Course` lists the seven courses that a call can take: an install is rejected, fails
  on the controller or is recorded; an uninstall finds nothing, fails on the controller, or drops
  a record with or without a scene.  No course has more than one turn.

  `serve_course` says that every call takes one of them.  What is proved about failures and about
  replies starts from there.
-/

namespace HomeScenes.Registry

open Controller (Machine Operation Outcome Reply Turn Heard listening)

variable [Stack]

/-! ## Nobody notices the listener -/

/-- The result of an operation, without what was heard. -/
def unheard {α σ : Type} (x : α × Registry × Heard σ) : α × Registry × σ :=
  (x.1, x.2.1, x.2.2.state)

section Listening

variable {σ : Type} (controller : Machine σ)

/-- Listening adds the one turn of an operation and changes nothing else. -/
theorem perform_listening (operation : Operation) (heard : Heard σ) :
    operation.perform (listening controller) heard =
      ((operation.perform controller heard.state).1,
        ⟨heard.turns ++ [⟨operation.request, (controller operation.request heard.state).1⟩],
          (operation.perform controller heard.state).2⟩) := rfl

/-- **Installing is the same** whether or not somebody listens. -/
theorem install_listening (a : Automation) (statements : List String) (registry : Registry)
    (heard : Heard σ) :
    unheard (registry.install (listening controller) a statements heard) =
      registry.install controller a statements heard.state := by
  simp only [install]
  cases draft a statements with
  | error why => rfl
  | ok d =>
    simp only [perform_listening]
    cases (registry.deployOperation d).perform controller heard.state with
    | mk settled state' =>
      cases settled with
      | error why => rfl
      | ok outcome =>
        obtain ⟨disk, hsave | ⟨obstacle, hsave⟩⟩ :=
          (registry.record { d with sceneId := registry.deployedScene d outcome }).save_cases
        · simp only [hsave]
          rfl
        · simp only [hsave]
          rfl

/-- So is taking a scene away. -/
theorem withdraw_listening (scene : Option Int) (heard : Heard σ) :
    ∃ turns, withdraw (listening controller) scene heard =
      ((withdraw controller scene heard.state).1,
        ⟨turns, (withdraw controller scene heard.state).2⟩) := by
  cases scene with
  | none => exact ⟨heard.turns, rfl⟩
  | some id =>
    simp only [withdraw, perform_listening]
    refine ⟨heard.turns ++ [⟨(Operation.delete id).request,
      (controller (Operation.delete id).request heard.state).1⟩], ?_⟩
    cases (Operation.delete id).perform controller heard.state with
    | mk settled state' => cases settled <;> rfl

/-- And so is uninstalling. -/
theorem uninstall_listening (id : String) (registry : Registry) (heard : Heard σ) :
    unheard (registry.uninstall (listening controller) id heard) =
      registry.uninstall controller id heard.state := by
  simp only [uninstall]
  cases registry.get? id with
  | none => rfl
  | some d =>
    obtain ⟨turns, hwithdraw⟩ := withdraw_listening controller d.sceneId heard
    simp only [hwithdraw]
    cases withdraw controller d.sceneId heard.state with
    | mk settled state' =>
      cases settled with
      | error why => rfl
      | ok done =>
        obtain ⟨disk, hsave | ⟨obstacle, hsave⟩⟩ := (registry.forget id).save_cases
        · simp only [hsave]
          rfl
        · simp only [hsave]
          rfl

/-- **What is overheard** while a job is served. -/
def overheard (job : Job) (registry : Registry) (state : σ) : List Turn :=
  (serve (listening controller) job registry ⟨[], state⟩).state.turns

end Listening

/-! ## The courses of a call -/

/-- **What a call asks of the controller**, if it asks anything. -/
def Call.operation? (registry : Registry) : Call → Option Operation
  | .install order =>
    (draft order.automation order.statements).toOption.map registry.deployOperation
  | .uninstall id => (registry.sceneOf? id).map .delete

/-- **The courses of a call**, by the call, its turns, its answer and the registry after it. -/
inductive Course (before : Registry) : Call → List Turn → Answer → Registry → Prop where
  | rejected {order : InstallOrder} {why : Failure}
    (hdraft : draft order.automation order.statements = .error why) :
    Course before (.install order) [] (.installed (.error why)) before
  | refused {order : InstallOrder} {d : Deployment} {reply : Reply} {why : Controller.Failure}
    (hdraft : draft order.automation order.statements = .ok d)
    (hsettle : (before.deployOperation d).settle reply = .error why) :
    Course before (.install order) [⟨(before.deployOperation d).request, reply⟩]
      (.installed (.error (.controller why))) before
  | recorded {order : InstallOrder} {d : Deployment} {reply : Reply} {outcome : Outcome}
    {result : Except Failure Deployment} {disk : Disk}
    (hdraft : draft order.automation order.statements = .ok d)
    (hsettle : (before.deployOperation d).settle reply = .ok outcome)
    (heffect : tookEffect result = true) :
    Course before (.install order) [⟨(before.deployOperation d).request, reply⟩] (.installed result)
      ((before.record (before.deployed d outcome)).onDisk disk)
  | missing {id : String} (hget : before.get? id = none) :
    Course before (.uninstall id) [] (.uninstalled (.ok false)) before
  | kept {id : String} {d : Deployment} {scene : Int} {reply : Reply} {why : Controller.Failure}
    (hget : before.get? id = some d) (hscene : d.sceneId = some scene)
    (hsettle : (Operation.delete scene).settle reply = .error why) :
    Course before (.uninstall id) [⟨(Operation.delete scene).request, reply⟩]
      (.uninstalled (.error (.controller why))) before
  | forgotten {id : String} {d : Deployment} {result : Except Failure Bool} {disk : Disk}
    (hget : before.get? id = some d) (hscene : d.sceneId = none)
    (heffect : tookEffect result = true) (htrue : result ≠ .ok false) :
    Course before (.uninstall id) [] (.uninstalled result) ((before.forget id).onDisk disk)
  | withdrawn {id : String} {d : Deployment} {scene : Int} {reply : Reply} {outcome : Outcome}
    {result : Except Failure Bool} {disk : Disk}
    (hget : before.get? id = some d) (hscene : d.sceneId = some scene)
    (hsettle : (Operation.delete scene).settle reply = .ok outcome)
    (heffect : tookEffect result = true) (htrue : result ≠ .ok false) :
    Course before (.uninstall id) [⟨(Operation.delete scene).request, reply⟩] (.uninstalled result)
      ((before.forget id).onDisk disk)

section Courses

variable {σ : Type} (controller : Machine σ)

/-- **Every install is one of the courses**, by the point where it ends. -/
theorem install_course (order : InstallOrder) (registry : Registry) (state : σ) :
    Course registry (.install order)
      (registry.install (listening controller) order.automation order.statements ⟨[],
        state⟩).2.2.turns
      (.installed (registry.install controller order.automation order.statements state).1)
      (registry.install controller order.automation order.statements state).2.1 := by
  rw [← install_listening controller order.automation order.statements registry ⟨[], state⟩]
  rcases install_cases (listening controller) order.automation order.statements registry ⟨[],
    state⟩ with
    ⟨why, hdraft, hinstall⟩ | ⟨d, why, heard, hdraft, hperform, hinstall⟩ |
    ⟨d, outcome, heard, result, disk, hdraft, hperform, hinstall, heffect⟩
  · rw [hinstall]
    exact .rejected hdraft
  · rw [hinstall]
    obtain ⟨hsettle, rfl⟩ := Prod.mk.inj hperform
    exact .refused hdraft hsettle
  · rw [hinstall]
    obtain ⟨hsettle, rfl⟩ := Prod.mk.inj hperform
    exact .recorded hdraft hsettle heffect

/-- An uninstall that finds a record does not answer that there is none. -/
theorem uninstall_ne_false {id : String} {registry : Registry} {d : Deployment}
    (hget : registry.get? id = some d) (state : σ) :
    (registry.uninstall controller id state).1 ≠ .ok false := by
  simp only [uninstall, hget]
  cases withdraw controller d.sceneId state with
  | mk settled state' =>
    cases settled with
    | error why => simp
    | ok done =>
      obtain ⟨disk, hsave | ⟨obstacle, hsave⟩⟩ := (registry.forget id).save_cases
      · simp [hsave]
      · simp [hsave]

/-- **Every uninstall is one of the courses.** -/
theorem uninstall_course (id : String) (registry : Registry) (state : σ) :
    Course registry (.uninstall id)
      (registry.uninstall (listening controller) id ⟨[], state⟩).2.2.turns
      (.uninstalled (registry.uninstall controller id state).1)
      (registry.uninstall controller id state).2.1 := by
  rw [← uninstall_listening controller id registry ⟨[], state⟩]
  rcases uninstall_cases (listening controller) id registry ⟨[], state⟩ with
    ⟨hget, huninstall⟩ | ⟨d, why, heard, hget, hwithdraw, huninstall⟩ |
    ⟨d, heard, result, disk, hget, hwithdraw, huninstall, heffect⟩
  · rw [huninstall]
    exact .missing hget
  · rw [huninstall]
    cases hscene : d.sceneId with
    | none =>
      rw [hscene] at hwithdraw
      cases congrArg Prod.fst hwithdraw
    | some scene =>
      rw [hscene] at hwithdraw
      obtain ⟨hsettle, rfl⟩ := Prod.mk.inj (perform_of_withdraw_error hwithdraw)
      exact .kept hget hscene hsettle
  · have htrue := uninstall_ne_false (listening controller) hget ⟨[], state⟩
    rw [huninstall] at htrue ⊢
    cases hscene : d.sceneId with
    | none =>
      rw [hscene] at hwithdraw
      obtain ⟨_, rfl⟩ := Prod.mk.inj hwithdraw
      exact .forgotten hget hscene heffect htrue
    | some scene =>
      rw [hscene] at hwithdraw
      obtain ⟨outcome, hperform⟩ := perform_of_withdraw_ok hwithdraw
      obtain ⟨hsettle, rfl⟩ := Prod.mk.inj hperform
      exact .withdrawn hget hscene hsettle heffect htrue

/-- **Every call takes one of the courses.** -/
theorem serve_course (job : Job) (registry : Registry) (state : σ) :
    Course (registry.facing job.obstacle) job.call (overheard controller job registry state)
      (serve controller job registry state).answer
        (serve controller job registry state).registry := by
  obtain ⟨call, obstacle⟩ := job
  cases call with
  | install order => exact install_course controller order (registry.facing obstacle) state
  | uninstall id => exact uninstall_course controller id (registry.facing obstacle) state

end Courses

end HomeScenes.Registry
