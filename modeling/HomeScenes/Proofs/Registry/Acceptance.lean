import HomeScenes.Proofs.Registry.Conversation

/-!
# What counts as accepted

  A call should report success only for what the controller has accepted.  How far this holds
  depends on what one takes for acceptance, so `Vouched` is stated for any notion of a good
  status: a success is *vouched for* by a good status of the call's own request, and every other
  status is a failure that names it and leaves the records alone.

  The crux is `Course.vouched_iff`: the calls are vouched for by a notion exactly as long as the
  controller answers no status below 400 that is not good.  So they are vouched for by
  `IsAccepted` always.  By `IsSuccess`, a status of the form 2xx, they are not: a redirection is
  taken for a success by the requests whose replies nobody looks at
  (`redirected_install_reported`).
-/

namespace HomeScenes.Registry

open Controller (Machine Operation Reply Turn)

/-! ## Answers and statuses -/

/-- Why a call failed, if it did. -/
def Answer.failure? : Answer → Option Failure
  | .installed (.error why) | .uninstalled (.error why) => some why
  | _ => none

/-- A status of success. -/
def IsSuccess (status : Int) : Prop :=
  200 ≤ status ∧ status < 300

/-- A status that is no error. -/
def IsAccepted (status : Int) : Prop :=
  status < 400

/-- What took effect did not fail on the controller. -/
theorem ne_controller_of_tookEffect {α : Type} {result : Except Failure α}
    (h : tookEffect result = true)
    (why : Controller.Failure) : result ≠ .error (.controller why) := by
  rintro rfl
  cases h

theorem failure?_installed_iff {result : Except Failure Deployment} {why : Failure} :
    (Answer.installed result).failure? = some why ↔ result = .error why := by
  cases result <;> simp [Answer.failure?]

theorem failure?_uninstalled_iff {result : Except Failure Bool} {why : Failure} :
    (Answer.uninstalled result).failure? = some why ↔ result = .error why := by
  cases result <;> simp [Answer.failure?]

theorem sceneOf?_of_get? {registry : Registry} {id : String} {d : Deployment}
    (h : registry.get? id = some d) : registry.sceneOf? id = d.sceneId := by
  rw [sceneOf?, h]
  rfl

/-- A call that failed does not report success. -/
theorem reportsSuccess_of_failure? {answer : Answer} {why : Failure}
    (h : answer.failure? = some why) :
    answer.reportsSuccess = false := by
  cases answer with
  | installed result => rw [failure?_installed_iff.mp h]; rfl
  | uninstalled result => rw [failure?_uninstalled_iff.mp h]; rfl

section Vouched

variable [Stack]

/-- **A call is vouched for** by good statuses.  If it reports success, its one request was
    answered with a good status, unless it uninstalled what has no scene; and any other status is
    reported as a failure and leaves the records as they were. -/
structure Vouched (good : Int → Prop) (call : Call) (before : Registry) (turns : List Turn)
    (answer : Answer) (after : Registry) : Prop where
  success : answer.reportsSuccess = true →
    (∃ id, call = .uninstall id ∧ before.sceneOf? id = none) ∨
    ∃ operation turn status, call.operation? before = some operation ∧ turns = [turn] ∧
      turn.request = operation.request ∧ turn.status? = some status ∧ good status
  failure : ∀ turn ∈ turns, ∀ status, turn.status? = some status → ¬ good status →
    (∃ description, answer.failure? = some (.controller (.failed description (some status)))) ∧
      after.records = before.records

/-! ## From the courses -/

theorem operation?_install {registry : Registry} {order : InstallOrder} {d : Deployment}
    (h : draft order.automation order.statements = .ok d) :
    (Call.install order).operation? registry = some (registry.deployOperation d) := by
  rw [Call.operation?, h]
  rfl

theorem operation?_uninstall {registry : Registry} {id : String} {d : Deployment} {scene : Int}
    (h : registry.get? id = some d) (hscene : d.sceneId = some scene) :
    (Call.uninstall id).operation? registry = some (.delete scene) := by
  rw [Call.operation?, sceneOf?_of_get? h, hscene]
  rfl

/-- **One turn**: what a call asks, the reply, and how the call fares by it. -/
structure OneTurn (call : Call) (before : Registry) (turns : List Turn) (answer : Answer)
    (after : Registry) (operation : Operation) (reply : Reply) : Prop where
  change : operation.isChange = true
  asked : call.operation? before = some operation
  turns_eq : turns = [⟨operation.request, reply⟩]
  fared : ((∃ outcome, operation.settle reply = .ok outcome) ∧
      ∀ why, answer.failure? ≠ some (.controller why)) ∨
    ∃ why, operation.settle reply = .error why ∧ answer.failure? = some (.controller why) ∧
      after = before

namespace Course

variable {before after : Registry} {call : Call} {turns : List Turn} {answer : Answer}

/-- **A call is silent or has one turn.**  A silent one reports success only where there was no
    scene. -/
theorem silent_or_oneTurn (h : Course before call turns answer after) :
    (turns = [] ∧ (answer.reportsSuccess = true →
      ∃ id, call = .uninstall id ∧ before.sceneOf? id = none)) ∨
    ∃ operation reply, OneTurn call before turns answer after operation reply := by
  cases h with
  | rejected => exact Or.inl ⟨rfl, nofun⟩
  | @refused order d reply why hdraft hsettle =>
    exact Or.inr ⟨before.deployOperation d, reply, isChange_deployOperation before d,
      operation?_install hdraft, rfl, Or.inr ⟨why, hsettle, rfl, rfl⟩⟩
  | @recorded order d reply outcome result _ hdraft hsettle heffect =>
    refine Or.inr ⟨before.deployOperation d, reply, isChange_deployOperation before d,
      operation?_install hdraft, rfl, Or.inl ⟨⟨outcome, hsettle⟩, ?_⟩⟩
    intro why hfailure
    exact ne_controller_of_tookEffect heffect why (failure?_installed_iff.mp hfailure)
  | missing => exact Or.inl ⟨rfl, nofun⟩
  | @kept id d scene reply why hget hscene hsettle =>
    exact Or.inr ⟨.delete scene, reply, rfl, operation?_uninstall hget hscene, rfl,
      Or.inr ⟨why, hsettle, rfl, rfl⟩⟩
  | @forgotten id d _ _ hget hscene _ _ =>
    exact Or.inl ⟨rfl, fun _ => ⟨id, rfl, (sceneOf?_of_get? hget).trans hscene⟩⟩
  | @withdrawn id d scene reply outcome result _ hget hscene hsettle heffect _ =>
    refine Or.inr ⟨.delete scene, reply, rfl, operation?_uninstall hget hscene, rfl,
      Or.inl ⟨⟨outcome, hsettle⟩, ?_⟩⟩
    intro why hfailure
    exact ne_controller_of_tookEffect heffect why (failure?_uninstalled_iff.mp hfailure)

end Course

namespace OneTurn

variable {before after : Registry} {call : Call} {turns : List Turn} {answer : Answer}
  {operation : Operation} {reply : Reply}

/-- A success was accepted. -/
theorem accepted (h : OneTurn call before turns answer after operation reply)
    (hsuccess : answer.reportsSuccess = true) :
    ∃ status, Turn.status? ⟨operation.request, reply⟩ = some status ∧ status < 400 := by
  rcases h.fared with ⟨⟨outcome, hsettle⟩, _⟩ | ⟨why, _, hfailure, _⟩
  · exact Controller.status_of_settle_ok h.change hsettle
  · rw [reportsSuccess_of_failure? hfailure] at hsuccess
    cases hsuccess

/-- **The call names a status** in its failure exactly when that was the answer and it is 400 or
    more. -/
theorem failed_iff (h : OneTurn call before turns answer after operation reply) {status : Int} :
    (∃ description, answer.failure? = some (.controller (.failed description (some status)))) ↔
      Turn.status? ⟨operation.request, reply⟩ = some status ∧ 400 ≤ status := by
  rw [← Controller.settle_failed_iff h.change]
  rcases h.fared with ⟨⟨outcome, hsettle⟩, hfine⟩ | ⟨why, hsettle, hfailure, _⟩
  · constructor
    · rintro ⟨description, hfailure⟩
      exact absurd hfailure (hfine _)
    · rintro ⟨description, herror⟩
      rw [hsettle] at herror
      cases herror
  · rw [hsettle, hfailure]
    simp only [Option.some.injEq, Failure.controller.injEq, Except.error.injEq]

/-- Whoever names the controller in a failure has changed nothing. -/
theorem unchanged (h : OneTurn call before turns answer after operation reply)
    {why : Controller.Failure}
    (hfailure : answer.failure? = some (.controller why)) : after = before := by
  rcases h.fared with ⟨_, hfine⟩ | ⟨_, _, _, hsame⟩
  · exact absurd hfailure (hfine why)
  · exact hsame

end OneTurn

/-- **A call is vouched for** by good statuses exactly when no status below 400 that it was
    answered with is anything but good. -/
theorem Course.vouched_iff {before after : Registry} {call : Call} {turns : List Turn}
    {answer : Answer} (h : Course before call turns answer after) (good : Int → Prop) :
    Vouched good call before turns answer after ↔
      ∀ turn ∈ turns, ∀ status, turn.status? = some status → status < 400 → good status := by
  rcases h.silent_or_oneTurn with ⟨rfl, hsilent⟩ | ⟨operation, reply, hturn⟩
  · constructor
    · intro _ turn hmem
      cases hmem
    · intro _
      exact ⟨fun hsuccess => Or.inl (hsilent hsuccess), fun turn hmem => by cases hmem⟩
  · rw [hturn.turns_eq, List.forall_mem_singleton]
    constructor
    · intro hvouched status hstatus hlt
      -- If it were not good, the failure would name it; but a failure names none below 400.
      by_contra hbad
      have hfailed := (hvouched.failure _ (List.mem_singleton.mpr rfl) status hstatus hbad).1
      have hle := (hturn.failed_iff.mp hfailed).2
      omega
    · intro hgood
      refine ⟨?_, ?_⟩
      · intro hsuccess
        obtain ⟨status, hstatus, hlt⟩ := hturn.accepted hsuccess
        exact Or.inr ⟨operation, _, status, hturn.asked, rfl, rfl, hstatus,
          hgood status hstatus hlt⟩
      · intro turn hmem status hstatus hbad
        rw [List.mem_singleton.mp hmem] at hstatus
        have hle : 400 ≤ status := by
          by_contra hlt
          exact hbad (hgood status hstatus (by omega))
        obtain ⟨description, hfailure⟩ := hturn.failed_iff.mpr ⟨hstatus, hle⟩
        exact ⟨⟨description, hfailure⟩, by rw [hturn.unchanged hfailure]⟩

theorem operation?_facing (registry : Registry) (obstacle : Option Obstacle) (call : Call) :
    call.operation? (registry.facing obstacle) = call.operation? registry := by
  cases call <;> rfl

/-- What stands in the way of saving does not matter. -/
theorem vouched_facing_iff {good : Int → Prop} {call : Call} {registry after : Registry}
    {obstacle : Option Obstacle} {turns : List Turn} {answer : Answer} :
    Vouched good call (registry.facing obstacle) turns answer after ↔
      Vouched good call registry turns answer after := by
  have hasked := operation?_facing registry obstacle call
  constructor
  · intro h
    exact ⟨hasked ▸ h.success, h.failure⟩
  · intro h
    exact ⟨hasked.symm ▸ h.success, h.failure⟩

/-! ## The main result -/

/-- **Success is vouched for** by a status below 400; and it is by a status of the form 2xx as
    long as the controller answers with no other status below 400. -/
theorem success_vouched_for {σ : Type} (controller : Machine σ) (job : Job) (registry : Registry)
    (state : σ) :
    Vouched IsAccepted job.call registry (overheard controller job registry state)
        (serve controller job registry state).answer
          (serve controller job registry state).registry ∧
      (Vouched IsSuccess job.call registry (overheard controller job registry state)
          (serve controller job registry state).answer
            (serve controller job registry state).registry ↔
        ∀ turn ∈ overheard controller job registry state, ∀ status, turn.status? = some status →
          status < 400 → IsSuccess status) := by
  have hcourse := serve_course controller job registry state
  refine ⟨vouched_facing_iff.mp ((hcourse.vouched_iff IsAccepted).mpr ?_),
    vouched_facing_iff.symm.trans (hcourse.vouched_iff IsSuccess)⟩
  intro turn _ status _ hlt
  exact hlt

end Vouched

/-- A controller that sends everybody elsewhere. -/
def redirecting : Machine Unit := fun _ state => (.answered 302 "", state)

/-- A registry with one lamp, in scene 10. -/
def hallRegistry : Registry :=
  ⟨219, "automations.json",
    [("hall", ⟨(lampOrder "hall" []).automation, "", some 10, ⟨true, [], []⟩⟩)], ⟨none, none⟩⟩

/-- The lamp is installed again. -/
def hallAgain : Job :=
  ⟨.install (lampOrder "hall" ["hub.call(7, \"turnOn\")"]), none⟩

section

open scoped Stack

/-- **A redirected install is reported as a success**: the scene was not updated, and still the
    call ends well and the new code is recorded. -/
theorem redirected_install_reported :
    (serve redirecting hallAgain hallRegistry ()).answer.reportsSuccess = true ∧
      (overheard redirecting hallAgain hallRegistry ()).map (fun turn =>
        (turn.request.method, turn.request.path, turn.status?)) = [(.put, "/scenes/10", some 302)] ∧
      ¬ Vouched IsSuccess hallAgain.call hallRegistry
        (overheard redirecting hallAgain hallRegistry ())
        (serve redirecting hallAgain hallRegistry ()).answer
        (serve redirecting hallAgain hallRegistry ()).registry := by
  have hsuccess : (serve redirecting hallAgain hallRegistry ()).answer.reportsSuccess = true := by
    decide +kernel
  have hturns : (overheard redirecting hallAgain hallRegistry ()).map (fun turn =>
      (turn.request.method, turn.request.path, turn.status?)) =
        [(.put, "/scenes/10", some 302)] := by
    decide +kernel
  refine ⟨hsuccess, hturns, ?_⟩
  intro hvouched
  rcases hvouched.success hsuccess with ⟨id, hcall, _⟩ |
    ⟨_, turn, status, _, hturn, _, hstatus, hgood⟩
  · cases hcall
  · rw [hturn] at hturns
    simp only [List.map_cons, List.map_nil, List.cons.injEq, Prod.mk.injEq, hstatus,
      Option.some.injEq] at hturns
    obtain ⟨⟨_, _, rfl⟩, _⟩ := hturns
    exact absurd hgood.2 (by decide)

end

end HomeScenes.Registry
