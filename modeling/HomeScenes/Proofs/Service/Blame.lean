import HomeScenes.Proofs.Automation.Deployable
import HomeScenes.Proofs.Registry.Conversation
import HomeScenes.Service

/-!
# Who is to blame for a bad request

  Status 400 tells the caller that the request was wrong.  This file says who is really to blame
  when an install is answered that way.

  1. **The input**: the document is no request to install, or its conditions are invalid, or a
     text in it may not stand in a comment (`AtFault`).  Then the controller was not asked, and
     every document at fault is answered with 400.

  2. **The controller**: it accepted a new scene and described it by a value that is no scene.
     That reply is read just as a document is, and found wrong in the same way; so the caller is
     blamed for it (`garbled_reply_blamed_on_input`).

  There is no third way (`bad_request_blame`), and either way nothing was recorded.
-/

namespace HomeScenes.Service

open Controller (Machine Turn listening)
open Registry (Course)

section Blame

variable [Stack]

/-! ## Faults -/

/-- **A document at fault**: it is no request to install; or it is one whose conditions can be
    checked, but the automation cannot be deployed. -/
def AtFault (document : Value) : Prop :=
  match InstallOrder.read document with
  | .bad _ => True
  | .good order =>
    (∃ report, order.automation.conditions.check Condition.defaultLimit = .ok report) ∧
      ¬ order.automation.Deployable

/-- **Blame** for status 400: on the input if the controller was not asked, and on the controller
    if it was. -/
structure Blame (atFault : Prop) (before : Registry) (turns : List Turn) (response : Response)
    (after : Registry) : Prop where
  unchanged : response.status = 400 → after = before
  input_iff : response.status = 400 ∧ turns = [] ↔ atFault
  controller_iff : response.status = 400 ∧ turns ≠ [] ↔ ∃ turn ∈ turns, turn.Garbled

/-- **Status 400 blames only the input**: the controller was not asked, and the records and the
    file are as they were. -/
def BlamesInputOnly (before : Registry) (turns : List Turn) (response : Response)
    (after : Registry) : Prop :=
  response.status = 400 → turns = [] ∧ after.records = before.records ∧ after.disk = before.disk

theorem Blame.inputOnly_iff {atFault : Prop} {before after : Registry} {turns : List Turn}
    {response : Response} (h : Blame atFault before turns response after) :
    BlamesInputOnly before turns response after ↔ ∀ turn ∈ turns, ¬ turn.Garbled := by
  constructor
  · intro honly turn hmem hgarbled
    obtain ⟨hstatus, hturns⟩ := h.controller_iff.mpr ⟨turn, hmem, hgarbled⟩
    exact hturns (honly hstatus).1
  · intro hclear hstatus
    refine ⟨?_, ?_⟩
    · by_contra hturns
      obtain ⟨turn, hmem, hgarbled⟩ := h.controller_iff.mp ⟨hstatus, hturns⟩
      exact hclear turn hmem hgarbled
    · rw [h.unchanged hstatus]
      exact ⟨rfl, rfl⟩

/-! ## The responses to failures -/

/-- The response to the result of an install. -/
def installResponse : Except Registry.Failure Deployment → Response
  | .ok deployment => .ok deployment.dump
  | .error why => installFailure why

/-- A draft that fails is answered with 400 if its conditions can be checked at all. -/
theorem installFailure_of_draft {a : Automation} {statements : List String} {why : Registry.Failure}
    (h : Registry.draft a statements = .error why) :
    (installFailure why).status = 400 ↔
      ∃ report, a.conditions.check Condition.defaultLimit = .ok report := by
  rcases Registry.draft_cases a statements with ⟨what, hcheck, hdraft⟩ |
    ⟨report, hcheck, _, hdraft⟩ | ⟨report, caption, hcheck, _, _, hdraft⟩ | ⟨_, d, hdraft⟩
  all_goals
    rw [h] at hdraft
    cases hdraft
  · rw [hcheck]
    constructor
    · intro hstatus
      cases hstatus
    · rintro ⟨report, hreport⟩
      cases hreport
  · exact ⟨fun _ => ⟨report, hcheck⟩, fun _ => rfl⟩
  · rw [installFailure, rejection, Condition.Error.message, caption.message_refusal]
    exact ⟨fun _ => ⟨report, hcheck⟩, fun _ => rfl⟩

theorem installFailure_of_controller {why : Controller.Failure} :
    (installFailure (.controller why)).status = 400 ↔ ∃ issues, why = .badScene issues := by
  cases why <;> simp [installFailure, Response.error, Response.bare]

/-- What took effect is answered with 200 or, if the records could not be saved, with 500. -/
theorem installResponse_of_tookEffect {result : Except Registry.Failure Deployment}
    (h : Registry.tookEffect result = true) : (installResponse result).status ≠ 400 := by
  cases result with
  | ok deployment => simp [installResponse, Response.ok]
  | error why =>
    cases why with
    | unsaved path obstacle => simp [installResponse, installFailure, Response.bare]
    | rejected | invalid | controller => cases h

/-! ## Blame by the course of the install -/

/-- **Whom a course blames.** -/
theorem blame_of_course {order : InstallOrder} {before after : Registry} {turns : List Turn}
    {result : Except Registry.Failure Deployment}
    (h : Course before (.install order) turns (.installed result) after) :
    Blame ((∃ report, order.automation.conditions.check Condition.defaultLimit = .ok report) ∧
        ¬ order.automation.Deployable) before turns (installResponse result) after := by
  cases h with
  | @rejected _ why hdraft =>
    have hnot : ¬ order.automation.Deployable := by
      intro hdeployable
      obtain ⟨d, hd⟩ := (Registry.exists_draft_iff _ order.statements).mpr hdeployable
      rw [hdraft] at hd
      cases hd
    have hstatus : (installResponse (.error why)).status = 400 ↔ _ := installFailure_of_draft hdraft
    refine ⟨fun _ => rfl, ?_, by simp⟩
    rw [hstatus]
    exact ⟨fun hreport => ⟨hreport.1, hnot⟩, fun hfault => ⟨hfault.1, rfl⟩⟩
  | @refused _ d reply why hdraft hsettle =>
    have hdeployable := (Registry.exists_draft_iff _ _).mp ⟨d, hdraft⟩
    have hgarbled := Controller.garbled_iff (Registry.isChange_deployOperation before d) reply
    have hstatus : (installResponse (.error (.controller why))).status = 400 ↔ _ :=
      installFailure_of_controller
    refine ⟨fun _ => rfl, by simp [hdeployable], ?_⟩
    rw [hstatus]
    simp [hgarbled, hsettle]
  | @recorded _ d reply outcome _ disk hdraft hsettle heffect =>
    have hdeployable := (Registry.exists_draft_iff _ _).mp ⟨d, hdraft⟩
    have hgarbled := Controller.garbled_iff (Registry.isChange_deployOperation before d) reply
    have hstatus := installResponse_of_tookEffect heffect
    refine ⟨fun hbad => absurd hbad hstatus, by simp [hstatus, hdeployable], ?_⟩
    simp [hgarbled, hsettle, hstatus]

section Handle

variable {σ : Type} (controller : Machine σ)

theorem installAutomation_of_good {document : Value} {order : InstallOrder}
    (h : InstallOrder.read document = .good order) (registry : Registry) (state : σ) :
    installAutomation controller document registry state =
      let (result, registry, state) :=
        registry.install controller order.automation order.statements state
      (installResponse result, registry, state) := by
  simp only [installAutomation, h]
  cases registry.install controller order.automation order.statements state with
  | mk result after => cases result <;> rfl

theorem installAutomation_blame (document : Value) (registry : Registry) (state : σ) :
    Blame (AtFault document) registry
      (installAutomation (listening controller) document registry ⟨[], state⟩).2.2.turns
      (installAutomation controller document registry state).1
      (installAutomation controller document registry state).2.1 := by
  cases hread : InstallOrder.read document with
  | bad issues =>
    rw [AtFault, installAutomation, installAutomation, hread]
    exact ⟨fun _ => rfl, by simp [Response.error], by simp⟩
  | good order =>
    rw [AtFault, hread, installAutomation_of_good controller hread,
      installAutomation_of_good (listening controller) hread]
    exact blame_of_course (Registry.install_course controller order registry state)

/-- **What is overheard** while a request is served. -/
def overheard (request : Request) (registry : Registry) (state : σ) : List Turn :=
  (handle (listening controller) request registry ⟨[], state⟩).2.2.turns

/-- **A request at fault**: it has a document, and that is at fault. -/
def Request.AtFault (request : Request) : Prop :=
  ∃ document, request.document? = some document ∧ Service.AtFault document

/-- **Who is to blame** when an install is answered with status 400: the input, if it is at fault,
    or a garbled reply of the controller; and only the input is blamed exactly when no reply was
    garbled. -/
theorem bad_request_blame {request : Request} (h : Route.of request.method request.path = .install)
    (registry : Registry) (state : σ) :
    Blame request.AtFault registry (overheard controller request registry state)
        (handle controller request registry state).1
          (handle controller request registry state).2.1 ∧
      (BlamesInputOnly registry (overheard controller request registry state)
          (handle controller request registry state).1
            (handle controller request registry state).2.1 ↔
        ∀ turn ∈ overheard controller request registry state, ¬ turn.Garbled) := by
  have hblame : Blame request.AtFault registry (overheard controller request registry state)
      (handle controller request registry state).1
        (handle controller request registry state).2.1 := by
    rw [overheard, handle, handle, h, Request.AtFault]
    cases hdocument : request.document? with
    | none => exact ⟨nofun, by simp [Response.bare], by simp⟩
    | some document =>
      simp only [Option.some.injEq, exists_eq_left']
      exact installAutomation_blame controller document registry state
  exact ⟨hblame, hblame.inputOnly_iff⟩

end Handle

end Blame

/-- A request to install a lamp under a name. -/
def lampRequest (name : String) : Request where
  method := "POST"
  path := "/automations"
  contentType := some "application/json"
  body := some ("\x7b\"automation\":\x7b\"id\":\"a\",\"name\":\"" ++ name ++
    "\",\"conditions\":\x7b\"operator\":\"AND\",\"conditions\":[" ++
    "\x7b\"type\":\"time\",\"operator\":\"<\",\"value\":9\x7d]\x7d\x7d\x7d")

/-- A controller that accepts everything and describes it without an id. -/
def forgetful : Machine Unit := fun _ state => (.answered 200 "\x7b\"name\":\"Lamp\"\x7d", state)

/-- A registry without records. -/
def emptyRegistry : Registry :=
  ⟨219, "automations.json", [], ⟨none, none⟩⟩

section

open scoped Stack

/-- A name that would end its comment is the fault of the input; the controller is not asked. -/
theorem bad_name_blame :
    Route.of (lampRequest "Lamp--").method (lampRequest "Lamp--").path = .install ∧
      ((handle forgetful (lampRequest "Lamp--") emptyRegistry ()).1.status,
        (overheard forgetful (lampRequest "Lamp--") emptyRegistry ()).length) = (400, 0) ∧
      Blame (lampRequest "Lamp--").AtFault emptyRegistry
        (overheard forgetful (lampRequest "Lamp--") emptyRegistry ())
        (handle forgetful (lampRequest "Lamp--") emptyRegistry ()).1
        (handle forgetful (lampRequest "Lamp--") emptyRegistry ()).2.1 ∧
      BlamesInputOnly emptyRegistry (overheard forgetful (lampRequest "Lamp--") emptyRegistry ())
        (handle forgetful (lampRequest "Lamp--") emptyRegistry ()).1
        (handle forgetful (lampRequest "Lamp--") emptyRegistry ()).2.1 := by
  have hroute : Route.of (lampRequest "Lamp--").method (lampRequest "Lamp--").path = .install := by
    decide +kernel
  have hanswer : ((handle forgetful (lampRequest "Lamp--") emptyRegistry ()).1.status,
      (overheard forgetful (lampRequest "Lamp--") emptyRegistry ()).length) = (400, 0) := by
    decide +kernel
  have hturns := List.length_eq_zero_iff.mp (Prod.mk.inj hanswer).2
  obtain ⟨hblame, honly⟩ := bad_request_blame forgetful hroute emptyRegistry ()
  refine ⟨hroute, hanswer, hblame, honly.mpr ?_⟩
  rw [hturns]
  exact List.forall_mem_nil _

/-- **A garbled reply is blamed on the input**: the new scene was asked for, the controller
    accepted it and described it without an id, and the caller is told that the request was
    wrong. -/
theorem garbled_reply_blamed_on_input :
    ((handle forgetful (lampRequest "Lamp") emptyRegistry ()).1.status,
        (overheard forgetful (lampRequest "Lamp") emptyRegistry ()).map fun turn =>
          (turn.request.method, turn.request.path, turn.status?)) =
      (400, [(.post, "/scenes", some 200)]) ∧
    ¬ BlamesInputOnly emptyRegistry (overheard forgetful (lampRequest "Lamp") emptyRegistry ())
      (handle forgetful (lampRequest "Lamp") emptyRegistry ()).1
      (handle forgetful (lampRequest "Lamp") emptyRegistry ()).2.1 := by
  have hanswer : ((handle forgetful (lampRequest "Lamp") emptyRegistry ()).1.status,
        (overheard forgetful (lampRequest "Lamp") emptyRegistry ()).map fun turn =>
          (turn.request.method, turn.request.path, turn.status?)) =
      (400, [(.post, "/scenes", some 200)]) := by
    decide +kernel
  refine ⟨hanswer, ?_⟩
  intro honly
  obtain ⟨hstatus, hturns⟩ := Prod.mk.inj hanswer
  rw [(honly hstatus).1] at hturns
  cases hturns

end

end HomeScenes.Service
