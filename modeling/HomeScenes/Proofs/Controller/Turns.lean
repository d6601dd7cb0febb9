import HomeScenes.Proofs.Controller.Faithful

/-!
# What is said to a controller and what it answers

  A controller can be listened to: `listening` answers as the controller does and keeps the turns
  of the conversation, each a request and its reply.  Nobody notices.

  What an operation that changes scenes makes of a reply depends on little (`Settles`).  A status
  from 400 on is a failure that names the status.  Any other status is taken for a success; only
  the reply to a new scene is looked at, and it may turn out to be unreadable or garbled, a value
  that describes no scene.  Where there was no answer at all, the operation fails without a
  status.
-/

namespace HomeScenes.Controller

/-! ## Listening -/

/-- **A turn** of a conversation. -/
structure Turn where
  request : Request
  reply : Reply

/-- The status that the controller answered with, if it answered. -/
def Turn.status? (turn : Turn) : Option Int :=
  match turn.reply with
  | .answered status _ => some status
  | .interrupted .. => none

/-- What was heard so far, and the controller by then. -/
structure Heard (σ : Type) where
  turns : List Turn
  state : σ

/-- **Listening** to a controller. -/
def listening {σ : Type} (controller : Machine σ) : Machine (Heard σ) := fun request heard =>
  let (reply, state) := controller request heard.state
  (reply, ⟨heard.turns ++ [⟨request, reply⟩], state⟩)

variable [Stack]

/-- **A garbled turn**: a new scene was asked for, and the controller accepted it with a value
    that describes no scene. -/
def Turn.Garbled (turn : Turn) : Prop :=
  turn.request.method = .post ∧ ∃ status text v issues, turn.reply = .answered status text ∧
    status < 400 ∧ Json.readMarked text = .ok v ∧ Scene.read v = .bad issues

/-! ## What becomes of a reply -/

/-- **What becomes of a reply** to a request that changes scenes. -/
inductive Settles (request : Request) : Reply → Except Failure Outcome → Prop where
  | done {status : Int} {text : String} {outcome : Outcome} (hstatus : status < 400)
    (hscene : request.method = .post → ∃ v scene, Json.readMarked text = .ok v ∧
      Scene.read v = .good scene) :
    Settles request (.answered status text) (.ok outcome)
  | refused {status : Int} {text : String} (hstatus : 400 ≤ status) :
    Settles request (.answered status text) (.error (.failed
      (describeFailure request.method.text request.path (some status) none (some text))
        (some status)))
  | unreadable {status : Int} {text : String} {why : Json.Error} (hstatus : status < 400)
    (hread : Json.readMarked text = .error why) :
    Settles request (.answered status text) (.error (.unreadable why))
  | garbled {status : Int} {text : String} {v : Value} {issues : List Issue}
    (hpost : request.method = .post) (hstatus : status < 400) (hread : Json.readMarked text = .ok v)
    (hscene : Scene.read v = .bad issues) :
    Settles request (.answered status text) (.error (.badScene issues))
  | lost {outage : Outage} {message description : String} :
    Settles request (.interrupted outage message) (.error (.failed description none))
  | interrupted {outage : Outage} {message : String} :
    Settles request (.interrupted outage message) (.error (.interrupted outage message))

/-- What is not accepted fails as it is, whatever the operation. -/
theorem settle_of_accept_error {operation : Operation} (hchange : operation.isChange = true)
    {reply : Reply} {why : Failure} (h : accept operation.request reply = .error why) :
    operation.settle reply = .error why := by
  cases operation with
  | create name roomId lua type => rw [Operation.settle, sceneIn, h]; rfl
  | update id name roomId lua => simp only [Operation.settle, h]; rfl
  | delete id => simp only [Operation.settle, h]; rfl
  | list | get | getLua | run => cases hchange

/-- An interrupted request fails without a status. -/
theorem settles_interrupted {operation : Operation} (hchange : operation.isChange = true)
    (outage : Outage) (message : String) :
    Settles operation.request (.interrupted outage message)
      (operation.settle (.interrupted outage message)) := by
  have haccept : accept operation.request (.interrupted outage message) = if outage.isTransport then
      .error (.failed (describeFailure operation.request.method.text operation.request.path none
        (some (outage, message)) none) none)
      else .error (.interrupted outage message) := rfl
  split at haccept
  · rw [settle_of_accept_error hchange haccept]
    exact .lost
  · rw [settle_of_accept_error hchange haccept]
    exact .interrupted

/-- The reply to a new scene is looked at: it is a scene, unreadable or garbled. -/
theorem settles_create (name lua type : String) (roomId : Int) {status : Int} (h : status < 400)
    (text : String) :
    Settles (Operation.create name roomId lua type).request (.answered status text)
      ((Operation.create name roomId lua type).settle (.answered status text)) := by
  rw [Operation.settle, sceneIn, accept_answered h]
  simp only [bind, Except.bind, replyValue]
  cases hread : Json.readMarked text with
  | error why => exact .unreadable h hread
  | ok v =>
    simp only [Except.mapError, sceneOf]
    cases hscene : Scene.read v with
    | good scene => exact .done h fun _ => ⟨v, scene, hread, hscene⟩
    | bad issues => exact .garbled rfl h hread hscene

section Settle

variable {operation : Operation} (hchange : operation.isChange = true)
include hchange

/-- **Every reply settles** as what becomes of it. -/
theorem settles_reply (reply : Reply) :
    Settles operation.request reply (operation.settle reply) := by
  cases reply with
  | interrupted outage message => exact settles_interrupted hchange outage message
  | answered status text =>
    by_cases hstatus : status < 400
    · cases operation with
      | create name roomId lua type => exact settles_create name lua type roomId hstatus text
      | update id name roomId lua =>
        rw [settle_update hstatus]
        exact .done hstatus nofun
      | delete id =>
        rw [settle_delete hstatus]
        exact .done hstatus nofun
      | list | get | getLua | run => cases hchange
    · have haccept : accept operation.request (.answered status text) = _ := if_neg hstatus
      rw [settle_of_accept_error hchange haccept]
      exact .refused (Int.not_lt.mp hstatus)

/-- Only the answer to a request that was accepted settles as a success. -/
theorem status_of_settle_ok {reply : Reply} {outcome : Outcome}
    (h : operation.settle reply = .ok outcome) :
    ∃ status, Turn.status? ⟨operation.request, reply⟩ = some status ∧ status < 400 := by
  have hsettles := settles_reply hchange reply
  rw [h] at hsettles
  cases hsettles with
  | done hstatus _ => exact ⟨_, rfl, hstatus⟩

/-- **A failure names a status** exactly when the controller answered with it and it is 400 or
    more. -/
theorem settle_failed_iff {reply : Reply} {status : Int} :
    (∃ description, operation.settle reply = .error (.failed description (some status))) ↔
      Turn.status? ⟨operation.request, reply⟩ = some status ∧ 400 ≤ status := by
  have hsettles := settles_reply hchange reply
  constructor
  · rintro ⟨description, h⟩
    rw [h] at hsettles
    cases hsettles with
    | refused hstatus => exact ⟨rfl, hstatus⟩
  · rintro ⟨hanswered, hle⟩
    generalize operation.settle reply = settled at hsettles ⊢
    -- A reply with a status of 400 or more is none that was accepted, and none that was
    -- interrupted.
    cases hsettles with
    | refused =>
      cases hanswered
      exact ⟨_, rfl⟩
    | done hstatus _ | unreadable hstatus _ | garbled _ hstatus _ _ =>
      cases hanswered
      exact absurd hstatus (Int.not_lt.mpr hle)
    | lost | interrupted => cases hanswered

/-- **A garbled reply** is what makes an operation complain about a scene. -/
theorem garbled_iff (reply : Reply) :
    Turn.Garbled ⟨operation.request, reply⟩ ↔
      ∃ issues, operation.settle reply = .error (.badScene issues) := by
  have hsettles := settles_reply hchange reply
  constructor
  · rintro ⟨hpost, status, text, v, issues, rfl, hstatus, hread, hscene⟩
    generalize operation.settle (.answered status text) = settled at hsettles ⊢
    cases hsettles with
    | done _ hgood =>
      obtain ⟨v', scene, hread', hscene'⟩ := hgood hpost
      rw [hread] at hread'
      injection hread' with hv
      rw [← hv, hscene] at hscene'
      cases hscene'
    | refused hle => exact absurd hstatus (Int.not_lt.mpr hle)
    | unreadable _ hunread =>
      rw [hread] at hunread
      cases hunread
    | garbled => exact ⟨_, rfl⟩
  · rintro ⟨issues, h⟩
    rw [h] at hsettles
    cases hsettles with
    | garbled hpost hstatus hread hscene =>
      exact ⟨hpost, _, _, _, _, rfl, hstatus, hread, hscene⟩

end Settle

end HomeScenes.Controller
