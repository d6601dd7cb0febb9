import HomeScenes.Controller.Scene
import Mathlib

/-!
# Faithful controllers

  Nothing is known of a controller but that it answers requests.  What it takes for scenes to be
  managed at all is said here: a faithful controller does what a request asks and says so, or does
  nothing and answers with an error or not at all.  It may do either at any time.  A new scene
  gets an id that no scene has, and the reply describes a scene with that id.

  The contract is about requests as they are sent: their method, their path and the texts in their
  body.  That an operation asks for what it means to ask follows from the way its request is made
  (`Applied.fulfilled`).

  The crux is `Faithful.perform_cases`: an operation is fulfilled, or it fails and no scene has
  changed.  What each operation leaves behind follows (`Faithful.created`, `Faithful.updated`,
  `Faithful.deleted`).  That the contract can be kept is shown by a controller with a fixed number
  of slots (`faithful_slotted`).
-/

namespace HomeScenes.Controller

/-! ## Requests -/

/-- What a controller holds of a scene. -/
structure Held where
  name : String
  lua : String
deriving DecidableEq

/-- The scenes that a controller holds, by their ids. -/
abbrev Scenes := Int → Option Held

/-- A text in the body of a request. -/
def Request.text? (request : Request) (key : String) : Option String :=
  match request.body with
  | some (.object fields) =>
    match Keyed.get? key fields with
    | some (.text s) => some s
    | _ => none
  | _ => none

/-- What the body of a request makes of a scene. -/
def Request.edit (request : Request) (old : Held) : Held :=
  ⟨(request.text? "name").getD old.name, (request.text? "lua").getD old.lua⟩

/-- **A request for a new scene**, with a name and code for it. -/
structure Request.Creates (request : Request) (held : Held) : Prop where
  method : request.method = .post
  path : request.path = "/scenes"
  name : request.text? "name" = some held.name
  lua : request.text? "lua" = some held.lua

/-- **A request about a scene**, which its path leads to. -/
structure Request.Concerns (request : Request) (method : Method) (id : Int) : Prop where
  method : request.method = method
  path : request.path = scenePath id

/-- **A request to change scenes**: to create one, or to update or delete the one at a path. -/
inductive Request.IsChange (request : Request) : Prop where
  | create {held : Held} (asked : request.Creates held)
  | update {id : Int} (asked : request.Concerns .put id)
  | delete {id : Int} (asked : request.Concerns .delete id)

/-- Whether an operation is meant to change scenes. -/
def Operation.isChange : Operation → Bool
  | .create .. | .update .. | .delete _ => true
  | _ => false

/-- Different scenes have different paths. -/
theorem scenePath_injective {a b : Int} (h : scenePath a = scenePath b) : a = b := by
  have hchars := congrArg String.toList h
  rw [scenePath, scenePath, String.toList_append, String.toList_append] at hchars
  exact Int.repr_inj.mp (String.toList_inj.mp (List.append_cancel_left hchars))

/-- A request leads to one scene only. -/
theorem Request.Concerns.id_eq {request : Request} {method method' : Method} {id id' : Int}
    (h : request.Concerns method id) (h' : request.Concerns method' id') : id = id' :=
  scenePath_injective (h.path.symm.trans h'.path)

/-- The request for a new scene gives its name and its code. -/
theorem creates_request (name lua type : String) (roomId : Int) :
    (Operation.create name roomId lua type).request.Creates ⟨name, lua⟩ :=
  ⟨rfl, rfl, rfl, rfl⟩

/-- The request for an update gives what is to be changed, and nothing else. -/
theorem edit_update (id : Int) (name lua : Option String) (roomId : Option Int) (old : Held) :
    (Operation.update id name roomId lua).request.edit old =
      ⟨name.getD old.name, lua.getD old.lua⟩ := by
  cases name <;> cases roomId <;> cases lua <;> rfl

/-- An operation that is meant to change scenes sends a request to change them. -/
theorem Operation.isChange_request {operation : Operation} (h : operation.isChange = true) :
    operation.request.IsChange := by
  cases operation with
  | create name roomId lua type => exact .create (creates_request name lua type roomId)
  | update id name roomId lua => exact .update ⟨rfl, rfl⟩
  | delete id => exact .delete ⟨rfl, rfl⟩
  | list | get | getLua | run => exact nomatch h

/-- **A request was refused**: an answer with an error status, or none at all. -/
def Refused : Reply → Prop
  | .answered status _ => 400 ≤ status
  | .interrupted .. => True

/-- A refusal is not accepted. -/
theorem exists_accept_error {reply : Reply} (h : Refused reply) (request : Request) :
    ∃ why, accept request reply = .error why := by
  cases reply with
  | answered status text =>
    have hstatus : ¬ status < 400 := Int.not_lt.mpr h
    rw [accept, if_neg hstatus]
    exact ⟨_, rfl⟩
  | interrupted outage message =>
    rw [accept]
    split
    · exact ⟨_, rfl⟩
    · exact ⟨_, rfl⟩

theorem accept_answered {request : Request} {status : Int} {text : String} (h : status < 400) :
    accept request (.answered status text) = .ok text := by
  rw [accept, if_pos h]

section Contract

variable [Stack]

/-! ## The contract -/

/-- **A request was applied**: what the reply says, and what the request does to the scenes.  A
    scene is created under an id that is free, and the reply describes a scene with that id; an
    update changes what it names; a scene that is deleted is gone. -/
inductive Applied (reply : Reply) (scenes : Scenes) (request : Request) : Scenes → Prop where
  | create {held : Held} {status : Int} {text : String} {v : Value} {scene : Scene}
    (asked : request.Creates held) (hreply : reply = .answered status text)
    (hstatus : status < 400) (hbody : replyValue text = .ok v) (hscene : sceneOf v = .ok scene)
    (hfresh : scenes scene.id = none) :
    Applied reply scenes request (Function.update scenes scene.id (some held))
  | update {id : Int} {status : Int} {text : String} {old : Held}
    (asked : request.Concerns .put id) (hreply : reply = .answered status text)
    (hstatus : status < 400) (hold : scenes id = some old) :
    Applied reply scenes request (Function.update scenes id (some (request.edit old)))
  | delete {id : Int} {status : Int} {text : String} {old : Held}
    (asked : request.Concerns .delete id) (hreply : reply = .answered status text)
    (hstatus : status < 400) (hold : scenes id = some old) :
    Applied reply scenes request (Function.update scenes id none)

/-- **An honest exchange**: the request was applied, or it was refused and the scenes stay as they
    are. -/
def Honest (request : Request) (before : Scenes) (reply : Reply) (after : Scenes) : Prop :=
  Applied reply before request after ∨ (Refused reply ∧ after = before)

/-- **A faithful controller**, with the scenes that its states hold: every request to change a
    scene is an honest exchange. -/
def Faithful {σ : Type} (controller : Machine σ) (scenes : σ → Scenes) : Prop :=
  ∀ (request : Request) (state : σ), request.IsChange →
    Honest request (scenes state) (controller request state).1
      (scenes (controller request state).2)

/-! ## Operations that are fulfilled -/

/-- **An operation was fulfilled**: what the reply to it says, and what it did to the scenes. -/
inductive Fulfilled (reply : Reply) (scenes : Scenes) : Operation → Scenes → Prop where
  | create {name : String} {roomId : Int} {lua type : String} {status : Int} {text : String}
    {v : Value} {scene : Scene} (hreply : reply = .answered status text) (hstatus : status < 400)
    (hbody : replyValue text = .ok v) (hscene : sceneOf v = .ok scene)
    (hfresh : scenes scene.id = none) :
    Fulfilled reply scenes (.create name roomId lua type)
      (Function.update scenes scene.id (some ⟨name, lua⟩))
  | update {id : Int} {name : Option String} {roomId : Option Int} {lua : Option String}
    {status : Int} {text : String} {old : Held} (hreply : reply = .answered status text)
    (hstatus : status < 400) (hold : scenes id = some old) :
    Fulfilled reply scenes (.update id name roomId lua)
      (Function.update scenes id (some ⟨name.getD old.name, lua.getD old.lua⟩))
  | delete {id : Int} {status : Int} {text : String} {old : Held}
    (hreply : reply = .answered status text) (hstatus : status < 400)
    (hold : scenes id = some old) :
    Fulfilled reply scenes (.delete id) (Function.update scenes id none)

/-- **A request that was applied fulfills its operation.**  Of the three ways in which it can have
    been applied its method leaves one; the path then gives the scene, and the body what was to
    become of it. -/
theorem Applied.fulfilled {reply : Reply} {before after : Scenes} {operation : Operation}
    (hchange : operation.isChange = true) (h : Applied reply before operation.request after) :
    Fulfilled reply before operation after := by
  cases operation with
  | create name roomId lua type =>
    cases h with
    | @create held _ _ _ _ asked hreply hstatus hbody hscene hfresh =>
      have hname : name = held.name := Option.some.inj asked.name
      have hlua : lua = held.lua := Option.some.inj asked.lua
      subst hname hlua
      exact .create hreply hstatus hbody hscene hfresh
    | update asked | delete asked => exact nomatch asked.method
  | update id name roomId lua =>
    cases h with
    | create asked | delete asked => exact nomatch asked.method
    | @update id' _ _ old asked hreply hstatus hold =>
      have hid : id' = id := asked.id_eq (⟨rfl, rfl⟩ : Request.Concerns _ .put id)
      subst hid
      rw [edit_update]
      exact .update hreply hstatus hold
  | delete id =>
    cases h with
    | create asked | update asked => exact nomatch asked.method
    | @delete id' _ _ old asked hreply hstatus hold =>
      have hid : id' = id := asked.id_eq (⟨rfl, rfl⟩ : Request.Concerns _ .delete id)
      subst hid
      exact .delete hreply hstatus hold
  | list | get | getLua | run => exact nomatch hchange

/-! ## What replies settle as -/

/-- A refused request settles as a failure, whatever the operation. -/
theorem exists_settle_error {reply : Reply} (h : Refused reply) {operation : Operation}
    (hchange : operation.isChange = true) : ∃ why, operation.settle reply = .error why := by
  obtain ⟨why, hwhy⟩ := exists_accept_error h operation.request
  refine ⟨why, ?_⟩
  cases operation with
  | create name roomId lua type => rw [Operation.settle, sceneIn, hwhy]; rfl
  | update id name roomId lua => simp only [Operation.settle, hwhy]; rfl
  | delete id => simp only [Operation.settle, hwhy]; rfl
  | list | get | getLua | run => exact nomatch hchange

theorem settle_create {name lua type text : String} {roomId status : Int} {v : Value}
    {scene : Scene}
    (hstatus : status < 400) (hbody : replyValue text = .ok v) (hscene : sceneOf v = .ok scene) :
    (Operation.create name roomId lua type).settle (.answered status text) =
      .ok (.scene scene) := by
  rw [Operation.settle, sceneIn, accept_answered hstatus]
  simp only [bind, Except.bind, hbody, hscene]
  rfl

theorem settle_update {id status : Int} {name lua : Option String} {roomId : Option Int}
    {text : String} (hstatus : status < 400) :
    (Operation.update id name roomId lua).settle (.answered status text) = .ok .done := by
  simp only [Operation.settle, accept_answered hstatus]
  rfl

theorem settle_delete {id status : Int} {text : String} (hstatus : status < 400) :
    (Operation.delete id).settle (.answered status text) = .ok .done := by
  simp only [Operation.settle, accept_answered hstatus]
  rfl

/-- An operation that was fulfilled never settles as a failure. -/
theorem Fulfilled.exists_settle {reply : Reply} {before after : Scenes} {operation : Operation}
    (h : Fulfilled reply before operation after) :
    ∃ outcome, operation.settle reply = .ok outcome := by
  cases h with
  | create hreply hstatus hbody hscene _ =>
    rw [hreply]
    exact ⟨_, settle_create hstatus hbody hscene⟩
  | update hreply hstatus _ => rw [hreply]; exact ⟨_, settle_update hstatus⟩
  | delete hreply hstatus _ => rw [hreply]; exact ⟨_, settle_delete hstatus⟩

/-! ## Operations on a faithful controller -/

section Perform

variable {σ : Type} {controller : Machine σ} {scenes : σ → Scenes} {state after : σ}
  {settled : Except Failure Outcome}

/-- **An operation on a faithful controller** is fulfilled, or it fails and changes no scene. -/
theorem Faithful.perform_cases (h : Faithful controller scenes) {operation : Operation}
    (hchange : operation.isChange = true)
    (hperform : operation.perform controller state = (settled, after)) :
    (∃ reply, settled = operation.settle reply ∧
      Fulfilled reply (scenes state) operation (scenes after)) ∨
      ((∃ why, settled = .error why) ∧ scenes after = scenes state) := by
  rw [Operation.perform] at hperform
  injection hperform with hsettled hafter
  rw [← hsettled, ← hafter]
  rcases h operation.request state (Operation.isChange_request hchange) with
    happlied | ⟨hrefused, hsame⟩
  · exact Or.inl ⟨_, rfl, happlied.fulfilled hchange⟩
  · exact Or.inr ⟨exists_settle_error hrefused hchange, hsame⟩

/-- A request that fails on a faithful controller changes no scene. -/
theorem Faithful.scenes_of_error (h : Faithful controller scenes) {operation : Operation}
    (hchange : operation.isChange = true) {why : Failure}
    (hperform : operation.perform controller state = (.error why, after)) :
    scenes after = scenes state := by
  rcases h.perform_cases hchange hperform with ⟨reply, hsettle, hdone⟩ | ⟨_, hsame⟩
  · obtain ⟨outcome, houtcome⟩ := hdone.exists_settle
    exact nomatch hsettle.trans houtcome
  · exact hsame

/-- A scene that was created had a free id and holds what was asked for. -/
theorem Faithful.created (h : Faithful controller scenes) {name lua type : String} {roomId : Int}
    {outcome : Outcome}
    (hperform : (Operation.create name roomId lua type).perform controller state =
      (.ok outcome, after)) :
    ∃ scene, outcome = .scene scene ∧ scenes state scene.id = none ∧
      scenes after = Function.update (scenes state) scene.id (some ⟨name, lua⟩) := by
  rcases h.perform_cases rfl hperform with ⟨reply, hsettle, hdone⟩ | ⟨⟨why, hwhy⟩, _⟩
  · generalize hscenes : scenes after = scenes' at hdone
    cases hdone with
    | @create _ _ _ _ status text v scene hreply hstatus hbody hscene hfresh =>
      rw [hreply, settle_create hstatus hbody hscene] at hsettle
      injection hsettle with hsettle
      exact ⟨scene, hsettle, hfresh, rfl⟩
  · exact nomatch hwhy

/-- A scene that was updated was there. -/
theorem Faithful.updated (h : Faithful controller scenes) {id : Int} {name lua : String}
    {roomId : Option Int} {outcome : Outcome}
    (hperform : (Operation.update id (some name) roomId (some lua)).perform controller state =
      (.ok outcome, after)) :
    outcome = .done ∧ scenes after = Function.update (scenes state) id (some ⟨name, lua⟩) := by
  rcases h.perform_cases rfl hperform with ⟨reply, hsettle, hdone⟩ | ⟨⟨why, hwhy⟩, _⟩
  · generalize hscenes : scenes after = scenes' at hdone
    cases hdone with
    | update hreply hstatus hold =>
      rw [hreply, settle_update hstatus] at hsettle
      injection hsettle with hsettle
      exact ⟨hsettle, rfl⟩
  · exact nomatch hwhy

/-- A scene that was deleted is gone. -/
theorem Faithful.deleted (h : Faithful controller scenes) {id : Int} {outcome : Outcome}
    (hperform : (Operation.delete id).perform controller state = (.ok outcome, after)) :
    scenes after = Function.update (scenes state) id none := by
  rcases h.perform_cases rfl hperform with ⟨reply, _, hdone⟩ | ⟨⟨why, hwhy⟩, _⟩
  · generalize hscenes : scenes after = scenes' at hdone
    cases hdone with
    | delete hreply hstatus hold => rfl
  · exact nomatch hwhy

end Perform

end Contract

/-! ## A controller with slots -/

/-- A slot for a scene: its id, and the answer when a scene is put there. -/
structure Slot where
  id : Int
  answer : String

/-- The scene at a path, with its id. -/
def sceneAt? (slots : List Slot) (scenes : Scenes) (path : String) : Option (Int × Held) :=
  (slots.find? fun slot => scenePath slot.id = path).bind fun slot =>
    (scenes slot.id).map fun old => (slot.id, old)

/-- **A controller with slots.**  A new scene goes to the first slot that is free, if there is
    one; a scene that is not there can neither be changed nor deleted. -/
def slotted (slots : List Slot) : Machine Scenes := fun request scenes =>
  match request.method with
  | .post =>
    match slots.find? fun slot => scenes slot.id = none with
    | none => (.answered 507 "", scenes)
    | some slot =>
      (.answered 201 slot.answer, Function.update scenes slot.id (some (request.edit ⟨"", ""⟩)))
  | .put =>
    match sceneAt? slots scenes request.path with
    | none => (.answered 404 "", scenes)
    | some (id, old) => (.answered 200 "", Function.update scenes id (some (request.edit old)))
  | .delete =>
    match sceneAt? slots scenes request.path with
    | none => (.answered 404 "", scenes)
    | some (id, _) => (.answered 204 "", Function.update scenes id none)
  | .get => (.answered 405 "", scenes)

/-- The scene that a path leads to is the one it was made for. -/
theorem sceneAt?_scenePath {slots : List Slot} {scenes : Scenes} {id : Int} {found : Int × Held}
    (h : sceneAt? slots scenes (scenePath id) = some found) :
    found.1 = id ∧ scenes id = some found.2 := by
  obtain ⟨slot, hslot, hmap⟩ := Option.bind_eq_some_iff.mp h
  obtain ⟨old', hold, hpair⟩ := Option.map_eq_some_iff.mp hmap
  subst hpair
  have hid : slot.id = id := scenePath_injective (by simpa using List.find?_some hslot)
  exact ⟨hid, hid ▸ hold⟩

variable [Stack]

/-- Whether the answer describes a scene with the id of the slot. -/
def Slot.isDescribed (slot : Slot) : Bool :=
  match replyValue slot.answer with
  | .error _ => false
  | .ok v =>
    match sceneOf v with
    | .error _ => false
    | .ok scene => scene.id = slot.id

theorem Slot.exists_scene {slot : Slot} (h : slot.isDescribed = true) :
    ∃ v scene, replyValue slot.answer = .ok v ∧ sceneOf v = .ok scene ∧ scene.id = slot.id := by
  rw [isDescribed] at h
  split at h
  · exact nomatch h
  · rename_i v hv
    split at h
    · exact nomatch h
    · rename_i scene hscene
      exact ⟨v, scene, hv, hscene, of_decide_eq_true h⟩

/-- What is answered with an error status and changes nothing is honest. -/
theorem Honest.of_status {request : Request} {scenes : Scenes} {status : Int} {text : String}
    (h : 400 ≤ status) : Honest request scenes (.answered status text) scenes :=
  Or.inr ⟨h, rfl⟩

/-- A new scene goes to a free slot, whose answer describes it, or is refused. -/
theorem honest_create {slots : List Slot} (h : ∀ slot ∈ slots, slot.isDescribed = true)
    (scenes : Scenes) {request : Request} {held : Held} (asked : request.Creates held) :
    Honest request scenes (slotted slots request scenes).1 (slotted slots request scenes).2 := by
  cases hfree : slots.find? fun slot => scenes slot.id = none with
  | none =>
    have hstep : slotted slots request scenes = (.answered 507 "", scenes) := by
      simp only [slotted, asked.method, hfree]
    rw [hstep]
    exact .of_status (by decide)
  | some slot =>
    obtain ⟨v, scene, hbody, hscene, hid⟩ :=
      Slot.exists_scene (h slot (List.mem_of_find?_eq_some hfree))
    have hnone : scenes scene.id = none := by simpa [hid] using List.find?_some hfree
    have hedit : request.edit ⟨"", ""⟩ = held := by
      rw [Request.edit, asked.name, asked.lua]
      rfl
    have hstep : slotted slots request scenes =
        (.answered 201 slot.answer, Function.update scenes scene.id (some held)) := by
      simp only [slotted, asked.method, hfree, hedit, hid]
    rw [hstep]
    exact Or.inl (.create asked rfl (by decide) hbody hscene hnone)

/-- The scene that a path leads to is changed, if it is there. -/
theorem honest_update (slots : List Slot) (scenes : Scenes) {request : Request} {id : Int}
    (asked : request.Concerns .put id) :
    Honest request scenes (slotted slots request scenes).1 (slotted slots request scenes).2 := by
  cases hheld : sceneAt? slots scenes (scenePath id) with
  | none =>
    have hstep : slotted slots request scenes = (.answered 404 "", scenes) := by
      simp only [slotted, asked.method, asked.path, hheld]
    rw [hstep]
    exact .of_status (by decide)
  | some found =>
    obtain ⟨rfl, hold⟩ := sceneAt?_scenePath hheld
    have hstep : slotted slots request scenes =
        (.answered 200 "", Function.update scenes found.1 (some (request.edit found.2))) := by
      simp only [slotted, asked.method, asked.path, hheld]
    rw [hstep]
    exact Or.inl (.update asked rfl (by decide) hold)

/-- The scene that a path leads to is deleted, if it is there. -/
theorem honest_delete (slots : List Slot) (scenes : Scenes) {request : Request} {id : Int}
    (asked : request.Concerns .delete id) :
    Honest request scenes (slotted slots request scenes).1 (slotted slots request scenes).2 := by
  cases hheld : sceneAt? slots scenes (scenePath id) with
  | none =>
    have hstep : slotted slots request scenes = (.answered 404 "", scenes) := by
      simp only [slotted, asked.method, asked.path, hheld]
    rw [hstep]
    exact .of_status (by decide)
  | some found =>
    obtain ⟨rfl, hold⟩ := sceneAt?_scenePath hheld
    have hstep : slotted slots request scenes =
        (.answered 204 "", Function.update scenes found.1 none) := by
      simp only [slotted, asked.method, asked.path, hheld]
    rw [hstep]
    exact Or.inl (.delete asked rfl (by decide) hold)

/-- **The contract can be kept**: a controller with slots is faithful if its answers are right. -/
theorem faithful_slotted {slots : List Slot} (h : ∀ slot ∈ slots, slot.isDescribed = true) :
    Faithful (slotted slots) fun scenes => scenes := by
  intro request scenes hchange
  cases hchange with
  | create asked => exact honest_create h scenes asked
  | update asked => exact honest_update slots scenes asked
  | delete asked => exact honest_delete slots scenes asked

end HomeScenes.Controller
