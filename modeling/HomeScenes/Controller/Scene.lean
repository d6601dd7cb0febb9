import HomeScenes.Controller.Exchange
import HomeScenes.Document.Reading

/-!
# Scenes of a controller

  A controller keeps scenes; automations are deployed to it as scenes with Lua code.  Each operation
  is one request, and what its reply means is a function of the reply.
-/

namespace HomeScenes.Controller

variable [Stack]

/-- **A scene** as the controller describes it. -/
structure Scene where
  id : Int
  name : String
  roomId : Option Int
  type : Option String
  isLua : Bool
  lua : Option String
deriving DecidableEq

namespace Scene

def idField : Field := .named "id"
def nameField : Field := .named "name"
def roomIdField : Field := ⟨"roomID", "room_id"⟩
def typeField : Field := .named "type"
def isLuaField : Field := ⟨"isLua", "is_lua"⟩
def luaField : Field := .named "lua"

/-- The fields of a scene, in their order. -/
def fields : List Field := [idField, nameField, roomIdField, typeField, isLuaField, luaField]

/-- The name of a scene in messages. -/
def title : String := "Scene"

/-- **A scene** from a document. -/
def read : Value → Reading Scene :=
  Read.record title fun fields =>
    Scene.mk <$> idField.required Read.int fields
      <*> nameField.required Read.text fields
      <*> roomIdField.optional Read.int fields
      <*> typeField.optional Read.text fields
      <*> isLuaField.defaulted false Read.bool fields
      <*> luaField.optional Read.text fields

/-- A scene as a document. -/
def dump (s : Scene) : Value :=
  .object [("id", .int s.id), ("name", .text s.name), ("roomID", .ofInt? s.roomId),
    ("type", .ofText? s.type), ("isLua", .bool s.isLua), ("lua", .ofText? s.lua)]

/-- The type of a scene that holds Lua code. -/
def luaType : String := "com.fibaro.luaScene"

end Scene

/-! ## Operations -/

/-- The operations on scenes. -/
inductive Operation where
  | list
  | get (id : Int)
  | getLua (id : Int)
  | create (name : String) (roomId : Int) (lua type : String)
  | update (id : Int) (name : Option String) (roomId : Option Int) (lua : Option String)
  | delete (id : Int)
  | run (id : Int)

/-- What an operation gives. -/
inductive Outcome where
  | scenes (list : List Scene)
  | scene (scene : Scene)
  | code (lua : String)
  | done

/-- The path of a scene. -/
def scenePath (id : Int) : String :=
  "/scenes/" ++ id.repr

/-- A field of a change, if there is something to change. -/
def change {α : Type} (key : String) (f : α → Value) : Option α → List (String × Value)
  | none => []
  | some a => [(key, f a)]

/-- **The request** of an operation. -/
def Operation.request : Operation → Request
  | .list => ⟨.get, "/scenes", none⟩
  | .get id => ⟨.get, scenePath id, none⟩
  | .getLua id => ⟨.get, scenePath id, none⟩
  | .create name roomId lua type =>
    ⟨.post, "/scenes", some (.object [("name", .text name), ("roomID", .int roomId),
      ("type", .text type), ("isLua", .bool true), ("lua", .text lua)])⟩
  | .update id name roomId lua =>
    ⟨.put, scenePath id, some (.object (change "name" .text name ++ change "roomID" .int roomId ++
      change "lua" .text lua))⟩
  | .delete id => ⟨.delete, scenePath id, none⟩
  | .run id => ⟨.post, scenePath id ++ "/action/start", none⟩

/-- A scene, or the failure that the value is none. -/
def sceneOf (v : Value) : Except Failure Scene :=
  match Scene.read v with
  | .good scene => .ok scene
  | .bad issues => .error (.badScene issues)

/-- The value in the text of a reply. -/
def replyValue (text : String) : Except Failure Value :=
  (Json.readMarked text).mapError .unreadable

/-- What goes through a value item by item: the items of a list, the keys of an object, the
    characters of a text. -/
def iterate : Value → Except Value (List Value)
  | .list items => .ok items
  | .object fields => .ok (fields.map fun (key, _) => .text key)
  | .text s => .ok (s.toList.map fun c => .text c.toString)
  | v => .error v

/-- The scenes in a list, up to the first value that is none. -/
def scenesOf : List Value → Except Failure (List Scene)
  | [] => .ok []
  | v :: rest => do
    let scene ← sceneOf v
    let scenes ← scenesOf rest
    return scene :: scenes

/-- The scene in a successful reply. -/
def sceneIn (request : Request) (reply : Reply) : Except Failure Scene := do
  let text ← accept request reply
  let v ← replyValue text
  sceneOf v

/-- **What a reply means** for an operation. -/
def Operation.settle (operation : Operation) (reply : Reply) : Except Failure Outcome :=
  match operation with
  | .list => do
    let text ← accept operation.request reply
    let v ← replyValue text
    match iterate v with
    | .error got => .error (.notIterable got)
    | .ok items => Outcome.scenes <$> scenesOf items
  | .get _ => Outcome.scene <$> sceneIn operation.request reply
  | .getLua _ => (fun scene => Outcome.code (scene.lua.getD "")) <$>
      sceneIn operation.request reply
  | .create .. => Outcome.scene <$> sceneIn operation.request reply
  | _ => do
    let _ ← accept operation.request reply
    return .done

/-- **Carrying out** an operation: its request is sent and its reply settled. -/
def Operation.perform {σ : Type} (controller : Machine σ) (operation : Operation) (state : σ) :
    Except Failure Outcome × σ :=
  let (reply, state) := controller operation.request state
  (operation.settle reply, state)

end HomeScenes.Controller
