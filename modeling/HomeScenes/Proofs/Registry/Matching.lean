import HomeScenes.Proofs.Controller.Faithful
import HomeScenes.Proofs.Registry.Steps

/-!
# The registry and the controller stay matched

  Take any run of installs and uninstalls, from an empty registry and a controller without scenes.
  The controller may refuse any request, every save may fail, and a call may stop halfway; still,
  after every call the records and the scenes correspond one to one, what is recorded is what was
  installed last and not uninstalled since, and every scene holds exactly the code that was made
  from that install (`run_matched`).

  The crux is that a step keeps `Matched`.  There are two ways in which anything changes at all: a
  deployment is put into a scene that is its own or new (`Matched.deploy`), or a record is dropped
  together with its scene (`Matched.drop`).  A failed save comes after both stores have changed,
  so it never parts them.
-/

namespace HomeScenes.Registry

open Controller (Machine Operation Outcome Scenes Held Faithful)

/-! ## Runs -/

/-- A call to the registry. -/
inductive Call where
  | install (order : InstallOrder)
  | uninstall (id : String)

/-- The id of the automation that a call is about. -/
def Call.id : Call → String
  | .install order => order.automation.id
  | .uninstall id => id

/-- What a call leaves installed. -/
def Call.order? : Call → Option InstallOrder
  | .install order => some order
  | .uninstall _ => none

/-- **A run**: the registry, the controller, and the calls that took effect, the last one first. -/
structure Run (σ : Type) where
  registry : Registry
  state : σ
  history : List Call

/-- The history after a call. -/
def noted {α : Type} (call : Call) (result : Except Failure α) (history : List Call) : List Call :=
  if tookEffect result then call :: history else history

/-- **One call**, with the file in whatever condition it is by then.  The call may fail; the run
    goes on with what it left behind. -/
def Run.step [Stack] {σ : Type} (controller : Machine σ) (run : Run σ) (disk : Disk) (call : Call) :
    Run σ :=
  match call with
  | .install order =>
    let (result, registry, state) :=
      (run.registry.onDisk disk).install controller order.automation order.statements run.state
    ⟨registry, state, noted call result run.history⟩
  | .uninstall id =>
    let (result, registry, state) := (run.registry.onDisk disk).uninstall controller id run.state
    ⟨registry, state, noted call result run.history⟩

/-- One call after another. -/
def Run.steps [Stack] {σ : Type} (controller : Machine σ) : Run σ → List (Disk × Call) → Run σ
  | run, [] => run
  | run, (disk, call) :: rest => (run.step controller disk call).steps controller rest

/-- **The install that stands**: the last call about an automation that took effect, if it was an
    install. -/
def standing? (id : String) (history : List Call) : Option InstallOrder :=
  (history.find? fun call => call.id = id).bind Call.order?

theorem standing?_cons_self (call : Call) (history : List Call) :
    standing? call.id (call :: history) = call.order? := by
  rw [standing?, List.find?_cons_of_pos (by simp)]
  rfl

theorem standing?_cons_of_ne (call : Call) {id : String} (h : id ≠ call.id) (history : List Call) :
    standing? id (call :: history) = standing? id history := by
  rw [standing?, List.find?_cons_of_neg (by simpa using Ne.symm h), standing?]

/-! ## Matching -/

/-- **A record mirrors a scene**: it belongs to its id, its conditions are valid, its code is made
    from its automation and the statements of the install that stands, and the controller holds a
    scene with exactly its name and its code. -/
structure Mirrors (scenes : Scenes) (history : List Call) (id : String)
    (d : Deployment) : Prop where
  id_eq : d.automation.id = id
  valid : d.validation.valid = true
  code : ∃ order, standing? id history = some order ∧ d.automation = order.automation ∧
    d.automation.script order.statements = .ok d.luaCode
  scene : ∃ sceneId, d.sceneId = some sceneId ∧ scenes sceneId = some ⟨d.automation.name, d.luaCode⟩

/-- **Matched**: no id is recorded twice, every record mirrors a scene, every install that stands
    is recorded, no two records mirror the same scene, and every scene belongs to exactly one
    record. -/
structure Matched (scenes : Scenes) (registry : Registry) (history : List Call) : Prop where
  nodup : (registry.records.map Prod.fst).Nodup
  mirrors : ∀ id d, registry.get? id = some d → Mirrors scenes history id d
  recorded : ∀ id, registry.get? id = none → standing? id history = none
  distinct : ∀ id id' d d', registry.get? id = some d → registry.get? id' = some d' → id ≠ id' →
    d.sceneId ≠ d'.sceneId
  owned : ∀ sceneId held, scenes sceneId = some held →
    ∃! id, ∃ d, registry.get? id = some d ∧ d.sceneId = some sceneId

section Matched

variable {scenes : Scenes} {registry : Registry} {history : List Call}

theorem Mirrors.later {id : String} {d : Deployment} (h : Mirrors scenes history id d) (call : Call)
    (hne : id ≠ call.id) : Mirrors scenes (call :: history) id d := by
  refine ⟨h.id_eq, h.valid, ?_, h.scene⟩
  rw [standing?_cons_of_ne call hne]
  exact h.code

theorem Mirrors.elsewhere {id : String} {d : Deployment} (h : Mirrors scenes history id d)
    {sceneId : Int} (hother : d.sceneId ≠ some sceneId) (held : Option Held) :
    Mirrors (Function.update scenes sceneId held) history id d := by
  obtain ⟨otherId, hotherId, hheld⟩ := h.scene
  have hne : otherId ≠ sceneId := fun he => hother (by rw [hotherId, he])
  refine ⟨h.id_eq, h.valid, h.code, otherId, hotherId, ?_⟩
  rw [Function.update_of_ne hne]
  exact hheld

theorem Matched.empty (hrecords : registry.records = []) (hscenes : ∀ id, scenes id = none) :
    Matched scenes registry [] := by
  have hget : ∀ id, registry.get? id = none := by
    intro id
    rw [get?, hrecords]
    rfl
  refine ⟨by rw [hrecords]; exact List.nodup_nil, ?_, fun id _ => rfl, ?_, ?_⟩
  · intro id d h; rw [hget] at h; exact nomatch h
  · intro id id' d d' h; rw [hget] at h; exact nomatch h
  · intro sceneId held h; rw [hscenes] at h; exact nomatch h

/-- The condition of the file does not matter. -/
theorem Matched.onDisk (h : Matched scenes registry history) (disk : Disk) :
    Matched scenes (registry.onDisk disk) history :=
  ⟨h.nodup, h.mirrors, h.recorded, h.distinct, h.owned⟩

theorem get?_record_self (registry : Registry) (d : Deployment) :
    (registry.record d).get? d.automation.id = some d :=
  Keyed.get?_put_self _ d registry.records

theorem get?_record_of_ne (registry : Registry) {d : Deployment} {id : String}
    (h : id ≠ d.automation.id) : (registry.record d).get? id = registry.get? id :=
  Keyed.get?_put_of_ne h d registry.records

theorem get?_forget_of_ne (registry : Registry) {id id' : String} (h : id' ≠ id) :
    (registry.forget id).get? id' = registry.get? id' :=
  Keyed.get?_erase_of_ne h registry.records

/-- What is left is an old record of another id. -/
theorem get?_forget_eq_some {id id' : String} {d : Deployment}
    (h : (registry.forget id).get? id' = some d) : id' ≠ id ∧ registry.get? id' = some d := by
  have hne : id' ≠ id := by
    rintro rfl
    rw [Registry.get?, forget, Keyed.get?_erase_self] at h
    exact nomatch h
  rw [get?_forget_of_ne registry hne] at h
  exact ⟨hne, h⟩

/-- A record is the new one, or an old one that has another scene. -/
theorem record_cases {d : Deployment} {sceneId : Int}
    (hown : ∀ id d', registry.get? id = some d' → (d'.sceneId = some sceneId ↔
    id = d.automation.id))
    {id : String} {d' : Deployment} (hget : (registry.record d).get? id = some d') :
    (id = d.automation.id ∧ d' = d) ∨
      (id ≠ d.automation.id ∧ registry.get? id = some d' ∧ d'.sceneId ≠ some sceneId) := by
  by_cases hid : id = d.automation.id
  · rw [hid, get?_record_self] at hget
    exact Or.inl ⟨hid, (Option.some.inj hget).symm⟩
  · rw [get?_record_of_ne registry hid] at hget
    exact Or.inr ⟨hid, hget, fun hs => hid ((hown id d' hget).mp hs)⟩

/-- **A deployment is put into a scene** that belongs to the record of its automation, if there is
    one, and to no other record. -/
theorem Matched.deploy (h : Matched scenes registry history) {order : InstallOrder} {d : Deployment}
    {sceneId : Int} (hautomation : d.automation = order.automation)
    (hvalid : d.validation.valid = true)
    (hcode : d.automation.script order.statements = .ok d.luaCode)
    (hscene : d.sceneId = some sceneId) (hown : ∀ id d', registry.get? id = some d' →
      (d'.sceneId = some sceneId ↔ id = d.automation.id)) :
    Matched (Function.update scenes sceneId (some ⟨d.automation.name, d.luaCode⟩))
      (registry.record d)
      (.install order :: history) := by
  have hcall : d.automation.id = (Call.install order).id := congrArg Automation.id hautomation
  refine ⟨Keyed.nodup_put h.nodup, ?_, ?_, ?_, ?_⟩
  · intro id d' hget
    rcases record_cases hown hget with ⟨rfl, rfl⟩ | ⟨hid, hold, hother⟩
    · refine ⟨rfl, hvalid, ⟨order, ?_, hautomation, hcode⟩, sceneId, hscene,
        Function.update_self ..⟩
      rw [hcall, standing?_cons_self]
      rfl
    · rw [hcall] at hid
      exact ((h.mirrors id d' hold).later (.install order) hid).elsewhere hother _
  · intro id hget
    have hid : id ≠ d.automation.id := by
      rintro rfl
      rw [get?_record_self] at hget
      exact nomatch hget
    rw [get?_record_of_ne registry hid] at hget
    rw [hcall] at hid
    rw [standing?_cons_of_ne (.install order) hid]
    exact h.recorded id hget
  · intro id id' d1 d2 h1 h2 hne
    rcases record_cases hown h1 with ⟨rfl, rfl⟩ | ⟨_, hold, hother⟩
    · rcases record_cases hown h2 with ⟨rfl, _⟩ | ⟨_, _, hother'⟩
      · exact absurd rfl hne
      · rw [hscene]; exact Ne.symm hother'
    · rcases record_cases hown h2 with ⟨_, rfl⟩ | ⟨_, hold', _⟩
      · rw [hscene]; exact hother
      · exact h.distinct id id' d1 d2 hold hold' hne
  · intro otherId held hheld
    by_cases hid : otherId = sceneId
    · refine ⟨d.automation.id, ⟨d, get?_record_self registry d, by rw [hscene, hid]⟩, ?_⟩
      rintro id ⟨d', hget, hd'⟩
      rcases record_cases hown hget with ⟨rfl, _⟩ | ⟨_, _, hother⟩
      · rfl
      · exact absurd (by rw [hd', hid]) hother
    · rw [Function.update_of_ne hid] at hheld
      obtain ⟨id, ⟨d', hget, hd'⟩, hunique⟩ := h.owned otherId held hheld
      have hne : id ≠ d.automation.id := by
        intro he
        have hs := (hown id d' hget).mpr he
        rw [hd'] at hs
        exact hid (Option.some.inj hs)
      refine ⟨id, ⟨d', by rw [get?_record_of_ne registry hne]; exact hget, hd'⟩, ?_⟩
      rintro id' ⟨d'', hget', hd''⟩
      rcases record_cases hown hget' with ⟨_, rfl⟩ | ⟨_, hold, _⟩
      · rw [hscene] at hd''
        exact absurd (Option.some.inj hd'').symm hid
      · exact hunique id' ⟨d'', hold, hd''⟩

/-- An uninstall leaves nothing standing, and does not touch what others have. -/
theorem standing?_uninstall {id id' : String} (h : id' ≠ id → standing? id' history = none) :
    standing? id' (.uninstall id :: history) = none := by
  by_cases hid : id' = id
  · rw [hid]
    exact standing?_cons_self (.uninstall id) history
  · rw [standing?_cons_of_ne (.uninstall id) hid]
    exact h hid

/-- Nothing is dropped where nothing is recorded. -/
theorem Matched.absent (h : Matched scenes registry history) {id : String}
    (hget : registry.get? id = none) : Matched scenes registry (.uninstall id :: history) := by
  refine ⟨h.nodup, ?_, ?_, h.distinct, h.owned⟩
  · intro id' d' hget'
    have hid : id' ≠ id := by
      rintro rfl
      rw [hget] at hget'
      exact nomatch hget'
    exact (h.mirrors id' d' hget').later (.uninstall id) hid
  · intro id' hget'
    exact standing?_uninstall fun _ => h.recorded id' hget'

/-- **A record is dropped together with its scene.** -/
theorem Matched.drop (h : Matched scenes registry history) {id : String} {d : Deployment}
    {sceneId : Int} (hget : registry.get? id = some d) (hscene : d.sceneId = some sceneId) :
    Matched (Function.update scenes sceneId none) (registry.forget id)
      (.uninstall id :: history) := by
  -- no other record has the scene
  have hleft : ∀ id' d', (registry.forget id).get? id' = some d' →
      id' ≠ id ∧ registry.get? id' = some d' ∧ d'.sceneId ≠ some sceneId := by
    intro id' d' hget'
    obtain ⟨hne, hold⟩ := get?_forget_eq_some hget'
    exact ⟨hne, hold, fun hs => h.distinct id' id d' d hold hget hne (hs.trans hscene.symm)⟩
  refine ⟨Keyed.nodup_erase h.nodup, ?_, ?_, ?_, ?_⟩
  · intro id' d' hget'
    obtain ⟨hid, hold, hother⟩ := hleft id' d' hget'
    exact ((h.mirrors id' d' hold).later (.uninstall id) hid).elsewhere hother none
  · intro id' hget'
    refine standing?_uninstall fun hid => ?_
    rw [get?_forget_of_ne registry hid] at hget'
    exact h.recorded id' hget'
  · intro id1 id2 d1 d2 h1 h2 hne
    exact h.distinct id1 id2 d1 d2 (hleft id1 d1 h1).2.1 (hleft id2 d2 h2).2.1 hne
  · intro otherId held hheld
    have hid : otherId ≠ sceneId := by
      rintro rfl
      rw [Function.update_self] at hheld
      exact nomatch hheld
    rw [Function.update_of_ne hid] at hheld
    obtain ⟨id', ⟨d', hget', hd'⟩, hunique⟩ := h.owned otherId held hheld
    have hne : id' ≠ id := by
      rintro rfl
      rw [hget] at hget'
      rw [← Option.some.inj hget', hscene] at hd'
      exact hid (Option.some.inj hd').symm
    refine ⟨id', ⟨d', ?_, hd'⟩, ?_⟩
    · rw [get?_forget_of_ne registry hne]
      exact hget'
    · rintro other ⟨d'', hget'', hd''⟩
      exact hunique other ⟨d'', (hleft other d'' hget'').2.1, hd''⟩

end Matched

/-! ## A step keeps the match -/

/-- The operation that deploys a draft is meant to change a scene. -/
theorem isChange_deployOperation (registry : Registry) (d : Deployment) :
    (registry.deployOperation d).isChange = true := by
  rw [deployOperation]
  split
  · rfl
  · rfl

section Steps

variable [Stack] {σ : Type} {controller : Machine σ} {scenes : σ → Scenes} {registry : Registry}
  {history : List Call} {state after : σ}

/-- **The scene of an install** is that of the record, if there is one, and else a new one; either
    way no other record has it. -/
theorem deployed_scene (hfaithful : Faithful controller scenes)
    (h : Matched (scenes state) registry history) {d : Deployment} {outcome : Outcome}
    (hperform : (registry.deployOperation d).perform controller state = (.ok outcome, after)) :
    ∃ sceneId, registry.deployedScene d outcome = some sceneId ∧
      scenes after =
        Function.update (scenes state) sceneId (some ⟨d.automation.name, d.luaCode⟩) ∧
      ∀ id d', registry.get? id = some d' → (d'.sceneId = some sceneId ↔ id = d.automation.id) := by
  cases hown : registry.sceneOf? d.automation.id with
  | some sceneId =>
    rw [deployOperation, hown] at hperform
    obtain ⟨rfl, hafter⟩ := hfaithful.updated hperform
    obtain ⟨d0, hget, hd0⟩ := Option.bind_eq_some_iff.mp hown
    refine ⟨sceneId, hown, hafter, fun id d' hget' => ⟨fun hs => ?_, ?_⟩⟩
    · by_contra hne
      exact h.distinct id _ d' d0 hget' hget hne (hs.trans hd0.symm)
    · rintro rfl
      rw [hget] at hget'
      rw [← Option.some.inj hget']
      exact hd0
  | none =>
    rw [deployOperation, hown] at hperform
    obtain ⟨scene, rfl, hfresh, hafter⟩ := hfaithful.created hperform
    refine ⟨scene.id, rfl, hafter, fun id d' hget' => ?_⟩
    obtain ⟨otherId, hotherId, hheld⟩ := (h.mirrors id d' hget').scene
    constructor
    · -- the scenes of records are held, and this id was free
      intro hs
      rw [hotherId] at hs
      rw [Option.some.inj hs, hfresh] at hheld
      exact nomatch hheld
    · rintro rfl
      rw [sceneOf?, hget', Option.bind_some, hotherId] at hown
      exact nomatch hown

/-- **An install keeps the match**, wherever it stops. -/
theorem install_matched (hfaithful : Faithful controller scenes)
    (h : Matched (scenes state) registry history) (order : InstallOrder) :
    Matched (scenes (registry.install controller order.automation order.statements state).2.2)
      (registry.install controller order.automation order.statements state).2.1
      (noted (.install order)
        (registry.install controller order.automation order.statements state).1 history) := by
  rcases install_cases controller order.automation order.statements registry state with
    ⟨why, hdraft, heq⟩ | ⟨d, why, state', _, hperform, heq⟩ |
    ⟨d, outcome, state', result, disk, hdraft, hperform, heq, heffect⟩
  · rw [heq, noted, tookEffect_of_draft_error hdraft]
    exact h
  · rw [heq, hfaithful.scenes_of_error (isChange_deployOperation registry d) hperform]
    exact h
  · obtain ⟨report, code, _, hvalid, hcode, rfl⟩ := draft_eq_ok_iff.mp hdraft
    obtain ⟨sceneId, hscene, hafter, hown⟩ := deployed_scene hfaithful h hperform
    rw [heq, noted, heffect, if_pos rfl, hafter]
    -- the record is given, since unification looks for it inside the generator
    exact (h.deploy (d := registry.deployed ⟨order.automation, code, none,
      report⟩ outcome) rfl hvalid
      hcode hscene hown).onDisk disk

/-- **An uninstall keeps the match**, wherever it stops. -/
theorem uninstall_matched (hfaithful : Faithful controller scenes)
    (h : Matched (scenes state) registry history) (id : String) :
    Matched (scenes (registry.uninstall controller id state).2.2)
      (registry.uninstall controller id state).2.1
      (noted (.uninstall id) (registry.uninstall controller id state).1 history) := by
  rcases uninstall_cases controller id registry state with
    ⟨hget, heq⟩ | ⟨d, why, state', hget, hwithdraw, heq⟩ |
    ⟨d, state', result, disk, hget, hwithdraw, heq, heffect⟩
  · rw [heq]
    exact h.absent hget
  · obtain ⟨sceneId, hscene, _⟩ := (h.mirrors id d hget).scene
    rw [hscene] at hwithdraw
    rw [heq, hfaithful.scenes_of_error rfl (perform_of_withdraw_error hwithdraw)]
    exact h
  · obtain ⟨sceneId, hscene, _⟩ := (h.mirrors id d hget).scene
    rw [hscene] at hwithdraw
    obtain ⟨outcome, hperform⟩ := perform_of_withdraw_ok hwithdraw
    rw [heq, noted, heffect, if_pos rfl, hfaithful.deleted hperform]
    exact (h.drop hget hscene).onDisk disk

/-- **A step keeps the match**, whatever the call, the controller and the file do. -/
theorem Run.step_matched (hfaithful : Faithful controller scenes) {run : Run σ}
    (h : Matched (scenes run.state) run.registry run.history) (disk : Disk) (call : Call) :
    Matched (scenes (run.step controller disk call).state) (run.step controller disk call).registry
      (run.step controller disk call).history := by
  cases call with
  | install order => exact install_matched hfaithful (h.onDisk disk) order
  | uninstall id => exact uninstall_matched hfaithful (h.onDisk disk) id

theorem Run.steps_matched (hfaithful : Faithful controller scenes) {run : Run σ}
    (h : Matched (scenes run.state) run.registry run.history) (calls : List (Disk × Call)) :
    Matched (scenes (run.steps controller calls).state) (run.steps controller calls).registry
      (run.steps controller calls).history := by
  induction calls generalizing run with
  | nil => exact h
  | cons call rest ih => exact ih (Run.step_matched hfaithful h call.1 call.2)

/-- **The registry and a faithful controller stay matched** over every run of calls, from an empty
    registry and a controller without scenes, whichever requests are refused and whichever saves
    fail. -/
theorem run_matched (hfaithful : Faithful controller scenes) (hrecords : registry.records = [])
    (hscenes : ∀ id, scenes state id = none) (calls : List (Disk × Call)) :
    Matched (scenes ((Run.mk registry state []).steps controller calls).state)
      ((Run.mk registry state []).steps controller calls).registry
      ((Run.mk registry state []).steps controller calls).history :=
  Run.steps_matched hfaithful (Matched.empty hrecords hscenes) calls

end Steps

/-- A controller with room for two scenes. -/
def twoSlots : List Controller.Slot :=
  [⟨1, "\x7b\"id\": 1, \"name\": \"first\"\x7d"⟩, ⟨2, "\x7b\"id\": 2, \"name\": \"second\"\x7d"⟩]

/-- An automation for a lamp that is off. -/
def lampOrder (id : String) (statements : List String) : InstallOrder where
  automation := ⟨id, "Lamp", none, ⟨.given "AND", some [.leaf ⟨.given "==",
    .given (.bool false), true, .deviceState (.given 7) (.given "value")⟩]⟩, [], none, true⟩
  statements := statements

section

open scoped Stack

/-- The first save fails, the third install finds no slot, the first lamp is installed again, and
    the second is uninstalled. -/
def crowdedRun : Run Scenes :=
  (Run.mk ⟨3, "automations.json", [], ⟨none, none⟩⟩ (fun _ => none) []).steps
    (Controller.slotted twoSlots)
    [(⟨none, some .noSpace⟩, .install (lampOrder "porch" [])),
      (⟨none, none⟩, .install (lampOrder "hall" [])),
      (⟨none, none⟩, .install (lampOrder "attic" [])),
      (⟨none, none⟩, .install (lampOrder "porch" ["hub.call(7, \"turnOn\")"])),
      (⟨none, some .isDirectory⟩, .uninstall "hall")]

theorem crowdedRun_matched :
    crowdedRun.registry.records.map (fun record => (record.1, record.2.sceneId)) =
      [("porch", some 1)] ∧
    crowdedRun.history.map Call.id = ["hall", "porch", "hall", "porch"] ∧
    Matched crowdedRun.state crowdedRun.registry crowdedRun.history :=
  ⟨by decide +kernel, by decide +kernel,
    run_matched (Controller.faithful_slotted (by decide +kernel)) rfl (fun _ => rfl) _⟩

end

end HomeScenes.Registry
