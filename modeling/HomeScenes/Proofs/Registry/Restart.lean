import HomeScenes.Proofs.Automation.RoundTrip
import HomeScenes.Proofs.Json.ReadsBack
import HomeScenes.Proofs.Registry.Calls

/-!
# A restart goes unnoticed

  Take a registry that was loaded from whatever file there was, and any run of installs and
  uninstalls in which no save failed.  If it is restarted now and loads its file, it has the same
  records as documents, in the same order, and from then on it cannot be told from the one that
  kept running: it sends the same requests and gives the same answers (`restart_unnoticed`).

  Two things carry this.  First, the file is *in step* with the records: it holds the text that
  they are saved as, or nothing has changed since it was loaded (`InStep`).  A file in step is
  loaded as records that are *alike*, since every record comes back as the same document.  Second,
  registries that are alike stay alike: a call looks at a record only for its scene, which its
  document shows (`Alike.serve`).

  That JSON text is read as what it was written from is not proved here.  It is assumed of the one
  text that is loaded, where it can be found out by computing (`Json.readsBack_iff`).
-/

namespace HomeScenes

/-! ## Lists by key -/

namespace Keyed

variable {α β : Type}

/-- The values of a list by key, each changed. -/
def mapValues (f : α → β) (entries : List (String × α)) : List (String × β) :=
  entries.map fun entry => (entry.1, f entry.2)

/-- Looking up a key commutes with changing the values. -/
theorem get?_mapValues (f : α → β) (key : String) (entries : List (String × α)) :
    get? key (mapValues f entries) = (get? key entries).map f := by
  induction entries with
  | nil => rfl
  | cons entry rest ih =>
    obtain ⟨k, a⟩ := entry
    show (if k = key then some (f a) else get? key (mapValues f rest)) = _
    rw [get?, ih]
    split <;> rfl

/-- So does putting a value. -/
theorem mapValues_put (f : α → β) (key : String) (value : α) (entries : List (String × α)) :
    mapValues f (put key value entries) = put key (f value) (mapValues f entries) := by
  induction entries with
  | nil => rfl
  | cons entry rest ih =>
    obtain ⟨k, a⟩ := entry
    show mapValues f (if k = key then _ else _) =
      if k = key then (k, f value) :: mapValues f rest
        else (k, f a) :: put key (f value) (mapValues f rest)
    rw [← ih]
    split <;> rfl

/-- So does erasing a key. -/
theorem mapValues_erase (f : α → β) (key : String) (entries : List (String × α)) :
    mapValues f (erase key entries) = erase key (mapValues f entries) := by
  rw [mapValues, mapValues, erase, erase, List.filter_map]
  rfl

/-- Putting a value brings in no entry but the new one. -/
theorem mem_put {key : String} {value : α} {entries : List (String × α)} {entry : String × α}
    (h : entry ∈ put key value entries) : entry = (key, value) ∨ entry ∈ entries := by
  induction entries with
  | nil => exact Or.inl (List.mem_singleton.mp h)
  | cons first rest ih =>
    obtain ⟨k, a⟩ := first
    rw [put] at h
    split at h
    · rename_i hk
      rcases List.mem_cons.mp h with h | h
      · exact Or.inl (by rw [h, hk])
      · exact Or.inr (List.mem_cons_of_mem _ h)
    · rcases List.mem_cons.mp h with h | h
      · exact Or.inr (h ▸ List.mem_cons_self ..)
      · exact (ih h).imp_right (List.mem_cons_of_mem _)

/-- A new key goes to the end. -/
theorem put_of_not_mem {key : String} {entries : List (String × α)} (h : key ∉ entries.map Prod.fst)
    (value : α) : put key value entries = entries ++ [(key, value)] := by
  induction entries with
  | nil => rfl
  | cons entry rest ih =>
    obtain ⟨k, a⟩ := entry
    obtain ⟨hk, hrest⟩ := not_or.mp (List.mem_cons.not.mp h)
    rw [put, if_neg (Ne.symm hk), ih hrest]
    rfl

end Keyed

/-! ## The file after a save -/

namespace Disk

/-- Where nothing is in the way the file holds the text afterwards. -/
theorem save_of_clear {disk : Disk} (h : disk.obstacle = none) (text : String) :
    disk.save text = (none, { disk with contents := some (.text text) }) := by
  simp only [Disk.save, openToWrite, write, h, Option.filter_none]

/-- **A save that meets an obstacle** leaves the file as it is, or empty. -/
theorem save_of_obstacle {disk : Disk} {obstacle : Obstacle} (h : disk.obstacle = some obstacle)
    (text : String) :
    disk.save text =
      (some obstacle, if obstacle.preventsOpening then disk
        else { disk with contents := some (.text "") }) := by
  cases hopening : obstacle.preventsOpening with
  | true =>
    have hfilter : disk.obstacle.filter Obstacle.preventsOpening = some obstacle := by
      rw [h, Option.filter_some, if_pos hopening]
    rw [Disk.save, openToWrite, hfilter]
    rfl
  | false =>
    have hfilter : disk.obstacle.filter Obstacle.preventsOpening = none := by
      rw [h, Option.filter_some, hopening]
      rfl
    rw [Disk.save, openToWrite, hfilter]
    simp [write, h]

end Disk

namespace Registry

open Controller (Machine Operation Outcome Request)

/-! ## Registries that are alike -/

/-- **The records as documents**, by id and in order. -/
def documents (registry : Registry) : List (String × Value) :=
  Keyed.mapValues Deployment.dump registry.records

/-- **Alike**: the same room and the same file, and records that are the same as documents. -/
structure Alike (a b : Registry) : Prop where
  roomId : a.roomId = b.roomId
  path : a.path = b.path
  disk : a.disk = b.disk
  documents : a.documents = b.documents

/-- **Twins**: the same result and the same controller, and registries that are alike. -/
structure Twins {α σ : Type} (x y : α × Registry × σ) : Prop where
  result : x.1 = y.1
  registry : Alike x.2.1 y.2.1
  state : x.2.2 = y.2.2

/-- The document of a deployment shows its scene. -/
theorem sceneId_eq_of_dump_eq {d d' : Deployment} (h : d.dump = d'.dump) :
    d.sceneId = d'.sceneId := by
  have hfields := Value.object.inj h
  have hscene : Value.ofInt? d.sceneId = Value.ofInt? d'.sceneId := by
    simp only [List.cons.injEq, Prod.mk.injEq] at hfields
    exact hfields.2.2.1.2
  cases hd : d.sceneId with
  | none =>
    cases hd' : d'.sceneId with
    | none => rfl
    | some n =>
      rw [hd, hd'] at hscene
      cases hscene
  | some n =>
    cases hd' : d'.sceneId with
    | none =>
      rw [hd, hd'] at hscene
      cases hscene
    | some n' =>
      rw [hd, hd'] at hscene
      exact congrArg some (Value.int.inj hscene)

section Alike

variable {a b : Registry} (h : Alike a b)
include h

/-- An automation is recorded by both, as the same document, or by neither. -/
theorem Alike.get?_cases (id : String) :
    (a.get? id = none ∧ b.get? id = none) ∨
      ∃ d d', a.get? id = some d ∧ b.get? id = some d' ∧ d.dump = d'.dump := by
  have hget : (a.get? id).map Deployment.dump = (b.get? id).map Deployment.dump := by
    rw [get?, get?, ← Keyed.get?_mapValues, ← Keyed.get?_mapValues]
    exact congrArg (Keyed.get? id) h.documents
  cases ha : a.get? id with
  | none =>
    rw [ha] at hget
    exact Or.inl ⟨rfl, Option.map_eq_none_iff.mp hget.symm⟩
  | some d =>
    rw [ha] at hget
    obtain ⟨d', hd', hdump⟩ := Option.map_eq_some_iff.mp hget.symm
    exact Or.inr ⟨d, d', rfl, hd', hdump.symm⟩

/-- Registries that are alike know the same scenes. -/
theorem Alike.sceneOf?_eq (id : String) : a.sceneOf? id = b.sceneOf? id := by
  rw [sceneOf?, sceneOf?]
  rcases h.get?_cases id with ⟨ha, hb⟩ | ⟨d, d', ha, hb, hdump⟩
  · rw [ha, hb]
  · rw [ha, hb]
    exact sceneId_eq_of_dump_eq hdump

/-- They save the same text. -/
theorem Alike.savedText_eq : a.savedText = b.savedText := by
  have hvalues : ∀ registry : Registry,
      registry.deployments.map Deployment.dump = registry.documents.map Prod.snd := by
    intro registry
    rw [deployments, Registry.documents, Keyed.mapValues, List.map_map, List.map_map]
    rfl
  rw [savedText, savedText, hvalues, hvalues, h.documents]

/-- Recording keeps them alike. -/
theorem Alike.record (d : Deployment) : Alike (a.record d) (b.record d) := by
  refine ⟨h.roomId, h.path, h.disk, ?_⟩
  have hdocuments := h.documents
  rw [Registry.documents, Registry.documents] at hdocuments ⊢
  rw [Registry.record, Registry.record, Keyed.mapValues_put, Keyed.mapValues_put, hdocuments]

theorem Alike.forget (id : String) : Alike (a.forget id) (b.forget id) := by
  refine ⟨h.roomId, h.path, h.disk, ?_⟩
  have hdocuments := h.documents
  rw [Registry.documents, Registry.documents] at hdocuments ⊢
  rw [Registry.forget, Registry.forget, Keyed.mapValues_erase, Keyed.mapValues_erase, hdocuments]

theorem Alike.facing (obstacle : Option Obstacle) :
    Alike (a.facing obstacle) (b.facing obstacle) := by
  refine ⟨h.roomId, h.path, ?_, h.documents⟩
  rw [Registry.facing, Registry.facing, h.disk]
  rfl

/-- Saving succeeds for both or fails for both, and keeps them alike. -/
theorem Alike.save_cases :
    ∃ saved after after', a.save = (saved, after) ∧ b.save = (saved, after') ∧
      Alike after after' := by
  rw [Registry.save, Registry.save, h.disk, h.savedText_eq, h.path]
  cases b.disk.save b.savedText with
  | mk obstacle disk =>
    cases obstacle <;> exact ⟨_, _, _, rfl, rfl, h.roomId, rfl, rfl, h.documents⟩

variable [Stack] {σ : Type} (controller : Machine σ) (state : σ)

/-- **Installing cannot tell them apart.** -/
theorem Alike.install (automation : Automation) (statements : List String) :
    Twins (a.install controller automation statements state)
      (b.install controller automation statements state) := by
  rw [Registry.install, Registry.install]
  cases draft automation statements with
  | error why => exact ⟨rfl, h, rfl⟩
  | ok draft =>
    have hoperation : a.deployOperation draft = b.deployOperation draft := by
      rw [deployOperation, deployOperation, h.sceneOf?_eq, h.roomId]
    simp only [hoperation]
    cases (b.deployOperation draft).perform controller state with
    | mk settled state' =>
      cases settled with
      | error why => exact ⟨rfl, h, rfl⟩
      | ok outcome =>
        have hscene : a.deployedScene draft outcome = b.deployedScene draft outcome := by
          cases outcome with
          | scene scene => rfl
          | scenes | code | done => exact h.sceneOf?_eq _
        simp only [hscene]
        obtain ⟨saved, after, after', ha, hb, hafter⟩ :=
          (h.record { draft with sceneId := b.deployedScene draft outcome }).save_cases
        rw [ha, hb]
        cases saved <;> exact ⟨rfl, hafter, rfl⟩

/-- **Uninstalling cannot tell them apart.** -/
theorem Alike.uninstall (id : String) :
    Twins (a.uninstall controller id state) (b.uninstall controller id state) := by
  rw [Registry.uninstall, Registry.uninstall]
  rcases h.get?_cases id with ⟨ha, hb⟩ | ⟨d, d', ha, hb, hdump⟩
  · rw [ha, hb]
    exact ⟨rfl, h, rfl⟩
  · rw [ha, hb]
    simp only [sceneId_eq_of_dump_eq hdump]
    cases withdraw controller d'.sceneId state with
    | mk settled state' =>
      cases settled with
      | error why => exact ⟨rfl, h, rfl⟩
      | ok done =>
        obtain ⟨saved, after, after', ha, hb, hafter⟩ := (h.forget id).save_cases
        simp only [ha, hb]
        cases saved <;> exact ⟨rfl, hafter, rfl⟩

/-- **A call on registries that are alike** gives the same answer and leaves them alike. -/
theorem Alike.serve (job : Job) :
    (serve controller job a state).answer = (serve controller job b state).answer ∧
      Alike (serve controller job a state).registry (serve controller job b state).registry ∧
      (serve controller job a state).state = (serve controller job b state).state := by
  obtain ⟨call, obstacle⟩ := job
  cases call with
  | install order =>
    have htwins := (h.facing obstacle).install controller state order.automation order.statements
    exact ⟨congrArg Answer.installed htwins.result, htwins.registry, htwins.state⟩
  | uninstall id =>
    have htwins := (h.facing obstacle).uninstall controller state id
    exact ⟨congrArg Answer.uninstalled htwins.result, htwins.registry, htwins.state⟩

/-- A whole run gives the same answers, job after job. -/
theorem Alike.serveAll (jobs : List Job) :
    (serveAll controller jobs a state).answers = (serveAll controller jobs b state).answers ∧
      Alike (serveAll controller jobs a state).registry
        (serveAll controller jobs b state).registry ∧
      (serveAll controller jobs a state).state = (serveAll controller jobs b state).state := by
  induction jobs generalizing a b state with
  | nil => exact ⟨rfl, h, rfl⟩
  | cons job rest ih =>
    obtain ⟨hanswer, hregistry, hstate⟩ := h.serve controller state job
    obtain ⟨hanswers, hend, hstates⟩ := ih hregistry (Registry.serve controller job a state).state
    rw [Registry.serveAll, Registry.serveAll, ← hstate]
    exact ⟨List.cons_eq_cons.mpr ⟨hanswer, hanswers⟩, hend, hstates⟩

end Alike

/-! ## Records that can be saved -/

/-- **Well kept**: no id is recorded twice, and every record is under its own id and can be
    written. -/
structure WellKept (registry : Registry) : Prop where
  nodup : (registry.records.map Prod.fst).Nodup
  own : ∀ record ∈ registry.records, record.2.automation.id = record.1
  writable : ∀ record ∈ registry.records, record.2.automation.Writable

/-- **A call that can be served and saved**: the actions of an install can be written. -/
def Call.Writable : Call → Prop
  | .install order => ∀ action ∈ order.automation.actions, action.Writable
  | .uninstall _ => True

/-- What is drafted can be written: its conditions compile. -/
theorem writable_of_draft [Stack] {a : Automation} {statements : List String} {d : Deployment}
    (h : draft a statements = .ok d) (hactions : ∀ action ∈ a.actions, action.Writable) :
    d.automation.Writable := by
  obtain ⟨report, code, hreport, hvalid, _, rfl⟩ := draft_eq_ok_iff.mp h
  obtain ⟨text, htext⟩ := (Condition.Group.compiles_iff_valid _ _).mpr ⟨report, hreport, hvalid⟩
  have hheight := Condition.Group.height_of_compile htext
  exact ⟨Condition.Group.writable_of_compile htext,
    Int.ofNat_le.mp (Int.le_trans hheight (by decide)), hactions⟩

section WellKept

variable {registry : Registry} (h : WellKept registry)
include h

/-- Recording what can be written keeps a registry well kept. -/
theorem WellKept.record {d : Deployment} (hd : d.automation.Writable) :
    WellKept (registry.record d) := by
  refine ⟨Keyed.nodup_put h.nodup, ?_, ?_⟩
  · intro record hrecord
    rcases Keyed.mem_put hrecord with rfl | hrecord
    · rfl
    · exact h.own record hrecord
  · intro record hrecord
    rcases Keyed.mem_put hrecord with rfl | hrecord
    · exact hd
    · exact h.writable record hrecord

theorem WellKept.forget (id : String) : WellKept (registry.forget id) :=
  ⟨Keyed.nodup_erase h.nodup, fun record hrecord => h.own record (List.mem_filter.mp hrecord).1,
    fun record hrecord => h.writable record (List.mem_filter.mp hrecord).1⟩

theorem WellKept.onDisk (disk : Disk) : WellKept (registry.onDisk disk) :=
  ⟨h.nodup, h.own, h.writable⟩

/-- Records read from a file one after another. -/
theorem WellKept.foldl_record {ds : List Deployment} (hds : ∀ d ∈ ds, d.automation.Writable) :
    WellKept (ds.foldl Registry.record registry) := by
  induction ds generalizing registry with
  | nil => exact h
  | cons d rest ih =>
    obtain ⟨hd, hrest⟩ := List.forall_mem_cons.mp hds
    exact ih (h.record hd) hrest

variable [Stack] {σ : Type} (controller : Machine σ) (state : σ)

/-- Whatever an install does, it records nothing that cannot be written. -/
theorem WellKept.install {order : InstallOrder} (hcall : (Call.install order).Writable) :
    WellKept (registry.install controller order.automation order.statements state).2.1 := by
  rcases install_cases controller order.automation order.statements registry state
    with ⟨why, _, hinstall⟩ | ⟨d, why, state', _, _, hinstall⟩ |
      ⟨d, outcome, state', result, disk, hdraft, _, hinstall, _⟩
  · rw [hinstall]
    exact h
  · rw [hinstall]
    exact h
  · rw [hinstall]
    have hd : d.automation.Writable := writable_of_draft hdraft hcall
    have hdeployed : (registry.deployed d outcome).automation.Writable := hd
    exact (h.record hdeployed).onDisk disk

/-- An uninstall records nothing new. -/
theorem WellKept.uninstall (id : String) :
    WellKept (registry.uninstall controller id state).2.1 := by
  rcases uninstall_cases controller id registry state
    with ⟨_, huninstall⟩ | ⟨d, why, state', _, _, huninstall⟩ |
      ⟨d, state', result, disk, _, _, huninstall, _⟩
  · rw [huninstall]
    exact h
  · rw [huninstall]
    exact h
  · rw [huninstall]
    exact (h.forget id).onDisk disk

/-- One job, of either kind. -/
theorem WellKept.serve {job : Job} (hjob : job.call.Writable) :
    WellKept (serve controller job registry state).registry := by
  obtain ⟨call, obstacle⟩ := job
  have hfacing : WellKept (registry.facing obstacle) := h.onDisk _
  cases call with
  | install order => exact hfacing.install controller state hjob
  | uninstall id => exact hfacing.uninstall controller state id

/-- All jobs of a run. -/
theorem WellKept.serveAll {jobs : List Job} (hjobs : ∀ job ∈ jobs, job.call.Writable) :
    WellKept (serveAll controller jobs registry state).registry := by
  induction jobs generalizing registry state with
  | nil => exact h
  | cons job rest ih =>
    obtain ⟨hjob, hrest⟩ := List.forall_mem_cons.mp hjobs
    exact ih (h.serve controller state hjob) _ hrest

end WellKept

/-! ## The file in step -/

/-- Whether a call failed because the records could not be saved. -/
def Answer.saveFailed : Answer → Bool
  | .installed (.error (.unsaved ..)) | .uninstalled (.error (.unsaved ..)) => true
  | _ => false

/-- **In step**: the file holds the text that the records are saved as, or neither the file nor the
    records have changed since the start. -/
def InStep (start registry : Registry) : Prop :=
  registry.disk.contents = some (.text registry.savedText) ∨
    registry.disk.contents = start.disk.contents ∧ registry.records = start.records

/-- What the file holds when something stood in the way of a save. -/
def leftBy (obstacle : Obstacle) (contents : Option Contents) : Option Contents :=
  if obstacle.preventsOpening then contents else some (.text "")

/-- A save leaves the file in step, or fails. -/
theorem saved_or_unsaved (registry : Registry) :
    (∃ after, registry.save = (.ok (), after) ∧
      after.disk.contents = some (.text after.savedText)) ∨
      ∃ obstacle after, registry.save = (.error (.unsaved registry.path obstacle), after) ∧
        registry.disk.obstacle = some obstacle ∧
        after.disk.contents = leftBy obstacle registry.disk.contents := by
  rw [save]
  cases hobstacle : registry.disk.obstacle with
  | none =>
    rw [Disk.save_of_clear hobstacle]
    exact Or.inl ⟨_, rfl, rfl⟩
  | some obstacle =>
    rw [Disk.save_of_obstacle hobstacle]
    refine Or.inr ⟨obstacle, _, rfl, rfl, ?_⟩
    rw [leftBy]
    cases obstacle.preventsOpening <;> rfl

/-- **What a call does to the file**, and whether its save failed: nothing, a save, or what an
    obstacle leaves. -/
inductive FileStep (registry : Registry) : Bool → Registry → Prop where
  | idle : FileStep registry false registry
  | saved {after : Registry} (hcontents : after.disk.contents = some (.text after.savedText)) :
    FileStep registry false after
  | unsaved {after : Registry} {obstacle : Obstacle} (hobstacle : registry.disk.obstacle =
    some obstacle)
    (hcontents : after.disk.contents = leftBy obstacle registry.disk.contents) :
      FileStep registry true after

section FileStep

variable [Stack] {σ : Type} (controller : Machine σ) (registry : Registry) (state : σ)

/-- **Installing** leaves the file as it is, saves, or fails to save, and its answer tells which. -/
theorem fileStep_install (automation : Automation) (statements : List String) :
    FileStep registry (Answer.installed
      (registry.install controller automation statements state).1).saveFailed
      (registry.install controller automation statements state).2.1 := by
  rw [install]
  cases hdraft : draft automation statements with
  | error why =>
    -- a draft never fails for the file
    have heffect := tookEffect_of_draft_error hdraft
    cases why with
    | unsaved => cases heffect
    | rejected | invalid | controller => exact .idle
  | ok draft =>
    simp only
    cases (registry.deployOperation draft).perform controller state with
    | mk settled state' =>
      cases settled with
      | error why => exact .idle
      | ok outcome =>
        simp only
        rcases saved_or_unsaved
          (registry.record { draft with sceneId := registry.deployedScene draft outcome })
          with ⟨after, hsave, hcontents⟩ | ⟨obstacle, after, hsave, hobstacle, hcontents⟩
        · rw [hsave]
          exact .saved hcontents
        · rw [hsave]
          exact .unsaved hobstacle hcontents

/-- **Uninstalling** does too. -/
theorem fileStep_uninstall (id : String) :
    FileStep registry (Answer.uninstalled (registry.uninstall controller id state).1).saveFailed
      (registry.uninstall controller id state).2.1 := by
  rw [uninstall]
  cases registry.get? id with
  | none => exact .idle
  | some deployment =>
    simp only
    cases withdraw controller deployment.sceneId state with
    | mk settled state' =>
      cases settled with
      | error why => exact .idle
      | ok done =>
        simp only
        rcases saved_or_unsaved (registry.forget id)
          with ⟨after, hsave, hcontents⟩ | ⟨obstacle, after, hsave, hobstacle, hcontents⟩
        · rw [hsave]
          exact .saved hcontents
        · rw [hsave]
          exact .unsaved hobstacle hcontents

/-- One job of either kind. -/
theorem fileStep_serve (job : Job) :
    FileStep (registry.facing job.obstacle) (serve controller job registry state).answer.saveFailed
      (serve controller job registry state).registry := by
  obtain ⟨call, obstacle⟩ := job
  cases call with
  | install order =>
    exact fileStep_install controller (registry.facing obstacle) state order.automation
      order.statements
  | uninstall id => exact fileStep_uninstall controller (registry.facing obstacle) state id

end FileStep

section InStep

variable {start registry : Registry} (h : InStep start registry)
include h

variable [Stack] {σ : Type} {controller : Machine σ} {state : σ}

/-- As long as no save fails, the file stays in step with the records. -/
theorem InStep.serve {job : Job}
    (hsaved : (serve controller job registry state).answer.saveFailed = false) :
    InStep start (serve controller job registry state).registry := by
  have hfacing : InStep start (registry.facing job.obstacle) := h
  have hstep := fileStep_serve controller registry state job
  rw [hsaved] at hstep
  generalize (Registry.serve controller job registry state).registry = after at hstep
  cases hstep with
  | idle => exact hfacing
  | saved hcontents => exact Or.inl hcontents

/-- **A run without a failed save** keeps the file in step. -/
theorem InStep.serveAll {jobs : List Job}
    (hsaved : ∀ answer ∈ (serveAll controller jobs registry state).answers,
    answer.saveFailed = false) :
    InStep start (serveAll controller jobs registry state).registry := by
  induction jobs generalizing registry state with
  | nil => exact h
  | cons job rest ih =>
    rw [Registry.serveAll] at hsaved ⊢
    obtain ⟨hanswer, hanswers⟩ := List.forall_mem_cons.mp hsaved
    exact ih (h.serve hanswer) hanswers

end InStep

/-- Being well kept and in step, along a whole run. -/
theorem serveAll_inStep [Stack] {σ : Type} {controller : Machine σ} {start registry : Registry}
    {jobs : List Job} {state : σ} (hkept : WellKept registry) (hstep : InStep start registry)
    (hjobs : ∀ job ∈ jobs, job.call.Writable)
    (hsaved : ∀ answer ∈ (serveAll controller jobs registry state).answers,
    answer.saveFailed = false) :
    WellKept (serveAll controller jobs registry state).registry ∧
      InStep start (serveAll controller jobs registry state).registry :=
  ⟨hkept.serveAll controller state hjobs, hstep.serveAll hsaved⟩

/-! ## Loading -/

/-- Recording one after another touches the records alone. -/
theorem foldl_record_eq (ds : List Deployment) (registry : Registry) :
    ds.foldl record registry =
      { registry with
        records := ds.foldl (fun entries d => Keyed.put d.automation.id d entries)
          registry.records } := by
  induction ds generalizing registry with
  | nil => rfl
  | cons d rest ih =>
    rw [List.foldl_cons, ih]
    rfl

/-- Loading records what is saved, or fails as reading the file does. -/
theorem load_eq_ok_iff [Stack] {registry loaded : Registry} :
    registry.load = .ok loaded ↔
      ∃ ds, savedDeployments registry.disk = .ok ds ∧ loaded = ds.foldl record registry := by
  rw [load]
  cases savedDeployments registry.disk with
  | error why => simp [Except.map]
  | ok ds => simp [Except.map, eq_comm]

/-- What stands in the way of saving does not matter for loading. -/
theorem savedDeployments_congr [Stack] {disk other : Disk} (h : disk.contents = other.contents) :
    savedDeployments disk = savedDeployments other := by
  rw [savedDeployments, savedDeployments, savedValues, savedValues, h]

/-- What is saved in a file that holds a list. -/
theorem savedDeployments_of_read [Stack] {disk : Disk} {text : String} {items : List Value}
    (hcontents : disk.contents = some (.text text)) (hread : Json.read text = .ok (.list items)) :
    savedDeployments disk = .ok (deploymentsIn items) := by
  rw [savedDeployments, savedValues, hcontents]
  simp only [hread]
  rfl

/-- Everything that is loaded can be written. -/
theorem writable_of_saved [Stack] {disk : Disk} {ds : List Deployment}
    (h : savedDeployments disk = .ok ds) :
    ∀ d ∈ ds, d.automation.Writable := by
  rw [savedDeployments] at h
  cases hvalues : savedValues disk with
  | error why =>
    rw [hvalues] at h
    cases h
  | ok values =>
    rw [hvalues] at h
    obtain rfl := Except.ok.inj h
    intro d hd
    obtain ⟨v, _, hv⟩ := List.mem_filterMap.mp hd
    cases hread : Deployment.read v with
    | bad issues =>
      rw [hread] at hv
      cases hv
    | good read =>
      rw [hread] at hv
      rw [← Option.some.inj hv]
      exact Deployment.writable_of_read hread

/-- The documents of deployments that can be written come back as the deployments restored. -/
theorem deploymentsIn_dump {ds : List Deployment} (h : ∀ d ∈ ds, d.automation.Writable) :
    deploymentsIn (ds.map Deployment.dump) = ds.map Deployment.restored := by
  induction ds with
  | nil => rfl
  | cons d rest ih =>
    obtain ⟨hd, hrest⟩ := List.forall_mem_cons.mp h
    rw [List.map_cons, List.map_cons, ← ih hrest, deploymentsIn,
      List.filterMap_cons_some (by rw [Deployment.read_dump hd])]
    rfl

/-- Records under their own ids, put one after another, are the records. -/
theorem foldl_put_restored {records base : List (String × Deployment)}
    (hown : ∀ record ∈ records, record.2.automation.id = record.1)
    (hnodup : ((base ++ records).map Prod.fst).Nodup) :
    (records.map fun record => record.2.restored).foldl
        (fun entries d => Keyed.put d.automation.id d entries) base =
      base ++ Keyed.mapValues Deployment.restored records := by
  induction records generalizing base with
  | nil => exact (List.append_nil base).symm
  | cons record rest ih =>
    obtain ⟨hid, hrest⟩ := List.forall_mem_cons.mp hown
    have hkey : record.2.restored.automation.id = record.1 := hid
    -- No earlier record has this id, so the record goes to the end.
    have hnew : record.1 ∉ base.map Prod.fst := by
      intro hmem
      rw [List.map_append] at hnodup
      exact (List.nodup_append.mp hnodup).2.2 _ hmem _ (List.mem_cons_self ..) rfl
    have hsplit : ((base ++ [(record.1, record.2.restored)]) ++ rest).map Prod.fst =
        (base ++ record :: rest).map Prod.fst := by
      simp
    rw [List.map_cons, List.foldl_cons, hkey, Keyed.put_of_not_mem hnew, ih hrest (hsplit ▸ hnodup),
      List.append_assoc]
    rfl

/-- **A file in step is loaded as records that are alike.** -/
theorem WellKept.load_restarted [Stack] {registry : Registry} (h : WellKept registry)
    (hcontents : registry.disk.contents = some (.text registry.savedText))
    (hjson : Json.read (Json.indented 0 (.list (registry.deployments.map Deployment.dump))) =
      .ok (.list (registry.deployments.map Deployment.dump))) :
    ∃ fresh, registry.restarted.load = .ok fresh ∧ Alike fresh registry := by
  have hwritable : ∀ d ∈ registry.deployments, d.automation.Writable := by
    intro d hd
    obtain ⟨record, hrecord, rfl⟩ := List.mem_map.mp hd
    exact h.writable record hrecord
  have hsaved : savedDeployments registry.restarted.disk =
      .ok (registry.deployments.map Deployment.restored) := by
    rw [← deploymentsIn_dump hwritable]
    exact savedDeployments_of_read hcontents hjson
  refine ⟨_, load_eq_ok_iff.mpr ⟨_, hsaved, rfl⟩, ?_⟩
  rw [foldl_record_eq]
  refine ⟨rfl, rfl, rfl, ?_⟩
  have hrecords : (registry.deployments.map Deployment.restored).foldl
        (fun entries d => Keyed.put d.automation.id d entries) registry.restarted.records =
      Keyed.mapValues Deployment.restored registry.records := by
    rw [deployments, List.map_map]
    exact foldl_put_restored h.own h.nodup
  show Keyed.mapValues Deployment.dump _ = Keyed.mapValues Deployment.dump registry.records
  rw [hrecords, Keyed.mapValues, Keyed.mapValues, Keyed.mapValues, List.map_map]
  exact List.map_congr_left fun record _ => congrArg (Prod.mk record.1) record.2.dump_restored

/-- **A file that is as it was is loaded as it was.** -/
theorem load_restarted_of_unchanged [Stack] {first start registry : Registry}
    (hempty : first.records = [])
    (hload : first.load = .ok start) (hcontents : registry.disk.contents = start.disk.contents)
    (hrecords : registry.records = start.records) :
    ∃ fresh, registry.restarted.load = .ok fresh ∧ Alike fresh registry := by
  obtain ⟨ds, hsaved, rfl⟩ := load_eq_ok_iff.mp hload
  rw [foldl_record_eq, hempty] at hcontents hrecords
  have hsame : savedDeployments registry.restarted.disk = .ok ds :=
    (savedDeployments_congr hcontents).trans hsaved
  refine ⟨_, load_eq_ok_iff.mpr ⟨ds, hsame, rfl⟩, ?_⟩
  rw [foldl_record_eq]
  refine ⟨rfl, rfl, rfl, ?_⟩
  exact congrArg (Keyed.mapValues Deployment.dump) hrecords.symm

/-! ## Restarts -/

/-- A controller that keeps a list of the requests it was sent. -/
def recording {σ : Type} (controller : Machine σ) : Machine (List Request × σ) :=
  fun request state =>
    let (reply, after) := controller request state.2
    (reply, state.1 ++ [request], after)

/-- **Indistinguishable**: the same records as documents, and whatever jobs come and whatever the
    controller does with them, the same requests, the same answers, and the same records and file
    after. -/
structure Indistinguishable [Stack] (a b : Registry) : Prop where
  documents : a.documents = b.documents
  later : ∀ (σ : Type) (controller : Machine σ) (state : σ) (jobs : List Job),
    let x := serveAll (recording controller) jobs a ([], state)
    let y := serveAll (recording controller) jobs b ([], state)
    x.answers = y.answers ∧ x.state = y.state ∧ x.registry.documents = y.registry.documents ∧
      x.registry.disk = y.registry.disk

/-- **Alike registries are indistinguishable**, by any calls from now on. -/
theorem Alike.indistinguishable [Stack] {a b : Registry} (h : Alike a b) :
    Indistinguishable a b := by
  refine ⟨h.documents, fun σ controller state jobs => ?_⟩
  obtain ⟨hanswers, hregistry, hstate⟩ := h.serveAll (recording controller) ([], state) jobs
  exact ⟨hanswers, hstate, hregistry.documents, hregistry.disk⟩

/-- **A clean run**: with nothing recorded yet the file was loaded, whatever it held, and the jobs
    served since came to `running` without a failed save. -/
structure CleanRun [Stack] {σ : Type} (controller : Machine σ) (state : σ) (first : Registry)
    (jobs : List Job) (running : Registry) : Prop where
  empty : first.records = []
  writable : ∀ job ∈ jobs, job.call.Writable
  served : ∃ start, first.load = .ok start ∧
    (∀ answer ∈ (serveAll controller jobs start state).answers, answer.saveFailed = false) ∧
    running = (serveAll controller jobs start state).registry

/-- **A restart goes unnoticed** at every point of every clean run, provided that the documents of
    the records, written as JSON text, are read back as they are. -/
theorem restart_unnoticed [Stack] {σ : Type} {controller : Machine σ} {state : σ}
    {first running : Registry} {jobs : List Job} (h : CleanRun controller state first jobs running)
    (hjson : Json.read (Json.indented 0 (.list (running.deployments.map Deployment.dump))) =
      .ok (.list (running.deployments.map Deployment.dump))) :
    ∃ fresh, running.restarted.load = .ok fresh ∧ Indistinguishable fresh running := by
  obtain ⟨start, hload, hsaved, hrunning⟩ := h.served
  have hfirst : WellKept first := by
    refine ⟨?_, ?_, ?_⟩ <;> rw [h.empty]
    · exact List.nodup_nil
    · exact List.forall_mem_nil _
    · exact List.forall_mem_nil _
  have hstart : WellKept start := by
    obtain ⟨ds, hds, rfl⟩ := load_eq_ok_iff.mp hload
    exact hfirst.foldl_record (writable_of_saved hds)
  have hunchanged : InStep start start := Or.inr ⟨rfl, rfl⟩
  obtain ⟨hkept, hstep⟩ := serveAll_inStep hstart hunchanged h.writable hsaved
  rw [← hrunning] at hkept hstep
  -- Either the file was written since, or it is what was loaded at the start.
  have halike : ∃ fresh, running.restarted.load = .ok fresh ∧ Alike fresh running := by
    rcases hstep with hcontents | ⟨hcontents, hrecords⟩
    · exact hkept.load_restarted hcontents hjson
    · exact load_restarted_of_unchanged h.empty hload hcontents hrecords
  obtain ⟨fresh, hfresh, hindistinguishable⟩ := halike
  exact ⟨fresh, hfresh, hindistinguishable.indistinguishable⟩

/-- What an old file holds: an id twice, truth values and numbers in other words, names that are
    not those on the wire, and a leaf of an unknown kind with a number that is none. -/
def oldItems : List Value :=
  [.object [("automation", .object [("id", .text "a"), ("name", .text ""),
    ("conditions", .object [])]),
      ("lua_code", .text ""), ("validation", .object [("valid", .int 1)])],
    .object [("automation", .object [("id", .text "b"), ("name", .text ""), ("conditions",
        .object [("conditions", .list [.object [("type", .text "moon"), ("at", .float .nan)]])])]),
      ("luaCode", .text ""), ("scene_id", .text "7"),
      ("validation", .object [("valid", .text "no")])],
    .object [("automation", .object [("id", .text "a"), ("name", .text "!"),
    ("conditions", .object [])]),
      ("luaCode", .text ""), ("validation", .object [("valid", .bool true)])]]

/-- A registry that has just started, with the old file. -/
def oldFile : Registry :=
  ⟨219, "scenes.json", [], ⟨some (.text (Json.indented 0 (.list oldItems))), none⟩⟩

/-- A controller with room for one scene. -/
def oneSlot : List Controller.Slot :=
  [⟨1, "\x7b\"id\": 1, \"name\": \"first\"\x7d"⟩]

/-- An uninstall of what is not there, an install, another one for which there is no slot, and an
    uninstall of what was in the file. -/
def oldJobs : List Job :=
  [⟨.uninstall "attic", some .noSpace⟩, ⟨.install (lampOrder "hall" []), none⟩,
    ⟨.install (lampOrder "porch" []), none⟩, ⟨.uninstall "a", none⟩]

theorem writable_oldJobs : ∀ job ∈ oldJobs, job.call.Writable := by
  intro job hjob
  simp only [oldJobs, List.mem_cons, List.not_mem_nil, or_false] at hjob
  rcases hjob with rfl | rfl | rfl | rfl
  · exact trivial
  · exact List.forall_mem_nil _
  · exact List.forall_mem_nil _
  · exact trivial

section

open scoped Stack

/-- The run of these jobs from the old file. -/
def oldRun : ServedAll Controller.Scenes :=
  serveAll (Controller.slotted oneSlot) oldJobs ((deploymentsIn oldItems).foldl record oldFile)
    fun _ => none

/-- **The old file** leaves one record after the jobs beside the new one, and a restart goes
    unnoticed. -/
theorem oldRunning_restart :
    CleanRun (Controller.slotted oneSlot) (fun _ => none) oldFile oldJobs oldRun.registry ∧
      oldRun.answers.map Answer.reportsSuccess = [false, true, false, true] ∧
      oldRun.registry.documents.map Prod.fst = ["b", "hall"] ∧
      ∃ fresh, oldRun.registry.restarted.load = .ok fresh ∧
        Indistinguishable fresh oldRun.registry := by
  have hread : Json.read (Json.indented 0 (.list oldItems)) = .ok (.list oldItems) :=
    (Json.readsBack_iff _).mp (by decide +kernel)
  have hclean : CleanRun (Controller.slotted oneSlot) (fun _ => none) oldFile oldJobs
      oldRun.registry := by
    refine ⟨rfl, writable_oldJobs, _,
      load_eq_ok_iff.mpr ⟨_, savedDeployments_of_read rfl hread, rfl⟩, ?_, rfl⟩
    have hanswers : (oldRun.answers.all fun answer => !answer.saveFailed) = true := by
      decide +kernel
    intro answer hanswer
    simpa using List.all_eq_true.mp hanswers answer hanswer
  refine ⟨hclean, by decide +kernel, by decide +kernel, restart_unnoticed hclean ?_⟩
  exact (Json.readsBack_iff _).mp (by decide +kernel)

end

end Registry

end HomeScenes
