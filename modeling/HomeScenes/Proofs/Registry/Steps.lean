import HomeScenes.Registry

/-!
# What a step of the registry can do

  An install and an uninstall each stop at the first of their parts that fails.  This file says
  once what that leaves: either nothing is changed but what the request did to the controller, or
  the record is changed, and then a failure can only be that of the save.  Whatever is proved
  about runs of the registry starts from `install_cases` and `uninstall_cases` and never opens the
  operations again.
-/

namespace HomeScenes

/-! ## Laws of lists by key -/

namespace Keyed

variable {α : Type}

theorem get?_erase_of_ne {key other : String} (h : other ≠ key) (entries : List (String × α)) :
    get? other (erase key entries) = get? other entries := by
  induction entries with
  | nil => rfl
  | cons entry rest ih =>
    obtain ⟨k, a⟩ := entry
    rw [erase] at ih
    by_cases hk : k = key
    · have hother : k ≠ other := fun he => h (he.symm.trans hk)
      rw [erase, List.filter_cons_of_neg (by simpa using hk), get?, if_neg hother, ih]
    · rw [erase, List.filter_cons_of_pos (by simpa using hk), get?, get?, ih]

theorem mem_keys_of_mem_put {key k : String} {value : α} {entries : List (String × α)}
    (h : k ∈ (put key value entries).map Prod.fst) : k = key ∨ k ∈ entries.map Prod.fst := by
  induction entries with
  | nil => exact Or.inl (List.mem_singleton.mp h)
  | cons entry rest ih =>
    obtain ⟨k', a⟩ := entry
    rw [put] at h
    split at h
    · exact Or.inr h
    · rcases List.mem_cons.mp h with h | h
      · exact Or.inr (List.mem_cons.mpr (Or.inl h))
      · exact (ih h).imp_right (List.mem_cons_of_mem k')

/-- A key is never there twice. -/
theorem nodup_put {key : String} {value : α} {entries : List (String × α)}
    (h : (entries.map Prod.fst).Nodup) : ((put key value entries).map Prod.fst).Nodup := by
  induction entries with
  | nil => exact List.nodup_cons.mpr ⟨List.not_mem_nil, List.nodup_nil⟩
  | cons entry rest ih =>
    obtain ⟨k, a⟩ := entry
    rw [put]
    split
    · exact h
    · rename_i hk
      obtain ⟨hnot, hrest⟩ := List.nodup_cons.mp h
      refine List.nodup_cons.mpr ⟨fun hmem => ?_, ih hrest⟩
      rcases mem_keys_of_mem_put hmem with he | hmem
      · exact hk he
      · exact hnot hmem

theorem nodup_erase {key : String} {entries : List (String × α)}
    (h : (entries.map Prod.fst).Nodup) : ((erase key entries).map Prod.fst).Nodup :=
  h.sublist (List.filter_sublist.map Prod.fst)

end Keyed

namespace Registry

open Controller (Machine Operation Outcome)

/-! ## Saving -/

/-- The registry with another file. -/
def onDisk (registry : Registry) (disk : Disk) : Registry :=
  { registry with disk := disk }

/-- **Saving** touches the file only, and fails for want of the file only. -/
theorem save_cases (registry : Registry) :
    ∃ disk, registry.save = (.ok (), registry.onDisk disk) ∨
      ∃ obstacle, registry.save = (.error (.unsaved registry.path obstacle),
        registry.onDisk disk) := by
  rw [save]
  cases registry.disk.save registry.savedText with
  | mk obstacle disk =>
    refine ⟨disk, ?_⟩
    cases obstacle with
    | none => exact Or.inl rfl
    | some obstacle => exact Or.inr ⟨obstacle, rfl⟩

/-! ## Drafts -/

variable [Stack]

/-- **A draft** is made exactly when the conditions are valid and there is scene code. -/
theorem draft_eq_ok_iff {a : Automation} {statements : List String} {d : Deployment} :
    draft a statements = .ok d ↔
      ∃ report code, a.conditions.check Condition.defaultLimit = .ok report ∧ report.valid = true ∧
        a.script statements = .ok code ∧ d = ⟨a, code, none, report⟩ := by
  rw [draft, Automation.generate]
  cases a.conditions.check Condition.defaultLimit with
  | error what => simp
  | ok report =>
    by_cases hvalid : report.valid = true
    · cases a.script statements with
      | error why => simp [hvalid, Except.map]
      | ok code =>
        simp only [hvalid, if_true, Except.map]
        constructor
        · intro h; injection h with h; exact ⟨report, code, rfl, hvalid, rfl, h.symm⟩
        · rintro ⟨report', code', hreport, _, hcode, rfl⟩
          injection hreport with hreport
          injection hcode with hcode
          rw [hreport, hcode]
    · simp [hvalid]

/-! ## Operations -/

/-- **An operation took effect**: it came to its end, or only the save failed. -/
def tookEffect {α : Type} : Except Failure α → Bool
  | .ok _ => true
  | .error (.unsaved ..) => true
  | .error _ => false

/-- A draft fails for what is wrong with the automation, never for a file. -/
theorem tookEffect_of_draft_error {a : Automation} {statements : List String} {why : Failure}
    (h : draft a statements = .error why) :
    tookEffect (.error why : Except Failure Deployment) = false := by
  rw [draft] at h
  split at h
  · injection h with h; rw [← h]; rfl
  · split at h
    · exact nomatch h
    · injection h with h; rw [← h]; rfl

/-- A draft with the scene that holds it. -/
def deployed (registry : Registry) (draft : Deployment) (outcome : Outcome) : Deployment :=
  { draft with sceneId := registry.deployedScene draft outcome }

section Steps

variable {σ : Type} (controller : Machine σ)

/-- **An install** does one of three things.  Without a draft nothing happens; if the request
    fails the registry stays as it is; and otherwise the draft is recorded with its scene. -/
theorem install_cases (a : Automation) (statements : List String)
    (registry : Registry) (state : σ) :
    (∃ why, draft a statements = .error why ∧
      registry.install controller a statements state = (.error why, registry, state)) ∨
    (∃ d why state', draft a statements = .ok d ∧
      (registry.deployOperation d).perform controller state = (.error why, state') ∧
      registry.install controller a statements state =
        (.error (.controller why), registry, state')) ∨
    ∃ d outcome state' result disk, draft a statements = .ok d ∧
      (registry.deployOperation d).perform controller state = (.ok outcome, state') ∧
      registry.install controller a statements state =
        (result, (registry.record (registry.deployed d outcome)).onDisk disk, state') ∧
      tookEffect result = true := by
  simp only [install]
  cases hdraft : draft a statements with
  | error why => exact Or.inl ⟨why, rfl, rfl⟩
  | ok d =>
    refine Or.inr ?_
    cases hperform : (registry.deployOperation d).perform controller state with
    | mk settled state' =>
      cases settled with
      | error why => exact Or.inl ⟨d, why, state', rfl, hperform, by simp only [hperform]⟩
      | ok outcome =>
        refine Or.inr ?_
        have hrecord : registry.record { d with sceneId := registry.deployedScene d outcome } =
            registry.record (registry.deployed d outcome) := rfl
        obtain ⟨disk, hsave | ⟨obstacle, hsave⟩⟩ :=
          (registry.record (registry.deployed d outcome)).save_cases
        · refine ⟨d, outcome, state', .ok (registry.deployed d outcome), disk, rfl,
            hperform, ?_, rfl⟩
          simp only [hperform, hrecord, hsave]
          rfl
        · refine ⟨d, outcome, state', .error (.unsaved registry.path obstacle), disk, rfl,
            hperform, ?_, rfl⟩
          simp only [hperform, hrecord, hsave]
          rfl

/-- **An uninstall** does one of three things.  Without a record nothing happens; if the request
    fails the registry stays as it is; and otherwise the record is gone. -/
theorem uninstall_cases (id : String) (registry : Registry) (state : σ) :
    (registry.get? id = none ∧
      registry.uninstall controller id state = (.ok false, registry, state)) ∨
    (∃ d why state', registry.get? id = some d ∧
      withdraw controller d.sceneId state = (.error why, state') ∧
      registry.uninstall controller id state = (.error (.controller why), registry, state')) ∨
    ∃ d state' result disk, registry.get? id = some d ∧
      withdraw controller d.sceneId state = (.ok (), state') ∧
      registry.uninstall controller id state = (result, (registry.forget id).onDisk disk, state') ∧
      tookEffect result = true := by
  simp only [uninstall]
  cases hget : registry.get? id with
  | none => exact Or.inl ⟨rfl, rfl⟩
  | some d =>
    refine Or.inr ?_
    cases hwithdraw : withdraw controller d.sceneId state with
    | mk settled state' =>
      cases settled with
      | error why => exact Or.inl ⟨d, why, state', rfl, hwithdraw, by simp only [hwithdraw]⟩
      | ok done =>
        refine Or.inr ?_
        obtain ⟨disk, hsave | ⟨obstacle, hsave⟩⟩ := (registry.forget id).save_cases
        · refine ⟨d, state', .ok true, disk, rfl, hwithdraw, ?_, rfl⟩
          simp only [hwithdraw, hsave]
        · refine ⟨d, state', .error (.unsaved registry.path obstacle), disk, rfl,
            hwithdraw, ?_, rfl⟩
          simp only [hwithdraw, hsave]
          rfl

variable {controller}

/-- Withdrawing succeeds only if the delete does. -/
theorem perform_of_withdraw_ok {id : Int} {state after : σ}
    (h : withdraw controller (some id) state = (.ok (), after)) :
    ∃ outcome, (Operation.delete id).perform controller state = (.ok outcome, after) := by
  rw [withdraw] at h
  cases hperform : (Operation.delete id).perform controller state with
  | mk settled state' =>
    rw [hperform] at h
    cases settled with
    | error why => exact nomatch congrArg Prod.fst h
    | ok outcome =>
      obtain ⟨_, hafter⟩ := Prod.mk.inj h
      exact ⟨outcome, by rw [hafter]⟩

/-- It fails as the delete does. -/
theorem perform_of_withdraw_error {id : Int} {state after : σ} {why : Controller.Failure}
    (h : withdraw controller (some id) state = (.error why, after)) :
    (Operation.delete id).perform controller state = (.error why, after) := by
  rw [withdraw] at h
  cases hperform : (Operation.delete id).perform controller state with
  | mk settled state' =>
    rw [hperform] at h
    cases settled with
    | error why' =>
      obtain ⟨hwhy, hafter⟩ := Prod.mk.inj h
      injection hwhy with hwhy
      rw [hwhy, hafter]
    | ok outcome => exact nomatch congrArg Prod.fst h

end Steps

end Registry
end HomeScenes
