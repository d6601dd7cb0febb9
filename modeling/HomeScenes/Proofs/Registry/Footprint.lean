import HomeScenes.Proofs.Automation.Deployable
import HomeScenes.Proofs.Registry.Conversation

/-!
# What a call leaves alone

  A call touches the record of its own automation and nothing else, and only once the controller
  has done its part.  In particular:

  * an *idle* answer (`Answer.isIdle`), that is any failure but that of the save, or that there
    was nothing to uninstall, means that the records, their order and the contents of the file are
    as they were;

  * a *hopeless* call (`Call.Hopeless`), an install of an automation that cannot be deployed or an
    uninstall of one that is not installed, is not even mentioned to the controller;

  * any other answer means that the call is in effect, the records of all other automations are
    the same in the same order, and a record that was there already has kept its place.

  The failures may come from anywhere: `Course` has them all, so each law is one look at the
  courses.
-/

namespace HomeScenes

/-! ## Lists by key -/

namespace Keyed

variable {α : Type}

/-- Putting a key makes no difference to the others. -/
theorem erase_put (key : String) (value : α) (entries : List (String × α)) :
    erase key (put key value entries) = erase key entries := by
  induction entries with
  | nil => simp [put, erase]
  | cons entry rest ih =>
    obtain ⟨k, a⟩ := entry
    rw [erase, erase] at ih
    by_cases hk : k = key
    · rw [put, if_pos hk, erase, erase, List.filter_cons_of_neg (by simpa using hk),
        List.filter_cons_of_neg (by simpa using hk)]
    · rw [put, if_neg hk, erase, erase, List.filter_cons_of_pos (by simpa using hk),
        List.filter_cons_of_pos (by simpa using hk), ih]

/-- There is nothing left to erase the second time. -/
theorem erase_erase (key : String) (entries : List (String × α)) :
    erase key (erase key entries) = erase key entries := by
  rw [erase, erase, List.filter_filter]
  simp only [Bool.and_self]

/-- A key that is there keeps its place. -/
theorem keys_put_of_get? {key : String} {old : α} {entries : List (String × α)}
    (h : get? key entries = some old) (value : α) :
    (put key value entries).map Prod.fst = entries.map Prod.fst := by
  induction entries with
  | nil => cases h
  | cons entry rest ih =>
    obtain ⟨k, a⟩ := entry
    rw [get?] at h
    rw [put]
    by_cases hk : k = key
    · rw [if_pos hk]
      rfl
    · rw [if_neg hk] at h
      rw [if_neg hk, List.map_cons, List.map_cons, ih h]

end Keyed

namespace Registry

open Controller (Machine Turn)

/-! ## Idle answers and hopeless calls -/

/-- **An idle answer**: there was nothing to uninstall, or the call failed, but not for want of
    the file. -/
def Answer.isIdle : Answer → Bool
  | .installed result => !tookEffect result
  | .uninstalled (.ok false) => true
  | .uninstalled result => !tookEffect result

/-- **A hopeless call**: what is to be installed cannot be deployed, or what is to be uninstalled
    is not installed. -/
def Call.Hopeless [Stack] (registry : Registry) : Call → Prop
  | .install order => ¬ order.automation.Deployable
  | .uninstall id => registry.get? id = none

/-- **A call in effect**: what was to be installed is recorded, or what was to be uninstalled is
    not. -/
def Call.InEffect (registry : Registry) : Call → Prop
  | .install order =>
    ∃ d, registry.get? order.automation.id = some d ∧ d.automation = order.automation
  | .uninstall id => registry.get? id = none

/-- An uninstall that took effect and found something is no idle one. -/
theorem isIdle_uninstalled {result : Except Failure Bool} (heffect : tookEffect result = true)
    (htrue : result ≠ .ok false) : (Answer.uninstalled result).isIdle = false := by
  cases result with
  | error why => exact congrArg not heffect
  | ok done =>
    cases done with
    | false => exact absurd rfl htrue
    | true => rfl

variable [Stack]

/-- A deployment is of the automation that it was drafted from. -/
theorem automation_deployed {a : Automation} {statements : List String} {d : Deployment}
    (h : draft a statements = .ok d) (registry : Registry) (outcome : Controller.Outcome) :
    (registry.deployed d outcome).automation = a := by
  obtain ⟨report, code, _, _, _, rfl⟩ := draft_eq_ok_iff.mp h
  rfl

/-! ## One law for each course -/

namespace Course

variable {before after : Registry} {call : Call} {turns : List Turn} {answer : Answer}

/-- An idle call changes nothing at all. -/
theorem unchanged (h : Course before call turns answer after) (hidle : answer.isIdle = true) :
    after = before := by
  cases h with
  | rejected | refused | missing | kept => rfl
  | recorded _ _ heffect =>
    rw [Answer.isIdle, heffect] at hidle
    cases hidle
  | forgotten _ _ heffect htrue | withdrawn _ _ _ heffect htrue =>
    rw [isIdle_uninstalled heffect htrue] at hidle
    cases hidle

/-- **A hopeless call** ends before the first request. -/
theorem silent (h : Course before call turns answer after) (hhopeless : call.Hopeless before) :
    turns = [] ∧ answer.isIdle = true := by
  cases h with
  | rejected hdraft =>
    refine ⟨rfl, ?_⟩
    rw [Answer.isIdle, tookEffect_of_draft_error hdraft]
    rfl
  | refused hdraft _ | recorded hdraft _ _ =>
    exact absurd ((exists_draft_iff _ _).mp ⟨_, hdraft⟩) hhopeless
  | missing => exact ⟨rfl, rfl⟩
  | kept hget _ _ | forgotten hget _ _ _ | withdrawn hget _ _ _ _ =>
    rw [Call.Hopeless, hget] at hhopeless
    cases hhopeless

/-- All other records stay as they were, in their order. -/
theorem others (h : Course before call turns answer after) :
    Keyed.erase call.id after.records = Keyed.erase call.id before.records := by
  cases h with
  | rejected | refused | missing | kept => rfl
  | @recorded order d _ outcome _ _ hdraft _ _ =>
    have hid : (before.deployed d outcome).automation.id = order.automation.id :=
      congrArg Automation.id (automation_deployed hdraft before outcome)
    show Keyed.erase order.automation.id (Keyed.put (before.deployed d outcome).automation.id _ _) =
        _
    rw [hid]
    exact Keyed.erase_put _ _ _
  | forgotten | withdrawn => exact Keyed.erase_erase _ _

/-- Installing again keeps the record in its place. -/
theorem place {order : InstallOrder} (h : Course before (.install order) turns answer after)
    {old : Deployment} (hold : before.get? order.automation.id = some old) :
    after.records.map Prod.fst = before.records.map Prod.fst := by
  cases h with
  | rejected | refused => rfl
  | @recorded _ d _ outcome _ _ hdraft _ _ =>
    have hid : (before.deployed d outcome).automation.id = order.automation.id :=
      congrArg Automation.id (automation_deployed hdraft before outcome)
    show (Keyed.put (before.deployed d outcome).automation.id _ _).map Prod.fst = _
    rw [hid]
    exact Keyed.keys_put_of_get? hold _

/-- A call that did something is seen in the records afterwards. -/
theorem inEffect (h : Course before call turns answer after) (hbusy : answer.isIdle = false) :
    call.InEffect after := by
  cases h with
  | rejected hdraft =>
    rw [Answer.isIdle, tookEffect_of_draft_error hdraft] at hbusy
    cases hbusy
  | refused | missing | kept => cases hbusy
  | @recorded order d _ outcome _ _ hdraft _ _ =>
    have hautomation := automation_deployed hdraft before outcome
    refine ⟨before.deployed d outcome, ?_, hautomation⟩
    rw [← hautomation]
    exact get?_record_self before _
  | forgotten | withdrawn => exact Keyed.get?_erase_self _ _

end Course

/-! ## The main result -/

/-- **The footprint of a call**, by what is known before and after it, its turns and its answer. -/
structure Footprint (call : Call) (before : Registry) (turns : List Turn) (answer : Answer)
    (after : Registry) : Prop where
  idle : answer.isIdle = true →
    after.records = before.records ∧ after.disk.contents = before.disk.contents
  hopeless : call.Hopeless before → turns = [] ∧ answer.isIdle = true
  inEffect : answer.isIdle = false → call.InEffect after
  others : Keyed.erase call.id after.records = Keyed.erase call.id before.records
  place : ∀ order old, call = .install order → before.get? order.automation.id = some old →
    after.records.map Prod.fst = before.records.map Prod.fst

/-- **A call leaves the rest alone**, whatever is recorded, whatever stands in the way of saving
    and whatever the controller does. -/
theorem call_leaves_rest_alone {σ : Type} (controller : Machine σ) (job : Job) (registry : Registry)
    (state : σ) :
    Footprint job.call registry (overheard controller job registry state)
      (serve controller job registry state).answer
        (serve controller job registry state).registry := by
  have hcourse := serve_course controller job registry state
  refine ⟨?_, hcourse.silent, hcourse.inEffect, hcourse.others, ?_⟩
  · intro hidle
    rw [hcourse.unchanged hidle]
    exact ⟨rfl, rfl⟩
  · intro order old hcall hold
    rw [hcall] at hcourse
    exact hcourse.place hold

end Registry
end HomeScenes
