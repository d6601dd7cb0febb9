import HomeScenes.Proofs.Registry.Restart

/-!
# What a failed save leaves

  A save opens the file, which empties it, and then writes the text of the records.  Either of the
  two can fail.  This file says what a later start finds in the file when a save has failed
  (`failed_save_keeps_file_iff`).

  Take any run of installs and uninstalls in which no save failed.  Its file is in step: it holds
  the last save.  Now let the save of one more call fail.  If the file could not be opened, it is
  what it was, and is loaded as it was.  If it was opened and then not written, it is empty, and
  everything saved before is gone: nothing is loaded any more.  So what was saved is kept exactly
  when the file could not even be opened, or there was nothing in it.

  The crux is `Disk.save_of_obstacle`: between the two steps the file is neither what it was nor
  what it will be, and a failure of the second step leaves it there.  Every call passes that on
  (`FileStep`).
-/

namespace HomeScenes

namespace Registry

open Controller (Machine)

section

variable [Stack]

/-- **A call whose save fails** met an obstacle, and leaves in the file what that lets it. -/
theorem contents_of_saveFailed {σ : Type} {controller : Machine σ} {registry : Registry}
    {state : σ} {job : Job} (h : (serve controller job registry state).answer.saveFailed = true) :
    ∃ obstacle, job.obstacle = some obstacle ∧
      (serve controller job registry state).registry.disk.contents =
        leftBy obstacle registry.disk.contents := by
  have hstep := fileStep_serve controller registry state job
  rw [h] at hstep
  cases hstep with
  | unsaved hobstacle hcontents => exact ⟨_, hobstacle, hcontents⟩

/-- Nothing is loaded from an empty file. -/
theorem savedDeployments_of_empty {disk : Disk} (h : disk.contents = some (.text "")) :
    savedDeployments disk = .ok [] := by
  rw [savedDeployments, savedValues, h]
  rfl

/-- **What was saved is kept by a failed save exactly if the file could not be opened**, or
    nothing was saved.  In a run without a failed save the file is in step with the records.  When
    then the save of a call fails, what is loaded from the file is what was loaded from it before
    if opening failed, and nothing if writing failed. -/
theorem failed_save_keeps_file_iff {σ : Type} (controller : Machine σ)
    (start : Registry) (state : σ) (jobs : List Job) (job : Job)
    (hclean : ∀ answer ∈ (serveAll controller jobs start state).answers, answer.saveFailed = false)
    (hfailed : (serve controller job (serveAll controller jobs start state).registry
      (serveAll controller jobs start state).state).answer.saveFailed = true) :
    let running := (serveAll controller jobs start state).registry
    let after := (serve controller job running
      (serveAll controller jobs start state).state).registry
    InStep start running ∧ ∃ obstacle, job.obstacle = some obstacle ∧
      (obstacle.preventsOpening = true → after.disk.contents = running.disk.contents) ∧
      (obstacle.preventsOpening = false → savedDeployments after.disk = .ok []) ∧
      (savedDeployments after.disk = savedDeployments running.disk ↔
        obstacle.preventsOpening = true ∨ savedDeployments running.disk = .ok []) := by
  intro running after
  have hstep : InStep start start := Or.inr ⟨rfl, rfl⟩
  obtain ⟨obstacle, hobstacle, hleft⟩ := contents_of_saveFailed hfailed
  have hkept : obstacle.preventsOpening = true → after.disk.contents = running.disk.contents := by
    intro hopening
    rw [leftBy, if_pos hopening] at hleft
    exact hleft
  have hlost : obstacle.preventsOpening = false → savedDeployments after.disk = .ok [] := by
    intro hopening
    rw [leftBy, hopening] at hleft
    exact savedDeployments_of_empty hleft
  refine ⟨hstep.serveAll hclean, obstacle, hobstacle, hkept, hlost, ?_⟩
  cases hopening : obstacle.preventsOpening with
  | true => simp [savedDeployments_congr (hkept hopening)]
  | false =>
    rw [hlost hopening]
    simp [eq_comm]

end

section

open scoped Stack

-- A lamp is installed and saved; then the device is full when the next one is saved.
example :
    let running := serveAll (Controller.slotted twoSlots) [⟨.install (lampOrder "hall" []), none⟩]
      ⟨3, "automations.json", [], ⟨none, none⟩⟩ fun _ => none
    let after := (serve (Controller.slotted twoSlots) ⟨.install (lampOrder "porch" []),
      some .noSpace⟩
      running.registry running.state).registry
    running.registry.records.map Prod.fst = ["hall"] ∧
      running.registry.disk.contents = some (.text running.registry.savedText) ∧
      after.disk.contents = some (.text "") := by
  decide +kernel

end

end Registry
end HomeScenes
