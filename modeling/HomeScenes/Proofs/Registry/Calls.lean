import HomeScenes.Proofs.Registry.Matching

/-!
# Calls one at a time

  A job is a call to the registry together with what stands in the way of saving while it is
  served.  Serving a job is the call itself, an install or an uninstall; serving several is one
  after another, each with the registry and the controller that the last one left behind.

  Whether something stands in the way of saving is a matter of each job, so what stood in the way
  before makes no difference to it (`serve_eq_of_facing_eq`).
-/

namespace HomeScenes.Registry

open Controller (Machine)

variable [Stack]

/-- How a call ends. -/
inductive Answer where
  | installed (result : Except Failure Deployment)
  | uninstalled (result : Except Failure Bool)

/-- The answer of a call that failed after all. -/
def Answer.failed (why : Failure) : Answer → Answer
  | .installed _ => .installed (.error why)
  | .uninstalled _ => .uninstalled (.error why)

/-- **A call reports success** when the automation was installed, or uninstalled. -/
def Answer.reportsSuccess : Answer → Bool
  | .installed (.ok _) | .uninstalled (.ok true) => true
  | _ => false

/-- **A job**: a call, and what stands in the way of saving while it is served. -/
structure Job where
  call : Call
  obstacle : Option Obstacle

/-- The registry while something stands in the way of saving. -/
def facing (registry : Registry) (obstacle : Option Obstacle) : Registry :=
  registry.onDisk { registry.disk with obstacle := obstacle }

/-- A job that was served: its answer, and what it left behind. -/
structure Served (σ : Type) where
  answer : Answer
  registry : Registry
  state : σ

/-- Jobs that were served: their answers in order, and what they left behind. -/
structure ServedAll (σ : Type) where
  answers : List Answer
  registry : Registry
  state : σ

section Serve

variable {σ : Type} (controller : Machine σ)

/-- **Serving a job.** -/
def serve (job : Job) (registry : Registry) (state : σ) : Served σ :=
  match job.call with
  | .install order =>
    let (result, registry, state) := (registry.facing job.obstacle).install controller
      order.automation order.statements state
    ⟨.installed result, registry, state⟩
  | .uninstall id =>
    let (result, registry, state) := (registry.facing job.obstacle).uninstall controller id state
    ⟨.uninstalled result, registry, state⟩

/-- **Serving jobs** one after another. -/
def serveAll : List Job → Registry → σ → ServedAll σ
  | [], registry, state => ⟨[], registry, state⟩
  | job :: rest, registry, state =>
    let first := serve controller job registry state
    let others := serveAll rest first.registry first.state
    ⟨first.answer :: others.answers, others.registry, others.state⟩

/-- One more job at the end is served in the state that the others leave. -/
theorem serveAll_concat (jobs : List Job) (job : Job) (registry : Registry) (state : σ) :
    serveAll controller (jobs ++ [job]) registry state =
      let all := serveAll controller jobs registry state
      let last := serve controller job all.registry all.state
      ⟨all.answers ++ [last.answer], last.registry, last.state⟩ := by
  induction jobs generalizing registry state with
  | nil => rfl
  | cons first rest ih =>
    rw [List.cons_append, serveAll, ih]
    rfl

/-- A job brings its own obstacle, so the one that was there before does not count. -/
theorem serve_eq_of_facing_eq (job : Job) {registry other : Registry} (state : σ)
    (h : registry.facing none = other.facing none) :
    serve controller job registry state = serve controller job other state := by
  have hfacing : registry.facing job.obstacle = other.facing job.obstacle :=
    congrArg (fun r => r.facing job.obstacle) h
  rw [serve, serve, hfacing]

end Serve

end HomeScenes.Registry
