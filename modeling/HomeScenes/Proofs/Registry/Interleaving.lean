import HomeScenes.Proofs.Registry.Tasks
import Mathlib.Algebra.Order.BigOperators.Group.Finset

/-!
# Calls at the same time

  Several calls are under way, and whenever one waits any other may go on.  A schedule says which
  call takes the next step, again and again; a call that wants the lock while another has it stays
  where it is, and a free lock goes to whichever call asks first.  So every order of steps is the
  run of some schedule (`World.run`).

  The crux is `World.Explained`: the calls that have had the lock are served, one after another,
  in the order in which they took it, and the one that has it now will come to what it would come
  to right after them.  Only the call that has the lock touches anything that others see, so a
  step of any other call keeps this for want of effect, and its own steps keep it by
  `Moment.completed_next`.
-/

namespace HomeScenes.Registry

open Controller (Machine Operation Outcome)

/-! ## Phases under the lock -/

/-- How many steps a call has to go at most. -/
def Phase.toGo : Phase → Nat
  | .ready => 7
  | .waiting _ => 6
  | .asking .. => 5
  | .answered .. => 4
  | .opening .. => 3
  | .writing .. => 2
  | .leaving _ => 1
  | .finished _ => 0

/-- Only a call that has ended has an answer. -/
theorem Phase.finished_of_answer? {phase : Phase} {answer : Answer}
    (h : phase.answer? = some answer) :
    phase = .finished answer := by
  cases phase with
  | finished given => exact congrArg Phase.finished (Option.some.inj h)
  | _ => cases h

/-- Whoever takes the lock has it then. -/
theorem Errand.isInside_enter (registry : Registry) (errand : Errand) :
    (errand.enter registry).1.isInside = true := by
  cases errand with
  | deploy draft => rfl
  | remove id =>
    rw [enter]
    cases registry.get? id with
    | none => rfl
    | some deployment =>
      simp only
      cases deployment.sceneId <;> rfl

/-- With the reply a call goes on to the file, or leaves. -/
theorem Plan.resume_cases (registry : Registry) (plan : Plan)
    (settled : Except Controller.Failure Outcome) :
    (∃ text answer, (plan.resume registry settled).1 = .opening text answer) ∨
      ∃ answer, (plan.resume registry settled).1 = .leaving answer := by
  cases plan with
  | deploy draft scene =>
    cases settled with
    | error why => exact Or.inr ⟨_, rfl⟩
    | ok outcome => exact Or.inl ⟨_, _, rfl⟩
  | remove id =>
    cases settled with
    | error why => exact Or.inr ⟨_, rfl⟩
    | ok outcome => exact Or.inl ⟨_, _, rfl⟩

/-- Under the lock there are five steps to go at most. -/
theorem Phase.toGo_lt_of_isInside {phase : Phase} (h : phase.isInside = true) : phase.toGo < 6 := by
  cases phase with
  | ready => cases h
  | waiting errand => cases h
  | finished answer => cases h
  | asking plan operation => exact (by decide : 5 < 6)
  | answered plan settled => exact (by decide : 4 < 6)
  | opening text answer => exact (by decide : 3 < 6)
  | writing text answer => exact (by decide : 2 < 6)
  | leaving answer => exact (by decide : 1 < 6)

/-- A step of one call brings all calls nearer to their end. -/
theorem sum_toGo_update_lt {n : Nat} {phases : Fin n → Phase} {i : Fin n} {phase : Phase}
    (h : phase.toGo < (phases i).toGo) :
    ∑ j, (Function.update phases i phase j).toGo < ∑ j, (phases j).toGo := by
  refine Finset.sum_lt_sum (fun j _ => ?_) ⟨i, Finset.mem_univ i, ?_⟩
  · by_cases hj : j = i
    · rw [hj, Function.update_self]
      exact h.le
    · rw [Function.update_of_ne hj]
  · rw [Function.update_self]
    exact h

variable [Stack]

/-! ## Worlds -/

/-- **An exchange** with the controller, for the sake of an automation. -/
structure Exchange where
  id : String
  operation : Operation
  reply : Controller.Reply

/-- The exchange that the next step of a call brings about, if it is one. -/
def Moment.exchanges {σ : Type} (controller : Machine σ) (moment : Moment σ) : List Exchange :=
  match moment.phase with
  | .asking plan operation => [⟨plan.id, operation, (controller operation.request moment.state).1⟩]
  | _ => []

/-- **All calls at one moment**: what they share, which of them has the lock, where each stands,
    which have taken the lock so far, and what was exchanged with the controller. -/
structure World (n : Nat) (σ : Type) where
  registry : Registry
  state : σ
  holder : Option (Fin n)
  phase : Fin n → Phase
  acquired : List (Fin n)
  log : List Exchange

namespace World

variable {n : Nat} {σ : Type}

/-- No call has begun. -/
def start (registry : Registry) (state : σ) : World n σ :=
  ⟨registry, state, none, fun _ => .ready, [], []⟩

/-- What a call would work with. -/
def moment (w : World n σ) (i : Fin n) : Moment σ :=
  ⟨w.phase i, w.registry, w.state⟩

/-- The answer of a call, once it has ended. -/
def answer? (w : World n σ) (i : Fin n) : Option Answer :=
  (w.phase i).answer?

/-- Every call has ended. -/
def Finished (w : World n σ) : Prop :=
  ∀ i, (w.answer? i).isSome = true

/-- A call stands elsewhere now. -/
def become (w : World n σ) (i : Fin n) (phase : Phase) : World n σ :=
  { w with phase := Function.update w.phase i phase }

/-- **A call takes the lock.** -/
def enter (jobs : Fin n → Job) (w : World n σ) (i : Fin n) (errand : Errand) : World n σ :=
  let entered := errand.enter (w.registry.facing (jobs i).obstacle)
  { w with
    registry := entered.2
    holder := some i
    phase := Function.update w.phase i entered.1
    acquired := w.acquired ++ [i] }

/-- **A call goes on** under the lock, and releases it when it ends. -/
def proceed (controller : Machine σ) (w : World n σ) (i : Fin n) : World n σ :=
  let next := (w.moment i).next controller
  { registry := next.registry
    state := next.state
    holder := if next.phase.isInside then some i else none
    phase := Function.update w.phase i next.phase
    acquired := w.acquired
    log := w.log ++ (w.moment i).exchanges controller }

/-- **A step** of a call, or nothing if it cannot take one. -/
def step (controller : Machine σ) (jobs : Fin n → Job) (w : World n σ) (i : Fin n) : World n σ :=
  match w.phase i with
  | .ready => w.become i (jobs i).call.begin
  | .waiting errand => if w.holder.isNone then w.enter jobs i errand else w
  | .finished _ => w
  | _ => w.proceed controller i

/-- **A run**: the calls of a schedule take a step each. -/
def run (controller : Machine σ) (jobs : Fin n → Job) (w : World n σ) (schedule : List (Fin n)) :
    World n σ :=
  schedule.foldl (step controller jobs) w

section Steps

variable (controller : Machine σ) (jobs : Fin n → Job)

/-- **What a step can be**: nothing, the beginning of a call, taking the free lock, or going on
    under it. -/
theorem step_cases (w : World n σ) (i : Fin n) :
    w.step controller jobs i = w ∨
    (w.phase i = .ready ∧ w.step controller jobs i = w.become i (jobs i).call.begin) ∨
    (∃ errand, w.phase i = .waiting errand ∧ w.holder = none ∧
      w.step controller jobs i = w.enter jobs i errand) ∨
    ((w.phase i).isInside = true ∧ w.step controller jobs i = w.proceed controller i) := by
  rw [step]
  cases hphase : w.phase i with
  | ready => exact Or.inr (Or.inl ⟨rfl, rfl⟩)
  | waiting errand =>
    cases hholder : w.holder with
    | none => exact Or.inr (Or.inr (Or.inl ⟨errand, rfl, rfl, rfl⟩))
    | some j => exact Or.inl rfl
  | finished answer => exact Or.inl rfl
  | asking plan operation => exact Or.inr (Or.inr (Or.inr ⟨rfl, rfl⟩))
  | answered plan settled => exact Or.inr (Or.inr (Or.inr ⟨rfl, rfl⟩))
  | opening text answer => exact Or.inr (Or.inr (Or.inr ⟨rfl, rfl⟩))
  | writing text answer => exact Or.inr (Or.inr (Or.inr ⟨rfl, rfl⟩))
  | leaving answer => exact Or.inr (Or.inr (Or.inr ⟨rfl, rfl⟩))

/-- **What holds at the start and is kept by every step** holds along every run. -/
theorem run_induction {motive : World n σ → Prop} {w : World n σ} (hstart : motive w)
    (hstep : ∀ w i, motive w → motive (w.step controller jobs i)) (schedule : List (Fin n)) :
    motive (w.run controller jobs schedule) := by
  induction schedule generalizing w with
  | nil => exact hstart
  | cons i rest ih => exact ih (hstep w i hstart)

end Steps

end World

/-- **A step under the lock** stays under it or ends the call, and brings the end nearer. -/
theorem Moment.next_phase {σ : Type} (controller : Machine σ) {moment : Moment σ}
    (h : moment.phase.isInside = true) :
    ((moment.next controller).phase.isInside = true ∨
      ∃ answer, (moment.next controller).phase = .finished answer) ∧
    (moment.next controller).phase.toGo < moment.phase.toGo := by
  obtain ⟨phase, registry, state⟩ := moment
  cases phase with
  | ready => cases h
  | waiting errand => cases h
  | finished answer => cases h
  | asking plan operation => exact ⟨Or.inl rfl, (by decide : 4 < 5)⟩
  | answered plan settled =>
    simp only [next, ofEntry]
    rcases plan.resume_cases registry settled with ⟨text, answer, hresume⟩ | ⟨answer, hresume⟩
    · rw [hresume]
      exact ⟨Or.inl rfl, (by decide : 3 < 4)⟩
    · rw [hresume]
      exact ⟨Or.inl rfl, (by decide : 1 < 4)⟩
  | opening text answer =>
    simp only [next]
    cases registry.disk.openToWrite with
    | error obstacle => exact ⟨Or.inl rfl, (by decide : 1 < 3)⟩
    | ok disk => exact ⟨Or.inl rfl, (by decide : 2 < 3)⟩
  | writing text answer =>
    simp only [next]
    cases registry.disk.write text with
    | error obstacle => exact ⟨Or.inl rfl, (by decide : 1 < 2)⟩
    | ok disk => exact ⟨Or.inl rfl, (by decide : 1 < 2)⟩
  | leaving answer => exact ⟨Or.inr ⟨answer, rfl⟩, (by decide : 0 < 1)⟩

namespace World

variable {n : Nat} {σ : Type} (controller : Machine σ) (jobs : Fin n → Job) (registry : Registry)
  (state : σ)

/-! ## The lock -/

/-- The lock is free after a step under it: the call has ended. -/
theorem finished_of_proceed {controller : Machine σ} {w : World n σ} {i : Fin n}
    (hinside : (w.phase i).isInside = true) (h : (w.proceed controller i).holder = none) :
    ∃ answer, ((w.moment i).next controller).phase = .finished answer := by
  have houtside : ((w.moment i).next controller).phase.isInside ≠ true := by
    intro hstill
    rw [proceed, if_pos hstill] at h
    cases h
  have hmoment : (w.moment i).phase.isInside = true := hinside
  exact (Moment.next_phase controller hmoment).1.resolve_left houtside

/-- The lock is held after a step under it: by the same call. -/
theorem inside_of_proceed {controller : Machine σ} {w : World n σ} {i j : Fin n}
    (h : (w.proceed controller i).holder = some j) :
    i = j ∧ ((w.moment i).next controller).phase.isInside = true := by
  rw [proceed] at h
  split at h
  · rename_i hstill
    exact ⟨Option.some.inj h, hstill⟩
  · cases h

/-! ## The order of the lock -/

/-- Some of the calls, served one after another from the start. -/
def servedInOrder (calls : List (Fin n)) : ServedAll σ :=
  serveAll controller (calls.map jobs) registry state

/-- One more call, served after them. -/
def servedNext (calls : List (Fin n)) (i : Fin n) : Served σ :=
  let all := servedInOrder controller jobs registry state calls
  serve controller (jobs i) all.registry all.state

theorem servedInOrder_concat (calls : List (Fin n)) (i : Fin n) :
    servedInOrder controller jobs registry state (calls ++ [i]) =
      let last := servedNext controller jobs registry state calls i
      ⟨(servedInOrder controller jobs registry state calls).answers ++ [last.answer], last.registry,
        last.state⟩ := by
  rw [servedInOrder, List.map_append]
  exact serveAll_concat controller (calls.map jobs) (jobs i) registry state

/-- Some of the calls have ended, with the answers that they get one after another. -/
def Answered (w : World n σ) (calls : List (Fin n)) : Prop :=
  calls.map w.answer? = (servedInOrder controller jobs registry state calls).answers.map some

/-- **Explained** by the order of the lock.  No call took it twice; a call that has not taken it
    has done nothing but begin; while nobody has it, everything is as after the calls that took
    it, one after another; and while somebody has it, everything will be once that call ends. -/
structure Explained (w : World n σ) : Prop where
  nodup : w.acquired.Nodup
  outside : ∀ i, i ∉ w.acquired → w.phase i = .ready ∨ w.phase i = (jobs i).call.begin
  idle : w.holder = none →
    Answered controller jobs registry state w w.acquired ∧
    w.registry.facing none =
      (servedInOrder controller jobs registry state w.acquired).registry.facing none ∧
    w.state = (servedInOrder controller jobs registry state w.acquired).state
  busy : ∀ i, w.holder = some i → ∃ before, w.acquired = before ++ [i] ∧
    Answered controller jobs registry state w before ∧ (w.phase i).isInside = true ∧
    (w.moment i).completed controller = (servedNext controller jobs registry state before i).moment

variable {controller jobs registry state}

theorem Answered.finished {w : World n σ} {calls : List (Fin n)}
    (h : Answered controller jobs registry state w calls) {i : Fin n} (hi : i ∈ calls) :
    ∃ answer, w.phase i = .finished answer := by
  have hmem : w.answer? i ∈ calls.map w.answer? := List.mem_map_of_mem hi
  rw [h] at hmem
  obtain ⟨answer, _, hanswer⟩ := List.mem_map.mp hmem
  exact ⟨answer, Phase.finished_of_answer? hanswer.symm⟩

/-- What other calls do does not matter. -/
theorem Answered.congr {w w' : World n σ} {calls : List (Fin n)}
    (h : Answered controller jobs registry state w calls)
    (hphase : ∀ i ∈ calls, w'.phase i = w.phase i) :
    Answered controller jobs registry state w' calls := by
  rw [Answered, ← h]
  exact List.map_congr_left fun i hi => congrArg Phase.answer? (hphase i hi)

namespace Explained

variable {w : World n σ} (h : Explained controller jobs registry state w)
include h

/-- A call that took the lock has it still or has ended. -/
theorem finished_or_holder {i : Fin n} (hi : i ∈ w.acquired) :
    (∃ answer, w.phase i = .finished answer) ∨ w.holder = some i := by
  cases hholder : w.holder with
  | none => exact Or.inl ((h.idle hholder).1.finished hi)
  | some j =>
    obtain ⟨before, hacquired, hbefore, _⟩ := h.busy j hholder
    rw [hacquired, List.mem_append, List.mem_singleton] at hi
    rcases hi with hi | rfl
    · exact Or.inl (hbefore.finished hi)
    · exact Or.inr rfl

theorem isInside_of_holder {i : Fin n} (hi : w.holder = some i) : (w.phase i).isInside = true := by
  obtain ⟨_, _, _, hinside, _⟩ := h.busy i hi
  exact hinside

/-- **Mutual exclusion**: only the call that has the lock is under it. -/
theorem holder_of_isInside {i : Fin n} (hi : (w.phase i).isInside = true) : w.holder = some i := by
  by_cases hacquired : i ∈ w.acquired
  · rcases h.finished_or_holder hacquired with ⟨answer, hfinished⟩ | hholder
    · rw [hfinished] at hi
      cases hi
    · exact hholder
  · rcases h.outside i hacquired with hphase | hphase
    · rw [hphase] at hi
      cases hi
    · rw [hphase, Call.isInside_begin] at hi
      cases hi

/-- A call that has not begun or waits for the lock has not taken it. -/
theorem not_mem_acquired {i : Fin n} (hinside : (w.phase i).isInside = false)
    (hanswer : (w.phase i).answer? = none) : i ∉ w.acquired := by
  intro hi
  rcases h.finished_or_holder hi with ⟨answer, hfinished⟩ | hholder
  · rw [hfinished] at hanswer
    cases hanswer
  · rw [h.isInside_of_holder hholder] at hinside
    cases hinside

theorem become {i : Fin n} (hphase : w.phase i = .ready) :
    Explained controller jobs registry state (w.become i (jobs i).call.begin) := by
  have hnot : i ∉ w.acquired := h.not_mem_acquired (by rw [hphase]; rfl) (by rw [hphase]; rfl)
  have hsame : ∀ j ∈ w.acquired, (w.become i (jobs i).call.begin).phase j = w.phase j := by
    intro j hj
    have hji : j ≠ i := fun he => hnot (he ▸ hj)
    exact Function.update_of_ne hji _ _
  -- Nothing that the calls share has changed, and no call that took the lock has moved.
  refine ⟨h.nodup, ?_, ?_, ?_⟩
  · intro j hj
    by_cases hji : j = i
    · rw [hji]
      exact Or.inr (Function.update_self ..)
    · have hother : (w.become i (jobs i).call.begin).phase j = w.phase j :=
        Function.update_of_ne hji _ _
      rw [hother]
      exact h.outside j hj
  · intro hholder
    obtain ⟨hanswered, hrest⟩ := h.idle hholder
    exact ⟨hanswered.congr hsame, hrest⟩
  · intro j hholder
    obtain ⟨before, hacquired, hanswered, hinside, hcompleted⟩ := h.busy j hholder
    have hj : (w.become i (jobs i).call.begin).phase j = w.phase j :=
      hsame j (by rw [hacquired]; exact List.mem_append_right _ (List.mem_singleton.mpr rfl))
    refine ⟨before, hacquired, hanswered.congr fun k hk => hsame k ?_, ?_, ?_⟩
    · rw [hacquired]
      exact List.mem_append_left _ hk
    · rw [hj]
      exact hinside
    · rw [moment, hj]
      exact hcompleted

theorem enter {i : Fin n} {errand : Errand} (hphase : w.phase i = .waiting errand)
    (hholder : w.holder = none) :
    Explained controller jobs registry state (w.enter jobs i errand) := by
  have hnot : i ∉ w.acquired := h.not_mem_acquired (by rw [hphase]; rfl) (by rw [hphase]; rfl)
  have hbegin : (jobs i).call.begin = .waiting errand := by
    rcases h.outside i hnot with hready | hbegin
    · rw [hphase] at hready
      cases hready
    · rw [← hbegin, hphase]
  have hother : ∀ j, j ≠ i → (w.enter jobs i errand).phase j = w.phase j :=
    fun j hj => Function.update_of_ne hj _ _
  have hself : (w.enter jobs i errand).phase i =
      (errand.enter (w.registry.facing (jobs i).obstacle)).1 := Function.update_self ..
  obtain ⟨hanswered, hregistry, hstate⟩ := h.idle hholder
  refine ⟨?_, ?_, ?_, ?_⟩
  · exact List.nodup_append.mpr ⟨h.nodup, List.nodup_singleton i, fun a ha b hb hab =>
      hnot (by rw [← List.mem_singleton.mp hb, ← hab]; exact ha)⟩
  · intro j hj
    have hji : j ≠ i := fun he => hj (List.mem_append_right _ (List.mem_singleton.mpr he))
    rw [hother j hji]
    exact h.outside j fun hmem => hj (List.mem_append_left _ hmem)
  · intro hnone
    cases hnone
  · intro j hj
    obtain rfl : i = j := Option.some.inj hj
    refine ⟨w.acquired, rfl, hanswered.congr fun k hk => hother k fun he => hnot (he ▸ hk), ?_, ?_⟩
    · rw [hself]
      exact errand.isInside_enter _
    · -- The call meets the registry that the earlier calls left, whatever stood in their way.
      have hserved := Errand.served controller hbegin w.registry w.state
      rw [serve_eq_of_facing_eq controller (jobs i) w.state hregistry] at hserved
      rw [moment, hself, servedNext, ← hstate]
      exact hserved

theorem proceed {i : Fin n} (hinside : (w.phase i).isInside = true) :
    Explained controller jobs registry state (w.proceed controller i) := by
  have hholder := h.holder_of_isInside hinside
  obtain ⟨before, hacquired, hanswered, _, hcompleted⟩ := h.busy i hholder
  have hnodup := h.nodup
  rw [hacquired] at hnodup
  have hnot : i ∉ before := fun hmem =>
    (List.nodup_append.mp hnodup).2.2 i hmem i (List.mem_singleton.mpr rfl) rfl
  have hmem : i ∈ w.acquired := by
    rw [hacquired]
    exact List.mem_append_right _ (List.mem_singleton.mpr rfl)
  have hother : ∀ j, j ≠ i → (w.proceed controller i).phase j = w.phase j :=
    fun j hj => Function.update_of_ne hj _ _
  have hself : (w.proceed controller i).phase i = ((w.moment i).next controller).phase :=
    Function.update_self ..
  have hbefore : Answered controller jobs registry state (w.proceed controller i) before :=
    hanswered.congr fun j hj => hother j fun he => hnot (he ▸ hj)
  have hnext := Moment.completed_next controller hcompleted
  refine ⟨h.nodup, ?_, ?_, ?_⟩
  · intro j hj
    rw [hother j fun he => hj (he ▸ hmem)]
    exact h.outside j hj
  · -- The lock is free again: the call has come to its end, so to what was foreseen.
    intro hnone
    obtain ⟨answer, hfinished⟩ := finished_of_proceed hinside hnone
    have hdone : (w.moment i).next controller =
        (servedNext controller jobs registry state before i).moment := by
      rw [← hnext, Moment.completed_of_finished controller hfinished]
    have hacquired' : (w.proceed controller i).acquired = before ++ [i] := hacquired
    rw [hacquired', Answered, servedInOrder_concat, List.map_append, hbefore, List.map_append]
    refine ⟨?_, ?_, ?_⟩
    · have hanswer : (w.proceed controller i).answer? i =
          some (servedNext controller jobs registry state before i).answer := by
        rw [answer?, hself, hdone]
        rfl
      rw [List.map_singleton, hanswer]
      rfl
    · rw [World.proceed, hdone]
      rfl
    · rw [World.proceed, hdone]
      rfl
  · intro j hj
    obtain ⟨rfl, hstill⟩ := inside_of_proceed hj
    refine ⟨before, hacquired, hbefore, ?_, ?_⟩
    · rw [hself]
      exact hstill
    · rw [moment, hself]
      exact hnext

theorem step (i : Fin n) : Explained controller jobs registry state (w.step controller jobs i) := by
  rcases w.step_cases controller jobs i with hstep | ⟨hphase, hstep⟩ |
    ⟨errand, hphase, hholder, hstep⟩ | ⟨hinside, hstep⟩
  · rw [hstep]
    exact h
  · rw [hstep]
    exact h.become hphase
  · rw [hstep]
    exact h.enter hphase hholder
  · rw [hstep]
    exact h.proceed hinside

end Explained

/-- **Every run is explained** by the order of the lock. -/
theorem run_explained (controller : Machine σ) (jobs : Fin n → Job)
    (registry : Registry) (state : σ) (schedule : List (Fin n)) :
    Explained controller jobs registry state
      ((start registry state).run controller jobs schedule) := by
  refine run_induction controller jobs ?_ (fun w i h => h.step i) schedule
  refine ⟨List.nodup_nil, fun i _ => Or.inl rfl, fun _ => ⟨rfl, rfl, rfl⟩, fun i hi => ?_⟩
  cases hi

/-! ## The end of a run -/

/-- How many steps all calls have to go at most. -/
def toGo (w : World n σ) : Nat :=
  ∑ i, (w.phase i).toGo

theorem toGo_begin_lt (call : Call) : call.begin.toGo < 7 := by
  cases call with
  | install order =>
    rw [Call.begin]
    cases draft order.automation order.statements with
    | error why => exact (by decide : 0 < 7)
    | ok draft => exact (by decide : 6 < 7)
  | uninstall id => exact (by decide : 6 < 7)

/-- **No deadlock**: as long as a call has not ended, some call can go on. -/
theorem Explained.exists_step {w : World n σ} (h : Explained controller jobs registry state w)
    (hunfinished : ¬ w.Finished) : ∃ i, (w.step controller jobs i).toGo < w.toGo := by
  cases hholder : w.holder with
  | some i =>
    -- Nobody can keep the call that has the lock from going on.
    have hinside := h.isInside_of_holder hholder
    have hmoment : (w.moment i).phase.isInside = true := hinside
    refine ⟨i, ?_⟩
    have hstep : w.step controller jobs i = w.proceed controller i := by
      rw [World.step]
      cases hphase : w.phase i <;> rw [hphase] at hinside <;> first | rfl | cases hinside
    rw [hstep]
    exact sum_toGo_update_lt (Moment.next_phase controller hmoment).2
  | none =>
    -- Whichever call has not ended can begin or take the lock.
    obtain ⟨i, hi⟩ := not_forall.mp hunfinished
    refine ⟨i, ?_⟩
    cases hphase : w.phase i with
    | ready =>
      have hstep : w.step controller jobs i = w.become i (jobs i).call.begin := by
        rw [World.step, hphase]
      rw [hstep]
      exact sum_toGo_update_lt (by rw [hphase]; exact toGo_begin_lt (jobs i).call)
    | waiting errand =>
      have hstep : w.step controller jobs i = w.enter jobs i errand := by
        rw [World.step, hphase, hholder]
        rfl
      rw [hstep]
      exact sum_toGo_update_lt
        (by rw [hphase]; exact Phase.toGo_lt_of_isInside (errand.isInside_enter _))
    | finished answer =>
      rw [answer?, hphase] at hi
      exact absurd rfl hi
    | _ =>
      have hinside : (w.phase i).isInside = true := by rw [hphase]; rfl
      rw [h.holder_of_isInside hinside] at hholder
      cases hholder

/-- **Every run can be brought to its end.** -/
theorem Explained.exists_finished {w : World n σ} (h : Explained controller jobs registry state w) :
    ∃ schedule, (w.run controller jobs schedule).Finished := by
  -- By induction on the steps to go, of which some call can always take one.
  induction hn : w.toGo using Nat.strong_induction_on generalizing w with
  | h k ih =>
    by_cases hfinished : w.Finished
    · exact ⟨[], hfinished⟩
    · obtain ⟨i, hlt⟩ := h.exists_step hfinished
      obtain ⟨schedule, hschedule⟩ := ih _ (hn ▸ hlt) (h.step i) rfl
      exact ⟨i :: schedule, hschedule⟩

theorem Explained.holder_of_finished {w : World n σ}
    (h : Explained controller jobs registry state w)
    (hfinished : w.Finished) : w.holder = none := by
  cases hholder : w.holder with
  | none => rfl
  | some i =>
    have hinside := h.isInside_of_holder hholder
    obtain ⟨answer, hanswer⟩ := Option.isSome_iff_exists.mp (hfinished i)
    rw [Phase.finished_of_answer? hanswer] at hinside
    cases hinside

/-! ## Calls that never take the lock -/

/-- **Calls that end at once** may be left out or put in anywhere: they get their answers all the
    same, and the others do not notice. -/
theorem serveAll_filter (controller : Machine σ) (took : Fin n → Bool) (answer : Fin n → Answer)
    (order : List (Fin n))
    (hskip : ∀ i ∈ order, took i = false → (jobs i).call.begin = .finished (answer i))
    {registry other : Registry} (hfacing : registry.facing none = other.facing none) (state : σ) :
    let all := serveAll controller (order.map jobs) registry state
    let some := serveAll controller ((order.filter took).map jobs) other state
    (some.answers = (order.filter took).map answer → all.answers = order.map answer) ∧
      all.registry.facing none = some.registry.facing none ∧ all.state = some.state := by
  induction order generalizing registry other state with
  | nil => exact ⟨fun _ => rfl, hfacing, rfl⟩
  | cons i rest ih =>
    have hrest : ∀ j ∈ rest, took j = false → (jobs j).call.begin = .finished (answer j) :=
      fun j hj => hskip j (List.mem_cons_of_mem i hj)
    cases htook : took i with
    | true =>
      rw [List.filter_cons_of_pos htook]
      simp only [List.map_cons, serveAll]
      rw [serve_eq_of_facing_eq controller (jobs i) state hfacing]
      obtain ⟨hanswers, hregistry, hstate⟩ := ih hrest rfl _
      refine ⟨fun h => ?_, hregistry, hstate⟩
      obtain ⟨hfirst, hothers⟩ := List.cons.inj h
      rw [hfirst, hanswers hothers]
    | false =>
      -- All that such a call changes is what stands in the way of saving, and the next call
      -- brings its own.
      have hserve := serve_of_begin_finished controller
        (hskip i (List.mem_cons_self ..) htook) registry state
      rw [List.filter_cons_of_neg (by rw [htook]; exact Bool.false_ne_true)]
      simp only [List.map_cons, serveAll, hserve]
      have hsame : (registry.facing (jobs i).obstacle).facing none = other.facing none := hfacing
      obtain ⟨hanswers, hregistry, hstate⟩ := ih hrest hsame state
      exact ⟨fun h => by rw [hanswers h], hregistry, hstate⟩

/-- **An order of all calls** in which those that took the lock stand as they took it. -/
structure LockOrder (w : World n σ) (order : List (Fin n)) : Prop where
  nodup : order.Nodup
  complete : ∀ i, i ∈ order
  acquired : (order.filter fun i => i ∈ w.acquired) = w.acquired

/-- **The same end**: every call has the answer, and records, file and controller are as after the
    calls were served. -/
structure SameEnd (w : World n σ) (order : List (Fin n)) (all : ServedAll σ) : Prop where
  answers : order.map w.answer? = all.answers.map some
  records : w.registry.records = all.registry.records
  contents : w.registry.disk.contents = all.registry.disk.contents
  state : w.state = all.state

/-- Such an order exists: first the calls that took the lock, then the others. -/
theorem Explained.exists_lockOrder {w : World n σ}
    (h : Explained controller jobs registry state w) :
    ∃ order, w.LockOrder order := by
  refine ⟨w.acquired ++ (List.finRange n).filter fun i => i ∉ w.acquired, ?_, ?_, ?_⟩
  · refine List.nodup_append.mpr ⟨h.nodup, (List.nodup_finRange n).filter _,
      fun i hi j hj hij => ?_⟩
    rw [← hij] at hj
    exact of_decide_eq_true (List.mem_filter.mp hj).2 hi
  · intro i
    by_cases hi : i ∈ w.acquired
    · exact List.mem_append_left _ hi
    · exact List.mem_append_right _ (List.mem_filter.mpr ⟨List.mem_finRange i, decide_eq_true hi⟩)
  · rw [List.filter_append, List.filter_filter]
    simp

/-- **Serializable**: once all calls have ended, they have come to the same as one after another. -/
theorem Explained.sameEnd {w : World n σ} (h : Explained controller jobs registry state w)
    (hfinished : w.Finished) {order : List (Fin n)} (horder : w.LockOrder order) :
    w.SameEnd order (serveAll controller (order.map jobs) registry state) := by
  choose answer hanswer using fun i => Option.isSome_iff_exists.mp (hfinished i)
  -- A call that has ended without the lock ended as it began.
  have hskip : ∀ i ∈ order, decide (i ∈ w.acquired) = false →
      (jobs i).call.begin = .finished (answer i) := by
    intro i _ hnot
    have hphase := Phase.finished_of_answer? (hanswer i)
    rcases h.outside i (of_decide_eq_false hnot) with hready | hbegin
    · rw [hphase] at hready
      cases hready
    · rw [← hbegin, hphase]
  have hmap : ∀ calls : List (Fin n), calls.map w.answer? = (calls.map answer).map some := by
    intro calls
    rw [List.map_map]
    exact List.map_congr_left fun i _ => hanswer i
  obtain ⟨hacquired, hregistry, hstate⟩ := h.idle (h.holder_of_finished hfinished)
  obtain ⟨hanswers, hregistry', hstate'⟩ :=
    serveAll_filter controller (fun i => decide (i ∈ w.acquired)) answer order hskip rfl state
  rw [horder.acquired] at hanswers hregistry' hstate'
  rw [Answered, hmap] at hacquired
  have hend := hregistry.trans hregistry'.symm
  have hrecords := congrArg Registry.records hend
  have hcontents := congrArg (fun r => r.disk.contents) hend
  refine ⟨?_, hrecords, hcontents, hstate.trans hstate'.symm⟩
  rw [hmap, hanswers (List.map_injective_iff.mpr (Option.some_injective _) hacquired).symm]

end World

end HomeScenes.Registry
