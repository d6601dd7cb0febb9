import HomeScenes.Proofs.Registry.Interleaving

/-!
# What is exchanged with the controller

  However the steps of several calls are mixed, what was exchanged with the controller so far says
  for every automation which scene it has: the one that was made last, unless that one was deleted
  since (`sceneAfter`).  A scene is made for an automation only while it has none, and only the
  scene that it has is deleted (`Orderly`).

  The crux is that the records say the same, except that between the reply and the change of the
  record they lag by exactly that one exchange (`Follows`).  With the order of the lock this gives
  the main result, `concurrent_calls_serializable`.
-/

namespace HomeScenes.Registry

open Controller (Machine Operation Outcome)

/-! ## Scenes in the records -/

section Scenes

variable (registry : Registry)

theorem sceneOf?_record_self (d : Deployment) :
    (registry.record d).sceneOf? d.automation.id = d.sceneId := by
  rw [sceneOf?, get?_record_self]
  rfl

theorem sceneOf?_record_of_ne {d : Deployment} {id : String} (h : id ≠ d.automation.id) :
    (registry.record d).sceneOf? id = registry.sceneOf? id := by
  rw [sceneOf?, get?_record_of_ne registry h]
  rfl

theorem sceneOf?_forget_self (id : String) : (registry.forget id).sceneOf? id = none := by
  rw [sceneOf?, get?, forget, Keyed.get?_erase_self]
  rfl

theorem sceneOf?_forget_of_ne {id other : String} (h : other ≠ id) :
    (registry.forget id).sceneOf? other = registry.sceneOf? other := by
  rw [sceneOf?, get?_forget_of_ne registry h]
  rfl

/-- Forgetting a record without a scene loses no scene. -/
theorem sceneOf?_forget_of_none {id : String} (h : registry.sceneOf? id = none) (other : String) :
    (registry.forget id).sceneOf? other = registry.sceneOf? other := by
  by_cases hid : other = id
  · rw [hid, sceneOf?_forget_self, h]
  · exact sceneOf?_forget_of_ne registry hid

/-- Changing a record leaves the scenes of other automations alone. -/
theorem Plan.sceneOf?_resume_of_ne (plan : Plan) (settled : Except Controller.Failure Outcome)
    {id : String} (h : id ≠ plan.id) :
    (plan.resume registry settled).2.sceneOf? id = registry.sceneOf? id := by
  cases plan with
  | deploy draft scene =>
    cases settled with
    | error why => rfl
    | ok outcome =>
      refine sceneOf?_record_of_ne registry ?_
      cases outcome <;> exact h
  | remove id' =>
    cases settled with
    | error why => rfl
    | ok outcome => exact sceneOf?_forget_of_ne registry h

end Scenes

/-- Taking the lock changes no scene in the records. -/
theorem Errand.sceneOf?_enter (registry : Registry) (errand : Errand) (id : String) :
    (errand.enter registry).2.sceneOf? id = registry.sceneOf? id := by
  cases errand with
  | deploy draft => rfl
  | remove gone =>
    rw [Errand.enter]
    cases hget : registry.get? gone with
    | none => rfl
    | some deployment =>
      simp only
      cases hscene : deployment.sceneId with
      | some scene => rfl
      | none =>
        have hnone : registry.sceneOf? gone = none := by
          rw [sceneOf?, hget]
          exact hscene
        exact sceneOf?_forget_of_none registry hnone id

/-! ## The exchanges about an automation -/

/-- The exchanges about an automation. -/
def about (id : String) (log : List Exchange) : List Exchange :=
  log.filter fun e => e.id = id

/-- One more exchange is about its own automation. -/
theorem about_concat_self (log : List Exchange) (e : Exchange) :
    about e.id (log ++ [e]) = about e.id log ++ [e] := by
  rw [about, List.filter_append, List.filter_cons_of_pos (by simp), List.filter_nil]
  rfl

/-- An exchange about another automation is not about this one. -/
theorem about_concat_of_ne (log : List Exchange) {e : Exchange} {id : String} (h : e.id ≠ id) :
    about id (log ++ [e]) = about id log := by
  rw [about, List.filter_append, List.filter_cons_of_neg (by simpa using h), List.filter_nil,
    List.append_nil]
  rfl

section Runs

variable [Stack]

/-! ## Scenes by the log -/

namespace Exchange

/-- How an exchange ended. -/
def settled (e : Exchange) : Except Controller.Failure Outcome :=
  e.operation.settle e.reply

/-- The scene that was made. -/
def created? (e : Exchange) : Option Int :=
  match e.operation, e.settled with
  | .create .., .ok (.scene scene) => some scene.id
  | _, _ => none

/-- The scene that was deleted. -/
def deleted? (e : Exchange) : Option Int :=
  match e.operation, e.settled with
  | .delete scene, .ok _ => some scene
  | _, _ => none

/-- The scene that an automation has after an exchange about it. -/
def next (scene : Option Int) (e : Exchange) : Option Int :=
  match e.created?, e.deleted? with
  | some made, _ => some made
  | none, some _ => none
  | none, none => scene

/-- **A proper exchange**: a scene is made when there is none, and the scene that is there is
    deleted. -/
structure Proper (scene : Option Int) (e : Exchange) : Prop where
  created : ∀ made, e.created? = some made → scene = none
  deleted : ∀ gone, e.deleted? = some gone → scene = some gone

variable {e : Exchange}

/-- After a scene was made, it is the one that exists. -/
theorem next_of_created {made : Int} (h : e.created? = some made) (scene : Option Int) :
    e.next scene = some made := by
  rw [next, h]

/-- **A scene is lost** only when it is deleted. -/
theorem Proper.deleted_of_next_ne {scene : Int} (h : e.Proper (some scene))
    (hne : e.next (some scene) ≠ some scene) : e.deleted? = some scene := by
  cases hcreated : e.created? with
  | some made => cases h.created made hcreated
  | none =>
    cases hdeleted : e.deleted? with
    | some gone => exact (h.deleted gone hdeleted).symm
    | none =>
      rw [next, hcreated, hdeleted] at hne
      exact absurd rfl hne

/-- A failure leaves the scene as it was. -/
theorem next_of_error {why : Controller.Failure} (h : e.settled = .error why) (scene : Option Int) :
    e.next scene = scene := by
  have hcreated : e.created? = none := by
    rw [created?, h]
    cases e.operation <;> rfl
  have hdeleted : e.deleted? = none := by
    rw [deleted?, h]
    cases e.operation <;> rfl
  rw [next, hcreated, hdeleted]

/-- A create that succeeds tells which scene it made. -/
theorem created?_of_create {name : String} {room : Int} {code type : String} {outcome : Outcome}
    (hoperation : e.operation = .create name room code type) (h : e.settled = .ok outcome) :
    ∃ made, outcome = .scene made ∧ e.created? = some made.id := by
  have hsettled := h
  rw [settled, hoperation, Operation.settle] at h
  obtain ⟨made, hmade⟩ : ∃ made, outcome = .scene made := by
    cases hscene : Controller.sceneIn (Operation.create name room code type).request e.reply with
    | error why =>
      rw [hscene] at h
      cases h
    | ok made =>
      rw [hscene] at h
      exact ⟨made, (Except.ok.inj h).symm⟩
  refine ⟨made, hmade, ?_⟩
  rw [created?, hoperation, hsettled, hmade]

theorem operation_of_created? {made : Int} (h : e.created? = some made) :
    ∃ name room code type, e.operation = .create name room code type := by
  rw [created?] at h
  split at h
  · rename_i name room code type _ hoperation _
    exact ⟨name, room, code, type, hoperation⟩
  · cases h

theorem operation_of_deleted? {gone : Int} (h : e.deleted? = some gone) :
    e.operation = .delete gone := by
  rw [deleted?] at h
  split at h
  · rename_i scene _ hoperation _
    rw [hoperation, Option.some.inj h]
  · cases h

/-- A delete that succeeds makes no scene and takes the one that it names. -/
theorem deleted?_of_delete {scene : Int} {outcome : Outcome}
    (hoperation : e.operation = .delete scene)
    (h : e.settled = .ok outcome) : e.created? = none ∧ e.deleted? = some scene := by
  rw [created?, deleted?, hoperation, h]
  exact ⟨rfl, rfl⟩

/-- An update leaves the scene as it is, and makes none. -/
theorem next_of_update {scene : Int} {name code : Option String} {room : Option Int}
    {outcome : Outcome}
    (hoperation : e.operation = .update scene name room code) (h : e.settled = .ok outcome) :
    outcome = .done ∧ ∀ before, e.next before = before := by
  have hnext : ∀ before, e.next before = before := by
    intro before
    rw [next, created?, deleted?, hoperation]
  refine ⟨?_, hnext⟩
  rw [settled, hoperation] at h
  simp only [Operation.settle] at h
  cases haccept : Controller.accept (Operation.update scene name room code).request e.reply with
  | error why =>
    rw [haccept] at h
    cases h
  | ok text =>
    rw [haccept] at h
    exact (Except.ok.inj h).symm

end Exchange

/-- **The scene of an automation** by what was exchanged since the start. -/
def sceneAfter (start : Registry) (log : List Exchange) (id : String) : Option Int :=
  (about id log).foldl Exchange.next (start.sceneOf? id)

/-- **Orderly**: every exchange is proper when it happens. -/
def Orderly (start : Registry) (log : List Exchange) : Prop :=
  ∀ (before : List Exchange) (e : Exchange) (rest : List Exchange),
    log = before ++ e :: rest → e.Proper (sceneAfter start before e.id)

section Log

variable {start : Registry} {log : List Exchange}

/-- The last exchange about an automation decides on its scene. -/
theorem sceneAfter_concat_self (start : Registry) (log : List Exchange) (e : Exchange) :
    sceneAfter start (log ++ [e]) e.id = e.next (sceneAfter start log e.id) := by
  rw [sceneAfter, about_concat_self, List.foldl_append]
  rfl

theorem sceneAfter_concat_of_ne (start : Registry) (log : List Exchange)
    {e : Exchange} {id : String}
    (h : e.id ≠ id) : sceneAfter start (log ++ [e]) id = sceneAfter start log id := by
  rw [sceneAfter, about_concat_of_ne log h]
  rfl

/-- One more proper exchange keeps a log orderly. -/
theorem Orderly.concat (h : Orderly start log) {e : Exchange}
    (he : e.Proper (sceneAfter start log e.id)) : Orderly start (log ++ [e]) := by
  intro before e' rest hlog
  -- The exchange in question is the new one, or it stands in the old log.
  rcases List.eq_nil_or_concat rest with rfl | ⟨rest', last, rfl⟩
  · obtain ⟨rfl, hlast⟩ := List.append_inj' hlog rfl
    cases hlast
    exact he
  · rw [List.concat_eq_append, ← List.cons_append, ← List.append_assoc] at hlog
    obtain ⟨hlog, _⟩ := List.append_inj' hlog rfl
    exact h before e' rest' hlog

/-- **A scene that is gone was deleted**: between a moment at which an automation has a scene and
    a later one at which it has none stands the deletion of that scene. -/
theorem Orderly.deleted_between {before between : List Exchange} {id : String} {scene : Int}
    (h : Orderly start (before ++ between)) (hscene : sceneAfter start before id = some scene)
    (hgone : sceneAfter start (before ++ between) id = none) :
    ∃ e ∈ between, e.id = id ∧ e.deleted? = some scene := by
  induction between generalizing before with
  | nil =>
    rw [List.append_nil, hscene] at hgone
    cases hgone
  | cons e rest ih =>
    have hproper := h before e rest rfl
    have hsplit : before ++ e :: rest = (before ++ [e]) ++ rest := List.append_cons before e rest
    rw [hsplit] at h hgone
    -- The scene outlives this exchange, and then the rest decides, or this is the deletion.
    by_cases hnext : sceneAfter start (before ++ [e]) id = some scene
    · obtain ⟨e', hmem, he'⟩ := ih h hnext hgone
      exact ⟨e', List.mem_cons_of_mem e hmem, he'⟩
    · by_cases hid : e.id = id
      · subst hid
        rw [sceneAfter_concat_self, hscene] at hnext
        rw [hscene] at hproper
        exact ⟨e, List.mem_cons_self .., rfl, hproper.deleted_of_next_ne hnext⟩
      · rw [sceneAfter_concat_of_ne start before hid] at hnext
        exact absurd hscene hnext

/-- **Between two creations** for the same automation the scene of the first is deleted. -/
theorem Orderly.deleted_between_creations (h : Orderly start log)
    {before between after : List Exchange} {first second : Exchange} {made again : Int}
    (hlog : log = before ++ first :: (between ++ second :: after)) (hid : first.id = second.id)
    (hfirst : first.created? = some made) (hsecond : second.created? = some again) :
    ∃ e ∈ between, e.id = first.id ∧ e.deleted? = some made := by
  have hsplit : log = ((before ++ [first]) ++ between) ++ second :: after := by
    rw [hlog, List.append_cons, List.append_assoc, List.append_assoc, List.append_assoc]
  have horderly : Orderly start ((before ++ [first]) ++ between) := by
    intro b e r hb
    refine h b e (r ++ second :: after) ?_
    rw [hsplit, hb, List.append_assoc, List.cons_append]
  refine horderly.deleted_between ?_ ?_
  · rw [sceneAfter_concat_self, Exchange.next_of_created hfirst]
  · rw [hid]
    exact (h _ second after hsplit).created again hsecond

end Log

/-! ## Records by the log -/

/-- The records and the log say the same. -/
def Tracked (start registry : Registry) (log : List Exchange) : Prop :=
  ∀ id, registry.sceneOf? id = sceneAfter start log id

/-- What a plan asks of the controller, by the records: to deploy in the scene recorded or in a
    new one, or to delete the scene recorded. -/
def Plan.Asks (registry : Registry) (operation : Operation) : Plan → Prop
  | .deploy draft scene =>
    operation = registry.deployOperation draft ∧ scene = registry.sceneOf? draft.automation.id
  | .remove id => ∃ scene, operation = .delete scene ∧ registry.sceneOf? id = some scene

/-- **The records follow the log**, one exchange behind between the reply and the change of the
    record. -/
def Follows (start registry : Registry) (log : List Exchange) : Phase → Prop
  | .asking plan operation => Tracked start registry log ∧ plan.Asks registry operation
  | .answered plan settled =>
    ∃ before e, log = before ++ [e] ∧ e.id = plan.id ∧ e.settled = settled ∧
      Tracked start registry before ∧ plan.Asks registry e.operation
  | _ => Tracked start registry log

/-- **Changing the record** after an exchange gives the automation the scene that it has by then. -/
theorem Plan.sceneOf?_resume {registry : Registry} {plan : Plan} {e : Exchange}
    (hasks : plan.Asks registry e.operation) (hid : e.id = plan.id) :
    (plan.resume registry e.settled).2.sceneOf? e.id = e.next (registry.sceneOf? e.id) := by
  cases hsettled : e.settled with
  | error why =>
    rw [Exchange.next_of_error hsettled]
    cases plan <;> rfl
  | ok outcome =>
    cases plan with
    | deploy draft scene =>
      obtain ⟨hoperation, hscene⟩ := hasks
      have hrecord : (registry.record (placed draft scene outcome)).sceneOf? draft.automation.id =
          (placed draft scene outcome).sceneId := by
        have hid : (placed draft scene outcome).automation.id = draft.automation.id := by
          cases outcome <;> rfl
        rw [← hid, sceneOf?_record_self]
      have hresume : ((Plan.deploy draft scene).resume registry (.ok outcome)).2.sceneOf? e.id =
          (placed draft scene outcome).sceneId := by
        rw [hid]
        exact hrecord
      have hrecorded : registry.sceneOf? e.id = scene := by
        rw [hid, hscene]
        rfl
      rw [hresume, hrecorded]
      -- Whether there is a scene decides between an update, which keeps it, and a creation.
      cases hfound : registry.sceneOf? draft.automation.id with
      | some found =>
        rw [deployOperation, hfound] at hoperation
        obtain ⟨rfl, hnext⟩ := Exchange.next_of_update hoperation hsettled
        rw [hnext]
        rfl
      | none =>
        rw [deployOperation, hfound] at hoperation
        obtain ⟨made, rfl, hcreated⟩ := Exchange.created?_of_create hoperation hsettled
        rw [Exchange.next_of_created hcreated]
        rfl
    | remove id =>
      obtain ⟨scene, hoperation, _⟩ := hasks
      obtain ⟨hcreated, hdeleted⟩ := Exchange.deleted?_of_delete hoperation hsettled
      rw [Exchange.next, hcreated, hdeleted, hid]
      exact sceneOf?_forget_self registry id

section Follows

variable {start registry : Registry} {log : List Exchange}

/-- A plan asks for proper exchanges only. -/
theorem Plan.Asks.proper {plan : Plan} {e : Exchange} (h : plan.Asks registry e.operation)
    (hid : e.id = plan.id) : e.Proper (registry.sceneOf? e.id) := by
  rw [hid]
  constructor
  · intro made hmade
    obtain ⟨name, room, code, type, hcreate⟩ := Exchange.operation_of_created? hmade
    rw [hcreate] at h
    cases plan with
    | deploy draft scene =>
      obtain ⟨hoperation, _⟩ := h
      cases hfound : registry.sceneOf? draft.automation.id with
      | none => exact hfound
      | some found =>
        rw [deployOperation, hfound] at hoperation
        cases hoperation
    | remove id =>
      obtain ⟨scene, hoperation, _⟩ := h
      cases hoperation
  · intro gone hgone
    rw [Exchange.operation_of_deleted? hgone] at h
    cases plan with
    | deploy draft scene =>
      obtain ⟨hoperation, _⟩ := h
      rw [deployOperation] at hoperation
      cases hfound : registry.sceneOf? draft.automation.id <;> rw [hfound] at hoperation <;>
        cases hoperation
    | remove id =>
      obtain ⟨scene, hoperation, hscene⟩ := h
      cases hoperation
      exact hscene

/-- **Taking the lock** keeps the records with the log. -/
theorem Tracked.enter (h : Tracked start registry log) (errand : Errand) :
    Follows start (errand.enter registry).2 log (errand.enter registry).1 := by
  have hentered : Tracked start (errand.enter registry).2 log :=
    fun id => (errand.sceneOf?_enter registry id).trans (h id)
  cases errand with
  | deploy draft => exact ⟨h, rfl, rfl⟩
  | remove id =>
    rw [Errand.enter] at hentered ⊢
    cases hget : registry.get? id with
    | none => exact h
    | some deployment =>
      rw [hget] at hentered
      simp only at hentered ⊢
      cases hscene : deployment.sceneId with
      | some scene =>
        refine ⟨h, scene, rfl, ?_⟩
        rw [sceneOf?, hget]
        exact hscene
      | none =>
        rw [hscene] at hentered
        exact hentered

/-- **Changing the record** catches up with the log. -/
theorem Tracked.resume {before : List Exchange} {e : Exchange} {plan : Plan}
    (h : Tracked start registry before) (hasks : plan.Asks registry e.operation)
    (hid : e.id = plan.id) :
    Tracked start (plan.resume registry e.settled).2 (before ++ [e]) := by
  intro id
  by_cases hother : e.id = id
  · rw [← hother, Plan.sceneOf?_resume hasks hid, sceneAfter_concat_self, h]
  · have hplan : id ≠ plan.id := fun he => hother (hid.trans he.symm)
    rw [Plan.sceneOf?_resume_of_ne registry plan e.settled hplan,
      sceneAfter_concat_of_ne start before hother, h]

variable {σ : Type} (controller : Machine σ)

/-- **A step under the lock** keeps the log orderly and the records with it. -/
theorem Follows.next {moment : Moment σ} (horderly : Orderly start log)
    (h : Follows start moment.registry log moment.phase) :
    Orderly start (log ++ moment.exchanges controller) ∧
      Follows start (moment.next controller).registry (log ++ moment.exchanges controller)
        (moment.next controller).phase := by
  obtain ⟨phase, registry, state⟩ := moment
  cases phase with
  | asking plan operation =>
    obtain ⟨htracked, hasks⟩ := h
    refine ⟨horderly.concat ?_, log, _, rfl, rfl, rfl, htracked, hasks⟩
    rw [← htracked]
    exact hasks.proper rfl
  | answered plan settled =>
    obtain ⟨before, e, rfl, hid, rfl, htracked, hasks⟩ := h
    rw [Moment.exchanges, List.append_nil]
    refine ⟨horderly, ?_⟩
    have hcaught := htracked.resume hasks hid
    rcases plan.resume_cases registry e.settled with ⟨text, answer, hresume⟩ | ⟨answer, hresume⟩
    · simp only [Moment.next, Moment.ofEntry, hresume]
      exact hcaught
    · simp only [Moment.next, Moment.ofEntry, hresume]
      exact hcaught
  | opening text answer =>
    rw [Moment.exchanges, List.append_nil]
    refine ⟨horderly, ?_⟩
    simp only [Moment.next]
    cases registry.disk.openToWrite <;> exact h
  | writing text answer =>
    rw [Moment.exchanges, List.append_nil]
    refine ⟨horderly, ?_⟩
    simp only [Moment.next]
    cases registry.disk.write text <;> exact h
  | _ =>
    rw [Moment.exchanges, List.append_nil]
    exact ⟨horderly, h⟩

/-- **A recorded scene changes** in one step only: when its deletion is the last thing that was
    exchanged about its automation. -/
theorem Follows.deleted_of_changed {moment : Moment σ} (horderly : Orderly start log)
    (h : Follows start moment.registry log moment.phase) {id : String} {scene : Int}
    (hscene : moment.registry.sceneOf? id = some scene)
    (hchanged : (moment.next controller).registry.sceneOf? id ≠ some scene) :
    ∃ e, (about id log).getLast? = some e ∧ e.deleted? = some scene := by
  obtain ⟨phase, registry, state⟩ := moment
  cases phase with
  | answered plan settled =>
    obtain ⟨before, e, rfl, hid, rfl, htracked, hasks⟩ := h
    have hresumed : (plan.resume registry e.settled).2.sceneOf? id ≠ some scene := hchanged
    -- Only the record of the automation that the exchange was about can change.
    by_cases hother : e.id = id
    · subst hother
      have hproper := horderly before e [] rfl
      rw [Plan.sceneOf?_resume hasks hid, hscene] at hresumed
      rw [← htracked, hscene] at hproper
      refine ⟨e, ?_, hproper.deleted_of_next_ne hresumed⟩
      rw [about_concat_self, List.getLast?_concat]
    · have hplan : id ≠ plan.id := fun he => hother (hid.trans he.symm)
      rw [Plan.sceneOf?_resume_of_ne registry plan e.settled hplan] at hresumed
      exact absurd hscene hresumed
  | opening text answer =>
    simp only [Moment.next] at hchanged
    cases hopen : registry.disk.openToWrite <;> rw [hopen] at hchanged
      <;> exact absurd hscene hchanged
  | writing text answer =>
    simp only [Moment.next] at hchanged
    cases hwrite : registry.disk.write text <;> rw [hwrite] at hchanged
      <;> exact absurd hscene hchanged
  | _ => exact absurd hscene hchanged

end Follows

/-! ## Runs -/

namespace World

variable {n : Nat} {σ : Type} {controller : Machine σ} {jobs : Fin n → Job} {registry : Registry}
  {state : σ}

/-- **Logged**: the log is orderly, and the records follow it, with a call under the lock or
    without. -/
structure Logged (start : Registry) (w : World n σ) : Prop where
  orderly : Orderly start w.log
  idle : w.holder = none → Tracked start w.registry w.log
  busy : ∀ i, w.holder = some i → Follows start w.registry w.log (w.phase i)

section Step

variable {start : Registry} {w : World n σ} (h : Logged start w)
include h

/-- A task without the lock takes no part in the log. -/
theorem Logged.become {i : Fin n} (hi : w.holder ≠ some i) (phase : Phase) :
    Logged start (w.become i phase) := by
  refine ⟨h.orderly, h.idle, fun j hj => ?_⟩
  have hji : j ≠ i := fun he => hi (he ▸ hj)
  have hphase : (w.become i phase).phase j = w.phase j := Function.update_of_ne hji _ _
  rw [hphase]
  exact h.busy j hj

/-- Entering makes no exchange. -/
theorem Logged.enter (hholder : w.holder = none) (i : Fin n) (errand : Errand) :
    Logged start (w.enter jobs i errand) := by
  refine ⟨h.orderly, fun hnone => (Option.some_ne_none i hnone).elim, fun j hj => ?_⟩
  obtain rfl : i = j := Option.some.inj hj
  have hphase : (w.enter jobs i errand).phase i =
      (errand.enter (w.registry.facing (jobs i).obstacle)).1 := Function.update_self ..
  have hfacing : Tracked start (w.registry.facing (jobs i).obstacle) w.log := h.idle hholder
  rw [hphase]
  exact hfacing.enter errand

/-- **The holder's next step** keeps the world logged, with the exchange that it makes. -/
theorem Logged.proceed {i : Fin n} (hholder : w.holder = some i)
    (hinside : (w.phase i).isInside = true) :
    Logged start (w.proceed controller i) := by
  have hmoment : Follows start (w.moment i).registry w.log (w.moment i).phase := h.busy i hholder
  obtain ⟨horderly, hfollows⟩ := hmoment.next controller h.orderly
  refine ⟨horderly, fun hnone => ?_, fun j hj => ?_⟩
  · obtain ⟨answer, hfinished⟩ := finished_of_proceed hinside hnone
    rw [hfinished] at hfollows
    exact hfollows
  · have hphase : (w.proceed controller i).phase i = ((w.moment i).next controller).phase :=
      Function.update_self ..
    rw [← (inside_of_proceed hj).1, hphase]
    exact hfollows

end Step

/-- **Every run is logged.** -/
theorem run_logged (controller : Machine σ) (jobs : Fin n → Job) (registry : Registry) (state : σ)
    (schedule : List (Fin n)) :
    Logged registry ((start registry state).run controller jobs schedule) := by
  have hboth : Explained controller jobs registry state
        ((start registry state).run controller jobs schedule) ∧
      Logged registry ((start registry state).run controller jobs schedule) := by
    refine run_induction controller jobs (motive := fun w =>
      Explained controller jobs registry state w ∧ Logged registry w) ?_ ?_ schedule
    · refine ⟨run_explained controller jobs registry state [], ?_, fun _ _ => rfl, fun i hi => ?_⟩
      · intro before e rest hlog
        exact absurd hlog (by simp [start])
      · cases hi
    · rintro w i ⟨hexplained, hlogged⟩
      refine ⟨hexplained.step i, ?_⟩
      rcases w.step_cases controller jobs i with hstep | ⟨hphase, hstep⟩ |
        ⟨errand, hphase, hholder, hstep⟩ | ⟨hinside, hstep⟩
      · rw [hstep]
        exact hlogged
      · rw [hstep]
        refine hlogged.become (fun hholder => ?_) _
        have hinside := hexplained.isInside_of_holder hholder
        rw [hphase] at hinside
        cases hinside
      · rw [hstep]
        exact hlogged.enter hholder i errand
      · rw [hstep]
        exact hlogged.proceed (hexplained.holder_of_isInside hinside) hinside
  exact hboth.2

/-- **A recorded scene changes** only when its deletion is the last exchange about its
    automation. -/
theorem Logged.deleted_of_changed {start : Registry} {w : World n σ} (h : Logged start w)
    (hexplained : Explained controller jobs registry state w) {i : Fin n}
    {id : String} {scene : Int} (hscene : w.registry.sceneOf? id = some scene)
    (hchanged : (w.step controller jobs i).registry.sceneOf? id ≠ some scene) :
    ∃ e, (about id w.log).getLast? = some e ∧ e.deleted? = some scene := by
  rcases w.step_cases controller jobs i with hstep | ⟨_, hstep⟩ | ⟨errand, _, _, hstep⟩ |
    ⟨hinside, hstep⟩
  · rw [hstep] at hchanged
    exact absurd hscene hchanged
  · rw [hstep] at hchanged
    exact absurd hscene hchanged
  · rw [hstep] at hchanged
    have hentered := errand.sceneOf?_enter (w.registry.facing (jobs i).obstacle) id
    exact absurd (hentered.trans hscene) hchanged
  · rw [hstep] at hchanged
    have hmoment : Follows start (w.moment i).registry w.log (w.moment i).phase :=
      h.busy i (hexplained.holder_of_isInside hinside)
    exact hmoment.deleted_of_changed controller h.orderly hscene hchanged

/-! ## Serializability -/

/-- **Serializable**, at a moment of a run.  The run can be brought to its end.  If it has come to
    its end, it has come to the same as the calls one after another, in every order that keeps the
    order of the lock, and there is such an order.  Two scenes are made for the same automation
    only if the first is deleted in between, and a recorded scene changes only right after its
    deletion. -/
structure Serializable (controller : Machine σ) (jobs : Fin n → Job)
    (registry : Registry) (state : σ) (w : World n σ) : Prop where
  ends : ∃ schedule, (w.run controller jobs schedule).Finished
  ordered : ∃ order, w.LockOrder order
  sameEnd : w.Finished → ∀ order, w.LockOrder order →
    w.SameEnd order (serveAll controller (order.map jobs) registry state)
  created : ∀ (before : List Exchange) (first : Exchange) (between : List Exchange)
    (second : Exchange)
    (after : List Exchange) (made again : Int),
    w.log = before ++ first :: (between ++ second :: after) → first.id = second.id →
    first.created? = some made → second.created? = some again →
    ∃ e ∈ between, e.id = first.id ∧ e.deleted? = some made
  recorded : ∀ i id scene, w.registry.sceneOf? id = some scene →
    (w.step controller jobs i).registry.sceneOf? id ≠ some scene →
    ∃ e, (about id w.log).getLast? = some e ∧ e.deleted? = some scene

/-- **Installs and uninstalls at the same time are serializable**: whatever the calls, the
    controller and the outcomes of the saves are, and however the steps are mixed. -/
theorem concurrent_calls_serializable (controller : Machine σ) (jobs : Fin n → Job)
    (registry : Registry) (state : σ) (schedule : List (Fin n)) :
    Serializable controller jobs registry state
      ((start registry state).run controller jobs schedule) := by
  have hexplained := run_explained controller jobs registry state schedule
  have hlogged := run_logged controller jobs registry state schedule
  refine ⟨hexplained.exists_finished, hexplained.exists_lockOrder, ?_, ?_, ?_⟩
  · intro hfinished order horder
    exact hexplained.sameEnd hfinished horder
  · intro before first between second after made again hlog hid hfirst hsecond
    exact hlogged.orderly.deleted_between_creations hlog hid hfirst hsecond
  · intro i id scene hscene hchanged
    exact hlogged.deleted_of_changed hexplained hscene hchanged

end World

end Runs

/-! ## A race -/

namespace World

/-- Two installs of the same automation on an empty registry, and a full disk for the first. -/
def porchJobs : Fin 2 → Job
  | 0 => ⟨.install (lampOrder "porch" []), some .noSpace⟩
  | 1 => ⟨.install (lampOrder "porch" []), none⟩

/-- Both have begun before the second takes the lock, and the first asks for it again and again. -/
def porchSchedule : List (Fin 2) :=
  [0, 1, 1, 0, 1, 0, 1, 1, 0, 1, 1, 0, 0, 0, 0, 0, 0, 0]

section

open scoped Stack

/-- The race of the two. -/
def porchRace : World 2 Controller.Scenes :=
  (start ⟨219, "scenes.json", [], ⟨none, none⟩⟩ fun _ => none).run (Controller.slotted twoSlots)
    porchJobs porchSchedule

/-- **The race ends** with one scene made and then updated, although the last save failed. -/
theorem porchRace_serializable :
    porchRace.Finished ∧ porchRace.LockOrder [1, 0] ∧
      porchRace.log.map Exchange.created? = [some 1, none] ∧
      Serializable (Controller.slotted twoSlots) porchJobs ⟨219, "scenes.json", [], ⟨none, none⟩⟩
        (fun _ => none) porchRace := by
  refine ⟨?_, ⟨?_, ?_, ?_⟩, ?_, ?_⟩
  · unfold Finished
    decide +kernel
  · decide +kernel
  · decide +kernel
  · decide +kernel
  · decide +kernel
  · exact concurrent_calls_serializable (Controller.slotted twoSlots) porchJobs
      ⟨219, "scenes.json", [], ⟨none, none⟩⟩ (fun _ => none) porchSchedule

end

end World

end HomeScenes.Registry
