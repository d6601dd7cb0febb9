import HomeScenes.Automation
import HomeScenes.Proofs.Condition.RoundTrip

/-!
# Deployments there and back

  What holds of condition trees holds of automations and of deployments: the document of a
  deployment is read as the deployment *restored* (`Deployment.read_dump`), which is written as
  the same document (`Deployment.dump_restored`).

  As with unknown leaves, an action must not keep a field that is taken for its kind
  (`Action.Writable`).  Deployments that come from a document are fine
  (`Deployment.writable_of_read`).
-/

namespace HomeScenes

open Condition (Group Report)

/-! ## Actions -/

namespace Action

/-- **An action that can be written**: its kind is not also among its other fields. -/
def Writable (a : Action) : Prop :=
  ∀ entry ∈ a.extra, entry.1 ≠ "type"

/-- An action as it comes back. -/
def restored (a : Action) : Action :=
  ⟨a.kind, Value.finitizedFields a.extra⟩

/-- An action that went through a document writes the same document again. -/
theorem dump_restored (a : Action) : a.restored.dump = a.dump := by
  rw [dump, dump, restored, Value.finitizedFields_finitizedFields]

/-- **The document of an action** is read back as the action restored. -/
theorem read_dump {a : Action} (h : a.Writable) : Action.read a.dump = .good a.restored := by
  have hkept : ∀ entry ∈ Value.finitizedFields a.extra, decide (entry.1 ≠ "type") = true := by
    intro entry hentry
    obtain ⟨v, hv⟩ := Value.mem_finitizedFields hentry
    exact decide_eq_true (h (entry.1, v) hv)
  have hextra : (("type", Value.text a.kind) :: Value.finitizedFields a.extra).filter
      (fun entry => decide (entry.1 ≠ "type")) = Value.finitizedFields a.extra := by
    rw [List.filter_cons_of_neg (by simp), List.filter_eq_self.mpr hkept]
  show Action.mk <$> (Field.named "type").required Read.text
      (("type", Value.text a.kind) :: Value.finitizedFields a.extra) <*> .good (List.filter _ _) = _
  rw [hextra]
  rfl

/-- Whatever is read from a document can be written. -/
theorem writable_of_read {v : Value} {a : Action} (h : Action.read v = .good a) : a.Writable := by
  cases v with
  | object fields =>
    obtain ⟨_, extra, _, hextra, rfl⟩ := Reading.map_seq_eq_good_iff.mp h
    injection hextra with hextra
    intro entry hentry
    rw [← hextra] at hentry
    exact of_decide_eq_true (List.mem_filter.mp hentry).2
  | null | bool | int | float | text | list => cases h

end Action

/-! ## Automations -/

namespace Automation

/-- **An automation that can be written.** -/
structure Writable (a : Automation) : Prop where
  conditions : Condition.Writable a.conditions.leaves
  height : a.conditions.height ≤ Condition.maxLevels - 1
  actions : ∀ action ∈ a.actions, action.Writable

/-- An automation as it comes back. -/
def restored (a : Automation) : Automation :=
  { a with conditions := a.conditions.restored, actions := a.actions.map Action.restored }

/-- An automation that went through a document writes the same document again. -/
theorem dump_restored (a : Automation) : a.restored.dump = a.dump := by
  have hactions : (a.actions.map Action.restored).map Action.dump = a.actions.map Action.dump := by
    rw [List.map_map]
    exact List.map_congr_left fun action _ => action.dump_restored
  simp only [dump, restored, Group.dump_restored, hactions]

/-- **The document of an automation** is read back, field by field. -/
theorem read_dump {a : Automation} (h : a.Writable) :
    Automation.read a.dump = .good a.restored := by
  have hconditions := Group.readPart_dump h.conditions h.height
  have hactions : Read.list Action.read (.list (a.actions.map Action.dump)) =
      .good (a.actions.map Action.restored) :=
    Read.items_map (fun action haction => Action.read_dump (h.actions action haction)) 0
  have htext : ∀ text? : Option String, Read.nullable Read.text (.ofText? text?) = .good text? := by
    intro text?
    cases text? <;> rfl
  simp [read, dump, Read.record, idField, nameField, descriptionField,
    conditionsField, actionsField, scheduleField, enabledField, Field.required, Field.optional,
    Field.defaulted, Field.find?, Field.named, Keyed.get?, Read.text, Read.bool, hconditions,
    hactions, htext, restored]

/-- Reading gives nothing that could not be written, in any field. -/
theorem writable_of_read {v : Value} {a : Automation} (h : Automation.read v = .good a) :
    a.Writable := by
  cases v with
  | object fields =>
    -- The fields are read in their order, so the last one comes off first.
    obtain ⟨_, enabled, hsix, _, rfl⟩ := Reading.seq_eq_good_iff.mp h
    obtain ⟨_, schedule, hfive, _, rfl⟩ := Reading.seq_eq_good_iff.mp hsix
    obtain ⟨_, actions, hfour, hactions, rfl⟩ := Reading.seq_eq_good_iff.mp hfive
    obtain ⟨_, conditions, hthree, hconditions, rfl⟩ := Reading.seq_eq_good_iff.mp hfour
    obtain ⟨_, description, htwo, _, rfl⟩ := Reading.seq_eq_good_iff.mp hthree
    obtain ⟨id, name, _, _, rfl⟩ := Reading.map_seq_eq_good_iff.mp htwo
    obtain ⟨v, hv⟩ := Field.exists_of_required hconditions
    obtain ⟨hwritable, hheight⟩ := Group.writable_of_readPart hv
    refine ⟨hwritable, hheight, ?_⟩
    · rcases Field.exists_of_defaulted hactions with rfl | ⟨v, hv⟩
      · exact List.forall_mem_nil _
      · intro action haction
        obtain ⟨v', hv'⟩ := Read.exists_of_mem_list hv action haction
        exact Action.writable_of_read hv'
  | null | bool | int | float | text | list => cases h

end Automation

/-! ## Deployments -/

/-- A report has no defaults to lose: it comes back as it was. -/
theorem Condition.Report.read_dump (r : Report) : Report.read r.dump = .good r := by
  have htexts : ∀ texts : List String, Read.list Read.text (.ofTexts texts) = .good texts := by
    intro texts
    have hread : ∀ text ∈ texts, Read.text (.text text) = .good (id text) := fun _ _ => rfl
    have hitems := Read.items_map hread 0
    rw [List.map_id] at hitems
    exact hitems
  simp [read, dump, Read.record, validField, errorsField, warningsField, Field.required,
    Field.defaulted, Field.find?, Field.named, Keyed.get?, Read.bool, htexts]

namespace Deployment

/-- A deployment as it comes back. -/
def restored (d : Deployment) : Deployment :=
  { d with automation := d.automation.restored }

/-- A deployment that went through a document writes the same document again. -/
theorem dump_restored (d : Deployment) : d.restored.dump = d.dump := by
  simp only [dump, restored, Automation.dump_restored]

/-- **There and back**: the document of a deployment is read as the deployment restored. -/
theorem read_dump {d : Deployment} (h : d.automation.Writable) :
    Deployment.read d.dump = .good d.restored := by
  have hautomation := Automation.read_dump h
  have hscene : Read.nullable Read.int (.ofInt? d.sceneId) = .good d.sceneId := by
    cases d.sceneId <;> rfl
  simp [read, dump, Read.record, automationField, luaCodeField, sceneIdField, validationField,
    Field.required, Field.optional, Field.defaulted, Field.find?, Field.named,
    Keyed.get?, Read.text, hautomation, hscene, Report.read_dump, restored]

/-- **A deployment that comes from a document** can be written. -/
theorem writable_of_read {v : Value} {d : Deployment} (h : Deployment.read v = .good d) :
    d.automation.Writable := by
  cases v with
  | object fields =>
    obtain ⟨_, validation, hthree, _, rfl⟩ := Reading.seq_eq_good_iff.mp h
    obtain ⟨_, sceneId, htwo, _, rfl⟩ := Reading.seq_eq_good_iff.mp hthree
    obtain ⟨automation, luaCode, hautomation, _, rfl⟩ := Reading.map_seq_eq_good_iff.mp htwo
    obtain ⟨v, hv⟩ := Field.exists_of_required hautomation
    exact Automation.writable_of_read hv
  | null | bool | int | float | text | list => cases h

end Deployment

end HomeScenes
