import HomeScenes.Proofs.Automation.Outcomes
import HomeScenes.Proofs.Registry.Steps

/-!
# Which automations can be deployed

  Before the controller is asked anything an automation has to be made into a draft.  This file
  says, without mentioning scene code, which automations can be: those whose conditions are
  reported as valid and whose comment lines show nothing but display text
  (`Automation.Deployable`).  The statements do not matter.

  A draft that cannot be made fails in one of three ways (`draft_cases`): the check of the
  conditions is stopped, the check reports the conditions as invalid, or a text is refused.
-/

namespace HomeScenes

variable [Stack]

namespace Automation

/-- **An automation that can be deployed**: its conditions are reported as valid, and its comment
    lines show nothing but display text. -/
def Deployable (a : Automation) : Prop :=
  (∃ report, a.conditions.check Condition.defaultLimit = .ok report ∧ report.valid = true) ∧
    AllDisplay a.shownTexts

end Automation

/-! ## Drafts -/

namespace Registry

/-- **How making a draft can end.** -/
theorem draft_cases (a : Automation) (statements : List String) :
    (∃ why, a.conditions.check Condition.defaultLimit = .error why ∧
      draft a statements = .error (.rejected (.stopped why))) ∨
    (∃ report, a.conditions.check Condition.defaultLimit = .ok report ∧ report.valid = false ∧
      draft a statements = .error (.invalid a.id report.errors)) ∨
    (∃ report, ∃ caption : Automation.Caption,
      a.conditions.check Condition.defaultLimit = .ok report ∧ report.valid = true ∧
      ¬ Automation.AllDisplay a.shownTexts ∧
      draft a statements = .error (.rejected (.refused caption.refusal))) ∨
    (a.Deployable ∧ ∃ d, draft a statements = .ok d) := by
  have houtcome := a.generate_outcome statements
  rw [draft]
  generalize a.generate statements = result at houtcome ⊢
  cases houtcome with
  | tooLarge checked | unshown checked => exact Or.inl ⟨_, checked, rfl⟩
  | reported checked invalid errors =>
    exact Or.inr (Or.inl ⟨_, checked, invalid, if_neg (Bool.eq_false_iff.mp invalid)⟩)
  | refused checked valid shown unfit =>
    refine Or.inr (Or.inr (Or.inl ⟨_, _, checked, valid, ?_, rfl⟩))
    intro hdisplay
    exact unfit (Automation.allDisplay_iff.mp hdisplay _ shown)
  | made checked valid errors script nonempty =>
    have hdisplay := Automation.unfit?_eq_none_iff.mp (Automation.script_eq_ok_iff.mp script).1
    exact Or.inr (Or.inr (Or.inr ⟨⟨⟨_, checked, valid⟩, hdisplay⟩, _, if_pos valid⟩))

/-- **A draft can be made** exactly of an automation that can be deployed. -/
theorem exists_draft_iff (a : Automation) (statements : List String) :
    (∃ d, draft a statements = .ok d) ↔ a.Deployable := by
  constructor
  · rintro ⟨d, hd⟩
    rcases draft_cases a statements with ⟨_, _, herror⟩ | ⟨_, _, _, herror⟩ |
      ⟨_, _, _, _, _, herror⟩ | ⟨hdeployable, _⟩
    case inr.inr.inr => exact hdeployable
    all_goals
      rw [hd] at herror
      cases herror
  · rintro ⟨⟨report, hcheck, hvalid⟩, hdisplay⟩
    rcases draft_cases a statements with ⟨why, hstopped, _⟩ | ⟨report', hcheck', hinvalid, _⟩ |
      ⟨_, _, _, _, hnot, _⟩ | ⟨_, hdraft⟩
    · rw [hcheck] at hstopped
      cases hstopped
    · rw [hcheck] at hcheck'
      rw [← Except.ok.inj hcheck', hvalid] at hinvalid
      cases hinvalid
    · exact absurd hdisplay hnot
    · exact hdraft

end Registry
end HomeScenes
