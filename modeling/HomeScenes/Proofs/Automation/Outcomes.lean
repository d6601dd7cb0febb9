import HomeScenes.Proofs.Condition.Agreement
import HomeScenes.Proofs.Condition.Stopping
import HomeScenes.Proofs.Number.Numeral
import HomeScenes.Script

/-!
# How generating a deployment ends

  Generating checks the conditions first and makes scene code only if they are valid.  It has five
  outcomes (`Outcome`): the scene code is made; the conditions are reported as invalid and there
  is no code; a text of the comment lines is refused; or the check itself is stopped, by an
  integer too large for it or by a tag that it cannot show.  A defect of the conditions is never
  an outcome, since whatever the check lets pass compiles.

  The comment lines are followed through the *captions* of an automation: its name, and its
  description and schedule unless they are missing or empty.  The crux is `header_eq`: the comment
  lines are those of the captions, unless a caption is unfit, and then the first unfit one is what
  is refused.
-/

namespace HomeScenes

open Condition (Error Report Stop)

/-! ## Text that may stand in a comment -/

namespace Lua

/-- **Presentable text**: 1 to 200 characters, no line break, no backslash, no `--`, no `[[` and
    no `]]`. -/
structure Presentable (chars : List Char) : Prop where
  nonempty : 1 ≤ chars.length
  short : chars.length ≤ 200
  dashes : ¬ ['-', '-'] <:+: chars
  opening : ¬ ['[', '['] <:+: chars
  closing : ¬ [']', ']'] <:+: chars
  backslash : '\\' ∉ chars
  carriageReturn : '\r' ∉ chars
  lineFeed : '\n' ∉ chars

/-- The test for display text is right. -/
theorem isDisplayText_iff {chars : List Char} : isDisplayText chars = true ↔ Presentable chars := by
  have hdouble : ∀ c : Char, (!hasDouble c chars) = true ↔ ¬ [c, c] <:+: chars := by
    intro c
    rw [← hasDouble_iff_double, Bool.not_eq_true', Bool.not_eq_true]
  have hmem : ∀ c : Char, (!chars.contains c) = true ↔ c ∉ chars := by
    intro c
    rw [Bool.not_eq_true', ← Bool.not_eq_true, List.contains_iff_mem]
  simp only [isDisplayText, Bool.and_eq_true, decide_eq_true_eq, hdouble, hmem]
  constructor
  · rintro ⟨⟨⟨⟨⟨⟨⟨hpos, hshort⟩, hdashes⟩, hopening⟩, hclosing⟩, hbackslash⟩, hreturn⟩, hfeed⟩
    exact ⟨hpos, hshort, hdashes, hopening, hclosing, hbackslash, hreturn, hfeed⟩
  · intro h
    exact ⟨⟨⟨⟨⟨⟨⟨h.nonempty, h.short⟩, h.dashes⟩, h.opening⟩, h.closing⟩, h.backslash⟩,
      h.carriageReturn⟩, h.lineFeed⟩

end Lua

/-! ## Captions -/

namespace Automation

/-- What is shown of a text that may be missing; an empty one counts as missing. -/
def shownText (text? : Option String) : List String :=
  (text?.filter fun text => !text.isEmpty).toList

/-- **The texts shown** in the comment lines of an automation. -/
def shownTexts (a : Automation) : List String :=
  a.name :: (shownText a.description ++ shownText a.schedule)

/-- All of them are display text. -/
def AllDisplay (texts : List String) : Prop :=
  ∀ text ∈ texts, Lua.isDisplayText text.toList = true

instance decidableAllDisplay (texts : List String) : Decidable (AllDisplay texts) :=
  inferInstanceAs (Decidable (∀ text ∈ texts, Lua.isDisplayText text.toList = true))

/-- **A caption**: what a comment line starts with, what messages call its text, and the text. -/
structure Caption where
  heading : String
  context : String
  text : String

namespace Caption

/-- The comment line of a caption. -/
def line (caption : Caption) : String :=
  caption.heading ++ caption.text

/-- Whether the text of a caption may stand in a comment. -/
def isFit (caption : Caption) : Bool :=
  Lua.isDisplayText caption.text.toList

/-- How a caption is refused. -/
def refusal (caption : Caption) : Lua.Refusal :=
  .notDisplay caption.context (.text caption.text)

/-- A refused caption is a text, so that there is always a message about it. -/
theorem message_refusal [Stack] (caption : Caption) :
    caption.refusal.message = .ok caption.refusal.wording :=
  rfl

/-- The comment line of a caption, if its text passes. -/
def line? (caption : Caption) : Except Error String :=
  commentLine caption.heading caption.context caption.text

theorem line?_eq (caption : Caption) :
    caption.line? = if caption.isFit then .ok caption.line
      else .error (.refused caption.refusal) := by
  rw [line?]
  -- The equation of `commentLine` takes long to make, so the definition is opened as it is.
  delta commentLine
  by_cases h : caption.isFit = true
  · have hname : Lua.displayName caption.context (.text caption.text) = .ok caption.text := if_pos h
    rw [hname, if_pos h]
    rfl
  · have hname : Lua.displayName caption.context (.text caption.text) =
        .error (.refused caption.refusal) := if_neg h
    rw [hname, if_neg h]
    rfl

/-- **The lines of captions**, or the refusal of the first that is unfit. -/
theorem mapM_line? (captions : List Caption) :
    captions.mapM line? =
      match captions.find? fun caption => !caption.isFit with
      | none => .ok (captions.map line)
      | some caption => .error (.refused caption.refusal) := by
  induction captions with
  | nil => rfl
  | cons caption rest ih =>
    rw [List.mapM_cons, ih, line?_eq, List.find?_cons]
    cases caption.isFit with
    | false => rfl
    | true =>
      simp only [Bool.not_true]
      cases rest.find? fun caption => !caption.isFit with
      | none => rfl
      | some unfit => rfl

end Caption

/-- **The captions** of an automation. -/
def captions (a : Automation) : List Caption :=
  ⟨"-- Automation: ", "automation name", a.name⟩ ::
    ((shownText a.description).map (Caption.mk "-- " "automation description") ++
      (shownText a.schedule).map (Caption.mk "-- Schedule: " "schedule"))

theorem map_text_captions (a : Automation) : a.captions.map Caption.text = a.shownTexts := by
  have htext : ∀ (heading context : String) (texts : List String),
      (texts.map (Caption.mk heading context)).map Caption.text = texts := by
    intro heading context texts
    rw [List.map_map]
    exact List.map_id texts
  rw [captions, List.map_cons, List.map_append, htext, htext, shownTexts]

/-- The first caption whose text may not stand in a comment. -/
def unfit? (a : Automation) : Option Caption :=
  a.captions.find? fun caption => !caption.isFit

theorem allDisplay_iff {texts : List String} :
    AllDisplay texts ↔ ∀ text ∈ texts, Lua.Presentable text.toList := by
  simp only [AllDisplay, Lua.isDisplayText_iff]

/-- No caption is unfit exactly when every text that is shown is display text. -/
theorem unfit?_eq_none_iff {a : Automation} : a.unfit? = none ↔ AllDisplay a.shownTexts := by
  rw [unfit?, List.find?_eq_none, AllDisplay, ← map_text_captions, List.forall_mem_map]
  have hfit : ∀ caption : Caption, ¬ (!caption.isFit) = true ↔
      Lua.isDisplayText caption.text.toList = true := by
    intro caption
    rw [Bool.not_eq_true', Bool.not_eq_false, Caption.isFit]
  simp only [hfit]

/-- The caption that is found unfit shows a text that is not presentable. -/
theorem unfit?_eq_some {a : Automation} {caption : Caption} (h : a.unfit? = some caption) :
    caption.text ∈ a.shownTexts ∧ ¬ Lua.Presentable caption.text.toList := by
  rw [unfit?] at h
  have hmem : caption ∈ a.captions := List.mem_of_find?_eq_some h
  have hunfit : caption.isFit = false := by simpa using List.find?_some h
  constructor
  · rw [← map_text_captions]
    exact List.mem_map_of_mem hmem
  · rw [← Lua.isDisplayText_iff]
    exact Bool.eq_false_iff.mp hunfit

theorem optionalLine_eq_mapM (heading context : String) (text? : Option String) :
    optionalLine heading context text? =
      ((shownText text?).map (Caption.mk heading context)).mapM Caption.line? := by
  rw [optionalLine, shownText]
  cases text?.filter fun text => !text.isEmpty with
  | none => rfl
  | some text =>
    show (do let line ← commentLine heading context text; return [line]) =
      [Caption.mk heading context text].mapM Caption.line?
    rw [List.mapM_cons, List.mapM_nil]
    rfl

/-- **The comment lines** are those of the captions, unless one of them is unfit. -/
theorem header_eq (a : Automation) :
    a.header =
      match a.unfit? with
      | none => .ok (a.captions.map Caption.line)
      | some caption => .error (.refused caption.refusal) := by
  have hmapM : a.header = a.captions.mapM Caption.line? := by
    rw [header, captions, List.mapM_cons, List.mapM_append, optionalLine_eq_mapM,
      optionalLine_eq_mapM]
    simp only [bind_assoc, pure_bind]
    rfl
  rw [hmapM, Caption.mapM_line?, unfit?]

/-! ## Scene code -/

/-- The lines of a scene. -/
def sceneLines (a : Automation) (condition : String) (statements : List String) : List String :=
  a.captions.map Caption.line ++ ["if " ++ condition ++ " then"] ++ body statements ++ ["end", ""]

/-- **Scene code** is made exactly when every caption is fit and the conditions compile. -/
theorem script_eq_ok_iff {a : Automation} {statements : List String} {code : String} :
    a.script statements = .ok code ↔
      a.unfit? = none ∧ ∃ condition, a.conditions.compile Condition.defaultLimit = .ok condition ∧
        code = "\n".intercalate (a.sceneLines condition statements) := by
  rw [script, header_eq]
  cases a.unfit? with
  | some caption => simp [bind_eq_ok_iff]
  | none =>
    simp only [bind_eq_ok_iff, pure_eq_ok_iff, true_and]
    constructor
    · rintro ⟨lines, hlines, condition, hcondition, hcode⟩
      rw [← Except.ok.inj hlines] at hcode
      exact ⟨condition, hcondition, hcode⟩
    · rintro ⟨condition, hcondition, hcode⟩
      exact ⟨_, rfl, condition, hcondition, hcode⟩

/-- The comment lines are checked before the conditions are looked at. -/
theorem script_of_unfit {a : Automation} {caption : Caption} (h : a.unfit? = some caption)
    (statements : List String) : a.script statements = .error (.refused caption.refusal) := by
  rw [script, header_eq, h]
  rfl

theorem script_ne_empty {a : Automation} {statements : List String} {code : String}
    (h : a.script statements = .ok code) : code ≠ "" := by
  obtain ⟨_, condition, _, hcode⟩ := script_eq_ok_iff.mp h
  intro hempty
  -- the first line starts with a dash
  have hchars : (['\n'].intercalate ((a.sceneLines condition statements).map String.toList)).head? =
      some '-' := by
    have hlines : ∃ second rest, (a.sceneLines condition statements).map String.toList =
        ("-- Automation: " ++ a.name).toList :: second :: rest := by
      rw [sceneLines, captions, List.map_cons, List.cons_append, List.cons_append, List.cons_append,
        List.map_cons]
      cases hrest : List.map String.toList (_ ++ ["end", ""]) with
      | nil => simp at hrest
      | cons second rest => exact ⟨second, rest, rfl⟩
    obtain ⟨second, rest, hlines⟩ := hlines
    rw [hlines, List.intercalate_cons_cons, String.toList_append]
    rfl
  have htext : code.toList =
      ['\n'].intercalate ((a.sceneLines condition statements).map String.toList) := by
    rw [hcode, String.toList_intercalate]
    rfl
  rw [← htext, hempty] at hchars
  cases hchars

/-! ## Outcomes -/

section Outcome

variable [Stack]

/-- **How generating can end.** -/
inductive Outcome (a : Automation) (statements : List String) : Except Error Deployment → Prop where
  /-- Valid conditions and presentable texts: there is scene code. -/
  | made {report : Report} {code : String}
      (checked : a.conditions.check Condition.defaultLimit = .ok report)
      (valid : report.valid = true) (errors : report.errors = [])
      (script : a.script statements = .ok code) (nonempty : code ≠ "") :
      Outcome a statements (.ok ⟨a, code, none, report⟩)
  /-- Invalid conditions: there are errors in place of scene code. -/
  | reported {report : Report}
      (checked : a.conditions.check Condition.defaultLimit = .ok report)
      (invalid : report.valid = false) (errors : report.errors ≠ []) :
      Outcome a statements (.ok ⟨a, "", none, report⟩)
  /-- Valid conditions, and a text that may not stand in a comment. -/
  | refused {report : Report} {caption : Caption}
      (checked : a.conditions.check Condition.defaultLimit = .ok report)
      (valid : report.valid = true) (shown : caption.text ∈ a.shownTexts)
      (unfit : ¬ Lua.Presentable caption.text.toList) :
      Outcome a statements (.error (.refused caption.refusal))
  /-- An integer too large to be checked. -/
  | tooLarge {what : Lua.TooLarge}
      (checked : a.conditions.check Condition.defaultLimit = .error (.tooLarge what)) :
      Outcome a statements (.error (.stopped (.tooLarge what)))
  /-- A tag that a message cannot show. -/
  | unshown {why : Value.Unshown}
      (checked : a.conditions.check Condition.defaultLimit = .error (.unshown why)) :
      Outcome a statements (.error (.stopped (.unshown why)))

theorem generate_outcome (a : Automation) (statements : List String) :
    Outcome a statements (a.generate statements) := by
  rw [generate]
  cases hcheck : a.conditions.check Condition.defaultLimit with
  | error why =>
    cases why with
    | tooLarge what => exact .tooLarge hcheck
    | unshown why => exact .unshown hcheck
  | ok report =>
    have herrors : report.valid = report.errors.isEmpty := Report.valid_eq_of_return hcheck
    by_cases hvalid : report.valid = true
    · simp only [if_pos hvalid]
      cases hunfit : a.unfit? with
      | some caption =>
        obtain ⟨hshown, hpresentable⟩ := unfit?_eq_some hunfit
        rw [script_of_unfit hunfit]
        exact .refused hcheck hvalid hshown hpresentable
      | none =>
        -- what the check lets pass compiles
        obtain ⟨condition, hcondition⟩ :=
          (Condition.Group.compiles_iff_valid Condition.defaultLimit a.conditions).mpr
            ⟨report, hcheck, hvalid⟩
        have hscript : a.script statements = .ok _ :=
          script_eq_ok_iff.mpr ⟨hunfit, condition, hcondition, rfl⟩
        have hnone : report.errors = [] := List.isEmpty_iff.mp (herrors ▸ hvalid)
        rw [hscript]
        exact .made hcheck hvalid hnone hscript (script_ne_empty hscript)
    · simp only [if_neg hvalid]
      refine .reported hcheck (Bool.eq_false_iff.mpr hvalid) ?_
      intro hnone
      rw [herrors, hnone] at hvalid
      exact hvalid rfl

variable {a : Automation} {statements : List String} {result : Except Error Deployment}

end Outcome

section

open scoped Stack

end

end Automation
end HomeScenes
