import HomeScenes.Proofs.Automation.Outcomes
import HomeScenes.Proofs.Condition.Containment

/-!
# The layout of a scene

  Scene code is read line by line: a comment ends where its line ends.  This file says what the
  lines of a scene are, wherever the texts in it come from (`script_layout`): the comment lines of
  the captions, the one line of the condition, the indented lines of the statements, and `end`.
  No text can break a line apart or take up a line of its own.

  1. **The program** joins its lines with line feeds.

  2. **The specification** cuts the code at every line feed and at every carriage return
     (`Text.pieces`).

  3. **The crux** is that each kind of text is kept on its line by a different rule (`OneLine`): a
     caption is refused if there is a break in it, a text in the conditions is escaped
     (`oneLine_condition`), and a statement is cut into lines by a rule that knows more line ends
     than these two (`oneLine_of_mem_lines`).
-/

namespace HomeScenes

/-! ## Pieces between line breaks -/

namespace Text

/-- A line feed or a carriage return. -/
def isBreak (c : Char) : Bool :=
  c == '\n' || c == '\r'

/-- **The pieces** of a text: it is cut at every line feed and at every carriage return. -/
def pieces (s : String) : List String :=
  (s.toList.splitOnP isBreak).map String.ofList

/-- **One line**: there is no break in the text. -/
def OneLine (s : String) : Prop :=
  ∀ c ∈ s.toList, isBreak c = false

/-- For a fixed text it is enough to look at its characters. -/
theorem oneLine_of_all {s : String} (h : (s.toList.all fun c => !isBreak c) = true) :
    OneLine s := by
  intro c hc
  have hc := List.all_eq_true.mp h c hc
  rw [Bool.not_eq_true'] at hc
  exact hc

theorem oneLine_append {a b : String} (ha : OneLine a) (hb : OneLine b) : OneLine (a ++ b) := by
  rw [OneLine, String.toList_append]
  exact List.forall_mem_append.mpr ⟨ha, hb⟩

theorem oneLine_of_not_mem {s : String} (hfeed : '\n' ∉ s.toList) (hreturn : '\r' ∉ s.toList) :
    OneLine s := by
  intro c hc
  have hn : c ≠ '\n' := fun he => hfeed (he ▸ hc)
  have hr : c ≠ '\r' := fun he => hreturn (he ▸ hc)
  rw [isBreak, beq_eq_false_iff_ne.mpr hn, beq_eq_false_iff_ne.mpr hr]
  rfl

/-- **Lines that are joined** are the pieces of the whole. -/
theorem pieces_intercalate {lines : List String} (hne : lines ≠ [])
    (h : ∀ line ∈ lines, OneLine line) :
    pieces ("\n".intercalate lines) = lines := by
  have hparts : ∀ part ∈ lines.map String.toList, ∀ c ∈ part, isBreak c = false := by
    intro part hpart
    obtain ⟨line, hline, rfl⟩ := List.mem_map.mp hpart
    exact h line hline
  have hsplit : (['\n'].intercalate (lines.map String.toList)).splitOnP isBreak =
      lines.map String.toList :=
    Lua.splitOnP_joined rfl (by simpa using hne) hparts
  have hback : (String.ofList ∘ String.toList : String → String) = fun s => s :=
    funext fun s => String.ofList_toList
  rw [pieces, String.toList_intercalate]
  show ((['\n'].intercalate (lines.map String.toList)).splitOnP isBreak).map String.ofList = lines
  rw [hsplit, List.map_map, hback, List.map_id']

/-- No line has a line end in it, as long as the beginning of the current line has none. -/
theorem not_isLineEnd_of_mem_linesFrom {start text line : List Char}
    (hstart : ∀ c ∈ start, isLineEnd c = false) (h : line ∈ linesFrom start text) :
    ∀ c ∈ line, isLineEnd c = false := by
  have hwhole : ∀ start : List Char, (∀ c ∈ start, isLineEnd c = false) →
      ∀ c ∈ start.reverse, isLineEnd c = false := by
    intro start hstart c hc
    exact hstart c (List.mem_reverse.mp hc)
  induction start, text using linesFrom.induct with
  | case1 start hempty =>
    rw [linesFrom, if_pos hempty] at h
    cases h
  | case2 start hempty =>
    rw [linesFrom, if_neg hempty] at h
    rw [List.mem_singleton.mp h]
    exact hwhole start hstart
  | case3 start rest ih =>
    rw [linesFrom] at h
    rcases List.mem_cons.mp h with rfl | h
    · exact hwhole start hstart
    · exact ih (List.forall_mem_nil _) h
  | case4 start c rest hnot hend ih =>
    rw [linesFrom, if_pos hend] at h
    · rcases List.mem_cons.mp h with rfl | h
      · exact hwhole start hstart
      · exact ih (List.forall_mem_nil _) h
    · exact hnot
  | case5 start c rest hnot hend ih =>
    rw [linesFrom, if_neg hend] at h
    · refine ih ?_ h
      exact List.forall_mem_cons.mpr ⟨Bool.eq_false_iff.mpr hend, hstart⟩
    · exact hnot

/-- A line that was split off holds no separator. -/
theorem oneLine_of_mem_lines {s line : String} (h : line ∈ lines s) : OneLine line := by
  obtain ⟨chars, hchars, rfl⟩ := List.mem_map.mp h
  have hends := not_isLineEnd_of_mem_linesFrom (List.forall_mem_nil _) hchars
  refine oneLine_of_not_mem ?_ ?_
  · rw [String.toList_ofList]
    intro hmem
    exact absurd (hends _ hmem) (by decide)
  · rw [String.toList_ofList]
    intro hmem
    exact absurd (hends _ hmem) (by decide)

end Text

open Text (OneLine oneLine_of_all oneLine_append oneLine_of_not_mem)

/-! ## Comment lines -/

/-- **A comment line**: it opens with dashes and a blank, and has neither dashes again nor a long
    bracket. -/
structure IsComment (line : String) : Prop where
  opens : "-- ".toList <+: line.toList
  dashes : ¬ ['-', '-'] <:+: line.toList.tail
  opening : ¬ ['[', '['] <:+: line.toList
  closing : ¬ [']', ']'] <:+: line.toList

namespace Automation

/-- What comment lines start with. -/
def headings : List String :=
  ["-- Automation: ", "-- ", "-- Schedule: "]

/-- Every caption has one of the three headings. -/
theorem heading_mem_of_caption {a : Automation} {caption : Caption} (h : caption ∈ a.captions) :
    caption.heading ∈ headings := by
  rcases List.mem_cons.mp h with rfl | h
  · exact List.mem_cons_self
  · rcases List.mem_append.mp h with h | h
    · obtain ⟨text, _, rfl⟩ := List.mem_map.mp h
      exact List.mem_cons_of_mem _ List.mem_cons_self
    · obtain ⟨text, _, rfl⟩ := List.mem_map.mp h
      exact List.mem_cons_of_mem _ (List.mem_cons_of_mem _ List.mem_cons_self)

/-- Whether a text has no double of a character, and makes none with what comes after it. -/
def mayPrecede (c : Char) (text : List Char) : Bool :=
  !Lua.hasDouble c text && text.getLast? != some c

/-- A pair does not arise where two texts meet, if the first may precede the second. -/
theorem not_double_append {c : Char} {a b : List Char} (ha : mayPrecede c a = true)
    (hb : ¬ [c, c] <:+: b) : ¬ [c, c] <:+: a ++ b := by
  rw [mayPrecede, Bool.and_eq_true, Bool.not_eq_true', bne_iff_ne] at ha
  rw [← Lua.hasDouble_iff_double, Bool.not_eq_true] at hb ⊢
  exact Lua.hasDouble_append ha.1 hb (Or.inl ha.2)

/-- **A heading and presentable text** make a comment line. -/
theorem isComment_append {heading text : String} (hheading : heading ∈ headings)
    (h : Lua.Presentable text.toList) : IsComment (heading ++ text) := by
  have hopens : ∀ heading ∈ headings, ("-- ".toList.isPrefixOf heading.toList) = true :=
    List.all_eq_true.mp rfl
  -- the dashes that open the line are a double, but only from its first character on
  have hdashes : ∀ heading ∈ headings, mayPrecede '-' heading.toList.tail = true :=
    List.all_eq_true.mp rfl
  have hopening : ∀ heading ∈ headings, mayPrecede '[' heading.toList = true :=
    List.all_eq_true.mp rfl
  have hclosing : ∀ heading ∈ headings, mayPrecede ']' heading.toList = true :=
    List.all_eq_true.mp rfl
  have hstart : "-- ".toList <+: heading.toList :=
    List.isPrefixOf_iff_prefix.mp (hopens heading hheading)
  have hne : heading.toList ≠ [] := by
    intro hnil
    rw [hnil] at hstart
    cases List.prefix_nil.mp hstart
  refine ⟨?_, ?_, ?_, ?_⟩
  · rw [String.toList_append]
    exact hstart.trans (List.prefix_append _ _)
  · rw [String.toList_append, List.tail_append_of_ne_nil hne]
    exact not_double_append (hdashes heading hheading) h.dashes
  · rw [String.toList_append]
    exact not_double_append (hopening heading hheading) h.opening
  · rw [String.toList_append]
    exact not_double_append (hclosing heading hheading) h.closing

/-! ## Every line is one line -/

/-- A caption that is presentable fills one line. -/
theorem oneLine_caption {a : Automation} {caption : Caption} (hmem : caption ∈ a.captions)
    (h : Lua.Presentable caption.text.toList) : OneLine caption.line := by
  have hheadings : ∀ heading ∈ headings, (heading.toList.all fun c => !Text.isBreak c) = true :=
    List.all_eq_true.mp rfl
  have hheading : OneLine caption.heading :=
    oneLine_of_all (hheadings _ (heading_mem_of_caption hmem))
  exact oneLine_append hheading (oneLine_of_not_mem h.lineFeed h.carriageReturn)

/-- **Conditions without fragments of code** compile to one line: a break in a text is escaped, as
    every control character is. -/
theorem oneLine_condition {g : Condition.Group} {limit : Int} {condition : String}
    (hcustom : ∀ leaf ∈ g.leaves, leaf.subject.kind ≠ .custom)
    (h : g.compile limit = .ok condition) :
    OneLine condition := by
  have hprintable := (Condition.Group.inert_compile hcustom h).harmless.printable
  refine oneLine_of_not_mem ?_ ?_
  · intro hmem
    exact (hprintable _ hmem).1 (by decide)
  · intro hmem
    exact (hprintable _ hmem).1 (by decide)

/-- What a line of a statement is indented by. -/
def indent : String := "    "

/-- Every line of the body is an indented line of a statement. -/
theorem mem_body {statements : List String} {line : String} (h : line ∈ body statements) :
    ∃ statement ∈ statements, ∃ own ∈ Text.lines statement, line = indent ++ own := by
  obtain ⟨statement, hstatement, hline⟩ := List.mem_flatMap.mp h
  obtain ⟨own, hown, rfl⟩ := List.mem_map.mp hline
  exact ⟨statement, hstatement, own, hown, rfl⟩

/-- So the body is made of single lines. -/
theorem oneLine_of_mem_body {statements : List String} {line : String}
    (h : line ∈ body statements) :
    OneLine line := by
  obtain ⟨_, _, own, hown, rfl⟩ := mem_body h
  have hindent : OneLine indent := oneLine_of_all rfl
  exact oneLine_append hindent (Text.oneLine_of_mem_lines hown)

/-- **Every line of a scene** is one line, whatever the statements are. -/
theorem oneLine_of_mem_sceneLines {a : Automation} {condition : String} (statements : List String)
    (hcaptions : ∀ caption ∈ a.captions, Lua.Presentable caption.text.toList)
    (hcondition : OneLine condition) :
    ∀ line ∈ a.sceneLines condition statements, OneLine line := by
  intro line hline
  rw [sceneLines, List.mem_append, List.mem_append, List.mem_append] at hline
  rcases hline with ((hline | hline) | hline) | hline
  · obtain ⟨caption, hmem, rfl⟩ := List.mem_map.mp hline
    exact oneLine_caption hmem (hcaptions caption hmem)
  · rw [List.mem_singleton.mp hline]
    have hif : OneLine "if " := oneLine_of_all rfl
    have hthen : OneLine " then" := oneLine_of_all rfl
    exact oneLine_append (oneLine_append hif hcondition) hthen
  · exact oneLine_of_mem_body hline
  · rcases List.mem_cons.mp hline with rfl | hline
    · exact oneLine_of_all rfl
    · rw [List.mem_singleton.mp hline]
      exact oneLine_of_all rfl

/-- **The layout of a scene.**  Whenever there is scene code and no fragment of code in the
    conditions, the pieces of the code are: a comment line for each caption, the line of the
    condition, the lines of the statements, each indented, and at last `end` and an empty
    piece. -/
theorem script_layout (a : Automation) (statements : List String) (code : String)
    (hcustom : ∀ leaf ∈ a.conditions.leaves, leaf.subject.kind ≠ .custom)
    (h : a.script statements = .ok code) :
    ∃ condition, a.conditions.compile Condition.defaultLimit = .ok condition ∧
      Text.pieces code =
        a.captions.map Caption.line ++ ["if " ++ condition ++ " then"] ++
          body statements ++ ["end", ""] ∧
      (∀ line ∈ a.captions.map Caption.line, IsComment line) ∧
      ∀ line ∈ body statements, indent.toList <+: line.toList := by
  obtain ⟨hfit, condition, hcondition, rfl⟩ := script_eq_ok_iff.mp h
  have hpresentable : ∀ caption ∈ a.captions, Lua.Presentable caption.text.toList := by
    have hall := allDisplay_iff.mp (unfit?_eq_none_iff.mp hfit)
    rw [← map_text_captions, List.forall_mem_map] at hall
    exact hall
  have hlines := oneLine_of_mem_sceneLines statements hpresentable
    (oneLine_condition hcustom hcondition)
  refine ⟨condition, hcondition, ?_, ?_, ?_⟩
  · exact Text.pieces_intercalate (List.append_ne_nil_of_right_ne_nil _ (List.cons_ne_nil _ _))
      hlines
  · intro line hline
    obtain ⟨caption, hmem, rfl⟩ := List.mem_map.mp hline
    exact isComment_append (heading_mem_of_caption hmem) (hpresentable caption hmem)
  · intro line hline
    obtain ⟨statement, _, own, _, rfl⟩ := mem_body hline
    rw [String.toList_append]
    exact List.prefix_append _ _

/-- An automation whose texts try to break out of their lines. -/
def unrulyAutomation : Automation where
  id := "unruly"
  name := "-[porch]-"
  description := some "- end"
  conditions :=
    { operator := .given "OR",
      conditions := some [.leaf
        ⟨.given "==", .given (.text "\nend\r--[["), true, .globalVariable (.given "mode")⟩] }
  actions := []
  schedule := some ""
  enabled := true

theorem unrulyAutomation_layout :
    (∀ leaf ∈ unrulyAutomation.conditions.leaves, leaf.subject.kind ≠ .custom) ∧
    ∃ code, unrulyAutomation.script ["lamp()\r\nend()", "\n"] = .ok code ∧
      ∃ condition, unrulyAutomation.conditions.compile Condition.defaultLimit = .ok condition ∧
        Text.pieces code =
          unrulyAutomation.captions.map Caption.line ++ ["if " ++ condition ++ " then"] ++
            body ["lamp()\r\nend()", "\n"] ++ ["end", ""] ∧
        (∀ line ∈ unrulyAutomation.captions.map Caption.line, IsComment line) ∧
        ∀ line ∈ body ["lamp()\r\nend()", "\n"], indent.toList <+: line.toList :=
  have hcustom : ∀ leaf ∈ unrulyAutomation.conditions.leaves, leaf.subject.kind ≠ .custom :=
    List.forall_mem_singleton.mpr (by decide)
  have hcondition : unrulyAutomation.conditions.compile Condition.defaultLimit =
      .ok "fibaro.getGlobalVariable(\"mode\") == \"\\nend\\r--[[\"" :=
    ok_of_toOption_eq_some (by decide +kernel)
  have hscript : unrulyAutomation.script ["lamp()\r\nend()", "\n"] = .ok _ :=
    script_eq_ok_iff.mpr ⟨unfit?_eq_none_iff.mpr (by decide +kernel), _, hcondition, rfl⟩
  ⟨hcustom, _, hscript, script_layout unrulyAutomation _ _ hcustom hscript⟩

end Automation
end HomeScenes
