import HomeScenes.Proofs.Automation.Layout

/-!
# Statements in a scene

  A statement is code that is put into a scene as it is, indented.  A statement that is one line
  of code, with no line feed and no carriage return in it, should be one line of the scene.  This
  file says when it is (`statements_unbroken_iff`).

  1. **The scene** is its opening, up to the line of the condition, then what runs the statements,
     then `end`.  The condition may hold fragments of code with line breaks of their own, so the
     scene is cut here where its parts meet and not by counting lines.

  2. **The crux** is that statements are cut into lines by a rule that knows eight more line ends
     than code does (`separators`).  A statement with one of them in it, within a quoted text for
     instance, is cut there, and the separator is lost; all others come through as they are.
-/

namespace HomeScenes

namespace Text

/-! ## Lines that are ended -/

/-- **Lines, each ended** by a line feed. -/
def ended (lines : List String) : String :=
  String.join (lines.map (· ++ "\n"))

theorem ended_cons (line : String) (rest : List String) :
    ended (line :: rest) = line ++ "\n" ++ ended rest := by
  rw [ended, List.map_cons, String.join_cons]
  rfl

theorem ended_append (first second : List String) :
    ended (first ++ second) = ended first ++ ended second := by
  induction first with
  | nil => exact (String.empty_append).symm
  | cons line rest ih => simp only [List.cons_append, ended_cons, ih, String.append_assoc]

/-- Lines that are joined, with nothing in the last one, are lines that are ended. -/
theorem intercalate_concat_empty (lines : List String) :
    "\n".intercalate (lines ++ [""]) = ended lines := by
  induction lines with
  | nil => rfl
  | cons line rest ih =>
    rw [List.cons_append,
      String.intercalate_cons_of_ne_nil (List.append_ne_nil_of_right_ne_nil _
      (List.cons_ne_nil _ _)), ih, ended_cons]

/-- The pieces of lines that are ended are the lines, and the nothing after them. -/
theorem pieces_ended {lines : List String} (h : ∀ line ∈ lines, OneLine line) :
    pieces (ended lines) = lines ++ [""] := by
  have hall : ∀ line ∈ lines ++ [""], OneLine line :=
    List.forall_mem_append.mpr ⟨h, List.forall_mem_singleton.mpr (oneLine_of_all rfl)⟩
  rw [← intercalate_concat_empty]
  exact pieces_intercalate (List.append_ne_nil_of_right_ne_nil _ (List.cons_ne_nil _ _)) hall

/-! ## Line ends and separators -/

/-- **The separators**: the vertical tab, the form feed, the three information separators, the
    next line, and the separators of lines and of paragraphs.  They end lines of a text, but not
    lines of code. -/
def separators : List Char :=
  ['\x0b', '\x0c', '\x1c', '\x1d', '\x1e', '\u0085', '\u2028', '\u2029']

theorem isLineEnd_iff {c : Char} : isLineEnd c = true ↔ isBreak c = true ∨ c ∈ separators := by
  simp only [isLineEnd, isBreak, separators, List.mem_cons, List.not_mem_nil, or_false,
    Bool.or_eq_true, Bool.and_eq_true, decide_eq_true_eq, beq_iff_eq, ← Char.toNat_inj,
    Char.reduceToNat]
  omega

/-- A line has no line end but separators. -/
theorem OneLine.isLineEnd_iff_mem {s : String} (h : OneLine s) {c : Char} (hc : c ∈ s.toList) :
    isLineEnd c = true ↔ c ∈ separators := by
  rw [isLineEnd_iff, h c hc]
  simp

/-- Parts, without the last one if it is empty. -/
def withoutEmptyLast (parts : List (List Char)) : List (List Char) :=
  if parts.getLast? = some [] then parts.dropLast else parts

theorem withoutEmptyLast_cons {part : List Char} {parts : List (List Char)} (hne : parts ≠ []) :
    withoutEmptyLast (part :: parts) = part :: withoutEmptyLast parts := by
  rw [withoutEmptyLast, withoutEmptyLast, List.getLast?_cons_of_ne_nil hne,
    List.dropLast_cons_of_ne_nil hne]
  split <;> rfl

/-- **The sections** of a text: what stands between its line ends, and after the last one if there
    is anything. -/
def sections (s : String) : List String :=
  (withoutEmptyLast (s.toList.splitOnP isLineEnd)).map String.ofList

/-- Without a carriage return a text is cut at every line end.  By induction on the text, with the
    beginning of the current line put back in front of it. -/
theorem linesFrom_eq {start text : List Char} (hstart : ∀ c ∈ start, isLineEnd c = false)
    (hreturn : '\r' ∉ text) :
    linesFrom start text = withoutEmptyLast ((start.reverse ++ text).splitOnP isLineEnd) := by
  have hreversed : ∀ start : List Char, (∀ c ∈ start, isLineEnd c = false) →
      ∀ c ∈ start.reverse, isLineEnd c = false := by
    intro start hstart c hc
    exact hstart c (List.mem_reverse.mp hc)
  induction start, text using linesFrom.induct with
  | case1 start hempty =>
    rw [linesFrom, if_pos hempty, List.isEmpty_iff.mp hempty]
    rfl
  | case2 start hempty =>
    have hne : start.reverse ≠ [] := by simpa using hempty
    rw [linesFrom, if_neg hempty, List.append_nil,
      List.splitOnP_eq_singleton (hreversed start hstart), withoutEmptyLast,
      List.getLast?_singleton, if_neg (by simpa using hne)]
  | case3 start rest _ => exact absurd List.mem_cons_self hreturn
  | case4 start c rest hnot hend ih =>
    have hrest := ih (List.forall_mem_nil _) fun hmem => hreturn (List.mem_cons_of_mem _ hmem)
    rw [linesFrom, if_pos hend, hrest, List.reverse_nil, List.nil_append,
      List.splitOnP_append_cons_of_forall_mem (hreversed start hstart) c hend,
      withoutEmptyLast_cons (List.splitOnP_ne_nil _ _)]
    exact hnot
  | case5 start c rest hnot hend ih =>
    have hlonger : ∀ d ∈ c :: start, isLineEnd d = false :=
      List.forall_mem_cons.mpr ⟨Bool.eq_false_iff.mpr hend, hstart⟩
    have hrest := ih hlonger fun hmem => hreturn (List.mem_cons_of_mem _ hmem)
    rw [linesFrom, if_neg hend, hrest, List.reverse_cons, List.append_assoc]
    · rfl
    · exact hnot

/-- **The lines of one line of code** are its sections. -/
theorem OneLine.lines_eq {s : String} (h : OneLine s) : lines s = sections s := by
  have hreturn : '\r' ∉ s.toList := fun hmem => absurd (h _ hmem) (by decide)
  rw [lines, sections, linesFrom_eq (List.forall_mem_nil _) hreturn, List.reverse_nil,
    List.nil_append]

/-- A text without line ends is one section, unless it is empty. -/
theorem sections_eq_singleton {s : String} (hne : s ≠ "")
    (h : ∀ c ∈ s.toList, isLineEnd c = false) :
    sections s = [s] := by
  have hchars : s.toList ≠ [] := fun hnil => hne (String.toList_inj.mp hnil)
  rw [sections, List.splitOnP_eq_singleton h, withoutEmptyLast, List.getLast?_singleton,
    if_neg (by simpa using hchars), List.map_singleton, String.ofList_toList]

theorem not_isLineEnd_of_mem_lines {s line : String} (h : line ∈ lines s) :
    ∀ c ∈ line.toList, isLineEnd c = false := by
  obtain ⟨chars, hchars, rfl⟩ := List.mem_map.mp h
  rw [String.toList_ofList]
  exact not_isLineEnd_of_mem_linesFrom (List.forall_mem_nil _) hchars

end Text

namespace Automation

/-! ## The lines of statements -/

/-- The lines of a scene, each ended. -/
theorem intercalate_sceneLines (a : Automation) (condition : String) (statements : List String) :
    "\n".intercalate (a.sceneLines condition statements) =
      Text.ended (a.captions.map Caption.line ++ ["if " ++ condition ++ " then"]) ++
        Text.ended (body statements) ++ Text.ended ["end"] := by
  have hlines : a.sceneLines condition statements =
      a.captions.map Caption.line ++ ["if " ++ condition ++ " then"] ++ body statements ++
        ["end"] ++ [""] := by
    rw [sceneLines, List.append_assoc _ ["end"] [""]]
    rfl
  rw [hlines, Text.intercalate_concat_empty, Text.ended_append, Text.ended_append]

section Body

variable {statements : List String} (hstatements : ∀ s ∈ statements, s ≠ "" ∧ Text.OneLine s)
include hstatements

/-- Statements of one line each give their sections. -/
theorem body_eq_sections :
    body statements = statements.flatMap fun s => (Text.sections s).map (indent ++ ·) := by
  rw [body]
  refine List.flatMap_congr fun s hs => ?_
  rw [(hstatements s hs).2.lines_eq]
  rfl

/-- **Statements come through unbroken** exactly when there is no separator in them. -/
theorem body_eq_map_iff :
    body statements = statements.map (indent ++ ·) ↔ ∀ s ∈ statements, ∀ c ∈ Text.separators,
      c ∉ s.toList := by
  constructor
  · intro h s hs c hc hmem
    -- the statement is a line of the body, and no line has a line end in it
    have hline : indent ++ s ∈ body statements := by
      rw [h]
      exact List.mem_map_of_mem hs
    obtain ⟨_, _, own, hown, heq⟩ := mem_body hline
    have hsame : s = own := (String.append_right_inj indent).mp heq
    have hend : Text.isLineEnd c = true := Text.isLineEnd_iff.mpr (Or.inr hc)
    rw [hsame] at hmem
    rw [Text.not_isLineEnd_of_mem_lines hown c hmem] at hend
    cases hend
  · intro h
    have hsections : ∀ s ∈ statements, (Text.sections s).map (indent ++ ·) = [indent ++ s] := by
      intro s hs
      have hends : ∀ c ∈ s.toList, Text.isLineEnd c = false := by
        intro c hc
        rw [Bool.eq_false_iff, ne_eq, (hstatements s hs).2.isLineEnd_iff_mem hc]
        exact fun hsep => h s hs c hsep hc
      rw [Text.sections_eq_singleton (hstatements s hs).1 hends, List.map_singleton]
    rw [body_eq_sections hstatements, List.flatMap_congr hsections, List.map_eq_flatMap]

end Body

/-- **Statements reach the scene unbroken exactly when they hold no separators.**  Take statements
    that are one line of code each.  Between the line of the condition and `end` there are,
    whatever the conditions are, the sections of each statement, each on a line of its own and
    indented.  So there is one line for each statement, with its text as it is, exactly when there
    is no separator in any of them. -/
theorem statements_unbroken_iff (a : Automation) (statements : List String) (code : String)
    (hstatements : ∀ s ∈ statements, s ≠ "" ∧ Text.OneLine s) (h : a.script statements = .ok code) :
    ∃ condition between, a.conditions.compile Condition.defaultLimit = .ok condition ∧
      code = Text.ended (a.captions.map Caption.line ++ ["if " ++ condition ++ " then"]) ++
        between ++ Text.ended ["end"] ∧
      Text.pieces between = statements.flatMap (fun s => (Text.sections s).map (indent ++ ·)) ++
        [""] ∧
      (Text.pieces between = statements.map (indent ++ ·) ++ [""] ↔
        ∀ s ∈ statements, ∀ c ∈ Text.separators, c ∉ s.toList) := by
  obtain ⟨_, condition, hcondition, rfl⟩ := script_eq_ok_iff.mp h
  have hpieces : Text.pieces (Text.ended (body statements)) = body statements ++ [""] :=
    Text.pieces_ended fun line hline => oneLine_of_mem_body hline
  refine ⟨condition, Text.ended (body statements), hcondition,
    intercalate_sceneLines a condition statements, ?_, ?_⟩
  · rw [hpieces, body_eq_sections hstatements]
  · rw [hpieces, List.append_left_inj]
    exact body_eq_map_iff hstatements

/-- An automation whose condition is a fragment of code on two lines. -/
def noticeAutomation : Automation where
  id := "notice"
  name := "Notice"
  description := none
  conditions :=
    { operator := .given "AND",
      conditions := some [.leaf ⟨.given "==", .absent, true,
      .custom (.given "late()\nor dark()")⟩] }
  actions := []
  schedule := none
  enabled := true

/-- One line of code, with a line separator within a quoted text. -/
def noticeStatement : String := "say(\"wake\u2028up\")"

theorem noticeAutomation_script (statements : List String) :
    noticeAutomation.script statements =
      .ok (Text.ended ["-- Automation: Notice", "if late()\nor dark() then"] ++
        Text.ended (body statements) ++ Text.ended ["end"]) := by
  have hfit : noticeAutomation.unfit? = none := unfit?_eq_none_iff.mpr (by decide +kernel)
  have hcondition : noticeAutomation.conditions.compile Condition.defaultLimit =
      .ok "late()\nor dark()" :=
    ok_of_toOption_eq_some (by decide +kernel)
  have hopening : noticeAutomation.captions.map Caption.line ++
      ["if " ++ "late()\nor dark()" ++ " then"] =
      ["-- Automation: Notice", "if late()\nor dark() then"] := by
    decide +kernel
  refine script_eq_ok_iff.mpr ⟨hfit, _, hcondition, ?_⟩
  rw [intercalate_sceneLines, hopening]

theorem noticeStatements_unbroken_iff :
    (∀ s ∈ ["lamp()", noticeStatement], s ≠ "" ∧ Text.OneLine s) ∧
    ∃ code, noticeAutomation.script ["lamp()", noticeStatement] = .ok code ∧
      ∃ condition between, noticeAutomation.conditions.compile Condition.defaultLimit =
        .ok condition ∧
        code = Text.ended (noticeAutomation.captions.map Caption.line ++
          ["if " ++ condition ++ " then"]) ++ between ++ Text.ended ["end"] ∧
        Text.pieces between =
          ["lamp()", noticeStatement].flatMap (fun s => (Text.sections s).map (indent ++ ·)) ++
            [""] ∧
        (Text.pieces between = ["lamp()", noticeStatement].map (indent ++ ·) ++ [""] ↔
          ∀ s ∈ ["lamp()", noticeStatement], ∀ c ∈ Text.separators, c ∉ s.toList) := by
  have hlines : ∀ s ∈ ["lamp()", noticeStatement], s ≠ "" ∧ Text.OneLine s := by
    refine List.forall_mem_cons.mpr ⟨⟨by decide, Text.oneLine_of_all rfl⟩,
      List.forall_mem_singleton.mpr ?_⟩
    exact ⟨by decide, Text.oneLine_of_all rfl⟩
  have hscript := noticeAutomation_script ["lamp()", noticeStatement]
  exact ⟨hlines, _, hscript, statements_unbroken_iff noticeAutomation _ _ hlines hscript⟩

/-- **A statement that is broken**: it is one line of code, and two lines of the scene. -/
theorem noticeStatement_broken :
    noticeStatement ≠ "" ∧ Text.OneLine noticeStatement ∧
    ∃ between, noticeAutomation.script [noticeStatement] =
        .ok (Text.ended ["-- Automation: Notice", "if late()\nor dark() then"] ++ between ++
          Text.ended ["end"]) ∧
      Text.pieces between = ["    say(\"wake", "    up\")", ""] ∧
      Text.pieces between ≠ [indent ++ noticeStatement, ""] := by
  have hpieces : Text.pieces (Text.ended (body [noticeStatement])) =
      ["    say(\"wake", "    up\")", ""] := by
    rw [Text.pieces_ended fun line hline => oneLine_of_mem_body hline]
    decide +kernel
  refine ⟨by decide, Text.oneLine_of_all rfl, _, noticeAutomation_script [noticeStatement], hpieces,
    ?_⟩
  rw [hpieces]
  decide +kernel

end Automation
end HomeScenes
