import HomeScenes.Proofs.Condition.Agreement
import HomeScenes.Proofs.Condition.Nesting

/-!
# Where a depth is found fault with

  Both walks over a tree test the depth of every group that they meet.  A tree within the limit
  never fails the test: no error of the compiler and no finding of the check is about a depth
  (`Group.depth_settled`).  A leaf stands at no depth, so what is wrong with a leaf is never that.
-/

namespace HomeScenes.Condition

/-! ## Compiling -/

/-- Whether an error is about the depth of a group. -/
def Error.isDepth : Error → Bool
  | .malformed (.tooDeep _) => true
  | _ => false

/-- **Compiling is not stopped by a depth.** -/
def Undeterred {α : Type} (compiled : Except Error α) : Prop :=
  ∀ why, compiled = .error why → why.isDepth = false

section Undeterred

variable {α β : Type}

theorem undeterred_ok (a : α) : Undeterred (.ok a) := by
  intro why h; cases h

/-- A failure of another kind is no defect of depth. -/
theorem undeterred_error {why : Error} (h : why.isDepth = false) :
    Undeterred (.error why : Except Error α) := by
  intro why' h'
  injection h' with h'
  rw [← h']
  exact h

/-- One step after another: what neither of them reports, both together do not report. -/
theorem Undeterred.bind {x : Except Error α} {f : α → Except Error β} (hx : Undeterred x)
    (hf : ∀ a, Undeterred (f a)) : Undeterred (x >>= f) := by
  cases x with
  | error why => exact undeterred_error (hx why rfl)
  | ok a => exact hf a

/-- What an embedding refuses has nothing to do with depth. -/
theorem Error.isDepth_ofFailure (failure : Lua.Failure) :
    (Error.ofFailure failure).isDepth = false := by
  cases failure <;> rfl

theorem undeterred_numberText (context : String) (v : Value) :
    Undeterred (numberText context v) := by
  rw [numberText]
  split
  · exact undeterred_ok _
  · exact undeterred_error (Error.isDepth_ofFailure _)

theorem undeterred_identifierText (context s : String) : Undeterred (identifierText context s) := by
  rw [identifierText]
  split
  · exact undeterred_ok _
  · exact undeterred_error (Error.isDepth_ofFailure _)

theorem undeterred_literalText (v : Value) : Undeterred (literalText v) := by
  rw [literalText]
  split
  · exact undeterred_ok _
  · exact undeterred_error (Error.isDepth_ofFailure _)

theorem undeterred_sunOffset (offset : Slot Number) : Undeterred (sunOffset offset) := by
  rw [sunOffset]
  split
  · exact undeterred_ok _
  · split
    · exact undeterred_ok _
    · exact undeterred_error (Error.isDepth_ofFailure _)

/-- A leaf without its value is a defect of the leaf. -/
theorem Leaf.undeterred_requireValue (leaf : Leaf) {defect : Defect}
    (h : (Error.malformed defect).isDepth = false) : Undeterred (leaf.requireValue defect) := by
  rw [Leaf.requireValue]
  split
  · exact undeterred_ok _
  · exact undeterred_error h

/-- An operator that a leaf may not have is a defect of the leaf. -/
theorem Leaf.undeterred_operatorText (leaf : Leaf) : Undeterred leaf.operatorText := by
  refine Undeterred.bind ?_ fun c => undeterred_ok _
  rw [Comparison.read]
  split
  · exact undeterred_ok _
  · exact undeterred_error rfl

/-- A leaf is at no depth. -/
theorem Leaf.undeterred_compile (leaf : Leaf) : Undeterred leaf.compile := by
  rw [Leaf.compile]
  cases leaf.subject with
  | deviceState deviceId property =>
    simp only [Leaf.compileDevice]
    split
    · refine (leaf.undeterred_requireValue rfl).bind fun _ => ?_
      refine leaf.undeterred_operatorText.bind fun _ => ?_
      refine (undeterred_numberText _ _).bind fun _ => ?_
      refine (undeterred_identifierText _ _).bind fun _ => ?_
      exact (undeterred_literalText _).bind fun _ => undeterred_ok _
    · exact undeterred_error rfl
  | globalVariable name =>
    simp only [Leaf.compileVariable]
    split
    · refine (leaf.undeterred_requireValue rfl).bind fun _ => ?_
      refine leaf.undeterred_operatorText.bind fun _ => ?_
      refine (undeterred_identifierText _ _).bind fun _ => ?_
      split
      · exact undeterred_ok _
      · exact (undeterred_literalText _).bind fun _ => undeterred_ok _
      · exact (undeterred_literalText _).bind fun _ => undeterred_ok _
    · exact undeterred_error rfl
  | time =>
    refine (leaf.undeterred_requireValue rfl).bind fun _ => ?_
    refine leaf.undeterred_operatorText.bind fun _ => ?_
    exact (undeterred_numberText _ _).bind fun _ => undeterred_ok _
  | sunPosition position offset =>
    simp only [Leaf.compileSun]
    split
    · exact undeterred_error rfl
    · split
      · exact undeterred_error rfl
      · refine leaf.undeterred_operatorText.bind fun _ => ?_
        exact (undeterred_sunOffset _).bind fun _ => undeterred_ok _
  | custom code =>
    simp only [Leaf.compileCustom]
    split
    · exact undeterred_error rfl
    · exact leaf.undeterred_operatorText.bind fun _ => undeterred_ok _
  | unknown tag extra => exact undeterred_error rfl

/-- **Opening a group** within the limit: the guard does not fire, and what is left to check is the
    connective and whether there are children. -/
theorem undeterred_openGroup {limit : Int} {level : Nat} (h : ¬ limit < level)
    (operator : Slot String)
    (children : List Node) : Undeterred (openGroup limit level operator children) := by
  rw [openGroup, if_neg h]
  split
  · exact undeterred_error rfl
  · split
    · exact undeterred_error rfl
    · exact undeterred_ok _

mutual

/-- **No depth stops** the compiling of a node that is within the limit. -/
theorem Node.undeterred_compile {limit : Int} : ∀ (node : Node) (level : Nat),
    Within limit level node.depth → Undeterred (node.compile limit level)
  | .leaf l, _, _ => by rw [Node.compile]; exact l.undeterred_compile
  | .group operator children, level, h => by
    rw [Node.depth] at h
    rw [Node.compile]
    refine (undeterred_openGroup h.group.1 operator children).bind fun _ => ?_
    exact (undeterred_compileNodes children (level + 1) h.group.2).bind fun _ => undeterred_ok _

/-- All children of a group, from the first on. -/
theorem undeterred_compileNodes {limit : Int} : ∀ (nodes : List Node) (level : Nat),
    Within limit level (deepestNode nodes) → Undeterred (compileNodes limit level nodes)
  | [], _, _ => by rw [compileNodes]; exact undeterred_ok _
  | node :: rest, level, h => by
    rw [deepestNode, within_max_iff] at h
    rw [compileNodes]
    refine (node.undeterred_compile level h.1).bind fun _ => ?_
    exact (undeterred_compileNodes rest level h.2).bind fun _ => undeterred_ok _

end

end Undeterred

/-! ## Checking -/

/-- Whether a note is about the depth of a group. -/
def Note.isDepth : Note → Bool
  | .defect (.tooDeep _) => true
  | _ => false

/-- **Nothing that is found is about a depth.** -/
def Unmentioned {α : Type} (isDepth : α → Bool) (found : Except Stop (List α)) : Prop :=
  ∀ all, found = .ok all → ∀ a ∈ all, isDepth a = false

section Unmentioned

variable {α β : Type} {isDepth : α → Bool} {x y : Except Stop (List α)}

/-- For a check that gave its notes, every single one is looked at. -/
theorem unmentioned_ok_iff {all : List α} :
    Unmentioned isDepth (.ok all) ↔ ∀ a ∈ all, isDepth a = false := by
  constructor
  · intro h; exact h all rfl
  · intro h all' hall; injection hall with hall; rw [← hall]; exact h

theorem unmentioned_error (why : Stop) : Unmentioned isDepth (.error why) := by
  intro all h; cases h

/-- Two checks whose notes are listed one after the other. -/
theorem Unmentioned.append (hx : Unmentioned isDepth x) (hy : Unmentioned isDepth y) :
    Unmentioned isDepth (do let a ← x; let b ← y; return a ++ b) := by
  intro all h
  obtain ⟨a, ha, h⟩ := bind_eq_ok_iff.mp h
  obtain ⟨b, hb, h⟩ := bind_eq_ok_iff.mp h
  rw [pure_eq_ok_iff.mp h]
  exact List.forall_mem_append.mpr ⟨hx a ha, hy b hb⟩

/-- Notes that are there already, and then a check. -/
theorem Unmentioned.prepend {all : List α} (hall : ∀ a ∈ all, isDepth a = false)
    (hy : Unmentioned isDepth y) : Unmentioned isDepth (do let b ← y; return all ++ b) :=
  (unmentioned_ok_iff.mpr hall).append hy

theorem Unmentioned.append_three {z : Except Stop (List α)} (hx : Unmentioned isDepth x)
    (hy : Unmentioned isDepth y) (hz : Unmentioned isDepth z) :
    Unmentioned isDepth (do let a ← x; let b ← y; let c ← z; return a ++ b ++ c) := by
  have h := (hx.append hy).append hz
  cases x <;> cases y <;> exact h

/-- Notes that are placed somewhere else. -/
theorem Unmentioned.map {f : β → α} {z : Except Stop (List β)}
    (hz : Unmentioned (fun b => isDepth (f b)) z) :
    Unmentioned isDepth (do let found ← z; return found.map f) := by
  intro all h
  obtain ⟨found, hfound, h⟩ := bind_eq_ok_iff.mp h
  rw [pure_eq_ok_iff.mp h]
  exact List.forall_mem_map.mpr (hz found hfound)

/-- **A property that no field of a leaf is noted for**: a refused value does not have it, and
    neither has a defect other than of a depth. -/
structure Foreign (p : Note → Bool) : Prop where
  refusal : ∀ refusal, p (.refusal refusal) = false
  defect : ∀ defect, (Note.defect defect).isDepth = false → p (.defect defect) = false

/-- Depth is foreign to a leaf, so whatever holds of foreign notes holds of those about depth. -/
theorem foreign_isDepth : Foreign Note.isDepth :=
  ⟨fun _ => rfl, fun _ h => h⟩

section Foreign

variable {p : Note → Bool}

/-- A check that gives a single note. -/
theorem unmentioned_note {note : Note} (h : p note = false) : Unmentioned p (.ok [note]) :=
  unmentioned_ok_iff.mpr (List.forall_mem_singleton.mpr h)

/-- The same note, where its message has to be made first. -/
theorem unmentioned_noted [Stack] {note : Note} (h : p note = false) :
    Unmentioned p (noted note) := by
  rw [noted]
  split
  · exact unmentioned_error _
  · exact unmentioned_note h

theorem noteUnless_unmentioned {test : Bool} {defect : Defect} (h : p (.defect defect) = false) :
    ∀ note ∈ noteUnless test defect, p note = false := by
  cases test with
  | true => exact List.forall_mem_nil _
  | false => exact List.forall_mem_singleton.mpr h

/-- A refusal is never of the kind in question. -/
theorem unmentioned_noteRefusal (hp : Foreign p) {r : Except Lua.Failure α} :
    Unmentioned p (noteRefusal r) := by
  rw [noteRefusal.eq_def]
  split
  · exact unmentioned_ok_iff.mpr (List.forall_mem_nil _)
  · exact unmentioned_note (hp.refusal _)
  · exact unmentioned_error _

/-- A name that is missing or refused. -/
theorem unmentioned_noteName (hp : Foreign p) {context : String} {slot : Slot String}
    {missing : Defect}
    (h : (Note.defect missing).isDepth = false) :
    Unmentioned p (noteName context slot missing) := by
  rw [noteName]
  split
  · exact unmentioned_note (hp.defect missing h)
  · exact unmentioned_noteRefusal hp

/-- A value that is missing or refused. -/
theorem Leaf.unmentioned_noteValue (hp : Foreign p) (leaf : Leaf) {missing : Defect}
    (h : (Note.defect missing).isDepth = false) : Unmentioned p (leaf.noteValue missing) := by
  rw [Leaf.noteValue]
  split
  · exact unmentioned_noteRefusal hp
  · exact unmentioned_note (hp.defect missing h)

theorem Leaf.unmentioned_noteId (hp : Foreign p) (deviceId : Slot Int) :
    Unmentioned p (Leaf.noteId deviceId) := by
  rw [Leaf.noteId]
  split
  · exact unmentioned_note (hp.defect _ rfl)
  · exact unmentioned_noteRefusal hp

theorem Leaf.unmentioned_noteOffset (hp : Foreign p) (offset : Slot Number) :
    Unmentioned p (Leaf.noteOffset offset) := by
  rw [Leaf.noteOffset]
  split
  · exact unmentioned_ok_iff.mpr (List.forall_mem_nil _)
  · exact unmentioned_noteRefusal hp

theorem Leaf.unmentioned_noteStamp (hp : Foreign p) (leaf : Leaf) :
    Unmentioned p leaf.noteStamp := by
  rw [Leaf.noteStamp]
  split
  · split
    · exact unmentioned_ok_iff.mpr (List.forall_mem_nil _)
    · exact unmentioned_note (hp.defect _ rfl)
    · exact unmentioned_error _
  · exact unmentioned_note (hp.defect _ rfl)

theorem notePosition_unmentioned (hp : Foreign p) (slot : Slot String) :
    ∀ note ∈ notePosition slot, p note = false := by
  rw [notePosition]
  split
  · exact List.forall_mem_singleton.mpr (hp.defect _ rfl)
  · exact noteUnless_unmentioned (hp.defect _ rfl)

/-- **The notes of a leaf** are about its own fields, or about a fragment of code in it. -/
theorem Leaf.unmentioned_notes [Stack] (hp : Foreign p) (leaf : Leaf)
    (hcode : ∀ slot code, leaf.subject = .custom slot → nonEmpty? slot = some code →
      p .embeddedCode = false) : Unmentioned p leaf.notes := by
  refine Unmentioned.prepend (noteUnless_unmentioned (hp.defect _ rfl)) ?_
  rw [Leaf.noteSubject]
  cases hs : leaf.subject with
  | deviceState deviceId property =>
    have hname : Unmentioned p (noteName "device property" property .deviceWithoutProperty) :=
      unmentioned_noteName hp rfl
    have hvalue : Unmentioned p (leaf.noteValue .deviceWithoutValue) :=
      leaf.unmentioned_noteValue hp rfl
    have h := (Leaf.unmentioned_noteId hp deviceId).append_three hname hvalue
    cases deviceId <;> exact h
  | globalVariable name =>
    exact (unmentioned_noteName hp rfl).append (leaf.unmentioned_noteValue hp rfl)
  | time => exact leaf.unmentioned_noteStamp hp
  | sunPosition position offset =>
    have h := Unmentioned.prepend (notePosition_unmentioned hp position)
      (Leaf.unmentioned_noteOffset hp offset)
    cases offset <;> exact h
  | custom slot =>
    cases hslot : nonEmpty? slot with
    | none =>
      simp only [hslot]
      exact unmentioned_note (hp.defect _ rfl)
    | some code =>
      simp only [hslot]
      exact unmentioned_note (hcode slot code hs hslot)
  | unknown tag extra => exact unmentioned_noted (hp.defect _ rfl)

end Foreign

/-- The notes about a group's own connective and children leave its depth out. -/
theorem groupNotes_unmentioned (operator : Slot String) (children : List Node) :
    ∀ note ∈ groupNotes operator children, note.isDepth = false :=
  List.forall_mem_append.mpr ⟨noteUnless_unmentioned rfl, noteUnless_unmentioned rfl⟩

mutual

/-- **No finding mentions a depth** where the node is within the limit. -/
theorem Node.unmentioned_findings [Stack] {limit : Int} :
    ∀ (node : Node) (level : Nat) (path : List Nat), Within limit level node.depth →
      Unmentioned (fun finding => finding.note.isDepth) (node.findings limit level path)
  | .leaf l, _, path, _ => by
    rw [Node.findings]
    exact Unmentioned.map (l.unmentioned_notes foreign_isDepth fun _ _ _ _ => rfl)
  | .group operator children, level, path, h => by
    rw [Node.depth] at h
    rw [Node.findings, if_neg h.group.1]
    exact Unmentioned.prepend (List.forall_mem_map.mpr (groupNotes_unmentioned operator children))
      (unmentioned_findingsFrom children (level + 1) path 0 h.group.2)

/-- All children of a group, from position `i` on. -/
theorem unmentioned_findingsFrom [Stack] {limit : Int} :
    ∀ (nodes : List Node) (level : Nat) (path : List Nat) (i : Nat),
      Within limit level (deepestNode nodes) →
        Unmentioned (fun finding => finding.note.isDepth) (findingsFrom limit level path i nodes)
  | [], _, _, _, _ => by
    rw [findingsFrom]
    exact unmentioned_ok_iff.mpr (List.forall_mem_nil _)
  | node :: rest, level, path, i, h => by
    rw [deepestNode, within_max_iff] at h
    rw [findingsFrom]
    exact (node.unmentioned_findings level (path ++ [i]) h.1).append
      (unmentioned_findingsFrom rest level path (i + 1) h.2)

end

end Unmentioned

/-! ## Condition trees -/

/-- Within the limit, no group of a condition tree is found to be too deep. -/
theorem Group.depth_settled [Stack] {limit : Int} {g : Group} (h : (g.depth : Int) ≤ limit) :
    Undeterred (g.compile limit) ∧
      Unmentioned (fun finding => finding.note.isDepth) (g.findings limit) := by
  obtain ⟨hroot, hchildren⟩ := g.within_children h
  constructor
  · refine (undeterred_openGroup hroot g.operator g.children).bind fun _ => ?_
    exact (undeterred_compileNodes g.children 2 hchildren).bind fun _ => undeterred_ok _
  · refine Node.unmentioned_findings _ 1 [] ?_
    rw [Node.depth]
    rw [Group.depth] at h
    simp only [Within]
    omega

end HomeScenes.Condition
