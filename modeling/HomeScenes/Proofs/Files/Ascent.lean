import HomeScenes.Files.Root

/-!
# The ascent to the project root

  The search for the project root goes up from a path to its parent, to the parent of that, and so
  on.  This file says which paths it looks at, and what it finds (`root_search_misses_top`).

  1. **The rules for parents** are said without cutting texts (`IsParent`): the parent is what
     stands before the slashes before the last name, and these slashes themselves if nothing else
     stands before them.  Every path has exactly one parent (`isParent_iff`), and those that are
     their own are made of slashes only, or empty.

  2. **The ascent** from a path is the list of paths below its top, and the top itself (`Ascent`).
     There is exactly one, and it is no longer than the path it starts from.

  3. **The search** finds the first marked path *below* the top.  So it is exact over the paths
     below the top, and over the whole ascent unless the top is the only path that is marked.
-/

namespace HomeScenes.Path

/-! ## Parents -/

/-- **The parent of a path**: what stands before the slashes before the last name, or these
    slashes if nothing else stands before them. -/
inductive IsParent : List Char → List Char → Prop where
  | root {slashes name : List Char} (hslashes : ∀ c ∈ slashes, c = '/') (hname : '/' ∉ name) :
    IsParent (slashes ++ name) slashes
  | below {dir slashes name : List Char} {last : Char} (hlast : dir.getLast? = some last)
    (hdir : last ≠ '/')
    (hne : slashes ≠ []) (hslashes : ∀ c ∈ slashes, c = '/') (hname : '/' ∉ name) :
    IsParent (dir ++ slashes ++ name) dir

/-- What is dropped from the end is everything after the last character that stays. -/
theorem dropEnd_append {p : Char → Bool} {kept dropped : List Char}
    (hkept : ∀ c ∈ kept.getLast?, p c = false)
    (hdropped : ∀ c ∈ dropped, p c = true) : dropEnd p (kept ++ dropped) = kept := by
  have hreversed : ∀ c ∈ dropped.reverse, p c = true :=
    fun c hc => hdropped c (List.mem_reverse.mp hc)
  have hstop : kept.reverse.dropWhile p = kept.reverse := by
    cases hrev : kept.reverse with
    | nil => rfl
    | cons c rest =>
      have hc : kept.getLast? = some c := by
        rw [← List.head?_reverse, hrev]
        rfl
      exact List.dropWhile_cons_of_neg (by rw [hkept c hc]; exact Bool.false_ne_true)
  rw [dropEnd, List.reverse_append, List.dropWhile_append_of_pos hreversed, hstop,
    List.reverse_reverse]

theorem exists_dropEnd (p : Char → Bool) (chars : List Char) :
    ∃ dropped, chars = dropEnd p chars ++ dropped ∧ (∀ c ∈ dropped, p c = true) ∧
      ∀ c ∈ (dropEnd p chars).getLast?, p c = false := by
  refine ⟨(chars.reverse.takeWhile p).reverse, ?_, ?_, ?_⟩
  · rw [dropEnd, ← List.reverse_append, List.takeWhile_append_dropWhile, List.reverse_reverse]
  · intro c hc
    exact List.all_eq_true.mp List.all_takeWhile c (List.mem_reverse.mp hc)
  · intro c hc
    rw [dropEnd, List.getLast?_reverse] at hc
    have hhead := List.head?_dropWhile_not p chars.reverse
    rw [Option.mem_def.mp hc] at hhead
    exact hhead

/-- What ends in slashes ends in a slash. -/
theorem eq_slash_of_getLast? (dir : List Char) {slashes : List Char}
    (hslashes : ∀ c ∈ slashes, c = '/')
    (hne : slashes ≠ []) {c : Char} (hc : (dir ++ slashes).getLast? = some c) : c = '/' := by
  rw [List.getLast?_append, List.getLast?_eq_some_getLast hne] at hc
  rw [← Option.some.inj hc]
  exact hslashes _ (List.getLast_mem hne)

/-- The last name of a path comes off first. -/
theorem dropEnd_name {head name : List Char} (hhead : ∀ c ∈ head.getLast?, c = '/')
    (hname : '/' ∉ name) :
    dropEnd (· != '/') (head ++ name) = head := by
  refine dropEnd_append (fun c hc => ?_) fun c hc => ?_
  · rw [hhead c hc]
    rfl
  · exact bne_iff_ne.mpr fun he => hname (he ▸ hc)

/-- **The rules give the parent** that is computed. -/
theorem IsParent.parent_eq {path up : List Char} (h : IsParent path up) : parent path = up := by
  cases h with
  | @root _ name hslashes hname =>
    have hhead := dropEnd_name (fun c hc => hslashes c (List.mem_of_getLast? hc)) hname
    have hall : up.all (· == '/') = true :=
      List.all_eq_true.mpr fun c hc => beq_iff_eq.mpr (hslashes c hc)
    rw [parent, hhead]
    exact if_pos hall
  | @below _ slashes name last hlast hdir hne hslashes hname =>
    have hhead := dropEnd_name (fun c hc => eq_slash_of_getLast? up hslashes hne hc) hname
    have hall : ¬ (up ++ slashes).all (· == '/') = true := by
      intro hall
      have hmem : last ∈ up ++ slashes := List.mem_append_left _ (List.mem_of_getLast? hlast)
      exact hdir (beq_iff_eq.mp (List.all_eq_true.mp hall last hmem))
    have hstrip : dropEnd (· == '/') (up ++ slashes) = up := by
      refine dropEnd_append (fun c hc => ?_) fun c hc => beq_iff_eq.mpr (hslashes c hc)
      rw [Option.mem_def, hlast] at hc
      rw [← Option.some.inj hc]
      exact beq_eq_false_iff_ne.mpr hdir
    rw [parent, hhead]
    exact (if_neg hall).trans hstrip

/-- **Every path has a parent** by the rules. -/
theorem isParent_parent (path : List Char) : IsParent path (parent path) := by
  obtain ⟨name, hpath, hnames, hhead⟩ := exists_dropEnd (· != '/') path
  have hname : '/' ∉ name := fun hmem => absurd (hnames _ hmem) (by decide)
  show IsParent path (if (dropEnd (· != '/') path).all (· == '/') then _ else _)
  generalize dropEnd (· != '/') path = head at hpath hhead ⊢
  subst hpath
  -- either nothing but slashes stands before the last name, or they come off
  by_cases hall : head.all (· == '/') = true
  · rw [if_pos hall]
    exact .root (fun c hc => beq_iff_eq.mp (List.all_eq_true.mp hall c hc)) hname
  · rw [if_neg hall]
    obtain ⟨slashes, hsplit, hslashes, hdir⟩ := exists_dropEnd (· == '/') head
    generalize dropEnd (· == '/') head = dir at hsplit hdir ⊢
    subst hsplit
    have hslashes : ∀ c ∈ slashes, c = '/' := fun c hc => beq_iff_eq.mp (hslashes c hc)
    cases hlast : dir.getLast? with
    | none =>
      -- then there is nothing but slashes after all
      rw [List.getLast?_eq_none_iff.mp hlast, List.nil_append] at hall
      exact absurd (List.all_eq_true.mpr fun c hc => beq_iff_eq.mpr (hslashes c hc)) hall
    | some last =>
      have hother : last ≠ '/' := beq_eq_false_iff_ne.mp (hdir last hlast)
      have hne : slashes ≠ [] := by
        rintro rfl
        rw [List.append_nil] at hhead
        exact absurd (hhead last hlast) (by simpa using hother)
      exact .below hlast hother hne hslashes hname

/-- **The parent** of a path is the one by the rules. -/
theorem isParent_iff {path up : List Char} : IsParent path up ↔ parent path = up := by
  constructor
  · exact IsParent.parent_eq
  · rintro rfl
    exact isParent_parent path

/-- Paths that are **their own parents** are made of slashes. -/
theorem isParent_self_iff {path : List Char} : IsParent path path ↔ ∀ c ∈ path, c = '/' := by
  have hself : ∀ {path up : List Char}, IsParent path up → path = up → ∀ c ∈ up, c = '/' := by
    intro path up h hsame
    cases h with
    | root hslashes _ => exact hslashes
    | below _ _ hne _ _ =>
      -- no slash would be left to come off
      rw [List.append_assoc, List.append_right_eq_self] at hsame
      exact absurd (List.append_eq_nil_iff.mp hsame).1 hne
  constructor
  · intro h
    exact hself h rfl
  · intro h
    have hroot := IsParent.root h (List.not_mem_nil (a := '/'))
    rw [List.append_nil] at hroot
    exact hroot

/-! ## The ascent -/

/-- **The ascent** from a path: the paths below the top, from the path itself upwards, and the
    top, which is its own parent. -/
inductive Ascent : List Char → List (List Char) → List Char → Prop where
  | top {path : List Char} (h : IsParent path path) : Ascent path [] path
  | up {path next top : List Char} {below : List (List Char)} (h : IsParent path next)
    (hne : next ≠ path)
    (rest : Ascent next below top) : Ascent path (path :: below) top

theorem exists_ascent (path : List Char) : ∃ below top, Ascent path below top := by
  by_cases h : parent path = path
  · exact ⟨[], path, .top (isParent_iff.mpr h)⟩
  · obtain ⟨below, top, hrest⟩ := exists_ascent (parent path)
    exact ⟨path :: below, top, .up (isParent_parent path) h hrest⟩
termination_by path.length
decreasing_by exact length_parent_lt h

section Ascent

variable {path top : List Char} {below : List (List Char)}

theorem Ascent.unique (h : Ascent path below top) {below' : List (List Char)} {top' : List Char}
    (h' : Ascent path below' top') : below = below' ∧ top = top' := by
  induction h generalizing below' top' with
  | top h =>
    cases h' with
    | top _ => exact ⟨rfl, rfl⟩
    | up h' hne _ => exact absurd (h'.parent_eq.symm.trans h.parent_eq) hne
  | @up path next top below h hne _ ih =>
    cases h' with
    | top h' => exact absurd (h.parent_eq.symm.trans h'.parent_eq) hne
    | @up _ next' _ _ h' _ rest' =>
      have hnext : next' = next := h'.parent_eq.symm.trans h.parent_eq
      subst hnext
      obtain ⟨rfl, rfl⟩ := ih rest'
      exact ⟨rfl, rfl⟩

/-- The top is made of slashes, or empty. -/
theorem Ascent.top_slashes (h : Ascent path below top) : ∀ c ∈ top, c = '/' := by
  induction h with
  | top h => exact isParent_self_iff.mp h
  | up _ _ _ ih => exact ih

/-- **The ascent is no longer than the path**, since every step up makes it shorter. -/
theorem Ascent.length_le (h : Ascent path below top) : below.length ≤ path.length := by
  induction h with
  | top _ => exact Nat.zero_le _
  | @up path next _ _ h hne _ ih =>
    have hlt : next.length < path.length := by
      rw [← h.parent_eq]
      exact length_parent_lt (h.parent_eq ▸ hne)
    rw [List.length_cons]
    omega

/-! ## The search -/

/-- **A marked path**: the marker exists in it. -/
def isMarked (hasPath : String → Bool) (path : List Char) : Bool :=
  hasPath (join (String.ofList path) marker)

/-- **The search goes through the paths below the top.**  By induction on the ascent: it takes the
    same steps. -/
theorem Ascent.findRoot?_eq (h : Ascent path below top) (hasPath : String → Bool) :
    findRoot? hasPath path = below.find? (isMarked hasPath) := by
  induction h with
  | top h => rw [findRoot?, if_pos h.parent_eq, List.find?_nil]
  | @up path next top below h hne _ ih =>
    have hup : parent path = next := h.parent_eq
    rw [findRoot?, hup, if_neg hne, ih, List.find?_cons]
    show (if isMarked hasPath path = true then _ else _) = _
    cases isMarked hasPath path <;> rfl

end Ascent

theorem projectRoot_eq_ok_iff {hasPath : String → Bool} {start path : String} :
    projectRoot hasPath start = .ok path ↔ findRoot? hasPath start.toList = some path.toList := by
  rw [projectRoot]
  cases findRoot? hasPath start.toList with
  | none => simp
  | some root =>
    constructor
    · intro h
      rw [← Except.ok.inj h, String.toList_ofList]
    · intro h
      show Except.ok (String.ofList root) = _
      rw [Option.some.inj h, String.ofList_toList]

theorem projectRoot_eq_error_iff {hasPath : String → Bool} {start why : String} :
    projectRoot hasPath start = .error why ↔
      why = noRootMessage ∧ findRoot? hasPath start.toList = none := by
  rw [projectRoot]
  cases findRoot? hasPath start.toList with
  | none => simp [eq_comm]
  | some root => simp

/-- **The search is exact over a list of paths**: it gives the first that is marked, and fails,
    with the message for it, exactly if none is. -/
structure ExactOver (hasPath : String → Bool) (start : String)
    (paths : List (List Char)) : Prop where
  found : ∀ path : String,
    projectRoot hasPath start = .ok path ↔ paths.find? (isMarked hasPath) = some path.toList
  missing : ∀ why,
    projectRoot hasPath start = .error why ↔ why = noRootMessage ∧ ∀ path ∈ paths,
    isMarked hasPath path = false

theorem exactOver_iff {hasPath : String → Bool} {start : String} {paths : List (List Char)} :
    ExactOver hasPath start paths ↔
      findRoot? hasPath start.toList = paths.find? (isMarked hasPath) := by
  constructor
  · intro h
    refine Option.ext fun path => ?_
    have hpath := h.found (String.ofList path)
    rw [projectRoot_eq_ok_iff, String.toList_ofList] at hpath
    exact hpath
  · intro h
    refine ⟨fun path => ?_, fun why => ?_⟩
    · rw [projectRoot_eq_ok_iff, h]
    · rw [projectRoot_eq_error_iff, h, List.find?_eq_none]
      simp only [Bool.not_eq_true]

/-- One more path at the end makes no difference to what is found first, unless it alone is
    marked. -/
theorem find?_eq_find?_concat_iff {p : List Char → Bool} {below : List (List Char)}
    {top : List Char} :
    below.find? p = (below ++ [top]).find? p ↔ (p top = true → ∃ path ∈ below, p path = true) := by
  rw [List.find?_append, List.find?_singleton]
  cases hbelow : below.find? p with
  | some path =>
    have hmarked : ∃ path ∈ below, p path = true :=
      ⟨path, List.mem_of_find?_eq_some hbelow, List.find?_some hbelow⟩
    simp [hmarked]
  | none =>
    have hnone : ¬ ∃ path ∈ below, p path = true := by
      rintro ⟨path, hmem, hpath⟩
      exact List.find?_eq_none.mp hbelow path hmem hpath
    simp [hnone]

/-- **The search for the project root misses the top, and only the top.**  There is one ascent
    from every start, it ends at slashes or nothing, and has no more steps than the start has
    characters.  The search is exact over the paths below the top.  It is exact over the whole
    ascent as well unless the top alone is marked. -/
theorem root_search_misses_top (hasPath : String → Bool) (start : String) :
    ∃ below top, (∀ below' top', Ascent start.toList below' top' ↔ below' = below ∧ top' = top) ∧
      (∀ c ∈ top, c = '/') ∧ below.length ≤ start.toList.length ∧ ExactOver hasPath start below ∧
      (ExactOver hasPath start (below ++ [top]) ↔
        (isMarked hasPath top = true → ∃ path ∈ below, isMarked hasPath path = true)) := by
  obtain ⟨below, top, hascent⟩ := exists_ascent start.toList
  have hsearch := hascent.findRoot?_eq hasPath
  refine ⟨below, top, fun below' top' => ⟨fun h => h.unique hascent, ?_⟩, hascent.top_slashes,
    hascent.length_le, exactOver_iff.mpr hsearch, ?_⟩
  · rintro ⟨rfl, rfl⟩
    exact hascent
  · rw [exactOver_iff, hsearch]
    exact find?_eq_find?_concat_iff

/-- **The top is missed**: from `lib`, with the marker in the working directory, the ascent goes
    through `lib` to the empty path.  That is marked, but nothing is found. -/
theorem marked_top_missed :
    Ascent ['l', 'i', 'b'] [['l', 'i', 'b']] [] ∧ isMarked (· == "app.py") [] = true ∧
      projectRoot (· == "app.py") "lib" = .error noRootMessage ∧
      ¬ ExactOver (· == "app.py") "lib" [['l', 'i', 'b'], []] := by
  have hparent : IsParent ['l', 'i', 'b'] [] := isParent_iff.mpr (by decide)
  have htop : IsParent [] [] := isParent_iff.mpr (by decide)
  have hascent : Ascent ['l', 'i', 'b'] [['l', 'i', 'b']] [] :=
    .up hparent (List.cons_ne_nil _ _).symm (.top htop)
  have hmarked : isMarked (· == "app.py") [] = true := by decide +kernel
  have hsearch : findRoot? (· == "app.py") "lib".toList = none := by
    have hstart : "lib".toList = ['l', 'i', 'b'] := by decide
    rw [hstart, hascent.findRoot?_eq]
    decide +kernel
  refine ⟨hascent, hmarked, projectRoot_eq_error_iff.mpr ⟨rfl, hsearch⟩, ?_⟩
  rw [exactOver_iff, hsearch]
  decide +kernel

end HomeScenes.Path
