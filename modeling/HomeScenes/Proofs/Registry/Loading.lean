import HomeScenes.Proofs.Json.Limits
import HomeScenes.Proofs.Registry.Restart

/-!
# What a file of records is loaded as

  A file may hold any bytes.  Those of a JSON list stand for the deployments among its items, in
  their order, and all others for none: that is what loading is *meant* to give (`Meant`), and
  every file means something (`exists_meant`).  Whether a text is a JSON list does not depend on
  the limits of the reader (`Json.Denotes`).

  Loading gives just that, or it fails.  It fails on three classes of files, each with a failure
  of its own (`Fatal`): bytes that are no UTF-8 text, a text that the reader refuses, and a single
  null, truth value or number.  On every other file it succeeds and gives what is meant
  (`load_fails_iff_fatal`).  Files of the first class and the last mean no deployments; a file
  that the reader refuses may mean any.

  The crux is `deploymentsIn_of_iterate`: the keys of an object and the characters of a text are
  gone through like the items of a list, but a deployment is an object, so nothing is found among
  them.
-/

namespace HomeScenes

/-! ## Bytes and texts -/

/-- Bytes decode to a text exactly if they are its encoding. -/
theorem fromUTF8?_eq_some_iff {bytes : ByteArray} {s : String} :
    String.fromUTF8? bytes = some s ↔ s.toUTF8 = bytes := by
  rw [String.fromUTF8?]
  constructor
  · intro h
    split at h
    · rw [← Option.some.inj h]; rfl
    · cases h
  · rintro rfl
    exact dif_pos s.isValidUTF8

/-- A text that was encoded is there again. -/
theorem Contents.ofBytes_toUTF8 (s : String) : Contents.ofBytes s.toUTF8 = .text s := by
  rw [ofBytes, fromUTF8?_eq_some_iff.mpr rfl]

theorem Contents.ofBytes_of_forall_ne {bytes : ByteArray} (h : ∀ s : String, s.toUTF8 ≠ bytes) :
    Contents.ofBytes bytes = .undecodable := by
  cases hs : String.fromUTF8? bytes with
  | none => rw [ofBytes, hs]
  | some s => exact absurd (fromUTF8?_eq_some_iff.mp hs) (h s)

/-- Values that have no parts to go through. -/
def Value.isScalar : Value → Bool
  | .null | .bool _ | .int _ | .float _ => true
  | _ => false

/-- Null, truth values and numbers cannot be iterated, and they alone. -/
theorem Controller.iterate_eq_error_iff {v got : Value} :
    iterate v = .error got ↔ v.isScalar = true ∧ got = v := by
  cases v <;> simp [iterate, Value.isScalar, eq_comm]

namespace Registry

/-! ## What loading is meant to give -/

/-- **The deployments among values**, in their order; a value that is none is passed over. -/
inductive Extracted : List Value → List Deployment → Prop where
  | nil : Extracted [] []
  | keep {v : Value} {d : Deployment} {vs : List Value} {ds : List Deployment}
    (h : Deployment.read v = .good d) (rest : Extracted vs ds) : Extracted (v :: vs) (d :: ds)
  | skip {v : Value} {vs : List Value} {ds : List Deployment}
    (h : ∀ d, Deployment.read v ≠ .good d) (rest : Extracted vs ds) : Extracted (v :: vs) ds

/-- **What a file is meant to be loaded as**, by its bytes: the deployments of a JSON list, and
    nothing if the bytes are those of no JSON list.  A list that the reader refuses is a list all
    the same. -/
inductive Meant (bytes : ByteArray) : List Deployment → Prop where
  | items {s : String} {items : List Value} {ds : List Deployment} (hs : s.toUTF8 = bytes)
    (hdenotes : Json.Denotes s (.list items)) (h : Extracted items ds) : Meant bytes ds
  | nothing (h : ∀ (s : String) (items : List Value), s.toUTF8 = bytes →
      ¬ Json.Denotes s (.list items)) : Meant bytes []

/-- **The files that stop loading**, and how. -/
inductive Fatal [Stack] (bytes : ByteArray) : LoadFailure → Prop where
  | undecodable (h : ∀ s : String, s.toUTF8 ≠ bytes) : Fatal bytes .undecodable
  | refused {s : String} {why : Json.Error} (hs : s.toUTF8 = bytes)
    (hread : Json.read s = .error why) (hwhy : why ≠ .malformed) : Fatal bytes (.unreadable why)
  | scalar {s : String} {v : Value} (hs : s.toUTF8 = bytes) (hread : Json.read s = .ok v)
    (hv : v.isScalar = true) : Fatal bytes (.notIterable v)

/-! ## The deployments among values -/

/-- A value that is read counts. -/
theorem deploymentsIn_cons_good {v : Value} {d : Deployment} (h : Deployment.read v = .good d)
    (vs : List Value) : deploymentsIn (v :: vs) = d :: deploymentsIn vs := by
  rw [deploymentsIn, List.filterMap_cons_some]
  · rfl
  · rw [h]

/-- A value that is not read is passed over. -/
theorem deploymentsIn_cons_bad {v : Value} (h : ∀ d, Deployment.read v ≠ .good d)
    (vs : List Value) :
    deploymentsIn (v :: vs) = deploymentsIn vs := by
  rw [deploymentsIn, List.filterMap_cons_none]
  · rfl
  · cases hv : Deployment.read v with
    | good d => exact absurd hv (h d)
    | bad issues => rfl

/-- What is extracted is determined by the values. -/
theorem extracted_iff {vs : List Value} {ds : List Deployment} :
    Extracted vs ds ↔ ds = deploymentsIn vs := by
  constructor
  · intro h
    induction h with
    | nil => rfl
    | keep h _ ih => rw [deploymentsIn_cons_good h, ih]
    | skip h _ ih => rw [deploymentsIn_cons_bad h, ih]
  · rintro rfl
    induction vs with
    | nil => exact .nil
    | cons v vs ih =>
      by_cases h : ∃ d, Deployment.read v = .good d
      · obtain ⟨d, hd⟩ := h
        rw [deploymentsIn_cons_good hd]
        exact .keep hd ih
      · have hbad : ∀ d, Deployment.read v ≠ .good d := fun d hd => h ⟨d, hd⟩
        rw [deploymentsIn_cons_bad hbad]
        exact .skip hbad ih

/-- No text is a deployment. -/
theorem deploymentsIn_texts (texts : List String) : deploymentsIn (texts.map Value.text) = [] := by
  induction texts with
  | nil => rfl
  | cons s rest ih =>
    have hbad : ∀ d, Deployment.read (.text s) ≠ .good d := fun d h => by cases h
    rw [List.map_cons, deploymentsIn_cons_bad hbad, ih]

/-- Only **a list** has deployments among what is gone through. -/
theorem deploymentsIn_of_iterate {v : Value} {values : List Value}
    (h : Controller.iterate v = .ok values)
    (hlist : ∀ items, v ≠ .list items) : deploymentsIn values = [] := by
  cases v with
  | list items => exact absurd rfl (hlist items)
  | object fields =>
    rw [← Except.ok.inj h]
    have htexts := deploymentsIn_texts (fields.map Prod.fst)
    rw [List.map_map] at htexts
    exact htexts
  | text s =>
    rw [← Except.ok.inj h]
    have htexts := deploymentsIn_texts (s.toList.map Char.toString)
    rw [List.map_map] at htexts
    exact htexts
  | null | bool | int | float => cases h

/-! ## Files by their bytes -/

/-- A file with some bytes in it. -/
def fileOf (bytes : ByteArray) (obstacle : Option Obstacle) : Disk :=
  ⟨some (.ofBytes bytes), obstacle⟩

theorem fileOf_toUTF8 (s : String) (obstacle : Option Obstacle) :
    fileOf s.toUTF8 obstacle = ⟨some (.text s), obstacle⟩ := by
  rw [fileOf, Contents.ofBytes_toUTF8]

/-- **Every file means something.** -/
theorem exists_meant (bytes : ByteArray) : ∃ ds, Meant bytes ds := by
  by_cases h : ∃ (s : String) (items : List Value), s.toUTF8 = bytes ∧ Json.Denotes s (.list items)
  · obtain ⟨s, items, hs, hdenotes⟩ := h
    exact ⟨_, .items hs hdenotes (extracted_iff.mpr rfl)⟩
  · exact ⟨[], .nothing fun s items hs hdenotes => h ⟨s, items, hs, hdenotes⟩⟩

/-- **A file means one thing** only. -/
theorem Meant.unique {bytes : ByteArray} {ds ds' : List Deployment} (h : Meant bytes ds)
    (h' : Meant bytes ds') : ds = ds' := by
  cases h with
  | @items s vs _ hs hdenotes hds =>
    cases h' with
    | @items t ws _ ht hdenotes' hds' =>
      obtain rfl : s = t := String.toByteArray_inj.mp (hs.trans ht.symm)
      obtain rfl : vs = ws := Value.list.inj (hdenotes.unique hdenotes')
      rw [extracted_iff.mp hds, extracted_iff.mp hds']
    | nothing h => exact absurd hdenotes (h _ _ hs)
  | nothing h =>
    cases h' with
    | items hs hdenotes _ => exact absurd hdenotes (h _ _ hs)
    | nothing => rfl

section Outcomes

variable [Stack] {bytes : ByteArray} {obstacle : Option Obstacle}

/-- **A fatal file** stops loading. -/
theorem savedDeployments_of_fatal {why : LoadFailure} (h : Fatal bytes why) :
    savedDeployments (fileOf bytes obstacle) = .error why := by
  cases h with
  | undecodable h =>
    rw [savedDeployments, savedValues, fileOf, Contents.ofBytes_of_forall_ne h]; rfl
  | @refused s why hs hread hwhy =>
    subst hs
    cases why with
    | malformed => exact absurd rfl hwhy
    | tooLong | tooDeep =>
      simp only [savedDeployments, savedValues, fileOf_toUTF8, hread, Except.map]
  | scalar hs hread hv =>
    subst hs
    have hiterate := Controller.iterate_eq_error_iff.mpr ⟨hv, rfl⟩
    simp only [savedDeployments, savedValues, fileOf_toUTF8, hread, hiterate, Except.map]

/-- A text of something else than a list means nothing. -/
theorem meant_nil_of_read {s : String} {v : Value} (hread : Json.read s = .ok v)
    (hlist : ∀ items, v ≠ .list items) : Meant s.toUTF8 [] := by
  refine .nothing fun t items ht hdenotes => hlist items ?_
  obtain rfl : t = s := String.toByteArray_inj.mp ht
  exact (Json.denotes_of_read hread).unique hdenotes

/-- What a text that is read means, by what iterating its value gives. -/
theorem meant_of_read {s : String} {v : Value} {values : List Value} (hread : Json.read s = .ok v)
    (hvalues : Controller.iterate v = .ok values) : Meant s.toUTF8 (deploymentsIn values) := by
  by_cases hlist : ∃ items, v = .list items
  · obtain ⟨items, rfl⟩ := hlist
    rw [← Except.ok.inj hvalues]
    exact .items rfl (Json.denotes_of_read hread) (extracted_iff.mpr rfl)
  · have hother : ∀ items, v ≠ .list items := fun items hv => hlist ⟨items, hv⟩
    rw [deploymentsIn_of_iterate hvalues hother]
    exact meant_nil_of_read hread hother

/-- **Any other file** is loaded as it is meant to be. -/
theorem fatal_or_meant (bytes : ByteArray) (obstacle : Option Obstacle) :
    (∃ why, Fatal bytes why) ∨
      ∃ ds, savedDeployments (fileOf bytes obstacle) = .ok ds ∧ Meant bytes ds := by
  by_cases hs : ∃ s : String, s.toUTF8 = bytes
  · obtain ⟨s, rfl⟩ := hs
    cases hread : Json.read s with
    | error why =>
      by_cases hwhy : why = .malformed
      · rw [hwhy] at hread
        refine Or.inr ⟨[], ?_, .nothing fun t items ht => ?_⟩
        · simp only [savedDeployments, savedValues, fileOf_toUTF8, hread, Except.map]
          rfl
        · obtain rfl : t = s := String.toByteArray_inj.mp ht
          exact Json.not_denotes_of_malformed hread
      · exact Or.inl ⟨_, .refused rfl hread hwhy⟩
    | ok v =>
      cases hvalues : Controller.iterate v with
      | error got =>
        exact Or.inl ⟨_, .scalar rfl hread (Controller.iterate_eq_error_iff.mp hvalues).1⟩
      | ok values =>
        refine Or.inr ⟨deploymentsIn values, ?_, meant_of_read hread hvalues⟩
        simp only [savedDeployments, savedValues, fileOf_toUTF8, hread, hvalues, Except.map]
  · exact Or.inl ⟨_, .undecodable fun s h => hs ⟨s, h⟩⟩

/-- **Loading fails** exactly on fatal files. -/
theorem savedDeployments_eq_error_iff {why : LoadFailure} :
    savedDeployments (fileOf bytes obstacle) = .error why ↔ Fatal bytes why := by
  refine ⟨fun h => ?_, savedDeployments_of_fatal⟩
  rcases fatal_or_meant bytes obstacle with ⟨why', hfatal⟩ | ⟨ds, hds, _⟩
  · obtain rfl : why' = why := Except.error.inj ((savedDeployments_of_fatal hfatal).symm.trans h)
    exact hfatal
  · rw [hds] at h
    cases h

/-- **Loading gives** what the file means, unless it is fatal. -/
theorem savedDeployments_eq_ok_iff {ds : List Deployment} :
    savedDeployments (fileOf bytes obstacle) = .ok ds ↔
      (∀ why, ¬ Fatal bytes why) ∧ Meant bytes ds := by
  rcases fatal_or_meant bytes obstacle with ⟨why, hfatal⟩ | ⟨ds', hds', hmeant⟩
  · rw [savedDeployments_of_fatal hfatal]
    constructor
    · intro h
      cases h
    · rintro ⟨hnone, _⟩
      exact absurd hfatal (hnone why)
  · constructor
    · intro h
      obtain rfl : ds' = ds := Except.ok.inj (hds'.symm.trans h)
      refine ⟨fun why hfatal => ?_, hmeant⟩
      rw [savedDeployments_of_fatal hfatal] at h
      cases h
    · rintro ⟨_, h⟩
      rw [hds', hmeant.unique h]

/-- **A fatal file** means no deployments, unless it is one that the reader refuses. -/
theorem Fatal.meant_nil {why : LoadFailure} (h : Fatal bytes why)
    (hread : ∀ refusal, why ≠ .unreadable refusal) : Meant bytes [] := by
  cases h with
  | undecodable hnone => exact .nothing fun s _ hs => absurd hs (hnone s)
  | @refused _ refusal _ _ _ => exact absurd rfl (hread refusal)
  | scalar hs hv hscalar =>
    subst hs
    refine meant_nil_of_read hv fun items hlist => ?_
    rw [hlist] at hscalar
    cases hscalar

/-- Recording never fails, so loading fails as reading the file does. -/
theorem load_eq_error_iff {registry : Registry} {why : LoadFailure} :
    registry.load = .error why ↔ savedDeployments registry.disk = .error why := by
  rw [load]
  cases savedDeployments registry.disk with
  | error why => simp [Except.map]
  | ok ds => simp [Except.map]

/-- **Loading fails exactly on fatal files.**  Whatever bytes a file holds, it means one list of
    deployments.  Unless the file is fatal these are the deployments saved in it, and a registry
    that is started on the file takes them in one after the other.  The start fails on a fatal
    file, although it means no deployments at all if it is not the reader that refuses it. -/
theorem load_fails_iff_fatal (bytes : ByteArray) (obstacle : Option Obstacle)
    (registry : Registry) :
    let start : Registry := { registry with disk := fileOf bytes obstacle }
    ∃ ds, (∀ other, Meant bytes other ↔ other = ds) ∧
      (∀ saved, savedDeployments start.disk = .ok saved ↔
        (∀ why, ¬ Fatal bytes why) ∧ saved = ds) ∧
      (∀ loaded, start.load = .ok loaded ↔
        (∀ why, ¬ Fatal bytes why) ∧ loaded = ds.foldl record start) ∧
      ∀ why, (savedDeployments start.disk = .error why ↔ Fatal bytes why) ∧
        (start.load = .error why ↔ Fatal bytes why) ∧
        (Fatal bytes why → (∀ refusal, why ≠ .unreadable refusal) → ds = []) := by
  intro start
  obtain ⟨ds, hds⟩ := exists_meant bytes
  have hmeant : ∀ other, Meant bytes other ↔ other = ds :=
    fun other => ⟨fun h => h.unique hds, fun h => by rw [h]; exact hds⟩
  have hsaved : ∀ saved, savedDeployments start.disk = .ok saved ↔
      (∀ why, ¬ Fatal bytes why) ∧ saved = ds := by
    intro saved
    rw [← hmeant]
    exact savedDeployments_eq_ok_iff
  refine ⟨ds, hmeant, hsaved, fun loaded => ?_, fun why => ⟨savedDeployments_eq_error_iff, ?_, ?_⟩⟩
  · rw [load_eq_ok_iff]
    constructor
    · rintro ⟨saved, h, rfl⟩
      obtain ⟨hnone, rfl⟩ := (hsaved saved).mp h
      exact ⟨hnone, rfl⟩
    · rintro ⟨hnone, rfl⟩
      exact ⟨ds, (hsaved ds).mpr ⟨hnone, rfl⟩, rfl⟩
  · rw [load_eq_error_iff]
    exact savedDeployments_eq_error_iff
  · intro hfatal hread
    exact ((hmeant []).mp (hfatal.meant_nil hread)).symm

end Outcomes

section

open scoped Stack

/-- **A start that fails**: a file that holds `null`, or a byte that is in no UTF-8 text, means no
    deployments, but is not loaded. -/
theorem null_file_fails :
    Meant "null".toUTF8 [] ∧
      savedDeployments (fileOf "null".toUTF8 none) = .error (.notIterable .null) ∧
      Meant ⟨#[0xff]⟩ [] ∧ savedDeployments (fileOf ⟨#[0xff]⟩ none) = .error .undecodable := by
  have hnull : Fatal "null".toUTF8 (.notIterable .null) :=
    .scalar rfl (ok_of_toOption_eq_some rfl) rfl
  have hbyte : Fatal ⟨#[0xff]⟩ .undecodable := by
    refine .undecodable fun s hs => ?_
    have hcontents : Contents.ofBytes ⟨#[0xff]⟩ = .undecodable := by decide +kernel
    rw [← hs, Contents.ofBytes_toUTF8] at hcontents
    cases hcontents
  exact ⟨hnull.meant_nil nofun, savedDeployments_of_fatal hnull, hbyte.meant_nil nofun,
    savedDeployments_of_fatal hbyte⟩

end

end Registry
end HomeScenes
