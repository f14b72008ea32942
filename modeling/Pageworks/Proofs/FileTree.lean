import Mathlib.Data.List.Infix
import Pageworks.FileTree
import Pageworks.Proofs.Location

/-!
# File trees as maps from places

A file tree is used as a list of entries but meant as a map from places to entries, where every
entry stands in a directory.  Files of the output directory are written, kept and removed without
disturbing anything else, so working with them comes down to a change at one place.

## Main definitions

* `FileTree.WellFormed` — every entry has a proper name and stands in a directory.
* `FileTree.FileName` — a file can have the name.
* `FileTree.Passable` — names lead on from a place, through directories.
* `FileTree.Alters t t' p e` — the trees agree everywhere but at one place without a directory.
* `FileTree.Adds t t' p bytes` — the second tree is the first with one more file.
* `FileTree.Ready` — the output directory is there and can be worked in.

## Main results

* `FileTree.Ready.write`, `FileTree.Ready.unlink` — **writing and removing a file alter one
  place.**
* `FileTree.WellFormed.alters` — what keeps a tree well formed.
* `FileTree.look_congr` — what is looked up depends on what is at one place, and on directories.
* `FileTree.ready_of_makeDirectory` — once made, the output directory is ready.
* `FileTree.Ready.makeDirectory_eq` — nothing is made where the directory is there already.
-/

namespace Pageworks.FileTree

variable {t t' : FileTree} {p q : Place} {e : Option Entry}

/-! ### What is at a place -/

theorem entry?_nil (t : FileTree) : t.entry? [] = some .directory := rfl

theorem entry?_of_ne_nil (hp : p ≠ []) : t.entry? p = t.entries.lookup p := by
  rw [FileTree.entry?, if_neg (by simpa using hp)]

theorem isFile_iff : t.isFile p = true ↔ ∃ bytes, t.entry? p = some (.file bytes) := by
  rw [isFile]
  split
  · next bytes h => exact ⟨fun _ => ⟨bytes, h⟩, fun _ => rfl⟩
  · next h => exact ⟨fun h => (by cases h), fun ⟨bytes, hb⟩ => absurd hb (h bytes)⟩

private theorem lookup_filter {es : List (Place × Entry)} (f : Place → Bool) (q : Place) :
    (es.filter fun x => f x.1).lookup q = if f q then es.lookup q else none := by
  induction es with
  | nil => simp
  | cons x es ih =>
    rw [List.filter_cons, List.lookup_cons]
    by_cases hqx : q = x.1
    · rw [hqx, beq_self_eq_true]
      by_cases hf : f x.1 = true
      · rw [if_pos hf, if_pos hf, List.lookup_cons, beq_self_eq_true]
      · rw [if_neg hf, if_neg hf, ← hqx, ih, hqx, if_neg hf]
    · rw [beq_eq_false_iff_ne.mpr hqx, ← ih]
      by_cases hf : f x.1 = true
      · rw [if_pos hf, List.lookup_cons, beq_eq_false_iff_ne.mpr hqx]
      · rw [if_neg hf]

theorem entry?_put (hp : p ≠ []) (e : Entry) (q : Place) :
    FileTree.entry? (t.put p e) q = if q = p then some e else t.entry? q := by
  by_cases hq : q = []
  · rw [hq, if_neg hp.symm, entry?_nil, entry?_nil]
  · rw [entry?_of_ne_nil hq, entry?_of_ne_nil hq, put]
    by_cases hqp : q = p
    · rw [if_pos hqp, hqp, List.lookup_cons_self]
    · rw [if_neg hqp, List.lookup_cons, beq_eq_false_iff_ne.mpr hqp]
      exact (lookup_filter (fun x => x != p) q).trans (if_pos (bne_iff_ne.mpr hqp))

theorem entry?_erase (hp : p ≠ []) (q : Place) :
    FileTree.entry? (t.erase p) q = if p <+: q then none else t.entry? q := by
  by_cases hq : q = []
  · rw [hq, if_neg (by simpa using hp), entry?_nil, entry?_nil]
  · rw [entry?_of_ne_nil hq, entry?_of_ne_nil hq, erase, lookup_filter fun x => !p.isPrefixOf x]
    by_cases hpq : p <+: q
    · rw [if_pos hpq, if_neg (by simpa using hpq)]
    · rw [if_neg hpq, if_pos]
      rwa [Bool.not_eq_true', ← Bool.not_eq_true, List.isPrefixOf_iff_prefix]

/-! ### Well-formed trees -/

/-- Every entry has a proper name and stands in a directory. -/
structure WellFormed (t : FileTree) : Prop where
  names : ∀ p, (t.entry? p).isSome → ∀ n ∈ p, ProperName n
  parents : ∀ p n, (t.entry? (p ++ [n])).isSome → t.entry? p = some .directory

/-- All names on the way to a file are proper. -/
theorem WellFormed.proper_of_isFile (h : t.WellFormed) (hp : t.isFile p = true) :
    ∀ n ∈ p, ProperName n := by
  obtain ⟨bytes, hbytes⟩ := isFile_iff.mp hp
  exact h.names p (by rw [hbytes]; rfl)

/-- A tree can be checked entry by entry. -/
theorem wellFormed_of_entries
    (h : ∀ x ∈ t.entries, (∀ n ∈ x.1, ProperName n) ∧ t.entry? x.1.dropLast = some .directory) :
    t.WellFormed := by
  have hmem : ∀ p, p ≠ [] → (t.entry? p).isSome → ∃ x ∈ t.entries, x.1 = p := by
    intro p hp hsome
    obtain ⟨e, he⟩ := Option.isSome_iff_exists.mp hsome
    rw [entry?_of_ne_nil hp, List.lookup_eq_some_iff] at he
    obtain ⟨as, bs, hes, -⟩ := he
    exact ⟨(p, e), by rw [hes]; simp, rfl⟩
  refine ⟨?_, ?_⟩
  · intro p hsome
    by_cases hp : p = []
    · rw [hp]
      exact fun n hn => absurd hn List.not_mem_nil
    · obtain ⟨x, hx, rfl⟩ := hmem p hp hsome
      exact (h x hx).1
  · intro p n hsome
    obtain ⟨x, hx, hxp⟩ := hmem (p ++ [n]) (by simp) hsome
    have hdir := (h x hx).2
    rwa [hxp, List.dropLast_concat] at hdir

/-- What has something below it is a directory. -/
theorem WellFormed.directory_of_append (h : t.WellFormed) {r : Place} (hr : r ≠ [])
    (hsome : (t.entry? (p ++ r)).isSome) : t.entry? p = some .directory := by
  induction r using List.reverseRecOn with
  | nil => exact absurd rfl hr
  | append_singleton r n ih =>
    rw [← List.append_assoc] at hsome
    have hdir := h.parents _ _ hsome
    by_cases hnil : r = []
    · rwa [hnil, List.append_nil] at hdir
    · exact ih hnil (by rw [hdir]; rfl)

/-- What lies above a directory is one. -/
theorem WellFormed.directory_dropLast (h : t.WellFormed) (hp : t.entry? p = some .directory) :
    t.entry? p.dropLast = some .directory := by
  induction p using List.reverseRecOn with
  | nil => exact hp
  | append_singleton r n =>
    rw [List.dropLast_concat]
    exact h.parents _ _ (by rw [hp]; rfl)

/-! ### Changes at one place -/

/-- The trees agree everywhere but at one place, where no directory is. -/
structure Alters (t t' : FileTree) (p : Place) (e : Option Entry) : Prop where
  notDirectory : t.entry? p ≠ some .directory
  entry? : ∀ q, t'.entry? q = if q = p then e else t.entry? q

theorem Alters.directory (h : Alters t t' p e) (hq : t.entry? q = some .directory) :
    t'.entry? q = some .directory := by
  have hne : q ≠ p := by
    rintro rfl
    exact h.notDirectory hq
  rw [h.entry?, if_neg hne, hq]

theorem alters_put {f : Entry} (hp : t.entry? p ≠ some .directory) :
    Alters t (t.put p f) p (some f) := by
  refine ⟨hp, entry?_put ?_ f⟩
  rintro rfl
  exact hp (entry?_nil t)

/-- Below a place without a directory there is nothing that could vanish with it. -/
theorem alters_erase (h : t.WellFormed) (hp : t.entry? p ≠ some .directory) :
    Alters t (t.erase p) p none := by
  have hne : p ≠ [] := by
    rintro rfl
    exact hp (entry?_nil t)
  refine ⟨hp, fun q => ?_⟩
  rw [entry?_erase hne]
  by_cases hqp : q = p
  · rw [hqp, if_pos (List.prefix_refl p), if_pos rfl]
  · rw [if_neg hqp]
    by_cases hpq : p <+: q
    · -- below the place nothing was, or else there would be a directory at it
      obtain ⟨r, rfl⟩ := hpq
      have hr : r ≠ [] := by
        rintro rfl
        exact hqp (List.append_nil p)
      rw [if_pos ⟨r, rfl⟩]
      cases hsome : t.entry? (p ++ r) with
      | none => rfl
      | some f => exact absurd (h.directory_of_append hr (by rw [hsome]; rfl)) hp
    · rw [if_neg hpq]

/-- **A tree stays well formed** when an entry of a proper name in a directory changes. -/
theorem WellFormed.alters (h : t.WellFormed) {n : String} (hn : ProperName n)
    (hp : t.entry? p = some .directory) (ha : Alters t t' (p ++ [n]) e) : t'.WellFormed := by
  refine ⟨?_, ?_⟩
  · intro q hsome m hm
    by_cases hq : q = p ++ [n]
    · rw [hq] at hm
      rcases List.mem_append.mp hm with hm | hm
      · exact h.names p (by rw [hp]; rfl) m hm
      · rw [List.mem_singleton.mp hm]
        exact hn
    · rw [ha.entry?, if_neg hq] at hsome
      exact h.names q hsome m hm
  · intro q m hsome
    refine ha.directory ?_
    by_cases hq : q ++ [m] = p ++ [n]
    · rwa [(List.append_inj' hq rfl).1]
    · rw [ha.entry?, if_neg hq] at hsome
      exact h.parents q m hsome

/-! ### Following locations -/

/-- A file can have the name: it is proper and not too long. -/
structure FileName (n : String) : Prop extends ProperName n where
  short : n.utf8ByteSize ≤ maxNameBytes

instance (n : String) : Decidable (FileName n) :=
  decidable_of_iff (ProperName n ∧ n.utf8ByteSize ≤ maxNameBytes)
    ⟨fun ⟨h, hshort⟩ => ⟨h, hshort⟩, fun h => ⟨h.toProperName, h.short⟩⟩

/-- The names lead on from a place, through directories, and none is too long. -/
def Passable (t : FileTree) : Place → List String → Prop
  | _, [] => True
  | p, n :: ns =>
    t.entry? p = some .directory ∧ n.utf8ByteSize ≤ maxNameBytes ∧ t.Passable (p.follow n) ns

theorem passable_append {ms ns : List String} :
    t.Passable p (ms ++ ns) ↔ t.Passable p ms ∧ t.Passable (ms.foldl Place.follow p) ns := by
  induction ms generalizing p with
  | nil => exact (and_iff_right trivial).symm
  | cons m ms ih =>
    rw [List.cons_append, Passable, Passable, ih, List.foldl_cons, and_assoc, and_assoc]

theorem Passable.mono {ns : List String} (h : t.Passable p ns)
    (hdirs : ∀ q, t.entry? q = some .directory → t'.entry? q = some .directory) :
    t'.Passable p ns := by
  induction ns generalizing p with
  | nil => exact trivial
  | cons n ns ih => exact ⟨hdirs p h.1, h.2.1, ih h.2.2⟩

theorem step_eq_ok_iff {n : String} : t.step p n = .ok q ↔
    t.entry? p = some .directory ∧ n.utf8ByteSize ≤ maxNameBytes ∧ q = p.follow n := by
  rw [step]
  split
  · next h => simp [h]
  · next h => simp [h]
  · next h =>
    by_cases hlong : maxNameBytes < n.utf8ByteSize
    · rw [if_pos hlong]
      exact ⟨fun h => (by cases h), fun h => absurd h.2.1 (Nat.not_le.mpr hlong)⟩
    · rw [if_neg hlong, Except.ok.injEq]
      exact ⟨fun hq => ⟨h, Nat.not_lt.mp hlong, hq.symm⟩, fun hq => hq.2.2.symm⟩

theorem foldlM_step_eq_ok_iff {ns : List String} : ns.foldlM t.step p = .ok q ↔
    t.Passable p ns ∧ q = ns.foldl Place.follow p := by
  induction ns generalizing p with
  | nil =>
    rw [List.foldlM_nil, Passable, true_and]
    exact ⟨fun h => (Except.ok.inj h).symm, fun h => congrArg _ h.symm⟩
  | cons n ns ih =>
    rw [List.foldlM_cons, Passable, List.foldl_cons]
    constructor
    · intro h
      cases hstep : t.step p n with
      | error f => rw [hstep] at h; cases h
      | ok r =>
        rw [hstep] at h
        obtain ⟨hdir, hshort, rfl⟩ := step_eq_ok_iff.mp hstep
        obtain ⟨hpass, hq⟩ := ih.mp h
        exact ⟨⟨hdir, hshort, hpass⟩, hq⟩
    · rintro ⟨⟨hdir, hshort, hpass⟩, hq⟩
      rw [step_eq_ok_iff.mpr ⟨hdir, hshort, rfl⟩]
      exact ih.mpr ⟨hpass, hq⟩

/-- Where a location starts from. -/
def start (working : Place) (l : Location) : Place := if l.isAbsolute then [] else working

/-- A location can be followed where no name holds a zero character and all names lead on. -/
theorem locate_eq_ok_iff {working : Place} {l : Location} : t.locate working l = .ok p ↔
    l.holdsZero = false ∧ t.Passable (start working l) l.names ∧ p = l.place working := by
  rw [locate, Location.place]
  by_cases hzero : l.holdsZero = true
  · rw [if_pos hzero, hzero]
    exact ⟨fun h => (by cases h), fun h => absurd h.1 (by decide)⟩
  · rw [if_neg hzero, Bool.not_eq_true _ |>.mp hzero]
    exact foldlM_step_eq_ok_iff.trans (and_iff_right rfl).symm

/-- What is found at a location is what is at its place. -/
theorem entry?_of_look {working : Place} {l : Location} {f : Entry}
    (h : t.look working l = .ok (some f)) :
    t.Passable (start working l) l.names ∧ t.entry? (l.place working) = some f := by
  rw [look] at h
  split at h
  · next p hl =>
    obtain ⟨-, hpass, rfl⟩ := locate_eq_ok_iff.mp hl
    exact ⟨hpass, Except.ok.inj h⟩
  · cases h
  · cases h

/-- A location that can be followed still can be with more directories. -/
theorem locate_mono {working : Place} {l : Location} (h : t.locate working l = .ok p)
    (hdirs : ∀ q, t.entry? q = some .directory → t'.entry? q = some .directory) :
    t'.locate working l = .ok p := by
  obtain ⟨hzero, hpass, hp⟩ := locate_eq_ok_iff.mp h
  exact locate_eq_ok_iff.mpr ⟨hzero, hpass.mono hdirs, hp⟩

/-! ### One more file -/

/-- The second tree is the first with one more file. -/
structure Adds (t t' : FileTree) (p : Place) (bytes : List UInt8) : Prop where
  absent : t.entry? p = none
  alters : Alters t t' p (some (.file bytes))

section

variable {bytes : List UInt8}

/-- What was there is there. -/
theorem Adds.entry?_of_isSome (h : Adds t t' p bytes) (hq : (t.entry? q).isSome) :
    t'.entry? q = t.entry? q := by
  rw [h.alters.entry?, if_neg]
  rintro rfl
  rw [h.absent] at hq
  cases hq

end

/-! ### Trees with the same directories -/

section

variable (h : ∀ q, t'.entry? q = some .directory ↔ t.entry? q = some .directory)

include h

/-- Names lead through the same directories, or get stuck on the way in both trees. -/
private theorem foldlM_step_congr (ns : List String) (q : Place) :
    ns.foldlM t'.step q = ns.foldlM t.step q ∨
      (∃ f, ns.foldlM t.step q = .error f ∧ f ≠ .nameTooLong) ∧
        ∃ f, ns.foldlM t'.step q = .error f ∧ f ≠ .nameTooLong := by
  induction ns generalizing q with
  | nil => exact .inl rfl
  | cons n ns ih =>
    rw [List.foldlM_cons, List.foldlM_cons]
    by_cases hdir : t.entry? q = some .directory
    · have hstep : t'.step q n = t.step q n := by
        rw [step, step, (h q).mpr hdir, hdir]
      rw [hstep]
      cases t.step q n with
      | error f => exact .inl rfl
      | ok r => exact ih r
    · -- a step from anything but a directory fails
      have hfails : ∀ s : FileTree, s.entry? q ≠ some .directory →
          ∃ f, s.step q n = .error f ∧ f ≠ .nameTooLong := by
        intro s hs
        rw [step]
        split
        · exact ⟨_, rfl, fun h => by cases h⟩
        · exact ⟨_, rfl, fun h => by cases h⟩
        · next hd => exact absurd hd hs
      obtain ⟨f, hf, hlong⟩ := hfails t hdir
      obtain ⟨f', hf', hlong'⟩ := hfails t' (mt (h q).mp hdir)
      rw [hf, hf']
      exact .inr ⟨⟨f, rfl, hlong⟩, f', rfl, hlong'⟩

/-- What is looked up is what is at the place, in both trees, unless the way does not lead there. -/
theorem look_congr (working : Place) (l : Location) :
    (∃ f, t.look working l = .error f ∧ t'.look working l = .error f) ∨
      (t.look working l = .ok none ∧ t'.look working l = .ok none) ∨
      t.look working l = .ok (t.entry? (l.place working)) ∧
        t'.look working l = .ok (t'.entry? (l.place working)) := by
  rw [look, look, locate, locate]
  by_cases hzero : l.holdsZero = true
  · rw [if_pos hzero, if_pos hzero]
    exact .inr (.inl ⟨rfl, rfl⟩)
  · rw [if_neg hzero, if_neg hzero]
    rcases foldlM_step_congr h l.names (if l.isAbsolute then [] else working) with
      heq | ⟨⟨f, hf, hlong⟩, f', hf', hlong'⟩
    · rw [heq]
      cases hr : l.names.foldlM t.step (if l.isAbsolute then [] else working) with
      | error f =>
        cases f with
        | nameTooLong => exact .inl ⟨_, rfl, rfl⟩
        | _ => exact .inr (.inl ⟨rfl, rfl⟩)
      | ok r =>
        obtain ⟨-, rfl⟩ := foldlM_step_eq_ok_iff.mp hr
        exact .inr (.inr ⟨rfl, rfl⟩)
    · rw [hf, hf']
      refine .inr (.inl ⟨?_, ?_⟩)
      · cases f <;> first | rfl | exact absurd rfl hlong
      · cases f' <;> first | rfl | exact absurd rfl hlong'

end

/-! ### The output directory -/

/-- The tree is well formed, and the location leads to a directory in it. -/
structure Ready (t : FileTree) (working : Place) (l : Location) : Prop where
  wellFormed : t.WellFormed
  zeroFree : l.holdsZero = false
  passable : t.Passable (start working l) l.names
  directory : t.entry? (l.place working) = some .directory

section

variable {working : Place} {l : Location} {n : String}

theorem Ready.alters (h : t.Ready working l) (hn : ProperName n)
    (ha : Alters t t' (l.place working ++ [n]) e) : t'.Ready working l :=
  ⟨h.wellFormed.alters hn h.directory ha, h.zeroFree, h.passable.mono fun _ => ha.directory,
    ha.directory h.directory⟩

private theorem Ready.locate_join (h : t.Ready working l) (hzero : (l.join [n]).holdsZero = false) :
    t.locate working (l.join [n]) = t.step (l.place working) n := by
  rw [locate, if_neg (by rw [hzero]; exact Bool.false_ne_true)]
  change (l.names ++ [n]).foldlM t.step (start working l) = _
  rw [List.foldlM_append, foldlM_step_eq_ok_iff.mpr ⟨h.passable, rfl⟩]
  exact bind_pure (t.step (l.place working) n)

/-- A plain name leads one step further than the directory, unless no file can have it. -/
theorem Ready.locate_resolve (h : t.Ready working l) (hn : PlainName n) :
    FileName n ∧ t.locate working (l.resolve n) = .ok (l.place working ++ [n]) ∨
      ¬ FileName n ∧ (¬ ZeroFree n ∧ t.locate working (l.resolve n) = .error .zeroCharacter ∨
        t.locate working (l.resolve n) = .error .nameTooLong) := by
  rw [Location.resolve_plainName hn]
  cases hzero : (l.join [n]).holdsZero with
  | true =>
    have hfree : ¬ ZeroFree n := by
      intro hfree
      rw [Location.holdsZero_join.mpr ⟨h.zeroFree, hfree⟩] at hzero
      cases hzero
    exact .inr ⟨fun hfile => hfree hfile.zeroFree, .inl ⟨hfree, by rw [locate, if_pos hzero]⟩⟩
  | false =>
    have hfree : ZeroFree n := (Location.holdsZero_join.mp hzero).2
    rw [h.locate_join hzero, step, h.directory]
    dsimp only
    by_cases hlong : maxNameBytes < n.utf8ByteSize
    · exact .inr ⟨fun hfile => absurd hfile.short (Nat.not_le.mpr hlong), .inr (if_pos hlong)⟩
    · refine .inl ⟨⟨⟨hn, hfree⟩, Nat.not_lt.mp hlong⟩, ?_⟩
      rw [if_neg hlong, Place.follow_of_ne hn.ne_dots]

/-- **Writing a file alters one place.** -/
theorem Ready.write (h : t.Ready working l) (hn : PlainName n) {text : String}
    (hw : t.write working (l.resolve n) text = .ok t') :
    FileName n ∧
      Alters t t' (l.place working ++ [n]) (some (.file (Fingerprint.bytesOf text))) := by
  rw [FileTree.write] at hw
  rcases h.locate_resolve hn with ⟨hfile, hl⟩ | ⟨-, ⟨-, hl⟩ | hl⟩
  · rw [hl] at hw
    dsimp only at hw
    split at hw
    · cases hw
    · next hdir =>
      rw [← Except.ok.inj hw]
      exact ⟨hfile, alters_put (by simpa [isDirectory] using hdir)⟩
  · rw [hl] at hw; cases hw
  · rw [hl] at hw; cases hw

/-- A file can be written wherever no directory stands in its way. -/
theorem Ready.write_eq (h : t.Ready working l) (hn : FileName n)
    (hdir : t.entry? (l.place working ++ [n]) ≠ some .directory) (text : String) :
    t.write working (l.resolve n) text =
      .ok (t.put (l.place working ++ [n]) (.file (Fingerprint.bytesOf text))) := by
  rcases h.locate_resolve hn.toPlainName with ⟨-, hl⟩ | ⟨hnot, -⟩
  · rw [FileTree.write, hl]
    exact if_neg fun hd => hdir (beq_iff_eq.mp hd)
  · exact absurd hn hnot

/-- **Removing a file alters one place**, whether or not the file is there. -/
theorem Ready.unlink (h : t.Ready working l) (hn : PlainName n)
    (hu : t.unlink working (l.resolve n) = .ok t') :
    FileName n ∧ Alters t t' (l.place working ++ [n]) none := by
  rw [FileTree.unlink] at hu
  rcases h.locate_resolve hn with ⟨hfile, hl⟩ | ⟨-, ⟨-, hl⟩ | hl⟩
  · rw [hl] at hu
    dsimp only at hu
    split at hu
    · cases hu
    · next hdir =>
      rw [← Except.ok.inj hu]
      exact ⟨hfile, alters_erase h.wellFormed (by simpa [isDirectory] using hdir)⟩
  · rw [hl] at hu; cases hu
  · rw [hl] at hu; cases hu

/-- A file can be removed wherever no directory stands in its place. -/
theorem Ready.unlink_eq (h : t.Ready working l) (hn : FileName n)
    (hdir : t.entry? (l.place working ++ [n]) ≠ some .directory) :
    t.unlink working (l.resolve n) = .ok (t.erase (l.place working ++ [n])) := by
  rcases h.locate_resolve hn.toPlainName with ⟨-, hl⟩ | ⟨hnot, -⟩
  · rw [FileTree.unlink, hl]
    exact if_neg fun hd => hdir (beq_iff_eq.mp hd)
  · exact absurd hn hnot

/-- Whatever a name that a file can have leads to can be looked up. -/
theorem Ready.look_eq (h : t.Ready working l) (hn : FileName n) :
    t.look working (l.resolve n) = .ok (t.entry? (l.place working ++ [n])) := by
  rcases h.locate_resolve hn.toPlainName with ⟨-, hl⟩ | ⟨hnot, -⟩
  · rw [FileTree.look, hl]
  · exact absurd hn hnot

/-- What is looked up under a plain name is what is there. -/
theorem Ready.look (h : t.Ready working l) (hn : PlainName n)
    (hl : t.look working (l.resolve n) = .ok e) : e = t.entry? (l.place working ++ [n]) := by
  rw [FileTree.look] at hl
  rcases h.locate_resolve hn with ⟨-, hloc⟩ | ⟨-, ⟨hzero, hloc⟩ | hloc⟩
  · rw [hloc] at hl
    exact (Except.ok.inj hl).symm
  · rw [hloc] at hl
    rw [← Except.ok.inj hl]
    -- with a zero character in it the name leads nowhere, and nothing has it
    cases hsome : t.entry? (l.place working ++ [n]) with
    | none => rfl
    | some f =>
      have hproper := h.wellFormed.names _ (by rw [hsome]; rfl) n (by simp)
      exact absurd hproper.zeroFree hzero
  · rw [hloc] at hl; cases hl

end

/-! ### Making the output directory -/

/-- The second tree is the first with more directories. -/
def Grows (t t' : FileTree) : Prop :=
  ∀ q, t'.entry? q = t.entry? q ∨ t.entry? q = none ∧ t'.entry? q = some .directory

theorem Grows.refl (t : FileTree) : t.Grows t := fun _ => .inl rfl

theorem Grows.trans {t'' : FileTree} (h : t.Grows t') (h' : t'.Grows t'') : t.Grows t'' := by
  intro q
  rcases h q with hq | ⟨hnone, hdir⟩
  · rcases h' q with hq' | ⟨hnone', hdir'⟩
    · exact .inl (hq'.trans hq)
    · exact .inr ⟨by rw [← hq, hnone'], hdir'⟩
  · rcases h' q with hq' | ⟨hnone', -⟩
    · exact .inr ⟨hnone, by rw [hq', hdir]⟩
    · rw [hdir] at hnone'
      cases hnone'

theorem Grows.directory (h : t.Grows t') (hq : t.entry? q = some .directory) :
    t'.entry? q = some .directory := by
  rcases h q with h | ⟨hnone, -⟩
  · rw [h, hq]
  · rw [hnone] at hq
    cases hq

/-- No file comes or goes. -/
theorem Grows.file_iff (h : t.Grows t') {bytes : List UInt8} :
    t'.entry? q = some (.file bytes) ↔ t.entry? q = some (.file bytes) := by
  rcases h q with h | ⟨hnone, hdir⟩
  · rw [h]
  · rw [hnone, hdir]
    exact ⟨fun h => (by cases h), fun h => (by cases h)⟩

theorem Grows.isFile_eq (h : t.Grows t') : t'.isFile q = t.isFile q := by
  rw [Bool.eq_iff_iff, isFile_iff, isFile_iff]
  exact exists_congr fun _ => h.file_iff

/-- What was there is there. -/
theorem Grows.entry?_of_isSome (h : t.Grows t') (hq : (t.entry? q).isSome) :
    t'.entry? q = t.entry? q := by
  rcases h q with h | ⟨hnone, -⟩
  · exact h
  · rw [hnone] at hq
    cases hq

/-- What was found is found. -/
theorem Grows.look_of_some (h : t.Grows t') {working : Place} {l : Location} {f : Entry}
    (hlook : t.look working l = .ok (some f)) : t'.look working l = .ok (some f) := by
  rw [look] at hlook ⊢
  split at hlook
  · next p hl =>
    rw [locate_mono hl fun _ => h.directory]
    have hentry := Except.ok.inj hlook
    rw [← hentry]
    exact congrArg Except.ok (h.entry?_of_isSome (by rw [hentry]; rfl))
  · cases hlook
  · cases hlook

/-- What is neither a file nor a directory is not there. -/
theorem entry?_eq_none (hfile : t.isFile q = false) (hdir : t.entry? q ≠ some .directory) :
    t.entry? q = none := by
  cases hentry : t.entry? q with
  | none => rfl
  | some e =>
    cases e with
    | directory => exact absurd hentry hdir
    | file bytes => rw [isFile_iff.mpr ⟨bytes, hentry⟩] at hfile; cases hfile

/-- A directory is made only where nothing is. -/
private theorem makePlace_induction {P : FileTree → Prop}
    (hput : P t → t.entry? p = none → P (t.put p .directory)) (h : P t) {fault : FileFault}
    (hm : t.makePlace p fault = .ok t') : P t' := by
  rw [makePlace] at hm
  split at hm
  · rwa [← Except.ok.inj hm]
  · cases hm
  · next hnone =>
    rw [← Except.ok.inj hm]
    exact hput h hnone

private theorem Grows.put (h : t.Grows t') (hnone : t'.entry? p = none) :
    t.Grows (t'.put p .directory) := by
  have ha : Alters t' (t'.put p .directory) p (some .directory) := alters_put (by rw [hnone]; simp)
  refine h.trans fun q => ?_
  rw [ha.entry?]
  by_cases hq : q = p
  · rw [if_pos hq, hq]
    exact .inr ⟨hnone, rfl⟩
  · rw [if_neg hq]
    exact .inl rfl

/-- One name further, a directory is there or is made. -/
private theorem makePlace_follow (h : t.WellFormed) (hp : t.entry? p = some .directory) {n : String}
    (hn : n ≠ ".." → ProperName n) {fault : FileFault}
    (hm : t.makePlace (p.follow n) fault = .ok t') :
    t'.WellFormed ∧ t'.entry? (p.follow n) = some .directory := by
  rw [makePlace] at hm
  split at hm
  · next hdir =>
    rw [← Except.ok.inj hm]
    exact ⟨h, hdir⟩
  · cases hm
  · next hnone =>
    -- one step back there is a directory already, so nothing is made there
    have hdots : n ≠ ".." := by
      rintro rfl
      have hup := h.directory_dropLast hp
      rw [show p.follow ".." = p.dropLast from rfl, hup] at hnone
      cases hnone
    rw [Place.follow_of_ne hdots] at hnone hm ⊢
    rw [← Except.ok.inj hm]
    have ha : Alters t (t.put (p ++ [n]) .directory) (p ++ [n]) (some .directory) :=
      alters_put (by rw [hnone]; simp)
    exact ⟨h.alters (hn hdots) hp ha, by rw [ha.entry?, if_pos rfl]⟩

/-- Makes the directory that the first `n + 1` names lead to. -/
private def makeName (base : Place) (names : List String) (t : FileTree) (n : Nat) :
    Except FileFault FileTree :=
  let p := (names.take (n + 1)).foldl Place.follow base
  let isLast := n + 1 == names.length
  if maxNameBytes < ((names[n]?).getD "").utf8ByteSize then .error .nameTooLong
  else t.makePlace p (if isLast then .exists else .notDirectory)

private theorem makeName_induction {P : FileTree → Prop} {base : Place} {names : List String}
    {n : Nat} (hput : ∀ p, P t → t.entry? p = none → P (t.put p .directory)) (h : P t)
    (hm : makeName base names t n = .ok t') : P t' := by
  rw [makeName] at hm
  split at hm
  · cases hm
  · exact makePlace_induction (hput _) h hm

/-- **Making a directory** puts directories where nothing is, one after the other, and does nothing
else. -/
theorem makeDirectory_induction {P : FileTree → Prop}
    (hput : ∀ t p, P t → t.entry? p = none → P (t.put p .directory)) {working : Place} {l : Location}
    (h : P t) (hm : t.makeDirectory working l = .ok t') : P t' := by
  have hall : ∀ (ns : List Nat) {t t' : FileTree}, P t →
      ns.foldlM (makeName (start working l) l.names) t = .ok t' → P t' := by
    intro ns
    induction ns with
    | nil =>
      intro t t' h hm
      rwa [← Except.ok.inj hm]
    | cons n ns ih =>
      intro t t' h hm
      rw [List.foldlM_cons] at hm
      cases hstep : makeName (start working l) l.names t n with
      | error f => rw [hstep] at hm; cases hm
      | ok s =>
        rw [hstep] at hm
        exact ih (makeName_induction (hput t) h hstep) hm
  rw [makeDirectory] at hm
  split at hm
  · cases hm
  · exact hall _ h hm

theorem grows_of_makeDirectory {working : Place} {l : Location}
    (hm : t.makeDirectory working l = .ok t') : t.Grows t' :=
  makeDirectory_induction (fun _ _ h => h.put) (.refl t) hm

/-- Behind every name that has been followed a directory is there. -/
private theorem foldlM_makeName {base : Place} {names : List String} (h : t.WellFormed)
    (hfrom : t.entry? base = some .directory)
    (hnames : ∀ n ∈ names, n ≠ ".." → ProperName n) {k : Nat} (hk : k ≤ names.length)
    (hm : (List.range k).foldlM (makeName base names) t = .ok t') :
    t'.WellFormed ∧ t'.Passable base (names.take k) ∧
      t'.entry? ((names.take k).foldl Place.follow base) = some .directory := by
  induction k generalizing t' with
  | zero =>
    rw [List.range_zero, List.foldlM_nil] at hm
    rw [← Except.ok.inj hm, List.take_zero]
    exact ⟨h, trivial, hfrom⟩
  | succ k ih =>
    rw [List.range_succ, List.foldlM_append] at hm
    cases hbefore : (List.range k).foldlM (makeName base names) t with
    | error f => rw [hbefore] at hm; cases hm
    | ok s =>
      obtain ⟨hwf, hpass, hdir⟩ := ih (Nat.le_of_succ_le hk) hbefore
      rw [hbefore] at hm
      -- what is left of the run is its last name
      replace hm : makeName base names s k = .ok t' := by
        rw [← hm]
        exact (bind_pure (makeName base names s k)).symm
      have hgrows : s.Grows t' := makeName_induction (fun _ h => h.put) (.refl s) hm
      have hname : names[k]? = some names[k] := List.getElem?_eq_getElem hk
      have htake : names.take (k + 1) = names.take k ++ [names[k]] :=
        (List.take_append_getElem hk).symm
      rw [makeName, hname, htake, List.foldl_append] at hm
      dsimp only [Option.getD_some, List.foldl_cons, List.foldl_nil] at hm
      by_cases hlong : maxNameBytes < names[k].utf8ByteSize
      · rw [if_pos hlong] at hm; cases hm
      · rw [if_neg hlong] at hm
        obtain ⟨hwf', hdir'⟩ := makePlace_follow hwf hdir (hnames _ (List.getElem_mem hk)) hm
        rw [htake, passable_append, List.foldl_append]
        exact ⟨hwf', ⟨hpass.mono fun _ => hgrows.directory,
          hgrows.directory hdir, Nat.not_lt.mp hlong, trivial⟩, hdir'⟩

/-- **Once made, the output directory is ready**, and no file has come or gone. -/
theorem ready_of_makeDirectory {working : Place} {path : String} (h : t.WellFormed)
    (hworking : t.entry? working = some .directory)
    (hm : t.makeDirectory working (Location.parse path) = .ok t') :
    t'.Ready working (Location.parse path) ∧ t.Grows t' := by
  have hgrows := grows_of_makeDirectory hm
  rw [makeDirectory] at hm
  cases hzero : (Location.parse path).holdsZero with
  | true => rw [hzero, if_pos rfl] at hm; cases hm
  | false =>
    rw [hzero, if_neg Bool.false_ne_true] at hm
    have hstart : t.entry? (start working (Location.parse path)) = some .directory := by
      rw [start]
      split
      · rfl
      · exact hworking
    have hnames : ∀ n ∈ (Location.parse path).names, n ≠ ".." → ProperName n := by
      intro n hn hdots
      exact ⟨Location.plainName_of_mem_namesOf hn hdots, Location.zeroFree_of_holdsZero hzero hn⟩
    obtain ⟨hwf, hpass, hdir⟩ := foldlM_makeName h hstart hnames (Nat.le_refl _) hm
    rw [List.take_length] at hpass hdir
    exact ⟨⟨hwf, hzero, hpass, hdir⟩, hgrows⟩

/-- What names lead through is a directory, up to where they end. -/
private theorem Passable.directory {ms ns : List String} (h : t.Passable p (ms ++ ns))
    (hend : t.entry? ((ms ++ ns).foldl Place.follow p) = some .directory) :
    t.entry? (ms.foldl Place.follow p) = some .directory := by
  cases ns with
  | nil => rwa [List.append_nil] at hend
  | cons n ns => exact (passable_append.mp h).2.1

/-- **Nothing is made where the directory is there already.** -/
theorem Ready.makeDirectory_eq {working : Place} {l : Location} (h : t.Ready working l) :
    t.makeDirectory working l = .ok t := by
  have hall : ∀ k ≤ l.names.length,
      (List.range k).foldlM (makeName (start working l) l.names) t = .ok t := by
    intro k hk
    induction k with
    | zero => rfl
    | succ k ih =>
      have hname : l.names[k]? = some l.names[k] := List.getElem?_eq_getElem hk
      have hsplit : l.names = l.names.take (k + 1) ++ l.names.drop (k + 1) :=
        (List.take_append_drop _ _).symm
      have htake : l.names.take (k + 1) = l.names.take k ++ [l.names[k]] :=
        (List.take_append_getElem hk).symm
      have hpass := h.passable
      rw [hsplit] at hpass
      have hdir : t.entry? ((l.names.take (k + 1)).foldl Place.follow (start working l)) =
          some .directory := hpass.directory (by rw [← hsplit]; exact h.directory)
      rw [htake] at hpass
      obtain ⟨-, hshort, -⟩ := (passable_append.mp (passable_append.mp hpass).1).2
      have hstep : makeName (start working l) l.names t k = .ok t := by
        rw [makeName, hname]
        dsimp only [Option.getD_some]
        rw [if_neg (Nat.not_lt.mpr hshort), makePlace, hdir]
      rw [List.range_succ, List.foldlM_append, ih (Nat.le_of_succ_le hk)]
      exact (bind_pure (makeName (start working l) l.names t k)).trans hstep
  rw [makeDirectory, if_neg (by rw [h.zeroFree]; exact Bool.false_ne_true)]
  exact hall _ (Nat.le_refl _)

end Pageworks.FileTree
