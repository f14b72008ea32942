import Pageworks.Proofs.GeneratedUnit

/-!
# The skeleton of a component

A unit is a class with its surroundings, and in full mode the class has one member: the method that
renders the markup.  What is generated as a declaration is that unit without the member, and it
owes nothing to the body of the document or to the renderer.

## Main definitions

* `GeneratedUnit.margin` — how far in the class of a unit stands.

## Main results

* `GeneratedUnit.entries_classEntries` — a unit is what stands up to the brace that opens its class,
  the members, and what stands from the closing brace on.
* `GeneratedUnit.full_eq_declaration` — **a full unit is the declaration with the members inserted**
  between the braces of the class, and a declaration depends on neither body nor renderer.
-/

namespace Pageworks

/-! ### Indentation -/

namespace Component

theorem indented_append (as bs : List String) : indented (as ++ bs) = indented as ++ indented bs :=
  List.map_append

/-- Where no entry is empty, every entry moves. -/
theorem indented_eq_map {es : List String} (h : ∀ e ∈ es, e ≠ "") :
    indented es = es.map (indent ++ ·) := by
  unfold indented
  refine List.map_congr_left fun e he => ?_
  have hempty : e.isEmpty = false := by
    rw [← Bool.not_eq_true, String.isEmpty_iff]
    exact h e he
  rw [hempty, if_neg Bool.false_ne_true]

/-- Text behind a text that is not empty is not empty. -/
private theorem append_ne_empty {a : String} (ha : a ≠ "") (b : String) : a ++ b ≠ "" := by
  intro h
  exact ha (String.append_eq_empty_iff.mp h).1

private theorem indent_append_ne_empty (e : String) : indent ++ e ≠ "" :=
  append_ne_empty (by decide) e

/-- The method that renders the markup has no empty entries, whatever markup and title hold. -/
theorem ne_empty_of_mem_renderMethod {markup : String} {title : Option String} {e : String}
    (he : e ∈ renderMethod markup title) : e ≠ "" := by
  unfold renderMethod at he
  rcases List.mem_append.mp he with he | he
  · rcases List.mem_append.mp he with he | he
    · simp only [List.mem_cons, List.not_mem_nil, or_false] at he
      rcases he with rfl | rfl
      · rw [String.append_assoc]
        exact append_ne_empty (by decide) _
      · decide
    · -- every entry of the title is one step further in
      cases title with
      | none => exact absurd he List.not_mem_nil
      | some t =>
        simp only [Option.map_some, Option.getD_some, titleEntries, List.mem_cons,
          List.not_mem_nil, or_false] at he
        rcases he with rfl | rfl | rfl | rfl | rfl
        all_goals
          first
          | exact indent_append_ne_empty _
          | simp only [String.append_assoc]; exact indent_append_ne_empty _
  · simp only [List.mem_cons, List.not_mem_nil, or_false] at he
    rcases he with rfl | rfl
    · simp only [String.append_assoc]
      exact indent_append_ne_empty _
    · decide

end Component

namespace GeneratedUnit

/-! ### Entries -/

/-- Entries that stand on lines of their own can be told apart from those that follow. -/
theorem textOf_append {as bs : List String} (ha : as ≠ []) (hb : bs ≠ []) :
    textOf (as ++ bs) = textOf as ++ textOf bs := by
  unfold textOf
  rw [String.intercalate_append_of_ne_nil ha hb]
  simp only [String.append_assoc]

/-- How far in the class of a unit stands: at the margin, or one step inside its namespace. -/
def margin (place : String) : String := if place.isEmpty then "" else Component.indent

/-- The entries of a unit up to the brace that opens its class. -/
def front (place name base : String) (usings attributes : List String) : List String :=
  opening ++
    (if place.isEmpty then usings ++ [""] ++ attributes
    else ["namespace " ++ place, "\x7b"] ++ Component.indented usings ++ [""] ++
      Component.indented attributes) ++
    [margin place ++ "public partial class " ++ name ++ " : " ++ base, margin place ++ "\x7b"]

/-- The entries of a unit from the brace that closes its class on. -/
def back (place : String) : List String :=
  (margin place ++ "\x7d") :: (if place.isEmpty then [] else ["\x7d"]) ++ [closing]

theorem front_ne_nil (place name base : String) (usings attributes : List String) :
    front place name base usings attributes ≠ [] := by
  unfold front
  exact List.append_ne_nil_of_right_ne_nil _ (List.cons_ne_nil _ _)

theorem back_ne_nil (place : String) : back place ≠ [] := List.cons_ne_nil _ _

/-- **A unit is its members between what stands up to the brace that opens its class and what
stands from the closing brace on.** -/
theorem entries_classEntries (place name base : String) (usings attributes : List String)
    {ms : List String} (hms : ∀ e ∈ ms, e ≠ "") :
    entries place usings (Component.classEntries name base attributes ms) =
      front place name base usings attributes ++
        ms.map (margin place ++ Component.indent ++ ·) ++ back place := by
  unfold entries front back margin Component.classEntries
  by_cases hplace : place.isEmpty = true
  · rw [Component.indented_eq_map hms]
    simp only [hplace, if_true, String.empty_append, List.append_assoc, List.cons_append,
      List.nil_append]
  · -- what stands inside the namespace is indented once more, and none of it is empty
    have htwice : Component.indented (Component.indented ms) =
        ms.map (Component.indent ++ Component.indent ++ ·) := by
      rw [Component.indented_eq_map hms, Component.indented_eq_map, List.map_map]
      · exact List.map_congr_left fun e _ => (String.append_assoc ..).symm
      · intro e he
        obtain ⟨e', -, rfl⟩ := List.mem_map.mp he
        exact Component.append_ne_empty (by decide) e'
    have hhead : Component.indented ["public partial class " ++ name ++ " : " ++ base, "\x7b"] =
        [Component.indent ++ "public partial class " ++ name ++ " : " ++ base,
          Component.indent ++ "\x7b"] := by
      rw [Component.indented_eq_map]
      · simp only [List.map_cons, List.map_nil, String.append_assoc]
      · intro e he
        simp only [List.mem_cons, List.not_mem_nil, or_false] at he
        rcases he with rfl | rfl
        · simp only [String.append_assoc]
          exact Component.append_ne_empty (by decide) _
        · decide
    have hclosing : Component.indented ["\x7d"] = [Component.indent ++ "\x7d"] := rfl
    rw [if_neg hplace, if_neg hplace, if_neg hplace, if_neg hplace, Component.indented_append,
      Component.indented_append, Component.indented_append, htwice, hhead, hclosing]
    simp only [List.append_assoc, List.cons_append, List.nil_append]

/-! ### The two modes -/

variable {d : Document} {m : Metadata} {imports : List ImportEntry} {config : ProjectConfig}
  {xs : List Diagnostic} {name : String}

/-- A declaration has no member, and asks neither the body nor the renderer for one. -/
theorem generate_declaration (d : Document) (m : Metadata) (imports : List ImportEntry)
    (config : ProjectConfig) (xs : List Diagnostic) (text : String) (render render' : Renderer) :
    generate { d with text := text } m imports config .declaration render' xs =
      generate d m imports config .declaration render xs := by
  unfold generate members
  dsimp only

/-- With a name and members for its class, there is a unit. -/
theorem generate_eq_ok {mode : Mode} {render : Renderer} {ms : List String}
    (hname : Component.typeName d.path = .ok name)
    (hmembers : members mode render d m = .ok ms) :
    generate d m imports config mode render xs = .ok
      ⟨Component.unitName d.path config.projectRoot,
        textOf (entries
          (Namespace.resolve d.path config.projectRoot config.rootNamespace m.namespaceName)
          ((usings m imports).map usingEntry)
          (Component.classEntries name (baseType m config) (Component.attributes m) ms)), xs⟩ := by
  unfold generate
  rw [hname]
  dsimp only
  rw [hmembers]

/-- How far in the members of a class stand. -/
theorem margin_append_indent (place : String) :
    margin place ++ Component.indent = if place.isEmpty then "    " else "        " := by
  unfold margin
  split <;> rfl

/-- **A full unit is the declaration with the members inserted**: its text differs from the text of
the declaration by the entries of the method for the markup, which is the rendered body with its
external links marked.  They stand between the brace that opens the class and the brace that closes
it, four spaces in, or eight inside a namespace.  The declaration is the same for every body and
every renderer. -/
theorem full_eq_declaration (d : Document) (m : Metadata) (imports : List ImportEntry)
    (config : ProjectConfig) (xs : List Diagnostic) :
    (∀ (text : String) (render render' : Renderer),
      generate { d with text := text } m imports config .declaration render' xs =
        generate d m imports config .declaration render xs) ∧
    ∀ (render : Renderer) (u : GeneratedUnit),
      generate d m imports config .full render xs = .ok u →
      ∃ name r, Component.typeName d.path = .ok name ∧ render (Header.split d.text).2 = .ok r ∧
        let markup := String.ofList (Link.openExternal r.toList)
        let place := Namespace.resolve d.path config.projectRoot config.rootNamespace m.namespaceName
        let head := textOf (front place name (baseType m config) ((usings m imports).map usingEntry)
          (Component.attributes m))
        u.text = head ++
            textOf ((Component.renderMethod markup m.title).map fun e =>
              (if place.isEmpty then "    " else "        ") ++ e) ++
            textOf (back place) ∧
          ∀ render', generate d m imports config .declaration render' xs =
            .ok ⟨u.name, head ++ textOf (back place), u.diagnostics⟩ := by
  refine ⟨generate_declaration d m imports config xs, fun render u h => ?_⟩
  obtain ⟨name, ms, hname, hmembers, rfl⟩ := of_generate h
  obtain ⟨r, hr, rfl⟩ := of_members_full hmembers
  have hshape := fun (ms : List String) (hms : ∀ e ∈ ms, e ≠ "") =>
    entries_classEntries
      (Namespace.resolve d.path config.projectRoot config.rootNamespace m.namespaceName) name
      (baseType m config) ((usings m imports).map usingEntry) (Component.attributes m) hms
  refine ⟨name, r, hname, hr, ?_, fun render' => ?_⟩
  · -- the method has entries, so it takes lines of its own
    have hmethod : ∀ markup, Component.renderMethod markup m.title ≠ [] := fun markup => by
      unfold Component.renderMethod
      simp only [List.append_assoc, List.cons_append]
      exact List.cons_ne_nil _ _
    dsimp only
    rw [hshape _ fun e he => Component.ne_empty_of_mem_renderMethod he, textOf_append,
      textOf_append (front_ne_nil _ _ _ _ _), margin_append_indent]
    · exact mt List.map_eq_nil_iff.mp (hmethod _)
    · exact List.append_ne_nil_of_left_ne_nil (front_ne_nil _ _ _ _ _) _
    · exact back_ne_nil _
  · have hnone : members .declaration render' d m = .ok [] := rfl
    rw [generate_eq_ok hname hnone, hshape [] fun e he => absurd he List.not_mem_nil, List.map_nil,
      List.append_nil, textOf_append (front_ne_nil _ _ _ _ _) (back_ne_nil _)]

/-- A page. -/
def titledPage : Document := ⟨"/p/a.md", "x\n"⟩

/-- A title and a namespace for it. -/
def titledHeader : Metadata where
  title := some "T"
  namespaceName := some "N"

/-- The method of the page stands eight spaces in, since the page has a namespace, and what it adds
is the rendered page with the link marked. -/
theorem full_eq_declaration_titled : ∃ u head rest,
    generate titledPage titledHeader [] (.make "" "/p" "B") .full .linking [] = .ok u ∧
    u.text = head ++
      textOf ((Component.renderMethod "<a href=\"https://x.org\" target=\"_blank\">x</a>x\n"
        (some "T")).map fun e => "        " ++ e) ++ rest ∧
    ∀ render', generate titledPage titledHeader [] (.make "" "/p" "B") .declaration render' [] =
      .ok ⟨u.name, head ++ rest, u.diagnostics⟩ := by
  have hrendered : Renderer.linking (Header.split titledPage.text).2 =
      .ok "<a href=\"https://x.org\">x</a>x\n" := by
    decide +kernel
  have hmarked : Link.openExternal "<a href=\"https://x.org\">x</a>x\n".toList =
      "<a href=\"https://x.org\" target=\"_blank\">x</a>x\n".toList := by
    decide +kernel
  have hisok : (generate titledPage titledHeader [] (.make "" "/p" "B") .full .linking []).isOk =
      true := by
    decide +kernel
  cases hu : generate titledPage titledHeader [] (.make "" "/p" "B") .full .linking [] with
  | error f => rw [hu] at hisok; cases hisok
  | ok u =>
    obtain ⟨-, hfull⟩ := full_eq_declaration titledPage titledHeader [] (.make "" "/p" "B") []
    obtain ⟨name, r, -, hr, htext, hdeclaration⟩ := hfull _ u hu
    obtain rfl := Except.ok.inj (hr.symm.trans hrendered)
    rw [hmarked, String.ofList_toList] at htext
    exact ⟨u, _, _, rfl, htext, hdeclaration⟩

end GeneratedUnit

end Pageworks
