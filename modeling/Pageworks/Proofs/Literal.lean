import Pageworks.Proofs.GeneratedUnit
import Pageworks.Proofs.Sources

/-!
# String literals of a generated unit

Routes, titles and markup stand in a unit as verbatim literals, in which a quote is written twice.
Whatever they hold, a reader that knows nothing but where literals start and end finds them again.

A piece of a unit is read for itself as long as it is not followed by a quote, and none is: no piece
starts with one.  So a unit is read entry by entry, and indentation goes in front of an entry.

## Main definitions

* `Literal.scan`, `Literal.verbatims` — what a reader finds in a text from left to right.
* `Literal.Carries a ls` — a piece of text that holds just the literals `ls`.
* `Literal.Entries es ls` — so do entries, each on lines of its own.

## Main results

* `Literal.scan_verbatim` — **a literal is read as the text that was written.**
* `Literal.Entries.carries` — entries are read one after the other.
* `Literal.verbatims_eq` — **a unit is read as its routes, its title and its markup.**
-/

namespace Pageworks

open Pageworks.Text

namespace Literal

/-! ### Reading literals -/

/-- Where a reader of the generated language stands. -/
inductive State
  /-- Outside of any literal. -/
  | outside
  /-- In a verbatim literal, of which some has been read. -/
  | verbatim (read : List Char)
  /-- In a regular literal. -/
  | regular

/-- The verbatim literals that follow, or nothing if the text ends inside of a literal. -/
def scan : State → List Char → Option (List String)
  | .outside, [] => some []
  | .outside, '@' :: '"' :: cs => scan (.verbatim []) cs
  | .outside, '"' :: cs => scan .regular cs
  | .outside, _ :: cs => scan .outside cs
  | .verbatim _, [] => none
  | .verbatim read, '"' :: '"' :: cs => scan (.verbatim (read ++ ['"'])) cs
  | .verbatim read, '"' :: cs => (scan .outside cs).map (String.ofList read :: ·)
  | .verbatim read, c :: cs => scan (.verbatim (read ++ [c])) cs
  | .regular, [] => none
  | .regular, '"' :: cs => scan .outside cs
  | .regular, _ :: cs => scan .regular cs

/-- The verbatim literals of a text, or nothing if it ends inside of a literal. -/
def verbatims (text : String) : Option (List String) := scan .outside text.toList

/-- The text holds no quote. -/
def QuoteFree (s : String) : Prop := '"' ∉ s.toList

instance (s : String) : Decidable (QuoteFree s) := inferInstanceAs (Decidable (¬ _))

theorem quoteFree_append {a b : String} : QuoteFree (a ++ b) ↔ QuoteFree a ∧ QuoteFree b := by
  rw [QuoteFree, String.toList_append, List.mem_append, not_or]
  exact Iff.rfl

private theorem scan_cons {c : Char} {cs : List Char} (hc : c ≠ '"')
    (hat : c = '@' → cs.head? ≠ some '"') : scan .outside (c :: cs) = scan .outside cs := by
  rw [scan]
  · rintro rest rfl rfl
    exact hat rfl rfl
  · exact hc

/-- Outside of literals, text without quotes is skipped.  Only at its end it may matter what
follows. -/
theorem scan_append {a rest : List Char} (ha : '"' ∉ a)
    (hlast : a.getLast? ≠ some '@' ∨ rest.head? ≠ some '"') :
    scan .outside (a ++ rest) = scan .outside rest := by
  induction a with
  | nil => rfl
  | cons c a ih =>
    rw [List.mem_cons, not_or] at ha
    cases a with
    | nil =>
      refine scan_cons (fun heq => ha.1 heq.symm) fun hc => hlast.resolve_left fun hne => ?_
      exact hne (congrArg some hc)
    | cons b a =>
      rw [List.getLast?_cons_cons] at hlast
      rw [List.cons_append, scan_cons (fun heq => ha.1 heq.symm) fun _ heq => ?_, ih ha.2 hlast]
      exact ha.2 (List.mem_cons.mpr (.inl (Option.some.inj heq).symm))

/-- A regular literal ends with the next quote. -/
theorem scan_regular {a : List Char} (ha : '"' ∉ a) (rest : List Char) :
    scan .regular (a ++ '"' :: rest) = scan .outside rest := by
  induction a with
  | nil => rw [List.nil_append, scan]
  | cons c a ih =>
    rw [List.mem_cons, not_or] at ha
    rw [List.cons_append, scan, ih ha.2]
    exact fun heq => ha.1 heq.symm

/-- **A literal is read as the text that was written**, if no quote follows it. -/
theorem scan_verbatim {rest : List Char} (hrest : rest.head? ≠ some '"') (t read : List Char) :
    scan (.verbatim read) (Component.doubleQuotes t ++ '"' :: rest) =
      (scan .outside rest).map (String.ofList (read ++ t) :: ·) := by
  induction t generalizing read with
  | nil =>
    rw [List.append_nil, Component.doubleQuotes, List.nil_append, scan]
    rintro cs rfl
    exact hrest rfl
  | cons c t ih =>
    rw [Component.doubleQuotes]
    split
    · next hc =>
      obtain rfl := beq_iff_eq.mp hc
      rw [List.cons_append, List.cons_append, scan, ih, List.append_assoc]
      rfl
    · next hc =>
      have hne : c ≠ '"' := fun heq => hc (beq_iff_eq.mpr heq)
      rw [List.cons_append, scan, ih, List.append_assoc]
      · rfl
      · exact fun _ heq => absurd heq hne
      · exact hne

/-! ### Pieces -/

/-- A piece of text that is read as some literals, whatever follows it but a quote. -/
structure Carries (a : List Char) (ls : List String) : Prop where
  head : a.head? ≠ some '"'
  scan_append : ∀ rest : List Char, rest.head? ≠ some '"' →
    scan .outside (a ++ rest) = (scan .outside rest).map (ls ++ ·)

namespace Carries

variable {a b : List Char} {ls ms : List String}

theorem of_notMem (ha : '"' ∉ a) : Carries a [] where
  head := fun heq => ha (List.mem_of_mem_head? heq)
  scan_append := fun rest hrest => by
    rw [Literal.scan_append ha (.inr hrest)]
    exact Option.map_id'.symm

theorem append (ha : Carries a ls) (hb : Carries b ms) : Carries (a ++ b) (ls ++ ms) := by
  have hhead : ∀ rest : List Char, rest.head? ≠ some '"' → (b ++ rest).head? ≠ some '"' := by
    intro rest hrest
    cases b with
    | nil => exact hrest
    | cons c b => exact hb.head
  refine ⟨?_, fun rest hrest => ?_⟩
  · cases a with
    | nil => exact hb.head
    | cons c a => exact ha.head
  · rw [List.append_assoc, ha.scan_append _ (hhead rest hrest), hb.scan_append rest hrest,
      Option.map_map]
    congr 1
    funext xs
    exact (List.append_assoc ls ms xs).symm

/-- A verbatim literal is one of the text that it was made from. -/
theorem verbatim (t : String) : Carries (Component.verbatim t).toList [t] := by
  have hshape : (Component.verbatim t).toList =
      '@' :: '"' :: (Component.doubleQuotes t.toList ++ ['"']) := by
    rw [Component.verbatim, String.toList_append, String.toList_append,
      String.toList_ofList (l := Component.doubleQuotes t.toList)]
    rfl
  rw [hshape]
  refine ⟨fun heq => absurd (Option.some.inj heq) (by decide), fun rest hrest => ?_⟩
  rw [List.cons_append, List.cons_append, scan, List.append_assoc]
  refine (scan_verbatim hrest t.toList []).trans ?_
  rw [List.nil_append, String.ofList_toList]
  rfl

/-- A regular literal between texts without quotes is passed over. -/
theorem regular {c : List Char} (ha : '"' ∉ a) (hne : a ≠ []) (hlast : a.getLast? ≠ some '@')
    (hb : '"' ∉ b) (hc : '"' ∉ c) : Carries (a ++ '"' :: (b ++ '"' :: c)) [] := by
  refine ⟨?_, fun rest hrest => ?_⟩
  · cases a with
    | nil => exact absurd rfl hne
    | cons x a => exact fun heq => ha (List.mem_cons.mpr (.inl (Option.some.inj heq).symm))
  · rw [List.append_assoc, Literal.scan_append ha (.inl hlast), List.cons_append, scan,
      List.append_assoc, List.cons_append, scan_regular hb, Literal.scan_append hc (.inr hrest)]
    exact Option.map_id'.symm

/-- Text without quotes around a verbatim literal. -/
theorem around {x y : String} (hx : QuoteFree x) (hy : QuoteFree y) (t : String) :
    Carries (x ++ Component.verbatim t ++ y).toList [t] := by
  rw [String.toList_append, String.toList_append]
  exact ((of_notMem hx).append (verbatim t)).append (of_notMem hy)

end Carries

/-! ### Entries -/

/-- Entries that are read as some literals one after the other. -/
inductive Entries : List String → List String → Prop
  | nil : Entries [] []
  | cons {e : String} {es ls ms : List String} (he : Carries e.toList ls) (hes : Entries es ms) :
    Entries (e :: es) (ls ++ ms)

namespace Entries

variable {es fs ls ms : List String}

theorem of_quoteFree (h : ∀ e ∈ es, QuoteFree e) : Entries es [] := by
  induction es with
  | nil => exact .nil
  | cons e es ih =>
    obtain ⟨he, hes⟩ := List.forall_mem_cons.mp h
    exact .cons (.of_notMem he) (ih hes)

theorem append (h : Entries es ls) (h' : Entries fs ms) : Entries (es ++ fs) (ls ++ ms) := by
  induction h with
  | nil => exact h'
  | cons he _ ih =>
    rw [List.cons_append, List.append_assoc]
    exact .cons he ih

/-- Indentation goes in front of an entry, whatever it holds. -/
theorem indented (h : Entries es ls) : Entries (Component.indented es) ls := by
  induction h with
  | nil => exact .nil
  | @cons e es ls ms he _ ih =>
    refine .cons ?_ ih
    dsimp only
    split
    · exact he
    · rw [String.toList_append]
      exact (Carries.of_notMem (by decide : QuoteFree Component.indent)).append he

/-- **Entries are read one after the other**, each on lines of its own. -/
theorem carries (h : Entries es ls) : Carries (es.flatMap fun e => e.toList ++ ['\n']) ls := by
  induction h with
  | nil => exact .of_notMem List.not_mem_nil
  | @cons e es ls ms he _ ih =>
    have hline : Carries (e.toList ++ ['\n']) ls := by
      have h := he.append (Carries.of_notMem (a := ['\n']) (by decide))
      rwa [List.append_nil] at h
    exact hline.append ih

end Entries

/-- Every entry of a unit ends a line. -/
theorem toList_textOf {es : List String} (hes : es ≠ []) :
    (GeneratedUnit.textOf es).toList = es.flatMap fun e => e.toList ++ ['\n'] := by
  have hlines : ∀ es : List String, es ≠ [] →
      ['\n'].intercalate (es.map String.toList) ++ ['\n'] = es.flatMap fun e => e.toList ++ ['\n'] := by
    intro es hes
    induction es with
    | nil => exact absurd rfl hes
    | cons e es ih =>
      cases es with
      | nil => rw [List.map_singleton, List.intercalate_singleton, List.flatMap_singleton]
      | cons f es =>
        rw [List.map_cons, List.map_cons, List.intercalate_cons_cons, List.append_assoc,
          ← List.map_cons, ih (List.cons_ne_nil f es), List.flatMap_cons]
        rfl
  rw [GeneratedUnit.textOf, String.toList_append, String.toList_intercalate]
  exact hlines es hes

/-! ### Names -/

theorem quoteFree_sanitize (name : String) : QuoteFree (Identifier.sanitize name) := by
  have hparts : QuoteFree (String.ofList
      (Identifier.mendParts (Identifier.mendStart name.toList))) := by
    rw [QuoteFree, String.toList_ofList, Identifier.mendParts]
    intro hmem
    obtain ⟨c, -, hc⟩ := List.mem_map.mp hmem
    split at hc
    · next hpart =>
      rw [hc] at hpart
      exact absurd hpart (by decide +kernel)
    · exact absurd hc (by decide)
  rw [Identifier.sanitize]
  split
  · exact quoteFree_append.mpr ⟨hparts, by decide⟩
  · exact hparts

theorem quoteFree_intercalate {sep : String} {names : List String} (hsep : QuoteFree sep)
    (h : ∀ n ∈ names, QuoteFree n) : QuoteFree (sep.intercalate names) := by
  rw [QuoteFree, String.toList_intercalate]
  intro hmem
  rcases of_mem_intercalate hmem with hmem | ⟨cs, hcs, hmem⟩
  · exact hsep hmem
  · obtain ⟨n, hn, rfl⟩ := List.mem_map.mp hcs
    exact h n hn hmem

theorem quoteFree_suffix (document root : String) : QuoteFree (Namespace.suffix document root) := by
  rw [Namespace.suffix]
  refine quoteFree_intercalate (by decide) fun n hn => ?_
  obtain ⟨s, -, rfl⟩ := List.mem_map.mp hn
  exact quoteFree_sanitize _

theorem quoteFree_resolve {rootNamespace : String} {override : Option String}
    (hroot : QuoteFree rootNamespace) (hoverride : ∀ n, override = some n → QuoteFree n)
    (document root : String) :
    QuoteFree (Namespace.resolve document root rootNamespace override) := by
  cases override with
  | some n => exact hoverride n rfl
  | none =>
    refine quoteFree_intercalate (by decide) fun n hn => ?_
    rcases List.mem_cons.mp (List.mem_filter.mp hn).1 with rfl | hn
    · exact hroot
    · rw [List.mem_singleton.mp hn]
      exact quoteFree_suffix document root

/-! ### The pieces of a unit -/

theorem quoteFree_bracketed {a : String} (ha : QuoteFree a) : QuoteFree (Component.bracketed a) := by
  have htrimmed : QuoteFree (trimmed a) := by
    rw [QuoteFree, trimmed, String.toList_ofList]
    intro hmem
    refine ha ?_
    have hend : '"' ∈ a.toList.dropWhile isBlank :=
      List.mem_reverse.mp ((List.dropWhile_sublist _).subset (List.mem_reverse.mp hmem))
    exact (List.dropWhile_sublist _).subset hend
  rw [Component.bracketed]
  split
  · exact htrimmed
  · exact quoteFree_append.mpr ⟨quoteFree_append.mpr ⟨by decide, htrimmed⟩, by decide⟩

theorem quoteFree_components : QuoteFree Component.components := by decide

variable {m : Metadata}

/-- The attributes of a component hold its routes. -/
theorem entries_attributes (hlayout : ∀ l, m.layout = some l → QuoteFree l)
    (hattributes : ∀ a ∈ m.attributes, QuoteFree a) : Entries (Component.attributes m) m.routes := by
  have hopening : ∀ kind : String, QuoteFree kind →
      QuoteFree ("[" ++ Component.components ++ kind) := fun _ hkind =>
    quoteFree_append.mpr ⟨quoteFree_append.mpr ⟨by decide, quoteFree_components⟩, hkind⟩
  have hroutes : ∀ rs : List String, Entries (rs.map fun r =>
      "[" ++ Component.components ++ ".RouteAttribute(" ++ Component.verbatim r ++ ")]") rs := by
    intro rs
    induction rs with
    | nil => exact .nil
    | cons r rs ih => exact .cons (.around (hopening _ (by decide)) (by decide) r) ih
  have hfurther : Entries (m.attributes.map Component.bracketed) [] := by
    refine .of_quoteFree fun e he => ?_
    obtain ⟨a, ha, rfl⟩ := List.mem_map.mp he
    exact quoteFree_bracketed (hattributes a ha)
  have hall : ∀ es : List String, Entries es [] → Entries ((m.routes.map fun r =>
      "[" ++ Component.components ++ ".RouteAttribute(" ++ Component.verbatim r ++ ")]") ++ es ++
        m.attributes.map Component.bracketed) m.routes := by
    intro es hes
    have h := ((hroutes m.routes).append hes).append hfurther
    rwa [List.append_nil, List.append_nil] at h
  rw [Component.attributes]
  refine hall _ ?_
  cases hl : m.layout with
  | none => exact .nil
  | some l =>
    dsimp only
    split
    · exact .nil
    · refine .of_quoteFree fun e he => ?_
      rw [List.mem_singleton.mp he]
      exact quoteFree_append.mpr
        ⟨quoteFree_append.mpr ⟨hopening _ (by decide), hlayout l hl⟩, by decide⟩

/-- The entry that opens the fragment of the title holds a regular literal. -/
private theorem carries_fragment : Carries (Component.indent ++
    "__builder.AddAttribute(1, \"ChildContent\", (" ++ Component.components ++
      ".RenderFragment)((__builder2) => \x7b").toList [] := by
  have hname : Carries "__builder.AddAttribute(1, \"ChildContent\", (".toList [] := by
    have hshape : "__builder.AddAttribute(1, \"ChildContent\", (".toList =
        "__builder.AddAttribute(1, ".toList ++ '"' :: ("ChildContent".toList ++ '"' :: ", (".toList) :=
      rfl
    rw [hshape]
    exact .regular (by decide) (by decide) (by decide) (by decide) (by decide)
  have hindent : Carries Component.indent.toList [] := .of_notMem (by decide)
  have hrest : Carries ".RenderFragment)((__builder2) => \x7b".toList [] := .of_notMem (by decide)
  rw [String.toList_append, String.toList_append, String.toList_append]
  exact ((hindent.append hname).append (.of_notMem quoteFree_components)).append hrest

/-- The method that renders the markup holds the title, if there is one, and then the markup. -/
theorem entries_renderMethod (markup : String) (title : Option String) :
    Entries (Component.renderMethod markup title) (title.toList ++ [markup]) := by
  have hindented : ∀ call : String, QuoteFree call → QuoteFree (Component.indent ++ call) :=
    fun _ hcall => quoteFree_append.mpr ⟨by decide, hcall⟩
  have htitle : Entries ((title.map Component.titleEntries).getD []) title.toList := by
    cases title with
    | none => exact .nil
    | some t =>
      have hcomponent : QuoteFree (Component.indent ++ "__builder.OpenComponent<" ++
          Component.components ++ ".Web.PageTitle>(0);") :=
        quoteFree_append.mpr ⟨quoteFree_append.mpr
          ⟨hindented _ (by decide), quoteFree_components⟩, by decide⟩
      have hcall : QuoteFree (Component.indent ++ Component.indent ++
          "__builder2.AddContent(2, ") := quoteFree_append.mpr ⟨hindented _ (by decide), by decide⟩
      exact .cons (.of_notMem hcomponent) (.cons carries_fragment
        (.cons (.around hcall (by decide) t) (.of_quoteFree (by decide))))
  have hopening : Entries ["protected override void BuildRenderTree(" ++ Component.components ++
      ".Rendering.RenderTreeBuilder __builder)", "\x7b"] [] := by
    refine .cons (.of_notMem ?_) (.of_quoteFree (by decide))
    exact quoteFree_append.mpr ⟨quoteFree_append.mpr ⟨by decide, quoteFree_components⟩, by decide⟩
  have hmarkup : Entries [Component.indent ++ "__builder.AddMarkupContent(3, " ++
      Component.verbatim markup ++ ");", "\x7d"] [markup] :=
    .cons (.around (hindented _ (by decide)) (by decide) markup) (.of_quoteFree (by decide))
  exact (hopening.append htitle).append hmarkup

/-- A class holds what its attributes and its members hold. -/
theorem entries_classEntries {name baseType : String} {attributes members ls ms : List String}
    (hname : QuoteFree name) (hbase : QuoteFree baseType) (hattributes : Entries attributes ls)
    (hmembers : Entries members ms) :
    Entries (Component.classEntries name baseType attributes members) (ls ++ ms) := by
  have hhead : Entries ["public partial class " ++ name ++ " : " ++ baseType, "\x7b"] [] := by
    refine .cons (.of_notMem ?_) (.of_quoteFree (by decide))
    exact quoteFree_append.mpr
      ⟨quoteFree_append.mpr ⟨quoteFree_append.mpr ⟨by decide, hname⟩, by decide⟩, hbase⟩
  have hclosing : Entries ["\x7d"] [] := .of_quoteFree (by decide)
  have h := ((hattributes.append hhead).append hmembers.indented).append hclosing
  rwa [List.append_nil, List.append_nil] at h

theorem entries_ne_nil (place : String) (usings declaration : List String) :
    GeneratedUnit.entries place usings declaration ≠ [] := by
  rw [GeneratedUnit.entries, GeneratedUnit.opening]
  exact List.append_ne_nil_of_left_ne_nil
    (List.append_ne_nil_of_left_ne_nil (List.cons_ne_nil _ _) _) _

/-- A unit holds what its declaration holds, with and without a namespace around it. -/
theorem entries_unit {place : String} {usings declaration ls : List String}
    (hplace : QuoteFree place) (husings : Entries usings []) (hdeclaration : Entries declaration ls) :
    Entries (GeneratedUnit.entries place usings declaration) ls := by
  have hblank : Entries [""] [] := .of_quoteFree (by decide)
  have hopening : Entries GeneratedUnit.opening [] := .of_quoteFree (by decide)
  have hclosing : Entries [GeneratedUnit.closing] [] := .of_quoteFree (by decide)
  have hcontent : Entries (if place.isEmpty then usings ++ [""] ++ declaration
      else ["namespace " ++ place, "\x7b"] ++ Component.indented usings ++ [""] ++
        Component.indented declaration ++ ["\x7d"]) ls := by
    split
    · exact (husings.append hblank).append hdeclaration
    · have hhead : Entries ["namespace " ++ place, "\x7b"] [] :=
        .cons (.of_notMem (quoteFree_append.mpr ⟨by decide, hplace⟩)) (.of_quoteFree (by decide))
      have hfoot : Entries ["\x7d"] [] := .of_quoteFree (by decide)
      have h := (((hhead.append husings.indented).append hblank).append
        hdeclaration.indented).append hfoot
      rwa [List.append_nil] at h
  have h := (hopening.append hcontent).append hclosing
  rwa [List.append_nil] at h

/-! ### Units -/

variable {d : Document} {imports : List ImportEntry} {config : ProjectConfig} {render : Renderer}
  {diagnostics : List Diagnostic} {u : GeneratedUnit}

/-- **A unit is read as its routes, its title and its markup**, which is what the renderer makes of
the body with the external links marked.  Whatever these hold, they are read back, as long as
nothing that is written without a literal holds a quote. -/
theorem verbatims_eq
    (h : GeneratedUnit.generate d m imports config .full render diagnostics = .ok u)
    (hnamespace : ∀ n, m.namespaceName = some n → QuoteFree n)
    (hroot : QuoteFree config.rootNamespace) (hlayout : ∀ l, m.layout = some l → QuoteFree l)
    (hbase : QuoteFree (GeneratedUnit.baseType m config))
    (hattributes : ∀ a ∈ m.attributes, QuoteFree a)
    (husings : ∀ n ∈ GeneratedUnit.usings m imports, QuoteFree n) :
    ∃ r, render (Header.split d.text).2 = .ok r ∧
      verbatims u.text = some
        (m.routes ++ m.title.toList ++ [String.ofList (Link.openExternal r.toList)]) := by
  obtain ⟨name, members, hname, hmembers, rfl⟩ := GeneratedUnit.of_generate h
  obtain ⟨r, hr, rfl⟩ := GeneratedUnit.of_members_full hmembers
  refine ⟨r, hr, ?_⟩
  have hsanitized : QuoteFree name := by
    rw [Component.typeName] at hname
    split at hname
    · cases hname
    · rw [← Except.ok.inj hname]
      exact quoteFree_sanitize _
  have hlines : Entries ((GeneratedUnit.usings m imports).map GeneratedUnit.usingEntry) [] := by
    refine .of_quoteFree fun e he => ?_
    obtain ⟨n, hn, rfl⟩ := List.mem_map.mp he
    exact quoteFree_append.mpr ⟨quoteFree_append.mpr ⟨by decide, husings n hn⟩, by decide⟩
  have hplace := quoteFree_resolve hroot hnamespace d.path config.projectRoot
  have hdeclaration := entries_classEntries hsanitized hbase
    (entries_attributes hlayout hattributes)
    (entries_renderMethod (String.ofList (Link.openExternal r.toList)) m.title)
  -- the unit is one piece, and nothing follows it
  have hscan := (entries_unit hplace hlines hdeclaration).carries.scan_append []
    (fun h => by cases h)
  rw [List.append_nil, scan] at hscan
  rw [verbatims, toList_textOf (entries_ne_nil _ _ _), hscan, Option.map_some, List.append_nil,
    List.append_assoc]

/-! ### Quotes everywhere -/

/-- A body that is a quote on each of two lines. -/
def quotePage : Document := ⟨"/p/a.md", "\"\n\""⟩

/-- A route and a title that end in quotes, for a page in a namespace. -/
def quoteHeader : Metadata where
  routes := ["/\"", "/\"\""]
  title := some "@\""
  namespaceName := some "N@"

/-- Quotes beside each other, at the ends of lines, behind an at-sign and in the tag of a link are
all found again, and so is the target of the link. -/
theorem verbatims_eq_quotes : ∃ u,
    GeneratedUnit.generate quotePage quoteHeader [] (.make "" "/p" "B") .full .linking [] = .ok u ∧
      verbatims u.text = some ["/\"", "/\"\"", "@\"",
        "<a href=\"https://x.org\" target=\"_blank\">x</a>\"\n\""] := by
  obtain ⟨u, hu⟩ := exists_of_isOk
    (x := GeneratedUnit.generate quotePage quoteHeader [] (.make "" "/p" "B") .full .linking [])
    (by decide +kernel)
  have hrendered : Renderer.linking (Header.split quotePage.text).2 =
      .ok "<a href=\"https://x.org\">x</a>\"\n\"" := by
    decide +kernel
  have hmarked : Link.openExternal "<a href=\"https://x.org\">x</a>\"\n\"".toList =
      "<a href=\"https://x.org\" target=\"_blank\">x</a>\"\n\"".toList := by
    decide +kernel
  have husings : ∀ n ∈ GeneratedUnit.usings quoteHeader [], QuoteFree n := by
    intro n hn
    rw [GeneratedUnit.usings, Import.names, Import.mem_sortedSet] at hn
    revert n
    decide +kernel
  obtain ⟨r, hr, hread⟩ := verbatims_eq hu
    (fun n hn => Option.some.inj hn ▸ by decide) (by decide) (fun l hl => by cases hl) (by decide)
    (fun a ha => absurd ha List.not_mem_nil) husings
  obtain rfl := Except.ok.inj (hr.symm.trans hrendered)
  rw [hmarked, String.ofList_toList] at hread
  exact ⟨u, hu, hread⟩

end Literal

end Pageworks
