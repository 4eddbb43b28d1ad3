import RouteAtlas.Proofs.Listing.Records
import RouteAtlas.Proofs.Mapping.Recognition
import RouteAtlas.Proofs.Path.JoinedText
import RouteAtlas.Proofs.Scan.Sources

/-!
# RouteAtlas.Proofs.Listing.ReadBack — which scans are listed readably

The line of a route is put together of texts from the annotation, from the settings and from the
names around it, and nothing in them is escaped.  The verbs that annotations name hold no separators,
and neither does what is written between the texts, so all depends on the other texts of a site
(`Site.IsListable`).  The main statement is that the listing of a scan is read back exactly where
all of its sites are listable.
-/

namespace RouteAtlas

open Listing
open Text (FreeOf)

/-! ## Labels -/

theorem Route.freeOf_label_iff {r : Route} :
    FreeOf isSeparator r.label ↔
      FreeOf isSeparator r.verb ∧ FreeOf isSeparator r.path ∧ FreeOf isSeparator r.params := by
  have hspace : FreeOf isSeparator " " := by decide
  have hopen : FreeOf isSeparator " [" := by decide
  have hclose : FreeOf isSeparator "]" := by decide
  rw [label]
  split
  next hparams =>
    have hempty : FreeOf isSeparator r.params := by
      rw [String.isEmpty_iff.1 hparams]
      exact List.forall_mem_nil _
    simp [Text.freeOf_append, hspace, hempty]
  next => simp [Text.freeOf_append, hspace, hopen, hclose, and_assoc]

/-- Joining adds and removes nothing but slashes. -/
theorem PathFragment.freeOf_text_join_iff {cls method : PathFragment} :
    FreeOf isSeparator (cls.join method).text ↔
      FreeOf isSeparator cls.text ∧ FreeOf isSeparator method.text := by
  constructor
  · intro h
    have hpart : ∀ c, c ∈ cls.text.toList ∨ c ∈ method.text.toList → isSeparator c = false := by
      intro c hc
      by_cases hslash : c = '/'
      · subst hslash
        rfl
      · refine h c ?_
        rw [toList_text_join, Path.mem_joinText_iff hslash]
        exact hc
    exact ⟨fun c hc => hpart c (.inl hc), fun c hc => hpart c (.inr hc)⟩
  · rintro ⟨hcls, hmethod⟩ c hc
    by_cases hslash : c = '/'
    · subst hslash
      rfl
    · rw [toList_text_join, Path.mem_joinText_iff hslash] at hc
      exact hc.elim (hcls c) (hmethod c)

/-- No separator is a character of verbs. -/
theorem freeOf_of_isTokenChar {s : String} (h : ∀ c ∈ s.toList, Verb.isTokenChar c = true) :
    FreeOf isSeparator s := by
  intro c hc
  have htoken := h c hc
  rw [Bool.eq_false_iff]
  intro hseparator
  have hchar : c = '\t' ∨ c = '\n' := by simpa [isSeparator, isTab, isNewline] using hseparator
  rcases hchar with rfl | rfl
  · cases htoken
  · cases htoken

/-- A verb that a kind fixes names itself. -/
theorem MappingKind.parse?_of_verb? {k : MappingKind} {verb : String} (h : k.verb? = some verb) :
    Verb.parse? verb = some verb := by
  cases k with
  | request => cases h
  | get | post | put | delete | patch =>
    cases h
    decide

namespace Annotation

variable {tree : SyntaxTree} {config : ScanConfig} {a : Annotation} {k : MappingKind}

theorem isTokenChar_of_mem_verbs {verb : String} (h : verb ∈ a.verbs tree) :
    ∀ c ∈ verb.toList, Verb.isTokenChar c = true := by
  obtain ⟨entry, -, hentry⟩ := List.mem_filterMap.1 (List.mem_eraseDups.1 h)
  exact Verb.isTokenChar_of_mem_verb hentry

theorem freeOf_intercalate_verbs :
    FreeOf isSeparator ("|".intercalate (a.verbs tree)) := by
  refine freeOf_of_isTokenChar fun c hc => ?_
  rw [String.toList_intercalate] at hc
  rcases Text.mem_of_mem_intercalate hc with hbar | ⟨s, hs, hcs⟩
  · rw [List.mem_singleton.1 hbar]
    rfl
  · obtain ⟨verb, hverb, rfl⟩ := List.mem_map.1 hs
    exact isTokenChar_of_mem_verbs hverb c hcs

/-- Only the wildcard can bring a separator into the verb of a route. -/
theorem freeOf_httpMethod_iff :
    FreeOf isSeparator (a.httpMethod tree config k) ↔
      (k.verb? = none → a.verbs tree = [] → FreeOf isSeparator config.wildcard) := by
  rw [httpMethod]
  cases hk : k.verb? with
  | some verb =>
    have hfree : FreeOf isSeparator verb :=
      freeOf_of_isTokenChar (Verb.isTokenChar_of_mem_verb (MappingKind.parse?_of_verb? hk))
    simp [hfree]
  | none =>
    by_cases hverbs : a.verbs tree = []
    · simp [hverbs]
    · simp [hverbs, freeOf_intercalate_verbs]

end Annotation

/-! ## Places -/

/-- The names and the label of the module are what counts in a place. -/
theorem Route.freeOf_location_iff {r : Route} {s : Site} {t : TypeDecl} {m : Method}
    {moduleOf : SourceHandle → Option String} (hsource : r.source = s.handle)
    (howner : s.owner = some t) (hmethod : s.method = some m) :
    FreeOf isNewline (r.location moduleOf) ↔
      FreeOf isNewline t.simpleName ∧ FreeOf isNewline m.name ∧
        ∀ label, (moduleOf s.handle).bind moduleLabel? = some label → FreeOf isNewline label := by
  have hdot : FreeOf isNewline "." := by decide
  have hopen : FreeOf isNewline " (" := by decide
  have hclose : FreeOf isNewline ")" := by decide
  have hsuffix : FreeOf isNewline (r.moduleSuffix moduleOf) ↔
      ∀ label, (moduleOf s.handle).bind moduleLabel? = some label → FreeOf isNewline label := by
    rw [← hsource]
    cases hlabel : (moduleOf r.source).bind moduleLabel? with
    | none =>
      rw [Route.moduleSuffix_of_none hlabel]
      simp [FreeOf]
    | some label =>
      rw [Route.moduleSuffix_of_some hlabel]
      simp [Text.freeOf_append, hopen, hclose]
  rw [Route.location_eq hsource howner hmethod, Text.freeOf_append, Text.freeOf_append,
    Text.freeOf_append, hsuffix]
  simp [hdot, and_assoc]

/-! ## Sites -/

namespace Site

/-- No text that a site puts into a label holds a tab or a newline, and none that it puts into a
place holds a newline. -/
structure IsListable (tree : SyntaxTree) (config : ScanConfig) (k : MappingKind) (s : Site) :
    Prop where
  /-- The wildcard stands in a label only where no verb is fixed or named. -/
  wildcard : k.verb? = none → s.subject.verbs tree = [] → FreeOf isSeparator config.wildcard
  classTexts : ∀ text ∈ s.classTexts tree config, FreeOf isSeparator text
  pathTexts : ∀ text ∈ s.subject.pathTexts tree, FreeOf isSeparator text
  paramTexts : ∀ text ∈ s.subject.paramTexts tree, FreeOf isSeparator text
  owner : ∀ t, s.owner = some t → FreeOf isNewline t.simpleName
  method : ∀ m, s.method = some m → FreeOf isNewline m.name
  module : ∀ label, (tree.moduleOf s.handle).bind moduleLabel? = some label → FreeOf isNewline label

variable {tree : SyntaxTree} {config : ScanConfig} {k : MappingKind} {s : Site} {m : Method}

/-- The texts that a route is made of. -/
theorem exists_texts_of_mem_routes {r : Route} (hm : s.method = some m)
    (hr : r ∈ s.routes tree config k) :
    r.verb = s.subject.httpMethod tree config k ∧ r.source = s.handle ∧
      r.params ∈ s.subject.paramTexts tree ∧
      ∃ cls ∈ s.classTexts tree config, ∃ method ∈ s.subject.pathTexts tree,
        r.path = ((fragment tree config m cls).join (fragment tree config m method)).text := by
  rw [routes, assemble_of_method k hm] at hr
  obtain ⟨⟨_, i⟩, hfirst, hr⟩ := List.mem_flatMap.1 hr
  obtain ⟨⟨_, j⟩, hsecond, hr⟩ := List.mem_flatMap.1 hr
  obtain ⟨⟨param, l⟩, hparam, rfl⟩ := List.mem_map.1 hr
  obtain ⟨cls, hcls, rfl⟩ := List.mem_map.1 (List.fst_mem_of_mem_zipIdx hfirst)
  obtain ⟨method, hmethod, rfl⟩ := List.mem_map.1 (List.fst_mem_of_mem_zipIdx hsecond)
  exact ⟨rfl, rfl, List.fst_mem_of_mem_zipIdx hparam, cls, hcls, method, hmethod, rfl⟩

/-- All texts are made into routes. -/
theorem exists_mem_routes_of_texts (k : MappingKind) (hm : s.method = some m) {cls method param : String}
    (hcls : cls ∈ s.classTexts tree config) (hmethod : method ∈ s.subject.pathTexts tree)
    (hparam : param ∈ s.subject.paramTexts tree) :
    ∃ r ∈ s.routes tree config k, r.verb = s.subject.httpMethod tree config k ∧
      r.source = s.handle ∧ r.params = param ∧
      r.path = ((fragment tree config m cls).join (fragment tree config m method)).text := by
  rw [routes, assemble_of_method k hm]
  obtain ⟨i, hi⟩ := List.mem_iff_getElem?.1 (List.mem_map_of_mem (f := fragment tree config m) hcls)
  obtain ⟨j, hj⟩ :=
    List.mem_iff_getElem?.1 (List.mem_map_of_mem (f := fragment tree config m) hmethod)
  obtain ⟨l, hl⟩ := List.mem_iff_getElem?.1 hparam
  exact ⟨_, List.mem_of_getElem? (s.getElem?_combinations _ _ _ _ hi hj hl), rfl, rfl, rfl, rfl⟩

theorem freeOf_text_join_fragment_iff {cls method : String} :
    FreeOf isSeparator ((fragment tree config m cls).join (fragment tree config m method)).text ↔
      FreeOf isSeparator cls ∧ FreeOf isSeparator method :=
  PathFragment.freeOf_text_join_iff

/-- **The routes of a site on a method are records** exactly where the site is listable. -/
theorem forall_isRecord_iff {t : TypeDecl} (howner : s.owner = some t) (hm : s.method = some m) :
    (∀ r ∈ s.routes tree config k, IsRecord (r.label, r.location tree.moduleOf)) ↔
      s.IsListable tree config k := by
  constructor
  · intro h
    -- what holds of the label and the place of each route holds of each choice of texts
    have htexts : ∀ cls ∈ s.classTexts tree config, ∀ method ∈ s.subject.pathTexts tree,
        ∀ param ∈ s.subject.paramTexts tree,
        (FreeOf isSeparator (s.subject.httpMethod tree config k) ∧
          (FreeOf isSeparator cls ∧ FreeOf isSeparator method) ∧ FreeOf isSeparator param) ∧
        FreeOf isNewline t.simpleName ∧ FreeOf isNewline m.name ∧
        ∀ label, (tree.moduleOf s.handle).bind moduleLabel? = some label →
          FreeOf isNewline label := by
      intro cls hcls method hmethod param hparam
      obtain ⟨r, hr, hverb, hsource, rfl, hpath⟩ :=
        exists_mem_routes_of_texts k hm hcls hmethod hparam
      obtain ⟨hlabel, hplace⟩ := isRecord_iff.1 (h r hr)
      rw [Route.freeOf_label_iff, hverb, hpath, freeOf_text_join_fragment_iff] at hlabel
      exact ⟨hlabel, (Route.freeOf_location_iff hsource howner hm).1 hplace⟩
    obtain ⟨cls₀, hcls₀⟩ := List.exists_mem_of_ne_nil _ (s.classTexts_ne_nil tree config)
    obtain ⟨method₀, hmethod₀⟩ := List.exists_mem_of_ne_nil _ (s.subject.pathTexts_ne_nil tree)
    obtain ⟨param₀, hparam₀⟩ := List.exists_mem_of_ne_nil _ (s.subject.paramTexts_ne_nil tree)
    obtain ⟨⟨hverb, -⟩, hname, hmethodName, hmodule⟩ :=
      htexts cls₀ hcls₀ method₀ hmethod₀ param₀ hparam₀
    exact {
      wildcard := Annotation.freeOf_httpMethod_iff.1 hverb
      classTexts := fun cls hcls => (htexts cls hcls method₀ hmethod₀ param₀ hparam₀).1.2.1.1
      pathTexts := fun method hmethod => (htexts cls₀ hcls₀ method hmethod param₀ hparam₀).1.2.1.2
      paramTexts := fun param hparam => (htexts cls₀ hcls₀ method₀ hmethod₀ param hparam).1.2.2
      owner := fun t' ht' => by
        rw [howner] at ht'
        cases ht'
        exact hname
      method := fun m' hm' => by
        rw [hm] at hm'
        cases hm'
        exact hmethodName
      module := hmodule }
  · intro h r hr
    obtain ⟨hverb, hsource, hparam, cls, hcls, method, hmethod, hpath⟩ :=
      exists_texts_of_mem_routes hm hr
    refine isRecord_iff.2 ⟨?_, ?_⟩
    · have hfree : FreeOf isSeparator (s.subject.httpMethod tree config k) :=
        Annotation.freeOf_httpMethod_iff.2 h.wildcard
      rw [Route.freeOf_label_iff, hverb, hpath, freeOf_text_join_fragment_iff]
      exact ⟨hfree, ⟨h.classTexts cls hcls, h.pathTexts method hmethod⟩, h.paramTexts _ hparam⟩
    · exact (Route.freeOf_location_iff hsource howner hm).2
        ⟨h.owner t howner, h.method m hm, h.module⟩

end Site

/-! ## Scans -/

theorem ScanReport.lines_eq_map_entry (modules : SyntaxTree) (report : ScanReport) :
    report.lines modules =
      (report.routes.map fun r => (r.label, r.location modules.moduleOf)).map entry := by
  rw [List.map_map]
  rfl

/-- **Reading a listing back.**  Printed one per line, the entries of a scan are read back as the
labels and places of its routes exactly where each entry is a single line with its first tab between
label and place.  That is so exactly where at each site on a method no text of the label holds a tab
or a newline and no text of the place holds a newline. -/
theorem records_scan_iff (tree : SyntaxTree) (config : ScanConfig) :
    let report := tree.scan config
    let pairs := report.routes.map fun r => (r.label, r.location tree.moduleOf)
    (records (Command.linesText (report.lines tree)) = pairs.map some ↔
      ∀ r ∈ report.routes, FreeOf isNewline (r.line tree.moduleOf) ∧
        fields? (r.line tree.moduleOf) = some (r.label, r.location tree.moduleOf)) ∧
    ((∀ r ∈ report.routes, FreeOf isNewline (r.line tree.moduleOf) ∧
        fields? (r.line tree.moduleOf) = some (r.label, r.location tree.moduleOf)) ↔
      ∀ k ∈ config.kinds, ∀ s ∈ tree.occurrences k.qualifiedName, s.method.isSome = true →
        s.IsListable tree config k) := by
  intro report pairs
  have hrecord : ∀ r : Route, IsRecord (r.label, r.location tree.moduleOf) ↔
      FreeOf isNewline (r.line tree.moduleOf) ∧
        fields? (r.line tree.moduleOf) = some (r.label, r.location tree.moduleOf) := fun _ => .rfl
  simp only [← hrecord]
  constructor
  · rw [report.lines_eq_map_entry tree, records_linesText_iff, List.forall_mem_map]
  · have hroutes : report.routes = _ := routes_collect_sites tree tree config
    rw [hroutes]
    simp only [List.forall_mem_flatMap]
    refine forall₂_congr fun k _ => forall₂_congr fun s hs => ?_
    cases hm : s.method with
    | none =>
      simp [Site.routes_of_no_method k hm]
    | some m =>
      obtain ⟨u, t, hstands⟩ := SyntaxTree.exists_standsOn hs
      rw [Site.forall_isRecord_iff hstands.owner hm]
      simp

/-- `Shop.list` is mapped to what a call gives that is written on two lines, the second behind a
tab. -/
def twoLineTree : SyntaxTree :=
  ⟨[{ types :=
      [{ qualifiedName := "Shop"
         methods := [.mappedTo "list" (.other "Routes.of(\n\tLIST)")] }] }]⟩

/-- The call is shown as it is written, so its route takes two lines, and the first tab stands inside
of the call. -/
theorem records_scan_twoLineTree :
    let report := twoLineTree.scan {}
    let pairs := report.routes.map fun r => (r.label, r.location twoLineTree.moduleOf)
    let label := "GET /Routes.of(\n\tLIST)"
    let line := "GET /Routes.of(\n\tLIST)\tShop.list"
    pairs = [(label, "Shop.list")] ∧ report.lines twoLineTree = [line] ∧
      ¬ FreeOf isNewline line ∧
      fields? line = some ("GET /Routes.of(\n", "LIST)\tShop.list") ∧
      records (Command.linesText (report.lines twoLineTree)) =
        [none, some ("", "LIST)\tShop.list")] ∧
      records (Command.linesText (report.lines twoLineTree)) ≠ pairs.map some := by
  intro report pairs label line
  have hentry : (Expr.other "Routes.of(\n\tLIST)").entryText twoLineTree =
      "Routes.of(\n\tLIST)" := by
    have hfold : (Expr.other "Routes.of(\n\tLIST)").fold twoLineTree = "" := by
      simp [Expr.fold, Expr.foldIn, Piece.text]
    rw [Expr.entryText, hfold]
    decide
  have hpairs : pairs = [(label, "Shop.list")] := by
    have hread : pairs = [("GET " ++ String.ofList (Path.joinText []
        ((Expr.other "Routes.of(\n\tLIST)").entryText twoLineTree).toList), "Shop.list")] := rfl
    rw [hread, hentry]
    decide
  have hlines : report.lines twoLineTree = [line] := by
    have hmap : report.lines twoLineTree = pairs.map entry := report.lines_eq_map_entry twoLineTree
    rw [hmap, hpairs]
    decide
  rw [hlines, hpairs]
  exact ⟨rfl, rfl, by decide, by decide, by decide, by decide⟩

end RouteAtlas
