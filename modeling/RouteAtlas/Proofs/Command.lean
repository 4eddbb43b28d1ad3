import Mathlib
import RouteAtlas.Command
import RouteAtlas.Proofs.Load
import RouteAtlas.Proofs.Options
import RouteAtlas.Proofs.Scan.ByType

/-!
# RouteAtlas.Proofs.Command — when a scan fails

A scan fails for what cannot be loaded, and where it is asked to also for issues.  Issues come from
annotations on types only, so the main statement says when a scan fails in terms of the files and the
options alone.
-/

namespace RouteAtlas

/-! ## Scans with issues -/

/-- The annotation is of a kind that is looked for and is no class mapping, so it has no place on a
type. -/
def Annotation.IsMisplaced (config : ScanConfig) (a : Annotation) : Prop :=
  (∃ k ∈ config.kinds, a.qualifiedName = k.qualifiedName) ∧ a.qualifiedName ≠ config.classMapping

theorem issues_scan_ne_nil_iff {tree : SyntaxTree} {config : ScanConfig} :
    (tree.scan config).issues ≠ [] ↔
      ∃ t ∈ tree.types, ∃ a ∈ t.annotations, a.IsMisplaced config := by
  rw [SyntaxTree.scan, issues_collect_types]
  constructor
  · intro h
    obtain ⟨i, hi⟩ := List.exists_mem_of_ne_nil _ h
    obtain ⟨k, hk, hi⟩ := List.mem_flatMap.1 hi
    obtain ⟨t, ht, hi⟩ := List.mem_flatMap.1 hi
    obtain ⟨a, ha, -⟩ := List.mem_map.1 hi
    obtain ⟨hk, hclass⟩ := List.mem_filter.1 hk
    obtain ⟨ha, hkind⟩ := List.mem_filter.1 ha
    have hkind : a.qualifiedName = k.qualifiedName := by simpa using hkind
    have hclass : k.qualifiedName ≠ config.classMapping := by simpa using hclass
    exact ⟨t, ht, a, ha, ⟨k, hk, hkind⟩, hkind ▸ hclass⟩
  · rintro ⟨t, ht, a, ha, ⟨k, hk, hkind⟩, hclass⟩
    have hk' : k ∈ config.kinds.filter (·.qualifiedName != config.classMapping) :=
      List.mem_filter.2 ⟨hk, by simpa [← hkind] using hclass⟩
    have hissue : t.misplaced a ∈ t.issues k :=
      List.mem_map_of_mem (List.mem_filter.2 ⟨ha, by simpa using hkind⟩)
    exact List.ne_nil_of_mem (List.mem_flatMap.2 ⟨k, hk', List.mem_flatMap.2 ⟨t, ht, hissue⟩⟩)

/-- The environment changes the wildcard only, so misplaced annotations stay the same. -/
theorem Annotation.isMisplaced_withEnvironment_iff {config : ScanConfig} {a : Annotation}
    (env : String → Option String) :
    a.IsMisplaced (config.withEnvironment env) ↔ a.IsMisplaced config := by
  rw [ScanConfig.withEnvironment]
  split
  · split <;> rfl
  · rfl

/-! ## Loading -/

namespace ScanOptions

variable {readers : Readers} {content : String → Option String} {o : ScanOptions}
  {config : ScanConfig} {tree : SyntaxTree}

/-- The file of the settings holds none, or that of the tree holds none. -/
def CannotLoad (readers : Readers) (content : String → Option String) (o : ScanOptions) : Prop :=
  (∃ file, o.config = some file ∧ ¬ ∃ config, readers.HoldsConfig content file config) ∨
    ¬ ∃ tree, readers.HoldsTree content o.tree tree

/-- The files hold the settings and the tree; without a file the settings are the default. -/
structure Loads (readers : Readers) (content : String → Option String) (o : ScanOptions)
    (config : ScanConfig) (tree : SyntaxTree) : Prop where
  default : o.config = none → config = {}
  config : ∀ file, o.config = some file → readers.HoldsConfig content file config
  tree : readers.HoldsTree content o.tree tree

theorem cannotLoad_or_loads (readers : Readers) (content : String → Option String)
    (o : ScanOptions) :
    o.CannotLoad readers content ∨ ∃ config tree, o.Loads readers content config tree := by
  by_cases htree : ∃ tree, readers.HoldsTree content o.tree tree
  · obtain ⟨tree, htree⟩ := htree
    cases hfile : o.config with
    | none => exact .inr ⟨{}, tree, fun _ => rfl, by simp [hfile], htree⟩
    | some file =>
      by_cases hconfig : ∃ config, readers.HoldsConfig content file config
      · obtain ⟨config, hconfig⟩ := hconfig
        exact .inr ⟨config, tree, by simp [hfile], by simpa [hfile] using hconfig, htree⟩
      · exact .inl (.inl ⟨file, hfile, hconfig⟩)
  · exact .inl (.inr htree)

theorem Loads.not_cannotLoad (h : o.Loads readers content config tree) :
    ¬ o.CannotLoad readers content := by
  rintro (⟨file, hfile, hnone⟩ | hnone)
  · exact hnone ⟨config, h.config file hfile⟩
  · exact hnone ⟨tree, h.tree⟩

/-- How a report is written has no part in what is loaded. -/
theorem loads_withFormat_iff (format : OutputFormat) :
    ({ o with format } : ScanOptions).Loads readers content config tree ↔
      o.Loads readers content config tree :=
  ⟨fun h => ⟨h.default, h.config, h.tree⟩, fun h => ⟨h.default, h.config, h.tree⟩⟩

theorem cannotLoad_withFormat_iff (format : OutputFormat) :
    ({ o with format } : ScanOptions).CannotLoad readers content ↔ o.CannotLoad readers content :=
  .rfl

end ScanOptions

/-! ## Answers -/

namespace Command

variable {readers : Readers} {w : World} {args : List String} {o : ScanOptions}
  {config : ScanConfig} {tree : SyntaxTree}

theorem scanConfig_of_loads (h : o.Loads readers w.content config tree) :
    scanConfig readers w o = .ok (config.withEnvironment w.env) := by
  unfold scanConfig
  cases hfile : o.config with
  | none =>
    rw [h.default hfile]
    rfl
  | some file =>
    simp only [ScanConfig.load_eq_ok_iff.2 (h.config file hfile)]
    rfl

/-- A scan that has what it needs fails for issues alone, where it is asked to. -/
theorem code_scan_of_loads (notes : List String) (h : o.Loads readers w.content config tree) :
    (scan readers w notes o).code =
      if o.failOnIssues && !(tree.scan (config.withEnvironment w.env)).issues.isEmpty then 1
      else 0 := by
  unfold scan
  rw [scanConfig_of_loads h]
  simp only [SyntaxTree.load_eq_ok_iff.2 h.tree]
  cases o.format <;> rfl

theorem output_scan_of_loads (notes : List String) (h : o.Loads readers w.content config tree)
    (htext : o.format = .text) :
    (scan readers w notes o).output =
      linesText ((tree.scan (config.withEnvironment w.env)).lines tree) := by
  unfold scan
  rw [scanConfig_of_loads h]
  simp only [SyntaxTree.load_eq_ok_iff.2 h.tree, htext]

/-- What a scan answers when something cannot be loaded. -/
theorem scan_of_cannotLoad (notes : List String) (h : o.CannotLoad readers w.content) :
    ∃ e, scan readers w notes o = failed notes e := by
  cases hconfig : scanConfig readers w o with
  -- settings that cannot be loaded are noticed first
  | error e => exact ⟨e, by rw [scan, hconfig]⟩
  | ok used =>
    cases htree : SyntaxTree.load readers o.tree (w.content o.tree) with
    | error e =>
      refine ⟨e, ?_⟩
      rw [scan, hconfig]
      simp only [htree]
    | ok tree =>
      rcases h with ⟨file, hfile, hnone⟩ | hnone
      · rw [scanConfig, hfile] at hconfig
        obtain ⟨config, hload, -⟩ := bind_eq_ok_iff.1 hconfig
        exact absurd ⟨config, ScanConfig.load_eq_ok_iff.1 hload⟩ hnone
      · exact absurd ⟨tree, SyntaxTree.load_eq_ok_iff.1 htree⟩ hnone

theorem code_scan_eq_zero_or_one (readers : Readers) (w : World) (notes : List String)
    (o : ScanOptions) :
    (scan readers w notes o).code = 0 ∨ (scan readers w notes o).code = 1 := by
  rcases ScanOptions.cannotLoad_or_loads readers w.content o with hload | ⟨config, tree, hload⟩
  · obtain ⟨e, he⟩ := scan_of_cannotLoad notes hload
    rw [he]
    exact .inr rfl
  · rw [code_scan_of_loads notes hload]
    split
    · exact .inr rfl
    · exact .inl rfl

theorem code_scan_eq_one_iff_of_loads (notes : List String)
    (h : o.Loads readers w.content config tree) :
    (scan readers w notes o).code = 1 ↔
      o.failOnIssues = true ∧ ∃ t ∈ tree.types, ∃ a ∈ t.annotations, a.IsMisplaced config := by
  have hissues : (tree.scan (config.withEnvironment w.env)).issues ≠ [] ↔
      ∃ t ∈ tree.types, ∃ a ∈ t.annotations, a.IsMisplaced config := by
    simp only [issues_scan_ne_nil_iff, Annotation.isMisplaced_withEnvironment_iff]
  rw [code_scan_of_loads notes h, ← hissues]
  simp

/-- When a scan fails, from what is in the files. -/
theorem code_scan_eq_one_iff (readers : Readers) (w : World) (notes : List String)
    (o : ScanOptions) :
    (scan readers w notes o).code = 1 ↔
      o.CannotLoad readers w.content ∨
        o.failOnIssues = true ∧ ∃ config tree, o.Loads readers w.content config tree ∧
          ∃ t ∈ tree.types, ∃ a ∈ t.annotations, a.IsMisplaced config := by
  constructor
  · intro hcode
    refine (ScanOptions.cannotLoad_or_loads readers w.content o).imp_right ?_
    rintro ⟨config, tree, hload⟩
    obtain ⟨hflag, hmisplaced⟩ := (code_scan_eq_one_iff_of_loads notes hload).1 hcode
    exact ⟨hflag, config, tree, hload, hmisplaced⟩
  · rintro (hload | ⟨hflag, config, tree, hload, hmisplaced⟩)
    · obtain ⟨e, he⟩ := scan_of_cannotLoad notes hload
      rw [he]
      rfl
    · exact (code_scan_eq_one_iff_of_loads notes hload).2 ⟨hflag, hmisplaced⟩

/-- The format and the environment have no part in the exit code. -/
theorem code_scan_congr (readers : Readers) (w : World) (o : ScanOptions)
    (env : String → Option String) (format : OutputFormat) (notes notes' : List String) :
    (scan readers { w with env } notes' { o with format }).code =
      (scan readers w notes o).code := by
  have hcode := code_scan_eq_one_iff readers w notes o
  have hcode' := code_scan_eq_one_iff readers { w with env } notes' { o with format }
  simp only [ScanOptions.cannotLoad_withFormat_iff, ScanOptions.loads_withFormat_iff] at hcode'
  -- the codes are 0 or 1, and 1 for the same files and the same wish to fail
  have hone := hcode'.trans hcode.symm
  have hcodes := code_scan_eq_zero_or_one readers w notes o
  have hcodes' := code_scan_eq_zero_or_one readers { w with env } notes' { o with format }
  omega

theorem run_of_parse (readers : Readers) (w : World) (h : Options.parse args = .ok (.scan o)) :
    run readers w args = scan readers w (Log.Settings.ofEnvironment w.env).warnings o := by
  rw [run, h]

/-- **Answers of scans**, however texts are read.  A scan fails exactly where the settings or the
tree cannot be loaded, or where it is asked to fail for issues and a type has an annotation of a kind
of the settings that is no class mapping.  Neither the environment nor the format, which may be
chosen freely, changes the exit code.  A scan without settings or tree writes nothing; any other one
writes the lines of its report if text is asked for, each with a newline behind it. -/
theorem run_scan (readers : Readers) (w : World) {args : List String} {o : ScanOptions}
    (h : Options.parse args = .ok (.scan o)) :
    ((run readers w args).code = 1 ↔
      o.CannotLoad readers w.content ∨
        o.failOnIssues = true ∧ ∃ config tree, o.Loads readers w.content config tree ∧
          ∃ t ∈ tree.types, ∃ a ∈ t.annotations, a.IsMisplaced config) ∧
    ((run readers w args).code = 0 ∨ (run readers w args).code = 1) ∧
    (∀ env format, (∃ args', Options.parse args' = .ok (.scan { o with format })) ∧
      ∀ args', Options.parse args' = .ok (.scan { o with format }) →
        (run readers { w with env } args').code = (run readers w args).code) ∧
    (o.CannotLoad readers w.content → (run readers w args).output = "") ∧
    (¬ o.CannotLoad readers w.content →
      ∃ config tree, o.Loads readers w.content config tree) ∧
    (∀ config tree, o.Loads readers w.content config tree → o.format = .text →
      (run readers w args).output.toList =
        ((tree.scan (config.withEnvironment w.env)).lines tree).flatMap fun line =>
          line.toList ++ ['\n']) := by
  rw [run_of_parse readers w h]
  refine ⟨code_scan_eq_one_iff readers w _ o, code_scan_eq_zero_or_one readers w _ o,
    fun env format => ⟨?_, fun args' h' => ?_⟩, fun hload => ?_, fun hload => ?_,
    fun config tree hload htext => ?_⟩
  · -- which scans can be asked for does not depend on the format
    have hnames := Options.exists_parse_eq_scan_iff.1 ⟨args, h⟩
    exact Options.exists_parse_eq_scan_iff.2 hnames
  · rw [run_of_parse readers _ h']
    exact code_scan_congr readers w o env format _ _
  · obtain ⟨e, he⟩ := scan_of_cannotLoad _ hload
    rw [he]
    rfl
  · exact (ScanOptions.cannotLoad_or_loads readers w.content o).resolve_left hload
  · rw [output_scan_of_loads _ hload htext, toList_linesText]

/-- The type `Shop` with a `GET` annotation on it, which is misplaced, and one on its method. -/
def shopTree : SyntaxTree :=
  ⟨[{ types :=
      [{ qualifiedName := "Shop"
         annotations := [{ qualifiedName := MappingKind.get.qualifiedName }]
         methods := [.mappedTo "list" (.other "/list")] }] }]⟩

/-- The tree in writing, all fields but the attributes in lists. -/
def shopText : String :=
  "[[[null, [[\"Shop\", [[\"org.springframework.web.bind.annotation.GetMapping\"]], [[\"list\", [],
    [[\"org.springframework.web.bind.annotation.GetMapping\",
      \x7b\"path\": \x7b\"kind\": \"other\", \"text\": \"/list\"\x7d\x7d]]]]]]]]]"

/-- One file, with the tree. -/
def shopWorld : World where
  env _ := none
  content file := if file == "shop.json" then some shopText else none

theorem holdsTree_shopWorld :
    Readers.standard.HoldsTree shopWorld.content "shop.json" shopTree := by
  have hmedium : Medium.OfTree "shop.json" .json := Medium.ofTreeFile_eq_iff.1 (by decide)
  have hread : Readers.standard.tree .json shopText = .ok shopTree := by cbv
  exact ⟨.json, shopText, hmedium, rfl, hread⟩

theorem lines_scan_shopTree : (shopTree.scan {}).lines shopTree = ["GET /list\tShop.list"] := by
  have hentry : (Expr.other "/list").entryText shopTree = "/list" := by
    have hfold : (Expr.other "/list").fold shopTree = "" := by
      simp [Expr.fold, Expr.foldIn, Piece.text]
    rw [Expr.entryText, hfold]
    decide
  have hline : (shopTree.scan {}).lines shopTree =
      ["GET " ++ String.ofList
        (Path.joinText [] ((Expr.other "/list").entryText shopTree).toList) ++
          "\t" ++ "Shop.list"] := rfl
  rw [hline, hentry]
  decide

/-- The route is printed whether the misplaced annotation makes the scan fail or not; in the other
format it fails as well, and without the file it writes nothing. -/
theorem run_scan_shopWorld :
    let args := ["scan", "--tree", "shop.json"]
    let strict := ["scan", "--tree", "shop.json", "--fail-on-issues"]
    let strictJson := ["scan", "--tree", "shop.json", "--fail-on-issues", "--format=json"]
    let missing := ["scan", "--tree", "shop.yaml"]
    let answer := run .standard shopWorld
    Options.parse args = .ok (.scan { tree := "shop.json" }) ∧
      (answer args).code = 0 ∧ (answer args).output = "GET /list\tShop.list\n" ∧
      Options.parse strict = .ok (.scan { tree := "shop.json", failOnIssues := true }) ∧
      (answer strict).code = 1 ∧ (answer strict).output = "GET /list\tShop.list\n" ∧
      (answer strictJson).code = 1 ∧
      Options.parse missing = .ok (.scan { tree := "shop.yaml" }) ∧
      (answer missing).code = 1 ∧ (answer missing).output = "" := by
  have hargs : Options.parse ["scan", "--tree", "shop.json"] =
      .ok (.scan { tree := "shop.json" }) := rfl
  have hstrict : Options.parse ["scan", "--tree", "shop.json", "--fail-on-issues"] =
      .ok (.scan { tree := "shop.json", failOnIssues := true }) := rfl
  have hjson : Options.parse ["scan", "--tree", "shop.json", "--fail-on-issues", "--format=json"] =
      .ok (.scan { tree := "shop.json", format := .json, failOnIssues := true }) := rfl
  have hmissing : Options.parse ["scan", "--tree", "shop.yaml"] =
      .ok (.scan { tree := "shop.yaml" }) := rfl
  have hconfig : ∀ file, (none : Option String) = some file →
      Readers.standard.HoldsConfig shopWorld.content file {} := by
    intro file hfile
    cases hfile
  have hloads : ∀ failOnIssues, ({ tree := "shop.json", failOnIssues } : ScanOptions).Loads
      .standard shopWorld.content {} shopTree :=
    fun _ => ⟨fun _ => rfl, hconfig, holdsTree_shopWorld⟩
  have hcannot : ({ tree := "shop.yaml" } : ScanOptions).CannotLoad .standard
      shopWorld.content := by
    right
    rintro ⟨tree, medium, text, -, htext, -⟩
    cases htext
  have hprinted : ((shopTree.scan {}).lines shopTree).flatMap (fun line => line.toList ++ ['\n']) =
      "GET /list\tShop.list\n".toList := by
    rw [lines_scan_shopTree]
    decide
  obtain ⟨hcode, hcodes, -, -, -, houtput⟩ := run_scan .standard shopWorld hargs
  obtain ⟨hcode', -, hsame, -, -, houtput'⟩ := run_scan .standard shopWorld hstrict
  obtain ⟨hcode'', -, -, hnothing, -⟩ := run_scan .standard shopWorld hmissing
  have hfails := hcode'.2 (.inr ⟨rfl, {}, shopTree, hloads true, _, .head _, _, .head _,
    ⟨MappingKind.get, by decide, rfl⟩, by decide⟩)
  have hpasses := hcodes.resolve_right fun hone => by
    rcases hcode.1 hone with hcannot | ⟨hflag, -⟩
    · exact (hloads false).not_cannotLoad hcannot
    · cases hflag
  refine ⟨hargs, hpasses, ?_, hstrict, hfails, ?_, ?_, hmissing, hcode''.2 (.inl hcannot),
    hnothing hcannot⟩
  · exact String.toList_inj.1 ((houtput {} shopTree (hloads false) rfl).trans hprinted)
  · exact String.toList_inj.1 ((houtput' {} shopTree (hloads true) rfl).trans hprinted)
  · exact ((hsame shopWorld.env .json).2 _ hjson).trans hfails

end Command

end RouteAtlas
