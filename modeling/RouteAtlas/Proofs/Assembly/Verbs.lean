import Mathlib
import RouteAtlas.Proofs.Assembly.Combinations
import RouteAtlas.Proofs.Attribute
import RouteAtlas.Proofs.FirstAppearance
import RouteAtlas.Proofs.Mapping.Verb

/-!
# RouteAtlas.Proofs.Assembly.Verbs — the verbs of a generic annotation

A generic annotation stands for the verbs that the entries of its `method` name, whichever way they
are spelled.  An entry that names none adds nothing, and neither does one that names a verb again.
The main statements say which verb the routes get, and when the verbs can be told from it.
-/

namespace RouteAtlas.Annotation

variable {tree : SyntaxTree} {config : ScanConfig} {a : Annotation}

theorem firstAppearances_verbs (tree : SyntaxTree) (a : Annotation) :
    FirstAppearances Verb.parse? (a.read tree "method") (a.verbs tree) :=
  firstAppearances_eraseDups _ _

theorem verbs_ne_nil (h : ∃ entry ∈ a.read tree "method", (Verb.parse? entry).isSome = true) :
    a.verbs tree ≠ [] := by
  obtain ⟨entry, hentry, hsome⟩ := h
  obtain ⟨verb, hverb⟩ := Option.isSome_iff_exists.1 hsome
  exact List.ne_nil_of_mem (((firstAppearances_verbs tree a).mem_iff verb).2 ⟨entry, hentry, hverb⟩)

theorem httpMethod_of_verbs_ne_nil (h : a.verbs tree ≠ []) :
    a.httpMethod tree config .request = "|".intercalate (a.verbs tree) := by
  simp [httpMethod, MappingKind.verb?, h]

theorem httpMethod_of_no_verb (h : ∀ entry ∈ a.read tree "method", Verb.parse? entry = none) :
    a.httpMethod tree config .request = config.wildcard := by
  have hnil : a.verbs tree = [] := by
    rw [verbs, List.filterMap_eq_nil_iff.2 h, List.eraseDups_nil]
  simp [httpMethod, MappingKind.verb?, hnil]

theorem verbs_of_array {es : List Expr} (h : a.attribute? "method" = some (.array es)) :
    a.verbs tree = (es.filterMap fun e => Verb.parse? (e.entryText tree)).eraseDups := by
  rw [verbs, read_of_array h, List.filterMap_map, Function.comp_def]

/-- **The verb of a route.**  A generic annotation gives the wildcard when no entry of its `method`
names a verb, and otherwise the verbs that its entries name, each once, in the order of first
appearance and with bars between them.  An element of an array changes nothing when it is read as a
text that names no verb, or that names the verb of an element before it; such texts may differ in
their qualifications and in the case of letters.  All other annotations have the verb of their
kind. -/
theorem httpMethod_eq_verbs (tree : SyntaxTree) (config : ScanConfig) (a : Annotation) :
    FirstAppearances Verb.parse? (a.read tree "method") (a.verbs tree) ∧
    ((∀ entry ∈ a.read tree "method", Verb.parse? entry = none) →
      a.httpMethod tree config .request = config.wildcard) ∧
    ((∃ entry ∈ a.read tree "method", (Verb.parse? entry).isSome = true) →
      a.httpMethod tree config .request = "|".intercalate (a.verbs tree)) ∧
    (∀ xs e ys, a.attribute? "method" = some (.array (xs ++ ys)) →
      (Verb.parse? (e.entryText tree) = none ∨
        ∃ x ∈ xs, Verb.parse? (e.entryText tree) = Verb.parse? (x.entryText tree)) →
      ∀ a' : Annotation, a'.attribute? "method" = some (.array (xs ++ e :: ys)) →
        a'.httpMethod tree config .request = a.httpMethod tree config .request) ∧
    (∀ s t, MappingKind.sameLetters s t = true →
      Verb.parse? s = Verb.parse? t ∧ ∀ q, Verb.parse? (q ++ "." ++ s) = Verb.parse? t) ∧
    ∀ k, k ≠ .request → k.verb? = some (a.httpMethod tree config k) := by
  refine ⟨firstAppearances_verbs tree a, httpMethod_of_no_verb,
    fun hsome => httpMethod_of_verbs_ne_nil (verbs_ne_nil hsome), fun xs e ys ha he a' ha' => ?_,
    fun s t hst => ?_, fun k hk => ?_⟩
  · have hverbs : a'.verbs tree = a.verbs tree := by
      rw [verbs_of_array ha', verbs_of_array ha]
      exact eraseDups_filterMap_insert he ys
    rw [httpMethod, httpMethod, hverbs]
  · refine ⟨Verb.parse?_of_sameLetters hst, fun q => ?_⟩
    rw [Verb.parse?_qualified, Verb.parse?_of_sameLetters hst]
  · cases k with
    | request => exact absurd rfl hk
    | get | post | put | delete | patch => rfl

/-- A generic mapping with the elements as its request methods. -/
def genericMapping (es : List Expr) : Annotation where
  qualifiedName := MappingKind.request.qualifiedName
  attributes := .ofList [("method", .array es)]

/-- The name `RequestMethod.GET`, which means no known constant, is read as it is written, and
`web.get` names its verb again. -/
theorem httpMethod_eq_verbs_respelled :
    let get : Expr := .reference "RequestMethod.GET" none
    let again : Expr := .string "web.get"
    let post : Expr := .string "post"
    Verb.parse? (again.entryText {}) = Verb.parse? (get.entryText {}) ∧
      (genericMapping [get, again, post]).httpMethod {} {} .request =
        (genericMapping [get, post]).httpMethod {} {} .request ∧
      (genericMapping [get, post]).httpMethod {} {} .request = "GET|POST" := by
  intro get again post
  have hget : get.entryText {} = "RequestMethod.GET" := Expr.entryText_unresolved {} (by decide)
  have hagain : again.entryText {} = "web.get" := Expr.entryText_string {} (by decide)
  have hpost : post.entryText {} = "post" := Expr.entryText_string {} (by decide)
  have hread : (genericMapping [get, post]).read {} "method" = ["RequestMethod.GET", "post"] := by
    have hmethod : (genericMapping [get, post]).attribute? "method" = some (.array [get, post]) :=
      rfl
    rw [read_of_array hmethod]
    simp [hget, hpost]
  have hsame : Verb.parse? (again.entryText {}) = Verb.parse? (get.entryText {}) := by
    rw [hget, hagain]
    decide
  obtain ⟨-, -, hverbs, hinsert, -, -⟩ := httpMethod_eq_verbs {} {} (genericMapping [get, post])
  refine ⟨hsame, ?_, ?_⟩
  · exact hinsert [get] again [post] rfl (.inr ⟨get, List.mem_cons_self, hsame⟩) _ rfl
  · rw [hverbs ⟨"post", by simp [hread], by decide⟩, verbs, hread]
    decide

/-- **Reading the verbs back.**  Cut at its bars, the verb of a generic annotation that names any is
the list of the pieces that its verbs have between their own bars.  So the distinct verbs are read
back in order exactly where none of them holds a bar. -/
theorem split_httpMethod (tree : SyntaxTree) (config : ScanConfig) (a : Annotation)
    (h : ∃ entry ∈ a.read tree "method", (Verb.parse? entry).isSome = true) :
    FirstAppearances Verb.parse? (a.read tree "method") (a.verbs tree) ∧
      Verb.split (a.httpMethod tree config .request) = (a.verbs tree).flatMap Verb.split ∧
      (Verb.split (a.httpMethod tree config .request) = a.verbs tree ↔
        ∀ verb ∈ a.verbs tree, '|' ∉ verb.toList) := by
  have hsplit : Verb.split (a.httpMethod tree config .request) =
      (a.verbs tree).flatMap Verb.split := by
    rw [httpMethod_of_verbs_ne_nil (verbs_ne_nil h), Verb.split_intercalate (verbs_ne_nil h)]
  refine ⟨firstAppearances_verbs tree a, hsplit, ?_⟩
  rw [hsplit]
  exact Verb.flatMap_split_eq_self_iff

theorem read_genericMapping_string (tree : SyntaxTree) {texts : List String}
    (h : ∀ s ∈ texts, Text.isBlank s = false) :
    (genericMapping (texts.map .string)).read tree "method" = texts := by
  have hmethod : (genericMapping (texts.map .string)).attribute? "method" =
      some (.array (texts.map .string)) := rfl
  rw [read_of_array hmethod, List.map_map]
  exact (List.map_congr_left fun s hs => Expr.entryText_string tree (h s hs)).trans
    (List.map_id texts)

/-- The verb `post` is spelled in two ways and read back once. -/
theorem split_httpMethod_respelled :
    let texts := ["RequestMethod.POST", "get", "post"]
    let a := genericMapping (texts.map .string)
    a.read {} "method" = texts ∧ (∃ entry ∈ texts, (Verb.parse? entry).isSome = true) ∧
      Verb.split (a.httpMethod {} {} .request) = ["POST", "GET"] := by
  intro texts a
  have hread : a.read {} "method" = texts := read_genericMapping_string {} (by decide)
  have hsome : ∃ entry ∈ texts, (Verb.parse? entry).isSome = true := by decide
  have hverbs : a.verbs {} = ["POST", "GET"] := by
    rw [verbs, hread]
    decide
  obtain ⟨-, -, hback⟩ := split_httpMethod {} {} a (by rw [hread]; exact hsome)
  rw [hverbs] at hback
  exact ⟨hread, hsome, hback.2 (by decide)⟩

/-- A verb may hold a bar itself: the entries `GET|POST` and `GET` name two verbs, and three pieces
are read back of them. -/
theorem split_httpMethod_barred :
    let texts := ["GET|POST", "GET"]
    let a := genericMapping (texts.map .string)
    a.read {} "method" = texts ∧ texts.map Verb.parse? = [some "GET|POST", some "GET"] ∧
      a.httpMethod {} {} .request = "GET|POST|GET" ∧
      Verb.split (a.httpMethod {} {} .request) = ["GET", "POST", "GET"] ∧
      ¬ (Verb.split (a.httpMethod {} {} .request)).Nodup ∧
      Verb.split (a.httpMethod {} {} .request) ≠ a.verbs {} := by
  intro texts a
  have hread : a.read {} "method" = texts := read_genericMapping_string {} (by decide)
  have hverbs : a.verbs {} = ["GET|POST", "GET"] := by
    rw [verbs, hread]
    decide
  have hjoined : a.httpMethod {} {} .request = "GET|POST|GET" := by
    rw [httpMethod_of_verbs_ne_nil (by simp [hverbs]), hverbs]
    decide
  have hsplit : Verb.split "GET|POST|GET" = ["GET", "POST", "GET"] := by decide
  rw [hjoined, hsplit, hverbs]
  exact ⟨hread, by decide, rfl, rfl, by decide, by decide⟩

end RouteAtlas.Annotation
