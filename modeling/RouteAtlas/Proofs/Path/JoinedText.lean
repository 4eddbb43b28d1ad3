import Mathlib.Data.List.DropRight
import RouteAtlas.Path
import RouteAtlas.Proofs.Text.Segments

/-!
# RouteAtlas.Proofs.Path.JoinedText — the text of a joined path

A joined path is the class path and the method path but for slashes: those at its start and at the
seam (`exists_joinText_eq`).  So its segments are those of the two paths.  The main statement says
when a joined path is empty, how it starts, which segments it has, how it reads where both paths
have any, and that slashes at the seam do not matter.
-/

namespace RouteAtlas

namespace Path

/-! ## Slashes -/

/-- Nothing but slashes. -/
def Slashes (cs : List Char) : Prop := ∀ c ∈ cs, c = '/'

variable {cs ss : List Char}

theorem slashes_nil : Slashes [] := List.forall_mem_nil _

theorem slashes_cons_iff {c : Char} : Slashes (c :: cs) ↔ c = '/' ∧ Slashes cs :=
  List.forall_mem_cons

theorem slashes_singleton : Slashes ['/'] := slashes_cons_iff.2 ⟨rfl, slashes_nil⟩

theorem Slashes.beq_slash (h : Slashes ss) : ∀ c ∈ ss, (c == '/') = true := fun c hc => by
  simp [h c hc]

theorem Slashes.not_mem (h : Slashes ss) {c : Char} (hc : c ≠ '/') : c ∉ ss := fun hmem =>
  hc (h c hmem)

theorem exists_trimSlashesStart (cs : List Char) :
    ∃ ss, Slashes ss ∧ cs = ss ++ trimSlashesStart cs := by
  refine ⟨cs.takeWhile (· == '/'), fun c hc => ?_, List.takeWhile_append_dropWhile.symm⟩
  simpa using List.mem_takeWhile_imp hc

theorem exists_trimSlashesEnd (cs : List Char) :
    ∃ ss, Slashes ss ∧ cs = trimSlashesEnd cs ++ ss := by
  refine ⟨cs.rtakeWhile (· == '/'), fun c hc => ?_, List.rdropWhile_append_rtakeWhile.symm⟩
  simpa using List.mem_rtakeWhile_imp hc

theorem trimSlashesStart_append (h : Slashes ss) (cs : List Char) :
    trimSlashesStart (ss ++ cs) = trimSlashesStart cs :=
  List.dropWhile_append_of_pos h.beq_slash

theorem trimSlashesEnd_append (h : Slashes ss) (cs : List Char) :
    trimSlashesEnd (cs ++ ss) = trimSlashesEnd cs := by
  have hreverse : ∀ c ∈ ss.reverse, (c == '/') = true := fun c hc =>
    h.beq_slash c (List.mem_reverse.1 hc)
  rw [trimSlashesEnd, List.reverse_append, List.dropWhile_append_of_pos hreverse]
  rfl

theorem head?_trimSlashesStart_ne (cs : List Char) : (trimSlashesStart cs).head? ≠ some '/' := by
  intro h
  have hstop := List.head?_dropWhile_not (· == '/') cs
  rw [trimSlashesStart] at h
  rw [h] at hstop
  simp at hstop

theorem getLast?_trimSlashesEnd_ne (cs : List Char) : (trimSlashesEnd cs).getLast? ≠ some '/' := by
  rw [trimSlashesEnd, List.getLast?_reverse]
  exact head?_trimSlashesStart_ne cs.reverse

theorem trimSlashesStart_ne_nil (h : ∃ c ∈ cs, c ≠ '/') : trimSlashesStart cs ≠ [] := by
  obtain ⟨c, hc, hne⟩ := h
  intro hnil
  have hall := List.dropWhile_eq_nil_iff.1 hnil c hc
  exact hne (by simpa using hall)

theorem trimSlashesEnd_ne_nil (h : ∃ c ∈ cs, c ≠ '/') : trimSlashesEnd cs ≠ [] := by
  obtain ⟨c, hc, hne⟩ := h
  intro hnil
  have hall := List.rdropWhile_eq_nil_iff.1 hnil c hc
  exact hne (by simpa using hall)

theorem mem_trimSlashesStart_iff {c : Char} (hc : c ≠ '/') : c ∈ trimSlashesStart cs ↔ c ∈ cs := by
  obtain ⟨ss, hss, hcs⟩ := exists_trimSlashesStart cs
  conv_rhs => rw [hcs]
  rw [List.mem_append, or_iff_right (hss.not_mem hc)]

theorem mem_trimSlashesEnd_iff {c : Char} (hc : c ≠ '/') : c ∈ trimSlashesEnd cs ↔ c ∈ cs := by
  obtain ⟨ss, hss, hcs⟩ := exists_trimSlashesEnd cs
  conv_rhs => rw [hcs]
  rw [List.mem_append, or_iff_left (hss.not_mem hc)]

theorem withLeadingSlash_eq (cs : List Char) :
    withLeadingSlash cs = (if cs.head? = some '/' then [] else ['/']) ++ cs := by
  unfold withLeadingSlash
  split <;> rfl

theorem head?_withLeadingSlash (cs : List Char) : (withLeadingSlash cs).head? = some '/' := by
  unfold withLeadingSlash
  split
  next h => exact h
  next => rfl

theorem exists_withLeadingSlash_eq (cs : List Char) :
    ∃ lead, Slashes lead ∧ withLeadingSlash cs = lead ++ cs := by
  refine ⟨_, ?_, withLeadingSlash_eq cs⟩
  split
  · exact slashes_nil
  · exact slashes_singleton

/-! ## The join -/

section Join

variable {cls method : List Char}

theorem joinText_nil_left (h : method ≠ []) :
    joinText [] method = '/' :: trimSlashesStart method := by
  cases method with
  | nil => exact absurd rfl h
  | cons c method => rfl

theorem joinText_nil_right (h : cls ≠ []) :
    joinText cls [] =
      if (trimSlashesEnd cls).isEmpty then ['/'] else withLeadingSlash (trimSlashesEnd cls) := by
  cases cls with
  | nil => exact absurd rfl h
  | cons c cls => rfl

theorem joinText_of_ne_nil (hcls : cls ≠ []) (hmethod : method ≠ []) :
    joinText cls method =
      (if (trimSlashesEnd cls).isEmpty then [] else withLeadingSlash (trimSlashesEnd cls)) ++
        '/' :: trimSlashesStart method := by
  cases cls with
  | nil => exact absurd rfl hcls
  | cons c cls =>
    cases method with
    | nil => exact absurd rfl hmethod
    | cons d method => rfl

variable (cls method)

/-- **A joined path is the two paths but for slashes** at its start and at the seam.  Where anything
of the method path is left, there are slashes at the seam. -/
theorem exists_joinText_eq :
    ∃ lead seam, Slashes lead ∧ Slashes seam ∧
      joinText cls method = lead ++ (trimSlashesEnd cls ++ (seam ++ trimSlashesStart method)) ∧
      (seam = [] → trimSlashesStart method = []) := by
  by_cases hcls : cls = []
  · subst hcls
    by_cases hmethod : method = []
    · subst hmethod
      exact ⟨[], [], slashes_nil, slashes_nil, rfl, fun _ => rfl⟩
    · refine ⟨[], ['/'], slashes_nil, slashes_singleton, ?_, by simp⟩
      rw [joinText_nil_left hmethod]
      rfl
  · by_cases hmethod : method = []
    · subst hmethod
      by_cases hbefore : trimSlashesEnd cls = []
      · refine ⟨['/'], [], slashes_singleton, slashes_nil, ?_, fun _ => rfl⟩
        rw [joinText_nil_right hcls, hbefore]
        rfl
      · obtain ⟨lead, hlead, heq⟩ := exists_withLeadingSlash_eq (trimSlashesEnd cls)
        refine ⟨lead, [], hlead, slashes_nil, ?_, fun _ => rfl⟩
        rw [joinText_nil_right hcls, if_neg (by simpa using hbefore), heq]
        simp [trimSlashesStart]
    · by_cases hbefore : trimSlashesEnd cls = []
      · refine ⟨[], ['/'], slashes_nil, slashes_singleton, ?_, by simp⟩
        rw [joinText_of_ne_nil hcls hmethod, hbefore]
        rfl
      · obtain ⟨lead, hlead, heq⟩ := exists_withLeadingSlash_eq (trimSlashesEnd cls)
        refine ⟨lead, ['/'], hlead, slashes_singleton, ?_, by simp⟩
        rw [joinText_of_ne_nil hcls hmethod, if_neg (by simpa using hbefore), heq,
          List.append_assoc]
        rfl

variable {cls method}

/-- But for slashes, a joined path holds the characters of the two paths. -/
theorem mem_joinText_iff {c : Char} (hc : c ≠ '/') :
    c ∈ joinText cls method ↔ c ∈ cls ∨ c ∈ method := by
  obtain ⟨lead, seam, hlead, hseam, heq, -⟩ := exists_joinText_eq cls method
  rw [heq, List.mem_append, List.mem_append, List.mem_append, or_iff_right (hlead.not_mem hc),
    or_iff_right (hseam.not_mem hc), mem_trimSlashesEnd_iff hc, mem_trimSlashesStart_iff hc]

theorem head?_joinText (h : cls ≠ [] ∨ method ≠ []) : (joinText cls method).head? = some '/' := by
  by_cases hcls : cls = []
  · subst hcls
    have hmethod : method ≠ [] := h.resolve_left (by simp)
    rw [joinText_nil_left hmethod]
    rfl
  · by_cases hmethod : method = []
    · subst hmethod
      rw [joinText_nil_right hcls]
      split
      · rfl
      · exact head?_withLeadingSlash _
    · rw [joinText_of_ne_nil hcls hmethod]
      split
      · rfl
      · rw [List.head?_append, head?_withLeadingSlash]
        rfl

theorem joinText_eq_nil_iff : joinText cls method = [] ↔ cls = [] ∧ method = [] := by
  constructor
  · intro hnil
    by_contra hboth
    have hhead := head?_joinText (not_and_or.1 hboth)
    rw [hnil] at hhead
    cases hhead
  · rintro ⟨rfl, rfl⟩
    rfl

/-- Where both paths have anything but slashes, just one slash stands between them. -/
theorem joinText_of_exists (hcls : ∃ c ∈ cls, c ≠ '/') (hmethod : ∃ c ∈ method, c ≠ '/') :
    joinText cls method =
      withLeadingSlash (trimSlashesEnd cls) ++ '/' :: trimSlashesStart method := by
  have hcls' : cls ≠ [] := by
    rintro rfl
    simp at hcls
  have hmethod' : method ≠ [] := by
    rintro rfl
    simp at hmethod
  rw [joinText_of_ne_nil hcls' hmethod', if_neg (by simpa using trimSlashesEnd_ne_nil hcls)]

theorem joinText_append_left (h : Slashes ss) (hcls : cls ≠ []) :
    joinText (cls ++ ss) method = joinText cls method := by
  have hne : cls ++ ss ≠ [] := by simp [hcls]
  by_cases hmethod : method = []
  · subst hmethod
    rw [joinText_nil_right hcls, joinText_nil_right hne, trimSlashesEnd_append h]
  · rw [joinText_of_ne_nil hcls hmethod, joinText_of_ne_nil hne hmethod, trimSlashesEnd_append h]

theorem joinText_append_right (h : Slashes ss) (hmethod : method ≠ []) :
    joinText cls (ss ++ method) = joinText cls method := by
  have hne : ss ++ method ≠ [] := by simp [hmethod]
  by_cases hcls : cls = []
  · subst hcls
    rw [joinText_nil_left hmethod, joinText_nil_left hne, trimSlashesStart_append h]
  · rw [joinText_of_ne_nil hcls hmethod, joinText_of_ne_nil hcls hne, trimSlashesStart_append h]

end Join

/-! ## Segments -/

/-- The segments of a path that are not empty. -/
def segments (cs : List Char) : List (List Char) :=
  (Text.segments (· == '/') cs).filter (!·.isEmpty)

theorem segments_append_slash (before after : List Char) :
    segments (before ++ '/' :: after) = segments before ++ segments after := by
  rw [segments, Text.segments_append (by rfl), List.filter_append]
  rfl

theorem segments_slash_cons (cs : List Char) : segments ('/' :: cs) = segments cs :=
  segments_append_slash [] cs

theorem segments_slashes_append (h : Slashes ss) (cs : List Char) :
    segments (ss ++ cs) = segments cs := by
  induction ss with
  | nil => rfl
  | cons c ss ih =>
    obtain ⟨rfl, hss⟩ := slashes_cons_iff.1 h
    rw [List.cons_append, segments_slash_cons, ih hss]

theorem segments_slashes (h : Slashes ss) : segments ss = [] := by
  have hss := segments_slashes_append h []
  rwa [List.append_nil] at hss

/-- Slashes between two paths keep their segments apart. -/
theorem segments_append_slashes_append (h : Slashes ss) (hne : ss ≠ []) (before after : List Char) :
    segments (before ++ (ss ++ after)) = segments before ++ segments after := by
  obtain ⟨c, ss, rfl⟩ := List.exists_cons_of_ne_nil hne
  obtain ⟨rfl, hss⟩ := slashes_cons_iff.1 h
  rw [List.cons_append, segments_append_slash, segments_slashes_append hss]

theorem segments_append_slashes (h : Slashes ss) (cs : List Char) :
    segments (cs ++ ss) = segments cs := by
  by_cases hne : ss = []
  · rw [hne, List.append_nil]
  · have hcs := segments_append_slashes_append h hne cs []
    rwa [List.append_nil, segments_slashes slashes_nil, List.append_nil] at hcs

theorem segments_trimSlashesStart (cs : List Char) :
    segments (trimSlashesStart cs) = segments cs := by
  obtain ⟨ss, hss, hcs⟩ := exists_trimSlashesStart cs
  conv_rhs => rw [hcs]
  rw [segments_slashes_append hss]

theorem segments_trimSlashesEnd (cs : List Char) : segments (trimSlashesEnd cs) = segments cs := by
  obtain ⟨ss, hss, hcs⟩ := exists_trimSlashesEnd cs
  conv_rhs => rw [hcs]
  rw [segments_append_slashes hss]

/-- **The segments of a joined path** are those of the class path and then those of the method
path. -/
theorem segments_joinText (cls method : List Char) :
    segments (joinText cls method) = segments cls ++ segments method := by
  obtain ⟨lead, seam, hlead, hseam, heq, hlast⟩ := exists_joinText_eq cls method
  rw [heq, segments_slashes_append hlead, ← segments_trimSlashesEnd cls,
    ← segments_trimSlashesStart method]
  by_cases hne : seam = []
  · rw [hlast hne, hne, segments_slashes slashes_nil, List.append_nil, List.append_nil,
      List.append_nil]
  · exact segments_append_slashes_append hseam hne _ _

end Path

namespace PathFragment

theorem toList_text_join (cls method : PathFragment) :
    (cls.join method).text.toList = Path.joinText cls.text.toList method.text.toList :=
  String.toList_ofList

theorem join_append_left {cls : PathFragment} {slashes : String} (h : Path.Slashes slashes.toList)
    (hcls : cls.text ≠ "") (method : PathFragment) :
    { cls with text := cls.text ++ slashes }.join method = cls.join method := by
  have hne : cls.text.toList ≠ [] := by simpa using hcls
  rw [join, join, String.toList_append, Path.joinText_append_left h hne]

theorem join_append_right {method : PathFragment} {slashes : String}
    (h : Path.Slashes slashes.toList) (hmethod : method.text ≠ "") (cls : PathFragment) :
    cls.join { method with text := slashes ++ method.text } = cls.join method := by
  have hne : method.text.toList ≠ [] := by simpa using hmethod
  rw [join, join, String.toList_append, Path.joinText_append_right h hne]

/-- **The text of a joined path.**  It is empty where both texts are, and else starts with a slash.
Its segments are those of the class text and then those of the method text.  Where both texts have
anything but slashes, it is the class text up to its last slashes, behind a slash, then one slash
and the method text from behind its first slashes.  Slashes at the seam do not matter. -/
theorem text_join (cls method : PathFragment) :
    let joined := (cls.join method).text
    let c := cls.text.toList
    let m := method.text.toList
    (joined = "" ↔ cls.text = "" ∧ method.text = "") ∧
      (joined ≠ "" → joined.toList.head? = some '/') ∧
      Path.segments joined.toList = Path.segments c ++ Path.segments m ∧
      ((∃ x ∈ c, x ≠ '/') → (∃ x ∈ m, x ≠ '/') →
        ∃ before last first after, c = before ++ last ∧ m = first ++ after ∧
          Path.Slashes last ∧ Path.Slashes first ∧ before ≠ [] ∧ after ≠ [] ∧
          before.getLast? ≠ some '/' ∧ after.head? ≠ some '/' ∧
          joined.toList =
            (if before.head? = some '/' then [] else ['/']) ++ before ++ '/' :: after) ∧
      (cls.text ≠ "" → ∀ slashes : String, Path.Slashes slashes.toList →
        { cls with text := cls.text ++ slashes }.join method = cls.join method) ∧
      (method.text ≠ "" → ∀ slashes : String, Path.Slashes slashes.toList →
        cls.join { method with text := slashes ++ method.text } = cls.join method) := by
  intro joined c m
  have hjoined : joined.toList = Path.joinText c m := toList_text_join cls method
  have hempty : joined = "" ↔ cls.text = "" ∧ method.text = "" := by
    rw [← String.toList_eq_nil_iff, hjoined, Path.joinText_eq_nil_iff, String.toList_eq_nil_iff,
      String.toList_eq_nil_iff]
  refine ⟨hempty, fun hne => ?_, ?_, fun hc hm => ?_,
    fun hne slashes hs => join_append_left hs hne method,
    fun hne slashes hs => join_append_right hs hne cls⟩
  · have hboth : cls.text ≠ "" ∨ method.text ≠ "" := not_and_or.1 fun hnil => hne (hempty.2 hnil)
    rw [hjoined]
    exact Path.head?_joinText (by simpa [c, m] using hboth)
  · rw [hjoined]
    exact Path.segments_joinText c m
  · obtain ⟨last, hlast, hcsplit⟩ := Path.exists_trimSlashesEnd c
    obtain ⟨first, hfirst, hmsplit⟩ := Path.exists_trimSlashesStart m
    refine ⟨_, last, first, _, hcsplit, hmsplit, hlast, hfirst, Path.trimSlashesEnd_ne_nil hc,
      Path.trimSlashesStart_ne_nil hm, Path.getLast?_trimSlashesEnd_ne c,
      Path.head?_trimSlashesStart_ne m, ?_⟩
    rw [hjoined, Path.joinText_of_exists hc hm, Path.withLeadingSlash_eq]

/-- However many slashes end the class text, one slash stands at the seam. -/
theorem text_join_slashed :
    (ofText "api").text ≠ "" ∧ Path.Slashes "//".toList ∧
      ({ ofText "api" with text := "api" ++ "//" }.join (ofText "/users")).text = "/api/users" := by
  have hne : (ofText "api").text ≠ "" := by decide
  have hslashes : Path.Slashes "//".toList := by simp [Path.Slashes]
  have hapi : ((ofText "api").join (ofText "/users")).text = "/api/users" := by
    rw [← String.toList_inj, toList_text_join]
    decide
  obtain ⟨-, -, -, -, hleft, -⟩ := text_join (ofText "api") (ofText "/users")
  refine ⟨hne, hslashes, ?_⟩
  exact (congrArg PathFragment.text (hleft hne "//" hslashes)).trans hapi

end PathFragment

end RouteAtlas
