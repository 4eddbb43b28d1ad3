import Mathlib
import RouteAtlas.Proofs.Mapping.Verb

/-!
# RouteAtlas.Proofs.Mapping.Recognition — which texts name a request method

Every text has one last part, and it names a verb exactly where that part is a token; the verb is
the part in capitals.  The main statement says so, and that nothing else about the text counts:
neither what stands before its last dot, nor the case of letters, nor blanks.
-/

namespace RouteAtlas.Verb

/-- At least one letter, digit or mark of those that the name of a request method is made of. -/
def IsToken (cs : List Char) : Prop :=
  cs ≠ [] ∧ ∀ c ∈ cs, c.isAlpha = true ∨ c.isDigit = true ∨ c ∈ "!#$%&'*+-.^_`|~".toList

/-- `p` is what stands after the last dot of the text, or all of the text where it has none, without
the blanks around it. -/
def IsPart (s : String) (p : List Char) : Prop :=
  ∃ last, Text.IsLastSegment isDot s.toList last ∧ Text.IsTrimmed last p

theorem isPart_iff {s : String} {p : List Char} : IsPart s p ↔ part s = p := by
  constructor
  · rintro ⟨last, hlast, hp⟩
    rw [part, Text.afterLast_eq_iff.2 hlast, Text.trim_eq_iff.2 hp]
  · rintro rfl
    exact ⟨_, Text.isLastSegment_afterLast isDot _, Text.isTrimmed_trim _⟩

theorem isDot_of_mem_part {s : String} {c : Char} (h : c ∈ part s) : isDot c = false :=
  (Text.isLastSegment_afterLast isDot s.toList).1 c (Text.mem_of_mem_trim h)

/-! ## Tokens -/

theorem isTokenChar_iff {c : Char} (h : isDot c = false) :
    isTokenChar c = true ↔
      c.isAlpha = true ∨ c.isDigit = true ∨ c ∈ "!#$%&'*+-.^_`|~".toList := by
  have hdot := isDot_eq_false_iff.1 h
  simp [isTokenChar, Char.isAlphanum, hdot, or_assoc]

/-- The last part of a text holds no dot, so there a token is made of the other marks. -/
theorem isToken_part_iff {s : String} :
    IsToken (part s) ↔ ¬ ((part s).isEmpty || !(part s).all isTokenChar) = true := by
  have hchars : (∀ c ∈ part s, isTokenChar c = true) ↔ ∀ c ∈ part s,
      c.isAlpha = true ∨ c.isDigit = true ∨ c ∈ "!#$%&'*+-.^_`|~".toList :=
    forall₂_congr fun _ hc => isTokenChar_iff (isDot_of_mem_part hc)
  rw [IsToken, ← hchars]
  simp

theorem parse?_eq_some_iff {s verb : String} :
    parse? s = some verb ↔
      IsToken (part s) ∧ verb = String.ofList ((part s).map Char.toUpper) := by
  rw [parse?_eq]
  by_cases h : IsToken (part s)
  · rw [if_neg (isToken_part_iff.1 h), Option.some.injEq, and_iff_right h, eq_comm]
  · rw [if_pos (not_not.1 (mt isToken_part_iff.2 h))]
    simp [h]

/-- A verb is made of the characters of tokens. -/
theorem isTokenChar_of_mem_verb {s verb : String} (h : parse? s = some verb) :
    ∀ c ∈ verb.toList, isTokenChar c = true := by
  obtain ⟨⟨-, htoken⟩, rfl⟩ := parse?_eq_some_iff.1 h
  intro c hc
  rw [String.toList_ofList] at hc
  obtain ⟨d, hd, rfl⟩ := List.mem_map.1 hc
  rw [isTokenChar_toUpper]
  exact (isTokenChar_iff (isDot_of_mem_part hd)).2 (htoken d hd)

/-! ## What makes no difference -/

/-- The last part of a text is its own last part. -/
theorem part_part (s : String) : part (String.ofList (part s)) = part s := by
  have hsegment : Text.afterLast isDot (part s) = part s :=
    Text.afterLast_of_sep_eq_false fun _ hc => isDot_of_mem_part hc
  rw [part, String.toList_ofList, hsegment]
  exact Text.trim_trim _

theorem part_capitals (s : String) :
    part (String.ofList ((part s).map Char.toUpper)) = (part s).map Char.toUpper :=
  calc part (String.ofList ((part s).map Char.toUpper))
      = Text.trim (Text.afterLast isDot ((String.ofList (part s)).toList.map Char.toUpper)) := by
        rw [part, String.toList_ofList, String.toList_ofList]
    _ = (part (String.ofList (part s))).map Char.toUpper := (map_toUpper_part _).symm
    _ = (part s).map Char.toUpper := by rw [part_part]

/-- A verb names itself. -/
theorem parse?_verb {s verb : String} (h : parse? s = some verb) : parse? verb = some verb := by
  obtain ⟨-, rfl⟩ := parse?_eq_some_iff.1 h
  rw [← h]
  refine parse?_congr ?_
  rw [part_capitals, List.map_map]
  exact List.map_congr_left fun c _ => Char.toUpper_toUpper_eq_toUpper c

theorem isDot_of_isBlankChar {c : Char} (h : Text.isBlankChar c = true) : isDot c = false := by
  rw [isDot_eq_false_iff]
  rintro rfl
  cases h

/-- Blanks around a text make no difference. -/
theorem parse?_append_of_blank {blanks blanks' : String} (h : Text.isBlank blanks = true)
    (h' : Text.isBlank blanks' = true) (s : String) :
    parse? (blanks ++ s ++ blanks') = parse? s := by
  rw [Text.isBlank, List.all_eq_true] at h h'
  have hpart : part (blanks ++ s ++ blanks') = part s := by
    have hchars : (blanks ++ s ++ blanks').toList =
        blanks.toList ++ s.toList ++ blanks'.toList := by simp
    rw [part, part, hchars]
    -- the blanks before the text are trimmed away, or they stand before its last dot
    rcases Text.afterLast_append_append (fun c hc => isDot_of_isBlankChar (h c hc))
      (fun c hc => isDot_of_isBlankChar (h' c hc)) s.toList with hlast | hlast
    · rw [hlast, Text.trim_append_of_blank h h']
    · rw [hlast]
      have hnone : ∀ c ∈ ([] : List Char), Text.isBlankChar c = true :=
        List.forall_mem_nil _
      exact Text.trim_append_of_blank hnone h' _
  rw [parse?_eq, parse?_eq, hpart]

/-- **Recognition of verbs.**  Every text has one last part, and it names a verb exactly where this
part is a token; the verb is the part in capitals, and names itself.  A text names the same verb
whatever qualification stands before it, in whatever case its letters are and whatever blanks stand
around it. -/
theorem parse?_of_isPart :
    (∀ s, ∃! p, IsPart s p) ∧
    (∀ s p, IsPart s p → ∀ verb,
      parse? s = some verb ↔ IsToken p ∧ verb = String.ofList (p.map Char.toUpper)) ∧
    (∀ s verb, parse? s = some verb → parse? verb = some verb) ∧
    (∀ q s, parse? (q ++ "." ++ s) = parse? s) ∧
    (∀ s t, MappingKind.sameLetters s t = true → parse? s = parse? t) ∧
    ∀ blanks s blanks', Text.isBlank blanks = true → Text.isBlank blanks' = true →
      parse? (blanks ++ s ++ blanks') = parse? s ∧
        ∀ q, parse? (q ++ "." ++ (blanks ++ s ++ blanks')) = parse? (q ++ "." ++ s) := by
  refine ⟨fun s => ⟨part s, isPart_iff.2 rfl, fun p hp => (isPart_iff.1 hp).symm⟩, ?_,
    fun s verb => parse?_verb, parse?_qualified, fun s t => parse?_of_sameLetters, ?_⟩
  · rintro s p hp verb
    rw [← isPart_iff.1 hp]
    exact parse?_eq_some_iff
  · intro blanks s blanks' h h'
    have hblank := parse?_append_of_blank h h' s
    refine ⟨hblank, fun q => ?_⟩
    rw [parse?_qualified, parse?_qualified, hblank]

/-- What stands after the last dot of `web.RequestMethod. m-Search\t` is the token `m-Search`
between blanks, and `M-SEARCH` names itself. -/
theorem parse?_of_isPart_blanks :
    let s := "web.RequestMethod. m-Search\t"
    IsPart s "m-Search".toList ∧ parse? s = some "M-SEARCH" ∧
      parse? "M-SEARCH" = some "M-SEARCH" ∧ parse? "m-Search" = parse? "M-sEARCH" ∧
      parse? " m-Search\t" = parse? "m-Search" := by
  intro s
  obtain ⟨-, hnames, hverb, -, hletters, hblanks⟩ := parse?_of_isPart
  have hpart : IsPart s "m-Search".toList := isPart_iff.2 (by decide)
  have hnamed : parse? s = some "M-SEARCH" := by
    refine (hnames s _ hpart _).2 ⟨?_, rfl⟩
    simp [IsToken]
  exact ⟨hpart, hnamed, hverb s _ hnamed, hletters _ _ (by decide),
    (hblanks " " "m-Search" "\t" (by decide) (by decide)).1⟩

end RouteAtlas.Verb
