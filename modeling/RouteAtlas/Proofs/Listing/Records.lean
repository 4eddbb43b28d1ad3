import RouteAtlas.Command
import RouteAtlas.Proofs.Text.Segments

/-!
# RouteAtlas.Proofs.Listing.Records — printed listings read back

A listing is read line by line, and each line is cut at its first tab.  A line that holds a newline
itself is read as several lines, so that the records no longer match the lines that were printed;
and a label that holds a tab is cut short.  The main statement is that a listing is read back exactly
where neither happens.
-/

namespace RouteAtlas

namespace Text

/-- What stands before and after the first separator; nothing when there is no separator. -/
def cutFirst? (sep : Char → Bool) : List Char → Option (List Char × List Char)
  | [] => none
  | c :: cs =>
    if sep c then some ([], cs)
    else (cutFirst? sep cs).map fun (before, after) => (c :: before, after)

/-- The text holds no separator. -/
def FreeOf (sep : Char → Bool) (s : String) : Prop := ∀ c ∈ s.toList, sep c = false

instance (sep : Char → Bool) (s : String) : Decidable (FreeOf sep s) :=
  -- goes through the characters of the text, not through all characters
  List.decidableBAll (fun c => sep c = false) s.toList

section Cut

variable {sep : Char → Bool}

/-- No separator stands before the cut. -/
theorem sep_eq_false_of_cutFirst? {cs before after : List Char}
    (h : cutFirst? sep cs = some (before, after)) : ∀ c ∈ before, sep c = false := by
  induction cs generalizing before with
  | nil => cases h
  | cons c cs ih =>
    rw [cutFirst?] at h
    cases hc : sep c with
    | true =>
      rw [if_pos hc] at h
      cases h
      exact List.forall_mem_nil _
    | false =>
      rw [if_neg (by simp [hc])] at h
      obtain ⟨⟨b, a⟩, hcut, heq⟩ := Option.map_eq_some_iff.1 h
      cases heq
      exact List.forall_mem_cons.2 ⟨hc, ih hcut⟩

/-- A text is cut at its first separator, whatever stands after it. -/
theorem cutFirst?_append {c : Char} (hc : sep c = true) {before : List Char}
    (h : ∀ d ∈ before, sep d = false) (after : List Char) :
    cutFirst? sep (before ++ c :: after) = some (before, after) := by
  induction before with
  | nil => rw [List.nil_append, cutFirst?, if_pos hc]
  | cons b before ih =>
    obtain ⟨hb, hbefore⟩ := List.forall_mem_cons.1 h
    rw [List.cons_append, cutFirst?, if_neg (by simp [hb]), ih hbefore]
    rfl

theorem freeOf_append {s t : String} : FreeOf sep (s ++ t) ↔ FreeOf sep s ∧ FreeOf sep t := by
  rw [FreeOf, String.toList_append]
  exact List.forall_mem_append

end Cut

end Text

namespace Listing

open Text (FreeOf)

def isTab (c : Char) : Bool := c == '\t'

def isNewline (c : Char) : Bool := c == '\n'

/-- A tab ends a label and a newline ends a line. -/
def isSeparator (c : Char) : Bool := isTab c || isNewline c

/-- The lines of a text.  Each of them is ended by a newline, so what stands behind the last newline
is none. -/
def linesOf (s : String) : List String :=
  (Text.segments isNewline s.toList).dropLast.map String.ofList

/-- The two fields of a line, cut at its first tab. -/
def fields? (line : String) : Option (String × String) :=
  (Text.cutFirst? isTab line.toList).map fun (label, place) =>
    (String.ofList label, String.ofList place)

/-- The records of a printed listing; none for a line that has no tab. -/
def records (s : String) : List (Option (String × String)) := (linesOf s).map fields?

/-- The line of a label and a place. -/
def entry (p : String × String) : String := p.1 ++ "\t" ++ p.2

/-- The entry of a label and a place is a single line, and its first tab is the one between them. -/
def IsRecord (p : String × String) : Prop := FreeOf isNewline (entry p) ∧ fields? (entry p) = some p

/-! ## Lines -/

section Lines

variable {lines : List String}

theorem segments_linesText (lines : List String) :
    Text.segments isNewline (Command.linesText lines).toList =
      (lines.flatMap fun line => Text.segments isNewline line.toList) ++ [[]] := by
  induction lines with
  | nil => rfl
  | cons line lines ih =>
    have htext : (Command.linesText (line :: lines)).toList =
        line.toList ++ '\n' :: (Command.linesText lines).toList := by
      simp [Command.toList_linesText]
    rw [htext, Text.segments_append rfl, ih, List.flatMap_cons, List.append_assoc]

/-- Printed lines are read as the pieces between their newlines. -/
theorem linesOf_linesText (lines : List String) :
    linesOf (Command.linesText lines) =
      lines.flatMap fun line => (Text.segments isNewline line.toList).map String.ofList := by
  rw [linesOf, segments_linesText, List.dropLast_concat, List.map_flatMap]

theorem linesOf_linesText_of_freeOf (h : ∀ line ∈ lines, FreeOf isNewline line) :
    linesOf (Command.linesText lines) = lines := by
  rw [linesOf_linesText]
  calc (lines.flatMap fun line => (Text.segments isNewline line.toList).map String.ofList)
      = lines.flatMap fun line => [line] := by
        apply List.flatMap_congr
        intro line hline
        rw [Text.segments_of_sep_eq_false (h line hline), List.map_singleton, String.ofList_toList]
    _ = lines := List.flatMap_singleton' lines

/-- Each newline inside of a line makes one line more. -/
theorem length_linesOf_linesText (lines : List String) :
    (linesOf (Command.linesText lines)).length =
      lines.length + (lines.flatMap String.toList).countP isNewline := by
  rw [linesOf_linesText]
  induction lines with
  | nil => rfl
  | cons line lines ih =>
    rw [List.flatMap_cons, List.length_append, List.length_map, Text.length_segments, ih,
      List.length_cons, List.flatMap_cons, List.countP_append]
    omega

/-- Only lines without newlines are read as just as many lines. -/
theorem freeOf_of_length_linesOf
    (h : (linesOf (Command.linesText lines)).length = lines.length) :
    ∀ line ∈ lines, FreeOf isNewline line := by
  rw [length_linesOf_linesText] at h
  have hcount : (lines.flatMap String.toList).countP isNewline = 0 := by omega
  intro line hline c hc
  simpa using List.countP_eq_zero.1 hcount c (List.mem_flatMap_of_mem hline hc)

end Lines

/-! ## Records -/

section Records

variable {p : String × String} {pairs : List (String × String)}

theorem toList_entry (p : String × String) : (entry p).toList = p.1.toList ++ '\t' :: p.2.toList := by
  simp [entry]

theorem fields?_entry_eq_some_iff : fields? (entry p) = some p ↔ FreeOf isTab p.1 := by
  rw [fields?, toList_entry]
  constructor
  · intro h
    obtain ⟨⟨label, place⟩, hcut, heq⟩ := Option.map_eq_some_iff.1 h
    have hlabel : p.1.toList = label := by
      rw [← heq, String.toList_ofList]
    intro c hc
    rw [hlabel] at hc
    exact Text.sep_eq_false_of_cutFirst? hcut c hc
  · intro h
    rw [Text.cutFirst?_append rfl h, Option.map_some]
    simp only [String.ofList_toList]

/-- Neither separator may stand in the label, and no newline in the place. -/
theorem isRecord_iff : IsRecord p ↔ FreeOf isSeparator p.1 ∧ FreeOf isNewline p.2 := by
  have hseparator : FreeOf isSeparator p.1 ↔ FreeOf isTab p.1 ∧ FreeOf isNewline p.1 := by
    simp [FreeOf, isSeparator, forall_and]
  have htab : FreeOf isNewline "\t" := by decide
  rw [IsRecord, fields?_entry_eq_some_iff, entry, Text.freeOf_append, Text.freeOf_append, hseparator]
  tauto

/-- **A printed listing is read back** exactly where each of its entries is a record. -/
theorem records_linesText_iff :
    records (Command.linesText (pairs.map entry)) = pairs.map some ↔ ∀ p ∈ pairs, IsRecord p := by
  constructor
  · intro h
    have hlength : (linesOf (Command.linesText (pairs.map entry))).length =
        (pairs.map entry).length := by
      have hmap := congrArg List.length h
      rw [records, List.length_map, List.length_map] at hmap
      rw [hmap, List.length_map]
    have hfree := freeOf_of_length_linesOf hlength
    rw [records, linesOf_linesText_of_freeOf hfree, List.map_map, List.map_inj_left] at h
    intro p hp
    exact ⟨hfree _ (List.mem_map_of_mem hp), h p hp⟩
  · intro h
    have hfree : ∀ line ∈ pairs.map entry, FreeOf isNewline line := by
      rw [List.forall_mem_map]
      exact fun p hp => (h p hp).1
    rw [records, linesOf_linesText_of_freeOf hfree, List.map_map]
    exact List.map_congr_left fun p hp => (h p hp).2

end Records

end Listing

end RouteAtlas
