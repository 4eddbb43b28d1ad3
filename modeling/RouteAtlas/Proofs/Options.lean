import Mathlib.Data.List.TakeDrop
import RouteAtlas.Options
import RouteAtlas.Proofs.Document.Fields

/-!
# RouteAtlas.Proofs.Options — which scans arguments can ask for

The names of files are the only values of options that are not free: they must not be empty.  All
other scans are asked for by some arguments, for one by those of `Options.arguments`.
-/

namespace RouteAtlas

theorem OutputFormat.parse?_name (format : OutputFormat) :
    OutputFormat.parse? format.name = some format := by
  cases format <;> rfl

namespace Options

/-! ## One option -/

/-- An option with its value in the same argument. -/
def withValue (word value : String) : String := "--" ++ word ++ "=" ++ value

/-- The word ends at the first equals sign; the value may hold more of them. -/
theorem Argument.ofText_withValue {word : String} (hword : '=' ∉ word.toList) (value : String) :
    Argument.ofText (withValue word value) = .long word (some value) := by
  have htext : (withValue word value).toList =
      '-' :: '-' :: (word.toList ++ '=' :: value.toList) := by
    simp [withValue, String.toList_append]
  have hspan : (word.toList ++ '=' :: value.toList).span (· != '=') =
      (word.toList, '=' :: value.toList) := by
    have hbefore : ∀ c ∈ word.toList, (c != '=') = true := by
      intro c hc
      rw [bne_iff_ne]
      rintro rfl
      exact hword hc
    rw [List.span_eq_takeWhile_dropWhile, List.takeWhile_append_of_pos hbefore,
      List.dropWhile_append_of_pos hbefore]
    simp
  rw [ofText, htext]
  -- the text behind the dashes is not empty, so the argument is no escape
  generalize htail : word.toList ++ '=' :: value.toList = tail at hspan
  cases tail with
  | nil => simp at htail
  | cons c cs => simp only [hspan, String.ofList_toList]

namespace State

variable {s s' : State} {name : Name} {value : String}

theorem settle_tree_eq_ok_iff :
    s.settle .tree (some value) = .ok s' ↔
      s.tree = none ∧ value ≠ "" ∧ { s with tree := some value } = s' := by
  cases htree : s.tree <;> by_cases hvalue : value = "" <;> simp [settle, htree, hvalue]

theorem settle_config_eq_ok_iff :
    s.settle .config (some value) = .ok s' ↔
      s.config = none ∧ value ≠ "" ∧ { s with config := some value } = s' := by
  cases hconfig : s.config <;> by_cases hvalue : value = "" <;> simp [settle, hconfig, hvalue]

theorem meet_of_settled (hpending : s.pending = none) :
    s.meet name (some value) = s.settle name (some value) := by
  have hsettled : s.settlePending = .ok s := by rw [settlePending, hpending]
  rw [meet, hsettled]
  simp [Except.bind, bind]

end State

/-- An option that is written with its value is settled at once. -/
theorem scanOptions_withValue {s : State} (name : Name) {word value : String} {as : List String}
    (hpending : s.pending = none) (hword : '=' ∉ word.toList)
    (hname : Name.ofLong? word = some name) (htakes : name.takesValue = true) :
    scanOptions s (withValue word value :: as) =
      s.settle name (some value) >>= fun s => scanOptions s as := by
  rw [scanOptions, Argument.ofText_withValue hword]
  simp [hname, htakes, State.meet_of_settled hpending]

/-! ## Scans -/

/-- Arguments that ask for a scan with the options. -/
def arguments (o : ScanOptions) : List String :=
  "scan" :: withValue "tree" o.tree ::
    (o.config.toList.map (withValue "config") ++
      withValue "format" o.format.name :: if o.failOnIssues then ["--fail-on-issues"] else [])

/-- The last arguments: the format, and the flag where it is set. -/
theorem scanOptions_format {tree : String} {config : Option String} (o : ScanOptions) :
    scanOptions { tree := some tree, config }
      (withValue "format" o.format.name :: if o.failOnIssues then ["--fail-on-issues"] else []) =
        .ok { o with tree, config } := by
  rw [scanOptions_withValue .format rfl (by decide) rfl rfl]
  simp only [State.settle, OutputFormat.parse?_name]
  cases o.failOnIssues <;> rfl

/-- **Every scan can be asked for**, as long as no name of a file is empty. -/
theorem parse_arguments {o : ScanOptions} (htree : o.tree ≠ "") (hconfig : o.config ≠ some "") :
    parse (arguments o) = .ok (.scan o) := by
  have hsettle : State.settle {} .tree (some o.tree) = .ok { tree := some o.tree } :=
    State.settle_tree_eq_ok_iff.2 ⟨rfl, htree, rfl⟩
  have hread : scanOptions {} (arguments o).tail = .ok o := by
    rw [arguments, List.tail_cons, scanOptions_withValue .tree rfl (by decide) rfl rfl,
      hsettle]
    cases hfile : o.config with
    | none => exact (scanOptions_format o).trans (by rw [← hfile])
    | some file =>
      have hname : file ≠ "" := fun hempty => hconfig (by rw [hfile, hempty])
      have hsettle' : State.settle { tree := some o.tree } .config (some file) =
          .ok { tree := some o.tree, config := some file } :=
        State.settle_config_eq_ok_iff.2 ⟨rfl, hname, rfl⟩
      show scanOptions _ (withValue "config" file :: _) = _
      rw [scanOptions_withValue .config rfl (by decide) rfl rfl, hsettle']
      exact (scanOptions_format o).trans (by rw [← hfile])
  show (scanOptions {} (arguments o).tail).map Invocation.scan = _
  rw [hread]
  rfl

/-! ## What can be asked for -/

namespace State

/-- No file has been given an empty name. -/
structure IsNamed (s : State) : Prop where
  tree : s.tree ≠ some ""
  config : s.config ≠ some ""

variable {s s' : State} {name : Name} {value : Option String}

theorem IsNamed.settle (h : s.IsNamed) (hs : s.settle name value = .ok s') : s'.IsNamed := by
  cases name with
  | help => cases hs
  | failOnIssues =>
    simp only [State.settle] at hs
    split at hs <;> cases hs
    exact ⟨h.tree, h.config⟩
  | format =>
    cases value with
    | none => cases hs
    | some value =>
      simp only [State.settle] at hs
      split at hs
      · cases hs
      · split at hs <;> cases hs
        exact ⟨h.tree, h.config⟩
  | tree =>
    cases value with
    | none => cases hs
    | some value =>
      obtain ⟨-, hvalue, rfl⟩ := settle_tree_eq_ok_iff.1 hs
      exact ⟨by simpa using hvalue, h.config⟩
  | config =>
    cases value with
    | none => cases hs
    | some value =>
      obtain ⟨-, hvalue, rfl⟩ := settle_config_eq_ok_iff.1 hs
      exact ⟨h.tree, by simpa using hvalue⟩

theorem IsNamed.settlePending (h : s.IsNamed) (hs : s.settlePending = .ok s') : s'.IsNamed := by
  rw [State.settlePending] at hs
  split at hs
  · cases hs
    exact h
  · have hcleared : ({ s with pending := none } : State).IsNamed := ⟨h.tree, h.config⟩
    exact hcleared.settle hs

theorem IsNamed.meet (h : s.IsNamed) (hs : s.meet name value = .ok s') : s'.IsNamed := by
  obtain ⟨s₁, hs₁, hs⟩ := bind_eq_ok_iff.1 hs
  have hnamed : s₁.IsNamed := h.settlePending hs₁
  split at hs
  · cases hs
    exact ⟨hnamed.tree, hnamed.config⟩
  · exact hnamed.settle hs

end State

theorem isNamed_of_finish {s : State} {o : ScanOptions} (h : s.IsNamed) (ho : s.finish = .ok o) :
    o.tree ≠ "" ∧ o.config ≠ some "" := by
  obtain ⟨s₁, hs₁, ho⟩ := bind_eq_ok_iff.1 ho
  have hnamed : s₁.IsNamed := h.settlePending hs₁
  split at ho
  · cases ho
  next tree htree =>
    cases ho
    exact ⟨fun hempty => hnamed.tree (htree.trans (congrArg some hempty)), hnamed.config⟩

/-- What holds at first holds after every argument. -/
theorem isNamed_of_scanOptions {args : List String} {s : State} {o : ScanOptions}
    (h : s.IsNamed) (ho : scanOptions s args = .ok o) : o.tree ≠ "" ∧ o.config ≠ some "" := by
  induction args generalizing s with
  | nil => exact isNamed_of_finish h ho
  | cons a as ih =>
    rw [scanOptions] at ho
    split at ho
    case h_1 =>
      split at ho
      · exact isNamed_of_finish h ho
      · cases ho
    case h_2 word value _ =>
      split at ho
      · cases ho
      · split at ho
        · cases ho
        · obtain ⟨s₁, hs₁, ho⟩ := bind_eq_ok_iff.1 ho
          exact ih (h.meet hs₁) ho
    case h_3 letter rest _ =>
      split at ho
      · cases ho
      · obtain ⟨s₁, hs₁, ho⟩ := bind_eq_ok_iff.1 ho
        exact ih (h.meet hs₁) ho
    case h_4 value _ =>
      split at ho
      next waiting _ =>
        have hwaiting : ({ s with pending := some (waiting, some value) } : State).IsNamed :=
          ⟨h.tree, h.config⟩
        exact ih hwaiting ho
      · cases ho

theorem exists_scanOptions_of_parse {args : List String} {o : ScanOptions}
    (h : parse args = .ok (.scan o)) : ∃ as, scanOptions {} as = .ok o := by
  unfold parse at h
  split at h
  · cases h
  next as =>
    split at h
    case h_1 => split at h <;> cases h
    case h_7 =>
      obtain ⟨read, hread, hscan⟩ := map_eq_ok_iff.1 h
      cases hscan
      exact ⟨as, hread⟩
    case h_8 =>
      obtain ⟨_, -, hkinds⟩ := map_eq_ok_iff.1 h
      cases hkinds
    all_goals cases h

/-- **Scans that can be asked for** are those with no empty name of a file. -/
theorem exists_parse_eq_scan_iff {o : ScanOptions} :
    (∃ args, parse args = .ok (.scan o)) ↔ o.tree ≠ "" ∧ o.config ≠ some "" := by
  constructor
  · rintro ⟨args, h⟩
    obtain ⟨as, has⟩ := exists_scanOptions_of_parse h
    have hnew : ({} : State).IsNamed := ⟨by simp, by simp⟩
    exact isNamed_of_scanOptions hnew has
  · rintro ⟨htree, hconfig⟩
    exact ⟨arguments o, parse_arguments htree hconfig⟩

end Options

end RouteAtlas
