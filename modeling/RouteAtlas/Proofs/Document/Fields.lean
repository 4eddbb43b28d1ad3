import Mathlib.Data.List.Forall2
import Mathlib.Data.List.Nodup
import RouteAtlas.Document.Record

/-!
# RouteAtlas.Proofs.Document.Fields — what is read of an object

A record holds the fields of an object when each of them is written once, in any order, and nothing
else is.  Then reading a field gives what its value is read as, and reading the object finds no
fault (`Holds.required`, `Holds.optional`, `Holds.finish`).  Conversely, what was read without fault
was read of fields that are there.
-/

namespace RouteAtlas

/-! ## Readings without fault -/

section Readings

variable {ε α β : Type} {xs : List α} {ys : List β}

theorem bind_eq_ok_iff {x : Except ε α} {f : α → Except ε β} {b : β} :
    (x >>= f) = .ok b ↔ ∃ a, x = .ok a ∧ f a = .ok b := by
  cases x <;> simp [bind, Except.bind]

theorem bind_eq_error_iff {x : Except ε α} {f : α → Except ε β} {e : ε} :
    (x >>= f) = .error e ↔ x = .error e ∨ ∃ a, x = .ok a ∧ f a = .error e := by
  cases x <;> simp [bind, Except.bind]

theorem map_eq_error_iff {x : Except ε α} {f : α → β} {e : ε} :
    x.map f = .error e ↔ x = .error e := by
  cases x <;> simp [Except.map]

theorem map_eq_ok_iff {x : Except ε α} {f : α → β} {b : β} :
    x.map f = .ok b ↔ ∃ a, x = .ok a ∧ f a = b := by
  cases x <;> simp [Except.map]

/-- A list is read when each of its items is. -/
theorem mapM_eq_ok_iff {f : α → Except ε β} :
    xs.mapM f = .ok ys ↔ List.Forall₂ (fun x y => f x = .ok y) xs ys := by
  induction xs generalizing ys with
  | nil =>
    rw [List.mapM_nil, List.forall₂_nil_left_iff]
    exact ⟨fun h => (Except.ok.inj h).symm, fun h => congrArg Except.ok h.symm⟩
  | cons x xs ih =>
    rw [List.mapM_cons, List.forall₂_cons_left_iff, bind_eq_ok_iff]
    constructor
    · rintro ⟨y, hx, h⟩
      obtain ⟨ys, hxs, h⟩ := bind_eq_ok_iff.1 h
      cases h
      exact ⟨y, ys, hx, ih.1 hxs, rfl⟩
    · rintro ⟨y, ys, hx, hxs, rfl⟩
      exact ⟨y, hx, bind_eq_ok_iff.2 ⟨ys, ih.2 hxs, rfl⟩⟩

/-- A list is refused for the first of its items that is. -/
theorem mapM_eq_error_iff {f : α → Except ε β} {e : ε} :
    xs.mapM f = .error e ↔
      ∃ before x after, xs = before ++ x :: after ∧ (∀ y ∈ before, ∃ b, f y = .ok b) ∧
        f x = .error e := by
  induction xs with
  | nil =>
    rw [List.mapM_nil]
    refine ⟨nofun, ?_⟩
    rintro ⟨before, x, after, h, -, -⟩
    simp at h
  | cons x xs ih =>
    rw [List.mapM_cons, bind_eq_error_iff]
    constructor
    · rintro (hx | ⟨b, hx, h⟩)
      · exact ⟨[], x, xs, rfl, by simp, hx⟩
      · obtain h | ⟨bs, -, h⟩ := bind_eq_error_iff.1 h
        · obtain ⟨before, y, after, rfl, hbefore, hy⟩ := ih.1 h
          exact ⟨x :: before, y, after, rfl, List.forall_mem_cons.2 ⟨⟨b, hx⟩, hbefore⟩, hy⟩
        · cases h
    · rintro ⟨before, y, after, h, hbefore, hy⟩
      cases before with
      | nil =>
        cases h
        exact .inl hy
      | cons z before =>
        cases h
        obtain ⟨⟨b, hx⟩, hbefore⟩ := List.forall_mem_cons.1 hbefore
        refine .inr ⟨b, hx, bind_eq_error_iff.2 (.inl (ih.2 ?_))⟩
        exact ⟨before, y, after, rfl, hbefore, hy⟩

/-- What is made of the items may be made of what was read of them. -/
theorem mapM_bind_of_mapM {γ : Type} {f : α → Except ε β} (g : β → Except ε γ)
    (h : xs.mapM f = .ok ys) : (xs.mapM fun x => f x >>= g) = ys.mapM g := by
  have hitems := mapM_eq_ok_iff.1 h
  induction hitems with
  | nil => rfl
  | cons hx _ ih =>
    rw [List.mapM_cons, List.mapM_cons, hx, ih (mapM_eq_ok_iff.2 ‹_›)]
    rfl

theorem exists_right_of_forall₂ {R : α → β → Prop} (h : List.Forall₂ R xs ys) {x : α}
    (hx : x ∈ xs) : ∃ y ∈ ys, R x y := by
  induction h with
  | nil => cases hx
  | cons hxy _ ih =>
    rcases List.mem_cons.1 hx with rfl | hx
    · exact ⟨_, List.mem_cons_self, hxy⟩
    · obtain ⟨y, hy, hxy⟩ := ih hx
      exact ⟨y, List.mem_cons_of_mem _ hy, hxy⟩

/-- Whatever is read of a list is read of one of its items. -/
theorem exists_of_mem_mapM {f : α → Except ε β} {y : β} (h : xs.mapM f = .ok ys) (hy : y ∈ ys) :
    ∃ x ∈ xs, f x = .ok y :=
  exists_right_of_forall₂ (mapM_eq_ok_iff.1 h).flip hy

end Readings

namespace Verdict

variable {α β : Type}

/-- Two results are combined without fault when neither has one. -/
theorem seq_eq_pure_iff {v : Verdict (α → β)} {w : Verdict α} {b : β} :
    (v <*> w) = .pure b ↔ ∃ f a, v = .pure f ∧ w = .pure a ∧ f a = b := by
  obtain ⟨v⟩ := v
  obtain ⟨w⟩ := w
  show both ⟨v⟩ ⟨w⟩ = _ ↔ _
  cases v <;> cases w <;> simp [both, Verdict.pure]

theorem map_eq_pure_iff {f : α → β} {v : Verdict α} {b : β} :
    f <$> v = .pure b ↔ ∃ a, v = .pure a ∧ f a = b := by
  show (Verdict.pure f <*> v) = _ ↔ _
  rw [seq_eq_pure_iff]
  simp [Verdict.pure]

end Verdict

namespace Record

variable {α β γ : Type} {r : Record β} {name : String} {a : α} {b : β}
  {read : β → Except Fault α}

/-! ## What was read is written -/

theorem mem_fields_of_find? {place : Nat} (h : r.find? name = some (place, b)) :
    (name, b) ∈ r.fields := by
  obtain ⟨⟨⟨n, b'⟩, place'⟩, he, heq⟩ := Option.map_eq_some_iff.1 h
  cases heq
  have hn : n = name := by simpa using List.find?_some he
  rw [← hn]
  exact List.fst_mem_of_mem_zipIdx (List.mem_of_find?_eq_some he)

theorem read_of_readAt {place : Nat} (h : r.readAt name read place b = .pure a) :
    read b = .ok a := by
  unfold readAt at h
  split at h
  · cases h
  · cases h
  next _ _ _ hread _ =>
    cases h
    exact hread

theorem exists_of_required (h : r.required name read = .pure a) :
    ∃ b, (name, b) ∈ r.fields ∧ read b = .ok a := by
  unfold required at h
  split at h
  next place b hfind => exact ⟨b, mem_fields_of_find? hfind, read_of_readAt h⟩
  next => cases h

theorem exists_of_optional {default : α} (h : r.optional name default read = .pure a) :
    a = default ∨ ∃ b, (name, b) ∈ r.fields ∧ read b = .ok a := by
  unfold optional at h
  split at h
  next place b hfind => exact .inr ⟨b, mem_fields_of_find? hfind, read_of_readAt h⟩
  next =>
    cases h
    exact .inl rfl

theorem eq_pure_of_finish {known : List String} {other : String → β → Except Fault Unit}
    {v : Verdict α} (h : r.finish known other v = .ok a) : v = .pure a := by
  unfold finish at h
  split at h
  next a' hv =>
    cases h
    have hboth : (Function.const Unit id <$> r.others known other <*> v) = .pure a :=
      congrArg Verdict.mk hv
    obtain ⟨f, a', hf, hresult, rfl⟩ := Verdict.seq_eq_pure_iff.1 hboth
    obtain ⟨_, -, rfl⟩ := Verdict.map_eq_pure_iff.1 hf
    exact hresult
  next => cases h

/-! ## What is written is read -/

/-- Where names are distinct, a field is written once. -/
theorem filter_eq_singleton {xs : List (String × β)} (hnodup : (xs.map (·.1)).Nodup)
    (hmem : (name, b) ∈ xs) : xs.filter (·.1 == name) = [(name, b)] := by
  induction xs with
  | nil => cases hmem
  | cons x xs ih =>
    obtain ⟨hx, hxs⟩ := List.nodup_cons.1 hnodup
    rcases List.mem_cons.1 hmem with rfl | hmem
    · have hrest : xs.filter (·.1 == name) = [] := by
        rw [List.filter_eq_nil_iff]
        intro e he hname
        have hname : e.1 = name := by simpa using hname
        exact hx (hname ▸ List.mem_map_of_mem (f := (·.1)) he)
      rw [List.filter_cons_of_pos (by simp), hrest]
    · have hother : x.1 ≠ name := by
        rintro rfl
        exact hx (List.mem_map_of_mem (f := (·.1)) hmem)
      rw [List.filter_cons_of_neg (by simpa using hother), ih hxs hmem]

theorem filter_zipIdx_eq_singleton {xs : List (String × β)} (hnodup : (xs.map (·.1)).Nodup)
    (hmem : (name, b) ∈ xs) :
    ∃ place, xs.zipIdx.filter (fun e => e.1.1 == name) = [((name, b), place)] := by
  have hone := filter_eq_singleton hnodup hmem
  rw [← List.zipIdx_map_fst 0 xs, List.filter_map, List.map_eq_singleton_iff] at hone
  obtain ⟨⟨e, place⟩, hfilter, rfl⟩ := hone
  exact ⟨place, hfilter⟩

/-- The record is one of an object with the fields that are there, their values in the form `R`:
each field is written once and nothing else is, and the object ends after them. -/
structure Holds (r : Record β) (R : γ → β → Prop) (fields : List (String × Option γ)) : Prop where
  nodup : (r.fields.map (·.1)).Nodup
  ending : r.ending = none
  written : ∀ {name b}, (name, b) ∈ r.fields → ∃ c, (name, some c) ∈ fields ∧ R c b
  present : ∀ {name c}, (name, some c) ∈ fields → ∃ b, R c b ∧ (name, b) ∈ r.fields
  absent : ∀ {name}, (name, none) ∈ fields → name ∉ r.fields.map (·.1)

namespace Holds

variable {R : γ → β → Prop} {fields : List (String × Option γ)}

/-- A field that is there is found, and no second time. -/
theorem find? (h : r.Holds R fields) {c : γ} (hmem : (name, some c) ∈ fields) :
    ∃ place b, R c b ∧ r.find? name = some (place, b) ∧ r.again? name = none := by
  obtain ⟨b, hb, hmem⟩ := h.present hmem
  obtain ⟨place, hplace⟩ := filter_zipIdx_eq_singleton h.nodup hmem
  refine ⟨place, b, hb, ?_, ?_⟩
  · rw [Record.find?, ← List.head?_filter, hplace]
    rfl
  · rw [again?, hplace]
    rfl

theorem find?_eq_none (h : r.Holds R fields) (hmem : (name, none) ∈ fields) :
    r.find? name = none := by
  cases hfind : r.find? name with
  | none => rfl
  | some p =>
    obtain ⟨place, b⟩ := p
    exact absurd (List.mem_map_of_mem (mem_fields_of_find? hfind)) (h.absent hmem)

theorem required (h : r.Holds R fields) {c : γ} (hmem : (name, some c) ∈ fields)
    (hread : ∀ b, R c b → read b = .ok a) : r.required name read = .pure a := by
  obtain ⟨place, b, hb, hfind, hagain⟩ := h.find? hmem
  rw [Record.required, hfind]
  show r.readAt name read place b = _
  rw [readAt, hread b hb, hagain]

theorem optional_some (h : r.Holds R fields) {c : γ} {default : α}
    (hmem : (name, some c) ∈ fields) (hread : ∀ b, R c b → read b = .ok a) :
    r.optional name default read = .pure a := by
  obtain ⟨place, b, hb, hfind, hagain⟩ := h.find? hmem
  rw [Record.optional, hfind]
  show r.readAt name read place b = _
  rw [readAt, hread b hb, hagain]

/-- A field that is written where there is something to write. -/
theorem optional (h : r.Holds R fields) {write : α → γ} {read : β → Except Fault (Option α)}
    {a? : Option α} (hmem : (name, a?.map write) ∈ fields)
    (hread : ∀ a ∈ a?, ∀ b, R (write a) b → read b = .ok (some a)) :
    r.optional name none read = .pure a? := by
  cases a? with
  | none => rw [Record.optional, h.find?_eq_none hmem]
  | some a => exact h.optional_some hmem (hread a rfl)

/-- A field that is given or has a default. -/
theorem optional_getD (h : r.Holds R fields) {write : α → γ} {default : α} {a? : Option α}
    (hmem : (name, a?.map write) ∈ fields) (hread : ∀ a ∈ a?, ∀ b, R (write a) b → read b = .ok a) :
    r.optional name default read = .pure (a?.getD default) := by
  cases a? with
  | none =>
    rw [Record.optional, h.find?_eq_none hmem]
    rfl
  | some a => exact h.optional_some hmem (hread a rfl)

/-- A field whose value is at fault. -/
theorem optional_fault (h : r.Holds R fields) {c : γ} {default : α} {f : Fault}
    (hmem : (name, some c) ∈ fields) (hread : ∀ b, R c b → read b = .error f) :
    ∃ place, r.optional name default read = .fault place f := by
  obtain ⟨place, b, hb, hfind, -⟩ := h.find? hmem
  refine ⟨place, ?_⟩
  rw [Record.optional, hfind]
  show r.readAt name read place b = _
  rw [readAt, hread b hb]

/-- No field but the known ones is there, so nothing else can be at fault. -/
theorem others (h : r.Holds R fields) {known : List String} (hknown : fields.map (·.1) = known)
    (other : String → β → Except Fault Unit) : r.others known other = .pure () := by
  unfold Record.others
  dsimp only
  split
  next place f hfault =>
    obtain ⟨e, he, hf⟩ := List.exists_of_findSome?_eq_some hfault
    obtain ⟨c, hmem, -⟩ := h.written (List.fst_mem_of_mem_zipIdx he)
    have hname := List.mem_map_of_mem (f := (·.1)) hmem
    rw [hknown, ← List.contains_iff_mem] at hname
    rw [if_pos hname] at hf
    cases hf
  next hending =>
    rw [h.ending] at hending
    cases hending
  next => rfl

theorem finish (h : r.Holds R fields) {known : List String} (hknown : fields.map (·.1) = known)
    (other : String → β → Except Fault Unit) (a : α) : r.finish known other (.pure a) = .ok a := by
  rw [Record.finish, h.others hknown]
  rfl

theorem finish_fault (h : r.Holds R fields) {known : List String}
    (hknown : fields.map (·.1) = known) (other : String → β → Except Fault Unit) (place : Nat)
    (f : Fault) : r.finish known other (.fault place f : Verdict α) = .error f := by
  rw [Record.finish, h.others hknown]
  rfl

/-- The fields may be described in another way that their values fit as well. -/
theorem imp {δ : Type} {S : δ → β → Prop} {fields' : List (String × Option δ)}
    (h : r.Holds R fields)
    (hfields : List.Forall₂ (fun p q => p.1 = q.1 ∧
      Option.Rel (fun c d => ∀ b, R c b → S d b) p.2 q.2) fields fields') :
    r.Holds S fields' := by
  constructor
  case nodup => exact h.nodup
  case ending => exact h.ending
  case written =>
    intro name b hmem
    obtain ⟨c, hc, hb⟩ := h.written hmem
    obtain ⟨⟨name', d?⟩, hd, rfl, hrel⟩ := exists_right_of_forall₂ hfields hc
    cases hrel with
    | some hcd => exact ⟨_, hd, hcd b hb⟩
  case present =>
    intro name d hd
    obtain ⟨⟨name', c?⟩, hc, rfl, hrel⟩ := exists_right_of_forall₂ hfields.flip hd
    cases hrel with
    | some hcd =>
      obtain ⟨b, hb, hmem⟩ := h.present hc
      exact ⟨b, hcd b hb, hmem⟩
  case absent =>
    intro name hd
    obtain ⟨⟨name', c?⟩, hc, rfl, hrel⟩ := exists_right_of_forall₂ hfields.flip hd
    cases hrel with
    | none => exact h.absent hc

/-- A field that is taken out of the object and of its fields. -/
theorem erase {c? : Option γ} (h : r.Holds R ((name, c?) :: fields))
    (hname : name ∉ fields.map (·.1)) :
    ({ r with fields := r.fields.filter (·.1 != name) } : Record β).Holds R fields := by
  have hother : ∀ {other : String} {c? : Option γ}, (other, c?) ∈ fields → other ≠ name := by
    rintro _ _ hmem rfl
    exact hname (List.mem_map_of_mem (f := (·.1)) hmem)
  constructor
  case nodup => exact h.nodup.sublist (List.filter_sublist.map _)
  case ending => exact h.ending
  case written =>
    intro other b hmem
    obtain ⟨hmem, hne⟩ := List.mem_filter.1 hmem
    obtain ⟨c, hc, hb⟩ := h.written hmem
    rcases List.mem_cons.1 hc with heq | hc
    · cases heq
      simp at hne
    · exact ⟨c, hc, hb⟩
  case present =>
    intro other c hmem
    obtain ⟨b, hb, hwritten⟩ := h.present (List.mem_cons_of_mem _ hmem)
    exact ⟨b, hb, List.mem_filter.2 ⟨hwritten, by simpa using hother hmem⟩⟩
  case absent =>
    intro other hmem hwritten
    refine h.absent (List.mem_cons_of_mem _ hmem) ?_
    exact (List.filter_sublist.map _).subset hwritten

/-- The values of the fields may be turned into something else. -/
theorem map {δ : Type} (h : r.Holds R fields) (f : β → δ) :
    ({ fields := r.fields.map fun e => (e.1, f e.2) } : Record δ).Holds
      (fun c d => ∃ b, R c b ∧ f b = d) fields := by
  have hnames : (r.fields.map fun e => (e.1, f e.2)).map (·.1) = r.fields.map (·.1) := by
    rw [List.map_map]
    rfl
  constructor
  case nodup => exact hnames ▸ h.nodup
  case ending => rfl
  case written =>
    intro name d hmem
    obtain ⟨⟨name', b⟩, hwritten, heq⟩ := List.mem_map.1 hmem
    cases heq
    obtain ⟨c, hc, hb⟩ := h.written hwritten
    exact ⟨c, hc, b, hb, rfl⟩
  case present =>
    intro name c hmem
    obtain ⟨b, hb, hwritten⟩ := h.present hmem
    exact ⟨f b, ⟨b, hb, rfl⟩, List.mem_map.2 ⟨_, hwritten, rfl⟩⟩
  case absent =>
    intro name hmem
    exact hnames ▸ h.absent hmem

end Holds

end Record

end RouteAtlas
