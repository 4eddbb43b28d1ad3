import Mathlib.Data.List.Basic
import RouteAtlas.Proofs.Path.Variables

/-!
# RouteAtlas.Proofs.Path.Groups — the groups of a path as a count of open braces finds them

`depth` counts the groups that are open at the end of a text.  A `Group` of a text opens where the
count is zero and ends with the first brace that brings it back to zero; `exists_groups` states that
`groups` lists just these, from left to right.
-/

namespace RouteAtlas

namespace Path

/-! ## Counting open braces -/

/-- The number of open groups after one more character.  Where no group is open, a closing brace
closes nothing. -/
def depthAfter (d : Nat) (c : Char) : Nat :=
  if c = '{' then d + 1 else if c = '}' then d - 1 else d

/-- The number of open groups at the end of a text that starts with `d` of them. -/
def depthFrom (d : Nat) (cs : List Char) : Nat := cs.foldl depthAfter d

/-- The number of groups that a text opens and does not close. -/
def depth (cs : List Char) : Nat := depthFrom 0 cs

/-- A group as it is written. -/
def braced (inner : List Char) : List Char := '{' :: (inner ++ ['}'])

/-- The text starts with `d` open groups and at no place closes all of them. -/
def StaysOpen (d : Nat) (cs : List Char) : Prop := ∀ p, p <+: cs → depthFrom d p ≠ 0

variable {d : Nat} {c : Char} {cs inner rest before after : List Char}

@[simp] theorem depthAfter_open (d : Nat) : depthAfter d '{' = d + 1 := rfl

@[simp] theorem depthAfter_close (d : Nat) : depthAfter d '}' = d - 1 := rfl

theorem depthAfter_of_ne (ho : c ≠ '{') (hc : c ≠ '}') : depthAfter d c = d := by
  simp [depthAfter, ho, hc]

/-- Where no group is open, only an opening brace changes that. -/
theorem depthAfter_zero_of_ne (ho : c ≠ '{') : depthAfter 0 c = 0 := by
  by_cases hc : c = '}'
  · subst hc
    rfl
  · exact depthAfter_of_ne ho hc

/-- Only a closing brace ends the last open group. -/
theorem depthAfter_succ_eq_zero (h : depthAfter (d + 1) c = 0) : c = '}' ∧ d = 0 := by
  unfold depthAfter at h
  split_ifs at h with ho hc
  exact ⟨hc, by omega⟩

@[simp] theorem depthFrom_nil (d : Nat) : depthFrom d [] = d := rfl

@[simp] theorem depthFrom_cons (d : Nat) (c : Char) (cs : List Char) :
    depthFrom d (c :: cs) = depthFrom (depthAfter d c) cs := rfl

theorem depthFrom_append (d : Nat) (cs ds : List Char) :
    depthFrom d (cs ++ ds) = depthFrom (depthFrom d cs) ds := List.foldl_append

/-- Behind a text that closes its groups the count starts anew. -/
theorem depth_append (h : depth before = 0) (cs : List Char) : depth (before ++ cs) = depth cs := by
  have hstart : depthFrom 0 before = 0 := h
  rw [depth, depthFrom_append, hstart, depth]

/-- Behind the opening brace of a group one group is open. -/
theorem depth_append_open (h : depth before = 0) (cs : List Char) :
    depth (before ++ '{' :: cs) = depthFrom 1 cs := by
  rw [depth_append h]
  rfl

theorem staysOpen_nil_iff : StaysOpen d [] ↔ d ≠ 0 := by
  simp [StaysOpen]

theorem staysOpen_cons_iff :
    StaysOpen d (c :: cs) ↔ d ≠ 0 ∧ StaysOpen (depthAfter d c) cs := by
  constructor
  · intro h
    refine ⟨h [] List.nil_prefix, fun p hp => ?_⟩
    exact h (c :: p) (List.cons_prefix_cons.2 ⟨rfl, hp⟩)
  · rintro ⟨hd, h⟩ p hp
    rcases List.prefix_cons_iff.1 hp with rfl | ⟨q, rfl, hq⟩
    · exact hd
    · exact h q hq

theorem StaysOpen.depthFrom_ne_zero (h : StaysOpen d cs) : depthFrom d cs ≠ 0 :=
  h cs List.prefix_rfl

/-! ## The end of a group -/

/-- One character of a group: it ends the group, or it belongs to it. -/
theorem closeGroup?_cons (d : Nat) (c : Char) (cs : List Char) :
    closeGroup? d (c :: cs) =
      if depthAfter (d + 1) c = 0 then some ([], cs)
      else (closeGroup? (depthAfter (d + 1) c - 1) cs).map fun p => (c :: p.1, p.2) := by
  by_cases ho : c = '{'
  · subst ho
    simp [closeGroup?]
  by_cases hc : c = '}'
  · subst hc
    cases d with
    | zero => simp [closeGroup?]
    | succ d => simp [closeGroup?]
  · simp [closeGroup?, depthAfter_of_ne ho hc, ho, hc]

theorem closeGroup?_cons_of_zero (h : depthAfter (d + 1) c = 0) (cs : List Char) :
    closeGroup? d (c :: cs) = some ([], cs) := by
  rw [closeGroup?_cons, if_pos h]

theorem closeGroup?_cons_of_succ {n : Nat} (h : depthAfter (d + 1) c = n + 1) (cs : List Char) :
    closeGroup? d (c :: cs) = (closeGroup? n cs).map fun p => (c :: p.1, p.2) := by
  rw [closeGroup?_cons, h, if_neg (Nat.succ_ne_zero n), Nat.add_sub_cancel]

/-- Inside `d` other groups, a group holds `inner` and `rest` follows it: no brace of `inner` closes
the group, the one behind it does. -/
def EndsGroup (d : Nat) (cs inner rest : List Char) : Prop :=
  cs = inner ++ '}' :: rest ∧ StaysOpen (d + 1) inner ∧ depthFrom (d + 1) inner = 1

theorem endsGroup_cons_iff_of_zero (h : depthAfter (d + 1) c = 0) :
    EndsGroup d (c :: cs) inner rest ↔ inner = [] ∧ rest = cs := by
  obtain ⟨rfl, rfl⟩ := depthAfter_succ_eq_zero h
  constructor
  · rintro ⟨heq, hopen, -⟩
    cases inner with
    | nil =>
      cases heq
      exact ⟨rfl, rfl⟩
    | cons e inner =>
      -- the brace would be the first character of the group and close it
      obtain ⟨rfl, -⟩ := List.cons.inj heq
      have hfirst := (staysOpen_cons_iff.1 hopen).2 [] List.nil_prefix
      exact absurd h hfirst
  · rintro ⟨rfl, rfl⟩
    exact ⟨rfl, staysOpen_nil_iff.2 (by omega), rfl⟩

theorem endsGroup_cons_iff_of_succ {n : Nat} (h : depthAfter (d + 1) c = n + 1) :
    EndsGroup d (c :: cs) inner rest ↔ ∃ i, inner = c :: i ∧ EndsGroup n cs i rest := by
  constructor
  · rintro ⟨heq, hopen, hend⟩
    cases inner with
    | nil =>
      -- the group would end with this character
      obtain ⟨rfl, -⟩ := List.cons.inj heq
      have hd : d + 1 = 1 := hend
      rw [hd] at h
      cases h
    | cons e i =>
      obtain ⟨rfl, rfl⟩ := List.cons.inj heq
      have hrest := (staysOpen_cons_iff.1 hopen).2
      rw [h] at hrest
      rw [depthFrom_cons, h] at hend
      exact ⟨i, rfl, rfl, hrest, hend⟩
  · rintro ⟨i, rfl, rfl, hopen, hend⟩
    refine ⟨rfl, staysOpen_cons_iff.2 ⟨Nat.succ_ne_zero d, ?_⟩, ?_⟩
    · rw [h]
      exact hopen
    · rw [depthFrom_cons, h]
      exact hend

/-- A group goes up to the first brace that closes it and all groups inside it. -/
theorem closeGroup?_eq_some_iff : closeGroup? d cs = some (inner, rest) ↔
    EndsGroup d cs inner rest := by
  -- for every depth, since a brace inside the group changes it
  induction cs generalizing d inner with
  | nil => simp [closeGroup?, EndsGroup]
  | cons c cs ih =>
    cases h : depthAfter (d + 1) c with
    | zero =>
      rw [closeGroup?_cons_of_zero h, endsGroup_cons_iff_of_zero h, Option.some.injEq,
        Prod.mk.injEq, eq_comm, @eq_comm _ cs]
    | succ n =>
      rw [closeGroup?_cons_of_succ h, endsGroup_cons_iff_of_succ h, Option.map_eq_some_iff]
      constructor
      · rintro ⟨⟨i, r⟩, hi, heq⟩
        cases heq
        exact ⟨i, rfl, ih.1 hi⟩
      · rintro ⟨i, rfl, hi⟩
        exact ⟨(i, rest), ih.2 hi, rfl⟩

/-- A group is not closed where the rest of the text stays open. -/
theorem closeGroup?_eq_none_iff : closeGroup? d cs = none ↔ StaysOpen (d + 1) cs := by
  induction cs generalizing d with
  | nil => simp [closeGroup?, staysOpen_nil_iff]
  | cons c cs ih =>
    rw [staysOpen_cons_iff]
    cases h : depthAfter (d + 1) c with
    | zero =>
      have hclosed : ¬ StaysOpen 0 cs := fun hopen => hopen [] List.nil_prefix rfl
      rw [closeGroup?_cons_of_zero h]
      simp only [reduceCtorEq, hclosed, and_false]
    | succ n =>
      rw [closeGroup?_cons_of_succ h, Option.map_eq_none_iff, ih]
      simp

/-- What follows a group does not change it. -/
theorem closeGroup?_append (h : closeGroup? d cs = some (inner, rest)) (after : List Char) :
    closeGroup? d (cs ++ after) = some (inner, rest ++ after) := by
  obtain ⟨rfl, hopen, hend⟩ := closeGroup?_eq_some_iff.1 h
  refine closeGroup?_eq_some_iff.2 ⟨?_, hopen, hend⟩
  rw [List.append_assoc, List.cons_append]

/-- A group closes all that it opens. -/
theorem depth_group (h : closeGroup? 0 cs = some (inner, rest)) :
    depth (braced inner) = 0 := by
  obtain ⟨-, -, hend⟩ := closeGroup?_eq_some_iff.1 h
  rw [braced, depth, depthFrom_cons, depthFrom_append, depthAfter_open, hend]
  rfl

theorem eq_append_of_closeGroup? (h : closeGroup? 0 cs = some (inner, rest)) :
    '{' :: cs = braced inner ++ rest := by
  obtain ⟨rfl, -, -⟩ := closeGroup?_eq_some_iff.1 h
  simp [braced]

/-! ## The groups of a text in parts -/

theorem groups_cons_of_ne (h : c ≠ '{') (cs : List Char) : groups (c :: cs) = groups cs := by
  rw [groups, if_neg h]

theorem groups_open_of_some (h : closeGroup? 0 cs = some (inner, rest)) :
    groups ('{' :: cs) = inner :: groups rest := by
  rw [groups, if_pos rfl]
  split
  next hnone => rw [h] at hnone; cases hnone
  next i r hsome =>
    rw [h] at hsome
    cases hsome
    rfl

theorem groups_open_of_none (h : closeGroup? 0 cs = none) : groups ('{' :: cs) = [] := by
  rw [groups, if_pos rfl]
  split
  next => rfl
  next i r hsome => rw [h] at hsome; cases hsome

/-- **Behind a text that closes its groups new groups are read**, as if nothing stood before. -/
theorem groups_append (h : depth before = 0) (after : List Char) :
    groups (before ++ after) = groups before ++ groups after := by
  fun_induction groups before with
  | case1 => rfl
  | case2 cs hnone =>
    have hopen : StaysOpen 1 cs := closeGroup?_eq_none_iff.1 hnone
    exact absurd h hopen.depthFrom_ne_zero
  | case3 cs inner rest hsome ih =>
    have hrest : depth rest = 0 := by
      rw [← depth_append (depth_group hsome), ← eq_append_of_closeGroup? hsome]
      exact h
    rw [List.cons_append, groups_open_of_some (closeGroup?_append hsome after), ih hrest]
    rfl
  | case4 c cs hc ih =>
    have hcs : depth cs = 0 := by
      rw [depth, depthFrom_cons, depthAfter_zero_of_ne hc] at h
      exact h
    rw [List.cons_append, groups_cons_of_ne hc, ih hcs]

/-! ## Groups and where they stand -/

/-- A place in a text: what stands before a group, inside it and behind it. -/
structure Group where
  before : List Char
  inner : List Char
  after : List Char

/-- The group is one of the text: it opens where none is open, and ends at the first place where
none is open again. -/
structure Group.In (g : Group) (cs : List Char) : Prop where
  text : cs = g.before ++ (braced g.inner ++ g.after)
  outside : depth g.before = 0
  inside : ∀ p, p <+: g.inner → depth (g.before ++ '{' :: p) ≠ 0
  closed : depth (g.before ++ braced g.inner) = 0

namespace Group

variable {g : Group}

theorem in_iff :
    g.In cs ↔ depth g.before = 0 ∧
      ∃ tail, cs = g.before ++ '{' :: tail ∧ closeGroup? 0 tail = some (g.inner, g.after) := by
  constructor
  · intro h
    have hopen : StaysOpen 1 g.inner := by
      intro p hp
      rw [← depth_append_open h.outside]
      exact h.inside p hp
    have hclosed : depthFrom 1 g.inner - 1 = 0 := by
      have hdepth := h.closed
      rw [braced, depth_append_open h.outside, depthFrom_append] at hdepth
      exact hdepth
    have hone : depthFrom 1 g.inner = 1 := by
      have hne := hopen.depthFrom_ne_zero
      omega
    have hend : closeGroup? 0 (g.inner ++ '}' :: g.after) = some (g.inner, g.after) :=
      closeGroup?_eq_some_iff.2 ⟨rfl, hopen, hone⟩
    refine ⟨h.outside, _, ?_, hend⟩
    rw [h.text, ← eq_append_of_closeGroup? hend]
  · rintro ⟨hout, tail, rfl, htail⟩
    obtain ⟨-, hopen, -⟩ := closeGroup?_eq_some_iff.1 htail
    refine ⟨?_, hout, fun p hp => ?_, ?_⟩
    · rw [eq_append_of_closeGroup? htail]
    · rw [depth_append_open hout]
      exact hopen p hp
    · rw [depth_append hout]
      exact depth_group htail

/-- No group opens inside the first one, or inside one that is never closed. -/
theorem before_eq_nil (h : g.In ('{' :: cs)) (hopen : StaysOpen 1 inner)
    (hbefore : g.before <+: '{' :: inner) : g.before = [] := by
  rcases List.prefix_cons_iff.1 hbefore with hnil | ⟨q, hq, hinner⟩
  · exact hnil
  · have hout : depthFrom 1 q = 0 := by
      have hdepth := h.outside
      rw [hq] at hdepth
      exact hdepth
    exact absurd hout (hopen q hinner)

theorem closeGroup?_of_before_eq_nil (h : g.In ('{' :: cs)) (hbefore : g.before = []) :
    closeGroup? 0 cs = some (g.inner, g.after) := by
  obtain ⟨-, tail, htext, htail⟩ := in_iff.1 h
  rw [hbefore] at htext
  obtain ⟨-, rfl⟩ := List.cons.inj htext
  exact htail

theorem not_in_open (h : closeGroup? 0 cs = none) : ¬ g.In ('{' :: cs) := by
  intro hg
  have hbefore : g.before = [] :=
    before_eq_nil hg (closeGroup?_eq_none_iff.1 h) ⟨_, hg.text.symm⟩
  have hsome := closeGroup?_of_before_eq_nil hg hbefore
  rw [h] at hsome
  cases hsome

/-- A group at the start of a text is the only one that opens before its end. -/
theorem in_open_iff (h : closeGroup? 0 cs = some (inner, rest))
    (hlt : g.before.length < inner.length + 2) : g.In ('{' :: cs) ↔ g = ⟨[], inner, rest⟩ := by
  constructor
  · intro hg
    obtain ⟨hcs, hopen, -⟩ := closeGroup?_eq_some_iff.1 h
    have hinner : '{' :: inner <+: '{' :: cs := ⟨'}' :: rest, by rw [hcs]; rfl⟩
    have hsplit : g.before <+: '{' :: inner := by
      refine List.prefix_of_prefix_length_le ⟨_, hg.text.symm⟩ hinner ?_
      rw [List.length_cons]
      omega
    have hbefore : g.before = [] := before_eq_nil hg hopen hsplit
    have hsome := closeGroup?_of_before_eq_nil hg hbefore
    rw [h] at hsome
    cases g
    cases hsome
    cases hbefore
    rfl
  · rintro rfl
    exact in_iff.2 ⟨rfl, cs, rfl, h⟩

/-- The group in a text that `before` stands in front of. -/
def behind (g : Group) (before : List Char) : Group := { g with before := before ++ g.before }

/-- Behind a text that closes its groups stand the groups of the rest. -/
theorem in_append_iff (h : depth before = 0) (hle : before.length ≤ g.before.length) :
    g.In (before ++ cs) ↔ ∃ g' : Group, g'.In cs ∧ g'.behind before = g := by
  constructor
  · intro hg
    obtain ⟨hout, tail, htext, htail⟩ := in_iff.1 hg
    have hsplit : before <+: g.before :=
      List.prefix_of_prefix_length_le ⟨cs, rfl⟩ ⟨'{' :: tail, htext.symm⟩ hle
    obtain ⟨q, hq⟩ := hsplit
    rw [← hq, List.append_assoc] at htext
    have hcs : cs = q ++ '{' :: tail := List.append_cancel_left htext
    have hqout : depth q = 0 := by
      rw [← depth_append h, hq]
      exact hout
    refine ⟨⟨q, g.inner, g.after⟩, in_iff.2 ⟨hqout, tail, hcs, htail⟩, ?_⟩
    rw [behind, hq]
  · rintro ⟨g', hg', rfl⟩
    obtain ⟨hout, tail, rfl, htail⟩ := in_iff.1 hg'
    refine in_iff.2 ⟨?_, tail, ?_, htail⟩
    · rw [behind, depth_append h]
      exact hout
    · rw [behind, List.append_assoc]

end Group

/-- Sorted by where they open. -/
def LeftToRight (gs : List Group) : Prop :=
  gs.Pairwise fun g h => g.before.length < h.before.length

theorem LeftToRight.map_behind {gs : List Group} (h : LeftToRight gs) (before : List Char) :
    LeftToRight (gs.map (·.behind before)) := by
  refine List.pairwise_map.2 (List.Pairwise.imp (fun {g g'} hlt => ?_) h)
  simpa [Group.behind] using hlt

/-- The list has just the groups of the text, from left to right. -/
structure Enumerates (gs : List Group) (cs : List Char) : Prop where
  mem_iff : ∀ g, g ∈ gs ↔ g.In cs
  sorted : LeftToRight gs

namespace Enumerates

variable {gs : List Group}

theorem nil (h : ∀ g : Group, ¬ g.In cs) : Enumerates [] cs where
  mem_iff g := by simp only [List.not_mem_nil, h g]
  sorted := List.Pairwise.nil

/-- A text that starts with a group has that one and the groups behind it. -/
theorem group_cons (h : closeGroup? 0 cs = some (inner, rest)) (hgs : Enumerates gs rest) :
    Enumerates (⟨[], inner, rest⟩ :: gs.map (·.behind (braced inner))) ('{' :: cs) := by
  have hwhole : '{' :: cs = braced inner ++ rest := eq_append_of_closeGroup? h
  have hlength : (braced inner).length = inner.length + 2 := by simp [braced]
  refine ⟨fun g => ?_, List.pairwise_cons.2 ⟨fun g hg => ?_, hgs.sorted.map_behind _⟩⟩
  · rw [List.mem_cons, List.mem_map]
    by_cases hle : (braced inner).length ≤ g.before.length
    · have hne : g ≠ ⟨[], inner, rest⟩ := by
        rintro rfl
        simp [hlength] at hle
      rw [hwhole, Group.in_append_iff (depth_group h) hle]
      simp only [hne, false_or, hgs.mem_iff]
    · have hno : ¬ ∃ g', g' ∈ gs ∧ g'.behind (braced inner) = g := by
        rintro ⟨g', -, rfl⟩
        simp [Group.behind] at hle
      rw [Group.in_open_iff h (by omega)]
      simp only [hno, or_false]
  · obtain ⟨g', -, rfl⟩ := List.mem_map.1 hg
    simp only [Group.behind, List.length_append, List.length_nil, hlength]
    omega

/-- Any other character only moves the groups that follow. -/
theorem cons (hc : c ≠ '{') (hgs : Enumerates gs cs) :
    Enumerates (gs.map (·.behind [c])) (c :: cs) := by
  have hwhole : c :: cs = [c] ++ cs := rfl
  have hdepth : depth [c] = 0 := depthAfter_zero_of_ne hc
  refine ⟨fun g => ?_, hgs.sorted.map_behind [c]⟩
  rw [List.mem_map]
  by_cases hle : [c].length ≤ g.before.length
  · rw [hwhole, Group.in_append_iff hdepth hle]
    simp only [hgs.mem_iff]
  · have hbefore : g.before = [] := List.length_eq_zero_iff.1 (by simpa using hle)
    constructor
    · rintro ⟨g', -, rfl⟩
      simp [Group.behind] at hbefore
    · intro hg
      have htext := hg.text
      rw [hbefore] at htext
      exact absurd (List.cons.inj htext).1 hc

end Enumerates

/-- **The groups of a text, from left to right**, are what `groups` finds in it. -/
theorem exists_groups (cs : List Char) :
    ∃ gs : List Group, Enumerates gs cs ∧ gs.map (·.inner) = groups cs := by
  fun_induction groups cs with
  | case1 =>
    have hno : ∀ g : Group, ¬ g.In [] := by
      intro g hg
      simpa [braced] using hg.text
    exact ⟨[], .nil hno, rfl⟩
  | case2 cs hnone => exact ⟨[], .nil fun g => Group.not_in_open hnone, rfl⟩
  | case3 cs inner rest hsome ih =>
    obtain ⟨gs, hgs, hmap⟩ := ih
    refine ⟨_, hgs.group_cons hsome, ?_⟩
    rw [List.map_cons, List.map_map, ← hmap]
    rfl
  | case4 c cs hc ih =>
    obtain ⟨gs, hgs, hmap⟩ := ih
    refine ⟨_, hgs.cons hc, ?_⟩
    rw [List.map_map, ← hmap]
    rfl

end Path

end RouteAtlas
