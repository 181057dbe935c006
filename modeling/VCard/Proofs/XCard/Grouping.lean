import VCard.XCard.Write
import Mathlib.Tactic.SplitIfs
/-! Where xCard writing places the properties of a group.

xCard writes the properties of a group into one `<group>` element, made where
the group's first property stands (`Item.place`), so a card's properties come
back in a stable grouping of their order (`groupStable`): each property of no
group where it stands, and the properties of each group together, in their
order, where the group's first one stands.

`blocks` lays grouped elements out as items directly, group by group, and
`foldl_place` says that placing them one at a time builds the same items.
`visit_foldl_place` puts the two together: the elements of the placed items,
in the order a reader meets them, are the stable grouping of the elements,
an empty group counting as none. -/
namespace VCard.XCard

/-- A stable grouping of elements by group: every element of no group where it
stands, and the elements of each group together, in their order, where the
group's first one stands. -/
def groupStable {α : Type} : List (Option String × α) → List (Option String × α)
  | [] => []
  | (none, a) :: rest => (none, a) :: groupStable rest
  | (some g, a) :: rest =>
    (some g, a) :: rest.filter (·.1 == some g) ++ groupStable (rest.filter (·.1 != some g))
termination_by xs => xs.length
decreasing_by
  · simp
  · -- the elements outside the first one's group are fewer than all of them
    simp only [List.length_cons, List.length_unattach]
    exact Nat.lt_succ_of_le (Nat.le_trans (List.length_filter_le _ _) (Nat.le_of_eq List.length_attach))

/-- The group an element is placed in: none for no group or an empty one. -/
def nonEmptyGroup (g : Option String) : Option String := g.filter fun x => !x.isEmpty

/-- The elements of an item in the order a reader meets them, each with its group. -/
def Item.visit : Item → List (Option String × Xml.Element)
  | .group n es => es.map fun e => (some n, e)
  | .single e => [(none, e)]

/-- Grouped elements laid out as items, group by group: an element of no group
alone, and each group as one item of its elements, where its first one stands. -/
def blocks : List (Option String × Xml.Element) → List Item
  | [] => []
  | (none, e) :: rest => .single e :: blocks rest
  | (some g, e) :: rest =>
    .group g (e :: (rest.filter (·.1 == some g)).map (·.2)) :: blocks (rest.filter (·.1 != some g))
termination_by xs => xs.length
decreasing_by
  · simp
  · simp only [List.length_cons, List.length_unattach]
    exact Nat.lt_succ_of_le (Nat.le_trans (List.length_filter_le _ _) (Nat.le_of_eq List.length_attach))

/-! ### The items laid out group by group -/

theorem map_filter_group {α : Type} (g : Option String) (xs : List (Option String × α)) :
    (xs.filter (·.1 == g)).map (fun x => (g, x.2)) = xs.filter (·.1 == g) := by
  refine List.map_congr_left (fun x hx => ?_) |>.trans (List.map_id _)
  have hg : x.1 = g := by simpa using (List.mem_filter.mp hx).2
  rw [← hg]
  rfl

/-- Met in order, the items laid out group by group are the stable grouping. -/
theorem visit_blocks (xs : List (Option String × Xml.Element)) : (blocks xs).flatMap Item.visit = groupStable xs := by
  fun_induction blocks xs with
  | case1 => simp [groupStable]
  | case2 e rest ih => simp [groupStable, Item.visit, ih]
  | case3 g e rest ih =>
    simp only [List.unattach_filter, List.unattach_attach] at ih
    rw [groupStable, List.flatMap_cons, ih]
    simp only [Item.visit, List.map_cons, List.map_map, Function.comp_def, List.cons_append]
    rw [map_filter_group]

/-- No item laid out from elements outside a group is that group. -/
theorem group_not_mem_blocks {g : String} {xs : List (Option String × Xml.Element)}
    (h : ∀ x ∈ xs, x.1 ≠ some g) (es : List Xml.Element) : Item.group g es ∉ blocks xs := by
  fun_induction blocks xs with
  | case1 => simp
  | case2 e rest ih =>
    simp only [List.mem_cons, reduceCtorEq, false_or]
    exact ih fun x hx => h x (List.mem_cons_of_mem _ hx)
  | case3 n e rest ih =>
    simp only [List.unattach_filter, List.unattach_attach] at ih
    simp only [List.mem_cons, Item.group.injEq, not_or]
    refine ⟨fun hn => h _ List.mem_cons_self (by rw [hn.1]), ih fun x hx => h x ?_⟩
    exact List.mem_cons_of_mem _ (List.mem_filter.mp hx).1

/-! ### Placing one element -/

theorem place_nonEmptyGroup (items : List Item) (g : Option String) (e : Xml.Element) :
    Item.place items (nonEmptyGroup g) e = Item.place items g e := by
  cases g with
  | none => rfl
  | some g => by_cases hg : g.isEmpty <;> simp [nonEmptyGroup, Option.filter, Item.place, hg]

theorem nonEmptyGroup_ne_empty (g : Option String) : nonEmptyGroup g ≠ some "" := by
  cases g <;> simp [nonEmptyGroup, Option.filter]

/-- An element placed after an element of no group goes where it would go
without it. -/
theorem place_cons_single (a : Xml.Element) (items : List Item) (g : Option String) (e : Xml.Element) :
    Item.place (.single a :: items) g e = .single a :: Item.place items g e := by
  cases g with
  | none => rfl
  | some g =>
    simp only [Item.place, List.any_cons, Bool.false_or, List.map_cons, List.cons_append]
    split_ifs <;> rfl

/-- An element placed after another group goes where it would go without it. -/
theorem place_cons_group_ne {n : String} {g : Option String} (h : g ≠ some n) (es : List Xml.Element)
    (items : List Item) (e : Xml.Element) :
    Item.place (.group n es :: items) g e = .group n es :: Item.place items g e := by
  cases g with
  | none => rfl
  | some g =>
    have hne : (n == g) = false := beq_false_of_ne fun hng => h (by rw [hng])
    simp only [Item.place, List.any_cons, hne, Bool.false_or, List.map_cons, List.cons_append,
      Bool.false_eq_true, if_false]
    split_ifs <;> rfl

/-- The first element of a group makes the group's item, at the end. -/
theorem place_fresh {g : String} (hg : g ≠ "") {items : List Item} (h : ∀ es, Item.group g es ∉ items)
    (e : Xml.Element) : Item.place items (some g) e = items ++ [.group g [e]] := by
  have hg' : g.isEmpty = false := String.isEmpty_eq_false_iff.mpr hg
  simp only [Item.place, hg', Bool.false_eq_true, if_false]
  rw [if_neg]
  simp only [List.any_eq_true, not_exists, not_and]
  intro i hi
  cases i with
  | group n es =>
    simp only [beq_iff_eq]
    rintro rfl
    exact h es hi
  | single a => simp

/-- A later element of a group joins the group's item, at its end. -/
theorem place_cons_group_self {n : String} (hn : n ≠ "") (es : List Xml.Element) {items : List Item}
    (h : ∀ es, Item.group n es ∉ items) (e : Xml.Element) :
    Item.place (.group n es :: items) (some n) e = .group n (es ++ [e]) :: items := by
  have hn' : n.isEmpty = false := String.isEmpty_eq_false_iff.mpr hn
  simp only [Item.place, hn', List.any_cons, beq_self_eq_true, Bool.true_or, List.map_cons, if_true,
    Bool.false_eq_true, if_false]
  congr 1
  -- every other item is left as it is
  refine List.map_congr_left (fun i hi => ?_) |>.trans (List.map_id _)
  cases i with
  | group m fs =>
    have hm : (m == n) = false := beq_false_of_ne fun hmn => h fs (hmn ▸ hi)
    simp [hm]
  | single a => rfl

/-- Laying out one more element group by group places it into the items. -/
theorem blocks_append_singleton (xs : List (Option String × Xml.Element)) (x : Option String × Xml.Element)
    (h : ∀ y ∈ xs ++ [x], y.1 ≠ some "") : blocks (xs ++ [x]) = Item.place (blocks xs) x.1 x.2 := by
  fun_induction blocks xs with
  | case1 =>
    obtain ⟨g, e⟩ := x
    rw [List.nil_append]
    cases g with
    | none => simp [blocks, Item.place]
    | some g =>
      have hg : g ≠ "" := fun hg => h _ (List.mem_append_right _ List.mem_cons_self) (by rw [hg])
      rw [place_fresh hg (by simp)]
      simp [blocks]
  | case2 a rest ih =>
    rw [List.cons_append, blocks, ih fun y hy => h y (List.mem_cons_of_mem _ hy), place_cons_single]
  | case3 n a rest ih =>
    simp only [List.unattach_filter, List.unattach_attach] at ih
    have hn : n ≠ "" := fun hn => h _ List.mem_cons_self (by rw [hn])
    rw [List.cons_append, blocks, List.filter_append, List.filter_append]
    by_cases hx : x.1 = some n
    · -- the element joins the group of the first one
      have hin : (x.1 == some n) = true := by simp [hx]
      have hout : (x.1 != some n) = false := by simp [hx]
      simp only [List.filter_cons, hin, hout, List.filter_nil, if_true, Bool.false_eq_true, if_false,
        List.append_nil, List.map_append, List.map_cons, List.map_nil]
      have hno : ∀ y ∈ rest.filter (·.1 != some n), y.1 ≠ some n := fun y hy => by
        simpa using (List.mem_filter.mp hy).2
      rw [hx, place_cons_group_self hn _ (group_not_mem_blocks hno)]
      rfl
    · -- the element goes where it goes among the other groups
      have hin : (x.1 == some n) = false := by simp [hx]
      have hout : (x.1 != some n) = true := by simp [hx]
      simp only [List.filter_cons, hin, hout, List.filter_nil, if_true, Bool.false_eq_true, if_false,
        List.append_nil]
      rw [ih, place_cons_group_ne hx]
      intro y hy
      rcases List.mem_append.mp hy with hy | hy
      · exact h y (List.mem_cons_of_mem _ (List.mem_append_left _ (List.mem_filter.mp hy).1))
      · exact h y (List.mem_cons_of_mem _ (List.mem_append_right _ hy))

/-- Placing elements one at a time after items laid out group by group lays
them all out, when no group is empty. -/
theorem foldl_place_blocks (ys xs : List (Option String × Xml.Element)) (h : ∀ x ∈ ys ++ xs, x.1 ≠ some "") :
    xs.foldl (fun items x => Item.place items x.1 x.2) (blocks ys) = blocks (ys ++ xs) := by
  induction xs generalizing ys with
  | nil => rw [List.foldl_nil, List.append_nil]
  | cons x xs ih =>
    have hx : ∀ y ∈ ys ++ [x], y.1 ≠ some "" := fun y hy => h y (by
      rcases List.mem_append.mp hy with hy | hy
      · exact List.mem_append_left _ hy
      · exact List.mem_append_right _ (List.mem_cons.mpr (.inl (List.mem_singleton.mp hy))))
    rw [List.foldl_cons, ← blocks_append_singleton ys x hx, ih (ys ++ [x]) (by simpa using h),
      List.append_assoc, List.singleton_append]

/-- **Placing elements one at a time lays them out group by group**, when no
group is empty. -/
theorem foldl_place (xs : List (Option String × Xml.Element)) (h : ∀ x ∈ xs, x.1 ≠ some "") :
    xs.foldl (fun items x => Item.place items x.1 x.2) [] = blocks xs := by
  have hnil : blocks [] = [] := by simp [blocks]
  simpa [hnil] using foldl_place_blocks [] xs (by simpa using h)

/-- **The elements of placed items, met in order, are the stable grouping of
the elements**, an empty group counting as none. -/
theorem visit_foldl_place (xs : List (Option String × Xml.Element)) :
    (xs.foldl (fun items x => Item.place items x.1 x.2) []).flatMap Item.visit =
      groupStable (xs.map fun x => (nonEmptyGroup x.1, x.2)) := by
  have hnormal : xs.foldl (fun items x => Item.place items x.1 x.2) [] =
      (xs.map fun x => (nonEmptyGroup x.1, x.2)).foldl (fun items x => Item.place items x.1 x.2) [] := by
    simp only [List.foldl_map, place_nonEmptyGroup]
  refine hnormal ▸ (foldl_place _ fun x hx => ?_) ▸ visit_blocks _
  obtain ⟨y, -, rfl⟩ := List.mem_map.mp hx
  exact nonEmptyGroup_ne_empty _
/-- An element of no group laid out alone is one of the elements. -/
theorem single_mem_blocks {xs : List (Option String × Xml.Element)} {e : Xml.Element} (h : Item.single e ∈ blocks xs) :
    (none, e) ∈ xs := by
  fun_induction blocks xs with
  | case1 => simp at h
  | case2 a rest ih =>
    rcases List.mem_cons.mp h with h | h
    · cases h
      exact List.mem_cons_self
    · exact List.mem_cons_of_mem _ (ih h)
  | case3 n a rest ih =>
    simp only [List.unattach_filter, List.unattach_attach] at ih
    rcases List.mem_cons.mp h with h | h
    · cases h
    · exact List.mem_cons_of_mem _ (List.mem_filter.mp (ih h)).1

/-- A group laid out is the group of one of the elements. -/
theorem group_mem_blocks {xs : List (Option String × Xml.Element)} {g : String} {es : List Xml.Element}
    (h : Item.group g es ∈ blocks xs) : ∃ a, (some g, a) ∈ xs := by
  fun_induction blocks xs with
  | case1 => simp at h
  | case2 a rest ih =>
    rcases List.mem_cons.mp h with h | h
    · cases h
    · obtain ⟨b, hb⟩ := ih h
      exact ⟨b, List.mem_cons_of_mem _ hb⟩
  | case3 n a rest ih =>
    simp only [List.unattach_filter, List.unattach_attach] at ih
    rcases List.mem_cons.mp h with h | h
    · cases h
      exact ⟨a, List.mem_cons_self⟩
    · obtain ⟨b, hb⟩ := ih h
      exact ⟨b, List.mem_cons_of_mem _ (List.mem_filter.mp hb).1⟩
end VCard.XCard
