import VCard.Params
/-! Laws of the parameter multimap.

`Params.names` lists each name once, in order of first appearance
(`nodup_names`, `mem_names`), and `sameAs` compares two parameter sets name by
name, whatever the order between names. The headline law is `sameAs_regroup`:
laying the values of a parameter set out name by name, as `multimap` gives them
to the writer, gives the same parameters, with any change of the values applied
to both sides. It holds of every parameter set whose names are stored as
themselves (`Keyed`), as every name `put` and `ofList` store is. -/
namespace VCard.Params

/-! ### Names -/

/-- One step of `names`: a name is added the first time it is seen. -/
def addName (acc : List String) (e : String × String) : List String :=
  if acc.contains e.1 then acc else acc ++ [e.1]

theorem names_eq_foldl (p : Params) : p.names = p.entries.foldl addName [] := rfl

theorem foldl_addName_map (f : String × String → String) (acc : List String) (l : List (String × String)) :
    (l.map fun e => (e.1, f e)).foldl addName acc = l.foldl addName acc := by
  induction l generalizing acc with
  | nil => rfl
  | cons e l ih => simp [addName, ih]

theorem mem_addName {n : String} (acc : List String) (e : String × String) :
    n ∈ addName acc e ↔ n ∈ acc ∨ e.1 = n := by
  unfold addName
  split
  · next h =>
    constructor
    · exact .inl
    · rintro (h' | rfl)
      · exact h'
      · simpa using h
  · simp [eq_comm]

theorem mem_foldl_addName {n : String} (acc : List String) (l : List (String × String)) :
    n ∈ l.foldl addName acc ↔ n ∈ acc ∨ ∃ e ∈ l, e.1 = n := by
  induction l generalizing acc with
  | nil => simp
  | cons e l ih =>
    rw [List.foldl_cons, ih, mem_addName]
    simp [or_assoc]

theorem nodup_foldl_addName {acc : List String} (h : acc.Nodup) (l : List (String × String)) :
    (l.foldl addName acc).Nodup := by
  induction l generalizing acc with
  | nil => exact h
  | cons e l ih =>
    apply ih
    unfold addName
    split
    · exact h
    · next hc =>
      rw [List.nodup_append]
      refine ⟨h, by simp, ?_⟩
      intro a ha b hb
      simp only [List.mem_singleton] at hb
      subst hb
      rintro rfl
      exact hc (by simpa using ha)

theorem nodup_names (p : Params) : p.names.Nodup := nodup_foldl_addName List.nodup_nil _

theorem mem_names {p : Params} {n : String} : n ∈ p.names ↔ ∃ e ∈ p.entries, e.1 = n := by
  rw [names_eq_foldl, mem_foldl_addName]
  simp

theorem mem_multimap {p : Params} {nv : String × List String} :
    nv ∈ p.multimap ↔ nv.1 ∈ p.names ∧ nv.2 = p.getAll nv.1 := by
  constructor
  · simp only [multimap, List.mem_map]
    rintro ⟨n, hn, rfl⟩
    exact ⟨hn, rfl⟩
  · rintro ⟨hn, hv⟩
    simp only [multimap, List.mem_map]
    exact ⟨nv.1, hn, by rw [← hv]⟩

/-! ### Values in place of values -/

theorem names_mapValues (p : Params) (f : String → String) :
    (⟨p.entries.map fun e => (e.1, f e.2)⟩ : Params).names = p.names := by
  rw [names_eq_foldl, names_eq_foldl]
  exact foldl_addName_map _ _ _

theorem getAll_mapValues (p : Params) (f : String → String) (m : String) :
    (⟨p.entries.map fun e => (e.1, f e.2)⟩ : Params).getAll m = (p.getAll m).map f := by
  simp [getAll, List.filter_map, Function.comp_def]

theorem ofList_mapValues (pairs : List (String × String)) (f : String → String) :
    ofList (pairs.map fun q => (q.1, f q.2)) = ⟨(ofList pairs).entries.map fun e => (e.1, f e.2)⟩ := by
  simp [ofList]

/-! ### Values laid out name by name -/

theorem foldl_addName_same {n : String} {acc : List String} (h : n ∈ acc) (xs : List String) :
    (xs.map (n, ·)).foldl addName acc = acc := by
  induction xs with
  | nil => rfl
  | cons x xs ih =>
    have : addName acc (n, x) = acc := by simp [addName, h]
    rw [List.map_cons, List.foldl_cons, this, ih]

/-- Names that each carry a block of values, listed one after the other: reading
the names sees each block's name once. -/
theorem foldl_addName_blocks (vs : String → List String) :
    ∀ (ns acc : List String), ns.Nodup → (∀ n ∈ ns, n ∉ acc) → (∀ n ∈ ns, vs n ≠ []) →
      (ns.flatMap fun n => (vs n).map (n, ·)).foldl addName acc = acc ++ ns := by
  intro ns
  induction ns with
  | nil => simp
  | cons n ns ih =>
    intro acc hnd hout hne
    obtain ⟨v, rest, hv⟩ := List.exists_cons_of_ne_nil (hne n List.mem_cons_self)
    have hn : n ∉ acc := hout n List.mem_cons_self
    have hblock : ((vs n).map (n, ·)).foldl addName acc = acc ++ [n] := by
      have hfirst : addName acc (n, v) = acc ++ [n] := by simp [addName, hn]
      rw [hv, List.map_cons, List.foldl_cons, hfirst, foldl_addName_same (by simp)]
    rw [List.flatMap_cons, List.foldl_append, hblock, ih]
    · simp
    · exact (List.nodup_cons.mp hnd).2
    · intro m hm
      simp only [List.mem_append, List.mem_singleton, not_or]
      exact ⟨hout m (List.mem_cons_of_mem _ hm), fun h => (List.nodup_cons.mp hnd).1 (h ▸ hm)⟩
    · exact fun m hm => hne m (List.mem_cons_of_mem _ hm)

theorem getAll_blocks (vs : String → List String) (m : String) :
    ∀ ns : List String, ns.Nodup →
      (⟨ns.flatMap fun n => (vs n).map (n, ·)⟩ : Params).getAll m = if key m ∈ ns then vs (key m) else [] := by
  intro ns
  induction ns with
  | nil => simp [getAll]
  | cons n ns ih =>
    intro hnd
    have ih := ih (List.nodup_cons.mp hnd).2
    simp only [getAll, List.flatMap_cons, List.filter_append, List.map_append] at ih ⊢
    rw [ih]
    by_cases h : n = key m
    · subst h
      have hout : key m ∉ ns := (List.nodup_cons.mp hnd).1
      simp [List.filter_map, Function.comp_def, hout]
    · simp [List.filter_map, Function.comp_def, h, Ne.symm h]

/-! ### Equality name by name -/

theorem contains_of_mem_names {q : Params} {n : String} (h : n ∈ q.names) (hk : key n = n) :
    q.contains n = true := by
  obtain ⟨e, he, rfl⟩ := mem_names.mp h
  simp only [contains, List.any_eq_true, beq_iff_eq]
  exact ⟨e, he, hk.symm⟩

/-- Two parameter sets are the same when they have the same names, each stored
as itself, and the same values for each. -/
theorem sameAs_of_names {p q : Params} (hn : p.names = q.names) (hk : ∀ n ∈ q.names, key n = n)
    (hv : ∀ n ∈ p.names, p.getAll n = q.getAll n) : p.sameAs q = true := by
  simp only [sameAs, hn, beq_self_eq_true, Bool.true_and, List.all_eq_true, Bool.and_eq_true, beq_iff_eq]
  intro n hmem
  exact ⟨contains_of_mem_names hmem (hk n hmem), hv n (hn ▸ hmem)⟩

/-- Names stored as themselves, as every name `put` stores is. -/
def Keyed (p : Params) : Prop := ∀ e ∈ p.entries, key e.1 = e.1

theorem Keyed.key_of_mem_names {p : Params} (hp : p.Keyed) {n : String} (h : n ∈ p.names) : key n = n := by
  obtain ⟨e, he, rfl⟩ := mem_names.mp h
  exact hp e he

theorem Keyed.getAll_ne_nil {p : Params} (hp : p.Keyed) {n : String} (h : n ∈ p.names) : p.getAll n ≠ [] := by
  obtain ⟨e, he, rfl⟩ := mem_names.mp h
  have hmem : e.2 ∈ p.getAll e.1 := by
    simp only [getAll, List.mem_map, List.mem_filter, beq_iff_eq]
    exact ⟨e, ⟨he, (hp e he).symm⟩, rfl⟩
  intro hnil
  rw [hnil] at hmem
  simp at hmem

/-- Every value of the multimap is a parameter under its name. -/
theorem Keyed.mem_entries {p : Params} (hp : p.Keyed) {nv : String × List String} (hnv : nv ∈ p.multimap)
    {v : String} (hv : v ∈ nv.2) : (nv.1, v) ∈ p.entries := by
  obtain ⟨hn, hvs⟩ := mem_multimap.mp hnv
  rw [hvs] at hv
  simp only [getAll, List.mem_map, List.mem_filter, beq_iff_eq] at hv
  obtain ⟨e, ⟨he, hkey⟩, rfl⟩ := hv
  rw [hp.key_of_mem_names hn] at hkey
  rw [← hkey]
  exact he

/-- The values of each name laid out name by name are blocks, one per name. -/
theorem regroup_eq_blocks (p : Params) (f : String → String) :
    p.multimap.flatMap (fun nv => nv.2.map fun v => (nv.1, f v)) =
      p.names.flatMap fun n => ((p.getAll n).map f).map (n, ·) := by
  simp [multimap, List.flatMap_map, Function.comp_def]

/-- **Regrouping the values by name keeps a parameter set**: the values of each
name, in the order of first appearance of the names, are the same parameters
(with any change of the values applied to both). -/
theorem sameAs_regroup {p : Params} (hp : p.Keyed) (f : String → String) :
    (⟨p.multimap.flatMap fun nv => nv.2.map fun v => (nv.1, f v)⟩ : Params).sameAs
      ⟨p.entries.map fun e => (e.1, f e.2)⟩ = true := by
  rw [regroup_eq_blocks]
  have hne : ∀ n ∈ p.names, (p.getAll n).map f ≠ [] := by
    intro n hn
    simpa using hp.getAll_ne_nil hn
  -- the regrouped names are the names themselves, each read once
  have hnames := foldl_addName_blocks _ p.names [] (nodup_names p) (by simp) hne
  apply sameAs_of_names
  · rw [names_mapValues, names_eq_foldl, hnames]
    rfl
  · intro n hn
    rw [names_mapValues] at hn
    exact hp.key_of_mem_names hn
  · intro n hn
    rw [names_eq_foldl, hnames, List.nil_append] at hn
    rw [getAll_blocks _ _ _ (nodup_names p), getAll_mapValues, hp.key_of_mem_names hn]
    simp [hn]

theorem getAll_eq_nil_of_not_mem_names {p : Params} {m : String} (hm : key m = m) (h : m ∉ p.names) :
    p.getAll m = [] := by
  simp only [getAll, List.map_eq_nil_iff, List.filter_eq_nil_iff, beq_iff_eq, hm]
  rintro e he rfl
  exact h (mem_names.mpr ⟨e, he, rfl⟩)

/-- Each name stored as itself has its own values, changed, after regrouping. -/
theorem getAll_regroup (p : Params) (f : String → String) {m : String} (hm : key m = m) :
    (⟨p.multimap.flatMap fun nv => nv.2.map fun v => (nv.1, f v)⟩ : Params).getAll m = (p.getAll m).map f := by
  rw [regroup_eq_blocks, getAll_blocks _ _ _ (nodup_names p), hm]
  split
  · rfl
  · next h => rw [getAll_eq_nil_of_not_mem_names hm h, List.map_nil]

theorem get?_eq_head?_getAll (p : Params) (n : String) : p.get? n = (p.getAll n).head? := by
  simp [get?, getAll, List.head?_map, List.head?_filter]

theorem getAll_erase_ne (p : Params) {n m : String} (h : key n ≠ key m) : (p.erase m).getAll n = p.getAll n := by
  simp only [erase, removeAll, getAll, List.filter_filter]
  congr 1
  apply List.filter_congr
  intro e _
  by_cases he : e.1 = key n
  · simp [he, h]
  · simp [he]

/-! ### Entries after an edit -/

theorem mem_erase {p : Params} {n : String} {e : String × String} (h : e ∈ (p.erase n).entries) :
    e ∈ p.entries ∧ e.1 ≠ key n := by
  simpa [erase, removeAll] using h

theorem mem_put {p : Params} {n v : String} {e : String × String} (h : e ∈ (p.put n v).entries) :
    e ∈ p.entries ∨ e = (key n, v) := by
  simpa [put] using h

theorem mem_set {p : Params} {n : String} {v : Option String} {e : String × String}
    (h : e ∈ (p.set n v).entries) : e ∈ p.entries ∨ ∃ x ∈ v, e = (key n, x) := by
  cases v with
  | none => exact .inl (mem_erase (n := n) h).1
  | some x =>
    rcases mem_put (p := p.erase n) h with h | h
    · exact .inl (mem_erase h).1
    · exact .inr ⟨x, rfl, h⟩

theorem mem_remove {p : Params} {n v : String} {e : String × String} (h : e ∈ (p.remove n v).2.entries) :
    e ∈ p.entries := by
  unfold remove at h
  split at h
  · exact List.mem_of_mem_eraseIdx h
  · exact h

theorem getAll_erase_self (p : Params) (n : String) : (p.erase n).getAll n = [] := by
  simp [erase, removeAll, getAll]

theorem getAll_set_self (p : Params) (n : String) (v : Option String) : (p.set n v).getAll n = v.toList := by
  cases v with
  | none => exact getAll_erase_self p n
  | some x => simp [set, replace, removeAll, put, getAll]

theorem getAll_eq_nil_iff {p : Params} {n : String} : p.getAll n = [] ↔ ∀ e ∈ p.entries, e.1 ≠ key n := by
  simp [getAll, List.filter_eq_nil_iff]

theorem keyed_ofList (pairs : List (String × String)) (h : ∀ e ∈ pairs, key (key e.1) = key e.1) :
    (ofList pairs).Keyed := by
  intro e he
  simp only [ofList, List.mem_map] at he
  obtain ⟨x, hx, rfl⟩ := he
  exact h x hx

/-! ### Values after an edit -/

theorem getAll_put_self (p : Params) (n m v : String) (h : key n = key m) :
    (p.put n v).getAll m = p.getAll m ++ [v] := by
  simp [getAll, put, List.filter_append, h]

theorem getAll_set_ne (p : Params) {n m : String} (v : Option String) (h : key n ≠ key m) :
    (p.set m v).getAll n = p.getAll n := by
  cases v with
  | none => exact getAll_erase_ne p h
  | some x =>
    simp only [set, replace, removeAll]
    rw [getAll_put_other _ _ _ _ (Ne.symm h)]
    exact getAll_erase_ne p h

theorem remove_entries (p : Params) (n v : String) :
    (p.remove n v).2.entries = p.entries.eraseP fun e => e.1 == key n && e.2 == v := by
  unfold remove
  rw [List.eraseP_eq_eraseIdx]
  cases p.entries.findIdx? (fun e => e.1 == key n && e.2 == v) <;> simp

theorem filter_eraseP_of_disjoint {α : Type} {l : List α} {q f : α → Bool} (h : ∀ a, q a = true → f a = false) :
    (l.eraseP q).filter f = l.filter f := by
  induction l with
  | nil => rfl
  | cons a l ih =>
    by_cases hq : q a = true
    · simp [List.eraseP_cons_of_pos hq, h a hq]
    · simp [List.eraseP_cons_of_neg hq, List.filter_cons, ih]

theorem getAll_remove_ne (p : Params) {n m : String} (v : String) (h : key n ≠ key m) :
    (p.remove m v).2.getAll n = p.getAll n := by
  simp only [getAll, remove_entries]
  rw [filter_eraseP_of_disjoint]
  intro e he
  simp only [Bool.and_eq_true, beq_iff_eq] at he
  simp [he.1, Ne.symm h]

/-- Removing a value of a name drops its first occurrence among the name's values. -/
theorem getAll_remove_self (p : Params) (n v : String) :
    (p.remove n v).2.getAll n = (p.getAll n).erase v := by
  simp only [getAll, remove_entries]
  induction p.entries with
  | nil => rfl
  | cons e l ih =>
    by_cases hk : e.1 = key n
    · by_cases hv : e.2 = v
      · rw [List.eraseP_cons_of_pos (by simp [hk, hv])]
        simp [hk, hv]
      · rw [List.eraseP_cons_of_neg (by simp [hk, hv])]
        simp [hk, hv, ih]
    · rw [List.eraseP_cons_of_neg (by simp [hk])]
      simp [hk, ih]

theorem erase_eq_eraseP_of_find? {l : List String} {P : String → Bool} {t : String} (h : l.find? P = some t) :
    l.erase t = l.eraseP P := by
  induction l with
  | nil => cases h
  | cons x l ih =>
    by_cases hx : P x = true
    · rw [List.find?_cons_of_pos hx, Option.some.injEq] at h
      subst h
      simp [hx]
    · rw [List.find?_cons_of_neg hx] at h
      have hxt : x ≠ t := fun hxt => hx (hxt ▸ List.find?_some h)
      rw [List.erase_cons_tail (by simpa using hxt), List.eraseP_cons_of_neg hx, ih h]

end VCard.Params
