import Mathlib
import VCard.Proofs.Params
import VCard.Proofs.Text.Case
/-! Edits of a parameter set touch only their own name.

A parameter set is edited name by name: `put`, `replace`, `removeAll` and `remove`;
the `TYPE` helpers (adding a type, removing one without regard to case, removing them
all); the `PID` helpers; and the typed setters of `PREF`, `INDEX`, `TYPE`, `GEO`,
`VALUE` and of the plain text parameters. `Edit` lists them, each with the name it is
addressed to (`Edit.target`) and its effect (`Edit.apply`).

No edit changes the entries of another name, nor their order (`others_apply`), so the
values of every other name stay as they were (`getAll_apply_other`). What each edit
does to its own name is one law per operation. Names are stored in capitals, and
capitals are their own capitals (`Text.upper_upper`), so every set that edits reach
stores each name as itself (`keyed_runEdits`); on such sets, equality name by name
(`sameAs`) holds exactly when every name has the same values (`sameAs_iff`). The
headline, `edits_by_name`, gathers these laws for sets reached by edits. -/
namespace VCard.Params

theorem key_key (n : String) : key (key n) = key n := Text.upper_upper n

/-- The plain text parameters that have an accessor. -/
inductive TextParam
  | altid
  | calscale
  | encoding
  | language
  | mediaType
  | label
  | level
  | charset
  | sortAs
  | tz

def TextParam.name : TextParam → String
  | .altid => "ALTID"
  | .calscale => "CALSCALE"
  | .encoding => "ENCODING"
  | .language => "LANGUAGE"
  | .mediaType => "MEDIATYPE"
  | .label => "LABEL"
  | .level => "LEVEL"
  | .charset => "CHARSET"
  | .sortAs => "SORT-AS"
  | .tz => "TZ"

/-- An edit of a parameter set. -/
inductive Edit where
  | put (name value : String)
  | replace (name : String) (value : Option String)
  | removeAll (name : String)
  | remove (name value : String)
  | addType (value : String)
  | removeType (value : String)
  | removeTypes
  | addPid (pid : Pid)
  | removePids
  | setPref (value : Option Int)
  | setIndex (value : Option Int)
  | setType (value : Option String)
  | setGeo (value : Option (Float × Float))
  | setValueType (value : Option DataType)
  | setText (param : TextParam) (value : Option String)

namespace Edit

/-- The name an edit is addressed to. -/
def target : Edit → String
  | put n _ | replace n _ | removeAll n | remove n _ => n
  | addType _ | removeType _ | removeTypes | setType _ => "TYPE"
  | addPid _ | removePids => "PID"
  | setPref _ => "PREF"
  | setIndex _ => "INDEX"
  | setGeo _ => "GEO"
  | setValueType _ => "VALUE"
  | setText a _ => a.name

/-- The parameter set after an edit. -/
def apply : Edit → Params → Params
  | put n v, p => p.put n v
  | replace n v, p => (p.replace n v).2
  | removeAll n, p => (p.removeAll n).2
  | remove n v, p => (p.remove n v).2
  | addType v, p => p.addType v
  | removeType v, p => (p.removeType v).2
  | removeTypes, p => (p.removeAll "TYPE").2
  | addPid pid, p => p.addPid pid
  | removePids, p => (p.removeAll "PID").2
  | setPref v, p => p.setInt "PREF" v
  | setIndex v, p => p.setInt "INDEX" v
  | setType v, p => p.set "TYPE" v
  | setGeo g, p => p.setGeo g
  | setValueType dt, p => p.setValueType dt
  | setText a v, p => p.set a.name v

end Edit

/-- The parameter set after some edits. -/
def runEdits (p : Params) (es : List Edit) : Params := es.foldl (fun p e => e.apply p) p

/-! ### One step: the four ways an edit changes the entries -/

/-- The entries of every name but one, in order. -/
def others (p : Params) (n : String) : List (String × String) := p.entries.filter (·.1 != key n)

/-- Removing a type removes one value of `TYPE`, or nothing. -/
theorem removeType_snd (p : Params) (t : String) :
    (∃ x, (p.removeType t).2 = (p.remove "TYPE" x).2) ∨ (p.removeType t).2 = p := by
  unfold removeType
  split
  · next x _ => exact .inl ⟨x, rfl⟩
  · exact .inr rfl

/-- Every edit appends a value to its name, sets its name, or drops one value of it. -/
theorem Edit.apply_cases (e : Edit) (p : Params) :
    (∃ v, e.apply p = p.put e.target v) ∨ (∃ v, e.apply p = p.set e.target v) ∨
      (∃ v, e.apply p = (p.remove e.target v).2) ∨ e.apply p = p := by
  cases e with
  | put n v | addType v => exact .inl ⟨v, rfl⟩
  | addPid pid => exact .inl ⟨pid.text, rfl⟩
  | replace n v | setType v | setText _ v => exact .inr (.inl ⟨v, rfl⟩)
  | removeAll n | removeTypes | removePids => exact .inr (.inl ⟨none, rfl⟩)
  | remove n v => exact .inr (.inr (.inl ⟨v, rfl⟩))
  | setPref v | setIndex v => exact .inr (.inl ⟨v.map toString, rfl⟩)
  | setValueType dt => exact .inr (.inl ⟨dt.map (·.name), rfl⟩)
  | setGeo g =>
    cases g with
    | none => exact .inr (.inl ⟨none, rfl⟩)
    | some g => exact .inr (.inl ⟨some (GeoUri.text ⟨g.1, g.2, none⟩), rfl⟩)
  | removeType v => exact (removeType_snd p v).elim (.inr ∘ .inr ∘ .inl) (.inr ∘ .inr ∘ .inr)

theorem others_put (p : Params) (n v : String) : (p.put n v).others n = p.others n := by
  simp [others, put, List.filter_append]

theorem others_erase (p : Params) (n : String) : (p.erase n).others n = p.others n := by
  simp only [others, erase, removeAll, List.filter_filter]
  congr 1
  funext e
  cases e.1 != key n <;> rfl

theorem others_set (p : Params) (n : String) (v : Option String) : (p.set n v).others n = p.others n := by
  cases v with
  | none => exact others_erase p n
  | some x =>
    show ((p.erase n).put n x).others n = p.others n
    rw [others_put, others_erase]

theorem others_remove (p : Params) (n v : String) : (p.remove n v).2.others n = p.others n := by
  rw [others, remove_entries]
  apply filter_eraseP_of_disjoint
  intro e he
  simp only [Bool.and_eq_true, beq_iff_eq] at he
  simp [he.1]

/-- **An edit leaves the entries of every other name as they were**, in order. -/
theorem others_apply (e : Edit) (p : Params) : (e.apply p).others e.target = p.others e.target := by
  rcases e.apply_cases p with ⟨v, h⟩ | ⟨v, h⟩ | ⟨v, h⟩ | h <;> rw [h]
  · exact others_put p _ v
  · exact others_set p _ v
  · exact others_remove p _ v

theorem getAll_of_others {p q : Params} {n m : String} (h : p.others n = q.others n) (hm : key n ≠ key m) :
    p.getAll m = q.getAll m := by
  -- the values of `m` are read off the entries of the names other than `n`
  have hsplit : ∀ r : Params, r.getAll m = ((r.others n).filter (·.1 == key m)).map (·.2) := by
    intro r
    simp only [getAll, others, List.filter_filter]
    congr 1
    apply List.filter_congr
    intro e _
    by_cases he : e.1 = key m
    · simp [he, Ne.symm hm]
    · simp [he]
  rw [hsplit p, hsplit q, h]

/-- An edit addressed to one name leaves the values of every other name. -/
theorem getAll_apply_other (e : Edit) (p : Params) {m : String} (hm : key e.target ≠ key m) :
    (e.apply p).getAll m = p.getAll m :=
  getAll_of_others (others_apply e p) hm

/-! ### One step: what an edit does to its own name -/

theorem replace_getAll (p : Params) (n : String) (v : Option String) :
    (p.replace n v).2.getAll n = v.toList ∧ (p.replace n v).1 = p.getAll n :=
  ⟨getAll_set_self p n v, rfl⟩

theorem removeAll_getAll (p : Params) (n : String) :
    (p.removeAll n).2.getAll n = [] ∧ (p.removeAll n).1 = p.getAll n :=
  ⟨getAll_erase_self p n, rfl⟩

theorem remove_fst (p : Params) (n v : String) : (p.remove n v).1 = (p.getAll n).contains v := by
  have hfound : (p.remove n v).1 = p.entries.any fun e => e.1 == key n && e.2 == v := by
    rw [← List.findIdx?_isSome]
    unfold remove
    cases p.entries.findIdx? (fun e => e.1 == key n && e.2 == v) <;> rfl
  rw [hfound]
  simp only [getAll, List.contains_eq_any_beq, List.any_map, List.any_filter]
  congr 1
  funext e
  cases e.1 == key n <;> simp [eq_comm]

/-- Removing a value drops its first occurrence among the name's values, and tells
whether there was one. -/
theorem remove_getAll (p : Params) (n v : String) :
    (p.remove n v).2.getAll n = (p.getAll n).erase v ∧ (p.remove n v).1 = (p.getAll n).contains v :=
  ⟨getAll_remove_self p n v, remove_fst p n v⟩

/-- Removing a type without regard to case drops the first type equal to it in small letters. -/
theorem types_removeType (p : Params) (t : String) :
    (p.removeType t).2.types = p.types.eraseP fun x => Text.lower x == Text.lower t := by
  unfold removeType
  split
  · next x hfind =>
    rw [types, getAll_remove_self, ← types, erase_eq_eraseP_of_find? hfind]
  · next hfind =>
    rw [List.eraseP_of_forall_not]
    intro x hx hlow
    exact List.find?_eq_none.mp hfind x hx hlow

/-! ### Every run: names are stored as themselves -/

theorem Edit.mem_apply {e : Edit} {p : Params} {x : String × String} (h : x ∈ (e.apply p).entries) :
    x ∈ p.entries ∨ x.1 = key e.target := by
  rcases e.apply_cases p with ⟨v, he⟩ | ⟨v, he⟩ | ⟨v, he⟩ | he <;> rw [he] at h
  · exact (mem_put h).imp_right fun hx => by rw [hx]
  · exact (mem_set h).imp_right fun ⟨_, _, hx⟩ => by rw [hx]
  · exact .inl (mem_remove h)
  · exact .inl h

theorem Keyed.apply {p : Params} (hp : p.Keyed) (e : Edit) : (e.apply p).Keyed := by
  intro x hx
  rcases Edit.mem_apply hx with hx | hx
  · exact hp x hx
  · rw [hx, key_key]

theorem Keyed.runEdits {p : Params} (hp : p.Keyed) (es : List Edit) : (p.runEdits es).Keyed := by
  induction es generalizing p with
  | nil => exact hp
  | cons e es ih => exact ih (hp.apply e)

theorem keyed_runEdits (es : List Edit) : (({} : Params).runEdits es).Keyed :=
  Keyed.runEdits (fun _ hx => absurd hx List.not_mem_nil) es

/-! ### Equality name by name -/

theorem getAll_key (p : Params) (n : String) : p.getAll (key n) = p.getAll n := by
  simp only [getAll, key_key]

theorem mem_names_of_getAll_ne_nil {p : Params} {n : String} (h : p.getAll n ≠ []) : key n ∈ p.names := by
  obtain ⟨e, he, hkey⟩ : ∃ e ∈ p.entries, e.1 = key n := by
    by_contra hnone
    exact h (getAll_eq_nil_iff.mpr fun e he hk => hnone ⟨e, he, hk⟩)
  exact mem_names.mpr ⟨e, he, hkey⟩

/-- The names of a set whose values another set shares are names of the other. -/
theorem names_subset {p q : Params} (hp : p.Keyed) (h : ∀ n, p.getAll n = q.getAll n) :
    p.names ⊆ q.names := by
  intro n hn
  have hkey : key n = n := hp.key_of_mem_names hn
  have hne : q.getAll n ≠ [] := h n ▸ hp.getAll_ne_nil hn
  simpa [hkey] using mem_names_of_getAll_ne_nil hne

/-- **Two sets that edits reach are the same exactly when each name has the same
values in both.** -/
theorem sameAs_iff {p q : Params} (hp : p.Keyed) (hq : q.Keyed) :
    p.sameAs q = true ↔ ∀ n, p.getAll n = q.getAll n := by
  simp only [sameAs, Bool.and_eq_true, beq_iff_eq, List.all_eq_true]
  constructor
  · rintro ⟨hlen, hall⟩ n
    have hsub : p.names ⊆ q.names := by
      intro k hk
      have hcontains := (hall k hk).1
      simp only [contains, List.any_eq_true, beq_iff_eq] at hcontains
      obtain ⟨e, he, hek⟩ := hcontains
      rw [hp.key_of_mem_names hk] at hek
      exact mem_names.mpr ⟨e, he, hek⟩
    -- as many names in both and none missing from `q`: the same names
    have hperm := (List.subperm_of_subset (nodup_names p) hsub).perm_of_length_le hlen.ge
    rw [← getAll_key p n, ← getAll_key q n]
    by_cases hn : key n ∈ p.names
    · exact (hall _ hn).2
    · have hq' : key n ∉ q.names := fun h => hn (hperm.mem_iff.mpr h)
      rw [getAll_eq_nil_of_not_mem_names (key_key n) hn, getAll_eq_nil_of_not_mem_names (key_key n) hq']
  · intro h
    have hpq := names_subset hp h
    have hqp := names_subset hq fun n => (h n).symm
    refine ⟨Nat.le_antisymm (List.subperm_of_subset (nodup_names p) hpq).length_le
      (List.subperm_of_subset (nodup_names q) hqp).length_le, fun n hn => ⟨?_, h n⟩⟩
    exact contains_of_mem_names (hpq hn) (hp.key_of_mem_names hn)

/-- **Edits of a parameter set go by name.** For sets `p` and `q` reached by edits from
the empty set, and names `n` and `m` with different capitals: an edit addressed to `n`
leaves the values of `m`; `put` appends to the values of `n`; `replace` makes them the
new value alone, or none, and gives back the old ones; `removeAll` empties them and
gives them back; `remove` drops the first occurrence of its value and tells whether
there was one; removing a type drops the first type equal to it in small letters;
`p` and `q` are the same exactly when every name has the same values in both; and a
copy of `p`, the same pairs as a value of its own, is the same as `p` and is edited as
`p` would be, `p` itself being a value no edit changes. -/
theorem edits_by_name (es es' : List Edit) (n m : String) (hnm : key n ≠ key m) :
    let p := ({} : Params).runEdits es
    let q := ({} : Params).runEdits es'
    (∀ e : Edit, key e.target = key n → (e.apply p).getAll m = p.getAll m) ∧
      (∀ v, (p.put n v).getAll n = p.getAll n ++ [v]) ∧
      (∀ v, (p.replace n v).2.getAll n = v.toList ∧ (p.replace n v).1 = p.getAll n) ∧
      ((p.removeAll n).2.getAll n = [] ∧ (p.removeAll n).1 = p.getAll n) ∧
      (∀ v, (p.remove n v).2.getAll n = (p.getAll n).erase v ∧ (p.remove n v).1 = (p.getAll n).contains v) ∧
      (∀ t, (p.removeType t).2.types = p.types.eraseP fun x => Text.lower x == Text.lower t) ∧
      (p.sameAs q = true ↔ ∀ x, p.getAll x = q.getAll x) ∧
      (p.copy.sameAs p = true ∧ ∀ es'', p.copy.runEdits es'' = p.runEdits es'') := by
  intro p q
  have hp : p.Keyed := keyed_runEdits es
  refine ⟨fun e he => getAll_apply_other e p (he ▸ hnm), fun v => getAll_put_self p n n v rfl,
    replace_getAll p n, removeAll_getAll p n, remove_getAll p n, types_removeType p,
    sameAs_iff hp (keyed_runEdits es'), ?_, fun _ => rfl⟩
  exact (sameAs_iff hp hp).mpr fun _ => rfl

/-- After a preference and a type are set, every edit of `TYPE` leaves the preference. -/
theorem type_edits_keep_pref :
    key "TYPE" ≠ key "PREF" ∧
      let p := ({} : Params).runEdits [.setPref (some 1), .addType "home"]
      ∀ e : Edit, key e.target = key "TYPE" → (e.apply p).getAll "PREF" = p.getAll "PREF" :=
  have h : key "TYPE" ≠ key "PREF" := by decide
  ⟨h, (edits_by_name [.setPref (some 1), .addType "home"] [] "TYPE" "PREF" h).1⟩

end VCard.Params
