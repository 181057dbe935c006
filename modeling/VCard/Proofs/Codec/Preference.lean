import VCard.Codec.Prepare
import VCard.Proofs.Params
import VCard.Proofs.Codec.Index
/-! Preference between versions.

Version 4.0 ranks the properties of a name with `PREF`; earlier versions mark
the preferred one with `TYPE=pref`. `Codec.preferenceFor` translates on a copy
of a property's parameters: writing 4.0 it turns the first `TYPE` value that is
`pref` in any case into `PREF=1`; writing an earlier version it drops `PREF`,
and when some property of the same name in the card has an integer `PREF`, it
drops every `pref` type and gives one back to the property of lowest `PREF`,
the first one on a tie (`IsPreferred`).

`preferred?_ranked_eq_some_iff` says the fold that picks the winner picks that
property, and `prepareParams_preference` what the parameters written for a
property of a built-in codec that takes part in preference look like, in every
version: every parameter but `PREF`, `TYPE` and an address's `LABEL` keeps its
values, and so do the `TYPE` values but `pref`. A 4.0 copy loses one `pref`
type only, so a property with two keeps one (`duplicatePrefType_kept`). The
stored parameters are a value, never changed by writing. -/
namespace VCard

namespace Params

open Text

/-! ### Names of the preference parameters -/

theorem key_PREF : key "PREF" = "PREF" := by decide

theorem key_TYPE : key "TYPE" = "TYPE" := by decide

theorem key_LABEL : key "LABEL" = "LABEL" := by decide

end Params

namespace Codec

/-! ### The winner -/

/-- `x` ranks no later than `y`: a lower `PREF`, or the same one at no later
position. -/
def RanksFirst (x y : Nat × Int) : Prop := x.2 < y.2 ∨ (x.2 = y.2 ∧ x.1 ≤ y.1)

theorem RanksFirst.refl (x : Nat × Int) : RanksFirst x x := .inr ⟨rfl, Nat.le_refl _⟩

theorem RanksFirst.trans {x y z : Nat × Int} (hxy : RanksFirst x y) (hyz : RanksFirst y z) : RanksFirst x z := by
  unfold RanksFirst at *
  omega

/-- One step of the fold that picks the winner: a later candidate replaces the
best so far only with a lower `PREF`. -/
def pickStep (best : Option (Nat × Int)) (r : Nat × Int) : Option (Nat × Int) :=
  match best with
  | some b => if r.2 < b.2 then some r else some b
  | none => some r

theorem preferred?_eq_foldl (ranks : List (Nat × Int)) :
    preferred? ranks = (ranks.foldl pickStep none).map (·.1) := rfl

/-- Over candidates in order of position, the fold keeps one that ranks first
among all it has seen. -/
theorem foldl_pickStep (rs : List (Nat × Int)) (b : Nat × Int) (hb : ∀ r ∈ rs, b.1 < r.1)
    (hs : rs.Pairwise (·.1 < ·.1)) :
    ∃ w, rs.foldl pickStep (some b) = some w ∧ w ∈ b :: rs ∧ ∀ r ∈ b :: rs, RanksFirst w r := by
  induction rs generalizing b with
  | nil => exact ⟨b, rfl, List.mem_singleton_self b, fun r hr => by rw [List.mem_singleton.mp hr]; exact .refl b⟩
  | cons r rs ih =>
    obtain ⟨hr, hrest⟩ := List.pairwise_cons.mp hs
    by_cases hlt : r.2 < b.2
    · have hstep : pickStep (some b) r = some r := by simp [pickStep, hlt]
      obtain ⟨w, hw, hmem, hfirst⟩ := ih r hr hrest
      refine ⟨w, by rw [List.foldl_cons, hstep, hw], List.mem_cons_of_mem _ hmem, ?_⟩
      intro x hx
      rcases List.mem_cons.mp hx with rfl | hx
      · exact (hfirst r List.mem_cons_self).trans (.inl hlt)
      · exact hfirst x hx
    · have hstep : pickStep (some b) r = some b := by simp [pickStep, hlt]
      -- `b` comes before `r`, so on a tie it still ranks first
      have hbr : RanksFirst b r := by
        have := hb r List.mem_cons_self
        unfold RanksFirst
        omega
      obtain ⟨w, hw, hmem, hfirst⟩ := ih b (fun x hx => hb x (List.mem_cons_of_mem _ hx)) hrest
      refine ⟨w, by rw [List.foldl_cons, hstep, hw], ?_, ?_⟩
      · rcases List.mem_cons.mp hmem with h | h
        · exact h ▸ List.mem_cons_self
        · exact List.mem_cons_of_mem _ (List.mem_cons_of_mem _ h)
      · intro x hx
        rcases List.mem_cons.mp hx with rfl | hx
        · exact hfirst x List.mem_cons_self
        · rcases List.mem_cons.mp hx with rfl | hx
          · exact (hfirst b List.mem_cons_self).trans hbr
          · exact hfirst x (List.mem_cons_of_mem _ hx)

/-- The winner among candidates in order of position is one that ranks first. -/
theorem preferred?_spec {ranks : List (Nat × Int)} (hs : ranks.Pairwise (·.1 < ·.1)) (hne : ranks ≠ []) :
    ∃ w, preferred? ranks = some w.1 ∧ w ∈ ranks ∧ ∀ r ∈ ranks, RanksFirst w r := by
  cases ranks with
  | nil => exact absurd rfl hne
  | cons b rs =>
    obtain ⟨hb, hrest⟩ := List.pairwise_cons.mp hs
    obtain ⟨w, hw, hmem, hfirst⟩ := foldl_pickStep rs b hb hrest
    refine ⟨w, ?_, hmem, hfirst⟩
    rw [preferred?_eq_foldl, List.foldl_cons]
    simp [pickStep, hw]

theorem mem_zip_range {α : Type} {l : List α} {j : Nat} {q : α} :
    (j, q) ∈ (List.range l.length).zip l ↔ l[j]? = some q := by
  rw [List.mem_iff_getElem?]
  simp only [List.getElem?_zip_eq_some]
  constructor
  · rintro ⟨i, hi, hq⟩
    obtain ⟨hil, rfl⟩ := List.getElem?_eq_some_iff.mp hi
    simpa using hq
  · intro hq
    have hj : j < l.length := (List.getElem?_eq_some_iff.mp hq).1
    exact ⟨j, by simp [hj], hq⟩

theorem mem_ranked {card : Card} {name : String} {j : Nat} {m : Int} :
    (j, m) ∈ ranked card name ↔
      ∃ q, card.properties[j]? = some q ∧ q.name = Text.upper name ∧ q.params.pref? = some m := by
  unfold ranked
  rw [List.mem_filterMap]
  constructor
  · rintro ⟨⟨i, q⟩, hmem, hf⟩
    rw [mem_zip_range] at hmem
    dsimp only at hf
    split at hf
    · next hname =>
      obtain ⟨m', hm', heq⟩ := Option.map_eq_some_iff.mp hf
      cases heq
      exact ⟨q, hmem, by simpa using hname, hm'⟩
    · cases hf
  · rintro ⟨q, hq, hname, hpref⟩
    exact ⟨(j, q), mem_zip_range.mpr hq, by simp [hname, hpref]⟩

theorem ranked_pairwise (card : Card) (name : String) : (ranked card name).Pairwise (·.1 < ·.1) := by
  unfold ranked
  apply List.Pairwise.filterMap (R := fun a b => a.1 < b.1)
  · rintro ⟨i, q⟩ ⟨i', q'⟩ h b hb b' hb'
    dsimp only at hb hb'
    split at hb <;> split at hb'
    · obtain ⟨m, -, rfl⟩ := Option.map_eq_some_iff.mp hb
      obtain ⟨m', -, rfl⟩ := Option.map_eq_some_iff.mp hb'
      exact h
    all_goals simp at hb hb'
  · apply List.pairwise_map.mp
    rw [List.map_fst_zip (by simp)]
    exact List.pairwise_lt_range
theorem RanksFirst.antisymm {x y : Nat × Int} (hxy : RanksFirst x y) (hyx : RanksFirst y x) : x = y := by
  unfold RanksFirst at *
  exact Prod.ext (by omega) (by omega)

/-- The property at position `i` is the first of the card's properties of the
name with the lowest integer `PREF`. -/
def IsPreferred (card : Card) (name : String) (i : Nat) : Prop :=
  ∃ (q : Property) (n : Int), card.properties[i]? = some q ∧ q.name = Text.upper name ∧ q.params.pref? = some n ∧
    ∀ (j : Nat) (q' : Property) (m : Int), card.properties[j]? = some q' → q'.name = Text.upper name →
      q'.params.pref? = some m →
      n < m ∨ (n = m ∧ i ≤ j)

/-- Some property of the name has an integer `PREF`. -/
def HasRanked (card : Card) (name : String) : Prop :=
  ∃ (j : Nat) (q : Property) (m : Int), card.properties[j]? = some q ∧ q.name = Text.upper name ∧
    q.params.pref? = some m

theorem isPreferred_iff (card : Card) (name : String) (i : Nat) :
    IsPreferred card name i ↔ ∃ n, (i, n) ∈ ranked card name ∧ ∀ r ∈ ranked card name, RanksFirst (i, n) r := by
  constructor
  · rintro ⟨q, n, hq, hname, hpref, hfirst⟩
    refine ⟨n, mem_ranked.mpr ⟨q, hq, hname, hpref⟩, fun r hr => ?_⟩
    obtain ⟨q', hq', hname', hpref'⟩ := mem_ranked.mp hr
    exact hfirst r.1 q' r.2 hq' hname' hpref'
  · rintro ⟨n, hmem, hfirst⟩
    obtain ⟨q, hq, hname, hpref⟩ := mem_ranked.mp hmem
    exact ⟨q, n, hq, hname, hpref, fun j q' m hq' hname' hpref' =>
      hfirst (j, m) (mem_ranked.mpr ⟨q', hq', hname', hpref'⟩)⟩

theorem hasRanked_iff (card : Card) (name : String) : HasRanked card name ↔ ranked card name ≠ [] := by
  rw [Ne, List.eq_nil_iff_forall_not_mem]
  constructor
  · rintro ⟨j, q, m, hq, hname, hpref⟩ hnone
    exact hnone (j, m) (mem_ranked.mpr ⟨q, hq, hname, hpref⟩)
  · intro h
    obtain ⟨⟨j, m⟩, hmem⟩ := Classical.not_forall_not.mp h
    obtain ⟨q, hq, hname, hpref⟩ := mem_ranked.mp hmem
    exact ⟨j, q, m, hq, hname, hpref⟩

/-- **The winner is the first property of lowest `PREF`.** -/
theorem preferred?_ranked_eq_some_iff (card : Card) (name : String) (i : Nat) :
    preferred? (ranked card name) = some i ↔ IsPreferred card name i := by
  constructor
  · intro h
    have hne : ranked card name ≠ [] := by
      intro hnil
      rw [hnil] at h
      cases h
    obtain ⟨w, hw, hmem, hfirst⟩ := preferred?_spec (ranked_pairwise card name) hne
    rw [hw, Option.some.injEq] at h
    subst h
    exact (isPreferred_iff card name w.1).mpr ⟨w.2, hmem, hfirst⟩
  · intro h
    obtain ⟨n, hmem, hfirst⟩ := (isPreferred_iff card name i).mp h
    obtain ⟨w, hw, hwmem, hwfirst⟩ := preferred?_spec (ranked_pairwise card name) (List.ne_nil_of_mem hmem)
    -- two candidates that both rank first are the same
    have : w = (i, n) := (hwfirst _ hmem).antisymm (hfirst w hwmem)
    rw [hw, this]

instance (card : Card) (name : String) (i : Nat) : Decidable (IsPreferred card name i) :=
  decidable_of_iff _ (preferred?_ranked_eq_some_iff card name i)

instance (card : Card) (name : String) : Decidable (HasRanked card name) :=
  decidable_of_iff _ (hasRanked_iff card name).symm

/-! ### The parameters translated -/

theorem types_dropPrefTypes (p : Params) : (dropPrefTypes p).types = p.types.filter (Text.lower · != "pref") := by
  simp only [dropPrefTypes, Params.types, Params.getAll, List.filter_filter, List.filter_map]
  congr 1
  apply List.filter_congr
  intro e _
  cases h1 : (e.1 == Params.key "TYPE") <;> cases h2 : (Text.lower e.2 == "pref") <;> simp [bne, h2]

theorem getAll_dropPrefTypes_ne (p : Params) {n : String} (h : Params.key n ≠ "TYPE") :
    (dropPrefTypes p).getAll n = p.getAll n := by
  have hk : Params.key "TYPE" = "TYPE" := by decide
  simp only [dropPrefTypes, Params.getAll, List.filter_filter]
  congr 1
  apply List.filter_congr
  intro e _
  by_cases he : e.1 = Params.key n
  · simp [he, hk, h]
  · simp [he]

section Translation

variable {name : String} {self : Option Nat} {p : Params} {card : Option Card}

/-- Writing 4.0 drops the first `pref` type. -/
theorem types_preferenceFor_v40 : (preferenceFor name self p .v40 card).types = p.types.eraseP (Text.lower · == "pref") := by
  simp only [preferenceFor, beq_self_eq_true, if_true]
  cases hfind : p.types.find? (Text.lower · == "pref") with
  | none =>
    rw [List.eraseP_of_forall_not]
    intro t ht hpref
    exact absurd hfind (List.find?_isSome.mpr ⟨t, ht, hpref⟩ |> Option.isSome_iff_ne_none.mp)
  | some t =>
    simp only [Params.setInt, Params.types]
    rw [Params.getAll_set_ne _ _ (by decide), Params.getAll_remove_self, ← Params.types,
      Params.erase_eq_eraseP_of_find? hfind]

/-- Writing 4.0 sets `PREF=1` exactly when there is a `pref` type. -/
theorem getAll_preferenceFor_v40_pref :
    (preferenceFor name self p .v40 card).getAll "PREF" =
      if p.types.any (Text.lower · == "pref") then ["1"] else p.getAll "PREF" := by
  simp only [preferenceFor, beq_self_eq_true, if_true]
  cases hfind : p.types.find? (Text.lower · == "pref") with
  | none =>
    have hany : p.types.any (Text.lower · == "pref") = false := by
      rw [List.any_eq_false]
      intro t ht hpref
      exact absurd hfind (List.find?_isSome.mpr ⟨t, ht, hpref⟩ |> Option.isSome_iff_ne_none.mp)
    simp [hany]
  | some t =>
    have hany : p.types.any (Text.lower · == "pref") = true :=
      List.any_eq_true.mpr ⟨t, List.mem_of_find?_eq_some hfind, by simpa using List.find?_some hfind⟩
    simp [hany, Params.setInt, Params.getAll_set_self]
    rfl

/-- Writing an earlier version drops `PREF`. -/
theorem getAll_preferenceFor_pref {v : Version} (hv : v ≠ .v40) :
    (preferenceFor name self p v card).getAll "PREF" = [] := by
  have hv' : (v == .v40) = false := by simpa using hv
  have herase : (p.erase "PREF").getAll "PREF" = [] := Params.getAll_erase_self _ _
  simp only [preferenceFor, hv', Bool.false_eq_true, if_false]
  split
  · exact herase
  · split
    · exact herase
    · split
      · rw [Params.addType, Params.getAll_put_other _ _ _ _ (by decide), getAll_dropPrefTypes_ne _ (by decide), herase]
      · rw [getAll_dropPrefTypes_ne _ (by decide), herase]

/-- Writing an earlier version takes every `pref` type away and gives one to the
winner, when some property of the name is ranked. -/
theorem types_preferenceFor {v : Version} (hv : v ≠ .v40) (card : Card) :
    (preferenceFor name self p v (some card)).types =
      match preferred? (ranked card name) with
      | none => p.types
      | some w => p.types.filter (Text.lower · != "pref") ++ (if self = some w then ["pref"] else []) := by
  have hv' : (v == .v40) = false := by simpa using hv
  have herase : (p.erase "PREF").types = p.types := Params.getAll_erase_ne _ (by decide)
  cases hw : preferred? (ranked card name) with
  | none => simp only [preferenceFor, hv', Bool.false_eq_true, if_false, hw, herase]
  | some w =>
    simp only [preferenceFor, hv', Bool.false_eq_true, if_false, hw]
    by_cases hs : self = some w
    · have hput : ∀ q : Params, (q.addType "pref").types = q.types ++ ["pref"] :=
        fun q => Params.getAll_put_self _ _ _ _ rfl
      simp only [hs, beq_self_eq_true, if_true]
      rw [hput, types_dropPrefTypes, herase]
    · have hs' : (self == some w) = false := by simpa using hs
      simp only [hs', hs, Bool.false_eq_true, if_false, List.append_nil]
      rw [types_dropPrefTypes, herase]

/-- Preference touches no parameter but `PREF` and `TYPE`. -/
theorem getAll_preferenceFor_other {v : Version} {n : String} (hP : Params.key n ≠ "PREF") (hT : Params.key n ≠ "TYPE") :
    (preferenceFor name self p v card).getAll n = p.getAll n := by
  have hP' : Params.key n ≠ Params.key "PREF" := by rw [Params.key_PREF]; exact hP
  have hT' : Params.key n ≠ Params.key "TYPE" := by rw [Params.key_TYPE]; exact hT
  have herase : (p.erase "PREF").getAll n = p.getAll n := Params.getAll_erase_ne _ hP'
  unfold preferenceFor
  split
  · split
    · rw [Params.setInt, Params.getAll_set_ne _ _ hP', Params.getAll_remove_ne _ _ hT']
    · rfl
  · split
    · exact herase
    · split
      · exact herase
      · split
        · rw [Params.addType, Params.getAll_put_other _ _ _ _ (Ne.symm hT'),
            getAll_dropPrefTypes_ne _ hT, herase]
        · rw [getAll_dropPrefTypes_ne _ hT, herase]

end Translation

/-! ### The codecs that take part in preference -/

theorem registrations_map_register (cs : List Codec) : CodecIndex.registrations (cs.map .register) = cs := by
  simp [CodecIndex.registrations, List.filterMap_map, Function.comp_def, CodecIndex.Op.registered?]

/-- The default index gives a built-in codec, or reads the name raw. -/
theorem codecFor_defaultIndex (name : String) :
    defaultIndex.codecFor name ∈ defaultCodecs ∨ defaultIndex.codecFor name = Codec.raw name := by
  have ht := CodecIndex.tracked_run (CodecIndex.tracked_empty defaultCodecs) (defaultCodecs.map .register)
    (fun c h => by rwa [registrations_map_register] at h)
  rw [CodecIndex.defaultIndex_eq_run]
  unfold CodecIndex.codecFor
  cases h : assocFind? (CodecIndex.run {} (defaultCodecs.map .register)).byName (Text.upper name) with
  | none => exact .inr rfl
  | some c => exact .inl (ht.among _ _ h)

/-- The built-in codecs that take part in preference: email, URIs, telephones,
relations and addresses. -/
theorem shape_of_pref : ∀ c ∈ defaultCodecs, c.pref = true →
    c.shape ∈ [Shape.email, .uri false, .telephone, .related, .address] := by
  decide

theorem defaultIndex_pref_shape {name : String} (h : (defaultIndex.codecFor name).pref = true) :
    (defaultIndex.codecFor name).shape ∈ [Shape.email, .uri false, .telephone, .related, .address] := by
  rcases codecFor_defaultIndex name with hc | hc
  · exact shape_of_pref _ hc h
  · rw [hc] at h
    cases h

/-- These shapes change no parameter but an address's label. -/
theorem getAll_prepareOwn {c : Codec} (hs : c.shape ∈ [Shape.email, .uri false, .telephone, .related, .address])
    (x : Value) (q : Params) (v : Version) {n : String} (hn : c.shape = .address → Params.key n ≠ "LABEL") :
    (c.prepareOwn x q v).getAll n = q.getAll n := by
  obtain ⟨cname, shape, pref⟩ := c
  simp only [List.mem_cons, List.not_mem_nil, or_false] at hs
  rcases hs with rfl | rfl | rfl | rfl | rfl
  · rfl
  · rfl
  · rfl
  · rfl
  -- an address sets or drops its label, and nothing else
  · have hL : Params.key n ≠ Params.key "LABEL" := by rw [Params.key_LABEL]; exact hn rfl
    cases x with
    | address a =>
      simp only [prepareOwn]
      cases a.label with
      | none => exact Params.getAll_erase_ne _ hL
      | some l =>
        by_cases hv : v = .v40
        · simp only [hv, beq_self_eq_true, if_true]
          exact Params.getAll_set_ne _ _ hL
        · have hv' : (v == .v40) = false := by simpa using hv
          simp only [hv', Bool.false_eq_true, if_false]
          exact Params.getAll_erase_ne _ hL
    | _ => rfl

/-! ### The parameters written -/

theorem filter_eraseP_not {α : Type} (l : List α) (P : α → Bool) :
    (l.eraseP P).filter (fun a => !P a) = l.filter (fun a => !P a) :=
  Params.filter_eraseP_of_disjoint fun a h => by simp [h]

theorem length_filter_eraseP {α : Type} (l : List α) (P : α → Bool) :
    ((l.eraseP P).filter P).length = (l.filter P).length - 1 := by
  have hswap : (l.eraseP P).filter P = (l.filter P).eraseP P := by
    rw [List.eraseP_filter]
    simp
  rw [hswap, List.length_eraseP]
  split
  · rfl
  · next hany =>
    have hnil : l.filter P = [] := by
      rw [List.filter_eq_nil_iff]
      intro a ha hP
      exact hany (List.any_eq_true.mpr ⟨a, List.mem_filter.mpr ⟨ha, hP⟩, hP⟩)
    simp [hnil]

/-- The parameters a codec of these shapes writes, when it takes part in
preference: preference translated, and an address's label set or dropped. -/
theorem getAll_prepareParams {c : Codec} (hc : c.pref = true)
    (hs : c.shape ∈ [Shape.email, .uri false, .telephone, .related, .address]) (p : Property) (self : Option Nat)
    (V : Version) (card : Option Card) {n : String} (hn : c.shape = .address → Params.key n ≠ "LABEL") :
    (c.prepareParams p self V card).getAll n = (preferenceFor p.name self p.params V card).getAll n := by
  unfold prepareParams
  rw [if_pos hc]
  exact getAll_prepareOwn hs _ _ _ hn

/-- **What a property of a codec that takes part in preference is written with**,
in every version, when it is written as the property at position `i` of a card.
Every parameter but `PREF`, `TYPE` and an address's `LABEL` keeps its values, in
order, and so do the `TYPE` values but `pref`. Before 4.0 there is no `PREF`;
when some property of the name has an integer `PREF`, there is exactly one `pref`
type if the property is the first of lowest `PREF`, and none otherwise, and when
none has one the types are the property's own. In 4.0 the first `pref` type
becomes `PREF=1`, so one fewer remains; without one, `PREF` is kept. -/
theorem preference_written {c : Codec} (hc : c.pref = true)
    (hs : c.shape ∈ [Shape.email, .uri false, .telephone, .related, .address]) (card : Card) (i : Nat)
    (p : Property) (V : Version) :
    (∀ n, Params.key n ≠ "PREF" → Params.key n ≠ "TYPE" → (c.shape = .address → Params.key n ≠ "LABEL") →
      (c.prepareParams p (some i) V (some card)).getAll n = p.params.getAll n) ∧
    (c.prepareParams p (some i) V (some card)).types.filter (Text.lower · != "pref") =
      p.params.types.filter (Text.lower · != "pref") ∧
    (V ≠ .v40 →
      (c.prepareParams p (some i) V (some card)).getAll "PREF" = [] ∧
      (HasRanked card p.name →
        ((c.prepareParams p (some i) V (some card)).types.filter (Text.lower · == "pref")).length =
          if IsPreferred card p.name i then 1 else 0) ∧
      (¬HasRanked card p.name → (c.prepareParams p (some i) V (some card)).types = p.params.types)) ∧
    (V = .v40 →
      ((c.prepareParams p (some i) V (some card)).types.filter (Text.lower · == "pref")).length =
        (p.params.types.filter (Text.lower · == "pref")).length - 1 ∧
      (c.prepareParams p (some i) V (some card)).getAll "PREF" =
        if p.params.types.any (Text.lower · == "pref") then ["1"] else p.params.getAll "PREF") := by
  have htypes : (c.prepareParams p (some i) V (some card)).types =
      (preferenceFor p.name (some i) p.params V (some card)).types :=
    getAll_prepareParams hc hs p (some i) V (some card) fun _ => by decide
  have hprefs : (c.prepareParams p (some i) V (some card)).getAll "PREF" =
      (preferenceFor p.name (some i) p.params V (some card)).getAll "PREF" :=
    getAll_prepareParams hc hs p (some i) V (some card) fun _ => by decide
  rw [htypes, hprefs]
  have hlow : Text.lower "pref" = "pref" := by decide
  -- no value is both `pref` and not
  have hnone : ∀ l : List String, (l.filter (Text.lower · != "pref")).filter (Text.lower · == "pref") = [] := by
    intro l
    rw [List.filter_filter, List.filter_eq_nil_iff]
    intro t _ ht
    simp at ht
  refine ⟨fun n hP hT hL => by rw [getAll_prepareParams hc hs p _ V _ hL, getAll_preferenceFor_other hP hT], ?_, ?_, ?_⟩
  · by_cases hV : V = .v40
    · subst hV
      rw [types_preferenceFor_v40]
      exact filter_eraseP_not _ _
    · rw [types_preferenceFor hV]
      split
      · rfl
      · split <;> simp [List.filter_append, List.filter_filter, hlow]
  · intro hV
    refine ⟨getAll_preferenceFor_pref hV, fun hr => ?_, fun hr => ?_⟩
    · obtain ⟨w, hw, -, -⟩ := preferred?_spec (ranked_pairwise card p.name) ((hasRanked_iff _ _).mp hr)
      have hwin : IsPreferred card p.name i ↔ i = w.1 := by
        rw [← preferred?_ranked_eq_some_iff, hw, Option.some.injEq, eq_comm]
      rw [types_preferenceFor hV, hw, List.filter_append, hnone, List.nil_append]
      by_cases hi : i = w.1
      · rw [if_pos (hwin.mpr hi), if_pos (congrArg some hi)]
        simp [hlow]
      · rw [if_neg (mt hwin.mp hi), if_neg (fun h => hi (Option.some.inj h))]
        rfl
    · have hnil : ranked card p.name = [] := by
        by_contra h
        exact hr ((hasRanked_iff _ _).mpr h)
      rw [types_preferenceFor hV, hnil]
      rfl
  · intro hV
    subst hV
    rw [types_preferenceFor_v40, getAll_preferenceFor_v40_pref]
    exact ⟨length_filter_eraseP _ _, rfl⟩

/-- **The built-in codecs that take part in preference** (`ADR`, `TEL`, `EMAIL`,
`IMPP`, `MEMBER` and `RELATED`) write a property as `preference_written` says. -/
theorem prepareParams_preference (card : Card) (i : Nat) (p : Property)
    (hpref : (defaultIndex.codecFor p.name).pref = true) (V : Version) :
    let c := defaultIndex.codecFor p.name
    let Q := c.prepareParams p (some i) V (some card)
    (∀ n, Params.key n ≠ "PREF" → Params.key n ≠ "TYPE" → (c.shape = .address → Params.key n ≠ "LABEL") →
      Q.getAll n = p.params.getAll n) ∧
    Q.types.filter (Text.lower · != "pref") = p.params.types.filter (Text.lower · != "pref") ∧
    (V ≠ .v40 →
      Q.getAll "PREF" = [] ∧
      (HasRanked card p.name →
        (Q.types.filter (Text.lower · == "pref")).length = if IsPreferred card p.name i then 1 else 0) ∧
      (¬HasRanked card p.name → Q.types = p.params.types)) ∧
    (V = .v40 →
      (Q.types.filter (Text.lower · == "pref")).length = (p.params.types.filter (Text.lower · == "pref")).length - 1 ∧
      Q.getAll "PREF" = if p.params.types.any (Text.lower · == "pref") then ["1"] else p.params.getAll "PREF") :=
  preference_written hpref (defaultIndex_pref_shape hpref) card i p V

/-- A home telephone number of `PREF=1`. -/
def preferredPhone : Property :=
  { name := "TEL", params := ⟨[("PREF", "1"), ("TYPE", "home")]⟩, value := .telephone (.text "2") }

/-- Two telephone numbers, the second one preferred. -/
def twoPhones : Card :=
  { properties := [{ name := "TEL", params := ⟨[("PREF", "2")]⟩, value := .telephone (.text "1") }, preferredPhone] }

theorem twoPhones_second_preferred :
    (defaultIndex.codecFor preferredPhone.name).pref = true ∧
      (((defaultIndex.codecFor preferredPhone.name).prepareParams preferredPhone (some 1) .v30
        (some twoPhones)).types.filter (Text.lower · == "pref")).length = 1 := by
  have hpref : (defaultIndex.codecFor preferredPhone.name).pref = true := by decide +kernel
  have h := (prepareParams_preference twoPhones 1 preferredPhone hpref .v30).2.2.1 (by decide)
  refine ⟨hpref, ?_⟩
  rw [h.2.1 ⟨1, preferredPhone, 1, rfl, by decide, by decide⟩]
  decide

/-- A telephone number with `pref` among its types twice. -/
def doublePrefPhone : Property :=
  { name := "TEL", params := ⟨[("TYPE", "pref"), ("TYPE", "PREF")]⟩, value := .telephone (.text "1") }

/-- Written as 4.0, `doublePrefPhone` keeps one of its `pref` types beside the
`PREF=1` the other became. -/
theorem duplicatePrefType_kept :
    (defaultIndex.codecFor doublePrefPhone.name).prepareParams doublePrefPhone (some 0) .v40
        (some { version := .v40, properties := [doublePrefPhone] }) =
      ⟨[("TYPE", "PREF"), ("PREF", "1")]⟩ := by
  decide +kernel

end Codec

end VCard
