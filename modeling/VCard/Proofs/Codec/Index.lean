import Mathlib.Data.List.Induction
import VCard.Codec.Table
/-! The codec index as a state machine.

An index changes only by `register` and `unregister` (`CodecIndex.Op`). A run
applies a list of them to an index, and the default index is the run of the
built-in codecs' registrations on the empty one (`defaultIndex_eq_run`), so what
holds after every run from the empty index holds after every run from the
default index too. After every run:

* the latest operation addressing a name decides it (`find_run`): the name is
  known exactly when that operation registered a codec, which is then the codec
  of the name, and otherwise the name is read raw (`codecFor_run`);
* every hCard entry is keyed by its codec's class name and points at the codec
  registered under the codec's own name (`HcardSound`, `hcardSound_run`);
* when no two codecs of different names registered during the run share a class
  name, every registered codec is found under its class name (`ClassesFound`,
  `classesFound_run`). The hCard lookup lowers the class name asked for while
  registration keeps it as it is, so a codec is found by its own class name only
  when that name is in lower case: a codec whose class name has a capital is
  registered but cannot be found (`capitalClass_unreachable`).

`index_run_consistent` gathers the three. -/
namespace VCard

/-! ### Association lists -/

section Assoc

variable {α : Type}

theorem assocFind?_cons (e : String × α) (xs : List (String × α)) (k : String) :
    assocFind? (e :: xs) k = if e.1 = k then some e.2 else assocFind? xs k := by
  by_cases h : e.1 = k <;> simp [assocFind?, h]

theorem assocFind?_eq_none {xs : List (String × α)} {k : String} :
    assocFind? xs k = none ↔ ∀ e ∈ xs, e.1 ≠ k := by
  simp [assocFind?]

theorem assocFind?_append (xs ys : List (String × α)) (k : String) :
    assocFind? (xs ++ ys) k = (assocFind? xs k).or (assocFind? ys k) := by
  simp [assocFind?, List.find?_append, Option.map_or]

theorem assocFind?_assocErase (xs : List (String × α)) (k k' : String) :
    assocFind? (assocErase xs k) k' = if k' = k then none else assocFind? xs k' := by
  induction xs with
  | nil => simp [assocErase, assocFind?]
  | cons e xs ih =>
    simp only [assocErase] at ih ⊢
    by_cases he : e.1 = k
    · rw [List.filter_cons_of_neg (by simp [he]), ih, assocFind?_cons]
      by_cases hk : k' = k
      · simp [hk]
      · simp [hk, he, Ne.symm hk]
    · rw [List.filter_cons_of_pos (by simpa using he), assocFind?_cons, assocFind?_cons, ih]
      by_cases hk : k' = k
      · subst hk; simp [he]
      · simp [hk]

/-- Setting a key in place, as `assocSet` does when the key is present. -/
theorem assocFind?_map_set (xs : List (String × α)) (k k' : String) (v : α) :
    assocFind? (xs.map fun e => if e.1 == k then (k, v) else e) k' =
      if k' = k then (if xs.any (·.1 == k) then some v else none) else assocFind? xs k' := by
  induction xs with
  | nil => by_cases hk : k' = k <;> simp [assocFind?, hk]
  | cons e xs ih =>
    rw [List.map_cons, assocFind?_cons, ih, assocFind?_cons]
    by_cases he : e.1 = k
    · by_cases hk : k' = k
      · subst hk; simp [he]
      · simp [he, hk, Ne.symm hk]
    · by_cases hk : k' = k
      · subst hk
        have : (e.1 == k') = false := by simpa using he
        simp only [List.any_cons, this, Bool.false_or]
        simp [he]
      · simp [he, hk]

theorem assocFind?_assocSet (xs : List (String × α)) (k k' : String) (v : α) :
    assocFind? (assocSet xs k v) k' = if k' = k then some v else assocFind? xs k' := by
  unfold assocSet
  split
  · next hany => rw [assocFind?_map_set]; simp [hany]
  · next hnone =>
    rw [assocFind?_append, assocFind?_cons]
    by_cases hk : k' = k
    · subst hk
      have : assocFind? xs k' = none := by
        rw [assocFind?_eq_none]
        intro e he hek
        exact hnone (List.any_eq_true.mpr ⟨e, he, by simp [hek]⟩)
      simp [this]
    · simp [hk, Ne.symm hk, assocFind?]

theorem mem_assocErase {xs : List (String × α)} {k : String} {e : String × α} :
    e ∈ assocErase xs k ↔ e ∈ xs ∧ e.1 ≠ k := by
  simp [assocErase]

theorem mem_assocSet {xs : List (String × α)} {k : String} {v : α} {e : String × α}
    (h : e ∈ assocSet xs k v) : e = (k, v) ∨ (e ∈ xs ∧ e.1 ≠ k) := by
  unfold assocSet at h
  split at h
  · obtain ⟨x, hx, rfl⟩ := List.mem_map.mp h
    by_cases hxk : x.1 = k
    · left; simp [hxk]
    · right; simp [hxk, hx]
  · next hnone =>
    rcases List.mem_append.mp h with h | h
    · refine .inr ⟨h, ?_⟩
      intro hek
      exact hnone (List.any_eq_true.mpr ⟨e, h, by simp [hek]⟩)
    · exact .inl (List.mem_singleton.mp h)

/-- A new key is set at the end. -/
theorem assocSet_of_not_mem {xs : List (String × α)} {k : String} (h : k ∉ xs.map Prod.fst) (v : α) :
    assocSet xs k v = xs ++ [(k, v)] := by
  unfold assocSet
  rw [if_neg]
  intro hany
  obtain ⟨e, he, hek⟩ := List.any_eq_true.mp hany
  exact h (List.mem_map.mpr ⟨e, he, by simpa using hek⟩)

/-- Setting a key keeps the keys distinct. -/
theorem nodup_keys_assocSet {xs : List (String × α)} (h : (xs.map Prod.fst).Nodup) (k : String) (v : α) :
    ((assocSet xs k v).map Prod.fst).Nodup := by
  by_cases hk : k ∈ xs.map Prod.fst
  · -- in place: every key stays where it was
    have hany : xs.any (·.1 == k) = true := by
      obtain ⟨e, he, rfl⟩ := List.mem_map.mp hk
      exact List.any_eq_true.mpr ⟨e, he, by simp⟩
    have hkeys : (xs.map fun e => if e.1 == k then (k, v) else e).map Prod.fst = xs.map Prod.fst := by
      simp only [List.map_map]
      congr 1
      funext e
      by_cases he : e.1 = k <;> simp [he]
    unfold assocSet
    rw [if_pos hany, hkeys]
    exact h
  · rw [assocSet_of_not_mem hk, List.map_append, List.nodup_append]
    refine ⟨h, by simp, fun a ha b hb hab => hk ?_⟩
    simp only [List.map_cons, List.map_nil, List.mem_singleton] at hb
    exact hb ▸ hab ▸ ha

end Assoc

namespace CodecIndex

/-! ### Registering and unregistering -/

section Steps

variable {ix : CodecIndex} {c prev : Codec} {name : String}

theorem register_of_find_none (h : assocFind? ix.byName c.name = none) :
    ix.register c = ⟨assocSet ix.byName c.name c, assocSet ix.byHcard c.hcardClassName c⟩ := by
  simp [register, h]

/-- Registering over a codec of the same name drops the old codec's hCard entry,
whichever codec that entry holds by then. -/
theorem register_of_find_some (h : assocFind? ix.byName c.name = some prev) :
    ix.register c =
      ⟨assocSet ix.byName c.name c, assocSet (assocErase ix.byHcard prev.hcardClassName) c.hcardClassName c⟩ := by
  simp [register, h]

theorem unregister_of_find_none (h : assocFind? ix.byName (Text.upper name) = none) :
    ix.unregister name = (none, ix) := by
  simp [unregister, h]

theorem unregister_of_find_some (h : assocFind? ix.byName (Text.upper name) = some c) :
    ix.unregister name =
      (some c, ⟨assocErase ix.byName (Text.upper name), assocErase ix.byHcard c.hcardClassName⟩) := by
  simp [unregister, h]

@[simp] theorem find_register (ix : CodecIndex) (c : Codec) (k : String) :
    assocFind? (ix.register c).byName k = if k = c.name then some c else assocFind? ix.byName k := by
  cases h : assocFind? ix.byName c.name with
  | none => rw [register_of_find_none h, assocFind?_assocSet]
  | some prev => rw [register_of_find_some h, assocFind?_assocSet]

@[simp] theorem find_unregister (ix : CodecIndex) (name k : String) :
    assocFind? (ix.unregister name).2.byName k =
      if k = Text.upper name then none else assocFind? ix.byName k := by
  cases h : assocFind? ix.byName (Text.upper name) with
  | none =>
    rw [unregister_of_find_none h]
    by_cases hk : k = Text.upper name
    · simp [hk, h]
    · simp [hk]
  | some c => rw [unregister_of_find_some h, assocFind?_assocErase]

end Steps

/-! ### Runs -/

/-- An operation that changes an index. -/
inductive Op where
  | register (c : Codec)
  | unregister (name : String)

namespace Op

/-- The name an operation addresses: the codec's own name, or the name asked for
in capitals. -/
def key : Op → String
  | register c => c.name
  | unregister name => Text.upper name

/-- The codec an operation registers. -/
def registered? : Op → Option Codec
  | register c => some c
  | unregister _ => none

end Op

def apply (ix : CodecIndex) : Op → CodecIndex
  | .register c => ix.register c
  | .unregister name => (ix.unregister name).2

/-- The index after a list of operations. -/
def run (ix : CodecIndex) (ops : List Op) : CodecIndex := ops.foldl apply ix

/-- The codecs a list of operations registers, in order. -/
def registrations (ops : List Op) : List Codec := ops.filterMap Op.registered?

/-- The latest of a list of operations that addresses a name. -/
def latest (ops : List Op) (k : String) : Option Op := (ops.filter (·.key == k)).getLast?

theorem run_append_singleton (ix : CodecIndex) (ops : List Op) (o : Op) :
    run ix (ops ++ [o]) = (run ix ops).apply o := by
  simp [run, List.foldl_append]

theorem latest_append_singleton (ops : List Op) (o : Op) (k : String) :
    latest (ops ++ [o]) k = if o.key = k then some o else latest ops k := by
  by_cases h : o.key = k <;> simp [latest, List.filter_append, h]

theorem mem_registrations {ops : List Op} {c : Codec} :
    c ∈ registrations ops ↔ Op.register c ∈ ops := by
  constructor
  · intro h
    obtain ⟨o, ho, hc⟩ := List.mem_filterMap.mp h
    cases o with
    | register d => cases hc; exact ho
    | unregister _ => cases hc
  · intro h
    exact List.mem_filterMap.mpr ⟨.register c, h, rfl⟩

/-- The default index is the run of the built-in registrations. -/
theorem defaultIndex_eq_run : defaultIndex = run {} (defaultCodecs.map .register) := by
  simp [defaultIndex, run, List.foldl_map, apply]

/-- One step: the operation decides the name it addresses and leaves every other
name alone. -/
theorem find_apply (ix : CodecIndex) (o : Op) (k : String) :
    assocFind? (ix.apply o).byName k = if o.key = k then o.registered? else assocFind? ix.byName k := by
  cases o with
  | register c =>
    by_cases h : c.name = k
    · simp [apply, Op.key, Op.registered?, h]
    · simp [apply, Op.key, h, Ne.symm h]
  | unregister name =>
    by_cases h : Text.upper name = k
    · simp [apply, Op.key, Op.registered?, h]
    · simp [apply, Op.key, h, Ne.symm h]

/-- **The latest operation addressing a name decides it**: a run leaves the name
as its latest operation on that name left it, or as it was when none addressed it. -/
theorem find_run (ix : CodecIndex) (ops : List Op) (k : String) :
    assocFind? (run ix ops).byName k =
      match latest ops k with
      | some o => o.registered?
      | none => assocFind? ix.byName k := by
  induction ops using List.reverseRecOn with
  | nil => rfl
  | append_singleton ops o ih =>
    rw [run_append_singleton, find_apply, latest_append_singleton]
    by_cases h : o.key = k
    · simp [h]
    · simp only [h, if_false, ih]

/-- From the empty index a name is known exactly when its latest operation
registered a codec; that codec is its codec, and otherwise the name is read raw. -/
theorem codecFor_run (ops : List Op) (n : String) :
    (run {} ops).has n = ((latest ops (Text.upper n)).bind Op.registered?).isSome ∧
      (run {} ops).codecFor n = ((latest ops (Text.upper n)).bind Op.registered?).getD (Codec.raw n) := by
  have hfind := find_run {} ops (Text.upper n)
  have hempty : assocFind? ({} : CodecIndex).byName (Text.upper n) = none := rfl
  cases hl : latest ops (Text.upper n) with
  | none => simp only [hl, hempty] at hfind; simp [has, codecFor, hfind]
  | some o => simp only [hl] at hfind; simp [has, codecFor, hfind]

/-! ### The hCard entries -/

/-- Every hCard entry is keyed by its codec's class name and holds the codec
registered under the codec's own name. -/
def HcardSound (ix : CodecIndex) : Prop :=
  ∀ e ∈ ix.byHcard, e.2.hcardClassName = e.1 ∧ assocFind? ix.byName e.2.name = some e.2

theorem hcardSound_empty : HcardSound {} := by
  intro e he
  cases he

theorem HcardSound.register {ix : CodecIndex} (h : ix.HcardSound) (c : Codec) : (ix.register c).HcardSound := by
  intro e he
  cases hprev : assocFind? ix.byName c.name with
  | none =>
    rw [register_of_find_none hprev] at he ⊢
    rcases mem_assocSet he with rfl | ⟨he, -⟩
    · simp [assocFind?_assocSet]
    · obtain ⟨hclass, hfind⟩ := h e he
      refine ⟨hclass, ?_⟩
      rw [assocFind?_assocSet, if_neg]
      · exact hfind
      · intro hname
        rw [hname, hprev] at hfind
        cases hfind
  | some prev =>
    rw [register_of_find_some hprev] at he ⊢
    rcases mem_assocSet he with rfl | ⟨he, -⟩
    · simp [assocFind?_assocSet]
    · obtain ⟨he, hdropped⟩ := mem_assocErase.mp he
      obtain ⟨hclass, hfind⟩ := h e he
      refine ⟨hclass, ?_⟩
      rw [assocFind?_assocSet, if_neg]
      · exact hfind
      -- an entry of the name replaced belongs to the codec replaced, whose class was dropped
      · intro hname
        rw [hname, hprev] at hfind
        obtain rfl := Option.some.inj hfind
        exact hdropped hclass.symm

theorem HcardSound.unregister {ix : CodecIndex} (h : ix.HcardSound) (name : String) :
    (ix.unregister name).2.HcardSound := by
  cases hc : assocFind? ix.byName (Text.upper name) with
  | none => rw [unregister_of_find_none hc]; exact h
  | some c =>
    rw [unregister_of_find_some hc]
    intro e he
    obtain ⟨he, hdropped⟩ := mem_assocErase.mp he
    obtain ⟨hclass, hfind⟩ := h e he
    refine ⟨hclass, ?_⟩
    rw [assocFind?_assocErase, if_neg]
    · exact hfind
    · intro hname
      rw [hname, hc] at hfind
      obtain rfl := Option.some.inj hfind
      exact hdropped hclass.symm

theorem HcardSound.apply {ix : CodecIndex} (h : ix.HcardSound) : ∀ o : Op, (ix.apply o).HcardSound
  | .register c => h.register c
  | .unregister name => h.unregister name

theorem hcardSound_run {ix : CodecIndex} (h : ix.HcardSound) (ops : List Op) : (run ix ops).HcardSound := by
  induction ops generalizing ix with
  | nil => exact h
  | cons o ops ih => exact ih (h.apply o)

/-! ### Codecs found by class name -/

/-- What a run keeps of the codecs registered by name: each is keyed by its own
name and is one of the codecs `R`. -/
structure Tracked (R : List Codec) (ix : CodecIndex) : Prop where
  nameKeyed : ∀ k c, assocFind? ix.byName k = some c → c.name = k
  among : ∀ k c, assocFind? ix.byName k = some c → c ∈ R

theorem tracked_empty (R : List Codec) : Tracked R {} :=
  ⟨fun _ _ h => (nomatch h), fun _ _ h => (nomatch h)⟩

theorem Tracked.apply {R : List Codec} {ix : CodecIndex} (h : Tracked R ix) (o : Op)
    (ho : ∀ c, o.registered? = some c → c ∈ R) : Tracked R (ix.apply o) := by
  constructor
  · intro k c hc
    rw [find_apply] at hc
    split at hc
    · next hk => cases o <;> simp_all [Op.registered?, Op.key]
    · exact h.nameKeyed k c hc
  · intro k c hc
    rw [find_apply] at hc
    split at hc
    · exact ho c hc
    · exact h.among k c hc

theorem tracked_run {R : List Codec} {ix : CodecIndex} (h : Tracked R ix) (ops : List Op)
    (hops : ∀ c ∈ registrations ops, c ∈ R) : Tracked R (run ix ops) := by
  induction ops generalizing ix with
  | nil => exact h
  | cons o ops ih =>
    apply ih
    · apply h.apply o
      intro c hc
      apply hops c
      rw [mem_registrations]
      cases o <;> cases hc
      exact List.mem_cons_self
    · intro c hc
      apply hops c
      rw [mem_registrations] at hc ⊢
      exact List.mem_cons_of_mem _ hc

/-- Codecs of different names have different class names. -/
def ClassesDistinct (R : List Codec) : Prop :=
  ∀ c ∈ R, ∀ d ∈ R, c.name ≠ d.name → c.hcardClassName ≠ d.hcardClassName

instance (R : List Codec) : Decidable (ClassesDistinct R) := by
  unfold ClassesDistinct; infer_instance

/-- Every codec registered by name is found under its class name. -/
def ClassesFound (ix : CodecIndex) : Prop :=
  ∀ k c, assocFind? ix.byName k = some c → assocFind? ix.byHcard c.hcardClassName = some c

theorem classesFound_empty : ClassesFound {} := fun _ _ h => nomatch h

theorem ClassesFound.register {R : List Codec} {ix : CodecIndex} (h : ix.ClassesFound) (ht : Tracked R ix)
    (hR : ClassesDistinct R) {c : Codec} (hc : c ∈ R) : (ix.register c).ClassesFound := by
  intro k d hd
  rw [find_register] at hd
  split at hd
  · obtain rfl := Option.some.inj hd
    cases hprev : assocFind? ix.byName c.name with
    | none => simp [register_of_find_none hprev, assocFind?_assocSet]
    | some prev => simp [register_of_find_some hprev, assocFind?_assocSet]
  · next hk =>
    -- `d` keeps its name, which is not `c`'s, so no class dropped or set here is `d`'s
    have hdR := ht.among k d hd
    have hname : d.name ≠ c.name := (ht.nameKeyed k d hd).symm ▸ hk
    have hclass : d.hcardClassName ≠ c.hcardClassName := hR d hdR c hc hname
    cases hprev : assocFind? ix.byName c.name with
    | none =>
      rw [register_of_find_none hprev, assocFind?_assocSet, if_neg hclass]
      exact h k d hd
    | some prev =>
      have hprevName : prev.name ≠ d.name := by
        rw [ht.nameKeyed _ _ hprev]
        exact Ne.symm hname
      have hprevClass := hR prev (ht.among _ _ hprev) d hdR hprevName
      rw [register_of_find_some hprev, assocFind?_assocSet, if_neg hclass, assocFind?_assocErase,
        if_neg (Ne.symm hprevClass)]
      exact h k d hd

theorem ClassesFound.unregister {R : List Codec} {ix : CodecIndex} (h : ix.ClassesFound) (ht : Tracked R ix)
    (hR : ClassesDistinct R) (name : String) : (ix.unregister name).2.ClassesFound := by
  cases hc : assocFind? ix.byName (Text.upper name) with
  | none => rw [unregister_of_find_none hc]; exact h
  | some c =>
    intro k d hd
    rw [find_unregister] at hd
    split at hd
    · cases hd
    · next hk =>
      have hname : d.name ≠ c.name := by
        rw [ht.nameKeyed k d hd, ht.nameKeyed _ _ hc]
        exact hk
      have hclass := hR d (ht.among k d hd) c (ht.among _ _ hc) hname
      rw [unregister_of_find_some hc, assocFind?_assocErase, if_neg hclass]
      exact h k d hd

theorem classesFound_run {R : List Codec} (hR : ClassesDistinct R) {ix : CodecIndex} (h : ix.ClassesFound)
    (ht : Tracked R ix) (ops : List Op) (hops : ∀ c ∈ registrations ops, c ∈ R) : (run ix ops).ClassesFound := by
  induction ops generalizing ix with
  | nil => exact h
  | cons o ops ih =>
    have hrest : ∀ c ∈ registrations ops, c ∈ R := by
      intro c hc
      apply hops c
      rw [mem_registrations] at hc ⊢
      exact List.mem_cons_of_mem _ hc
    cases o with
    | register c =>
      have hc : c ∈ R := hops c (mem_registrations.mpr List.mem_cons_self)
      exact ih (h.register ht hR hc) (ht.apply _ fun d hd => by cases hd; exact hc) hrest
    | unregister name => exact ih (h.unregister ht hR name) (ht.apply _ fun d hd => nomatch hd) hrest

/-! ### After every run -/

/-- **The index stays consistent under every run of registrations and removals**
from the empty index (and so from the default index, `defaultIndex_eq_run`), for
codecs named in capitals as every codec is:

* every hCard entry is keyed by its codec's class name, and its codec is the codec
  of its own name;
* when no two codecs of different names registered during the run share a class
  name and every class name is in lower case, every known name's codec is found
  under its class name;
* a name is known exactly when the latest operation addressing it in capitals
  registered a codec, which is then its codec; otherwise it is read raw. -/
theorem index_run_consistent (ops : List Op) (hcaps : ∀ c ∈ registrations ops, Text.upper c.name = c.name) :
    (∀ e ∈ (run {} ops).byHcard, e.2.hcardClassName = e.1 ∧ (run {} ops).codecFor e.2.name = e.2) ∧
    (ClassesDistinct (registrations ops) →
      (∀ c ∈ registrations ops, Text.lower c.hcardClassName = c.hcardClassName) →
      ∀ n, (run {} ops).has n = true →
        (run {} ops).codecForHcard? ((run {} ops).codecFor n).hcardClassName = some ((run {} ops).codecFor n)) ∧
    (∀ n, (run {} ops).has n = ((latest ops (Text.upper n)).bind Op.registered?).isSome ∧
      (run {} ops).codecFor n = ((latest ops (Text.upper n)).bind Op.registered?).getD (Codec.raw n)) := by
  have ht : Tracked (registrations ops) (run {} ops) := tracked_run (tracked_empty _) ops fun _ h => h
  refine ⟨?_, ?_, codecFor_run ops⟩
  · intro e he
    obtain ⟨hclass, hfind⟩ := hcardSound_run hcardSound_empty ops e he
    refine ⟨hclass, ?_⟩
    rw [codecFor, hcaps e.2 (ht.among _ _ hfind), hfind, Option.getD_some]
  · intro hR hlower n hn
    obtain ⟨c, hc⟩ := Option.isSome_iff_exists.mp hn
    have hfound : (run {} ops).ClassesFound :=
      classesFound_run hR classesFound_empty (tracked_empty _) ops fun _ h => h
    rw [codecFor, hc, Option.getD_some, codecForHcard?, hlower c (ht.among _ _ hc)]
    exact hfound _ c hc

theorem index_run_consistent_register :
    (∀ c ∈ registrations [.register (Codec.text "X-A"), .unregister "fn"], Text.upper c.name = c.name) ∧
      (run {} [.register (Codec.text "X-A"), .unregister "fn"]).codecFor "x-a" = Codec.text "X-A" :=
  ⟨by decide, by
    have h := (index_run_consistent [.register (Codec.text "X-A"), .unregister "fn"] (by decide)).2.2 "x-a"
    rw [h.2]
    decide⟩

/-- A codec whose class name has a capital is registered, alone, and yet the
hCard lookup of its class name finds nothing. -/
theorem capitalClass_unreachable :
    ClassesDistinct (registrations [.register (Codec.text "X-A" .text false (some "Foo"))]) ∧
      (run {} [.register (Codec.text "X-A" .text false (some "Foo"))]).has "X-A" = true ∧
      (run {} [.register (Codec.text "X-A" .text false (some "Foo"))]).codecForHcard?
        ((run {} [.register (Codec.text "X-A" .text false (some "Foo"))]).codecFor "X-A").hcardClassName = none := by
  decide

end CodecIndex

end VCard
