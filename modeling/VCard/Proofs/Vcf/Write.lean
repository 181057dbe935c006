import VCard.Vcf.Write
import VCard.Proofs.Vcf.Read
import VCard.Proofs.ContentLine.Codec
import VCard.Proofs.Codec.Structured
/-! Writing a card, property by property.

The parameters a structured value is written with are the property's own with
preference translated (`PREF=1` or `TYPE=pref`) and, in 4.0, an address's label
(`mem_prepareParams`): they can be written on a content line whenever the
property's own can (`portable_prepareParams`), and they never carry `VALUE`,
since a structured value has its shape's default data type
(`valueParameter_structured`).

`Writer.propertyLine?` is the line a property is written on when its value is
written as text on one line; `writeProperty_line` says that writing the property
gives that line, folded as asked, whatever the warnings so far. `writeCard_lines`
puts a card's lines together in order, with the labels before 4.0, and
`write_singleton` writes a single card. -/
namespace VCard.Codec

open ContentLine Params

/-! ### The parameters a structured value is written with -/

/-- Preference only drops parameters, or adds `PREF=1` or `TYPE=pref`. -/
theorem mem_preferenceFor {name : String} {self : Option Nat} {p : Params} {v : Version} {card : Option Card}
    {e : String × String} (he : e ∈ (preferenceFor name self p v card).entries) :
    e ∈ p.entries ∨ e = ("PREF", "1") ∨ e = ("TYPE", "pref") := by
  unfold preferenceFor at he
  split at he
  · split at he
    · rcases mem_set he with h | ⟨x, hx, rfl⟩
      · exact .inl (mem_remove h)
      · simp only [Option.map_some, Option.mem_def, Option.some.injEq] at hx
        subst hx
        exact .inr (.inl rfl)
    · exact .inl he
  · split at he
    · exact .inl (mem_erase he).1
    · split at he
      · exact .inl (mem_erase he).1
      · dsimp only at he
        have hdrop : ∀ {e}, e ∈ (dropPrefTypes (p.erase "PREF")).entries → e ∈ p.entries := fun h =>
          (mem_erase (List.mem_of_mem_filter h)).1
        split at he
        · rcases mem_put he with h | rfl
          · exact .inl (hdrop h)
          · exact .inr (.inr rfl)
        · exact .inl (hdrop he)

/-- The only parameter a structured value's shape sets is an address's label, in 4.0. -/
theorem mem_prepareOwn {c : Codec} {x : Value} (hx : Structured c.shape x) {p : Params} {v : Version}
    {e : String × String} (he : e ∈ (c.prepareOwn x p v).entries) :
    e ∈ p.entries ∨ ∃ a, x = .address a ∧ v = .v40 ∧ ∃ l ∈ a.label, e = ("LABEL", l) := by
  obtain ⟨name, shape, pref⟩ := c
  cases hx with
  | address a =>
    simp only [prepareOwn] at he
    split at he
    · next l hl =>
      split at he
      · next h40 =>
        rcases mem_set he with h | ⟨x, hx, rfl⟩
        · exact .inl h
        · simp only [Option.mem_def, Option.some.injEq] at hx
          subst hx
          exact .inr ⟨a, rfl, by simpa using h40, l, hl, rfl⟩
      · exact .inl (mem_erase he).1
    · exact .inl (mem_erase he).1
  | name n => exact .inl he
  | textList hd h items d' => exact .inl he
  | gender sex identity => exact .inl he
  | clientPidMap pid u h => exact .inl he

theorem mem_prepareParams {c : Codec} {prop : Property} (hx : Structured c.shape prop.value) {self : Option Nat}
    {v : Version} {card : Option Card} {e : String × String} (he : e ∈ (c.prepareParams prop self v card).entries) :
    e ∈ prop.params.entries ∨ e = ("PREF", "1") ∨ e = ("TYPE", "pref") ∨
      ∃ a, prop.value = .address a ∧ v = .v40 ∧ ∃ l ∈ a.label, e = ("LABEL", l) := by
  rcases mem_prepareOwn hx he with h | h
  · split at h
    · rcases mem_preferenceFor h with h | h | h
      · exact .inl h
      · exact .inr (.inl h)
      · exact .inr (.inr (.inl h))
    · exact .inl h
  · exact .inr (.inr (.inr h))

/-- The parameters a structured value is written with can be written on a
content line and read back, when its own can and a 4.0 label is not empty. -/
theorem portable_prepareParams {c : Codec} {prop : Property} (hx : Structured c.shape prop.value)
    (hp : prop.params.Portable) {v : Version}
    (hl : v = .v40 → ∀ a, prop.value = .address a → ∀ l ∈ a.label, l ≠ "") (self : Option Nat)
    (card : Option Card) : (c.prepareParams prop self v card).Portable := by
  refine Portable.of_entries fun e he => ?_
  rcases mem_prepareParams hx he with h | rfl | rfl | ⟨a, ha, h40, l, hl', rfl⟩
  · exact hp.entry h
  · exact portableEntry_name (by decide) (by decide) (by decide) (by decide)
  · exact ⟨by decide, (isNameChars_iff _).mp (by decide), by decide, fun _ => by decide⟩
  · exact portableEntry_name (by decide) (by decide) (hl h40 a ha l hl') (by decide)

/-- A name the preparation does not write keeps no value when the property has none. -/
theorem getAll_prepareParams_eq_nil {c : Codec} {prop : Property} (hx : Structured c.shape prop.value)
    {self : Option Nat} {v : Version} {card : Option Card} {n : String} (hn : prop.params.getAll n = [])
    (hpref : key n ≠ "PREF") (htype : key n ≠ "TYPE") (hlabel : key n ≠ "LABEL") :
    (c.prepareParams prop self v card).getAll n = [] := by
  rw [getAll_eq_nil_iff] at hn ⊢
  intro e he
  rcases mem_prepareParams hx he with h | rfl | rfl | ⟨a, _, _, l, _, rfl⟩
  · exact hn e h
  · exact Ne.symm hpref
  · exact Ne.symm htype
  · exact Ne.symm hlabel

/-- An address is written with its label as `LABEL` in 4.0, and without one before. -/
theorem getAll_prepareParams_label {c : Codec} (hc : c.shape = .address) {prop : Property} {a : Address}
    (ha : prop.value = .address a) (self : Option Nat) (v : Version) (card : Option Card) :
    (c.prepareParams prop self v card).getAll "LABEL" = if v = .v40 then a.label.toList else [] := by
  unfold prepareParams
  generalize (if c.pref then preferenceFor prop.name self prop.params v card else prop.params) = q
  simp only [prepareOwn, hc, ha]
  cases hl : a.label with
  | none => simp [getAll_erase_self]
  | some l =>
    by_cases h40 : v = .v40
    · simp [h40, getAll_set_self]
    · simp [h40, getAll_erase_self]

/-- A structured value is written with its shape's default data type, so with no `VALUE`. -/
theorem valueParameter_structured {c : Codec} {x : Value} (hx : Structured c.shape x) (v : Version) :
    c.valueParameter x v = none := by
  obtain ⟨name, shape, pref⟩ := c
  cases hx <;> cases v <;> rfl

end VCard.Codec

namespace VCard.Vcf

section Loops

variable {ε σ γ β : Type}

/-- A loop whose every step goes on from the value so far is the fold of its
steps. -/
theorem forIn_returns (step : β → γ → β) {xs : List γ} {body : γ → β → ExceptT ε (StateM σ) (ForInStep β)}
    (h : ∀ x ∈ xs, ∀ acc, Returns (body x acc) (.yield (step acc x))) (init : β) :
    Returns (forIn xs init body) (xs.foldl step init) := by
  induction xs generalizing init with
  | nil => exact Returns.pure init
  | cons x xs ih =>
    rw [List.forIn_cons, List.foldl_cons]
    exact (h x List.mem_cons_self init).bind_returns (ih (fun y hy => h y (List.mem_cons_of_mem _ hy)) _)

end Loops

/-- The content line a property is written on when its value is written as text
on one line: the codec's text, with the parameters prepared for the version;
none when the value is skipped or holds a card, or is written quoted-printable. -/
def Writer.propertyLine? (w : Writer) (card : Card) (self : Option Nat) (prop : Property) : Option String :=
  let codec := w.index.codecForProperty prop
  match (codec.writeText prop.value w.version).run'.1 with
  | .ok (.written value) =>
    if w.version == .v21 && (value.contains '\n' || value.contains '\r') then none
    else some (w.contentLine prop.group prop.name
      ((codec.prepareParams prop self w.version (some card)).setValueType (codec.valueParameter prop.value w.version))
      value)
  | _ => none

/-- A value without line breaks is never written quoted-printable. -/
theorem not_quotedPrintable_of_unbroken {t : String} (h : Text.Unbroken t.toList) (v : Version) :
    (v == .v21 && (t.contains '\n' || t.contains '\r')) = false := by
  have hn : '\n' ∉ t.toList := fun h' => (h _ h').2 rfl
  have hr : '\r' ∉ t.toList := fun h' => (h _ h').1 rfl
  simp [String.contains_char_eq, hn, hr]

theorem returns_note (message : String) (property : Option String) : Returns (note message property) () :=
  fun _ => ⟨_, rfl⟩

/-- A codec's messages become notes, which change nothing but the warnings. -/
theorem returns_notes (messages : List String) (name : String) :
    Returns (forIn messages PUnit.unit fun m _ => do
      note m (some name)
      pure (ForInStep.yield PUnit.unit) : EmitM PUnit) PUnit.unit :=
  forIn_returns (fun _ _ => PUnit.unit) (fun _ _ _ => (returns_note _ _).bind_returns (Returns.pure _)) _

theorem writeProperty_line (w : Writer) (inner : CardWriter) (depth : Int) (fold : Bool) (card : Card)
    (self : Option Nat) (prop : Property) {line : String} (h : w.propertyLine? card self prop = some line) :
    Returns (writeProperty w inner depth fold card self prop) (w.line fold line) := by
  unfold Writer.propertyLine? at h
  dsimp only at h
  split at h
  · next value hvalue =>
    split at h
    · simp at h
    · next hplain =>
      simp only [Option.some.injEq] at h
      subst h
      unfold writeProperty
      generalize hw : ((w.index.codecForProperty prop).writeText prop.value w.version).run' = wr at hvalue
      obtain ⟨result, messages⟩ := wr
      simp only at hvalue
      subst hvalue
      simp only [liftExcept, hw, pure_bind, Bool.not_eq_true] at hplain ⊢
      simp only [hplain, Bool.false_eq_true, if_false]
      have hnotes := returns_notes messages prop.name
      split
      · exact (returns_note _ _).bind_returns (hnotes.bind_returns (Returns.pure _))
      · exact hnotes.bind_returns (Returns.pure _)
  · simp at h

theorem writeCard_lines (w : Writer) (fuel : Nat) (depth : Int) (fold : Bool) (card : Card)
    (text : Nat → Property → String) (labelText : Property → String)
    (hprop : ∀ i p, (i, p) ∈ (List.range card.properties.length).zip card.properties →
      Returns (writeProperty w (writeCard w fuel) depth fold card (some i) p) (text i p))
    (hlabel : w.version ≠ .v40 → ∀ p ∈ card.properties, ∀ l ∈ labelOf p,
      Returns (writeProperty w (writeCard w fuel) depth fold card none l) (labelText l))
    (horphans : card.orphanedLabels = [])
    (hprodid : (w.settings.addProdid && w.version != .v21 && (card.first? "PRODID").isNone) = false) :
    Returns (writeCard w (fuel + 1) depth fold card)
      (((List.range card.properties.length).zip card.properties).foldl
        (fun out x => if w.version != .v40 then
            (match labelOf x.2 with
              | some l => out ++ text x.1 x.2 ++ labelText l
              | none => out ++ text x.1 x.2)
          else out ++ text x.1 x.2)
        (w.line fold "BEGIN:VCARD" ++ w.line fold ("VERSION:" ++ w.version.text)) ++ w.line fold "END:VCARD") := by
  simp only [writeCard, horphans, hprodid, Bool.false_eq_true, if_false, List.forIn_nil, pure_bind]
  refine (forIn_returns _ ?_ _).bind_returns (Returns.pure _)
  rintro ⟨i, p⟩ hx acc
  refine (hprop i p hx).bind_returns ?_
  by_cases h40 : w.version = .v40
  · simp only [h40, bne_self_eq_false, Bool.false_eq_true, if_false]
    exact Returns.pure _
  · simp only [bne_iff_ne, ne_eq, h40, not_false_eq_true, if_true]
    cases hl : labelOf p with
    | none => exact Returns.pure _
    | some l => exact (hlabel h40 p (List.of_mem_zip hx).2 l hl).bind_returns (Returns.pure _)

/-- Writing a single card gives the text its writing returns. -/
theorem write_singleton (w : Writer) (card : Card) {text : String}
    (h : Returns (writeCard w (nesting card + 1) 0 true card) text) : ∃ ws, write w [card] = .ok (text, ws) := by
  have hrun : Returns ([card].foldlM (fun out c => do
      return out ++ (← writeCard w (nesting c + 1) 0 true c)) "" : EmitM String) text := by
    simp only [List.foldlM_cons, List.foldlM_nil, bind_pure]
    refine h.bind_returns ?_
    rw [String.empty_append]
    exact Returns.pure text
  obtain ⟨ws, hws⟩ := hrun []
  refine ⟨ws, ?_⟩
  unfold write
  simp only [hws]

end VCard.Vcf
