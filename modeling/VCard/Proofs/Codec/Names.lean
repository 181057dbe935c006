import VCard.Proofs.Vcf.Write
/-! Property and parameter names through lower case and back.

jCard and xCard write property and parameter names in lower case and read
them back in capitals. A name comes back as itself when it is stored as itself
and lower case then capitals lead back to it (`CaseStable`).

The names writing adds to a property's own parameters are the preference
(`PREF`, `TYPE`), an address's `LABEL` and binary content's `MEDIATYPE`, `TYPE`
and `ENCODING` (`mem_prepareParams_added`), and all of them are case-stable. -/
namespace VCard

/-- A name that lower case and then capitals lead back to, stored as itself. -/
def CaseStable (n : String) : Prop := Params.key n = n ∧ Text.upper (Text.lower n) = n

instance : DecidablePred CaseStable := fun _ => inferInstanceAs (Decidable (_ ∧ _))

theorem CaseStable.lower_inj {a b : String} (ha : CaseStable a) (hb : CaseStable b)
    (h : Text.lower a = Text.lower b) : a = b := by
  rw [← ha.2, ← hb.2, h]

namespace Codec

/-- The names writing adds to a property's parameters. -/
def addedNames : List String := ["PREF", "TYPE", "LABEL", "MEDIATYPE", "ENCODING"]

theorem caseStable_addedNames : ∀ n ∈ addedNames, CaseStable n := by
  decide

/-- A shape's own changes to parameters add only `LABEL`, `MEDIATYPE`, `TYPE` or
`ENCODING`. -/
theorem mem_prepareOwn_added {c : Codec} {x : Value} {p : Params} {v : Version} {e : String × String}
    (he : e ∈ (c.prepareOwn x p v).entries) :
    e ∈ p.entries ∨ e.1 = "LABEL" ∨ e.1 = "MEDIATYPE" ∨ e.1 = "TYPE" ∨ e.1 = "ENCODING" := by
  have hlabel : Params.key "LABEL" = "LABEL" := by decide
  have hmedia : Params.key "MEDIATYPE" = "MEDIATYPE" := by decide
  have htype : Params.key "TYPE" = "TYPE" := by decide
  have hencoding : Params.key "ENCODING" = "ENCODING" := by decide
  unfold Codec.prepareOwn at he
  split at he
  · -- an address sets or drops its label
    split at he
    · split at he
      · rcases Params.mem_set he with h | ⟨l, -, rfl⟩
        · exact .inl h
        · exact .inr (.inl hlabel)
      · exact .inl (Params.mem_erase he).1
    · exact .inl (Params.mem_erase he).1
  · -- binary content sets its media type, type word or encoding
    have hdrop : ∀ {e}, e ∈ ((p.erase "ENCODING").erase "MEDIATYPE").entries → e ∈ p.entries :=
      fun h => (Params.mem_erase (Params.mem_erase h).1).1
    dsimp only at he
    split at he
    · split at he
      · split at he
        · rcases Params.mem_set he with h | ⟨t, -, rfl⟩
          · exact .inl (hdrop h)
          · exact .inr (.inr (.inl hmedia))
        · exact .inl (hdrop he)
      · exact .inl (hdrop he)
    · have hdrop' : ∀ {e}, e ∈ (((p.erase "ENCODING").erase "MEDIATYPE").erase "TYPE").entries → e ∈ p.entries :=
        fun h => hdrop (Params.mem_erase h).1
      -- before 4.0: a type word for the media type, then the encoding of data
      split at he
      · rcases Params.mem_set he with h | ⟨_, -, rfl⟩
        · split at h
          · rcases Params.mem_put h with h | rfl
            · exact .inl (hdrop' h)
            · exact .inr (.inr (.inr (.inl htype)))
          · exact .inl (hdrop' h)
        · exact .inr (.inr (.inr (.inr hencoding)))
      · split at he
        · rcases Params.mem_put he with h | rfl
          · exact .inl (hdrop' h)
          · exact .inr (.inr (.inr (.inl htype)))
        · exact .inl (hdrop' he)
  · exact .inl he

/-- The parameters a property is written with are its own and some of
`addedNames`. -/
theorem mem_prepareParams_added {c : Codec} {prop : Property} {self : Option Nat} {v : Version}
    {card : Option Card} {e : String × String} (he : e ∈ (c.prepareParams prop self v card).entries) :
    e ∈ prop.params.entries ∨ e.1 ∈ addedNames := by
  unfold Codec.prepareParams at he
  rcases mem_prepareOwn_added he with h | h | h | h | h
  · split at h
    · rcases mem_preferenceFor h with h | rfl | rfl
      · exact .inl h
      · exact .inr (by decide)
      · exact .inr (by decide)
    · exact .inl h
  all_goals exact .inr (by rw [h]; decide)

/-- The parameters a property is written with have case-stable names when its
own do. -/
theorem caseStable_prepareParams {c : Codec} {prop : Property} (hp : ∀ e ∈ prop.params.entries, CaseStable e.1)
    (self : Option Nat) (v : Version) (card : Option Card) :
    ∀ e ∈ ((c.prepareParams prop self v card).erase "VALUE").entries, CaseStable e.1 := by
  intro e he
  rcases mem_prepareParams_added (Params.mem_erase he).1 with h | h
  · exact hp e h
  · exact caseStable_addedNames _ h

end Codec

end VCard
