import VCard.ContentLine.Grammar
import VCard.ContentLine.Fold
/-! Written content lines parse back.

The writer puts a parameter on a line as `;NAME=v1,v2,…`, each value quoted when
it holds `,`, `;` or `:` (`WrittenParam.chars`). The reader is a backtracking
parser: `paramsThen` tries the parameters, `valuesThen` the values, and
`valueEnds` every place a value may end, longest first. `parse_written` says
that on a written line the first reading that succeeds is the written one: the
group, the name, the parameter text and the value come back as written, and
`scanParams_written` that the parameter scan gives each name back with its
values. Both ask of each parameter only what the writer guarantees
(`WrittenParam.Valid`): a name of name characters and values that are not empty
and hold no double quote.

Every reader lemma is stated for the written text followed by any rest on which
the reading goes on, and proved by induction on the written items, with the fuel
bounded by their number. -/
namespace VCard.ContentLine

/-- Whether a parameter value is written between double quotes. -/
def needsQuotes (e : List Char) : Bool := e.any fun c => c == ',' || c == ';' || c == ':'

/-- The characters of a parameter value as written: quoted when needed. -/
def quoted (e : List Char) : List Char := if needsQuotes e then '"' :: e ++ ['"'] else e

theorem quoteParamValue_toList (s : String) : (quoteParamValue s).toList = quoted s.toList := by
  unfold quoteParamValue quoted needsQuotes
  split <;> simp [String.toList_append]

/-- What a parameter value may be once encoded: not empty, and without double quotes. -/
structure Quotable (e : List Char) : Prop where
  ne_nil : e ≠ []
  no_dquote : '"' ∉ e

/-- Where a parameter value may end: nothing follows, or a character no plain
value holds. -/
def EndsValue (rest : List Char) : Prop := ∀ c r, rest = c :: r → isSafeChar c = false

theorem takeWhile_safe_of_endsValue {rest : List Char} (h : EndsValue rest) :
    rest.takeWhile isSafeChar = [] := by
  cases rest with
  | nil => rfl
  | cons c r => simp [h c r rfl]

theorem dropWhile_safe_of_endsValue {rest : List Char} (h : EndsValue rest) :
    rest.dropWhile isSafeChar = rest := by
  cases rest with
  | nil => rfl
  | cons c r => simp [h c r rfl]

/-- A plain value holds only safe characters. -/
theorem safe_of_plain {e : List Char} (he : Quotable e) (hq : needsQuotes e = false) :
    ∀ c ∈ e, isSafeChar c = true := by
  intro c hc
  have hd : c ≠ '"' := fun h => he.no_dquote (h ▸ hc)
  simp only [needsQuotes, List.any_eq_false] at hq
  have := hq c hc
  simp only [isSafeChar]
  simp_all

theorem dropWhile_ne_dquote {e : List Char} (he : Quotable e) (rest : List Char) :
    (e ++ '"' :: rest).dropWhile (· != '"') = '"' :: rest := by
  rw [List.dropWhile_append_of_pos]
  · simp
  · intro c hc
    have : c ≠ '"' := fun h => he.no_dquote (h ▸ hc)
    simpa using this

theorem takeWhile_ne_dquote {e : List Char} (he : Quotable e) (rest : List Char) :
    (e ++ '"' :: rest).takeWhile (· != '"') = e := by
  rw [List.takeWhile_append_of_pos]
  · simp
  · intro c hc
    have : c ≠ '"' := fun h => he.no_dquote (h ▸ hc)
    simpa using this

/-- The reader tries first to end a written value exactly where it was written. -/
theorem valueEnds_quoted {e : List Char} (he : Quotable e) {rest : List Char} (hr : EndsValue rest) :
    (valueEnds (quoted e ++ rest)).head? = some rest := by
  unfold quoted
  cases hq : needsQuotes e
  · obtain ⟨c, e', rfl⟩ := List.exists_cons_of_ne_nil he.ne_nil
    have hs := safe_of_plain he hq
    have hc : c ≠ '"' := fun h => he.no_dquote (h ▸ List.mem_cons_self)
    have hrun : ((c :: e' ++ rest).takeWhile isSafeChar).length = e'.length + 1 := by
      rw [List.takeWhile_append_of_pos hs, takeWhile_safe_of_endsValue hr]
      simp
    simp only [valueEnds, Bool.false_eq_true, if_false, hrun]
    rw [List.range_succ, List.reverse_append]
    simp [hc]
  · simp [valueEnds, dropWhile_ne_dquote he]

theorem findSome?_of_head? {α β : Type} {l : List α} {a : α} {f : α → Option β} {b : β}
    (hl : l.head? = some a) (hf : f a = some b) : l.findSome? f = some b := by
  cases l with
  | nil => simp at hl
  | cons x xs =>
    simp only [List.head?_cons, Option.some.injEq] at hl
    subst hl
    simp [hf]

/-! ### Reading a written line: the backtracking reader -/

/-- Where the values of a parameter end on a written line: before the next
parameter or before the value. -/
def EndsParam (rest : List Char) : Prop := rest.head? = some ';' ∨ rest.head? = some ':'

theorem EndsParam.endsValue {rest : List Char} (h : EndsParam rest) : EndsValue rest := by
  intro c r hr
  subst hr
  rcases h with h | h <;> simp at h <;> simp [h, isSafeChar]

theorem valuesThen_endsParam {β : Type} (k : List Char → Option β) (fuel : Nat) {rest : List Char}
    (hr : EndsParam rest) : valuesThen k fuel rest = k rest := by
  cases fuel with
  | zero => rfl
  | succ fuel =>
    obtain ⟨c, r, rfl⟩ : ∃ c r, rest = c :: r := by
      cases rest with
      | nil => rcases hr with h | h <;> simp at h
      | cons c r => exact ⟨c, r, rfl⟩
    have hc : (c == '=' || c == ',') = false := by
      rcases hr with h | h <;> simp at h <;> simp [h]
    simp [valuesThen, hc]

/-- The values of a parameter as written: a separator (`=` first, `,` after),
then each value, quoted when needed. -/
def valuesChars (sep : Char) (e : List Char) (es : List (List Char)) : List Char :=
  sep :: quoted e ++ es.flatMap fun x => ',' :: quoted x

/-- Reading the written values of a parameter reaches the end of the last one,
where the reading goes on. -/
theorem valuesThen_valuesChars {β : Type} (k : List Char → Option β) {rest : List Char} {b : β}
    (hr : EndsParam rest) (hk : k rest = some b) (es : List (List Char)) (hes : ∀ x ∈ es, Quotable x) :
    ∀ (sep : Char) (e : List Char) (fuel : Nat), (sep = '=' ∨ sep = ',') → Quotable e → es.length < fuel →
      valuesThen k fuel (valuesChars sep e es ++ rest) = some b := by
  induction es with
  | nil =>
    intro sep e fuel hsep he hf
    obtain ⟨fuel, rfl⟩ : ∃ f, fuel = f + 1 := Nat.exists_eq_add_one.mpr (by simp at hf; omega)
    have hsep' : (sep == '=' || sep == ',') = true := by rcases hsep with rfl | rfl <;> rfl
    have hmore : (valueEnds (quoted e ++ rest)).findSome? (valuesThen k fuel) = some b :=
      findSome?_of_head? (valueEnds_quoted he hr.endsValue) (by rw [valuesThen_endsParam k fuel hr, hk])
    simp [valuesChars, valuesThen, hsep', hmore]
  | cons x xs ih =>
    intro sep e fuel hsep he hf
    obtain ⟨fuel, rfl⟩ : ∃ f, fuel = f + 1 := Nat.exists_eq_add_one.mpr (by simp at hf; omega)
    have hsep' : (sep == '=' || sep == ',') = true := by rcases hsep with rfl | rfl <;> rfl
    have hnext := ih (fun y hy => hes y (List.mem_cons_of_mem _ hy)) ',' x fuel (.inr rfl)
      (hes x List.mem_cons_self) (by simp at hf; omega)
    have hend : EndsValue (valuesChars ',' x xs ++ rest) := by
      intro c r h
      simp only [valuesChars, List.cons_append] at h
      simp [← (List.cons.inj h).1, isSafeChar]
    have hmore : (valueEnds (quoted e ++ (valuesChars ',' x xs ++ rest))).findSome? (valuesThen k fuel) =
        some b := findSome?_of_head? (valueEnds_quoted he hend) hnext
    have hsplit : valuesChars sep e (x :: xs) ++ rest = sep :: (quoted e ++ (valuesChars ',' x xs ++ rest)) := by
      simp [valuesChars]
    rw [hsplit]
    simp [valuesThen, hsep', hmore]

/-- A parameter as written on a line: its name, its first value and the values
after it, each encoded. -/
structure WrittenParam where
  name : List Char
  first : List Char
  more : List (List Char)

namespace WrittenParam

/-- The characters of a written parameter: `;`, the name, `=` and the values
separated by commas. -/
def chars (p : WrittenParam) : List Char := ';' :: p.name ++ valuesChars '=' p.first p.more

/-- What the writer guarantees of a parameter: a name of name characters and
values that can stand in quotes. -/
structure Valid (p : WrittenParam) : Prop where
  name_ne : p.name ≠ []
  name_chars : ∀ c ∈ p.name, isNameChar c = true
  first : Quotable p.first
  more : ∀ x ∈ p.more, Quotable x

/-- A written parameter as the parameter scan gives it back. -/
def read (p : WrittenParam) : String × List String := (String.ofList p.name, (p.first :: p.more).map String.ofList)

end WrittenParam

theorem takeWhile_name_valuesChars {n : List Char} (hn : ∀ c ∈ n, isNameChar c = true)
    (e : List Char) (es : List (List Char)) (rest : List Char) :
    (n ++ valuesChars '=' e es ++ rest).takeWhile isNameChar = n := by
  rw [List.append_assoc, List.takeWhile_append_of_pos hn]
  simp [valuesChars, isNameChar]

theorem length_le_valuesChars (sep : Char) (e : List Char) (es : List (List Char)) :
    es.length ≤ (valuesChars sep e es).length := by
  induction es with
  | nil => simp [valuesChars]
  | cons x xs ih =>
    simp only [valuesChars, List.length_cons, List.length_append, List.flatMap_cons] at ih ⊢
    omega

theorem endsParam_params {ps : List WrittenParam} {rest : List Char} (hr : rest.head? = some ':') :
    EndsParam (ps.flatMap WrittenParam.chars ++ rest) := by
  cases ps with
  | nil => exact .inr (by simpa using hr)
  | cons p ps => exact .inl (by simp [WrittenParam.chars])

/-- Reading written parameters reaches the colon after the last one, where the
reading goes on. -/
theorem paramsStarThen_written {β : Type} (k : List Char → Option β) {rest : List Char} {b : β}
    (hr : rest.head? = some ':') (hk : k rest = some b) (ps : List WrittenParam)
    (hps : ∀ p ∈ ps, p.Valid) (fuel : Nat) (hf : ps.length ≤ fuel) :
    paramsStarThen k fuel (ps.flatMap WrittenParam.chars ++ rest) = some b := by
  induction ps generalizing fuel with
  | nil =>
    cases fuel with
    | zero => exact hk
    | succ fuel =>
      obtain ⟨r, rfl⟩ := List.head?_eq_some_iff.mp hr
      simpa [paramsStarThen] using hk
  | cons p ps ih =>
    obtain ⟨fuel, rfl⟩ : ∃ f, fuel = f + 1 := Nat.exists_eq_add_one.mpr (by simp at hf; omega)
    have hp := hps p List.mem_cons_self
    have hnext := ih (fun q hq => hps q (List.mem_cons_of_mem _ hq)) fuel (by simp at hf; omega)
    have hvalues := valuesThen_valuesChars (paramsStarThen k fuel) (endsParam_params hr) hnext p.more
      hp.more '=' p.first ((p.name ++ valuesChars '=' p.first p.more ++
        (ps.flatMap WrittenParam.chars ++ rest)).length + 1) (.inl rfl) hp.first (by
          have := length_le_valuesChars '=' p.first p.more
          simp only [List.length_append]
          omega)
    have hname := takeWhile_name_valuesChars hp.name_chars p.first p.more (ps.flatMap WrittenParam.chars ++ rest)
    have hne : p.name.isEmpty = false := by simpa using hp.name_ne
    simp only [List.flatMap_cons, WrittenParam.chars, List.cons_append, List.append_assoc] at hname hvalues ⊢
    simp only [paramsStarThen, hname, hne, Bool.false_eq_true, if_false, List.drop_left, hvalues]
    rfl

theorem length_le_flatMap_chars (ps : List WrittenParam) : ps.length ≤ (ps.flatMap WrittenParam.chars).length := by
  induction ps with
  | nil => simp
  | cons p ps ih =>
    simp only [List.flatMap_cons, List.length_append, List.length_cons, WrittenParam.chars] at ih ⊢
    omega

theorem paramsStarThen_name_start {β : Type} (k : List Char → Option β)
    (hk0 : ∀ c r, isNameChar c = true → k (c :: r) = none) {c : Char} (hc : isNameChar c = true)
    (r : List Char) (fuel : Nat) : paramsStarThen k fuel (c :: r) = none := by
  have hsemi : c ≠ ';' := by rintro rfl; simp [isNameChar] at hc
  cases fuel with
  | zero => exact hk0 c r hc
  | succ fuel => simp [paramsStarThen, hsemi, hk0 c r hc]

/-- The parameter part of a written line is read whole: a leading `;` is never
taken for a stray one. -/
theorem paramsThen_written {β : Type} (k : List Char → Option β)
    (hk0 : ∀ c r, isNameChar c = true → k (c :: r) = none) {rest : List Char} {b : β}
    (hr : rest.head? = some ':') (hk : k rest = some b) (ps : List WrittenParam)
    (hps : ∀ p ∈ ps, p.Valid) : paramsThen k (ps.flatMap WrittenParam.chars ++ rest) = some b := by
  have hmain := paramsStarThen_written k hr hk ps hps ((ps.flatMap WrittenParam.chars ++ rest).length + 1)
    (by have := length_le_flatMap_chars ps; simp only [List.length_append]; omega)
  cases ps with
  | nil =>
    obtain ⟨r, rfl⟩ := List.head?_eq_some_iff.mp hr
    simp only [List.flatMap_nil, List.nil_append] at hmain ⊢
    simp only [paramsThen, hmain]
    rfl
  | cons p ps =>
    have hp := hps p List.mem_cons_self
    obtain ⟨c, n, hn⟩ := List.exists_cons_of_ne_nil hp.name_ne
    have hc : isNameChar c = true := hp.name_chars c (by simp [hn])
    have hsplit : (p :: ps).flatMap WrittenParam.chars ++ rest =
        ';' :: c :: (n ++ valuesChars '=' p.first p.more ++ (ps.flatMap WrittenParam.chars ++ rest)) := by
      simp [WrittenParam.chars, hn]
    rw [hsplit] at hmain ⊢
    simp only [paramsThen, paramsStarThen_name_start k hk0 hc, hmain]
    rfl

/-- The head of a written line: the group and a dot when there is one, then the name. -/
def headChars : Option (List Char) → List Char → List Char
  | some g, n => g ++ '.' :: n
  | none, n => n

theorem exists_param_start (ps : List WrittenParam) (v : List Char) :
    ∃ c r, ps.flatMap WrittenParam.chars ++ ':' :: v = c :: r ∧ (c = ';' ∨ c = ':') := by
  cases ps with
  | nil => exact ⟨':', v, rfl, .inr rfl⟩
  | cons p ps =>
    exact ⟨';', p.name ++ (valuesChars '=' p.first p.more ++ (ps.flatMap WrittenParam.chars ++ ':' :: v)),
      by simp [WrittenParam.chars], .inl rfl⟩

theorem takeWhile_name_param_start {n : List Char} (hn : ∀ c ∈ n, isNameChar c = true) {c : Char}
    (hc : c = ';' ∨ c = ':' ∨ c = '.') (r : List Char) : (n ++ c :: r).takeWhile isNameChar = n := by
  rw [List.takeWhile_append_of_pos hn]
  rcases hc with rfl | rfl | rfl <;> simp [isNameChar]

/-- **A written line reads back**: its group, its name, the written parameter
text and its value. -/
theorem parse_written (g : Option (List Char)) (n : List Char) (ps : List WrittenParam) (v : List Char)
    (hg : ∀ x ∈ g, x ≠ [] ∧ ∀ c ∈ x, isNameChar c = true)
    (hn : n ≠ []) (hnc : ∀ c ∈ n, isNameChar c = true ∧ c ≠ '_') (hps : ∀ p ∈ ps, p.Valid) :
    parse (String.ofList (headChars g n ++ (ps.flatMap WrittenParam.chars ++ ':' :: v))) =
      some { group := g.map String.ofList, name := String.ofList n,
             params := scanParams ((ps.flatMap WrittenParam.chars).length + 1) (ps.flatMap WrittenParam.chars),
             value := String.ofList v } := by
  have hnames : ∀ c ∈ n, isNameChar c = true := fun c hc => (hnc c hc).1
  have hmap : n.map (fun c => if c = '_' then '-' else c) = n := by
    conv => rhs; rw [← List.map_id n]
    apply List.map_congr_left
    intro c hc
    simp [(hnc c hc).2]
  obtain ⟨c, r, hcr, hc⟩ := exists_param_start ps v
  have hne : n.isEmpty = false := by simpa using hn
  have hlen : r.length + 1 - v.length - 1 = (ps.flatMap WrittenParam.chars).length := by
    have := congrArg List.length hcr
    simp only [List.length_append, List.length_cons] at this
    omega
  have htake : (c :: r).take (r.length + 1 - v.length - 1) = ps.flatMap WrittenParam.chars := by
    rw [hlen, ← hcr, List.take_left]
  have hmin : min (r.length + 1 - v.length - 1) (r.length + 1) = (ps.flatMap WrittenParam.chars).length := by
    omega
  cases g with
  | none =>
    have hfirst := takeWhile_name_param_start hnames (c := c) (by rcases hc with h | h <;> simp [h]) r
    simp only [headChars, hcr]
    rcases hc with rfl | rfl
    all_goals
      simp [parse, hfirst, hne]
      rw [← hcr, paramsThen_written _ ?_ (b := v) (show (':' :: v).head? = some ':' from rfl) ?_ ps hps, hcr]
      · simp [hmap, htake, hmin]
      · intro d r hd
        have : d ≠ ':' := by rintro rfl; simp [isNameChar] at hd
        simp [this]
      · rfl
  | some x =>
    obtain ⟨hx, hxc⟩ := hg x rfl
    have hxne : x.isEmpty = false := by simpa using hx
    have hfirst : (x ++ '.' :: (n ++ c :: r)).takeWhile isNameChar = x :=
      takeWhile_name_param_start hxc (by simp) _
    have hsecond := takeWhile_name_param_start hnames (c := c) (by rcases hc with h | h <;> simp [h]) r
    simp only [headChars, hcr, List.append_assoc, List.cons_append]
    rcases hc with rfl | rfl
    all_goals
      simp [parse, hfirst, hxne, hsecond, hne]
      rw [← hcr, paramsThen_written _ ?_ (b := v) (show (':' :: v).head? = some ':' from rfl) ?_ ps hps, hcr]
      · simp [hmap, htake, hmin]
      · intro d r hd
        have : d ≠ ':' := by rintro rfl; simp [isNameChar] at hd
        simp [this]
      · rfl

/-! ### Reading a written line: the parameter scan -/

theorem quoted_ne_nil {e : List Char} (he : Quotable e) : quoted e ≠ [] := by
  unfold quoted
  split
  · simp
  · exact he.ne_nil

theorem scanValue_quoted {e : List Char} (he : Quotable e) {rest : List Char} (hr : EndsValue rest) :
    scanValue (quoted e ++ rest) = (quoted e, rest) := by
  unfold quoted
  cases hq : needsQuotes e
  · obtain ⟨c, e', rfl⟩ := List.exists_cons_of_ne_nil he.ne_nil
    have hs := safe_of_plain he hq
    have hc : c ≠ '"' := fun h => he.no_dquote (h ▸ List.mem_cons_self)
    simp only [Bool.false_eq_true, if_false, List.cons_append, scanValue]
    rw [← List.cons_append, List.takeWhile_append_of_pos hs, List.dropWhile_append_of_pos hs,
      takeWhile_safe_of_endsValue hr, dropWhile_safe_of_endsValue hr, List.append_nil]
    simp [hc]
  · have hlen : ('"' :: (e ++ '"' :: rest)).length - rest.length = ('"' :: (e ++ ['"'])).length := by
      simp
      omega
    simp only [if_true, List.cons_append, List.nil_append, List.append_assoc, scanValue, dropWhile_ne_dquote he]
    have hsplit : '"' :: (e ++ '"' :: rest) = ('"' :: (e ++ ['"'])) ++ rest := by simp
    rw [hlen, hsplit, List.take_left]

/-- The values of a parameter after its `=`, separated by commas. -/
def itemsChars (e : List Char) (es : List (List Char)) : List Char :=
  quoted e ++ es.flatMap fun x => ',' :: quoted x

theorem valuesChars_eq (sep : Char) (e : List Char) (es : List (List Char)) :
    valuesChars sep e es = sep :: itemsChars e es := rfl

theorem scanValues_itemsChars {rest : List Char} (hr : rest = [] ∨ rest.head? = some ';')
    (es : List (List Char)) (hes : ∀ x ∈ es, Quotable x) :
    ∀ (e : List Char) (fuel : Nat), Quotable e → es.length < fuel →
      scanValues fuel (itemsChars e es ++ rest) = (itemsChars e es, rest) := by
  have hend : EndsValue rest := by
    intro c r h
    subst h
    rcases hr with h | h
    · simp at h
    · simp at h; simp [h, isSafeChar]
  induction es with
  | nil =>
    intro e fuel he hf
    obtain ⟨fuel, rfl⟩ : ∃ f, fuel = f + 1 := Nat.exists_eq_add_one.mpr (by simp at hf; omega)
    simp only [itemsChars, List.flatMap_nil, List.append_nil, scanValues, scanValue_quoted he hend]
    rcases hr with rfl | h
    · rfl
    · obtain ⟨r, rfl⟩ := List.head?_eq_some_iff.mp h
      rfl
  | cons x xs ih =>
    intro e fuel he hf
    obtain ⟨fuel, rfl⟩ : ∃ f, fuel = f + 1 := Nat.exists_eq_add_one.mpr (by simp at hf; omega)
    have hx := hes x List.mem_cons_self
    have hnext := ih (fun y hy => hes y (List.mem_cons_of_mem _ hy)) x fuel hx (by simp at hf; omega)
    have hcomma : EndsValue (',' :: (itemsChars x xs ++ rest)) := by
      intro c r h
      simp [← (List.cons.inj h).1, isSafeChar]
    have hsplit : itemsChars e (x :: xs) ++ rest = quoted e ++ (',' :: (itemsChars x xs ++ rest)) := by
      simp [itemsChars]
    rw [hsplit]
    simp only [scanValues, scanValue_quoted he hcomma, hnext]
    simp [itemsChars]

theorem splitValues_nil (fuel : Nat) : splitValues fuel [] = [] := by
  cases fuel <;> rfl

theorem splitValues_comma (fuel : Nat) (t : List Char) : splitValues (fuel + 1) (',' :: t) = splitValues fuel t := by
  simp [splitValues, isSafeChar]

theorem splitValues_quoted {e : List Char} (he : Quotable e) {tail : List Char} (ht : EndsValue tail)
    (fuel : Nat) : splitValues (fuel + 1) (quoted e ++ tail) = String.ofList e :: splitValues fuel tail := by
  unfold quoted
  cases hq : needsQuotes e
  · obtain ⟨c, e', rfl⟩ := List.exists_cons_of_ne_nil he.ne_nil
    have hs := safe_of_plain he hq
    have hc : c ≠ '"' := fun h => he.no_dquote (h ▸ List.mem_cons_self)
    have hcs : isSafeChar c = true := hs c List.mem_cons_self
    have hs' : ∀ d ∈ e', isSafeChar d = true := fun d hd => hs d (List.mem_cons_of_mem _ hd)
    simp only [Bool.false_eq_true, if_false, List.cons_append, splitValues, beq_iff_eq, hc, hcs, if_true]
    rw [← List.cons_append, List.takeWhile_append_of_pos hs, List.dropWhile_append_of_pos hs',
      takeWhile_safe_of_endsValue ht, dropWhile_safe_of_endsValue ht, List.append_nil]
  · simp only [if_true, List.cons_append, List.nil_append, List.append_assoc, splitValues,
      dropWhile_ne_dquote he, takeWhile_ne_dquote he]
    rfl

theorem length_quoted {e : List Char} (he : Quotable e) : 1 ≤ (quoted e).length := by
  have := quoted_ne_nil he
  cases h : quoted e with
  | nil => exact absurd h this
  | cons c r => simp

theorem length_itemsChars {e : List Char} (he : Quotable e) (es : List (List Char))
    (hes : ∀ x ∈ es, Quotable x) : 2 * es.length + 1 ≤ (itemsChars e es).length := by
  induction es generalizing e with
  | nil => simpa [itemsChars] using length_quoted he
  | cons x xs ih =>
    have hx := hes x List.mem_cons_self
    have hrest := ih hx (fun y hy => hes y (List.mem_cons_of_mem _ hy))
    have hfirst := length_quoted he
    simp only [itemsChars, List.flatMap_cons, List.length_append, List.length_cons,
      List.length_flatMap] at hrest ⊢
    omega

/-- Splitting the written values gives the encoded values back. -/
theorem splitValues_itemsChars (es : List (List Char)) (hes : ∀ x ∈ es, Quotable x) :
    ∀ (e : List Char) (fuel : Nat), Quotable e → 2 * es.length < fuel →
      splitValues fuel (itemsChars e es) = (e :: es).map String.ofList := by
  induction es with
  | nil =>
    intro e fuel he hf
    obtain ⟨fuel, rfl⟩ : ∃ f, fuel = f + 1 := Nat.exists_eq_add_one.mpr (by simp at hf; omega)
    have := splitValues_quoted he (show EndsValue [] by intro c r h; simp at h) fuel
    simpa [itemsChars, splitValues_nil] using this
  | cons x xs ih =>
    intro e fuel he hf
    obtain ⟨fuel, rfl⟩ : ∃ f, fuel = f + 1 := Nat.exists_eq_add_one.mpr (by simp at hf; omega)
    obtain ⟨fuel, rfl⟩ : ∃ f, fuel = f + 1 := Nat.exists_eq_add_one.mpr (by simp at hf; omega)
    have hx := hes x List.mem_cons_self
    have hcomma : EndsValue (',' :: itemsChars x xs) := by
      intro c r h
      simp [← (List.cons.inj h).1, isSafeChar]
    have hsplit : itemsChars e (x :: xs) = quoted e ++ (',' :: itemsChars x xs) := by
      simp [itemsChars]
    rw [hsplit, splitValues_quoted he hcomma, splitValues_comma,
      ih (fun y hy => hes y (List.mem_cons_of_mem _ hy)) x fuel hx (by simp at hf; omega)]
    simp

/-- **The parameter scan reads the written parameters back**: each name with its
encoded values. -/
theorem scanParams_written (ps : List WrittenParam) (hps : ∀ p ∈ ps, p.Valid) (fuel : Nat)
    (hf : ps.length ≤ fuel) :
    scanParams fuel (ps.flatMap WrittenParam.chars) = ps.map WrittenParam.read := by
  induction ps generalizing fuel with
  | nil => cases fuel <;> rfl
  | cons p ps ih =>
    obtain ⟨fuel, rfl⟩ : ∃ f, fuel = f + 1 := Nat.exists_eq_add_one.mpr (by simp at hf; omega)
    have hp := hps p List.mem_cons_self
    have hrest : ps.flatMap WrittenParam.chars = [] ∨ (ps.flatMap WrittenParam.chars).head? = some ';' := by
      cases ps with
      | nil => exact .inl rfl
      | cons q qs => exact .inr (by simp [WrittenParam.chars])
    have hscan := scanValues_itemsChars hrest p.more hp.more p.first
      ((itemsChars p.first p.more ++ ps.flatMap WrittenParam.chars).length + 1) hp.first (by
        have := length_itemsChars hp.first p.more hp.more
        simp only [List.length_append]
        omega)
    have hsplit := splitValues_itemsChars p.more hp.more p.first
      ((itemsChars p.first p.more).length + 1) hp.first (by
        have := length_itemsChars hp.first p.more hp.more
        omega)
    have hname := takeWhile_name_valuesChars hp.name_chars p.first p.more (ps.flatMap WrittenParam.chars)
    have hne : p.name.isEmpty = false := by simpa using hp.name_ne
    simp only [valuesChars_eq, List.cons_append, List.append_assoc] at hname
    simp only [List.flatMap_cons, WrittenParam.chars, valuesChars_eq, List.cons_append, List.append_assoc,
      scanParams, beq_self_eq_true, if_true, hname, hne, Bool.false_eq_true, if_false, List.drop_left, hscan, hsplit,
      ih (fun q hq => hps q (List.mem_cons_of_mem _ hq)) fuel (by simp at hf; omega), List.map_cons,
      WrittenParam.read]

end VCard.ContentLine
