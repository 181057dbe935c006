import VCard.Json.Write
import VCard.Json.Read
import Mathlib.Tactic.SplitIfs
/-! Reading back written JSON text.

Compact JSON text reads back as the value it was written from, for every value
built from strings, arrays and objects whose keys are distinct (`Textual`),
which is all that jCard writing produces. Three facts carry it: every escape the
writer makes in a string reads back as the character it stands for, the writer
puts no blank where the reader would skip one, and members of distinct keys are
kept in order by the reader's `insertMember`.

Main statement: `parse_compact`. -/
namespace VCard.Json

/-- Values built from strings, arrays and objects with distinct keys. -/
inductive Textual : Value → Prop
  | str (s : String) : Textual (.str s)
  | arr {items : List Value} (h : ∀ v ∈ items, Textual v) : Textual (.arr items)
  | obj {fields : List (String × Value)} (keys : (fields.map Prod.fst).Nodup)
      (h : ∀ f ∈ fields, Textual f.2) : Textual (.obj fields)

/-! ### Strings -/

/-- The escaped characters of a string, between its quotes. -/
def escaped (cs : List Char) : List Char := cs.flatMap escapeChar

theorem quoteString_toList (s : String) :
    (quoteString s).toList = '"' :: escaped s.toList ++ ['"'] := by
  simp [quoteString, escaped]

theorem escapeChar_ne_nil (c : Char) : escapeChar c ≠ [] := by
  unfold escapeChar
  split_ifs <;> simp

theorem length_le_escaped (cs : List Char) : cs.length ≤ (escaped cs).length := by
  induction cs with
  | nil => simp [escaped]
  | cons c cs ih =>
    have := List.length_pos_iff.mpr (escapeChar_ne_nil c)
    simp only [escaped, List.flatMap_cons, List.length_append, List.length_cons] at ih ⊢
    omega

/-- The four hex digits of a control character's `\u` escape read back as it. -/
theorem hex4_hexPadded {n : Nat} (h : n < 0x20) :
    hex4? (Text.hexPadded 4 n) = some n ∧ (Text.hexPadded 4 n).length = 4 := by
  revert n
  decide

section Go
variable (begin : Nat)

/-- One escaped character reads back as itself; the string goes on after it. -/
theorem go_escapeChar (c : Char) (more : List Char) (hm : more ≠ []) (fuel pos : Nat) (acc : List Char) :
    readString.go begin (fuel + 1) ⟨escapeChar c ++ more, pos⟩ acc =
      readString.go begin fuel ⟨more, pos + (escapeChar c).length⟩ (c :: acc) := by
  unfold escapeChar
  split_ifs with h1 h2 h3 h4 h5 h6 h7 h8
  · simp only [beq_iff_eq] at h1
    subst h1
    simp [readString.go, Cursor.advance]
  · simp only [beq_iff_eq] at h2
    subst h2
    simp [readString.go, Cursor.advance]
  · simp only [beq_iff_eq] at h3
    subst h3
    simp [readString.go, Cursor.advance]
  · simp only [beq_iff_eq] at h4
    subst h4
    simp [readString.go, Cursor.advance]
  · simp only [beq_iff_eq] at h5
    subst h5
    simp [readString.go, Cursor.advance]
  · simp only [beq_iff_eq] at h6
    have hc : Char.ofNat 8 = c := by rw [← h6, Char.ofNat_toNat]
    simp [readString.go, Cursor.advance]
    rw [hc]
  · simp only [beq_iff_eq] at h7
    have hc : Char.ofNat 12 = c := by rw [← h7, Char.ofNat_toNat]
    simp [readString.go, Cursor.advance]
    rw [hc]
  · obtain ⟨hhex, hlen⟩ := hex4_hexPadded h8
    have hmore : 0 < more.length := List.length_pos_iff.mpr hm
    have hcode : codeChar c.toNat = c := by
      unfold codeChar
      rw [if_neg (by simp; omega)]
      exact Char.ofNat_toNat c
    simp [readString.go, Cursor.advance, hlen, hhex, hcode, List.take_left', List.drop_left',
      show ¬ 0xD800 ≤ c.toNat by omega, show ¬ (4 + more.length ≤ 4) by omega]
  · have hctl : ¬ c.toNat < 0x20 := h8
    have hq : c ≠ '"' := by simpa using h1
    have hb : c ≠ '\\' := by simpa using h2
    -- with `hq` and `hb` in context, only the last case of the reader's match applies
    simp [readString.go, Cursor.advance, hctl]

/-- The escaped characters of a string and its closing quote read back as the
string, with the cursor after the quote. -/
theorem go_escaped (cs rest : List Char) (fuel pos : Nat) (acc : List Char) (hf : cs.length < fuel) :
    readString.go begin fuel ⟨escaped cs ++ '"' :: rest, pos⟩ acc =
      .ok (String.ofList (acc.reverse ++ cs), ⟨rest, pos + (escaped cs).length + 1⟩) := by
  induction cs generalizing fuel pos acc with
  | nil =>
    obtain ⟨f, rfl⟩ := Nat.exists_eq_succ_of_ne_zero (Nat.pos_iff_ne_zero.mp hf)
    simp [readString.go, escaped, Cursor.advance]
  | cons c cs ih =>
    obtain ⟨f, rfl⟩ := Nat.exists_eq_succ_of_ne_zero (Nat.pos_iff_ne_zero.mp (Nat.zero_lt_of_lt hf))
    have hstep := go_escapeChar begin c (escaped cs ++ '"' :: rest) (by simp) f pos acc
    simp only [escaped, List.flatMap_cons, List.append_assoc] at hstep ⊢
    rw [hstep]
    have hrest := ih f (pos + (escapeChar c).length) (c :: acc) (by simp at hf; omega)
    simp only [escaped] at hrest
    rw [hrest]
    simp [List.length_append]
    omega

end Go

/-- A quoted string reads back as itself. -/
theorem readString_escaped (s : String) (rest : List Char) (begin pos : Nat) :
    readString begin ⟨escaped s.toList ++ '"' :: rest, pos⟩ =
      .ok (s, ⟨rest, pos + (escaped s.toList).length + 1⟩) := by
  have hlen := length_le_escaped s.toList
  have := go_escaped begin s.toList rest ((escaped s.toList ++ '"' :: rest).length) pos []
    (by simp; omega)
  simpa [readString] using this

/-! ### Values -/

theorem skipBlanks_of_not_blank (c : Char) (h : isJsonBlank c = false) (rest : List Char) (pos : Nat) :
    Cursor.skipBlanks ⟨c :: rest, pos⟩ = ⟨c :: rest, pos⟩ := by
  simp [Cursor.skipBlanks, h]

theorem compactItems_eq (items : List Value) : compactItems items = items.map compact := by
  induction items with
  | nil => rfl
  | cons v rest ih => simp [compactItems, ih]

/-- The text of an object member: its quoted key, a colon and its value. -/
def memberText (f : String × Value) : String := quoteString f.1 ++ ":" ++ compact f.2

theorem compactFields_eq (fields : List (String × Value)) :
    compactFields fields = fields.map memberText := by
  induction fields with
  | nil => rfl
  | cons f rest ih => simp [compactFields, memberText, ih]

theorem compact_arr (items : List Value) :
    (compact (.arr items)).toList = '[' :: (",".intercalate (items.map compact)).toList ++ [']'] := by
  simp [compact, compactItems_eq]

theorem compact_obj (fields : List (String × Value)) :
    (compact (.obj fields)).toList = '{' :: (",".intercalate (fields.map memberText)).toList ++ ['}'] := by
  simp [compact, compactFields_eq]

/-- The compact text of a textual value opens with a quote or a bracket. -/
theorem compact_head {v : Value} (hv : Textual v) :
    ∃ c r, (compact v).toList = c :: r ∧ (c = '"' ∨ c = '[' ∨ c = '{') := by
  cases hv with
  | str s => exact ⟨'"', escaped s.toList ++ ['"'], by simp [compact, scalarText, quoteString_toList], .inl rfl⟩
  | arr => exact ⟨_, _, compact_arr _, .inr (.inl rfl)⟩
  | obj => exact ⟨_, _, compact_obj _, .inr (.inr rfl)⟩

/-- Compact text opens with no blank, so the reader skips none before it. -/
theorem skipBlanks_compact {v : Value} (hv : Textual v) (rest : List Char) (pos : Nat) :
    Cursor.skipBlanks ⟨(compact v).toList ++ rest, pos⟩ = ⟨(compact v).toList ++ rest, pos⟩ := by
  obtain ⟨c, r, hcr, hc⟩ := compact_head hv
  rw [hcr, List.cons_append]
  exact skipBlanks_of_not_blank c (by rcases hc with rfl | rfl | rfl <;> decide) _ _

/-- A member of a new key is added in front of the members read so far. -/
theorem insertMember_fresh {acc : List (String × Value)} {k : String} (h : k ∉ acc.map Prod.fst)
    (v : Value) : insertMember acc k v = (k, v) :: acc := by
  have : acc.any (·.1 == k) = false := by
    simpa using fun a b hab => fun hk => h (List.mem_map.mpr ⟨(a, b), hab, hk⟩)
  simp [insertMember, this]

/-- Reading a textual value at this fuel gives it back, the cursor after its text. -/
def ReadsBack (fuel : Nat) : Prop :=
  ∀ v, Textual v → (compact v).length < fuel → ∀ rest pos,
    readValue fuel ⟨(compact v).toList ++ rest, pos⟩ = .ok (v, ⟨rest, pos + (compact v).length⟩)

/-- Items joined by commas, as characters. -/
theorem intercalate_toList {α : Type} (f : α → String) (x : α) (xs : List α) :
    (",".intercalate ((x :: xs).map f)).toList = (f x).toList ++ xs.flatMap fun y => ',' :: (f y).toList := by
  induction xs generalizing x with
  | nil => simp
  | cons y ys ih =>
    rw [List.map_cons, List.map_cons, String.intercalate_cons_cons, ← List.map_cons, String.toList_append,
      String.toList_append, ih]
    simp

/-- Array items after the opening bracket read back, the cursor after the
closing bracket. -/
theorem readItems_compact {F : Nat} (hval : ∀ m ≤ F, ReadsBack m) (v : Value) (vs : List Value)
    (hv : Textual v) (hvs : ∀ w ∈ vs, Textual w) (acc : List Value) (rest : List Char) (pos : Nat)
    (hf : ((compact v).toList ++ vs.flatMap fun w => ',' :: (compact w).toList).length + 1 < F) :
    readItems F ⟨((compact v).toList ++ vs.flatMap fun w => ',' :: (compact w).toList) ++ ']' :: rest, pos⟩ acc =
      .ok (.arr (acc.reverse ++ v :: vs),
        ⟨rest, pos + ((compact v).toList ++ vs.flatMap fun w => ',' :: (compact w).toList).length + 1⟩) := by
  obtain ⟨f, rfl⟩ : ∃ f, F = f + 1 := ⟨F - 1, by omega⟩
  induction vs generalizing v f acc pos with
  | nil =>
    simp only [List.flatMap_nil, List.append_nil] at hf ⊢
    have hread := hval f (by omega) v hv (by rw [← String.length_toList]; omega) (']' :: rest) pos
    rw [readItems, hread]
    simp only [bind, Except.bind]
    rw [skipBlanks_of_not_blank ']' (by decide)]
    simp [Cursor.advance, String.length_toList]
  | cons w ws ih =>
    simp only [List.flatMap_cons, List.append_assoc, List.cons_append] at hf ⊢
    have hread := hval f (by omega) v hv (by simp only [List.length_append] at hf; rw [← String.length_toList]; omega)
      (',' :: ((compact w).toList ++ ((ws.flatMap fun w => ',' :: (compact w).toList) ++ ']' :: rest))) pos
    obtain ⟨g, rfl⟩ : ∃ g, f = g + 1 := ⟨f - 1, by simp only [List.length_append, List.length_cons] at hf; omega⟩
    have hw := hvs w (by simp)
    have hnext := ih w hw (fun u hu => hvs u (List.mem_cons_of_mem _ hu)) (v :: acc)
      (pos + (compact v).length + 1) g (fun m hm => hval m (by omega))
      (by simp only [List.length_append, List.length_cons] at hf ⊢; omega)
    rw [readItems, hread]
    simp only [bind, Except.bind]
    rw [skipBlanks_of_not_blank ',' (by decide)]
    simp only [Cursor.advance, List.tail_cons, List.drop_one]
    rw [skipBlanks_compact hw, ← List.append_assoc, hnext]
    simp [String.length_toList]
    omega

theorem memberText_toList (f : String × Value) :
    (memberText f).toList = '"' :: escaped f.1.toList ++ '"' :: ':' :: (compact f.2).toList := by
  simp [memberText, quoteString_toList]

theorem skipBlanks_member (g : String × Value) (rest : List Char) (pos : Nat) :
    Cursor.skipBlanks ⟨(memberText g).toList ++ rest, pos⟩ = ⟨(memberText g).toList ++ rest, pos⟩ := by
  rw [memberText_toList, List.cons_append]
  exact skipBlanks_of_not_blank '"' (by decide) _ _

/-- Object members after the opening brace read back in order, the cursor after
the closing brace, when their keys are distinct and new to the members read so
far. -/
theorem readMembers_compact {F : Nat} (hval : ∀ m ≤ F, ReadsBack m) (f : String × Value)
    (fs : List (String × Value)) (hkeys : ((f :: fs).map Prod.fst).Nodup) (htext : ∀ g ∈ f :: fs, Textual g.2)
    (acc : List (String × Value)) (hfresh : ∀ g ∈ f :: fs, g.1 ∉ acc.map Prod.fst) (rest : List Char) (pos : Nat)
    (hf : ((memberText f).toList ++ fs.flatMap fun g => ',' :: (memberText g).toList).length + 1 < F) :
    readMembers F ⟨((memberText f).toList ++ fs.flatMap fun g => ',' :: (memberText g).toList) ++ '}' :: rest, pos⟩
        acc =
      .ok (.obj (acc.reverse ++ f :: fs),
        ⟨rest, pos + ((memberText f).toList ++ fs.flatMap fun g => ',' :: (memberText g).toList).length + 1⟩) := by
  obtain ⟨n, rfl⟩ : ∃ n, F = n + 1 := ⟨F - 1, by omega⟩
  induction fs generalizing f n acc pos with
  | nil =>
    simp only [List.flatMap_nil, List.append_nil] at hf ⊢
    obtain ⟨k, v⟩ := f
    have hv : Textual v := htext (k, v) (by simp)
    have hlen : (memberText (k, v)).toList.length = (escaped k.toList).length + 3 + (compact v).length := by
      simp [memberText_toList, String.length_toList]
      omega
    have hread := hval n (by omega) v hv (by omega) ('}' :: rest) (pos + (escaped k.toList).length + 3)
    rw [memberText_toList] at hf ⊢
    rw [readMembers]
    simp only [List.cons_append, List.append_assoc]
    simp only [Cursor.advance, List.drop_one, List.tail_cons, readString_escaped, bind, Except.bind]
    rw [skipBlanks_of_not_blank ':' (by decide)]
    simp only [List.tail_cons]
    rw [skipBlanks_compact hv, show pos + 1 + (escaped k.toList).length + 1 + 1 = pos + (escaped k.toList).length + 3
      by omega, hread]
    simp only []
    rw [skipBlanks_of_not_blank '}' (by decide), insertMember_fresh (hfresh (k, v) (by simp)) v]
    simp [String.length_toList]
    omega
  | cons g gs ih =>
    obtain ⟨k, v⟩ := f
    have hv : Textual v := htext (k, v) (by simp)
    have hlen : (memberText (k, v)).toList.length = (escaped k.toList).length + 3 + (compact v).length := by
      simp [memberText_toList, String.length_toList]
      omega
    simp only [List.flatMap_cons, List.length_append, List.length_cons] at hf
    obtain ⟨m, rfl⟩ : ∃ m, n = m + 1 := ⟨n - 1, by omega⟩
    -- the next member's key is neither this one's nor one read before
    have hkeys' : ((g :: gs).map Prod.fst).Nodup := (List.nodup_cons.mp hkeys).2
    have hfresh' : ∀ h ∈ g :: gs, h.1 ∉ ((k, v) :: acc).map Prod.fst := by
      intro h hh
      have hk : h.1 ≠ k := fun e => (List.nodup_cons.mp hkeys).1 (List.mem_map.mpr ⟨h, hh, e⟩)
      simpa [hk] using hfresh h (List.mem_cons_of_mem _ hh)
    have hnext := ih g hkeys' (fun h hh => htext h (List.mem_cons_of_mem _ hh)) ((k, v) :: acc) hfresh'
      (pos + (escaped k.toList).length + 3 + (compact v).length + 1) m (fun j hj => hval j (by omega))
      (by simp only [List.length_append]; omega)
    have hread := hval (m + 1) (by omega) v hv (by omega)
      (',' :: ((memberText g).toList ++ ((gs.flatMap fun g => ',' :: (memberText g).toList) ++ '}' :: rest)))
      (pos + (escaped k.toList).length + 3)
    rw [memberText_toList (k, v)]
    rw [readMembers]
    simp only [List.flatMap_cons, List.cons_append, List.append_assoc]
    simp only [Cursor.advance, List.drop_one, List.tail_cons, readString_escaped, bind, Except.bind]
    rw [skipBlanks_of_not_blank ':' (by decide)]
    simp only [List.tail_cons]
    rw [skipBlanks_compact hv, show pos + 1 + (escaped k.toList).length + 1 + 1 = pos + (escaped k.toList).length + 3
      by omega, hread]
    simp only []
    rw [skipBlanks_of_not_blank ',' (by decide), insertMember_fresh (hfresh (k, v) (by simp)) v]
    simp only [List.tail_cons]
    rw [skipBlanks_member g, ← List.append_assoc, hnext]
    simp [String.length_toList, memberText_toList]
    omega

/-- Every textual value reads back at any fuel above the length of its text. -/
theorem readsBack (fuel : Nat) : ReadsBack fuel := by
  induction fuel using Nat.strongRecOn with
  | ind n ih =>
    intro v hv hlen rest pos
    obtain ⟨f, rfl⟩ : ∃ f, n = f + 1 := ⟨n - 1, by omega⟩
    have hval : ∀ m ≤ f, ReadsBack m := fun m hm => ih m (by omega)
    cases hv with
    | str s =>
      have htext : (compact (.str s)).toList = '"' :: escaped s.toList ++ ['"'] := by
        simp [compact, scalarText, quoteString_toList]
      rw [htext, readValue]
      simp only [List.cons_append, List.append_assoc, Cursor.advance, List.drop_one,
        List.tail_cons, readString_escaped]
      simp [← String.length_toList, htext, Except.map]
      omega
    | @arr items h =>
      cases items with
      | nil =>
        have htext : (compact (.arr [])).toList = ['[', ']'] := by simp [compact_arr]
        rw [htext, readValue]
        simp only [List.cons_append, List.nil_append, Cursor.advance, List.drop_one, List.tail_cons]
        rw [skipBlanks_of_not_blank ']' (by decide)]
        simp [← String.length_toList, htext]
      | cons w ws =>
        have hw : Textual w := h w (by simp)
        have htext := compact_arr (w :: ws)
        rw [intercalate_toList] at htext
        rw [← String.length_toList, htext] at hlen
        simp only [List.length_cons, List.length_append] at hlen
        have hitems := readItems_compact hval w ws hw (fun u hu => h u (List.mem_cons_of_mem _ hu)) [] rest
          (pos + 1) (by simp only [List.length_append]; omega)
        rw [htext, readValue]
        simp only [List.cons_append, List.append_assoc, List.nil_append, Cursor.advance, List.drop_one,
          List.tail_cons]
        rw [skipBlanks_compact hw]
        -- the first item opens with a quote or a bracket, never with the closing bracket
        obtain ⟨c, r, hcr, hc⟩ := compact_head hw
        split
        · next tail heq =>
          rw [hcr] at heq
          simp only [List.cons_append, List.cons.injEq] at heq
          rcases hc with rfl | rfl | rfl <;> exact absurd heq.1 (by decide)
        · rw [← List.append_assoc, hitems]
          simp [← String.length_toList, htext]
          omega
    | @obj fields keys h =>
      cases fields with
      | nil =>
        have htext : (compact (.obj [])).toList = ['{', '}'] := by simp [compact_obj]
        rw [htext, readValue]
        simp only [List.cons_append, List.nil_append, Cursor.advance, List.drop_one, List.tail_cons]
        rw [skipBlanks_of_not_blank '}' (by decide)]
        simp [← String.length_toList, htext]
      | cons g gs =>
        have htext := compact_obj (g :: gs)
        rw [intercalate_toList] at htext
        rw [← String.length_toList, htext] at hlen
        simp only [List.length_cons, List.length_append] at hlen
        have hmembers := readMembers_compact hval g gs keys h [] (by simp) rest (pos + 1)
          (by simp only [List.length_append]; omega)
        rw [htext, readValue]
        simp only [List.cons_append, List.append_assoc, List.nil_append, Cursor.advance, List.drop_one,
          List.tail_cons]
        rw [skipBlanks_member g]
        -- the first member opens with the quote of its key, never with the closing brace
        split
        · next tail heq =>
          rw [memberText_toList] at heq
          simp at heq
        · rw [← List.append_assoc, hmembers]
          simp [← String.length_toList, htext]
          omega

/-- Compact JSON text reads back as the value it was written from. -/
theorem parse_compact {v : Value} (hv : Textual v) : parse (compact v) = .ok v := by
  have hbody : parse.body (compact v).toList = .ok v := by
    have hstart := skipBlanks_compact hv [] 0
    have hread := readsBack ((compact v).toList.length + 1) v hv (by rw [String.length_toList]; omega) [] 0
    rw [List.append_nil] at hstart hread
    simp only [parse.body]
    rw [hstart, hread]
    simp [Cursor.skipBlanks, bind, Except.bind]
  -- the text opens with a quote or a bracket, which is no byte-order mark
  obtain ⟨c, r, hcr, hc⟩ := compact_head hv
  have hbom : (c.toNat == 0xFEFF) = false := by rcases hc with rfl | rfl | rfl <;> decide
  rw [hcr] at hbody
  simp [parse, hcr, hbom, hbody]

theorem parseText_compact {v : Value} (hv : Textual v) : parseText (compact v) = .ok v := by
  simp [parseText, parse_compact hv]

end VCard.Json
