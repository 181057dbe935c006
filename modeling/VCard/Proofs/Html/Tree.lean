import VCard.Html.Parse
/-! The tree under construction while HTML is read.

The tokenizer drives a `TreeBuilder` with four calls (`Call`): a start tag, a
start tag closed at once (`<x/>`), an end tag and character data. The builder
keeps its open elements as a stack above the document root, each still apart
from the element below it; the tree they stand for is the one `finish` gives,
every open element closed into the one below it as its last child. `spine`
lists that tree's elements from the root along the stack, each with the ones
above it closed inside it.

After every sequence of calls (`run_invariants`): the spine starts with the
finished tree, whose root is the `document` element; each element of the spine
is the last child of the one before it; no element of the spine is void; and
the text of the tree, read in document order (`itertext`), is the
data handed over, in order.

Closing the innermost open element drops the last element of the spine and
leaves the tree as it was (`spine_closeTop`); so does `finish`, which closes
them all. The text is carried by `text`, the own text of each open element in
turn: every call adds its data at the end of it (`text_handle`). -/
namespace VCard.Html

open Xml (Element)

/-! ### The text of a tree -/

mutual
/-- The text of an element in document order: its text, then each child's,
each followed by the child's tail. -/
def itertext : Element → String
  | ⟨_, _, text, children, _⟩ => text ++ itertextOf children

/-- The text of some children, each followed by its tail. -/
def itertextOf : List Element → String
  | [] => ""
  | c :: rest => itertext c ++ c.tail ++ itertextOf rest
end

@[simp] theorem itertext_setTail (e : Element) (t : String) : itertext { e with tail := t } = itertext e := by
  cases e
  rfl

theorem itertextOf_append (l₁ l₂ : List Element) :
    itertextOf (l₁ ++ l₂) = itertextOf l₁ ++ itertextOf l₂ := by
  induction l₁ with
  | nil => simp [itertextOf]
  | cons c rest ih => simp [itertextOf, ih, String.append_assoc]

namespace OpenElement

/-- The text an open element holds itself, without the open elements above it. -/
def ownText (o : OpenElement) : String := o.text ++ itertextOf o.children.reverse

@[simp] theorem itertext_close (o : OpenElement) : itertext o.close = o.ownText := by
  simp [close, itertext, ownText]

@[simp] theorem tail_close (o : OpenElement) : o.close.tail = "" := rfl

@[simp] theorem name_close (o : OpenElement) : o.close.name = ⟨none, o.tag⟩ := rfl

@[simp] theorem tag_addChild (o : OpenElement) (e : Element) : (o.addChild e).tag = o.tag := rfl

theorem ownText_addChild (o : OpenElement) (e : Element) :
    (o.addChild e).ownText = o.ownText ++ itertext e ++ e.tail := by
  simp [addChild, ownText, itertextOf_append, itertextOf, String.append_assoc]

@[simp] theorem tag_addData (o : OpenElement) (s : String) : (o.addData s).tag = o.tag := by
  unfold addData
  split <;> rfl

theorem ownText_addData (o : OpenElement) (s : String) : (o.addData s).ownText = o.ownText ++ s := by
  unfold addData ownText
  split
  · next last rest h =>
    simp [h, itertextOf_append, itertextOf, String.append_assoc]
  · next h => simp [h, itertextOf]

/-- Closing an element into another puts its text after the other's. -/
theorem ownText_addChild_close (o t : OpenElement) : (o.addChild t.close).ownText = o.ownText ++ t.ownText := by
  rw [ownText_addChild, itertext_close, tail_close, String.append_empty]

/-- An element closed at once holds no text. -/
theorem ownText_fresh (tag : String) (attrs : List (Xml.Name × String)) :
    ({ tag, attrs } : OpenElement).ownText = "" := rfl

/-- The element an open element stands for when the spine above it is
closed: itself closed, with the next element of the spine as its last child. -/
def closeOver (o : OpenElement) : List Element → Element
  | [] => o.close
  | e :: _ => (o.addChild e).close

end OpenElement

/-! ### The spine -/

/-- Open elements, outermost first, as elements of the tree: each holds the
next, closed, as its last child. -/
def spineOf : List OpenElement → List Element
  | [] => []
  | o :: os => o.closeOver (spineOf os) :: spineOf os

@[simp] theorem length_spineOf (os : List OpenElement) : (spineOf os).length = os.length := by
  induction os with
  | nil => rfl
  | cons o os ih => simp [spineOf, ih]

theorem closeOver_append {o : OpenElement} {l : List Element} (h : l ≠ []) (l' : List Element) :
    o.closeOver (l ++ l') = o.closeOver l := by
  cases l with
  | nil => exact absurd rfl h
  | cons e rest => rfl

/-- Closing the innermost of the open elements into the one below it drops
the last element of the spine and changes none of the others. -/
theorem spineOf_close (xs : List OpenElement) (p t : OpenElement) :
    spineOf (xs ++ [p, t]) = spineOf (xs ++ [p.addChild t.close]) ++ [t.close] := by
  induction xs with
  | nil => rfl
  | cons x xs ih =>
    have hne : spineOf (xs ++ [p.addChild t.close]) ≠ [] := by
      rw [← List.length_pos_iff, length_spineOf]
      simp
    simp only [List.cons_append, spineOf, ih, closeOver_append hne, List.cons_append]

/-- Each element of the spine is the last child of the one before it. -/
theorem spineOf_lastChild (os : List OpenElement) (i : Nat) (h : i + 1 < (spineOf os).length) :
    (spineOf os)[i].children.getLast? = some (spineOf os)[i + 1] := by
  induction os generalizing i with
  | nil => simp at h
  | cons o os ih =>
    cases i with
    | zero =>
      cases hs : spineOf os with
      | nil =>
        simp only [spineOf, hs, List.length_singleton] at h
        omega
      | cons e rest =>
        simp [spineOf, hs, OpenElement.closeOver, OpenElement.close, OpenElement.addChild]
    | succ i =>
      simp only [spineOf, List.getElem_cons_succ]
      exact ih i (by simpa [spineOf] using h)

theorem names_spineOf (os : List OpenElement) :
    (spineOf os).map (·.name) = os.map fun o => ⟨none, o.tag⟩ := by
  induction os with
  | nil => rfl
  | cons o os ih =>
    simp only [spineOf, List.map_cons, ih]
    cases spineOf os <;> rfl

namespace TreeBuilder

/-- The tree's elements from the root along the stack of open elements. -/
def spine (b : TreeBuilder) : List Element := spineOf (b.root :: b.openElements.reverse)

@[simp] theorem length_spine (b : TreeBuilder) : b.spine.length = b.openElements.length + 1 := by
  simp [spine]

/-- The text of the tree: the own text of the root, then of each open element
from the outermost in. -/
def text (b : TreeBuilder) : String := String.join ((b.root :: b.openElements.reverse).map OpenElement.ownText)

/-- What the builder must keep: its root is the document, and no open element is void. -/
structure Wf (b : TreeBuilder) : Prop where
  root : b.root.tag = "document"
  noVoid : ∀ o ∈ b.openElements, o.tag ∉ voidTags

/-! ### One call -/

section Step

variable {b : TreeBuilder} {α : Type}

theorem text_modifyTop {f : OpenElement → OpenElement} {s : String}
    (hf : ∀ o, (f o).ownText = o.ownText ++ s) : (b.modifyTop f).text = b.text ++ s := by
  unfold modifyTop text
  split
  · next top rest h => simp [h, hf, String.join_cons, String.append_assoc]
  · next h => simp [h, hf]

theorem Wf.modifyTop (hb : Wf b) {f : OpenElement → OpenElement} (hf : ∀ o, (f o).tag = o.tag) :
    Wf (b.modifyTop f) := by
  unfold TreeBuilder.modifyTop
  split
  · next top rest h =>
    refine ⟨hb.root, fun o ho => ?_⟩
    rcases List.mem_cons.mp ho with rfl | ho
    · rw [hf]; exact hb.noVoid _ (by simp [h])
    · exact hb.noVoid o (by simp [h, ho])
  · exact ⟨(hf _).trans hb.root, by simpa using hb.noVoid⟩

/-- Closing the innermost open element keeps the text. -/
theorem text_closeTop : b.closeTop.text = b.text := by
  unfold closeTop
  split
  · next top rest h =>
    rw [text_modifyTop fun o => o.ownText_addChild_close top]
    simp [text, h, String.join_cons, String.append_assoc]
  · rfl

theorem Wf.closeTop (hb : Wf b) : Wf b.closeTop := by
  unfold TreeBuilder.closeTop
  cases h : b.openElements with
  | nil => exact hb
  | cons top rest =>
    have hrest : Wf { b with openElements := rest } :=
      ⟨hb.root, fun o ho => hb.noVoid o (by rw [h]; exact List.mem_cons_of_mem top ho)⟩
    exact hrest.modifyTop fun _ => rfl

/-- Closing the innermost open element drops the last element of the spine. -/
theorem spine_closeTop {t : OpenElement} {rest : List OpenElement} (h : b.openElements = t :: rest) :
    b.closeTop.spine ++ [t.close] = b.spine := by
  unfold closeTop spine
  rw [h]
  cases rest with
  | nil => exact (spineOf_close [] b.root t).symm
  | cons p rest =>
    have := spineOf_close (b.root :: rest.reverse) p t
    simp only [List.cons_append] at this
    simp [modifyTop, this]

/-- Closing some of the open elements keeps what the spine has below them. -/
theorem spine_closeMany (xs : List α) (b : TreeBuilder) :
    (xs.foldl (fun b _ => b.closeTop) b).spine = b.spine.take (b.openElements.length - xs.length + 1) := by
  induction xs generalizing b with
  | nil => simp [List.take_of_length_le]
  | cons x xs ih =>
    rw [List.foldl_cons, ih]
    cases h : b.openElements with
    | nil => simp [closeTop, h]
    | cons t rest =>
      rw [← spine_closeTop h]
      have hlen : b.closeTop.openElements.length = rest.length := by
        simpa [h] using congrArg List.length (spine_closeTop h)
      rw [hlen, List.take_append_of_le_length (by simp [hlen])]
      simp

theorem text_closeMany (xs : List α) (b : TreeBuilder) :
    (xs.foldl (fun b _ => b.closeTop) b).text = b.text := by
  induction xs generalizing b with
  | nil => rfl
  | cons x xs ih => rw [List.foldl_cons, ih, text_closeTop]

theorem Wf.closeMany (xs : List α) (hb : Wf b) : Wf (xs.foldl (fun b _ => b.closeTop) b) := by
  induction xs generalizing b with
  | nil => exact hb
  | cons x xs ih => exact ih hb.closeTop

/-- The finished tree is the document. -/
theorem Wf.name_finish (hb : Wf b) : b.finish.name = ⟨none, "document"⟩ := by
  rw [finish, OpenElement.name_close, (hb.closeMany b.openElements).root]

/-- No element of the spine is void. -/
theorem Wf.spine_not_void (hb : Wf b) : ∀ e ∈ b.spine, e.name.localName ∉ voidTags := by
  intro e he
  have hname : e.name ∈ (b.root :: b.openElements.reverse).map fun o => (⟨none, o.tag⟩ : Xml.Name) := by
    rw [← names_spineOf]
    exact List.mem_map_of_mem he
  obtain ⟨o, ho, he⟩ := List.mem_map.mp hname
  rw [← he]
  rcases List.mem_cons.mp ho with rfl | ho
  · simp [hb.root, voidTags]
  · exact hb.noVoid o (List.mem_reverse.mp ho)

/-- The finished tree is the first element of the spine, and its text is the builder's. -/
theorem spine_eq_finish (b : TreeBuilder) : b.spine.head? = some b.finish ∧ itertext b.finish = b.text := by
  have hspine := spine_closeMany b.openElements b
  have htext := text_closeMany b.openElements b
  rw [Nat.sub_self, Nat.zero_add] at hspine
  unfold finish
  generalize b.openElements.foldl (fun b _ => b.closeTop) b = c at hspine htext
  -- with every element closed the spine is the root alone
  have hopen : c.openElements = [] := by simpa using congrArg List.length hspine
  obtain ⟨e, rest, hs⟩ : ∃ e rest, b.spine = e :: rest := List.exists_cons_of_length_pos (by simp)
  rw [spine, hopen, hs] at hspine
  have he : c.root.close = e := by simpa [spineOf, OpenElement.closeOver] using hspine
  refine ⟨by simp [hs, he], ?_⟩
  rw [OpenElement.itertext_close, ← htext]
  simp [text, hopen]

end Step

end TreeBuilder

/-! ### Runs of calls -/

/-- A call the tokenizer makes on the tree builder. -/
inductive Call where
  | startTag (tag : String) (attrs : List (String × String))
  | emptyTag (tag : String) (attrs : List (String × String))
  | endTag (tag : String)
  | data (text : String)

/-- The data a call hands over. -/
def Call.received : Call → String
  | .data text => text
  | _ => ""

namespace TreeBuilder

/-- The builder after one call. -/
def handle (b : TreeBuilder) : Call → TreeBuilder
  | .startTag tag attrs => b.startTag tag attrs
  | .emptyTag tag attrs => b.emptyTag tag attrs
  | .endTag tag => b.endTag tag
  | .data text => b.data text

/-- The builder after a sequence of calls, from an empty document. -/
def run (calls : List Call) : TreeBuilder := calls.foldl handle {}

theorem Wf.handle {b : TreeBuilder} (hb : Wf b) (c : Call) : Wf (b.handle c) := by
  cases c with
  | startTag tag attrs =>
    show Wf (b.startTag tag attrs)
    unfold startTag
    split
    · exact hb.modifyTop fun _ => rfl
    · next hvoid =>
      refine ⟨hb.root, fun o ho => ?_⟩
      rcases List.mem_cons.mp ho with rfl | ho
      · simpa using hvoid
      · exact hb.noVoid o ho
  | emptyTag tag attrs => exact hb.modifyTop fun _ => rfl
  | endTag tag =>
    show Wf (b.endTag tag)
    unfold endTag
    split
    · exact hb.closeMany _
    · exact hb
  | data text =>
    show Wf (b.data text)
    unfold data
    split
    · exact hb
    · exact hb.modifyTop fun o => o.tag_addData text

theorem text_push (b : TreeBuilder) (o : OpenElement) :
    ({ b with openElements := o :: b.openElements } : TreeBuilder).text = b.text ++ o.ownText := by
  simp [text, String.append_assoc]

/-- Every call adds the data it hands over at the end of the text. -/
theorem text_handle (b : TreeBuilder) (c : Call) : (b.handle c).text = b.text ++ c.received := by
  -- an element closed at once adds no text where it is put
  have hchild : ∀ (tag : String) (attrs : List (String × String)) (o : OpenElement),
      (o.addChild ({ tag, attrs := attributeMap attrs } : OpenElement).close).ownText = o.ownText ++ "" :=
    fun tag attrs o => by rw [OpenElement.ownText_addChild_close, OpenElement.ownText_fresh]
  cases c with
  | startTag tag attrs =>
    show (b.startTag tag attrs).text = _
    unfold startTag
    split
    · exact text_modifyTop (hchild tag attrs)
    · exact text_push b _
  | emptyTag tag attrs => exact text_modifyTop (hchild tag attrs)
  | endTag tag =>
    show (b.endTag tag).text = _
    unfold endTag
    split
    · exact (text_closeMany _ b).trans String.append_empty.symm
    · exact String.append_empty.symm
  | data text =>
    show (b.data text).text = _
    unfold data
    split
    · next h => simp [Call.received, String.isEmpty_iff.mp h]
    · exact text_modifyTop fun o => o.ownText_addData text

theorem wf_empty : Wf {} := ⟨rfl, fun _ h => nomatch h⟩

theorem Wf.handleAll (calls : List Call) {b : TreeBuilder} (hb : Wf b) :
    Wf (calls.foldl TreeBuilder.handle b) := by
  induction calls generalizing b with
  | nil => exact hb
  | cons c calls ih => exact ih (hb.handle c)

theorem text_handleAll (calls : List Call) (b : TreeBuilder) :
    (calls.foldl handle b).text = b.text ++ String.join (calls.map Call.received) := by
  induction calls generalizing b with
  | nil => simp
  | cons c calls ih => simp [ih, text_handle, String.append_assoc]

/-- **The stack of open elements is the right-hand spine of the tree**, after
every sequence of calls: the spine starts with the finished tree, whose root
is the `document` element; each element of the spine is the last child of the
one before it; none of them is void; and the text of the tree is the data
handed over, in order. -/
theorem run_invariants (calls : List Call) :
    (run calls).spine.head? = some (run calls).finish ∧ (run calls).finish.name = ⟨none, "document"⟩ ∧
      (∀ i (h : i + 1 < (run calls).spine.length),
        (run calls).spine[i].children.getLast? = some (run calls).spine[i + 1]) ∧
      (∀ e ∈ (run calls).spine, e.name.localName ∉ voidTags) ∧
      itertext (run calls).finish = String.join (calls.map Call.received) := by
  obtain ⟨hhead, htext⟩ := spine_eq_finish (run calls)
  have hwf : Wf (run calls) := Wf.handleAll calls wf_empty
  refine ⟨hhead, hwf.name_finish, spineOf_lastChild _, hwf.spine_not_void, ?_⟩
  rw [htext, run, text_handleAll]
  rfl

end TreeBuilder

end VCard.Html
