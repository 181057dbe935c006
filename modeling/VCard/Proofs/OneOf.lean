import VCard.Card
/-! One-of values hold one alternative at a time.

A telephone is text or a URI, a related entity a URI or text, binary content a URL,
bytes or text, a date-like value a date, a partial date or text, a place text, a URI
or coordinates, and an agent a URL or a card. `Slots` describes such a type
alternative by alternative, through the type's own functions: how each alternative
is read and assigned, whether the value is empty, and the constructor that takes
every alternative. `Slots.Exclusive` is what the type promises for every value: at
most one alternative reads as held; a value assigned to an alternative is held there
alone; clearing the held alternative empties the value, and clearing another changes
nothing; the constructor refuses two alternatives or more, naming them in its own
order, and otherwise builds a value holding exactly what it was given.

Every assignment goes through one descriptor, `assignSlot`, so the promise is proved
once (`Descriptor.exclusive`) from how a type's alternatives read, and each of the six
types supplies its `Descriptor`. The headline is `oneOf_exclusive`, which adds that
binary content keeps its media type through every assignment. A value holding two
alternatives cannot be built at all, so what holds of every value holds after every
run of assignments from a constructor's result. -/
namespace VCard

theorem assignSlot_none_held {α β : Type} (holds : α → Bool) (empty : α) (make : β → α)
    (cur : α) (h : holds cur = true) : assignSlot holds empty make cur none = empty := by
  simp [assignSlot, h]

/-- A one-of value type, alternative by alternative. -/
structure Slots (α : Type) where
  /-- The alternatives. -/
  Slot : Type
  /-- What each alternative holds. -/
  Val : Slot → Type
  /-- The name the type's failures give it. -/
  typeName : String
  /-- The alternatives in the order the constructor takes them, and their names. -/
  order : List Slot
  name : Slot → String
  read : (s : Slot) → α → Option (Val s)
  assign : (s : Slot) → α → Option (Val s) → α
  isEmpty : α → Bool
  /-- The constructor, given every alternative. -/
  make : ((s : Slot) → Option (Val s)) → Except Error α

namespace Slots

variable {α : Type} (S : Slots α)

/-- The alternatives a constructor call gives, in the constructor's order. -/
def given (a : (s : S.Slot) → Option (S.Val s)) : List S.Slot :=
  S.order.filter fun s => (a s).isSome

/-- What a one-of type promises. -/
structure Exclusive : Prop where
  /-- At most one alternative reads as held. -/
  read_unique : ∀ x s t, (S.read s x).isSome → (S.read t x).isSome → s = t
  isEmpty_iff : ∀ x, S.isEmpty x = true ↔ ∀ s, S.read s x = none
  /-- An assigned value is held in its alternative and in no other. -/
  read_assign_self : ∀ x s v, S.read s (S.assign s x (some v)) = some v
  read_assign_other : ∀ x s v t, t ≠ s → S.read t (S.assign s x (some v)) = none
  /-- Clearing the held alternative empties the value; clearing another changes nothing. -/
  assign_none_held : ∀ x s, (S.read s x).isSome → S.isEmpty (S.assign s x none) = true
  assign_none_other : ∀ x s, S.read s x = none → S.assign s x none = x
  /-- The constructor refuses two alternatives or more, naming them. -/
  make_several : ∀ a, 1 < (S.given a).length →
    S.make a = .error (.severalSlots S.typeName ((S.given a).map S.name))
  make_single : ∀ a, (S.given a).length ≤ 1 → ∃ x, S.make a = .ok x ∧ ∀ s, S.read s x = a s

/-- The constructor's check of the alternatives it is given. -/
def check (a : (s : S.Slot) → Option (S.Val s)) : Except Error Unit :=
  checkSlots S.typeName (S.order.map fun s => (S.name s, (a s).isSome))

theorem check_eq (a : (s : S.Slot) → Option (S.Val s)) :
    S.check a = if 1 < (S.given a).length then .error (.severalSlots S.typeName ((S.given a).map S.name))
      else .ok () := by
  -- the names of the given alternatives are the given alternatives, named
  have hnamed : ((S.order.map fun s => (S.name s, (a s).isSome)).filter (·.2)).map (·.1) =
      (S.given a).map S.name := by
    simp [given, List.filter_map, Function.comp_def]
  simp only [check, checkSlots, hnamed, List.length_map, gt_iff_lt]

/-- How a type stores its alternatives: through `assignSlot`, over values that hold
one alternative or none. `hold s v x` holds `v` in `s` and `clear x` holds nothing,
both keeping what of `x` is not an alternative; `pick` builds the constructor's value
once its check passes. -/
structure Descriptor where
  clear : α → α
  hold : (s : S.Slot) → S.Val s → α → α
  pick : ((s : S.Slot) → Option (S.Val s)) → α
  assign_eq : ∀ s x v, S.assign s x v =
    assignSlot (fun y => (S.read s y).isSome) (clear x) (fun v => hold s v x) x v
  read_hold_self : ∀ s v x, S.read s (hold s v x) = some v
  read_hold_other : ∀ s v x t, t ≠ s → S.read t (hold s v x) = none
  read_clear : ∀ x t, S.read t (clear x) = none
  isEmpty_clear : ∀ x, S.isEmpty (clear x) = true
  isEmpty_hold : ∀ s v x, S.isEmpty (hold s v x) = false
  cover : ∀ x, x = clear x ∨ ∃ s v, x = hold s v x
  mem_order : ∀ s, s ∈ S.order
  make_eq : ∀ a, S.make a = (S.check a).bind fun _ => .ok (pick a)
  read_pick : ∀ a, (∀ s t, (a s).isSome → (a t).isSome → s = t) → ∀ s, S.read s (pick a) = a s

variable {S}

theorem eq_of_mem_of_length_le_one {β : Type} {l : List β} {x y : β} (h : l.length ≤ 1)
    (hx : x ∈ l) (hy : y ∈ l) : x = y := by
  match l with
  | [] => cases hx
  | [_] =>
    rw [List.mem_singleton] at hx hy
    rw [hx, hy]
  | _ :: _ :: _ => simp at h

/-- A constructor call that gives at most one alternative gives no two different ones. -/
theorem given_unique {a : (s : S.Slot) → Option (S.Val s)} (hmem : ∀ s, s ∈ S.order)
    (h : (S.given a).length ≤ 1) (s t : S.Slot) (hs : (a s).isSome) (ht : (a t).isSome) : s = t :=
  eq_of_mem_of_length_le_one h (List.mem_filter.mpr ⟨hmem s, hs⟩) (List.mem_filter.mpr ⟨hmem t, ht⟩)

theorem Descriptor.eq_of_read_hold (D : S.Descriptor) {s t : S.Slot} {v : S.Val s} {x : α}
    (h : (S.read t (D.hold s v x)).isSome) : t = s := by
  by_cases hts : t = s
  · exact hts
  · rw [D.read_hold_other s v x t hts] at h
    simp at h

theorem Descriptor.read_unique (D : S.Descriptor) {x : α} {s t : S.Slot}
    (hs : (S.read s x).isSome) (ht : (S.read t x).isSome) : s = t := by
  rcases D.cover x with hx | ⟨u, v, hx⟩
  · rw [hx, D.read_clear] at hs
    simp at hs
  · rw [hx] at hs ht
    rw [D.eq_of_read_hold hs, D.eq_of_read_hold ht]

theorem Descriptor.isEmpty_iff (D : S.Descriptor) (x : α) : S.isEmpty x = true ↔ ∀ s, S.read s x = none := by
  rcases D.cover x with hx | ⟨u, v, hx⟩
  · rw [hx, D.isEmpty_clear]
    exact ⟨fun _ => D.read_clear x, fun _ => rfl⟩
  · rw [hx, D.isEmpty_hold]
    refine ⟨fun h => absurd h Bool.false_ne_true, fun h => ?_⟩
    have := h u
    rw [D.read_hold_self] at this
    exact absurd this (Option.some_ne_none v)

/-- **The descriptor keeps one alternative**: a type that stores its alternatives
through `assignSlot` keeps every promise of a one-of type. -/
theorem Descriptor.exclusive (D : S.Descriptor) : S.Exclusive where
  read_unique _ _ _ := D.read_unique
  isEmpty_iff := D.isEmpty_iff
  read_assign_self x s v := by rw [D.assign_eq, assignSlot_some, D.read_hold_self]
  read_assign_other x s v t h := by rw [D.assign_eq, assignSlot_some, D.read_hold_other s v x t h]
  assign_none_held x s h := by
    rw [D.assign_eq, assignSlot_none_held (fun y => (S.read s y).isSome) _ _ x h, D.isEmpty_clear]
  assign_none_other x s h := by
    rw [D.assign_eq]
    exact assignSlot_none_other _ _ _ _ (by simp [h])
  make_several a h := by
    rw [D.make_eq, S.check_eq, if_pos h]
    rfl
  make_single a h := by
    refine ⟨D.pick a, ?_, D.read_pick a (given_unique D.mem_order h)⟩
    rw [D.make_eq, S.check_eq, if_neg (by omega)]
    rfl

end Slots

/-! ### The six one-of types -/

/-- The alternatives of a telephone. -/
inductive Telephone.Slot
  | text
  | uri
  deriving DecidableEq

def Telephone.slots : Slots Telephone where
  Slot := Telephone.Slot
  Val _ := String
  typeName := "Telephone"
  order := [.text, .uri]
  name
    | .text => "text"
    | .uri => "uri"
  read
    | .text => Telephone.text?
    | .uri => Telephone.uri?
  assign
    | .text => Telephone.setText
    | .uri => Telephone.setUri
  isEmpty := Telephone.isEmpty
  make a := Telephone.make (a .text) (a .uri)

def Telephone.descriptor : Telephone.slots.Descriptor where
  clear _ := .empty
  hold
    | .text, v, _ => .text v
    | .uri, v, _ => .uri v
  pick a := match a .text, a .uri with
    | some s, _ => .text s
    | _, some s => .uri s
    | _, _ => .empty
  assign_eq := by rintro (_ | _) x v <;> rfl
  read_hold_self := by rintro (_ | _) v x <;> rfl
  read_hold_other := by rintro (_ | _) v x (_ | _) h <;> first | rfl | exact absurd rfl h
  read_clear := by rintro x (_ | _) <;> rfl
  isEmpty_clear _ := rfl
  isEmpty_hold := by rintro (_ | _) v x <;> rfl
  cover := by
    rintro (_ | v | v)
    · exact .inl rfl
    · exact .inr ⟨.text, v, rfl⟩
    · exact .inr ⟨.uri, v, rfl⟩
  make_eq _ := rfl
  mem_order
    | .text => .head _
    | .uri => .tail _ (.head _)
  read_pick a h := by
    cases ht : a .text <;> cases hu : a .uri
    case some.some => nomatch h .text .uri (by rw [ht]; rfl) (by rw [hu]; rfl)
    all_goals rintro (_ | _) <;> first | (rw [ht]; rfl) | (rw [hu]; rfl)

/-- The alternatives of a related entity. -/
inductive Related.Slot
  | uri
  | text
  deriving DecidableEq

def Related.slots : Slots Related where
  Slot := Related.Slot
  Val _ := String
  typeName := "Related"
  order := [.uri, .text]
  name
    | .uri => "uri"
    | .text => "text"
  read
    | .uri => Related.uri?
    | .text => Related.text?
  assign
    | .uri => Related.setUri
    | .text => Related.setText
  isEmpty := Related.isEmpty
  make a := Related.make (a .uri) (a .text)

def Related.descriptor : Related.slots.Descriptor where
  clear _ := .empty
  hold
    | .uri, v, _ => .uri v
    | .text, v, _ => .text v
  pick a := match a .uri, a .text with
    | some s, _ => .uri s
    | _, some s => .text s
    | _, _ => .empty
  assign_eq := by rintro (_ | _) x v <;> rfl
  read_hold_self := by rintro (_ | _) v x <;> rfl
  read_hold_other := by rintro (_ | _) v x (_ | _) h <;> first | rfl | exact absurd rfl h
  read_clear := by rintro x (_ | _) <;> rfl
  isEmpty_clear _ := rfl
  isEmpty_hold := by rintro (_ | _) v x <;> rfl
  cover := by
    rintro (_ | v | v)
    · exact .inl rfl
    · exact .inr ⟨.uri, v, rfl⟩
    · exact .inr ⟨.text, v, rfl⟩
  mem_order
    | .uri => .head _
    | .text => .tail _ (.head _)
  make_eq _ := rfl
  read_pick a h := by
    cases hu : a .uri <;> cases ht : a .text
    case some.some => nomatch h .uri .text (by rw [hu]; rfl) (by rw [ht]; rfl)
    all_goals rintro (_ | _) <;> first | (rw [hu]; rfl) | (rw [ht]; rfl)

/-- The alternatives of binary content. -/
inductive Binary.Slot
  | url
  | data
  | text
  deriving DecidableEq

/-- Binary content, built with a media type. -/
def Binary.slots (contentType : Option String) : Slots Binary where
  Slot := Binary.Slot
  Val
    | .url => String
    | .data => List UInt8
    | .text => String
  typeName := "BinaryValue"
  order := [.url, .data, .text]
  name
    | .url => "url"
    | .data => "data"
    | .text => "text"
  read
    | .url => Binary.url?
    | .data => Binary.data?
    | .text => Binary.text?
  assign
    | .url => Binary.setUrl
    | .data => Binary.setData
    | .text => Binary.setText
  isEmpty := Binary.isEmpty
  make a := Binary.make (a .url) (a .data) (a .text) contentType

def Binary.descriptor (contentType : Option String) : (Binary.slots contentType).Descriptor where
  clear b := { b with source := .empty }
  hold
    | .url, v, b => { b with source := .url v }
    | .data, v, b => { b with source := .data v }
    | .text, v, b => { b with source := .text v }
  pick a := ⟨match a .url, a .data, a .text with
    | some s, _, _ => .url s
    | _, some d, _ => .data d
    | _, _, some s => .text s
    | _, _, _ => .empty, contentType⟩
  assign_eq := by rintro (_ | _ | _) ⟨_ | _ | _ | _, _⟩ (_ | _) <;> rfl
  read_hold_self := by rintro (_ | _ | _) v x <;> rfl
  read_hold_other := by rintro (_ | _ | _) v x (_ | _ | _) h <;> first | rfl | exact absurd rfl h
  read_clear := by rintro x (_ | _ | _) <;> rfl
  isEmpty_clear _ := rfl
  isEmpty_hold := by rintro (_ | _ | _) v x <;> rfl
  cover := by
    rintro ⟨_ | v | v | v, _⟩
    · exact .inl rfl
    · exact .inr ⟨.url, v, rfl⟩
    · exact .inr ⟨.data, v, rfl⟩
    · exact .inr ⟨.text, v, rfl⟩
  mem_order
    | .url => .head _
    | .data => .tail _ (.head _)
    | .text => .tail _ (.tail _ (.head _))
  make_eq a := by
    -- the constructor names its source before building the value
    show Binary.make (a .url) (a .data) (a .text) contentType = (checkSlots "BinaryValue"
      [("url", (a .url).isSome), ("data", (a .data).isSome), ("text", (a .text).isSome)]).bind _
    cases a .url <;> cases a .data <;> cases a .text <;> rfl
  read_pick a h := by
    cases hu : a .url <;> cases hd : a .data <;> cases ht : a .text
    case some.some.some => nomatch h .url .data (by rw [hu]; rfl) (by rw [hd]; rfl)
    case some.some.none => nomatch h .url .data (by rw [hu]; rfl) (by rw [hd]; rfl)
    case some.none.some => nomatch h .url .text (by rw [hu]; rfl) (by rw [ht]; rfl)
    case none.some.some => nomatch h .data .text (by rw [hd]; rfl) (by rw [ht]; rfl)
    all_goals rintro (_ | _ | _) <;> first | (rw [hu]; rfl) | (rw [hd]; rfl) | (rw [ht]; rfl)

/-- The alternatives of a date-like value. -/
inductive DateOrTime.Slot
  | date
  | partialDate
  | text
  deriving DecidableEq

def DateOrTime.slots : Slots DateOrTime where
  Slot := DateOrTime.Slot
  Val
    | .date => Stamp
    | .partialDate => PartialDate
    | .text => String
  typeName := "DateOrTime"
  order := [.date, .partialDate, .text]
  name
    | .date => "date"
    | .partialDate => "partial"
    | .text => "text"
  read
    | .date => DateOrTime.date?
    | .partialDate => DateOrTime.partialDate?
    | .text => DateOrTime.text?
  assign
    | .date => DateOrTime.setDate
    | .partialDate => DateOrTime.setPartialDate
    | .text => DateOrTime.setText
  isEmpty := DateOrTime.isEmpty
  make a := DateOrTime.make (a .date) (a .partialDate) (a .text)

def DateOrTime.descriptor : DateOrTime.slots.Descriptor where
  clear _ := .empty
  hold
    | .date, v, _ => .date v
    | .partialDate, v, _ => .partialDate v
    | .text, v, _ => .text v
  pick a := match a .date, a .partialDate, a .text with
    | some s, _, _ => .date s
    | _, some p, _ => .partialDate p
    | _, _, some s => .text s
    | _, _, _ => .empty
  assign_eq := by rintro (_ | _ | _) x v <;> rfl
  read_hold_self := by rintro (_ | _ | _) v x <;> rfl
  read_hold_other := by rintro (_ | _ | _) v x (_ | _ | _) h <;> first | rfl | exact absurd rfl h
  read_clear := by rintro x (_ | _ | _) <;> rfl
  isEmpty_clear _ := rfl
  isEmpty_hold := by rintro (_ | _ | _) v x <;> rfl
  cover := by
    rintro (_ | v | v | v)
    · exact .inl rfl
    · exact .inr ⟨.date, v, rfl⟩
    · exact .inr ⟨.partialDate, v, rfl⟩
    · exact .inr ⟨.text, v, rfl⟩
  mem_order
    | .date => .head _
    | .partialDate => .tail _ (.head _)
    | .text => .tail _ (.tail _ (.head _))
  make_eq _ := rfl
  read_pick a h := by
    cases hd : a .date <;> cases hp : a .partialDate <;> cases ht : a .text
    case some.some.some => nomatch h .date .partialDate (by rw [hd]; rfl) (by rw [hp]; rfl)
    case some.some.none => nomatch h .date .partialDate (by rw [hd]; rfl) (by rw [hp]; rfl)
    case some.none.some => nomatch h .date .text (by rw [hd]; rfl) (by rw [ht]; rfl)
    case none.some.some => nomatch h .partialDate .text (by rw [hp]; rfl) (by rw [ht]; rfl)
    all_goals rintro (_ | _ | _) <;> first | (rw [hd]; rfl) | (rw [hp]; rfl) | (rw [ht]; rfl)

/-- The alternatives of a place. -/
inductive Place.Slot
  | text
  | uri
  | geo
  deriving DecidableEq

def Place.slots : Slots Place where
  Slot := Place.Slot
  Val
    | .text => String
    | .uri => String
    | .geo => GeoUri
  typeName := "Place"
  order := [.text, .uri, .geo]
  name
    | .text => "text"
    | .uri => "uri"
    | .geo => "geo"
  read
    | .text => Place.text?
    | .uri => Place.uri?
    | .geo => Place.geo?
  assign
    | .text => Place.setText
    | .uri => Place.setUri
    | .geo => Place.setGeo
  isEmpty := Place.isEmpty
  make a := Place.make (a .text) (a .uri) (a .geo)

def Place.descriptor : Place.slots.Descriptor where
  clear _ := .empty
  hold
    | .text, v, _ => .text v
    | .uri, v, _ => .uri v
    | .geo, v, _ => .geo v
  pick a := match a .text, a .uri, a .geo with
    | some s, _, _ => .text s
    | _, some s, _ => .uri s
    | _, _, some g => .geo g
    | _, _, _ => .empty
  assign_eq := by rintro (_ | _ | _) x v <;> rfl
  read_hold_self := by rintro (_ | _ | _) v x <;> rfl
  read_hold_other := by rintro (_ | _ | _) v x (_ | _ | _) h <;> first | rfl | exact absurd rfl h
  read_clear := by rintro x (_ | _ | _) <;> rfl
  isEmpty_clear _ := rfl
  isEmpty_hold := by rintro (_ | _ | _) v x <;> rfl
  cover := by
    rintro (_ | v | v | v)
    · exact .inl rfl
    · exact .inr ⟨.text, v, rfl⟩
    · exact .inr ⟨.uri, v, rfl⟩
    · exact .inr ⟨.geo, v, rfl⟩
  mem_order
    | .text => .head _
    | .uri => .tail _ (.head _)
    | .geo => .tail _ (.tail _ (.head _))
  make_eq _ := rfl
  read_pick a h := by
    cases ht : a .text <;> cases hu : a .uri <;> cases hg : a .geo
    case some.some.some => nomatch h .text .uri (by rw [ht]; rfl) (by rw [hu]; rfl)
    case some.some.none => nomatch h .text .uri (by rw [ht]; rfl) (by rw [hu]; rfl)
    case some.none.some => nomatch h .text .geo (by rw [ht]; rfl) (by rw [hg]; rfl)
    case none.some.some => nomatch h .uri .geo (by rw [hu]; rfl) (by rw [hg]; rfl)
    all_goals rintro (_ | _ | _) <;> first | (rw [ht]; rfl) | (rw [hu]; rfl) | (rw [hg]; rfl)

/-- The alternatives of an agent. -/
inductive Agent.Slot
  | url
  | card
  deriving DecidableEq

def Agent.slots : Slots Agent where
  Slot := Agent.Slot
  Val
    | .url => String
    | .card => Card
  typeName := "Agent"
  order := [.url, .card]
  name
    | .url => "url"
    | .card => "vcard"
  read
    | .url => Agent.url?
    | .card => Agent.card?
  assign
    | .url => Agent.setUrl
    | .card => Agent.setCard
  isEmpty := Agent.isEmpty
  make a := Agent.make (a .url) (a .card)

def Agent.descriptor : Agent.slots.Descriptor where
  clear _ := .empty
  hold
    | .url, v, _ => .url v
    | .card, v, _ => .card v
  pick a := match a .url, a .card with
    | some s, _ => .url s
    | _, some c => .card c
    | _, _ => .empty
  assign_eq := by rintro (_ | _) x v <;> rfl
  read_hold_self := by rintro (_ | _) v x <;> rfl
  read_hold_other := by rintro (_ | _) v x (_ | _) h <;> first | rfl | exact absurd rfl h
  read_clear := by rintro x (_ | _) <;> rfl
  isEmpty_clear _ := rfl
  isEmpty_hold := by rintro (_ | _) v x <;> rfl
  cover := by
    rintro (_ | v | v)
    · exact .inl rfl
    · exact .inr ⟨.url, v, rfl⟩
    · exact .inr ⟨.card, v, rfl⟩
  mem_order
    | .url => .head _
    | .card => .tail _ (.head _)
  make_eq _ := rfl
  read_pick a h := by
    cases hu : a .url <;> cases hc : a .card
    case some.some => nomatch h .url .card (by rw [hu]; rfl) (by rw [hc]; rfl)
    all_goals rintro (_ | _) <;> first | (rw [hu]; rfl) | (rw [hc]; rfl)

/-- **Every one-of value holds at most one alternative.** For each of the six types,
whatever the value: at most one alternative reads as held, and the value is empty
exactly when none does; assigning a value to an alternative holds it there and
nowhere else; clearing the held alternative empties the value and clearing another
leaves the value as it was; a constructor given two alternatives or more fails with
`severalSlots`, naming the type and the given alternatives in its order, and given
at most one builds a value holding exactly that. Binary content keeps its media type
through every assignment. -/
theorem oneOf_exclusive :
    Telephone.slots.Exclusive ∧ Related.slots.Exclusive ∧
      (∀ contentType, (Binary.slots contentType).Exclusive) ∧ DateOrTime.slots.Exclusive ∧
      Place.slots.Exclusive ∧ Agent.slots.Exclusive ∧
      ∀ contentType s (b : Binary) v, ((Binary.slots contentType).assign s b v).contentType = b.contentType :=
  ⟨Telephone.descriptor.exclusive, Related.descriptor.exclusive,
    fun contentType => (Binary.descriptor contentType).exclusive, DateOrTime.descriptor.exclusive,
    Place.descriptor.exclusive, Agent.descriptor.exclusive, fun _ s _ _ => by cases s <;> rfl⟩

end VCard
