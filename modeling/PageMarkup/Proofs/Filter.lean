import PageMarkup.Proofs.Import.Values
import PageMarkup.Proofs.Template.Shape

/-!
# What is kept of the values of a node, and what is reported

A property value that is not blank is an offer to the attribute that it feeds.  An offer is changed
if it is a list or a record, or a scalar whose text is not allowed as it is.  The entries about
values are exactly those of the offers that are changed, one for each and in their order, and what
is kept are exactly the allowed forms of the offers, in the same order.  This file proves it of the
rules of a kind, of links and pictures inside a node, and of each template; what a template gives
carries the allowed forms of its offers, and otherwise only what is fixed in the template.
-/

namespace PageMarkup

/-! ### The entries of some kind -/

namespace Traced

variable {α β : Type} (p : Entry → Bool) (limit : Nat)

/-- Those entries of a computation that are of some kind. -/
def selected (x : Traced α) : List Entry :=
  (x.entries limit).filter p

@[simp] theorem selected_pure (a : α) : (pure a : Traced α).selected p limit = [] := rfl

@[simp] theorem selected_bind (x : Traced α) (f : α → Traced β) :
    (x >>= f).selected p limit =
      x.selected p limit ++ (f (x.result limit)).selected p limit := by
  rw [selected, entries_bind, List.filter_append]
  rfl

theorem selected_note (phase : Phase) (message : String) :
    (note phase message).selected p limit = [⟨phase, message, none⟩].filter p := rfl

theorem selected_noteWith (phase : Phase) (message : String) (data : Json) :
    (noteWith phase message data).selected p limit =
      [⟨phase, message, some (Clip.data limit data)⟩].filter p := rfl

end Traced

/-- The entry is about a value that was changed or dropped. -/
def Entry.isAboutValue (entry : Entry) : Bool :=
  entry.phase == .filter

/-! ### Offers -/

/-- A value on its way into a restricted attribute: the node that has it, the attribute, and the
value itself, which is not blank. -/
structure Offer where
  node : Option String
  target : Restricted
  value : Value
  present : value.isBlank = false

namespace Offer

/-- The form in which the value is kept, if it is. -/
def allowed (offer : Offer) : Option String :=
  offer.value.text?.bind offer.target.allow

/-- The attribute that comes of the offer, if one does. -/
def attribute? (offer : Offer) : Option (Restricted × String) :=
  offer.allowed.map (offer.target, ·)

/-- The value is not kept as it is. -/
def isChanged (offer : Offer) : Bool :=
  match offer.value.text? with
  | none => true
  | some raw => offer.target.allow raw != some raw

/-- The value as it is reported. -/
def original (offer : Offer) : String :=
  offer.value.text?.getD (String.ofList offer.value.shown)

/-- What is reported of a value that is changed. -/
def message (limit : Nat) (offer : Offer) : String :=
  match offer.allowed with
  | some value =>
    offer.target.name ++ ": '" ++ Clip.text limit offer.original ++ "' normalized to '" ++ value
      ++ "'"
  | none => offer.target.name ++ ": value blocked"

/-- The entry about a value that is changed. -/
def entry (limit : Nat) (offer : Offer) : Entry :=
  ⟨.filter, offer.message limit, some <| Clip.data limit <| Json.ofFields [
    ("node", (offer.node.map Json.text).getD .null),
    ("property", .text offer.target.name),
    ("original", .text offer.original),
    ("filtered", .text (offer.allowed.getD Restricted.blocked))]⟩

/-- The entries about some offers: one for each that is changed. -/
def trail (limit : Nat) (offers : List Offer) : List Entry :=
  (offers.filter isChanged).map (entry limit)

/-- The attributes that come of some offers. -/
def kept (offers : List Offer) : List (Restricted × String) :=
  offers.filterMap attribute?

@[simp] theorem trail_append (limit : Nat) (offers others : List Offer) :
    trail limit (offers ++ others) = trail limit offers ++ trail limit others := by
  simp [trail]

theorem trail_flatMap {α : Type} (limit : Nat) (items : List α) (offers : α → List Offer) :
    trail limit (items.flatMap offers) = items.flatMap fun item => trail limit (offers item) := by
  rw [trail, List.filter_flatMap, List.map_flatMap]
  rfl

@[simp] theorem kept_append (offers others : List Offer) :
    kept (offers ++ others) = kept offers ++ kept others :=
  List.filterMap_append

/-- An offer is changed if it is a list or a record, or a scalar whose text is not allowed as it
is. -/
theorem isChanged_iff (offer : Offer) :
    offer.isChanged = true ↔
      (∃ items, offer.value = .list items) ∨ (∃ fields, offer.value = .record fields) ∨
        ∃ raw, offer.value.text? = some raw ∧ offer.target.allow raw ≠ some raw := by
  obtain ⟨node, target, value, hpresent⟩ := offer
  cases value with
  | null => exact absurd hpresent (by decide)
  | bool value => cases value <;> simp [isChanged, Value.text?]
  | number value => simp [isChanged, Value.text?]
  | text value => simp [isChanged, Value.text?]
  | list items => simp [isChanged, Value.text?]
  | record fields => simp [isChanged, Value.text?]

/-- All entries about offers are about values. -/
theorem filter_trail (limit : Nat) (offers : List Offer) :
    (trail limit offers).filter Entry.isAboutValue = trail limit offers := by
  refine List.filter_eq_self.mpr fun entry hentry => ?_
  obtain ⟨offer, -, rfl⟩ := List.mem_map.mp hentry
  rfl

end Offer

/-! ### The filter -/

namespace Restricted

/-- What is reported of a value is one entry. -/
theorem entries_record (limit : Nat) (offer : Offer) :
    (offer.target.record offer.original offer.allowed offer.node).entries limit =
      [offer.entry limit] := by
  rw [Offer.entry, Offer.message]
  cases offer.allowed <;> rfl

/-- An offer leaves an entry if it is changed. -/
theorem entries_filterValue (limit : Nat) (offer : Offer) :
    (offer.target.filterValue offer.value offer.node).entries limit =
      Offer.trail limit [offer] := by
  have hrecord := entries_record limit offer
  rw [filterValue, Offer.trail, List.filter_cons, Offer.isChanged]
  rw [Offer.original, Offer.allowed] at hrecord
  cases htext : offer.value.text? with
  | none =>
    rw [htext] at hrecord
    simp only [offer.present, Bool.not_false, if_true, Traced.entries_bind, Traced.entries_pure,
      List.append_nil]
    exact hrecord
  | some raw =>
    rw [htext] at hrecord
    have hraw : Text.allBlank raw.toList = false := Value.allBlank_of_text? htext offer.present
    simp only [filterText, hraw, Bool.false_eq_true, if_false]
    split
    · rw [Traced.entries_bind, Traced.entries_pure, List.append_nil]
      exact hrecord
    · rfl

end Restricted

namespace Props

/-- A value that is found is not blank. -/
theorem isBlank_of_value? {names : List String} {props : Props} {value : Value}
    (h : props.value? names = some value) : value.isBlank = false := by
  have hmem : value ∈ props.candidates names := List.mem_of_head? h
  simpa using (List.mem_filter.mp hmem).2

/-- The offer of some properties to the attribute of a rule: the first value that is not blank. -/
def offer? (node : Option String) (props : Props) (rule : AttributeRule) : Option Offer :=
  (props.value? rule.names).pmap (fun value h => ⟨node, rule.target, value, h⟩)
    fun _ h => isBlank_of_value? h

/-- The offer of a text under some names to an attribute. -/
def textOffer? (node : Option String) (target : Restricted) (names : List String)
    (props : Props) : Option Offer :=
  (props.text? names).pmap (fun raw h => ⟨node, target, .text raw, h⟩)
    fun _ h => allBlank_of_text? h

variable {node : Option String} {props : Props} {rule : AttributeRule} {target : Restricted}
  {names : List String}

/-- Where no value is found nothing is offered. -/
theorem offer?_of_none (h : props.value? rule.names = none) : props.offer? node rule = none := by
  simp [offer?, h]

/-- A value that is found is offered. -/
theorem offer?_of_some {value : Value} (h : props.value? rule.names = some value) :
    props.offer? node rule = some ⟨node, rule.target, value, isBlank_of_value? h⟩ := by
  simp [offer?, h]

theorem textOffer?_of_none (h : props.text? names = none) :
    props.textOffer? node target names = none := by
  simp [textOffer?, h]

theorem textOffer?_of_some {raw : String} (h : props.text? names = some raw) :
    props.textOffer? node target names = some ⟨node, target, .text raw, allBlank_of_text? h⟩ := by
  simp [textOffer?, h]

/-- The offers of some properties to the attributes of some rules, in their order. -/
def offers (node : Option String) (props : Props) (rules : List AttributeRule) : List Offer :=
  rules.filterMap (props.offer? node)

/-- The entries of the rules are those about their offers. -/
theorem entries_attributes (limit : Nat) (props : Props) (node : String)
    (rules : List AttributeRule) :
    (props.attributes node rules).entries limit =
      Offer.trail limit (props.offers (some node) rules) := by
  induction rules with
  | nil => rfl
  | cons rule rules ih =>
    have hfirst : (props.attributes node (rule :: rules)).entries limit =
        Offer.trail limit (props.offer? (some node) rule).toList ++
          (props.attributes node rules).entries limit := by
      rw [attributes]
      cases hvalue : props.value? rule.names with
      | none => simp [offer?_of_none hvalue, Offer.trail]
      | some value =>
        have hentries := Restricted.entries_filterValue limit
          ⟨some node, rule.target, value, isBlank_of_value? hvalue⟩
        simpa [offer?_of_some hvalue] using hentries
    rw [hfirst, ih, ← Offer.trail_append, offers, offers, List.filterMap_cons]
    cases props.offer? (some node) rule <;> rfl

/-- What is kept are the allowed forms of the offers. -/
theorem kept_eq_kept_offers (node : Option String) (props : Props) (rules : List AttributeRule) :
    props.kept rules = Offer.kept (props.offers node rules) := by
  have hrule (rule : AttributeRule) :
      (props.kept? rule).map (rule.target, ·) =
        (props.offer? node rule).bind Offer.attribute? := by
    rw [kept?]
    cases hvalue : props.value? rule.names with
    | none => rw [offer?_of_none hvalue]; rfl
    | some value => rw [offer?_of_some hvalue]; rfl
  rw [kept, Offer.kept, offers, List.filterMap_filterMap, ← List.filterMap_eq_flatMap_toList]
  exact List.filterMap_congr fun rule _ => hrule rule

end Props

namespace Template

/-- The entries about a link or a picture are those about its offer. -/
theorem entries_restricted (limit : Nat) (target : Restricted) (names : List String) (node : Node)
    (props : Props) :
    (restricted target names node props).entries limit =
      Offer.trail limit (props.textOffer? (some node.id) target names).toList := by
  rw [restricted]
  cases htext : props.text? names with
  | none => rw [Props.textOffer?_of_none htext]; rfl
  | some raw =>
    rw [Props.textOffer?_of_some htext]
    exact Restricted.entries_filterValue limit ⟨some node.id, target, .text raw, _⟩

/-- A link or a picture is kept in the allowed form of its offer. -/
theorem allowed?_eq_bind_textOffer? (node : Option String) (target : Restricted)
    (names : List String) (props : Props) :
    allowed? target names props = (props.textOffer? node target names).bind Offer.allowed := by
  rw [allowed?]
  cases htext : props.text? names with
  | none => rw [Props.textOffer?_of_none htext]; rfl
  | some raw => rw [Props.textOffer?_of_some htext]; rfl

end Template

end PageMarkup
