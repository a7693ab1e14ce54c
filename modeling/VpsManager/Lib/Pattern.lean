import Mathlib.Data.List.Basic

/- Patterns that are searched for in a list. A match begins and ends at a place
between two items, and a pattern may look at the items on both sides of its place. -/
namespace VpsManager

/-- The item before a place, and all that follow it. -/
structure Place (α : Type) where
  before : Option α
  rest : List α

inductive Pattern (α : Type)
  | test (holds : Option α → Option α → Bool)
  | one (accepts : α → Bool)
  | many (accepts : α → Bool)
  | seq (first second : Pattern α)
  | alt (first second : Pattern α)

namespace Pattern

variable {α : Type}

def here : Pattern α := .test fun _ _ => true

def optional (pattern : Pattern α) : Pattern α := .alt pattern here

def many1 (accepts : α → Bool) : Pattern α := .seq (.one accepts) (.many accepts)

def times (accepts : α → Bool) : Nat → Pattern α
  | 0 => here
  | n + 1 => .seq (.one accepts) (times accepts n)

/-- Items one after another, each up to a relation. -/
def word (like : α → α → Bool) : List α → Pattern α
  | [] => here
  | [item] => .one (like item)
  | item :: items => .seq (.one (like item)) (word like items)

def any : List (Pattern α) → Pattern α
  | [] => .test fun _ _ => false
  | pattern :: patterns => .alt pattern (any patterns)

/-- The places after some of the leading items that are accepted. -/
def skips (accepts : α → Bool) (before : Option α) : List α → List (Place α)
  | [] => [⟨before, []⟩]
  | item :: rest =>
    ⟨before, item :: rest⟩ :: if accepts item then skips accepts (some item) rest else []

/-- Where a match that begins at a place can end. -/
def ends : Pattern α → Place α → List (Place α)
  | .test holds, place => if holds place.before place.rest.head? then [place] else []
  | .one accepts, place =>
    match place.rest with
    | [] => []
    | item :: rest => if accepts item then [⟨some item, rest⟩] else []
  | .many accepts, place => skips accepts place.before place.rest
  | .seq first second, place => (first.ends place).flatMap second.ends
  | .alt first second, place => first.ends place ++ second.ends place

def places (before : Option α) : List α → List (Place α)
  | [] => [⟨before, []⟩]
  | item :: rest => ⟨before, item :: rest⟩ :: places (some item) rest

def found (pattern : Pattern α) (text : List α) : Bool :=
  (places none text).any fun place => !(pattern.ends place).isEmpty

def InText (text : List α) (place : Place α) : Prop :=
  ∃ front, text = front ++ place.rest ∧ place.before = front.getLast?

variable {text rest : List α} {before : Option α} {place after : Place α} {left right : α → Bool}

theorem InText.next {item : α} (within : InText text ⟨before, item :: rest⟩) :
    InText text ⟨some item, rest⟩ := by
  obtain ⟨front, parts, -⟩ := within
  exact ⟨front ++ [item], by simpa using parts, by simp⟩

theorem inText_of_mem_places (within : InText text ⟨before, rest⟩)
    (listed : place ∈ places before rest) : InText text place := by
  induction rest generalizing before with
  | nil =>
    rw [places, List.mem_singleton] at listed
    rwa [listed]
  | cons item rest ih =>
    rw [places, List.mem_cons] at listed
    rcases listed with rfl | later
    · exact within
    · exact ih within.next later

theorem inText_of_mem_skips {accepts : α → Bool} (within : InText text ⟨before, rest⟩)
    (listed : place ∈ skips accepts before rest) : InText text place := by
  induction rest generalizing before with
  | nil =>
    rw [skips, List.mem_singleton] at listed
    rwa [listed]
  | cons item rest ih =>
    rw [skips, List.mem_cons] at listed
    rcases listed with rfl | later
    · exact within
    · split at later
      · exact ih within.next later
      · cases later

theorem mem_ends_one {accepts : α → Bool} :
    after ∈ (one accepts).ends place ↔
      ∃ item, place.rest = item :: after.rest ∧ after.before = some item ∧
        accepts item = true := by
  obtain ⟨before, rest⟩ := place
  obtain ⟨item, later⟩ := after
  cases rest with
  | nil => simp [ends]
  | cons first rest =>
    by_cases accepted : accepts first = true
    · simp only [ends, accepted, if_true, List.mem_singleton, Place.mk.injEq, List.cons.injEq]
      constructor
      · rintro ⟨rfl, rfl⟩
        exact ⟨first, ⟨rfl, rfl⟩, rfl, accepted⟩
      · rintro ⟨_, ⟨rfl, rfl⟩, rfl, -⟩
        exact ⟨rfl, rfl⟩
    · simp only [ends, accepted, Bool.false_eq_true, if_false, List.not_mem_nil, false_iff,
        List.cons.injEq]
      rintro ⟨_, ⟨rfl, -⟩, -, taken⟩
      exact accepted taken

theorem mem_ends_seq {first second : Pattern α} :
    after ∈ (seq first second).ends place ↔
      ∃ middle ∈ first.ends place, after ∈ second.ends middle :=
  List.mem_flatMap

theorem inText_of_mem_ends {pattern : Pattern α} (within : InText text place)
    (ended : after ∈ pattern.ends place) : InText text after := by
  induction pattern generalizing place after with
  | test holds =>
    simp only [ends] at ended
    split at ended
    · rwa [List.mem_singleton.mp ended]
    · cases ended
  | one accepts =>
    obtain ⟨item, shape, before, -⟩ := mem_ends_one.mp ended
    obtain ⟨start, rest⟩ := place
    obtain ⟨last, later⟩ := after
    simp only at shape before
    subst shape before
    exact within.next
  | many accepts => exact inText_of_mem_skips within ended
  | seq first second one two =>
    obtain ⟨middle, begun, finished⟩ := mem_ends_seq.mp ended
    exact two (one within begun) finished
  | alt first second one two =>
    rcases List.mem_append.mp ended with left | right
    · exact one within left
    · exact two within right

/-- Every text in which the pattern matches somewhere has the property. -/
def Shows (holds : List α → Prop) (pattern : Pattern α) : Prop :=
  ∀ text place after, InText text place → after ∈ pattern.ends place → holds text

/-- Every match ends with an item of this kind. -/
def EndsWith (accepts : α → Bool) (pattern : Pattern α) : Prop :=
  ∀ place after, after ∈ pattern.ends place →
    ∃ item, after.before = some item ∧ accepts item = true

/-- Items of the two kinds stand next to each other. -/
def adjacent (left right : α → Bool) : List α → Bool
  | item :: next :: rest => (left item && right next) || adjacent left right (next :: rest)
  | _ => false

theorem adjacent_of_parts {item next : α} (front rest : List α) (first : left item = true)
    (second : right next = true) : adjacent left right (front ++ item :: next :: rest) = true := by
  induction front with
  | nil => simp [adjacent, first, second]
  | cons head front ih =>
    cases front with
    | nil => simp [adjacent, first, second]
    | cons other front =>
      rw [List.cons_append, List.cons_append, adjacent, Bool.or_eq_true]
      exact .inr ih

/-- In joined texts the two stand within one part or at the border. -/
theorem adjacent_append {first second : List α}
    (border : ∀ item ∈ first.getLast?, left item = false ∨
      ∀ next ∈ second.head?, right next = false) (one : adjacent left right first = false)
    (two : adjacent left right second = false) : adjacent left right (first ++ second) = false := by
  induction first with
  | nil => exact two
  | cons item first ih =>
    cases first with
    | nil =>
      cases second with
      | nil => rfl
      | cons next second =>
        rw [List.singleton_append, adjacent, two, Bool.or_false, Bool.and_eq_false_iff]
        rcases border item rfl with other | other
        · exact .inl other
        · exact .inr (other next rfl)
    | cons next first =>
      rw [adjacent, Bool.or_eq_false_iff] at one
      rw [List.cons_append, List.cons_append, adjacent, Bool.or_eq_false_iff]
      exact ⟨one.1, ih (by simpa using border) one.2⟩

theorem adjacent_of_none (none : ∀ item ∈ text, left item = false) :
    adjacent left right text = false := by
  induction text with
  | nil => rfl
  | cons item text ih =>
    cases text with
    | nil => rfl
    | cons next text =>
      rw [List.forall_mem_cons] at none
      rw [adjacent, none.1, ih none.2]
      rfl

theorem holds_of_found {holds : List α → Prop} {pattern : Pattern α} (shows : Shows holds pattern)
    (matched : pattern.found text = true) : holds text := by
  rw [found, List.any_eq_true] at matched
  obtain ⟨place, listed, ending⟩ := matched
  obtain ⟨after, ended⟩ : ∃ after, after ∈ pattern.ends place := by
    apply List.exists_mem_of_ne_nil
    rintro none
    simp [none] at ending
  exact shows text place after (inText_of_mem_places ⟨[], rfl, rfl⟩ listed) ended

section Rules

variable {holds : List α → Prop} {accepts : α → Bool} {first second : Pattern α}
  {patterns : List (Pattern α)} {like : α → α → Bool} {item : α} {items : List α}

theorem Shows.mono {weaker : List α → Prop} (shows : Shows holds first)
    (imp : ∀ text, holds text → weaker text) : Shows weaker first :=
  fun text place after within ended => imp text (shows text place after within ended)

theorem Shows.seq_first (shows : Shows holds first) : Shows holds (.seq first second) := by
  intro text place after within ended
  obtain ⟨middle, begun, -⟩ := mem_ends_seq.mp ended
  exact shows text place middle within begun

theorem Shows.seq_second (shows : Shows holds second) : Shows holds (.seq first second) := by
  intro text place after within ended
  obtain ⟨middle, begun, finished⟩ := mem_ends_seq.mp ended
  exact shows text middle after (inText_of_mem_ends within begun) finished

theorem Shows.any (each : ∀ pattern ∈ patterns, Shows holds pattern) :
    Shows holds (any patterns) := by
  intro text place after within ended
  induction patterns with
  | nil => cases ended
  | cons pattern patterns ih =>
    rw [List.forall_mem_cons] at each
    rcases List.mem_append.mp ended with own | other
    · exact each.1 text place after within own
    · exact ih each.2 other

theorem shows_one : Shows (fun text => ∃ item ∈ text, accepts item = true) (.one accepts) := by
  intro text place after within ended
  obtain ⟨item, shape, -, accepted⟩ := mem_ends_one.mp ended
  obtain ⟨front, parts, -⟩ := within
  exact ⟨item, by simp [parts, shape], accepted⟩

theorem shows_word (listed : item ∈ items) :
    Shows (fun text => ∃ other ∈ text, like item other = true) (word like items) := by
  induction items with
  | nil => cases listed
  | cons head items ih =>
    cases items with
    | nil =>
      rw [List.mem_singleton] at listed
      rw [listed]
      exact shows_one
    | cons next items =>
      rcases List.mem_cons.mp listed with rfl | later
      · exact shows_one.seq_first
      · exact (ih later).seq_second

theorem endsWith_one : EndsWith accepts (.one accepts) := by
  intro place after ended
  obtain ⟨item, -, before, accepted⟩ := mem_ends_one.mp ended
  exact ⟨item, before, accepted⟩

theorem EndsWith.seq_second (last : EndsWith accepts second) :
    EndsWith accepts (.seq first second) := by
  intro place after ended
  obtain ⟨middle, -, finished⟩ := mem_ends_seq.mp ended
  exact last middle after finished

theorem EndsWith.any (each : ∀ pattern ∈ patterns, EndsWith accepts pattern) :
    EndsWith accepts (any patterns) := by
  intro place after ended
  induction patterns with
  | nil => cases ended
  | cons pattern patterns ih =>
    rw [List.forall_mem_cons] at each
    rcases List.mem_append.mp ended with own | other
    · exact each.1 place after own
    · exact ih each.2 other

theorem endsWith_word (nonempty : items ≠ [])
    (final : ∀ item ∈ items.getLast?, ∀ other, like item other = true → accepts other = true) :
    EndsWith accepts (word like items) := by
  induction items with
  | nil => exact absurd rfl nonempty
  | cons head items ih =>
    cases items with
    | nil =>
      intro place after ended
      obtain ⟨item, before, accepted⟩ := endsWith_one place after ended
      exact ⟨item, before, final head rfl item accepted⟩
    | cons next items =>
      exact (ih (List.cons_ne_nil next items) (by simpa using final)).seq_second

/-- What a match ends with stands before what has to follow. -/
theorem shows_adjacent {third : Pattern α} (last : EndsWith left first) :
    Shows (fun text => adjacent left right text = true)
      (.seq first (.seq (.one right) third)) := by
  intro text place after within ended
  obtain ⟨middle, begun, finished⟩ := mem_ends_seq.mp ended
  obtain ⟨following, next, -⟩ := mem_ends_seq.mp finished
  obtain ⟨item, before, isLeft⟩ := last place middle begun
  obtain ⟨follower, shape, -, isRight⟩ := mem_ends_one.mp next
  obtain ⟨front, parts, latest⟩ := inText_of_mem_ends within begun
  rw [before, eq_comm, List.getLast?_eq_some_iff] at latest
  obtain ⟨front, rfl⟩ := latest
  rw [parts, shape, List.append_assoc, List.singleton_append]
  exact adjacent_of_parts front following.rest isLeft isRight

end Rules

end Pattern

end VpsManager
