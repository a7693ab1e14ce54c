import Mathlib.Data.List.Basic
import Mathlib.Data.String.Basic

namespace VpsManager.Joined

theorem mem_of_mem_intercalate {α : Type} {separator item : α} {parts : List (List α)}
    (member : item ∈ [separator].intercalate parts) :
    item = separator ∨ ∃ part ∈ parts, item ∈ part := by
  induction parts with
  | nil => cases member
  | cons part rest ih =>
    cases rest with
    | nil => exact .inr ⟨part, List.mem_singleton_self part, by simpa using member⟩
    | cons next rest =>
      simp only [List.intercalate, List.intersperse, List.flatten_cons, List.mem_append,
        List.mem_singleton] at member ih
      rcases member with here | same | later
      · exact .inr ⟨part, List.mem_cons_self, here⟩
      · exact .inl same
      · rcases ih later with same | ⟨other, listed, inside⟩
        · exact .inl same
        · exact .inr ⟨other, List.mem_cons_of_mem part listed, inside⟩

theorem mem_of_mem_splitOnP {α : Type} {isMark : α → Bool} {input part : List α}
    (inside : part ∈ input.splitOnP isMark) : ∀ b ∈ part, b ∈ input ∧ isMark b = false := by
  induction input generalizing part with
  | nil =>
    rw [List.splitOnP_nil, List.mem_singleton] at inside
    subst inside
    exact List.forall_mem_nil _
  | cons first rest ih =>
    rw [List.splitOnP_cons_eq_if_modifyHead] at inside
    have later : ∀ {part}, part ∈ rest.splitOnP isMark →
        ∀ b ∈ part, b ∈ first :: rest ∧ isMark b = false := by
      intro part member b here
      exact ⟨List.mem_cons_of_mem _ (ih member b here).1, (ih member b here).2⟩
    split at inside
    · rcases List.mem_cons.mp inside with rfl | inside
      · exact List.forall_mem_nil _
      · exact later inside
    · rename_i other
      obtain ⟨head, parts, cut⟩ := List.exists_cons_of_ne_nil (List.splitOnP_ne_nil isMark rest)
      rw [cut, List.modifyHead_cons] at inside
      rw [cut] at later
      rcases List.mem_cons.mp inside with rfl | inside
      · refine List.forall_mem_cons.mpr ⟨⟨List.mem_cons_self, ?_⟩, later List.mem_cons_self⟩
        exact Bool.eq_false_iff.mpr other
      · exact later (List.mem_cons_of_mem _ inside)

/-- What stands before the first separator is read back. -/
theorem append_cons_inj_left {α : Type} {x : α} {first one second other : List α}
    (plain : x ∉ first) (plain' : x ∉ second)
    (same : first ++ x :: one = second ++ x :: other) : first = second ∧ one = other := by
  induction first generalizing second with
  | nil =>
    cases second with
    | nil => exact ⟨rfl, (List.cons.inj same).2⟩
    | cons b second =>
      rw [(List.cons.inj same).1] at plain'
      exact absurd List.mem_cons_self plain'
  | cons a first ih =>
    cases second with
    | nil =>
      rw [(List.cons.inj same).1] at plain
      exact absurd List.mem_cons_self plain
    | cons b second =>
      obtain ⟨head, rest⟩ := List.cons.inj same
      rw [List.mem_cons, not_or] at plain plain'
      obtain ⟨tail, after⟩ := ih plain.2 plain'.2 rest
      exact ⟨by rw [head, tail], after⟩

/-- What stands after the last separator is read back. -/
theorem append_cons_inj_right {α : Type} {x : α} {first one second other : List α}
    (plain : x ∉ one) (plain' : x ∉ other)
    (same : first ++ x :: one = second ++ x :: other) : first = second ∧ one = other := by
  have backwards := congrArg List.reverse same
  simp only [List.reverse_append, List.reverse_cons, List.append_assoc,
    List.singleton_append] at backwards
  obtain ⟨after, before⟩ := append_cons_inj_left (by simpa using plain) (by simpa using plain')
    backwards
  exact ⟨List.reverse_injective before, List.reverse_injective after⟩

section Lists

variable {α : Type} [DecidableEq α] {x : α} {parts others : List (List α)}

/-- Each separator stands between two parts or in one. -/
theorem count_intercalate (x : α) (nonempty : parts ≠ []) :
    ([x].intercalate parts).count x + 1 = parts.flatten.count x + parts.length := by
  induction parts with
  | nil => contradiction
  | cons part rest ih =>
    cases rest with
    | nil => simp
    | cons next rest =>
      have more := ih (by simp)
      simp only [List.intercalate, List.intersperse, List.flatten_cons, List.count_append,
        List.length_cons, List.count_singleton_self] at more ⊢
      omega

/-- Parts without the separator are read back from what joins them, among all lists of as
many parts. -/
theorem intercalate_injective (nonempty : parts ≠ []) (plain : x ∉ parts.flatten)
    (length : parts.length = others.length)
    (same : [x].intercalate parts = [x].intercalate others) : parts = others := by
  have othersNonempty : others ≠ [] := by
    rintro rfl
    exact nonempty (List.length_eq_zero_iff.mp length)
  have othersPlain : x ∉ others.flatten := by
    have first := count_intercalate x nonempty
    have second := count_intercalate x othersNonempty
    rw [List.count_eq_zero.mpr plain] at first
    rw [← same] at second
    exact List.count_eq_zero.mp (by omega)
  have apart : ∀ {parts : List (List α)}, x ∉ parts.flatten → ∀ part ∈ parts, x ∉ part :=
    fun plain part member inside => plain (List.mem_flatten.mpr ⟨part, member, inside⟩)
  rw [← List.splitOn_intercalate x (apart plain) nonempty, same,
    List.splitOn_intercalate x (apart othersPlain) othersNonempty]

end Lists

/-- Texts without the separator are read back from what joins them, among all lists of as
many texts. -/
theorem join_injective {separator : String} {c : Char} (single : separator.toList = [c])
    {parts others : List String} (nonempty : parts ≠ [])
    (plain : ∀ part ∈ parts, c ∉ part.toList) (length : parts.length = others.length)
    (same : separator.intercalate parts = separator.intercalate others) : parts = others := by
  have joined := congrArg String.toList same
  rw [String.toList_intercalate, String.toList_intercalate, single] at joined
  have lists : parts.map String.toList = others.map String.toList := by
    apply intercalate_injective _ _ _ joined
    · simpa using nonempty
    · intro inside
      obtain ⟨_, member, inside⟩ := List.mem_flatten.mp inside
      obtain ⟨part, listed, rfl⟩ := List.mem_map.mp member
      exact plain part listed inside
    · simpa using length
  exact List.map_injective_iff.mpr (fun _ _ => String.toList_inj.mp) lists

section Framed

variable {α : Type} {size : Nat → List α} {mark stop : α}

/-- Each part after its size and a mark, and before a mark of its end. -/
def framed (size : Nat → List α) (mark stop : α) (parts : List (List α)) : List α :=
  parts.flatMap fun part => size part.length ++ mark :: (part ++ [stop])

theorem framed_cons (part : List α) (parts : List (List α)) :
    framed size mark stop (part :: parts) =
      size part.length ++ mark :: (part ++ stop :: framed size mark stop parts) := by
  simp [framed]

/-- Any parts are read back, whatever they hold: the sizes say where they end. -/
theorem framed_injective (sizes : Function.Injective size) (plain : ∀ n, mark ∉ size n) :
    Function.Injective (framed size mark stop) := by
  intro parts
  induction parts with
  | nil =>
    intro others same
    cases others with
    | nil => rfl
    | cons other others =>
      have filled := congrArg List.length same
      rw [framed_cons] at filled
      simp [framed] at filled
  | cons part parts ih =>
    intro others same
    cases others with
    | nil =>
      have filled := congrArg List.length same
      rw [framed_cons] at filled
      simp [framed] at filled
    | cons other others =>
      rw [framed_cons, framed_cons] at same
      obtain ⟨length, rest⟩ := append_cons_inj_left (plain _) (plain _) same
      obtain ⟨first, after⟩ := List.append_inj rest (sizes length)
      rw [first, ih (List.cons.inj after).2]

end Framed

end VpsManager.Joined
