import VpsManager.Go.Size

namespace VpsManager.Js

open Go

abbrev Units := List UInt16

/-- A character, or a surrogate that is not part of a pair. -/
inductive Point
  | scalar (c : Char)
  | lone (unit : UInt16)
  deriving DecidableEq, Repr

def isHigh (unit : UInt16) : Bool := 0xD800 ≤ unit && unit < 0xDC00

def isLow (unit : UInt16) : Bool := 0xDC00 ≤ unit && unit < 0xE000

def single (unit : UInt16) : Point :=
  if isHigh unit || isLow unit then .lone unit else .scalar (Char.ofNat unit.toNat)

def paired (high low : UInt16) : Char :=
  Char.ofNat (0x10000 + (high.toNat - 0xD800) * 0x400 + (low.toNat - 0xDC00))

def points : Units → List Point
  | [] => []
  | [unit] => [single unit]
  | first :: second :: rest =>
    if isHigh first && isLow second then .scalar (paired first second) :: points rest
    else single first :: points (second :: rest)

def charUnits (c : Char) : Units :=
  if c.toNat < 0x10000 then [UInt16.ofNat c.toNat]
  else [UInt16.ofNat (0xD800 + (c.toNat - 0x10000) / 0x400),
    UInt16.ofNat (0xDC00 + (c.toNat - 0x10000) % 0x400)]

def Point.units : Point → Units
  | .scalar c => charUnits c
  | .lone unit => [unit]

def ofString (text : String) : Units := text.toList.flatMap charUnits

/-- What `encoding/json` puts in the place of a surrogate without its pair. -/
def replacement : Char := Char.ofNat 0xFFFD

def Point.char : Point → Char
  | .scalar c => c
  | .lone _ => replacement

/-- The string that is decoded from the JSON text of the units. -/
def text (units : Units) : String := String.ofList ((points units).map Point.char)

theorem isHigh_iff {unit : UInt16} :
    isHigh unit = true ↔ 0xD800 ≤ unit.toNat ∧ unit.toNat < 0xDC00 := by
  simp [isHigh, UInt16.le_iff_toNat_le, UInt16.lt_iff_toNat_lt]

theorem isLow_iff {unit : UInt16} :
    isLow unit = true ↔ 0xDC00 ≤ unit.toNat ∧ unit.toNat < 0xE000 := by
  simp [isLow, UInt16.le_iff_toNat_le, UInt16.lt_iff_toNat_lt]

theorem points_cons {unit : UInt16} {rest : Units}
    (apart : isHigh unit = false ∨ ∀ next ∈ rest.head?, isLow next = false) :
    points (unit :: rest) = single unit :: points rest := by
  cases rest with
  | nil => rfl
  | cons next rest =>
    rw [points, if_neg]
    rw [Bool.and_eq_true]
    rintro ⟨high, low⟩
    rcases apart with plain | plain
    · rw [high] at plain
      cases plain
    · rw [plain next rfl] at low
      cases low

theorem char_range (c : Char) : c.toNat < 0xD800 ∨ 0xDFFF < c.toNat ∧ c.toNat < 0x110000 :=
  c.valid

/-- The units of a character are itself, or a high and a low surrogate. -/
theorem charUnits_cases (c : Char) :
    (∃ unit, charUnits c = [unit] ∧ single unit = .scalar c ∧ isHigh unit = false ∧
      isLow unit = false) ∨
    ∃ high low, charUnits c = [high, low] ∧ isHigh high = true ∧ isLow low = true ∧
      paired high low = c := by
  have range := char_range c
  unfold charUnits
  split
  · rename_i small
    left
    have code : (UInt16.ofNat c.toNat).toNat = c.toNat := UInt16.toNat_ofNat_of_lt' small
    have plain : isHigh (UInt16.ofNat c.toNat) = false ∧ isLow (UInt16.ofNat c.toNat) = false := by
      constructor
      · rw [Bool.eq_false_iff, ne_eq, isHigh_iff, code]
        omega
      · rw [Bool.eq_false_iff, ne_eq, isLow_iff, code]
        omega
    refine ⟨_, rfl, ?_, plain⟩
    rw [single, plain.1, plain.2, code, Char.ofNat_toNat]
    rfl
  · right
    have first : (UInt16.ofNat (0xD800 + (c.toNat - 0x10000) / 0x400)).toNat =
        0xD800 + (c.toNat - 0x10000) / 0x400 :=
      UInt16.toNat_ofNat_of_lt' (show _ < 2 ^ 16 by omega)
    have second : (UInt16.ofNat (0xDC00 + (c.toNat - 0x10000) % 0x400)).toNat =
        0xDC00 + (c.toNat - 0x10000) % 0x400 :=
      UInt16.toNat_ofNat_of_lt' (show _ < 2 ^ 16 by omega)
    refine ⟨_, _, rfl, ?_, ?_, ?_⟩
    · rw [isHigh_iff, first]
      omega
    · rw [isLow_iff, second]
      omega
    · rw [paired, first, second]
      have code : 0x10000 + (0xD800 + (c.toNat - 0x10000) / 0x400 - 0xD800) * 0x400 +
          (0xDC00 + (c.toNat - 0x10000) % 0x400 - 0xDC00) = c.toNat := by omega
      rw [code, Char.ofNat_toNat]

/-- What does not begin with a low surrogate. -/
def Point.Starts : Point → Prop
  | .scalar _ => True
  | .lone unit => isHigh unit = true

theorem head_of_starts {written : List Point} (starts : ∀ point ∈ written, point.Starts) :
    ∀ unit ∈ (written.flatMap Point.units).head?, isLow unit = false := by
  cases written with
  | nil => nofun
  | cons point written =>
    have high : ∀ {unit : UInt16}, isHigh unit = true → isLow unit = false := by
      intro unit isHigh
      rw [isHigh_iff] at isHigh
      rw [Bool.eq_false_iff, ne_eq, isLow_iff]
      omega
    have here := starts point List.mem_cons_self
    cases point with
    | lone unit =>
      rintro _ ⟨⟩
      exact high here
    | scalar c =>
      rcases charUnits_cases c with
        ⟨unit, units, -, -, plain⟩ | ⟨first, second, units, isHigh, -, -⟩
      · simp only [List.flatMap_cons, Point.units, units]
        rintro _ ⟨⟩
        exact plain
      · simp only [List.flatMap_cons, Point.units, units]
        rintro _ ⟨⟩
        exact high isHigh

/-- Points of which none begins with a low surrogate are read back from their units. -/
theorem points_flatMap {written : List Point} (starts : ∀ point ∈ written, point.Starts) :
    points (written.flatMap Point.units) = written := by
  induction written with
  | nil => rfl
  | cons point written ih =>
    obtain ⟨here, there⟩ := List.forall_mem_cons.mp starts
    have next := head_of_starts there
    cases point with
    | lone unit =>
      change points (unit :: written.flatMap Point.units) = _
      rw [points_cons (.inr next), ih there, single, show isHigh unit = true from here]
      rfl
    | scalar c =>
      rw [List.flatMap_cons, Point.units]
      rcases charUnits_cases c with
        ⟨unit, units, same, plain, -⟩ | ⟨first, second, units, isHigh, isLow, same⟩
      · rw [units, List.singleton_append, points_cons (.inl plain), ih there, same]
      · rw [units, List.cons_append, List.singleton_append, points, isHigh, isLow,
          Bool.and_self, if_pos rfl, ih there, same]

theorem points_ofString (content : String) :
    points (ofString content) = content.toList.map Point.scalar := by
  have written : ofString content = (content.toList.map Point.scalar).flatMap Point.units := by
    rw [ofString, List.flatMap_map]
    rfl
  rw [written, points_flatMap]
  intro point inside
  obtain ⟨c, -, rfl⟩ := List.mem_map.mp inside
  trivial

theorem text_ofString (content : String) : text (ofString content) = content := by
  rw [text, points_ofString, List.map_map]
  exact (congrArg String.ofList (List.map_id _)).trans String.ofList_toList

theorem points_append {first : Units} (plain : ∀ unit ∈ first, isHigh unit = false)
    (rest : Units) : points (first ++ rest) = first.map single ++ points rest := by
  induction first with
  | nil => rfl
  | cons unit first ih =>
    obtain ⟨here, there⟩ := List.forall_mem_cons.mp plain
    rw [List.cons_append, points_cons (.inl here), ih there]
    rfl

theorem text_append {first : Units} (plain : ∀ unit ∈ first, isHigh unit = false)
    (rest : Units) : text (first ++ rest) = text first ++ text rest := by
  have alone := points_append plain []
  rw [List.append_nil, show points [] = [] from rfl, List.append_nil] at alone
  rw [text, text, text, points_append plain, alone, List.map_append, String.ofList_append]

end VpsManager.Js
