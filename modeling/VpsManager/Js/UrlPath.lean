import VpsManager.Js.Url

namespace VpsManager.Js.Url

def isDot (segment : List Char) : Bool := isDoubleDot segment || isSingleDot segment

def walk (path segments : List (List Char)) : List (List Char) := segments.foldl addSegment path

/-- How many segments take one back. -/
def backs (segments : List (List Char)) : Nat := segments.countP isDoubleDot

def names (segments : List (List Char)) : Nat := segments.countP (!isDot ·)

section Steps

variable {path segments : List (List Char)} {segment : List Char}

theorem addSegment_cases (path : List (List Char)) (segment : List Char) :
    (isDoubleDot segment = true ∧ addSegment path segment = path.dropLast ∧
      backs [segment] = 1 ∧ names [segment] = 0) ∨
    (isDot segment = true ∧ addSegment path segment = path ∧
      backs [segment] = 0 ∧ names [segment] = 0) ∨
    (isDot segment = false ∧ addSegment path segment = path ++ [segment] ∧
      backs [segment] = 0 ∧ names [segment] = 1) := by
  unfold addSegment backs names isDot
  cases double : isDoubleDot segment <;> cases single : isSingleDot segment <;>
    simp [double, single]

@[simp] theorem walk_nil (path : List (List Char)) : walk path [] = path := rfl

@[simp] theorem walk_cons (path : List (List Char)) (segment : List Char)
    (segments : List (List Char)) :
    walk path (segment :: segments) = walk (addSegment path segment) segments := rfl

theorem walk_append (path one other : List (List Char)) :
    walk path (one ++ other) = walk (walk path one) other := List.foldl_append

theorem backs_append (one other : List (List Char)) :
    backs (one ++ other) = backs one + backs other :=
  List.countP_append

theorem names_append (one other : List (List Char)) :
    names (one ++ other) = names one + names other :=
  List.countP_append

theorem backs_cons (segment : List Char) (segments : List (List Char)) :
    backs (segment :: segments) = backs [segment] + backs segments :=
  backs_append [segment] segments

theorem names_cons (segment : List Char) (segments : List (List Char)) :
    names (segment :: segments) = names [segment] + names segments :=
  names_append [segment] segments

theorem forall_tails_concat {holds : List (List Char) → Prop} (none : holds []) :
    (∀ tail, tail <:+ segments ++ [segment] → holds tail) ↔
      ∀ tail, tail <:+ segments → holds (tail ++ [segment]) := by
  constructor
  · rintro all tail ⟨front, rfl⟩
    exact all _ ⟨front, (List.append_assoc _ _ _).symm⟩
  · intro all tail within
    rcases List.suffix_concat_iff.mp within with rfl | ⟨shorter, rfl, inner⟩
    · exact none
    · exact all shorter inner

/-- What is left is as long as the added segments of a tail that are not taken back. -/
theorem length_walk_le_iff (segments : List (List Char)) : ∀ k : Nat,
    (walk [] segments).length ≤ k ↔
      ∀ tail, tail <:+ segments → names tail ≤ backs tail + k := by
  induction segments using List.reverseRecOn with
  | nil =>
    intro k
    simp [names, backs]
  | append_singleton segments segment ih =>
    intro k
    rw [forall_tails_concat (by simp [names]), walk_append, walk_cons, walk_nil]
    simp only [names_append, backs_append]
    rcases addSegment_cases (walk [] segments) segment with
      ⟨-, added, back, name⟩ | ⟨-, added, back, name⟩ | ⟨-, added, back, name⟩
    · have shorter : (addSegment (walk [] segments) segment).length ≤ k ↔
          (walk [] segments).length ≤ k + 1 := by
        rw [added, List.length_dropLast]
        omega
      rw [shorter, ih, back, name]
      simp only [Nat.add_zero, Nat.add_assoc, Nat.add_comm 1]
    · rw [added, ih, back, name]
      simp only [Nat.add_zero]
    · rw [added, back, name, List.length_append, List.length_singleton]
      cases k with
      | zero =>
        refine ⟨fun short => absurd short (by omega), fun all => ?_⟩
        exact absurd (all [] (List.nil_suffix)) (by simp [names, backs])
      | succ k =>
        rw [Nat.add_le_add_iff_right, ih]
        simp only [Nat.add_zero, ← Nat.add_assoc, Nat.add_le_add_iff_right]

/-- A segment that finds something to take back leaves what was there before. -/
theorem addSegment_append (base : List (List Char))
    (room : backs [segment] ≤ names [segment] + path.length) :
    addSegment (base ++ path) segment = base ++ addSegment path segment ∧
      (addSegment path segment).length + backs [segment] = names [segment] + path.length := by
  rcases addSegment_cases path segment with
    ⟨double, added, back, name⟩ | ⟨-, added, back, name⟩ | ⟨-, added, back, name⟩
  · have filled : path ≠ [] := by
      rintro rfl
      simp [back, name] at room
    have long := List.length_pos_of_ne_nil filled
    rw [added, back, name, List.length_dropLast]
    refine ⟨?_, by omega⟩
    rw [addSegment, if_pos double, List.dropLast_append_of_ne_nil filled]
  all_goals
    rcases addSegment_cases (base ++ path) segment with
      ⟨-, whole, back', -⟩ | ⟨-, whole, -, name'⟩ | ⟨-, whole, -, name'⟩
    all_goals first | omega | skip
    simp [added, whole, back, name, Nat.add_comm]

/-- Segments that never take back more than they added leave what was there before. -/
theorem walk_append_left (base : List (List Char))
    (stays : ∀ front, front <+: segments → backs front ≤ names front + path.length) :
    walk (base ++ path) segments = base ++ walk path segments := by
  induction segments generalizing path with
  | nil => rfl
  | cons segment segments ih =>
    have later : ∀ front, front <+: segments →
        backs [segment] + backs front ≤ names [segment] + names front + path.length := by
      rintro front ⟨rest, rfl⟩
      have whole := stays (segment :: front) ⟨rest, rfl⟩
      rwa [backs_cons, names_cons] at whole
    obtain ⟨added, length⟩ := addSegment_append base (later [] List.nil_prefix)
    rw [walk_cons, walk_cons, added]
    refine ih fun front within => ?_
    have enough := later front within
    omega

/-- The first segment that is left was there before or was added when nothing was left. -/
theorem first_of_walk {bottom : List Char} {more : List (List Char)}
    (left : walk path segments = bottom :: more) :
    (path.head? = some bottom ∧
      ∀ front, front <+: segments → backs front + 1 ≤ names front + path.length) ∨
    ∃ before after, segments = before ++ bottom :: after ∧ isDot bottom = false ∧
      walk path before = [] ∧ ∀ front, front <+: after → backs front ≤ names front := by
  induction segments generalizing path with
  | nil =>
    rw [walk_nil] at left
    refine .inl ⟨by rw [left, List.head?_cons], fun front within => ?_⟩
    rw [List.prefix_nil.mp within, left]
    simp [backs, names]
  | cons segment segments ih =>
    rw [walk_cons] at left
    rcases ih left with ⟨head, stays⟩ | ⟨before, after, rfl, plain, none, stays⟩
    · have fronts : ∀ {room : Nat}, 1 ≤ room →
          (addSegment path segment).length + backs [segment] ≤ names [segment] + room →
          ∀ front, front <+: segment :: segments → backs front + 1 ≤ names front + room := by
        intro room some' enough front within
        rcases List.prefix_cons_iff.mp within with rfl | ⟨front, rfl, inner⟩
        · simpa [backs, names] using some'
        · have later := stays front inner
          rw [backs_cons, names_cons]
          omega
      rcases addSegment_cases path segment with
        ⟨-, added, back, name⟩ | ⟨-, added, back, name⟩ | ⟨plain, added, back, name⟩
      · rw [added] at head
        cases path with
        | nil => cases head
        | cons first rest =>
          cases rest with
          | nil => cases head
          | cons next rest =>
            refine .inl ⟨head, fronts (Nat.succ_pos _) ?_⟩
            rw [added, back, name]
            simp
      · rw [added] at head
        have filled : 1 ≤ path.length := by
          cases path with
          | nil => cases head
          | cons _ _ => exact Nat.succ_pos _
        exact .inl ⟨head, fronts filled (by rw [added, back, name]; omega)⟩
      · cases path with
        | nil =>
          rw [added] at head stays
          cases head
          exact .inr ⟨[], segments, rfl, plain, rfl, fun front within => by
            simpa using stays front within⟩
        | cons first rest =>
          rw [added] at head
          refine .inl ⟨head, fronts (Nat.succ_pos _) ?_⟩
          rw [added, back, name]
          simp [Nat.add_comm]
    · exact .inr ⟨segment :: before, after, rfl, plain, none, stays⟩

end Steps

variable {segments : List (List Char)} {c : Char}

/-- With the last segment, which is not taken away as others of dots are. -/
theorem addSegments_eq (path : List (List Char)) {last : List Char} :
    addSegments path (segments ++ [last]) =
      walk path (segments ++ [last]) ++ if isDot last then [[]] else [] := by
  induction segments generalizing path with
  | nil =>
    cases double : isDoubleDot last <;> cases single : isSingleDot last <;>
      simp [addSegments, addLast, addSegment, isDot, double, single]
  | cons segment segments ih =>
    obtain ⟨next, rest, same⟩ := List.exists_cons_of_ne_nil
      (List.append_ne_nil_of_right_ne_nil segments (List.cons_ne_nil last []))
    rw [List.cons_append, walk_cons, ← ih, same]
    rfl

/-- An empty segment is left in front of others: all segments before it are taken back, it is
not, and it is not the last one. -/
def RootsEmpty (segments : List (List Char)) : Prop :=
  ∃ before after, segments = before ++ [] :: after ∧ after ≠ [] ∧
    (∀ tail, tail <:+ before → names tail ≤ backs tail) ∧
    ∀ front, front <+: after → backs front ≤ names front

theorem isDot_nil : isDot [] = false := rfl

theorem walk_eq_nil_iff :
    walk [] segments = [] ↔ ∀ tail, tail <:+ segments → names tail ≤ backs tail := by
  rw [← List.length_eq_zero_iff, ← Nat.le_zero, length_walk_le_iff]
  rfl

theorem addSegments_rootsEmpty_iff (filled : segments ≠ []) :
    (∃ next more, addSegments [] segments = [] :: next :: more) ↔ RootsEmpty segments := by
  obtain ⟨front, last, rfl⟩ := (List.eq_nil_or_concat segments).resolve_left filled
  rw [List.concat_eq_append, addSegments_eq]
  constructor
  · rintro ⟨next, more, whole⟩
    -- the first segment that is left is an added one, since the path was empty
    obtain ⟨bottom, rest, left⟩ : ∃ bottom rest, walk [] (front ++ [last]) = bottom :: rest := by
      refine List.exists_cons_of_ne_nil fun none => ?_
      rw [none] at whole
      split at whole <;> cases whole
    have same : bottom = [] := by
      rw [left, List.cons_append] at whole
      exact (List.cons.inj whole).1
    subst same
    rcases first_of_walk left with ⟨head, -⟩ | ⟨before, after, split, -, none, stays⟩
    · cases head
    · refine ⟨before, after, split, ?_, walk_eq_nil_iff.mp none, stays⟩
      rintro rfl
      obtain ⟨rfl, ends⟩ := List.append_inj' split rfl
      cases ends
      rw [walk_append, none] at whole
      cases whole
  · rintro ⟨before, after, split, notLast, none, stays⟩
    have left : walk [] (front ++ [last]) = [] :: walk [] after := by
      rw [split, walk_append, walk_eq_nil_iff.mpr none, walk_cons]
      exact walk_append_left [[]] stays
    have more : walk [] after ++ (if isDot last then [[]] else []) ≠ [] := by
      obtain ⟨after, final, rfl⟩ := (List.eq_nil_or_concat after).resolve_left notLast
      rw [List.concat_eq_append, ← List.cons_append, ← List.append_assoc] at split
      obtain ⟨-, ends⟩ := List.append_inj' split rfl
      cases ends
      rw [List.concat_eq_append, walk_append, walk_cons, walk_nil]
      rcases addSegment_cases (walk [] after) last with
        ⟨double, -, -, -⟩ | ⟨dot, -, -, -⟩ | ⟨-, added, -, -⟩
      · simp [isDot, double]
      · simp [dot]
      · simp [added]
    obtain ⟨next, rest, same⟩ := List.exists_cons_of_ne_nil more
    exact ⟨next, rest, by rw [left, List.cons_append, same]⟩

/-- The characters of encoded bytes stay as they are. -/
structure Spares (set : Char → Bool) : Prop where
  percent : set '%' = false
  digits : ∀ n < 16, set (upperHex n) = false

theorem spares_pathSet : Spares pathSet := ⟨by decide, by decide⟩

theorem spares_specialQuerySet : Spares specialQuerySet := ⟨by decide, by decide⟩

theorem spares_fragmentSet : Spares fragmentSet := ⟨by decide, by decide⟩

theorem spares_isSlash : Spares isSlash := ⟨by decide, by decide⟩

section Encoding

variable {set : Char → Bool} {chars : List Char}

theorem mem_percentEncode (inside : c ∈ percentEncode set chars) :
    (c ∈ chars ∧ set c = false) ∨ ∀ {spared : Char → Bool}, Spares spared → spared c = false := by
  obtain ⟨d, listed, inside⟩ := List.mem_flatMap.mp inside
  rw [encodeChar] at inside
  split at inside
  · right
    intro spared spares
    obtain ⟨b, -, digit⟩ := List.mem_flatMap.mp inside
    have byte := b.toNat_lt
    simp only [encodeByte, List.mem_cons, List.not_mem_nil, or_false] at digit
    rcases digit with rfl | rfl | rfl
    · exact spares.percent
    · exact spares.digits _ (by omega)
    · exact spares.digits _ (Nat.mod_lt _ (by decide))
  · rename_i plain
    rw [List.mem_singleton.mp inside]
    exact .inl ⟨listed, Bool.eq_false_iff.mpr plain⟩

theorem spared_of_mem (spares : Spares set) : ∀ c ∈ percentEncode set chars, set c = false := by
  intro c inside
  rcases mem_percentEncode inside with ⟨-, plain⟩ | digit
  · exact plain
  · exact digit spares

theorem percentEncode_eq_self (plain : ∀ c ∈ chars, set c = false) :
    percentEncode set chars = chars := by
  induction chars with
  | nil => rfl
  | cons c chars ih =>
    obtain ⟨here, there⟩ := List.forall_mem_cons.mp plain
    change encodeChar set c ++ percentEncode set chars = _
    rw [encodeChar, here, ih there]
    rfl

theorem encodeChar_ne_nil (c : Char) : encodeChar set c ≠ [] := by
  unfold encodeChar
  split
  · have size := String.length_utf8EncodeChar c
    have positive := c.utf8Size_pos
    cases encoded : String.utf8EncodeChar c with
    | nil =>
      rw [encoded, List.length_nil] at size
      omega
    | cons b rest => simp [encodeByte]
  · exact List.cons_ne_nil _ _

theorem percentEncode_eq_nil_iff : percentEncode set chars = [] ↔ chars = [] := by
  cases chars with
  | nil => simp [percentEncode]
  | cons c chars => simp [percentEncode, encodeChar_ne_nil]

end Encoding

/-- The segments of dots in lower case. -/
def dotTexts : List (List Char) :=
  [['.'], ['%', '2', 'e'], ['.', '.'], ['.', '%', '2', 'e'], ['%', '2', 'e', '.'],
    ['%', '2', 'e', '%', '2', 'e']]

/-- Within dots a percent sign stands before the code of a dot. -/
theorem percent_of_dotTexts : ∀ text ∈ dotTexts, ∀ tail ∈ text.tails, tail.head? = some '%' →
    tail.take 3 = ['%', '2', 'e'] := by decide

theorem eq_dot_of_byte (inside : (46 : UInt8) ∈ String.utf8EncodeChar c) : c = '.' := by
  have large : ∀ n, 128 ≤ n → n < 256 → (46 : UInt8) ≠ UInt8.ofNat n := by
    intro n high small same
    have code := congrArg UInt8.toNat same
    rw [Go.toNat_byte small] at code
    change 46 = n at code
    omega
  have code : c.val.toNat = c.toNat := rfl
  rw [String.utf8EncodeChar] at inside
  simp only [code] at inside
  split at inside
  · have same := congrArg UInt8.toNat (List.mem_singleton.mp inside)
    rw [Go.toNat_byte (by omega)] at same
    exact Char.toNat_inj.mp same.symm
  -- every byte of a longer encoding is at least 128
  split at inside
  · simp only [List.mem_cons, List.not_mem_nil, or_false] at inside
    rcases inside with same | same <;> exact absurd same (large _ (by omega) (by omega))
  split at inside
  · simp only [List.mem_cons, List.not_mem_nil, or_false] at inside
    rcases inside with same | same | same <;> exact absurd same (large _ (by omega) (by omega))
  · simp only [List.mem_cons, List.not_mem_nil, or_false] at inside
    rcases inside with same | same | same | same <;>
      exact absurd same (large _ (by omega) (by omega))

theorem pathSet_of_dot (inside : c.toLower ∈ ['.', '%', '2', 'e']) : pathSet c = false := by
  by_cases upper : 65 ≤ c.toNat ∧ c.toNat ≤ 90
  · have letters : ∀ n < 91, 65 ≤ n → pathSet (Char.ofNat n) = false := by decide
    have plain := letters c.toNat (by omega) upper.1
    rwa [Char.ofNat_toNat] at plain
  · rw [Go.toLower_eq_self upper] at inside
    simp only [List.mem_cons, List.not_mem_nil, or_false] at inside
    rcases inside with rfl | rfl | rfl | rfl <;> decide

theorem byte_of_dotTexts {text tail : List Char} {b : UInt8} (dots : text ∈ dotTexts)
    (ends : (encodeByte b).map Char.toLower ++ tail <:+ text) : b = 46 := by
  have two : ∀ n < 16, (upperHex n).toLower = '2' → n = 2 := by decide
  have e : ∀ n < 16, (upperHex n).toLower = 'e' → n = 14 := by decide
  have code := percent_of_dotTexts text dots _ ((List.mem_tails _ _).mpr ends) rfl
  simp only [encodeByte, List.map_cons, List.map_nil, List.cons_append, List.take_succ_cons,
    List.take_zero, List.cons.injEq, and_true] at code
  have byte := b.toNat_lt
  have first := two _ (by omega) code.2.1
  have second := e _ (Nat.mod_lt _ (by decide)) code.2.2
  apply UInt8.toNat_inj.mp
  change b.toNat = 46
  omega

theorem spared_of_dotTexts {segment text : List Char} (dots : text ∈ dotTexts)
    (ends : (percentEncode pathSet segment).map Char.toLower <:+ text) :
    ∀ c ∈ segment, pathSet c = false := by
  induction segment with
  | nil => exact List.forall_mem_nil _
  | cons c segment ih =>
    have split : (percentEncode pathSet (c :: segment)).map Char.toLower =
        (encodeChar pathSet c).map Char.toLower ++
          (percentEncode pathSet segment).map Char.toLower := List.map_append
    rw [split] at ends
    refine List.forall_mem_cons.mpr ⟨?_, ih ((List.suffix_append _ _).trans ends)⟩
    by_contra coded
    rw [Bool.not_eq_false] at coded
    have size := String.length_utf8EncodeChar c
    have positive := c.utf8Size_pos
    cases bytes : String.utf8EncodeChar c with
    | nil =>
      rw [bytes, List.length_nil] at size
      omega
    | cons b rest =>
      rw [encodeChar, if_pos coded, bytes, List.flatMap_cons, List.map_append,
        List.append_assoc] at ends
      have dot := eq_dot_of_byte (by
        rw [bytes, byte_of_dotTexts dots ends]
        exact List.mem_cons_self)
      rw [dot] at coded
      revert coded
      decide

/-- Segments of dots are the same before and after they are encoded. -/
theorem contains_percentEncode (segment : List Char) {texts : List (List Char)}
    (dots : ∀ text ∈ texts, text ∈ dotTexts) :
    texts.contains ((percentEncode pathSet segment).map Char.toLower) =
      texts.contains (segment.map Char.toLower) := by
  have chars : ∀ text ∈ dotTexts, ∀ d ∈ text, d ∈ ['.', '%', '2', 'e'] := by simp [dotTexts]
  by_cases plain : ∀ c ∈ segment, pathSet c = false
  · rw [percentEncode_eq_self plain]
  · rw [Bool.eq_iff_iff, List.contains_iff_mem, List.contains_iff_mem]
    constructor
    · intro listed
      exact absurd (spared_of_dotTexts (dots _ listed) List.suffix_rfl) plain
    · intro listed
      refine absurd (fun c inside => pathSet_of_dot ?_) plain
      exact chars _ (dots _ listed) _ (List.mem_map_of_mem inside)

theorem isDoubleDot_percentEncode (segment : List Char) :
    isDoubleDot (percentEncode pathSet segment) = isDoubleDot segment :=
  contains_percentEncode segment (by decide)

theorem isDot_percentEncode (segment : List Char) :
    isDot (percentEncode pathSet segment) = isDot segment := by
  have single : isSingleDot (percentEncode pathSet segment) = isSingleDot segment :=
    contains_percentEncode segment (by decide)
  rw [isDot, isDot, isDoubleDot_percentEncode, single]

/-- Whether an empty segment is left in front can be told before the segments are encoded. -/
theorem rootsEmpty_percentEncode :
    RootsEmpty (segments.map (percentEncode pathSet)) ↔ RootsEmpty segments := by
  have backs' : ∀ segments, backs (segments.map (percentEncode pathSet)) = backs segments := by
    intro segments
    rw [backs, List.countP_map]
    exact List.countP_congr fun segment _ => by
      rw [Function.comp_apply, isDoubleDot_percentEncode]
  have names' : ∀ segments, names (segments.map (percentEncode pathSet)) = names segments := by
    intro segments
    rw [names, List.countP_map]
    exact List.countP_congr fun segment _ => by
      rw [Function.comp_apply, isDot_percentEncode]
  constructor
  · rintro ⟨before, after, split, notLast, none, stays⟩
    obtain ⟨front, rest, rfl, rfl, same⟩ := List.map_eq_append_iff.mp split
    obtain ⟨first, rest, rfl, empty, rfl⟩ := List.map_eq_cons_iff.mp same
    rw [percentEncode_eq_nil_iff] at empty
    subst empty
    refine ⟨front, rest, rfl, fun none => notLast (by rw [none, List.map_nil]), ?_, ?_⟩
    · intro tail within
      have encoded := none _ (within.map (percentEncode pathSet))
      rwa [backs', names'] at encoded
    · intro part within
      have encoded := stays _ (within.map (percentEncode pathSet))
      rwa [backs', names'] at encoded
  · rintro ⟨before, after, rfl, notLast, none, stays⟩
    refine ⟨before.map (percentEncode pathSet), after.map (percentEncode pathSet), by
      simp [percentEncode], by simpa using notLast, ?_, ?_⟩
    · intro tail within
      obtain ⟨tail, inner, rfl⟩ := List.suffix_map_iff.mp within
      rw [backs', names']
      exact none tail inner
    · intro part within
      obtain ⟨part, inner, rfl⟩ := List.prefix_map_iff.mp within
      rw [backs', names']
      exact stays part inner

end VpsManager.Js.Url
