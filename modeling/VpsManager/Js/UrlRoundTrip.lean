import VpsManager.Js.UrlPath
import VpsManager.Lib.Joined

namespace VpsManager.Js.Url

structure PathWritten (path : List (List Char)) : Prop where
  filled : path ≠ []
  chars : ∀ segment ∈ path, ∀ c ∈ segment, pathSet c = false ∧ isSlash c = false
  dots : ∀ segment ∈ path, isDot segment = false

structure Written (url : Url) : Prop where
  path : PathWritten url.path
  query : ∀ chars, url.query = some chars → ∀ c ∈ chars, specialQuerySet c = false
  fragment : ∀ chars, url.fragment = some chars → ∀ c ∈ chars, fragmentSet c = false

variable {segments : List (List Char)} {url : Url} {chars first : List Char} {c : Char}

theorem mem_walk {path : List (List Char)} {segment : List Char}
    (left : segment ∈ walk path segments) :
    segment ∈ path ∨ segment ∈ segments ∧ isDot segment = false := by
  induction segments generalizing path with
  | nil => exact .inl left
  | cons first segments ih =>
    rcases ih left with before | ⟨later, plain⟩
    · rcases addSegment_cases path first with
        ⟨-, added, -, -⟩ | ⟨-, added, -, -⟩ | ⟨plain, added, -, -⟩
      · exact .inl (List.mem_of_mem_dropLast (added ▸ before))
      · exact .inl (added ▸ before)
      · rw [added, List.mem_append, List.mem_singleton] at before
        rcases before with old | rfl
        · exact .inl old
        · exact .inr ⟨List.mem_cons_self, plain⟩
    · exact .inr ⟨List.mem_cons_of_mem first later, plain⟩

theorem pathWritten_addSegments (filled : segments ≠ [])
    (chars : ∀ segment ∈ segments, ∀ c ∈ segment, pathSet c = false ∧ isSlash c = false) :
    PathWritten (addSegments [] segments) := by
  obtain ⟨front, last, rfl⟩ := (List.eq_nil_or_concat segments).resolve_left filled
  rw [List.concat_eq_append] at chars ⊢
  rw [addSegments_eq]
  have members : ∀ segment ∈ walk [] (front ++ [last]) ++ (if isDot last then [[]] else []),
      segment = [] ∨ segment ∈ front ++ [last] ∧ isDot segment = false := by
    intro segment member
    rcases List.mem_append.mp member with left | empty
    · rcases mem_walk left with old | new
      · cases old
      · exact .inr new
    · split at empty
      · exact .inl (List.mem_singleton.mp empty)
      · cases empty
  refine ⟨?_, fun segment member => ?_, fun segment member => ?_⟩
  · cases dot : isDot last with
    | true => simp
    | false =>
      rw [walk_append, walk_cons, walk_nil]
      rcases addSegment_cases (walk [] front) last with
        ⟨double, -, -, -⟩ | ⟨other, -, -, -⟩ | ⟨-, added, -, -⟩
      · rw [isDot, double] at dot
        cases dot
      · rw [other] at dot
        cases dot
      · simp [added]
  · rcases members segment member with rfl | ⟨listed, -⟩
    · exact List.forall_mem_nil _
    · exact chars segment listed
  · rcases members segment member with rfl | ⟨-, plain⟩
    · exact isDot_nil
    · exact plain

theorem pathWritten_readPath (chars : List Char) : PathWritten (readPath [] chars) := by
  refine pathWritten_addSegments ?_ ?_
  · simp
  · intro segment member c inside
    obtain ⟨part, split, rfl⟩ := List.mem_map.mp member
    refine ⟨spared_of_mem spares_pathSet c inside, ?_⟩
    rcases mem_percentEncode inside with ⟨raw, -⟩ | digit
    · exact (Joined.mem_of_mem_splitOnP split c raw).2
    · exact digit spares_isSlash

@[simp] theorem path_readFragment (url : Url) (chars : List Char) :
    (readFragment url chars).path = url.path := by
  cases chars <;> rfl

@[simp] theorem query_readFragment (url : Url) (chars : List Char) :
    (readFragment url chars).query = url.query := by
  cases chars <;> rfl

@[simp] theorem origin_readFragment (url : Url) (chars : List Char) :
    (readFragment url chars).origin = url.origin := by
  cases chars <;> rfl

theorem fragment_readFragment (none : url.fragment = none) {fragment : List Char}
    (read : (readFragment url chars).fragment = some fragment) :
    ∀ c ∈ fragment, fragmentSet c = false := by
  cases chars with
  | nil =>
    rw [readFragment, none] at read
    cases read
  | cons mark chars =>
    cases read
    exact spared_of_mem spares_fragmentSet

@[simp] theorem path_readQuery (url : Url) (chars : List Char) :
    (readQuery url chars).path = url.path := by
  unfold readQuery
  split <;> simp

@[simp] theorem origin_readQuery (url : Url) (chars : List Char) :
    (readQuery url chars).origin = url.origin := by
  unfold readQuery
  split
  · rw [origin_readFragment]
    rfl
  · rw [origin_readFragment]

@[simp] theorem path_readRest (url : Url) (chars : List Char) :
    (readRest url chars).path = readPath url.path (chars.takeWhile (!endsPath ·)) :=
  path_readQuery _ _

@[simp] theorem origin_readRest (url : Url) (chars : List Char) :
    (readRest url chars).origin = url.origin :=
  origin_readQuery _ _

theorem written_readRest (path : url.path = []) (query : url.query = none)
    (fragment : url.fragment = none) (chars : List Char) : Written (readRest url chars) := by
  refine ⟨?_, ?_, ?_⟩
  · rw [path_readRest, path]
    exact pathWritten_readPath _
  · intro part read
    rw [readRest, readQuery.eq_def] at read
    split at read
    · rw [query_readFragment] at read
      cases read
      exact spared_of_mem spares_specialQuerySet
    · rw [query_readFragment, query] at read
      cases read
  · intro part read
    rw [readRest, readQuery.eq_def] at read
    split at read
    · exact fragment_readFragment (by exact fragment) read
    · exact fragment_readFragment (by exact fragment) read

/-- Path, query and fragment. -/
def relativeText (url : Url) : List Char := url.pathname ++ url.search ++ url.hash

theorem addSegments_plain (path : List (List Char))
    (plain : ∀ segment ∈ segments, isDot segment = false) :
    addSegments path segments = path ++ segments := by
  have kinds : ∀ {segment}, isDot segment = false →
      isDoubleDot segment = false ∧ isSingleDot segment = false := by
    intro segment dot
    rwa [isDot, Bool.or_eq_false_iff] at dot
  induction segments generalizing path with
  | nil => simp [addSegments]
  | cons first segments ih =>
    obtain ⟨here, there⟩ := List.forall_mem_cons.mp plain
    obtain ⟨double, single⟩ := kinds here
    cases segments with
    | nil => simp [addSegments, addLast, double, single]
    | cons next segments =>
      rw [addSegments, ih _ there, addSegment, double, single]
      · simp
      · simp

theorem splitOnP_segments
    (plain : ∀ segment ∈ first :: segments, ∀ c ∈ segment, isSlash c = false) :
    (first ++ segments.flatMap ('/' :: ·)).splitOnP isSlash = first :: segments := by
  induction segments generalizing first with
  | nil =>
    rw [List.flatMap_nil, List.append_nil]
    exact List.splitOnP_eq_singleton (plain first List.mem_cons_self)
  | cons next segments ih =>
    obtain ⟨here, there⟩ := List.forall_mem_cons.mp plain
    rw [List.flatMap_cons, List.cons_append,
      List.splitOnP_append_cons_of_forall_mem here _ (by decide), ih there]

theorem readPath_segments (written : PathWritten (first :: segments)) :
    readPath [] (first ++ segments.flatMap ('/' :: ·)) = first :: segments := by
  have same : (first :: segments).map (percentEncode pathSet) = first :: segments := by
    refine (List.map_congr_left fun segment listed => ?_).trans (List.map_id _)
    exact percentEncode_eq_self fun c inside => (written.chars segment listed c inside).1
  rw [readPath, splitOnP_segments fun segment listed c inside =>
    (written.chars segment listed c inside).2, same, addSegments_plain [] written.dots]
  rfl

theorem clean_eq_self (plain : ∀ c ∈ chars, isBlank c = false) : clean chars = chars := by
  have front : chars.dropWhile isBlank = chars := by
    cases chars with
    | nil => rfl
    | cons c chars => rw [List.dropWhile_cons_of_neg (by simp [plain c List.mem_cons_self])]
  have back : chars.rdropWhile isBlank = chars := by
    rw [List.rdropWhile_eq_self_iff]
    intro filled
    simp [plain _ (List.getLast_mem filled)]
  rw [clean, front, back, List.filter_eq_self]
  intro c inside
  have printed := plain c inside
  simp only [isBlank, decide_eq_false_iff_not, not_le] at printed
  simp only [isTabOrNewline, Bool.not_eq_true', Bool.or_eq_false_iff, beq_eq_false_iff_ne]
  refine ⟨⟨?_, ?_⟩, ?_⟩ <;> (rintro rfl; revert printed; decide)

theorem isBlank_eq_false (coded : c0ControlSet c = false) (space : c ≠ ' ') :
    isBlank c = false := by
  have apart : c.toNat ≠ 32 := fun same => space (Char.toNat_inj.mp same)
  simp only [c0ControlSet, Bool.or_eq_false_iff, decide_eq_false_iff_not] at coded
  simp only [isBlank, decide_eq_false_iff_not]
  omega

theorem blank_of_pathSet (plain : pathSet c = false) : isBlank c = false ∧ endsPath c = false := by
  simp only [pathSet, querySet, Bool.or_eq_false_iff, List.contains_eq_mem,
    decide_eq_false_iff_not, List.mem_cons, List.not_mem_nil, or_false, not_or] at plain
  refine ⟨isBlank_eq_false plain.1.1 plain.1.2.1, ?_⟩
  simp [endsPath, plain.1.2.2.2.1, plain.2.1]

theorem blank_of_specialQuerySet (plain : specialQuerySet c = false) : isBlank c = false := by
  simp only [specialQuerySet, querySet, Bool.or_eq_false_iff, List.contains_eq_mem,
    decide_eq_false_iff_not, List.mem_cons, List.not_mem_nil, or_false, not_or] at plain
  exact isBlank_eq_false plain.1.1 plain.1.2.1

theorem blank_of_fragmentSet (plain : fragmentSet c = false) : isBlank c = false := by
  simp only [fragmentSet, Bool.or_eq_false_iff, List.contains_eq_mem,
    decide_eq_false_iff_not, List.mem_cons, List.not_mem_nil, or_false, not_or] at plain
  exact isBlank_eq_false plain.1 plain.2.1

theorem mem_marked {mark : Char} {part : Option (List Char)} (inside : c ∈ marked mark part) :
    c = mark ∨ ∃ chars, part = some chars ∧ c ∈ chars := by
  unfold marked at inside
  split at inside
  · cases inside
  · cases inside
  · rename_i chars _
    rcases List.mem_cons.mp inside with rfl | inside
    · exact .inl rfl
    · exact .inr ⟨chars, rfl, inside⟩

theorem mem_pathname (inside : c ∈ url.pathname) : c = '/' ∨ ∃ segment ∈ url.path, c ∈ segment := by
  obtain ⟨segment, listed, inside⟩ := List.mem_flatMap.mp inside
  rcases List.mem_cons.mp inside with rfl | inside
  · exact .inl rfl
  · exact .inr ⟨segment, listed, inside⟩

theorem blank_of_relativeText (written : Written url) :
    ∀ c ∈ url.relativeText, isBlank c = false := by
  intro c inside
  rw [relativeText, List.mem_append, List.mem_append] at inside
  rcases inside with (path | query) | fragment
  · rcases mem_pathname path with rfl | ⟨segment, listed, inside⟩
    · decide
    · exact (blank_of_pathSet (written.path.chars segment listed c inside).1).1
  · rcases mem_marked query with rfl | ⟨chars, some', inside⟩
    · decide
    · exact blank_of_specialQuerySet (written.query chars some' c inside)
  · rcases mem_marked fragment with rfl | ⟨chars, some', inside⟩
    · decide
    · exact blank_of_fragmentSet (written.fragment chars some' c inside)

/-- What follows the path begins with one of the marks that end a path. -/
theorem head_search_hash (url : Url) :
    url.search ++ url.hash = [] ∨ ∃ mark rest, url.search ++ url.hash = mark :: rest ∧
      endsPath mark = true := by
  have parts : ∀ (mark : Char) (part : Option (List Char)),
      marked mark part = [] ∨ ∃ rest, marked mark part = mark :: rest := by
    intro mark part
    unfold marked
    split
    · exact .inl rfl
    · exact .inl rfl
    · exact .inr ⟨_, rfl⟩
  rcases parts '?' url.query with none | ⟨rest, some'⟩
  · rw [search, none, List.nil_append, hash]
    rcases parts '#' url.fragment with none | ⟨rest, some'⟩
    · exact .inl none
    · exact .inr ⟨_, rest, some', rfl⟩
  · exact .inr ⟨_, rest ++ url.hash, by rw [search, some', List.cons_append], rfl⟩

theorem clean_slash (chars : List Char) :
    clean ('/' :: chars) = '/' :: (chars.rdropWhile isBlank).filter (!isTabOrNewline ·) := by
  have kept : ('/' :: chars).rdropWhile isBlank = '/' :: chars.rdropWhile isBlank := by
    rw [List.rdropWhile, List.reverse_cons, List.dropWhile_append]
    split
    · rename_i empty
      rw [List.isEmpty_iff] at empty
      rw [List.rdropWhile, empty]
      rfl
    · rw [List.reverse_append]
      rfl
  rw [clean, List.dropWhile_cons_of_neg (by decide), kept, List.filter_cons_of_pos (by decide)]

theorem parse_slash {input : String} (cleaned : clean input.toList = '/' :: chars)
    (parser : Parser) (base : Url) :
    parse parser input (some base) = .ofOption (readSlash parser.hosts base chars) := by
  have noScheme : splitScheme ('/' :: chars) = none := by
    simp [splitScheme, List.dropWhile, show isSchemeChar '/' = false by decide]
  rw [parse, cleaned, noScheme]
  rfl

theorem endsPath_segments (written : PathWritten (first :: segments)) :
    ∀ c ∈ first ++ segments.flatMap ('/' :: ·), endsPath c = false := by
  intro c inside
  rcases List.mem_append.mp inside with here | there
  · exact (blank_of_pathSet (written.chars first List.mem_cons_self c here).1).2
  · obtain ⟨segment, listed, inside⟩ := List.mem_flatMap.mp there
    rcases List.mem_cons.mp inside with rfl | inside
    · decide
    · exact (blank_of_pathSet
        (written.chars segment (List.mem_cons_of_mem first listed) c inside).1).2

/-- A path that does not begin with an empty segment before others has one slash in front. -/
theorem relativeText_oneSlash (written : Written url)
    (single : ¬ ∃ next more, url.path = [] :: next :: more) :
    ∃ rest, url.relativeText = '/' :: rest ∧ startsWithSlash rest = false ∧
      readPath [] (rest.takeWhile (!endsPath ·)) = url.path := by
  obtain ⟨first, segments, path⟩ := List.exists_cons_of_ne_nil written.path.filled
  have parts : PathWritten (first :: segments) := path ▸ written.path
  refine ⟨first ++ segments.flatMap ('/' :: ·) ++ (url.search ++ url.hash), ?_, ?_, ?_⟩
  · simp [relativeText, pathname, path]
  · cases first with
    | cons c first => exact (parts.chars _ List.mem_cons_self c List.mem_cons_self).2
    | nil =>
      cases segments with
      | cons next more => exact absurd ⟨next, more, path⟩ single
      | nil =>
        rcases head_search_hash url with none | ⟨mark, after, some', ends⟩
        · simp [none, startsWithSlash]
        · simp only [endsPath, Bool.or_eq_true, beq_iff_eq] at ends
          rcases ends with rfl | rfl <;> simp [some', startsWithSlash, isSlash]
  · rw [List.takeWhile_append_of_pos fun c inside => by rw [endsPath_segments parts c inside]; rfl]
    rcases head_search_hash url with none | ⟨mark, after, some', ends⟩
    · rw [none, List.takeWhile_nil, List.append_nil, readPath_segments parts, path]
    · rw [some', List.takeWhile_cons_of_neg (by simp [ends]), List.append_nil,
        readPath_segments parts, path]

/-- Such a path is found again by who parses it against a base, and nothing of the base's
origin changes. -/
theorem parse_relativeText (written : Written url)
    (single : ¬ ∃ next more, url.path = [] :: next :: more) (parser : Parser) (base : Url) :
    ∃ found, parse parser (String.ofList url.relativeText) (some base) = .url found ∧
      found.path = url.path ∧ found.origin = base.origin := by
  obtain ⟨rest, text, oneSlash, path⟩ := relativeText_oneSlash written single
  have cleaned : clean (String.ofList url.relativeText).toList = '/' :: rest := by
    rw [String.toList_ofList, clean_eq_self (blank_of_relativeText written), text]
  refine ⟨readRest { base with path := [], query := none, fragment := none } rest, ?_, ?_, ?_⟩
  · rw [parse_slash cleaned, readSlash, oneSlash]
    rfl
  · rw [path_readRest, path]
  · rw [origin_readRest]
    rfl

end VpsManager.Js.Url
