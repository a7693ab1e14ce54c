import Mathlib.Data.List.Nodup
import Mathlib.Order.Lattice

namespace VpsManager.Paging

variable {ε α κ : Type}

/-- The records of all pages from page `n` on. Each page is read in the state of its time;
there is no result if the fuel does not reach an empty page. -/
def collect (page : Nat → Option α → Except ε (List α)) :
    Nat → Nat → Option α → Option (Except ε (List α))
  | 0, _, _ => none
  | fuel + 1, n, cursor =>
    match page n cursor with
    | .error failure => some (.error failure)
    | .ok items =>
      match items.getLast? with
      | none => some (.ok [])
      | some last => (collect page fuel (n + 1) (some last)).map (Except.map (items ++ ·))

/-- Sorted so that no record is less than an earlier one. -/
def sorted (less : α → α → Bool) (records : List α) : List α :=
  records.mergeSort fun one other => !less other one

theorem perm_sorted (less : α → α → Bool) (records : List α) :
    (sorted less records).Perm records :=
  List.mergeSort_perm records _

theorem mem_sorted {less : α → α → Bool} {records : List α} {record : α} :
    record ∈ sorted less records ↔ record ∈ records :=
  (perm_sorted less records).mem_iff

section Ranks

variable [LinearOrder κ] {rank : α → κ} {less : α → α → Bool} {records others : List α}

theorem pairwise_sorted (byRank : ∀ one other, less one other = decide (rank one < rank other))
    (distinct : (records.map rank).Nodup) :
    (sorted less records).Pairwise fun one other => rank one < rank other := by
  have weakly : (sorted less records).Pairwise fun one other => rank one ≤ rank other := by
    have ordered : (sorted less records).Pairwise fun one other => (!less other one) = true := by
      apply List.pairwise_mergeSort
      · intro a b c
        simp only [byRank, Bool.not_eq_true', decide_eq_false_iff_not, not_lt]
        exact le_trans
      · intro a b
        simp only [byRank, Bool.or_eq_true, Bool.not_eq_true', decide_eq_false_iff_not, not_lt]
        exact le_total (rank a) (rank b)
    refine ordered.imp fun {one other} => ?_
    simp only [byRank, Bool.not_eq_true', decide_eq_false_iff_not, not_lt, imp_self]
  have apart : (sorted less records).Pairwise fun one other => rank one ≠ rank other :=
    List.pairwise_map.mp (((perm_sorted less records).map rank).nodup_iff.mpr distinct)
  exact (weakly.and apart).imp fun both => lt_of_le_of_ne both.1 both.2

/-- Records of different ranks have one order only, so that nothing depends on how they are
sorted. -/
theorem eq_sorted (byRank : ∀ one other, less one other = decide (rank one < rank other))
    (ordered : others.Pairwise fun one other => rank one < rank other)
    (perm : others.Perm records) : others = sorted less records := by
  have distinct : (records.map rank).Nodup := by
    rw [← (perm.map rank).nodup_iff]
    exact List.pairwise_map.mpr (ordered.imp ne_of_lt)
  refine (perm.trans (perm_sorted less records).symm).eq_of_pairwise ?_ ordered
    (pairwise_sorted byRank distinct)
  intro one other _ _ below above
  exact absurd above (lt_asymm below)

theorem sorted_filter (byRank : ∀ one other, less one other = decide (rank one < rank other))
    (distinct : (records.map rank).Nodup) (keep : α → Bool) :
    sorted less (records.filter keep) = (sorted less records).filter keep := by
  refine (eq_sorted byRank ?_ ?_).symm
  · exact (pairwise_sorted byRank distinct).filter keep
  · exact (perm_sorted less records).filter keep

/-- The records after one of an ordered list are those behind it. -/
theorem filter_after {front rest : List α} {last : α}
    (ordered : (front ++ last :: rest).Pairwise fun one other => rank one < rank other) :
    (front ++ last :: rest).filter (fun record => decide (rank last < rank record)) = rest := by
  obtain ⟨-, behind, before⟩ := List.pairwise_append.mp ordered
  have after := (List.pairwise_cons.mp behind).1
  have none : front.filter (fun record => decide (rank last < rank record)) = [] := by
    refine List.filter_eq_nil_iff.mpr fun record inside => ?_
    have earlier := before record inside last List.mem_cons_self
    simpa using le_of_lt earlier
  have all : rest.filter (fun record => decide (rank last < rank record)) = rest :=
    List.filter_eq_self.mpr fun record inside => decide_eq_true (after record inside)
  rw [List.filter_append, none, List.nil_append, List.filter_cons_of_neg (by simp), all]

section Reading

variable {page : Nat → Option α → Except ε (List α)} {limit : Nat} {whole : List α}

/-- A page is read and then what is behind its last record. -/
theorem collect_page (some' : 0 < limit) {fuel n : Nat} {cursor : Option α} {rest : List α}
    (read : page n cursor = .ok (rest.take limit)) (enough : rest.length < fuel + 1)
    (later : ∀ items final, items ++ final :: rest.drop limit = rest →
      (rest.drop limit).length < fuel →
      collect page fuel (n + 1) (some final) = some (.ok (rest.drop limit))) :
    collect page (fuel + 1) n cursor = some (.ok rest) := by
  rcases List.eq_nil_or_concat (rest.take limit) with empty | ⟨items, final, filled⟩
  · have done : rest = [] := by
      rcases List.take_eq_nil_iff.mp empty with none | done
      · omega
      · exact done
    rw [empty] at read
    simp only [collect, read, List.getLast?_nil, done]
  · rw [List.concat_eq_append] at filled
    have parts : items ++ final :: rest.drop limit = rest := by
      rw [← List.singleton_append, ← List.append_assoc, ← filled, List.take_append_drop]
    have shorter : (rest.drop limit).length < fuel := by
      have sized := congrArg List.length parts
      rw [List.length_append, List.length_cons] at sized
      omega
    have last? : (rest.take limit).getLast? = some final := by
      rw [filled, List.getLast?_concat]
    simp only [collect, read, last?, later items final parts shorter, Option.map_some, Except.map,
      List.take_append_drop]

/-- After a page that ends within an ordered list the rest of the list is read. -/
theorem collect_rest (some' : 0 < limit)
    (ordered : whole.Pairwise fun one other => rank one < rank other)
    (next : ∀ n, ∀ cursor ∈ whole, page n (some cursor) =
      .ok ((whole.filter fun record => decide (rank cursor < rank record)).take limit))
    {fuel n : Nat} {front rest : List α} {last : α} (split : front ++ last :: rest = whole)
    (enough : rest.length < fuel) :
    collect page fuel n (some last) = some (.ok rest) := by
  induction fuel generalizing n front rest last with
  | zero => omega
  | succ fuel ih =>
    have read : page n (some last) = .ok (rest.take limit) := by
      rw [next n last (by simp [← split]), ← split, filter_after (by rwa [split])]
    refine collect_page some' read enough fun items final parts shorter => ?_
    have again : (front ++ last :: items) ++ final :: rest.drop limit = whole := by
      rw [List.append_assoc, List.cons_append, parts, split]
    exact ih again shorter

/-- An ordered list is read as a whole if every page has the records behind its cursor. -/
theorem collect_eq (some' : 0 < limit)
    (ordered : whole.Pairwise fun one other => rank one < rank other)
    (first : page 0 none = .ok (whole.take limit))
    (next : ∀ n, ∀ cursor ∈ whole, page n (some cursor) =
      .ok ((whole.filter fun record => decide (rank cursor < rank record)).take limit))
    {fuel : Nat} (enough : whole.length < fuel) :
    collect page fuel 0 none = some (.ok whole) := by
  cases fuel with
  | zero => omega
  | succ fuel =>
    refine collect_page some' first enough fun items final parts shorter => ?_
    exact collect_rest some' ordered next parts shorter

end Reading

end Ranks

end VpsManager.Paging
