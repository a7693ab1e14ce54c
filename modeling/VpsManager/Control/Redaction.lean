import VpsManager.Control.AuditList

namespace VpsManager.Control

open Go Critical Store.Memory

mutual

/-- Two values that differ only in what stands under sensitive keys. -/
inductive Alike : Value → Value → Prop
  | nil : Alike .nil .nil
  | scalar (value : Scalar) : Alike (.scalar value) (.scalar value)
  | bytes (raw : Bytes) : Alike (.bytes raw) (.bytes raw)
  | slice {items others : List Value} (each : AlikeItems items others) :
      Alike (.slice items) (.slice others)
  | map {entries others : List (String × Value)} (each : AlikeEntries entries others) :
      Alike (.map entries) (.map others)
  | otherMap : Alike .otherMap .otherMap
  | nilPointer : Alike (.pointer none) (.pointer none)
  | pointer {target other : Value} (same : Alike target other) :
      Alike (.pointer (some target)) (.pointer (some other))

inductive AlikeItems : List Value → List Value → Prop
  | nil : AlikeItems [] []
  | cons {item other : Value} {items others : List Value} (first : Alike item other)
      (rest : AlikeItems items others) : AlikeItems (item :: items) (other :: others)

inductive AlikeEntries : List (String × Value) → List (String × Value) → Prop
  | nil : AlikeEntries [] []
  | hidden {key : String} (sensitive : sensitiveKey key = true) (value other : Value)
      {entries others : List (String × Value)} (rest : AlikeEntries entries others) :
      AlikeEntries ((key, value) :: entries) ((key, other) :: others)
  | shown (key : String) {value other : Value} {entries others : List (String × Value)}
      (same : Alike value other) (rest : AlikeEntries entries others) :
      AlikeEntries ((key, value) :: entries) ((key, other) :: others)

end

/-- The same for the details of an event, which may be absent. -/
inductive AlikeDetails : Details → Details → Prop
  | none : AlikeDetails none none
  | some {entries others : List (String × Value)} (each : AlikeEntries entries others) :
      AlikeDetails (some entries) (some others)

mutual

theorem sanitizeValue_alike (depth : Nat) :
    ∀ {value other : Value}, Alike value other →
      sanitizeValue depth value = sanitizeValue depth other
  | _, _, .nil => rfl
  | _, _, .scalar _ => rfl
  | _, _, .bytes _ => rfl
  | _, _, .otherMap => rfl
  | _, _, .nilPointer => rfl
  | _, _, .slice each => by
    rw [sanitizeValue, sanitizeValue, sanitizeItems_alike (depth + 1) each]
  | _, _, .map each => by
    rw [sanitizeValue, sanitizeValue, sanitizeEntries_alike (depth + 1) each]
  | _, _, .pointer same => by
    rw [sanitizeValue, sanitizeValue, sanitizeValue_alike (depth + 1) same]

theorem sanitizeItems_alike (depth : Nat) :
    ∀ {items others : List Value}, AlikeItems items others →
      sanitizeItems depth items = sanitizeItems depth others
  | _, _, .nil => rfl
  | _, _, .cons first rest => by
    rw [sanitizeItems, sanitizeItems, sanitizeValue_alike depth first,
      sanitizeItems_alike depth rest]

theorem sanitizeEntries_alike (depth : Nat) :
    ∀ {entries others : List (String × Value)}, AlikeEntries entries others →
      sanitizeEntries depth entries = sanitizeEntries depth others
  | _, _, .nil => rfl
  | _, _, .hidden sensitive value other rest => by
    rw [sanitizeEntries, sanitizeEntries, if_pos sensitive, if_pos sensitive,
      sanitizeEntries_alike depth rest]
  | _, _, .shown key same rest => by
    rw [sanitizeEntries, sanitizeEntries, sanitizeValue_alike depth same,
      sanitizeEntries_alike depth rest]

end

/-- Details that differ only under sensitive keys are sanitized to the same; sanitizing that
again changes nothing, so that an event is listed with its details sanitized once. -/
theorem redaction_hides_and_is_stable {details other : Details}
    (alike : AlikeDetails details other) :
    sanitizeDetails details = sanitizeDetails other ∧
      sanitizeDetails ((sanitizeDetails details).map entriesToValue) = sanitizeDetails details ∧
      ∀ (m : Store.Memory) (event : AuditEvent), event.details = details →
        (outcome (listAudits 1) (leaves (appendAudit event) m)).1 =
          .ok [{ event with details := (sanitizeDetails details).map entriesToValue }] := by
  refine ⟨?_, sanitizeDetails_again details, ?_⟩
  · cases alike with
    | none => rfl
    | some each => exact congrArg some (sanitizeEntries_alike 0 each)
  · rintro m event rfl
    have listed : (outcome (listAudits 1) (leaves (appendAudit event) m)).1 =
        .ok (((m.audits ++ [cloneAudit event]).reverse.take 1).map cloneAudit) := rfl
    rw [listed, List.reverse_append, List.reverse_singleton, List.singleton_append,
      List.take_succ_cons, List.take_zero, List.map_singleton, cloneAudit_again]
    rfl

theorem token_hidden :
    AlikeDetails (some [("hostId", .scalar (.string "host_1")), ("token", .scalar (.string "t"))])
        (some [("hostId", .scalar (.string "host_1")), ("token", .map [("value", .nil)])]) ∧
      sanitizeDetails
          (some [("hostId", .scalar (.string "host_1")), ("token", .scalar (.string "t"))]) =
        sanitizeDetails
          (some [("hostId", .scalar (.string "host_1")), ("token", .map [("value", .nil)])]) := by
  have alike : AlikeDetails
      (some [("hostId", .scalar (.string "host_1")), ("token", .scalar (.string "t"))])
      (some [("hostId", .scalar (.string "host_1")), ("token", .map [("value", .nil)])]) :=
    .some (.shown _ (.scalar _) (.hidden (by decide) _ _ .nil))
  exact ⟨alike, (redaction_hides_and_is_stable alike).1⟩

end VpsManager.Control
