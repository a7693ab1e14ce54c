import Mathlib.Logic.Function.Basic

/- A key-value server whose keys have lifetimes. A key counts as absent from its expiry
on, whether or not its entry has been dropped; each command runs at one instant. -/
namespace VpsManager.Redis

structure Entry where
  value : String
  expires : Int
  deriving DecidableEq, Repr

abbrev Keys := String → Option Entry

namespace Entry

def live (now : Int) (entry : Option Entry) : Option Entry :=
  entry.filter fun found => now < found.expires

theorem live_eq_some {now : Int} {entry : Option Entry} {found : Entry} :
    live now entry = some found ↔ entry = some found ∧ now < found.expires := by
  simp [live]

theorem live_eq_none {now : Int} {entry : Option Entry} :
    live now entry = none ↔ ∀ found, entry = some found → found.expires ≤ now := by
  simp [live]

end Entry

section Commands

variable (keys : Keys) (now : Int) (key : String)

def get : Option String := (Entry.live now (keys key)).map Entry.value

def present : Bool := (Entry.live now (keys key)).isSome

/-- `SET key value PX lifetime`. -/
def set (value : String) (lifetime : Int) : Keys :=
  Function.update keys key (some ⟨value, now + lifetime⟩)

/-- `SET key value PX lifetime NX`. -/
def setNX (value : String) (lifetime : Int) : Bool × Keys :=
  if present keys now key then (false, keys) else (true, set keys now key value lifetime)

/-- Set a new lifetime if the key holds the value. -/
def expireIf (value : String) (lifetime : Int) : Bool × Keys :=
  if get keys now key = some value then (true, set keys now key value lifetime) else (false, keys)

/-- Delete the key if it holds the value. -/
def deleteIf (value : String) : Bool × Keys :=
  if get keys now key = some value then (true, Function.update keys key none) else (false, keys)

end Commands

section Rules

variable {keys : Keys} {now : Int} {key value other at' : String} {lifetime expires : Int}

theorem get_eq_some :
    get keys now key = some value ↔
      ∃ expires, keys key = some ⟨value, expires⟩ ∧ now < expires := by
  simp only [get, Option.map_eq_some_iff, Entry.live_eq_some]
  constructor
  · rintro ⟨⟨_, expires⟩, ⟨found, unexpired⟩, rfl⟩
    exact ⟨expires, found, unexpired⟩
  · rintro ⟨expires, found, unexpired⟩
    exact ⟨_, ⟨found, unexpired⟩, rfl⟩

theorem present_eq_false :
    present keys now key = false ↔ ∀ found, keys key = some found → found.expires ≤ now := by
  rw [present, Option.isSome_eq_false_iff, Option.isNone_iff_eq_none, Entry.live_eq_none]

theorem present_of_held {entry : Entry} (held : keys key = some entry)
    (unexpired : now < entry.expires) : present keys now key = true := by
  rw [present, Entry.live_eq_some.mpr ⟨held, unexpired⟩]
  rfl

theorem setNX_live (held : keys key = some ⟨value, expires⟩) (unexpired : now < expires) :
    (setNX keys now at' other lifetime).2 key = keys key := by
  unfold setNX
  split
  · rfl
  · rename_i absent
    apply Function.update_of_ne
    rintro rfl
    have expired := present_eq_false.mp (Bool.eq_false_iff.mpr absent) _ held
    exact absurd unexpired (Int.not_lt.mpr expired)

theorem ne_of_get (held : keys key = some ⟨value, expires⟩) (differ : other ≠ value)
    (found : get keys now at' = some other) : key ≠ at' := by
  rintro rfl
  obtain ⟨_, stored, -⟩ := get_eq_some.mp found
  cases held.symm.trans stored
  exact differ rfl

theorem expireIf_frame (apart : get keys now at' = some other → key ≠ at') :
    (expireIf keys now at' other lifetime).2 key = keys key := by
  unfold expireIf
  split
  · rename_i found
    exact Function.update_of_ne (apart found) _ _
  · rfl

theorem deleteIf_frame (apart : get keys now at' = some other → key ≠ at') :
    (deleteIf keys now at' other).2 key = keys key := by
  unfold deleteIf
  split
  · rename_i found
    exact Function.update_of_ne (apart found) _ _
  · rfl

theorem setNX_frame (apart : key ≠ at') : (setNX keys now at' other lifetime).2 key = keys key := by
  unfold setNX
  split
  · rfl
  · exact Function.update_of_ne apart _ _

end Rules

end VpsManager.Redis
