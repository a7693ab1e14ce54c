import Mathlib.Data.List.Infix

namespace VpsManager

abbrev Aead.Bytes := List UInt8

open Aead (Bytes)

structure Aead where
  nonceSize : Nat
  overhead : Nat
  sealed (key nonce plaintext aad : Bytes) : Bytes
  opened (key nonce ciphertext aad : Bytes) : Option Bytes
  /-- A ciphertext holds at least a tag. -/
  overhead_le : ∀ key nonce plaintext aad,
    overhead ≤ (sealed key nonce plaintext aad).length
  opened_sealed : ∀ key nonce plaintext aad,
    opened key nonce (sealed key nonce plaintext aad) aad = some plaintext
  authentic : ∀ key nonce plaintext aad other found,
    opened key nonce (sealed key nonce plaintext aad) other = some found → other = aad

namespace Aead

theorem opened_sealed_iff (aead : Aead) (key nonce plaintext aad other found : Bytes) :
    aead.opened key nonce (aead.sealed key nonce plaintext aad) other = some found ↔
      other = aad ∧ found = plaintext := by
  constructor
  · intro success
    obtain rfl := aead.authentic _ _ _ _ _ _ success
    rw [aead.opened_sealed] at success
    exact ⟨rfl, (Option.some.inj success).symm⟩
  · rintro ⟨rfl, rfl⟩
    exact aead.opened_sealed _ _ _ _

/-- The associated data, with a mark before each byte and one at the end. -/
def frame : Bytes → Bytes
  | [] => [0]
  | b :: rest => 1 :: b :: frame rest

/-- No frame begins another. -/
theorem frame_inj {one other rest : Bytes} (leads : frame one <+: frame other ++ rest) :
    one = other := by
  induction one generalizing other with
  | nil =>
    cases other with
    | nil => rfl
    | cons _ _ => simp [frame, List.cons_prefix_cons] at leads
  | cons b one ih =>
    cases other with
    | nil => simp [frame, List.cons_prefix_cons] at leads
    | cons c other =>
      simp only [frame, List.cons_append, List.cons_prefix_cons, true_and] at leads
      rw [leads.1, ih leads.2]

def framed (nonceSize : Nat) : Aead where
  nonceSize := nonceSize
  overhead := 1
  sealed _ _ plaintext aad := frame aad ++ plaintext
  opened _ _ ciphertext aad :=
    if frame aad <+: ciphertext then some (ciphertext.drop (frame aad).length) else none
  overhead_le _ _ _ aad := by
    cases aad <;> simp only [frame, List.cons_append, List.length_cons] <;> omega
  opened_sealed _ _ plaintext aad := by
    rw [if_pos (List.prefix_append _ _), List.drop_left]
  authentic _ _ plaintext aad other found success := by
    split at success
    · rename_i leads
      exact frame_inj leads
    · cases success

end Aead

end VpsManager
