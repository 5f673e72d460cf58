import Mathlib.Data.List.Basic

set_option autoImplicit false

-- A list taken from its front, size elements at a time.
namespace Chunks

variable {α : Type} (size : Nat) (whole : List α)

def chunk (k : Nat) : List α := (whole.drop (size * k)).take size

theorem length_chunk (k : Nat) : (chunk size whole k).length = min size (whole.length - size * k) := by
  rw [chunk, List.length_take, List.length_drop]

theorem chunks_flatten (n : Nat) : (List.range n).flatMap (chunk size whole) = whole.take (size * n) := by
  induction n with
  | zero => rfl
  | succ n ih =>
      rw [List.range_succ, List.flatMap_append, ih, List.flatMap_singleton, chunk, Nat.mul_succ, List.take_add]

end Chunks
