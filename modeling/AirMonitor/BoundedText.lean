namespace AirMonitor

structure BoundedText (capacity : Nat) where
  text : String := ""
  size_le : text.utf8ByteSize ≤ capacity := by simp

namespace BoundedText

variable {capacity : Nat}

def push? (bounded : BoundedText capacity) (piece : String) : Option (BoundedText capacity) :=
  if h : (bounded.text ++ piece).utf8ByteSize ≤ capacity then some ⟨bounded.text ++ piece, h⟩
  else none

/-- Appends pieces up to the first one that does not fit, which ends it all. -/
def pushAll? (bounded : BoundedText capacity) (pieces : List String) :
    Option (BoundedText capacity) :=
  pieces.foldlM push? bounded

theorem text_pushAll? (bounded : BoundedText capacity) (pieces : List String) :
    (bounded.pushAll? pieces).map text =
      if (bounded.text ++ String.join pieces).utf8ByteSize ≤ capacity then
        some (bounded.text ++ String.join pieces)
      else none := by
  induction pieces generalizing bounded with
  | nil =>
    rw [String.join_nil, String.append_empty, if_pos bounded.size_le]
    rfl
  | cons piece pieces ih =>
    rw [String.join_cons, ← String.append_assoc]
    by_cases hfits : (bounded.text ++ piece).utf8ByteSize ≤ capacity
    · rw [← ih ⟨_, hfits⟩]
      simp only [pushAll?, List.foldlM_cons, push?, hfits, ↓reduceDIte]
      rfl
    · have hsize : ¬(bounded.text ++ piece ++ String.join pieces).utf8ByteSize ≤ capacity := by
        rw [String.utf8ByteSize_append]
        omega
      rw [if_neg hsize]
      simp only [pushAll?, List.foldlM_cons, push?, hfits, ↓reduceDIte]
      rfl

end BoundedText

end AirMonitor
