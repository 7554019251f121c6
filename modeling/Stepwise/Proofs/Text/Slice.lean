import Stepwise.Proofs.Text.Truncate

namespace Stepwise.Text

theorem byteCount_eq (cs : List Char) : byteCount cs = (encode cs).length := by
  induction cs with
  | nil => rfl
  | cons c cs ih => rw [byteCount, encode_cons, List.length_append, length_encodeChar, ih]

theorem byteCount_append (cs ds : List Char) :
    byteCount (cs ++ ds) = byteCount cs + byteCount ds := by
  rw [byteCount_eq, encode_append, List.length_append, byteCount_eq, byteCount_eq]

-- The text between two places in its bytes. `none` stands for a slice that cannot be taken: a place
-- inside a character or behind the end, or the later place first.
def slice? (cs : List Char) (first last : Nat) : Option (List Char) :=
  let bytes := encode cs
  if first ≤ last ∧ isBoundary bytes first ∧ isBoundary bytes last then
    decode? ((bytes.take last).drop first)
  else none

theorem isBoundary_append (front back : List Char) :
    isBoundary (encode (front ++ back)) (byteCount front) = true :=
  isBoundary_encode_iff.2 ⟨front, List.prefix_append front back, (byteCount_eq front).symm⟩

theorem slice?_append (front ds back : List Char) :
    slice? (front ++ ds ++ back) (byteCount front) (byteCount (front ++ ds)) = some ds := by
  have hle : byteCount front ≤ byteCount (front ++ ds) := by
    rw [byteCount_append]
    exact Nat.le_add_right _ _
  have hfirst : isBoundary (encode (front ++ ds ++ back)) (byteCount front) = true := by
    rw [List.append_assoc]
    exact isBoundary_append front (ds ++ back)
  have htake : (encode (front ++ ds ++ back)).take (byteCount (front ++ ds)) =
      encode (front ++ ds) := by
    rw [encode_append, byteCount_eq, List.take_left]
  have hdrop : (encode (front ++ ds)).drop (byteCount front) = encode ds := by
    rw [encode_append, byteCount_eq, List.drop_left]
  rw [slice?, if_pos ⟨hle, hfirst, isBoundary_append (front ++ ds) back⟩, htake, hdrop,
    decode?_encode]

theorem slice?_front (front back : List Char) :
    slice? (front ++ back) 0 (byteCount front) = some front := slice?_append [] front back

theorem slice?_back (front back : List Char) :
    slice? (front ++ back) (byteCount front) (byteCount (front ++ back)) = some back := by
  have hslice := slice?_append front back []
  rwa [List.append_nil] at hslice

end Stepwise.Text
