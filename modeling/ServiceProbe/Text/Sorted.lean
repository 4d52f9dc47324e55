/-!
The order of texts: by code point, which is also the order of their UTF-8 bytes.
-/

namespace ServiceProbe.Text

def sorted (texts : List String) : List String :=
  texts.mergeSort fun s t => decide (s ≤ t)

theorem sorted_perm (texts : List String) : (sorted texts).Perm texts :=
  List.mergeSort_perm _ _

theorem mem_sorted {s : String} {texts : List String} : s ∈ sorted texts ↔ s ∈ texts :=
  (sorted_perm texts).mem_iff

end ServiceProbe.Text
