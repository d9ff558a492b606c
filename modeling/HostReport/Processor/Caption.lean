import HostReport.Storage.Size
import HostReport.Text.Search

/-!
# Captions of processors

The model with its clock, and the sizes of the caches.
-/

namespace HostReport

/-- A model followed by its clock, unless the model names a frequency itself or one of the two is
unknown. -/
def withClock (model clock : String) (unit : String := "MHz") : String :=
  if model.isEmpty || clock.isEmpty || model.toList.contains '@' then model
  else s!"{model} @ {clock} {unit}"

/-- The size of a cache in whole units. -/
def cacheText (name : String) (bytes : Int) : Except Fault String := do
  let (unit, n) := wholeUnit bytes
  return s!"{name}: {← integerText n} {unit}"

/-- The sizes of the caches, the first level taken together; empty unless all are known. -/
def cachesText : (l1d l1i l2 l3 : Option Int) → Except Fault String
  | some l1d, some l1i, some l2, some l3 => do
    let l1 ← cacheText "L1" (l1d + l1i)
    let l2 ← cacheText "L2" l2
    let l3 ← cacheText "L3" l3
    return s!"{l1} / {l2} / {l3}"
  | _, _, _, _ => .ok ""

end HostReport
