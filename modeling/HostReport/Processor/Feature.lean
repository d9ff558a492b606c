import HostReport.Text.Entry
import HostReport.Text.Letter
import HostReport.Text.Scan
import HostReport.Text.Digit

/-!
# Features of processors

Whether a processor has instructions for AES and supports virtual machines, as listings of kernel
variables tell it.
-/

namespace HostReport

/-- Whether a processor has instructions for AES, and whether it supports virtual machines. -/
structure ProcessorFeatures where
  aes : Bool
  virtualization : Bool
  deriving DecidableEq, Repr

namespace ProcessorFeatures

open Text

/-- A variable of this name, set to a number. -/
def setVariable (name : String) : Scan Unit := do
  Scan.word name
  let _ ← Scan.blanks
  Scan.word "="
  let _ ← Scan.blanks
  let _ ← Scan.one isDecimal

/-- Whether a number is assigned to the variable somewhere in a listing. -/
def isSet (name : String) (listing : List Char) : Bool :=
  (Scan.findFirst (setVariable name) listing).isSome

/-- Whether a description is given for the first AES device: some character but a line feed follows
its heading. -/
def hasAesDevice (listing : List Char) : Bool :=
  match after? "dev.aesni.0.%desc:".toList listing with
  | some rest => rest.any (· ≠ '\n')
  | none => false

/-- Reads a listing of variables with equals signs. -/
def ofAssignments (listing : String) : ProcessorFeatures where
  aes := isSet "crypto.aesni" listing.toList || hasAesDevice listing.toList
  virtualization := isSet "hw.vmx" listing.toList || isSet "hw.svm" listing.toList

/-- Whether a word in either case is the one in capitals. -/
def isWord (capitals : String) (word : List Char) : Bool :=
  word.length = capitals.length && (capitals.toList.zip word).all fun p => capitalIs p.1 p.2

/-- Whether an entry lists features, among them one by its name in capitals. -/
def listsFeature (feature : String) (e : String × String) : Bool :=
  (e.1 = "machdep.cpu.features" || e.1 = "machdep.cpu.leaf7_features") &&
    (words e.2.toList).any (isWord feature)

/-- Reads a listing of variables with colons. -/
def ofEntries (listing : String) : ProcessorFeatures :=
  let entries := entriesOf ':' listing
  let isOn (key : String) := entries.any fun e => e.1 = key && e.2 = "1"
  { aes := entries.any (listsFeature "AES") || isOn "hw.optional.arm.FEAT_AES"
    virtualization := entries.any (listsFeature "VMX") || isOn "kern.hv_support" }

end ProcessorFeatures

end HostReport
