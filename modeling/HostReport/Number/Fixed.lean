import HostReport.Number.Binary64

/-!
# Numbers with two decimal places

The exact value of a double rounded to hundredths, a value halfway between two going to the even
one, and written with all its integer digits. A minus sign is kept also where the value rounds to
zero.
-/

namespace HostReport

/-- A number of hundredths, with two decimal places. -/
def hundredthsText (hundredths : Nat) : String :=
  let fraction := hundredths % 100
  toString (hundredths / 100) ++ "." ++ (if fraction < 10 then "0" else "") ++ toString fraction

/-- A double with two decimal places. -/
def Binary64.toFixed : Binary64 → String
  | .nan => "nan"
  | .infinite s => (if s then "-" else "") ++ "inf"
  | .finite s u _ =>
    (if s then "-" else "") ++ hundredthsText (roundQuotient (u * 100) unitsPerOne)

end HostReport
