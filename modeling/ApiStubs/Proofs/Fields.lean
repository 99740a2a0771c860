import ApiStubs.Stub

/- Reading the fields of a mapping. A field that is there and passes its check is read as what the check makes of
   it; a field that may be left out and is not there is read as what stands for it. -/

set_option autoImplicit false

namespace ApiStubs

section

variable {α : Type} {entries : Entries} {name other : String} {v : Value} {a absent : α}
    {check : Value → Check.Checked α}

namespace Check

theorem required_found (found : entries.get? name = some v) (passes : check v = .ok a) :
    required entries name check = .ok a := by
  simp only [required, found, passes, under]

theorem optional_found (found : entries.get? name = some v) (passes : check v = .ok a) :
    Check.optional entries name absent check = .ok a := by
  simp only [Check.optional, found, passes, under]

theorem optional_absent (missing : entries.get? name = none) :
    Check.optional entries name absent check = .ok absent := by
  simp only [Check.optional, missing]

end Check

namespace Stub

theorem under_either_written {instead : Check.Checked α} (found : entries.get? name = some v)
    (passes : check v = .ok a) : underEither entries name other instead check = .ok a := by
  simp only [underEither, found, passes, Check.under]

theorem under_either_absent {instead : Check.Checked α} (missing : entries.get? name = none)
    (missingOther : entries.get? other = none) : underEither entries name other instead check = instead := by
  simp only [underEither, missing, missingOther]

end Stub

end

end ApiStubs
