import Mathlib.Data.List.Basic

/-!
# Bytes

Byte strings, as the lists of their bytes.
-/

namespace Trustmee

/-- `Vec<u8>`. -/
abbrev Bytes := List UInt8

end Trustmee
