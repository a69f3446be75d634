import NodeBridge.EndToEnd.Device
import NodeBridge.Web.Reload

/-!
# The page and the device

The form as a user sees it: saved once, then reloaded and saved again without edits, while other
requests and restarts go on.  What comes back is the form as it was saved, and the configuration
that the device works with stays the one it asks for.
-/

open Reasoning

namespace NodeBridge

section

variable {ρ σ : Type} [DecidableEq ρ] [Inhabited σ] {parse : CString → Option Json}
  {stray : DeviceCommand → Host σ → Host σ} {charSigned : Bool}

variable {stringify : JsValue → String} {jsonParse : String → Option JsValue} {form : Form}

end

/-! ## A form with a unit -/

end NodeBridge
